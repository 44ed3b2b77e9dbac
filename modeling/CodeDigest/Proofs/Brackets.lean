import CodeDigest.Proofs.Tokens
import Mathlib.Data.List.Induction
import Mathlib.Tactic.SplitIfs

/-! Nested code brackets, read with a stack of the brackets that are due. -/
namespace CodeDigest.Brackets
variable {c d : Char} {t : Token} {ts a b : List Token} {due due' below : List Char}

def closer? (c : Char) : Option Char :=
  if c = '(' then some ')' else if c = '[' then some ']' else if c = '\x7b' then some '\x7d' else none

def isCloser (c : Char) : Bool := c = ')' || c = ']' || c = '\x7d'

/-- Takes a token when some closing brackets are due, the innermost first; none when another
bracket closes. -/
def take? (due : List Char) (t : Token) : Option (List Char) :=
  match t.code? with
  | none => some due
  | some c =>
    match closer? c with
    | some d => some (d :: due)
    | none =>
      if isCloser c then
        match due with
        | [] => none
        | d :: due => if c = d then some due else none
      else some due

def due? (due : List Char) (ts : List Token) : Option (List Char) := ts.foldlM take? due

/-- Every bracket closes what its partner opened, and nothing stays open. -/
def Nested (ts : List Token) : Prop := due? [] ts = some []

instance (ts : List Token) : Decidable (Nested ts) := by unfold Nested; infer_instance

def IsPlain (t : Token) : Prop := ∀ c, t.code? = some c → closer? c = none ∧ isCloser c = false

def Opens (t : Token) (d : Char) : Prop := ∃ c, t.code? = some c ∧ closer? c = some d

theorem closer?_isSome (c : Char) :
    (closer? c).isSome = (c = '(' || c = '[' || c = '\x7b') := by
  unfold closer?
  split_ifs <;> simp_all

theorem closer?_eq_brace_iff : closer? c = some '\x7d' ↔ c = '\x7b' := by
  unfold closer?
  split_ifs <;> simp_all

theorem isCloser_of_closer? (h : closer? c = some d) : isCloser d = true ∧ isCloser c = false := by
  unfold closer? at h
  split_ifs at h with h1 h2 h3 <;> (cases h; subst c; decide)

theorem closer?_of_isCloser (h : isCloser c = true) : closer? c = none := by
  cases hc : closer? c with
  | none => rfl
  | some d =>
    rw [(isCloser_of_closer? hc).2] at h
    cases h

theorem isBlank_of_isCloser (h : isCloser c = true) : CharClass.isBlank c = false := by
  simp only [isCloser, Bool.or_eq_true, decide_eq_true_eq] at h
  obtain (rfl | rfl) | rfl := h <;> decide

theorem isBlank_of_closer? (h : closer? c = some d) : CharClass.isBlank c = false := by
  unfold closer? at h
  split_ifs at h with h1 h2 h3 <;> (subst c; decide)

/-- What a token does: it is no bracket, opens one, or closes the one that is due. -/
theorem take?_eq_some (h : take? due t = some due') :
    (IsPlain t ∧ due' = due) ∨ (∃ d, Opens t d ∧ due' = d :: due) ∨
      ∃ d, t.code? = some d ∧ isCloser d = true ∧ due = d :: due' := by
  unfold take? at h
  split at h
  · next hc =>
    cases h
    exact .inl ⟨fun c h => by simp [hc] at h, rfl⟩
  · next c hc =>
    split at h
    · next d hd =>
      cases h
      exact .inr (.inl ⟨d, ⟨c, hc, hd⟩, rfl⟩)
    · next hd =>
      split_ifs at h with hcl
      · split at h
        · cases h
        · split_ifs at h with he
          subst he
          cases h
          exact .inr (.inr ⟨c, hc, hcl, rfl⟩)
      · cases h
        refine .inl ⟨fun x hx => ?_, rfl⟩
        obtain rfl : c = x := Option.some.inj (hc.symm.trans hx)
        exact ⟨hd, by simpa using hcl⟩

theorem take?_of_isPlain (h : IsPlain t) (due : List Char) : take? due t = some due := by
  unfold take?
  cases hc : t.code? with
  | none => rfl
  | some c =>
    obtain ⟨ho, hcl⟩ := h c hc
    simp [ho, hcl]

theorem take?_of_opens (h : Opens t d) (due : List Char) : take? due t = some (d :: due) := by
  obtain ⟨c, hc, hd⟩ := h
  simp [take?, hc, hd]

theorem take?_of_closes (hc : t.code? = some d) (hd : isCloser d = true) (due : List Char) :
    take? (d :: due) t = some due := by
  simp [take?, hc, closer?_of_isCloser hd, hd]

@[simp] theorem due?_nil (due : List Char) : due? due [] = some due := rfl

theorem due?_cons (due : List Char) (t : Token) (ts : List Token) :
    due? due (t :: ts) = (take? due t).bind (due? · ts) := rfl

theorem due?_append (due : List Char) (a b : List Token) :
    due? due (a ++ b) = (due? due a).bind (due? · b) := List.foldlM_append

theorem due?_snoc (due : List Char) (ts : List Token) (t : Token) :
    due? due (ts ++ [t]) = (due? due ts).bind (take? · t) := by
  rw [due?_append]
  congr 1
  funext due
  rw [due?_cons]
  exact Option.bind_fun_some _

/-- A token of some tokens and one more is the last, or one of those before it. -/
theorem exists_split_snoc {P : List Token → Token → List Token → Prop} :
    (∃ a x b, ts ++ [t] = a ++ x :: b ∧ P a x b) ↔
      P ts t [] ∨ ∃ a x b, ts = a ++ x :: b ∧ P a x (b ++ [t]) := by
  constructor
  · rintro ⟨a, x, b, h, hp⟩
    cases b using List.reverseRecOn with
    | nil =>
      obtain ⟨rfl, he⟩ := List.append_inj' h rfl
      cases he
      exact .inl hp
    | append_singleton b y =>
      rw [← List.cons_append, ← List.append_assoc] at h
      obtain ⟨he, ht⟩ := List.append_inj' h rfl
      cases ht
      exact .inr ⟨a, x, b, he, hp⟩
  · rintro (h | ⟨a, x, b, rfl, h⟩)
    · exact ⟨ts, t, [], rfl, h⟩
    · exact ⟨a, x, b ++ [t], by simp, h⟩

/-- The brackets that are due below are left alone. -/
theorem due?_append_below (h : due? due ts = some due') (below : List Char) :
    due? (due ++ below) ts = some (due' ++ below) := by
  induction ts generalizing due with
  | nil =>
    cases h
    rfl
  | cons t ts ih =>
    rw [due?_cons, Option.bind_eq_some_iff] at h ⊢
    obtain ⟨next, ht, h⟩ := h
    refine ⟨next ++ below, ?_, ih h⟩
    obtain ⟨hp, rfl⟩ | ⟨d, ho, rfl⟩ | ⟨d, hc, hd, rfl⟩ := take?_eq_some ht
    · exact take?_of_isPlain hp _
    · exact take?_of_opens ho _
    · exact take?_of_closes hc hd _

theorem Nested.due?_eq (h : Nested ts) (due : List Char) : due? due ts = some due := by
  simpa using due?_append_below h due

theorem Nested.append (ha : Nested a) (hb : Nested b) : Nested (a ++ b) := by
  rw [Nested, due?_append, ha, Option.bind_some, hb]

theorem Nested.of_isPlain (h : IsPlain t) : Nested [t] := by
  rw [Nested, due?_cons, take?_of_isPlain h]
  rfl

theorem Nested.group {o close : Token} (ho : Opens o d) (h : Nested ts)
    (hc : close.code? = some d) : Nested (o :: (ts ++ [close])) := by
  obtain ⟨c, -, hcd⟩ := id ho
  rw [Nested, due?_cons, take?_of_opens ho, Option.bind_some, due?_append, h.due?_eq,
    Option.bind_some, due?_cons, take?_of_closes hc (isCloser_of_closer? hcd).1]
  rfl

/-- A bracket that is due closes, if in the end none is due. -/
theorem exists_close (h : due? (due ++ [d]) ts = some []) :
    ∃ inner close rest, ts = inner ++ close :: rest ∧ due? due inner = some [] ∧
      close.code? = some d ∧ Nested rest := by
  induction ts generalizing due with
  | nil => simp at h
  | cons t ts ih =>
    rw [due?_cons, Option.bind_eq_some_iff] at h
    obtain ⟨next, ht, h⟩ := h
    obtain ⟨hp, rfl⟩ | ⟨e, ho, rfl⟩ | ⟨e, hc, he, hdue⟩ := take?_eq_some ht
    · obtain ⟨inner, close, rest, rfl, hi, hc, hr⟩ := ih h
      refine ⟨t :: inner, close, rest, rfl, ?_, hc, hr⟩
      rwa [due?_cons, take?_of_isPlain hp]
    · rw [← List.cons_append] at h
      obtain ⟨inner, close, rest, rfl, hi, hc, hr⟩ := ih h
      refine ⟨t :: inner, close, rest, rfl, ?_, hc, hr⟩
      rwa [due?_cons, take?_of_opens ho]
    · cases due with
      | nil =>
        obtain ⟨rfl, rfl⟩ := List.cons_eq_cons.mp hdue
        exact ⟨[], t, ts, rfl, rfl, hc, h⟩
      | cons x due =>
        obtain ⟨rfl, rfl⟩ := List.cons_eq_cons.mp hdue
        obtain ⟨inner, close, rest, rfl, hi, hc', hr⟩ := ih h
        refine ⟨t :: inner, close, rest, rfl, ?_, hc', hr⟩
        rwa [due?_cons, take?_of_closes hc he]

/-- A bracket that is due was opened, and all that opened behind it closed again. -/
theorem exists_open (h : due? [] ts = some (d :: below)) :
    ∃ before o inner, ts = before ++ o :: inner ∧ due? [] before = some below ∧ Opens o d ∧
      Nested inner := by
  induction hn : ts.length using Nat.strongRecOn generalizing ts d below with
  | ind n ih =>
    subst hn
    cases ts using List.reverseRecOn with
    | nil => simp at h
    | append_singleton ts t =>
      rw [due?_snoc, Option.bind_eq_some_iff] at h
      obtain ⟨due, hd, ht⟩ := h
      obtain ⟨hp, rfl⟩ | ⟨e, ho, he⟩ | ⟨e, hc, he, rfl⟩ := take?_eq_some ht
      · obtain ⟨before, o, inner, rfl, hb, ho, hi⟩ := ih _ (by simp) hd rfl
        exact ⟨before, o, inner ++ [t], by simp, hb, ho, hi.append (.of_isPlain hp)⟩
      · obtain ⟨rfl, rfl⟩ := List.cons_eq_cons.mp he
        exact ⟨ts, t, [], rfl, hd, ho, rfl⟩
      · -- The group that `t` closes stands inside the one looked for.
        obtain ⟨middle, o', inner', rfl, hm, ho', hi'⟩ := ih _ (by simp) hd rfl
        obtain ⟨before, o, inner, rfl, hb, ho, hi⟩ := ih _ (by simp) hm rfl
        exact ⟨before, o, inner ++ o' :: (inner' ++ [t]), by simp, hb, ho,
          hi.append (.group ho' hi' hc)⟩

/-- Tokens that end with a closing bracket end with a group. -/
theorem exists_lastGroup {close : Token} (h : Nested ts) (hl : ts.getLast? = some close)
    (hc : close.code? = some d) (hd : isCloser d = true) :
    ∃ before o inner, ts = before ++ o :: (inner ++ [close]) ∧ Nested before ∧ Opens o d ∧
      Nested inner := by
  obtain ⟨ts, rfl⟩ := List.getLast?_eq_some_iff.mp hl
  rw [Nested, due?_snoc, Option.bind_eq_some_iff] at h
  obtain ⟨due, hdue, ht⟩ := h
  obtain ⟨hp, -⟩ | ⟨e, -, he⟩ | ⟨e, hc', -, rfl⟩ := take?_eq_some ht
  · rw [(hp d hc).2] at hd
    cases hd
  · cases he
  · obtain rfl := Option.some.inj (hc.symm.trans hc')
    obtain ⟨before, o, inner, rfl, hb, ho, hi⟩ := exists_open hdue
    exact ⟨before, o, inner, by simp, hb, ho, hi⟩

/-- A token outside all brackets opens the last group or stands before it. -/
theorem outside_lastGroup {before inner : List Token} {o close : Token} (ho : Opens o d)
    (hb : Nested before) (hi : Nested inner)
    (h : before ++ o :: (inner ++ [close]) = a ++ t :: b) (ha : Nested a) :
    (∃ b', before = a ++ t :: b') ∨ (a = before ∧ t = o) := by
  obtain ⟨m, rfl, hm⟩ | ⟨m, rfl, hm⟩ := List.append_eq_append_iff.mp h
  · cases m with
    | nil =>
      obtain ⟨rfl, -⟩ := List.cons_eq_cons.mp hm
      exact .inr ⟨List.append_nil _, rfl⟩
    | cons x m =>
      -- Inside the group its closing bracket is due.
      obtain ⟨rfl, hm'⟩ := List.cons_eq_cons.mp hm
      have hinner : inner = m ++ (t :: b).dropLast := by
        simpa [List.dropLast_append_of_ne_nil] using congrArg List.dropLast hm'
      rw [Nested, hinner, due?_append, Option.bind_eq_some_iff] at hi
      obtain ⟨due, hdue, -⟩ := hi
      rw [Nested, due?_append, hb, Option.bind_some, due?_cons, take?_of_opens ho, Option.bind_some,
        ← List.nil_append [d], due?_append_below hdue [d]] at ha
      simp at ha
  · cases m with
    | nil =>
      obtain ⟨rfl, -⟩ := List.cons_eq_cons.mp hm
      exact .inr ⟨(List.append_nil _).symm, rfl⟩
    | cons x m =>
      obtain ⟨rfl, -⟩ := List.cons_eq_cons.mp hm
      exact .inl ⟨m, rfl⟩

end CodeDigest.Brackets
