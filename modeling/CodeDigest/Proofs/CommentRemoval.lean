import CodeDigest.CommentRemoval
import CodeDigest.Proofs.Lookahead
import CodeDigest.Proofs.TokenGrammar
import Mathlib.Data.List.DropRight
import Mathlib.Data.List.Infix

/-! What the removal of comments deletes: the tokens that are to go, and the blanks in front of them. -/
namespace CodeDigest

namespace Lexicon
variable {l : Lexicon} {path s rest text : Text} {c : Char} {kind : Token.Kind}

theorem mem_all_of_forPath? (h : forPath? path = some l) : l ∈ all := by
  obtain ⟨_, -, hfind⟩ := Option.bind_eq_some_iff.mp h
  exact List.mem_of_find?_eq_some hfind

/-- A token that ends in a space or tab is that character, or the line or the text ends behind it. -/
theorem TokenRule.blank_last (hl : l ∈ all) (h : l.TokenRule kind text rest)
    (hc : text.getLast? = some c) (hblank : CommentRemoval.isSpaceOrTab c = true) :
    kind = .code c ∨ ∀ a ∈ rest.head?, a = '\n' := by
  have hne : ∀ b ∈ ['"', '\'', '`'], b ≠ c := by
    rintro b hb rfl
    simp only [List.mem_cons, List.not_mem_nil, or_false] at hb
    rcases hb with rfl | rfl | rfl <;> exact absurd hblank (by decide)
  cases h with
  | lineComment _ _ _ stop => exact .inr stop
  | @blockComment opener closer body _ hb upTo =>
    have hcloser : ∀ l ∈ all, ∀ b ∈ l.blockComment.toList,
        b.2 ≠ [] ∧ ¬b.2.getLast?.any CommentRemoval.isSpaceOrTab := by decide
    cases upTo with
    | @closed before closing after hends _ =>
      obtain rfl : closing = closer := hends
      obtain ⟨hnil, hlast⟩ := hcloser l hl _ (Option.mem_toList.mpr hb)
      rw [← List.append_assoc, List.getLast?_append_of_ne_nil _ hnil] at hc
      rw [hc] at hlast
      exact absurd hblank hlast
    | unclosed _ => exact .inr (by simp)
  | @triple delimiter body _ _ hd upTo =>
    cases upTo with
    | @closed before closing after hends _ =>
      obtain ⟨rfl, -⟩ := hends
      obtain ⟨x, rfl, hx, -⟩ := exists_of_mem_tripleDelimiters hd
      rw [← List.append_assoc, List.getLast?_append_of_ne_nil _ (by simp)] at hc
      exact absurd (Option.some.inj hc) (hne x hx)
    | unclosed _ => exact .inr (by simp)
  | @literal q body _ hopens _ upTo =>
    cases upTo with
    | closed hends _ =>
      cases hends with
      | delimiter _ =>
        rw [← List.cons_append, List.getLast?_concat] at hc
        exact absurd (Option.some.inj hc) (hne _ hopens.delimiter_mem)
      | newline _ _ => exact .inr (by simp)
    | unclosed _ => exact .inr (by simp)
  | code => exact .inl (congrArg _ (Option.some.inj hc))

end Lexicon

namespace CommentRemoval
open Lexicon
variable {l : Lexicon} {content path kept : Text} {depth : Nat} {ms : List (Token × Bool)}
  {t : Token} {ts rest next : List Token}

theorem isSpaceOrTab_iff {c : Char} : isSpaceOrTab c = true ↔ c = ' ' ∨ c = '\t' := by
  simp [isSpaceOrTab]

/-- Whether a token is a space or tab outside comments and literals. -/
def isBlankCode (t : Token) : Bool := t.code?.any isSpaceOrTab

/-- Whether the first of some tokens, each with the verdict whether it goes, is deleted: it goes itself, or
it is a blank and all between it and a token that goes is deleted too. -/
def isDeleted : List (Token × Bool) → Bool
  | [] => false
  | (t, gone) :: ms => gone || isBlankCode t && isDeleted ms

def survivors : List (Token × Bool) → List Token
  | [] => []
  | m :: ms => if isDeleted (m :: ms) then survivors ms else m.1 :: survivors ms

def isOpening (c : Char) : Bool := ['(', '[', '{'].contains c

def isClosing (c : Char) : Bool := [')', ']', '}'].contains c

/-- Whether a token behind others stands in no bracket: whatever part of the text before it ends there has at
least as many closing brackets as opening ones. -/
def isOutside (before : List Token) : Bool :=
  (before.filterMap Token.code?).tails.all fun s => s.countP isOpening ≤ s.countP isClosing

/-- The verdict on a token between judged tokens and the tokens behind it. A comment goes unless it is a
directive, and a triple-quoted literal goes outside brackets when it is a docstring between what is left of
the text before it and the text behind it. -/
def goes (l : Lexicon) (before : List (Token × Bool)) (t : Token) (after : List Token) : Bool :=
  t.isComment && !l.isDirective t.text
    || t.kind == .literal true && isOutside (before.map (·.1))
      && isDocstring l (spelled (survivors before)) (spelled after)

/-- Adds tokens with their verdicts, one by one, to those judged before. -/
def judge (l : Lexicon) (before : List (Token × Bool)) : List Token → List (Token × Bool)
  | [] => before
  | t :: after => judge l (before ++ [(t, goes l before t after)]) after

/-- The tokens of a text, judged. -/
def verdicts (l : Lexicon) (content : Text) : List (Token × Bool) := judge l [] (l.tokens content)

theorem judge_tokens (l : Lexicon) (before : List (Token × Bool)) (ts : List Token) :
    (judge l before ts).map (·.1) = before.map (·.1) ++ ts := by
  induction ts generalizing before with
  | nil => rw [judge, List.append_nil]
  | cons t ts ih =>
    rw [judge, ih, List.map_append, List.append_assoc]
    rfl

theorem isPrefix_judge (l : Lexicon) (before : List (Token × Bool)) (ts : List Token) :
    before <+: judge l before ts := by
  induction ts generalizing before with
  | nil => exact List.prefix_rfl
  | cons t ts ih => exact (List.prefix_append _ _).trans (ih _)

theorem judge_goes {before p r : List (Token × Bool)} {gone : Bool}
    (h : judge l before ts = p ++ (t, gone) :: r) (hp : before.length ≤ p.length) :
    gone = goes l p t (r.map (·.1)) := by
  induction ts generalizing before with
  | nil =>
    have hlength := congrArg List.length h
    rw [judge, List.length_append, List.length_cons] at hlength
    omega
  | cons u ts ih =>
    rw [judge] at h
    rcases Nat.eq_or_lt_of_le hp with heq | hlt
    · have htokens := judge_tokens l (before ++ [(u, goes l before u ts)]) ts
      obtain ⟨w, hw⟩ := isPrefix_judge l (before ++ [(u, goes l before u ts)]) ts
      rw [← hw, List.append_assoc] at h
      obtain ⟨rfl, hcons⟩ := List.append_inj h heq
      obtain ⟨hu, rfl⟩ := List.cons_eq_cons.mp hcons
      obtain ⟨rfl, rfl⟩ := Prod.mk.inj hu
      rw [← hw, List.map_append, List.append_cancel_left_eq] at htokens
      exact congrArg (goes l before u) htokens.symm
    · apply ih h
      rw [List.length_append]
      exact hlt

/-! Deletion up to a token that is not deleted, and when one more token is judged. -/

theorem isDeleted_append (ms : List (Token × Bool)) {after : List (Token × Bool)}
    (h : isDeleted after = false) : isDeleted (ms ++ after) = isDeleted ms := by
  induction ms with
  | nil => exact h
  | cons m ms ih => rw [List.cons_append, isDeleted, isDeleted, ih]

theorem survivors_append (ms : List (Token × Bool)) {after : List (Token × Bool)}
    (h : isDeleted after = false) : survivors (ms ++ after) = survivors ms ++ survivors after := by
  induction ms with
  | nil => rfl
  | cons m ms ih =>
    have hm : isDeleted (m :: (ms ++ after)) = isDeleted (m :: ms) := isDeleted_append (m :: ms) h
    rw [List.cons_append, survivors, survivors, hm, ih]
    split <;> rfl

theorem survivors_append_stays (ms : List (Token × Bool)) (t : Token) :
    survivors (ms ++ [(t, false)]) = survivors ms ++ [t] := by
  have h : isDeleted [(t, false)] = false := Bool.and_false _
  rw [survivors_append ms h, survivors, h]
  rfl

theorem isDeleted_append_goes (ms : List (Token × Bool)) (t : Token) :
    isDeleted (ms ++ [(t, true)]) = (isDeleted ms || (survivors ms).all isBlankCode) := by
  induction ms with
  | nil => rfl
  | cons m ms ih =>
    rw [List.cons_append, isDeleted, ih, survivors]
    cases hm : isDeleted (m :: ms) with
    | true =>
      rw [isDeleted] at hm
      cases hgone : m.2
      · rw [hgone, Bool.false_or, Bool.and_eq_true] at hm
        simp [hm]
      · rfl
    | false =>
      rw [isDeleted, Bool.or_eq_false_iff] at hm
      rw [hm.1, Bool.and_or_distrib_left, hm.2]
      simp

theorem rdropWhile_cons_of_not_all {α : Type} {p : α → Bool} {a : α} {as : List α}
    (h : ¬∀ x ∈ a :: as, p x) : (a :: as).rdropWhile p = a :: as.rdropWhile p := by
  induction as using List.reverseRecOn with
  | nil =>
    have ha : ¬p a := by simpa using h
    rw [List.rdropWhile_singleton, if_neg ha, List.rdropWhile_nil]
  | append_singleton as x ih =>
    rw [← List.cons_append, List.rdropWhile_concat, List.rdropWhile_concat]
    split
    · next hx =>
      apply ih
      intro hall
      apply h
      intro y hy
      rw [← List.cons_append, List.mem_append, List.mem_singleton] at hy
      rcases hy with hy | rfl
      · exact hall y hy
      · exact hx
    · rfl

/-- A token that goes takes the blanks along that were last to survive. -/
theorem survivors_append_goes (ms : List (Token × Bool)) (t : Token) :
    survivors (ms ++ [(t, true)]) = (survivors ms).rdropWhile isBlankCode := by
  induction ms with
  | nil => simp [survivors, isDeleted]
  | cons m ms ih =>
    have hm : isDeleted (m :: (ms ++ [(t, true)])) =
      (isDeleted (m :: ms) || (survivors (m :: ms)).all isBlankCode) := isDeleted_append_goes (m :: ms) t
    rw [List.cons_append, survivors, hm, ih, survivors]
    cases isDeleted (m :: ms) with
    | true => rfl
    | false =>
      rw [Bool.false_or, if_neg Bool.false_ne_true]
      by_cases hall : ∀ u ∈ m.1 :: survivors ms, isBlankCode u
      · rw [if_pos (List.all_eq_true.mpr hall), List.rdropWhile_eq_nil_iff.mpr hall,
          List.rdropWhile_eq_nil_iff.mpr fun u hu => hall u (List.mem_cons_of_mem _ hu)]
      · rw [if_neg (mt List.all_eq_true.mp hall), rdropWhile_cons_of_not_all hall]

/-- What is neither to go nor a blank survives, in order, and but for blanks nothing else does. -/
theorem survivors_filter (ms : List (Token × Bool)) :
    (survivors ms).filter (!isBlankCode ·) =
      (ms.filter fun m => !m.2 && !isBlankCode m.1).map (·.1) := by
  induction ms with
  | nil => rfl
  | cons m ms ih =>
    obtain ⟨t, gone⟩ := m
    rw [survivors, isDeleted]
    cases gone with
    | true => simp [ih]
    | false =>
      cases ht : isBlankCode t with
      | true => split <;> simp [ht, ih]
      | false => simp [ht, ih]

theorem textOf_eq_spelled (ts : List Token) : textOf ts = spelled ts := List.flatMap_def.symm

/-! Brackets: the depth is how many more of them some last part of the text opens than it closes, at most. -/

/-- How deep in brackets a token stands behind others, as it is counted. -/
def bracketDepth (before : List Token) : Nat := (before.filterMap Token.code?).foldl depthAfter 0

theorem depthAfter_cases (c : Char) :
    (isOpening c = true ∧ isClosing c = false ∧ ∀ depth, depthAfter depth c = depth + 1) ∨
      (isOpening c = false ∧ isClosing c = true ∧ ∀ depth, depthAfter depth c = depth - 1) ∨
      isOpening c = false ∧ isClosing c = false ∧ ∀ depth, depthAfter depth c = depth := by
  by_cases hopening : c = '(' ∨ c = '[' ∨ c = '{'
  · rcases hopening with rfl | rfl | rfl <;> exact .inl ⟨rfl, rfl, fun _ => rfl⟩
  by_cases hclosing : c = ')' ∨ c = ']' ∨ c = '}'
  · rcases hclosing with rfl | rfl | rfl <;> exact .inr (.inl ⟨rfl, rfl, fun _ => rfl⟩)
  refine .inr (.inr ⟨by simpa [isOpening] using hopening, by simpa [isClosing] using hclosing, ?_⟩)
  intro depth
  simp only [not_or] at hopening hclosing
  simp [depthAfter, hopening, hclosing]

theorem foldl_depthAfter_le_iff (s : Text) (n : Nat) :
    s.foldl depthAfter 0 ≤ n ↔ ∀ u, u <:+ s → u.countP isOpening ≤ u.countP isClosing + n := by
  induction s using List.reverseRecOn generalizing n with
  | nil => simp
  | append_singleton s c ih =>
    have hsuffixes : (∀ u, u <:+ s ++ [c] → u.countP isOpening ≤ u.countP isClosing + n) ↔
        ∀ u, u <:+ s → u.countP isOpening + (if isOpening c then 1 else 0) ≤
          u.countP isClosing + (if isClosing c then 1 else 0) + n := by
      have hcount : ∀ (p : Char → Bool) (u : Text),
          (u ++ [c]).countP p = u.countP p + if p c then 1 else 0 := by simp
      constructor
      · intro h u hu
        have hu' := h (u ++ [c]) (List.suffix_concat_iff.mpr (.inr ⟨u, rfl, hu⟩))
        rwa [hcount, hcount] at hu'
      · intro h u hu
        rcases List.suffix_concat_iff.mp hu with rfl | ⟨t, rfl, ht⟩
        · simp
        · rw [hcount, hcount]
          exact h t ht
    rw [List.foldl_concat, hsuffixes]
    rcases depthAfter_cases c with ⟨ho, hc, hdepth⟩ | ⟨ho, hc, hdepth⟩ | ⟨ho, hc, hdepth⟩
    · rw [hdepth, ho, hc]
      cases n with
      | zero => exact iff_of_false (by omega) fun h => absurd (h [] List.nil_suffix) (by simp)
      | succ n =>
        rw [Nat.add_le_add_iff_right, ih]
        exact forall₂_congr fun u _ => by simp; omega
    · rw [hdepth, ho, hc, Nat.sub_le_iff_le_add, ih]
      exact forall₂_congr fun u _ => by simp; omega
    · rw [hdepth, ho, hc, ih]
      simp

theorem isOutside_iff (before : List Token) : isOutside before = true ↔ bracketDepth before = 0 := by
  rw [isOutside, bracketDepth, ← Nat.le_zero, foldl_depthAfter_le_iff]
  simp

theorem bracketDepth_append (before : List Token) (t : Token) :
    bracketDepth (before ++ [t]) = t.code?.elim (bracketDepth before) (depthAfter (bracketDepth before)) := by
  rw [bracketDepth, List.filterMap_append, List.foldl_append, bracketDepth]
  cases h : t.code? <;> simp [h]

/-- What the scan keeps are the survivors of the tokens judged so far. Unless a newline comes next, the
blanks it would trim are blanks in code. -/
structure Tracks (ms : List (Token × Bool)) (depth : Nat) (kept : Text) (next : List Token) : Prop where
  depth_eq : depth = bracketDepth (ms.map (·.1))
  kept_eq : kept.reverse = spelled (survivors ms)
  trims : ∀ t ∈ next.head?, t.code? ≠ some '\n' →
    (spelled (survivors ms)).rdropWhile isSpaceOrTab = spelled ((survivors ms).rdropWhile isBlankCode)

theorem tracks_nil (next : List Token) : Tracks [] 0 [] next := by
  refine ⟨rfl, rfl, ?_⟩
  intro _ _ _
  rfl

theorem Tracks.isDropped_eq (h : Tracks ms depth kept (t :: rest)) :
    isDropped l depth kept t rest = goes l ms t rest := by
  have houtside : isOutside (ms.map (·.1)) = decide (depth = 0) := by
    rw [h.depth_eq, Bool.eq_iff_iff, isOutside_iff, decide_eq_true_eq]
  rw [isDropped, goes, h.kept_eq, textOf_eq_spelled, houtside, Token.isComment]
  cases t.kind with
  | literal triple => cases triple <;> simp
  | _ => simp

theorem goes_not_code (h : goes l ms t rest = true) : t.code? = none := by
  rw [goes, Token.isComment] at h
  rw [Token.code?]
  cases hk : t.kind with
  | code c => simp [hk] at h
  | _ => rfl

theorem Tracks.goes (h : Tracks ms depth kept (t :: rest)) (ht : t.code? = none) :
    Tracks (ms ++ [(t, true)]) depth (kept.dropWhile isSpaceOrTab) rest := by
  have htrims := h.trims t rfl (by simp [ht])
  constructor
  · rw [List.map_append, List.map_singleton, bracketDepth_append, ht, h.depth_eq]
    rfl
  · rw [← List.rdropWhile_reverse, h.kept_eq, htrims, survivors_append_goes]
  · intro _ _ _
    rw [survivors_append_goes, ← htrims, List.rdropWhile_idempotent, htrims, List.rdropWhile_idempotent]

/-- A token that ends in a space or tab is a blank in code, or a newline or nothing comes next. -/
theorem blank_or_newline_next (hl : l ∈ all) {p : List Token} {c : Char}
    (h : l.tokens content = p ++ t :: rest) (hlast : t.text.getLast? = some c)
    (hc : isSpaceOrTab c = true) :
    t.code? = some c ∨ ∀ u ∈ rest.head?, u.code? = some '\n' := by
  have hunambiguous := unambiguous_of_mem hl
  rcases (tokenRule_of_tokensFrom hunambiguous h).blank_last hl hlast hc with hcode | hnewline
  · exact .inl (Token.code?_eq_some_iff.mpr hcode)
  · right
    intro u hu
    obtain ⟨r, rfl⟩ := List.head?_eq_some_iff.mp hu
    have h' : l.tokens content = (p ++ [t]) ++ u :: r := by simp [h]
    obtain ⟨a, s, -, hkind, -, htext⟩ := tokensFrom_eq_append_cons h'
    obtain rfl : a = '\n' := hnewline a (by simp [htext])
    rw [tokenAt_of_unmarked (unmarked_of_mem hl (by simp))] at hkind
    exact Token.code?_eq_some_iff.mpr hkind

theorem Tracks.stays (hl : l ∈ all) (h : Tracks ms depth kept (t :: rest))
    (hts : l.tokens content = ms.map (·.1) ++ t :: rest) :
    Tracks (ms ++ [(t, false)]) (t.code?.elim depth (depthAfter depth)) (t.text.reverse ++ kept)
      rest := by
  have hsurvive := survivors_append_stays ms t
  constructor
  · rw [List.map_append, List.map_singleton, bracketDepth_append, h.depth_eq]
  · rw [List.reverse_append, List.reverse_reverse, h.kept_eq, hsurvive]
    simp
  · intro u hu hnewline
    have ht : t ∈ l.tokens content := by simp [hts]
    have hcode : ∀ c, t.code? = some c → t.text = [c] := fun _ => text_of_code? ht
    obtain ⟨x, s, -, -, -, htext⟩ := tokensFrom_eq_append_cons hts
    obtain ⟨w, c, hw⟩ := (List.eq_nil_or_concat' t.text).resolve_left (by simp [htext])
    have hlast : t.text.getLast? = some c := by rw [hw, List.getLast?_concat]
    rw [hsurvive, spelled_append, spelled_cons, spelled_nil, List.append_nil]
    -- A comment or literal that ends in a blank stands in front of a newline, so it is never trimmed.
    by_cases hc : isSpaceOrTab c = true
    · have ht : t.code? = some c := by
        rcases blank_or_newline_next hl hts hlast hc with ht | hnext
        · exact ht
        · exact absurd (hnext u hu) hnewline
      have hne : t.code? ≠ some '\n' := by
        rw [ht]
        rintro ⟨⟩
        exact absurd hc (by decide)
      have hblank : isBlankCode t = true := by simpa [isBlankCode, ht] using hc
      rw [hcode c ht, List.rdropWhile_concat_pos _ _ _ hc, List.rdropWhile_concat_pos _ _ _ hblank]
      exact h.trims t rfl hne
    · have hblank : ¬isBlankCode t = true := by
        rw [isBlankCode, Option.any_eq_true]
        rintro ⟨a, ha, hspace⟩
        rw [hcode a ha, List.getLast?_singleton, Option.some.injEq] at hlast
        exact hc (hlast ▸ hspace)
      rw [hw, ← List.append_assoc, List.rdropWhile_concat_neg _ _ _ hc,
        List.rdropWhile_concat_neg _ _ _ hblank, spelled_append, spelled_cons, spelled_nil, hw]
      simp

/-- The scan keeps the text of the survivors. -/
theorem keep_eq (hl : l ∈ all) (h : Tracks ms depth kept ts)
    (hts : l.tokens content = ms.map (·.1) ++ ts) :
    keep l depth kept ts = spelled (survivors (judge l ms ts)) := by
  induction ts generalizing ms depth kept with
  | nil => exact h.kept_eq
  | cons t ts ih =>
    have hnext : ∀ gone : Bool, l.tokens content = (ms ++ [(t, gone)]).map (·.1) ++ ts := by
      intro gone
      rw [hts, List.map_append, List.append_assoc]
      rfl
    rw [keep, judge, h.isDropped_eq]
    cases hgoes : goes l ms t ts with
    | true => exact ih (h.goes (goes_not_code hgoes)) (hnext true)
    | false => exact ih (h.stays hl hts) (hnext false)

/-- Removal keeps the text of the survivors, byte for byte and in order. Each token is judged between what is
left of the text before it and the text behind it, and only blanks in code are deleted with those that go. -/
theorem removeComments_eq_survivors (h : forPath? path = some l) (content : Text) :
    (verdicts l content).map (·.1) = l.tokens content ∧ spelled (l.tokens content) = content ∧
      (∀ p t gone, ∀ r : List (Token × Bool), verdicts l content = p ++ (t, gone) :: r →
        gone = goes l p t (r.map (·.1))) ∧
      removeComments path content = spelled (survivors (verdicts l content)) ∧
      (survivors (verdicts l content)).filter (!isBlankCode ·) =
        ((verdicts l content).filter fun m => !m.2 && !isBlankCode m.1).map (·.1) := by
  refine ⟨judge_tokens l [] _, spelled_tokensFrom l 0 content, ?_, ?_, survivors_filter _⟩
  · intro p t gone r hp
    exact judge_goes hp (Nat.zero_le _)
  · rw [removeComments, h]
    exact keep_eq (mem_all_of_forPath? h) (tracks_nil _) rfl

/-- A docstring goes, and not a literal on a line of its own that an open bracket holds, nor a directive. -/
theorem docstring_removeComments_eq_survivors :
    let content := "x = '''a '''  # b \n \"\"\"d\"\"\" \t# c\nf(a\n'''e'''\n) # noqa \n".toList
    let ms := verdicts python content
    removeComments "a.py".toList content = "x = '''a '''\n\nf(a\n'''e'''\n) # noqa \n".toList ∧
      forPath? "a.py".toList = some python ∧
      ms.map (·.1) = python.tokens content ∧ spelled (python.tokens content) = content ∧
      (∀ p t gone, ∀ r : List (Token × Bool), ms = p ++ (t, gone) :: r →
        gone = goes python p t (r.map (·.1))) ∧
      removeComments "a.py".toList content = spelled (survivors ms) ∧
      (survivors ms).filter (!isBlankCode ·) =
        (ms.filter fun m => !m.2 && !isBlankCode m.1).map (·.1) := by
  intro content ms
  have h : forPath? "a.py".toList = some python := by decide +kernel
  exact ⟨by decide +kernel, h, removeComments_eq_survivors h content⟩

end CommentRemoval
end CodeDigest
