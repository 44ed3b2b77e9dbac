import CodeDigest.Token
import Mathlib.Data.List.Basic

/-! Where comments and literals end: at the first place behind the opener that their kind ends at, or at
the end of the text. -/
namespace CodeDigest

namespace Text
variable {s m : Text}

theorem strip?_eq_some_iff {after : Text} : strip? m s = some after ↔ s = m ++ after := by
  induction m generalizing s with
  | nil => simp [strip?, eq_comm]
  | cons a m ih =>
    cases s with
    | nil => simp [strip?]
    | cons c s =>
      by_cases hac : a = c
      · simp [strip?, hac, ih]
      · simp [strip?, hac, Ne.symm hac]

theorem startsWith_iff : startsWith s m = true ↔ m <+: s := by
  rw [startsWith, Option.isSome_iff_exists]
  simp only [strip?_eq_some_iff]
  exact exists_congr fun after => eq_comm

def backslashes (s : Text) : Nat := (s.reverse.takeWhile (· = '\\')).length

/-- Whether a character behind the text would be escaped: the backslashes at the end of the text do not
pair up. -/
def Escapes (s : Text) : Prop := backslashes s % 2 = 1

instance (s : Text) : Decidable (Escapes s) := inferInstanceAs (Decidable (backslashes s % 2 = 1))

theorem backslashes_cons (c : Char) (s : Text) :
    backslashes (c :: s) =
      if backslashes s = s.length then s.length + (if c = '\\' then 1 else 0) else backslashes s := by
  have hs : backslashes s = (s.reverse.takeWhile (· = '\\')).length := rfl
  rw [backslashes, List.reverse_cons, List.takeWhile_append, List.length_reverse, ← hs]
  by_cases h : backslashes s = s.length
  · rw [if_pos h, if_pos h, List.length_append, List.length_reverse, List.takeWhile_cons]
    by_cases hc : c = '\\' <;> simp [hc]
  · rw [if_neg h, if_neg h, hs]

theorem backslashes_le (s : Text) : backslashes s ≤ s.length := by
  have h := (List.takeWhile_prefix (l := s.reverse) (· = '\\')).length_le
  rwa [List.length_reverse] at h

@[simp] theorem not_escapes_nil : ¬Escapes [] := by decide

@[simp] theorem escapes_backslash : Escapes ['\\'] := by decide

theorem escapes_cons {c : Char} (hc : c ≠ '\\') (s : Text) : Escapes (c :: s) ↔ Escapes s := by
  have h : backslashes (c :: s) = backslashes s := by
    rw [backslashes_cons, if_neg hc]
    split <;> omega
  rw [Escapes, Escapes, h]

/-- A backslash and the character that it escapes say nothing about what stands behind them. -/
theorem escapes_pair (c : Char) (s : Text) : Escapes ('\\' :: c :: s) ↔ Escapes s := by
  have hle := backslashes_le s
  have h : backslashes ('\\' :: c :: s) % 2 = backslashes s % 2 := by
    rw [backslashes_cons, backslashes_cons, List.length_cons, if_pos rfl]
    by_cases hs : backslashes s = s.length
    · by_cases hc : c = '\\'
      · simp only [hs, hc, ↓reduceIte]
        omega
      · simp [hs, hc]
    · rw [if_neg hs, if_neg (by omega)]
  rw [Escapes, Escapes, h]

end Text

open Text

/-- The text behind an opener up to the first place where the token may end, or all of it when there is
none. `ends before closing after` tells the places: between `before`, which starts behind the opener, and
`after` stands `closing`, which ends the token and is part of it. -/
inductive UpToEnd (ends : Text → Text → Text → Prop) : (body rest : Text) → Prop where
  | closed {before closing after : Text} (h : ends before closing after)
      (first : ∀ x m y, x ++ m ++ y = before ++ closing ++ after → ends x m y →
        before.length ≤ x.length) :
      UpToEnd ends (before ++ closing) after
  | unclosed {body : Text} (h : ∀ x m y, x ++ m ++ y = body → ¬ends x m y) : UpToEnd ends body []

namespace UpToEnd
variable {ends ends' : Text → Text → Text → Prop} {body rest body' rest' : Text}

/-- An end right behind the opener. -/
theorem here {closing : Text} (h : ends [] closing rest) : UpToEnd ends closing rest :=
  .closed h fun _ _ _ _ _ => Nat.zero_le _

/-- A character at which the token does not end is part of it. -/
theorem cons {c : Char} (h : UpToEnd ends' body rest)
    (hshift : ∀ x m y, ends' x m y ↔ ends (c :: x) m y)
    (hc : ∀ m y, m ++ y = c :: (body ++ rest) → ¬ends [] m y) :
    UpToEnd ends (c :: body) rest := by
  cases h with
  | @closed before closing after h first =>
    refine .closed ((hshift _ _ _).mp h) ?_
    intro x m y heq hends
    cases x with
    | nil => exact absurd hends (hc m y heq)
    | cons a x =>
      obtain ⟨rfl, htail⟩ := List.cons_eq_cons.mp heq
      exact Nat.succ_le_succ (first x m y htail ((hshift _ _ _).mpr hends))
  | unclosed h =>
    apply UpToEnd.unclosed
    intro x m y heq hends
    cases x with
    | nil => exact hc m y (by simpa using heq) hends
    | cons a x =>
      obtain ⟨rfl, htail⟩ := List.cons_eq_cons.mp heq
      exact h x m y htail ((hshift _ _ _).mpr hends)

/-- Where no two ends start at one place, a token cannot end in two ways. -/
theorem unique (hone : ∀ x m y m' y', ends x m y → ends x m' y' → m ++ y = m' ++ y' → m = m')
    (h : UpToEnd ends body rest) (h' : UpToEnd ends body' rest') (heq : body ++ rest = body' ++ rest') :
    body = body' := by
  cases h with
  | closed h first =>
    cases h' with
    | closed h' first' =>
      have hle := first _ _ _ heq.symm h'
      have hge := first' _ _ _ heq h
      rw [List.append_assoc, List.append_assoc] at heq
      obtain ⟨rfl, hrest⟩ := List.append_inj heq (Nat.le_antisymm hle hge)
      rw [hone _ _ _ _ _ h h' hrest]
    | unclosed h' => exact absurd h (h' _ _ _ (by rw [heq, List.append_nil]))
  | unclosed h =>
    cases h' with
    | closed h' first' => exact absurd h' (h _ _ _ (by rw [← heq, List.append_nil]))
    | unclosed h' => simpa using heq

/-- Ends that are all of one length and do not depend on what follows them are the first ones in front of
another text too. -/
theorem of_rest {n : Nat} (hlength : ∀ x m y, ends x m y → m.length = n)
    (hfree : ∀ x m y y', ends x m y → ends x m y') (h : UpToEnd ends body rest)
    (hended : rest = [] → rest' = []) : UpToEnd ends body rest' := by
  cases h with
  | @closed before closing _ h first =>
    refine .closed (hfree _ _ _ _ h) ?_
    intro x m y heq hends
    by_contra hlt
    have hle : (x ++ m).length ≤ (before ++ closing).length := by
      rw [List.length_append, List.length_append, hlength _ _ _ hends, hlength _ _ _ h]
      omega
    have hx : x ++ m <+: before ++ closing ++ rest' := heq ▸ List.prefix_append (x ++ m) y
    obtain ⟨w, hw⟩ := List.prefix_of_prefix_length_le hx (List.prefix_append _ rest') hle
    apply hlt
    apply first x m (w ++ rest)
    · rw [← hw, List.append_assoc (x ++ m)]
    · exact hfree _ _ _ _ hends
  | unclosed h =>
    rw [hended rfl]
    exact .unclosed h

/-- A scanner that always finds an end finds the only one. -/
theorem length_eq_iff {scan : Text → Nat}
    (hone : ∀ x m y m' y', ends x m y → ends x m' y' → m ++ y = m' ++ y' → m = m')
    (hscan : ∀ s, ∃ body rest, s = body ++ rest ∧ scan s = body.length ∧ UpToEnd ends body rest) :
    scan (body ++ rest) = body.length ↔ UpToEnd ends body rest := by
  obtain ⟨b, r, heq, hlength, hends⟩ := hscan (body ++ rest)
  rw [hlength]
  constructor
  · intro hlen
    obtain ⟨rfl, rfl⟩ := List.append_inj heq hlen.symm
    exact hends
  · intro h
    rw [hends.unique hone h heq.symm]

end UpToEnd

namespace Lexicon

def ClosesBlock (closer _before closing _after : Text) : Prop := closing = closer

/-- A triple-quoted literal ends with its delimiter, unless that is escaped. -/
def ClosesTriple (delimiter before closing _after : Text) : Prop :=
  closing = delimiter ∧ ¬Escapes before

/-- A literal ends with its delimiter or, when it may not span lines, in front of a newline. Neither counts
where the literal has escapes and the character is escaped. -/
inductive Quote.Closes (q : Quote) : (before closing after : Text) → Prop where
  | delimiter {before after : Text} (free : q.escapes = true → ¬Escapes before) :
      q.Closes before [q.delimiter] after
  | newline {before after : Text} (hline : q.multiline = false)
      (free : q.escapes = true → ¬Escapes before) :
      q.Closes before [] ('\n' :: after)

theorem exists_lengthToClose {closer : Text} (hne : closer ≠ []) (s : Text) :
    ∃ body rest, s = body ++ rest ∧ lengthToClose closer s = body.length ∧
      UpToEnd (ClosesBlock closer) body rest := by
  induction s with
  | nil =>
    refine ⟨[], [], rfl, rfl, .unclosed ?_⟩
    rintro x m y heq rfl
    simp [hne] at heq
  | cons c s ih =>
    rw [lengthToClose]
    split
    · next hs =>
      obtain ⟨rest, hrest⟩ := startsWith_iff.mp hs
      exact ⟨closer, rest, hrest.symm, rfl, .here rfl⟩
    · next hs =>
      obtain ⟨body, rest, rfl, hlen, h⟩ := ih
      refine ⟨c :: body, rest, rfl, by rw [hlen, List.length_cons], h.cons (fun _ _ _ => Iff.rfl) ?_⟩
      rintro m y heq rfl
      exact hs (startsWith_iff.mpr ⟨y, heq⟩)

theorem exists_tripleLength {delimiter : Text} (hne : delimiter ≠ [])
    (hd : delimiter.head? ≠ some '\\') (s : Text) :
    ∃ body rest, s = body ++ rest ∧ tripleLength delimiter s = body.length ∧
      UpToEnd (ClosesTriple delimiter) body rest := by
  have hback : ∀ m y s x, m ++ y = '\\' :: s → ¬ClosesTriple delimiter x m y := by
    rintro m y s x heq ⟨rfl, -⟩
    cases m with
    | nil => exact hne rfl
    | cons a m =>
      obtain ⟨rfl, -⟩ := List.cons_eq_cons.mp heq
      exact hd rfl
  have hnil : UpToEnd (ClosesTriple delimiter) [] [] := by
    apply UpToEnd.unclosed
    rintro x m y heq ⟨rfl, -⟩
    simp [hne] at heq
  fun_induction tripleLength delimiter s with
  | case1 => exact ⟨[], [], rfl, rfl, hnil⟩
  | case2 =>
    refine ⟨['\\'], [], rfl, rfl, ?_⟩
    apply UpToEnd.unclosed
    rintro x m y heq hends
    cases x with
    | nil => exact hback m y [] [] heq hends
    | cons a x =>
      obtain ⟨-, heq⟩ := List.cons_eq_cons.mp heq
      obtain ⟨rfl, -⟩ := hends
      simp [hne] at heq
  | case3 c rest ih =>
    obtain ⟨body, rest, rfl, hlen, h⟩ := ih
    refine ⟨'\\' :: c :: body, rest, rfl, by rw [hlen]; rfl, ?_⟩
    have hpair : UpToEnd (fun x => ClosesTriple delimiter ('\\' :: x)) (c :: body) rest := by
      refine h.cons ?_ ?_
      · intro x m y
        rw [ClosesTriple, ClosesTriple, escapes_pair]
      · rintro m y - ⟨-, hfree⟩
        exact hfree escapes_backslash
    exact hpair.cons (fun _ _ _ => Iff.rfl) fun m y heq => hback m y _ [] heq
  | case4 c rest hc hs =>
    obtain ⟨rest', hrest⟩ := startsWith_iff.mp hs
    exact ⟨delimiter, rest', hrest.symm, rfl, .here ⟨rfl, not_escapes_nil⟩⟩
  | case5 c rest hc hs ih =>
    obtain ⟨body, rest, rfl, hlen, h⟩ := ih
    refine ⟨c :: body, rest, rfl, by rw [hlen]; rfl, h.cons ?_ ?_⟩
    · intro x m y
      rw [ClosesTriple, ClosesTriple, escapes_cons hc]
    · rintro m y heq ⟨rfl, -⟩
      exact hs (startsWith_iff.mpr ⟨y, heq⟩)

namespace Quote
variable {q : Quote} {x m y : Text}

/-- Where a literal may end, its delimiter or a newline comes next. -/
theorem Closes.exists_head (h : q.Closes x m y) :
    ∃ c s, m ++ y = c :: s ∧ (c = q.delimiter ∨ c = '\n' ∧ q.multiline = false) ∧
      (q.escapes = true → ¬Escapes x) := by
  cases h with
  | delimiter free => exact ⟨q.delimiter, _, rfl, .inl rfl, free⟩
  | newline hline free => exact ⟨'\n', _, rfl, .inr ⟨rfl, hline⟩, free⟩

theorem Closes.of_escapes {x' : Text} (h : q.Closes x m y)
    (hx : q.escapes = true → Escapes x' → Escapes x) : q.Closes x' m y := by
  cases h with
  | delimiter free => exact .delimiter fun he h' => free he (hx he h')
  | newline hline free => exact .newline hline fun he h' => free he (hx he h')

theorem closes_congr {x' : Text} (h : q.escapes = true → (Escapes x ↔ Escapes x')) :
    q.Closes x m y ↔ q.Closes x' m y := by
  constructor
  · exact fun hc => hc.of_escapes fun he => (h he).mpr
  · exact fun hc => hc.of_escapes fun he => (h he).mp

theorem closes_cons {c : Char} (hc : ¬(q.escapes && c = '\\') = true) :
    q.Closes x m y ↔ q.Closes (c :: x) m y := by
  apply closes_congr
  intro he
  exact (escapes_cons (by simpa [he] using hc) x).symm

end Quote

theorem exists_literalLength {q : Quote} (hd : q.delimiter ≠ '\\') (s : Text) :
    ∃ body rest, s = body ++ rest ∧ literalLength q s = body.length ∧
      UpToEnd q.Closes body rest := by
  have hend : ∀ x, UpToEnd (fun x' => q.Closes (x ++ x')) [] [] := by
    intro x
    apply UpToEnd.unclosed
    intro x' m y heq h
    obtain ⟨c, s, hmy, -⟩ := h.exists_head
    rw [List.append_assoc, hmy] at heq
    simp at heq
  have hback : ∀ m y s, m ++ y = '\\' :: s → ¬q.Closes [] m y := by
    intro m y s heq h
    obtain ⟨c, s, hmy, hc, -⟩ := h.exists_head
    obtain ⟨rfl, -⟩ := List.cons_eq_cons.mp (hmy.symm.trans heq)
    obtain hc | ⟨hc, -⟩ := hc
    · exact hd hc.symm
    · exact absurd hc (by decide)
  fun_induction literalLength q s with
  | case1 => exact ⟨[], [], rfl, rfl, hend []⟩
  | case2 c hc =>
    obtain ⟨he, rfl⟩ : q.escapes = true ∧ c = '\\' := by simpa using hc
    refine ⟨['\\'], [], rfl, rfl, (hend ['\\']).cons (fun _ _ _ => Iff.rfl) ?_⟩
    intro m y heq
    exact hback m y _ heq
  | case3 c hc a rest ih =>
    obtain ⟨he, rfl⟩ : q.escapes = true ∧ c = '\\' := by simpa using hc
    obtain ⟨body, rest, rfl, hlen, h⟩ := ih
    refine ⟨'\\' :: a :: body, rest, rfl, by rw [hlen]; rfl, ?_⟩
    have hpair : UpToEnd (fun x => q.Closes ('\\' :: x)) (a :: body) rest := by
      refine h.cons ?_ ?_
      · intro x m y
        exact Quote.closes_congr fun _ => (escapes_pair a x).symm
      · intro m y _ h
        obtain ⟨_, _, -, -, hfree⟩ := h.exists_head
        exact hfree he escapes_backslash
    exact hpair.cons (fun _ _ _ => Iff.rfl) fun m y heq => hback m y _ heq
  | case4 rest hc =>
    exact ⟨[q.delimiter], rest, rfl, rfl, .here (.delimiter fun _ => not_escapes_nil)⟩
  | case5 c rest hc hdelimiter hnewline =>
    obtain ⟨rfl, hline⟩ : c = '\n' ∧ q.multiline = false := by simpa using hnewline
    exact ⟨[], _, rfl, rfl, .here (.newline hline fun _ => not_escapes_nil)⟩
  | case6 c rest hc hdelimiter hnewline ih =>
    obtain ⟨body, rest, rfl, hlen, h⟩ := ih
    refine ⟨c :: body, rest, rfl, by rw [hlen]; rfl, h.cons ?_ ?_⟩
    · intro x m y
      exact Quote.closes_cons hc
    · intro m y heq h
      obtain ⟨a, s, hmy, ha, -⟩ := h.exists_head
      obtain ⟨rfl, -⟩ := List.cons_eq_cons.mp (hmy.symm.trans heq)
      obtain ha | ha := ha
      · exact hdelimiter ha
      · exact hnewline (by simpa using ha)

variable {body rest : Text}

theorem lengthToClose_eq_iff {closer : Text} (hne : closer ≠ []) :
    lengthToClose closer (body ++ rest) = body.length ↔ UpToEnd (ClosesBlock closer) body rest := by
  apply UpToEnd.length_eq_iff _ (exists_lengthToClose hne)
  rintro x m y m' y' rfl rfl -
  rfl

theorem tripleLength_eq_iff {delimiter : Text} (hne : delimiter ≠ [])
    (hd : delimiter.head? ≠ some '\\') :
    tripleLength delimiter (body ++ rest) = body.length ↔
      UpToEnd (ClosesTriple delimiter) body rest := by
  apply UpToEnd.length_eq_iff _ (exists_tripleLength hne hd)
  rintro x m y m' y' ⟨rfl, -⟩ ⟨rfl, -⟩ -
  rfl

theorem literalLength_eq_iff {q : Quote} (hd : q.delimiter ≠ '\\') (hn : q.delimiter ≠ '\n') :
    literalLength q (body ++ rest) = body.length ↔ UpToEnd q.Closes body rest := by
  apply UpToEnd.length_eq_iff _ (exists_literalLength hd)
  rintro x m y m' y' (free | ⟨hline, free⟩) (free' | ⟨hline', free'⟩) heq
  · rfl
  · exact absurd (List.cons_eq_cons.mp heq).1 hn
  · exact absurd (List.cons_eq_cons.mp heq).1.symm hn
  · rfl

end Lexicon
end CodeDigest
