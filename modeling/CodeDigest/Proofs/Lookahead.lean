import CodeDigest.Proofs.Tokens
import Mathlib.Tactic.SplitIfs

/-! How far a lexicon looks ahead: what stands behind a character that no marker or quote holds, and
behind the one after it, has no effect on the tokens before. -/
namespace CodeDigest
variable {c d x : Char} {u w w' m : Text}

namespace Text

/-- Whether a text starts with a marker shows before the first character that the marker lacks. -/
theorem strip?_append_of_notMem (h : d ∉ m) (u w : Text) :
    strip? m (u ++ d :: w) = (strip? m u).map (· ++ d :: w) := by
  induction u generalizing m with
  | nil =>
    cases m with
    | nil => rfl
    | cons a m =>
      have ha : a ≠ d := fun ha => h (by simp [ha])
      simp [strip?, ha]
  | cons b u ih =>
    cases m with
    | nil => rfl
    | cons a m =>
      rw [List.mem_cons, not_or] at h
      by_cases hab : a = b
      · simp [strip?, hab, ih h.2]
      · simp [strip?, hab]

theorem startsWith_append_congr (h : d ∉ m) (u w w' : Text) :
    startsWith (u ++ d :: w) m = startsWith (u ++ d :: w') m := by
  simp [startsWith, strip?_append_of_notMem h]

/-- A marker that fits into a text is found or missed there. -/
theorem startsWith_append_of_length_le (h : m.length ≤ u.length) (w : Text) :
    startsWith (u ++ w) m = startsWith u m := by
  induction u generalizing m with
  | nil =>
    obtain rfl := List.length_eq_zero_iff.mp (Nat.le_zero.mp h)
    rfl
  | cons b u ih =>
    cases m with
    | nil => rfl
    | cons a m =>
      simp only [startsWith, List.cons_append, strip?] at ih ⊢
      split
      · exact ih (Nat.le_of_succ_le_succ h)
      · rfl

end Text

namespace Lexicon
variable {l : Lexicon} {q : Quote} {close : Text}

/-- No comment marker and no quote holds a character. -/
structure Unmarked (l : Lexicon) (d : Char) : Prop where
  line : ∀ m ∈ l.lineMarkers, m.marker ≠ [] ∧ d ∉ m.marker
  block : ∀ b ∈ l.blockComment, b.1 ≠ [] ∧ d ∉ b.1 ∧ b.2 ≠ []
  quote : d ∉ ['"', '\'', '`']

instance (l : Lexicon) (d : Char) : Decidable (l.Unmarked d) :=
  decidable_of_iff ((∀ m ∈ l.lineMarkers, m.marker ≠ [] ∧ d ∉ m.marker) ∧
    (∀ b ∈ l.blockComment.toList, b.1 ≠ [] ∧ d ∉ b.1 ∧ b.2 ≠ []) ∧ d ∉ ['"', '\'', '`'])
    ⟨fun ⟨hline, hblock, hquote⟩ =>
      ⟨hline, fun b hb => hblock b (Option.mem_toList.mpr hb), hquote⟩,
    fun h => ⟨h.line, fun b hb => h.block b (Option.mem_toList.mp hb), h.quote⟩⟩

/-- The characters that may end a header stand in no comment marker and no quote. -/
theorem unmarked_of_mem (hl : l ∈ all) (hd : d ∈ ['\x7b', ':', '\n', ';', '>']) : l.Unmarked d := by
  have h : ∀ l ∈ all, l.Unmarked '\x7b' ∧ l.Unmarked ':' ∧ l.Unmarked '\n' ∧ l.Unmarked ';' ∧
      l.Unmarked '>' := by decide
  obtain ⟨h1, h2, h3, h4, h5⟩ := h l hl
  simp only [List.mem_cons, List.not_mem_nil, or_false] at hd
  obtain rfl | rfl | rfl | rfl | rfl := hd <;> assumption

/-! A literal or comment that ends in front of a character ends there whatever stands behind. -/

theorem literalLength_cons (q : Quote) (c : Char) (s : Text) :
    literalLength q (c :: s) =
      if q.escapes && c = '\\' then (match s with | [] => 1 | _ :: r => literalLength q r + 2)
      else if c = q.delimiter then 1
      else if c = '\n' && !q.multiline then 0
      else literalLength q s + 1 := literalLength.eq_def q (c :: s)

private theorem tripleLength_cons (delimiter : Text) (c : Char) (s : Text) :
    tripleLength delimiter (c :: s) =
      if c = '\\' then (match s with | [] => 1 | _ :: r => tripleLength delimiter r + 2)
      else if Text.startsWith (c :: s) delimiter then delimiter.length
      else tripleLength delimiter s + 1 := tripleLength.eq_def delimiter (c :: s)

theorem literalLength_congr (h : literalLength q (u ++ d :: w) ≤ u.length) (w' : Text) :
    literalLength q (u ++ d :: w') = literalLength q (u ++ d :: w) := by
  induction hn : u.length using Nat.strongRecOn generalizing u with
  | ind n ih =>
    subst hn
    cases u with
    | nil =>
      simp only [List.nil_append, literalLength_cons] at h ⊢
      split_ifs at h ⊢
      · split at h <;> simp at h
      · rfl
      · rfl
      · simp at h
    | cons b u =>
      simp only [List.cons_append, literalLength_cons] at h ⊢
      split_ifs at h ⊢
      · cases u with
        | nil => simp at h
        | cons e u =>
          have h' : literalLength q (u ++ d :: w) ≤ u.length := by simpa using h
          simpa using ih u.length (by simp only [List.length_cons]; omega) h' rfl
      · rfl
      · rfl
      · have h' : literalLength q (u ++ d :: w) ≤ u.length := by simpa using h
        rw [ih u.length (by simp) h' rfl]

/-- A triple quote that ends before the text does was closed. -/
private theorem length_le_tripleLength {delimiter s : Text}
    (h : tripleLength delimiter s < s.length) : delimiter.length ≤ tripleLength delimiter s := by
  fun_induction tripleLength delimiter s with
  | case1 => simp at h
  | case2 => simp at h
  | case3 x rest ih =>
    have := ih (by simpa using h)
    omega
  | case4 => exact Nat.le_refl _
  | case5 c rest _ _ ih =>
    have := ih (by simpa using h)
    omega

private theorem length_le_lengthToClose {s : Text} (h : lengthToClose close s < s.length) :
    close.length ≤ lengthToClose close s := by
  fun_induction lengthToClose close s with
  | case1 => simp at h
  | case2 => exact Nat.le_refl _
  | case3 c rest _ ih =>
    have := ih (by simpa using h)
    omega

theorem tripleLength_congr {delimiter : Text} (hne : delimiter ≠ [])
    (h : tripleLength delimiter (u ++ d :: w) ≤ u.length) (w' : Text) :
    tripleLength delimiter (u ++ d :: w') = tripleLength delimiter (u ++ d :: w) := by
  have hstarts : ∀ v : Text, delimiter.length ≤ v.length →
      Text.startsWith (v ++ d :: w') delimiter = Text.startsWith (v ++ d :: w) delimiter := by
    intro v hv
    rw [Text.startsWith_append_of_length_le hv, Text.startsWith_append_of_length_le hv]
  induction hn : u.length using Nat.strongRecOn generalizing u with
  | ind n ih =>
    subst hn
    cases u with
    | nil =>
      simp only [List.nil_append, tripleLength_cons] at h
      split_ifs at h
      · split at h <;> simp at h
      · exact absurd (List.length_eq_zero_iff.mp (Nat.le_zero.mp h)) hne
      · simp at h
    | cons b u =>
      rw [List.cons_append, tripleLength_cons] at h
      rw [List.cons_append, List.cons_append, tripleLength_cons, tripleLength_cons]
      split_ifs at h with hb hs
      · rw [if_pos hb, if_pos hb]
        cases u with
        | nil => simp at h
        | cons e u =>
          have h' : tripleLength delimiter (u ++ d :: w) ≤ u.length := by simpa using h
          simpa using ih u.length (by simp only [List.length_cons]; omega) h' rfl
      · have hs' := hstarts (b :: u) h
        rw [List.cons_append, List.cons_append] at hs'
        rw [hs', if_neg hb, if_neg hb]
        simp [hs]
      · have h' : tripleLength delimiter (u ++ d :: w) ≤ u.length := by simpa using h
        have hle := length_le_tripleLength (Nat.lt_of_le_of_lt h' (by simp))
        have hs' := hstarts (b :: u) (by simp only [List.length_cons]; omega)
        rw [List.cons_append, List.cons_append] at hs'
        rw [hs', ih u.length (by simp) h' rfl, if_neg hb, if_neg hb]

theorem lengthToClose_congr (hne : close ≠ []) (h : lengthToClose close (u ++ d :: w) ≤ u.length)
    (w' : Text) : lengthToClose close (u ++ d :: w') = lengthToClose close (u ++ d :: w) := by
  induction u with
  | nil =>
    simp only [List.nil_append, lengthToClose] at h
    split at h
    · exact absurd (List.length_eq_zero_iff.mp (Nat.le_zero.mp h)) hne
    · simp at h
  | cons b u ih =>
    have hstarts : close.length ≤ (b :: u).length →
        Text.startsWith (b :: (u ++ d :: w')) close = Text.startsWith (b :: (u ++ d :: w)) close := by
      intro hv
      rw [← List.cons_append, ← List.cons_append, Text.startsWith_append_of_length_le hv,
        Text.startsWith_append_of_length_le hv]
    simp only [List.cons_append, lengthToClose] at h ⊢
    split at h
    · next hs =>
      rw [hstarts h]
      simp [hs]
    · next hs =>
      have h' : lengthToClose close (u ++ d :: w) ≤ u.length := by simpa using h
      have hle := length_le_lengthToClose (Nat.lt_of_le_of_lt h' (by simp))
      rw [hstarts (by simp only [List.length_cons]; omega), ih h']

/-- A literal that ends where a text follows ends there too in front of another text, if that comes to an end
where the first one does, and begins a new line, at most, where the first one begins one. -/
theorem literalLength_of_rest {s s' : Text} (h : literalLength q (u ++ s) = u.length)
    (hend : s = [] → s' = []) (hline : s.head? = some '\n' → ∀ c ∈ s'.head?, c = '\n') :
    literalLength q (u ++ s') = u.length := by
  induction hn : u.length using Nat.strongRecOn generalizing u with
  | ind n ih =>
    subst hn
    cases u with
    | nil =>
      cases s with
      | nil =>
        rw [hend rfl]
        rfl
      | cons a s =>
        rw [List.nil_append, literalLength_cons] at h
        split_ifs at h with hback hdelimiter hnewline
        · split at h <;> simp at h
        · obtain ⟨rfl, hmultiline⟩ : a = '\n' ∧ q.multiline = false := by simpa using hnewline
          cases s' with
          | nil => rfl
          | cons b s' =>
            obtain rfl := hline rfl b rfl
            rw [List.nil_append, literalLength_cons, if_neg hback, if_neg hdelimiter, if_pos hnewline]
            rfl
    | cons b u =>
      rw [List.cons_append, literalLength_cons] at h ⊢
      split_ifs at h ⊢
      · cases u with
        | nil =>
          cases s with
          | nil =>
            rw [hend rfl]
            rfl
          | cons a s => simp at h
        | cons e u =>
          have h' : literalLength q (u ++ s) = u.length := by simpa using h
          simpa using ih u.length (by simp only [List.length_cons]; omega) h' rfl
      · exact h
      · have h' : literalLength q (u ++ s) = u.length := by simpa using h
        rw [ih u.length (by simp) h' rfl, List.length_cons]

/-! What opens at a place shows before a character that no marker holds, or right behind it. -/
section
variable (hd : l.Unmarked d)
include hd

theorem startsLineComment_congr (u w w' : Text) :
    l.startsLineComment (u ++ d :: w) = l.startsLineComment (u ++ d :: w') := by
  rw [startsLineComment, startsLineComment, Bool.eq_iff_iff, List.any_eq_true, List.any_eq_true]
  refine exists_congr fun m => and_congr_right fun hm => ?_
  rw [LineMarker.opens, LineMarker.opens, Text.strip?_append_of_notMem (hd.line m hm).2,
    Text.strip?_append_of_notMem (hd.line m hm).2]
  cases Text.strip? m.marker u with
  | none => exact Iff.rfl
  | some v => cases v <;> exact Iff.rfl

theorem blockComment?_congr (u w w' : Text) :
    l.blockComment? (u ++ d :: w) = l.blockComment? (u ++ d :: w') := by
  rw [blockComment?, blockComment?]
  cases hb : l.blockComment with
  | none => rfl
  | some b =>
    rw [Option.filter_some, Option.filter_some,
      Text.startsWith_append_congr (hd.block b hb).2.1 u w w']

theorem tripleQuote?_congr (u w w' : Text) :
    l.tripleQuote? (u ++ d :: w) = l.tripleQuote? (u ++ d :: w') := by
  have hq := hd.quote
  simp only [List.mem_cons, List.not_mem_nil, or_false, not_or] at hq
  have h1 : d ∉ ['"', '"', '"'] := by simp [hq.1]
  have h2 : d ∉ ['\'', '\'', '\''] := by simp [hq.2.1]
  simp only [tripleQuote?, List.find?_cons, List.find?_nil, Text.startsWith_append_congr h1 u w w',
    Text.startsWith_append_congr h2 u w w']

end

theorem looksLikeCharLiteral_congr (a b e : Char) (s s' : Text) :
    looksLikeCharLiteral (a :: b :: e :: s) = looksLikeCharLiteral (a :: b :: e :: s') := by
  by_cases hb : b = '\\'
  · rw [hb]
    rfl
  · by_cases he : e = '\''
    · simp [looksLikeCharLiteral, he]
    · simp [looksLikeCharLiteral, hb, he]

theorem quote?_congr (l : Lexicon) (c : Char) (u w w' : Text) :
    l.quote? (c :: (u ++ d :: x :: w)) = l.quote? (c :: (u ++ d :: x :: w')) := by
  have hchar : looksLikeCharLiteral (c :: (u ++ d :: x :: w)) =
      looksLikeCharLiteral (c :: (u ++ d :: x :: w')) := by
    rcases u with _ | ⟨a, _ | ⟨b, u⟩⟩ <;> exact looksLikeCharLiteral_congr _ _ _ _ _
  simp only [quote?, List.head?_cons, hchar]

private theorem length_takeWhile_congr {p : Char → Bool}
    (h : ((u ++ d :: w).takeWhile p).length ≤ u.length) (w' : Text) :
    ((u ++ d :: w').takeWhile p).length = ((u ++ d :: w).takeWhile p).length := by
  induction u with
  | nil =>
    cases hp : p d with
    | true => simp [hp] at h
    | false => simp [hp]
  | cons b u ih =>
    cases hp : p b with
    | true => simpa [hp] using ih (by simpa [hp] using h)
    | false => simp [hp]

/-- A token that ends in front of `d` is the same whatever stands behind `x`. -/
theorem tokenAt_congr (hd : l.Unmarked d) (h : (l.tokenAt c (u ++ d :: x :: w)).2 ≤ u.length)
    (w' : Text) : l.tokenAt c (u ++ d :: x :: w') = l.tokenAt c (u ++ d :: x :: w) := by
  have hline := startsLineComment_congr hd (c :: u) (x :: w') (x :: w)
  have hblock := blockComment?_congr hd (c :: u) (x :: w') (x :: w)
  have htriple := tripleQuote?_congr hd (c :: u) (x :: w') (x :: w)
  have hquote := quote?_congr (d := d) (x := x) l c u w' w
  simp only [List.cons_append] at hline hblock htriple
  have hdrop : ∀ n ≤ u.length, ∀ s, (u ++ d :: s).drop n = u.drop n ++ d :: s :=
    fun n hn s => List.drop_append_of_le_length hn
  unfold tokenAt at h ⊢
  rw [hline, hblock, htriple, hquote]
  split_ifs at h ⊢
  · rw [length_takeWhile_congr h]
  · cases hb : l.blockComment? (c :: (u ++ d :: x :: w)) with
    | some b =>
      obtain ⟨opener, closer⟩ := b
      have hmem : l.blockComment = some (opener, closer) := (Option.filter_eq_some_iff.mp hb).1
      simp only [hb] at h ⊢
      have hle : opener.length - 1 ≤ u.length := Nat.le_trans (Nat.le_add_right _ _) h
      have hne : closer ≠ [] := (hd.block _ hmem).2.2
      rw [hdrop _ hle] at h
      rw [hdrop _ hle, hdrop _ hle, lengthToClose_congr hne]
      rw [List.length_drop]
      omega
    | none =>
      simp only [hb] at h ⊢
      cases ht : l.tripleQuote? (c :: (u ++ d :: x :: w)) with
      | some delimiter =>
        have hne : delimiter ≠ [] := by
          rintro rfl
          simp only [tripleQuote?] at ht
          split_ifs at ht
          have := List.mem_of_find?_eq_some ht
          simp at this
        simp only [ht] at h ⊢
        have hle : 2 ≤ u.length := Nat.le_trans (Nat.le_add_right _ _) h
        rw [hdrop _ hle] at h
        rw [hdrop _ hle, hdrop _ hle, tripleLength_congr hne]
        rw [List.length_drop]
        omega
      | none =>
        simp only [ht] at h ⊢
        cases hq : l.quote? (c :: (u ++ d :: x :: w)) with
        | some q =>
          simp only [hq] at h ⊢
          rw [literalLength_congr h]
        | none => rfl

/-- A character that no marker holds is code, if it does not open a quote. -/
theorem tokenAt_of_unmarked (hd : l.Unmarked d) (w : Text) : l.tokenAt d w = (.code d, 0) := by
  have hq := hd.quote
  simp only [List.mem_cons, List.not_mem_nil, or_false, not_or] at hq
  have hstarts : ∀ m : Text, m ≠ [] → d ∉ m → Text.strip? m (d :: w) = none := by
    intro m hm hdm
    obtain ⟨a, m, rfl⟩ := List.exists_cons_of_ne_nil hm
    exact (Text.strip?_append_of_notMem hdm [] w).trans rfl
  have hline : l.startsLineComment (d :: w) = false := by
    rw [startsLineComment, List.any_eq_false]
    intro m hm
    simp [LineMarker.opens, hstarts _ (hd.line m hm).1 (hd.line m hm).2]
  have hblock : l.blockComment? (d :: w) = none := by
    rw [blockComment?, Option.filter_eq_none_iff]
    intro b hb
    simp [Text.startsWith, hstarts _ (hd.block b hb).1 (hd.block b hb).2.1]
  have htriple : l.tripleQuote? (d :: w) = none := by
    have h1 := hstarts ['"', '"', '"'] (by simp) (by simp [hq])
    have h2 := hstarts ['\'', '\'', '\''] (by simp) (by simp [hq])
    simp [tripleQuote?, Text.startsWith, h1, h2]
  have hquote : l.quote? (d :: w) = none := by
    simp only [quote?, List.head?_cons]
    split <;> simp_all
  simp [tokenAt, hline, hblock, htriple, hquote]

/-- The tokens in front of a character that no marker holds, and that character itself, are the same
whatever stands behind the next one. -/
theorem tokensFrom_congr (hd : l.Unmarked d) {start : Nat} {p : Text} {ts r : List Token} {t : Token}
    (h : l.tokensFrom start (p ++ d :: x :: w) = ts ++ t :: r) (hp : spelled ts = p) (w' : Text) :
    t = ⟨.code d, start + Text.byteSize p, [d]⟩ ∧
      ∃ r', l.tokensFrom start (p ++ d :: x :: w') = ts ++ t :: r' := by
  induction ts generalizing start p with
  | nil =>
    obtain rfl : [] = p := hp
    rw [List.nil_append, tokensFrom, tokenAt_of_unmarked hd] at h
    obtain ⟨rfl, -⟩ := List.cons_eq_cons.mp h
    refine ⟨rfl, l.tokensFrom (start + Text.byteSize [d]) (x :: w'), ?_⟩
    rw [List.nil_append, tokensFrom, tokenAt_of_unmarked hd]
    simp
  | cons t₀ ts ih =>
    cases p with
    | nil =>
      rw [List.nil_append, tokensFrom] at h
      obtain ⟨rfl, -⟩ := List.cons_eq_cons.mp h
      simp at hp
    | cons c p =>
      rw [List.cons_append, tokensFrom] at h
      obtain ⟨ht, h'⟩ := List.cons_eq_cons.mp h
      have hn : (l.tokenAt c (p ++ d :: x :: w)).2 ≤ p.length := by
        have hlen := congrArg List.length hp
        rw [spelled_cons, ← ht, List.length_append, List.length_cons, List.length_take,
          List.length_append, List.length_cons, List.length_cons, List.length_cons] at hlen
        omega
      have hsame := tokenAt_congr hd hn w'
      rw [List.cons_append, tokensFrom, hsame]
      generalize l.tokenAt c (p ++ d :: x :: w) = k at ht h' hn
      rw [List.take_append_of_le_length hn] at ht h' ⊢
      rw [List.drop_append_of_le_length hn] at h' ⊢
      have hrest : spelled ts = p.drop k.2 := by
        rw [spelled_cons, ← ht] at hp
        exact List.append_cancel_left
          ((List.cons_eq_cons.mp hp).2.trans (List.take_append_drop k.2 p).symm)
      obtain ⟨rfl, r', hr'⟩ := ih h' hrest
      refine ⟨?_, r', ?_⟩
      · have hsize := congrArg Text.byteSize (List.take_append_drop k.2 p)
        rw [Text.byteSize_append] at hsize
        rw [Text.byteSize_cons, Text.byteSize_cons, ← hsize]
        simp only [Token.mk.injEq, true_and, and_true]
        omega
      · rw [hr', ht]
        rfl

end Lexicon
end CodeDigest
