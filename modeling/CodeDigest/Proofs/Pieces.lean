import CodeDigest.Proofs.Bytes
import CodeDigest.Text.Lines

/-! The pieces of a text between separators: where each of them stands, and what joins them. -/
namespace CodeDigest.Text

/-- What is taken ends where the property stops. -/
theorem takeWhile_append_stop {α : Type} {p : α → Bool} {as bs : List α} (has : ∀ a ∈ as, p a = true)
    (hbs : ∀ b ∈ bs.head?, p b = false) :
    (as ++ bs).takeWhile p = as ∧ (as ++ bs).dropWhile p = bs := by
  rw [List.takeWhile_append_of_pos has, List.dropWhile_append_of_pos has]
  cases bs with
  | nil => simp
  | cons b bs =>
    have hb : ¬p b = true := by simp [hbs b rfl]
    rw [List.takeWhile_cons_of_neg hb, List.dropWhile_cons_of_neg hb, List.append_nil]
    exact ⟨rfl, rfl⟩

theorem splitOn_eq_list_splitOn (sep : Char) (s : Text) : splitOn sep s = List.splitOn sep s := by
  induction s with
  | nil => rfl
  | cons c s ih =>
    rw [splitOn, ih, List.splitOn_cons_eq_if_modifyHead]
    by_cases h : c = sep
    · simp [h]
    · rw [if_neg h, if_neg (by simpa using h)]
      cases hs : List.splitOn sep s with
      | nil => exact absurd hs (List.splitOn_ne_nil sep s)
      | cons p ps => rfl

theorem splitOn_ne_nil (sep : Char) (s : Text) : splitOn sep s ≠ [] := by
  rw [splitOn_eq_list_splitOn]
  exact List.splitOn_ne_nil sep s

theorem splitOn_of_notMem {sep : Char} {s : Text} (h : sep ∉ s) : splitOn sep s = [s] := by
  rw [splitOn_eq_list_splitOn, List.splitOn_eq_singleton h]

theorem splitOn_append_sep (sep : Char) (a b : Text) :
    splitOn sep (a ++ sep :: b) = splitOn sep a ++ splitOn sep b := by
  simp only [splitOn_eq_list_splitOn, List.splitOn_append_cons_self]

theorem length_splitOn (sep : Char) (s : Text) : (splitOn sep s).length = s.count sep + 1 := by
  induction s with
  | nil => rfl
  | cons c s ih =>
    rw [splitOn_eq_list_splitOn, List.splitOn_cons_eq_if_modifyHead, ← splitOn_eq_list_splitOn]
    by_cases h : c = sep
    · simp [h, ih]
    · simp [h, ih]

theorem joinWith_splitOn (sep : Char) (s : Text) : joinWith [sep] (splitOn sep s) = s := by
  rw [splitOn_eq_list_splitOn, joinWith, List.intercalate_splitOn]

theorem splitOn_unlines {ls : List Text} (hne : ls ≠ []) (h : ∀ l ∈ ls, '\n' ∉ l) :
    splitOn '\n' (unlines ls) = ls := by
  rw [splitOn_eq_list_splitOn, unlines, joinWith, List.splitOn_intercalate _ h hne]

theorem unlines_cons_snoc (l last : Text) (ls : List Text) :
    unlines (l :: (ls ++ [last])) = l ++ '\n' :: unlines (ls ++ [last]) := by
  cases ls <;> simp [unlines, joinWith]

theorem splitOn_unlines_append {ls : List Text} (h : ∀ l ∈ ls, '\n' ∉ l) (body : Text) :
    splitOn '\n' (unlines (ls ++ [body])) = ls ++ splitOn '\n' body := by
  induction ls with
  | nil => simp [unlines, joinWith]
  | cons l ls ih =>
    rw [List.cons_append, unlines_cons_snoc, splitOn_append_sep, splitOn_of_notMem (h l (by simp)),
      ih fun m hm => h m (List.mem_cons_of_mem l hm)]
    rfl

/-- All lines but the last end with a newline. -/
theorem unlines_snoc (ls : List Text) (last : Text) :
    unlines (ls ++ [last]) = ls.flatMap (· ++ ['\n']) ++ last := by
  induction ls with
  | nil => simp [unlines, joinWith]
  | cons l ls ih =>
    rw [List.cons_append, unlines_cons_snoc, ih, List.flatMap_cons]
    simp

/-- A text is all its pieces but the last, each with a newline behind it, and the last. -/
theorem exists_splitOn_eq_snoc (s : Text) :
    ∃ init last, splitOn '\n' s = init ++ [last] ∧ s = init.flatMap (· ++ ['\n']) ++ last := by
  obtain ⟨init, last, hs⟩ := (List.eq_nil_or_concat _).resolve_left (splitOn_ne_nil '\n' s)
  rw [List.concat_eq_append] at hs
  refine ⟨init, last, hs, ?_⟩
  rw [← unlines_snoc, ← hs]
  exact (joinWith_splitOn '\n' s).symm

/-- What stands before a text without a separator is a part of its first piece. -/
theorem splitOn_append_of_notMem_left {sep : Char} {k s p : Text} {ps : List Text} (hk : sep ∉ k)
    (hs : splitOn sep s = p :: ps) : splitOn sep (k ++ s) = (k ++ p) :: ps := by
  induction k with
  | nil => exact hs
  | cons c k ih =>
    obtain ⟨hc, hk⟩ := List.ne_and_not_mem_of_not_mem_cons hk
    rw [List.cons_append, splitOn, if_neg (Ne.symm hc), ih hk]
    rfl

/-- Cuts off what stands behind the last separator. -/
theorem exists_lastPiece (sep : Char) (s : Text) :
    ∃ a k, s = a ++ k ∧ sep ∉ k ∧ (a = [] ∨ ∃ a', a = a' ++ [sep]) := by
  by_cases h : sep ∈ s
  · obtain ⟨k, b, hs, hk⟩ := List.eq_append_cons_of_mem (List.mem_reverse.mpr h)
    refine ⟨b.reverse ++ [sep], k.reverse, ?_, by simpa using hk, .inr ⟨b.reverse, rfl⟩⟩
    have h := congrArg List.reverse hs
    rw [List.reverse_reverse] at h
    rw [h]
    simp
  · exact ⟨[], s, rfl, h, .inl rfl⟩

/-- Cuts off what stands before the first separator. -/
theorem exists_firstPiece (sep : Char) (s : Text) :
    ∃ k b, s = k ++ b ∧ sep ∉ k ∧ (b = [] ∨ ∃ b', b = sep :: b') := by
  by_cases h : sep ∈ s
  · obtain ⟨k, b, hs, hk⟩ := List.eq_append_cons_of_mem h
    exact ⟨k, sep :: b, hs, hk, .inr ⟨b, rfl⟩⟩
  · exact ⟨s, [], by simp, h, .inl rfl⟩

/-- The pieces of what stands between two separators, or between a separator and an end of the text,
are pieces of the text. What stands before gives as many pieces as it has separators, and an empty
one. -/
theorem exists_splitOn_eq_append {sep : Char} {before after : Text}
    (hb : before = [] ∨ ∃ a, before = a ++ [sep]) (ha : after = [] ∨ ∃ b, after = sep :: b)
    (s : Text) :
    ∃ ps qs, splitOn sep (before ++ s ++ after) = ps ++ splitOn sep s ++ qs ∧
      splitOn sep before = ps ++ [[]] ∧ ps.length = before.count sep := by
  obtain ⟨qs, hq⟩ : ∃ qs, splitOn sep (s ++ after) = splitOn sep s ++ qs := by
    obtain rfl | ⟨b, rfl⟩ := ha
    · exact ⟨[], by rw [List.append_nil, List.append_nil]⟩
    · exact ⟨splitOn sep b, splitOn_append_sep sep s b⟩
  rw [List.append_assoc]
  obtain rfl | ⟨a, rfl⟩ := hb
  · exact ⟨[], qs, hq, rfl, rfl⟩
  · have hlen := length_splitOn sep (a ++ [sep])
    rw [splitOn_append_sep, List.length_append] at hlen
    refine ⟨splitOn sep a, qs, ?_, splitOn_append_sep sep a [], Nat.succ.inj hlen⟩
    rw [List.append_assoc, List.singleton_append, splitOn_append_sep, hq, List.append_assoc]

/-- A piece of a text with what stands before and behind it. `row` separators stand before. -/
structure PieceAt (sep : Char) (s : Text) (row : Nat) (before piece after : Text) : Prop where
  text_eq : s = before ++ piece ++ after
  notMem : sep ∉ piece
  count_eq : before.count sep = row
  starts : before = [] ∨ ∃ a, before = a ++ [sep]
  ends : after = [] ∨ ∃ b, after = sep :: b

namespace PieceAt
variable {sep : Char} {s before piece after : Text} {row : Nat}

/-- What stands before a piece gives the `row` pieces before it, and one empty piece. -/
theorem splitOn_eq (h : PieceAt sep s row before piece after) :
    ∃ ps qs, splitOn sep s = ps ++ piece :: qs ∧ splitOn sep before = ps ++ [[]] ∧
      ps.length = row := by
  obtain ⟨ps, qs, hs, hb, hlen⟩ := exists_splitOn_eq_append h.starts h.ends piece
  rw [splitOn_of_notMem h.notMem] at hs
  exact ⟨ps, qs, by rw [h.text_eq, hs, List.append_assoc]; rfl, hb, hlen.trans h.count_eq⟩

theorem getElem?_eq (h : PieceAt sep s row before piece after) :
    (splitOn sep s)[row]? = some piece := by
  obtain ⟨ps, qs, he, -, rfl⟩ := h.splitOn_eq
  simp [he]

end PieceAt

/-- What holds no separator lies on the piece that the separators before it count. -/
theorem exists_pieceAt_of_notMem {sep : Char} {s a m b : Text} (hs : s = a ++ m ++ b)
    (hm : sep ∉ m) : ∃ before k k' after, a = before ++ k ∧ b = k' ++ after ∧
      PieceAt sep s (a.count sep) before (k ++ m ++ k') after := by
  obtain ⟨before, k, rfl, hk, hstart⟩ := exists_lastPiece sep a
  obtain ⟨k', after, rfl, hk', hend⟩ := exists_firstPiece sep b
  refine ⟨before, k, k', after, rfl, rfl, by simpa using hs, ?_, ?_, hstart, hend⟩
  · simp [hk, hm, hk']
  · simp [List.count_eq_zero.mpr hk]

theorem getElem?_splitOn_eq_some_iff {sep : Char} {s piece : Text} {row : Nat} :
    (splitOn sep s)[row]? = some piece ↔ ∃ before after, PieceAt sep s row before piece after := by
  constructor
  · intro h
    induction row generalizing s with
    | zero =>
      obtain ⟨k, b, rfl, hk, hend⟩ := exists_firstPiece sep s
      have hp : PieceAt sep (k ++ b) 0 [] k b := ⟨rfl, hk, rfl, .inl rfl, hend⟩
      obtain rfl : k = piece := by simpa [hp.getElem?_eq] using h
      exact ⟨[], b, hp⟩
    | succ row ih =>
      obtain ⟨k, b, rfl, hk, hend⟩ := exists_firstPiece sep s
      obtain rfl | ⟨b, rfl⟩ := hend
      · rw [List.append_nil, splitOn_of_notMem hk] at h
        simp at h
      · rw [splitOn_append_sep, splitOn_of_notMem hk] at h
        obtain ⟨before, after, hp⟩ := ih (by simpa using h)
        refine ⟨k ++ sep :: before, after, by simp [hp.text_eq], hp.notMem, ?_, ?_, hp.ends⟩
        · simp [List.count_eq_zero.mpr hk, hp.count_eq]
        · right
          obtain hb | ⟨a, hb⟩ := hp.starts
          · exact ⟨k, by rw [hb]⟩
          · exact ⟨k ++ sep :: a, by rw [hb]; simp⟩
  · rintro ⟨before, after, h⟩
    exact h.getElem?_eq

theorem notMem_of_mem_splitOn {sep : Char} {s piece : Text} (h : piece ∈ splitOn sep s) :
    sep ∉ piece := by
  obtain ⟨row, hrow⟩ := List.mem_iff_getElem?.mp h
  obtain ⟨_, _, hp⟩ := getElem?_splitOn_eq_some_iff.mp hrow
  exact hp.notMem

end CodeDigest.Text
