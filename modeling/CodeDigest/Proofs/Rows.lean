import CodeDigest.Capture
import CodeDigest.Proofs.Blanks
import CodeDigest.Proofs.Pieces

/-! The rows of a source are the pieces of its text between newlines, and the row of an offset is
the number of newlines before it. -/
namespace CodeDigest

namespace Source
open Text (PieceAt)
variable {content before piece after : Text} {row : Nat}

private theorem rowsFrom_append (start : Nat) (ps qs : List Text) :
    rowsFrom start (ps ++ qs) = rowsFrom start ps ++
      rowsFrom (start + Text.byteSize (ps.flatMap (· ++ ['\n']))) qs := by
  have hn : ('\n' : Char).utf8Size = 1 := by decide
  induction ps generalizing start with
  | nil => simp [rowsFrom]
  | cons p ps ih => simp [rowsFrom, ih, hn, Nat.add_assoc]

/-- Ending each piece with a newline gives the text, ended with a newline. -/
private theorem flatMap_splitOn (s : Text) :
    (Text.splitOn '\n' s).flatMap (· ++ ['\n']) = s ++ ['\n'] := by
  obtain ⟨init, last, hs, htext⟩ := Text.exists_splitOn_eq_snoc s
  rw [hs, List.flatMap_append, List.flatMap_singleton, ← List.append_assoc, ← htext]

theorem map_text_rowsFrom (start : Nat) (ps : List Text) :
    (rowsFrom start ps).map (·.text) = ps.map Text.chopReturn := by
  induction ps generalizing start with
  | nil => rfl
  | cons p ps ih => simp [rowsFrom, ih]

private theorem length_rowsFrom (start : Nat) (ps : List Text) :
    (rowsFrom start ps).length = ps.length := by
  simpa using congrArg List.length (map_text_rowsFrom start ps)

theorem line?_ofText (content : Text) (row : Nat) :
    (ofText content).line? row = (Text.splitOn '\n' content)[row]?.map Text.chopReturn := by
  rw [line?, ← List.getElem?_map, ofText, map_text_rowsFrom, List.getElem?_map]

theorem getElem?_lines (s : Source) (first last i : Nat) :
    (s.lines first last)[i]? = if first + i ≤ last then s.line? (first + i) else none := by
  rw [lines, List.getElem?_map, List.getElem?_drop, List.getElem?_take]
  by_cases h : first + i ≤ last
  · rw [if_pos h, if_pos (by omega), line?]
  · rw [if_neg h, if_neg (by omega), Option.map_none]

theorem length_lines {s : Source} {first last : Nat} (h : last < s.lineCount) (hle : first ≤ last) :
    (s.lines first last).length = last + 1 - first := by
  rw [lineCount] at h
  simp only [lines, List.length_map, List.length_drop, List.length_take]
  omega

theorem exists_lines_eq_cons {s : Source} {first last : Nat} {line : Text} (hle : first ≤ last)
    (hline : s.line? first = some line) : ∃ more, s.lines first last = line :: more := by
  have hfirst := getElem?_lines s first last 0
  rw [Nat.add_zero, if_pos hle, hline] at hfirst
  cases h : s.lines first last with
  | nil => simp [h] at hfirst
  | cons m more => exact ⟨more, by simpa [h] using hfirst⟩

theorem lt_lineCount_of_line? {s : Source} {line : Text} (h : s.line? row = some line) :
    row < s.lineCount := by
  obtain ⟨r, hr, -⟩ := Option.map_eq_some_iff.mp h
  exact (List.getElem?_eq_some_iff.mp hr).1

theorem exists_line? {s : Source} (h : row < s.lineCount) : ∃ line, s.line? row = some line :=
  ⟨_, congrArg (Option.map Row.text) (List.getElem?_eq_getElem h)⟩

/-! What two sources show of the rows above a row that they share. -/
section
variable {s₁ s₂ : Source} (h : s₁.rows.take row = s₂.rows.take row)
include h

theorem line?_congr {above : Nat} (hlt : above < row) : s₁.line? above = s₂.line? above := by
  rw [line?, line?, ← List.getElem?_take_of_lt hlt, h, List.getElem?_take_of_lt hlt]

theorem lines_congr {last : Nat} (hlt : last < row) (first : Nat) :
    s₁.lines first last = s₂.lines first last := by
  have htake : s₁.rows.take (last + 1) = s₂.rows.take (last + 1) := by
    simpa [List.take_take, Nat.min_eq_left hlt] using congrArg (List.take (last + 1)) h
  rw [lines, lines, htake]

end

theorem lineCount_ofText (content : Text) :
    (ofText content).lineCount = content.count '\n' + 1 := by
  exact (length_rowsFrom 0 _).trans (Text.length_splitOn '\n' content)

private theorem start_mem_rowsFrom {start : Nat} {ps : List Text} {r : Row}
    (h : r ∈ rowsFrom start ps) :
    start ≤ r.start ∧ r.start ≤ start + Text.byteSize (ps.flatMap (· ++ ['\n'])) := by
  have hn : ('\n' : Char).utf8Size = 1 := by decide
  induction ps generalizing start with
  | nil => simp [rowsFrom] at h
  | cons p ps ih =>
    simp only [List.flatMap_cons, Text.byteSize_append, Text.byteSize_cons, Text.byteSize_nil, hn]
    obtain rfl | h := List.mem_cons.mp h
    · exact ⟨Nat.le_refl _, Nat.le_add_right _ _⟩
    · have := ih h
      omega

/-- The rows before, at and behind a piece of the text: only those behind start behind it. -/
theorem rows_of_pieceAt (h : PieceAt '\n' content row before piece after) :
    ∃ above below, (ofText content).rows =
        above ++ ⟨Text.byteSize before, Text.chopReturn piece⟩ :: below ∧ above.length = row ∧
      (∀ r ∈ above, r.start ≤ Text.byteSize before) ∧
      ∀ r ∈ below, Text.byteSize (before ++ piece) < r.start := by
  obtain ⟨ps, qs, hs, hb, hrow⟩ := h.splitOn_eq
  have hjoin := flatMap_splitOn before
  rw [hb, List.flatMap_append] at hjoin
  obtain ⟨hps, -⟩ := List.append_inj' hjoin rfl
  refine ⟨rowsFrom 0 ps, rowsFrom (Text.byteSize before + Text.byteSize piece + 1) qs, ?_, ?_, ?_, ?_⟩
  · rw [ofText, hs, rowsFrom_append, hps, Nat.zero_add]
    rfl
  · rw [length_rowsFrom, hrow]
  · intro r hr
    have := (start_mem_rowsFrom hr).2
    rw [hps] at this
    omega
  · intro r hr
    have := (start_mem_rowsFrom hr).1
    rw [Text.byteSize_append]
    omega

/-- The rows above a piece depend on nothing but the text before it. -/
theorem rows_take_of_pieceAt (h : PieceAt '\n' content row before piece after) :
    (ofText content).rows.take row = (ofText before).rows.take row := by
  obtain ⟨ps, qs, hs, hb, hrow⟩ := h.splitOn_eq
  rw [← length_rowsFrom 0 ps] at hrow
  rw [ofText, ofText, hs, hb, rowsFrom_append, rowsFrom_append, List.take_left' hrow,
    List.take_left' hrow]

theorem rows_getElem?_of_pieceAt (h : PieceAt '\n' content row before piece after) :
    (ofText content).rows[row]? = some ⟨Text.byteSize before, Text.chopReturn piece⟩ := by
  obtain ⟨above, below, hr, rfl, -, -⟩ := rows_of_pieceAt h
  simp [hr]

theorem offset?_of_pieceAt (h : PieceAt '\n' content row before piece after) (column : Nat) :
    (ofText content).offset? row column =
      if column ≤ Text.byteSize (Text.chopReturn piece) then some (Text.byteSize before + column)
      else none := by
  rw [offset?, rows_getElem?_of_pieceAt h]
  rfl

theorem line?_of_pieceAt (h : PieceAt '\n' content row before piece after) :
    (ofText content).line? row = some (Text.chopReturn piece) := by
  rw [line?_ofText, h.getElem?_eq]
  rfl

theorem exists_pieceAt_of_line? {line : Text} (h : (ofText content).line? row = some line) :
    ∃ before piece after, PieceAt '\n' content row before piece after ∧
      line = Text.chopReturn piece := by
  rw [line?_ofText] at h
  obtain ⟨piece, hp, rfl⟩ := Option.map_eq_some_iff.mp h
  obtain ⟨before, after, hp⟩ := Text.getElem?_splitOn_eq_some_iff.mp hp
  exact ⟨before, piece, after, hp, rfl⟩

theorem exists_pieceAt_of_offset? {column o : Nat} (h : (ofText content).offset? row column = some o) :
    ∃ before piece after, PieceAt '\n' content row before piece after ∧
      column ≤ Text.byteSize (Text.chopReturn piece) ∧ o = Text.byteSize before + column := by
  obtain ⟨r, hr, -⟩ := Option.bind_eq_some_iff.mp h
  have hlt := (List.getElem?_eq_some_iff.mp hr).1
  have hl : (ofText content).rows.length = (Text.splitOn '\n' content).length := by
    rw [Text.length_splitOn]
    exact lineCount_ofText content
  obtain ⟨before, after, hp⟩ :=
    Text.getElem?_splitOn_eq_some_iff.mp (List.getElem?_eq_getElem (hl ▸ hlt))
  rw [offset?_of_pieceAt hp] at h
  split at h
  · next hc => exact ⟨before, _, after, hp, hc, (Option.some.inj h).symm⟩
  · cases h

/-- An offset that a position names lies on the position's row, `column` bytes behind its start. -/
theorem exists_row_of_offset? {p q : Text} {column : Nat}
    (h : (ofText (p ++ q)).offset? row column = some (Text.byteSize p)) :
    ∃ before k rest after, p = before ++ k ∧ q = rest ++ after ∧
      PieceAt '\n' (p ++ q) row before (k ++ rest) after ∧ Text.byteSize k = column ∧
      column ≤ Text.byteSize (Text.chopReturn (k ++ rest)) := by
  obtain ⟨before, piece, after, hp, hcol, hsize⟩ := exists_pieceAt_of_offset? h
  have he := hp.text_eq
  rw [List.append_assoc] at he
  obtain ⟨k, rfl, hk⟩ := Text.exists_middle_of_byteSize_le he.symm (by omega)
  rw [Text.byteSize_append] at hsize
  have hle := Text.byteSize_le_of_isPrefix (Text.chopReturn_isPrefix piece)
  obtain ⟨rest, rfl, rfl⟩ := Text.exists_middle_of_byteSize_le hk.symm (by omega)
  exact ⟨before, k, rest, after, rfl, rfl, hp, by omega, hcol⟩

/-- A position's row counts the newlines before the offset that the position names. -/
theorem count_of_offset? {p q : Text} {column : Nat}
    (h : (ofText (p ++ q)).offset? row column = some (Text.byteSize p)) : p.count '\n' = row := by
  obtain ⟨before, k, rest, after, rfl, -, hp, -, -⟩ := exists_row_of_offset? h
  have hk : '\n' ∉ k := fun hm => hp.notMem (List.mem_append_left _ hm)
  rw [List.count_append, hp.count_eq, List.count_eq_zero.mpr hk, Nat.add_zero]

/-- A row starts before all that stands on it. -/
theorem le_of_offset? {s : Source} {column o lead : Nat} (hlead : s.offset? row 0 = some lead)
    (h : s.offset? row column = some o) : lead ≤ o := by
  obtain ⟨r, hr, h⟩ := Option.bind_eq_some_iff.mp h
  rw [offset?, hr, Option.bind_some, if_pos (Nat.zero_le _), Option.some_inj] at hlead
  split at h
  · cases h
    omega
  · cases h

/-- A place names the same row and column in two texts that agree beyond it. The two rows are equal,
or both go on beyond what the texts agree on. -/
theorem exists_shared_row {a u w₁ : Text} {column : Nat} (w₂ : Text) (hu : u ≠ [])
    (h : (ofText (a ++ (u ++ w₁))).offset? row column = some (Text.byteSize a)) :
    ∃ before k rest₁ rest₂ after₁ after₂, a = before ++ k ∧ Text.byteSize k = column ∧
      PieceAt '\n' (a ++ (u ++ w₁)) row before (k ++ rest₁) after₁ ∧
      PieceAt '\n' (a ++ (u ++ w₂)) row before (k ++ rest₂) after₂ ∧
      column ≤ Text.byteSize (Text.chopReturn (k ++ rest₁)) ∧
      column ≤ Text.byteSize (Text.chopReturn (k ++ rest₂)) ∧
      (rest₁ = rest₂ ∨ ∃ m₁ m₂, rest₁ = u ++ m₁ ∧ rest₂ = u ++ m₂) := by
  obtain ⟨before, k, rest, after, rfl, -, hp, hk, hcol⟩ := exists_row_of_offset? h
  have hnl : '\n' ∉ k := fun hm => hp.notMem (List.mem_append_left _ hm)
  by_cases hmem : '\n' ∈ u
  · obtain ⟨e, v, rfl, he⟩ := List.eq_append_cons_of_mem hmem
    have hrow : ∀ w, PieceAt '\n' (before ++ k ++ (e ++ '\n' :: v ++ w)) row before (k ++ e)
        ('\n' :: (v ++ w)) := fun w =>
      ⟨by simp, by simp [hnl, he], hp.count_eq, hp.starts, .inr ⟨v ++ w, rfl⟩⟩
    have hsame := Option.some.inj (hp.getElem?_eq.symm.trans (hrow w₁).getElem?_eq)
    rw [hsame] at hcol
    exact ⟨before, k, e, e, _, _, rfl, hk, hrow w₁, hrow w₂, hcol, hcol, .inl rfl⟩
  · have hrow : ∀ w, ∃ m b, PieceAt '\n' (before ++ k ++ (u ++ w)) row before (k ++ (u ++ m)) b := by
      intro w
      obtain ⟨m, b, rfl, hm, hb⟩ := Text.exists_firstPiece '\n' w
      exact ⟨m, b, by simp, by simp [hnl, hmem, hm], hp.count_eq, hp.starts, hb⟩
    have hcol' : ∀ m, column ≤ Text.byteSize (Text.chopReturn (k ++ (u ++ m))) := by
      intro m
      rw [Text.chopReturn_append (by simp [hu]), Text.byteSize_append, hk]
      omega
    obtain ⟨m₁, b₁, h₁⟩ := hrow w₁
    obtain ⟨m₂, b₂, h₂⟩ := hrow w₂
    exact ⟨before, k, _, _, b₁, b₂, rfl, hk, h₁, h₂, hcol' m₁, hcol' m₂, .inr ⟨m₁, m₂, rfl, rfl⟩⟩

/-- Every offset lies on a piece, at most on the newline behind it, or behind the last piece. -/
theorem exists_pieceAt_of_byte (content : Text) (o : Nat) :
    ∃ row before piece after column, PieceAt '\n' content row before piece after ∧
      o = Text.byteSize before + column ∧ (column ≤ Text.byteSize piece ∨ after = []) := by
  have hn : ('\n' : Char).utf8Size = 1 := by decide
  obtain ⟨p, q, hs, hle, hlt⟩ := Text.exists_boundary content o
  have hs' : content = p ++ [] ++ q := by rw [hs, List.append_nil]
  obtain ⟨before, k, k', after, rfl, rfl, hp⟩ :=
    Text.exists_pieceAt_of_notMem hs' (List.not_mem_nil : '\n' ∉ [])
  rw [List.append_nil] at hp
  rw [Text.byteSize_append] at hle hlt
  refine ⟨_, before, k ++ k', after, o - Text.byteSize before, hp, by omega, ?_⟩
  rw [Text.byteSize_append]
  cases k' with
  | cons c k' =>
    have := hlt c rfl
    rw [Text.byteSize_cons]
    omega
  | nil =>
    obtain rfl | ⟨b, rfl⟩ := hp.ends
    · exact .inr rfl
    · have := hlt '\n' rfl
      omega

/-- The position of an offset on a piece names the piece's row and the bytes before the offset. -/
theorem position_of_pieceAt {column : Nat} (h : PieceAt '\n' content row before piece after)
    (hcolumn : column ≤ Text.byteSize piece ∨ after = []) :
    (ofText content).position (Text.byteSize before + column) = ⟨row, column⟩ := by
  obtain ⟨above, below, hr, hlen, hle, hlt⟩ := rows_of_pieceAt h
  have hbelow : ∀ r ∈ below, Text.byteSize before + column < r.start := by
    obtain hcolumn | rfl := hcolumn
    · intro r hr
      have := hlt r hr
      rw [Text.byteSize_append] at this
      omega
    · -- Nothing stands behind the piece, so no row is below it.
      have hcount := lineCount_ofText content
      rw [lineCount, hr, List.length_append, List.length_cons, hlen, h.text_eq, List.append_nil,
        List.count_append, h.count_eq, List.count_eq_zero.mpr h.notMem] at hcount
      obtain rfl : below = [] := List.length_eq_zero_iff.mp (by omega)
      simp
  have htake : (ofText content).rows.takeWhile
      (fun r => decide (r.start ≤ Text.byteSize before + column)) =
        above ++ [⟨Text.byteSize before, Text.chopReturn piece⟩] := by
    have hsplit : (ofText content).rows =
        (above ++ [⟨Text.byteSize before, Text.chopReturn piece⟩]) ++ below := by simp [hr]
    rw [hsplit]
    refine (Text.takeWhile_append_stop ?_ ?_).1
    · intro r hr
      obtain hr | hr := List.mem_append.mp hr
      · have := hle r hr
        simp only [decide_eq_true_eq]
        omega
      · rw [List.mem_singleton.mp hr]
        simp
    · intro r hr
      have := hbelow r (List.mem_of_mem_head? hr)
      simpa using this
  simp only [position, htake, List.length_append, List.length_singleton, Nat.add_sub_cancel, hlen,
    rows_getElem?_of_pieceAt h, Option.map_some, Option.getD_some, Nat.add_sub_cancel_left]

/-- The row of an offset counts the newlines before it. -/
theorem position_row (p q : Text) :
    ((ofText (p ++ q)).position (Text.byteSize p)).row = p.count '\n' := by
  have he : p ++ q = p ++ [] ++ q := by rw [List.append_nil]
  obtain ⟨before, k, k', after, rfl, rfl, hp⟩ :=
    Text.exists_pieceAt_of_notMem he (List.not_mem_nil : '\n' ∉ [])
  rw [List.append_nil] at hp
  rw [Text.byteSize_append, position_of_pieceAt hp (.inl (by simp))]

end Source

/-- The end of a capture lies on its last row, or before it. -/
theorem Capture.count_le_endRow {p q : Text} (c : Capture)
    (h : c.stop (.ofText (p ++ q)) = Text.byteSize p) :
    p.count '\n' ≤ c.endRow := by
  have hrow : ∀ column, (Source.ofText (p ++ q)).offset? c.endRow column = some (Text.byteSize p) →
      p.count '\n' ≤ c.endRow := by
    intro column ho
    exact Nat.le_of_eq (Source.count_of_offset? ho)
  rw [Capture.stop] at h
  cases ho : (Source.ofText (p ++ q)).offset? c.endRow c.endColumn with
  | some o =>
    rw [ho] at h
    exact hrow _ (ho.trans (congrArg some h))
  | none =>
    rw [ho, Option.none_or] at h
    cases he : (Source.ofText (p ++ q)).rows[c.endRow]? with
    | some row =>
      rw [Source.lineEnd?, he] at h
      apply hrow (Text.byteSize row.text)
      rw [Source.offset?, he, Option.bind_some, if_pos (Nat.le_refl _)]
      exact congrArg some h
    | none =>
      have hlen := List.getElem?_eq_none_iff.mp he
      rw [← Source.lineCount, Source.lineCount_ofText, List.count_append] at hlen
      omega

end CodeDigest
