import CodeDigest.Proofs.Rows

/-! Offsets and positions name the same places: either gives back the other, and both have one order. -/
namespace CodeDigest

/-- A position on an earlier row, or further left on the same row. -/
def Position.Before (p q : Position) : Prop := p.row < q.row ∨ p.row = q.row ∧ p.column < q.column

instance (p q : Position) : Decidable (p.Before q) := inferInstanceAs (Decidable (_ ∨ _))

/-- An offset right behind a carriage return that ends its line. The return is no part of the line, so
no position names the offset. -/
def Text.BehindReturn (s : Text) (o : Nat) : Prop :=
  ∃ before after, s = before ++ ['\r'] ++ after ∧ byteSize (before ++ ['\r']) = o ∧
    (after = [] ∨ ∃ rest, after = '\n' :: rest)

namespace Source
open Text (PieceAt)
variable {content before piece after : Text} {row column o o' : Nat}

/-- The offset of a position is at that position. -/
theorem position_of_offset? (h : (ofText content).offset? row column = some o) :
    (ofText content).position o = ⟨row, column⟩ := by
  obtain ⟨before, piece, after, hp, hcolumn, rfl⟩ := exists_pieceAt_of_offset? h
  have hle := Text.byteSize_le_of_isPrefix (Text.chopReturn_isPrefix piece)
  exact position_of_pieceAt hp (.inl (hcolumn.trans hle))

/-- The position right behind a carriage return at the end of a line lies behind the line. -/
theorem offset?_position_of_behindReturn (h : content.BehindReturn o) :
    (ofText content).offset? ((ofText content).position o).row ((ofText content).position o).column =
      none := by
  obtain ⟨b, a, hs, rfl, ha⟩ := h
  obtain ⟨before, k, k', after, rfl, rfl, hp⟩ :=
    Text.exists_pieceAt_of_notMem hs (by decide : '\n' ∉ ['\r'])
  have hk' : k' = [] := by
    obtain ha | ⟨rest, ha⟩ := ha
    · exact (List.append_eq_nil_iff.mp ha).1
    · cases k' with
      | nil => rfl
      | cons c k' =>
        obtain ⟨rfl, -⟩ := List.cons_eq_cons.mp ha
        exact absurd (by simp) hp.notMem
  subst hk'
  have hchop : Text.chopReturn (k ++ ['\r'] ++ []) = k := by
    simp [Text.chopReturn]
  rw [List.append_assoc before, Text.byteSize_append, position_of_pieceAt hp (.inl (by simp)),
    offset?_of_pieceAt hp, hchop, if_neg]
  have hr : ('\r' : Char).utf8Size = 1 := by decide
  simp [hr]

/-- Any other position leads back to its offset. -/
theorem offset?_position (ho : o ≤ Text.byteSize content) (h : ¬content.BehindReturn o) :
    (ofText content).offset? ((ofText content).position o).row ((ofText content).position o).column =
      some o := by
  obtain ⟨row, before, piece, after, column, hp, rfl, hcolumn⟩ := exists_pieceAt_of_byte content o
  have hle : column ≤ Text.byteSize piece := by
    obtain hcolumn | rfl := hcolumn
    · exact hcolumn
    · rw [hp.text_eq] at ho
      simp only [Text.byteSize_append, Text.byteSize_nil] at ho
      omega
  rw [position_of_pieceAt hp hcolumn, offset?_of_pieceAt hp, if_pos]
  dsimp only
  obtain hpiece | hpiece := Text.chopReturn_spec piece
  · rwa [← hpiece]
  · -- The piece loses a carriage return, and the offset is not the one behind it.
    by_contra hlt
    have hr : ('\r' : Char).utf8Size = 1 := by decide
    rw [hpiece] at hle
    simp only [Text.byteSize_append, Text.byteSize_cons, Text.byteSize_nil, hr] at hle
    apply h
    refine ⟨before ++ Text.chopReturn piece, after, ?_, ?_, hp.ends⟩
    · rw [List.append_assoc before, ← hpiece]
      exact hp.text_eq
    · simp only [Text.byteSize_append, Text.byteSize_cons, Text.byteSize_nil, hr]
      omega

theorem position_row_mono (s : Source) (h : o ≤ o') : (s.position o).row ≤ (s.position o').row := by
  have htake : (s.rows.takeWhile (·.start ≤ o')).takeWhile (·.start ≤ o) =
      s.rows.takeWhile (·.start ≤ o) := by
    rw [List.takeWhile_takeWhile]
    congr 1
    funext r
    simp only [decide_eq_true_eq, decide_eq_decide]
    omega
  have hle := (List.takeWhile_prefix (·.start ≤ o) (l := s.rows.takeWhile (·.start ≤ o'))).length_le
  rw [htake] at hle
  exact Nat.sub_le_sub_right hle 1

/-- A smaller offset has an earlier position. -/
theorem position_before (h : o < o') :
    ((ofText content).position o).Before ((ofText content).position o') := by
  have hmono := position_row_mono (ofText content) (Nat.le_of_lt h)
  obtain ⟨row, before, piece, after, column, hp, rfl, hcolumn⟩ := exists_pieceAt_of_byte content o
  obtain ⟨row', before', piece', after', column', hp', rfl, hcolumn'⟩ :=
    exists_pieceAt_of_byte content o'
  rw [position_of_pieceAt hp hcolumn, position_of_pieceAt hp' hcolumn'] at hmono ⊢
  obtain hrow | rfl := Nat.lt_or_eq_of_le hmono
  · exact .inl hrow
  · have hstart := (rows_getElem?_of_pieceAt hp).symm.trans (rows_getElem?_of_pieceAt hp')
    have hsize : Text.byteSize before = Text.byteSize before' :=
      congrArg Row.start (Option.some.inj hstart)
    refine .inr ⟨rfl, ?_⟩
    dsimp only
    omega

/-- A row shows what stands between its start and its end. -/
theorem line?_eq_slice? (content : Text) (row : Nat) :
    (ofText content).line? row = ((ofText content).offset? row 0).bind fun start =>
      ((ofText content).lineEnd? row).bind fun stop => (ofText content).slice? start stop := by
  cases hline : (ofText content).line? row with
  | none =>
    have hrow : (ofText content).rows[row]? = none := Option.map_eq_none_iff.mp hline
    rw [offset?, hrow]
    rfl
  | some line =>
    obtain ⟨before, piece, after, hp, rfl⟩ := exists_pieceAt_of_line? hline
    obtain ⟨rest, hrest⟩ := Text.chopReturn_isPrefix piece
    rw [offset?_of_pieceAt hp, if_pos (Nat.zero_le _), lineEnd?, rows_getElem?_of_pieceAt hp]
    symm
    refine Text.slice?_eq_some_iff.mpr ⟨before, rest ++ after, ?_, rfl, ?_⟩
    · rw [List.append_assoc, ← List.append_assoc _ rest, hrest, ← List.append_assoc]
      exact hp.text_eq
    · rw [Text.byteSize_append]

/-- In every source offsets and positions lead to each other: only an offset right behind a carriage
return that ends its line has a position that names nothing. Positions are ordered as the offsets are, so
two places in order have ordered offsets, and a row is the slice from its start to its end. -/
theorem coordinates_consistent (content : Text) :
    let s := ofText content
    (∀ row column o, s.offset? row column = some o → s.position o = ⟨row, column⟩) ∧
      (∀ o ≤ Text.byteSize content,
        (content.BehindReturn o → s.offset? (s.position o).row (s.position o).column = none) ∧
          (¬content.BehindReturn o → s.offset? (s.position o).row (s.position o).column = some o)) ∧
      (∀ o o', o < o' → (s.position o).Before (s.position o')) ∧
      (∀ p q : Position, ∀ o o', ¬q.Before p → s.offset? p.row p.column = some o →
        s.offset? q.row q.column = some o' → o ≤ o') ∧
      ∀ row, s.line? row = (s.offset? row 0).bind fun start =>
        (s.lineEnd? row).bind fun stop => s.slice? start stop := by
  refine ⟨fun _ _ _ => position_of_offset?, ?_, fun _ _ => position_before, ?_, line?_eq_slice? content⟩
  · intro o ho
    exact ⟨offset?_position_of_behindReturn, offset?_position ho⟩
  · intro p q o o' hpq hp hq
    by_contra hlt
    have hbefore : ((ofText content).position o').Before ((ofText content).position o) :=
      position_before (Nat.lt_of_not_le hlt)
    rw [position_of_offset? hp, position_of_offset? hq] at hbefore
    exact hpq hbefore

/-- Two rows, the first with a carriage return at its end. The offset behind the return has no position
on its row. -/
theorem crlf_coordinates_consistent :
    let content : Text := "a\r\nbc".toList
    let s := ofText content
    s.offset? 1 1 = some 4 ∧ s.position 4 = ⟨1, 1⟩ ∧
      content.BehindReturn 2 ∧ s.offset? (s.position 2).row (s.position 2).column = none ∧
      ¬content.BehindReturn 3 ∧ s.offset? (s.position 3).row (s.position 3).column = some 3 ∧
      (s.position 2).Before (s.position 3) ∧
      (∀ o', s.offset? 1 1 = some o' → 1 ≤ o') ∧
      (some "bc".toList : Option Text) = (s.offset? 1 0).bind fun start =>
        (s.lineEnd? 1).bind fun stop => s.slice? start stop := by
  intro content s
  obtain ⟨hback, hforth, hmono, hordered, hline⟩ := coordinates_consistent content
  have hreturn : content.BehindReturn 2 := ⟨['a'], ['\n', 'b', 'c'], by decide, by decide, .inr ⟨_, rfl⟩⟩
  have hother : ¬content.BehindReturn 3 := by
    intro h
    have hnone := offset?_position_of_behindReturn h
    revert hnone
    decide
  refine ⟨by decide, hback 1 1 4 (by decide), hreturn, (hforth 2 (by decide)).1 hreturn, hother,
    (hforth 3 (by decide)).2 hother, hmono 2 3 (by decide), ?_, ?_⟩
  · intro o' h
    exact hordered ⟨0, 1⟩ ⟨1, 1⟩ 1 o' (by decide) (by decide) h
  · rw [← hline 1]
    decide

end Source
end CodeDigest
