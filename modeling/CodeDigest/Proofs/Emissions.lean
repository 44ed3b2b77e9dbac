import CodeDigest.Emission.Block
import CodeDigest.Emission.Signature
import CodeDigest.Proofs.Blanks

/-! What emissions are made of. -/
namespace CodeDigest.Emission
variable {surface : Surface} {c : Capture} {s : Source} {e : Emission} {text : Text} {row : Nat}

theorem keyedByText?_eq_some (h : keyedByText? text row = some e) :
    Text.isBlank text = false ∧ e = ⟨text, row, [text], none⟩ := by
  cases hb : Text.isBlank text with
  | true => simp [keyedByText?, hb] at h
  | false => exact ⟨rfl, by simpa [keyedByText?, hb] using h.symm⟩

theorem keyedByText?_of_not_blank (h : Text.isBlank text = false) :
    keyedByText? text row = some ⟨text, row, [text], none⟩ := by
  simp [keyedByText?, h]

theorem headerText?_eq_some {allowArrow : Bool}
    (h : headerText? surface c s allowArrow = some (text, row)) :
    ∃ start lead m, c.start? s = some start ∧ (lead = start ∨ s.offset? c.startRow 0 = some lead) ∧
      s.slice? lead (max (cutSignature surface s start (c.stop s) allowArrow) lead) = some m ∧
      text = withAnnotations (leadingAnnotations surface s c.startRow).2 (Text.trim m) ∧
      row = (leadingAnnotations surface s c.startRow).1 ∧ Text.isBlank m = false := by
  simp only [headerText?, Option.bind_eq_bind, Option.bind_eq_some_iff] at h
  obtain ⟨start, hs, line, -, k, -, h⟩ := h
  have hlead : ∃ lead, (lead = start ∨ s.offset? c.startRow 0 = some lead) ∧
      ∃ m, s.slice? lead (max (cutSignature surface s start (c.stop s) allowArrow) lead) = some m ∧
        (if (Text.trim m).isEmpty then none
          else some (withAnnotations (leadingAnnotations surface s c.startRow).2 (Text.trim m),
            (leadingAnnotations surface s c.startRow).1)) = some (text, row) := by
    split at h
    · obtain ⟨lead, hl, h⟩ := Option.bind_eq_some_iff.mp h
      obtain ⟨_, hbody, h⟩ := Option.bind_eq_some_iff.mp h
      obtain ⟨m, hm, rfl⟩ := Option.map_eq_some_iff.mp hbody
      exact ⟨lead, .inr hl, m, hm, h⟩
    · obtain ⟨_, ⟨⟩, h⟩ := Option.bind_eq_some_iff.mp h
      obtain ⟨_, hbody, h⟩ := Option.bind_eq_some_iff.mp h
      obtain ⟨m, hm, rfl⟩ := Option.map_eq_some_iff.mp hbody
      exact ⟨start, .inl rfl, m, hm, h⟩
  obtain ⟨lead, hl, m, hm, h⟩ := hlead
  refine ⟨start, lead, m, hs, hl, hm, ?_⟩
  split at h
  · cases h
  · next hne =>
    cases h
    refine ⟨rfl, rfl, ?_⟩
    rw [Bool.eq_false_iff]
    exact fun hb => hne (by rw [Text.trim_eq_nil hb]; rfl)

theorem block?_eq_some (h : block? surface c s = some e) :
    ∃ last, e.row = (leadingAnnotations surface s c.startRow).1 ∧
      e.text = Text.trim (withAnnotations (leadingAnnotations surface s c.startRow).2
        (Text.trim (Text.unlines (s.lines c.startRow last)))) ∧
      e.keys = [e.text] ∧ e.covers = some (c.startRow, last) ∧ Text.isBlank e.text = false := by
  obtain ⟨start, -, h⟩ := Option.bind_eq_some_iff.mp h
  obtain ⟨e', hk, rfl⟩ := Option.map_eq_some_iff.mp h
  obtain ⟨hb, rfl⟩ := keyedByText?_eq_some hk
  exact ⟨_, rfl, rfl, rfl, rfl, hb⟩

end CodeDigest.Emission
