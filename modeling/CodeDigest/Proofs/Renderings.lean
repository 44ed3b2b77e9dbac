import CodeDigest.Proofs.Emissions
import CodeDigest.Proofs.Annotations
import CodeDigest.Strategy

/-! The ways to render a capture, of which every strategy uses some, and what they have in common. -/
namespace CodeDigest
open Emission
variable {surface : Surface} {c : Capture} {s : Source} {e : Emission}

/-- An emission of a declaration, which takes the annotations above it along. -/
inductive Declares (surface : Surface) (c : Capture) (s : Source) (e : Emission) : Prop where
  | block (h : block? surface c s = some e)
  | header (h : header? surface c s = some e)
  | signature (kind : SignatureKind) (h : signature? surface kind c s = some e)

inductive Rendered (surface : Surface) (c : Capture) (s : Source) (e : Emission) : Prop where
  | comment (h : comment? surface c s = some e)
  | nodeLines (h : nodeLines? c s = some e)
  | firstLine (h : firstLine? c s = some e)
  | wholeBinding (h : Strategy.wholeBinding? c s = some e)
  | selector (h : selector? c s = some e)
  | declaration (h : Declares surface c s e)

namespace Strategy

theorem emitValue?_rendered {kind : SignatureKind} (h : emitValue? surface kind c s = some e) :
    Rendered surface c s e := by
  simp only [emitValue?] at h
  split at h
  · exact .declaration (.signature kind h)
  · split at h
    · exact .declaration (.header h)
    · exact .wholeBinding h

theorem emitDefault?_rendered {category : Category}
    (h : emitDefault? surface category c s = some e) : Rendered surface c s e := by
  cases category
  case comment | docstring => exact .comment h
  case importing | package | constant | «variable» => exact .nodeLines h
  case property =>
    simp only [emitDefault?] at h
    split at h
    · exact .firstLine h
    · exact .declaration (.signature _ h)
  case function | method => exact .declaration (.signature _ h)
  case classType | moduleScope | macroRule => exact .declaration (.header h)
  case structType | interfaceType | enumType | typeAlias => exact .declaration (.block h)
  case selector | atRule | unknown => cases h

theorem emitTypescript?_rendered {category : Category}
    (h : emitTypescript? surface category c s = some e) : Rendered surface c s e := by
  cases category
  case comment => exact .comment h
  case importing | package => exact .nodeLines h
  case function =>
    simp only [emitTypescript?] at h
    split at h
    · cases h
    · exact .declaration (.signature _ h)
  case method => exact .declaration (.signature _ h)
  case classType | moduleScope => exact .declaration (.header h)
  case interfaceType | typeAlias | enumType | structType => exact .declaration (.block h)
  case «variable» | constant | property => exact emitValue?_rendered h
  case docstring | macroRule | selector | atRule | unknown => cases h

theorem emitPython?_rendered {category : Category}
    (h : emitPython? surface category c s = some e) : Rendered surface c s e := by
  cases category
  case comment => exact .comment h
  case docstring =>
    simp only [emitPython?] at h
    split at h
    · exact .nodeLines h
    · cases h
  case importing | «variable» | constant => exact .nodeLines h
  case function | method => exact .declaration (.signature _ h)
  case classType => exact .declaration (.header h)
  all_goals cases h

theorem emitGo?_rendered {category : Category} (h : emitGo? surface category c s = some e) :
    Rendered surface c s e := by
  cases category
  case comment => exact .comment h
  case package => exact .firstLine h
  case «variable» =>
    simp only [emitGo?] at h
    split at h
    · exact .declaration (.signature _ h)
    · exact .declaration (.block h)
  case importing | constant | typeAlias | structType | interfaceType =>
    exact .declaration (.block h)
  case function | method => exact .declaration (.signature _ h)
  all_goals cases h

theorem emitCss?_rendered {category : Category} (h : emitCss? surface category c s = some e) :
    Rendered surface c s e := by
  cases category
  case comment => exact .comment h
  case selector => exact .selector h
  case atRule => exact .declaration (.header h)
  case importing => exact .nodeLines h
  all_goals cases h

theorem emit?_rendered {strategy : Strategy} {category : Category}
    (h : strategy.emit? surface category c s = some e) : Rendered surface c s e := by
  cases strategy with
  | default => exact emitDefault?_rendered h
  | typescript => exact emitTypescript?_rendered h
  | python => exact emitPython?_rendered h
  | go => exact emitGo?_rendered h
  | css => exact emitCss?_rendered h

end Strategy

namespace Emission

/-- What every emission has: a text to show, and a key that tells it from others. -/
structure Substantial (e : Emission) : Prop where
  notBlank : Text.isBlank e.text = false
  keys_ne_nil : e.keys ≠ []

theorem keyedByText?_spec {text : Text} {row : Nat} (h : keyedByText? text row = some e) :
    e.Substantial ∧ e.row = row := by
  obtain ⟨hb, rfl⟩ := keyedByText?_eq_some h
  exact ⟨⟨hb, List.cons_ne_nil _ _⟩, rfl⟩

theorem headerText?_notBlank {allowArrow : Bool} {text : Text} {row : Nat}
    (h : headerText? surface c s allowArrow = some (text, row)) : Text.isBlank text = false := by
  obtain ⟨_, _, m, -, -, -, rfl, -, hm⟩ := headerText?_eq_some h
  simp [withAnnotations, hm]

theorem comment?_spec (h : comment? surface c s = some e) :
    e.Substantial ∧ e.row = c.startRow := by
  obtain ⟨raw, -, h⟩ := Option.bind_eq_some_iff.mp h
  dsimp only at h
  split at h
  · cases h
  · next hne =>
    split at h
    · cases h
      have hb : Text.isBlank raw = false := by
        rw [Bool.eq_false_iff]
        intro hb
        exact hne (by rw [Text.trim_eq_nil hb]; rfl)
      exact ⟨⟨(Text.isBlank_trim raw).trans hb, List.cons_ne_nil _ _⟩, rfl⟩
    · split at h
      · exact keyedByText?_spec h
      · split at h
        · cases h
        · exact keyedByText?_spec h

end Emission

/-- A declaration stands on the first row of its annotations. -/
theorem Declares.spec (h : Declares surface c s e) :
    e.Substantial ∧ e.row = (leadingAnnotations surface s c.startRow).1 := by
  cases h with
  | block h =>
    obtain ⟨_, hrow, -, hkeys, -, hb⟩ := block?_eq_some h
    exact ⟨⟨hb, by simp [hkeys]⟩, hrow⟩
  | header h =>
    obtain ⟨⟨text, row⟩, ht, hk⟩ := Option.bind_eq_some_iff.mp h
    obtain ⟨_, _, _, -, -, -, -, rfl, -⟩ := headerText?_eq_some ht
    exact keyedByText?_spec hk
  | signature kind h =>
    obtain ⟨⟨text, row⟩, ht, rfl⟩ := Option.map_eq_some_iff.mp h
    obtain ⟨_, _, _, -, -, -, -, rfl, -⟩ := headerText?_eq_some ht
    exact ⟨⟨headerText?_notBlank ht, List.cons_ne_nil _ _⟩, rfl⟩

/-- All but declarations stand on the row that their capture starts on. -/
theorem Rendered.spec (h : Rendered surface c s e) :
    e.Substantial ∧ (e.row = c.startRow ∨ Declares surface c s e) := by
  cases h with
  | comment h => exact (comment?_spec h).imp_right .inl
  | nodeLines h => exact (keyedByText?_spec h).imp_right .inl
  | firstLine h =>
    obtain ⟨_, -, h⟩ := Option.bind_eq_some_iff.mp h
    exact (keyedByText?_spec h).imp_right .inl
  | wholeBinding h =>
    obtain ⟨e, he, rfl⟩ := Option.map_eq_some_iff.mp h
    obtain ⟨⟨hb, hkeys⟩, hrow⟩ := keyedByText?_spec he
    exact ⟨⟨hb, hkeys⟩, .inl hrow⟩
  | selector h =>
    obtain ⟨_, -, h⟩ := Option.bind_eq_some_iff.mp h
    exact (keyedByText?_spec h).imp_right .inl
  | declaration h => exact ⟨h.spec.1, .inr h⟩

/-- No emission stands below the row that its capture starts on. -/
theorem Rendered.row_le (h : Rendered surface c s e) : e.row ≤ c.startRow := by
  obtain hrow | hd := h.spec.2
  · exact Nat.le_of_eq hrow
  · rw [hd.spec.2]
    exact leadingAnnotations_le surface s c.startRow

end CodeDigest
