import CodeDigest.Proofs.Lines
import CodeDigest.Proofs.Runs

/-! Rows that an emission keeps whole: nothing on them is emitted again, as their text is there. -/
namespace CodeDigest
open Emission
variable {surface : Surface} {r : Reading} {content text : Text} {s : Source} {c d : Capture}
  {e : Emission} {first last : Nat}

/-- The rows, first and last, of which an emission keeps all: those of a block, and those of a binding
that is kept whole but for its first. -/
inductive KeepsRows (surface : Surface) (c : Capture) (s : Source) (e : Emission) :
    Nat → Nat → Prop where
  | block {first last : Nat} (h : block? surface c s = some e)
      (covers : e.covers = some (first, last)) :
      KeepsRows surface c s e first last
  | binding (h : Strategy.wholeBinding? c s = some e) :
      KeepsRows surface c s e (c.startRow + 1) c.endRow

theorem Emission.isInfix_withAnnotations (annotations : List Text) (body : Text) :
    body <:+: withAnnotations annotations body := by
  rw [withAnnotations, Text.unlines_snoc]
  exact (List.suffix_append _ _).isInfix

namespace KeepsRows

theorem covers (h : KeepsRows surface c s e first last) {row : Nat} (hfirst : first ≤ row)
    (hlast : row ≤ last) : e.Covers row := by
  cases h with
  | block _ hcovers => exact ⟨first, last, hcovers, hfirst, hlast⟩
  | binding h =>
    obtain ⟨e', -, rfl⟩ := Option.map_eq_some_iff.mp h
    exact ⟨c.startRow + 1, c.endRow, if_pos (by omega), hfirst, hlast⟩

/-- What stands in the rows that are kept, and has no white space at its ends, stands in the text. -/
theorem isInfix_text (h : KeepsRows surface c s e first last) :
    ∃ top ≤ first, ∀ m, Text.trim m = m → m <:+: Text.unlines (s.lines top last) → m <:+: e.text := by
  cases h with
  | block h hcovers =>
    obtain ⟨bottom, -, htext, -, hcovers', -⟩ := block?_eq_some h
    obtain ⟨rfl, rfl⟩ := Prod.mk.inj (Option.some.inj (hcovers'.symm.trans hcovers))
    refine ⟨c.startRow, Nat.le_refl _, ?_⟩
    intro m hm hrows
    rw [htext]
    apply Text.isInfix_trim _ hm
    exact (Text.isInfix_trim hrows hm).trans (isInfix_withAnnotations _ _)
  | binding h =>
    obtain ⟨e', he, rfl⟩ := Option.map_eq_some_iff.mp h
    obtain ⟨-, rfl⟩ := keyedByText?_eq_some he
    exact ⟨c.startRow, Nat.le_succ _, fun m hm hrows => Text.isInfix_trim hrows hm⟩

end KeepsRows

/-- What is captured, without the white space at its ends: its lines stand in the rows of the
capture. -/
theorem captureText?_isInfix (h : captureText? d (.ofText content) = some text)
    (hfirst : first ≤ d.startRow) (hlast : d.endRow ≤ last) :
    Text.unlines (Text.lines (Text.trim text)) <:+:
      Text.unlines ((Source.ofText content).lines first last) := by
  obtain ⟨start, hstart, hslice⟩ := Option.bind_eq_some_iff.mp h
  obtain ⟨a, b, rfl, rfl, hstop⟩ := Text.slice?_eq_some_iff.mp hslice
  obtain ⟨u, v, htext, -, -⟩ := Text.trim_spec text
  have hrow : a.count '\n' = d.startRow := by
    rw [Capture.start?, List.append_assoc] at hstart
    exact Source.count_of_offset? hstart
  have hend : (a ++ text).count '\n' ≤ d.endRow := d.count_le_endRow hstop.symm
  have he : a ++ text ++ b = (a ++ u) ++ Text.trim text ++ (v ++ b) := by
    conv_lhs => rw [htext]
    simp
  rw [htext] at hend
  simp only [List.count_append] at hend
  rw [he]
  apply Source.unlines_lines_isInfix (Text.trim_trim text)
  · rw [List.count_append]
    omega
  · simp only [List.count_append]
    omega

namespace Classification

/-- Once an emission that keeps rows is accepted, a later capture within these rows yields no
fragment, and its text, without the carriage returns at the ends of its lines, is a part of the
emission's. -/
theorem kept_rows_stay_silent {before : List Capture}
    (he : accepted? r (.ofText content) (claimsAfter r (.ofText content) .empty before) c = some e)
    (hk : KeepsRows r.surface c (.ofText content) e first last) (between : List Capture)
    (hfirst : first ≤ d.startRow) (hlast : d.endRow ≤ last) :
    (∀ f, (step r (.ofText content)
        (claimsAfter r (.ofText content) .empty (before ++ c :: between)) d).1 ≠ .ok (some f)) ∧
      ∀ text, captureText? d (.ofText content) = some text →
        Text.unlines (Text.lines (Text.trim text)) <:+: e.text := by
  constructor
  · intro f hf
    obtain ⟨hinv, _, -, hnew⟩ := (returns_iff _ d).mp ⟨f, hf⟩
    rw [Capture.Inverted] at hinv
    exact (hnew e (mem_emissions he between)).1 (hk.covers hfirst (by omega))
  · intro text htext
    obtain ⟨top, htop, hpart⟩ := hk.isInfix_text
    apply hpart
    · exact Text.trim_unlines_lines (Text.trim_trim text)
    · exact captureText?_isInfix htext (Nat.le_trans htop hfirst) hlast

def noted : Text := "const x = \x7b // a\n  // b\n  y: 1,\n\x7d;\n".toList

def notedEmission : Emission :=
  let text := "const x = \x7b // a\n  // b\n  y: 1,\n\x7d;".toList
  ⟨text, 0, [text], some (1, 3)⟩

private theorem noted_accepted :
    accepted? ⟨.typescript, .typescript, .javascript⟩ (.ofText noted) .empty
        ⟨"definition.variable", 0, 0, 3, 2⟩ = some notedEmission ∧
      Strategy.wholeBinding? ⟨"definition.variable", 0, 0, 3, 2⟩ (.ofText noted) =
        some notedEmission := by
  decide +kernel

theorem noted_rows_stay_silent :
    let r : Reading := ⟨.typescript, .typescript, .javascript⟩
    let c : Capture := ⟨"definition.variable", 0, 0, 3, 2⟩
    let d : Capture := ⟨"comment", 1, 2, 1, 6⟩
    accepted? r (.ofText noted) (claimsAfter r (.ofText noted) .empty []) c = some notedEmission ∧
      KeepsRows r.surface c (.ofText noted) notedEmission 1 3 ∧ 1 ≤ d.startRow ∧ d.endRow ≤ 3 ∧
      (∀ f, (step r (.ofText noted) (claimsAfter r (.ofText noted) .empty [c]) d).1 ≠ .ok (some f)) ∧
      ∀ text, captureText? d (.ofText noted) = some text →
        Text.unlines (Text.lines (Text.trim text)) <:+: notedEmission.text := by
  intro r c d
  obtain ⟨haccepted, hb⟩ := noted_accepted
  have he : accepted? r (.ofText noted) (claimsAfter r (.ofText noted) .empty []) c =
      some notedEmission := haccepted
  have hk : KeepsRows r.surface c (.ofText noted) notedEmission 1 3 := .binding hb
  have hfirst : 1 ≤ d.startRow := by decide
  have hlast : d.endRow ≤ 3 := by decide
  exact ⟨he, hk, hfirst, hlast, kept_rows_stay_silent he hk [] hfirst hlast⟩

/-- A comment on the first row of a binding is returned though the binding holds it. -/
theorem first_row_of_binding_repeats :
    let r : Reading := ⟨.typescript, .typescript, .javascript⟩
    let c : Capture := ⟨"definition.variable", 0, 0, 3, 2⟩
    let d : Capture := ⟨"comment", 0, 12, 0, 16⟩
    Strategy.wholeBinding? c (.ofText noted) = some notedEmission ∧
      "// a".toList <:+: notedEmission.text ∧
      run r (.ofText noted) .empty [c, d] = .ok [notedEmission.fragment, ⟨"// a".toList, 0⟩] := by
  refine ⟨noted_accepted.2, ?_, ?_⟩
  · decide +kernel
  · decide +kernel

/-! Rows that are shown and not noted. -/

/-- Behind an emission that covers no row a capture yields a fragment as it does without that emission, unless
the two share a key. -/
theorem returns_behind_uncovering_iff {before : List Capture} {e' : Emission}
    (he : accepted? r s (claimsAfter r s .empty before) c = some e) (hcovers : e.covers = none)
    (he' : emission? r s d = some e') :
    (∃ f, (step r s (claimsAfter r s .empty (before ++ [c])) d).1 = .ok (some f)) ↔
      (∃ f, (step r s (claimsAfter r s .empty before) d).1 = .ok (some f)) ∧ e.keys.Disjoint e'.keys := by
  have hrow : ¬e.Covers d.startRow := by
    rintro ⟨_, _, hrows, -⟩
    cases hcovers.symm.trans hrows
  rw [returns_iff, returns_iff, emissions_snoc, he, he']
  simp [hrow, or_imp, forall_and, and_assoc]

/-- Whole rows that are shown for a capture are not noted, so that what stands on them is returned as before
unless its text is the same. -/
theorem returns_behind_nodeLines_iff {before : List Capture} {e' : Emission}
    (he : accepted? r s (claimsAfter r s .empty before) c = some e) (hrows : nodeLines? c s = some e)
    (he' : emission? r s d = some e') :
    (∃ f, (step r s (claimsAfter r s .empty (before ++ [c])) d).1 = .ok (some f)) ↔
      (∃ f, (step r s (claimsAfter r s .empty before) d).1 = .ok (some f)) ∧ e.text ∉ e'.keys := by
  obtain ⟨-, rfl⟩ := keyedByText?_eq_some hrows
  rw [returns_behind_uncovering_iff he rfl he', List.singleton_disjoint]

example :
    let r : Reading := ⟨.python, .python, .python⟩
    let assigned : Source := .ofText "x = 1  # a\n".toList
    run r assigned .empty [⟨"definition.variable", 0, 0, 0, 5⟩, ⟨"comment", 0, 7, 0, 10⟩] =
      .ok [⟨"x = 1  # a".toList, 0⟩, ⟨"# a".toList, 0⟩] := by decide +kernel

end Classification
end CodeDigest
