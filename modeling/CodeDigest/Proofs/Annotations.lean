import CodeDigest.Emission.Annotation
import CodeDigest.Proofs.Alignment

/-! The annotations above a declaration: groups of rows without gaps that end right above it. -/
namespace CodeDigest.Emission
open Text (OnRows isBlank)
variable {surface : Surface} {s : Source}

/-- Groups of rows that follow each other without gaps, from row `first` up to the row before
`stop`, and each start with a row that is not blank. -/
def Stacked (s : Source) : Nat → Nat → List (Nat × Nat) → Prop
  | first, stop, [] => first = stop
  | first, stop, g :: groups => g.1 = first ∧ first ≤ g.2 ∧
      (∃ line, s.line? first = some line ∧ isBlank line = false) ∧ Stacked s (g.2 + 1) stop groups

private theorem startsAnnotation?_true {last row : Nat}
    (h : startsAnnotation? surface s last row = some true) :
    ∃ line, s.line? row = some line ∧ isBlank line = false := by
  obtain ⟨line, hl, h⟩ := Option.bind_eq_some_iff.mp h
  refine ⟨line, hl, ?_⟩
  cases hb : isBlank line with
  | false => rfl
  | true => simp [hb] at h

private theorem annotationStart?_spec {last row start : Nat}
    (h : annotationStart? surface s last row = some start) :
    start ≤ row ∧ ∃ line, s.line? start = some line ∧ isBlank line = false := by
  induction row with
  | zero =>
    rw [annotationStart?] at h
    split at h
    · next hs =>
      cases h
      exact ⟨Nat.le_refl 0, startsAnnotation?_true hs⟩
    · cases h
  | succ row ih =>
    rw [annotationStart?] at h
    split at h
    · cases h
    · next hs =>
      cases h
      exact ⟨Nat.le_refl _, startsAnnotation?_true hs⟩
    · split at h
      · cases h
      · exact ⟨Nat.le_succ_of_le (ih h).1, (ih h).2⟩

private theorem annotationGroups_stacked (surface : Surface) (limit : Nat) {row stop : Nat}
    {groups : List (Nat × Nat)} (h : Stacked s row stop groups) :
    ∃ first, Stacked s first stop (annotationGroups surface s limit row groups) := by
  induction limit generalizing row groups with
  | zero => exact ⟨row, h⟩
  | succ limit ih =>
    cases row with
    | zero => exact ⟨0, h⟩
    | succ above =>
      rw [annotationGroups]
      cases hs : annotationStart? surface s above above with
      | none => exact ⟨above + 1, h⟩
      | some start =>
        obtain ⟨hle, hline⟩ := annotationStart?_spec hs
        exact ih ⟨rfl, hle, hline, h⟩

private theorem Stacked.head_eq {first stop : Nat} {groups : List (Nat × Nat)}
    (h : Stacked s first stop groups) : (groups.head?.map (·.1)).getD stop = first := by
  cases groups with
  | nil => exact h.symm
  | cons g groups => exact h.1

private theorem Stacked.le {first stop : Nat} {groups : List (Nat × Nat)}
    (h : Stacked s first stop groups) : first ≤ stop := by
  induction groups generalizing first with
  | nil => exact Nat.le_of_eq h
  | cons g groups ih =>
    obtain ⟨-, hle, -, h⟩ := h
    have := ih h
    omega

/-- Annotations end above their declaration, so none of them starts below it. -/
theorem leadingAnnotations_le (surface : Surface) (s : Source) (row : Nat) :
    (leadingAnnotations surface s row).1 ≤ row := by
  have hnil : Stacked s row row [] := rfl
  obtain ⟨first, hs⟩ := annotationGroups_stacked surface row hnil
  rw [leadingAnnotations, hs.head_eq]
  exact hs.le

/-- A dialect without annotations finds none above any row. -/
theorem leadingAnnotations_of_no_marks (h : surface.dialect.annotationMarks = []) (s : Source)
    (row : Nat) : (leadingAnnotations surface s row).1 = row := by
  have hstarts : ∀ last above, startsAnnotation? surface s last above ≠ some true := by
    intro last above hs
    obtain ⟨line, -, hs⟩ := Option.bind_eq_some_iff.mp hs
    simp [Dialect.isAnnotation, h] at hs
  have hstart : ∀ last above, annotationStart? surface s last above = none := by
    intro last above
    induction above with
    | zero => rw [annotationStart?, if_neg (hstarts last 0)]
    | succ above ih =>
      rw [annotationStart?]
      split
      · rfl
      · next hs => exact absurd hs (hstarts _ _)
      · rw [ih, ite_self]
  cases row with
  | zero => rfl
  | succ above =>
    rw [leadingAnnotations, annotationGroups, hstart]
    rfl

theorem dedent_isInfix (indent : Nat) (line : Text) : dedent indent line <:+: line := by
  unfold dedent
  split
  · next lead rest _ hd =>
    obtain ⟨a, rfl, -⟩ := Text.dropBytes?_eq_some_iff.mp hd
    split
    · obtain ⟨v, hv, -⟩ := Text.trimEnd_spec rest
      exact ⟨a, v, by rw [List.append_assoc, ← hv]⟩
    · exact Text.trim_isInfix _
  · exact Text.trim_isInfix line

private theorem isBlank_dedent (indent : Nat) (line : Text) :
    isBlank (dedent indent line) = isBlank line := by
  unfold dedent
  split
  · next lead rest ht hd =>
    obtain ⟨a, rfl, ha⟩ := Text.dropBytes?_eq_some_iff.mp hd
    obtain ⟨b, hb, hl⟩ := Text.takeBytes?_eq_some_iff.mp ht
    obtain ⟨rfl, -⟩ := Text.append_inj_of_byteSize_eq hb (by rw [ha, hl])
    split
    · next hlead => simp [hlead]
    · exact Text.isBlank_trim _
  · exact Text.isBlank_trim line

section
variable {content : Text}

/-- The annotation lines of stacked groups are the rows of these groups, cut at both ends. -/
private theorem Stacked.lines_onRows {first stop : Nat} {groups : List (Nat × Nat)}
    (h : Stacked (.ofText content) first stop groups)
    (hstop : stop ≤ (Source.ofText content).lineCount) :
    OnRows content first (groups.flatMap (annotationLines (.ofText content))) ∧
      first + (groups.flatMap (annotationLines (.ofText content))).length = stop := by
  induction groups generalizing first with
  | nil => exact ⟨fun i line hi => by simp at hi, h⟩
  | cons g groups ih =>
    obtain ⟨rfl, hle, -, h⟩ := h
    obtain ⟨hrows, hlen⟩ := ih h
    have hl : (annotationLines (.ofText content) g).length = g.2 + 1 - g.1 := by
      rw [annotationLines, List.length_map]
      exact Source.length_lines (by have := h.le; omega) hle
    have he : g.1 + (annotationLines (.ofText content) g).length = g.2 + 1 := by omega
    rw [List.flatMap_cons, List.length_append]
    refine ⟨Text.onRows_append ?_ (he ▸ hrows), by omega⟩
    exact (Text.onRows_lines content g.1 g.2).map (dedent_isInfix _)

private theorem Stacked.head_not_blank {first stop : Nat} {groups : List (Nat × Nat)} {l : Text}
    (h : Stacked (.ofText content) first stop groups)
    (hl : (groups.flatMap (annotationLines (.ofText content))).head? = some l) :
    isBlank l = false := by
  cases groups with
  | nil => simp at hl
  | cons g groups =>
    obtain ⟨rfl, hle, ⟨line, hline, hb⟩, -⟩ := h
    obtain ⟨rest, hr⟩ := Source.exists_lines_eq_cons hle hline
    rw [List.flatMap_cons, annotationLines, hr, List.map_cons, List.cons_append,
      List.head?_cons] at hl
    obtain rfl := Option.some.inj hl
    rw [isBlank_dedent, hb]

/-! Annotations depend on nothing but the rows above the declaration. -/
section
variable {s₁ s₂ : Source} {row : Nat} (h : s₁.rows.take row = s₂.rows.take row)
include h

private theorem annotationStart?_congr (surface : Surface) {last above : Nat} (hlt : last < row)
    (hle : above ≤ last) :
    annotationStart? surface s₁ last above = annotationStart? surface s₂ last above := by
  have hstarts : ∀ r ≤ last,
      startsAnnotation? surface s₁ last r = startsAnnotation? surface s₂ last r := by
    intro r hr
    rw [startsAnnotation?, startsAnnotation?, Source.line?_congr h (Nat.lt_of_le_of_lt hr hlt),
      Source.lines_congr h hlt]
  induction above with
  | zero => rw [annotationStart?, annotationStart?, hstarts 0 hle]
  | succ above ih =>
    rw [annotationStart?, annotationStart?, hstarts _ hle, ih (Nat.le_of_succ_le hle)]

private theorem annotationGroups_congr (surface : Surface) (limit : Nat) {above : Nat}
    (hle : above ≤ row) (groups : List (Nat × Nat)) :
    annotationGroups surface s₁ limit above groups =
      annotationGroups surface s₂ limit above groups := by
  induction limit generalizing above groups with
  | zero => rfl
  | succ limit ih =>
    cases above with
    | zero => rfl
    | succ above =>
      rw [annotationGroups, annotationGroups, annotationStart?_congr h surface hle (Nat.le_refl _)]
      cases hs : annotationStart? surface s₂ above above with
      | none => rfl
      | some start =>
        have := (annotationStart?_spec hs).1
        exact ih (by omega) _

theorem leadingAnnotations_congr (surface : Surface) :
    leadingAnnotations surface s₁ row = leadingAnnotations surface s₂ row := by
  have hnil : Stacked s₂ row row [] := rfl
  obtain ⟨first, hs⟩ := annotationGroups_stacked surface row hnil
  rw [leadingAnnotations, leadingAnnotations, annotationGroups_congr h surface row (Nat.le_refl _)]
  congr 1
  generalize annotationGroups surface s₂ row row [] = groups at hs
  induction groups generalizing first with
  | nil => rfl
  | cons g groups ih =>
    obtain ⟨-, -, -, hs⟩ := hs
    rw [List.flatMap_cons, List.flatMap_cons, ih _ hs, annotationLines, annotationLines,
      Source.lines_congr h hs.le]

end

/-- Lines that stand on the rows right above `row`, one line to a row from row `above.1` on. They
hold no newline, and the first of them is not blank. -/
structure StandsAbove (content : Text) (row : Nat) (above : Nat × List Text) : Prop where
  onRows : OnRows content above.1 above.2
  length_eq : above.1 + above.2.length = row
  notMem : ∀ l ∈ above.2, '\n' ∉ l
  head_not_blank : ∀ l, above.2.head? = some l → isBlank l = false

theorem leadingAnnotations_standsAbove (surface : Surface) {row : Nat}
    (h : row < (Source.ofText content).lineCount) :
    StandsAbove content row (leadingAnnotations surface (.ofText content) row) := by
  have hnil : Stacked (.ofText content) row row [] := rfl
  obtain ⟨first, hs⟩ := annotationGroups_stacked surface row hnil
  obtain ⟨hrows, hlen⟩ := hs.lines_onRows (Nat.le_of_lt h)
  rw [leadingAnnotations, hs.head_eq]
  refine ⟨hrows, hlen, ?_, fun l => hs.head_not_blank⟩
  intro l hl
  obtain ⟨g, -, hl⟩ := List.mem_flatMap.mp hl
  obtain ⟨line, hline, rfl⟩ := List.mem_map.mp hl
  exact fun hm => Text.notMem_of_mem_lines hline ((dedent_isInfix _ line).subset hm)

end
end CodeDigest.Emission
