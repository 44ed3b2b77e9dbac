import CodeDigest.Proofs.Runs

/-! The rows that a declaration takes for its annotations. A row with an annotation may hold more than
that, and what it holds may be a declaration of its own. -/
namespace CodeDigest
open Text (isBlank)

namespace Emission
variable {surface : Surface} {s : Source} {first last row stop : Nat}

/-- Rows that read as one annotation: the first starts with a mark of the dialect, and brackets stay
open from row to row. -/
def ReadsAsOne (surface : Surface) (s : Source) (first last : Nat) : Prop :=
  (∃ line, s.line? first = some line ∧ surface.dialect.isAnnotation line = true) ∧
    isSingleAnnotation surface.lexicon (Text.unlines (s.lines first last)) = true

/-- The annotation that ends on a row: of all rows without a blank one in between that read as one,
those that start nearest. -/
structure NearestAnnotation (surface : Surface) (s : Source) (first last : Nat) : Prop where
  le : first ≤ last
  reach : last - first ≤ maxAnnotationRows
  filled : ∀ row, first ≤ row → row ≤ last → ∃ line, s.line? row = some line ∧ isBlank line = false
  reads : ReadsAsOne surface s first last
  nearest : ∀ row, first < row → row ≤ last → ¬ReadsAsOne surface s row last

/-- Whether a row is one of the annotations that end right above another row, one upon the other. -/
inductive TakenFor (surface : Surface) (s : Source) (row : Nat) : Nat → Prop where
  | last {first last : Nat} (h : NearestAnnotation surface s first last) (hfirst : first ≤ row)
      (hlast : row ≤ last) : TakenFor surface s row (last + 1)
  | above {first last : Nat} (h : NearestAnnotation surface s first last)
      (hrow : TakenFor surface s row first) : TakenFor surface s row (last + 1)

private theorem startsAnnotation?_eq_some_true_iff : startsAnnotation? surface s last row = some true ↔
    (∃ line, s.line? row = some line ∧ isBlank line = false) ∧ ReadsAsOne surface s row last := by
  rw [startsAnnotation?, ReadsAsOne]
  cases hline : s.line? row with
  | none => simp
  | some line => cases hb : isBlank line <;> simp [hb]

private theorem startsAnnotation?_eq_some_false_iff : startsAnnotation? surface s last row = some false ↔
    (∃ line, s.line? row = some line ∧ isBlank line = false) ∧
      ¬ReadsAsOne surface s row last := by
  rw [startsAnnotation?, ReadsAsOne]
  cases hline : s.line? row with
  | none => simp
  | some line => cases hb : isBlank line <;> simp [hb]

/-- The walk upwards stops at the first row that starts an annotation, if it passes all rows below. -/
private theorem annotationStart?_eq_some_walk : annotationStart? surface s last row = some first ↔
    first ≤ row ∧ startsAnnotation? surface s last first = some true ∧
      ∀ r, first < r → r ≤ row →
        startsAnnotation? surface s last r = some false ∧ last - r < maxAnnotationRows := by
  induction row with
  | zero =>
    rw [annotationStart?]
    constructor
    · intro h
      split at h
      · next hs =>
        cases h
        exact ⟨Nat.le_refl 0, hs, fun r hr hle => by omega⟩
      · cases h
    · rintro ⟨hle, hs, -⟩
      obtain rfl : first = 0 := by omega
      rw [if_pos hs]
  | succ row ih =>
    -- Of a first row above, the walk has passed this row.
    have hpassed : startsAnnotation? surface s last (row + 1) ≠ some true → first ≤ row + 1 →
        startsAnnotation? surface s last first = some true → first < row + 1 := by
      intro hnot hle hs
      refine Nat.lt_of_le_of_ne hle ?_
      rintro rfl
      exact hnot hs
    rw [annotationStart?]
    cases hs : startsAnnotation? surface s last (row + 1) with
    | none =>
      refine iff_of_false (by simp) ?_
      rintro ⟨hle, hfirst, hwalk⟩
      have hlt := hpassed (by simp [hs]) hle hfirst
      rw [(hwalk (row + 1) hlt (Nat.le_refl _)).1] at hs
      cases hs
    | some starts =>
      cases starts with
      | true =>
        constructor
        · rintro ⟨⟩
          exact ⟨Nat.le_refl _, hs, fun r hr hle => by omega⟩
        · rintro ⟨hle, -, hwalk⟩
          obtain rfl | hlt := Nat.eq_or_lt_of_le hle
          · rfl
          · rw [(hwalk (row + 1) hlt (Nat.le_refl _)).1] at hs
            cases hs
      | false =>
        dsimp only
        split
        · next hfar =>
          refine iff_of_false (by simp) ?_
          rintro ⟨hle, hfirst, hwalk⟩
          have hlt := hpassed (by simp [hs]) hle hfirst
          have := (hwalk (row + 1) hlt (Nat.le_refl _)).2
          omega
        · next hnear =>
          rw [ih]
          constructor
          · rintro ⟨hle, hfirst, hwalk⟩
            refine ⟨Nat.le_succ_of_le hle, hfirst, fun r hr hrow => ?_⟩
            obtain rfl | hlt := Nat.eq_or_lt_of_le hrow
            · exact ⟨hs, Nat.lt_of_not_le hnear⟩
            · exact hwalk r hr (Nat.le_of_lt_succ hlt)
          · rintro ⟨hle, hfirst, hwalk⟩
            have hlt := hpassed (by simp [hs]) hle hfirst
            exact ⟨Nat.le_of_lt_succ hlt, hfirst, fun r hr hrow =>
              hwalk r hr (Nat.le_succ_of_le hrow)⟩

theorem annotationStart?_eq_some_iff :
    annotationStart? surface s last last = some first ↔ NearestAnnotation surface s first last := by
  rw [annotationStart?_eq_some_walk, startsAnnotation?_eq_some_true_iff]
  constructor
  · rintro ⟨hle, ⟨hline, hreads⟩, hwalk⟩
    have hbelow : ∀ r, first < r → r ≤ last → _ := fun r hr hrow =>
      startsAnnotation?_eq_some_false_iff.mp (hwalk r hr hrow).1
    refine ⟨hle, ?_, fun r hr hrow => ?_, hreads, fun r hr hrow => (hbelow r hr hrow).2⟩
    · obtain rfl | hlt := Nat.eq_or_lt_of_le hle
      · simp
      · have := (hwalk (first + 1) (Nat.lt_succ_self _) hlt).2
        omega
    · obtain rfl | hlt := Nat.eq_or_lt_of_le hr
      · exact hline
      · exact (hbelow r hlt hrow).1
  · intro h
    refine ⟨h.le, ⟨h.filled first (Nat.le_refl _) h.le, h.reads⟩, fun r hr hrow => ⟨?_, ?_⟩⟩
    · exact startsAnnotation?_eq_some_false_iff.mpr
        ⟨h.filled r (Nat.le_of_lt hr) hrow, h.nearest r hr hrow⟩
    · have := h.reach
      omega

/-! The first annotation above a row, from the one that ends right above it. -/

private theorem annotationGroups_eq_append (limit row : Nat) (groups : List (Nat × Nat)) :
    annotationGroups surface s limit row groups =
      annotationGroups surface s limit row [] ++ groups := by
  induction limit generalizing row groups with
  | zero => rfl
  | succ limit ih =>
    cases row with
    | zero => rfl
    | succ above =>
      rw [annotationGroups, annotationGroups]
      cases annotationStart? surface s above above with
      | none => rfl
      | some start =>
        dsimp only
        rw [ih, ih start [(start, above)], List.append_assoc, List.singleton_append]

/-- Each annotation starts above the one before, so that no limit beyond the rows counts. -/
private theorem annotationGroups_limit {m n row : Nat} (hm : row ≤ m) (hn : row ≤ n) :
    annotationGroups surface s m row [] = annotationGroups surface s n row [] := by
  induction m generalizing n row with
  | zero =>
    obtain rfl : row = 0 := by omega
    cases n <;> rfl
  | succ m ih =>
    cases row with
    | zero => cases n <;> rfl
    | succ above =>
      obtain ⟨n, rfl⟩ : ∃ k, n = k + 1 := ⟨n - 1, by omega⟩
      rw [annotationGroups, annotationGroups]
      cases hs : annotationStart? surface s above above with
      | none => rfl
      | some start =>
        have hle := (annotationStart?_eq_some_iff.mp hs).le
        have hlimit : annotationGroups surface s m start [] = annotationGroups surface s n start [] :=
          ih (by omega) (by omega)
        dsimp only
        rw [annotationGroups_eq_append m, annotationGroups_eq_append n, hlimit]

theorem leadingAnnotations_of_none (h : annotationStart? surface s row row = none) :
    (leadingAnnotations surface s (row + 1)).1 = row + 1 := by
  rw [leadingAnnotations, annotationGroups, h]
  rfl

theorem leadingAnnotations_of_some (h : annotationStart? surface s row row = some first) :
    (leadingAnnotations surface s (row + 1)).1 = (leadingAnnotations surface s first).1 := by
  have hle := (annotationStart?_eq_some_iff.mp h).le
  rw [leadingAnnotations, annotationGroups, h, leadingAnnotations]
  dsimp only
  rw [annotationGroups_eq_append, annotationGroups_limit hle (Nat.le_refl first)]
  cases annotationGroups surface s first first [] <;> rfl

/-- The rows from the first annotation of a declaration down to the declaration are the ones that are
taken for its annotations. -/
theorem takenFor_iff :
    TakenFor surface s row stop ↔ (leadingAnnotations surface s stop).1 ≤ row ∧ row < stop := by
  constructor
  · intro h
    induction h with
    | last h hfirst hlast =>
      rw [leadingAnnotations_of_some (annotationStart?_eq_some_iff.mpr h)]
      exact ⟨Nat.le_trans (leadingAnnotations_le surface s _) hfirst, Nat.lt_succ_of_le hlast⟩
    | above h _ ih =>
      rw [leadingAnnotations_of_some (annotationStart?_eq_some_iff.mpr h)]
      have := h.le
      exact ⟨ih.1, by omega⟩
  · rintro ⟨hle, hlt⟩
    induction stop using Nat.strongRecOn with
    | _ stop ih =>
      obtain ⟨last, rfl⟩ : ∃ k, stop = k + 1 := ⟨stop - 1, by omega⟩
      cases hs : annotationStart? surface s last last with
      | none =>
        rw [leadingAnnotations_of_none hs] at hle
        omega
      | some first =>
        have h := annotationStart?_eq_some_iff.mp hs
        rw [leadingAnnotations_of_some hs] at hle
        by_cases hrow : first ≤ row
        · exact .last h hrow (Nat.le_of_lt_succ hlt)
        · exact .above h (ih first (Nat.lt_succ_of_le h.le) hle (Nat.lt_of_not_le hrow))

end Emission

namespace Classification
open Emission
variable {r : Reading} {s : Source} {captures : List Capture} {c : Capture} {e : Emission}
  {row : Nat}

/-- A capture that is no comment and has its row to itself, from the first character that is no white
space on. -/
def HoldsRow (s : Source) (c : Capture) : Prop :=
  (CaptureKind.ofLabel c.label).category ≠ .comment ∧ c.endRow = c.startRow ∧
    ∃ line, s.line? c.startRow = some line ∧ c.startColumn = Owner.indentation line

/-- Whether a declaration's emission shows a row above the capture. -/
def ShowsAbove (c : Capture) (e : Emission) (row : Nat) : Prop := e.row ≤ row ∧ row < c.startRow

/-- No declaration shows, above its own rows, the row of a definition that was returned before. -/
def KeepsDeclarationsApart (r : Reading) (s : Source) (captures : List Capture) : Prop :=
  (accepted r s .empty captures).Pairwise fun p q =>
    Declares r.surface q.1 s q.2 → HoldsRow s p.1 → ¬ShowsAbove q.1 q.2 p.1.startRow

theorem showsAbove_iff (h : Declares r.surface c s e) :
    ShowsAbove c e row ↔ TakenFor r.surface s row c.startRow := by
  rw [ShowsAbove, h.spec.2, takenFor_iff]

theorem not_takenFor_of_no_marks (h : r.surface.dialect.annotationMarks = []) (row stop : Nat) :
    ¬TakenFor r.surface s row stop := by
  rw [takenFor_iff, leadingAnnotations_of_no_marks h]
  omega

/-- A run returns fragments that keep declarations apart exactly when no definition that is returned
stands on a row that reads as an annotation of a declaration returned later. In a dialect without
annotations they are always kept apart. -/
theorem run_keepsDeclarationsApart_iff (hv : ∀ c ∈ captures, ¬c.Inverted) :
    ∃ fragments, run r s .empty captures = .ok fragments ∧
      fragments = (accepted r s .empty captures).map (·.2.fragment) ∧
      (KeepsDeclarationsApart r s captures ↔
        (accepted r s .empty captures).Pairwise fun p q =>
          Declares r.surface q.1 s q.2 → HoldsRow s p.1 →
            ¬TakenFor r.surface s p.1.startRow q.1.startRow) ∧
      (r.surface.dialect.annotationMarks = [] → KeepsDeclarationsApart r s captures) := by
  have hiff : KeepsDeclarationsApart r s captures ↔
      (accepted r s .empty captures).Pairwise fun p q =>
        Declares r.surface q.1 s q.2 → HoldsRow s p.1 →
          ¬TakenFor r.surface s p.1.startRow q.1.startRow := by
    refine List.Pairwise.iff fun p q => forall_congr' fun hd => imp_congr_right fun _ => ?_
    exact not_congr (showsAbove_iff hd)
  refine ⟨_, run_eq hv .empty, rfl, hiff, fun hmarks => hiff.mpr ?_⟩
  exact List.pairwise_of_forall fun p q _ _ => not_takenFor_of_no_marks hmarks _ _

def injectedField : Text := "class A \x7b\n  @Inject Foo foo;\n  class B \x7b\n  \x7d\n\x7d\n".toList

def injectedFieldCaptures : List Capture :=
  [⟨"definition.class", 0, 0, 4, 1⟩, ⟨"definition.property", 1, 2, 1, 18⟩,
    ⟨"definition.class", 2, 2, 3, 3⟩]

theorem injectedField_keepsDeclarationsApart_iff :
    (∀ c ∈ injectedFieldCaptures, ¬c.Inverted) ∧
      ∃ fragments, run ⟨.default, .java, .cLike⟩ (.ofText injectedField) .empty
          injectedFieldCaptures = .ok fragments ∧
        fragments = (accepted ⟨.default, .java, .cLike⟩ (.ofText injectedField) .empty
          injectedFieldCaptures).map (·.2.fragment) ∧
        (KeepsDeclarationsApart ⟨.default, .java, .cLike⟩ (.ofText injectedField)
            injectedFieldCaptures ↔
          (accepted ⟨.default, .java, .cLike⟩ (.ofText injectedField) .empty
            injectedFieldCaptures).Pairwise fun p q =>
              Declares ⟨.java, .cLike⟩ q.1 (.ofText injectedField) q.2 →
                HoldsRow (.ofText injectedField) p.1 →
                  ¬TakenFor ⟨.java, .cLike⟩ (.ofText injectedField) p.1.startRow q.1.startRow) ∧
        (Dialect.java.annotationMarks = [] →
          KeepsDeclarationsApart ⟨.default, .java, .cLike⟩ (.ofText injectedField)
            injectedFieldCaptures) := by
  have hv : ∀ c ∈ injectedFieldCaptures, ¬c.Inverted := by decide
  exact ⟨hv, run_keepsDeclarationsApart_iff (r := ⟨.default, .java, .cLike⟩) hv⟩

/-- The field is returned, and then once more above the class, as if it were its annotation. -/
theorem injectedField_repeats :
    injectedFieldCaptures.Pairwise (fun a b => a.startsBefore b) ∧
      (∀ c ∈ injectedFieldCaptures, ¬c.Inverted) ∧
      run ⟨.default, .java, .cLike⟩ (.ofText injectedField) .empty injectedFieldCaptures =
        .ok [⟨"class A".toList, 0⟩, ⟨"@Inject Foo foo;".toList, 1⟩,
          ⟨"@Inject Foo foo;\nclass B".toList, 1⟩] ∧
      ¬KeepsDeclarationsApart ⟨.default, .java, .cLike⟩ (.ofText injectedField)
        injectedFieldCaptures := by
  refine ⟨by decide, by decide, by decide +kernel, fun h => ?_⟩
  have haccepted : accepted ⟨.default, .java, .cLike⟩ (.ofText injectedField) .empty
      injectedFieldCaptures =
        [(⟨"definition.class", 0, 0, 4, 1⟩, ⟨"class A".toList, 0, ["class A".toList], none⟩),
          (⟨"definition.property", 1, 2, 1, 18⟩,
            ⟨"@Inject Foo foo;".toList, 1, ["@Inject Foo foo;".toList], none⟩),
          (⟨"definition.class", 2, 2, 3, 3⟩, ⟨"@Inject Foo foo;\nclass B".toList, 1,
            ["@Inject Foo foo;\nclass B".toList], none⟩)] := by
    decide +kernel
  rw [KeepsDeclarationsApart, haccepted] at h
  have hpair := (List.pairwise_cons.mp (List.pairwise_cons.mp h).2).1 _ List.mem_cons_self
  refine hpair (.header ?_) ⟨?_, rfl, "  @Inject Foo foo;".toList, ?_, ?_⟩ ⟨?_, ?_⟩ <;> decide +kernel

end Classification
end CodeDigest
