import CodeDigest.Proofs.Runs

/-! The order of fragments. Captures are taken in document order, but a declaration reaches up to the
first of its annotations, above which other captures may have been taken before. -/
namespace CodeDigest.Classification
variable {r : Reading} {s : Source} {captures : List Capture}

theorem startRow_le_of_startsBefore {a b : Capture} (h : a.startsBefore b = true) :
    a.startRow ≤ b.startRow := by
  simp only [Capture.startsBefore, Bool.or_eq_true, Bool.and_eq_true, decide_eq_true_eq] at h
  omega

/-- Accepted captures keep the order of all captures. -/
theorem accepted_startRow_le (hs : captures.Pairwise (fun a b => a.startsBefore b)) (k : Claims) :
    (accepted r s k captures).Pairwise fun p q => p.1.startRow ≤ q.1.startRow := by
  have hsub := hs.sublist (sublist_accepted (r := r) (s := s) k captures)
  exact (List.pairwise_map.mp hsub).imp startRow_le_of_startsBefore

/-- The rows of a declaration below the first of its annotations, down to the one it starts on. -/
def BelowTop (surface : Surface) (s : Source) (declaration : Capture) (row : Nat) : Prop :=
  (Emission.leadingAnnotations surface s declaration.startRow).1 < row ∧
    row ≤ declaration.startRow

theorem not_belowTop_of_no_marks {surface : Surface} (h : surface.dialect.annotationMarks = [])
    (c : Capture) (row : Nat) : ¬BelowTop surface s c row := by
  rw [BelowTop, Emission.leadingAnnotations_of_no_marks h]
  omega

/-- All but declarations stand on the row of their capture. So rows decrease nowhere but from a
fragment inside a declaration to the first annotation of that declaration. -/
private theorem rows_ordered_iff (hs : captures.Pairwise (fun a b => a.startsBefore b)) (k : Claims) :
    (accepted r s k captures).Pairwise (fun p q => p.2.row ≤ q.2.row) ↔
      (accepted r s k captures).Pairwise fun p q =>
        Declares r.surface q.1 s q.2 → ¬BelowTop r.surface s q.1 p.2.row := by
  constructor
  · intro h
    refine h.imp ?_
    intro p q hrow hd hbelow
    rw [hd.spec.2] at hrow
    exact absurd hbelow.1 (Nat.not_lt.mpr hrow)
  · intro h
    refine (h.and (accepted_startRow_le hs k)).imp_of_mem ?_
    rintro p q hp hq ⟨hbelow, hstart⟩
    have hp := (emission?_rendered (mem_accepted hp)).row_le
    obtain heq | hd := (emission?_rendered (mem_accepted hq)).spec.2
    · omega
    · rw [hd.spec.2]
      by_contra hlt
      exact hbelow hd ⟨Nat.lt_of_not_le hlt, by omega⟩

/-- A run over captures in document order returns fragments whose rows never decrease, unless a
fragment returned earlier stands on a row of a declaration below the first of its annotations. In a
dialect without annotations the rows never decrease. -/
theorem run_rows_ordered_iff (hs : captures.Pairwise (fun a b => a.startsBefore b))
    (hv : ∀ c ∈ captures, ¬c.Inverted) :
    ∃ fragments, run r s .empty captures = .ok fragments ∧
      ((fragments.map (·.row)).Pairwise (· ≤ ·) ↔
        (accepted r s .empty captures).Pairwise fun p q =>
          Declares r.surface q.1 s q.2 → ¬BelowTop r.surface s q.1 p.2.row) ∧
      (r.surface.dialect.annotationMarks = [] → (fragments.map (·.row)).Pairwise (· ≤ ·)) := by
  have hrows : (((accepted r s .empty captures).map (·.2.fragment)).map (·.row)).Pairwise (· ≤ ·) ↔
      (accepted r s .empty captures).Pairwise fun p q =>
        Declares r.surface q.1 s q.2 → ¬BelowTop r.surface s q.1 p.2.row := by
    rw [← rows_ordered_iff hs, List.map_map, List.pairwise_map]
    rfl
  refine ⟨_, run_eq hv .empty, hrows, fun hmarks => hrows.mpr ?_⟩
  exact List.pairwise_of_forall fun p q _ => not_belowTop_of_no_marks hmarks q.1 p.2.row

def decorated : Text := "@a\n@b  # c\ndef f():\n    pass\n".toList

def decoratedCaptures : List Capture :=
  [⟨"comment", 1, 4, 1, 7⟩, ⟨"definition.function", 2, 0, 3, 8⟩]

theorem decorated_rows_ordered_iff :
    decoratedCaptures.Pairwise (fun a b => a.startsBefore b) ∧
      (∀ c ∈ decoratedCaptures, ¬c.Inverted) ∧
      ∃ fragments, run ⟨.python, .python, .python⟩ (.ofText decorated) .empty decoratedCaptures =
          .ok fragments ∧
        ((fragments.map (·.row)).Pairwise (· ≤ ·) ↔
          (accepted ⟨.python, .python, .python⟩ (.ofText decorated) .empty decoratedCaptures).Pairwise
            fun p q => Declares ⟨.python, .python⟩ q.1 (.ofText decorated) q.2 →
              ¬BelowTop ⟨.python, .python⟩ (.ofText decorated) q.1 p.2.row) ∧
        (Dialect.python.annotationMarks = [] → (fragments.map (·.row)).Pairwise (· ≤ ·)) := by
  have hs : decoratedCaptures.Pairwise (fun a b => a.startsBefore b) := by decide
  have hv : ∀ c ∈ decoratedCaptures, ¬c.Inverted := by decide
  exact ⟨hs, hv, run_rows_ordered_iff (r := ⟨.python, .python, .python⟩) hs hv⟩

/-- The comment behind the second decorator is returned before the function that the first decorator
belongs to, so the rows decrease. -/
theorem decorated_rows_decrease :
    decoratedCaptures.Pairwise (fun a b => a.startsBefore b) ∧
      (∀ c ∈ decoratedCaptures, ¬c.Inverted) ∧
      ∃ fragments, run ⟨.python, .python, .python⟩ (.ofText decorated) .empty decoratedCaptures =
          .ok fragments ∧
        ¬(fragments.map (·.row)).Pairwise (· ≤ ·) := by
  refine ⟨by decide, by decide, [⟨"# c".toList, 1⟩, ⟨"@a\n@b  # c\ndef f()".toList, 0⟩], ?_, ?_⟩
  · decide +kernel
  · decide

end CodeDigest.Classification
