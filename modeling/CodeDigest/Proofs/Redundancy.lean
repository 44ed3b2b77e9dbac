import CodeDigest.Proofs.Runs

/-! Redundant captures. A run returns and claims the same without them. -/
namespace CodeDigest

namespace Claims

/-- What stays known and covered when more is claimed. -/
structure Extends (k k' : Claims) : Prop where
  keys : ∀ key ∈ k.keys, key ∈ k'.keys
  rows : ∀ row, k.isCovered row = true → k'.isCovered row = true

theorem Extends.refl (k : Claims) : k.Extends k := ⟨fun _ h => h, fun _ h => h⟩

theorem Accepts.extends {k k' : Claims} {e : Emission} (h : k.Accepts e k') : k.Extends k' := by
  constructor
  · intro key hkey
    exact (h.mem_keys key).mpr (.inl hkey)
  · intro row hrow
    rw [isCovered, h.covered, List.any_append]
    exact Bool.or_eq_true_iff.mpr (.inl hrow)

end Claims

namespace Classification
variable {r : Reading} {s : Source} {k k' : Claims} {c : Capture}
  {before captures kept : List Capture}

theorem step_extends (r : Reading) (s : Source) (k : Claims) (c : Capture) :
    k.Extends (step r s k c).2 := by
  have hstep := stepsTo_step r s k c
  generalize step r s k c = out at hstep ⊢
  cases hstep with
  | accept _ _ _ hk => exact hk.extends
  | inverted | covered | silent | known => exact .refl k

/-- A capture that yields nothing, now or later. -/
inductive Spent (r : Reading) (s : Source) (k : Claims) (c : Capture) : Prop where
  | covered (row : k.isCovered c.startRow = true)
  | silent (emits : emission? r s c = none)
  | known {e : Emission} {key : Text} (emits : emission? r s c = some e) (hkey : key ∈ e.keys)
      (hk : key ∈ k.keys)

theorem Spent.extend (h : Spent r s k c) (hk : k.Extends k') : Spent r s k' c := by
  cases h with
  | covered hrow => exact .covered (hk.rows _ hrow)
  | silent he => exact .silent he
  | known he hkey hknown => exact .known he hkey (hk.keys _ hknown)

theorem Spent.step_eq (h : Spent r s k c) (hv : ¬c.Inverted) : step r s k c = (.ok none, k) := by
  have hstep := stepsTo_step r s k c
  generalize step r s k c = out at hstep ⊢
  cases hstep with
  | accept _ hrow he hk =>
    exfalso
    cases h with
    | covered hrow' => exact Bool.false_ne_true (hrow.symm.trans hrow')
    | silent he' => exact Option.some_ne_none _ (he.symm.trans he')
    | known he' hkey hknown =>
      obtain rfl := Option.some.inj (he.symm.trans he')
      exact hk.fresh _ hkey hknown
  | inverted hinv => exact absurd hinv hv
  | covered | silent | known => rfl

theorem Spent.accepted?_eq (h : Spent r s k c) (hv : ¬c.Inverted) : accepted? r s k c = none := by
  rw [accepted?, h.step_eq hv]

/-- Once it was its turn, a capture yields nothing any more: what it has to show is claimed. -/
theorem spent_step (hv : ¬c.Inverted) : Spent r s (step r s k c).2 c := by
  have hstep := stepsTo_step r s k c
  generalize step r s k c = out at hstep ⊢
  cases hstep with
  | accept _ _ he hk =>
    have hne := (emission?_rendered he).spec.1.keys_ne_nil
    obtain ⟨key, hkey⟩ := List.exists_mem_of_ne_nil _ hne
    exact .known he hkey ((hk.mem_keys key).mpr (.inr hkey))
  | inverted hinv => exact absurd hinv hv
  | covered hrow => exact .covered hrow
  | silent he => exact .silent he
  | known he hkey hk => exact .known he hkey hk

/-- A capture that adds nothing behind others: it marks a name, its label is unknown, it starts
behind the last row, or it repeats one of the others. -/
inductive Redundant (s : Source) (before : List Capture) (c : Capture) : Prop where
  | name (h : (CaptureKind.ofLabel c.label).isName = true)
  | unknown (h : (CaptureKind.ofLabel c.label).category = .unknown)
  | outside (h : s.lineCount ≤ c.startRow)
  | repeated (h : c ∈ before)

theorem Redundant.spent (h : Redundant s before c) (hb : ∀ d ∈ before, Spent r s k d) :
    Spent r s k c := by
  cases h with
  | name h => exact .silent (by simp [emission?, h])
  | unknown h => exact .silent (by simp [emission?, h])
  | outside h => exact .silent (by simp [emission?, h])
  | repeated h => exact hb c h

/-- Behind the captures `before`, a list of captures and what is left of it without some that are
redundant. A capture may be left out as repeated only for one that stays. -/
inductive Thinned (s : Source) : (before captures kept : List Capture) → Prop where
  | nil (before : List Capture) : Thinned s before [] []
  | keep {before captures kept : List Capture} (c : Capture)
      (h : Thinned s (c :: before) captures kept) : Thinned s before (c :: captures) (c :: kept)
  | drop {before captures kept : List Capture} (c : Capture) (hc : Redundant s before c)
      (h : Thinned s before captures kept) : Thinned s before (c :: captures) kept

theorem Thinned.sublist (h : Thinned s before captures kept) : kept.Sublist captures := by
  induction h with
  | nil => exact List.Sublist.slnil
  | keep c _ ih => exact ih.cons_cons c
  | drop c _ _ ih => exact ih.cons c

/-- The invariant is that all captures that stayed so far are spent. -/
theorem Thinned.accepted_eq (h : Thinned s before captures kept)
    (hv : ∀ c ∈ captures, ¬c.Inverted) (hb : ∀ d ∈ before, Spent r s k d) :
    accepted r s k kept = accepted r s k captures ∧
      claimsAfter r s k kept = claimsAfter r s k captures := by
  induction h generalizing k with
  | nil => exact ⟨rfl, rfl⟩
  | @keep before _ _ c _ ih =>
    obtain ⟨hc, hrest⟩ := List.forall_mem_cons.mp hv
    have hspent : ∀ d ∈ c :: before, Spent r s (step r s k c).2 d := by
      intro d hd
      rcases List.mem_cons.mp hd with rfl | hd
      · exact spent_step hc
      · exact (hb d hd).extend (step_extends r s k c)
    obtain ⟨ha, hk⟩ := ih hrest hspent
    refine ⟨?_, hk⟩
    rw [accepted, accepted, ha]
  | drop c hred _ ih =>
    obtain ⟨hc, hrest⟩ := List.forall_mem_cons.mp hv
    have hspent := hred.spent hb
    obtain ⟨ha, hk⟩ := ih hrest hb
    constructor
    · rw [ha, accepted, hspent.accepted?_eq hc, hspent.step_eq hc]
      rfl
    · rw [hk, claimsAfter, claimsAfter, List.foldl_cons, hspent.step_eq hc]

/-- Whatever was claimed before, a run over captures that are not inverted returns the same fragments
and leaves the same claims when redundant captures are left out. -/
theorem run_thinned (h : Thinned s [] captures kept) (hv : ∀ c ∈ captures, ¬c.Inverted)
    (k : Claims) :
    ∃ fragments, run r s k captures = .ok fragments ∧ run r s k kept = .ok fragments ∧
      claimsAfter r s k kept = claimsAfter r s k captures := by
  have hkept : ∀ c ∈ kept, ¬c.Inverted := fun c hc => hv c (h.sublist.subset hc)
  obtain ⟨ha, hk⟩ := h.accepted_eq (r := r) (k := k) hv (by simp)
  refine ⟨_, run_eq hv k, ?_, hk⟩
  rw [run_eq hkept k, ha]

/-- A constant captured twice and a comment, with a name, an unknown label and a row that the source
does not have in between. -/
theorem repeated_constant_run_thinned :
    let s := Source.ofText "const A = 1\n// a\n".toList
    let constant : Capture := ⟨"definition.constant", 0, 0, 0, 11⟩
    let name : Capture := ⟨"name.definition.constant", 0, 6, 0, 7⟩
    let widget : Capture := ⟨"definition.widget", 0, 0, 0, 11⟩
    let comment : Capture := ⟨"comment", 1, 0, 1, 4⟩
    let below : Capture := ⟨"comment", 7, 0, 7, 4⟩
    let captures := [name, constant, widget, constant, comment, below]
    Thinned s [] captures [constant, comment] ∧ (∀ c ∈ captures, ¬c.Inverted) ∧
      ∃ fragments, run ⟨.go, .go, .go⟩ s .empty captures = .ok fragments ∧
        run ⟨.go, .go, .go⟩ s .empty [constant, comment] = .ok fragments ∧
        claimsAfter ⟨.go, .go, .go⟩ s .empty [constant, comment] =
          claimsAfter ⟨.go, .go, .go⟩ s .empty captures := by
  intro s constant name widget comment below captures
  have hname : Redundant s [] name := .name (by decide +kernel)
  have hwidget : Redundant s [constant] widget := .unknown (by decide +kernel)
  have hagain : Redundant s [constant] constant := .repeated (by simp)
  have hbelow : Redundant s [comment, constant] below := .outside (by decide +kernel)
  have h : Thinned s [] captures [constant, comment] := by
    apply Thinned.drop _ hname
    apply Thinned.keep
    apply Thinned.drop _ hwidget
    apply Thinned.drop _ hagain
    apply Thinned.keep
    exact .drop _ hbelow (.nil _)
  have hv : ∀ c ∈ captures, ¬c.Inverted := by decide
  exact ⟨h, hv, run_thinned h hv .empty⟩

end Classification
end CodeDigest
