import CodeDigest.Classification
import CodeDigest.Proofs.Renderings
import Mathlib.Data.List.Induction

/-! Runs: what is accepted on the way, and what the claims tell about it at the end. -/
namespace CodeDigest

def Emission.fragment (e : Emission) : Fragment := ⟨e.text, e.row⟩

def Emission.Covers (e : Emission) (row : Nat) : Prop :=
  ∃ first last, e.covers = some (first, last) ∧ first ≤ row ∧ row ≤ last

namespace Claims
variable {k k' : Claims} {e : Emission} {key : Text}

theorem contains_iff : k.contains key = true ↔ key ∈ k.keys := List.contains_iff_mem

theorem mem_keys_insert {x : Text} : x ∈ (k.insert key).keys ↔ x ∈ k.keys ∨ x = key := by
  rw [insert]
  split
  · next h =>
    constructor
    · exact Or.inl
    · rintro (hx | rfl)
      · exact hx
      · exact contains_iff.mp h
  · rw [List.mem_cons, or_comm]

theorem nodup_keys_insert (h : k.keys.Nodup) : (k.insert key).keys.Nodup := by
  rw [insert]
  split
  · exact h
  · next hk => exact List.nodup_cons.mpr ⟨fun hm => hk (contains_iff.mpr hm), h⟩

@[simp] theorem covered_insert : (k.insert key).covered = k.covered := by
  rw [insert]
  split <;> rfl

/-- What it takes to accept an emission, and the claims `k'` that come of it. -/
structure Accepts (k : Claims) (e : Emission) (k' : Claims) : Prop where
  fresh : ∀ key ∈ e.keys, key ∉ k.keys
  mem_keys : ∀ key, key ∈ k'.keys ↔ key ∈ k.keys ∨ key ∈ e.keys
  nodup : k.keys.Nodup → k'.keys.Nodup
  covered : k'.covered = k.covered ++ e.covers.toList

private theorem foldl_insert_spec (keys : List Text) (k : Claims) :
    (∀ key, key ∈ (keys.foldl insert k).keys ↔ key ∈ k.keys ∨ key ∈ keys) ∧
      (k.keys.Nodup → (keys.foldl insert k).keys.Nodup) ∧
      (keys.foldl insert k).covered = k.covered := by
  induction keys generalizing k with
  | nil => simp
  | cons x keys ih =>
    obtain ⟨hmem, hnodup, hcovered⟩ := ih (k.insert x)
    refine ⟨?_, fun h => hnodup (nodup_keys_insert h), hcovered.trans covered_insert⟩
    intro key
    rw [List.foldl_cons, hmem, mem_keys_insert, List.mem_cons, or_assoc]

private theorem any_contains_iff :
    e.keys.any k.contains = true ↔ ∃ key ∈ e.keys, key ∈ k.keys := by
  simp [List.any_eq_true, contains_iff]

theorem claim_of_fresh (h : ∀ key ∈ e.keys, key ∉ k.keys) :
    ∃ k', k.claim e = (some e.fragment, k') ∧ k.Accepts e k' := by
  obtain ⟨hmem, hnodup, hcovered⟩ := foldl_insert_spec e.keys k
  have hnone : ¬e.keys.any k.contains = true := by
    rw [any_contains_iff]
    rintro ⟨key, he, hk⟩
    exact h key he hk
  refine ⟨_, if_neg hnone, h, hmem, hnodup, ?_⟩
  exact congrArg (· ++ e.covers.toList) hcovered

structure Records (k : Claims) (emissions : List Emission) : Prop where
  nodup : k.keys.Nodup
  mem_keys : ∀ key, key ∈ k.keys ↔ ∃ e ∈ emissions, key ∈ e.keys
  covered : k.covered = emissions.flatMap (·.covers.toList)
  disjoint : emissions.Pairwise fun a b => a.keys.Disjoint b.keys

theorem records_empty : empty.Records [] :=
  ⟨List.nodup_nil, fun key => by simp [empty], rfl, List.Pairwise.nil⟩

theorem Records.accept {emissions : List Emission} (h : k.Records emissions)
    (hk : k.Accepts e k') : k'.Records (emissions ++ [e]) := by
  refine ⟨hk.nodup h.nodup, ?_, ?_, ?_⟩
  · intro key
    rw [hk.mem_keys, h.mem_keys]
    simp [or_and_right, exists_or]
  · rw [hk.covered, h.covered, List.flatMap_append, List.flatMap_singleton]
  · rw [List.pairwise_append]
    refine ⟨h.disjoint, List.pairwise_singleton _ _, ?_⟩
    intro a ha b hb key hka hkb
    obtain rfl := List.mem_singleton.mp hb
    exact hk.fresh key hkb ((h.mem_keys key).mpr ⟨a, ha, hka⟩)

theorem Records.isCovered_iff {emissions : List Emission} (h : k.Records emissions) (row : Nat) :
    k.isCovered row = true ↔ ∃ e ∈ emissions, e.Covers row := by
  rw [isCovered, h.covered, List.any_eq_true]
  constructor
  · rintro ⟨⟨first, last⟩, hmem, hrow⟩
    obtain ⟨e, he, hcovers⟩ := List.mem_flatMap.mp hmem
    simp only [Bool.and_eq_true, decide_eq_true_eq] at hrow
    exact ⟨e, he, first, last, Option.mem_toList.mp hcovers, hrow⟩
  · rintro ⟨e, he, first, last, hcovers, hfirst, hlast⟩
    refine ⟨(first, last), List.mem_flatMap.mpr ⟨e, he, Option.mem_toList.mpr hcovers⟩, ?_⟩
    simp [hfirst, hlast]

theorem claim_of_known (he : key ∈ e.keys) (hk : key ∈ k.keys) : k.claim e = (none, k) := by
  rw [claim, if_pos (any_contains_iff.mpr ⟨key, he, hk⟩)]

end Claims

namespace Classification
variable {r : Reading} {s : Source} {k : Claims} {c : Capture} {e : Emission}

/-- What a step can do: it accepts an emission whose row and keys are new, or it changes nothing. -/
inductive StepsTo (r : Reading) (s : Source) (k : Claims) (c : Capture) :
    Except DigestError (Option Fragment) × Claims → Prop where
  | accept {e : Emission} {k' : Claims} (valid : ¬c.Inverted) (row : k.isCovered c.startRow = false)
      (emits : emission? r s c = some e) (keys : k.Accepts e k') :
      StepsTo r s k c (.ok (some e.fragment), k')
  | inverted (invalid : c.Inverted) : StepsTo r s k c (.error (.inverted c), k)
  | covered (row : k.isCovered c.startRow = true) : StepsTo r s k c (.ok none, k)
  | silent (emits : emission? r s c = none) : StepsTo r s k c (.ok none, k)
  | known {e : Emission} {key : Text} (emits : emission? r s c = some e) (hkey : key ∈ e.keys)
      (hk : key ∈ k.keys) : StepsTo r s k c (.ok none, k)

theorem stepsTo_step (r : Reading) (s : Source) (k : Claims) (c : Capture) :
    StepsTo r s k c (step r s k c) := by
  by_cases hinv : c.Inverted
  · rw [step, if_pos hinv]
    exact .inverted hinv
  · by_cases hcov : k.isCovered c.startRow = true
    · rw [step, if_neg hinv, if_pos hcov]
      exact .covered hcov
    · rw [step, if_neg hinv, if_neg hcov]
      cases he : emission? r s c with
      | none => exact .silent he
      | some e =>
        by_cases hknown : ∃ key ∈ e.keys, key ∈ k.keys
        · obtain ⟨key, hkey, hk⟩ := hknown
          simp only [Claims.claim_of_known hkey hk]
          exact .known he hkey hk
        · have hfresh : ∀ key ∈ e.keys, key ∉ k.keys := fun key hkey hk => hknown ⟨key, hkey, hk⟩
          obtain ⟨k', hclaim, hk'⟩ := Claims.claim_of_fresh hfresh
          simp only [hclaim]
          exact .accept hinv (Bool.eq_false_iff.mpr hcov) he hk'

theorem emission?_rendered (h : emission? r s c = some e) : Rendered r.surface c s e := by
  simp only [emission?] at h
  split at h
  · cases h
  · exact Strategy.emit?_rendered h

/-- The emission behind the fragment that a step returns. -/
def accepted? (r : Reading) (s : Source) (k : Claims) (c : Capture) : Option Emission :=
  match (step r s k c).1 with
  | .ok (some _) => emission? r s c
  | _ => none

theorem accepted?_eq_some (h : accepted? r s k c = some e) :
    ∃ k', step r s k c = (.ok (some e.fragment), k') ∧ emission? r s c = some e ∧
      k.isCovered c.startRow = false ∧ k.Accepts e k' := by
  have hstep := stepsTo_step r s k c
  rw [accepted?] at h
  generalize step r s k c = out at hstep h ⊢
  cases hstep with
  | accept _ hrow he hk =>
    obtain rfl := Option.some.inj (he.symm.trans h)
    exact ⟨_, rfl, he, hrow, hk⟩
  | inverted | covered | silent | known => cases h

theorem accepted?_eq_none (h : accepted? r s k c = none) :
    step r s k c = (.ok none, k) ∨ c.Inverted ∧ step r s k c = (.error (.inverted c), k) := by
  have hstep := stepsTo_step r s k c
  rw [accepted?] at h
  generalize step r s k c = out at hstep h ⊢
  cases hstep with
  | accept _ _ he => exact absurd (he.symm.trans h) (Option.some_ne_none _)
  | inverted hinv => exact .inr ⟨hinv, rfl⟩
  | covered | silent | known => exact .inl rfl

def accepted (r : Reading) (s : Source) : Claims → List Capture → List (Capture × Emission)
  | _, [] => []
  | k, c :: rest => ((accepted? r s k c).map (c, ·)).toList ++ accepted r s (step r s k c).2 rest

/-- The claims behind a run. An inverted capture changes nothing, and the run goes on behind it. -/
def claimsAfter (r : Reading) (s : Source) (k : Claims) (captures : List Capture) : Claims :=
  captures.foldl (fun k c => (step r s k c).2) k

theorem claimsAfter_append (k : Claims) (cs ds : List Capture) :
    claimsAfter r s k (cs ++ ds) = claimsAfter r s (claimsAfter r s k cs) ds :=
  List.foldl_append

theorem claimsAfter_snoc (captures : List Capture) (c : Capture) :
    claimsAfter r s k (captures ++ [c]) = (step r s (claimsAfter r s k captures) c).2 :=
  claimsAfter_append k captures [c]

theorem accepted_append (k : Claims) (cs ds : List Capture) :
    accepted r s k (cs ++ ds) = accepted r s k cs ++ accepted r s (claimsAfter r s k cs) ds := by
  induction cs generalizing k with
  | nil => rfl
  | cons c cs ih =>
    rw [List.cons_append, accepted, accepted, ih, List.append_assoc]
    rfl

def emissions (r : Reading) (s : Source) (captures : List Capture) : List Emission :=
  (accepted r s .empty captures).map (·.2)

theorem mem_emissions {before : List Capture}
    (h : accepted? r s (claimsAfter r s .empty before) c = some e) (between : List Capture) :
    e ∈ emissions r s (before ++ c :: between) := by
  rw [emissions, accepted_append, accepted, h]
  simp

theorem emissions_snoc (captures : List Capture) (c : Capture) :
    emissions r s (captures ++ [c]) = emissions r s captures ++
      (accepted? r s (claimsAfter r s .empty captures) c).toList := by
  rw [emissions, accepted_append, List.map_append, emissions]
  cases ha : accepted? r s (claimsAfter r s .empty captures) c <;> simp [accepted, ha]

/-- After any run the claims hold the keys and rows of what was accepted, and nothing else. -/
theorem records_run (captures : List Capture) :
    (claimsAfter r s .empty captures).Records (emissions r s captures) := by
  induction captures using List.reverseRecOn with
  | nil => exact Claims.records_empty
  | append_singleton captures c ih =>
    rw [claimsAfter_snoc, emissions_snoc]
    cases ha : accepted? r s (claimsAfter r s .empty captures) c with
    | some e =>
      obtain ⟨k', hstep, -, -, hk⟩ := accepted?_eq_some ha
      rw [hstep]
      exact ih.accept hk
    | none =>
      rw [Option.toList_none, List.append_nil]
      obtain hstep | ⟨-, hstep⟩ := accepted?_eq_none ha
      · rw [hstep]
        exact ih
      · rw [hstep]
        exact ih

theorem accepted?_eq_none_of_mem_keys {key : Text} (he : emission? r s c = some e)
    (hkey : key ∈ e.keys) (hk : key ∈ k.keys) : accepted? r s k c = none := by
  cases ha : accepted? r s k c with
  | none => rfl
  | some a =>
    obtain ⟨k', -, ha, -, hacc⟩ := accepted?_eq_some ha
    obtain rfl := Option.some.inj (ha.symm.trans he)
    exact absurd hk (hacc.fresh key hkey)

/-- Behind a capture that is not accepted all goes on as if the capture were not there. -/
theorem after_refused {before : List Capture}
    (h : accepted? r s (claimsAfter r s .empty before) c = none) (between : List Capture) :
    claimsAfter r s .empty (before ++ c :: between) = claimsAfter r s .empty (before ++ between) ∧
      emissions r s (before ++ c :: between) = emissions r s (before ++ between) := by
  have hk : (step r s (claimsAfter r s .empty before) c).2 = claimsAfter r s .empty before := by
    obtain hstep | ⟨-, hstep⟩ := accepted?_eq_none h
    · rw [hstep]
    · rw [hstep]
  constructor
  · rw [claimsAfter_append, claimsAfter_append, claimsAfter, List.foldl_cons, hk]
    rfl
  · rw [emissions, emissions, accepted_append, accepted_append, accepted, h, hk]
    rfl

/-- After any run a capture yields a fragment exactly when its emission is new: its row lies on no
row that was accepted whole, and it shares no key with what was accepted. -/
theorem returns_iff (captures : List Capture) (c : Capture) :
    (∃ f, (step r s (claimsAfter r s .empty captures) c).1 = .ok (some f)) ↔
      ¬c.Inverted ∧ ∃ e, emission? r s c = some e ∧
        ∀ a ∈ emissions r s captures, ¬a.Covers c.startRow ∧ a.keys.Disjoint e.keys := by
  have hrec := records_run (r := r) (s := s) captures
  have hcov := hrec.isCovered_iff c.startRow
  have hstep := stepsTo_step r s (claimsAfter r s .empty captures) c
  generalize step r s (claimsAfter r s .empty captures) c = out at hstep
  cases hstep with
  | accept hinv hrow he hk =>
    refine iff_of_true ⟨_, rfl⟩ ⟨hinv, _, he, ?_⟩
    intro a ha
    refine ⟨fun hc => ?_, fun key hka hke => ?_⟩
    · rw [hcov.mpr ⟨a, ha, hc⟩] at hrow
      cases hrow
    · exact hk.fresh key hke ((hrec.mem_keys key).mpr ⟨a, ha, hka⟩)
  | inverted hinv =>
    refine iff_of_false ?_ fun h => h.1 hinv
    rintro ⟨f, ⟨⟩⟩
  | covered hrow =>
    obtain ⟨a, ha, hc⟩ := hcov.mp hrow
    refine iff_of_false ?_ ?_
    · rintro ⟨f, ⟨⟩⟩
    · rintro ⟨-, e, -, h⟩
      exact (h a ha).1 hc
  | silent he =>
    refine iff_of_false ?_ ?_
    · rintro ⟨f, ⟨⟩⟩
    · rintro ⟨-, e, he', -⟩
      cases he.symm.trans he'
  | known he hkey hk =>
    obtain ⟨a, ha, hka⟩ := (hrec.mem_keys _).mp hk
    refine iff_of_false ?_ ?_
    · rintro ⟨f, ⟨⟩⟩
    · rintro ⟨-, e, he', h⟩
      obtain rfl := Option.some.inj (he.symm.trans he')
      exact (h a ha).2 hka hkey

/-- When no capture is inverted, a run returns what it accepts. -/
theorem run_eq {captures : List Capture} (h : ∀ c ∈ captures, ¬c.Inverted) (k : Claims) :
    run r s k captures = .ok ((accepted r s k captures).map (·.2.fragment)) := by
  induction captures generalizing k with
  | nil => rfl
  | cons c rest ih =>
    have hrest := ih (fun d hd => h d (List.mem_cons_of_mem c hd)) (step r s k c).2
    rw [accepted]
    cases ha : accepted? r s k c with
    | some e =>
      obtain ⟨k', hstep, -⟩ := accepted?_eq_some ha
      rw [hstep] at hrest ⊢
      rw [run, hstep]
      simp only [hrest]
      rfl
    | none =>
      obtain hstep | ⟨hinv, -⟩ := accepted?_eq_none ha
      · rw [hstep] at hrest ⊢
        rw [run, hstep]
        simp only [hrest]
        rfl
      · exact absurd hinv (h c List.mem_cons_self)

theorem mem_accepted {captures : List Capture} {p : Capture × Emission}
    (h : p ∈ accepted r s k captures) : emission? r s p.1 = some p.2 := by
  induction captures generalizing k with
  | nil => cases h
  | cons c rest ih =>
    rw [accepted, List.mem_append] at h
    obtain h | h := h
    · obtain ⟨e, he, rfl⟩ := Option.map_eq_some_iff.mp (Option.mem_toList.mp h)
      exact (accepted?_eq_some he).choose_spec.2.1
    · exact ih h

theorem sublist_accepted (k : Claims) (captures : List Capture) :
    ((accepted r s k captures).map (·.1)).Sublist captures := by
  induction captures generalizing k with
  | nil => exact List.Sublist.slnil
  | cons c rest ih =>
    rw [accepted, List.map_append]
    cases accepted? r s k c with
    | some e => exact (ih _).cons_cons c
    | none => exact (ih _).cons c

end Classification
end CodeDigest
