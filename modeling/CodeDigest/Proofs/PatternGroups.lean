import CodeDigest.Pattern.Basic
import Mathlib.Data.List.Basic

/-! What a match of a pattern took from the text. Each group of a match holds a text that the part of
the pattern between the group's parentheses can take. -/
namespace CodeDigest.Pattern
/-- A text that a pattern can take. What stands around it is not looked at, so that marks of a place
take no text, and a group that is to come again takes any. -/
inductive Takes : Pattern → Text → Prop where
  | empty : Takes .empty []
  | set {s : CharSet} {x : Char} (h : s.has x = true) : Takes (.set s) [x]
  | seq {a b : Pattern} {v w : Text} (ha : Takes a v) (hb : Takes b w) : Takes (.seq a b) (v ++ w)
  | altLeft {a b : Pattern} {w : Text} (h : Takes a w) : Takes (.alt a b) w
  | altRight {a b : Pattern} {w : Text} (h : Takes b w) : Takes (.alt a b) w
  | starDone {greedy : Bool} {a : Pattern} : Takes (.star greedy a) []
  | starMore {greedy : Bool} {a : Pattern} {v w : Text} (ha : Takes a v)
      (hs : Takes (.star greedy a) w) : Takes (.star greedy a) (v ++ w)
  | group {index : Nat} {name : String} {a : Pattern} {w : Text} (h : Takes a w) :
      Takes (.group index name a) w
  | again {index : Nat} (w : Text) : Takes (.again index) w
  | wordBoundary {negated : Bool} : Takes (.wordBoundary negated) []
  | lineStart : Takes .lineStart []
  | lineEnd : Takes .lineEnd []
  | textStart : Takes .textStart []
  | textEnd : Takes .textEnd []
  | look {negated : Bool} {a : Pattern} : Takes (.look negated a) []

variable {p a b : Pattern} {c c' r : Cursor} {k : Continue} {s text v w : Text}

/-- The groups of a pattern that a match can hold, by their names. -/
def groupBodies : Pattern → List (String × Pattern)
  | .seq a b | .alt a b => a.groupBodies ++ b.groupBodies
  | .star _ a => a.groupBodies
  | .group _ name a => (name, a) :: a.groupBodies
  | _ => []

/-- A group's text is one that a group of this name can take. -/
def Fits (p : Pattern) (span : Span) : Prop :=
  ∃ body, (span.name, body) ∈ p.groupBodies ∧ Takes body span.text

theorem Fits.mono {q : Pattern} {span : Span} (h : p.Fits span)
    (hsub : p.groupBodies ⊆ q.groupBodies) : q.Fits span := by
  obtain ⟨body, hbody, htake⟩ := h
  exact ⟨body, hsub hbody, htake⟩

/-- A way from one cursor to another: the text between them is one that the pattern takes, and the
groups that came in on the way fit. -/
structure Advances (p : Pattern) (c c' : Cursor) (w : Text) : Prop where
  takes : Takes p w
  rest : c.rest = w ++ c'.rest
  position : c'.position = c.position + w.length
  groups : ∀ span ∈ c'.groups, span ∈ c.groups ∨ p.Fits span

namespace Advances

theorem stay (h : Takes p []) : Advances p c c [] :=
  ⟨h, rfl, rfl, fun _ hspan => .inl hspan⟩

/-- The same way under a pattern that takes the text too and has all the groups. -/
theorem under {q : Pattern} (h : Advances p c c' w) (htakes : Takes q w)
    (hsub : p.groupBodies ⊆ q.groupBodies) : Advances q c c' w :=
  ⟨htakes, h.rest, h.position, fun span hspan => (h.groups span hspan).imp_right (·.mono hsub)⟩

/-- One way after another. -/
theorem trans {q : Pattern} {c'' : Cursor} (h : Advances a c c' v) (h' : Advances b c' c'' w)
    (htakes : Takes q (v ++ w)) (ha : a.groupBodies ⊆ q.groupBodies)
    (hb : b.groupBodies ⊆ q.groupBodies) : Advances q c c'' (v ++ w) := by
  refine ⟨htakes, ?_, ?_, fun span hspan => ?_⟩
  · rw [h.rest, h'.rest, List.append_assoc]
  · rw [h'.position, h.position, List.length_append, Nat.add_assoc]
  · obtain hspan | hfits := h'.groups span hspan
    · exact (h.groups span hspan).imp_right (·.mono ha)
    · exact .inr (hfits.mono hb)

end Advances

private theorem advances_of_stepSet? {set : CharSet} (h : c.stepSet? set = some c') :
    ∃ w, Advances (.set set) c c' w := by
  rw [Cursor.stepSet?] at h
  split at h
  · cases h
  · next x rest hrest =>
    split at h
    · next hx =>
      rw [Cursor.next?, hrest] at h
      cases h
      exact ⟨[x], .set hx, hrest, rfl, fun _ hspan => .inl hspan⟩
    · cases h

private theorem advances_of_stepText? {index : Nat} (h : c.stepText? text = some c') :
    Advances (.again index) c c' text := by
  induction text generalizing c with
  | nil =>
    cases h
    exact .stay (.again [])
  | cons x text ih =>
    rw [Cursor.stepText?] at h
    split at h
    · next hx =>
      obtain ⟨c₁, hnext, h⟩ := Option.bind_eq_some_iff.mp h
      cases hrest : c.rest with
      | nil => simp [hrest] at hx
      | cons y rest =>
        obtain rfl : y = x := by simpa [hrest] using hx
        rw [Cursor.next?, hrest] at hnext
        have hstep : Advances (.again index) c c₁ [y] := by
          cases hnext
          exact ⟨.again _, hrest, rfl, fun _ hspan => .inl hspan⟩
        exact hstep.trans (ih h) (.again _) (List.Subset.refl _) (List.Subset.refl _)
    · cases h

/-- Each place that a climb reaches lies behind characters of the set. -/
private theorem advances_of_mem_climb (greedy : Bool) {set : CharSet} {n : Nat} {seen : List Cursor}
    (h : c' ∈ c.climb set n seen) : c' ∈ seen ∨ ∃ w, Advances (.star greedy (.set set)) c c' w := by
  induction n generalizing c seen with
  | zero =>
    rw [Cursor.climb, List.mem_cons] at h
    obtain rfl | h := h
    · exact .inr ⟨[], .stay .starDone⟩
    · exact .inl h
  | succ n ih =>
    have hhere : c' ∈ c :: seen → c' ∈ seen ∨ ∃ w, Advances (.star greedy (.set set)) c c' w := by
      intro h
      obtain rfl | h := List.mem_cons.mp h
      · exact .inr ⟨[], .stay .starDone⟩
      · exact .inl h
    rw [Cursor.climb] at h
    split at h
    · exact hhere h
    · next c₁ hstep =>
      obtain h | ⟨w, h⟩ := ih h
      · exact hhere h
      · obtain ⟨v, hv⟩ := advances_of_stepSet? hstep
        exact .inr ⟨v ++ w, hv.trans h (.starMore hv.takes h.takes) (List.Subset.refl _)
          (List.Subset.refl _)⟩

/-- Repeating a step that advances under `a` advances under the star of `a`. -/
private theorem advances_of_repeatStep {step : Cursor → Continue → Option Cursor} {greedy : Bool}
    (hstep : ∀ {c k}, step c k = some r → ∃ c' w, Advances a c c' w ∧ k c' = some r) {n : Nat}
    (h : repeatStep step greedy n c k = some r) :
    ∃ c' w, Advances (.star greedy a) c c' w ∧ k c' = some r := by
  induction n generalizing c with
  | zero => exact ⟨c, [], .stay .starDone, h⟩
  | succ n ih =>
    have hmore : step c (fun c' =>
        if c.position < c'.position then repeatStep step greedy n c' k else none) = some r →
        ∃ c' w, Advances (.star greedy a) c c' w ∧ k c' = some r := by
      intro h
      obtain ⟨c₁, v, hv, h⟩ := hstep h
      split at h
      · obtain ⟨c₂, w, hw, h⟩ := ih h
        exact ⟨c₂, v ++ w, hv.trans hw (.starMore hv.takes hw.takes) (List.Subset.refl _)
          (List.Subset.refl _), h⟩
      · cases h
    have hhere : k c = some r → ∃ c' w, Advances (.star greedy a) c c' w ∧ k c' = some r :=
      fun h => ⟨c, [], .stay .starDone, h⟩
    rw [repeatStep] at h
    split at h
    · exact (Option.or_eq_some_iff.mp h).elim hmore fun h => hhere h.2
    · exact (Option.or_eq_some_iff.mp h).elim hhere fun h => hmore h.2

private theorem run_star {greedy : Bool} (h : (star greedy a).run c k = some r) :
    (∃ set, a = .set set ∧ ∃ c' ∈ c.climb set c.left [], k c' = some r) ∨
      repeatStep (fun c' k' => a.run c' k') greedy c.left c k = some r := by
  cases a with
  | set set =>
    left
    rw [run] at h
    obtain ⟨c', hc', h⟩ := List.exists_of_findSome?_eq_some h
    refine ⟨set, rfl, c', ?_, h⟩
    cases greedy <;> simpa using hc'
  | _ => exact .inr h

private theorem exists_advances_of_place {condition : Prop} [Decidable condition] (hp : Takes p [])
    (h : (if condition then k c else none) = some r) : ∃ c' w, Advances p c c' w ∧ k c' = some r := by
  split at h
  · exact ⟨c, [], .stay hp, h⟩
  · cases h

/-- A match goes on behind a text that its pattern takes, with groups that fit. -/
theorem exists_advances_of_run (h : p.run c k = some r) :
    ∃ c' w, Advances p c c' w ∧ k c' = some r := by
  induction p generalizing c k with
  | empty => exact ⟨c, [], .stay .empty, h⟩
  | fail => cases h
  | set set =>
    obtain ⟨c', hstep, h⟩ := Option.bind_eq_some_iff.mp h
    obtain ⟨w, hw⟩ := advances_of_stepSet? hstep
    exact ⟨c', w, hw, h⟩
  | seq a b iha ihb =>
    obtain ⟨c₁, v, hv, h⟩ := iha h
    obtain ⟨c₂, w, hw, h⟩ := ihb h
    exact ⟨c₂, v ++ w, hv.trans hw (.seq hv.takes hw.takes) (List.subset_append_left _ _)
      (List.subset_append_right _ _), h⟩
  | alt a b iha ihb =>
    rw [run] at h
    split at h
    · next ha =>
      obtain ⟨c', w, hw, h⟩ := iha (ha.trans h)
      exact ⟨c', w, hw.under (.altLeft hw.takes) (List.subset_append_left _ _), h⟩
    · obtain ⟨c', w, hw, h⟩ := ihb h
      exact ⟨c', w, hw.under (.altRight hw.takes) (List.subset_append_right _ _), h⟩
  | star greedy a ih =>
    obtain ⟨set, rfl, c', hc', h⟩ | h := run_star h
    · obtain hnil | ⟨w, hw⟩ := advances_of_mem_climb greedy hc'
      · cases hnil
      · exact ⟨c', w, hw, h⟩
    · exact advances_of_repeatStep ih h
  | group index name a ih =>
    obtain ⟨c', w, hw, h⟩ := ih h
    refine ⟨_, w, ?_, h⟩
    refine ⟨.group hw.takes, hw.rest, hw.position, fun span hspan => ?_⟩
    obtain rfl | hspan := List.mem_cons.mp hspan
    · refine .inr ⟨a, List.mem_cons_self, ?_⟩
      have htext : c.rest.take (c'.position - c.position) = w := by
        rw [hw.position, Nat.add_sub_cancel_left, hw.rest, List.take_left]
      rw [htext]
      exact hw.takes
    · exact (hw.groups span hspan).imp_right (·.mono (List.subset_cons_self _ _))
  | again index =>
    rw [run] at h
    split at h
    · cases h
    · obtain ⟨c', hstep, h⟩ := Option.bind_eq_some_iff.mp h
      exact ⟨c', _, advances_of_stepText? hstep, h⟩
  | wordBoundary => exact exists_advances_of_place .wordBoundary h
  | lineStart => exact exists_advances_of_place .lineStart h
  | lineEnd => exact exists_advances_of_place .lineEnd h
  | textStart => exact exists_advances_of_place .textStart h
  | textEnd => exact exists_advances_of_place .textEnd h
  | look => exact exists_advances_of_place .look h

/-- The groups of a match at a cursor fit. -/
theorem matchAt?_groups {m : Match} (h : matchAt? p c = some m) :
    ∀ span ∈ m.stop.groups, p.Fits span := by
  obtain ⟨r, hrun, rfl⟩ := Option.map_eq_some_iff.mp h
  obtain ⟨c', w, hw, hk⟩ := exists_advances_of_run hrun
  cases hk
  intro span hspan
  exact (hw.groups span hspan).resolve_left List.not_mem_nil

theorem search?_groups {m : Match} {n : Nat} (h : search? p n c = some m) :
    ∀ span ∈ m.stop.groups, p.Fits span := by
  induction n generalizing c with
  | zero => exact matchAt?_groups h
  | succ n ih =>
    rw [search?] at h
    split at h
    · next hm => exact matchAt?_groups (hm.trans h)
    · obtain ⟨c', -, h⟩ := Option.bind_eq_some_iff.mp h
      exact ih h

theorem firstMatch?_groups {m : Match} (h : firstMatch? p s = some m) :
    ∀ span ∈ m.stop.groups, p.Fits span :=
  search?_groups h

theorem allMatches_groups {m : Match} (h : m ∈ allMatches p s) :
    ∀ span ∈ m.stop.groups, p.Fits span := by
  rw [allMatches] at h
  generalize s.length + 1 = n at h
  generalize Cursor.ofText s = c at h
  induction n generalizing c with
  | zero => cases h
  | succ n ih =>
    rw [matchesFrom] at h
    split at h
    · cases h
    · next first hfirst =>
      obtain rfl | h := List.mem_cons.mp h
      · exact search?_groups hfirst
      · generalize (if first.stop.position = first.start.position then first.stop.next?
          else some first.stop) = next at h
        cases next with
        | none => cases h
        | some c' => exact ih c' h

def avoids (x : Char) : Pattern → Bool
  | .set s => !s.has x
  | .seq a b | .alt a b => a.avoids x && b.avoids x
  | .star _ a | .group _ _ a => a.avoids x
  | .again _ => false
  | _ => true

theorem notMem_of_takes {x : Char} (h : Takes p w) (hp : p.avoids x = true) : x ∉ w := by
  induction h with
  | set hx =>
    intro hmem
    obtain rfl := List.mem_singleton.mp hmem
    simp [avoids, hx] at hp
  | seq _ _ iha ihb =>
    simp only [avoids, Bool.and_eq_true] at hp
    simp [iha hp.1, ihb hp.2]
  | altLeft _ ih =>
    rw [avoids, Bool.and_eq_true] at hp
    exact ih hp.1
  | altRight _ ih =>
    rw [avoids, Bool.and_eq_true] at hp
    exact ih hp.2
  | starMore _ _ iha ihs => simp [iha hp, ihs hp]
  | group _ ih => exact ih hp
  | again => cases hp
  | empty | starDone | wordBoundary | lineStart | lineEnd | textStart | textEnd | look =>
    exact List.not_mem_nil

def groupsAvoid (x : Char) (p : Pattern) : Bool := p.groupBodies.all fun b => b.2.avoids x

theorem Fits.notMem {x : Char} {span : Span} (h : p.Fits span) (hp : p.groupsAvoid x = true) :
    x ∉ span.text := by
  obtain ⟨body, hbody, htakes⟩ := h
  exact notMem_of_takes htakes (List.all_eq_true.mp hp _ hbody)

end CodeDigest.Pattern
