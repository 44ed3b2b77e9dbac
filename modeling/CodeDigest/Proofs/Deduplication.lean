import CodeDigest.Proofs.Runs

/-! What deduplication keeps over whole runs, and what a refused emission leaves behind. -/
namespace CodeDigest

namespace Classification
variable {r : Reading} {s : Source} {c : Capture} {e : Emission}

/-- After any run, with any captures in any order, the accepted emissions have keys, no two of them
share one, and the claims hold exactly these keys. A further capture is answered by a fragment that
is not blank and starts on no row that was accepted whole, or it changes nothing. -/
theorem run_deduplicates (r : Reading) (s : Source) (captures : List Capture) :
    let accepted := emissions r s captures
    let k := claimsAfter r s .empty captures
    (∀ e ∈ accepted, e.keys ≠ []) ∧
      accepted.Pairwise (fun a b => a.keys.Disjoint b.keys) ∧
      k.keys.Nodup ∧ (∀ key, key ∈ k.keys ↔ ∃ e ∈ accepted, key ∈ e.keys) ∧
      ∀ c, (∀ f, (step r s k c).1 = .ok (some f) →
          Text.isBlank f.text = false ∧ ∀ e ∈ accepted, ¬e.Covers c.startRow) ∧
        ((∀ f, (step r s k c).1 ≠ .ok (some f)) → (step r s k c).2 = k) := by
  intro accepted k
  have hrec : k.Records accepted := records_run captures
  refine ⟨?_, hrec.disjoint, hrec.nodup, hrec.mem_keys, ?_⟩
  · intro e he
    obtain ⟨⟨c, _⟩, hp, rfl⟩ := List.mem_map.mp he
    exact (emission?_rendered (mem_accepted hp)).spec.1.keys_ne_nil
  · intro c
    have hstep := stepsTo_step r s k c
    generalize step r s k c = out at hstep
    cases hstep with
    | accept _ hrow he =>
      refine ⟨?_, fun hno => absurd rfl (hno _)⟩
      rintro f ⟨⟩
      refine ⟨(emission?_rendered he).spec.1.notBlank, ?_⟩
      intro a ha hc
      rw [(hrec.isCovered_iff c.startRow).mpr ⟨a, ha, hc⟩] at hrow
      cases hrow
    | inverted | covered | silent | known =>
      refine ⟨?_, fun _ => rfl⟩
      rintro f ⟨⟩

/-- A constant is returned once, and an inverted capture in between is answered by an error. -/
example :
    let s := Source.ofText "const A = 1\nconst A = 1\n".toList
    let k := claimsAfter ⟨.go, .go, .go⟩ s .empty
      [⟨"definition.constant", 0, 0, 0, 11⟩, ⟨"comment", 1, 5, 1, 0⟩]
    k = ⟨["const A = 1".toList], [(0, 0)]⟩ ∧
      step ⟨.go, .go, .go⟩ s k ⟨"definition.constant", 1, 0, 1, 11⟩ = (.ok none, k) := by
  decide +kernel

/-- A block whose text was emitted before is dropped and leaves no trace: behind it a capture, on a
row of the block or elsewhere, yields a fragment exactly when its emission is new to what was
accepted apart from the block. -/
theorem after_dropped_block_returns_iff {before : List Capture} (he : emission? r s c = some e)
    (hb : Emission.block? r.surface c s = some e)
    (hk : e.text ∈ (claimsAfter r s .empty before).keys) :
    (∀ f, (step r s (claimsAfter r s .empty before) c).1 ≠ .ok (some f)) ∧
      ∀ between d,
        (∃ f, (step r s (claimsAfter r s .empty (before ++ c :: between)) d).1 = .ok (some f)) ↔
          ¬d.Inverted ∧ ∃ e', emission? r s d = some e' ∧
            ∀ a ∈ emissions r s (before ++ between),
              ¬a.Covers d.startRow ∧ a.keys.Disjoint e'.keys := by
  obtain ⟨last, -, -, hkeys, -⟩ := Emission.block?_eq_some hb
  have hmem : e.text ∈ e.keys := by simp [hkeys]
  constructor
  · intro f hf
    obtain ⟨-, e', he', hnew⟩ := (returns_iff before c).mp ⟨f, hf⟩
    obtain rfl := Option.some.inj (he.symm.trans he')
    obtain ⟨a, ha, hka⟩ := ((records_run before).mem_keys _).mp hk
    exact (hnew a ha).2 hka hmem
  · intro between d
    obtain ⟨hclaims, hemissions⟩ := after_refused (accepted?_eq_none_of_mem_keys he hmem hk) between
    rw [hclaims]
    exact returns_iff (before ++ between) d

def twins : Source := .ofText <|
  "namespace A \x7b\n  interface P \x7b\n    // id\n    x: number;\n  \x7d\n\x7d\n".toList ++
    "namespace B \x7b\n  interface P \x7b\n    // id\n    x: number;\n  \x7d\n\x7d\n".toList

def twinsBefore : List Capture :=
  [⟨"definition.module", 0, 0, 5, 1⟩, ⟨"definition.interface", 1, 2, 4, 3⟩, ⟨"comment", 2, 4, 2, 9⟩,
    ⟨"definition.module", 6, 0, 11, 1⟩]

def twin : Capture := ⟨"definition.interface", 7, 2, 10, 3⟩

def twinEmission : Emission :=
  let text := "interface P \x7b\n    // id\n    x: number;\n  \x7d".toList
  ⟨text, 7, [text], some (7, 10)⟩

private theorem twin_known :
    emission? ⟨.typescript, .typescript, .javascript⟩ twins twin = some twinEmission ∧
      Emission.block? ⟨.typescript, .javascript⟩ twin twins = some twinEmission ∧
      twinEmission.text ∈
        (claimsAfter ⟨.typescript, .typescript, .javascript⟩ twins .empty twinsBefore).keys := by
  decide +kernel

theorem after_dropped_twin_returns_iff :
    let r : Reading := ⟨.typescript, .typescript, .javascript⟩
    emission? r twins twin = some twinEmission ∧
      Emission.block? r.surface twin twins = some twinEmission ∧
      twinEmission.text ∈ (claimsAfter r twins .empty twinsBefore).keys ∧
      (∀ f, (step r twins (claimsAfter r twins .empty twinsBefore) twin).1 ≠ .ok (some f)) ∧
      ∀ between d,
        (∃ f, (step r twins (claimsAfter r twins .empty (twinsBefore ++ twin :: between)) d).1 =
            .ok (some f)) ↔
          ¬d.Inverted ∧ ∃ e', emission? r twins d = some e' ∧
            ∀ a ∈ emissions r twins (twinsBefore ++ between),
              ¬a.Covers d.startRow ∧ a.keys.Disjoint e'.keys := by
  obtain ⟨he, hb, hk⟩ := twin_known
  exact ⟨he, hb, hk, after_dropped_block_returns_iff he hb hk⟩

/-- The comment inside the second interface is returned, though the interface is not. -/
theorem dropped_twin_surfaces :
    let r : Reading := ⟨.typescript, .typescript, .javascript⟩
    let inner : Capture := ⟨"comment", 8, 4, 8, 9⟩
    (twinsBefore ++ [twin, inner]).Pairwise (fun a b => a.startsBefore b) ∧
      Emission.block? r.surface twin twins = some twinEmission ∧
      twinEmission.text ∈ (claimsAfter r twins .empty twinsBefore).keys ∧
      twinEmission.Covers inner.startRow ∧
      (step r twins (claimsAfter r twins .empty twinsBefore) twin).1 = .ok none ∧
      (step r twins (claimsAfter r twins .empty (twinsBefore ++ [twin])) inner).1 =
        .ok (some ⟨"// id".toList, 8⟩) := by
  intro r inner
  obtain ⟨-, hb, hk⟩ := twin_known
  have hcovers : twinEmission.Covers inner.startRow := ⟨7, 10, rfl, by decide, by decide⟩
  refine ⟨by decide, hb, hk, hcovers, ?_⟩
  decide +kernel

end Classification
end CodeDigest
