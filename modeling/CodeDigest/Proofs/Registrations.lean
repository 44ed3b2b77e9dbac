import CodeDigest.Registry
import Mathlib.Data.List.Forall2
import Mathlib.Data.List.Induction

/-! Registries against the history of what was added: an extension means the latest language that has it. -/
namespace CodeDigest

namespace Text

/-- The same character, or the capital and the small one of a letter from `A` to `Z`. -/
def SameLetter (c d : Char) : Prop :=
  c = d ∨ ∃ k < 26, c.toNat = 65 + k ∧ d.toNat = 97 + k ∨ c.toNat = 97 + k ∧ d.toNat = 65 + k

/-- Texts that differ at most in the case of the letters `A` to `Z`. -/
def SameButCase (a b : Text) : Prop := List.Forall₂ SameLetter a b

private theorem toNat_toLower (c : Char) :
    c.toLower.toNat = if 65 ≤ c.toNat ∧ c.toNat ≤ 90 then c.toNat + 32 else c.toNat := by
  by_cases h : c.val ≥ 'A'.val ∧ c.val ≤ 'Z'.val
  · have hcapital : 65 ≤ c.toNat ∧ c.toNat ≤ 90 := h
    have hlower : c.toLower.val = c.val + ('a'.val - 'A'.val) := congrArg Char.val (dif_pos h)
    have hshift : ('a'.val - 'A'.val).toNat = 32 := by decide
    rw [if_pos hcapital, Char.toNat, hlower, UInt32.toNat_add, hshift]
    apply Nat.mod_eq_of_lt
    have hle : c.val.toNat ≤ 90 := hcapital.2
    omega
  · have hother : ¬(65 ≤ c.toNat ∧ c.toNat ≤ 90) := h
    have hlower : c.toLower = c := dif_neg h
    rw [hlower, if_neg hother]

theorem toLower_eq_iff {c d : Char} : c.toLower = d.toLower ↔ SameLetter c d := by
  rw [← Char.toNat_inj, toNat_toLower, toNat_toLower, SameLetter, ← Char.toNat_inj]
  constructor
  · intro h
    by_cases hsame : c.toNat = d.toNat
    · exact .inl hsame
    · right
      split at h <;> split at h
      · omega
      · exact ⟨c.toNat - 65, by omega, by omega⟩
      · exact ⟨d.toNat - 65, by omega, by omega⟩
      · omega
  · rintro (h | ⟨k, hk, ⟨hc, hd⟩ | ⟨hc, hd⟩⟩)
    · rw [h]
    · rw [if_pos (by omega), if_neg (by omega)]
      omega
    · rw [if_neg (by omega), if_pos (by omega)]
      omega

theorem asciiLower_eq_iff {a b : Text} : asciiLower a = asciiLower b ↔ SameButCase a b := by
  rw [asciiLower, asciiLower, ← List.forall₂_eq_eq_eq, List.forall₂_map_left_iff,
    List.forall₂_map_right_iff, SameButCase]
  simp only [toLower_eq_iff]

end Text

def Language.Has (l : Language) (e : Text) : Prop := ∃ x ∈ l.extensions, Text.SameButCase x e

instance (l : Language) (e : Text) : Decidable (l.Has e) :=
  decidable_of_iff (∃ x ∈ l.extensions, Text.asciiLower x = Text.asciiLower e) <| by
    simp only [Text.asciiLower_eq_iff, Language.Has]

namespace Registry
variable {history : List Language} {r : Registry} {l l' : Language} {e : Text} {i : Nat}

/-- The language at place `i` of a history has an extension, and none behind it has. -/
structure Latest (history : List Language) (e : Text) (i : Nat) (l : Language) : Prop where
  added : history[i]? = some l
  has : l.Has e
  last : ∀ j l', i < j → history[j]? = some l' → ¬l'.Has e

theorem latest_snoc_of_has (h : l.Has e) :
    Latest (history ++ [l]) e i l' ↔ i = history.length ∧ l' = l := by
  constructor
  · rintro ⟨hadded, -, hlast⟩
    have hi : ¬i < history.length := by
      intro hlt
      exact hlast history.length l hlt (by simp) h
    have hlt := (List.getElem?_eq_some_iff.mp hadded).1
    rw [List.length_append, List.length_singleton] at hlt
    obtain rfl : i = history.length := by omega
    exact ⟨rfl, by simpa using hadded.symm⟩
  · rintro ⟨rfl, rfl⟩
    refine ⟨by simp, h, ?_⟩
    intro j l' hj hl'
    have hlt := (List.getElem?_eq_some_iff.mp hl').1
    rw [List.length_append, List.length_singleton] at hlt
    omega

theorem latest_snoc_of_not_has (h : ¬l.Has e) :
    Latest (history ++ [l]) e i l' ↔ Latest history e i l' := by
  -- The languages that have the extension stand at the same places in both histories.
  have hplace : ∀ (j : Nat) (k : Language), (history ++ [l])[j]? = some k → k.Has e → history[j]? = some k := by
    intro j k hk hhas
    rw [List.getElem?_append] at hk
    split at hk
    · exact hk
    · obtain rfl := List.mem_singleton.mp (List.mem_of_getElem? hk)
      exact absurd hhas h
  have hkeep : ∀ (j : Nat) (k : Language), history[j]? = some k → (history ++ [l])[j]? = some k := by
    intro j k hk
    rw [List.getElem?_append_left (List.getElem?_eq_some_iff.mp hk).1, hk]
  constructor
  · rintro ⟨hadded, hhas, hlast⟩
    exact ⟨hplace i l' hadded hhas, hhas, fun j k hj hk => hlast j k hj (hkeep j k hk)⟩
  · rintro ⟨hadded, hhas, hlast⟩
    refine ⟨hkeep i l' hadded, hhas, ?_⟩
    intro j k hj hk hkhas
    exact hlast j k hj (hplace j k hk hkhas) hkhas

theorem exists_latest (h : l ∈ history) (hl : l.Has e) : ∃ i l', Latest history e i l' := by
  induction history using List.reverseRecOn with
  | nil => simp at h
  | append_singleton history last ih =>
    by_cases hlast : last.Has e
    · exact ⟨_, _, (latest_snoc_of_has hlast).mpr ⟨rfl, rfl⟩⟩
    · have hmem : l ∈ history := by
        obtain h | h := List.mem_append.mp h
        · exact h
        · obtain rfl := List.mem_singleton.mp h
          exact absurd hl hlast
      obtain ⟨i, l', hlatest⟩ := ih hmem
      exact ⟨i, l', (latest_snoc_of_not_has hlast).mpr hlatest⟩

/-- A registry in step with a history: it has all the languages, and each of its extensions leads to the
place of the latest language that has it. -/
structure Follows (r : Registry) (history : List Language) : Prop where
  languages : r.languages = history
  lookup : ∀ e i, r.byExtension.lookup (Text.asciiLower e) = some i ↔ ∃ l, Latest history e i l
  inRange : ∀ p ∈ r.byExtension, p.2 < history.length

theorem follows_empty : empty.Follows [] := by
  refine ⟨rfl, ?_, by simp [empty]⟩
  intro e i
  constructor
  · rintro ⟨⟩
  · rintro ⟨l, hadded, -, -⟩
    cases hadded

/-- The extensions of a language all lead to its place, and the others where they led before. -/
private theorem lookup_foldl (extensions : List Text) (n : Nat) (known : List (Text × Nat)) (key : Text) :
    (extensions.foldl (fun known e => (Text.asciiLower e, n) :: known) known).lookup key =
      if key ∈ extensions.map Text.asciiLower then some n else known.lookup key := by
  induction extensions generalizing known with
  | nil => simp
  | cons e extensions ih =>
    rw [List.foldl_cons, ih, List.map_cons, List.lookup_cons]
    by_cases hmem : key ∈ extensions.map Text.asciiLower
    · rw [if_pos hmem, if_pos (List.mem_cons_of_mem _ hmem)]
    · by_cases hkey : key = Text.asciiLower e
      · simp [hkey]
      · rw [if_neg hmem, if_neg (by simpa [hkey] using hmem), beq_eq_false_iff_ne.mpr hkey]

private theorem snd_mem_foldl {extensions : List Text} {n : Nat} {known : List (Text × Nat)}
    {p : Text × Nat}
    (h : p ∈ extensions.foldl (fun known e => (Text.asciiLower e, n) :: known) known) :
    p ∈ known ∨ p.2 = n := by
  induction extensions generalizing known with
  | nil => exact .inl h
  | cons e extensions ih =>
    obtain h | h := ih h
    · obtain rfl | h := List.mem_cons.mp h
      · exact .inr rfl
      · exact .inl h
    · exact .inr h

theorem lookup_register (r : Registry) (l : Language) (e : Text) :
    (r.register l).byExtension.lookup (Text.asciiLower e) =
      if l.Has e then some r.languages.length else r.byExtension.lookup (Text.asciiLower e) := by
  have hmem : Text.asciiLower e ∈ l.extensions.map Text.asciiLower ↔ l.Has e := by
    simp only [List.mem_map, Text.asciiLower_eq_iff, Language.Has]
  rw [register, lookup_foldl]
  simp only [hmem]

/-- Adding a language keeps a registry in step. -/
theorem Follows.register (h : r.Follows history) (l : Language) :
    (r.register l).Follows (history ++ [l]) := by
  refine ⟨congrArg (· ++ [l]) h.languages, ?_, ?_⟩
  · intro e i
    rw [lookup_register, h.languages]
    by_cases hl : l.Has e
    · simp only [if_pos hl, latest_snoc_of_has hl, Option.some.injEq]
      simp [eq_comm]
    · simp only [if_neg hl, latest_snoc_of_not_has hl]
      exact h.lookup e i
  · intro p hp
    rw [List.length_append, List.length_singleton]
    obtain hp | hp := snd_mem_foldl hp
    · exact Nat.lt_succ_of_lt (h.inRange p hp)
    · rw [hp, h.languages]
      exact Nat.lt_succ_self _

theorem follows_foldl (history : List Language) : (history.foldl register empty).Follows history := by
  induction history using List.reverseRecOn with
  | nil => exact follows_empty
  | append_singleton history l ih =>
    rw [List.foldl_append]
    exact ih.register l

theorem Follows.resolve?_eq_some_iff (h : r.Follows history) :
    r.resolve? e = some l ↔ ∃ i, Latest history e i l := by
  rw [resolve?, Option.bind_eq_some_iff, h.languages]
  constructor
  · rintro ⟨i, hi, hl⟩
    obtain ⟨l', hlatest⟩ := (h.lookup e i).mp hi
    obtain rfl := Option.some.inj (hl.symm.trans hlatest.added)
    exact ⟨i, hlatest⟩
  · rintro ⟨i, hlatest⟩
    exact ⟨i, (h.lookup e i).mpr ⟨l, hlatest⟩, hlatest.added⟩

theorem Follows.resolve?_eq_none_iff (h : r.Follows history) :
    r.resolve? e = none ↔ ∀ l ∈ history, ¬l.Has e := by
  constructor
  · intro hnone l hl hhas
    obtain ⟨i, l', hlatest⟩ := exists_latest hl hhas
    rw [h.resolve?_eq_some_iff.mpr ⟨i, hlatest⟩] at hnone
    cases hnone
  · intro hno
    rw [Option.eq_none_iff_forall_ne_some]
    intro l hl
    obtain ⟨i, hlatest⟩ := h.resolve?_eq_some_iff.mp hl
    exact hno l (List.mem_of_getElem? hlatest.added) hlatest.has

theorem Follows.resolve?_register (h : r.Follows history) (hl : ¬l.Has e) :
    (r.register l).resolve? e = r.resolve? e := by
  ext l'
  rw [(h.register l).resolve?_eq_some_iff, h.resolve?_eq_some_iff]
  simp only [latest_snoc_of_not_has hl]

/-- Whatever is added to a registry, and however often an extension comes up: it lists every language in
order, its extensions lead to places on the list, and it resolves an extension, in any letter case, to
the latest language that has it, if there is one. A language changes nothing for an extension that it does
not have. -/
theorem resolves_to_latest (history : List Language) :
    let r := history.foldl register empty
    r.languages = history ∧ r.size = history.length ∧
      (∀ p ∈ r.byExtension, p.2 < r.languages.length) ∧
      (∀ e l, r.resolve? e = some l ↔ ∃ i, Latest history e i l) ∧
      (∀ e, r.resolve? e = none ↔ ∀ l ∈ history, ¬l.Has e) ∧
      ∀ l e, ¬l.Has e → (r.register l).resolve? e = r.resolve? e := by
  intro r
  have h : r.Follows history := follows_foldl history
  refine ⟨h.languages, congrArg List.length h.languages, ?_, fun _ _ => h.resolve?_eq_some_iff,
    fun _ => h.resolve?_eq_none_iff, fun _ _ => h.resolve?_register⟩
  intro p hp
  rw [h.languages]
  exact h.inRange p hp

/-- A later language for `go`, which has the extension twice, shadows the one that is built in. -/
theorem template_resolves_to_latest :
    let template : Language := ⟨"go-template".toList, [['G', 'o'], ['g', 'o']], Grammars.go,
      "(comment) @comment".toList, ⟨.default, ⟨.go, .go⟩⟩⟩
    let r := (Languages.builtin ++ [template]).foldl register empty
    r.languages = Languages.builtin ++ [template] ∧ r.size = 14 ∧
      r.resolve? ['G', 'O'] = some template ∧ r.resolve? ['t', 'x', 't'] = none ∧
      ¬template.Has ['r', 's'] ∧ (r.register template).resolve? ['r', 's'] = r.resolve? ['r', 's'] := by
  intro template r
  obtain ⟨hlanguages, hsize, -, hsome, hnone, hkeep⟩ := resolves_to_latest (Languages.builtin ++ [template])
  have hother : ¬template.Has ['r', 's'] := by decide
  have hlatest : Latest (Languages.builtin ++ [template]) ['G', 'O'] 13 template :=
    (latest_snoc_of_has (by decide)).mpr ⟨rfl, rfl⟩
  exact ⟨hlanguages, hsize, (hsome _ _).mpr ⟨13, hlatest⟩, (hnone _).mpr (by decide +kernel), hother,
    hkeep template _ hother⟩

end Registry
end CodeDigest
