import CodeDigest.Pack.Tally
import Mathlib.Algebra.GroupWithZero.Nat
import Mathlib.Data.Char
import Mathlib.Data.List.Induction
import Mathlib.Data.List.Lex
import Mathlib.Data.List.Sort

/-! Tallies count what they are about: every number of a tally is a sum over the files, whatever their order. -/
namespace CodeDigest

namespace Tally
variable {counts counts' : List (Text × Nat)} {name : Text} {n : Nat}

/-! Counts of names -/

/-- The names of a list of counts ascend, so that each stands there once. -/
def Ordered (counts : List (Text × Nat)) : Prop := counts.Pairwise fun a b => a.1 < b.1

private theorem lookup_cons (p : Text × Nat) (counts : List (Text × Nat)) (name : Text) :
    (p :: counts).lookup name = if name = p.1 then some p.2 else counts.lookup name := by
  rw [List.lookup_cons]
  by_cases h : name = p.1
  · simp [h]
  · simp [beq_eq_false_iff_ne.mpr h, h]

/-- A name in front of all names of a list is not on the list. -/
private theorem lookup_of_lt (h : ∀ p ∈ counts, name < p.1) : counts.lookup name = none := by
  rw [List.lookup_eq_none_iff]
  intro p hp
  exact bne_iff_ne.mpr (ne_of_lt (h p hp))

/-- A name in front of the first name of an ordered list is in front of all of them. -/
private theorem Ordered.lt_of_lt_head {p : Text × Nat} (h : Ordered (p :: counts)) (hlt : name < p.1) :
    ∀ q ∈ p :: counts, name < q.1 := by
  intro q hq
  obtain rfl | hq := List.mem_cons.mp hq
  · exact hlt
  · exact lt_trans hlt ((List.pairwise_cons.mp h).1 q hq)

private theorem fst_of_mem_addCount {p : Text × Nat} (h : p ∈ addCount name n counts) :
    p.1 = name ∨ ∃ q ∈ counts, p.1 = q.1 := by
  fun_induction addCount name n counts with
  | case1 => exact .inl (by rw [List.mem_singleton.mp h])
  | case2 count rest =>
    obtain rfl | h := List.mem_cons.mp h
    · exact .inl rfl
    · exact .inr ⟨p, List.mem_cons_of_mem _ h, rfl⟩
  | case3 other count rest =>
    obtain rfl | h := List.mem_cons.mp h
    · exact .inl rfl
    · exact .inr ⟨p, h, rfl⟩
  | case4 other count rest hne hlt ih =>
    obtain rfl | h := List.mem_cons.mp h
    · exact .inr ⟨(other, count), by simp, rfl⟩
    · obtain h | ⟨q, hq, hp⟩ := ih h
      · exact .inl h
      · exact .inr ⟨q, List.mem_cons_of_mem _ hq, hp⟩

theorem Ordered.addCount (h : Ordered counts) (name : Text) (n : Nat) :
    Ordered (addCount name n counts) := by
  fun_induction Tally.addCount name n counts with
  | case1 => exact List.pairwise_singleton _ _
  | case2 count rest =>
    obtain ⟨hhead, htail⟩ := List.pairwise_cons.mp h
    exact List.pairwise_cons.mpr ⟨hhead, htail⟩
  | case3 other count rest hne hlt => exact List.pairwise_cons.mpr ⟨h.lt_of_lt_head hlt, h⟩
  | case4 other count rest hne hlt ih =>
    obtain ⟨hhead, htail⟩ := List.pairwise_cons.mp h
    refine List.pairwise_cons.mpr ⟨?_, ih htail⟩
    intro p hp
    obtain hp | ⟨q, hq, hp⟩ := fst_of_mem_addCount hp
    · rw [hp]
      exact lt_of_le_of_ne (not_lt.mp hlt) (Ne.symm hne)
    · rw [hp]
      exact hhead q hq

/-- A name that was not counted before starts from zero; no other count changes. -/
theorem Ordered.lookup_addCount (h : Ordered counts) (name other : Text) (n : Nat) :
    (Tally.addCount name n counts).lookup other =
      if other = name then some ((counts.lookup name).getD 0 + n) else counts.lookup other := by
  fun_induction Tally.addCount name n counts with
  | case1 => rw [lookup_cons, List.lookup_nil, List.lookup_nil, Option.getD_none, Nat.zero_add]
  | case2 count rest =>
    rw [lookup_cons, lookup_cons, lookup_cons, if_pos rfl, Option.getD_some]
    split <;> rfl
  | case3 next count rest hne hlt =>
    rw [lookup_of_lt (h.lt_of_lt_head hlt), lookup_cons, Option.getD_none, Nat.zero_add]
  | case4 next count rest hne hlt ih =>
    rw [lookup_cons, ih (List.pairwise_cons.mp h).2, lookup_cons _ _ name, if_neg hne, lookup_cons _ _ other]
    split
    · next hother => rw [if_neg (by rw [hother]; exact Ne.symm hne)]
    · rfl

theorem sum_addCount (name : Text) (n : Nat) (counts : List (Text × Nat)) :
    ((addCount name n counts).map (·.2)).sum = (counts.map (·.2)).sum + n := by
  fun_induction addCount name n counts with
  | case1 => simp
  | case2 count rest => simp [Nat.add_right_comm]
  | case3 other count rest hne hlt => rw [List.map_cons, List.sum_cons, Nat.add_comm]
  | case4 other count rest hne hlt ih =>
    rw [List.map_cons, List.sum_cons, ih, List.map_cons, List.sum_cons, Nat.add_assoc]

theorem Ordered.mem_iff (h : Ordered counts) : (name, n) ∈ counts ↔ counts.lookup name = some n := by
  induction counts with
  | nil => simp
  | cons p counts ih =>
    obtain ⟨hhead, htail⟩ := List.pairwise_cons.mp h
    rw [lookup_cons, List.mem_cons, ih htail]
    split
    · next hname =>
      subst hname
      rw [lookup_of_lt hhead]
      simp [Prod.ext_iff, eq_comm]
    · next hname => simp [Prod.ext_iff, hname]

/-- An ordered list holds nothing but the counts of its names. -/
theorem Ordered.ext (h : Ordered counts) (h' : Ordered counts')
    (hlookup : ∀ name, counts.lookup name = counts'.lookup name) : counts = counts' := by
  have : Std.Irrefl fun a b : Text × Nat => a.1 < b.1 := ⟨fun a => lt_irrefl a.1⟩
  have : Std.Antisymm fun a b : Text × Nat => a.1 < b.1 := ⟨fun _ _ h h' => absurd h' (lt_asymm h)⟩
  apply List.Pairwise.eq_of_mem_iff h h'
  rintro ⟨name, n⟩
  rw [h.mem_iff, h'.mem_iff, hlookup]

/-! Tallies of files -/

def filesIn (name : Text) (fs : List PackedFile) : Nat := fs.countP fun f => f.language = some name

def languageCount (t : Tally) (name : Text) : Nat := (t.languages.lookup name).getD 0

/-- A tally has counted these files and no others. -/
structure Counts (fs : List PackedFile) (t : Tally) : Prop where
  files : t.files = fs.length
  sourceSize : t.sourceSize = (fs.map (·.sourceSize)).sum
  packedSize : t.packedSize = (fs.map fun f => Text.byteSize f.content).sum
  digested : t.digested = fs.countP (·.method = .digested)
  unsupported : t.unsupported = fs.countP (·.method = .unsupported)
  fallback : t.fallback = fs.countP (·.method = .fallback)
  ordered : Ordered t.languages
  languages : ∀ name, t.languages.lookup name =
    if filesIn name fs = 0 then none else some (filesIn name fs)
  inLanguage : (t.languages.map (·.2)).sum = fs.countP (·.language.isSome)

variable {fs gs : List PackedFile} {t u : Tally}

theorem Counts.languageCount_eq (h : Counts fs t) (name : Text) : t.languageCount name = filesIn name fs := by
  rw [languageCount, h.languages]
  split
  · next hzero => rw [Option.getD_none, hzero]
  · rfl

theorem counts_empty : Counts [] {} where
  files := rfl
  sourceSize := rfl
  packedSize := rfl
  digested := rfl
  unsupported := rfl
  fallback := rfl
  ordered := List.Pairwise.nil
  languages _ := rfl
  inLanguage := rfl

private theorem countP_snoc (p : PackedFile → Bool) (fs : List PackedFile) (f : PackedFile) :
    (fs ++ [f]).countP p = fs.countP p + if p f then 1 else 0 := by
  rw [List.countP_append, List.countP_singleton]

/-- Adding a file counts it. -/
theorem Counts.addFile (h : Counts fs t) (f : PackedFile) : Counts (fs ++ [f]) (t.addFile f) where
  files := by simp [Tally.addFile, h.files]
  sourceSize := by simp [Tally.addFile, h.sourceSize]
  packedSize := by simp [Tally.addFile, h.packedSize]
  digested := by simp only [Tally.addFile, h.digested, countP_snoc, decide_eq_true_eq]
  unsupported := by simp only [Tally.addFile, h.unsupported, countP_snoc, decide_eq_true_eq]
  fallback := by simp only [Tally.addFile, h.fallback, countP_snoc, decide_eq_true_eq]
  ordered := by
    rw [Tally.addFile, countLanguage.eq_def]
    split
    · exact h.ordered
    · exact h.ordered.addCount _ 1
  languages name := by
    -- A file raises the count of its own language, which may be a new one, and no other count.
    simp only [filesIn, countP_snoc, decide_eq_true_eq]
    rw [← filesIn, Tally.addFile]
    cases hf : f.language with
    | none => simpa [countLanguage] using h.languages name
    | some language =>
      have hcount := h.languageCount_eq language
      rw [languageCount] at hcount
      rw [countLanguage, h.ordered.lookup_addCount, hcount, h.languages]
      by_cases hname : name = language
      · simp [hname]
      · simp [hname, Ne.symm hname]
  inLanguage := by
    rw [countP_snoc, ← h.inLanguage, Tally.addFile]
    cases hf : f.language with
    | none => simp [countLanguage]
    | some language => simp [countLanguage, sum_addCount]

theorem counts_ofFiles (fs : List PackedFile) : Counts fs (ofFiles fs) := by
  induction fs using List.reverseRecOn with
  | nil => exact counts_empty
  | append_singleton fs f ih =>
    rw [ofFiles, List.foldl_append]
    exact ih.addFile f

/-- Counting does not depend on the order of the files. -/
theorem Counts.perm (h : Counts fs t) (hperm : fs.Perm gs) : Counts gs t where
  files := h.files.trans hperm.length_eq
  sourceSize := h.sourceSize.trans (hperm.map _).sum_nat
  packedSize := h.packedSize.trans (hperm.map _).sum_nat
  digested := h.digested.trans (hperm.countP_eq _)
  unsupported := h.unsupported.trans (hperm.countP_eq _)
  fallback := h.fallback.trans (hperm.countP_eq _)
  ordered := h.ordered
  languages name := by
    have hname : filesIn name fs = filesIn name gs := hperm.countP_eq _
    rw [h.languages, hname]
  inLanguage := h.inLanguage.trans (hperm.countP_eq _)

/-- Only one tally counts some files. -/
theorem Counts.unique (h : Counts fs t) (h' : Counts fs u) : t = u := by
  have hlanguages : t.languages = u.languages := by
    apply h.ordered.ext h'.ordered
    intro name
    rw [h.languages, h'.languages]
  cases t
  cases u
  simp only [mk.injEq]
  exact ⟨h.files.trans h'.files.symm, h.sourceSize.trans h'.sourceSize.symm,
    h.packedSize.trans h'.packedSize.symm, hlanguages, h.digested.trans h'.digested.symm,
    h.unsupported.trans h'.unsupported.symm, h.fallback.trans h'.fallback.symm⟩

private theorem countP_methods (fs : List PackedFile) :
    fs.countP (·.method = .digested) + fs.countP (·.method = .unsupported)
      + fs.countP (·.method = .fallback) + fs.countP (·.method = .untouched) = fs.length := by
  induction fs with
  | nil => rfl
  | cons f fs ih =>
    simp only [List.countP_cons, List.length_cons, decide_eq_true_eq]
    cases f.method <;> simp <;> omega

/-- Every number of one tally is the sum of the same numbers of two others, language by language. -/
structure Sums (t u sum : Tally) : Prop where
  files : sum.files = t.files + u.files
  sourceSize : sum.sourceSize = t.sourceSize + u.sourceSize
  packedSize : sum.packedSize = t.packedSize + u.packedSize
  digested : sum.digested = t.digested + u.digested
  unsupported : sum.unsupported = t.unsupported + u.unsupported
  fallback : sum.fallback = t.fallback + u.fallback
  languages : ∀ name, sum.languageCount name = t.languageCount name + u.languageCount name

theorem sums_ofFiles_append (fs gs : List PackedFile) :
    Sums (ofFiles fs) (ofFiles gs) (ofFiles (fs ++ gs)) := by
  have h := counts_ofFiles fs
  have h' := counts_ofFiles gs
  have hboth := counts_ofFiles (fs ++ gs)
  constructor
  · rw [h.files, h'.files, hboth.files, List.length_append]
  · rw [h.sourceSize, h'.sourceSize, hboth.sourceSize, List.map_append, List.sum_append]
  · rw [h.packedSize, h'.packedSize, hboth.packedSize, List.map_append, List.sum_append]
  · rw [h.digested, h'.digested, hboth.digested, List.countP_append]
  · rw [h.unsupported, h'.unsupported, hboth.unsupported, List.countP_append]
  · rw [h.fallback, h'.fallback, hboth.fallback, List.countP_append]
  · intro name
    rw [h.languageCount_eq, h'.languageCount_eq, hboth.languageCount_eq, filesIn, List.countP_append]
    rfl

/-- A tally adds up: it counts every file, the bytes before and after, the files of each language that has
any, and each file under what was done to it. Sizes only grow on the way, so that a sum below the limit of
a word never passes it. Two lists of files together have the sums of their tallies, and the order of the
files is of no account. -/
theorem ofFiles_adds_up (fs : List PackedFile) :
    let t := ofFiles fs
    t.files = fs.length ∧ t.sourceSize = (fs.map (·.sourceSize)).sum ∧
      t.packedSize = (fs.map fun f => Text.byteSize f.content).sum ∧
      (t.languages.map (·.2)).sum = fs.countP (·.language.isSome) ∧
      (∀ p ∈ t.languages, p.2 = filesIn p.1 fs ∧ p.2 ≠ 0) ∧
      t.digested = fs.countP (·.method = .digested) ∧
      t.unsupported = fs.countP (·.method = .unsupported) ∧
      t.fallback = fs.countP (·.method = .fallback) ∧
      t.digested + t.unsupported + t.fallback + fs.countP (·.method = .untouched) = t.files ∧
      (∀ gs, gs <+: fs → (ofFiles gs).sourceSize ≤ t.sourceSize ∧ (ofFiles gs).packedSize ≤ t.packedSize) ∧
      (∀ gs, Sums t (ofFiles gs) (ofFiles (fs ++ gs))) ∧
      ∀ gs, fs.Perm gs → ofFiles gs = t ∧ (ofFiles gs).ratio = t.ratio := by
  intro t
  have h : Counts fs t := counts_ofFiles fs
  refine ⟨h.files, h.sourceSize, h.packedSize, h.inLanguage, ?_, h.digested, h.unsupported, h.fallback, ?_, ?_,
    sums_ofFiles_append fs, ?_⟩
  · rintro ⟨name, n⟩ hp
    have hlookup := h.ordered.mem_iff.mp hp
    rw [h.languages] at hlookup
    split at hlookup
    · cases hlookup
    · next hne =>
      cases hlookup
      exact ⟨rfl, hne⟩
  · rw [h.digested, h.unsupported, h.fallback, h.files]
    exact countP_methods fs
  · rintro gs ⟨rest, rfl⟩
    have hsums := sums_ofFiles_append gs rest
    exact ⟨Nat.le.intro hsums.sourceSize.symm, Nat.le.intro hsums.packedSize.symm⟩
  · intro gs hperm
    have heq : ofFiles gs = t := (counts_ofFiles gs).unique (h.perm hperm)
    exact ⟨heq, congrArg ratio heq⟩

/-- Three files, two of them in one language, and the same files in another order. -/
theorem reordered_files_add_up :
    let go : Text := ['g', 'o']
    let a : PackedFile := ⟨"a.go".toList, "func a()".toList, 100, .digested, some go⟩
    let b : PackedFile := ⟨"b.go".toList, "package b".toList, 9, .fallback, some go⟩
    let c : PackedFile := ⟨"c.txt".toList, "c".toList, 1, .unsupported, none⟩
    let t := ofFiles [a, b, c]
    t.files = 3 ∧ t.sourceSize = 110 ∧ t.packedSize = 18 ∧ (t.languages.map (·.2)).sum = 2 ∧
      (go, 2) ∈ t.languages ∧ 2 = filesIn go [a, b, c] ∧
      [a] <+: [a, b, c] ∧ (ofFiles [a]).sourceSize ≤ t.sourceSize ∧ Sums (ofFiles [a]) (ofFiles [b, c]) t ∧
      [a, b, c].Perm [c, a, b] ∧ ofFiles [c, a, b] = t ∧ (ofFiles [c, a, b]).ratio = t.ratio := by
  intro go a b c t
  obtain ⟨hfiles, hsource, hpacked, hlanguages, hcounts, -, -, -, -, hgrow, -, horder⟩ :=
    ofFiles_adds_up [a, b, c]
  have hgo : (go, 2) ∈ t.languages := by decide
  have hlead : [a] <+: [a, b, c] := ⟨[b, c], rfl⟩
  have hperm : [a, b, c].Perm [c, a, b] := by decide
  obtain ⟨-, -, -, -, -, -, -, -, -, -, hsums, -⟩ := ofFiles_adds_up [a]
  exact ⟨hfiles, hsource, hpacked, hlanguages, hgo, (hcounts _ hgo).1, hlead, (hgrow _ hlead).1, hsums [b, c],
    hperm, horder _ hperm⟩

end Tally
end CodeDigest
