import CodeDigest.Run
import Mathlib.Data.Char
import Mathlib.Data.List.Lex
import Mathlib.Data.List.Sort

/-! Selections pick exactly the files that their globs and their limit admit, in the order of their paths, in
whatever order a walk came to them. Reading them stops at the first failure that is more than a refusal. -/
namespace CodeDigest

/-- Paths are compared step by step. -/
theorem Path.stepsLE_iff {a b : List Text} : stepsLE a b = true ↔ ¬b < a := by
  induction a generalizing b with
  | nil => simp [stepsLE]
  | cons x a ih =>
    cases b with
    | nil => simp [stepsLE]
    | cons y b =>
      rw [stepsLE, List.cons_lt_cons_iff]
      split
      · next hxy =>
        rw [ih, hxy]
        simp
      · next hxy =>
        rw [decide_eq_true_eq]
        constructor
        · rintro hlt (hgt | ⟨hyx, -⟩)
          · exact lt_asymm hlt hgt
          · exact hxy hyx.symm
        · intro h
          exact lt_of_le_of_ne (not_lt.mp fun hgt => h (.inl hgt)) hxy

instance : DecidableEq FoundFile := fun f g =>
  decidable_of_iff (f.steps = g.steps ∧ f.bytes.data.toList = g.bytes.data.toList ∧ f.fault? = g.fault?) (by
    obtain ⟨steps, ⟨⟨bytes⟩⟩, fault?⟩ := f
    obtain ⟨steps', ⟨⟨bytes'⟩⟩, fault?'⟩ := g
    simp)

namespace Selection
variable {s : Selection} {found : List FoundFile}

def Readable (s : Selection) : Prop :=
  ∀ pattern ∈ s.wanted ++ s.unwanted, (Glob.parse globMode pattern).isOk = true

instance (s : Selection) : Decidable s.Readable := inferInstanceAs (Decidable (∀ pattern ∈ _, _))

/-- A glob can be read and matches a path. -/
def Matches (pattern path : Text) : Prop :=
  ∃ g, Glob.parse globMode pattern = .ok g ∧ g.isMatch globMode.stepwise path = true

instance (pattern path : Text) : Decidable (Matches pattern path) :=
  match h : Glob.parse globMode pattern with
  | .ok g => decidable_of_iff (g.isMatch globMode.stepwise path = true) (by simp [Matches, h])
  | .error _ => isFalse (by simp [Matches, h])

/-- Two paths differ in their backslashes alone: the second one has slashes there. -/
def Slashed (path slashed : Text) : Prop :=
  List.Forall₂ (fun c d => c = '\\' ∧ d = '/' ∨ c ≠ '\\' ∧ d = c) path slashed

/-- A file is to be selected: by its path, with slashes for backslashes, and by its size. -/
structure Admits (s : Selection) (f : FoundFile) : Prop where
  wanted : s.wanted = [] ∨ ∃ pattern ∈ s.wanted, ∃ path, Slashed f.path path ∧ Matches pattern path
  unwanted : ∀ pattern ∈ s.unwanted, ∀ path, Slashed f.path path → ¬Matches pattern path
  size : f.size ≤ s.sizeLimit

theorem slashed_iff {path slashed : Text} : Slashed path slashed ↔ slashed = normalPath path := by
  have hchar : ∀ c d : Char, (c = '\\' ∧ d = '/' ∨ c ≠ '\\' ∧ d = c) ↔
      (if c = '\\' then '/' else c) = d := by
    intro c d
    split <;> simp_all [eq_comm]
  simp only [Slashed, hchar]
  rw [← List.forall₂_map_left_iff, List.forall₂_eq_eq_eq, ← normalPath, eq_comm]

theorem admits_iff {f : FoundFile} : s.Admits f ↔
    (s.wanted = [] ∨ ∃ pattern ∈ s.wanted, Matches pattern (normalPath f.path)) ∧
      (∀ pattern ∈ s.unwanted, ¬Matches pattern (normalPath f.path)) ∧ f.size ≤ s.sizeLimit := by
  constructor
  · rintro ⟨hwanted, hunwanted, hsize⟩
    simp only [slashed_iff, exists_eq_left, forall_eq] at hwanted hunwanted
    exact ⟨hwanted, hunwanted, hsize⟩
  · rintro ⟨hwanted, hunwanted, hsize⟩
    exact ⟨by simpa only [slashed_iff, exists_eq_left] using hwanted,
      by simpa only [slashed_iff, forall_eq] using hunwanted, hsize⟩

instance : DecidablePred s.Admits := fun _ => decidable_of_iff' _ admits_iff

theorem exists_mapM_compile {patterns : List Text}
    (h : ∀ pattern ∈ patterns, (Glob.parse globMode pattern).isOk = true) :
    ∃ globs, patterns.mapM compile = .ok globs ∧
      List.Forall₂ (fun pattern g => Glob.parse globMode pattern = .ok g) patterns globs := by
  induction patterns with
  | nil => exact ⟨[], rfl, .nil⟩
  | cons pattern patterns ih =>
    obtain ⟨globs, hglobs, hall⟩ := ih fun p hp => h p (List.mem_cons_of_mem _ hp)
    have hok := h pattern (by simp)
    cases hparse : Glob.parse globMode pattern with
    | error e =>
      rw [hparse] at hok
      cases hok
    | ok g =>
      refine ⟨g :: globs, ?_, .cons hparse hall⟩
      rw [List.mapM_cons, hglobs, compile, hparse]
      rfl

theorem matchesAny_iff {patterns : List Text} {globs : List Glob} {path : Text}
    (h : List.Forall₂ (fun pattern g => Glob.parse globMode pattern = .ok g) patterns globs) :
    matchesAny globs path = true ↔ ∃ pattern ∈ patterns, Matches pattern path := by
  induction h with
  | nil => simp [matchesAny]
  | @cons pattern g patterns globs hparse _ ih =>
    have hhead : Matches pattern path ↔ g.isMatch globMode.stepwise path = true := by
      simp [Matches, hparse]
    rw [matchesAny, List.any_cons, Bool.or_eq_true, ← matchesAny, ih, List.exists_mem_cons_iff, hhead]

/-- Selecting is sorting the admitted files by their paths. -/
theorem select_eq (h : s.Readable) (found : List FoundFile) : s.select found =
    .ok ((found.filter (s.Admits ·)).mergeSort fun a b => Path.stepsLE a.steps b.steps) := by
  obtain ⟨wanted, hwanted, hwantedAll⟩ := exists_mapM_compile fun p hp => h p (List.mem_append_left _ hp)
  obtain ⟨unwanted, hunwanted, hunwantedAll⟩ :=
    exists_mapM_compile fun p hp => h p (List.mem_append_right _ hp)
  have hadmits : ∀ f, admits wanted unwanted s.sizeLimit f = decide (s.Admits f) := by
    intro f
    have hnil : wanted.isEmpty = true ↔ s.wanted = [] := by
      rw [List.isEmpty_iff, ← List.length_eq_zero_iff, ← hwantedAll.length_eq, List.length_eq_zero_iff]
    rw [Bool.eq_iff_iff, decide_eq_true_eq, admits_iff]
    simp only [admits, Bool.and_eq_true, Bool.or_eq_true, Bool.not_eq_true', decide_eq_true_eq, hnil,
      ← Bool.not_eq_true, matchesAny_iff hwantedAll, matchesAny_iff hunwantedAll, not_exists, not_and,
      and_assoc]
  rw [select, hwanted, hunwanted]
  simp only [← hadmits]
  rfl

theorem pairwise_mergeSort_steps (h : (found.map (·.steps)).Nodup) :
    (found.mergeSort fun a b => Path.stepsLE a.steps b.steps).Pairwise fun a b => a.steps < b.steps := by
  have htrans : ∀ a b c : FoundFile, Path.stepsLE a.steps b.steps → Path.stepsLE b.steps c.steps →
      Path.stepsLE a.steps c.steps := by
    simp only [Path.stepsLE_iff, not_lt]
    exact fun _ _ _ => le_trans
  have htotal : ∀ a b : FoundFile, Path.stepsLE a.steps b.steps || Path.stepsLE b.steps a.steps := by
    simp only [Bool.or_eq_true, Path.stepsLE_iff, not_lt]
    exact fun a b => le_total a.steps b.steps
  have hdistinct : ((found.mergeSort fun a b => Path.stepsLE a.steps b.steps).map (·.steps)).Nodup :=
    ((List.mergeSort_perm found _).map _).nodup_iff.mpr h
  refine (List.pairwise_mergeSort htrans htotal found).imp₂ ?_ (List.pairwise_map.mp hdistinct)
  intro a b hle hne
  exact lt_of_le_of_ne (not_lt.mp (Path.stepsLE_iff.mp hle)) hne

/-- Among files under different paths a selection picks exactly those that it admits, in strictly ascending
order of their paths. -/
theorem exists_select_ascending (hglobs : s.Readable) (hdistinct : (found.map (·.steps)).Nodup) :
    ∃ chosen, s.select found = .ok chosen ∧ (∀ f, f ∈ chosen ↔ f ∈ found ∧ s.Admits f) ∧
      chosen.Pairwise fun a b => a.steps < b.steps := by
  refine ⟨_, select_eq hglobs found, ?_, ?_⟩
  · intro f
    rw [List.mem_mergeSort, List.mem_filter, decide_eq_true_eq]
  · exact pairwise_mergeSort_steps (hdistinct.sublist (List.filter_sublist.map _))

/-- Files in strictly ascending order have one order only. -/
theorem eq_of_ascending {a b : List FoundFile} (ha : a.Pairwise fun f g => f.steps < g.steps)
    (hb : b.Pairwise fun f g => f.steps < g.steps) (hmem : ∀ f, f ∈ a ↔ f ∈ b) : a = b := by
  have : Std.Irrefl fun f g : FoundFile => f.steps < g.steps := ⟨fun f => lt_irrefl f.steps⟩
  have : Std.Antisymm fun f g : FoundFile => f.steps < g.steps := ⟨fun _ _ h h' => absurd h' (lt_asymm h)⟩
  exact ha.eq_of_mem_iff hb hmem

theorem select_eq_of_ascending {chosen : List FoundFile} (hglobs : s.Readable)
    (hdistinct : (found.map (·.steps)).Nodup) (hsound : ∀ f ∈ chosen, f ∈ found ∧ s.Admits f)
    (hcomplete : ∀ f ∈ found, s.Admits f → f ∈ chosen)
    (hascending : chosen.Pairwise fun a b => a.steps < b.steps) : s.select found = .ok chosen := by
  obtain ⟨chosen', hchosen', hmem', hascending'⟩ := exists_select_ascending hglobs hdistinct
  rw [hchosen', Except.ok.injEq]
  apply eq_of_ascending hascending' hascending
  intro f
  rw [hmem']
  exact ⟨fun h => hcomplete f h.1 h.2, hsound f⟩

end Selection

namespace FoundFile

/-- A file that a pack can hold: it can be read, it does not look binary, and it is UTF-8. -/
def IsText (f : FoundFile) : Prop :=
  f.fault? = none ∧ isBinary f.bytes = false ∧ f.bytes.IsValidUTF8

instance : DecidablePred IsText := fun _ => inferInstanceAs (Decidable (_ ∧ _ ∧ _))

/-- What ends the reading at a file: any failure but that it may not be read. -/
def obstacle? (f : FoundFile) : Option FileFault := f.fault?.filter (· ≠ .denied)

/-- A text has the path of a file and is written in its bytes. -/
def Holds (f : FoundFile) (text : SourceFile) : Prop :=
  text.path = f.path ∧ (String.ofList text.content).toUTF8 = f.bytes

inductive ReadsAs (f : FoundFile) : Except PackError (Option SourceFile) → Prop where
  | text {t : SourceFile} (isText : f.IsText) (holds : f.Holds t) : ReadsAs f (.ok (some t))
  | passed (noText : ¬f.IsText) (clear : f.obstacle? = none) : ReadsAs f (.ok none)
  | failed {fault : FileFault} (obstacle : f.obstacle? = some fault) :
      ReadsAs f (.error (.fileSystem fault.message))

theorem exists_holds {f : FoundFile} (h : f.IsText) : ∃ t, f.source? = some t ∧ f.Holds t := by
  obtain ⟨-, hbinary, hutf8⟩ := h
  refine ⟨⟨f.path, (String.fromUTF8 f.bytes hutf8).toList⟩, ?_, rfl, ?_⟩
  · rw [source?, hbinary, String.fromUTF8?, dif_pos hutf8]
    rfl
  · rw [String.ofList_toList]
    rfl

theorem source?_eq_none {f : FoundFile} (hfault : f.fault? = none) (h : ¬f.IsText) : f.source? = none := by
  rw [source?]
  cases hbinary : isBinary f.bytes with
  | true => rfl
  | false =>
    have hutf8 : ¬f.bytes.IsValidUTF8 := fun hutf8 => h ⟨hfault, hbinary, hutf8⟩
    rw [String.fromUTF8?, dif_neg hutf8]
    rfl

theorem readsAs_read (f : FoundFile) : f.ReadsAs f.read := by
  rw [read]
  cases hfault : f.fault? with
  | none =>
    by_cases h : f.IsText
    · obtain ⟨t, ht, hholds⟩ := exists_holds h
      rw [ht]
      exact .text h hholds
    · rw [source?_eq_none hfault h]
      exact .passed h (by rw [obstacle?, hfault]; rfl)
  | some fault =>
    have hno : ¬f.IsText := by
      rintro ⟨hnone, -⟩
      cases hfault.symm.trans hnone
    have hobstacle : f.obstacle? = if fault = .denied then none else some fault := by
      rw [obstacle?, hfault]
      cases fault <;> rfl
    cases fault with
    | denied => exact .passed hno hobstacle
    | _ => exact .failed hobstacle

theorem sources_cons (f : FoundFile) (files : List FoundFile) :
    sources (f :: files) = f.read.bind fun t => (sources files).map (t.toList ++ ·) := by
  rw [sources, List.mapM_cons, sources]
  cases f.read with
  | error e => rfl
  | ok t =>
    cases files.mapM read with
    | error e => rfl
    | ok texts => cases t <;> rfl

/-- Reading stops at the first obstacle. Where there is none it gives the texts that files hold, in order. -/
theorem sources_spec (files : List FoundFile) :
    (∃ fault, files.findSome? obstacle? = some fault ∧ sources files = .error (.fileSystem fault.message)) ∨
      (∀ f ∈ files, f.obstacle? = none) ∧
        ∃ texts, sources files = .ok texts ∧ List.Forall₂ Holds (files.filter (·.IsText)) texts := by
  induction files with
  | nil => exact .inr ⟨by simp, [], rfl, .nil⟩
  | cons f files ih =>
    rw [sources_cons, List.findSome?_cons]
    have hread := readsAs_read f
    generalize f.read = outcome at hread
    cases hread with
    | failed hobstacle =>
      rw [hobstacle]
      exact .inl ⟨_, rfl, rfl⟩
    | passed hno hclear =>
      rw [hclear, List.filter_cons_of_neg (by simpa using hno)]
      rcases ih with ⟨fault, hfirst, hfails⟩ | ⟨hclears, texts, htexts, hall⟩
      · exact .inl ⟨fault, hfirst, by rw [hfails]; rfl⟩
      · exact .inr ⟨List.forall_mem_cons.mpr ⟨hclear, hclears⟩, texts, by rw [htexts]; rfl, hall⟩
    | @text t hyes hholds =>
      have hclear : f.obstacle? = none := by rw [obstacle?, hyes.1]; rfl
      rw [hclear, List.filter_cons_of_pos (by simpa using hyes)]
      rcases ih with ⟨fault, hfirst, hfails⟩ | ⟨hclears, texts, htexts, hall⟩
      · exact .inl ⟨fault, hfirst, by rw [hfails]; rfl⟩
      · exact .inr ⟨List.forall_mem_cons.mpr ⟨hclear, hclears⟩, t :: texts, by rw [htexts]; rfl,
          .cons hholds hall⟩

theorem paths_of_holds {files : List FoundFile} {texts : List SourceFile}
    (h : List.Forall₂ Holds files texts) : texts.map (·.path) = files.map (·.path) := by
  rw [← List.forall₂_eq_eq_eq, List.forall₂_map_left_iff, List.forall₂_map_right_iff]
  exact h.flip.imp fun _ _ hholds => hholds.1

end FoundFile

namespace Selection
variable {s : Selection} {found : List FoundFile}

/-- Among files under different paths, in whatever order they were found, a selection picks exactly those
that it admits, in strictly ascending order of their paths. Unless one of them cannot be read, reading gives
the texts that they hold, in the same order. -/
theorem select_exact (hglobs : s.Readable) (hdistinct : (found.map (·.steps)).Nodup) :
    ∃ chosen, s.select found = .ok chosen ∧
      (∀ f, f ∈ chosen ↔ f ∈ found ∧ s.Admits f) ∧
      chosen.Pairwise (fun a b => a.steps < b.steps) ∧
      (∀ found', found.Perm found' → s.select found' = .ok chosen) ∧
      ((∃ fault, chosen.findSome? (·.obstacle?) = some fault ∧
          FoundFile.sources chosen = .error (.fileSystem fault.message)) ∨
        (∀ f ∈ chosen, f.obstacle? = none) ∧
          ∃ texts, FoundFile.sources chosen = .ok texts ∧
            List.Forall₂ FoundFile.Holds (chosen.filter (·.IsText)) texts ∧
            (texts.map (·.path)).Sublist (chosen.map (·.path))) := by
  obtain ⟨chosen, hchosen, hmem, hascending⟩ := exists_select_ascending hglobs hdistinct
  refine ⟨chosen, hchosen, hmem, hascending, ?_, ?_⟩
  · intro found' hperm
    have hdistinct' := (hperm.map (·.steps)).nodup_iff.mp hdistinct
    simp only [hperm.mem_iff] at hmem
    exact select_eq_of_ascending hglobs hdistinct' (fun f hf => (hmem f).mp hf)
      (fun f hf hadmits => (hmem f).mpr ⟨hf, hadmits⟩) hascending
  · refine (FoundFile.sources_spec chosen).imp_right ?_
    rintro ⟨hclear, texts, htexts, hholds⟩
    refine ⟨hclear, texts, htexts, hholds, ?_⟩
    rw [FoundFile.paths_of_holds hholds]
    exact List.filter_sublist.map _

/-- A file in a folder goes before one whose name starts like the folder's, and a name with a backslash is
taken for a path. A note and a file of three bytes are left out, and what is binary or may not be read is
not read. -/
theorem four_files_select_exact :
    let s : Selection := ⟨["a/*".toList, "?-b".toList, "c".toList], ["*.md".toList], 2⟩
    let found : List FoundFile := [⟨["a-b".toList], ⟨#[120]⟩, none⟩, ⟨["a\\b.txt".toList], ⟨#[121]⟩, none⟩,
      ⟨[['a'], ['d']], ⟨#[120]⟩, some .denied⟩, ⟨[['a'], ['b']], ⟨#[0]⟩, none⟩,
      ⟨[['a'], "n.md".toList], ⟨#[120]⟩, none⟩, ⟨[['c']], ⟨#[120, 120, 120]⟩, none⟩]
    (s.select found).map (·.map (·.path)) =
        .ok ["a/b".toList, "a/d".toList, "a-b".toList, "a\\b.txt".toList] ∧
      (s.select found).bind FoundFile.sources =
        .ok [⟨"a-b".toList, ['x']⟩, ⟨"a\\b.txt".toList, ['y']⟩] ∧
      s.Readable ∧ (found.map (·.steps)).Nodup ∧
      ∃ chosen, s.select found = .ok chosen ∧
        (∀ f, f ∈ chosen ↔ f ∈ found ∧ s.Admits f) ∧
        chosen.Pairwise (fun a b => a.steps < b.steps) ∧
        (∀ found', found.Perm found' → s.select found' = .ok chosen) ∧
        ((∃ fault, chosen.findSome? (·.obstacle?) = some fault ∧
            FoundFile.sources chosen = .error (.fileSystem fault.message)) ∨
          (∀ f ∈ chosen, f.obstacle? = none) ∧
            ∃ texts, FoundFile.sources chosen = .ok texts ∧
              List.Forall₂ FoundFile.Holds (chosen.filter (·.IsText)) texts ∧
              (texts.map (·.path)).Sublist (chosen.map (·.path))) := by
  intro s found
  have hglobs : s.Readable := by decide +kernel
  have hdistinct : (found.map (·.steps)).Nodup := by decide +kernel
  let chosen : List FoundFile := [⟨[['a'], ['b']], ⟨#[0]⟩, none⟩, ⟨[['a'], ['d']], ⟨#[120]⟩, some .denied⟩,
    ⟨["a-b".toList], ⟨#[120]⟩, none⟩, ⟨["a\\b.txt".toList], ⟨#[121]⟩, none⟩]
  have hselect : s.select found = .ok chosen :=
    select_eq_of_ascending hglobs hdistinct (by decide +kernel) (by decide +kernel) (by decide +kernel)
  have hsources : FoundFile.sources chosen = .ok [⟨"a-b".toList, ['x']⟩, ⟨"a\\b.txt".toList, ['y']⟩] := by
    decide +kernel
  refine ⟨?_, ?_, hglobs, hdistinct, select_exact hglobs hdistinct⟩
  · rw [hselect]
    rfl
  · rw [hselect]
    exact hsources

end Selection

/-! What a walk through a volume comes to fits the selection: no file twice. -/

namespace Walk
variable {v : Volume} {rules : IgnoreRules} {root : Text} {top p : Place} {e : Entry} {f : FoundFile}

theorem below_eq_some_iff {steps : List Text} :
    below top p = some steps ↔ p = top ++ steps ∧ steps ≠ [] := by
  rw [below]
  constructor
  · intro h
    split at h
    · next hprefix =>
      obtain ⟨hlead, hlength⟩ := Bool.and_eq_true_iff.mp hprefix
      obtain ⟨rest, rfl⟩ := List.isPrefixOf_iff_prefix.mp hlead
      rw [List.drop_left, Option.some_inj] at h
      subst h
      refine ⟨rfl, ?_⟩
      rintro rfl
      simp at hlength
    · cases h
  · rintro ⟨rfl, hne⟩
    have hlength : 0 < steps.length := List.length_pos_iff.mpr hne
    simp [hlength]

/-- What a walk makes of one entry. -/
private theorem found_iff :
    (match e, below top p with
      | .file bytes fault?, some steps =>
        if reaches rules root top steps then some ⟨steps, bytes, fault?⟩ else none
      | _, _ => none) = some f ↔
      p = top ++ f.steps ∧ e = .file f.bytes f.fault? ∧ f.steps ≠ [] ∧
        reaches rules root top f.steps = true := by
  constructor
  · intro h
    split at h
    · next bytes fault? steps hbelow =>
      split at h
      · next hreaches =>
        cases h
        obtain ⟨hp, hne⟩ := below_eq_some_iff.mp hbelow
        exact ⟨hp, rfl, hne, hreaches⟩
      · cases h
    · cases h
  · rintro ⟨hp, rfl, hne, hreaches⟩
    rw [below_eq_some_iff.mpr ⟨hp, hne⟩]
    exact if_pos hreaches

/-- A walk comes to the files below its root that no rule leaves out. -/
theorem mem_files_iff : f ∈ files v rules root top ↔
    (top ++ f.steps, .file f.bytes f.fault?) ∈ v.entries ∧ f.steps ≠ [] ∧
      reaches rules root top f.steps = true := by
  rw [files, List.mem_filterMap]
  constructor
  · rintro ⟨⟨p, e⟩, hmem, hfile⟩
    obtain ⟨rfl, rfl, hne, hreaches⟩ := found_iff.mp hfile
    exact ⟨hmem, hne, hreaches⟩
  · rintro ⟨hmem, hne, hreaches⟩
    exact ⟨_, hmem, found_iff.mpr ⟨rfl, rfl, hne, hreaches⟩⟩

/-- Where no place holds two entries, no path is found twice. -/
theorem nodup_files (h : (v.entries.map (·.1)).Nodup) :
    ((files v rules root top).map (·.steps)).Nodup := by
  have hpairs := List.pairwise_map.mp h
  refine List.pairwise_map.mpr (List.pairwise_filterMap.mpr (hpairs.imp ?_))
  rintro ⟨p, e⟩ ⟨q, e'⟩ hne f hf g hg hsteps
  obtain ⟨hp, -⟩ := found_iff.mp hf
  obtain ⟨hq, -⟩ := found_iff.mp hg
  rw [hsteps, ← hq] at hp
  exact hne hp

end Walk

/-- A scan of a volume in which no place holds two entries finds what the selection admits of the files that
a walk from the root comes to, in strictly ascending order of their paths. -/
theorem Settings.scan_exact {s : Settings} {w : Surroundings} {top : Place}
    (hglobs : s.selection.Readable) (hplaces : (w.volume.entries.map (·.1)).Nodup)
    (htop : w.volume.locate w.folder s.root = .ok top) :
    ∃ chosen, s.scan w = .ok chosen ∧ chosen.Pairwise (fun a b => a.steps < b.steps) ∧
      ∀ f, f ∈ chosen ↔ s.selection.Admits f ∧ (top ++ f.steps, .file f.bytes f.fault?) ∈ w.volume.entries ∧
        f.steps ≠ [] ∧ Walk.reaches w.ignoreRules s.root top f.steps = true := by
  have hwalk : s.walk w = Walk.files w.volume w.ignoreRules s.root top := by rw [walk, htop]
  obtain ⟨chosen, hchosen, hmem, hascending⟩ :=
    Selection.exists_select_ascending hglobs (hwalk ▸ Walk.nodup_files hplaces)
  refine ⟨chosen, hchosen, hascending, ?_⟩
  intro f
  rw [hmem, hwalk, Walk.mem_files_iff, and_comm]

end CodeDigest
