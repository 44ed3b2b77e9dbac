import CodeDigest.Proofs.Schedules
import CodeDigest.Proofs.Selections

/-! Dry runs against runs. Both scan alike; then the run reads, and leaves out what is no text. -/
namespace CodeDigest

namespace FoundFile

theorem paths_filter_eq_iff (files : List FoundFile) :
    files.map (·.path) = (files.filter (·.IsText)).map (·.path) ↔ ∀ f ∈ files, f.IsText := by
  constructor
  · intro h
    have hlength := congrArg List.length h
    rw [List.length_map, List.length_map, eq_comm, List.length_filter_eq_length_iff] at hlength
    simpa using hlength
  · intro h
    rw [List.filter_eq_self.2 (by simpa using h)]

end FoundFile

namespace Volume
variable {v : Volume} {here : Place}

theorem locate_dot (h : v.holdsFolder here = true) : v.locate here ".".toList = .ok here := by
  simp [locate, steps, Text.splitOn, descend, h]

theorem isFolder_dot (h : v.holdsFolder here = true) : v.isFolder here ".".toList = true := by
  rw [isFolder, find?, locate_dot h]
  exact h

/-- Nothing can be read behind a name that is not there. -/
theorem read?_of_absent {path step : Text} {rest : List Text} (h : v.holdsFolder here = true)
    (hrelative : path.head? ≠ some '/') (hsteps : steps path = step :: rest)
    (hstep : step ≠ ['.'] ∧ step ≠ ['.', '.'] ∧ Text.byteSize step ≤ 255)
    (habsent : v.entry? (here ++ [step]) = none) : v.read? here path = none := by
  obtain ⟨hdot, hdots, hlength⟩ := hstep
  have hpath : path ≠ [] := by
    rintro rfl
    cases hsteps
  have hlocate : v.locate here path = if rest = [] then .ok (here ++ [step]) else .error .missing := by
    rw [locate, if_neg hpath, if_neg hrelative, hsteps, descend, habsent]
    simp [h, hdot, hdots, Nat.not_lt.mpr hlength]
  rw [read?, read, hlocate]
  split
  · simp only [bind, Except.bind, habsent]
    rfl
  · rfl

end Volume

/-- Where no file of rules can be read, the rules for all folders are left. -/
theorem IgnoreRules.ofVolume_eq_shared {v : Volume} {shared : List IgnoreRule}
    (h : ∀ name ∈ fileNames, ∀ folder ∈ folders v, v.read? folder name = none) :
    ofVolume v shared = ⟨fileNames.map fun _ => [], shared⟩ := by
  rw [ofVolume, mk.injEq]
  refine ⟨List.map_congr_left fun name hname => ?_, rfl⟩
  rw [List.filterMap_eq_nil_iff]
  intro folder hfolder
  rw [h name hname folder hfolder]
  rfl

/-- What a run writes, to a file or to the standard output. -/
def RunResult.document (x : RunResult) : Text := (x.delivery.map (·.2)).getD x.shown

namespace Settings

variable {s : Settings} {w : Surroundings} {r : Registry}

theorem validate_of_root_dot (hroot : s.root = ".".toList) (hfolder : w.volume.holdsFolder w.folder = true)
    (hworkers : s.poolSize w ≠ 0) : s.validate w = .ok () := by
  rw [validate, Surroundings.isFolder, hroot, Volume.isFolder_dot hfolder, if_neg (by decide), if_neg hworkers]

/-! A dry run checks, scans and packs as the run does. -/

theorem validate_dryRun (s : Settings) (w : Surroundings) (dryRun : Bool) :
    { s with dryRun }.validate w = s.validate w := rfl

theorem scan_dryRun (s : Settings) (w : Surroundings) (dryRun : Bool) :
    { s with dryRun }.scan w = s.scan w := rfl

theorem pack_dryRun (s : Settings) (w : Surroundings) (r : Registry) (dryRun : Bool) :
    { s with dryRun }.pack w r = s.pack w r := rfl

theorem dryRun_eq (h : s.validate w = .ok ()) :
    { s with dryRun := true }.run w r =
      (Failure.of (s.scan w)).map fun found => ⟨s.listings r found, fun _ => [], w.volume, none⟩ := by
  rw [run, validate_dryRun, scan_dryRun, h]
  cases s.scan w <;> rfl

theorem pack_of_scan_error {e : PackError} (h : s.validate w = .ok ()) (hscan : s.scan w = .error e) :
    s.pack w r = .error ⟨["Failed to scan ".toList ++ s.root], e⟩ := by
  rw [pack, collect, h, hscan]
  rfl

theorem pack_of_sources_error {found : List FoundFile} {e : PackError} (h : s.validate w = .ok ())
    (hscan : s.scan w = .ok found) (hsources : FoundFile.sources found = .error e) :
    s.pack w r = .error ⟨["Failed to read files".toList], e⟩ := by
  rw [pack, collect, h, hscan]
  show Failure.of (FoundFile.sources found) _ >>= _ = _
  rw [hsources]
  rfl

theorem pack_of_sources {found : List FoundFile} {texts : List SourceFile} (h : s.validate w = .ok ())
    (hscan : s.scan w = .ok found) (hsources : FoundFile.sources found = .ok texts) :
    s.pack w r = .ok ⟨texts.map (s.stages.process r)⟩ := by
  rw [pack, collect, h, hscan]
  show Failure.of (FoundFile.sources found) _ >>= _ = _
  rw [hsources, ← Pool.run_eq_map]
  rfl

/-- A run that is not dry fails where packing fails. -/
theorem run_of_pack_error {e : Failure} (h : s.validate w = .ok ()) (hp : s.pack w r = .error e) :
    { s with dryRun := false }.run w r = .error e := by
  rw [run, validate_dryRun, pack_dryRun, h, hp]
  rfl

/-- What it writes is the pack in the style that was asked for. -/
theorem run_of_pack {p : Pack} {x : RunResult} (h : s.validate w = .ok ()) (hp : s.pack w r = .ok p)
    (hx : { s with dryRun := false }.run w r = .ok x) : x.document = p.render s.style := by
  rw [run, validate_dryRun, pack_dryRun, h, hp] at hx
  cases hout : s.output with
  | none =>
    simp only [hout] at hx
    cases hx
    rfl
  | some path =>
    simp only [hout] at hx
    change (Failure.of (w.deliver path (p.render s.style)) >>= fun _ => _) = Except.ok x at hx
    cases hdeliver : w.deliver path (p.render s.style) with
    | error e =>
      rw [hdeliver] at hx
      cases hx
    | ok delivered =>
      rw [hdeliver] at hx
      cases hx
      rfl

/-- A dry run fails where a run fails to scan. Else it lists what was scanned and changes nothing. The run
fails where a file on the list cannot be read, and packs the texts among the files in the same order; so both
name the same files exactly when all of them are texts. -/
theorem dryRun_lists_packed_iff (h : s.validate w = .ok ()) :
    (∃ e, s.scan w = .error e ∧ { s with dryRun := true }.run w r = .error ⟨[], e⟩ ∧
        { s with dryRun := false }.run w r = .error ⟨["Failed to scan ".toList ++ s.root], e⟩) ∨
      ∃ found, s.scan w = .ok found ∧
        { s with dryRun := true }.run w r = .ok ⟨s.listings r found, fun _ => [], w.volume, none⟩ ∧
        ((∃ fault, found.findSome? (·.obstacle?) = some fault ∧
            { s with dryRun := false }.run w r =
              .error ⟨["Failed to read files".toList], .fileSystem fault.message⟩) ∨
          (∀ f ∈ found, f.obstacle? = none) ∧ ∃ p, s.pack w r = .ok p ∧
            (∀ x, { s with dryRun := false }.run w r = .ok x → x.document = p.render s.style) ∧
            p.files.map (·.path) = (found.filter (·.IsText)).map (·.path) ∧
            (found.map (·.path) = p.files.map (·.path) ↔ ∀ f ∈ found, f.IsText)) := by
  have hdry := dryRun_eq (r := r) h
  cases hscan : s.scan w with
  | error e =>
    rw [hscan] at hdry
    exact .inl ⟨e, rfl, hdry, run_of_pack_error h (pack_of_scan_error h hscan)⟩
  | ok found =>
    rw [hscan] at hdry
    refine .inr ⟨found, rfl, hdry, ?_⟩
    rcases FoundFile.sources_spec found with ⟨fault, hfirst, hfails⟩ | ⟨hclear, texts, htexts, hholds⟩
    · exact .inl ⟨fault, hfirst, run_of_pack_error h (pack_of_sources_error h hscan hfails)⟩
    · have hpack := pack_of_sources (r := r) h hscan htexts
      have hpaths : (texts.map (s.stages.process r)).map (·.path)
          = (found.filter (·.IsText)).map (·.path) := by
        rw [List.map_map, ← FoundFile.paths_of_holds hholds]
        rfl
      refine .inr ⟨hclear, _, hpack, fun x hx => run_of_pack h hpack hx, hpaths, ?_⟩
      rw [hpaths]
      exact FoundFile.paths_filter_eq_iff found

/-- One text in the working folder: it is listed, and it is packed. -/
theorem dryRun_lists_packed_text :
    let s : Settings := ⟨".".toList, none, .plain, ⟨[], [], defaultSizeLimit⟩, {}, none, true, true, 0, false⟩
    let w : Surroundings := ⟨⟨[(["a.txt".toList], .file ⟨#[120]⟩)]⟩, [], [], 4⟩
    s.validate w = .ok () ∧
      ((∃ e, s.scan w = .error e ∧ { s with dryRun := true }.run w .builtin = .error ⟨[], e⟩ ∧
          { s with dryRun := false }.run w .builtin = .error ⟨["Failed to scan ".toList ++ s.root], e⟩) ∨
        ∃ found, s.scan w = .ok found ∧
          { s with dryRun := true }.run w .builtin =
            .ok ⟨s.listings .builtin found, fun _ => [], w.volume, none⟩ ∧
          ((∃ fault, found.findSome? (·.obstacle?) = some fault ∧
              { s with dryRun := false }.run w .builtin =
                .error ⟨["Failed to read files".toList], .fileSystem fault.message⟩) ∨
            (∀ f ∈ found, f.obstacle? = none) ∧ ∃ p, s.pack w .builtin = .ok p ∧
              (∀ x, { s with dryRun := false }.run w .builtin = .ok x → x.document = p.render s.style) ∧
              p.files.map (·.path) = (found.filter (·.IsText)).map (·.path) ∧
              (found.map (·.path) = p.files.map (·.path) ↔ ∀ f ∈ found, f.IsText))) := by
  intro s w
  have h : s.validate w = .ok () := validate_of_root_dot rfl rfl (by decide)
  exact ⟨h, dryRun_lists_packed_iff h⟩

/-- A file that holds a zero byte is listed, and it is not packed. -/
theorem binary_file_listed_not_packed :
    let s : Settings := ⟨".".toList, none, .plain, ⟨[], [], defaultSizeLimit⟩, {}, none, true, true, 0, false⟩
    let w : Surroundings :=
      ⟨⟨[(["a.txt".toList], .file ⟨#[120]⟩), (["b.bin".toList], .file ⟨#[0, 1, 2]⟩)]⟩, [], [], 4⟩
    let found : List FoundFile :=
      [⟨["a.txt".toList], ⟨#[120]⟩, none⟩, ⟨["b.bin".toList], ⟨#[0, 1, 2]⟩, none⟩]
    s.validate w = .ok () ∧
      (s.run w .builtin).map (·.shown) = .ok (s.listings .builtin found) ∧
      (s.pack w .builtin).map (·.files.map (·.path)) = .ok [("a.txt".toList : Text)] := by
  intro s w found
  have h : s.validate w = .ok () := validate_of_root_dot rfl rfl (by decide)
  have hunruled : ∀ name ∈ IgnoreRules.fileNames, ∀ folder ∈ IgnoreRules.folders w.volume,
      w.volume.read? folder name = none := by
    intro name hname folder hfolder
    obtain rfl : folder = [] := by simpa [w, IgnoreRules.folders, Entry.isFolder] using hfolder
    simp only [IgnoreRules.fileNames, List.mem_cons, List.not_mem_nil, or_false] at hname
    rcases hname with rfl | rfl | rfl <;> exact Volume.read?_of_absent rfl (by decide) rfl (by decide) rfl
  have hwalk : s.walk w = found := by
    rw [walk, Volume.locate_dot rfl, Surroundings.ignoreRules, IgnoreRules.ofVolume_eq_shared hunruled]
    rfl
  have hscan : s.scan w = .ok found := by
    rw [scan, hwalk]
    exact Selection.select_eq_of_ascending (by decide) (by decide) (by decide +kernel) (by decide +kernel)
      (by decide)
  have hsources : FoundFile.sources found = .ok [⟨"a.txt".toList, ['x']⟩] := by decide +kernel
  have hdry : s.run w .builtin = _ := dryRun_eq h
  rw [hdry, pack_of_sources h hscan hsources, hscan]
  exact ⟨h, rfl, rfl⟩

end Settings
end CodeDigest
