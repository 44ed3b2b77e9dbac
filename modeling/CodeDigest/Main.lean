import CodeDigest.Run
import CodeDigest.Settings.Help

/-! The command line. It reads the files that a run may ask for, and writes what comes of the run. -/

namespace CodeDigest.Main

abbrev Entries := List (Place × Entry)

def placeOf (path : String) : Place := Path.components path.toList

/-- The fault behind a failed reading; none where there is nothing to read. -/
def faultOf? : IO.Error → Option FileFault
  | .noFileOrDirectory .. | .inappropriateType .. => none
  | .permissionDenied .. => some .denied
  | _ => some .broken

/-- A file, if it is there. Of one that cannot be read only the size is known. -/
def fileAt (path : String) : IO Entries := do
  try
    return [(placeOf path, .file (← IO.FS.readBinFile path))]
  catch e =>
    try
      let data ← (← IO.FS.realPath path).metadata
      let unknown : ByteArray := ⟨Array.replicate data.byteSize.toNat 0⟩
      return (faultOf? e).toList.map fun fault => (placeOf path, .file unknown (some fault))
    catch _ => return []

def folderAt (path : String) : IO Entries := do
  try
    let data ← (← IO.FS.realPath path).metadata
    return if data.type == .dir then [(placeOf path, .folder)] else []
  catch _ => return []

def landmarks (folder : String) : IO Entries := do
  let files ← [".ignore", ".gitignore", ".git/info/exclude", ".git/HEAD", "structpack.toml"].mapM
    fun name => fileAt (folder ++ "/" ++ name)
  let folders ← [".git/objects", ".git/refs"].mapM fun name => folderAt (folder ++ "/" ++ name)
  return (files ++ folders).flatten

/-- What lies below a folder, but no file above the size limit and no history. A folder that cannot be read
counts as empty. -/
partial def treeBelow (sizeLimit : Nat) (folder : String) : IO Entries := do
  let mut found := #[(placeOf folder, Entry.folder)]
  let inside ← try (← IO.FS.realPath folder).readDir catch _ => pure #[]
  for e in inside do
    let path := folder ++ "/" ++ e.fileName
    let data ← e.path.symlinkMetadata
    match data.type with
    | .dir => if e.fileName ≠ ".git" then found := found ++ (← treeBelow sizeLimit path).toArray
    | .file =>
      if data.byteSize.toNat ≤ sizeLimit then found := found ++ (← fileAt path).toArray
    | .symlink =>
      try
        found := found.push (placeOf path, .link (← IO.FS.realPath path).toString.toList)
      catch _ => found := found
    | .other => found := found
  return found.toList

def volumeOf (entries : Entries) : Volume :=
  let add (v : Volume) (p : Place) : Volume := if (v.entry? p).isSome then v else v.put p .folder
  entries.foldl (fun v (p, e) => ((List.range p.length).map p.take |>.foldl add v).put p e) ⟨[]⟩

def variableNames : List String :=
  ["HOME", "XDG_CONFIG_HOME"] ++ Flag.all.filterMap Flag.substitute? ++
    ["OUTPUT", "OUTPUT__STYLE", "OUTPUT__FILE", "OUTPUT__COMPRESS", "OUTPUT__REMOVE_COMMENTS",
      "OUTPUT__REMOVE_EMPTY_LINES", "OUTPUT__SHOW_LINE_NUMBERS", "OUTPUT__TOKEN_COUNT", "INCLUDE",
      "INCLUDE__PATTERNS", "EXCLUDE", "EXCLUDE__PATTERNS", "PROCESSING", "PROCESSING__WORKERS",
      "PROCESSING__MAX_FILE_SIZE"].map ("STRUCTPACK__" ++ ·)

def readVariables : IO (List (Text × Text)) := do
  variableNames.filterMapM fun name => do
    return (← IO.getEnv name).map fun value => (name.toList, value.toList)

def upwards (p : Place) : List String :=
  (List.range (p.length + 1)).map fun n => String.ofList (Surroundings.absolute (p.take n))

def surveyed (a : Arguments) : IO Surroundings := do
  let here := (← IO.currentDir).toString
  let w : Surroundings := ⟨⟨[]⟩, placeOf here, ← readVariables, 4⟩
  let around ← (upwards w.folder).mapM landmarks
  let named := (a.config.map String.ofList).toList
  let settings := ["/structpack/config.toml", "/git/config", "/git/ignore"].filterMap fun name =>
    (w.settingsFolder? true).map fun f => String.ofList f ++ name
  let home := (w.homeFolder?.map fun h => String.ofList h ++ "/.gitconfig").toList
  let files ← (named ++ settings ++ home).mapM fun path => do
    let full := if path.startsWith "/" then path else here ++ "/" ++ path
    fileAt full
  return { w with volume := volumeOf ((placeOf here, .folder) :: around.flatten ++ files.flatten) }

def withRoot (w : Surroundings) (s : Settings) : IO Surroundings := do
  try
    let real := (← IO.FS.realPath (String.ofList s.root)).toString
    let named := Path.components (Path.join (Surroundings.absolute w.folder) s.root)
    let around ← (upwards (placeOf real)).mapM landmarks
    let tree ← treeBelow s.selection.sizeLimit real
    let link : Entries := if named = placeOf real || named.contains ['.', '.'] then []
      else [(named, .link real.toList)]
    return { w with volume := volumeOf (w.volume.entries.reverse ++ around.flatten ++ tree ++ link) }
  catch _ => return w

def follow (a : Arguments) : IO (Except PackError Unit) := do
  let start ← IO.monoMsNow
  let w ← surveyed a
  match Settings.load w a with
  | .error e => return .error e
  | .ok s =>
    match s.run (← withRoot w s) .builtin with
    | .error f => return .error f.error
    | .ok r =>
      (← IO.getStdout).putStr (String.ofList r.shown)
      match r.delivery with
      | some (⟨some path, _, _⟩, document) =>
        let parent := (Path.parent? path).getD []
        if parent ≠ [] then IO.FS.createDirAll (String.ofList parent)
        IO.FS.writeFile (String.ofList path) (String.ofList document)
      | _ => pure ()
      for line in r.report ((← IO.monoMsNow) - start) do
        IO.eprintln (String.ofList line)
      return .ok ()

end CodeDigest.Main

def main (args : List String) : IO UInt32 := do
  let environment ← CodeDigest.Main.readVariables
  let verbose := args.contains "-v" || args.contains "--verbose"
  match CodeDigest.Arguments.parse (args.map String.toList) (fun name => environment.lookup name) with
  | .error e =>
    if e.wasAsked then
      IO.println (String.ofList e.message)
      return 0
    IO.eprintln (String.ofList e.message)
    return 2
  | .ok a =>
    match ← CodeDigest.Main.follow a with
    | .ok () => return 0
    | .error e =>
      IO.eprintln (String.ofList (e.report verbose))
      return 1
