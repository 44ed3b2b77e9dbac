import CodeDigest.Pack.Stages
import CodeDigest.Rendering.Style
import CodeDigest.Text.Numeral

/-! Command lines: options with their values, switches, and the folder to pack. What a command line does
not say may stand in environment variables. -/

namespace CodeDigest

inductive Flag where
  | path
  | output
  | style
  | digest
  | removeComments
  | removeEmptyLines
  | numberLines
  | wanted
  | unwanted
  | workers
  | sizeLimit
  | noTokenCount
  | dryRun
  | config
  | verbose
  | quiet
  | help
  | version
deriving Repr, DecidableEq

inductive ArgumentError where
  | invalidValue
  | malformedValue
  | unknownArgument
  | repeatedArgument
  | surplusValue
  | helpAsked
  | versionAsked
deriving Repr, DecidableEq

namespace Flag

def all : List Flag :=
  [output, style, digest, removeComments, removeEmptyLines, numberLines, wanted, unwanted, workers,
    sizeLimit, noTokenCount, dryRun, config, verbose, quiet, help, version]

def longName : Flag → String
  | path => ""
  | output => "output"
  | style => "style"
  | digest => "compress"
  | removeComments => "remove-comments"
  | removeEmptyLines => "remove-empty-lines"
  | numberLines => "line-numbers"
  | wanted => "include"
  | unwanted => "exclude"
  | workers => "workers"
  | sizeLimit => "max-file-size"
  | noTokenCount => "no-token-count"
  | dryRun => "dry-run"
  | config => "config"
  | verbose => "verbose"
  | quiet => "quiet"
  | help => "help"
  | version => "version"

def shortName? : Flag → Option Char
  | output => some 'o'
  | config => some 'c'
  | verbose => some 'v'
  | quiet => some 'q'
  | help => some 'h'
  | version => some 'V'
  | _ => none

def substitute? : Flag → Option String
  | output => some "STRUCTPACK_OUTPUT"
  | style => some "STRUCTPACK_STYLE"
  | digest => some "STRUCTPACK_COMPRESS"
  | removeComments => some "STRUCTPACK_REMOVE_COMMENTS"
  | removeEmptyLines => some "STRUCTPACK_REMOVE_EMPTY_LINES"
  | numberLines => some "STRUCTPACK_LINE_NUMBERS"
  | workers => some "STRUCTPACK_WORKERS"
  | sizeLimit => some "STRUCTPACK_MAX_FILE_SIZE"
  | dryRun => some "STRUCTPACK_DRY_RUN"
  | config => some "STRUCTPACK_CONFIG"
  | _ => none

def takesValue : Flag → Bool
  | path | output | style | wanted | unwanted | workers | sizeLimit | config => true
  | _ => false

def isRepeatable : Flag → Bool
  | wanted | unwanted | verbose => true
  | _ => false

def ofLongName? (name : Text) : Option Flag := all.find? (·.longName.toList = name)

def ofShortName? (c : Char) : Option Flag := all.find? (·.shortName? = some c)

end Flag

namespace Arguments

def switchedOn : Text := "true".toList

def style? (name : Text) : Option Style :=
  [Style.plain, .markdown, .xml, .json].find? (·.name.toList = name)

def check (o : Flag) (value : Text) : Except ArgumentError Unit :=
  match o with
  | .path | .output | .config => if value = [] then .error .invalidValue else .ok ()
  | .style => if (style? value).isNone then .error .invalidValue else .ok ()
  | .workers | .sizeLimit => if (Text.word? value).isNone then .error .malformedValue else .ok ()
  | .wanted | .unwanted => .ok ()
  | .help => .error .helpAsked
  | .version => .error .versionAsked
  | _ => if value = switchedOn || value = "false".toList then .ok () else .error .invalidValue

structure Reader where
  /-- What was given, last first. -/
  given : List (Flag × Text) := []
  /-- An option that was given but is not settled, with its value if that has come. -/
  pending : Option (Flag × Option Text) := none
  /-- Nothing more is an option. -/
  onlyPaths : Bool := false

namespace Reader

def has (r : Reader) (o : Flag) : Bool := r.given.any (·.1 = o)

def add (r : Reader) (o : Flag) (value : Text) : Except ArgumentError Reader := do
  if r.has o && !o.isRepeatable then throw .repeatedArgument
  check o value
  return { r with given := (o, value) :: r.given }

def settle (r : Reader) : Except ArgumentError Reader :=
  match r.pending with
  | none => .ok r
  | some (_, none) => .error .invalidValue
  | some (o, some value) => { r with pending := none }.add o value

def give (r : Reader) (o : Flag) (value : Text) : Except ArgumentError Reader := do
  (← r.settle).add o value

def await (r : Reader) (o : Flag) : Except ArgumentError Reader := do
  return { ← r.settle with pending := some (o, none) }

def long (r : Reader) (body : Text) : Except ArgumentError Reader :=
  let name := body.takeWhile (· ≠ '=')
  let value := (body.drop name.length).tail?
  match Flag.ofLongName? name, value with
  | none, _ => .error .unknownArgument
  | some o, some value => if o.takesValue then r.give o value else .error .surplusValue
  | some o, none => if o.takesValue then r.await o else r.give o switchedOn

/-- Options of one letter each; what follows one that takes a value is its value. -/
def short (r : Reader) : Text → Except ArgumentError Reader
  | [] => .ok r
  | c :: rest =>
    match Flag.ofShortName? c with
    | none => .error .unknownArgument
    | some o =>
      if o.takesValue then
        match rest with
        | [] => r.await o
        | '=' :: value => r.give o value
        | value => r.give o value
      else do
        let r ← r.give o switchedOn
        r.short rest

def positional (r : Reader) (value : Text) : Except ArgumentError Reader := do
  if r.has .path || r.pending.any (·.1 = .path) then throw .unknownArgument
  return { ← r.settle with pending := some (.path, some value) }

def step (r : Reader) (arg : Text) : Except ArgumentError Reader :=
  if r.onlyPaths then r.positional arg
  else
    match arg, r.pending with
    | ['-', '-'], _ => .ok { r with onlyPaths := true }
    | '-' :: '-' :: body, _ => r.long body
    | '-' :: c :: rest, _ => r.short (c :: rest)
    | value, some (o, none) => .ok { r with pending := some (o, some value) }
    | value, _ => r.positional value

def read (r : Reader) : List Text → Except ArgumentError Reader
  | [] => r.settle
  | arg :: rest => do (← r.step arg).read rest

def addVariables (lookup : Text → Option Text) (r : Reader) : List Flag → Except ArgumentError Reader
  | [] => .ok r
  | o :: rest => do
    let value := (o.substitute?.map String.toList).bind lookup
    let r ← match r.has o, value with
      | false, some value => r.add o value
      | _, _ => pure r
    r.addVariables lookup rest

def values (r : Reader) (o : Flag) : List Text := ((r.given.filter (·.1 = o)).map (·.2)).reverse

def value? (r : Reader) (o : Flag) : Option Text := (r.values o).head?

def isOn (r : Reader) (o : Flag) : Bool := r.value? o = some switchedOn

end Reader
end Arguments

structure Arguments where
  path : Text
  output : Option Text
  style : Option Style
  stages : Stages
  wanted : List Text
  unwanted : List Text
  workers : Option Nat
  sizeLimit : Option Nat
  noTokenCount : Bool
  dryRun : Bool
  config : Option Text
  verbosity : Nat
  quiet : Bool
deriving Repr, DecidableEq

namespace Arguments

def maxVerbosity : Nat := 255

def ofReader (r : Reader) : Arguments where
  path := (r.value? .path).getD ['.']
  output := r.value? .output
  style := (r.value? .style).bind style?
  stages :=
    ⟨r.isOn .removeComments, r.isOn .removeEmptyLines, r.isOn .digest, r.isOn .numberLines⟩
  wanted := r.values .wanted
  unwanted := r.values .unwanted
  workers := (r.value? .workers).bind Text.word?
  sizeLimit := (r.value? .sizeLimit).bind Text.word?
  noTokenCount := r.isOn .noTokenCount
  dryRun := r.isOn .dryRun
  config := r.value? .config
  verbosity := min (r.values .verbose).length maxVerbosity
  quiet := r.isOn .quiet

def parse (args : List Text) (lookup : Text → Option Text) : Except ArgumentError Arguments := do
  let r ← Reader.read {} args
  return ofReader (← r.addVariables lookup Flag.all)

end Arguments
end CodeDigest
