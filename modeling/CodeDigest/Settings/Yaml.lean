import CodeDigest.Settings.Value
import CodeDigest.Text.Numeral

/-! Settings in YAML: mappings and sequences that are told by indentation or by brackets, and scalars. One
document is read; anchors, tags and keys that are no scalars are not. -/

namespace CodeDigest.Yaml

structure Line where
  indent : Nat
  content : Text
deriving Repr, DecidableEq

def Line.ofText (s : Text) : Line :=
  let content := s.dropWhile (· = ' ')
  ⟨s.length - content.length, Text.chopReturn content⟩

def Line.text (l : Line) : Text := List.replicate l.indent ' ' ++ l.content

def isSpace (c : Char) : Bool := c = ' ' || c = '\t'

def isEmpty (s : Text) : Bool :=
  match s.dropWhile isSpace with
  | [] | '#' :: _ => true
  | _ => false

def skipEmpty (ls : List Line) : List Line := ls.dropWhile fun l => isEmpty l.content

/-! ### Scalars -/

/-- A number with a fraction; it has at least one digit, but for those that a word names. -/
def real? (s : Text) : Option Real :=
  match String.ofList s with
  | ".inf" | ".Inf" | ".INF" | "+.inf" | "+.Inf" | "+.INF" => some (.infinite false)
  | "-.inf" | "-.Inf" | "-.INF" => some (.infinite true)
  | ".nan" | ".NaN" | ".NAN" => some .notANumber
  | _ => if s.any Char.isDigit then Real.ofText? s else none

def radix? : Text → Option Int
  | '0' :: 'x' :: rest => (Text.digits? 16 rest).map (Int.ofNat ·)
  | '0' :: 'o' :: rest => (Text.digits? 8 rest).map (Int.ofNat ·)
  | _ => none

def scalarOf (s : Text) : Scalar :=
  match String.ofList s with
  | "" | "~" | "null" => .null
  | "true" | "True" | "TRUE" => .flag true
  | "false" | "False" | "FALSE" => .flag false
  | _ =>
    match ((radix? s).filter Text.fitsSigned).or (Text.signedWord? s), real? s with
    | some n, _ => .integer n
    | none, some x => .real x
    | none, none => .text s

/-- A scalar without quotes ends at a remark, and before a colon that ends a key. In brackets it also ends
at a comma or a bracket. -/
def takePlain (inBrackets : Bool) : (before : Char) → Text → Text × Text
  | _, [] => ([], [])
  | before, c :: rest =>
    let stops := (c = '#' && isSpace before)
      || (c = ':' && (rest.head?.all fun d => isSpace d || d = '\n' || inBrackets && [',', ']', '\x7d'].contains d))
      || (inBrackets && [',', '[', ']', '\x7b', '\x7d'].contains c) || c = '\n'
    if stops then ([], c :: rest)
    else
      let (s, rest) := takePlain inBrackets c rest
      (c :: s, rest)

def takeHex (count : Nat) (s : Text) : Option (Char × Text) :=
  let digits := s.take count
  if digits.length ≠ count then none
  else (Text.digits? 16 digits).bind fun n =>
    if h : n.isValidChar then some (Char.ofNatAux n h, s.drop count) else none

def takeEscape : Text → Option (Char × Text)
  | '0' :: rest => some ('\x00', rest)
  | 'a' :: rest => some ('\x07', rest)
  | 'b' :: rest => some ('\x08', rest)
  | 't' :: rest | '\t' :: rest => some ('\t', rest)
  | 'n' :: rest => some ('\n', rest)
  | 'v' :: rest => some ('\x0b', rest)
  | 'f' :: rest => some ('\x0c', rest)
  | 'r' :: rest => some ('\r', rest)
  | 'e' :: rest => some ('\x1b', rest)
  | ' ' :: rest => some (' ', rest)
  | '"' :: rest => some ('"', rest)
  | '/' :: rest => some ('/', rest)
  | '\\' :: rest => some ('\\', rest)
  | 'N' :: rest => some ('\u0085', rest)
  | '_' :: rest => some ('\u00a0', rest)
  | 'L' :: rest => some ('\u2028', rest)
  | 'P' :: rest => some ('\u2029', rest)
  | 'x' :: rest => takeHex 2 rest
  | 'u' :: rest => takeHex 4 rest
  | 'U' :: rest => takeHex 8 rest
  | _ => none

/-- A line end in quotes with the space around it is one space; each further line end stays. -/
def fold (s : Text) : Text × Text :=
  let run := s.takeWhile fun c => isSpace c || c = '\n'
  let ends := (run.filter (· = '\n')).length
  (if ends = 0 then run else if ends = 1 then [' '] else List.replicate (ends - 1) '\n', s.drop run.length)

def takeQuoted (quote : Char) : (fuel : Nat) → Text → Option (Text × Text)
  | 0, _ | _, [] => none
  | fuel + 1, c :: rest =>
    let next (d rest : Text) := (takeQuoted quote fuel rest).map fun (s, rest) => (d ++ s, rest)
    if c = quote then
      match quote, rest with
      | '\'', '\'' :: rest => next ['\''] rest
      | _, rest => some ([], rest)
    else if c = '\\' && quote = '"' then
      match rest with
      | '\n' :: rest => next [] (rest.dropWhile isSpace)
      | rest => (takeEscape rest).bind fun (d, rest) => next [d] rest
    else if isSpace c || c = '\n' then
      let (d, rest) := fold (c :: rest)
      next d rest
    else next [c] rest

/-! ### Brackets -/

def skipLines : (fuel : Nat) → Text → Text
  | 0, s => s
  | fuel + 1, s =>
    match s.dropWhile fun c => isSpace c || c = '\n' with
    | '#' :: rest => skipLines fuel (rest.dropWhile (· ≠ '\n'))
    | s => s

def readScalar (inBrackets : Bool) (s : Text) : Option (Scalar × Text) :=
  match s with
  | '"' :: rest => (takeQuoted '"' s.length rest).map fun (t, rest) => (.text t, rest)
  | '\'' :: rest => (takeQuoted '\'' s.length rest).map fun (t, rest) => (.text t, rest)
  | c :: _ =>
    if ['\t', '&', '*', '!', '|', '>', '%', '@', '\x60', ',', ']', '\x7d'].contains c then none
    else
      let (t, rest) := takePlain inBrackets '\n' s
      some (scalarOf (Text.trimEndBy isSpace t), rest)
  | [] => some (.null, [])

/-- The name of a field; a number or a flag stands for its text. -/
def nameOf? : Scalar → Option Text
  | .text s => some s
  | .integer n => some (Scalar.integerText n)
  | .flag b => some (Scalar.flagText b)
  | .real x => some x.text
  | .null => none

mutual

def readFlow (origin : Text) : (fuel : Nat) → Text → Option (Setting × Text)
  | 0, _ => none
  | fuel + 1, s =>
    match s with
    | '[' :: rest => (readItems origin fuel rest).map fun (items, rest) => (.list items origin, rest)
    | '\x7b' :: rest => (readFields origin fuel [] rest).map fun (fields, rest) => (.table fields, rest)
    | s => (readScalar true s).map fun (v, rest) => (.scalar v origin, rest)

def readItems (origin : Text) : (fuel : Nat) → Text → Option (List Setting × Text)
  | 0, _ => none
  | fuel + 1, s =>
    match skipLines s.length s with
    | ']' :: rest => some ([], rest)
    | s => do
      let (v, rest) ← readFlow origin fuel s
      match skipLines rest.length rest with
      | ',' :: rest =>
        let (items, rest) ← readItems origin fuel rest
        return (v :: items, rest)
      | ']' :: rest => return ([v], rest)
      | _ => none

def readFields (origin : Text) : (fuel : Nat) → List (Text × Setting) → Text → Option (List (Text × Setting) × Text)
  | 0, _, _ => none
  | fuel + 1, known, s =>
    match skipLines s.length s with
    | '\x7d' :: rest => some (known, rest)
    | s => do
      let (key, rest) ← readScalar true s
      let name ← nameOf? key
      let (v, rest) ← match skipLines rest.length rest with
        | ':' :: rest =>
          match skipLines rest.length rest with
          | ',' :: rest => some (.scalar .null origin, ',' :: rest)
          | '\x7d' :: rest => some (.scalar .null origin, '\x7d' :: rest)
          | rest => readFlow origin fuel rest
        | rest => some (.scalar .null origin, rest)
      let known := Setting.update name v known
      match skipLines rest.length rest with
      | ',' :: rest => readFields origin fuel known rest
      | '\x7d' :: rest => return (known, rest)
      | _ => none

end

/-! ### Blocks -/

/-- The lines of a block scalar: those that stand deeper than its key, and the empty ones between them. -/
def takeDeeper (indent : Nat) (ls : List Line) : List Line × List Line :=
  let inside := ls.takeWhile fun l => l.content = [] || indent < l.indent
  (inside, ls.drop inside.length)

/-- Joins the lines of a folded scalar: a line end becomes a space, unless a line next to it is empty or
stands deeper. -/
def foldLines : List Text → Text
  | [] => []
  | [l] => l
  | l :: next :: rest =>
    let isFree (t : Text) : Bool := t.head?.all isSpace
    if next = [] then
      let ends := (next :: rest).takeWhile (· = [])
      if (l :: next :: rest).drop (ends.length + 1) = [] then l ++ foldLines (next :: rest)
      else l ++ ['\n'] ++ foldLines rest
    else if l = [] then foldLines (next :: rest)
    else l ++ (if isFree l || isFree next then ['\n'] else [' ']) ++ foldLines (next :: rest)

/-- A block scalar after its sign: its lines as they stand, or folded. -/
def blockText (folded : Bool) (chomping : Option Char) (ls : List Line) : Text :=
  let body := (ls.reverse.dropWhile fun l => l.content = []).reverse
  let trailing := ls.length - body.length
  let indent := ((body.filter (·.content ≠ [])).map Line.indent).head?.getD 0
  let texts := body.map fun l => l.text.drop indent
  let joined := if folded then foldLines texts else Text.unlines texts
  match chomping with
  | some '-' => joined
  | some _ => joined ++ List.replicate (trailing + if body = [] then 0 else 1) '\n'
  | none => joined ++ if body = [] then [] else ['\n']

def splitKey? (s : Text) : Option (Text × Text) := do
  let (key, rest) ← readScalar false s
  let ':' :: rest := rest.dropWhile isSpace | none
  if !(rest.head?.all isSpace) then none
  let name ← nameOf? key
  return (name, rest.dropWhile isSpace)

def splitDash? : Text → Option Text
  | ['-'] => some []
  | '-' :: c :: rest => if isSpace c then some (c :: rest) else none
  | _ => none

def readInline (origin : Text) (indent : Nat) (s : Text) (ls : List Line) : Option (Setting × List Line) :=
  let leaf (v : Scalar) : Setting := .scalar v origin
  /- The lines left when a value has ended within one. -/
  let finish (v : Setting) (rest : Text) : Option (Setting × List Line) :=
    let tail := rest.takeWhile (· ≠ '\n')
    if !isEmpty tail then none
    else some (v, match rest.drop tail.length with
      | [] => []
      | _ :: rest => (Text.splitOn '\n' rest).map Line.ofText)
  let whole : Text := Text.unlines (s :: ls.map Line.text)
  match s with
  | '|' :: signs | '>' :: signs =>
    let signs := signs.takeWhile fun c => !isSpace c
    let (inside, rest) := takeDeeper indent ls
    if signs.length ≤ 1 && signs.all (fun c => c = '-' || c = '+') then
      some (leaf (.text (blockText (s.head? = some '>') signs.head? inside)), rest)
    else none
  | '[' :: _ | '\x7b' :: _ => (readFlow origin (whole.length + 1) whole).bind fun (v, rest) => finish v rest
  | '"' :: _ | '\'' :: _ => (readScalar false whole).bind fun (v, rest) => finish (leaf v) rest
  | _ => do
    let (_, after) ← readScalar false s
    if !isEmpty after then none
    let more := ls.takeWhile fun l => !isEmpty l.content && indent < l.indent
    let first := Text.trimEndBy isSpace (s.take (s.length - after.length))
    let folded := Text.joinWith [' '] (first :: more.map fun l => Text.trimEndBy isSpace l.content)
    if more.any fun l => (splitKey? l.content).isSome then none
    else some (leaf (scalarOf folded), ls.drop more.length)

mutual

def readBlock (origin : Text) : (fuel least : Nat) → List Line → Option (Setting × List Line)
  | 0, _, _ => none
  | fuel + 1, least, ls =>
    match skipEmpty ls with
    | [] => some (.scalar .null origin, [])
    | l :: rest =>
      if l.indent < least then some (.scalar .null origin, l :: rest)
      else if (splitDash? l.content).isSome then
        (readSequence origin fuel l.indent (l :: rest)).map fun (items, rest) => (.list items origin, rest)
      else if (splitKey? l.content).isSome then
        (readMapping origin fuel l.indent [] (l :: rest)).map fun (fields, rest) => (.table fields, rest)
      else readInline origin (least - 1) l.content rest

def readSequence (origin : Text) : (fuel indent : Nat) → List Line → Option (List Setting × List Line)
  | 0, _, _ => none
  | fuel + 1, indent, ls =>
    match skipEmpty ls with
    | [] => some ([], [])
    | l :: rest =>
      match splitDash? l.content with
      | none => if indent < l.indent then none else some ([], l :: rest)
      | some inner =>
        if l.indent < indent then some ([], l :: rest)
        else if indent < l.indent then none
        else do
          let value := inner.dropWhile isSpace
          let column := indent + 1 + (inner.length - value.length)
          let (v, rest) ←
            if isEmpty value then readBlock origin fuel (indent + 1) rest
            else if (splitKey? value).isSome || (splitDash? value).isSome then
              readBlock origin fuel (indent + 1) (⟨column, value⟩ :: rest)
            else readInline origin indent value rest
          let (items, rest) ← readSequence origin fuel indent rest
          return (v :: items, rest)

def readMapping (origin : Text) : (fuel indent : Nat) → List (Text × Setting) → List Line →
    Option (List (Text × Setting) × List Line)
  | 0, _, _, _ => none
  | fuel + 1, indent, known, ls =>
    match skipEmpty ls with
    | [] => some (known, [])
    | l :: rest =>
      if l.indent < indent then some (known, l :: rest)
      else if indent < l.indent then none
      else do
        let (name, value) ← splitKey? l.content
        if (known.lookup name).isSome then none
        let (v, rest) ←
          if !isEmpty value then readInline origin indent value rest
          else match skipEmpty rest with
            | next :: _ =>
              let least := if next.indent = indent && (splitDash? next.content).isSome then indent else indent + 1
              readBlock origin fuel least rest
            | [] => some (.scalar .null origin, [])
        readMapping origin fuel indent (Setting.update name v known) rest

end

/-- The lines of the only document; none if there are several. -/
def document? (ls : List Line) : Option (List Line) :=
  let isMark (s : String) (l : Line) : Bool := l.indent = 0 && Text.trimEndBy isSpace l.content = s.toList
  let ls := skipEmpty (ls.dropWhile fun l => isEmpty l.content || l.content.head? = some '%')
  let body := match ls with
    | l :: rest => if isMark "---" l then rest else l :: rest
    | [] => []
  let inside := body.takeWhile fun l => !isMark "---" l && !isMark "..." l
  if skipEmpty ((body.drop inside.length).drop 1) = [] then some inside else none

/-- The value of a document; none if it is not well formed. A text that says nothing is an empty table. -/
def parse? (origin : Text) (s : Text) : Option Setting := do
  let ls := (Text.splitOn '\n' s).map Line.ofText
  if skipEmpty ls = [] then return .table []
  let body ← document? ls
  let (v, rest) ← readBlock origin (2 * s.length + 2) 0 body
  if skipEmpty rest = [] then some v else none

end CodeDigest.Yaml
