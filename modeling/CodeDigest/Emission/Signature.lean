import CodeDigest.Emission.Annotation
import CodeDigest.Identifier

/-! Headers and signatures: declarations without their bodies. -/

namespace CodeDigest.Emission

/-- What a scan knows about the header behind it. Offsets are offsets of the source. -/
structure HeaderScan where
  /-- Brackets that are open. -/
  depth : Nat
  /-- Angle brackets that are open outside all others. -/
  angle : Nat
  /-- The end of the last code or literal. -/
  codeEnd : Nat
  /-- The last character that is no white space; a literal counts as a quote. -/
  lastCode : Option Char
  /-- The last code character and where it ends. -/
  previous : Option (Char × Nat)
  /-- The end of an `=` that no further character was seen behind. -/
  pendingAssign : Option Nat
  seenAssign : Bool
  seenColon : Bool
deriving Repr, DecidableEq

def HeaderScan.start (offset : Nat) : HeaderScan := ⟨0, 0, offset, none, none, none, false, false⟩

/-- One token further: the scan stops at an offset, or goes on. -/
inductive HeaderStep where
  | stop (offset : Nat)
  | go (scan : HeaderScan)
deriving Repr, DecidableEq

/-- How a character that neither ends the header nor is white space changes the depths and marks. -/
def HeaderScan.adjust (d : Dialect) (h : HeaderScan) (c : Char) (adjacent : Option Char)
    (stop : Nat) : HeaderScan :=
  let top := h.depth = 0 && h.angle = 0
  if c = '>' then
    if adjacent = some '=' || adjacent = some '-' then h
    else if h.depth = 0 && 0 < h.angle then { h with angle := h.angle - 1 }
    else h
  else if c = '<' && h.depth = 0 && d.angleGenerics then { h with angle := h.angle + 1 }
  else if c = '=' && h.depth = 0
      && !(adjacent = some '=' || adjacent = some '!' || adjacent = some '<' || adjacent = some '>')
  then { h with pendingAssign := some stop }
  else if c = ':' && top then { h with seenColon := true }
  else if c = '(' then
    { h with depth := h.depth + 1, angle := if h.depth = 0 then 0 else h.angle }
  else if c = '[' || c = '\x7b' then { h with depth := h.depth + 1 }
  else if c = ')' || c = ']' || c = '\x7d' then { h with depth := h.depth - 1 }
  else h

/-- Whether the header ends before a character: at the body of the dialect's style. A brace behind
`:`, `|` or `&` opens a type. -/
def HeaderScan.endsBefore (d : Dialect) (h : HeaderScan) (c : Char) : Bool :=
  let top := h.depth = 0 && h.angle = 0
  (c = '\x7b' && top && d.body = .brace
      && !(h.lastCode = some ':' || h.lastCode = some '|' || h.lastCode = some '&'))
    || (c = ':' && top && d.body = .colon)

/-- Whether the header ends behind a character: a semicolon, or an arrow that opens a body. -/
def HeaderScan.endsBehind (d : Dialect) (allowArrow : Bool) (h : HeaderScan) (c : Char)
    (arrow : Bool) : Bool :=
  (c = ';' && h.depth = 0 && h.angle = 0)
    || (c = '>' && arrow && allowArrow && d.arrowBodies && h.depth = 0
        && (h.seenAssign || !h.seenColon))

def HeaderScan.adjacent? (h : HeaderScan) (offset : Nat) : Option Char :=
  h.previous.bind fun p => if p.2 = offset then some p.1 else none

def HeaderScan.takeCode (d : Dialect) (allowArrow : Bool) (h : HeaderScan) (c : Char)
    (start stop : Nat) : HeaderStep :=
  let adjacent := h.adjacent? start
  let h := { h with previous := some (c, stop) }
  if CharClass.isBlank c then
    if c = '\n' && h.depth = 0 && h.angle = 0 && d.body = .lineEnd then .stop h.codeEnd else .go h
  else
    let arrow := c = '>' && adjacent = some '='
    let h :=
      match h.pendingAssign with
      | none => h
      | some at_ =>
        { h with pendingAssign := none, seenAssign := h.seenAssign || !(arrow && at_ = start) }
    if h.endsBefore d c then .stop h.codeEnd
    else if h.endsBehind d allowArrow c arrow then .stop stop
    else .go { h.adjust d c adjacent stop with codeEnd := stop, lastCode := some c }

def HeaderScan.take (d : Dialect) (allowArrow : Bool) (h : HeaderScan) (t : Token) : HeaderStep :=
  match t.kind with
  | .lineComment | .blockComment => .go h
  | .literal _ => .go { h with codeEnd := t.stop, lastCode := some '"', previous := none }
  | .code c => h.takeCode d allowArrow c t.start t.stop

def HeaderScan.run (d : Dialect) (allowArrow : Bool) (h : HeaderScan) : List Token → Nat
  | [] => h.codeEnd
  | t :: rest =>
    match h.take d allowArrow t with
    | .stop offset => offset
    | .go h' => h'.run d allowArrow rest

/-- Where the signature ends that starts at one offset and is looked for up to another. The body's
delimiter and trailing comments are left out; a final semicolon or arrow is kept. -/
def cutSignature (surface : Surface) (s : Source) (start limit : Nat) (allowArrow : Bool) : Nat :=
  match s.slice? start limit with
  | none => limit
  | some text =>
    (HeaderScan.start start).run surface.dialect allowArrow (surface.lexicon.tokensFrom start text)

/-- Whether what stands before a declaration on its row is made of words, which belong to it. -/
def isWordy (lead : Text) : Bool :=
  lead.all fun c => CharClass.isAlphanumeric c || CharClass.isBlank c || c = '_'

def headerText? (surface : Surface) (c : Capture) (s : Source) (allowArrow : Bool) :
    Option (Text × Nat) := do
  let start ← c.start? s
  let line ← s.line? c.startRow
  let lead ← Text.takeBytes? line c.startColumn
  let from_ ← if isWordy lead then s.offset? c.startRow 0 else some start
  let cut := cutSignature surface s start (c.stop s) allowArrow
  let body ← (s.slice? from_ (max cut from_)).map Text.trim
  if body.isEmpty then none
  else
    let above := leadingAnnotations surface s c.startRow
    return (withAnnotations above.2 body, above.1)

def header? (surface : Surface) (c : Capture) (s : Source) : Option Emission :=
  (headerText? surface c s false).bind fun h => keyedByText? h.1 h.2

inductive SignatureKind where
  | function
  | method
  /-- Never ends at an arrow. -/
  | header
deriving Repr, DecidableEq

def scopedKey (owner : Option Text) (text : Text) : Text :=
  match owner with
  | some o => o ++ "::".toList ++ text
  | none => text

def nameKey (kind : SignatureKind) (owner : Option Text) (name : Text) : Text :=
  match owner with
  | some o => "method:".toList ++ o ++ ['.'] ++ name
  | none => (if kind = .method then "method:" else "func:").toList ++ name

/-- The owner of a declaration: its receiver, or else the scope around its row. -/
def ownerOf (d : Dialect) (s : Source) (row : Nat) (identifier : Option Identifier) : Option Text :=
  (identifier.bind (·.owner)).or (d.enclosingOwner? s row)

/-- The keys of a signature: its text, and its name unless names may be shared. -/
def signatureKeys (d : Dialect) (kind : SignatureKind) (owner : Option Text)
    (identifier : Option Identifier) (text : Text) : List Text :=
  scopedKey owner text ::
    (if d.overloading then [] else (identifier.map fun i => nameKey kind owner i.name).toList)

def signature? (surface : Surface) (kind : SignatureKind) (c : Capture) (s : Source) :
    Option Emission :=
  (headerText? surface c s (kind ≠ .header)).map fun h =>
    let identifier := Identifier.ofSignature? surface.dialect h.1
    let owner := ownerOf surface.dialect s c.startRow identifier
    ⟨h.1, h.2, signatureKeys surface.dialect kind owner identifier h.1, none⟩

end CodeDigest.Emission
