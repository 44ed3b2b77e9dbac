import CodeDigest.Binding
import CodeDigest.Emission.Block
import CodeDigest.Emission.Comment
import CodeDigest.Emission.Signature

/-! Strategies: how a language family renders each category. -/

namespace CodeDigest

inductive Strategy where
  | default
  | typescript
  | python
  | go
  | css
deriving Repr, DecidableEq

namespace Strategy
open Emission

def emitDefault? (surface : Surface) (category : Category) (c : Capture) (s : Source) :
    Option Emission :=
  match category with
  | .comment | .docstring => comment? surface c s
  | .importing | .package | .constant | .variable => nodeLines? c s
  | .property =>
    if c.startRow = c.endRow then firstLine? c s else signature? surface .function c s
  | .function => signature? surface .function c s
  | .method => signature? surface .method c s
  | .classType | .moduleScope | .macroRule => header? surface c s
  | .structType | .interfaceType | .enumType | .typeAlias => block? surface c s
  | .selector | .atRule | .unknown => none

/-- A binding that is kept whole. It covers its rows but the first. -/
def wholeBinding? (c : Capture) (s : Source) : Option Emission :=
  (nodeLines? c s).map fun e =>
    { e with covers := if c.startRow < c.endRow then some (c.startRow + 1, c.endRow) else none }

/-- A value: a function by its signature, an object with functions by its header, all else whole. -/
def emitValue? (surface : Surface) (kind : SignatureKind) (c : Capture) (s : Source) :
    Option Emission :=
  let text := Text.unlines (s.lines c.startRow c.endRow)
  if Binding.isFunctionValue text then signature? surface kind c s
  else if Binding.holdsFunctionMembers text then header? surface c s
  else wholeBinding? c s

def emitTypescript? (surface : Surface) (category : Category) (c : Capture) (s : Source) :
    Option Emission :=
  match category with
  | .comment => comment? surface c s
  | .importing | .package => nodeLines? c s
  | .function =>
    let text := Text.unlines (s.lines c.startRow c.endRow)
    if Binding.isBinding text && !Binding.isFunctionValue text then none
    else signature? surface .function c s
  | .method => signature? surface .method c s
  | .classType | .moduleScope => header? surface c s
  | .interfaceType | .typeAlias | .enumType | .structType => block? surface c s
  | .variable | .constant => emitValue? surface .function c s
  | .property => emitValue? surface .method c s
  | .docstring | .macroRule | .selector | .atRule | .unknown => none

/-- A string statement that starts its row and is no format string. -/
def isDocstring (c : Capture) (s : Source) : Bool :=
  match (s.line? c.startRow).bind fun line =>
      (Text.takeBytes? line c.startColumn).bind fun lead =>
        (Text.dropBytes? line c.startColumn).map (lead, ·) with
  | none => false
  | some (lead, literal) =>
    Text.isBlank lead && !(literal.takeWhile Char.isAlpha).any fun x => x = 'f' || x = 'F'

def emitPython? (surface : Surface) (category : Category) (c : Capture) (s : Source) :
    Option Emission :=
  match category with
  | .comment => comment? surface c s
  | .docstring => if isDocstring c s then nodeLines? c s else none
  | .importing | .variable | .constant => nodeLines? c s
  | .function => signature? surface .function c s
  | .method => signature? surface .method c s
  | .classType => header? surface c s
  | _ => none

def emitGo? (surface : Surface) (category : Category) (c : Capture) (s : Source) :
    Option Emission :=
  match category with
  | .comment => comment? surface c s
  | .package => firstLine? c s
  | .variable =>
    if Binding.isFunctionLiteral ((s.line? c.startRow).getD []) then
      signature? surface .function c s
    else block? surface c s
  | .importing | .constant | .typeAlias | .structType | .interfaceType => block? surface c s
  | .function => signature? surface .function c s
  | .method => signature? surface .method c s
  | _ => none

def emitCss? (surface : Surface) (category : Category) (c : Capture) (s : Source) :
    Option Emission :=
  match category with
  | .comment => comment? surface c s
  | .selector => selector? c s
  | .atRule => header? surface c s
  | .importing => nodeLines? c s
  | _ => none

def emit? (strategy : Strategy) (surface : Surface) (category : Category) (c : Capture)
    (s : Source) : Option Emission :=
  match strategy with
  | .default => emitDefault? surface category c s
  | .typescript => emitTypescript? surface category c s
  | .python => emitPython? surface category c s
  | .go => emitGo? surface category c s
  | .css => emitCss? surface category c s

end Strategy
end CodeDigest
