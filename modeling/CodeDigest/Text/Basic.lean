/-! Texts as sequences of characters. Sizes and offsets count bytes of UTF-8. -/

namespace CodeDigest

abbrev Text := List Char

namespace Text

def byteSize : Text → Nat
  | [] => 0
  | c :: rest => c.utf8Size + byteSize rest

/-- What follows the first `n` bytes; none when `n` splits a character or passes the end. -/
def dropBytes? : Text → Nat → Option Text
  | s, 0 => some s
  | [], _ + 1 => none
  | c :: rest, n + 1 =>
    if c.utf8Size ≤ n + 1 then dropBytes? rest (n + 1 - c.utf8Size) else none

/-- The first `n` bytes; none when `n` splits a character or passes the end. -/
def takeBytes? : Text → Nat → Option Text
  | _, 0 => some []
  | [], _ + 1 => none
  | c :: rest, n + 1 =>
    if c.utf8Size ≤ n + 1 then (takeBytes? rest (n + 1 - c.utf8Size)).map (c :: ·) else none

/-- The bytes from `start` up to `stop`; none when the range is inverted, passes the end or
splits a character. -/
def slice? (s : Text) (start stop : Nat) : Option Text :=
  if start ≤ stop then (dropBytes? s start).bind (takeBytes? · (stop - start)) else none

def strip? : (lead : Text) → Text → Option Text
  | [], s => some s
  | _ :: _, [] => none
  | a :: lead, c :: rest => if a = c then strip? lead rest else none

def startsWith (s lead : Text) : Bool := (strip? lead s).isSome

def endsWith (s tail : Text) : Bool := startsWith s.reverse tail.reverse

def find? (needle : Text) : Text → Option Nat
  | [] => if needle = [] then some 0 else none
  | c :: rest =>
    if startsWith (c :: rest) needle then some 0
    else (find? needle rest).map (c.utf8Size + ·)

def containsText (s needle : Text) : Bool := (find? needle s).isSome

/-- The pieces between the occurrences of `sep`; never empty. -/
def splitOn (sep : Char) : Text → List Text
  | [] => [[]]
  | c :: rest =>
    if c = sep then [] :: splitOn sep rest
    else
      match splitOn sep rest with
      | [] => [[c]]
      | piece :: pieces => (c :: piece) :: pieces

def joinWith (sep : Text) (pieces : List Text) : Text := sep.intercalate pieces

def trimStartBy (p : Char → Bool) (s : Text) : Text := s.dropWhile p

def trimEndBy (p : Char → Bool) (s : Text) : Text := (s.reverse.dropWhile p).reverse

def trimBy (p : Char → Bool) (s : Text) : Text := trimEndBy p (trimStartBy p s)

def chopReturn (s : Text) : Text :=
  match s.getLast? with
  | some '\r' => s.dropLast
  | _ => s

def asciiLower (s : Text) : Text := s.map Char.toLower

def asciiUpper (s : Text) : Text := s.map Char.toUpper

def padStart (width : Nat) (s : Text) : Text := List.replicate (width - s.length) ' ' ++ s

def padEnd (width : Nat) (s : Text) : Text := s ++ List.replicate (width - s.length) ' '

def ofNat (n : Nat) : Text := n.repr.toList

end Text
end CodeDigest
