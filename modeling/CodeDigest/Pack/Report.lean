import CodeDigest.Pack.Tally

/-! The report at the end of a run. -/

namespace CodeDigest.Report

def grouped (digits : Text) : Text :=
  (group digits.reverse).reverse
where
  group : Text → Text
    | a :: b :: c :: d :: rest => a :: b :: c :: ',' :: group (d :: rest)
    | digits => digits

def count (n : Nat) : Text := grouped (Text.ofNat n)

def size (bytes : Nat) : Text :=
  let inUnits (unit : Nat) : Text := ((Binary.ofNat .double bytes).div .double (.ofNat .double unit)).textWithTenths
  if 1024 * 1024 ≤ bytes then inUnits (1024 * 1024) ++ " MB".toList
  else if 1024 ≤ bytes then inUnits 1024 ++ " KB".toList
  else Text.ofNat bytes ++ " B".toList

/-- A time, as seconds or as minutes and seconds. -/
def duration (milliseconds : Nat) : Text :=
  let nanoseconds := Binary.ofNat .double (milliseconds % 1000 * 1000000)
  let seconds := (Binary.ofNat .double (milliseconds / 1000)).add .double
    (nanoseconds.div .double (.ofNat .double 1000000000))
  let sixty := Binary.ofNat .double 60
  if seconds.lt sixty then seconds.textWithTenths ++ ['s']
  else
    let minutes := (seconds.div .double sixty).floor
    let rest := seconds.sub .double ((Binary.ofNat .double minutes).mul .double sixty)
    Text.ofNat minutes ++ "m ".toList ++ rest.textWithTenths ++ ['s']

def percent (x : Binary) : Text :=
  Text.ofNat (x.mul .single (.ofNat .single 100)).roundUp

/-- How much smaller the pack is, if it is smaller and not empty. -/
def reduction (ratio : Binary) : Text :=
  let one := Binary.ofNat .single 1
  if Binary.zero.lt ratio && ratio.lt one then
    " (".toList ++ percent (one.sub .single ratio) ++ "% reduction)".toList
  else []

def tokens (full processed : Nat) : Text :=
  "Tokens: ".toList ++ count full ++ " → ".toList ++ count processed ++
    match savedFraction? full processed with
    | some saved => " (".toList ++ percent saved ++ "% fewer)".toList
    | none => []

def rows (t : Tally) (tokenCounts : Option (Nat × Nat)) (output : Option Text) (digest : Bool) : List Text :=
  ["Files packed: ".toList ++ count t.files]
    ++ (if digest then
        ["Compression: ".toList ++ Text.ofNat t.digested ++ " compressed, ".toList ++ Text.ofNat t.unsupported
          ++ " unsupported, ".toList ++ Text.ofNat t.fallback ++ " fallback".toList]
      else [])
    ++ ["Size: ".toList ++ size t.sourceSize ++ " → ".toList ++ size t.packedSize ++ reduction t.ratio]
    ++ (tokenCounts.map fun (full, processed) => tokens full processed).toList
    ++ (if t.languages.isEmpty then []
      else
        ["Languages: ".toList ++ Text.joinWith [',', ' '] (t.languages.map fun (name, n) =>
          name ++ " (".toList ++ Text.ofNat n ++ [')'])])
    ++ ["Output: ".toList ++ output.getD "stdout".toList]

/-- The report on a pack, line by line; the last row tells how long it took. -/
def lines (p : Pack) (tokenCounts : Option (Nat × Nat)) (output : Option Text) (digest : Bool)
    (milliseconds : Nat) : List Text :=
  [[], "✓ Pack complete".toList]
    ++ (rows p.tally tokenCounts output digest).map ("├─ ".toList ++ ·)
    ++ ["└─ Time: ".toList ++ duration milliseconds]

end CodeDigest.Report
