import Telematics.Text.Hex
import Telematics.Text.Scan

/-!
# Network addresses

An address is four octets or eight groups of sixteen bits. The text of the
long form leaves out its longest run of zero groups, the first of several,
if it is at least two long, and shows an address of the short form that is
mapped into the long one with its octets.

Peers of a listener that takes both forms appear as mapped addresses;
`Address.reduced` turns them back, so that one peer has one address.
-/

namespace Telematics

/-- A network address. -/
inductive Address where
  | v4 (octets : Vector UInt8 4)
  | v6 (groups : Vector UInt16 8)
  deriving DecidableEq, Repr

namespace Address

/-- The address of these octets. -/
def ofOctets (a b c d : UInt8) : Address := .v4 #v[a, b, c, d]

/-- The short address that a long one stands for, if it is mapped. -/
def mapped? (g : Vector UInt16 8) : Option (Vector UInt8 4) :=
  if g.toList.take 6 = [0, 0, 0, 0, 0, 0xFFFF] then
    some #v[(g[6] >>> 8).toUInt8, g[6].toUInt8, (g[7] >>> 8).toUInt8,
      g[7].toUInt8]
  else none

/-- The address, in its short form where it is mapped. -/
def reduced : Address → Address
  | .v4 o => .v4 o
  | .v6 g => (mapped? g).elim (.v6 g) .v4

/-! ## Writing -/

/-- Four octets between points. -/
def octetsText (o : Vector UInt8 4) : String :=
  String.intercalate "." (o.toList.map fun b => toString b.toNat)

/-- A group in hexadecimal, without zeros in front. -/
def groupText (g : UInt16) : String :=
  match (Hex.digits 4 g.toNat).dropWhile (· = '0') with
  | [] => "0"
  | ds => String.ofList ds

/-- Groups between colons. -/
def groupsText (gs : List UInt16) : String :=
  String.intercalate ":" (gs.map groupText)

/-- The length of the run of zeros at the head. -/
def zeroRun (gs : List UInt16) : Nat := (gs.takeWhile (· = 0)).length

/-- Where the longest run of zero groups starts, and its length. -/
def longestRun (gs : List UInt16) : Nat × Nat :=
  (List.range gs.length).foldl
    (fun best i => let n := zeroRun (gs.drop i); if best.2 < n then (i, n)
      else best) (0, 0)

/-- The text of an address. -/
def toText : Address → String
  | .v4 o => octetsText o
  | .v6 g =>
    match mapped? g with
    | some o => "::ffff:" ++ octetsText o
    | none =>
      let gs := g.toList
      let (start, length) := longestRun gs
      if 1 < length then
        groupsText (gs.take start) ++ "::"
          ++ groupsText (gs.drop (start + length))
      else groupsText gs

/-! ## Reading -/

/-- An octet: one to three digits, no zero in front. -/
def scanOctet : Scan UInt8 := do
  let ds ← Scan.takeWhile Text.isDigit
  Scan.require (!ds.isEmpty && ds.length ≤ 3
    && (ds.length = 1 || ds.head? ≠ some '0'))
  Scan.require (Text.decimal ds < 256)
  pure (UInt8.ofNat (Text.decimal ds))

/-- Four octets between points. -/
def scanV4 : Scan (Vector UInt8 4) := do
  let a ← scanOctet
  Scan.char '.'
  let b ← scanOctet
  Scan.char '.'
  let c ← scanOctet
  Scan.char '.'
  let d ← scanOctet
  pure #v[a, b, c, d]

/-- A group: one to four hexadecimal digits. -/
def scanGroup : Scan UInt16 := do
  let ds ← Scan.takeWhile fun c => (Hex.digit? c).isSome
  Scan.require (!ds.isEmpty && ds.length ≤ 4)
  pure (UInt16.ofNat ((Hex.toNat? ds).getD 0))

/-- The value, with a colon in front unless it is the first. -/
def scanAfterColon (first : Bool) (p : Scan α) : Scan α := do
  if !first then Scan.char ':'
  p

/-- Up to `limit` groups between colons, and whether the last two of them
were written as four octets. -/
def scanGroups (limit : Nat) (first : Bool) : Scan (List UInt16 × Bool) :=
  fun cs =>
  match limit with
  | 0 => some (([], false), cs)
  | more + 1 =>
    -- Four octets stand for two groups, so there has to be room for two.
    match if 0 < more then scanAfterColon first scanV4 cs else none with
    | some (o, r) =>
      some (([o[0].toUInt16 <<< 8 ||| o[1].toUInt16,
          o[2].toUInt16 <<< 8 ||| o[3].toUInt16], true), r)
    | none =>
      match scanAfterColon first scanGroup cs with
      | none => some (([], false), cs)
      | some (g, r) =>
        match scanGroups more false r with
        | some ((gs, octets), r) => some ((g :: gs, octets), r)
        | none => none

/-- Eight groups, of which a run of zeros may be left out. -/
def scanV6 : Scan (Vector UInt16 8) := do
  let (head, octets) ← scanGroups 8 true
  let all ←
    if head.length = 8 then pure head
    else do
      Scan.require !octets
      Scan.char ':'
      Scan.char ':'
      -- The gap is of one group at least.
      let (tail, _) ← scanGroups (7 - head.length) true
      pure (head ++ List.replicate (8 - head.length - tail.length) 0 ++ tail)
  pure (Vector.ofFn fun i => all[i.val]?.getD 0)

/-- The address that a text writes out, if it does. -/
def ofText? (cs : List Char) : Option Address :=
  match Scan.whole? scanV4 cs with
  | some o => some (.v4 o)
  | none => (Scan.whole? scanV6 cs).map .v6

end Address

/-- An address and a port; a long address may carry the number of the
interface that it belongs to. -/
structure Endpoint where
  address : Address
  scope : UInt32
  port : UInt16
  deriving DecidableEq, Repr

namespace Endpoint

/-- The text of an endpoint. -/
def toText (e : Endpoint) : String :=
  let port := ":" ++ toString e.port.toNat
  match e.address with
  | .v4 _ => e.address.toText ++ port
  | .v6 _ =>
    let scope := if e.scope = 0 then "" else "%" ++ toString e.scope.toNat
    "[" ++ e.address.toText ++ scope ++ "]" ++ port

/-- A number below a bound, of any number of digits. -/
def scanNumber (bound : Nat) : Scan Nat := do
  let n ← Scan.number
  Scan.require (n < bound)
  pure n

/-- Four octets and a port. -/
def scanV4 : Scan Endpoint := do
  let o ← Address.scanV4
  Scan.char ':'
  let port ← scanNumber UInt16.size
  pure ⟨.v4 o, 0, UInt16.ofNat port⟩

/-- Eight groups in brackets and a port. -/
def scanV6 : Scan Endpoint := do
  Scan.char '['
  let g ← Address.scanV6
  let scope ← match ← Scan.peek? with
    | some '%' => do
      Scan.char '%'
      scanNumber UInt32.size
    | _ => pure 0
  Scan.char ']'
  Scan.char ':'
  let port ← scanNumber UInt16.size
  pure ⟨.v6 g, UInt32.ofNat scope, UInt16.ofNat port⟩

/-- The endpoint that a text writes out, if it does. -/
def ofText? (cs : List Char) : Option Endpoint :=
  Scan.whole? scanV4 cs <|> Scan.whole? scanV6 cs

end Endpoint

end Telematics
