import Telematics.Fleet.Vehicle
import Telematics.Net.Address

/-!
# Providers and their addresses

A provider is known by the addresses its terminals connect from, given as
patterns: a full address, or up to three octets and an asterisk. A text that
is neither is kept, since it was configured, but matches nothing.

`Provider.forAddress` prefers a full address to an asterisk wherever the two
stand in the list, and the first provider among equals.
-/

namespace Telematics

/-- What a provider's address has to look like. -/
inductive AddressPattern where
  | exact (address : Address)
  /-- The first octets; the others are free. -/
  | leading (octets : List UInt8)
  /-- Matches nothing. -/
  | invalid
  deriving DecidableEq, Repr

namespace AddressPattern

/-- The octets before the asterisk, if the text is cut at its points into at
most four pieces of which the last is an asterisk. -/
def leadingOctets? (cs : List Char) : Option (List UInt8) :=
  let pieces := Text.splitAt (· = '.') cs
  if pieces.length ≤ 4 ∧ pieces.getLast? = some ['*'] then
    pieces.dropLast.mapM fun p => (Text.unsigned? 256 p).map UInt8.ofNat
  else none

/-- The pattern that a text stands for; blanks around it do not count. -/
def ofText (s : String) : AddressPattern :=
  let cs := Text.trim s.toList
  match Address.ofText? cs with
  | some a => exact a
  | none => (leadingOctets? cs).elim invalid leading

/-- The pattern is a full address. -/
def isExact : AddressPattern → Bool
  | exact _ => true
  | _ => false

/-- An address fits the pattern, mapped addresses counting as short ones. -/
def accepts (p : AddressPattern) (a : Address) : Bool :=
  match p with
  | exact e => e.reduced = a.reduced
  | leading octets =>
    match a.reduced with
    | .v4 o => octets.isPrefixOf o.toList
    | .v6 _ => false
  | invalid => false

end AddressPattern

/-- A provider. -/
structure Provider where
  id : ProviderId
  name : String
  /-- Address patterns, as they were configured. -/
  patterns : List String
  deriving DecidableEq, Repr

namespace Provider

/-- Some pattern of the provider, of the given kind, accepts the address. -/
def claims (exact : Bool) (a : Address) (p : Provider) : Bool :=
  p.patterns.any fun s =>
    let pattern := AddressPattern.ofText s
    pattern.isExact == exact && pattern.accepts a

/-- **The provider of an address**: by a full address if any, else by an
asterisk. -/
def forAddress (providers : List Provider) (a : Address) : Option Provider :=
  providers.find? (claims true a) <|> providers.find? (claims false a)

end Provider

end Telematics
