import Telematics.Text.Json

/-!
# Reading JSON

One value, with blanks around it and nothing else. A text escapes its control
characters. An escaped surrogate that is not the first or second half of a pair
breaks the text it is in, and the object whose name that text is, which is a
fault only for who needs the text or the object.

Every step of the recursion consumes a character or descends into a value that
begins with one, so twice the length of the text is fuel enough.
-/

namespace Telematics.Json

/-- The blanks of JSON. -/
def isSpace (c : Char) : Bool := c = ' ' || c = '\t' || c = '\n' || c = '\r'

/-- Skips blanks. -/
def spaces : Scan Unit := fun cs => some ((), cs.dropWhile isSpace)

/-- Four hexadecimal digits. -/
def scanHex4 : Scan Nat := fun cs =>
  if (cs.take 4).length = 4 then (Hex.toNat? (cs.take 4)).map (·, cs.drop 4)
    else none

/-- The second half of a pair, which is what the first half adds up with. -/
def scanSecondHalf : Scan Nat := do
  Scan.char '\\'
  Scan.char 'u'
  let m ← scanHex4
  Scan.require (0xDC00 ≤ m && m < 0xE000)
  pure (m - 0xDC00)

/-- What follows a backslash; a half without the other is no character. -/
def scanEscape : Scan (Option Char) := do
  match ← Scan.charWhere fun _ => true with
  | '"' => pure (some '"')
  | '\\' => pure (some '\\')
  | '/' => pure (some '/')
  | 'b' => pure (some (Char.ofNat 8))
  | 'f' => pure (some (Char.ofNat 12))
  | 'n' => pure (some '\n')
  | 'r' => pure (some '\r')
  | 't' => pure (some '\t')
  | 'u' =>
    let n ← scanHex4
    if n < 0xD800 ∨ 0xE000 ≤ n then pure (some (Char.ofNat n))
    else if n < 0xDC00 then
      (do
        let low ← scanSecondHalf
        pure (some (Char.ofNat (0x10000 + (n - 0xD800) * 0x400 + low))))
        <|> pure none
    else pure none
  | _ => Scan.refuse

/-- A character that stands for itself. -/
def isPlain (c : Char) : Bool := c ≠ '"' && c ≠ '\\' && 0x20 ≤ c.toNat

/-- The rest of a text, up to its closing quote; `done` holds what was read
before, last piece first, unless the text is broken already. Every step
consumes a character. -/
def scanText : Nat → Option (List (List Char)) → Scan Json
  | 0, _ => Scan.refuse
  | fuel + 1, done => do
    let plain ← Scan.takeWhile isPlain
    match ← Scan.charWhere fun _ => true with
    | '"' =>
      pure (done.elim .broken fun done =>
        .string (String.ofList (plain :: done).reverse.flatten))
    | '\\' =>
      let c ← scanEscape
      scanText fuel (do pure ([← c] :: plain :: (← done)))
    | _ => Scan.refuse

/-- A character of a number; none of them may stand right behind one. -/
def isNumberChar (c : Char) : Bool :=
  Text.isDigit c || c = '-' || c = '+' || c = '.' || c = 'e' || c = 'E'

/-- A number, kept as it is written. -/
def scanLiteral : Scan Json := do
  let cs ← Scan.takeWhile isNumberChar
  Scan.require (Scan.whole? scanNumber cs).isSome
  pure (.number (String.ofList cs))

/-- A word of the language. -/
def scanWord (word : String) (j : Json) : Scan Json := fun cs =>
  let w := word.toList
  if cs.take w.length = w then some (j, cs.drop w.length) else none

/-- An object of these members; a broken name breaks it. -/
def objectOf (members : List (Json × Json)) : Json :=
  (members.mapM fun m : Json × Json => m.1.string?.map (·, m.2)).elim
    .broken .object

mutual

/-- A value. -/
def scanValue : Nat → Scan Json
  | 0 => Scan.refuse
  | fuel + 1 => do
    spaces
    match ← Scan.peek? with
    | some '"' =>
      Scan.char '"'
      scanText fuel (some [])
    | some '[' =>
      Scan.char '['
      spaces
      match ← Scan.peek? with
      | some ']' => do
        Scan.char ']'
        pure (.array [])
      | _ => Json.array <$> scanItems fuel
    | some '\x7b' =>
      Scan.char '\x7b'
      spaces
      match ← Scan.peek? with
      | some '\x7d' => do
        Scan.char '\x7d'
        pure (.object [])
      | _ => objectOf <$> scanMembers fuel
    | some 't' => scanWord "true" (.bool true)
    | some 'f' => scanWord "false" (.bool false)
    | some 'n' => scanWord "null" .null
    | _ => scanLiteral

/-- The items of an array, one at least, and its closing bracket. -/
def scanItems : Nat → Scan (List Json)
  | 0 => Scan.refuse
  | fuel + 1 => do
    let item ← scanValue fuel
    spaces
    match ← Scan.charWhere fun _ => true with
    | ',' => do
      let items ← scanItems fuel
      pure (item :: items)
    | ']' => pure [item]
    | _ => Scan.refuse

/-- The members of an object, one at least, as names and values, and its closing
brace. -/
def scanMembers : Nat → Scan (List (Json × Json))
  | 0 => Scan.refuse
  | fuel + 1 => do
    spaces
    Scan.char '"'
    let name ← scanText fuel (some [])
    spaces
    Scan.char ':'
    let value ← scanValue fuel
    spaces
    match ← Scan.charWhere fun _ => true with
    | ',' => do
      let members ← scanMembers fuel
      pure ((name, value) :: members)
    | '\x7d' => pure [(name, value)]
    | _ => Scan.refuse

end

/-- The value of a whole text. -/
def parse? (s : String) : Option Json :=
  let cs := s.toList
  Scan.whole? (do
    let j ← scanValue (2 * cs.length + 1)
    spaces
    pure j) cs

end Telematics.Json
