import Telematics.Text.Toml
import Telematics.Time.Civil

/-!
# Reading TOML

The grammar of version 1.0. A number, date or word is taken as the longest run
of characters that may occur in one, since none of them can stand right behind
a value; what it is, is decided on the run as a whole.

Values are nested at most seventy-nine deep, and keys are no longer than that.
-/

namespace Telematics.Toml

/-! ## Blanks and lines -/

/-- A blank within a line. -/
def isSpace (c : Char) : Bool := c = ' ' || c = '\t'

/-- Skips blanks within a line. -/
def spaces : Scan Unit := fun cs => some ((), cs.dropWhile isSpace)

/-- A character that may stand in a comment. -/
def isCommentChar (c : Char) : Bool :=
  c = '\t' || (0x20 ≤ c.toNat && c.toNat ≠ 0x7F)

/-- A comment, up to the end of its line. -/
def scanComment : Scan Unit := do
  Scan.char '#'
  let _ ← Scan.takeWhile isCommentChar
  pure ()

/-- The end of a line. -/
def scanNewline : Scan Unit :=
  Scan.char '\n' <|> (do Scan.char '\r'; Scan.char '\n')

/-- The most levels of nesting of a value, and the most parts of a key. -/
def maxDepth : Nat := 79

/-- Blanks and perhaps a comment. -/
def scanGap : Scan Unit := do
  spaces
  scanComment <|> pure ()

/-- What may follow on the line of a value or a header. -/
def scanLineEnd : Scan Unit := do
  scanGap
  match ← Scan.peek? with
  | none => pure ()
  | some _ => scanNewline

/-- Blanks, comments and line ends. -/
def scanGaps : Nat → Scan Unit
  | 0 => pure ()
  | fuel + 1 => do
    scanGap
    (do scanNewline; scanGaps fuel) <|> pure ()

/-- Blanks, comments and line ends, as far as they go. -/
def skipGaps : Scan Unit := do
  let cs ← get
  scanGaps (cs.length + 1)

/-! ## Texts -/

/-- A character that no text holds as it is. -/
def isControl (c : Char) : Bool :=
  (c.toNat < 0x20 && c ≠ '\t') || c.toNat = 0x7F

/-- So many hexadecimal digits that make a character. -/
def scanCode (width : Nat) : Scan Char := fun cs =>
  if (cs.take width).length = width then
    match Hex.toNat? (cs.take width) with
    | some n =>
      if n.isValidChar then some (Char.ofNat n, cs.drop width) else none
    | none => none
  else none

/-- What follows a backslash, line ends apart. -/
def scanEscape : Scan Char := do
  match ← Scan.charWhere fun _ => true with
  | 'b' => pure (Char.ofNat 8)
  | 't' => pure '\t'
  | 'n' => pure '\n'
  | 'f' => pure (Char.ofNat 12)
  | 'r' => pure '\r'
  | '"' => pure '"'
  | '\\' => pure '\\'
  | 'u' => scanCode 4
  | 'U' => scanCode 8
  | _ => Scan.refuse

/-- The rest of a text on one line. -/
def scanText : Nat → List (List Char) → Scan String
  | 0, _ => Scan.refuse
  | fuel + 1, done => do
    let plain ← Scan.takeWhile fun c => c ≠ '"' && c ≠ '\\' && !isControl c
    match ← Scan.charWhere fun _ => true with
    | '"' => pure (String.ofList (plain :: done).reverse.flatten)
    | '\\' =>
      let c ← scanEscape
      scanText fuel ([c] :: plain :: done)
    | _ => Scan.refuse

/-- A literal text on one line. -/
def scanLiteral : Scan String := do
  let cs ← Scan.takeWhile fun c => c ≠ '\'' && !isControl c
  Scan.char '\''
  pure (String.ofList cs)

/-- The quotes that end a text over several lines: three, and before them up to
two that belong to the text. -/
def scanClosing (quote : Char) : Scan (List Char) := do
  let quotes ← Scan.takeWhile (· = quote)
  Scan.require (3 ≤ quotes.length && quotes.length ≤ 5)
  pure (quotes.drop 3)

/-- A text without the blanks and line ends in front. -/
def dropLines : List Char → List Char
  | '\r' :: '\n' :: r => dropLines r
  | c :: r => if isSpace c || c = '\n' then dropLines r else c :: r
  | [] => []

/-- A line end that a backslash leaves out, with all blanks and line ends after
it. -/
def scanFold : Scan Unit := do
  spaces
  scanNewline
  modify dropLines

/-- The rest of a text over several lines, with escapes or without. -/
def scanLines (quote : Char) (escapes : Bool) :
    Nat → List (List Char) → Scan String
  | 0, _ => Scan.refuse
  | fuel + 1, done => do
    let plain ← Scan.takeWhile fun c =>
      c ≠ quote && !(escapes && c = '\\') && !isControl c
    let done := plain :: done
    match ← Scan.peek? with
    | some c =>
      if c = quote then
        (do
          let more ← scanClosing quote
          pure (String.ofList (more :: done).reverse.flatten))
          <|> (do
            let quotes ← Scan.takeWhile (· = quote)
            Scan.require (quotes.length < 3)
            scanLines quote escapes fuel (quotes :: done))
      else if c = '\\' then do
        Scan.char '\\'
        (do scanFold; scanLines quote escapes fuel done)
          <|> (do
            let c ← scanEscape
            scanLines quote escapes fuel ([c] :: done))
      else do
        scanNewline
        scanLines quote escapes fuel (['\n'] :: done)
    | none => Scan.refuse

/-- A text, of any of the four kinds. A line end right behind three quotes does
not belong to it. -/
def scanString (lines : Bool) : Scan String := do
  let quote ← Scan.charWhere fun c => c = '"' || c = '\''
  let cs ← get
  if lines ∧ cs.take 2 = [quote, quote] then
    set (cs.drop 2)
    scanNewline <|> pure ()
    scanLines quote (quote = '"') (cs.length + 1) []
  else if quote = '"' then scanText (cs.length + 1) []
  else scanLiteral

/-! ## Keys -/

/-- One part of a key, with blanks around it. -/
def scanKeyPart : Scan String := do
  spaces
  let part ← match ← Scan.peek? with
    | some '"' | some '\'' => scanString false
    | _ => do
      let cs ← Scan.takeWhile isKeyChar
      Scan.require !cs.isEmpty
      pure (String.ofList cs)
  spaces
  pure part

/-- More parts of a key, each behind a point. -/
def scanKeyParts : Nat → Scan (List String)
  | 0 => pure []
  | fuel + 1 => do
    match ← Scan.peek? with
    | some '.' => do
      Scan.char '.'
      let part ← scanKeyPart
      let parts ← scanKeyParts fuel
      pure (part :: parts)
    | _ => pure []

/-- A key of one part or several. -/
def scanKey : Scan (List String) := do
  let part ← scanKeyPart
  let parts ← scanKeyParts maxDepth
  Scan.require (parts.length < maxDepth)
  pure (part :: parts)

/-! ## Numbers, dates and words -/

/-- Digits, between any two of which an underscore may stand. -/
def digitRun? (isDigit : Char → Bool) (cs : List Char) : Option (List Char) :=
  let groups := Text.splitAt (· = '_') cs
  if groups.all fun g => !g.isEmpty && g.all isDigit then some groups.flatten
    else none

/-- A whole number without zeros in front. -/
def wholeRun? (cs : List Char) : Option (List Char) :=
  (digitRun? Text.isDigit cs).filter fun ds => ds.length = 1
    || ds.head? ≠ some '0'

/-- The sign in front of a number. -/
def splitSign : List Char → Bool × List Char
  | '-' :: r => (true, r)
  | '+' :: r => (false, r)
  | cs => (false, cs)

/-- The value of a digit in a base up to sixteen. -/
def digitIn (base : Nat) (c : Char) : Bool := (Hex.digit? c).any (· < base)

/-- A number in a base, below a bound. -/
def based? (base : Nat) (cs : List Char) : Option Toml := do
  let ds ← digitRun? (digitIn base) cs
  let n := ds.foldl (fun n c => base * n + (Hex.digit? c).getD 0) 0
  if n < 0x8000000000000000 then some (.integer n) else none

/-- A whole number of sixty-four bits. -/
def integerOf? : List Char → Option Toml
  | '0' :: 'x' :: r => based? 16 r
  | '0' :: 'o' :: r => based? 8 r
  | '0' :: 'b' :: r => based? 2 r
  | cs => do
    let (negative, r) := splitSign cs
    let ds ← wholeRun? r
    let n : Int := Text.decimal ds
    let n := if negative then -n else n
    if -0x8000000000000000 ≤ n ∧ n < 0x8000000000000000 then some (.integer n)
      else none

/-- The pieces of a text before and behind the first character of a kind. -/
def cutAt (p : Char → Bool) (cs : List Char) : List Char × Option (List Char) :=
  match cs.dropWhile (!p ·) with
  | [] => (cs, none)
  | _ :: r => (cs.takeWhile (!p ·), some r)

/-- A number with a point or an exponent, or one of the values without digits. A
positive number beyond the doubles is refused. -/
def floatOf? (cs : List Char) : Option Toml := do
  let (negative, r) := splitSign cs
  let signed (x : Float) : Float := if negative then -x else x
  if r = ['i', 'n', 'f'] then some (.float (signed (1.0 / 0.0)))
  else if r = ['n', 'a', 'n'] then some (.float (signed (0.0 / 0.0)))
  else
    let (mantissa, exponent) := cutAt (fun c => c = 'e' || c = 'E') r
    let (whole, fraction) := cutAt (· = '.') mantissa
    guard (exponent.isSome || fraction.isSome)
    let whole ← wholeRun? whole
    let fraction ← match fraction with
      | some f => digitRun? Text.isDigit f
      | none => some []
    let exponent ← match exponent with
      | some e => do
        let (negative, e) := splitSign e
        let ds ← digitRun? Text.isDigit e
        pure (if negative then -(Text.decimal ds : Int) else Text.decimal ds)
      | none => some 0
    let digits := Text.decimal (whole ++ fraction)
    let x := Decimal.toFloat
      ⟨false, digits, Decimal.clampExponent digits (exponent - fraction.length)⟩
    if x.isInf ∧ !negative then none else some (.float (signed x))

/-- A date of the calendar. -/
def scanDate : Scan Unit := do
  let year ← Scan.digits 4 4
  Scan.char '-'
  let month ← Scan.digits 2 2
  Scan.char '-'
  let day ← Scan.digits 2 2
  Scan.require (Date.isValid ⟨year, month, day⟩)

/-- A time of day. -/
def scanTime : Scan Unit := do
  let hour ← Scan.digits 2 2
  Scan.char ':'
  let minute ← Scan.digits 2 2
  Scan.char ':'
  let second ← Scan.digits 2 2
  Scan.require (hour < 24 && minute < 60 && second ≤ 60)
  match ← Scan.peek? with
  | some '.' => do
    Scan.char '.'
    let _ ← Scan.number
    pure ()
  | _ => pure ()

/-- An offset from universal time. -/
def scanOffset : Scan Unit := do
  match ← Scan.peek? with
  | some 'Z' | some 'z' => do
    let _ ← Scan.charWhere fun _ => true
    pure ()
  | some '+' | some '-' => do
    let _ ← Scan.charWhere fun _ => true
    let hour ← Scan.digits 2 2
    Scan.char ':'
    let minute ← Scan.digits 2 2
    Scan.require (hour < 24 && minute < 60)
  | _ => pure ()

/-- A date, a time, or both. -/
def scanMoment : Scan Unit :=
  scanTime
    <|> (do
      scanDate
      match ← Scan.peek? with
      | none => pure ()
      | some _ => do
        let _ ← Scan.charWhere fun c => c = 'T' || c = 't' || c = ' '
        scanTime
        scanOffset)

/-- What a run of characters is. -/
def wordOf? (cs : List Char) : Option Toml :=
  if cs = "true".toList then some (.boolean true)
  else if cs = "false".toList then some (.boolean false)
  else if (Scan.whole? scanMoment cs).isSome then
    some (.moment (String.ofList cs))
  else integerOf? cs <|> floatOf? cs

/-- A character of a number, a date or a word. -/
def isWordChar (c : Char) : Bool :=
  c.isAlphanum || c = '+' || c = '-' || c = '_' || c = '.' || c = ':'

/-- A number, date or word. A blank stands within one only between a date and a
time. -/
def scanWord : Scan Toml := do
  let first ← Scan.takeWhile isWordChar
  let cs ← get
  let word ← match cs with
    | ' ' :: c :: _ =>
      if (Scan.whole? scanDate first).isSome ∧ Text.isDigit c then do
        Scan.char ' '
        let second ← Scan.takeWhile isWordChar
        pure (first ++ ' ' :: second)
      else pure first
    | _ => pure first
  match wordOf? word with
  | some v => pure v
  | none => Scan.refuse

/-! ## Values -/

/-- An assignment of what follows the equals sign. -/
def assignmentOf? (key : List String) (v : Toml) : Option Assignment :=
  key.getLast?.map fun last => ⟨key.dropLast, last, v⟩

mutual

/-- A value, with `depth` levels of nesting left. -/
def scanValue : Nat → Nat → Scan Toml
  | 0, _ => Scan.refuse
  | fuel + 1, depth => do
    match ← Scan.peek? with
    | some '"' | some '\'' => Toml.string <$> scanString true
    | some '[' => do
      Scan.char '['
      Scan.require (0 < depth)
      Toml.array <$> scanItems fuel (depth - 1)
    | some '\x7b' => do
      Scan.char '\x7b'
      Scan.require (0 < depth)
      spaces
      let members ← match ← Scan.peek? with
        | some '\x7d' => do
          Scan.char '\x7d'
          pure []
        | _ => scanMembers fuel (depth - 1)
      match ofInline? members with
      | some v => pure v
      | none => Scan.refuse
    | _ => scanWord

/-- The items of an array and its closing bracket. -/
def scanItems : Nat → Nat → Scan (List Toml)
  | 0, _ => Scan.refuse
  | fuel + 1, depth => do
    skipGaps
    match ← Scan.peek? with
    | some ']' => do
      Scan.char ']'
      pure []
    | _ => do
      let item ← scanValue fuel depth
      skipGaps
      match ← Scan.charWhere fun _ => true with
      | ',' => do
        let items ← scanItems fuel depth
        pure (item :: items)
      | ']' => pure [item]
      | _ => Scan.refuse

/-- The assignments of an inline table, one at least, and its closing brace. -/
def scanMembers : Nat → Nat → Scan (List Assignment)
  | 0, _ => Scan.refuse
  | fuel + 1, depth => do
    let key ← scanKey
    Scan.char '='
    spaces
    let v ← scanValue fuel depth
    spaces
    match assignmentOf? key v with
    | none => Scan.refuse
    | some a =>
      match ← Scan.charWhere fun _ => true with
      | ',' => do
        let members ← scanMembers fuel depth
        pure (a :: members)
      | '\x7d' => pure [a]
      | _ => Scan.refuse

end

/-! ## Documents -/

/-- An assignment on a line of its own. -/
def scanAssignment : Scan Assignment := do
  let key ← scanKey
  Scan.char '='
  spaces
  let cs ← get
  let v ← scanValue (2 * cs.length + 2) maxDepth
  scanLineEnd
  match assignmentOf? key v with
  | some a => pure a
  | none => Scan.refuse

/-- Assignments up to a header or the end of the document. -/
def scanAssignments : Nat → Scan (List Assignment)
  | 0 => Scan.refuse
  | fuel + 1 => do
    skipGaps
    match ← Scan.peek? with
    | none | some '[' => pure []
    | some _ => do
      let a ← scanAssignment
      let rest ← scanAssignments fuel
      pure (a :: rest)

/-- A header. -/
def scanHeader : Scan (Bool × List String) := do
  Scan.char '['
  let isRow ← (do Scan.char '['; pure true) <|> pure false
  let key ← scanKey
  Scan.char ']'
  if isRow then Scan.char ']'
  scanLineEnd
  pure (isRow, key)

/-- Sections up to the end of the document. -/
def scanSections : Nat → Scan (List Section)
  | 0 => Scan.refuse
  | fuel + 1 => do
    match ← Scan.peek? with
    | none => pure []
    | some _ => do
      let (isRow, path) ← scanHeader
      let assignments ← scanAssignments (fuel + 1)
      let rest ← scanSections fuel
      pure (⟨isRow, path, assignments⟩ :: rest)

/-- The members of a document. A mark of the byte order may stand in front. -/
def parse? (s : String) : Option (List (String × Toml)) := do
  let cs := match s.toList with
    | '\uFEFF' :: r => r
    | cs => cs
  let fuel := cs.length + 1
  let (first, rest) ← Scan.whole? (do
    let first ← scanAssignments fuel
    let rest ← scanSections fuel
    pure (first, rest)) cs
  ofSections? first rest

end Telematics.Toml
