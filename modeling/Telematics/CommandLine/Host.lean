import Telematics.CommandLine.Machine

/-!
# A machine that is a value

One directory of files, a clock that stands still, and no network beyond its
own addresses: it can listen, but nobody connects, and whom it calls does not
answer. On such a machine what a command does is a function of what was there
before.

A path leads to a file of that directory or of one within it. Of the rest of
the machine only the device is there that holds nothing and takes everything.
-/

namespace Telematics

/-- A machine with its files and what was printed on it. -/
structure Host where
  /-- The files by name. The first of a name is the one that is there. -/
  files : List (String × String)
  clock : Instant
  printed : String
  /-- Where it listens. -/
  listening : List Endpoint

namespace Host

/-- The device that holds nothing and takes everything. -/
def nullDevice : String := "/dev/null"

/-- The name of the file that a path leads to, without the parts that stay in
place. A path from the root leads elsewhere, as does one that goes up, and one
that ends in a part that stays in place leads to a directory. -/
def place? (path : String) : Option String :=
  let parts := Text.splitAt (· = '/') path.toList
  let stays (part : List Char) : Bool := part = [] || part = ['.']
  if parts.head? = some [] || parts.getLast?.any stays
    || parts.contains ['.', '.'] then none
  else some (String.ofList (List.intercalate ['/'] (parts.filter (!stays ·))))

/-- The text of a file, if it can be read. -/
def file? (h : Host) (path : String) : Option String :=
  if path = nullDevice then some "" else (place? path).bind fun name =>
    h.files.lookup name

/-- The directory of a file is there: it is the one directory, or some file is
in it. -/
def hasDirectory (h : Host) (name : String) : Bool :=
  let directory := (name.toList.reverse.dropWhile (· ≠ '/')).reverse
  directory.isEmpty || h.files.any (directory.isPrefixOf ·.1.toList)

/-- The machine with a text in a file, if the directory of the file is there. -/
def write (h : Host) (path text : String) : Bool × Host :=
  if path = nullDevice then (true, h)
  else
    match (place? path).filter h.hasDirectory with
    | some name => (true, { h with files := (name, text) :: h.files })
    | none => (false, h)

/-- The address is one of the machine's own, or stands for all of them. -/
def owns : Address → Bool
  | .v4 o => o.toList.head? = some 127 || o.toList.all (· = 0)
  | .v6 g =>
    g.toList.dropLast.all (· = 0) && g.toList.getLast?.any ([0, 1].contains ·)

/-- The first of the ports that are given out to who asks for none. -/
def firstFreePort : UInt16 := 40000

/-- Listens at addresses, given those of the same request that it listens at
already. -/
def bind (bound : List Endpoint) : List Endpoint → Except Error (List Endpoint)
  | [] => .ok bound.reverse
  | e :: rest =>
    let e := if e.port = 0
      then { e with port := firstFreePort + UInt16.ofNat bound.length } else e
    if owns e.address && !bound.contains e then bind (e :: bound) rest
    else .error (.bindFailed e.toText "Cannot assign requested address")

/-- The address that a text writes out; the machine has a name for its own. -/
def findServer? (server : String) : Option Endpoint :=
  let own := "localhost:".toList
  let cs := server.toList
  if own.isPrefixOf cs then
    (Text.unsigned? UInt16.size (cs.drop own.length)).map fun port =>
      ⟨.ofOctets 127 0 0 1, 0, UInt16.ofNat port⟩
  else Endpoint.ofText? cs

instance : Machine (StateM Host) where
  readFile name := do pure ((← get).file? name)
  writeFile name text := modifyGet (write · name text)
  openForLines name := modifyGet fun h => h.write name ((h.file? name).getD "")
  usualConfig := pure none
  print s := modify fun h => { h with printed := h.printed ++ s }
  complain _ := pure ()
  now := do pure (← get).clock
  findServer server := pure (findServer? server)
  exchange _ _ _ := pure (.error (.io "Network is unreachable"))
  listen addresses := do
    match bind [] addresses with
    | .ok bound =>
      modify ({ · with listening := bound })
      pure (.ok bound)
    | .error e => pure (.error e)
  serve r := pure r.stats

end Host

end Telematics
