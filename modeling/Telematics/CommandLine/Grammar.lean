/-!
# Reading a command line

A level of a command line has flags, perhaps one argument without a name, and
perhaps commands; a command ends its level and opens one of its own. A flag
that takes a value has it attached, behind an equals sign, or as the next
argument.

What a flag was given is checked only when the next one is met or the level
ends, and a level within ends before the one around it. Of several faults the
one that is checked first is reported, so `Level` keeps the last argument
**pending** until then. An argument that is no flag at all is a fault at once.
-/

namespace Telematics.CommandLine

/-- Why a command line was not taken, or asks for no work. -/
inductive UsageFault where
  /-- Help is asked for. -/
  | help
  /-- Nothing is asked for. -/
  | helpForNothing
  /-- The version is asked for, of what has this title. -/
  | version (title : String)
  /-- A flag is given twice. -/
  | repeated
  | unknownCommand
  /-- A value is missing, or not among those that are possible. -/
  | invalidValue
  /-- There are flags and no command. -/
  | missingCommand
  /-- A flag without a value is given one. -/
  | strayValue
  | unknownArgument
  /-- A value does not read as what it has to be. -/
  | unreadableValue
  deriving DecidableEq, Repr

/-- What takes a value, which it enters into settings of type `α`. -/
structure Slot (α : Type) where
  /-- The long name of the flag. -/
  name : String
  /-- The value may begin with a hyphen. -/
  hyphens : Bool := false
  /-- There may be several. -/
  repeats : Bool := false
  enter : String → α → Except UsageFault α

/-- What a flag does. -/
inductive Action (α : Type) where
  | help
  | version
  | toggle (set : α → α)
  | value (slot : Slot α)

/-- A flag. -/
structure Flag (α : Type) where
  long : String
  short : Option Char
  action : Action α

/-- What a level takes. -/
structure Grammar (α : Type) where
  /-- What the level belongs to. -/
  title : String
  flags : List (Flag α)
  /-- The argument without a name. -/
  word : Option (Slot α)
  commands : List String

/-! ## Settings within settings -/

/-- The slot of a part of the settings. -/
def Slot.within (get : σ → α) (put : σ → α → σ) (s : Slot α) : Slot σ where
  name := s.name
  hyphens := s.hyphens
  repeats := s.repeats
  enter v x := (s.enter v (get x)).map (put x)

/-- The flag of a part of the settings. -/
def Flag.within (get : σ → α) (put : σ → α → σ) (f : Flag α) : Flag σ where
  long := f.long
  short := f.short
  action :=
    match f.action with
    | .help => .help
    | .version => .version
    | .toggle set => .toggle fun x => put x (set (get x))
    | .value slot => .value (slot.within get put)

/-! ## A level -/

/-- How far a level is read. -/
structure Level (α : Type) where
  settings : α
  /-- The names of what was given so far and checked. -/
  given : List String
  /-- What was given last, and its value once there is one. -/
  pending : Option (Slot α × Option String)
  /-- The argument without a name was given. -/
  hasWord : Bool

namespace Level

/-- Nothing is read yet. -/
def start (settings : α) : Level α := ⟨settings, [], none, false⟩

/-- What is pending is checked and entered. -/
def settle (l : Level α) : Except UsageFault (Level α) :=
  match l.pending with
  | none => .ok l
  | some (_, none) => .error .invalidValue
  | some (slot, some v) =>
    if !slot.repeats && l.given.contains slot.name then .error .repeated
    else (slot.enter v l.settings).map fun settings =>
      { l with settings, given := slot.name :: l.given, pending := none }

/-- A slot is pending, with its value or without. -/
def await (l : Level α) (slot : Slot α) (v : Option String) :
    Except UsageFault (Level α) :=
  l.settle.map ({ · with pending := some (slot, v) })

/-- A flag that takes no value. -/
def act (g : Grammar α) (l : Level α) (f : Flag α) :
    Except UsageFault (Level α) := do
  let l ← l.settle
  match f.action with
  | .help => .error .help
  | .version => .error (.version g.title)
  | .toggle set =>
    if l.given.contains f.long then .error .repeated
    else pure { l with settings := set l.settings, given := f.long :: l.given }
  | .value _ => pure l

/-- A flag by its long name, with the value attached to it. -/
def long (g : Grammar α) (l : Level α) (name : String)
    (attached : Option String) : Except UsageFault (Level α) :=
  match g.flags.find? (·.long == name) with
  | none => .error .unknownArgument
  | some f =>
    match f.action, attached with
    | .value slot, some v => do (← l.await slot (some v)).settle
    | .value slot, none => l.await slot none
    | _, some _ => .error .strayValue
    | _, none => l.act g f

/-- Flags by their short names; what stands behind one that takes a value is its
value. -/
def short (g : Grammar α) (l : Level α) :
    List Char → Except UsageFault (Level α)
  | [] => .ok l
  | c :: r =>
    match g.flags.find? (·.short == some c) with
    | none => .error .unknownArgument
    | some f =>
      match f.action, r with
      | .value slot, [] => l.await slot none
      | .value slot, '=' :: v =>
        do (← l.await slot (some (String.ofList v))).settle
      | .value slot, v => do (← l.await slot (some (String.ofList v))).settle
      | _, r => do (← l.act g f).short g r

/-- An argument without a name. -/
def word (g : Grammar α) (l : Level α) (v : String) :
    Except UsageFault (Level α) :=
  match g.word with
  | some slot =>
    if l.hasWord then .error .unknownArgument
    else (l.await slot (some v)).map ({ · with hasWord := true })
  | none =>
    .error (if g.commands.isEmpty then .unknownArgument else .unknownCommand)

/-- An argument. -/
def argument (g : Grammar α) (l : Level α) (a : String) :
    Except UsageFault (Level α) :=
  match a.toList with
  | '-' :: '-' :: r =>
    let name := String.ofList (r.takeWhile (· ≠ '='))
    match r.dropWhile (· ≠ '=') with
    | [] => l.long g name none
    | _ :: v => l.long g name (some (String.ofList v))
  | '-' :: c :: r => l.short g (c :: r)
  | _ => l.word g a

/-- The slot that the next argument may be the value of. -/
def awaited? (l : Level α) : Option (Slot α) :=
  match l.pending with
  | some (slot, none) => some slot
  | _ => none

/-- The argument is a value for a slot, whatever flags there are. -/
def accepts (slot : Slot α) (a : String) : Bool :=
  slot.hyphens || a == "-" || a.toList.head? != some '-'

/-- Arguments behind two hyphens: they have no names, and no command is among
them. -/
def trailing (g : Grammar α) (l : Level α) :
    List String → Except UsageFault (Level α)
  | [] => .ok l
  | a :: r => do
    if g.commands.contains a then .error .unknownArgument
    else (← l.word g a).trailing g r

/-- **The arguments of a level**, up to a command; the command and what stands
behind it are left over. The last of them may still be pending. -/
def read (g : Grammar α) (l : Level α) :
    List String → Except UsageFault (Level α × Option (String × List String))
  | [] => .ok (l, none)
  | a :: r =>
    match l.awaited?.filter (accepts · a) with
    | some slot => { l with pending := some (slot, some a) }.read g r
    | none => do
      if l.awaited?.isNone && g.commands.contains a then pure (l, some (a, r))
      else if a = "--" then pure (← l.trailing g r, none)
      else (← l.argument g a).read g r

end Level

end Telematics.CommandLine
