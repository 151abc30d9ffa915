import Telematics.Wire.Error

/-!
# Reading fields

A `Reader` takes its value off the front of a buffer or says which field
ran past the end. The building blocks are words of one to four octets,
fixed runs of octets, texts that end in a zero octet, and the two ways of
repeating: `Reader.whole` reads a payload that must be used up, and
`Reader.many` reads units until nothing is left.

The writing side has no monad of its own, since a unit is written by
joining lists. Only its two checks live here: `fitBits` for a bit field and
`fitLength` for the sixteen bits of a length.
-/

namespace Telematics

/-- Takes a value off the front of a buffer. -/
abbrev Reader := StateT Bytes (Except WireError)

namespace Reader

/-- The next `n` octets. -/
def bytes (n : Nat) (field : String) : Reader Bytes := fun d =>
  match Bytes.split? n d with
  | some (a, r) => .ok (a, r)
  | none => .error (.endOfData field)

/-- The next `n` octets as a number. -/
def word (n : Nat) (field : String) : Reader Nat :=
  Bytes.toNat <$> bytes n field

/-- One octet. -/
def u8 (field : String) : Reader UInt8 := UInt8.ofNat <$> word 1 field

/-- Sixteen bits. -/
def u16 (field : String) : Reader UInt16 := UInt16.ofNat <$> word 2 field

/-- Twenty-four bits. -/
def u24 (field : String) : Reader UInt32 := UInt32.ofNat <$> word 3 field

/-- Thirty-two bits. -/
def u32 (field : String) : Reader UInt32 := UInt32.ofNat <$> word 4 field

/-- A run of octets of a fixed length. -/
def array (n : Nat) (field : String) : Reader (Vector UInt8 n) := fun d =>
  match bytes n field d with
  | .ok (a, r) =>
    if h : a.toArray.size = n then .ok (⟨a.toArray, h⟩, r)
      else .error (.endOfData field)
  | .error e => .error e

/-- Everything that is left. -/
def rest : Reader Bytes := fun d => .ok (d, [])

/-- Nothing is left. -/
def atEnd : Reader Bool := fun d => .ok (d.isEmpty, d)

/-- A value that stands only where a flag says so. -/
def whenFlag (present : Bool) (r : Reader α) : Reader (Option α) :=
  if present then some <$> r else pure none

/-- A text up to the next zero octet, which is consumed. -/
def text (field : String) : Reader String := fun d =>
  match d.dropWhile (· != 0) with
  | [] => .error (.endOfData field)
  | _ :: r =>
    match Utf8.decode (d.takeWhile (· != 0)) with
    | .ok s => .ok (s, r)
    | .error fault => .error (.invalidField field (.utf8 fault))

/-- A payload that the reader has to use up. -/
def whole (unit : String) (r : Reader α) (d : Bytes) : Except WireError α :=
  match r d with
  | .ok (a, []) => .ok a
  | .ok (_, b :: s) =>
    .error (.lengthMismatch unit d.length (d.length - (b :: s).length))
  | .error e => .error e

/-! ## Progress

A reader never gives back more than it was given, and one that reads at
least one octet gives back less. The second fact is what lets `many` run to
the end of the data. -/

/-- What is left is no longer than what was given. -/
def Bounded (r : Reader α) : Prop :=
  ∀ d a t, r d = .ok (a, t) → t.length ≤ d.length

/-- What is left is shorter than what was given. -/
def Consumes (r : Reader α) : Prop :=
  ∀ d a t, r d = .ok (a, t) → t.length < d.length

theorem Consumes.bounded {r : Reader α} (h : Consumes r) : Bounded r :=
  fun d a t hd => Nat.le_of_lt (h d a t hd)

theorem bind_eq_ok {r : Reader α} {f : α → Reader β} {d : Bytes}
    {x : β × Bytes} :
    (r >>= f) d = .ok x ↔ ∃ a s, r d = .ok (a, s) ∧ f a s = .ok x := by
  have unfold : (r >>= f) d = (r d >>= fun p => f p.1 p.2) := rfl
  rw [unfold]
  cases h : r d with
  | error e => simp [bind, Except.bind]
  | ok p =>
    simp only [bind, Except.bind, Except.ok.injEq]
    exact ⟨fun hx => ⟨p.1, p.2, rfl, hx⟩,
      by rintro ⟨a, s, ha, hx⟩; cases ha; exact hx⟩

theorem Bounded.pure (a : α) : Bounded (pure a : Reader α) := by
  intro d b t h
  cases h
  exact Nat.le_refl _

theorem Bounded.bind {r : Reader α} {f : α → Reader β} (hr : Bounded r)
    (hf : ∀ a, Bounded (f a)) : Bounded (r >>= f) := by
  intro d b t h
  obtain ⟨a, s, hs, ht⟩ := bind_eq_ok.1 h
  exact Nat.le_trans (hf a s b t ht) (hr d a s hs)

theorem Consumes.bind {r : Reader α} {f : α → Reader β} (hr : Consumes r)
    (hf : ∀ a, Bounded (f a)) : Consumes (r >>= f) := by
  intro d b t h
  obtain ⟨a, s, hs, ht⟩ := bind_eq_ok.1 h
  exact Nat.lt_of_le_of_lt (hf a s b t ht) (hr d a s hs)

theorem map_eq_bind (f : α → β) (r : Reader α) :
    f <$> r = r >>= fun a => Pure.pure (f a) := (bind_pure_comp f r).symm

theorem Bounded.map {r : Reader α} (f : α → β) (hr : Bounded r) :
    Bounded (f <$> r) := by
  rw [map_eq_bind]
  exact hr.bind fun a => .pure (f a)

theorem Consumes.map {r : Reader α} (f : α → β) (hr : Consumes r) :
    Consumes (f <$> r) := by
  rw [map_eq_bind]
  exact hr.bind fun a => .pure (f a)

theorem bytes_eq_ok {n : Nat} {field : String} {d a t : Bytes} :
    bytes n field d = .ok (a, t) ↔ a.length = n ∧ d = a ++ t := by
  rw [← Bytes.split?_eq_some_iff, bytes]
  split <;> simp_all

theorem bytes_consumes {n : Nat} (hn : 0 < n) (field : String) :
    Consumes (bytes n field) := by
  intro d a t h
  obtain ⟨ha, rfl⟩ := bytes_eq_ok.1 h
  simp only [List.length_append]
  omega

theorem u8_consumes (field : String) : Consumes (u8 field) :=
  ((bytes_consumes (by decide) field).map _).map _

theorem u16_consumes (field : String) : Consumes (u16 field) :=
  ((bytes_consumes (by decide) field).map _).map _

theorem u32_consumes (field : String) : Consumes (u32 field) :=
  ((bytes_consumes (by decide) field).map _).map _

theorem Bounded.whenFlag {r : Reader α} (present : Bool) (hr : Bounded r) :
    Bounded (whenFlag present r) := by
  unfold Reader.whenFlag
  split
  · exact hr.map _
  · exact .pure _

/-- **Units one after the other** until nothing is left. -/
def many (r : Reader α) (h : Consumes r) (d : Bytes) :
    Except WireError (List α) :=
  match d with
  | [] => .ok []
  | b :: s =>
    match hr : r (b :: s) with
    | .error e => .error e
    | .ok (a, t) =>
      have : t.length < (b :: s).length := h _ a t hr
      match many r h t with
      | .ok as => .ok (a :: as)
      | .error e => .error e
termination_by d.length
decreasing_by exact this

end Reader

/-! ## Checks on the way out -/

/-- The value fits into a field of so many bits. -/
def fitBits (field : String) (value bits : Nat) : Except WireError Unit :=
  if value < Nat.pow 2 bits then .ok ()
    else .error (.invalidField field (.width value bits))

/-- The length as it stands in front of a unit. -/
def fitLength (unit : String) (size : Nat) : Except WireError UInt16 :=
  if size ≤ 65535 then .ok (UInt16.ofNat size)
    else .error (.tooLarge unit size 65535)

end Telematics
