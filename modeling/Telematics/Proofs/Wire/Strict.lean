import Mathlib.Data.Nat.PSub
import Telematics.Wire.Reader

/-!
# Readers that may leave their range

The functions of the model are total. A list is cut at a place behind its end
as if it ended there, and a difference is never below zero. So they do not
show whether such a cut or difference is ever asked for, and to say that none
is, one has to be able to say that one was.

`Strict` adds that outcome to values and faults: no result at all. Slices,
places and differences are computed within range or not (`Strict.octet`,
`Strict.upTo`, `Strict.onward`, `Strict.minus`), and so is a loop that would
not come closer to its end. The readers below are those of the model with
every such step spelled out.

`Strict.within` embeds what stays in range, and it is a morphism: what
consists of parts that stay in range does so too. A strict reader is shown to
be safe by an equation with an embedded one, and this equation says at the
same time that nothing else is changed.

The simp lemmas of the two namespaces push the embedding outwards, from the
parts of a reader to the whole of it: through `pure` and `throw`, through a
bind, a map and a choice. A reader made of parts that have their equation is
then done by rewriting, and what is left to argue for are the steps with a
range of their own: a run of octets and a text, an array, the report of a
payload that is not used up, and the loop.
-/

namespace Telematics

/-- A value, a fault, or nothing, if a step was out of range. -/
abbrev Strict := ExceptT WireError Option

/-- A reader that may leave its range. -/
abbrev StrictReader := StateT Bytes Strict

namespace Strict

variable {α β : Type} {d : Bytes} {n : Nat}

/-- A result within range, be it a value or a fault: a fault that is reported
is a result like any other. -/
def within (x : Except WireError α) : Strict α := liftM x

/-- The octet at a place, or nothing if the place is behind the end. -/
def octet (d : Bytes) (i : Nat) : Strict UInt8 := liftM d[i]?

/-- What stands in front of a place, or nothing if the place is behind the
end. At the end itself that is everything. -/
def upTo (d : Bytes) (n : Nat) : Strict Bytes :=
  liftM (if n ≤ d.length then some (d.take n) else none)

/-- What stands from a place on, or nothing if the place is behind the end. At
the end itself that is the empty list. -/
def onward (d : Bytes) (n : Nat) : Strict Bytes :=
  liftM (if n ≤ d.length then some (d.drop n) else none)

/-- The difference of two numbers, the first of which is not below the other. -/
def minus (m n : Nat) : Strict Nat := liftM (m.psub n)

/-- A place that has an octet is within range. -/
theorem octet_eq {b : UInt8} (h : d[n]? = some b) : octet d n = pure b := by
  rw [octet, h]
  rfl

/-- In front of a place up to the end, the strict slice is the one that the
model takes. -/
theorem upTo_eq (h : n ≤ d.length) : upTo d n = pure (d.take n) := by
  rw [upTo, if_pos h]
  rfl

/-- From a place up to the end on, the strict slice is the one that the model
takes. -/
theorem onward_eq (h : n ≤ d.length) : onward d n = pure (d.drop n) := by
  rw [onward, if_pos h]
  rfl

/-- A difference is within range if it does not fall below zero. -/
theorem minus_eq {m : Nat} (h : n ≤ m) : minus m n = pure (m - n) := by
  rw [minus, Nat.psub_eq_sub h]
  rfl

/-! ## What is within range -/

/-- What `do` notation lifts is the embedding. -/
@[simp] theorem liftM_eq_within (x : Except WireError α) :
    (liftM x : Strict α) = within x := rfl

/-- A value alone is within range. -/
@[simp] theorem pure_eq_within (a : α) : (pure a : Strict α) = within (.ok a) :=
  rfl

/-- **A result within range, and then another,** are one within range. If the
first is a fault then the second is not asked for, on both sides. -/
@[simp] theorem within_bind (x : Except WireError α)
    (f : α → Except WireError β) :
    (within x >>= fun a => within (f a)) = within (x >>= f) := by
  cases x <;> rfl

/-- A step that stays in range gives what comes behind it its value. -/
theorem bind_of_eq {x : Strict α} {a : α} (h : x = within (.ok a))
    (f : α → Strict β) :
    x >>= f = f a := by
  rw [h]
  rfl

/-- **A check has no range**: it throws its fault, or goes on with what is
within range. The continuation is asked only at the one value that a check
has, so this applies where the rest is known to be safe only here. -/
theorem guard_eq {c : Prop} [Decidable c] {e : WireError} {s : PUnit → Strict β}
    {k : PUnit → Except WireError β} (h : s ⟨⟩ = within (k ⟨⟩)) :
    (if c then throw e >>= s else s ⟨⟩)
      = within (if c then throw e >>= k else k ⟨⟩) := by
  by_cases hc : c
  · rw [if_pos hc, if_pos hc]
    rfl
  · rw [if_neg hc, if_neg hc, h]

/-- A function of what is within range is so too. -/
@[simp] theorem map_within (f : α → β) (x : Except WireError α) :
    f <$> within x = within (f <$> x) := by
  cases x <;> rfl

/-- A choice between two results within range is within range. -/
theorem ite_within {c : Prop} [Decidable c] (x y : Except WireError α) :
    (if c then within x else within y) = within (if c then x else y) :=
  (apply_ite within ..).symm

end Strict

namespace StrictReader

open Strict (within)

variable {α β : Type} {r : Reader α} {d : Bytes}

/-- A reader that stays within range. -/
def safe (r : Reader α) : StrictReader α := fun d => within (r d)

/-- A reader of the model has no step that could leave its range. -/
instance : MonadLift Reader StrictReader := ⟨safe⟩

/-- What `do` notation lifts of the model's readers is the embedding. -/
@[simp] theorem liftM_eq_safe (r : Reader α) :
    (liftM r : StrictReader α) = safe r := rfl

/-- A reader that takes nothing has no range to leave. -/
@[simp] theorem pure_eq_safe (a : α) :
    (pure a : StrictReader α) = safe (pure a) := rfl

/-- Nor has one that only reports a fault. -/
@[simp] theorem throw_eq_safe (e : WireError) :
    (throw e : StrictReader α) = safe (throw e) := rfl

/-- **Readers within range, one after the other,** are within range. What the
second one reads is what the first has left. -/
@[simp] theorem safe_bind (r : Reader α) (f : α → Reader β) :
    (safe r >>= fun a => safe (f a)) = safe (r >>= f) := by
  funext d
  show (within (r d) >>= fun p => within (f p.1 p.2))
    = within (r d >>= fun p => f p.1 p.2)
  exact Strict.within_bind ..

/-- A function of what a safe reader reads needs no range. -/
@[simp] theorem map_safe (f : α → β) (r : Reader α) :
    f <$> safe r = safe (f <$> r) := by
  funext d
  show (within (r d) >>= fun p => within (.ok (f p.1, p.2)))
    = within (r d >>= fun p => .ok (f p.1, p.2))
  exact Strict.within_bind ..

/-- A choice between two safe readers is safe. -/
theorem ite_safe {c : Prop} [Decidable c] (r s : Reader α) :
    (if c then safe r else safe s) = safe (if c then r else s) :=
  (apply_ite safe ..).symm

/-- A value that stands only where a flag says so. -/
def whenFlag (present : Bool) (s : StrictReader α) : StrictReader (Option α) :=
  if present then some <$> s else pure none

/-- A safe reader is safe where it stands under a flag. -/
@[simp] theorem whenFlag_safe (present : Bool) (r : Reader α) :
    whenFlag present (safe r) = safe (Reader.whenFlag present r) := by
  unfold whenFlag Reader.whenFlag
  rw [map_safe, pure_eq_safe, ite_safe]

/-- A result within range, among readers, is a reader that takes nothing. -/
@[simp] theorem liftM_within (x : Except WireError α) :
    (liftM (within x) : StrictReader α) = safe (liftM x) := by
  cases x <;> rfl

/-! ## Readers with their ranges -/

/-- The next `n` octets, split off once it is known that there are so many. -/
def bytes (n : Nat) (field : String) : StrictReader Bytes := fun d =>
  if d.length < n then throw (.endOfData field)
  else do
    let head ← Strict.upTo d n
    let tail ← Strict.onward d n
    pure (head, tail)

/-- A run of octets, copied into a place of the same length. -/
def array (n : Nat) (field : String) : StrictReader (Vector UInt8 n) := do
  let a ← bytes n field
  if h : a.toArray.size = n then pure ⟨a.toArray, h⟩
    else liftM (none : Option (Vector UInt8 n))

/-- A text up to the next zero octet, and what stands behind that octet. -/
def text (field : String) : StrictReader String := fun d =>
  match d.findIdx? (· == 0) with
  | none => throw (.endOfData field)
  | some i => do
    let octets ← Strict.upTo d i
    match Utf8.decode octets with
    | .error fault => throw (.invalidField field (.utf8 fault))
    | .ok s => do
      let rest ← Strict.onward d (i + 1)
      pure (s, rest)

/-- Nothing is left of the octets that were declared, or a report of how many
were read. -/
def finish (unit : String) (declared : Nat) (rest : Bytes) : Strict Unit :=
  if rest.isEmpty then pure ()
  else do
    let actual ← Strict.minus declared rest.length
    throw (.lengthMismatch unit declared actual)

/-- A payload that the reader has to use up. -/
def whole (unit : String) (r : StrictReader α) (d : Bytes) : Strict α := do
  let (a, rest) ← r d
  finish unit d.length rest
  pure a

/-- Units until nothing is left; a unit of no octets would be read for ever. -/
def many (r : StrictReader α) (d : Bytes) : Strict (List α) :=
  if d.isEmpty then pure []
  else do
    let (a, rest) ← r d
    if rest.length < d.length then (a :: ·) <$> many r rest
      else liftM (none : Option (List α))
termination_by d.length

/-- **A run of octets is split off within range**, since it is split off only
if there are so many. The model compares after it has cut, the strict reader
before; both report the same. -/
theorem bytes_eq (n : Nat) (field : String) :
    bytes n field = safe (Reader.bytes n field) := by
  funext d
  unfold bytes safe Reader.bytes Bytes.split?
  by_cases h : d.length < n
  · have htake : (d.take n).length ≠ n := by
      rw [List.length_take]
      omega
    rw [if_pos h, if_neg htake]
    rfl
  · have hle : n ≤ d.length := Nat.le_of_not_lt h
    rw [if_neg h, Strict.upTo_eq hle, Strict.onward_eq hle,
      if_pos (List.length_take_of_le hle)]
    rfl

/-- **A run of octets has the length of the place that it is copied into**,
which is the length that was asked for. -/
theorem array_eq (n : Nat) (field : String) :
    array n field = safe (Reader.array n field) := by
  funext d
  unfold array
  rw [bytes_eq]
  show (within (Reader.bytes n field d) >>= fun p : Bytes × Bytes =>
    (if h : p.1.toArray.size = n then pure ⟨p.1.toArray, h⟩
      else liftM (none : Option (Vector UInt8 n)) : StrictReader
        (Vector UInt8 n)) p.2) = _
  unfold safe Reader.array
  cases hbytes : Reader.bytes n field d with
  | error e => rfl
  | ok p =>
    -- What was read is as long as what it is copied into.
    obtain ⟨a, rest⟩ := p
    have hsize : a.toArray.size = n := (Reader.bytes_eq_ok.1 hbytes).1
    show (if h : a.toArray.size = n then pure ⟨a.toArray, h⟩
      else liftM (none : Option (Vector UInt8 n)) : StrictReader
        (Vector UInt8 n)) rest = _
    rw [dif_pos hsize]
    simp only [dif_pos hsize]
    rfl

/-- **A text is cut at a zero octet that was found.** The place behind it is
in the octets or at their end, so what is left is a slice within range. -/
theorem text_eq (field : String) : text field = safe (Reader.text field) := by
  funext d
  unfold text safe Reader.text
  rw [List.takeWhile_eq_take_findIdx_not, List.dropWhile_eq_drop_findIdx_not]
  simp only [bne, Bool.not_not]
  cases hi : d.findIdx? (· == 0) with
  | none =>
    rw [List.findIdx?_eq_none_iff_findIdx_eq] at hi
    rw [hi, List.drop_length]
    rfl
  | some i =>
    obtain ⟨hlt, hi⟩ := List.findIdx?_eq_some_iff_findIdx_eq.1 hi
    rw [hi, List.drop_eq_getElem_cons hlt]
    simp only [Strict.upTo_eq (Nat.le_of_lt hlt), Strict.onward_eq hlt]
    show (match Utf8.decode (d.take i) with
      | .error fault => throw (.invalidField field (.utf8 fault))
      | .ok s => pure (s, d.drop (i + 1)) : Strict (String × Bytes)) = _
    cases Utf8.decode (d.take i) <;> rfl

/-- A report of how many octets were read needs that no more are left than
were declared. -/
theorem finish_eq {unit : String} {declared : Nat} {rest : Bytes}
    (h : rest.length ≤ declared) :
    finish unit declared rest = within (match rest with
      | [] => .ok ()
      | b :: s =>
        .error (.lengthMismatch unit declared
          (declared - (b :: s).length))) := by
  unfold finish
  cases rest with
  | nil => rfl
  | cons b s =>
    rw [Strict.minus_eq h]
    rfl

/-- **What is declared is never less than what is left**, for a reader that
gives back no more than it was given. This is the only use of
`Reader.Bounded`, and without it a payload that is not used up would be
reported with a number that is no difference. -/
theorem whole_eq (unit : String) {r : Reader α} (hr : r.Bounded) (d : Bytes) :
    whole unit (safe r) d = within (Reader.whole unit r d) := by
  unfold whole safe Reader.whole
  cases h : r d with
  | error e => rfl
  | ok x =>
    obtain ⟨a, rest⟩ := x
    show (finish unit d.length rest >>= fun _ => pure a) = _
    rw [finish_eq (hr d a rest h)]
    cases rest <;> rfl

/-- The loop of the model, one round at a time. -/
theorem many_cons {r : Reader α} (h : r.Consumes) (b : UInt8) (s : Bytes) :
    Reader.many r h (b :: s)
      = r (b :: s) >>= fun x => (x.1 :: ·) <$> Reader.many r h x.2 := by
  rw [Reader.many]
  split
  · next e he =>
    rw [he]
    rfl
  · next a t ha =>
    dsimp only
    rw [ha]
    show _ = (a :: ·) <$> Reader.many r h t
    cases Reader.many r h t <;> rfl

/-- **Every unit brings the end closer**, if it takes at least one octet. By
induction on how many octets are left: the strict loop compares before it goes
on, and the model's loop has the comparison in its hypothesis. -/
theorem many_eq {r : Reader α} (h : r.Consumes) (d : Bytes) :
    many (safe r) d = within (Reader.many r h d) := by
  induction hn : d.length using Nat.strongRecOn generalizing d with
  | ind n ih =>
    subst hn
    rw [many]
    cases d with
    | nil =>
      rw [Reader.many]
      rfl
    | cons b s =>
      rw [many_cons, if_neg (by simp)]
      cases hr : r (b :: s) with
      | error e =>
        show (within (r (b :: s)) >>= _) = _
        rw [hr]
        rfl
      | ok x =>
        obtain ⟨a, rest⟩ := x
        have hless : rest.length < (b :: s).length := h _ a rest hr
        show (within (r (b :: s)) >>= _) = _
        rw [hr]
        show (if rest.length < (b :: s).length
          then (a :: ·) <$> many (safe r) rest
          else liftM (none : Option (List α)))
            = within ((a :: ·) <$> Reader.many r h rest)
        rw [if_pos hless, ih rest.length hless rest rfl, Strict.map_within]

end StrictReader

end Telematics
