import Telematics.Wire.Reader

/-!
# What a writer yields

A unit is written by joining lists of octets, and writing stops at the first
value that does not fit. The statements below say when the checks pass and
what a sequence of steps yields if all of them do, so that the writer of a
payload is opened into the bounds on its fields and the octets it joins.

A sequence of units is cut again where no unit is the front of another
(`PrefixFree`). That the units are not empty has to be said beside it: an
empty unit is the front of everything, and where one could stand, so could two
of them.
-/

namespace Telematics.Writing

variable {ε α β : Type}

/-- What is written can be compared. -/
instance decidableEqExcept [DecidableEq ε] [DecidableEq α] :
    DecidableEq (Except ε α)
  | .ok a, .ok b => decidable_of_iff (a = b) (by simp)
  | .error a, .error b => decidable_of_iff (a = b) (by simp)
  | .ok _, .error _ => isFalse nofun
  | .error _, .ok _ => isFalse nofun

/-- Two steps yield something if both do. -/
theorem bind_eq_ok {x : Except ε α} {f : α → Except ε β} {b : β} :
    (x >>= f) = .ok b ↔ ∃ a, x = .ok a ∧ f a = .ok b := by
  cases x with
  | error e =>
    constructor
    · intro h
      cases h
    · rintro ⟨a, h, -⟩
      cases h
  | ok a =>
    constructor
    · intro h
      exact ⟨a, rfl, h⟩
    · rintro ⟨a, h, hf⟩
      cases h
      exact hf

/-- What is made of a result is yielded where the result is. -/
theorem map_eq_ok {x : Except ε α} {f : α → β} {b : β} :
    (f <$> x) = .ok b ↔ ∃ a, x = .ok a ∧ f a = b := by
  cases x with
  | error e =>
    constructor
    · intro h
      cases h
    · rintro ⟨a, h, -⟩
      cases h
  | ok a =>
    show Except.ok (f a) = Except.ok b ↔ _
    simp

/-- What is made of a result that is known. -/
theorem map_of_eq_ok {x : Except ε α} {f : α → β} {a : α} (h : x = .ok a) :
    f <$> x = .ok (f a) :=
  map_eq_ok.2 ⟨a, h, rfl⟩

@[simp] theorem pure_eq_ok {a b : α} :
    (pure a : Except ε α) = .ok b ↔ a = b := by
  show Except.ok a = Except.ok b ↔ _
  rw [Except.ok.injEq]

theorem guard_eq_ok {c : Prop} [Decidable c] {e : ε} {k : PUnit → Except ε α}
    {a : α} :
    (if c then throw e >>= k else k ⟨⟩) = .ok a ↔ ¬ c ∧ k ⟨⟩ = .ok a := by
  by_cases hc : c
  · rw [if_pos hc]
    constructor
    · intro h
      cases h
    · rintro ⟨h, -⟩
      exact absurd hc h
  · rw [if_neg hc]
    exact (and_iff_right hc).symm

theorem mapM_nil_eq_ok {f : α → Except ε β} {cs : List β} :
    ([] : List α).mapM f = .ok cs ↔ cs = [] := by
  rw [List.mapM_nil, pure_eq_ok, eq_comm]

/-- A list is written if its head and its tail are. -/
theorem mapM_cons_eq_ok {f : α → Except ε β} {a : α} {as : List α}
    {cs : List β} :
    (a :: as).mapM f = .ok cs
      ↔ ∃ b bs, f a = .ok b ∧ as.mapM f = .ok bs ∧ cs = b :: bs := by
  rw [List.mapM_cons, bind_eq_ok]
  constructor
  · rintro ⟨b, hb, h⟩
    obtain ⟨bs, hbs, h⟩ := bind_eq_ok.1 h
    exact ⟨b, bs, hb, hbs, (pure_eq_ok.1 h).symm⟩
  · rintro ⟨b, bs, hb, hbs, rfl⟩
    exact ⟨b, hb, bind_eq_ok.2 ⟨bs, hbs, rfl⟩⟩

/-- As many units are written as there are values. -/
theorem length_of_mapM {f : α → Except ε β} {as : List α} {bs : List β}
    (h : as.mapM f = .ok bs) : bs.length = as.length := by
  induction as generalizing bs with
  | nil =>
    rw [mapM_nil_eq_ok.1 h]
    rfl
  | cons a as ih =>
    obtain ⟨b, rest, -, hrest, rfl⟩ := mapM_cons_eq_ok.1 h
    rw [List.length_cons, List.length_cons, ih hrest]

/-! ## Units and what they stand for

A unit on the wire stands for a value, and a value that was read from one is
written as one. The two statements say what that makes of a list of units:
which lists are written, and which units a list that was written has. -/

variable {υ : Type} {value : υ → Except ε α} {encode : α → Except ε (List β)}
  {write : υ → List β}

/-- Values that units stand for are written as some units. -/
theorem flatten_mapM_of_values {bound : υ → Prop}
    (h : ∀ x a, value x = .ok a → ∀ w, encode a = .ok w ↔ bound x ∧ w = write x)
    {xs : List υ} {as : List α} (hxs : xs.mapM value = .ok as) {d : List β} :
    List.flatten <$> as.mapM encode = .ok d
      ↔ (∀ x ∈ xs, bound x) ∧ d = xs.flatMap write := by
  rw [map_eq_ok]
  induction xs generalizing as d with
  | nil =>
    obtain rfl := mapM_nil_eq_ok.1 hxs
    simp only [mapM_nil_eq_ok]
    simp [eq_comm]
  | cons x xs ih =>
    obtain ⟨a, as, hx, hvalues, rfl⟩ := mapM_cons_eq_ok.1 hxs
    constructor
    · rintro ⟨_, hws, rfl⟩
      obtain ⟨w, ws, hw, hrest, rfl⟩ := mapM_cons_eq_ok.1 hws
      obtain ⟨hb, rfl⟩ := (h x a hx w).1 hw
      obtain ⟨hbs, hd⟩ := (ih hvalues).1 ⟨ws, hrest, rfl⟩
      exact ⟨List.forall_mem_cons.2 ⟨hb, hbs⟩,
        by rw [List.flatten_cons, hd, List.flatMap_cons]⟩
    · rintro ⟨hbound, rfl⟩
      obtain ⟨hb, hbs⟩ := List.forall_mem_cons.1 hbound
      obtain ⟨ws, hrest, hd⟩ := (ih hvalues).2 ⟨hbs, rfl⟩
      refine ⟨write x :: ws, mapM_cons_eq_ok.2
        ⟨_, ws, (h x a hx _).2 ⟨hb, rfl⟩, hrest, rfl⟩, ?_⟩
      rw [List.flatten_cons, hd, List.flatMap_cons]

/-- **Values within a bound, written one after the other**, are joined. One
that is out of bounds keeps all the others from being written. -/
theorem flatten_mapM_eq_ok {bound : α → Prop} {write : α → List β}
    (h : ∀ a w, encode a = .ok w ↔ bound a ∧ w = write a) {as : List α}
    {d : List β} :
    List.flatten <$> as.mapM encode = .ok d
      ↔ (∀ a ∈ as, bound a) ∧ d = as.flatMap write := by
  -- Every value stands for itself.
  have has : as.mapM (pure : α → Except ε α) = pure (as.map id) :=
    List.mapM_pure
  rw [List.map_id] at has
  refine flatten_mapM_of_values (fun x a hx => ?_) has
  obtain rfl := pure_eq_ok.1 hx
  exact h x

/-- Values that are written as units are what some units stand for. -/
theorem exists_units_of_flatten_mapM {as : List α}
    (h : ∀ a ∈ as, ∀ w, encode a = .ok w → ∃ x, value x = .ok a ∧ write x = w)
    {d : List β} (hd : List.flatten <$> as.mapM encode = .ok d) :
    ∃ xs : List υ, xs.mapM value = .ok as ∧ xs.flatMap write = d := by
  rw [map_eq_ok] at hd
  obtain ⟨ws, hws, rfl⟩ := hd
  induction as generalizing ws with
  | nil =>
    obtain rfl := mapM_nil_eq_ok.1 hws
    exact ⟨[], mapM_nil_eq_ok.2 rfl, rfl⟩
  | cons a as ih =>
    obtain ⟨ha, has⟩ := List.forall_mem_cons.1 h
    obtain ⟨w, rest, hw, hrest, rfl⟩ := mapM_cons_eq_ok.1 hws
    obtain ⟨x, hx, rfl⟩ := ha w hw
    obtain ⟨xs, hxs, hflat⟩ := ih has rest hrest
    refine ⟨x :: xs, mapM_cons_eq_ok.2 ⟨a, as, hx, hxs, rfl⟩, ?_⟩
    rw [List.flatMap_cons, hflat, List.flatten_cons]

/-- Units that keep their sizes keep that of a sequence. -/
theorem length_flatMap_map {f : υ → υ}
    (h : ∀ x, (write (f x)).length = (write x).length) (xs : List υ) :
    ((xs.map f).flatMap write).length = (xs.flatMap write).length := by
  induction xs with
  | nil => rfl
  | cons x xs ih =>
    rw [List.map_cons, List.flatMap_cons, List.flatMap_cons, List.length_append,
      List.length_append, ih, h]

/-- An optional unit of one size. -/
theorem length_elim {k : Nat} (h : ∀ x, (write x).length = k) (o : Option υ) :
    (o.elim [] write).length = k * o.isSome.toNat := by
  cases o with
  | none => rfl
  | some x => exact (h x).trans (Nat.mul_one k).symm

/-- Units of one size, one after the other. -/
theorem length_flatMap_of_forall {k : Nat} (h : ∀ x, (write x).length = k)
    (xs : List υ) :
    (xs.flatMap write).length = k * xs.length := by
  induction xs with
  | nil => rfl
  | cons x xs ih =>
    rw [List.length_cons, List.flatMap_cons, List.length_append,
      Nat.mul_succ, ih, h]
    exact Nat.add_comm ..

/-- Units of a least size, one after the other. -/
theorem mul_length_le_length_flatMap {k : Nat} (h : ∀ x, k ≤ (write x).length)
    (xs : List υ) :
    k * xs.length ≤ (xs.flatMap write).length := by
  induction xs with
  | nil => exact Nat.le_refl _
  | cons x xs ih =>
    rw [List.length_cons, List.flatMap_cons, List.length_append, Nat.mul_succ]
    have := h x
    omega

/-- A list is its own image if each of its members is. -/
theorem map_eq_self_iff {f : α → α} {as : List α} :
    as.map f = as ↔ ∀ a ∈ as, f a = a := by
  have h : as.map f = as.map id ↔ ∀ a ∈ as, f a = id a := List.map_inj_left
  rwa [List.map_id] at h

/-- A unit can be split off the front of what follows it. -/
def PrefixFree (write : υ → List β) : Prop :=
  ∀ x y s t, write x ++ s = write y ++ t → x = y ∧ s = t

/-- **A sequence of such units can be cut in one way only.** By induction: the
first units of two cuts are the same, and then what is left is. -/
theorem PrefixFree.flatMap_injective (h : PrefixFree write)
    (hne : ∀ x, write x ≠ []) {xs ys : List υ}
    (heq : xs.flatMap write = ys.flatMap write) : xs = ys := by
  induction xs generalizing ys with
  | nil =>
    cases ys with
    | nil => rfl
    | cons y ys => exact absurd (List.append_eq_nil_iff.1 heq.symm).1 (hne y)
  | cons x xs ih =>
    cases ys with
    | nil => exact absurd (List.append_eq_nil_iff.1 heq).1 (hne x)
    | cons y ys =>
      rw [List.flatMap_cons, List.flatMap_cons] at heq
      obtain ⟨rfl, hrest⟩ := h x y _ _ heq
      rw [ih hrest]

/-! ## Checks -/

/-- A value has room in its bits. -/
@[simp] theorem fitBits_eq_ok {field : String} {value bits : Nat} {u : Unit} :
    fitBits field value bits = .ok u ↔ value < Nat.pow 2 bits := by
  unfold fitBits
  split <;> simp_all

/-- A length has room in sixteen bits. -/
theorem fitLength_eq_ok {unit : String} {size : Nat} {w : UInt16} :
    fitLength unit size = .ok w ↔ size ≤ 65535 ∧ w = UInt16.ofNat size := by
  unfold fitLength
  split
  · next h => simp [h, eq_comm]
  · next h => simp [h]

end Telematics.Writing
