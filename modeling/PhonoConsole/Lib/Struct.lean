/-
  PACKED RECORDS: fixed-width little-endian fields, as Python's `struct` packs them.

  A format is a list of field codes; a code has a number of bytes and says whether it is signed.
  The values of a format are the tuple of its fields, so a value for every code is there by type.

  * `leBytes`, `leNat`        — `w` little-endian digits in base 256, and the number they spell;
  * `Code.pack`, `Code.read`  — one field: two's complement within its width, an error outside it;
  * `pack`, `unpackFrom`      — a whole format: packed front to back, read from the front;
  * `unpackFrom_bytes`, `bytes_unpackFrom` — the two round trips, for every format: reading undoes
    packing whatever follows, and packing what was read gives back exactly the bytes read.
-/
import Mathlib.Tactic.Ring
import Mathlib.Data.Nat.Basic

namespace Struct

/-- A string of bytes. -/
abbrev Bytes := List UInt8

/-! ## Little-endian digits -/

/-- The `w` lowest digits of `n` in base 256, lowest first. -/
def leBytes : Nat → Nat → Bytes
  | 0, _ => []
  | w + 1, n => UInt8.ofNat n :: leBytes w (n / 256)

/-- The number that little-endian digits spell. -/
def leNat : Bytes → Nat
  | [] => 0
  | b :: bs => b.toNat + 256 * leNat bs

@[simp] theorem length_leBytes (w n : Nat) : (leBytes w n).length = w := by
  induction w generalizing n with
  | zero => rfl
  | succ w ih => simp [leBytes, ih]

theorem leNat_lt (bs : Bytes) : leNat bs < 256 ^ bs.length := by
  induction bs with
  | nil => simp [leNat]
  | cons b bs ih =>
    have hb : b.toNat < 256 := b.toNat_lt
    have hpow : 256 ^ (b :: bs).length = 256 * 256 ^ bs.length := by
      rw [List.length_cons, Nat.pow_succ, Nat.mul_comm]
    show b.toNat + 256 * leNat bs < _
    omega

/-- Digits spell the number they are the digits of, up to the width. -/
theorem leNat_leBytes (w n : Nat) : leNat (leBytes w n) = n % 256 ^ w := by
  induction w generalizing n with
  | zero => simp [leBytes, leNat, Nat.mod_one]
  | succ w ih =>
    have hlow : (UInt8.ofNat n).toNat = n % 256 := by simp
    show (UInt8.ofNat n).toNat + 256 * leNat (leBytes w (n / 256)) = _
    rw [ih, hlow, Nat.pow_succ, Nat.mul_comm (256 ^ w), Nat.mod_mul]

/-- Digits are determined by the number they spell. -/
theorem leBytes_leNat (bs : Bytes) : leBytes bs.length (leNat bs) = bs := by
  induction bs with
  | nil => rfl
  | cons b bs ih =>
    have hb : b.toNat < 256 := b.toNat_lt
    have hdiv : (b.toNat + 256 * leNat bs) / 256 = leNat bs := by omega
    have hlow : UInt8.ofNat (b.toNat + 256 * leNat bs) = b := by
      apply UInt8.toNat_inj.mp
      simp
    show UInt8.ofNat (b.toNat + 256 * leNat bs) ::
      leBytes bs.length ((b.toNat + 256 * leNat bs) / 256) = b :: bs
    rw [hdiv, hlow, ih]

/-! ## One field -/

/-- A format character: the bytes it takes, and whether its numbers are signed. -/
structure Code where
  size : Nat
  signed : Bool := false
deriving DecidableEq

/-- The numbers a field can carry. -/
def Code.Fits (c : Code) (v : Int) : Prop :=
  if c.signed then -(256 ^ c.size : Nat) ≤ 2 * v ∧ 2 * v < (256 ^ c.size : Nat)
  else 0 ≤ v ∧ v < (256 ^ c.size : Nat)

instance (c : Code) (v : Int) : Decidable (c.Fits v) := by
  unfold Code.Fits
  exact inferInstance

/-- The bytes of one field: its number modulo the width. -/
def Code.bytes (c : Code) (v : Int) : Bytes :=
  leBytes c.size (v % (256 ^ c.size : Nat)).toNat

/-- Packing one field; a number that does not fit is an error. -/
def Code.pack (c : Code) (v : Int) : Option Bytes :=
  if c.Fits v then some (c.bytes v) else none

/-- The number that the bytes of a field stand for. -/
def Code.read (c : Code) (bs : Bytes) : Int :=
  if c.signed ∧ 256 ^ c.size ≤ 2 * leNat bs then leNat bs - (256 ^ c.size : Nat) else leNat bs

@[simp] theorem Code.length_bytes (c : Code) (v : Int) : (c.bytes v).length = c.size :=
  length_leBytes _ _

theorem Code.pack_eq_some {c : Code} {v : Int} {bs : Bytes} :
    c.pack v = some bs ↔ c.Fits v ∧ c.bytes v = bs := by
  unfold Code.pack
  split <;> simp_all

/-- Reading undoes packing: a number that fits is the one its bytes stand for. -/
theorem Code.read_bytes {c : Code} {v : Int} (h : c.Fits v) : c.read (c.bytes v) = v := by
  have hpos : 0 < 256 ^ c.size := Nat.pow_pos (by decide)
  have hnat : (leNat (c.bytes v) : Int) = v % (256 ^ c.size : Nat) := by
    have hlt : v % (256 ^ c.size : Nat) < (256 ^ c.size : Nat) := Int.emod_lt_of_pos _ (by omega)
    have hge : 0 ≤ v % (256 ^ c.size : Nat) := Int.emod_nonneg _ (by omega)
    rw [Code.bytes, leNat_leBytes, Nat.mod_eq_of_lt (by omega)]
    omega
  unfold Code.Fits at h
  unfold Code.read
  generalize 256 ^ c.size = m at *
  generalize leNat (c.bytes v) = n at *
  cases hs : c.signed with
  | false =>
    simp only [hs, Bool.false_eq_true, if_false, false_and] at h ⊢
    rw [hnat, Int.emod_eq_of_lt h.1 h.2]
  | true =>
    simp only [hs, if_true, true_and] at h ⊢
    rcases lt_or_ge v 0 with hneg | hnn
    · have hmod : v % (m : Int) = v + m := by
        rw [← Int.add_emod_right, Int.emod_eq_of_lt (by omega) (by omega)]
      rw [if_pos (by omega)]
      omega
    · have hmod : v % (m : Int) = v := Int.emod_eq_of_lt hnn (by omega)
      rw [if_neg (by omega)]
      omega

/-- What is read from a field's bytes fits the field. -/
theorem Code.fits_read {c : Code} {bs : Bytes} (h : bs.length = c.size) : c.Fits (c.read bs) := by
  have hlt : leNat bs < 256 ^ c.size := h ▸ leNat_lt bs
  unfold Code.Fits Code.read
  generalize 256 ^ c.size = m at *
  cases hs : c.signed with
  | false => simp only [Bool.false_eq_true, if_false, false_and]; omega
  | true =>
    simp only [if_true, true_and]
    split <;> omega

/-- Packing undoes reading. -/
theorem Code.bytes_read {c : Code} {bs : Bytes} (h : bs.length = c.size) :
    c.bytes (c.read bs) = bs := by
  have hlt : leNat bs < 256 ^ c.size := h ▸ leNat_lt bs
  have hmod : (c.read bs % (256 ^ c.size : Nat)).toNat = leNat bs := by
    unfold Code.read
    generalize 256 ^ c.size = m at *
    split
    · rw [Int.sub_emod_right, Int.emod_eq_of_lt (by omega) (by omega)]
      rfl
    · rw [Int.emod_eq_of_lt (by omega) (by omega)]
      rfl
  rw [Code.bytes, hmod, ← h]
  exact leBytes_leNat bs

/-! ## Whole formats -/

/-- The tuple of a format's fields. -/
@[reducible] def Values : List Code → Type
  | [] => Unit
  | _ :: cs => Int × Values cs

/-- The bytes of a whole record. -/
def size : List Code → Nat
  | [] => 0
  | c :: cs => c.size + size cs

/-- Every field fits its code. -/
def Fits : (cs : List Code) → Values cs → Prop
  | [], _ => True
  | c :: cs, (v, vs) => c.Fits v ∧ Fits cs vs

/-- The bytes of the fields, in their order. -/
def bytes : (cs : List Code) → Values cs → Bytes
  | [], _ => []
  | c :: cs, (v, vs) => c.bytes v ++ bytes cs vs

/-- `struct.pack`: an error when some field does not fit. -/
def pack : (cs : List Code) → Values cs → Option Bytes
  | [], _ => some []
  | c :: cs, (v, vs) => do return (← c.pack v) ++ (← pack cs vs)

/-- `struct.unpack_from`: the fields at the front of a buffer, an error when it is too short. -/
def unpackFrom : (cs : List Code) → Bytes → Option (Values cs)
  | [], _ => some ()
  | c :: cs, bs =>
      if bs.length < c.size then none
      else (unpackFrom cs (bs.drop c.size)).map fun vs => (c.read (bs.take c.size), vs)

theorem length_bytes : ∀ (cs : List Code) (vs : Values cs), (bytes cs vs).length = size cs
  | [], _ => rfl
  | c :: cs, (v, vs) => by
      rw [bytes, size, List.length_append, Code.length_bytes, length_bytes cs vs]

/-- Packing succeeds exactly on the values that fit, with the fields' bytes. -/
theorem pack_eq_some {cs : List Code} {vs : Values cs} {bs : Bytes} :
    pack cs vs = some bs ↔ Fits cs vs ∧ bytes cs vs = bs := by
  induction cs generalizing bs with
  | nil => simp [pack, Fits, bytes]
  | cons c cs ih =>
    obtain ⟨v, vs⟩ := vs
    constructor
    · intro h
      obtain ⟨b, hb, h⟩ := Option.bind_eq_some_iff.mp h
      obtain ⟨r, hr, h⟩ := Option.bind_eq_some_iff.mp h
      obtain ⟨hfit, rfl⟩ := Code.pack_eq_some.mp hb
      obtain ⟨hfits, rfl⟩ := ih.mp hr
      exact ⟨⟨hfit, hfits⟩, by simpa [bytes] using h⟩
    · rintro ⟨⟨hfit, hfits⟩, rfl⟩
      have hb : c.pack v = some (c.bytes v) := Code.pack_eq_some.mpr ⟨hfit, rfl⟩
      have hr : pack cs vs = some (bytes cs vs) := ih.mpr ⟨hfits, rfl⟩
      simp [pack, hb, hr, bytes]

/-- Reading undoes packing, whatever follows the record. -/
theorem unpackFrom_bytes : ∀ {cs : List Code} {vs : Values cs} (rest : Bytes),
    Fits cs vs → unpackFrom cs (bytes cs vs ++ rest) = some vs
  | [], _, _, _ => rfl
  | c :: cs, (v, vs), rest, ⟨hfit, hfits⟩ => by
      have hlen : ¬ (c.bytes v ++ (bytes cs vs ++ rest)).length < c.size := by
        rw [List.length_append, Code.length_bytes]
        omega
      have htake : (c.bytes v ++ (bytes cs vs ++ rest)).take c.size = c.bytes v :=
        List.take_left' (c.length_bytes v)
      have hdrop : (c.bytes v ++ (bytes cs vs ++ rest)).drop c.size = bytes cs vs ++ rest :=
        List.drop_left' (c.length_bytes v)
      rw [bytes, List.append_assoc, unpackFrom, if_neg hlen, htake, hdrop,
        unpackFrom_bytes rest hfits, Code.read_bytes hfit]
      rfl

/-- What is read from a buffer fits the format, and its bytes are the ones read. -/
theorem bytes_unpackFrom {cs : List Code} {bs : Bytes} {vs : Values cs}
    (h : unpackFrom cs bs = some vs) : Fits cs vs ∧ bytes cs vs = bs.take (size cs) := by
  induction cs generalizing bs with
  | nil => exact ⟨trivial, by simp [bytes, size]⟩
  | cons c cs ih =>
    rw [unpackFrom] at h
    split at h
    · exact nomatch h
    · rename_i hlen
      obtain ⟨vs', hvs', rfl⟩ := Option.map_eq_some_iff.mp h
      obtain ⟨hfits, hbytes⟩ := ih hvs'
      have htake : (bs.take c.size).length = c.size := by
        rw [List.length_take]
        omega
      refine ⟨⟨Code.fits_read htake, hfits⟩, ?_⟩
      rw [bytes, Code.bytes_read htake, hbytes, size, List.take_add]

/-- A buffer that is long enough can be read. -/
theorem unpackFrom_isSome {cs : List Code} {bs : Bytes} (h : size cs ≤ bs.length) :
    ∃ vs, unpackFrom cs bs = some vs := by
  induction cs generalizing bs with
  | nil => exact ⟨(), rfl⟩
  | cons c cs ih =>
    have hlen : c.size + size cs ≤ bs.length := h
    have hrest : size cs ≤ (bs.drop c.size).length := by
      rw [List.length_drop]
      omega
    obtain ⟨vs, hvs⟩ := ih hrest
    refine ⟨(c.read (bs.take c.size), vs), ?_⟩
    rw [unpackFrom, if_neg (by omega), hvs]
    rfl

end Struct
