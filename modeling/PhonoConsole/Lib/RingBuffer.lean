/-
  RING BUFFERS of a fixed size that overwrite their oldest item.

  A ring keeps its slots, where the next item goes and how many slots are in use; a reader that does
  not care about the order reads the slots in use from the first on.

  * `RingBuffer.push`     — the next slot takes the item, and the count saturates;
  * `Holds`         — the ring holds the end of what was pushed, each item at its number modulo the
    size; `Holds.push` keeps it;
  * `contents_rotate`, `contents_perm` — so the slots in use are the last items, in a rotated order.
-/
import Mathlib.Data.List.Rotate

/-- Slots, the index of the next one to be written, and how many have been written. -/
structure RingBuffer (α : Type) where
  slots : Nat → α
  count : Nat
  next : Nat

namespace RingBuffer

variable {α : Type} {size : Nat} {r : RingBuffer α} {l : List α} {a : α}

/-- Write the next slot of a ring of this size. -/
def push (size : Nat) (r : RingBuffer α) (a : α) : RingBuffer α where
  slots i := if i = r.next then a else r.slots i
  next := (r.next + 1) % size
  count := if r.count < size then r.count + 1 else r.count

/-- The slots in use, in the order of their indices. -/
def contents (r : RingBuffer α) : List α := (List.range r.count).map r.slots

@[simp] theorem length_contents (r : RingBuffer α) : r.contents.length = r.count := by simp [contents]

/-- The items pushed are `l`, and the ring holds as many of the last of them as it has slots. -/
structure Holds (size : Nat) (r : RingBuffer α) (l : List α) : Prop where
  count : r.count = min l.length size
  next : r.next = l.length % size
  slot : ∀ k a, l[k]? = some a → l.length ≤ k + size → r.slots (k % size) = a

theorem holds_nil {slots : Nat → α} : Holds size ⟨slots, 0, 0⟩ [] where
  count := (Nat.zero_min size).symm
  next := (Nat.zero_mod size).symm
  slot _ _ h := nomatch h

/-- Two numbers less than the size apart have different remainders. -/
theorem mod_ne {k n : Nat} (hlt : k < n) (hnear : n < k + size) : k % size ≠ n % size := by
  intro heq
  have hzero : (n - k) % size = 0 := Nat.sub_mod_eq_zero_of_mod_eq heq.symm
  rw [Nat.mod_eq_of_lt (by omega)] at hzero
  omega

theorem Holds.push (h : Holds size r l) (a : α) : Holds size (r.push size a) (l ++ [a]) where
  count := by
    have hcount := h.count
    rw [List.length_append, List.length_singleton]
    unfold RingBuffer.push
    dsimp only
    split <;> omega
  next := by
    rw [List.length_append, List.length_singleton]
    show (r.next + 1) % size = _
    rw [h.next, Nat.mod_add_mod]
  slot k b hk hin := by
    rw [List.length_append, List.length_singleton] at hin
    show (if k % size = r.next then a else r.slots (k % size)) = b
    rw [h.next]
    rcases Nat.lt_trichotomy k l.length with hlt | rfl | hgt
    · -- an item that stays: its slot is not the one overwritten
      rw [List.getElem?_append_left hlt] at hk
      rw [if_neg (mod_ne hlt (by omega))]
      exact h.slot k b hk (by omega)
    · rw [List.getElem?_concat_length] at hk
      rw [if_pos rfl]
      exact Option.some.inj hk
    · rw [List.getElem?_eq_none (by simp; omega)] at hk
      cases hk

/-- A sequence of pushes. -/
theorem Holds.foldl (h : Holds size r l) (items : List α) :
    Holds size (items.foldl (RingBuffer.push size) r) (l ++ items) := by
  induction items generalizing r l with
  | nil => simpa using h
  | cons a rest ih =>
    rw [List.foldl_cons, List.append_cons]
    exact ih (h.push a)

/-- From the next slot on, the slots in use are the last items in their order. -/
theorem Holds.contents_rotate (h : Holds size r l) :
    r.contents.rotate r.next = l.drop (l.length - size) := by
  have hcount := h.count
  refine List.ext_getElem (by simp; omega) fun i hi hi' => ?_
  have hi : i < r.count := by simpa using hi
  have hindex : (i + r.next) % r.count = (l.length - size + i) % size := by
    rw [h.next]
    rcases Nat.lt_or_ge l.length size with hroom | hfull
    · rw [Nat.mod_eq_of_lt hroom, show r.count = l.length by omega, Nat.add_mod_right,
        Nat.mod_eq_of_lt (by omega), Nat.mod_eq_of_lt (by omega)]
      omega
    · rw [show r.count = size by omega, Nat.add_mod_mod,
        show i + l.length = l.length - size + i + size by omega, Nat.add_mod_right]
  rw [List.getElem_rotate, List.getElem_drop]
  simp only [contents, List.getElem_map, List.getElem_range, List.length_map, List.length_range]
  rw [hindex]
  exact h.slot _ _ (List.getElem?_eq_getElem _) (by omega)

theorem Holds.contents_perm (h : Holds size r l) : r.contents.Perm (l.drop (l.length - size)) := by
  rw [← h.contents_rotate]
  exact (List.rotate_perm _ _).symm

end RingBuffer
