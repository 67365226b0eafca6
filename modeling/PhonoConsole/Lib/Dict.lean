/-
  DICTIONARIES as lists of entries, of which the first with a key is the one that counts.

  * `get`, `update`, `keep` — `dict.get`, `dict.update`, and the entries whose keys meet a condition;
  * `Same` — equality of dictionaries, which is decided on their keys (`same_iff_on_keys`).
-/
import Mathlib.Data.List.Basic

/-- A dictionary in the order of its insertions. -/
abbrev Dict (κ ν : Type) := List (κ × ν)

namespace Dict

variable {κ ν : Type} [DecidableEq κ] {d d' values : Dict κ ν}

/-- The value of a key. -/
def get (d : Dict κ ν) (key : κ) : Option ν := d.lookup key

/-- The keys, in order. -/
def keys (d : Dict κ ν) : List κ := d.map Prod.fst

/-- `d.update(values)`. -/
def update (d values : Dict κ ν) : Dict κ ν := values ++ d

/-- `{key: value for key, value in d.items() if p(key)}`. -/
def keep (p : κ → Bool) (d : Dict κ ν) : Dict κ ν := d.filter fun e => p e.1

/-- `d == d'`. -/
def Same (d d' : Dict κ ν) : Prop := ∀ key, get d key = get d' key

@[simp] theorem get_nil (key : κ) : get ([] : Dict κ ν) key = none := rfl

theorem get_cons (e : κ × ν) (d : Dict κ ν) (key : κ) :
    get (e :: d) key = if key = e.1 then some e.2 else get d key := by
  show List.lookup key (e :: d) = _
  rw [List.lookup_cons]
  split
  · rename_i h
    rw [if_pos (beq_iff_eq.mp h)]
  · rename_i h
    rw [if_neg (beq_eq_false_iff_ne.mp h)]
    rfl

theorem get_update (d values : Dict κ ν) (key : κ) :
    get (update d values) key = (get values key).or (get d key) := by
  induction values with
  | nil => rfl
  | cons e values ih =>
    show get (e :: update d values) key = _
    rw [get_cons, get_cons, ih]
    split <;> rfl

theorem get_keep (p : κ → Bool) (d : Dict κ ν) (key : κ) :
    get (keep p d) key = if p key then get d key else none := by
  induction d with
  | nil => exact (ite_self _).symm
  | cons e d ih =>
    unfold keep at ih ⊢
    rw [List.filter_cons, get_cons]
    split
    · rename_i he
      rw [get_cons, ih]
      split
      · rename_i hkey
        rw [if_pos (hkey ▸ he)]
      · rfl
    · rename_i he
      rw [ih]
      split
      · rename_i hkey
        rw [if_neg]
        rintro rfl
        exact he hkey
      · rfl

theorem get_eq_none {key : κ} (h : ∀ e ∈ d, e.1 ≠ key) : get d key = none := by
  induction d with
  | nil => rfl
  | cons e d ih =>
    rw [get_cons, if_neg (h e List.mem_cons_self).symm]
    exact ih fun a ha => h a (List.mem_cons_of_mem e ha)

theorem get_of_not_mem_keys {key : κ} (h : key ∉ keys d) : get d key = none :=
  get_eq_none fun _ he heq => h (heq ▸ List.mem_map_of_mem he)

theorem same_iff_on_keys : Same d d' ↔ ∀ key ∈ keys d ++ keys d', get d key = get d' key := by
  refine ⟨fun h key _ => h key, fun h key => ?_⟩
  by_cases hkey : key ∈ keys d ++ keys d'
  · exact h key hkey
  · obtain ⟨hd, hd'⟩ := not_or.mp (List.mem_append.not.mp hkey)
    rw [get_of_not_mem_keys hd, get_of_not_mem_keys hd']

instance [DecidableEq ν] (d d' : Dict κ ν) : Decidable (Same d d') :=
  decidable_of_iff _ same_iff_on_keys.symm

end Dict
