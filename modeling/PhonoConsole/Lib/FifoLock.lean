/-
  A FIFO LOCK with hand-over, as `asyncio.Lock` behaves.

  A free lock is taken at once, without suspending.  A taken lock queues its callers in arrival
  order, and a release hands it to the first of them: between the release and the moment that
  task runs again nobody else can take the lock, because an acquirer that finds waiters queues
  behind them.  So the holder below may be a task that has not been resumed yet.

  That a free lock has no waiters is part of the type.
-/

/-- A lock with the tasks queued for it; `holder` owns it, or has been handed it. -/
structure FifoLock (ι : Type) where
  holder : Option ι := none
  waiters : List ι := []
  idle : holder = none → waiters = [] := by simp

namespace FifoLock

variable {ι : Type}

/-- A lock that nobody has asked for. -/
def unlocked : FifoLock ι := {}

/-- `acquire`: take the free lock, or queue. -/
def acquire (l : FifoLock ι) (i : ι) : FifoLock ι :=
  match l.holder with
  | none => ⟨some i, [], nofun⟩
  | some h => ⟨some h, l.waiters ++ [i], nofun⟩

/-- `release`: hand the lock to the first waiter. -/
def release (l : FifoLock ι) : FifoLock ι :=
  match l.waiters with
  | [] => ⟨none, [], fun _ => rfl⟩
  | i :: rest => ⟨some i, rest, nofun⟩

/-- A queued task that is cancelled leaves the queue; one that was handed the lock passes it on. -/
def leave [DecidableEq ι] (l : FifoLock ι) (i : ι) : FifoLock ι :=
  if l.holder = some i then l.release
  else ⟨l.holder, l.waiters.filter (· ≠ i), fun h => by rw [l.idle h]; rfl⟩

/-- Nobody holds the lock. -/
def free (l : FifoLock ι) : Bool := l.holder.isNone

theorem acquire_of_free {l : FifoLock ι} {i : ι} (h : l.free = true) :
    (l.acquire i).holder = some i := by
  have hnone : l.holder = none := Option.isNone_iff_eq_none.mp h
  unfold acquire
  split
  · rfl
  · rename_i hsome
    rw [hnone] at hsome
    exact nomatch hsome

theorem acquire_of_not_free {l : FifoLock ι} {i : ι} (h : l.free = false) :
    (l.acquire i).holder = l.holder ∧ (l.acquire i).waiters = l.waiters ++ [i] := by
  unfold acquire
  split
  · rename_i hnone
    rw [free, hnone] at h
    exact nomatch h
  · rename_i hsome
    exact ⟨hsome.symm, rfl⟩

/-! ## The queue -/

/-- The holder and, behind it, everybody who waits. -/
def queue (l : FifoLock ι) : List ι := l.holder.toList ++ l.waiters

theorem head?_queue (l : FifoLock ι) : l.queue.head? = l.holder := by
  unfold queue
  cases h : l.holder with
  | none => simp [l.idle h]
  | some i => rfl

theorem free_iff {l : FifoLock ι} : l.free = true ↔ l.queue = [] := by
  rw [← List.head?_eq_none_iff, head?_queue]
  exact Option.isNone_iff_eq_none

theorem queue_acquire (l : FifoLock ι) (i : ι) : (l.acquire i).queue = l.queue ++ [i] := by
  unfold acquire queue
  split
  · rename_i h
    simp [h, l.idle h]
  · rename_i h
    simp [h]

theorem queue_release (l : FifoLock ι) : l.release.queue = l.queue.tail := by
  unfold release queue
  cases h : l.holder with
  | none => simp [l.idle h]
  | some i => split <;> simp_all

theorem queue_leave [DecidableEq ι] (l : FifoLock ι) (i : ι) :
    (l.leave i).queue = if l.holder = some i then l.queue.tail else l.queue.filter (· ≠ i) := by
  unfold leave
  split
  · exact l.queue_release
  · rename_i h
    show l.holder.toList ++ l.waiters.filter (· ≠ i) = (l.holder.toList ++ l.waiters).filter (· ≠ i)
    rw [List.filter_append]
    cases hh : l.holder with
    | none => rfl
    | some j =>
      have hji : j ≠ i := fun e => h (by rw [hh, e])
      simp [hji]

/-! ## A lock in use -/

/-- Everybody in the queue wants the lock, once, and whoever owns it is the holder. -/
structure InOrder (l : FifoLock ι) (wants owns : ι → Bool) : Prop where
  nodup : l.queue.Nodup
  wants : ∀ i ∈ l.queue, wants i = true
  holder : ∀ i, owns i = true → l.holder = some i

section InOrder

variable {l : FifoLock ι} {wants owns wants' owns' : ι → Bool} {i : ι}

/-- The lock is left alone. -/
theorem InOrder.kept (h : l.InOrder wants owns) (hwants : ∀ j ∈ l.queue, wants' j = true)
    (howns : ∀ j, owns' j = true → l.holder = some j) : l.InOrder wants' owns' :=
  ⟨h.nodup, hwants, howns⟩

/-- Somebody new queues, and does not go on before it is resumed. -/
theorem InOrder.acquired (h : l.InOrder wants owns) (hi : i ∉ l.queue)
    (hwants : ∀ j ∈ l.queue ++ [i], wants' j = true) (howns : ∀ j, owns' j = true → owns j = true) :
    (l.acquire i).InOrder wants' owns' where
  nodup := by
    rw [queue_acquire, List.nodup_append]
    refine ⟨h.nodup, List.pairwise_singleton _ i, ?_⟩
    intro j hj k hk
    rw [List.mem_singleton.mp hk]
    rintro rfl
    exact hi hj
  wants j hj := hwants j (queue_acquire l i ▸ hj)
  holder j hj := by
    have hholder := h.holder j (howns j hj)
    rw [← head?_queue] at hholder
    rw [← head?_queue, queue_acquire, List.head?_append, hholder]
    rfl

/-- The holder is the head of the queue. -/
theorem InOrder.first (h : l.InOrder wants owns) (hi : l.holder = some i) :
    ∃ rest, l.queue = i :: rest ∧ i ∉ rest := by
  rw [← head?_queue] at hi
  obtain ⟨rest, hrest⟩ := List.head?_eq_some_iff.mp hi
  have hnodup := h.nodup
  rw [hrest] at hnodup
  exact ⟨rest, hrest, (List.nodup_cons.mp hnodup).1⟩

theorem InOrder.head (h : l.InOrder wants owns) (hi : owns i = true) :
    ∃ rest, l.queue = i :: rest ∧ i ∉ rest :=
  h.first (h.holder i hi)

/-- The holder, resumed or not, lets the lock go. -/
theorem InOrder.passed (h : l.InOrder wants owns) (hi : l.holder = some i)
    (hwants : ∀ j ∈ l.queue, j ≠ i → wants' j = true)
    (howns : ∀ j, owns' j = true → owns j = true ∧ j ≠ i) : l.release.InOrder wants' owns' := by
  obtain ⟨rest, hrest, hout⟩ := h.first hi
  have hqueue : l.release.queue = rest := by rw [queue_release, hrest]; rfl
  refine ⟨?_, ?_, ?_⟩
  · have hnodup := h.nodup
    rw [hrest] at hnodup
    exact hqueue ▸ (List.nodup_cons.mp hnodup).2
  · intro j hj
    rw [hqueue] at hj
    refine hwants j (hrest ▸ List.mem_cons_of_mem i hj) ?_
    rintro rfl
    exact hout hj
  · intro j hj
    obtain ⟨hown, hne⟩ := howns j hj
    exact absurd (Option.some.inj ((h.holder j hown).symm.trans hi)) hne

/-- The owner lets the lock go. -/
theorem InOrder.released (h : l.InOrder wants owns) (hi : owns i = true)
    (hwants : ∀ j ∈ l.queue, j ≠ i → wants' j = true)
    (howns : ∀ j, owns' j = true → owns j = true ∧ j ≠ i) : l.release.InOrder wants' owns' :=
  h.passed (h.holder i hi) hwants howns

/-- Somebody who is queued, or was handed the lock and is not resumed yet, gives up. -/
theorem InOrder.left [DecidableEq ι] (h : l.InOrder wants owns) (hi : owns i = false)
    (hwants : ∀ j ∈ l.queue, j ≠ i → wants' j = true) (howns : ∀ j, owns' j = true → owns j = true) :
    (l.leave i).InOrder wants' owns' := by
  have hqueue : ∀ j ∈ (l.leave i).queue, j ∈ l.queue ∧ j ≠ i := by
    intro j hj
    rw [queue_leave] at hj
    split at hj
    · rename_i hholder
      rw [← head?_queue] at hholder
      obtain ⟨rest, hrest⟩ := List.head?_eq_some_iff.mp hholder
      have hnodup := h.nodup
      rw [hrest] at hj hnodup
      refine ⟨hrest ▸ List.mem_cons_of_mem i hj, ?_⟩
      rintro rfl
      exact (List.nodup_cons.mp hnodup).1 hj
    · obtain ⟨hmem, hne⟩ := List.mem_filter.mp hj
      exact ⟨hmem, of_decide_eq_true hne⟩
  constructor
  · rw [queue_leave]
    split
    · exact h.nodup.sublist (List.tail_sublist _)
    · exact h.nodup.filter _
  · exact fun j hj => hwants j (hqueue j hj).1 (hqueue j hj).2
  · intro j hj
    have hholder := h.holder j (howns j hj)
    have hne : l.holder ≠ some i := by
      intro hsame
      obtain rfl := Option.some.inj (hholder.symm.trans hsame)
      exact absurd (howns j hj) (by simp [hi])
    unfold leave
    rw [if_neg hne]
    exact hholder

end InOrder

end FifoLock
