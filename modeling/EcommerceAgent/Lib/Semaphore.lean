/-
# Counting semaphores with a waiting line

The semaphore of `asyncio`.  Its deque of waiters is kept in two parts: the tasks that a release
has woken, each with a slot reserved for it, and behind them the tasks that still wait.  A woken
task takes its slot when the event loop resumes it, and only then leaves the deque.
-/
import Mathlib.Tactic.Common
import Mathlib.Data.List.Basic
import Mathlib.Data.List.InsertIdx
import Mathlib.Algebra.Order.Group.Nat

namespace EcommerceAgent.Lib

/-- A semaphore over tasks of type `τ`. -/
structure Semaphore (τ : Type*) where
  /-- The number of free slots. -/
  value : ℕ
  /-- The tasks that were woken and not resumed yet. -/
  woken : List τ
  /-- The tasks that wait for a slot. -/
  waiters : List τ
deriving DecidableEq, Repr

namespace Semaphore

variable {τ : Type*}

/-- `asyncio.Semaphore(value)`. -/
def init (value : ℕ) : Semaphore τ := ⟨value, [], []⟩

/-- `Semaphore.locked`: a newcomer has to wait. -/
def locked (s : Semaphore τ) : Bool := s.value == 0 || !s.woken.isEmpty || !s.waiters.isEmpty

/-- `Semaphore.acquire`, up to the point where the task waits; the flag says that it need not. -/
def acquire (s : Semaphore τ) (task : τ) : Bool × Semaphore τ :=
  if s.locked then (false, { s with waiters := s.waiters ++ [task] })
  else (true, { s with value := s.value - 1 })

/-- `Semaphore._wake_up_next`. -/
def wakeUpNext (s : Semaphore τ) : Semaphore τ :=
  match s.waiters with
  | [] => s
  | task :: rest => ⟨s.value - 1, s.woken ++ [task], rest⟩

/-- `Semaphore.release`. -/
def release (s : Semaphore τ) : Semaphore τ := wakeUpNext { s with value := s.value + 1 }

/-- The loop at the end of `acquire`: tasks are woken as long as there are free slots. -/
def wakeUp (value : ℕ) (woken : List τ) : List τ → Semaphore τ
  | [] => ⟨value, woken, []⟩
  | task :: rest =>
    if 0 < value then wakeUp (value - 1) (woken ++ [task]) rest else ⟨value, woken, task :: rest⟩

/-- The `i`-th woken task goes on. -/
def resume (s : Semaphore τ) (i : ℕ) : Semaphore τ :=
  wakeUp s.value (s.woken.eraseIdx i) s.waiters

/-- The slots that no resumed task holds. -/
def free (s : Semaphore τ) : ℕ := s.value + s.woken.length

/-- A free slot is left only when nobody waits, or when a woken task will go on and wake the next
ones. -/
def Fair (s : Semaphore τ) : Prop := s.value = 0 ∨ s.waiters = [] ∨ s.woken ≠ []

variable {s : Semaphore τ} {task : τ}

@[simp] lemma free_init (value : ℕ) : (init value : Semaphore τ).free = value := rfl

lemma fair_init (value : ℕ) : (init value : Semaphore τ).Fair := .inr (.inl rfl)

lemma locked_eq_false_iff :
    s.locked = false ↔ 0 < s.value ∧ s.woken = [] ∧ s.waiters = [] := by
  simp [locked, Nat.pos_iff_ne_zero, and_assoc]

/-- A semaphore nobody waits for is locked when it has no free slot. -/
lemma locked_eq_false_of_idle (hwoken : s.woken = []) (hwaiters : s.waiters = [])
    (hfree : 0 < s.free) : s.locked = false := by
  have hvalue : s.free = s.value := by simp [free, hwoken]
  exact locked_eq_false_iff.mpr ⟨hvalue ▸ hfree, hwoken, hwaiters⟩

/-- The tasks in the deque of waiters, from the front. -/
def deque (s : Semaphore τ) : List τ := s.woken ++ s.waiters

@[simp] lemma deque_init (value : ℕ) : (init value : Semaphore τ).deque = [] := rfl

lemma deque_eq_nil : s.deque = [] ↔ s.woken = [] ∧ s.waiters = [] := List.append_eq_nil_iff

lemma mem_deque_of_woken (h : task ∈ s.woken) : task ∈ s.deque := List.mem_append_left _ h

/-! ### Acquiring -/

lemma acquire_of_locked (h : s.locked = true) :
    s.acquire task = (false, { s with waiters := s.waiters ++ [task] }) := if_pos h

lemma acquire_of_unlocked (h : s.locked = false) :
    s.acquire task = (true, { s with value := s.value - 1 }) := by
  simp [acquire, h]

@[simp] lemma deque_wait (s : Semaphore τ) (task : τ) :
    deque { s with waiters := s.waiters ++ [task] } = s.deque ++ [task] := by
  rw [deque, deque, List.append_assoc]

lemma free_take (h : s.locked = false) : free { s with value := s.value - 1 } + 1 = s.free := by
  have hvalue := (locked_eq_false_iff.mp h).1
  show s.value - 1 + s.woken.length + 1 = s.value + s.woken.length
  omega

/-- A task that waits keeps the line fair. -/
lemma Fair.wait (hs : s.Fair) (h : s.locked = true) :
    Fair { s with waiters := s.waiters ++ [task] } := by
  rcases hs with hvalue | hwaiters | hwoken
  · exact .inl hvalue
  · by_cases hidle : s.value = 0 ∨ s.woken ≠ []
    · exact hidle.imp id .inr
    · have hfree : s.locked = false :=
        locked_eq_false_iff.mpr ⟨by omega, by tauto, hwaiters⟩
      rw [hfree] at h
      cases h
  · exact .inr (.inr hwoken)

/-- A task that is let in leaves nobody waiting. -/
lemma Fair.take (h : s.locked = false) : Fair { s with value := s.value - 1 } :=
  .inr (.inl (locked_eq_false_iff.mp h).2.2)

/-! ### Releasing -/

/-- A release adds a free slot, or reserves it for the first task that waits. -/
lemma release_cases (s : Semaphore τ) :
    (s.waiters = [] ∧ s.release = { s with value := s.value + 1 }) ∨
    ∃ next rest, s.waiters = next :: rest ∧ s.release = ⟨s.value, s.woken ++ [next], rest⟩ := by
  obtain ⟨value, woken, waiters⟩ := s
  cases waiters with
  | nil => exact .inl ⟨rfl, rfl⟩
  | cons next rest => exact .inr ⟨next, rest, rfl, rfl⟩

@[simp] lemma deque_release (s : Semaphore τ) : s.release.deque = s.deque := by
  obtain ⟨-, h⟩ | ⟨next, rest, hwaiters, h⟩ := s.release_cases
  · rw [h, deque, deque]
  · rw [h, deque, deque, hwaiters, List.append_assoc, List.singleton_append]

@[simp] lemma free_release (s : Semaphore τ) : s.release.free = s.free + 1 := by
  obtain ⟨-, h⟩ | ⟨next, rest, -, h⟩ := s.release_cases
  · rw [h, free, free]
    show s.value + 1 + s.woken.length = s.value + s.woken.length + 1
    omega
  · rw [h, free, free, List.length_append, List.length_singleton]
    exact (Nat.add_assoc _ _ _).symm

lemma fair_release (s : Semaphore τ) : s.release.Fair := by
  obtain ⟨hwaiters, h⟩ | ⟨next, rest, -, h⟩ := s.release_cases
  · rw [h]
    exact .inr (.inl hwaiters)
  · rw [h]
    exact .inr (.inr (by simp))

/-! ### Resuming -/

lemma deque_wakeUp (value : ℕ) (woken waiters : List τ) :
    (wakeUp value woken waiters).deque = woken ++ waiters := by
  induction waiters generalizing value woken with
  | nil => rfl
  | cons next rest ih =>
    rw [wakeUp]
    split
    · rw [ih, List.append_assoc, List.singleton_append]
    · rfl

lemma free_wakeUp (value : ℕ) (woken waiters : List τ) :
    (wakeUp value woken waiters).free = value + woken.length := by
  induction waiters generalizing value woken with
  | nil => rfl
  | cons next rest ih =>
    rw [wakeUp]
    split
    · rw [ih, List.length_append, List.length_singleton]
      omega
    · rfl

lemma fair_wakeUp (value : ℕ) (woken waiters : List τ) : (wakeUp value woken waiters).Fair := by
  induction waiters generalizing value woken with
  | nil => exact .inr (.inl rfl)
  | cons next rest ih =>
    rw [wakeUp]
    split
    · exact ih _ _
    · rename_i hvalue
      exact .inl (Nat.eq_zero_of_not_pos hvalue)

lemma deque_resume {i : ℕ} (h : i < s.woken.length) :
    (s.resume i).deque = s.deque.eraseIdx i := by
  rw [resume, deque_wakeUp, deque, List.eraseIdx_append_of_lt_length h]

lemma free_resume {i : ℕ} (h : i < s.woken.length) : (s.resume i).free + 1 = s.free := by
  rw [resume, free_wakeUp, List.length_eraseIdx_of_lt h, free]
  omega

lemma fair_resume (s : Semaphore τ) (i : ℕ) : (s.resume i).Fair := fair_wakeUp _ _ _

/-- Without a task to resume, a fair semaphore with free slots has no line. -/
lemma eq_init {value : ℕ} (hfair : s.Fair) (hwoken : s.woken = []) (hfree : s.free = value)
    (hvalue : 0 < value) : s = init value := by
  obtain ⟨v, woken, waiters⟩ := s
  obtain rfl : woken = [] := hwoken
  obtain rfl : v = value := hfree
  rcases hfair with hzero | hwaiters | hne
  · exact absurd hzero (Nat.pos_iff_ne_zero.mp hvalue)
  · obtain rfl : waiters = [] := hwaiters
    rfl
  · exact absurd rfl hne

/-! ### Other names for the tasks -/

variable {υ : Type*} (f : τ → υ)

/-- The semaphore with the tasks under other names. -/
def map (s : Semaphore τ) : Semaphore υ := ⟨s.value, s.woken.map f, s.waiters.map f⟩

@[simp] lemma map_init (value : ℕ) : (init value).map f = init value := rfl

@[simp] lemma deque_map (s : Semaphore τ) : (s.map f).deque = s.deque.map f :=
  List.map_append.symm

@[simp] lemma locked_map (s : Semaphore τ) : (s.map f).locked = s.locked := by
  simp [map, locked]

@[simp] lemma free_map (s : Semaphore τ) : (s.map f).free = s.free := by
  simp [map, free]

@[simp] lemma fair_map : (s.map f).Fair ↔ s.Fair := by
  simp [map, Fair]

lemma acquire_map (s : Semaphore τ) (task : τ) :
    (s.map f).acquire (f task) = ((s.acquire task).1, (s.acquire task).2.map f) := by
  rw [acquire, acquire, locked_map]
  split
  · simp [map]
  · rfl

lemma release_map (s : Semaphore τ) : (s.map f).release = s.release.map f := by
  obtain ⟨value, woken, waiters⟩ := s
  cases waiters with
  | nil => rfl
  | cons next rest => simp [map, release, wakeUpNext]

lemma wakeUp_map (value : ℕ) (woken waiters : List τ) :
    wakeUp value (woken.map f) (waiters.map f) = (wakeUp value woken waiters).map f := by
  induction waiters generalizing value woken with
  | nil => rfl
  | cons next rest ih =>
    rw [List.map_cons, wakeUp, wakeUp]
    split
    · rw [← ih, List.map_append, List.map_singleton]
    · rfl

lemma resume_map (s : Semaphore τ) (i : ℕ) : (s.map f).resume i = (s.resume i).map f := by
  rw [resume, resume, ← wakeUp_map, ← List.eraseIdx_map]
  rfl

end Semaphore

end EcommerceAgent.Lib
