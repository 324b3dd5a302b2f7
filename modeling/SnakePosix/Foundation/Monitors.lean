import Mathlib.Logic.Function.Basic

/-! A mutex with its condition variable. A thread that waits gives the mutex up and
falls asleep in one step; it returns when somebody has woken it and the mutex is
free again. A signal nobody sleeps for is lost. -/
namespace SnakePosix.Monitors

structure Monitor (ι : Type) where
  holder : Option ι
  /-- Waiting on the condition variable and not woken yet. -/
  asleep : ι → Bool

variable {ι : Type}

namespace Monitor

def free : Monitor ι where
  holder := none
  asleep := fun _ => false

/-- `none` is a thread still waiting for the mutex. -/
def lock (self : Monitor ι) (thread : ι) : Option (Monitor ι) :=
  if self.holder.isSome then none else some { self with holder := some thread }

def unlock (self : Monitor ι) : Monitor ι := { self with holder := none }

def wait [DecidableEq ι] (self : Monitor ι) (thread : ι) : Monitor ι where
  holder := none
  asleep := Function.update self.asleep thread true

/-- The return of `wait`; `none` is a thread still in it. -/
def resume (self : Monitor ι) (thread : ι) : Option (Monitor ι) :=
  if self.asleep thread then none else self.lock thread

def broadcast (self : Monitor ι) : Monitor ι := { self with asleep := fun _ => false }

/-- One sleeping thread is woken: by a signal, or for no reason. -/
def wake [DecidableEq ι] (self : Monitor ι) (thread : ι) : Monitor ι :=
  { self with asleep := Function.update self.asleep thread false }

end Monitor

variable {monitor next : Monitor ι} {thread : ι} {ready later : ι → Prop}

theorem lock_some : monitor.lock thread = some next ↔
    monitor.holder = none ∧ next = { monitor with holder := some thread } := by
  unfold Monitor.lock
  cases monitor.holder with
  | none => simp [eq_comm]
  | some other => simp

theorem resume_some : monitor.resume thread = some next ↔
    monitor.asleep thread = false ∧ monitor.holder = none ∧ next = { monitor with holder := some thread } := by
  unfold Monitor.resume
  cases monitor.asleep thread with
  | true => simp
  | false => simp [lock_some]

/-! ## The holder -/

/-- The threads inside the critical section are those that have the mutex. -/
def Exclusive (monitor : Monitor ι) (inside : ι → Prop) : Prop :=
  ∀ thread, monitor.holder = some thread ↔ inside thread

theorem exclusive_free (outside : ∀ thread, ¬ ready thread) : Exclusive Monitor.free ready :=
  fun thread => iff_of_false (by simp [Monitor.free]) (outside thread)

theorem exclusive_one (exclusive : Exclusive monitor ready) {other : ι} (first : ready thread)
    (second : ready other) : thread = other := by
  have holder := (exclusive thread).mpr first
  rw [(exclusive other).mpr second] at holder
  exact (Option.some.inj holder).symm

/-- A step that neither takes the mutex nor gives it up. -/
theorem exclusive_same (exclusive : Exclusive monitor ready) (holder : next.holder = monitor.holder)
    (same : ∀ thread, later thread ↔ ready thread) : Exclusive next later := by
  intro thread
  rw [holder, exclusive thread, same thread]

theorem exclusive_lock (exclusive : Exclusive monitor ready) (free : monitor.holder = none)
    (holder : next.holder = some thread) (enters : later thread)
    (others : ∀ other, other ≠ thread → (later other ↔ ready other)) : Exclusive next later := by
  intro other
  by_cases here : other = thread
  · subst here
    exact iff_of_true holder enters
  · have outside : ¬ ready other := fun inside => by
      have taken := (exclusive other).mpr inside
      rw [free] at taken
      cases taken
    refine iff_of_false (fun also => ?_) fun inside => outside ((others other here).mp inside)
    rw [holder] at also
    exact here (Option.some.inj also).symm

theorem exclusive_unlock (exclusive : Exclusive monitor ready) (inside : ready thread)
    (holder : next.holder = none) (leaves : ¬ later thread)
    (others : ∀ other, other ≠ thread → (later other ↔ ready other)) : Exclusive next later := by
  intro other
  refine iff_of_false (by simp [holder]) fun also => ?_
  by_cases here : other = thread
  · exact leaves (here ▸ also)
  · exact here (exclusive_one exclusive ((others other here).mp also) inside)

/-! ## Sleepers -/

/-- Nobody sleeps who has something to wake up for. -/
def Settled (monitor : Monitor ι) (ready : ι → Prop) : Prop :=
  ∀ thread, monitor.asleep thread = true → ¬ ready thread

theorem settled_free (ready : ι → Prop) : Settled Monitor.free ready := nofun

/-- The mutex plays no part, and fewer threads may be ready. -/
theorem settled_mono (settled : Settled monitor ready) (asleep : next.asleep = monitor.asleep)
    (fewer : ∀ thread, monitor.asleep thread = true → later thread → ready thread) : Settled next later := by
  intro thread sleeps isReady
  rw [asleep] at sleeps
  exact settled thread sleeps (fewer thread sleeps isReady)

theorem settled_broadcast (ready : ι → Prop) : Settled monitor.broadcast ready := nofun

section
variable [DecidableEq ι]

/-- A thread that checks before it waits, with the mutex held in between. -/
theorem settled_wait (settled : Settled monitor ready) (unready : ¬ ready thread) :
    Settled (monitor.wait thread) ready := by
  intro other sleeps
  by_cases here : other = thread
  · exact here ▸ unready
  · refine settled other ?_
    simpa [Monitor.wait, here] using sleeps

theorem settled_wake (settled : Settled monitor ready) : Settled (monitor.wake thread) ready := by
  intro other sleeps
  by_cases here : other = thread
  · simp [Monitor.wake, here] at sleeps
  · refine settled other ?_
    simpa [Monitor.wake, here] using sleeps

end

end SnakePosix.Monitors
