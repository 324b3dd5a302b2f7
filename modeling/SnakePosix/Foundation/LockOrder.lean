import Mathlib.Data.List.Nodup
import Mathlib.Logic.Relation
import Mathlib.Order.Basic
import SnakePosix.Foundation.Monitors

/-! Threads that take mutexes in the calls they make. Where every call takes them in
an increasing order and gives back what it took, no circle of threads ever waits for
each other, however many threads there are and however they are interleaved. -/
namespace SnakePosix.LockOrder
open Monitors

/-- What a thread does with a mutex and the condition variable beside it. -/
inductive LockAct (μ : Type) where
  | acquire (mutex : μ)
  | release (mutex : μ)
  | wait (mutex : μ)
  /-- The return of a wait, which has the mutex again. -/
  | resume (mutex : μ)
  | broadcast (mutex : μ)
  deriving DecidableEq, Repr

/-- The mutexes, and what is left of the call each thread is in. -/
structure LockRoom (ι μ : Type) where
  monitors : μ → Monitor ι
  rest : ι → List (LockAct μ)

inductive LockStep (ι κ μ : Type) where
  | call (thread : ι) (call : κ)
  | proceed (thread : ι)
  /-- A signal wakes one thread; a wait may also return for no reason. -/
  | wake (thread : ι) (mutex : μ)

variable {ι κ μ α : Type} [DecidableEq μ]

section
variable [DecidableEq ι]

def LockRoom.advance (self : LockRoom ι μ) (thread : ι) (mutex : μ) (monitor : Monitor ι)
    (rest : List (LockAct μ)) : LockRoom ι μ where
  monitors := Function.update self.monitors mutex monitor
  rest := Function.update self.rest thread rest

/-- A thread that cannot have the mutex stays where it is. -/
def LockRoom.perform (self : LockRoom ι μ) (thread : ι) (rest : List (LockAct μ)) :
    LockAct μ → LockRoom ι μ
  | .acquire mutex =>
    match (self.monitors mutex).lock thread with
    | some monitor => self.advance thread mutex monitor rest
    | none => self
  | .release mutex => self.advance thread mutex (self.monitors mutex).unlock rest
  | .wait mutex => self.advance thread mutex ((self.monitors mutex).wait thread) (.resume mutex :: rest)
  | .resume mutex =>
    match (self.monitors mutex).resume thread with
    | some monitor => self.advance thread mutex monitor rest
    | none => self
  | .broadcast mutex => self.advance thread mutex (self.monitors mutex).broadcast rest

/-- `locks` is what a call does with mutexes; a thread makes one call after the other. -/
def LockRoom.step (locks : κ → List (LockAct μ)) (self : LockRoom ι μ) : LockStep ι κ μ → LockRoom ι μ
  | .call thread call =>
    match self.rest thread with
    | [] => { self with rest := Function.update self.rest thread (locks call) }
    | _ :: _ => self
  | .proceed thread =>
    match self.rest thread with
    | [] => self
    | act :: rest => self.perform thread rest act
  | .wake thread mutex =>
    { self with monitors := Function.update self.monitors mutex ((self.monitors mutex).wake thread) }

def LockRoom.run (locks : κ → List (LockAct μ)) (self : LockRoom ι μ) (steps : List (LockStep ι κ μ)) :
    LockRoom ι μ :=
  steps.foldl (LockRoom.step locks) self

end

def LockRoom.start : LockRoom ι μ where
  monitors := fun _ => .free
  rest := fun _ => []

/-- The mutex a thread cannot go on without. -/
def LockRoom.waitsFor (self : LockRoom ι μ) (thread : ι) : Option μ :=
  match self.rest thread with
  | .acquire mutex :: _ => some mutex
  | .resume mutex :: _ => if (self.monitors mutex).asleep thread then none else some mutex
  | _ => none

/-- The first thread waits for a mutex that the second one has. -/
def LockRoom.Blocked (self : LockRoom ι μ) (thread other : ι) : Prop :=
  ∃ mutex, self.waitsFor thread = some mutex ∧ (self.monitors mutex).holder = some other

/-! ## Calls that keep to an order -/

section
variable [Preorder α] [DecidableLT α] (rank : μ → α)

/-- What a thread that has the mutexes `held` has after an act; `none` is an act that
breaks the order or gives back what the thread does not have. -/
def heldAfter (held : List μ) : LockAct μ → Option (List μ)
  | .acquire mutex | .resume mutex =>
    if ∀ before ∈ held, rank before < rank mutex then some (mutex :: held) else none
  | .release mutex => if mutex ∈ held then some (held.erase mutex) else none
  | .wait mutex =>
    if mutex ∈ held ∧ ∀ before ∈ held.erase mutex, rank before < rank mutex then
      some (mutex :: held.erase mutex)
    else none
  | .broadcast _ => some held

/-- The acts keep to the order and lead from the mutexes `held` to the mutexes `after`. -/
def Ascends (held : List μ) (acts : List (LockAct μ)) (after : List μ) : Prop :=
  acts.foldlM (heldAfter rank) held = some after

variable {rank} {held between after : List μ} {acts rest : List (LockAct μ)} {mutex : μ}

theorem ascends_nil : Ascends rank held [] held := rfl

theorem ascends_cons {act : LockAct μ} : Ascends rank held (act :: rest) after ↔
    ∃ between, heldAfter rank held act = some between ∧ Ascends rank between rest after := by
  unfold Ascends
  rw [List.foldlM_cons, Option.bind_eq_bind, Option.bind_eq_some_iff]

theorem ascends_append (first : Ascends rank held acts between) (second : Ascends rank between rest after) :
    Ascends rank held (acts ++ rest) after := by
  unfold Ascends at first second ⊢
  rw [List.foldlM_append, first]
  exact second

theorem ascends_acquire (above : ∀ before ∈ held, rank before < rank mutex)
    (later : Ascends rank (mutex :: held) rest after) : Ascends rank held (.acquire mutex :: rest) after :=
  ascends_cons.mpr ⟨_, if_pos above, later⟩

theorem ascends_release (later : Ascends rank held rest after) :
    Ascends rank (mutex :: held) (.release mutex :: rest) after := by
  refine ascends_cons.mpr ⟨_, if_pos List.mem_cons_self, ?_⟩
  rw [List.erase_cons_head]
  exact later

theorem ascends_broadcast (later : Ascends rank held rest after) :
    Ascends rank held (.broadcast mutex :: rest) after :=
  ascends_cons.mpr ⟨held, rfl, later⟩

theorem ascends_repeat (once : Ascends rank held acts held) (times : Nat) :
    Ascends rank held (List.replicate times acts).flatten held := by
  induction times with
  | zero => exact ascends_nil
  | succ times ih =>
    rw [List.replicate_succ, List.flatten_cons]
    exact ascends_append once ih

/-- A mutex that is taken for itself. -/
theorem ascends_alone : Ascends rank [] [.acquire mutex, .release mutex] [] :=
  ascends_acquire nofun (ascends_release ascends_nil)

theorem ascends_waits (above : ∀ before ∈ held, rank before < rank mutex) (wakeups : Nat) :
    Ascends rank (mutex :: held) (List.replicate wakeups (.wait mutex)) (mutex :: held) := by
  induction wakeups with
  | zero => exact ascends_nil
  | succ wakeups ih =>
    refine ascends_cons.mpr ⟨mutex :: held, ?_, ih⟩
    simp only [heldAfter, List.erase_cons_head]
    exact if_pos ⟨List.mem_cons_self, above⟩

/-- Mutexes that are taken one after the other in their order. -/
theorem ascends_acquires (list : List μ) (ordered : list.Pairwise (rank · < rank ·))
    (above : ∀ before ∈ held, ∀ mutex ∈ list, rank before < rank mutex) :
    Ascends rank held (list.map .acquire) (list.reverse ++ held) := by
  induction list generalizing held with
  | nil => exact ascends_nil
  | cons mutex list ih =>
    obtain ⟨least, ordered⟩ := List.pairwise_cons.mp ordered
    rw [List.reverse_cons, List.append_assoc]
    refine ascends_acquire (fun before member => above before member mutex List.mem_cons_self)
      (ih ordered fun before member later within => ?_)
    rcases List.mem_cons.mp member with rfl | member
    · exact least later within
    · exact above before member later (List.mem_cons_of_mem _ within)

/-- They are given back in any order. -/
theorem ascends_releases {taken : List μ} (list : List μ) (same : taken.Perm list) :
    Ascends rank (taken ++ held) (list.map .release) held := by
  induction list generalizing taken with
  | nil =>
    rw [same.eq_nil]
    exact ascends_nil
  | cons mutex list ih =>
    have member : mutex ∈ taken := same.mem_iff.mpr List.mem_cons_self
    have fewer : (taken.erase mutex).Perm list := by
      have erased := same.erase mutex
      rwa [List.erase_cons_head] at erased
    refine ascends_cons.mpr ⟨taken.erase mutex ++ held, ?_, ih fewer⟩
    simp only [heldAfter, List.erase_append_left _ member]
    exact if_pos (List.mem_append_left _ member)

/-! ## The mutexes a thread has -/

/-- A thread has the mutexes `held` and goes on in their order. -/
structure Disciplined (rank : μ → α) (room : LockRoom ι μ) (thread : ι) (held : List μ) : Prop where
  nodup : held.Nodup
  holds : ∀ mutex, (room.monitors mutex).holder = some thread ↔ mutex ∈ held
  ordered : Ascends rank held (room.rest thread) []

variable {room : LockRoom ι μ} {thread other : ι} {monitor : Monitor ι}

/-- Who sleeps makes no difference. -/
theorem disciplined_same {room' : LockRoom ι μ} (holders : ∀ m, (room'.monitors m).holder = (room.monitors m).holder)
    (rests : room'.rest thread = room.rest thread) (disciplined : Disciplined rank room thread held) :
    Disciplined rank room' thread held where
  nodup := disciplined.nodup
  holds := fun m => by
    rw [holders]
    exact disciplined.holds m
  ordered := by
    rw [rests]
    exact disciplined.ordered

theorem start_disciplined (thread : ι) : Disciplined rank (LockRoom.start : LockRoom ι μ) thread [] where
  nodup := List.nodup_nil
  holds := fun _ => iff_of_false nofun List.not_mem_nil
  ordered := ascends_nil

/-! ## Waiting -/

/-- A thread waits only for a mutex above all that it has. -/
theorem disciplined_waits (disciplined : Disciplined rank room thread held)
    (waits : room.waitsFor thread = some mutex) : ∀ before ∈ held, rank before < rank mutex := by
  have ordered := disciplined.ordered
  unfold LockRoom.waitsFor at waits
  split at waits
  · rename_i now
    cases waits
    rw [now] at ordered
    obtain ⟨_, moved, -⟩ := ascends_cons.mp ordered
    exact (Option.ite_none_right_eq_some.mp moved).1
  · rename_i now
    split at waits
    · cases waits
    · cases waits
      rw [now] at ordered
      obtain ⟨_, moved, -⟩ := ascends_cons.mp ordered
      exact (Option.ite_none_right_eq_some.mp moved).1
  · cases waits

/-- Along a chain of waiting threads the mutexes they wait for ascend. -/
theorem blocked_ascends (disciplined : ∀ thread, ∃ held, Disciplined rank room thread held)
    (chain : Relation.TransGen room.Blocked thread other) (waits : room.waitsFor other = some mutex) :
    ∃ first, room.waitsFor thread = some first ∧ rank first < rank mutex := by
  induction chain generalizing mutex with
  | single blocked =>
    obtain ⟨first, waiting, holder⟩ := blocked
    obtain ⟨held, own⟩ := disciplined _
    exact ⟨first, waiting, disciplined_waits own waits first ((own.holds first).mp holder)⟩
  | tail _ blocked ih =>
    obtain ⟨next, waiting, holder⟩ := blocked
    obtain ⟨first, begins, below⟩ := ih waiting
    obtain ⟨held, own⟩ := disciplined _
    exact ⟨first, begins, below.trans (disciplined_waits own waits next ((own.holds next).mp holder))⟩

/-! ## Steps -/

variable [DecidableEq ι]

theorem advance_monitors (m : μ) : (room.advance thread mutex monitor rest).monitors m =
    if m = mutex then monitor else room.monitors m :=
  Function.update_apply _ _ _ _

theorem advance_rest (other : ι) : (room.advance thread mutex monitor rest).rest other =
    if other = thread then rest else room.rest other :=
  Function.update_apply _ _ _ _

/-- What one thread does with a mutex is nothing to the threads that neither had it
nor get it. -/
theorem advance_other (different : other ≠ thread)
    (same : monitor.holder = some other ↔ (room.monitors mutex).holder = some other)
    (disciplined : Disciplined rank room other held) :
    Disciplined rank (room.advance thread mutex monitor rest) other held where
  nodup := disciplined.nodup
  holds := by
    intro m
    rw [← disciplined.holds m, advance_monitors]
    split
    · rename_i here
      exact here ▸ same
    · exact Iff.rfl
  ordered := by
    rw [advance_rest, if_neg different]
    exact disciplined.ordered

theorem advance_own (disciplined : Disciplined rank room thread held) (nodup : after.Nodup)
    (here : monitor.holder = some thread ↔ mutex ∈ after)
    (elsewhere : ∀ m, m ≠ mutex → (m ∈ after ↔ m ∈ held)) (ordered : Ascends rank after rest []) :
    Disciplined rank (room.advance thread mutex monitor rest) thread after where
  nodup := nodup
  holds := by
    intro m
    rw [advance_monitors]
    split
    · rename_i same
      exact same ▸ here
    · rename_i apart
      exact (disciplined.holds m).trans (elsewhere m apart).symm
  ordered := by
    rw [advance_rest, if_pos rfl]
    exact ordered

/-- The thread takes a free mutex. -/
theorem advance_taken (disciplined : ∀ thread, ∃ held, Disciplined rank room thread held)
    (own : Disciplined rank room thread held) (above : ∀ before ∈ held, rank before < rank mutex)
    (free : (room.monitors mutex).holder = none) (taken : monitor.holder = some thread)
    (ordered : Ascends rank (mutex :: held) rest []) :
    ∀ other, ∃ held, Disciplined rank (room.advance thread mutex monitor rest) other held := by
  intro other
  by_cases same : other = thread
  · rw [same]
    refine ⟨mutex :: held, advance_own own ?_ ?_ (fun m apart => ?_) ordered⟩
    · exact List.nodup_cons.mpr ⟨fun member => lt_irrefl _ (above mutex member), own.nodup⟩
    · exact iff_of_true taken List.mem_cons_self
    · rw [List.mem_cons, or_iff_right apart]
  · obtain ⟨theirs, disciplined⟩ := disciplined other
    refine ⟨theirs, advance_other same ?_ disciplined⟩
    rw [taken, free]
    exact iff_of_false (fun taken => same (Option.some.inj taken).symm) nofun

/-- The thread gives up a mutex it has. -/
theorem advance_given (disciplined : ∀ thread, ∃ held, Disciplined rank room thread held)
    (own : Disciplined rank room thread held) (member : mutex ∈ held) (given : monitor.holder = none)
    (ordered : Ascends rank (held.erase mutex) rest []) :
    ∀ other, ∃ held, Disciplined rank (room.advance thread mutex monitor rest) other held := by
  intro other
  by_cases same : other = thread
  · rw [same]
    refine ⟨held.erase mutex, advance_own own (own.nodup.erase mutex) ?_ (fun m apart => ?_) ordered⟩
    · rw [given]
      exact iff_of_false nofun own.nodup.not_mem_erase
    · exact List.mem_erase_of_ne apart
  · obtain ⟨theirs, disciplined⟩ := disciplined other
    refine ⟨theirs, advance_other same ?_ disciplined⟩
    rw [given, (own.holds mutex).mpr member]
    exact iff_of_false nofun fun taken => same (Option.some.inj taken).symm

theorem perform_disciplined {act : LockAct μ} (disciplined : ∀ thread, ∃ held, Disciplined rank room thread held)
    (now : room.rest thread = act :: rest) :
    ∀ other, ∃ held, Disciplined rank (room.perform thread rest act) other held := by
  obtain ⟨held, own⟩ := disciplined thread
  have ordered := own.ordered
  rw [now] at ordered
  obtain ⟨after, moved, ordered⟩ := ascends_cons.mp ordered
  unfold LockRoom.perform
  cases act with
  | acquire mutex =>
    obtain ⟨above, moved⟩ := Option.ite_none_right_eq_some.mp moved
    cases moved
    dsimp only
    split
    · rename_i monitor locked
      obtain ⟨free, rfl⟩ := lock_some.mp locked
      exact advance_taken disciplined own above free rfl ordered
    · exact disciplined
  | release mutex =>
    obtain ⟨member, moved⟩ := Option.ite_none_right_eq_some.mp moved
    cases moved
    exact advance_given disciplined own member rfl ordered
  | wait mutex =>
    obtain ⟨⟨member, above⟩, moved⟩ := Option.ite_none_right_eq_some.mp moved
    cases moved
    exact advance_given disciplined own member rfl (ascends_cons.mpr ⟨_, if_pos above, ordered⟩)
  | resume mutex =>
    obtain ⟨above, moved⟩ := Option.ite_none_right_eq_some.mp moved
    cases moved
    dsimp only
    split
    · rename_i monitor resumed
      obtain ⟨-, free, rfl⟩ := resume_some.mp resumed
      exact advance_taken disciplined own above free rfl ordered
    · exact disciplined
  | broadcast mutex =>
    cases moved
    intro other
    by_cases same : other = thread
    · rw [same]
      exact ⟨held, advance_own own own.nodup (own.holds mutex) (fun _ _ => Iff.rfl) ordered⟩
    · obtain ⟨theirs, disciplined⟩ := disciplined other
      exact ⟨theirs, advance_other same Iff.rfl disciplined⟩

/-- Every step keeps the threads in order if every call does. -/
theorem step_disciplined {locks : κ → List (LockAct μ)} (ascends : ∀ call, Ascends rank [] (locks call) [])
    (disciplined : ∀ thread, ∃ held, Disciplined rank room thread held) (step : LockStep ι κ μ) :
    ∀ thread, ∃ held, Disciplined rank (room.step locks step) thread held := by
  cases step with
  | call thread call =>
    unfold LockRoom.step
    dsimp only
    split
    · rename_i idle
      intro other
      obtain ⟨held, own⟩ := disciplined other
      refine ⟨held, own.nodup, own.holds, ?_⟩
      change Ascends rank held (Function.update room.rest thread (locks call) other) []
      rw [Function.update_apply]
      split
      · rename_i same
        have done := own.ordered
        rw [same, idle] at done
        cases done
        exact ascends call
      · exact own.ordered
    · exact disciplined
  | proceed thread =>
    unfold LockRoom.step
    dsimp only
    split
    · exact disciplined
    · rename_i now
      exact perform_disciplined disciplined now
  | wake thread mutex =>
    intro other
    obtain ⟨held, own⟩ := disciplined other
    have holders : ∀ m, ((room.step locks (.wake thread mutex)).monitors m).holder = (room.monitors m).holder := by
      intro m
      change (Function.update room.monitors mutex ((room.monitors mutex).wake thread) m).holder = _
      rw [Function.update_apply]
      split
      · rename_i same
        rw [same]
        rfl
      · rfl
    exact ⟨held, disciplined_same holders rfl own⟩

theorem run_disciplined {locks : κ → List (LockAct μ)} (ascends : ∀ call, Ascends rank [] (locks call) [])
    (steps : List (LockStep ι κ μ)) (disciplined : ∀ thread, ∃ held, Disciplined rank room thread held) :
    ∀ thread, ∃ held, Disciplined rank (room.run locks steps) thread held := by
  induction steps generalizing room with
  | nil => exact disciplined
  | cons step steps ih => exact ih (step_disciplined ascends disciplined step)

/-- Calls that take their mutexes in an order never end in a circle. -/
theorem run_not_blocked {locks : κ → List (LockAct μ)} (ascends : ∀ call, Ascends rank [] (locks call) [])
    (steps : List (LockStep ι κ μ)) (thread : ι) :
    ¬ Relation.TransGen ((LockRoom.start : LockRoom ι μ).run locks steps).Blocked thread thread := by
  intro circle
  have disciplined := run_disciplined ascends steps fun thread => ⟨[], start_disciplined thread⟩
  obtain ⟨_, ⟨mutex, waits, -⟩, -⟩ := Relation.TransGen.head'_iff.mp circle
  obtain ⟨first, again, below⟩ := blocked_ascends disciplined circle waits
  rw [waits] at again
  cases again
  exact lt_irrefl _ below

end

/-- Two threads that take two mutexes in opposite orders. -/
example :
    let locks (first : Bool) : List (LockAct Bool) :=
      [.acquire first, .acquire !first, .release !first, .release first]
    let room : LockRoom Bool Bool :=
      LockRoom.start.run locks [.call true true, .call false false, .proceed true, .proceed false]
    room.Blocked true false ∧ room.Blocked false true :=
  ⟨⟨false, rfl, rfl⟩, ⟨true, rfl, rfl⟩⟩

end SnakePosix.LockOrder
