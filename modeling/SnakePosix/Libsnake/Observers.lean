import SnakePosix.Foundation.Monitors
import SnakePosix.Libsnake.GameState

/-! The mutex and the condition variable of `ticker.c` at work: the server's loop,
which ends with `server_end_game`, and any number of threads that observe its
ticks. `client_connection_send_thread_main` and `shm_client_run` loop over
`ticker_observer_wait_for_next_tick` in the same way: each tests a flag of its own
and `game_ended_` before the wait and after it. -/
namespace SnakePosix
open Monitors

/-- Where the server is inside `ticker_tick`. -/
inductive TickStage where
  | locking
  | locked
  | incremented
  | broadcast
  deriving DecidableEq, Repr

/-- The server between two ticks, at the end of one, which may be the one in
`server_end_game`, or after `server_end_game`. -/
inductive ServerStage where
  | running
  | ticking (final : Bool) (stage : TickStage)
  | ended
  deriving DecidableEq, Repr

inductive ObserverStage where
  | absent
  | initLocking
  | initLocked
  /-- At the loop's condition. -/
  | testing (observer : TickerObserver)
  | locking (observer : TickerObserver)
  /-- Inside the wait, about to compare the ticks. -/
  | checking (observer : TickerObserver)
  /-- The ticks were equal and `pthread_cond_wait` comes next. -/
  | resolved (observer : TickerObserver)
  | waiting (observer : TickerObserver)
  /-- At the test after the wait. -/
  | returned (ticksPassed : Nat) (observer : TickerObserver)
  | left

structure TickerRoom (ι : Type) where
  ticker : Ticker
  /-- `tick_mutex_` and `next_tick_cond_`; `none` is the server's thread. -/
  monitor : Monitor (Option ι)
  gameEnded : Bool
  server : ServerStage
  observers : ι → ObserverStage
  /-- The increments so far; no step reads it. -/
  ticks : Nat

inductive TickerStep (ι : Type) where
  /-- The server goes on; between two ticks it may end the game. -/
  | server (endGame : Bool)
  | observerInit (observer : ι)
  /-- An observer goes on; `leaving` is what it finds in its own flag. -/
  | observe (observer : ι) (leaving : Bool)
  /-- `pthread_cond_wait` may return without a broadcast. -/
  | spuriousWake (observer : ι)

variable {ι : Type}

def TickerRoom.serve (self : TickerRoom ι) (endGame : Bool) : TickerRoom ι :=
  match self.server with
  | .running => { self with server := .ticking endGame .locking, gameEnded := self.gameEnded || endGame }
  | .ticking final .locking =>
    match self.monitor.lock none with
    | some monitor => { self with monitor, server := .ticking final .locked }
    | none => self
  | .ticking final .locked =>
    { self with ticker := tickerTick self.ticker, server := .ticking final .incremented, ticks := self.ticks + 1 }
  | .ticking final .incremented =>
    { self with monitor := self.monitor.broadcast, server := .ticking final .broadcast }
  | .ticking final .broadcast =>
    { self with monitor := self.monitor.unlock, server := if final then .ended else .running }
  | .ended => self

variable [DecidableEq ι]

def TickerRoom.withObserver (self : TickerRoom ι) (observer : ι) (stage : ObserverStage) : TickerRoom ι :=
  { self with observers := Function.update self.observers observer stage }

def TickerRoom.observerInit (self : TickerRoom ι) (observer : ι) : TickerRoom ι :=
  match self.observers observer with
  | .absent => self.withObserver observer .initLocking
  | _ => self

def TickerRoom.observe (self : TickerRoom ι) (observer : ι) (leaving : Bool) : TickerRoom ι :=
  match self.observers observer with
  | .absent | .left => self
  | .initLocking =>
    match self.monitor.lock (some observer) with
    | some monitor => { self with monitor }.withObserver observer .initLocked
    | none => self
  | .initLocked =>
    { self with monitor := self.monitor.unlock }.withObserver observer (.testing (tickerObserverInit self.ticker))
  | .testing state =>
    self.withObserver observer (if leaving ∨ self.gameEnded then .left else .locking state)
  | .locking state =>
    match self.monitor.lock (some observer) with
    | some monitor => { self with monitor }.withObserver observer (.checking state)
    | none => self
  | .checking state =>
    match tickerObserverWaitForNextTick state self.ticker with
    | none => self.withObserver observer (.resolved state)
    | some (ticksPassed, state) =>
      { self with monitor := self.monitor.unlock }.withObserver observer (.returned ticksPassed state)
  | .resolved state =>
    { self with monitor := self.monitor.wait (some observer) }.withObserver observer (.waiting state)
  | .waiting state =>
    match self.monitor.resume (some observer) with
    | some monitor => { self with monitor }.withObserver observer (.checking state)
    | none => self
  | .returned _ state =>
    self.withObserver observer (if leaving ∨ self.gameEnded then .left else .testing state)

def TickerRoom.step (self : TickerRoom ι) : TickerStep ι → TickerRoom ι
  | .server endGame => self.serve endGame
  | .observerInit observer => self.observerInit observer
  | .observe observer leaving => self.observe observer leaving
  | .spuriousWake observer => { self with monitor := self.monitor.wake (some observer) }

def TickerRoom.run (self : TickerRoom ι) (steps : List (TickerStep ι)) : TickerRoom ι :=
  steps.foldl TickerRoom.step self

/-- After `ticker_init`. -/
def TickerRoom.start : TickerRoom ι where
  ticker := { tick := 0 }
  monitor := .free
  gameEnded := false
  server := .running
  observers := fun _ => .absent
  ticks := 0

end SnakePosix
