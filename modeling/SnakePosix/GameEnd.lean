import SnakePosix.Libsnake.Observers

/-! The end of the game strands no observer. `server_end_game` sets the flag and
then takes one more turn of the ticker: an observer that starts to wait has not
seen the flag, so it has not seen that turn either, and the turn wakes it. -/
namespace SnakePosix.GameEnd
open Monitors

variable {ι : Type} {room : TickerRoom ι} {i : ι} {stage : ObserverStage} {o : TickerObserver}

/-! ## Stages -/

/-- The observer of a loop's stage. -/
def observer? : ObserverStage → Option TickerObserver
  | .testing o | .locking o | .checking o | .resolved o | .waiting o | .returned _ o => some o
  | _ => none

/-- Inside `ticker_observer_wait_for_next_tick`, as long as its loop lasts. -/
def inWait? : ObserverStage → Option TickerObserver
  | .locking o | .checking o | .resolved o | .waiting o => some o
  | _ => none

/-- The stages with the ticker's mutex held. -/
def ObserverHolds : ObserverStage → Prop
  | .initLocked | .checking _ | .resolved _ => True
  | _ => False

def ServerHolds : ServerStage → Prop
  | .ticking _ .locked | .ticking _ .incremented | .ticking _ .broadcast => True
  | _ => False

/-- `server_end_game` has set the flag. -/
def Ending : ServerStage → Prop
  | .ticking true _ | .ended => True
  | _ => False

/-- The last turn of the ticker has been counted. -/
def Closed : ServerStage → Prop
  | .ticking true .incremented | .ticking true .broadcast | .ended => True
  | _ => False

theorem ending_of_closed {server : ServerStage} (closed : Closed server) : Ending server := by
  unfold Closed at closed
  split at closed
  · trivial
  · trivial
  · trivial
  · cases closed

theorem observer_of_inWait (inside : inWait? stage = some o) : observer? stage = some o := by
  cases stage <;> first | exact inside | cases inside

/-- Something to wake up for: the ticker has moved on. -/
def Ready (room : TickerRoom ι) : Option ι → Prop
  | none => True
  | some i => ∀ o, room.observers i = .waiting o → o.lastTick ≠ room.ticker.tick

/-! ## The invariant -/

/-- One observer: it is not ahead of the ticker, and it does not start to wait for
a tick that does not come. -/
structure Seen (ticks : Nat) (closed : Prop) (stage : ObserverStage) : Prop where
  behind : ∀ o, observer? stage = some o → o.lastTick ≤ ticks
  closed : closed → ∀ o, inWait? stage = some o → o.lastTick < ticks
  resolved : ∀ o, stage = .resolved o → o.lastTick = ticks

structure Held (room : TickerRoom ι) : Prop where
  server : room.monitor.holder = some none ↔ ServerHolds room.server
  observers : ∀ i, room.monitor.holder = some (some i) ↔ ObserverHolds (room.observers i)

/-- The threads that are between taking the mutex and giving it up. -/
def Inside (room : TickerRoom ι) : Option ι → Prop
  | none => ServerHolds room.server
  | some i => ObserverHolds (room.observers i)

theorem held_iff : Held room ↔ Exclusive room.monitor (Inside room) := by
  constructor
  · intro held thread
    cases thread with
    | none => exact held.server
    | some i => exact held.observers i
  · intro exclusive
    exact ⟨exclusive none, fun i => exclusive (some i)⟩

structure Watched (room : TickerRoom ι) : Prop where
  counted : room.ticker.tick = room.ticks
  flagged : room.gameEnded = true ↔ Ending room.server
  held : Held room
  seen : ∀ i, Seen room.ticks (Closed room.server) (room.observers i)
  settled : (∃ final, room.server = .ticking final .incremented) ∨ Settled room.monitor (Ready room)

/-- An observer outside the wait has nothing to close. -/
private theorem seen_outside {ticks : Nat} {closed : Prop} (outside : inWait? stage = none)
    (behind : ∀ o, observer? stage = some o → o.lastTick ≤ ticks) : Seen ticks closed stage where
  behind := behind
  closed := fun _ o inside => by rw [outside] at inside; cases inside
  resolved := by
    rintro o rfl
    cases outside

/-- Before the last turn has been counted nothing is asked of an observer. -/
private theorem seen_mono {ticks : Nat} {closed closed' : Prop} (seen : Seen ticks closed stage)
    (later : closed' → closed) : Seen ticks closed' stage :=
  ⟨seen.behind, fun now => seen.closed (later now), seen.resolved⟩

theorem start_watched : Watched (TickerRoom.start : TickerRoom ι) where
  counted := rfl
  flagged := by simp [TickerRoom.start, Ending]
  held := ⟨by simp [TickerRoom.start, Monitor.free, ServerHolds],
    fun i => by simp [TickerRoom.start, Monitor.free, ObserverHolds]⟩
  seen := fun i => seen_outside rfl nofun
  settled := Or.inr (settled_free _)

/-! ## Steps of the server -/

private theorem holder_server (held : Held room) (holds : ServerHolds room.server) (i : ι) :
    ¬ ObserverHolds (room.observers i) := by
  intro also
  have holder := (held.observers i).mpr also
  rw [held.server.mpr holds] at holder
  cases holder

/-- A step of the server that neither takes the mutex nor gives it up. -/
private theorem serve_held {next : TickerRoom ι} (held : Held room) (monitor : next.monitor.holder = room.monitor.holder)
    (observers : next.observers = room.observers) (server : ServerHolds next.server ↔ ServerHolds room.server) :
    Held next where
  server := by rw [monitor, held.server, server]
  observers := fun i => by rw [monitor, observers, held.observers]

private theorem lock_watched {monitor : Monitor (Option ι)} {final : Bool} (watched : Watched room)
    (server : room.server = .ticking final .locking) (locked : room.monitor.lock none = some monitor) :
    Watched { room with monitor, server := .ticking final .locked } := by
  obtain ⟨unheld, rfl⟩ := lock_some.mp locked
  refine ⟨watched.counted, ?_, ⟨by simp [ServerHolds], fun i => ?_⟩, fun i => ?_, Or.inr ?_⟩
  · rw [watched.flagged, server]
    cases final <;> simp [Ending]
  · have outside := watched.held.observers i
    rw [unheld] at outside
    simpa using outside
  · exact seen_mono (watched.seen i) (by simp [Closed])
  · rcases watched.settled with ⟨final, incremented⟩ | settled
    · simp [server] at incremented
    · exact settled

/-- The ticker's turn: an observer that has made up its mind to sleep holds the
mutex, so there is none. -/
private theorem increment_watched {final : Bool} (watched : Watched room) (server : room.server = .ticking final .locked)
    (few : room.ticks + 1 < 2 ^ 64) :
    Watched { room with
      ticker := tickerTick room.ticker, server := .ticking final .incremented, ticks := room.ticks + 1 } := by
  have holds : ServerHolds room.server := by simp [server, ServerHolds]
  refine ⟨?_, ?_, serve_held watched.held rfl rfl (by simp [server, ServerHolds]), fun i => ?_,
    Or.inl ⟨final, rfl⟩⟩
  · change wrap64 (room.ticker.tick + 1) = room.ticks + 1
    rw [watched.counted]
    exact Nat.mod_eq_of_lt few
  · rw [watched.flagged, server]
    cases final <;> simp [Ending]
  · have seen := watched.seen i
    refine ⟨fun o known => Nat.le_succ_of_le (seen.behind o known),
      fun _ o inside => Nat.lt_succ_of_le (seen.behind o (observer_of_inWait inside)), fun o resolved => ?_⟩
    have unheld := holder_server watched.held holds i
    rw [show room.observers i = .resolved o from resolved] at unheld
    exact absurd trivial unheld

private theorem broadcast_watched {final : Bool} (watched : Watched room)
    (server : room.server = .ticking final .incremented) :
    Watched { room with monitor := room.monitor.broadcast, server := .ticking final .broadcast } where
  counted := watched.counted
  flagged := by
    rw [watched.flagged, server]
    cases final <;> simp [Ending]
  held := serve_held watched.held rfl rfl (by simp [server, ServerHolds])
  seen := fun i => by
    apply seen_mono (watched.seen i)
    cases final <;> simp [server, Closed]
  settled := Or.inr (settled_broadcast _)

private theorem unlock_watched {final : Bool} (watched : Watched room)
    (server : room.server = .ticking final .broadcast) :
    Watched { room with monitor := room.monitor.unlock, server := if final then .ended else .running } := by
  have holds : ServerHolds room.server := by simp [server, ServerHolds]
  refine ⟨watched.counted, ?_, ⟨?_, fun i => ?_⟩, fun i => ?_, Or.inr ?_⟩
  · rw [watched.flagged, server]
    cases final <;> simp [Ending]
  · cases final <;> simp [ServerHolds, Monitor.unlock]
  · have unheld := holder_server watched.held holds i
    simpa [Monitor.unlock] using unheld
  · apply seen_mono (watched.seen i)
    cases final <;> simp [server, Closed]
  · rcases watched.settled with ⟨final, incremented⟩ | settled
    · simp [server] at incremented
    · exact settled

theorem serve_watched (watched : Watched room) (few : (room.serve endGame).ticks < 2 ^ 64) :
    Watched (room.serve endGame) := by
  unfold TickerRoom.serve at few ⊢
  cases server : room.server with
  | running =>
    dsimp only
    have unflagged : room.gameEnded = false := by
      simpa [server, Ending] using watched.flagged
    refine ⟨watched.counted, ?_, serve_held watched.held rfl rfl (by simp [server, ServerHolds]), fun i => ?_, ?_⟩
    · cases endGame <;> simp [unflagged, Ending]
    · exact seen_mono (watched.seen i) (by simp [Closed])
    · rcases watched.settled with ⟨final, incremented⟩ | settled
      · simp [server] at incremented
      · exact Or.inr settled
  | ended => exact watched
  | ticking final stage =>
    cases stage with
    | locking =>
      dsimp only
      cases locked : room.monitor.lock none with
      | none => exact watched
      | some monitor => exact lock_watched watched server locked
    | locked =>
      simp only [server] at few
      exact increment_watched watched server few
    | incremented => exact broadcast_watched watched server
    | broadcast => exact unlock_watched watched server

/-! ## Steps of an observer -/

/-- Somebody whose stage is no wait is not asleep. -/
private theorem awake_outside (settled : Settled room.monitor (Ready room))
    (outside : ∀ o, room.observers i ≠ .waiting o) : room.monitor.asleep (some i) = false := by
  by_contra sleeps
  exact settled (some i) (by simpa using sleeps) fun o waits => absurd waits (outside o)

section
variable [DecidableEq ι]

private theorem withObserver_seen {ticks : Nat} {closed : Prop}
    (others : ∀ j, Seen ticks closed (room.observers j)) (own : Seen ticks closed stage) :
    ∀ j, Seen ticks closed ((room.withObserver i stage).observers j) := by
  simp only [TickerRoom.withObserver]
  rw [Function.forall_update_iff room.observers fun _ => Seen ticks closed]
  exact ⟨own, fun j _ => others j⟩

/-- The mutex stays with whoever has it. -/
private theorem withObserver_held (held : Held room)
    (same : ObserverHolds stage ↔ ObserverHolds (room.observers i)) : Held (room.withObserver i stage) where
  server := held.server
  observers := by
    simp only [TickerRoom.withObserver]
    rw [Function.forall_update_iff room.observers fun j stage =>
      room.monitor.holder = some (some j) ↔ ObserverHolds stage]
    exact ⟨(held.observers i).trans same.symm, fun j _ => held.observers j⟩

private theorem withObserver_inside {monitor : Monitor (Option ι)} {thread : Option ι} (away : thread ≠ some i) :
    Inside ({ room with monitor }.withObserver i stage) thread ↔ Inside room thread := by
  cases thread with
  | none => exact Iff.rfl
  | some j =>
    have elsewhere : j ≠ i := fun same => away (congrArg some same)
    simp only [Inside, TickerRoom.withObserver, Function.update_of_ne elsewhere]

private theorem lock_held {monitor : Monitor (Option ι)} (held : Held room)
    (unheld : room.monitor.holder = none) (holder : monitor.holder = some (some i)) (holds : ObserverHolds stage) :
    Held ({ room with monitor }.withObserver i stage) := by
  refine held_iff.mpr (exclusive_lock (held_iff.mp held) unheld holder ?_ fun thread => withObserver_inside)
  simpa [Inside, TickerRoom.withObserver] using holds

private theorem unlock_held {monitor : Monitor (Option ι)} (held : Held room)
    (held' : ObserverHolds (room.observers i)) (holder : monitor.holder = none) (outside : ¬ ObserverHolds stage) :
    Held ({ room with monitor }.withObserver i stage) := by
  have inside : Inside room (some i) := held'
  refine held_iff.mpr (exclusive_unlock (held_iff.mp held) inside holder ?_ fun thread => withObserver_inside)
  simpa [Inside, TickerRoom.withObserver] using outside

/-- The sleepers after a step of an observer that is awake. -/
private theorem withObserver_settled {monitor : Monitor (Option ι)} (settled : Settled room.monitor (Ready room))
    (asleep : monitor.asleep = room.monitor.asleep) (awake : room.monitor.asleep (some i) = false) :
    Settled monitor (Ready ({ room with monitor }.withObserver i stage)) := by
  refine settled_mono settled asleep fun thread sleeps ready => ?_
  cases thread with
  | none => trivial
  | some j =>
    have other : j ≠ i := by
      rintro rfl
      rw [awake] at sleeps
      cases sleeps
    intro o waits
    exact ready o ((Function.update_of_ne other _ _).trans waits)

/-- A step of an observer that is awake before it and does not fall asleep. -/
private theorem withObserver_watched {monitor : Monitor (Option ι)} (watched : Watched room)
    (awake : Settled room.monitor (Ready room) → room.monitor.asleep (some i) = false)
    (asleep : monitor.asleep = room.monitor.asleep)
    (held : Held ({ room with monitor }.withObserver i stage))
    (own : Seen room.ticks (Closed room.server) stage) :
    Watched ({ room with monitor }.withObserver i stage) where
  counted := watched.counted
  flagged := watched.flagged
  held := held
  seen := withObserver_seen watched.seen own
  settled := by
    rcases watched.settled with incremented | settled
    · exact Or.inl incremented
    · exact Or.inr (withObserver_settled settled asleep (awake settled))

/-- A test that finds the game not ended lets the observer go on. -/
private theorem test_watched (watched : Watched room) (leaving : Bool) (onwards : ObserverStage)
    (outside : ∀ o, room.observers i ≠ .waiting o) (unheld : ¬ ObserverHolds (room.observers i))
    (known : observer? (room.observers i) = some o) (same : observer? onwards = some o)
    (unheld' : ¬ ObserverHolds onwards) (unresolved : ∀ o, onwards ≠ .resolved o) :
    Watched (room.withObserver i (if leaving ∨ room.gameEnded then .left else onwards)) := by
  have awake := fun settled => awake_outside settled outside
  by_cases stops : leaving = true ∨ room.gameEnded = true
  · rw [if_pos stops]
    exact withObserver_watched watched awake rfl
      (withObserver_held watched.held (iff_of_false (by simp [ObserverHolds]) unheld))
      (seen_outside rfl (fun o known => by cases known))
  · rw [if_neg stops]
    have open' : ¬ Ending room.server := fun ending => stops (Or.inr (watched.flagged.mpr ending))
    refine withObserver_watched watched awake rfl
      (withObserver_held watched.held (iff_of_false unheld' unheld)) ⟨fun o' known' => ?_, fun closed => ?_, ?_⟩
    · rw [same] at known'
      cases known'
      exact (watched.seen i).behind o known
    · exact absurd (ending_of_closed closed) open'
    · exact fun o resolved => absurd resolved (unresolved o)

theorem observe_watched (watched : Watched room) (leaving : Bool) : Watched (room.observe i leaving) := by
  unfold TickerRoom.observe
  have seen := watched.seen i
  cases stage : room.observers i with
  | absent | left => exact watched
  | initLocking =>
    dsimp only
    cases locked : room.monitor.lock (some i) with
    | none => exact watched
    | some monitor =>
      obtain ⟨unheld, rfl⟩ := lock_some.mp locked
      exact withObserver_watched watched (fun settled => awake_outside settled (by simp [stage])) rfl
        (lock_held watched.held unheld rfl trivial) (seen_outside rfl nofun)
  | initLocked =>
    refine withObserver_watched watched (fun settled => awake_outside settled (by simp [stage])) rfl
      (unlock_held watched.held (by simp [stage, ObserverHolds]) rfl id) (seen_outside rfl fun o known => ?_)
    cases known
    exact Nat.le_of_eq watched.counted
  | testing state =>
    exact test_watched watched leaving (.locking state) (by simp [stage]) (by simp [stage, ObserverHolds])
      (by rw [stage]; rfl) rfl id nofun
  | returned ticksPassed state =>
    exact test_watched watched leaving (.testing state) (by simp [stage]) (by simp [stage, ObserverHolds])
      (by rw [stage]; rfl) rfl id nofun
  | locking state =>
    dsimp only
    rw [stage] at seen
    cases locked : room.monitor.lock (some i) with
    | none => exact watched
    | some monitor =>
      obtain ⟨unheld, rfl⟩ := lock_some.mp locked
      exact withObserver_watched watched (fun settled => awake_outside settled (by simp [stage])) rfl
        (lock_held watched.held unheld rfl trivial) ⟨seen.behind, seen.closed, nofun⟩
  | checking state =>
    dsimp only
    rw [stage] at seen
    have awake : Settled room.monitor (Ready room) → room.monitor.asleep (some i) = false :=
      fun settled => awake_outside settled (by simp [stage])
    unfold tickerObserverWaitForNextTick
    by_cases equal : state.lastTick = room.ticker.tick
    · rw [if_pos equal]
      refine withObserver_watched watched awake rfl
        (withObserver_held watched.held (by simp [stage, ObserverHolds])) ⟨seen.behind, seen.closed, fun o same => ?_⟩
      cases same
      exact equal.trans watched.counted
    · rw [if_neg equal]
      refine withObserver_watched watched awake rfl
        (unlock_held watched.held (by simp [stage, ObserverHolds]) rfl id) (seen_outside rfl fun o known => ?_)
      cases known
      exact Nat.le_of_eq watched.counted
  | resolved state =>
    -- The comparison still holds: nobody else has had the mutex since.
    have equal : state.lastTick = room.ticks := seen.resolved state stage
    rw [stage] at seen
    refine ⟨watched.counted, watched.flagged,
      unlock_held watched.held (by simp [stage, ObserverHolds]) rfl id,
      withObserver_seen watched.seen ⟨seen.behind, seen.closed, nofun⟩, ?_⟩
    rcases watched.settled with incremented | settled
    · exact Or.inl incremented
    · have awake := awake_outside settled (i := i) (by simp [stage])
      have before : Settled room.monitor (Ready ({ room with monitor := room.monitor.wait (some i) }.withObserver i
          (.waiting state))) := withObserver_settled settled rfl awake
      refine Or.inr (settled_wait before fun ready => ?_)
      exact ready state (Function.update_self i _ _) (equal.trans watched.counted.symm)
  | waiting state =>
    dsimp only
    rw [stage] at seen
    cases resumed : room.monitor.resume (some i) with
    | none => exact watched
    | some monitor =>
      obtain ⟨awake, unheld, rfl⟩ := resume_some.mp resumed
      exact withObserver_watched watched (fun _ => awake) rfl (lock_held watched.held unheld rfl trivial)
        ⟨seen.behind, seen.closed, nofun⟩

/-! ## Whole runs -/

private theorem step_ticks (step : TickerStep ι) : room.ticks ≤ (room.step step).ticks := by
  cases step with
  | server endGame =>
    simp only [TickerRoom.step, TickerRoom.serve]
    split
    · exact Nat.le_refl _
    · split <;> exact Nat.le_refl _
    · exact Nat.le_succ _
    · exact Nat.le_refl _
    · exact Nat.le_refl _
    · exact Nat.le_refl _
  | observerInit i =>
    simp only [TickerRoom.step, TickerRoom.observerInit]
    split <;> exact Nat.le_refl _
  | observe i leaving =>
    simp only [TickerRoom.step, TickerRoom.observe]
    split <;> first | exact Nat.le_refl _ | (split <;> exact Nat.le_refl _)
  | spuriousWake i => exact Nat.le_refl _

theorem step_watched (watched : Watched room) (step : TickerStep ι) (few : (room.step step).ticks < 2 ^ 64) :
    Watched (room.step step) := by
  cases step with
  | server endGame => exact serve_watched watched few
  | observe i leaving => exact observe_watched watched leaving
  | observerInit i =>
    simp only [TickerRoom.step, TickerRoom.observerInit]
    split
    case h_1 absent =>
      exact withObserver_watched watched (fun settled => awake_outside settled (by simp [absent])) rfl
        (withObserver_held watched.held (by simp [absent, ObserverHolds])) (seen_outside rfl nofun)
    case h_2 => exact watched
  | spuriousWake i =>
    refine ⟨watched.counted, watched.flagged, ⟨watched.held.server, watched.held.observers⟩, watched.seen, ?_⟩
    rcases watched.settled with incremented | settled
    · exact Or.inl incremented
    · exact Or.inr (settled_wake settled)

theorem run_watched (steps : List (TickerStep ι)) (few : (TickerRoom.start.run steps).ticks < 2 ^ 64) :
    Watched (TickerRoom.start.run steps) := by
  have kept : (TickerRoom.start.run steps).ticks < 2 ^ 64 → Watched (TickerRoom.start.run steps) :=
    List.foldlRecOn (motive := fun room : TickerRoom ι => room.ticks < 2 ^ 64 → Watched room) steps
      TickerRoom.step (fun _ => start_watched) fun room watched step _ few =>
        step_watched (watched (Nat.lt_of_le_of_lt (step_ticks step) few)) step few
  exact kept few

/-- Once `server_end_game` has returned, every observer inside the wait has a tick
to return for and is not asleep, and every observer at one of its two tests leaves. -/
theorem run_strands_nobody (steps : List (TickerStep ι)) (ended : (TickerRoom.start.run steps).server = .ended)
    (few : (TickerRoom.start.run steps).ticks < 2 ^ 64) (i : ι) :
    (∀ o, inWait? ((TickerRoom.start.run steps).observers i) = some o →
      o.lastTick ≠ (TickerRoom.start.run steps).ticker.tick) ∧
    (TickerRoom.start.run steps).monitor.asleep (some i) = false ∧
    ∀ leaving, (∀ ticksPassed o, (TickerRoom.start.run steps).observers i = .returned ticksPassed o →
        ((TickerRoom.start.run steps).observe i leaving).observers i = .left) ∧
      ∀ o, (TickerRoom.start.run steps).observers i = .testing o →
        ((TickerRoom.start.run steps).observe i leaving).observers i = .left := by
  have watched := run_watched steps few
  generalize TickerRoom.start.run steps = room at ended few watched ⊢
  have closed : Closed room.server := by
    rw [ended]
    trivial
  have flag : room.gameEnded = true := watched.flagged.mpr (ending_of_closed closed)
  have moved : ∀ o, inWait? (room.observers i) = some o → o.lastTick ≠ room.ticker.tick := by
    intro o inside
    have before := (watched.seen i).closed closed o inside
    have counted := watched.counted
    omega
  refine ⟨moved, ?_, fun leaving => ⟨fun ticksPassed o returned => ?_, fun o testing => ?_⟩⟩
  · rcases watched.settled with ⟨final, incremented⟩ | settled
    · rw [ended] at incremented
      cases incremented
    · by_contra sleeps
      refine settled (some i) (by simpa using sleeps) fun o waits => moved o ?_
      rw [waits]
      rfl
  · simp [TickerRoom.observe, returned, TickerRoom.withObserver, flag]
  · simp [TickerRoom.observe, testing, TickerRoom.withObserver, flag]

end

/-- One observer sleeps through the flag and is woken by the last turn; another has
read the tick before the flag and tests after it. -/
def lastTurn : List (TickerStep Bool) :=
  [.observerInit true, .observe true false, .observe true false, .observe true false, .observe true false,
    .observe true false, .observe true false, .observerInit false, .observe false false, .observe false false,
    .server true, .server true, .server true, .server true, .server true]

theorem run_strands_nobody_lastTurn :
    (TickerRoom.start.run lastTurn).observers true = .waiting { lastTick := 0 } ∧
      (TickerRoom.start.run lastTurn).observers false = .testing { lastTick := 0 } ∧
      (TickerRoom.start.run lastTurn).monitor.asleep (some true) = false ∧
      ((TickerRoom.start.run lastTurn).observe false false).observers false = .left :=
  ⟨rfl, rfl, (run_strands_nobody lastTurn rfl (by decide) true).2.1,
    ((run_strands_nobody lastTurn rfl (by decide) false).2.2 false).2 _ rfl⟩

end SnakePosix.GameEnd
