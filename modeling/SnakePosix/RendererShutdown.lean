import SnakePosix.Client.Renderer
import SnakePosix.Foundation.GuardedRuns

/-! The end of the renderer. `renderer_destroy` sets the flag and sends its signal
without the mutex, so the signal is lost on a renderer that has found the queue
empty and does not sleep yet; sent at any other moment it ends the thread. -/
namespace SnakePosix.RendererShutdown
open Monitors GuardedRuns

variable {renderer next : Renderer} {screen : Screen}

/-! ## The mutex -/

/-- The stages with the queue's mutex held. -/
def Drawing : RendererStage → Prop
  | .testing | .locking | .waiting | .ended => False
  | _ => True

def Entered : CallStage → Prop
  | .idle | .calling _ => False
  | _ => True

/-- The threads between a lock of the mutex and the unlock. -/
def Inside (renderer : Renderer) : Option RendererUser → Prop
  | none => Drawing renderer.stage
  | some user => Entered (renderer.calls user)

/-- The renderer is about to read from the queue what its loop has seen there. -/
structure Loaded (stage : RendererStage) (shutdown : Bool) (queue : List RendererCommand) : Prop where
  awake : stage = .awake → shutdown = true ∨ queue ≠ []
  popping : stage = .popping → queue ≠ []

structure Held (renderer : Renderer) : Prop where
  exclusive : Exclusive renderer.monitor (Inside renderer)
  asleep : renderer.monitor.asleep none = true → renderer.stage = .waiting
  loaded : Loaded renderer.stage renderer.shutdown renderer.queue

theorem start_held (screen : Screen) : Held (Renderer.start screen) where
  exclusive := exclusive_free fun thread => by cases thread <;> exact not_false
  asleep := nofun
  loaded := ⟨nofun, nofun⟩

/-- While the renderer has the mutex no call is inside the queue. -/
theorem drawing_alone (held : Held renderer) (drawing : Drawing renderer.stage) (user : RendererUser) :
    ¬ Entered (renderer.calls user) := by
  intro entered
  have own : Inside renderer none := drawing
  have other : Inside renderer (some user) := entered
  cases exclusive_one held.exclusive own other

/-! ## Steps of the renderer -/

/-- A step inside the critical section, or outside of it. -/
private theorem stay_held {stage : RendererStage} (held : Held renderer) (awake : renderer.stage ≠ .waiting)
    (same : Drawing stage ↔ Drawing renderer.stage) (queue : List RendererCommand) (screen : Screen)
    (loaded : Loaded stage renderer.shutdown queue) : Held { renderer with queue, screen, stage } where
  exclusive := exclusive_same held.exclusive rfl fun thread => by
    cases thread with
    | none => exact same
    | some user => exact Iff.rfl
  asleep := fun sleeps => absurd (held.asleep sleeps) awake
  loaded := loaded

/-- Taking the mutex, at its lock or at the return of the wait. -/
private theorem enter_held (held : Held renderer) (free : renderer.monitor.holder = none)
    (awake : renderer.monitor.asleep none = false) :
    Held { renderer with monitor := { renderer.monitor with holder := some none }, stage := .checking } where
  exclusive := by
    refine exclusive_lock held.exclusive free rfl trivial fun other away => ?_
    cases other with
    | none => exact absurd rfl away
    | some user => exact Iff.rfl
  asleep := fun sleeps => by
    rw [show renderer.monitor.asleep none = true from sleeps] at awake
    cases awake
  loaded := ⟨nofun, nofun⟩

/-- Giving the mutex up, at an unlock or by the wait. -/
private theorem leave_held {monitor : Monitor (Option RendererUser)} {stage : RendererStage} (held : Held renderer)
    (drawing : Drawing renderer.stage) (free : monitor.holder = none) (outside : ¬ Drawing stage)
    (asleep : monitor.asleep none = true → stage = .waiting) : Held { renderer with monitor, stage } where
  exclusive := by
    have inside : Inside renderer none := drawing
    refine exclusive_unlock held.exclusive inside free outside fun other away => ?_
    cases other with
    | none => exact absurd rfl away
    | some user => exact Iff.rfl
  asleep := asleep
  loaded := by
    constructor
    · rintro (rfl : stage = .awake)
      exact absurd trivial outside
    · rintro (rfl : stage = .popping)
      exact absurd trivial outside

private theorem unlock_held {stage : RendererStage} (held : Held renderer) (drawing : Drawing renderer.stage)
    (outside : ¬ Drawing stage) (awake : renderer.stage ≠ .waiting) :
    Held { renderer with monitor := renderer.monitor.unlock, stage } :=
  leave_held held drawing rfl outside fun sleeps => absurd (held.asleep sleeps) awake

theorem render_held (held : Held renderer) (map : Map) : Held (renderer.render map) := by
  unfold Renderer.render
  cases stage : renderer.stage with
  | testing =>
    have awake : renderer.stage ≠ .waiting := by simp [stage]
    dsimp only
    by_cases closed : renderer.shutdown = true
    · rw [if_pos closed]
      exact stay_held held awake (by simp [stage, Drawing]) _ _ ⟨nofun, nofun⟩
    · rw [if_neg closed]
      exact stay_held held awake (by simp [stage, Drawing]) _ _ ⟨nofun, nofun⟩
  | locking =>
    dsimp only
    cases locked : renderer.monitor.lock none with
    | none => exact held
    | some monitor =>
      obtain ⟨free, rfl⟩ := lock_some.mp locked
      refine enter_held held free ?_
      by_contra sleeps
      have waits := held.asleep (by simpa using sleeps)
      rw [stage] at waits
      cases waits
  | checking =>
    have awake : renderer.stage ≠ .waiting := by simp [stage]
    dsimp only
    by_cases empty : renderer.shutdown = false ∧ renderer.queue.isEmpty = true
    · rw [if_pos empty]
      exact stay_held held awake (by simp [stage, Drawing]) _ _ ⟨nofun, nofun⟩
    · rw [if_neg empty]
      refine stay_held held awake (by simp [stage, Drawing]) _ _ ⟨fun _ => ?_, nofun⟩
      rw [← Bool.not_eq_false, ← not_and_or]
      simpa using empty
  | resolved => exact leave_held held (by simp [stage, Drawing]) rfl not_false fun _ => rfl
  | waiting =>
    dsimp only
    cases resumed : renderer.monitor.resume none with
    | none => exact held
    | some monitor =>
      obtain ⟨awake, free, rfl⟩ := resume_some.mp resumed
      exact enter_held held free awake
  | awake =>
    have awake : renderer.stage ≠ .waiting := by simp [stage]
    dsimp only
    by_cases closed : renderer.shutdown = true
    · rw [if_pos closed]
      exact stay_held held awake (by simp [stage, Drawing]) _ _ ⟨nofun, nofun⟩
    · rw [if_neg closed]
      exact stay_held held awake (by simp [stage, Drawing]) _ _
        ⟨nofun, fun _ => (held.loaded.awake stage).resolve_left closed⟩
  | popping =>
    have awake : renderer.stage ≠ .waiting := by simp [stage]
    dsimp only
    split
    · exact held
    · exact stay_held held awake (by simp [stage, Drawing]) _ _ ⟨nofun, nofun⟩
    · exact stay_held held awake (by simp [stage, Drawing]) _ _ ⟨nofun, nofun⟩
  | redrawing status =>
    exact stay_held held (by simp [stage]) (by simp [stage, Drawing]) _ _ ⟨nofun, nofun⟩
  | cleared status =>
    exact stay_held held (by simp [stage]) (by simp [stage, Drawing]) _ _ ⟨nofun, nofun⟩
  | painted width height status =>
    exact stay_held held (by simp [stage]) (by simp [stage, Drawing]) _ _ ⟨nofun, nofun⟩
  | updating command =>
    dsimp only
    split
    · exact stay_held held (by simp [stage]) (by simp [stage, Drawing]) _ _ ⟨nofun, nofun⟩
    · exact stay_held held (by simp [stage]) (by simp [stage, Drawing]) _ _ ⟨nofun, nofun⟩
  | presenting =>
    exact stay_held held (by simp [stage]) (by simp [stage, Drawing]) _ _ ⟨nofun, nofun⟩
  | unlocking => exact unlock_held held (by simp [stage, Drawing]) not_false (by simp [stage])
  | leaving => exact unlock_held held (by simp [stage, Drawing]) not_false (by simp [stage])
  | ended => exact held

/-! ## Steps of the callers -/

/-- Whoever calls, the other threads are where they were. -/
private theorem withCall_inside {monitor : Monitor (Option RendererUser)} {user : RendererUser} {stage : CallStage}
    (thread : Option RendererUser) (away : thread ≠ some user) :
    Inside ({ renderer with monitor }.withCall user stage) thread ↔ Inside renderer thread := by
  cases thread with
  | none => exact Iff.rfl
  | some other =>
    change Entered (Function.update renderer.calls user stage other) ↔ Entered (renderer.calls other)
    rw [Function.update_of_ne fun here => away (congrArg some here)]

theorem withCall_held {user : RendererUser} {stage : CallStage} (held : Held renderer)
    (same : Entered stage ↔ Entered (renderer.calls user)) : Held (renderer.withCall user stage) := by
  refine ⟨exclusive_same held.exclusive rfl fun thread => ?_, held.asleep, held.loaded⟩
  by_cases here : thread = some user
  · subst here
    change Entered (Function.update renderer.calls user stage user) ↔ _
    rw [Function.update_self]
    exact same
  · exact withCall_inside thread here

theorem signal_held (held : Held renderer) : Held renderer.signal where
  exclusive := exclusive_same held.exclusive rfl fun thread => by cases thread <;> exact Iff.rfl
  asleep := fun sleeps => by simp [Renderer.signal, Monitor.wake] at sleeps
  loaded := held.loaded

theorem call_held (held : Held renderer) (user : RendererUser) (command : RendererCommand) :
    Held (renderer.call user command) := by
  unfold Renderer.call
  split
  case h_1 absent idle => exact withCall_held held (by simp [idle, Entered])
  case h_2 => exact held

/-- A call puts its command into the queue only with the mutex held, so the
renderer is not between its test and its use of the queue. -/
theorem proceed_held (held : Held renderer) (user : RendererUser) : Held (renderer.proceed user) := by
  unfold Renderer.proceed
  cases stage : renderer.calls user with
  | idle => exact held
  | calling command =>
    dsimp only
    cases locked : renderer.monitor.lock (some user) with
    | none => exact held
    | some monitor =>
      obtain ⟨free, rfl⟩ := lock_some.mp locked
      refine ⟨exclusive_lock held.exclusive free rfl ?_ withCall_inside, held.asleep, held.loaded⟩
      change Entered (Function.update renderer.calls user _ user)
      rw [Function.update_self]
      trivial
  | locked command =>
    refine ⟨(withCall_held held (by simp [stage, Entered])).exclusive, held.asleep, ?_⟩
    have outside : ¬ Drawing renderer.stage := fun drawing =>
      drawing_alone held drawing user (by simp [stage, Entered])
    constructor
    · intro awake
      exact absurd (by rw [show renderer.stage = .awake from awake]; trivial) outside
    · intro popping
      exact absurd (by rw [show renderer.stage = .popping from popping]; trivial) outside
  | enqueued =>
    exact withCall_held (signal_held held) (by simp [Renderer.signal, stage, Entered])
  | signalled =>
    have entered : Inside renderer (some user) := by simp [Inside, stage, Entered]
    refine ⟨exclusive_unlock held.exclusive entered rfl ?_ withCall_inside, held.asleep, held.loaded⟩
    change ¬ Entered (Function.update renderer.calls user _ user)
    rw [Function.update_self]
    exact not_false

theorem destroy_held (held : Held renderer) : Held renderer.destroy := by
  have moved : ∀ (monitor : Monitor (Option RendererUser)) shutdown destroying,
      monitor.holder = renderer.monitor.holder →
      (monitor.asleep none = true → renderer.monitor.asleep none = true) →
      (renderer.shutdown = true → shutdown = true) →
      Held { renderer with monitor, shutdown, destroying } := by
    intro monitor shutdown destroying holder asleep closed
    refine ⟨exclusive_same held.exclusive holder fun thread => by cases thread <;> exact Iff.rfl,
      fun sleeps => held.asleep (asleep sleeps), ?_⟩
    exact ⟨fun awake => (held.loaded.awake awake).imp_left closed, held.loaded.popping⟩
  unfold Renderer.destroy
  split
  · split
    · exact moved renderer.monitor true .flagged rfl id fun _ => rfl
    · exact held
  · refine moved (renderer.monitor.wake none) renderer.shutdown .joining rfl (fun sleeps => ?_) id
    simp [Monitor.wake] at sleeps
  · split
    · exact moved renderer.monitor renderer.shutdown .joined rfl id id
    · exact held
  · exact held

/-! ## The signal -/

/-- The signal of `renderer_destroy` is not sent while the renderer, having found the
queue empty and the flag not set, is on its way to sleep. -/
def Audible (renderer : Renderer) : RendererStep → Prop
  | .destroy => renderer.destroying = .flagged → renderer.stage ≠ .resolved
  | _ => True

/-- `renderer_destroy` has sent its signal. -/
def Signalled (renderer : Renderer) : Prop :=
  renderer.destroying = .joining ∨ renderer.destroying = .joined

theorem signalled_begun (signalled : Signalled renderer) : renderer.destroying ≠ .absent := by
  rcases signalled with joining | joined
  · simp [joining]
  · simp [joined]

structure Closing (renderer : Renderer) : Prop where
  held : Held renderer
  flagged : renderer.destroying ≠ .absent → renderer.shutdown = true ∧ ∀ user, renderer.calls user = .idle
  heard : Signalled renderer → renderer.stage ≠ .resolved ∧ renderer.monitor.asleep none = false

theorem start_closing (screen : Screen) : Closing (Renderer.start screen) where
  held := start_held screen
  flagged := fun begun => absurd rfl begun
  heard := by simp [Signalled, Renderer.start]

theorem render_rest (renderer : Renderer) (map : Map) :
    (renderer.render map).shutdown = renderer.shutdown ∧ (renderer.render map).calls = renderer.calls ∧
      (renderer.render map).destroying = renderer.destroying := by
  unfold Renderer.render
  split <;> first | exact ⟨rfl, rfl, rfl⟩ | (split <;> exact ⟨rfl, rfl, rfl⟩)

/-- With the flag set the renderer does not make up its mind to sleep. -/
private theorem render_unresolved (closed : renderer.shutdown = true) (map : Map) :
    (renderer.render map).stage ≠ .resolved := by
  unfold Renderer.render
  cases stage : renderer.stage with
  | ended => simp [stage]
  | locking | waiting | popping | updating =>
    dsimp only
    split <;> simp [stage]
  | _ => simp [closed]

private theorem render_asleep (stage : renderer.stage ≠ .resolved) (map : Map) :
    (renderer.render map).monitor.asleep = renderer.monitor.asleep := by
  unfold Renderer.render
  split
  case h_2 =>
    cases locked : renderer.monitor.lock none with
    | none => rfl
    | some monitor =>
      obtain ⟨-, rfl⟩ := lock_some.mp locked
      rfl
  case h_4 resolved => exact absurd resolved stage
  case h_5 =>
    cases resumed : renderer.monitor.resume none with
    | none => rfl
    | some monitor =>
      obtain ⟨-, -, rfl⟩ := resume_some.mp resumed
      rfl
  all_goals first | rfl | (split <;> rfl)

theorem render_closing (closing : Closing renderer) (map : Map) : Closing (renderer.render map) := by
  obtain ⟨shutdown, calls, destroying⟩ := render_rest renderer map
  refine ⟨render_held closing.held map, ?_, ?_⟩
  · rw [shutdown, calls, destroying]
    exact closing.flagged
  · unfold Signalled
    rw [destroying]
    intro signalled
    obtain ⟨unresolved, awake⟩ := closing.heard signalled
    refine ⟨render_unresolved (closing.flagged (signalled_begun signalled)).1 map, ?_⟩
    rw [render_asleep unresolved]
    exact awake

/-- Once `renderer_destroy` has begun nobody calls any more. -/
theorem call_closing (closing : Closing renderer) (user : RendererUser) (command : RendererCommand) :
    Closing (renderer.call user command) := by
  refine ⟨call_held closing.held user command, ?_, ?_⟩
  · unfold Renderer.call
    split
    case h_1 absent idle => exact fun begun => absurd absent begun
    case h_2 => exact closing.flagged
  · unfold Renderer.call
    split
    case h_1 => exact closing.heard
    case h_2 => exact closing.heard

theorem proceed_closing (closing : Closing renderer) (user : RendererUser) :
    Closing (renderer.proceed user) := by
  by_cases begun : renderer.destroying = .absent
  · have still : (renderer.proceed user).destroying = .absent := by
      unfold Renderer.proceed
      split <;> first | exact begun | (split <;> exact begun)
    refine ⟨proceed_held closing.held user, fun later => absurd still later, fun signalled => ?_⟩
    simp [Signalled, still] at signalled
  · have idle : renderer.proceed user = renderer := by
      simp only [Renderer.proceed, (closing.flagged begun).2 user]
    rw [idle]
    exact closing

theorem destroy_closing (closing : Closing renderer) (audible : Audible renderer .destroy) :
    Closing renderer.destroy := by
  refine ⟨destroy_held closing.held, ?_, ?_⟩
  · unfold Renderer.destroy
    split
    case h_1 =>
      split
      case h_1 main input =>
        refine fun _ => ⟨rfl, fun user => ?_⟩
        cases user with
        | main => exact main
        | input => exact input
      case h_2 => exact closing.flagged
    case h_2 flagged => exact fun _ => closing.flagged (by simp [flagged])
    case h_3 joining =>
      split
      · exact fun _ => closing.flagged (by simp [joining])
      · exact closing.flagged
    case h_4 => exact closing.flagged
  · unfold Renderer.destroy
    split
    case h_1 absent =>
      split
      · exact fun signalled => by simp [Signalled] at signalled
      · exact closing.heard
    case h_2 flagged => exact fun _ => ⟨audible flagged, by simp [Renderer.signal, Monitor.wake]⟩
    case h_3 joining =>
      split
      · exact fun _ => closing.heard (Or.inl joining)
      · exact closing.heard
    case h_4 => exact closing.heard

theorem step_closing (step : RendererStep) (closing : Closing renderer) (audible : Audible renderer step) :
    Closing (renderer.step step) := by
  cases step with
  | render map => exact render_closing closing map
  | call user command => exact call_closing closing user command
  | proceed user => exact proceed_closing closing user
  | destroy => exact destroy_closing closing audible
  | spuriousWake =>
    refine ⟨signal_held closing.held, closing.flagged, fun signalled => ⟨(closing.heard signalled).1, ?_⟩⟩
    simp [Renderer.step, Renderer.signal, Monitor.wake]

/-! ## The end of the thread -/

/-- The steps the renderer has left once the flag is set. -/
def remaining (renderer : Renderer) : Nat :=
  match renderer.stage with
  | .ended => 0
  | .testing | .leaving => 1
  | .unlocking | .awake => 2
  | .presenting | .checking => 3
  | .painted .. | .locking | .waiting => 4
  | .cleared _ | .resolved => 5
  | .redrawing _ => 6
  | .updating _ => 4 + renderer.queue.length
  | .popping => 7 + renderer.queue.length

/-- Nobody else has the mutex, and the renderer is not asleep. -/
private theorem render_remaining (closing : Closing renderer) (signalled : Signalled renderer)
    (running : renderer.stage ≠ .ended) (map : Map) : remaining (renderer.render map) < remaining renderer := by
  obtain ⟨unresolved, awake⟩ := closing.heard signalled
  obtain ⟨closed, idle⟩ := closing.flagged (signalled_begun signalled)
  have free : ¬ Drawing renderer.stage → renderer.monitor.holder = none := by
    intro outside
    cases holder : renderer.monitor.holder with
    | none => rfl
    | some thread =>
      have inside := (closing.held.exclusive thread).mp holder
      cases thread with
      | none => exact absurd inside outside
      | some user => simp [Inside, idle user, Entered] at inside
  unfold Renderer.render
  cases stage : renderer.stage with
  | locking => simp [Monitor.lock, free (by simp [stage, Drawing]), remaining, stage]
  | waiting => simp [Monitor.resume, Monitor.lock, free (by simp [stage, Drawing]), awake, remaining, stage]
  | resolved => exact absurd stage unresolved
  | ended => exact absurd stage running
  | popping =>
    dsimp only
    split
    · rename_i empty
      exact absurd empty (closing.held.loaded.popping stage)
    · simp [remaining, stage]
      omega
    · rename_i queue _ loaded
      simp [remaining, stage, loaded]
      omega
  | updating command =>
    dsimp only
    split
    · simp [remaining, stage]
      omega
    · rename_i next queue loaded
      simp [remaining, stage, loaded]
  | _ => simp [remaining, stage, closed]

/-- Left alone the renderer comes to its end. -/
theorem closing_ends (closing : Closing renderer) (signalled : Signalled renderer) (map : Map) :
    ∃ count, ((List.replicate count (.render map)).foldl Renderer.step renderer).stage = .ended := by
  induction left : remaining renderer using Nat.strong_induction_on generalizing renderer with
  | _ left ih =>
    by_cases ended : renderer.stage = .ended
    · exact ⟨0, ended⟩
    · have shorter := render_remaining closing signalled ended map
      have still : Signalled (renderer.render map) := by
        unfold Signalled
        rw [(render_rest renderer map).2.2]
        exact signalled
      subst left
      obtain ⟨count, ends⟩ := ih _ shorter (render_closing closing map) still rfl
      exact ⟨count + 1, ends⟩

/-- The signal is heard: the renderer is not asleep and has nothing to wait for, so
that `pthread_join` returns. -/
theorem run_wakes (screen : Screen) (steps : List RendererStep)
    (audible : Guarded (total Renderer.step) Audible (Renderer.start screen) steps)
    (signalled : Signalled (steps.foldl Renderer.step (Renderer.start screen))) :
    (steps.foldl Renderer.step (Renderer.start screen)).shutdown = true ∧
      ¬ ((steps.foldl Renderer.step (Renderer.start screen)).stage = .waiting ∧
        (steps.foldl Renderer.step (Renderer.start screen)).monitor.asleep none = true) ∧
      ∀ map, ∃ count, ((List.replicate count (.render map)).foldl Renderer.step
        (steps.foldl Renderer.step (Renderer.start screen))).stage = .ended := by
  have closing : Closing (steps.foldl Renderer.step (Renderer.start screen)) :=
    total_preserves Closing steps (fun _ step _ => step_closing step) (start_closing screen) audible
  refine ⟨(closing.flagged (signalled_begun signalled)).1, fun ⟨_, asleep⟩ => ?_, closing_ends closing signalled⟩
  rw [(closing.heard signalled).2] at asleep
  cases asleep

def emptyScreen : Screen where
  width := 80
  height := 24
  back := fun _ _ => { character := ' ', foreground := .default, background := .default }
  front := fun _ _ => { character := ' ', foreground := .default, background := .default }

/-- The renderer waits for a command when the client leaves. -/
def lastWait : List RendererStep :=
  List.replicate 4 (.render { tiles := fun _ => { order := 0, type := .empty, player := 0 }, width := 5, height := 5 }) ++
    [.destroy, .destroy]

theorem run_wakes_lastWait :
    ¬ ((lastWait.foldl Renderer.step (Renderer.start emptyScreen)).stage = .waiting ∧
      (lastWait.foldl Renderer.step (Renderer.start emptyScreen)).monitor.asleep none = true) :=
  (run_wakes emptyScreen lastWait (by simp [lastWait, Guarded, total, Audible, Renderer.step, Renderer.render,
    Renderer.start, Renderer.destroy, Monitor.lock, Monitor.free, List.replicate, Monitor.wait]) (Or.inl rfl)).2.1

/-- The same, one step of the renderer earlier. -/
def lostSignal : List RendererStep :=
  List.replicate 3 (.render { tiles := fun _ => { order := 0, type := .empty, player := 0 }, width := 5, height := 5 }) ++
    [.destroy, .destroy,
      .render { tiles := fun _ => { order := 0, type := .empty, player := 0 }, width := 5, height := 5 }]

private theorem asleep_stays (stage : renderer.stage = .waiting) (asleep : renderer.monitor.asleep none = true)
    (joining : renderer.destroying = .joining) (idle : ∀ user, renderer.calls user = .idle)
    (step : RendererStep) (heard : step ≠ .spuriousWake) : renderer.step step = renderer := by
  cases step with
  | render map => simp [Renderer.step, Renderer.render, stage, Monitor.resume, asleep]
  | call user command => simp [Renderer.step, Renderer.call, joining]
  | proceed user => simp [Renderer.step, Renderer.proceed, idle]
  | destroy => simp [Renderer.step, Renderer.destroy, joining, stage]
  | spuriousWake => exact absurd rfl heard

/-- Whatever anybody does from then on, the renderer sleeps and `pthread_join` waits. -/
theorem run_lostSignal :
    (lostSignal.foldl Renderer.step (Renderer.start emptyScreen)).shutdown = true ∧
      ∀ later : List RendererStep, .spuriousWake ∉ later →
        (later.foldl Renderer.step (lostSignal.foldl Renderer.step (Renderer.start emptyScreen))).stage = .waiting ∧
        (later.foldl Renderer.step (lostSignal.foldl Renderer.step
          (Renderer.start emptyScreen))).monitor.asleep none = true ∧
        (later.foldl Renderer.step (lostSignal.foldl Renderer.step
          (Renderer.start emptyScreen))).destroying = .joining := by
  refine ⟨rfl, fun later unwoken => ?_⟩
  have kept : later.foldl Renderer.step (lostSignal.foldl Renderer.step (Renderer.start emptyScreen)) =
      lostSignal.foldl Renderer.step (Renderer.start emptyScreen) := by
    induction later with
    | nil => rfl
    | cons step rest ih =>
      obtain ⟨own, others⟩ := not_or.mp (List.mem_cons.not.mp unwoken)
      rw [List.foldl_cons, asleep_stays rfl rfl rfl (fun _ => rfl) step (Ne.symm own)]
      exact ih others
  rw [kept]
  exact ⟨rfl, rfl, rfl⟩

end SnakePosix.RendererShutdown
