import SnakePosix.Client.ShmDisplay
import SnakePosix.LockedSections
import SnakePosix.ScreenMirror
import SnakePosix.SnakeRuns

/-! The screen of a client that shares the server's memory follows the map, although
the renderer may draw the map of a later tick between two updates of an earlier one.
What is still to be drawn, to be announced and to be copied brings every visible cell
to the tile of the current map; a locked section adds its changes at the end, and a
command that is out of date is followed by the ones that are not. -/
namespace SnakePosix.SharedScreen
open GuardedRuns MapProofs Torus TickTurns ChangelogReplay GameRuns LockedSections RendererShutdown ScreenMirror

variable {width height : Nat} {display next : ShmDisplay} {map before after : Map} {c : Coordinates}
  {commands : List RendererCommand} {cell : Cell} {changes : List Change}

/-! ## Commands at one cell -/

def updates (changes : List Change) : List RendererCommand := changes.map shmClientUpdateRenderer

/-- Commands leave a cell as it is, or say what it becomes. -/
theorem settle_cases (map : Map) (c : Coordinates) (commands : List RendererCommand) :
    (∀ cell, commands.foldl (settle map c) cell = cell) ∨
      ∃ final, ∀ cell, commands.foldl (settle map c) cell = final := by
  induction commands with
  | nil => exact Or.inl fun _ => rfl
  | cons command rest ih =>
    rcases ih with leaves | ⟨final, given⟩
    · cases command with
      | redraw status => exact Or.inr ⟨tileCell (mapGetTileState map c), fun cell => leaves _⟩
      | update row column tile =>
        by_cases here : row = c.row ∧ column = c.column
        · refine Or.inr ⟨tileCell tile, fun cell => (leaves _).trans ?_⟩
          exact if_pos here
        · refine Or.inl fun cell => (leaves _).trans ?_
          exact if_neg here
    · exact Or.inr ⟨final, fun cell => given _⟩

/-- What brings a cell to its tile keeps it there. -/
theorem settle_again (settled : commands.foldl (settle map c) cell = tileCell (mapGetTileState map c)) :
    commands.foldl (settle map c) (tileCell (mapGetTileState map c)) = tileCell (mapGetTileState map c) := by
  rcases settle_cases map c commands with leaves | ⟨final, given⟩
  · exact leaves _
  · rw [given] at settled ⊢
    exact settled

/-- The redraws among the commands draw the map that is there by then; they make the
cell as it would have been, or as the later map has it. -/
theorem settle_later (before after : Map) (c : Coordinates) (commands : List RendererCommand) (cell : Cell) :
    commands.foldl (settle after c) cell = commands.foldl (settle before c) cell ∨
      commands.foldl (settle after c) cell = tileCell (mapGetTileState after c) := by
  induction commands using List.reverseRecOn with
  | nil => exact Or.inl rfl
  | append_singleton commands command ih =>
    rw [List.foldl_concat, List.foldl_concat]
    cases command with
    | redraw status => exact Or.inr rfl
    | update row column tile =>
      by_cases here : row = c.row ∧ column = c.column
      · left
        simp only [settle, if_pos here]
      · simp only [settle, if_neg here]
        exact ih

/-- The updates of a changelog leave the last tile it has for the cell. -/
theorem updates_settle (map : Map) (c : Coordinates) (changes : List Change) (cell : Cell) :
    (updates changes).foldl (settle map c) cell =
      ((WriteLogs.lastWrite (changes.map fun change => (change.coordinates, change.tileData)) c).map tileCell).getD
        cell := by
  induction changes using List.reverseRecOn with
  | nil => rfl
  | append_singleton changes change ih =>
    rw [updates, List.map_append, List.map_append, List.foldl_append, ← updates, ih]
    simp only [List.map_cons, List.map_nil, List.foldl_cons, List.foldl_nil, shmClientUpdateRenderer, settle,
      WriteLogs.lastWrite, List.foldl_append]
    by_cases here : change.coordinates = c
    · subst here
      simp
    · have away : ¬ (change.coordinates.row = c.row ∧ change.coordinates.column = c.column) := by
        rintro ⟨row, column⟩
        exact here (coordinatesEqual_iff.mp (by simp [coordinatesEqual, row, column]))
      rw [if_neg here, if_neg away]

/-- A changelog brings a cell that shows one of the two maps to the second one. -/
theorem updates_between (carried : (replayChanges before changes).tiles c = after.tiles c) (map : Map)
    (between : cell = tileCell (mapGetTileState before c) ∨ cell = tileCell (mapGetTileState after c)) :
    (updates changes).foldl (settle map c) cell = tileCell (mapGetTileState after c) := by
  rw [replayChanges_tiles, WriteLogs.replay_eq_lastWrite] at carried
  rw [updates_settle]
  cases last : WriteLogs.lastWrite (changes.map fun change => (change.coordinates, change.tileData)) c with
  | some tile =>
    rw [last] at carried
    exact congrArg tileCell carried
  | none =>
    rw [last] at carried
    have same : mapGetTileState before c = mapGetTileState after c := carried
    rw [same, or_self] at between
    exact between

/-- Commands that bring a cell to its tile, and then the changes of a locked section. -/
theorem settle_section (settled : commands.foldl (settle before c) cell = tileCell (mapGetTileState before c))
    (carried : (replayChanges before changes).tiles c = after.tiles c) :
    (commands ++ updates changes).foldl (settle after c) cell = tileCell (mapGetTileState after c) := by
  rw [List.foldl_append]
  refine updates_between carried after ?_
  rw [← settled]
  exact settle_later before after c commands cell

/-! ## What is still to come -/

/-- From the first redraw to the end of the loop. -/
def Begun : ShmDisplayStage → Prop
  | .drawing | .testing | .waiting | .woken _ | .reading _ | .refreshing .. | .updating _ => True
  | _ => False

/-- The changes copied and not yet announced to the renderer. -/
def unvisited : ShmDisplayStage → List Change
  | .updating changes => changes
  | _ => []

/-- The commands that are not in the queue yet, in the order they will come. -/
def awaited (renderer : Renderer) (stage : ShmDisplayStage) (missed : List Change) : List RendererCommand :=
  (pending? (renderer.calls .main)).toList ++ updates (unvisited stage) ++ updates missed

/-- The client's side. -/
structure ClientSide (width height : Nat) (map : Map) (renderer : Renderer) (stage : ShmDisplayStage)
    (missed : List Change) : Prop where
  held : Held renderer
  ordered : Ordered renderer
  input : ∀ command, pending? (renderer.calls .input) = some command → ∃ status, command = .redraw status
  painted : ∀ wide high status, renderer.stage = .painted wide high status → wide = width ∧ high = height
  shown : Begun stage → pending? (renderer.calls .main) = none → ¬ Busy renderer.stage → renderer.queue = [] →
    renderer.screen.front = renderer.screen.back
  cells : Begun stage → ∀ c, c.InGrid width height → Visible renderer.screen c →
    (awaited renderer stage missed).foldl (settle map c) (outcome map c renderer) =
      tileCell (mapGetTileState map c)

/-- The ticks the client has seen are of locked sections it has drawn or is about to. -/
def Counts (stage : ShmDisplayStage) (lastTick : Nat) (record : FollowerRecord) (gameEnded : Bool) : Prop :=
  match stage with
  | .drawing | .testing | .updating _ => gameEnded = false → lastTick + record.behind ≤ record.sections
  | .waiting => lastTick + record.behind ≤ record.sections
  | .observing | .woken _ | .reading _ | .refreshing .. => gameEnded = false → lastTick ≤ record.sections
  | _ => True

def Ending : ShmDisplayStage → Prop
  | .destroying | .closing | .closed => True
  | _ => False

/-- Where the main thread is. -/
structure Loop (stage : ShmDisplayStage) (observer : TickerObserver) (renderer : Renderer) (record : FollowerRecord)
    (gameEnded : Bool) : Prop where
  present : ¬ Ending stage → renderer.destroying = .absent
  idle : stage = .waiting → renderer.calls .main = .idle
  counts : record.ticks < 2 ^ 64 → Counts stage observer.lastTick record gameEnded

structure Follows (width height : Nat) (display : ShmDisplay) : Prop where
  server : ServerSide width height display.server
  client : ClientSide width height display.server.gameState.map display.renderer display.stage
    display.server.record.missed
  loop : Loop display.stage display.observer display.renderer display.server.record display.server.gameState.gameEnded

theorem start_follows (map : Map) (directions : Nat → Direction) (cache : PlayerDataCache) (template : MapTemplate)
    (screen : Screen) : Follows template.width template.height
      (ShmDisplay.start (Game.start map directions cache template) screen) where
  server := start_side map directions cache template
  client := ⟨start_held screen, start_ordered screen, nofun, nofun, nofun, nofun⟩
  loop := ⟨fun _ => rfl, nofun, fun _ => trivial⟩

/-! ## The renderer and its calls -/

variable {renderer : Renderer} {stage : ShmDisplayStage} {missed : List Change}

/-- A step that leaves queue, screen and the main thread's command alone. -/
theorem still_client (client : ClientSide width height map renderer stage missed) (later : Renderer)
    (held : Held later) (queue : later.queue = renderer.queue) (drawn : later.stage = renderer.stage)
    (screen : later.screen = renderer.screen)
    (calls : ∀ user, pending? (later.calls user) = pending? (renderer.calls user)) :
    ClientSide width height map later stage missed where
  held := held
  ordered := by
    have ordered := client.ordered
    refine ⟨?_, ?_, ?_⟩
    · rw [queue]
      exact ordered.rest
    · rw [queue, drawn]
      exact ordered.behind
    · rw [drawn]
      exact ordered.hand
  input := by
    rw [calls]
    exact client.input
  painted := by
    rw [drawn]
    exact client.painted
  shown := by
    rw [calls, drawn, queue, screen]
    exact client.shown
  cells := by
    rw [screen]
    have same : awaited later stage missed = awaited renderer stage missed := by simp only [awaited, calls]
    simp only [same, outcome, queue, drawn, screen]
    exact client.cells

theorem render_client (client : ClientSide width height map renderer stage missed)
    (sized : map.width = width ∧ map.height = height) :
    ClientSide width height map (renderer.render map) stage missed := by
  obtain ⟨-, calls, -⟩ := render_rest renderer map
  obtain ⟨wide, high⟩ := render_size renderer map
  obtain ⟨rfl, rfl⟩ := sized
  refine ⟨render_held client.held map, render_ordered client.ordered map, ?_,
    fun _ _ _ paints => render_painted paints, fun begun idle => ?_, fun begun c inside visible => ?_⟩
  · rw [calls]
    exact client.input
  · rw [calls] at idle
    exact render_shown (client.shown begun idle)
  · have before : Visible renderer.screen c := by
      unfold Visible at visible ⊢
      rwa [wide, high] at visible
    have same : awaited (renderer.render map) stage missed = awaited renderer stage missed := by
      simp only [awaited, calls]
    rw [same, render_outcome client.ordered inside before client.painted]
    exact client.cells begun c inside before

/-- A command enters the queue behind what is drawn already. -/
theorem enqueue_outcome {user : RendererUser} {command : RendererCommand} (held : Held renderer)
    (locked : renderer.calls user = .locked command) (map : Map) (c : Coordinates) :
    outcome map c ({ renderer with queue := rendererEnqueue renderer.queue command }.withCall user .enqueued) =
      settle map c (outcome map c renderer) command := by
  have outside : ¬ Drawing renderer.stage := fun drawing =>
    drawing_alone held drawing user (by simp [locked, Entered])
  have idle : inHand renderer.stage = [] := by
    cases stage : renderer.stage <;> first | rfl | exact absurd (by rw [stage]; trivial) outside
  cases command with
  | redraw status => simp [outcome, Renderer.withCall, rendererEnqueue, idle, settle]
  | update row column tile => simp [outcome, Renderer.withCall, rendererEnqueue, List.foldl_append]

theorem enqueue_client {user : RendererUser} {command : RendererCommand}
    (client : ClientSide width height map renderer stage missed) (locked : renderer.calls user = .locked command) :
    ClientSide width height map
      ({ renderer with queue := rendererEnqueue renderer.queue command }.withCall user .enqueued) stage missed := by
  have step : { renderer with queue := rendererEnqueue renderer.queue command }.withCall user .enqueued =
      renderer.proceed user := by simp only [Renderer.proceed, locked]
  have held := proceed_held client.held user
  have ordered := proceed_ordered client.held client.ordered user
  have nonempty : rendererEnqueue renderer.queue command ≠ [] := by cases command <;> simp [rendererEnqueue]
  refine ⟨step ▸ held, step ▸ ordered, fun other later => ?_, client.painted,
    fun _ _ _ empty => absurd empty nonempty, fun begun c inside visible => ?_⟩
  · exact client.input other (proceed_pending renderer user .input other (step ▸ later))
  · have settled := client.cells begun c inside visible
    rw [enqueue_outcome client.held locked]
    cases user with
    | main =>
      have sent : awaited renderer stage missed = command :: (updates (unvisited stage) ++ updates missed) := by
        simp [awaited, locked, pending?]
      rw [sent] at settled
      have rest : awaited ({ renderer with queue := rendererEnqueue renderer.queue command }.withCall .main .enqueued)
          stage missed = updates (unvisited stage) ++ updates missed := by
        simp [awaited, Renderer.withCall, pending?]
      rw [rest]
      exact settled
    | input =>
      obtain ⟨status, rfl⟩ := client.input command (by rw [locked]; rfl)
      exact settle_again settled

theorem proceed_client (client : ClientSide width height map renderer stage missed) (user : RendererUser) :
    ClientSide width height map (renderer.proceed user) stage missed := by
  have held := proceed_held client.held user
  unfold Renderer.proceed at held ⊢
  cases called : renderer.calls user with
  | idle => exact client
  | calling command =>
    simp only [called] at held ⊢
    split
    · rename_i monitor taken
      simp only [taken] at held
      exact still_client client _ held rfl rfl rfl (withCall_pending (by rw [called]; rfl))
    · exact client
  | locked command => exact enqueue_client client called
  | enqueued =>
    simp only [called] at held
    exact still_client client _ held rfl rfl rfl (withCall_pending (by rw [Renderer.signal, called]; rfl))
  | signalled =>
    simp only [called] at held
    exact still_client client _ held rfl rfl rfl (withCall_pending (by rw [called]; rfl))

theorem signal_client (client : ClientSide width height map renderer stage missed) :
    ClientSide width height map renderer.signal stage missed :=
  still_client client _ (signal_held client.held) rfl rfl rfl fun _ => rfl

theorem resize_client (client : ClientSide width height map renderer stage missed) (status : PlayerStatus) :
    ClientSide width height map (renderer.call .input (.redraw status)) stage missed := by
  have held := call_held client.held .input (.redraw status)
  have ordered := step_ordered client.held client.ordered (.call .input (.redraw status))
  unfold Renderer.step at ordered
  unfold Renderer.call at held ordered ⊢
  split
  case h_1 absent idle =>
    simp only [absent, idle] at held ordered
    refine ⟨held, ordered, fun command later => ?_, client.painted, client.shown, client.cells⟩
    cases later
    exact ⟨status, rfl⟩
  case h_2 => exact client

/-! ## The main thread's steps -/

variable {stage' : ShmDisplayStage} {missed' : List Change}

/-- Outside of the renderer's functions, with nothing new to announce. -/
theorem turn_client (client : ClientSide width height map renderer stage missed)
    (begun : Begun stage' → Begun stage)
    (same : Begun stage' → unvisited stage' ++ missed' = unvisited stage ++ missed) :
    ClientSide width height map renderer stage' missed' where
  held := client.held
  ordered := client.ordered
  input := client.input
  painted := client.painted
  shown := fun now => client.shown (begun now)
  cells := by
    intro now c inside visible
    have sent : awaited renderer stage' missed' = awaited renderer stage missed := by
      simp only [awaited, updates, List.append_assoc, ← List.map_append, same now]
    rw [sent]
    exact client.cells (begun now) c inside visible

/-- The main thread begins a call. -/
theorem call_client {command : RendererCommand} (client : ClientSide width height map renderer stage missed)
    (absent : renderer.destroying = .absent) (idle : renderer.calls .main = .idle)
    (cells : ∀ c, c.InGrid width height → Visible renderer.screen c →
      (command :: (updates (unvisited stage') ++ updates missed')).foldl (settle map c) (outcome map c renderer) =
        tileCell (mapGetTileState map c)) :
    ClientSide width height map (renderer.call .main command) stage' missed' := by
  have held := call_held client.held .main command
  have ordered := step_ordered client.held client.ordered (.call .main command)
  unfold Renderer.step at ordered
  simp only [Renderer.call, absent, idle] at held ordered ⊢
  refine ⟨held, ordered, client.input, client.painted, fun _ called => ?_, fun _ c inside visible => cells c inside visible⟩
  cases called

/-- A redraw leaves nothing behind. -/
theorem redraw_client (client : ClientSide width height map renderer stage missed)
    (absent : renderer.destroying = .absent) (idle : renderer.calls .main = .idle) (visited : unvisited stage' = [])
    (status : PlayerStatus) : ClientSide width height map (renderer.call .main (.redraw status)) stage' [] := by
  refine call_client client absent idle fun c _ _ => ?_
  rw [visited]
  rfl

theorem update_client {change : Change} {rest : List Change}
    (client : ClientSide width height map renderer (.updating (change :: rest)) missed)
    (absent : renderer.destroying = .absent) (idle : renderer.calls .main = .idle) :
    ClientSide width height map (renderer.call .main (shmClientUpdateRenderer change)) (.updating rest) missed := by
  refine call_client client absent idle fun c inside visible => ?_
  have settled := client.cells trivial c inside visible
  simp only [awaited, idle, pending?, Option.toList_none, List.nil_append] at settled
  exact settled

/-- A copy of the changelog is of the sections since the last one, or of none. -/
theorem copy_client (client : ClientSide width height map renderer stage missed) (begun : Begun stage)
    (idle : renderer.calls .main = .idle) (visited : unvisited stage = [])
    (recent : ∀ c, c.InGrid width height → (replayChanges map changes).tiles c = map.tiles c)
    (missing : missed = [] ∨ missed = changes) :
    ClientSide width height map renderer (.updating changes) [] := by
  rcases missing with rfl | rfl
  · refine ⟨client.held, client.ordered, client.input, client.painted, fun _ => client.shown begun,
      fun _ c inside visible => ?_⟩
    have settled := client.cells begun c inside visible
    have nothing : awaited renderer stage [] = [] := by simp [awaited, idle, pending?, visited, updates]
    have copied : awaited renderer (.updating changes) [] = updates changes := by
      simp [awaited, idle, pending?, unvisited, updates]
    rw [nothing] at settled
    rw [copied]
    exact updates_between (recent c inside) map (Or.inr settled)
  · refine turn_client client (fun _ => begun) fun _ => ?_
    rw [visited]
    exact List.append_nil _

/-! ## The server's steps -/

/-- A locked section puts its changes behind all that is still to come. -/
theorem section_client (client : ClientSide width height before renderer stage missed)
    (carried : ∀ c, c.InGrid width height → (replayChanges before changes).tiles c = after.tiles c) :
    ClientSide width height after renderer stage (missed ++ changes) where
  held := client.held
  ordered := client.ordered
  input := client.input
  painted := client.painted
  shown := client.shown
  cells := by
    intro begun c inside visible
    have settled := client.cells begun c inside visible
    have sent : awaited renderer stage (missed ++ changes) = awaited renderer stage missed ++ updates changes := by
      simp [awaited, updates, List.append_assoc]
    unfold outcome at settled ⊢
    rw [← List.foldl_append] at settled ⊢
    rw [sent, ← List.append_assoc]
    exact settle_section settled (carried c inside)

variable {server later : RunningServer} {observer : TickerObserver} {record : FollowerRecord} {gameEnded : Bool}
  {rng : Rng}

theorem section_counts (counts : Counts stage observer.lastTick server.record gameEnded)
    (behind : later.record.behind = server.record.behind + 1)
    (sections : later.record.sections = server.record.sections + 1) :
    Counts stage observer.lastTick later.record gameEnded := by
  unfold Counts at counts ⊢
  rw [behind, sections]
  cases stage with
  | drawing | testing | updating => exact fun running => Nat.succ_le_succ (counts running)
  | waiting => exact Nat.succ_le_succ counts
  | observing | woken | reading | refreshing => exact fun running => Nat.le_succ_of_le (counts running)
  | _ => trivial

theorem end_counts (counts : Counts stage observer.lastTick record false) :
    Counts stage observer.lastTick record true := by
  cases stage with
  | waiting => exact counts
  | drawing | testing | updating | observing | woken | reading | refreshing => exact nofun
  | _ => trivial

/-! ## Whole steps -/

/-- The main thread's next step is the copy of the changelog. -/
def Copies (display : ShmDisplay) : Prop :=
  match display.stage with
  | .refreshing ticksPassed playerState => ¬ display.redraws ticksPassed playerState
  | _ => False

/-- A copy of the changelog comes no later than the second locked section after the
last copy or redraw. -/
def Timely (display : ShmDisplay) : ShmDisplayStep → Prop
  | .main => Copies display → display.server.record.behind ≤ 1
  | _ => True

instance (display : ShmDisplay) : Decidable (Copies display) := by
  unfold Copies
  split <;> infer_instance

instance (display : ShmDisplay) : DecidablePred (Timely display) := by
  intro step
  unfold Timely
  split <;> infer_instance

theorem operate_follows (follows : Follows width height display) (action : Action) :
    Follows width height { display with server := display.server.operate action } := by
  obtain ⟨map, -, -, ended⟩ := operate_rest display.server action
  refine ⟨operate_side follows.server action, ?_, ?_⟩
  · rw [map]
    exact follows.client
  · rw [ended]
    exact follows.loop

/-- The main thread comes to a stage without a step of the renderer. -/
theorem turn_follows (follows : Follows width height display) (stage : ShmDisplayStage)
    (observer : TickerObserver) (context : ShmClientInputContext) (begun : Begun stage → Begun display.stage)
    (same : Begun stage → unvisited stage = unvisited display.stage)
    (present : ¬ Ending stage → display.renderer.destroying = .absent) (idle : display.renderer.calls .main = .idle)
    (counts : display.server.record.ticks < 2 ^ 64 → Counts stage observer.lastTick display.server.record
      display.server.gameState.gameEnded) :
    Follows width height { display with stage, observer, context } where
  server := follows.server
  client := turn_client follows.client begun fun now => by rw [same now]
  loop := ⟨present, fun _ => idle, counts⟩

/-- A call for a redraw, with the counts it begins with. -/
theorem redraw_follows (follows : Follows width height display) (stage : ShmDisplayStage)
    (context : ShmClientInputContext) (visited : unvisited stage = [])
    (present : display.renderer.destroying = .absent) (idle : display.renderer.calls .main = .idle)
    (calling : stage ≠ .waiting)
    (counts : display.server.record.ticks < 2 ^ 64 → Counts stage display.observer.lastTick
      display.server.caughtUp.record display.server.gameState.gameEnded) :
    Follows width height (ShmDisplay.redraw { display with stage, context }) where
  server := caughtUp_side follows.server
  client := redraw_client follows.client present idle visited context.playerStatus
  loop := by
    have still : (display.renderer.call .main (.redraw context.playerStatus)).destroying = .absent := by
      simp only [Renderer.call, present, idle]
      exact present
    exact ⟨fun _ => still, fun waits => absurd waits calling, counts⟩

theorem running_of_not_ends (goes : ¬ display.ends = true) : display.server.gameState.gameEnded = false := by
  simp only [ShmDisplay.ends, Bool.or_eq_true, not_or, Bool.not_eq_true] at goes
  exact goes.2

theorem copy_follows {ticksPassed : Nat} {playerState : Player} (follows : Follows width height display)
    (here : display.stage = .refreshing ticksPassed playerState) (idle : display.renderer.calls .main = .idle)
    (timely : display.server.record.behind ≤ 1) :
    Follows width height
      { display with
        server := display.server.caughtUp
        stage := .updating display.server.gameState.changelog } where
  server := caughtUp_side follows.server
  client := by
    refine copy_client follows.client (by rw [here]; trivial) idle (by rw [here]; rfl) follows.server.recent ?_
    rcases Nat.le_one_iff_eq_zero_or_eq_one.mp timely with zero | one
    · exact Or.inl (follows.server.fresh zero)
    · exact Or.inr (follows.server.single one)
  loop := by
    refine ⟨fun _ => follows.loop.present (by rw [here]; exact not_false), nofun, fun short => ?_⟩
    have counts := follows.loop.counts short
    rw [here] at counts
    exact counts

theorem visit_follows {change : Change} {rest : List Change} (follows : Follows width height display)
    (here : display.stage = .updating (change :: rest)) (idle : display.renderer.calls .main = .idle) :
    Follows width height
      (ShmDisplay.callRenderer { display with stage := .updating rest } (shmClientUpdateRenderer change)) := by
  have present := follows.loop.present (by rw [here]; exact not_false)
  have client := follows.client
  rw [here] at client
  refine ⟨follows.server, update_client client present idle, ?_, nofun, fun short => ?_⟩
  · intro _
    simp only [ShmDisplay.callRenderer, Renderer.call, present, idle]
    exact present
  · have counts := follows.loop.counts short
    rw [here] at counts
    exact counts

theorem destroy_follows (follows : Follows width height display) (here : display.stage = .destroying) :
    Follows width height { display with renderer := display.renderer.destroy } := by
  obtain ⟨calls, queue, stage, screen⟩ := destroy_calls display.renderer
  refine ⟨follows.server, ?_, ?_⟩
  · exact still_client follows.client _ (destroy_held follows.client.held) queue stage screen
      fun user => by rw [calls]
  · refine ⟨fun still => absurd (by rw [here]; trivial) still, fun waits => ?_, follows.loop.counts⟩
    rw [here] at waits
    cases waits

/-- The wait returns with the ticker's turn. -/
theorem wait_follows (follows : Follows width height display) (here : display.stage = .waiting) :
    Follows width height display.advance := by
  have idle := follows.loop.idle here
  unfold ShmDisplay.advance
  simp only [here]
  split
  · exact follows
  · rename_i ticksPassed observer returned
    unfold tickerObserverWaitForNextTick at returned
    split at returned
    · cases returned
    · cases returned
      exact turn_follows follows (.woken _) _ _ (fun _ => by rw [here]; trivial) (fun _ => by rw [here]; rfl)
        (fun _ => follows.loop.present (by rw [here]; exact not_false)) idle
        (fun short running => tick_seen follows.server short running)

theorem refresh_follows {ticksPassed : Nat} {playerState : Player} (follows : Follows width height display)
    (here : display.stage = .refreshing ticksPassed playerState) (idle : display.renderer.calls .main = .idle)
    (timely : Timely display .main) : Follows width height display.advance := by
  unfold ShmDisplay.advance
  simp only [here]
  split
  · refine redraw_follows follows .testing _ rfl (follows.loop.present (by rw [here]; exact not_false)) idle
      (by simp) (fun short => ?_)
    have counts := follows.loop.counts short
    rw [here] at counts
    exact counts
  · rename_i single
    refine copy_follows follows here idle (timely ?_)
    unfold Copies
    rw [here]
    exact single

/-- The steps before the loop. -/
theorem enter_follows (follows : Follows width height display)
    (before : display.stage = .opened ∨ display.stage = .registered ∨ display.stage = .observing)
    (idle : display.renderer.calls .main = .idle) : Follows width height display.advance := by
  have present : display.renderer.destroying = .absent := by
    refine follows.loop.present ?_
    rcases before with here | here | here <;> rw [here] <;> exact not_false
  unfold ShmDisplay.advance
  rcases before with here | here | here
  · simp only [here]
    split
    · exact turn_follows (operate_follows follows .register) .registered _ _ nofun nofun (fun _ => present) idle
        fun _ => trivial
    · exact turn_follows follows .closed _ _ nofun nofun (fun _ => present) idle fun _ => trivial
  · simp only [here]
    exact turn_follows follows .observing _ _ nofun nofun (fun _ => present) idle
      fun short running => tick_seen follows.server short running
  · simp only [here]
    refine redraw_follows follows .drawing _ rfl present idle (by simp) fun short => ?_
    have counts := follows.loop.counts short
    rw [here] at counts
    exact counts

/-- The steps after the loop. -/
theorem leave_follows (follows : Follows width height display)
    (behind : display.stage = .leaving ∨ display.stage = .destroying ∨ display.stage = .closing)
    (idle : display.renderer.calls .main = .idle) : Follows width height display.advance := by
  unfold ShmDisplay.advance
  rcases behind with here | here | here
  · simp only [here]
    split
    · exact turn_follows follows .destroying _ _ nofun nofun (fun still => absurd trivial still) idle
        fun _ => trivial
    · exact follows
  · simp only [here]
    split
    · exact turn_follows follows .closing _ _ nofun nofun (fun still => absurd trivial still) idle
        fun _ => trivial
    · have kept := destroy_follows follows here
      rwa [here] at kept
  · simp only [here]
    split
    · exact turn_follows (operate_follows follows (.unregister display.context.playerId)) .closed _ _ nofun nofun
        (fun still => absurd trivial still) idle fun _ => trivial
    · exact turn_follows follows .closed _ _ nofun nofun (fun still => absurd trivial still) idle
        fun _ => trivial

/-- The tests and the reads of the loop. -/
theorem loop_follows (follows : Follows width height display) (begun : Begun display.stage)
    (idle : display.renderer.calls .main = .idle) (outside : display.stage ≠ .waiting)
    (reads : ∀ ticksPassed playerState, display.stage ≠ .refreshing ticksPassed playerState) :
    Follows width height display.advance := by
  have present : display.renderer.destroying = .absent := by
    refine follows.loop.present fun ending => ?_
    cases here : display.stage <;> rw [here] at begun ending <;> first | exact begun | exact ending
  have counts := follows.loop.counts
  unfold ShmDisplay.advance
  cases here : display.stage with
  | drawing =>
    rw [here] at counts
    exact turn_follows follows .testing _ _ (fun _ => begun) (fun _ => by rw [here]; rfl) (fun _ => present) idle counts
  | testing =>
    rw [here] at counts
    by_cases ends : display.ends = true
    · simp only [ends, if_true]
      exact turn_follows follows .leaving _ _ nofun nofun (fun _ => present) idle fun _ => trivial
    · simp only [ends]
      exact turn_follows follows .waiting _ _ (fun _ => begun) (fun _ => by rw [here]; rfl) (fun _ => present) idle
        fun short => counts short (running_of_not_ends ends)
  | woken ticksPassed =>
    rw [here] at counts
    by_cases ends : display.ends = true
    · simp only [ends, if_true]
      exact turn_follows follows .leaving _ _ nofun nofun (fun _ => present) idle fun _ => trivial
    · simp only [ends]
      exact turn_follows follows (.reading ticksPassed) _ _ (fun _ => begun) (fun _ => by rw [here]; rfl)
        (fun _ => present) idle counts
  | reading ticksPassed =>
    rw [here] at counts
    exact turn_follows follows (.refreshing ticksPassed _) _ _ (fun _ => begun) (fun _ => by rw [here]; rfl)
      (fun _ => present) idle counts
  | updating changes =>
    rw [here] at counts
    cases changes with
    | nil =>
      exact turn_follows follows .testing _ _ (fun _ => begun) (fun _ => by rw [here]; rfl) (fun _ => present) idle
        counts
    | cons change rest => exact visit_follows follows here idle
  | waiting => exact absurd here outside
  | refreshing ticksPassed playerState => exact absurd here (reads ticksPassed playerState)
  | _ =>
    rw [here] at begun
    exact absurd begun not_false

theorem advance_follows (follows : Follows width height display) (idle : display.renderer.calls .main = .idle)
    (timely : Timely display .main) : Follows width height display.advance := by
  cases here : display.stage with
  | opened => exact enter_follows follows (Or.inl here) idle
  | registered => exact enter_follows follows (Or.inr (Or.inl here)) idle
  | observing => exact enter_follows follows (Or.inr (Or.inr here)) idle
  | waiting => exact wait_follows follows here
  | refreshing ticksPassed playerState => exact refresh_follows follows here idle timely
  | leaving => exact leave_follows follows (Or.inl here) idle
  | destroying => exact leave_follows follows (Or.inr (Or.inl here)) idle
  | closing => exact leave_follows follows (Or.inr (Or.inr here)) idle
  | closed =>
    simp only [ShmDisplay.advance, here]
    exact follows
  | _ => exact loop_follows follows (by rw [here]; trivial) idle (by simp [here]) (by simp [here])

theorem lockedSection_follows (sizes : Sizes width height) (follows : Follows width height display)
    (ran : display.step (.lockedSection rng) = .ok next) : Follows width height next := by
  obtain ⟨server, ticked, ran⟩ := bind_ok.mp ran
  cases ran
  obtain ⟨side, sectioned⟩ := lockedSection_side sizes follows.server ticked
  cases sectioned with
  | idle same =>
    rw [same]
    exact follows
  | ran carries missed behind sections ticks ended =>
    refine ⟨side, ?_, follows.loop.present, follows.loop.idle, fun short => ?_⟩
    · rw [missed]
      exact section_client follows.client carries
    · rw [ended]
      rw [ticks] at short
      exact section_counts (follows.loop.counts short) behind sections

theorem tickerTick_follows (follows : Follows width height display) :
    Follows width height { display with server := display.server.tickerTick } := by
  have side := tickerTick_side follows.server
  unfold RunningServer.tickerTick at side ⊢
  split
  case isTrue ticking =>
    rw [if_pos ticking] at side
    exact ⟨side, follows.client, follows.loop.present, follows.loop.idle,
      fun short => follows.loop.counts (Nat.lt_of_succ_lt short)⟩
  case isFalse => exact follows

theorem endGame_follows (follows : Follows width height display) :
    Follows width height { display with server := display.server.endGame } := by
  have side := endGame_side follows.server
  unfold RunningServer.endGame at side ⊢
  split
  case isTrue => exact follows
  case isFalse free =>
    rw [if_neg free] at side
    refine ⟨side, follows.client, follows.loop.present, follows.loop.idle, fun short => ?_⟩
    have counts := follows.loop.counts short
    rw [not_or, Bool.not_eq_true, Bool.not_eq_true] at free
    rw [free.2] at counts
    exact end_counts counts

/-- A step of the renderer or of the input thread's call keeps the main thread where it is. -/
theorem renderer_follows (follows : Follows width height display) (later : Renderer)
    (client : ClientSide width height display.server.gameState.map later display.stage display.server.record.missed)
    (destroying : display.renderer.destroying = .absent → later.destroying = .absent)
    (idle : display.renderer.calls .main = .idle → later.calls .main = .idle) :
    Follows width height { display with renderer := later } :=
  ⟨follows.server, client, fun still => destroying (follows.loop.present still),
    fun waits => idle (follows.loop.idle waits), follows.loop.counts⟩

theorem resize_follows (follows : Follows width height display) (status : PlayerStatus) :
    Follows width height { display with renderer := display.renderer.call .input (.redraw status) } := by
  refine renderer_follows follows _ (resize_client follows.client status) ?_ ?_
  · intro absent
    simp only [Renderer.call, absent]
    split <;> exact absent
  · intro idle
    simp only [Renderer.call]
    split <;> exact idle

theorem proceed_follows (follows : Follows width height display) (user : RendererUser) :
    Follows width height { display with renderer := display.renderer.proceed user } := by
  refine renderer_follows follows _ (proceed_client follows.client user) ?_ ?_
  · intro absent
    unfold Renderer.proceed
    cases display.renderer.calls user with
    | calling command =>
      dsimp only
      split <;> exact absent
    | _ => exact absent
  · intro idle
    cases user with
    | main =>
      simp only [Renderer.proceed, idle]
    | input =>
      unfold Renderer.proceed
      cases display.renderer.calls .input with
      | calling command =>
        dsimp only
        split <;> exact idle
      | _ => exact idle

/-- No step loses sight of the map, as long as the changelog is copied in time. -/
theorem step_follows (sizes : Sizes width height) (follows : Follows width height display)
    (step : ShmDisplayStep) (timely : Timely display step) (ran : display.step step = .ok next) :
    Follows width height next := by
  cases step with
  | lockedSection rng => exact lockedSection_follows sizes follows ran
  | tickerTick =>
    cases ran
    exact tickerTick_follows follows
  | endGame =>
    cases ran
    exact endGame_follows follows
  | others action =>
    simp only [ShmDisplay.step] at ran
    split at ran
    · cases ran
      exact follows
    · cases ran
      exact operate_follows follows action
  | main =>
    simp only [ShmDisplay.step] at ran
    split at ran
    case h_1 idle =>
      cases ran
      exact advance_follows follows idle timely
    case h_2 =>
      cases ran
      exact follows
  | press key =>
    cases ran
    split
    · exact ⟨follows.server, follows.client, follows.loop⟩
    · exact follows
  | exitPress =>
    cases ran
    split
    · exact ⟨follows.server, follows.client, follows.loop⟩
    · exact follows
  | call =>
    simp only [ShmDisplay.step] at ran
    split at ran
    · rename_i action _
      cases ran
      have kept := operate_follows follows action
      exact ⟨kept.server, kept.client, kept.loop⟩
    · cases ran
      exact follows
  | resize =>
    cases ran
    split
    · exact resize_follows follows _
    · exact follows
  | render =>
    cases ran
    obtain ⟨-, calls, destroying⟩ := render_rest display.renderer display.server.gameState.map
    refine renderer_follows follows _ (render_client follows.client follows.server.steady.sized) ?_ ?_
    · exact fun absent => destroying.trans absent
    · exact fun idle => (congrFun calls .main).trans idle
  | proceed user =>
    cases ran
    exact proceed_follows follows user
  | spuriousWake =>
    cases ran
    exact renderer_follows follows _ (signal_client follows.client) id id

/-- When the main thread waits for a tick that has not come yet and the renderer has
drawn what is in the queue, the terminal shows every cell of the map that it has a
place for, whatever the interleaving of the three threads and the server has been. -/
theorem shmDisplay_follows {template : MapTemplate} {map : Map} {directions : Nat → Direction} {cache : PlayerDataCache}
    {screen : Screen} {steps : List ShmDisplayStep} (wide : minMapWidth ≤ template.width)
    (widthBound : template.width ≤ maxMapWidth) (high : minMapHeight ≤ template.height)
    (heightBound : template.height ≤ maxMapHeight)
    (timely : Guarded ShmDisplay.step Timely
      (ShmDisplay.start (Game.start map directions cache template) screen) steps)
    (ran : (ShmDisplay.start (Game.start map directions cache template) screen).run steps = .ok display)
    (short : display.server.record.ticks < 2 ^ 64) (waits : display.stage = .waiting) (released : display.server.ticking = false)
    (caught : display.observer.lastTick = display.server.gameState.ticker.tick)
    (empty : display.renderer.queue = []) (outside : ¬ Busy display.renderer.stage) :
    ∀ c, display.server.gameState.map.InBounds c → Visible display.renderer.screen c →
      display.renderer.screen.front (c.column + 1) (c.row + 1) =
        tileCell (mapGetTileState display.server.gameState.map c) := by
  have sizes := sizes_of_limits wide widthBound high heightBound
  have follows := run_preserves (Follows template.width template.height) steps
    (fun display step _ next follows timely ran => step_follows sizes follows step timely ran)
    (start_follows map directions cache template screen) timely ran
  have idle := follows.loop.idle waits
  have counts := follows.loop.counts short
  rw [waits] at counts
  have nothing := caught_up follows.server short released caught counts
  intro c inside visible
  have settled := follows.client.cells (by rw [waits]; trivial) c ((inGrid_of_steady follows.server.steady).mp inside) visible
  have shown := follows.client.shown (by rw [waits]; trivial) (by rw [idle]; rfl) outside empty
  have hand : inHand display.renderer.stage = [] := by
    cases stage : display.renderer.stage <;> first | rfl | exact absurd (by rw [stage]; trivial) outside
  rw [shown]
  simpa [awaited, idle, pending?, waits, unvisited, nothing, updates, outcome, hand, empty] using settled

/-! ## A run -/

/-- The call of the renderer that the client has begun is finished. -/
private def handedOver : List ShmDisplayStep := List.replicate 4 (.proceed .main)

open SnakeRuns in
/-- A tick, up to the client's look at its player. -/
private def ticked (drawn : List Nat) : List ShmDisplayStep :=
  [.lockedSection (drawing drawn), .tickerTick, .main, .main, .main, .main]

/-- A player joins, its client redraws for the first tick and copies the changelog of
the second, and the renderer comes to draw after that. -/
def twoTicks : List ShmDisplayStep :=
  List.flatten [[.main, .main, .main], handedOver, [.main, .main], ticked [2, 2, 9, 9], handedOver,
    .main :: ticked [], .main :: handedOver, .main :: handedOver, .main :: handedOver, [.main, .main],
    List.replicate 20 .render]

private theorem twoTicks_timely : Guarded ShmDisplay.step Timely
    (ShmDisplay.start SnakeRuns.emptyGame emptyScreen) twoTicks := by decide +kernel

private theorem twoTicks_waits : ∃ display, (ShmDisplay.start SnakeRuns.emptyGame emptyScreen).run twoTicks = .ok display ∧
    display.server.record.ticks < 2 ^ 64 ∧ display.stage = .waiting ∧ display.server.ticking = false ∧
    display.observer.lastTick = display.server.gameState.ticker.tick ∧ display.renderer.queue = [] ∧
    ¬ Busy display.renderer.stage ∧
    (display.server.gameState.map.InBounds ⟨3, 2⟩ ∧ Visible display.renderer.screen ⟨3, 2⟩ ∧
      tileCell (mapGetTileState display.server.gameState.map ⟨3, 2⟩) =
        { character := '*', foreground := .red, background := .default }) := by decide +kernel

/-- The snake's head is where the second tick has moved it. -/
theorem shmDisplay_follows_twoTicks : ∃ display,
    (ShmDisplay.start SnakeRuns.emptyGame emptyScreen).run twoTicks = .ok display ∧
      display.renderer.screen.front 3 4 = { character := '*', foreground := .red, background := .default } := by
  obtain ⟨display, ran, short, waits, released, caught, empty, outside, inside, visible, head⟩ := twoTicks_waits
  refine ⟨display, ran, ?_⟩
  rw [← head]
  exact shmDisplay_follows (by decide) (by decide) (by decide) (by decide) twoTicks_timely ran short waits released caught
    empty outside ⟨3, 2⟩ inside visible

end SnakePosix.SharedScreen
