import SnakePosix.Client.Renderer
import SnakePosix.Client.ShmClient
import SnakePosix.Server.Sections

/-! `shm_client_run` from its registration to its end, with the three threads it
consists of: the main thread, the input thread with the handlers of the keys and of a
resize, and the renderer, which draws from the map the server writes. -/
namespace SnakePosix

/-! ## The main thread -/

inductive ShmDisplayStage where
  /-- Before `player_manager_register`. -/
  | opened
  | registered
  | observing
  /-- The first redraw; `input_init` comes next. -/
  | drawing
  /-- At the condition of the loop. -/
  | testing
  | waiting
  /-- At the test after the wait. -/
  | woken (ticksPassed : Nat)
  | reading (ticksPassed : Nat)
  | refreshing (ticksPassed : Nat) (playerState : Player)
  /-- In `syn_changelog_for_each_copy`, with the changes not visited yet. -/
  | updating (changes : List Change)
  /-- At `input_destroy`. -/
  | leaving
  | destroying
  | closing
  | closed
  deriving DecidableEq

/-- The input thread runs. -/
def ShmDisplayStage.listens : ShmDisplayStage → Bool
  | .testing | .waiting | .woken _ | .reading _ | .refreshing .. | .updating _ | .leaving => true
  | _ => false

/-- The callback `shm_client_update_renderer`. -/
def shmClientUpdateRenderer (change : Change) : RendererCommand :=
  .update change.coordinates.row change.coordinates.column change.tileData

structure ShmDisplay where
  server : RunningServer
  stage : ShmDisplayStage
  observer : TickerObserver
  context : ShmClientInputContext
  exit : Bool
  /-- The call of the player manager a key handler is about to make. -/
  pending : Option Action
  renderer : Renderer

inductive ShmDisplayStep where
  | lockedSection (rng : Rng)
  | tickerTick
  | endGame
  /-- A call of the player manager by another client. -/
  | others (action : Action)
  | main
  | press (key : Key)
  | exitPress
  | call
  | resize
  | render
  /-- A call of the renderer goes on. -/
  | proceed (user : RendererUser)
  | spuriousWake

def ShmDisplay.callRenderer (self : ShmDisplay) (command : RendererCommand) : ShmDisplay :=
  { self with renderer := self.renderer.call .main command }

def ShmDisplay.redraw (self : ShmDisplay) : ShmDisplay :=
  { self with server := self.server.caughtUp }.callRenderer (.redraw self.context.playerStatus)

/-- The loop is to end. -/
def ShmDisplay.ends (self : ShmDisplay) : Bool := self.exit || self.server.gameState.gameEnded

/-- The end of an iteration compares the player's state with the last one. -/
def ShmDisplay.redraws (self : ShmDisplay) (ticksPassed : Nat) (playerState : Player) : Prop :=
  ticksPassed > 1 ∨ playerState.status ≠ self.context.playerStatus

instance (self : ShmDisplay) (ticksPassed : Nat) (playerState : Player) :
    Decidable (self.redraws ticksPassed playerState) := inferInstanceAs (Decidable (_ ∨ _))

/-- The main thread goes on, outside of the renderer's functions. -/
def ShmDisplay.advance (self : ShmDisplay) : ShmDisplay :=
  match self.stage with
  | .opened =>
    match playerManagerRegister self.server.game.manager with
    | some (playerId, _) =>
      { self with
        server := self.server.operate .register
        context := { self.context with playerId }
        stage := .registered }
    | none => { self with stage := .closed }
  | .registered =>
    { self with observer := tickerObserverInit self.server.gameState.ticker, stage := .observing }
  | .observing =>
    let playerState := playerManagerGetPlayerState self.server.game.manager self.context.playerId
    ShmDisplay.redraw { self with
      context := { self.context with
        playerStatus := playerState.status
        lastPlayerDirection := playerState.direction }
      stage := .drawing }
  | .drawing => { self with stage := .testing }
  | .testing => { self with stage := if self.ends then .leaving else .waiting }
  | .waiting =>
    match tickerObserverWaitForNextTick self.observer self.server.gameState.ticker with
    | none => self
    | some (ticksPassed, observer) => { self with observer, stage := .woken ticksPassed }
  | .woken ticksPassed => { self with stage := if self.ends then .leaving else .reading ticksPassed }
  | .reading ticksPassed =>
    let playerState := playerManagerGetPlayerState self.server.game.manager self.context.playerId
    { self with
      context := { self.context with lastPlayerDirection := playerState.direction }
      stage := .refreshing ticksPassed playerState }
  | .refreshing ticksPassed playerState =>
    if self.redraws ticksPassed playerState then
      ShmDisplay.redraw { self with
        context := { self.context with playerStatus := playerState.status }
        stage := .testing }
    else
      { self with server := self.server.caughtUp, stage := .updating self.server.gameState.changelog }
  | .updating [] => { self with stage := .testing }
  | .updating (change :: rest) =>
    ShmDisplay.callRenderer { self with stage := .updating rest } (shmClientUpdateRenderer change)
  | .leaving =>
    -- The input thread is joined, so it is in none of its handlers.
    match self.renderer.calls .input, self.pending with
    | .idle, none => { self with stage := .destroying }
    | _, _ => self
  | .destroying =>
    match self.renderer.destroying with
    | .joined => { self with stage := .closing }
    | _ => { self with renderer := self.renderer.destroy }
  | .closing =>
    { self with
      server := if self.exit then self.server.operate (.unregister self.context.playerId) else self.server
      stage := .closed }
  | .closed => self

/-! ## All threads -/

/-- The slot the client holds. -/
def ShmDisplay.slot? (self : ShmDisplay) : Option Nat :=
  match self.stage with
  | .opened | .closed => none
  | _ => some self.context.playerId

/-- The input thread is between two events. -/
def ShmDisplay.polls (self : ShmDisplay) : Bool :=
  match self.renderer.calls .input, self.pending with
  | .idle, none => self.stage.listens
  | _, _ => false

/-- A step that is not the next one of its thread does nothing. The other clients
call the player manager for their own slots only. -/
def ShmDisplay.step (self : ShmDisplay) : ShmDisplayStep → Except Halt ShmDisplay
  | .lockedSection rng => do
    let server ← self.server.lockedSection rng
    .ok { self with server }
  | .tickerTick => .ok { self with server := self.server.tickerTick }
  | .endGame => .ok { self with server := self.server.endGame }
  | .others action =>
    if action.slot?.isSome ∧ action.slot? = self.slot? then .ok self
    else .ok { self with server := self.server.operate action }
  | .main =>
    match self.renderer.calls .main with
    | .idle => .ok self.advance
    | _ => .ok self
  | .press key => .ok (if self.polls then { self with pending := inputCallbacks key self.context } else self)
  | .exitPress => .ok (if self.polls then { self with exit := true } else self)
  | .call =>
    match self.pending with
    | some action => .ok { self with server := self.server.operate action, pending := none }
    | none => .ok self
  | .resize =>
    .ok (if self.polls then
      { self with renderer := self.renderer.call .input (.redraw self.context.playerStatus) } else self)
  | .render => .ok { self with renderer := self.renderer.render self.server.gameState.map }
  | .proceed user => .ok { self with renderer := self.renderer.proceed user }
  | .spuriousWake => .ok { self with renderer := self.renderer.signal }

def ShmDisplay.run (self : ShmDisplay) (steps : List ShmDisplayStep) : Except Halt ShmDisplay :=
  steps.foldlM ShmDisplay.step self

/-- A client that has opened the memory of a server just initialised, on a terminal of
any size and content. -/
def ShmDisplay.start (game : Game) (screen : Screen) : ShmDisplay where
  server := .start game
  stage := .opened
  observer := { lastTick := 0 }
  context := { playerId := 0, playerStatus := .notConnected, lastPlayerDirection := .up }
  exit := false
  pending := none
  renderer := .start screen

end SnakePosix
