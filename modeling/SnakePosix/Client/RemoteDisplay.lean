import SnakePosix.Client.Display
import SnakePosix.Server.Sections

/-! The whole way from the server's map to a remote player's screen: the send thread of
`client_connection.c`, the bytes between the two sockets and the threads of
`socket_client_run`. Every read is exact here, and so is every write that does not break
off; what happens to a message that comes in pieces is the subject of `SocketCalls`. -/
namespace SnakePosix

/-! ## `client_connection_send_thread_main` -/

inductive SendThreadStage where
  /-- Before `player_manager_register`. -/
  | accepted
  | registered
  /-- Before `ticker_observer_init`. -/
  | connected
  | observing
  /-- Before the first look at the player. -/
  | looking
  /-- At the condition of the loop. -/
  | testing
  | waiting
  | woken (ticksPassed : Nat)
  | reading (ticksPassed : Nat)
  /-- Before the copy of the map or the changelog. -/
  | copying (ticksPassed : Nat)
  /-- In `client_connection_send_changelog`, with the changes not sent yet. -/
  | sending (changes : List Change)
  | leaving
  | closed
  deriving DecidableEq

structure RemoteDisplay where
  server : RunningServer
  stage : SendThreadStage
  playerId : Nat
  observer : TickerObserver
  isFirstTick : Bool
  lastPlayerState : Player
  shutdown : Bool
  /-- The bytes the send thread has written and the client has not read. -/
  bytes : List UInt8
  display : Display

inductive RemoteStep where
  | lockedSection (rng : Rng)
  | tickerTick
  | endGame
  /-- A call of the player manager, by another client or by the receive thread. -/
  | operate (action : Action)
  /-- The send thread goes on. A message it writes in this step may break off after
  some of its bytes. -/
  | send (broken : Option Nat)
  /-- `client_connection_shutdown` in another thread. -/
  | shutdown
  /-- The client reads a message. -/
  | receive
  /-- The client goes on in another way. -/
  | client (step : DisplayStep)

inductive RemoteFault where
  | halted (halt : Halt)
  | outOfRange
  deriving DecidableEq, Repr

/-- `socket_message_serialize_to_socket` under `SHUTDOWN_IF_FAIL`, each byte written once. -/
def RemoteDisplay.write (self : RemoteDisplay) (message : SocketMessage) (broken : Option Nat) : RemoteDisplay :=
  match broken with
  | none => { self with bytes := self.bytes ++ socketMessageSerialize message }
  | some written =>
    { self with bytes := self.bytes ++ (socketMessageSerialize message).take written, shutdown := true }

/-- The loop is to end. -/
def RemoteDisplay.ends (self : RemoteDisplay) : Bool := self.shutdown || self.server.gameState.gameEnded

/-- The player's state is sent when it is new. -/
def RemoteDisplay.sendPlayerState (self : RemoteDisplay) (broken : Option Nat) : RemoteDisplay :=
  let playerState := playerManagerGetPlayerState self.server.game.manager self.playerId
  if self.isFirstTick ∨ playerState.direction ≠ self.lastPlayerState.direction ∨
      playerState.status ≠ self.lastPlayerState.status then
    { self with lastPlayerState := playerState, isFirstTick := false }.write
      (socketMessageInitPlayerState playerState.status playerState.direction) broken
  else self

def RemoteDisplay.advance (self : RemoteDisplay) (broken : Option Nat) : RemoteDisplay :=
  match self.stage with
  | .accepted =>
    match playerManagerRegister self.server.game.manager with
    | some (playerId, _) => { self with server := self.server.operate .register, playerId, stage := .registered }
    | none => { self with stage := .closed }.write socketMessageInitGameFull broken
  | .registered => { self with stage := .connected }.write socketMessageInitConnected broken
  | .connected =>
    { self with observer := tickerObserverInit self.server.gameState.ticker, stage := .observing }
  | .observing =>
    { self with server := self.server.caughtUp, stage := .looking }.write
      (socketMessageInitMap self.server.gameState.map) broken
  | .looking =>
    { self with
      isFirstTick := true
      lastPlayerState := playerManagerGetPlayerState self.server.game.manager self.playerId
      stage := .testing }
  | .testing => { self with stage := if self.ends then .leaving else .waiting }
  | .waiting =>
    match tickerObserverWaitForNextTick self.observer self.server.gameState.ticker with
    | none => self
    | some (ticksPassed, observer) => { self with observer, stage := .woken ticksPassed }
  | .woken ticksPassed => { self with stage := if self.ends then .leaving else .reading ticksPassed }
  | .reading ticksPassed => { self with stage := .copying ticksPassed }.sendPlayerState broken
  | .copying ticksPassed =>
    if ticksPassed > 1 then
      { self with server := self.server.caughtUp, stage := .testing }.write
        (socketMessageInitMap self.server.gameState.map) broken
    else
      { self with server := self.server.caughtUp, stage := .sending self.server.gameState.changelog }
  | .sending [] => { self with stage := .testing }
  | .sending (change :: rest) =>
    { self with stage := if broken.isSome then .testing else .sending rest }.write
      (socketMessageInitTileChange change.coordinates.row change.coordinates.column change.tileData) broken
  | .leaving =>
    let parted := if self.server.gameState.gameEnded then self.write socketMessageInitGameEnd broken else self
    { parted with
      server := self.server.operate (.unregister self.playerId)
      shutdown := true
      stage := .closed }
  | .closed => self

/-! ## The client's end -/

/-- The main thread is at its read. -/
def Display.reads (self : Display) : Bool :=
  match self.renderer.destroying, self.renderer.calls .main, self.client.state with
  | .absent, .idle, .connecting | .absent, .idle, .playing => true
  | _, _, _ => false

/-- An exact read, which waits until the bytes of a whole message are there. -/
def RemoteDisplay.receive (self : RemoteDisplay) : Except RemoteFault RemoteDisplay :=
  if self.display.reads then
    match socketMessageDeserializeFromSocket self.bytes with
    | none => .ok self
    | some (message, bytes) =>
      match self.display.step (.message message) with
      | .ok display => .ok { self with bytes, display }
      | .error _ => .error .outOfRange
  else .ok self

/-- Nobody but the send thread gives the slot back. -/
def RemoteDisplay.allows (self : RemoteDisplay) : Action → Bool
  | .unregister playerId => match self.stage with
    | .accepted | .closed => true
    | _ => playerId != self.playerId
  | _ => true

/-- A step that is not the next one of its thread does nothing. -/
def RemoteDisplay.step (self : RemoteDisplay) : RemoteStep → Except RemoteFault RemoteDisplay
  | .lockedSection rng =>
    match self.server.lockedSection rng with
    | .ok server => .ok { self with server }
    | .error halt => .error (.halted halt)
  | .tickerTick => .ok { self with server := self.server.tickerTick }
  | .endGame => .ok { self with server := self.server.endGame }
  | .operate action => .ok (if self.allows action then { self with server := self.server.operate action } else self)
  | .send broken => .ok (self.advance broken)
  | .shutdown => .ok { self with shutdown := true }
  | .receive => self.receive
  | .client step =>
    match step with
    | .message _ => .ok self
    | _ =>
      match self.display.step step with
      | .ok display => .ok { self with display }
      | .error _ => .error .outOfRange

def RemoteDisplay.run (self : RemoteDisplay) (steps : List RemoteStep) : Except RemoteFault RemoteDisplay :=
  steps.foldlM RemoteDisplay.step self

/-- A connection just accepted by a server just initialised; `tiles` is what the memory
of the client's map held. -/
def RemoteDisplay.start (game : Game) (tiles : Coordinates → MapTile) (screen : Screen) : RemoteDisplay where
  server := .start game
  stage := .accepted
  playerId := 0
  observer := { lastTick := 0 }
  isFirstTick := true
  lastPlayerState := { status := .notConnected, direction := .up }
  shutdown := false
  bytes := []
  display := .start tiles screen

end SnakePosix
