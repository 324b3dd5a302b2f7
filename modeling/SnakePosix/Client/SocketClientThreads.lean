import SnakePosix.Client.ShmClient
import SnakePosix.Client.SocketClient
import SnakePosix.Server.RecordArray

/-! The two threads of `socket_client_run`, which write to one socket, and a session:
the client at the other end of one connection of the server. A message is written whole,
or not at all if `write` fails. Whatever the main thread may be sent, it is sent here:
the bytes on their way to the client are left out. -/
namespace SnakePosix

/-! ## The key handlers -/

def socketClientOnArrowPress (arrow : Arrow) (lastDirection : Direction) : Option SocketMessage :=
  if arrow = .up ∧ lastDirection ≠ .down then some (socketMessageInitDirection .up)
  else if arrow = .down ∧ lastDirection ≠ .up then some (socketMessageInitDirection .down)
  else if arrow = .left ∧ lastDirection ≠ .right then some (socketMessageInitDirection .left)
  else if arrow = .right ∧ lastDirection ≠ .left then some (socketMessageInitDirection .right)
  else none

/-- The message a callback of `socket_client_run` sends. -/
def socketClientInputCallbacks : Key → Direction → Option SocketMessage
  | .arrow arrow, lastDirection => socketClientOnArrowPress arrow lastDirection
  | .pause, _ => some socketMessageInitPause
  | .unpause, _ => some socketMessageInitUnpause
  | .respawn, _ => some socketMessageInitRespawn

/-! ## `socket_client_run` -/

/-- Where the main thread is. -/
inductive MainStage where
  /-- About to send the magic bytes. -/
  | connecting
  /-- They could not be sent. -/
  | failed
  /-- At the loop's condition, with the input thread started. -/
  | testing
  /-- In `socket_message_deserialize_from_socket`. -/
  | receiving
  /-- Past the loop. -/
  | leaving
  /-- In `input_destroy`. -/
  | stopping
  | closed
  deriving DecidableEq, Repr

structure SocketClientThreads where
  main : MainStage
  client : SocketClient
  exit : Bool
  /-- The message that the input thread is about to write. -/
  pressed : Option SocketMessage

inductive SocketClientStep where
  /-- The main thread goes on, with what it receives if it waits for a message. -/
  | proceed (received : Option SocketMessage) (delivered : Bool)
  | press (key : Key)
  | exitPress
  | write (delivered : Bool)

/-- The main thread, and the message it writes; `none` is an access out of range. -/
def SocketClientThreads.proceed (self : SocketClientThreads) (received : Option SocketMessage) (delivered : Bool) :
    Option (SocketClientThreads × Option SocketMessage) :=
  match self.main with
  | .connecting =>
    if delivered then some ({ self with main := .testing }, some (socketMessageInitMagicBytes gameMagicBytes))
    else some ({ self with main := .failed }, none)
  | .testing =>
    if self.client.state = .connecting ∨ self.client.state = .playing ∧ self.exit = false then
      some ({ self with main := .receiving }, none)
    else some ({ self with main := .leaving }, none)
  | .receiving =>
    match received with
    | none => some ({ self with main := .leaving, client := { self.client with state := .connectionError } }, none)
    | some message => do
      let client ← socketClientProcess self.client message
      some ({ self with main := .testing, client }, none)
  | .leaving =>
    some ({ self with main := .stopping }, if self.exit && delivered then some socketMessageInitDisconnect else none)
  | .stopping => some (if self.pressed.isNone then { self with main := .closed } else self, none)
  | .failed | .closed => some (self, none)

/-- The input thread polls for an event. -/
def SocketClientThreads.polling (self : SocketClientThreads) : Bool :=
  match self.main with
  | .connecting | .failed | .closed => false
  | .testing | .receiving | .leaving | .stopping => self.pressed.isNone

def SocketClientThreads.press (self : SocketClientThreads) (key : Key) : SocketClientThreads :=
  if self.polling then { self with pressed := socketClientInputCallbacks key self.client.lastDirection } else self

def SocketClientThreads.exitPress (self : SocketClientThreads) : SocketClientThreads :=
  if self.polling then { self with exit := true } else self

/-- What the input thread has built it writes, if `write` does not fail. -/
def SocketClientThreads.write (self : SocketClientThreads) (delivered : Bool) :
    SocketClientThreads × Option SocketMessage :=
  ({ self with pressed := none }, if delivered then self.pressed else none)

def SocketClientThreads.step (self : SocketClientThreads) :
    SocketClientStep → Option (SocketClientThreads × Option SocketMessage)
  | .proceed received delivered => self.proceed received delivered
  | .press key => some (self.press key, none)
  | .exitPress => some (self.exitPress, none)
  | .write delivered => some (self.write delivered)

/-- The socket is closed at the client's end. -/
def SocketClientThreads.hangsUp (self : SocketClientThreads) : Bool := self.main = .failed || self.main = .closed

/-- Before it has sent anything; `tiles` is what the memory of its map held. -/
def SocketClientThreads.start (tiles : Coordinates → MapTile) : SocketClientThreads where
  main := .connecting
  client :=
    { state := .connecting
      map := mapInit { tiles, width := 0, height := 0 } 5 5
      lastStatus := .notConnected
      lastDirection := .up }
  exit := false
  pressed := none

/-! ## Sessions -/

structure Session (ι κ : Type) where
  network : Network ι κ
  client : SocketClientThreads

inductive SessionStep (ι κ : Type) where
  | server (step : NetworkStep ι κ)
  | client (step : SocketClientStep)

variable {ι κ : Type} [DecidableEq ι] [DecidableEq κ]

/-- Whose peer the step is one of. -/
def NetworkStep.peer : NetworkStep ι κ → Option ι
  | .arrive connection _ | .hangUp connection => some connection
  | _ => none

/-- What the client has written arrives, in order. -/
def Network.hear (self : Network ι κ) (k : ι) (written : Option SocketMessage) (hangsUp : Bool) : Network ι κ :=
  { self with
    inbound := Function.update self.inbound k (self.inbound k ++ (written.map socketMessageSerialize).getD [])
    hungUp := Function.update self.hungUp k (self.hungUp k || hangsUp) }

/-- On connection `k` nobody but the client speaks to the server. -/
def Session.step (k : ι) (self : Session ι κ) : SessionStep ι κ → Except Unit (Session ι κ)
  | .server step =>
    if step.peer = some k then .ok self
    else
      match self.network.step step with
      | .ok network => .ok { self with network }
      | .error _ => .error ()
  | .client step =>
    match self.client.step step with
    | some (client, written) => .ok { network := self.network.hear k written client.hangsUp, client }
    | none => .error ()

def Session.run (k : ι) (self : Session ι κ) (steps : List (SessionStep ι κ)) : Except Unit (Session ι κ) :=
  steps.foldlM (Session.step k) self

/-- The same, with the server's records in their array. -/
def Session.stepArray (k : ι) (state : Session ι κ × RecordArray ι) (step : SessionStep ι κ × Nat) :
    Except Unit (Session ι κ × RecordArray ι) :=
  match step.1 with
  | .server serverStep =>
    if serverStep.peer = some k then .ok state
    else do
      let (network, array) ← Network.stepArray (state.1.network, state.2) (serverStep, step.2)
      .ok ({ state.1 with network }, array)
  | .client _ => do
    let session ← state.1.step k step.1
    .ok (session, state.2)

def Session.runArray (k : ι) (state : Session ι κ × RecordArray ι) (steps : List (SessionStep ι κ × Nat)) :
    Except Unit (Session ι κ × RecordArray ι) :=
  steps.foldlM (Session.stepArray k) state

/-- Nobody has connected yet. -/
def Session.start (room : Room (ι ⊕ κ)) (records : ι → ClientConnection) (memory : Nat → UInt8)
    (tiles : Coordinates → MapTile) : Session ι κ where
  network := Network.start room records memory
  client := SocketClientThreads.start tiles

end SnakePosix
