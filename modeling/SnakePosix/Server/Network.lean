import SnakePosix.Libsnake.Socket
import SnakePosix.Server.ConnectionHandler
import SnakePosix.Server.Room

/-! The server's threads at its sockets: the handler that accepts, and for each
connection the thread that sends and the thread that receives, beside the ticking
server and the shared-memory clients. `ι` names the accepted connections, `κ` the
shared-memory clients. The record of a connection stays where it is; `RecordArray` has
the same threads with their records in the handler's array, which may move. Of what is
sent to a client only whether the sending fails is kept. -/
namespace SnakePosix

def gameMagicBytes : List UInt8 := [42, 37, 13, 31]

/-! ## `client_connection.c` -/

/-- Where `client_connection_send_thread_main` is. -/
inductive SendStage where
  | absent
  /-- The handler has refused the connection. -/
  | rejected
  | starting
  /-- Inside `player_manager_register`. -/
  | registering
  | refused
  | turningAway
  | turnedAway
  | greeting
  | observing
  /-- At the loop's condition. -/
  | testing
  | waiting
  /-- At the test after the wait. -/
  | woken
  | refreshing
  | updating
  /-- Past the loop. -/
  | leaving
  | unregistering
  | shuttingDown
  | closing
  | ended
  deriving DecidableEq, Repr

/-- Where `client_connection_receive_thread_main` is. -/
inductive ReceiveStage (ι : Type) where
  | absent
  /-- At the loop's condition. -/
  | testing
  | reading (reader : SocketReader ι)
  /-- A message has passed the test of `shutdown_`. -/
  | handling (message : SocketMessage)
  /-- About to call the player manager. -/
  | calling (call : SlotCall)
  | disconnecting
  /-- About to print 'Invalid message type received for current state.' -/
  | complaining
  | ended

/-- The branches of the receive thread on a message. -/
def clientConnectionHandle {ι : Type} (self : ClientConnection) (message : SocketMessage) : ReceiveStage ι :=
  match message with
  | .direction direction =>
    if self.playerId ≠ playerIdNotRegistered then .calling (.setPlayerDirection self.playerId direction)
    else .complaining
  | .disconnect => .disconnecting
  | .pause => if self.playerId ≠ playerIdNotRegistered then .calling (.pause self.playerId) else .complaining
  | .unpause => if self.playerId ≠ playerIdNotRegistered then .calling (.unpause self.playerId) else .complaining
  | .respawn => if self.playerId ≠ playerIdNotRegistered then .calling (.respawn self.playerId) else .complaining
  | _ => .complaining

/-! ## The threads together -/

/-- Where `client_connection_handler_main` is: waiting for `accept`, or checking the
magic bytes of a connection behind a descriptor. -/
inductive HandlerStage (ι : Type) where
  | accepting
  | verifying (connection : ι) (number : Nat) (reader : SocketReader ι)
  | stopped

/-- How a `read` that is under way returns. -/
inductive ReadOutcome where
  /-- With some bytes, more than `extra` only if there are no more. -/
  | bytes (extra : Nat)
  /-- With an error, or interrupted by a signal. -/
  | failed

structure Network (ι κ : Type) where
  room : Room (ι ⊕ κ)
  gameEnded : Bool
  /-- The socket that each descriptor number stands for. -/
  descriptors : Nat → Option ι
  /-- The bytes sent to the server and not read yet. -/
  inbound : ι → List UInt8
  /-- The peer has closed its end. -/
  hungUp : ι → Bool
  handler : HandlerStage ι
  records : ι → ClientConnection
  sends : ι → SendStage
  receives : ι → ReceiveStage ι
  /-- The bytes that each receive thread has read, with the socket they came from; no
  step reads it. -/
  consumed : ι → List (ι × UInt8)
  /-- What a buffer holds before it is read into. -/
  memory : Nat → UInt8

inductive NetworkStep (ι κ : Type) where
  /-- A tick, or a step of a shared-memory client. -/
  | room (step : RoomStep κ)
  | endGame
  | accept (connection : ι) (number : Nat)
  | verify (outcome : ReadOutcome)
  | stop
  /-- `client_connection_destroy`, once the handler has stopped. -/
  | destroy (connection : ι)
  /-- The send thread goes on; a message it sends may fail. -/
  | send (connection : ι) (delivered : Bool)
  | receive (connection : ι) (outcome : ReadOutcome)
  | arrive (connection : ι) (bytes : List UInt8)
  | hangUp (connection : ι)

variable {ι κ : Type}

/-- The same step among more clients. -/
def RoomStep.map (rename : κ → ι) : RoomStep κ → RoomStep ι
  | .tick rng => .tick rng
  | .register client => .register (rename client)
  | .search client => .search (rename client)
  | .unregister client => .unregister (rename client)
  | .call made => .call made

variable [DecidableEq ι]

def Network.withSend (self : Network ι κ) (k : ι) (stage : SendStage) : Network ι κ :=
  { self with sends := Function.update self.sends k stage }

def Network.withReceive (self : Network ι κ) (k : ι) (stage : ReceiveStage ι) : Network ι κ :=
  { self with receives := Function.update self.receives k stage }

def Network.withRecord (self : Network ι κ) (k : ι) (record : ClientConnection) : Network ι κ :=
  { self with records := Function.update self.records k record }

/-- `client_connection_shutdown`; the signal it sends may interrupt a read. -/
def Network.shutdown (self : Network ι κ) (k : ι) : Network ι κ :=
  self.withRecord k (clientConnectionShutdown (self.records k))

/-- `SHUTDOWN_IF_FAIL` around the sending of a message. -/
def Network.sent (self : Network ι κ) (k : ι) (delivered : Bool) : Network ι κ :=
  if delivered then self else self.shutdown k

/-- `socket_close`: the number is free at once. -/
def Network.close (self : Network ι κ) (number : Nat) : Network ι κ :=
  { self with descriptors := Function.update self.descriptors number none }

/-- The bytes a `read` returns: some of those that are there, none only at the end
of the stream; `none` is a read that goes on. -/
def Network.chunk (self : Network ι κ) (source : ι) (call : SocketRead) (extra : Nat) : Option (List UInt8) :=
  if self.inbound source = [] then
    if self.hungUp source then some [] else none
  else some ((self.inbound source).take (min (extra + 1) (call.length - call.readBytes)))

/-- The bytes are no longer on their way. -/
def Network.take (self : Network ι κ) (source : ι) (chunk : List UInt8) : Network ι κ :=
  { self with inbound := Function.update self.inbound source ((self.inbound source).drop chunk.length) }

/-! ## `client_connection_handler_main` -/

/-- `accept` returns any number that is free. -/
def Network.accept (self : Network ι κ) (k : ι) (number : Nat) : Network ι κ :=
  match self.handler, self.sends k, self.descriptors number with
  | .accepting, .absent, none =>
    { self with
      descriptors := Function.update self.descriptors number (some k)
      handler := .verifying k number (.begin self.memory socketMessageReads) }
  | _, _, _ => self

/-- `client_connection_init`, or the refusal of the connection. -/
def Network.verified (self : Network ι κ) (k : ι) (number : Nat) (message : Option SocketMessage) : Network ι κ :=
  if message = some (.magicBytes gameMagicBytes) then
    { ((self.withRecord k (clientConnectionInit number)).withSend k .starting).withReceive k .testing with
      handler := .accepting }
  else { (self.close number).withSend k .rejected with handler := .accepting }

def Network.verify (self : Network ι κ) (outcome : ReadOutcome) : Network ι κ :=
  match self.handler with
  | .verifying k number (.reading call) =>
    { self with handler := .verifying k number (call.call (self.descriptors number)) }
  | .verifying k number (.blocked source call) =>
    match outcome with
    | .failed => { self with handler := .verifying k number (.returned none) }
    | .bytes extra =>
      match self.chunk source call extra with
      | none => self
      | some chunk => { self.take source chunk with handler := .verifying k number (call.receive self.memory chunk) }
  | .verifying k number (.returned message) => self.verified k number message
  | .accepting | .stopped => self

def Network.stop (self : Network ι κ) : Network ι κ :=
  match self.handler with
  | .accepting => { self with handler := .stopped }
  | _ => self

def Network.destroy (self : Network ι κ) (k : ι) : Network ι κ :=
  match self.handler, self.sends k with
  | .stopped, .absent | .stopped, .rejected => self
  | .stopped, _ => self.shutdown k
  | _, _ => self

/-! ## `client_connection_send_thread_main` -/

/-- The loop's conditions, before the wait and after it. -/
def Network.stopsSending (self : Network ι κ) (k : ι) : Bool := (self.records k).shutdown || self.gameEnded

variable [DecidableEq κ]

def Network.send (self : Network ι κ) (k : ι) (delivered : Bool) : Network ι κ :=
  match self.sends k with
  | .absent | .rejected | .turnedAway | .ended => self
  | .starting => { self with room := self.room.register (.inl k) }.withSend k .registering
  | .registering =>
    match self.room.clients (.inl k) with
    | .searching _ => { self with room := self.room.search (.inl k) }
    | .holding playerId => (self.withRecord k { self.records k with playerId }).withSend k .greeting
    | .absent => self.withSend k .refused
  | .refused => (self.sent k delivered).withSend k .turningAway
  | .turningAway => (self.close (self.records k).socket).withSend k .turnedAway
  | .greeting => (self.sent k delivered).withSend k .observing
  | .observing => (self.sent k delivered).withSend k .testing
  | .testing => self.withSend k (if self.stopsSending k then .leaving else .waiting)
  | .waiting => self.withSend k .woken
  | .woken => self.withSend k (if self.stopsSending k then .leaving else .refreshing)
  | .refreshing => (self.sent k delivered).withSend k .updating
  | .updating => (self.sent k delivered).withSend k .testing
  | .leaving => (if self.gameEnded then self.sent k delivered else self).withSend k .unregistering
  | .unregistering => { self with room := self.room.unregister (.inl k) }.withSend k .shuttingDown
  | .shuttingDown => (self.shutdown k).withSend k .closing
  | .closing => (self.close (self.records k).socket).withSend k .ended

/-! ## `client_connection_receive_thread_main` -/

/-- A step of `socket_message_deserialize_from_socket` and of the test after it. -/
def Network.read (self : Network ι κ) (k : ι) (outcome : ReadOutcome) : SocketReader ι → Network ι κ
  | .reading call => self.withReceive k (.reading (call.call (self.descriptors (self.records k).socket)))
  | .blocked source call =>
    match outcome with
    | .failed => self.withReceive k (.reading (.returned none))
    | .bytes extra =>
      match self.chunk source call extra with
      | none => self
      | some chunk =>
        { (self.take source chunk).withReceive k (.reading (call.receive self.memory chunk)) with
          consumed := Function.update self.consumed k (self.consumed k ++ chunk.map (source, ·)) }
  | .returned none => self.withReceive k .ended
  | .returned (some message) =>
    self.withReceive k (if (self.records k).shutdown then .ended else .handling message)

def Network.receive (self : Network ι κ) (k : ι) (outcome : ReadOutcome) : Network ι κ :=
  match self.receives k with
  | .absent | .ended => self
  | .testing =>
    self.withReceive k (if (self.records k).shutdown then .ended
      else .reading (.begin self.memory socketMessageReads))
  | .reading reader => self.read k outcome reader
  | .handling message => self.withReceive k (clientConnectionHandle (self.records k) message)
  | .calling call =>
    { self with room := self.room.withManager (call.apply self.room.manager) }.withReceive k .testing
  | .disconnecting | .complaining => (self.shutdown k).withReceive k .ended

/-! ## Runs -/

def Network.step (self : Network ι κ) : NetworkStep ι κ → Except Halt (Network ι κ)
  | .room step => do
    let room ← self.room.step (step.map .inr)
    .ok { self with room }
  | .endGame => .ok { self with gameEnded := true }
  | .accept connection number => .ok (self.accept connection number)
  | .verify outcome => .ok (self.verify outcome)
  | .stop => .ok self.stop
  | .destroy connection => .ok (self.destroy connection)
  | .send connection delivered => .ok (self.send connection delivered)
  | .receive connection outcome => .ok (self.receive connection outcome)
  | .arrive connection bytes =>
    .ok { self with inbound := Function.update self.inbound connection (self.inbound connection ++ bytes) }
  | .hangUp connection => .ok { self with hungUp := Function.update self.hungUp connection true }

def Network.run (self : Network ι κ) (steps : List (NetworkStep ι κ)) : Except Halt (Network ι κ) :=
  steps.foldlM Network.step self

/-- A server whose handler has just been started. -/
def Network.start (room : Room (ι ⊕ κ)) (records : ι → ClientConnection) (memory : Nat → UInt8) :
    Network ι κ where
  room := room
  gameEnded := false
  descriptors := fun _ => none
  inbound := fun _ => []
  hungUp := fun _ => false
  handler := .accepting
  records := records
  sends := fun _ => .absent
  receives := fun _ => .absent
  consumed := fun _ => []
  memory := memory

end SnakePosix
