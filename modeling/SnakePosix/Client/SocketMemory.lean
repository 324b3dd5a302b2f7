import SnakePosix.Client.SocketClientThreads
import SnakePosix.Libsnake.MessageMemory

/-! The memory that the two ends of a connection use for their messages: the two threads
of `socket_client_run`, `client_connection_handler_verify_magic_bytes` and the two threads
of `client_connection.c`. What other threads do in between comes in as flags and records
that are found at each turn, and what they allocate is other memory. The connection's
record is taken to stay where it is. -/
namespace SnakePosix.MessageMemory
open Allocations

variable {α : Type} [DecidableEq α]

/-- A message is built, sent and destroyed. -/
def sendHeld {ε : Type} (allocator : Allocator α) (init : Heaped α ε (HeldMessage α)) (delivered : Bool) :
    Heaped α ε Bool := do
  let message ← init
  let result ← socketMessageSerializeToSocket allocator message delivered
  socketMessageDestroy message
  pure result

/-! ## `socket_client_run` -/

def socketClientSendMagicBytes (allocator : Allocator α) (delivered : Bool) : Heaped α Stop Bool :=
  sendHeld allocator (socketMessageInitMagicBytes allocator gameMagicBytes) delivered

/-- What a turn of the loop reads of the message's data before it destroys it. -/
def socketClientAccess (self : HeldMessage α) : Heaped α Stop Unit :=
  match self.message with
  | .map data => do
    access self.data.pointer
    self.accessTiles (data.width * data.height)
  | .tileChange _ | .playerState .. => access self.data.pointer
  | _ => pure ()

/-- The loop, for at most that many turns; `memory` is what its stack holds at each. -/
def socketClientLoop (allocator : Allocator α) (memory : Nat → Nat → UInt8) (exit : Nat → Bool) (rounds : Nat) :
    Nat → Nat → SocketClient → ReadSide → Heaped α Stop SocketClient
  | 0, _, _, _ => fail .unfinished
  | turns + 1, turn, self, socket =>
    if self.state = .connecting ∨ self.state = .playing ∧ exit turn = false then do
      match ← socketMessageDeserializeFromSocket allocator (memory turn) rounds socket with
      | none => pure { self with state := .connectionError }
      | some (message, rest) => do
        socketClientAccess message
        match socketClientProcess self message.message with
        | none => fail .outOfRange
        | some next => do
          socketMessageDestroy message
          socketClientLoop allocator memory exit rounds turns (turn + 1) next rest
    else pure self

/-- `exit` is what is found in that flag at each turn and `leaves` behind the loop;
`none` is a client that could not send the magic bytes. The loop and every call of
`socket_read` are followed for so many rounds. -/
def socketClientRun (allocator : Allocator α) (memory : Nat → Nat → UInt8) (exit : Nat → Bool) (leaves : Bool)
    (greeted parted : Bool) (rounds : Nat) (self : SocketClient) (socket : ReadSide) :
    Heaped α Stop (Option SocketClient) := do
  let sent ← socketClientSendMagicBytes allocator greeted
  if sent = false then pure none
  else do
    let self ← socketClientLoop allocator memory exit rounds rounds 0 self socket
    if leaves then do
      let _ ← sendHeld allocator (pure (initSimple socketMessageInitDisconnect)) parted
      pure (some self)
    else pure (some self)

/-- A key handler of the input thread. -/
def socketClientOnPress (allocator : Allocator α) (key : Key) (lastDirection : Direction) (delivered : Bool) :
    Heaped α Stop Unit :=
  match socketClientInputCallbacks key lastDirection with
  | none => pure ()
  | some (.direction direction) => do
    let _ ← sendHeld allocator (socketMessageInitDirection allocator direction) delivered
    pure ()
  | some message => do
    let _ ← sendHeld allocator (pure (initSimple message)) delivered
    pure ()

/-- The input thread, with what it finds in `last_direction_` at each press. -/
def socketClientInput (allocator : Allocator α) (presses : List (Key × Direction × Bool)) : Heaped α Stop Unit :=
  presses.forM fun (key, lastDirection, delivered) => socketClientOnPress allocator key lastDirection delivered

/-! ## The server's end -/

/-- The bytes of a message are compared only if it has the right type. -/
def magicBytesAccess (self : HeldMessage α) : Heaped α Stop Unit :=
  match self.message with
  | .magicBytes _ => access self.data.pointer
  | _ => pure ()

def clientConnectionHandlerVerifyMagicBytes (allocator : Allocator α) (memory : Nat → UInt8) (rounds : Nat)
    (socket : ReadSide) : Heaped α Stop Bool := do
  match ← socketMessageDeserializeFromSocket allocator memory rounds socket with
  | none => pure false
  | some (message, _) => do
    magicBytesAccess message
    socketMessageDestroy message
    pure (decide (message.message = .magicBytes gameMagicBytes))

/-- What a turn of the receive thread finds: what its stack holds, and what other threads
have done to the connection, in the flag at the loop's condition and behind the read and
in the record. -/
structure ReceiveTurn where
  memory : Nat → UInt8
  shutdown : Bool
  interrupted : Bool
  record : ClientConnection

/-- The loop of `client_connection_receive_thread_main`, for at most `left` turns.
The result is the message that it leaves as it is, if there is one. -/
def clientConnectionReceive (allocator : Allocator α) (turns : Nat → ReceiveTurn) (rounds : Nat) :
    Nat → Nat → ReadSide → Heaped α Stop (Option (HeldMessage α))
  | 0, _, _ => fail .unfinished
  | left + 1, turn, socket =>
    if (turns turn).shutdown then pure none
    else do
      match ← socketMessageDeserializeFromSocket allocator (turns turn).memory rounds socket with
      | none => pure none
      | some (message, rest) =>
        if (turns turn).interrupted then pure (some message)
        else
          match (clientConnectionHandle (turns turn).record message.message : ReceiveStage Unit) with
          | .calling (.setPlayerDirection _ _) => do
            access message.data.pointer
            socketMessageDestroy message
            clientConnectionReceive allocator turns rounds left (turn + 1) rest
          | .calling _ => do
            socketMessageDestroy message
            clientConnectionReceive allocator turns rounds left (turn + 1) rest
          | .disconnecting => pure (some message)
          | _ => do
            socketMessageDestroy message
            pure none

def clientConnectionSendMap (allocator : Allocator α) (map : Map) (delivered : Bool) : Heaped α Stop Bool :=
  sendHeld allocator (socketMessageInitMap allocator map) delivered

/-- The loop over the copied changes; `delivered` is what each `socket_write` returns. -/
def clientConnectionSendChanges (allocator : Allocator α) (changes : α) (delivered : Nat → Bool) :
    Nat → List Change → Heaped α Stop Bool
  | _, [] => do
    synChangelogFreeCopy changes
    pure true
  | turn, change :: rest => do
    access (some changes)
    let result ← sendHeld allocator (socketMessageInitTileChange allocator change.coordinates.row
      change.coordinates.column change.tileData) (delivered turn)
    if result = false then do
      synChangelogFreeCopy changes
      pure false
    else clientConnectionSendChanges allocator changes delivered (turn + 1) rest

def clientConnectionSendChangelog (allocator : Allocator α) (changelog : Changelog) (delivered : Nat → Bool) :
    Heaped α Stop Bool := do
  match ← synChangelogCopy allocator changelog with
  | none => pure true
  | some changes => clientConnectionSendChanges allocator changes delivered 0 changelog

def clientConnectionSendPlayerState (allocator : Allocator α) (playerState : Player) (delivered : Bool) :
    Heaped α Stop Bool :=
  sendHeld allocator (socketMessageInitPlayerState allocator playerState.status playerState.direction) delivered

/-- The calls of the send thread that use memory. -/
inductive SendCall where
  | gameFull (delivered : Bool)
  | connected (delivered : Bool)
  | map (map : Map) (delivered : Bool)
  | playerState (playerState : Player) (delivered : Bool)
  | changelog (changelog : Changelog) (delivered : Nat → Bool)
  | gameEnd (delivered : Bool)

def sendCall (allocator : Allocator α) : SendCall → Heaped α Stop Bool
  | .gameFull delivered => sendHeld allocator (pure (initSimple socketMessageInitGameFull)) delivered
  | .connected delivered => sendHeld allocator (pure (initSimple socketMessageInitConnected)) delivered
  | .map map delivered => clientConnectionSendMap allocator map delivered
  | .playerState playerState delivered => clientConnectionSendPlayerState allocator playerState delivered
  | .changelog changelog delivered => clientConnectionSendChangelog allocator changelog delivered
  | .gameEnd delivered => sendHeld allocator (pure (initSimple socketMessageInitGameEnd)) delivered

/-- `client_connection_send_thread_main` is a sequence of these calls. -/
def clientConnectionSend (allocator : Allocator α) (calls : List SendCall) : Heaped α Stop Unit :=
  calls.forM fun call => do
    let _ ← sendCall allocator call
    pure ()

end SnakePosix.MessageMemory
