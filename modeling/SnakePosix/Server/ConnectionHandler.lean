import Mathlib.Logic.Function.Basic

/-! The array of connections in `client_connection_handler.c`: it lies in a block of
memory that `realloc` may move, and the two threads of each connection keep the
pointer they were started with. -/
namespace SnakePosix

/-! ## `client_connection.h` -/

/-- Without the handles of the two threads and the game state all connections share. -/
structure ClientConnection where
  playerId : Nat
  socket : Nat
  shutdown : Bool
  deriving DecidableEq, Repr

def playerIdNotRegistered : Nat := 42000

/-- What `client_connection_init` stores before it starts the threads. -/
def clientConnectionInit (socket : Nat) : ClientConnection where
  playerId := playerIdNotRegistered
  socket := socket
  shutdown := false

/-- The flag of `client_connection_shutdown`. -/
def clientConnectionShutdown (self : ClientConnection) : ClientConnection :=
  { self with shutdown := true }

/-! ## Memory -/

/-- Where a record lies: a block that was allocated, and an index into it. -/
structure RecordPointer where
  block : Nat
  index : Nat
  deriving DecidableEq, Repr

/-- The records of each allocated block. -/
abbrev RecordMemory : Type := Nat → Option (Nat → ClientConnection)

def RecordMemory.read (self : RecordMemory) (pointer : RecordPointer) : Option ClientConnection :=
  (self pointer.block).map (· pointer.index)

/-- What a write into a block that has been freed does is not known; here it is
nothing. -/
def RecordMemory.modify (self : RecordMemory) (pointer : RecordPointer)
    (change : ClientConnection → ClientConnection) : RecordMemory :=
  Function.update self pointer.block
    ((self pointer.block).map fun records =>
      Function.update records pointer.index (change (records pointer.index)))

/-- `realloc` has returned `target`: the block it was given, or one that was free,
into which it has moved the records. -/
def RecordMemory.realloc (self : RecordMemory) (block target : Nat) : Except Unit RecordMemory :=
  if target = block then .ok self
  else if (self target).isSome then .error ()
  else .ok (Function.update (Function.update self target (self block)) block none)

/-! ## `client_connection_handler.c` -/

structure ConnectionHandler where
  memory : RecordMemory
  connections : Nat
  connectionsSize : Nat
  connectionsCapacity : Nat
  /-- The argument of the two threads of each connection. -/
  started : List RecordPointer

inductive HandlerStep where
  /-- A connection passes the check of its magic bytes; `target` is what `realloc`
  returns, if the array has to grow. -/
  | accept (socket target : Nat)
  /-- The send thread of a connection registers its player. -/
  | register (connection playerId : Nat)
  /-- A thread of a connection shuts it down. -/
  | shutdown (connection : Nat)

def ConnectionHandler.grow (self : ConnectionHandler) (target : Nat) : Except Unit ConnectionHandler := do
  if self.connectionsCapacity = self.connectionsSize then
    let memory ← self.memory.realloc self.connections target
    .ok { self with memory, connections := target, connectionsCapacity := self.connectionsCapacity * 2 }
  else .ok self

/-- `client_connection_init` at the end of the array. -/
def ConnectionHandler.append (self : ConnectionHandler) (socket : Nat) : ConnectionHandler :=
  let pointer : RecordPointer := { block := self.connections, index := self.connectionsSize }
  { self with
    memory := self.memory.modify pointer fun _ => clientConnectionInit socket
    connectionsSize := self.connectionsSize + 1
    started := self.started ++ [pointer] }

/-- A thread changes its own record. -/
def ConnectionHandler.modify (self : ConnectionHandler) (connection : Nat)
    (change : ClientConnection → ClientConnection) : ConnectionHandler :=
  match self.started[connection]? with
  | some pointer => { self with memory := self.memory.modify pointer change }
  | none => self

def ConnectionHandler.step (self : ConnectionHandler) : HandlerStep → Except Unit ConnectionHandler
  | .accept socket target => do
    let grown ← self.grow target
    .ok (grown.append socket)
  | .register connection playerId => .ok (self.modify connection fun record => { record with playerId })
  | .shutdown connection => .ok (self.modify connection clientConnectionShutdown)

def ConnectionHandler.run (self : ConnectionHandler) (steps : List HandlerStep) : Except Unit ConnectionHandler :=
  steps.foldlM ConnectionHandler.step self

/-- The flag of `client_connection_destroy` for `connections_[i]`. -/
def ConnectionHandler.destroyConnection (self : ConnectionHandler) (i : Nat) : ConnectionHandler :=
  { self with memory := self.memory.modify { block := self.connections, index := i } clientConnectionShutdown }

/-- The flag that the threads of a connection test; `none` is a record in a block
that has been freed. -/
def ConnectionHandler.tested (self : ConnectionHandler) (connection : Nat) : Option Bool :=
  match self.started[connection]? with
  | some pointer => (self.memory.read pointer).map (·.shutdown)
  | none => none

/-- After `client_connection_handler_init`; `records` is what its block held. -/
def ConnectionHandler.start (memory : RecordMemory) (block : Nat) (records : Nat → ClientConnection) :
    ConnectionHandler where
  memory := Function.update memory block (some records)
  connections := block
  connectionsSize := 0
  connectionsCapacity := 4
  started := []

end SnakePosix
