import SnakePosix.Server.Network

/-! The threads of `Network` with their records in the array of `ConnectionHandler`: each
thread goes by the pointer it was started with, and the array may move when a connection
is accepted. A step fails where a thread's pointer leads into a block that is free. -/
namespace SnakePosix

/-- The array, and the place in it that the threads of a connection were started with. -/
structure RecordArray (ι : Type) where
  handler : ConnectionHandler
  place : ι → Nat

/-- The record that the threads of a connection find. -/
def RecordArray.record {ι : Type} (self : RecordArray ι) (k : ι) : Option ClientConnection :=
  match self.handler.started[self.place k]? with
  | some pointer => self.handler.memory.read pointer
  | none => none

/-- `connections_[i]` of the handler. -/
def RecordArray.element {ι : Type} (self : RecordArray ι) (k : ι) : RecordPointer where
  block := self.handler.connections
  index := self.place k

variable {ι κ : Type} [DecidableEq ι]

/-- `client_connection_init` has started the threads of the connection. -/
def Network.started (self : Network ι κ) (k : ι) : Bool :=
  match self.sends k with
  | .absent | .rejected => false
  | _ => true

/-- A step that goes by one connection's record, which is read through a pointer and
written back. -/
def Network.through (self : Network ι κ) (array : RecordArray ι) (k : ι) (pointer : Option RecordPointer)
    (step : Network ι κ → Network ι κ) : Except Unit (Network ι κ × RecordArray ι) :=
  match pointer with
  | none => .error ()
  | some pointer =>
    match array.handler.memory.read pointer with
    | none => .error ()
    | some record =>
      let next := step (self.withRecord k record)
      let memory := array.handler.memory.modify pointer fun _ => next.records k
      .ok (next, { array with handler := { array.handler with memory } })

/-- A step of one of the connection's own threads. -/
def Network.throughThread (self : Network ι κ) (array : RecordArray ι) (k : ι)
    (step : Network ι κ → Network ι κ) : Except Unit (Network ι κ × RecordArray ι) :=
  if self.started k then self.through array k array.handler.started[array.place k]? step else .ok (self, array)

/-- A connection that passes the check gets a place, and `realloc` returns `target`. -/
def Network.verifyArray (self : Network ι κ) (array : RecordArray ι) (outcome : ReadOutcome) (target : Nat) :
    Except Unit (Network ι κ × RecordArray ι) :=
  match self.handler with
  | .verifying k number (.returned message) =>
    if message = some (.magicBytes gameMagicBytes) then do
      let handler ← array.handler.step (.accept number target)
      .ok (self.verified k number message,
        { handler, place := Function.update array.place k array.handler.connectionsSize })
    else .ok (self.verified k number message, array)
  | _ => .ok (self.verify outcome, array)

/-- What a step comes to that goes by no record. -/
def RecordArray.beside {ι κ : Type} (self : RecordArray ι) :
    Except Halt (Network ι κ) → Except Unit (Network ι κ × RecordArray ι)
  | .ok network => .ok (network, self)
  | .error _ => .error ()

variable [DecidableEq κ]

/-- A step, with what `realloc` returns in it. -/
def Network.stepArray (state : Network ι κ × RecordArray ι) (step : NetworkStep ι κ × Nat) :
    Except Unit (Network ι κ × RecordArray ι) :=
  match step.1 with
  | .send k delivered => state.1.throughThread state.2 k (·.send k delivered)
  | .receive k outcome => state.1.throughThread state.2 k (·.receive k outcome)
  | .destroy k =>
    if state.1.started k then state.1.through state.2 k (some (state.2.element k)) (·.destroy k) else .ok state
  | .verify outcome => state.1.verifyArray state.2 outcome step.2
  | .room _ | .endGame | .accept .. | .stop | .arrive .. | .hangUp _ => state.2.beside (state.1.step step.1)

def Network.runArray (state : Network ι κ × RecordArray ι) (steps : List (NetworkStep ι κ × Nat)) :
    Except Unit (Network ι κ × RecordArray ι) :=
  steps.foldlM Network.stepArray state

/-- The array of a handler that has just been started. -/
def RecordArray.start {ι : Type} (memory : RecordMemory) (block : Nat) (records : Nat → ClientConnection)
    (place : ι → Nat) : RecordArray ι where
  handler := ConnectionHandler.start memory block records
  place := place

end SnakePosix
