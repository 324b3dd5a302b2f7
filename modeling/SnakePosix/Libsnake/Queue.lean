import SnakePosix.Foundation.LinkedNodes

/-! The linked queue of `queue.h`, over the memory of its nodes. `malloc` is
taken to succeed; which address it gives is part of a call. -/
namespace SnakePosix
open LinkedNodes

structure Queue (α : Type) where
  head : Option α
  tail : Option α
  deriving DecidableEq, Repr

abbrev QueueStore (α τ : Type) := Store α (Node α τ)

variable {α τ : Type}

def queueInit : Queue α where
  head := none
  tail := none

def queueIsEmpty (self : Queue α) : Bool := self.head = none

variable [DecidableEq α]

def queuePush (self : Queue α) (store : QueueStore α τ) (node : α) (memory : Node α τ) (item : τ) :
    Except (Fault α) (Queue α × QueueStore α τ) := do
  let store := store.malloc node memory
  let store ← store.modify (some node) fun node => { node with item }
  let store ← store.modify (some node) fun node => { node with next := none }
  if self.head ≠ none then
    let store ← store.modify self.tail fun tail => { tail with next := some node }
    .ok ({ self with tail := some node }, store)
  else .ok ({ head := some node, tail := some node }, store)

/-- `none` in place of an item is the result `false`. -/
def queuePop (self : Queue α) (store : QueueStore α τ) :
    Except (Fault α) (Option τ × Queue α × QueueStore α τ) := do
  if queueIsEmpty self then .ok (none, self, store)
  else
    let item ← Node.item <$> store.read self.head
    let next ← Node.next <$> store.read self.head
    let store ← store.free self.head
    .ok (some item, { self with head := next }, store)

/-- The loop of `queue_clear`, for at most that many rounds. -/
def queueClearNodes (store : QueueStore α τ) : Nat → Option α → Except (Fault α) (QueueStore α τ)
  | _, none => .ok store
  | 0, some _ => .error .unfinished
  | rounds + 1, node => do
    let next ← Node.next <$> store.read node
    let store ← store.free node
    queueClearNodes store rounds next

def queueClear (rounds : Nat) (self : Queue α) (store : QueueStore α τ) :
    Except (Fault α) (Queue α × QueueStore α τ) := do
  let store ← queueClearNodes store rounds self.head
  .ok ({ head := none, tail := none }, store)

/-! ## Calls one after another -/

inductive QueueCall (α τ : Type) where
  /-- With the address `malloc` gives and what its memory holds. -/
  | push (node : α) (memory : Node α τ) (item : τ)
  | pop
  | clear
  | isEmpty

inductive QueueAnswer (τ : Type) where
  | done
  | popped (item : Option τ)
  | empty (answer : Bool)
  deriving DecidableEq, Repr

/-- A queue, its memory and the answers of the calls so far. -/
structure QueueRun (α τ : Type) where
  queue : Queue α
  store : QueueStore α τ
  answers : List (QueueAnswer τ)

def QueueRun.step (rounds : Nat) (self : QueueRun α τ) : QueueCall α τ → Except (Fault α) (QueueRun α τ)
  | .push node memory item => do
    let (queue, store) ← queuePush self.queue self.store node memory item
    .ok { queue, store, answers := self.answers ++ [.done] }
  | .pop => do
    let (item, queue, store) ← queuePop self.queue self.store
    .ok { queue, store, answers := self.answers ++ [.popped item] }
  | .clear => do
    let (queue, store) ← queueClear rounds self.queue self.store
    .ok { queue, store, answers := self.answers ++ [.done] }
  | .isEmpty => .ok { self with answers := self.answers ++ [.empty (queueIsEmpty self.queue)] }

/-- After `queue_init`, beside whatever else is allocated. -/
def QueueRun.start (nodes : α → Option (Node α τ)) : QueueRun α τ where
  queue := queueInit
  store := { nodes, freed := [] }
  answers := []

end SnakePosix
