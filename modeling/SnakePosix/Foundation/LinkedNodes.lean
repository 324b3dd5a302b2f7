import Mathlib.Data.List.Nodup
import Mathlib.Logic.Function.Basic

/-! Memory in which nodes are allocated and freed one by one, and chains of nodes
in it. Following a pointer that leads to no allocated node is a fault. -/
namespace SnakePosix.LinkedNodes

/-- A node of a singly linked structure; `none` is the null pointer. -/
structure Node (α τ : Type) where
  item : τ
  next : Option α

/-- The allocated nodes, and every address that has been freed, in order. -/
structure Store (α ν : Type) where
  nodes : α → Option ν
  freed : List α

inductive Fault (α : Type) where
  /-- The pointer leads to no allocated node. -/
  | dangling (pointer : Option α)
  /-- A loop has not ended in the rounds it was given. -/
  | unfinished
  deriving DecidableEq, Repr

variable {α ν τ : Type}

def Store.read (self : Store α ν) (pointer : Option α) : Except (Fault α) ν :=
  match pointer.bind self.nodes with
  | some node => .ok node
  | none => .error (.dangling pointer)

section
variable [DecidableEq α]

/-- The node at an address that was free, with whatever its memory held. -/
def Store.malloc (self : Store α ν) (address : α) (memory : ν) : Store α ν :=
  { self with nodes := Function.update self.nodes address (some memory) }

/-- An assignment to a field of the node at a pointer. -/
def Store.modify (self : Store α ν) (pointer : Option α) (change : ν → ν) : Except (Fault α) (Store α ν) :=
  match pointer with
  | none => .error (.dangling none)
  | some address =>
    match self.nodes address with
    | none => .error (.dangling (some address))
    | some node => .ok { self with nodes := Function.update self.nodes address (some (change node)) }

def Store.free (self : Store α ν) (pointer : Option α) : Except (Fault α) (Store α ν) :=
  match pointer with
  | none => .error (.dangling none)
  | some address =>
    match self.nodes address with
    | none => .error (.dangling (some address))
    | some _ => .ok { nodes := Function.update self.nodes address none, freed := self.freed ++ [address] }

variable {store : Store α ν} {address : α} {node : ν}

omit [DecidableEq α] in
@[simp] theorem read_live (live : store.nodes address = some node) : store.read (some address) = .ok node := by
  simp [Store.read, live]

@[simp] theorem modify_live (live : store.nodes address = some node) (change : ν → ν) :
    store.modify (some address) change =
      .ok { store with nodes := Function.update store.nodes address (some (change node)) } := by
  simp [Store.modify, live]

@[simp] theorem free_live (live : store.nodes address = some node) :
    store.free (some address) =
      .ok { nodes := Function.update store.nodes address none, freed := store.freed ++ [address] } := by
  simp [Store.free, live]

end

/-! ## Chains -/

/-- From the pointer the links lead over these addresses to null, and the nodes
there have these items. -/
inductive Chain (nodes : α → Option (Node α τ)) : Option α → List α → List τ → Prop where
  | nil : Chain nodes none [] []
  | cons (live : nodes address = some { item, next }) (rest : Chain nodes next addresses items) :
    Chain nodes (some address) (address :: addresses) (item :: items)

variable {nodes nodes' : α → Option (Node α τ)} {pointer : Option α} {address last fresh : α} {addresses : List α}
  {items : List τ}

theorem chain_live (chain : Chain nodes pointer addresses items) (member : address ∈ addresses) :
    ∃ node, nodes address = some node := by
  induction chain with
  | nil => cases member
  | cons live rest ih =>
    rcases List.mem_cons.mp member with rfl | later
    · exact ⟨_, live⟩
    · exact ih later

/-- A free address is in no chain. -/
theorem chain_avoids (chain : Chain nodes pointer addresses items) (free : nodes address = none) :
    address ∉ addresses := by
  intro member
  obtain ⟨node, live⟩ := chain_live chain member
  rw [free] at live
  cases live

theorem chain_length (chain : Chain nodes pointer addresses items) : addresses.length = items.length := by
  induction chain with
  | nil => rfl
  | cons live rest ih => exact congrArg (· + 1) ih

theorem chain_null (chain : Chain nodes none addresses items) : addresses = [] ∧ items = [] := by
  cases chain
  exact ⟨rfl, rfl⟩

theorem chain_empty (chain : Chain nodes pointer [] items) : pointer = none ∧ items = [] := by
  cases chain
  exact ⟨rfl, rfl⟩

theorem chain_head (chain : Chain nodes pointer (address :: addresses) items) :
    pointer = some address ∧ ∃ item next rest, nodes address = some { item, next } ∧ items = item :: rest ∧
      Chain nodes next addresses rest := by
  cases chain with
  | cons live rest => exact ⟨rfl, _, _, _, live, rfl, rest⟩

/-- What happens at other addresses does not touch a chain. -/
theorem chain_frame (chain : Chain nodes pointer addresses items)
    (kept : ∀ address ∈ addresses, nodes' address = nodes address) : Chain nodes' pointer addresses items := by
  induction chain with
  | nil => exact .nil
  | cons live rest ih =>
    have here := kept _ List.mem_cons_self
    exact .cons (here.trans live) (ih fun address member => kept address (List.mem_cons_of_mem _ member))

/-- Linking the last node of a chain to a new one makes the chain longer by one. -/
theorem chain_link {item : τ} (chain : Chain nodes pointer addresses items) (distinct : addresses.Nodup)
    (ends : addresses.getLast? = some last) (absent : fresh ∉ addresses)
    (linked : ∀ node, nodes last = some node → nodes' last = some { node with next := some fresh })
    (added : nodes' fresh = some { item, next := none })
    (kept : ∀ address ∈ addresses, address ≠ last → nodes' address = nodes address) :
    Chain nodes' pointer (addresses ++ [fresh]) (items ++ [item]) := by
  induction chain with
  | nil => cases ends
  | @cons address first next addresses items live rest ih =>
    obtain ⟨notIn, distinct⟩ := List.nodup_cons.mp distinct
    cases addresses with
    | nil =>
      obtain rfl := Option.some.inj ends
      cases rest
      exact .cons (linked _ live) (.cons added .nil)
    | cons second others =>
      have ends : (second :: others).getLast? = some last := ends
      have member : last ∈ second :: others := List.mem_of_getLast? ends
      have here := kept address List.mem_cons_self fun same => notIn (same ▸ member)
      refine .cons (here.trans live) (ih distinct ends (fun among => absent (List.mem_cons_of_mem _ among)) ?_)
      exact fun address among => kept address (List.mem_cons_of_mem _ among)

end SnakePosix.LinkedNodes
