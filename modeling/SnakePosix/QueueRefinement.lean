import SnakePosix.Client.Renderer
import SnakePosix.Foundation.GuardedRuns
import SnakePosix.Libsnake.Queue

/-! The linked queue is a list: items leave it in the order in which they came. Popping
the last item leaves the tail at a freed node, so the invariant knows the tail only
of a queue that has a node, which is the only one whose tail is followed. -/
namespace SnakePosix.QueueRefinement
open LinkedNodes GuardedRuns

variable {α τ : Type} {others : α → Option (Node α τ)} {store : QueueStore α τ} {queue : Queue α}
  {addresses : List α} {items : List τ} {rounds : Nat}

/-! ## The invariant -/

/-- The queue has the items in the nodes at these addresses, and there is nothing
else in the memory but the other nodes. -/
structure Represents (others : α → Option (Node α τ)) (store : QueueStore α τ) (queue : Queue α) (addresses : List α)
    (items : List τ) : Prop where
  chain : Chain store.nodes queue.head addresses items
  distinct : addresses.Nodup
  tail : ∀ last, addresses.getLast? = some last → queue.tail = some last
  apart : ∀ address ∈ addresses, others address = none
  rest : ∀ address, address ∉ addresses → store.nodes address = others address

theorem start_represents (others : α → Option (Node α τ)) :
    Represents others (QueueRun.start others).store (QueueRun.start others).queue [] [] where
  chain := .nil
  distinct := List.nodup_nil
  tail := nofun
  apart := nofun
  rest := fun _ _ => rfl

theorem isEmpty_represents (represents : Represents others store queue addresses items) :
    queueIsEmpty queue = items.isEmpty := by
  obtain ⟨chain, -⟩ := represents
  unfold queueIsEmpty
  generalize queue.head = head at chain
  cases chain with
  | nil => rfl
  | cons => rfl

/-! ## The calls -/

variable [DecidableEq α]

/-- The memory once the new node is filled in. -/
def fillNode (store : QueueStore α τ) (node : α) (item : τ) : QueueStore α τ :=
  { store with nodes := Function.update store.nodes node (some { item, next := none }) }

private theorem queuePush_fills (queue : Queue α) (store : QueueStore α τ) (node : α) (memory : Node α τ) (item : τ) :
    queuePush queue store node memory item =
      if queue.head ≠ none then do
        let store ← (fillNode store node item).modify queue.tail fun tail => { tail with next := some node }
        .ok ({ queue with tail := some node }, store)
      else .ok ({ head := some node, tail := some node }, fillNode store node item) := by
  simp [queuePush, fillNode, Store.malloc, Store.modify, bind, Except.bind]

/-- A push puts the item behind the others, in the new node. -/
theorem push_represents (represents : Represents others store queue addresses items) {node : α}
    (free : store.nodes node = none) (memory : Node α τ) (item : τ) :
    ∃ queue' store', queuePush queue store node memory item = .ok (queue', store') ∧ store'.freed = store.freed ∧
      Represents others store' queue' (addresses ++ [node]) (items ++ [item]) := by
  have absent := chain_avoids represents.chain free
  have distinct : (addresses ++ [node]).Nodup := by
    rw [← List.concat_eq_append]
    exact represents.distinct.concat absent
  have apart : ∀ address ∈ addresses ++ [node], others address = none := by
    intro address member
    rcases List.mem_append.mp member with old | new
    · exact represents.apart address old
    · obtain rfl := List.mem_singleton.mp new
      exact (represents.rest _ absent).symm.trans free
  have last : (addresses ++ [node]).getLast? = some node := List.getLast?_concat
  have filled : (fillNode store node item).nodes node = some { item, next := none } := Function.update_self ..
  have kept : ∀ address, address ≠ node → (fillNode store node item).nodes address = store.nodes address :=
    fun address other => Function.update_of_ne other ..
  rw [queuePush_fills]
  cases ends : addresses.getLast? with
  | none =>
    obtain rfl := List.getLast?_eq_none_iff.mp ends
    obtain ⟨empty, rfl⟩ := chain_empty represents.chain
    rw [if_neg (not_not_intro empty)]
    refine ⟨_, _, rfl, rfl, .cons filled .nil, distinct, fun _ same => ?_, apart, fun address outside => ?_⟩
    · exact last.symm.trans same
    · rw [kept address (List.ne_of_not_mem_cons outside)]
      exact represents.rest address nofun
  | some tail =>
    have member : tail ∈ addresses := List.mem_of_getLast? ends
    have other : tail ≠ node := fun same => absent (same ▸ member)
    obtain ⟨old, live⟩ := chain_live represents.chain member
    have nonempty : queue.head ≠ none := by
      intro empty
      have chain := represents.chain
      rw [empty] at chain
      rw [(chain_null chain).1] at member
      cases member
    rw [if_pos nonempty, represents.tail tail ends, modify_live ((kept tail other).trans live)]
    refine ⟨_, _, rfl, rfl, ?_, distinct, fun _ same => last.symm.trans same, apart, fun address outside => ?_⟩
    · apply chain_link represents.chain represents.distinct ends absent
      · intro node' found
        rw [live] at found
        cases found
        exact Function.update_self ..
      · exact (Function.update_of_ne (Ne.symm other) ..).trans filled
      · intro address among differs
        have old : address ≠ node := fun same => absent (same ▸ among)
        exact (Function.update_of_ne differs ..).trans (kept address old)
    · have notTail : address ≠ tail := fun same => outside (List.mem_append_left _ (same ▸ member))
      have notNode : address ≠ node := fun same => outside (List.mem_append_right _ (List.mem_singleton.mpr same))
      refine (Function.update_of_ne notTail ..).trans ((kept address notNode).trans ?_)
      exact represents.rest address fun among => outside (List.mem_append_left _ among)

theorem pop_empty (represents : Represents others store queue addresses []) :
    queuePop queue store = .ok (none, queue, store) := by
  unfold queuePop
  rw [isEmpty_represents represents]
  rfl

/-- The memory once a node is freed. -/
def freeNode (store : QueueStore α τ) (address : α) : QueueStore α τ :=
  { nodes := Function.update store.nodes address none, freed := store.freed ++ [address] }

/-- What a queue is left with when its first node is freed. -/
theorem free_represents {address : α} {item : τ}
    (represents : Represents others store queue (address :: addresses) (item :: items)) :
    ∃ next, queue.head = some address ∧ store.nodes address = some { item, next } ∧
      Represents others (freeNode store address) { queue with head := next } addresses items := by
  obtain ⟨absent, distinct⟩ := List.nodup_cons.mp represents.distinct
  obtain ⟨head, _, next, _, live, same, rest⟩ := chain_head represents.chain
  cases same
  refine ⟨next, head, live, ?_, distinct, ?_, ?_, ?_⟩
  · refine chain_frame rest fun other among => Function.update_of_ne ?_ ..
    rintro rfl
    exact absent among
  · intro last ends
    refine represents.tail last ?_
    rw [List.getLast?_cons, ends]
    rfl
  · exact fun other among => represents.apart other (List.mem_cons_of_mem _ among)
  · intro other outside
    by_cases here : other = address
    · subst here
      exact (Function.update_self ..).trans (represents.apart _ List.mem_cons_self).symm
    · refine (Function.update_of_ne here ..).trans (represents.rest other ?_)
      exact fun among => (List.mem_cons.mp among).elim here outside

/-- A pop takes the oldest item and frees its node, and leaves the tail where it is. -/
theorem pop_represents {address : α} {item : τ}
    (represents : Represents others store queue (address :: addresses) (item :: items)) :
    ∃ queue', queuePop queue store = .ok (some item, queue', freeNode store address) ∧
      Represents others (freeNode store address) queue' addresses items := by
  obtain ⟨next, head, live, left⟩ := free_represents represents
  have nonempty : queueIsEmpty queue = false := isEmpty_represents represents
  refine ⟨_, ?_, left⟩
  unfold queuePop
  rw [nonempty, head, read_live live, free_live live]
  rfl

/-- The loop of a clear frees the nodes one after the other. -/
private theorem clearNodes_represents (enough : items.length ≤ rounds)
    (represents : Represents others store queue addresses items) :
    ∃ store', queueClearNodes store rounds queue.head = .ok store' ∧ store'.freed = store.freed ++ addresses ∧
      store'.nodes = others := by
  induction items generalizing store queue addresses rounds with
  | nil =>
    obtain rfl := List.length_eq_zero_iff.mp (chain_length represents.chain)
    rw [(chain_empty represents.chain).1]
    refine ⟨store, ?_, (List.append_nil _).symm, funext fun address => represents.rest address nofun⟩
    cases rounds <;> rfl
  | cons item items ih =>
    obtain ⟨address, addresses, rfl⟩ := List.exists_cons_of_length_eq_add_one (chain_length represents.chain)
    obtain ⟨rounds, rfl⟩ := Nat.exists_eq_add_of_le' (Nat.le_trans (Nat.le_add_left 1 _) enough)
    obtain ⟨next, head, live, left⟩ := free_represents represents
    obtain ⟨store', cleared, freed, nodes⟩ := ih (Nat.le_of_succ_le_succ enough) left
    refine ⟨store', ?_, ?_, nodes⟩
    · rw [head, queueClearNodes, read_live live, free_live live]
      · exact cleared
      · exact nofun
    · rw [freed]
      exact List.append_assoc ..

/-- A clear frees every node the queue has left, each of them once, and nothing else. -/
theorem clear_represents (enough : items.length ≤ rounds) (represents : Represents others store queue addresses items) :
    ∃ queue' store', queueClear rounds queue store = .ok (queue', store') ∧
      store'.freed = store.freed ++ addresses ∧ store'.nodes = others ∧ Represents others store' queue' [] [] := by
  obtain ⟨store', cleared, freed, nodes⟩ := clearNodes_represents enough represents
  refine ⟨_, store', bind_ok.mpr ⟨store', cleared, rfl⟩, freed, nodes, ?_⟩
  exact ⟨.nil, List.nodup_nil, nofun, nofun, fun address _ => congrFun nodes address⟩

/-! ## Whole runs -/

/-- A call of the queue on a list. -/
def fifoStep (items : List τ) : QueueCall α τ → List τ × QueueAnswer τ
  | .push _ _ item => (items ++ [item], .done)
  | .pop => (items.tail, .popped items.head?)
  | .clear => ([], .done)
  | .isEmpty => (items, .empty items.isEmpty)

def fifoItems (items : List τ) (calls : List (QueueCall α τ)) : List τ :=
  calls.foldl (fun items call => (fifoStep items call).1) items

def fifoAnswers (items : List τ) : List (QueueCall α τ) → List (QueueAnswer τ)
  | [] => []
  | call :: calls => (fifoStep items call).2 :: fifoAnswers (fifoStep items call).1 calls

/-- `malloc` gives no address that is in use. -/
def Fresh (state : QueueRun α τ) : QueueCall α τ → Prop
  | .push node _ _ => state.store.nodes node = none
  | _ => True

instance (state : QueueRun α τ) : (call : QueueCall α τ) → Decidable (Fresh state call)
  | .push node _ _ => decidable_of_iff ((state.store.nodes node).isNone = true) Option.isNone_iff_eq_none
  | .pop | .clear | .isEmpty => isTrue trivial

/-- The node a call allocates. -/
def allocation : QueueCall α τ → List α
  | .push node _ _ => [node]
  | _ => []

/-- Every node allocated so far has been freed once or is one of the queue's. -/
structure Refines (others : α → Option (Node α τ)) (state : QueueRun α τ) (allocated addresses : List α)
    (items : List τ) : Prop where
  represents : Represents others state.store state.queue addresses items
  accounted : (state.store.freed ++ addresses).Perm allocated

variable {state : QueueRun α τ} {allocated : List α}

/-- A call does on the linked queue what it does on the list. -/
theorem step_refines (refines : Refines others state allocated addresses items) (call : QueueCall α τ)
    (fresh : Fresh state call) (enough : items.length ≤ rounds) :
    ∃ next addresses', state.step rounds call = .ok next ∧
      next.answers = state.answers ++ [(fifoStep items call).2] ∧
      Refines others next (allocated ++ allocation call) addresses' (fifoStep items call).1 := by
  obtain ⟨represents, accounted⟩ := refines
  have same : (state.store.freed ++ addresses).Perm (allocated ++ []) := by rwa [List.append_nil]
  cases call with
  | push node memory item =>
    obtain ⟨queue, store, pushed, freed, after⟩ := push_represents represents fresh memory item
    refine ⟨_, _, bind_ok.mpr ⟨_, pushed, rfl⟩, rfl, after, ?_⟩
    dsimp only
    rw [freed, ← List.append_assoc]
    exact accounted.append_right [node]
  | pop =>
    cases items with
    | nil => exact ⟨_, _, bind_ok.mpr ⟨_, pop_empty represents, rfl⟩, rfl, represents, same⟩
    | cons item items =>
      obtain ⟨address, addresses, rfl⟩ := List.exists_cons_of_length_eq_add_one (chain_length represents.chain)
      obtain ⟨queue, popped, after⟩ := pop_represents represents
      refine ⟨_, _, bind_ok.mpr ⟨_, popped, rfl⟩, rfl, after, ?_⟩
      rwa [List.append_cons] at same
  | clear =>
    obtain ⟨queue, store, cleared, freed, nodes, after⟩ := clear_represents enough represents
    refine ⟨_, _, bind_ok.mpr ⟨_, cleared, rfl⟩, rfl, after, ?_⟩
    dsimp only
    rwa [freed, List.append_nil]
  | isEmpty =>
    refine ⟨_, _, rfl, ?_, represents, same⟩
    dsimp only
    rw [isEmpty_represents represents]
    rfl

omit [DecidableEq α] in
private theorem fifoStep_length (items : List τ) (call : QueueCall α τ) :
    (fifoStep items call).1.length ≤ items.length + 1 := by
  cases call with
  | push => exact List.length_append.le
  | pop => exact Nat.le_succ_of_le (List.length_tail ▸ Nat.sub_le _ _)
  | clear => exact Nat.zero_le _
  | isEmpty => exact Nat.le_succ _

theorem run_refines (calls : List (QueueCall α τ)) (refines : Refines others state allocated addresses items)
    (fresh : Guarded (QueueRun.step rounds) Fresh state calls) (enough : items.length + calls.length ≤ rounds) :
    ∃ final addresses', calls.foldlM (QueueRun.step rounds) state = .ok final ∧
      final.answers = state.answers ++ fifoAnswers items calls ∧
      Refines others final (allocated ++ calls.flatMap allocation) addresses' (fifoItems items calls) := by
  induction calls generalizing state allocated addresses items with
  | nil =>
    refine ⟨state, addresses, rfl, (List.append_nil _).symm, ?_⟩
    rwa [List.flatMap_nil, List.append_nil]
  | cons call calls ih =>
    rw [List.length_cons] at enough
    have room : items.length ≤ rounds := by omega
    obtain ⟨next, addresses', stepped, answered, refines⟩ := step_refines refines call fresh.1 room
    have shorter := fifoStep_length items call
    obtain ⟨final, last, ran, answers, refines⟩ := ih refines (guarded_tail fresh stepped) (by omega)
    refine ⟨final, last, (run_cons_ok stepped).trans ran, ?_, ?_⟩
    · rw [answers, answered, List.append_assoc]
      rfl
    · rw [List.flatMap_cons, ← List.append_assoc]
      exact refines

omit [DecidableEq α] in
theorem fifoItems_length (calls : List (QueueCall α τ)) (items : List τ) :
    (fifoItems items calls).length ≤ items.length + calls.length := by
  induction calls generalizing items with
  | nil => exact Nat.le_refl _
  | cons call calls ih =>
    have shorter := fifoStep_length items call
    have later := ih (fifoStep items call).1
    rw [List.length_cons]
    exact Nat.le_trans later (by omega)

/-- The linked queue answers as a list does, in every run of calls on a fresh queue:
no pointer is followed to a node that is not allocated, and a clear at its end
frees every node that is left, each once, and leaves the rest of the memory as it
was at the start. -/
theorem queue_refines_fifo (others : α → Option (Node α τ)) (calls : List (QueueCall α τ)) (rounds : Nat)
    (enough : calls.length ≤ rounds)
    (fresh : Guarded (QueueRun.step rounds) Fresh (QueueRun.start others) calls) :
    ∃ final addresses, calls.foldlM (QueueRun.step rounds) (QueueRun.start others) = .ok final ∧
      final.answers = fifoAnswers [] calls ∧
      Represents others final.store final.queue addresses (fifoItems [] calls) ∧
      (final.store.freed ++ addresses).Perm (calls.flatMap allocation) ∧
      ∃ cleared, final.step rounds .clear = .ok cleared ∧
        cleared.store.freed = final.store.freed ++ addresses ∧ cleared.store.nodes = others := by
  have start : Refines others (QueueRun.start others) [] [] [] := ⟨start_represents others, .refl _⟩
  obtain ⟨final, addresses, ran, answers, refines⟩ := run_refines calls start fresh (by simpa using enough)
  have short := fifoItems_length calls []
  rw [List.length_nil, Nat.zero_add] at short
  obtain ⟨queue, store, cleared, freed, nodes, -⟩ := clear_represents (Nat.le_trans short enough) refines.represents
  exact ⟨final, addresses, ran, answers, refines.represents, refines.accounted, _, bind_ok.mpr ⟨_, cleared, rfl⟩,
    freed, nodes⟩

/-- The last node is popped, and `malloc` gives its address, at which the tail still
points, to the second node of the next two. -/
def reusedAddress : List (QueueCall Nat Nat) :=
  [.push 7 { item := 0, next := some 7 } 1, .pop, .pop, .isEmpty, .push 3 { item := 0, next := some 3 } 2,
    .push 7 { item := 0, next := some 7 } 3, .isEmpty, .pop, .clear, .pop]

theorem queue_refines_fifo_reusedAddress : ∃ final,
    reusedAddress.foldlM (QueueRun.step 10) (QueueRun.start fun _ => none) = .ok final ∧
      final.answers = [.done, .popped (some 1), .popped none, .empty true, .done, .done, .empty false,
        .popped (some 2), .done, .popped none] := by
  obtain ⟨final, addresses, ran, answers, -⟩ :=
    queue_refines_fifo (fun _ => none) reusedAddress 10 (by decide) (by decide +kernel)
  exact ⟨final, ran, answers⟩

/-! ## The renderer's queue -/

/-- The calls of `renderer_redraw` and `renderer_update`. -/
def enqueueCalls (node : α) (memory : Node α RendererCommand) (command : RendererCommand) :
    List (QueueCall α RendererCommand) :=
  match command with
  | .redraw _ => [.clear, .push node memory command]
  | .update .. => [.push node memory command]

/-- They do to the linked queue what the renderer's model does to its list. -/
theorem rendererEnqueue_refines {queue : List RendererCommand} {others : α → Option (Node α RendererCommand)}
    {state : QueueRun α RendererCommand} (refines : Refines others state allocated addresses queue) (node : α)
    (memory : Node α RendererCommand) (command : RendererCommand)
    (fresh : Guarded (QueueRun.step rounds) Fresh state (enqueueCalls node memory command))
    (enough : queue.length + 2 ≤ rounds) :
    ∃ final addresses', (enqueueCalls node memory command).foldlM (QueueRun.step rounds) state = .ok final ∧
      Refines others final (allocated ++ [node]) addresses' (rendererEnqueue queue command) := by
  have short : (enqueueCalls node memory command).length ≤ 2 := by
    cases command with
    | redraw => exact Nat.le_refl 2
    | update => exact Nat.le_succ 1
  obtain ⟨final, addresses', ran, -, refined⟩ := run_refines _ refines fresh (by omega)
  refine ⟨final, addresses', ran, ?_⟩
  cases command with
  | redraw => exact refined
  | update => exact refined

end SnakePosix.QueueRefinement
