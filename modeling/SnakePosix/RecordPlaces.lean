import SnakePosix.Connections
import SnakePosix.Server.RecordArray
import SnakePosix.SharedRecords

/-! As long as `realloc` leaves the array where it is, the server's threads do with their
records in it what `Network` says they do: every connection has a place of its own, and
its record there is the one of the network. -/
namespace SnakePosix.RecordPlaces
open GuardedRuns SharedRecords Descriptors Connections

variable {ι κ : Type} {network next : Network ι κ} {array after : RecordArray ι} {k : ι} {target : Nat}

/-- `realloc`, where a connection that is accepted calls it, returns the block it was given. -/
def Stays (array : RecordArray ι) (step : NetworkStep ι κ × Nat) : Prop :=
  match step.1 with
  | .verify _ => InPlace array.handler (.accept 0 step.2)
  | _ => True

instance decidableStays (array : RecordArray ι) : ∀ step : NetworkStep ι κ × Nat, Decidable (Stays array step)
  | (.verify _, target) => inferInstanceAs (Decidable
      (array.handler.connectionsCapacity = array.handler.connectionsSize → target = array.handler.connections))
  | (.room _, _) | (.endGame, _) | (.accept .., _) | (.stop, _) | (.destroy _, _) | (.send .., _) | (.receive .., _)
  | (.arrive .., _) | (.hangUp _, _) => isTrue trivial

/-- Every connection whose threads have been started has a place of its own, and there the
record that the network has for it. -/
structure Placed (network : Network ι κ) (array : RecordArray ι) : Prop where
  arranged : Arranged array.handler
  shared : Shared array.handler
  inside : ∀ k, network.started k = true → array.place k < array.handler.connectionsSize
  apart : ∀ k other, network.started k = true → network.started other = true →
    array.place k = array.place other → k = other
  held : ∀ k, network.started k = true → array.handler.memory.read (array.element k) = some (network.records k)

/-- The threads of a connection were started with the handler's own pointer. -/
theorem placed_pointer (placed : Placed network array) (started : network.started k = true) :
    array.handler.started[array.place k]? = some (array.element k) :=
  placed.shared _ (placed.inside k started)

theorem placed_record (placed : Placed network array) (started : network.started k = true) :
    array.record k = some (network.records k) := by
  unfold RecordArray.record
  rw [placed_pointer placed started]
  exact placed.held k started

theorem modify_read_of_ne {memory : RecordMemory} {pointer other : RecordPointer}
    (change : ClientConnection → ClientConnection) (apart : other ≠ pointer) :
    (memory.modify pointer change).read other = memory.read other := by
  unfold RecordMemory.read RecordMemory.modify
  by_cases here : other.block = pointer.block
  · have index : other.index ≠ pointer.index := fun same => apart (by cases other; cases pointer; simp_all)
    rw [here, Function.update_self]
    cases memory pointer.block with
    | none => rfl
    | some records => simp [Function.update_of_ne index]
  · rw [Function.update_of_ne here]

/-! ## Steps through a record -/

/-- What holds of the other connections, and whether threads are started, stays. -/
structure Local (k : ι) (network next : Network ι κ) : Prop where
  started : ∀ other, next.started other = network.started other
  elsewhere : ∀ other, other ≠ k → next.records other = network.records other

theorem placed_element_ne (placed : Placed network array) {other : ι} (started : network.started k = true)
    (startedOther : network.started other = true) (away : other ≠ k) : array.element other ≠ array.element k := by
  intro same
  exact away (placed.apart other k startedOther started (congrArg RecordPointer.index same))

section
variable [DecidableEq ι]

/-- The record that is read is the network's, and the one that is written back its next. -/
theorem through_placed (step : Network ι κ → Network ι κ) (placed : Placed network array)
    (started : network.started k = true) (stays : Local k network (step network)) :
    ∃ after, network.through array k (some (array.element k)) step = .ok (step network, after) ∧
      Placed (step network) after := by
  have same : network.withRecord k (network.records k) = network := by
    simp [Network.withRecord]
  have read := placed.held k started
  unfold Network.through
  simp only [read, same]
  refine ⟨_, rfl, ⟨placed.arranged.started, placed.arranged.fits, placed.arranged.room, ?_⟩, placed.shared, ?_, ?_, ?_⟩
  · simpa using placed.arranged.allocated
  · exact fun other begun => placed.inside other (stays.started other ▸ begun)
  · exact fun first second begun begun' =>
      placed.apart first second (stays.started first ▸ begun) (stays.started second ▸ begun')
  · intro other begun
    rw [stays.started] at begun
    change (array.handler.memory.modify (array.element k) fun _ => (step network).records k).read
      (array.element other) = some ((step network).records other)
    by_cases here : other = k
    · subst here
      rw [modify_read, read]
      rfl
    · rw [modify_read_of_ne _ (placed_element_ne placed started begun here), stays.elsewhere other here]
      exact placed.held other begun

theorem throughThread_placed (step : Network ι κ → Network ι κ) (placed : Placed network array)
    (stays : Local k network (step network)) (idle : network.started k = false → step network = network) :
    ∃ after, network.throughThread array k step = .ok (step network, after) ∧ Placed (step network) after := by
  unfold Network.throughThread
  cases started : network.started k with
  | false =>
    rw [idle started]
    exact ⟨array, rfl, placed⟩
  | true =>
    rw [if_pos rfl, placed_pointer placed started]
    exact through_placed step placed started stays

end

/-- A step that leaves the threads and their records alone. -/
theorem still_placed (placed : Placed network array) (started : ∀ k, next.started k = network.started k)
    (records : next.records = network.records) : Placed next array where
  arranged := placed.arranged
  shared := placed.shared
  inside := fun k begun => placed.inside k (started k ▸ begun)
  apart := fun k other begun begun' => placed.apart k other (started k ▸ begun) (started other ▸ begun')
  held := fun k begun => by
    rw [records]
    exact placed.held k (started k ▸ begun)

/-! ## What the threads' steps leave alone -/

/-- The threads of the connection have been started. -/
def Begun : SendStage → Prop
  | .absent | .rejected => False
  | _ => True

theorem started_iff : network.started k = true ↔ Begun (network.sends k) := by
  unfold Network.started
  cases network.sends k <;> simp [Begun]

theorem connected_begun {send : SendStage} (connected : Connected send) : Begun send := by
  cases send <;> trivial

theorem closed_begun {send : SendStage} (closed : Closed send) : Begun send := by
  cases send <;> trivial

theorem turn_begun {before later : Place} (turn : Turn before later) (begun : Begun before.send) : Begun later.send := by
  cases turn with
  | rests | shuts => exact begun
  | accepts | rejects => exact begun.elim
  | serves _ stays => exact connected_begun (seated_connected stays)
  | _ => trivial

section
variable [DecidableEq ι]

omit [DecidableEq ι] in
theorem idle_stage (idle : network.started k = false) : network.sends k = .absent ∨ network.sends k = .rejected := by
  unfold Network.started at idle
  split at idle
  case h_1 absent => exact Or.inl absent
  case h_2 rejected => exact Or.inr rejected
  case h_3 => cases idle

theorem idle_send [DecidableEq κ] (idle : network.started k = false) (delivered : Bool) : network.send k delivered = network := by
  unfold Network.send
  rcases idle_stage idle with stage | stage <;> rw [stage]

theorem send_local [DecidableEq κ] (network : Network ι κ) (k : ι) (delivered : Bool) :
    Local k network (network.send k delivered) where
  started := by
    intro other
    by_cases here : other = k
    · subst here
      cases started : network.started other with
      | false => rw [idle_send started, started]
      | true => exact started_iff.mpr (turn_begun (send_turn network other delivered) (started_iff.mp started))
    · have same : (network.send k delivered).sends other = network.sends other :=
        congrArg Place.send (send_elsewhere here network delivered)
      unfold Network.started
      rw [same]
  elsewhere := fun _ away => congrArg Place.record (send_elsewhere away network delivered)

theorem idle_receive (idle : network.started k = false) (begun : network.receives k ≠ .absent → Begun (network.sends k))
    (outcome : ReadOutcome) : network.receive k outcome = network := by
  have absent : network.receives k = .absent := by
    by_contra present
    rw [started_iff.mpr (begun present)] at idle
    cases idle
  unfold Network.receive
  rw [absent]

theorem shutdown_local (network : Network ι κ) (k : ι) : Local k network (network.shutdown k) where
  started := fun _ => rfl
  elsewhere := fun _ away => Function.update_of_ne away _ _

theorem receive_local (network : Network ι κ) (k : ι) (outcome : ReadOutcome) :
    Local k network (network.receive k outcome) := by
  refine ⟨fun other => ?_, fun other away => ?_⟩
  · unfold Network.started
    rw [(receive_leaves network k outcome).1]
  · unfold Network.receive
    cases network.receives k with
    | disconnecting | complaining => exact (shutdown_local network k).elsewhere other away
    | reading reader =>
      cases reader with
      | blocked source call =>
        cases outcome with
        | failed => rfl
        | bytes extra =>
          simp only [Network.read]
          split <;> rfl
      | returned message => cases message <;> rfl
      | reading call => rfl
    | _ => rfl

theorem destroy_local (network : Network ι κ) (k : ι) : Local k network (network.destroy k) := by
  unfold Network.destroy
  split
  case h_3 => exact shutdown_local network k
  all_goals exact ⟨fun _ => rfl, fun _ _ => rfl⟩

theorem idle_destroy (idle : network.started k = false) : network.destroy k = network := by
  unfold Network.destroy
  rcases idle_stage idle with stage | stage
  all_goals
    rw [stage]
    split <;> rfl

/-! ## A connection is accepted -/

omit [DecidableEq ι] in
/-- The array grows where it is. -/
theorem grow_stays (inPlace : InPlace array.handler (.accept 0 target)) :
    ∃ capacity, array.handler.grow target = .ok { array.handler with connectionsCapacity := capacity } := by
  unfold ConnectionHandler.grow
  by_cases full : array.handler.connectionsCapacity = array.handler.connectionsSize
  · refine ⟨array.handler.connectionsCapacity * 2, ?_⟩
    rw [if_pos full, inPlace full, RecordMemory.realloc, if_pos rfl]
    rfl
  · exact ⟨array.handler.connectionsCapacity, if_neg full⟩

/-- The new connection gets the place behind the others, and its record is the new one there. -/
theorem verified_placed (placed : Placed network array) (absent : network.sends k = .absent)
    (inPlace : InPlace array.handler (.accept 0 target)) (number : Nat) {message : Option SocketMessage}
    (greeted : message = some (.magicBytes gameMagicBytes)) :
    ∃ handler, array.handler.step (.accept number target) = .ok handler ∧
      Placed (network.verified k number message)
        { handler, place := Function.update array.place k array.handler.connectionsSize } := by
  obtain ⟨capacity, grew⟩ := grow_stays inPlace
  have stepped : array.handler.step (.accept number target) =
      .ok (ConnectionHandler.append { array.handler with connectionsCapacity := capacity } number) :=
    bind_ok.mpr ⟨_, grew, rfl⟩
  have sends : (network.verified k number message).sends = Function.update network.sends k .starting := by
    rw [Network.verified, if_pos greeted]
    rfl
  have records : (network.verified k number message).records =
      Function.update network.records k (clientConnectionInit number) := by
    rw [Network.verified, if_pos greeted]
    rfl
  have others : ∀ other, other ≠ k → (network.verified k number message).started other = network.started other := by
    intro other away
    unfold Network.started
    rw [sends, Function.update_of_ne away]
  have inside : ∀ other, other ≠ k → (network.verified k number message).started other = true →
      array.place other < array.handler.connectionsSize :=
    fun other away begun => placed.inside other (others other away ▸ begun)
  refine ⟨_, stepped, step_arranged _ placed.arranged stepped, ?_, ?_, ?_, ?_⟩
  · exact step_shared (.accept number target) placed.arranged placed.shared inPlace stepped
  · intro other begun
    change Function.update array.place k array.handler.connectionsSize other < array.handler.connectionsSize + 1
    by_cases here : other = k
    · rw [here, Function.update_self]
      exact Nat.lt_succ_self _
    · rw [Function.update_of_ne here]
      exact Nat.lt_succ_of_lt (inside other here begun)
  · intro first second begun begun' same
    dsimp only at same
    by_cases here : first = k
    · by_cases also : second = k
      · exact here.trans also.symm
      · rw [here, Function.update_self, Function.update_of_ne also] at same
        exact absurd same.symm (Nat.ne_of_lt (inside second also begun'))
    · by_cases also : second = k
      · rw [also, Function.update_self, Function.update_of_ne here] at same
        exact absurd same (Nat.ne_of_lt (inside first here begun))
      · rw [Function.update_of_ne here, Function.update_of_ne also] at same
        exact placed.apart first second (others first here ▸ begun) (others second also ▸ begun') same
  · intro other begun
    let last : RecordPointer := { block := array.handler.connections, index := array.handler.connectionsSize }
    let own : RecordPointer := { last with index := Function.update array.place k array.handler.connectionsSize other }
    change (array.handler.memory.modify last fun _ => clientConnectionInit number).read own = _
    rw [records]
    by_cases here : other = k
    · subst here
      obtain ⟨block, allocated⟩ := Option.isSome_iff_exists.mp placed.arranged.allocated
      have same : own = last := congrArg (RecordPointer.mk _) (Function.update_self other _ _)
      rw [same, Function.update_self, modify_read, RecordMemory.read, allocated]
      rfl
    · have same : own = array.element other := congrArg (RecordPointer.mk _) (Function.update_of_ne here _ _)
      have apart : array.element other ≠ last :=
        fun same => Nat.ne_of_lt (inside other here begun) (congrArg RecordPointer.index same)
      rw [same, Function.update_of_ne here]
      exact (modify_read_of_ne _ apart).trans (placed.held other (others other here ▸ begun))

theorem refused_placed (placed : Placed network array) (absent : network.started k = false) (number : Nat)
    {message : Option SocketMessage} (rude : message ≠ some (.magicBytes gameMagicBytes)) :
    Placed (network.verified k number message) array := by
  apply still_placed placed
  · intro other
    unfold Network.started at absent ⊢
    rw [Network.verified, if_neg rude]
    by_cases here : other = k
    · subst here
      simp only [Network.withSend, Function.update_self]
      exact absent.symm
    · simp only [Network.withSend, Function.update_of_ne here]
      rfl
  · rw [Network.verified, if_neg rude]
    rfl

/-! ## Steps -/

omit [DecidableEq ι] in
theorem still_started (sends : next.sends = network.sends) (k : ι) : next.started k = network.started k := by
  unfold Network.started
  rw [sends]

/-- The check of a connection, and what `realloc` returns at its end. -/
theorem verify_placed (placed : Placed network array) (plugged : Plugged network) (outcome : ReadOutcome)
    (inPlace : InPlace array.handler (.accept 0 target)) :
    ∃ after, network.verifyArray array outcome target = .ok (network.verify outcome, after) ∧
      Placed (network.verify outcome) after := by
  unfold Network.verifyArray Network.verify
  cases handler : network.handler with
  | accepting | stopped => exact ⟨array, rfl, placed⟩
  | verifying k number reader =>
    cases reader with
    | reading call => exact ⟨array, rfl, still_placed placed (still_started rfl) rfl⟩
    | blocked source call =>
      refine ⟨array, rfl, ?_⟩
      cases outcome with
      | failed => exact still_placed placed (still_started rfl) rfl
      | bytes extra =>
        dsimp only
        split
        · exact placed
        · exact still_placed placed (still_started rfl) rfl
    | returned message =>
      have absent : network.sends k = .absent := (plugged.verifying k number _ handler).2
      dsimp only
      split
      case isTrue greeted =>
        obtain ⟨grown, accepted, kept⟩ := verified_placed placed absent inPlace number greeted
        exact ⟨_, bind_ok.mpr ⟨grown, accepted, rfl⟩, kept⟩
      case isFalse rude =>
        have idle : network.started k = false := by
          unfold Network.started
          rw [absent]
        exact ⟨array, rfl, refused_placed placed idle number rude⟩

theorem destroy_placed (placed : Placed network array) (k : ι) :
    ∃ after, (if network.started k then network.through array k (some (array.element k)) (·.destroy k)
        else .ok (network, array)) = .ok (network.destroy k, after) ∧ Placed (network.destroy k) after := by
  cases started : network.started k with
  | true => exact through_placed (·.destroy k) placed started (destroy_local network k)
  | false =>
    rw [idle_destroy started]
    exact ⟨array, rfl, placed⟩

variable [DecidableEq κ]

/-- With its records in the array, the network takes the steps that it takes by itself. -/
theorem stepArray_placed (placed : Placed network array) (plugged : Plugged network) (step : NetworkStep ι κ)
    (stays : Stays array (step, target)) :
    (∃ next after, network.step step = .ok next ∧ Network.stepArray (network, array) (step, target) = .ok (next, after) ∧
        Placed next after) ∨
      ∃ halt, network.step step = .error halt ∧ Network.stepArray (network, array) (step, target) = .error () := by
  -- A step of the threads that have no record, or of the world outside.
  have aside : (∀ {next}, network.step step = .ok next → next.sends = network.sends ∧ next.records = network.records) →
      Network.stepArray (network, array) (step, target) = array.beside (network.step step) →
      (∃ next after, network.step step = .ok next ∧ Network.stepArray (network, array) (step, target) = .ok (next, after) ∧
          Placed next after) ∨
        ∃ halt, network.step step = .error halt ∧ Network.stepArray (network, array) (step, target) = .error () := by
    intro leaves same
    rw [same]
    cases ran : network.step step with
    | ok next =>
      obtain ⟨sends, records⟩ := leaves ran
      exact Or.inl ⟨next, array, rfl, rfl, still_placed placed (still_started sends) records⟩
    | error halt => exact Or.inr ⟨halt, rfl, rfl⟩
  cases step with
  | send k delivered =>
    obtain ⟨after, ran, kept⟩ := throughThread_placed (·.send k delivered) placed (send_local network k delivered)
      fun idle => idle_send idle delivered
    exact Or.inl ⟨_, after, rfl, ran, kept⟩
  | receive k outcome =>
    have begun : network.receives k ≠ .absent → Begun (network.sends k) := by
      intro present
      rcases plugged.begun k present with connected | closed
      · exact connected_begun connected
      · exact closed_begun closed
    obtain ⟨after, ran, kept⟩ := throughThread_placed (·.receive k outcome) placed (receive_local network k outcome)
      fun idle => idle_receive idle begun outcome
    exact Or.inl ⟨_, after, rfl, ran, kept⟩
  | destroy k =>
    obtain ⟨after, ran, kept⟩ := destroy_placed placed k
    exact Or.inl ⟨_, after, rfl, ran, kept⟩
  | verify outcome =>
    obtain ⟨after, ran, kept⟩ := verify_placed placed plugged outcome stays
    exact Or.inl ⟨_, after, rfl, ran, kept⟩
  | room step =>
    refine aside (fun ran => ?_) rfl
    obtain ⟨room, -, built⟩ := bind_ok.mp ran
    cases built
    exact ⟨rfl, rfl⟩
  | accept k number =>
    refine aside (fun ran => ?_) rfl
    cases ran
    unfold Network.accept
    split <;> exact ⟨rfl, rfl⟩
  | stop =>
    refine aside (fun ran => ?_) rfl
    cases ran
    unfold Network.stop
    split <;> exact ⟨rfl, rfl⟩
  | endGame | arrive | hangUp =>
    refine aside (fun ran => ?_) rfl
    cases ran
    exact ⟨rfl, rfl⟩

/-- A step of a run whose array stays where it is, as the network takes it. -/
theorem stepArray_step (placed : Placed network array) (plugged : Plugged network) {step : NetworkStep ι κ}
    (stays : Stays array (step, target)) (ran : Network.stepArray (network, array) (step, target) = .ok (next, after)) :
    network.step step = .ok next ∧ Placed next after := by
  rcases stepArray_placed placed plugged step stays with ⟨other, later, stepped, also, kept⟩ | ⟨halt, -, fails⟩
  · rw [ran] at also
    cases also
    exact ⟨stepped, kept⟩
  · rw [ran] at fails
    cases fails

end

/-- Before a connection is accepted there is nothing to find in the array. -/
theorem start_placed (room : Room (ι ⊕ κ)) (records : ι → ClientConnection) (memory : Nat → UInt8)
    (blocks : RecordMemory) (block : Nat) (unused : Nat → ClientConnection) (place : ι → Nat) :
    Placed (Network.start room records memory) (RecordArray.start blocks block unused place) where
  arranged := start_arranged blocks block unused
  shared := start_shared blocks block unused
  inside := nofun
  apart := nofun
  held := nofun

end SnakePosix.RecordPlaces
