import SnakePosix.Foundation.GuardedRuns
import SnakePosix.Server.ConnectionHandler

/-! The record a connection's threads use is the handler's as long as `realloc` leaves
the array where it is. Once the array has moved, the connections before the move and
the one after it have their records in different blocks, and never again in one. -/
namespace SnakePosix.SharedRecords
open GuardedRuns

variable {memory : RecordMemory} {pointer : RecordPointer} {handler next : ConnectionHandler}

/-! ## Memory -/

@[simp] theorem modify_isSome (change : ClientConnection → ClientConnection) (block : Nat) :
    (memory.modify pointer change block).isSome = (memory block).isSome := by
  unfold RecordMemory.modify
  by_cases here : block = pointer.block
  · subst here
    simp
  · rw [Function.update_of_ne here]

theorem modify_read (change : ClientConnection → ClientConnection) :
    (memory.modify pointer change).read pointer = (memory.read pointer).map change := by
  unfold RecordMemory.read RecordMemory.modify
  rw [Function.update_self]
  cases memory pointer.block with
  | none => rfl
  | some records => simp

/-- `realloc` gives back a block that is allocated then. -/
theorem realloc_isSome {block target : Nat} {moved : RecordMemory} (allocated : (memory block).isSome)
    (ran : memory.realloc block target = .ok moved) : (moved target).isSome := by
  unfold RecordMemory.realloc at ran
  split at ran
  case isTrue same =>
    cases ran
    rwa [same]
  case isFalse away =>
    split at ran
    · cases ran
    · cases ran
      rwa [Function.update_of_ne away, Function.update_self]

/-! ## The array -/

/-- The threads of every connection were started with the record at its place in the
array. -/
def Shared (handler : ConnectionHandler) : Prop :=
  ∀ i, i < handler.connectionsSize →
    handler.started[i]? = some { block := handler.connections, index := i }

/-- Two connections have their records in different blocks. -/
def Torn (handler : ConnectionHandler) : Prop :=
  ∃ first ∈ handler.started, ∃ second ∈ handler.started, first.block ≠ second.block

structure Arranged (handler : ConnectionHandler) : Prop where
  started : handler.started.length = handler.connectionsSize
  fits : handler.connectionsSize ≤ handler.connectionsCapacity
  room : 0 < handler.connectionsCapacity
  allocated : (handler.memory handler.connections).isSome

/-- `realloc`, where it is called, returns the block it was given. -/
def InPlace (handler : ConnectionHandler) : HandlerStep → Prop
  | .accept _ target =>
    handler.connectionsCapacity = handler.connectionsSize → target = handler.connections
  | _ => True

theorem start_arranged (memory : RecordMemory) (block : Nat) (records : Nat → ClientConnection) :
    Arranged (ConnectionHandler.start memory block records) where
  started := rfl
  fits := Nat.zero_le _
  room := Nat.zero_lt_succ 3
  allocated := by simp [ConnectionHandler.start]

theorem start_shared (memory : RecordMemory) (block : Nat) (records : Nat → ClientConnection) :
    Shared (ConnectionHandler.start memory block records) :=
  fun _ inside => absurd inside (Nat.not_lt_zero _)

/-- What growing the array comes to: nothing, or a block from `realloc`. -/
theorem grow_ok {target : Nat} {grown : ConnectionHandler} (ran : handler.grow target = .ok grown) :
    (handler.connectionsCapacity ≠ handler.connectionsSize ∧ grown = handler) ∨
      handler.connectionsCapacity = handler.connectionsSize ∧
        ∃ moved, handler.memory.realloc handler.connections target = .ok moved ∧
          grown = { handler with
            memory := moved, connections := target, connectionsCapacity := handler.connectionsCapacity * 2 } := by
  unfold ConnectionHandler.grow at ran
  by_cases full : handler.connectionsCapacity = handler.connectionsSize
  · rw [if_pos full] at ran
    obtain ⟨moved, reallocated, built⟩ := bind_ok.mp ran
    cases built
    exact Or.inr ⟨full, moved, reallocated, rfl⟩
  · rw [if_neg full] at ran
    cases ran
    exact Or.inl ⟨full, rfl⟩

theorem grow_arranged {target : Nat} {grown : ConnectionHandler} (arranged : Arranged handler)
    (ran : handler.grow target = .ok grown) :
    Arranged grown ∧ grown.connectionsSize < grown.connectionsCapacity := by
  have fits := arranged.fits
  rcases grow_ok ran with ⟨spare, rfl⟩ | ⟨full, moved, reallocated, rfl⟩
  · exact ⟨arranged, by omega⟩
  · have room := arranged.room
    refine ⟨⟨arranged.started, ?_, ?_, realloc_isSome arranged.allocated reallocated⟩, ?_⟩
    · change handler.connectionsSize ≤ handler.connectionsCapacity * 2
      omega
    · change 0 < handler.connectionsCapacity * 2
      omega
    · change handler.connectionsSize < handler.connectionsCapacity * 2
      omega

theorem append_arranged {socket : Nat} (arranged : Arranged handler)
    (spare : handler.connectionsSize < handler.connectionsCapacity) : Arranged (handler.append socket) where
  started := by simp [ConnectionHandler.append, arranged.started]
  fits := spare
  room := arranged.room
  allocated := by simpa [ConnectionHandler.append] using arranged.allocated

theorem modify_arranged {connection : Nat} {change : ClientConnection → ClientConnection}
    (arranged : Arranged handler) : Arranged (handler.modify connection change) := by
  unfold ConnectionHandler.modify
  split
  · exact ⟨arranged.started, arranged.fits, arranged.room, by simpa using arranged.allocated⟩
  · exact arranged

theorem step_arranged (step : HandlerStep) (arranged : Arranged handler) (ran : handler.step step = .ok next) :
    Arranged next := by
  cases step with
  | accept socket target =>
    obtain ⟨grown, grew, built⟩ := bind_ok.mp ran
    cases built
    obtain ⟨arranged, spare⟩ := grow_arranged arranged grew
    exact append_arranged arranged spare
  | register connection playerId =>
    cases ran
    exact modify_arranged arranged
  | shutdown connection =>
    cases ran
    exact modify_arranged arranged

/-! ## Where the records lie -/

theorem modify_rest (handler : ConnectionHandler) (connection : Nat)
    (change : ClientConnection → ClientConnection) :
    (handler.modify connection change).started = handler.started ∧
      (handler.modify connection change).connections = handler.connections ∧
      (handler.modify connection change).connectionsSize = handler.connectionsSize := by
  unfold ConnectionHandler.modify
  split <;> exact ⟨rfl, rfl, rfl⟩

theorem append_shared {socket : Nat} (arranged : Arranged handler) (shared : Shared handler) :
    Shared (handler.append socket) := by
  intro i inside
  change (handler.started ++ [_])[i]? = _
  by_cases last : i = handler.connectionsSize
  · rw [last, ← arranged.started, List.getElem?_concat_length, arranged.started]
    rfl
  · have before : i < handler.connectionsSize := by
      have inside : i < handler.connectionsSize + 1 := inside
      omega
    rw [List.getElem?_append_left (by rw [arranged.started]; exact before)]
    exact shared i before

theorem step_shared (step : HandlerStep) (arranged : Arranged handler) (shared : Shared handler)
    (inPlace : InPlace handler step) (ran : handler.step step = .ok next) : Shared next := by
  cases step with
  | accept socket target =>
    obtain ⟨grown, grew, built⟩ := bind_ok.mp ran
    cases built
    refine append_shared (grow_arranged arranged grew).1 ?_
    rcases grow_ok grew with ⟨-, rfl⟩ | ⟨full, moved, -, rfl⟩
    · exact shared
    · rw [inPlace full]
      exact shared
  | register connection playerId =>
    cases ran
    obtain ⟨started, connections, size⟩ := modify_rest handler connection fun record => { record with playerId }
    rw [Shared, started, connections, size]
    exact shared
  | shutdown connection =>
    cases ran
    obtain ⟨started, connections, size⟩ := modify_rest handler connection clientConnectionShutdown
    rw [Shared, started, connections, size]
    exact shared

/-- The array has moved: its first connection stays behind, and the one that made it
grow is in the new block. -/
theorem step_torn (step : HandlerStep) (arranged : Arranged handler) (shared : Shared handler)
    (moves : ¬ InPlace handler step) (ran : handler.step step = .ok next) : Torn next := by
  cases step with
  | register connection playerId => exact absurd trivial moves
  | shutdown connection => exact absurd trivial moves
  | accept socket target =>
    obtain ⟨full, away⟩ := Classical.not_imp.mp moves
    obtain ⟨grown, grew, built⟩ := bind_ok.mp ran
    cases built
    rcases grow_ok grew with ⟨spare, -⟩ | ⟨-, moved, -, rfl⟩
    · exact absurd full spare
    · have room := arranged.room
      have first := shared 0 (by omega)
      refine ⟨_, List.mem_append_left _ (List.mem_of_getElem? first), _,
        List.mem_append_right _ (List.mem_singleton.mpr rfl), ?_⟩
      exact Ne.symm away

theorem step_started (step : HandlerStep) (ran : handler.step step = .ok next) :
    ∀ pointer ∈ handler.started, pointer ∈ next.started := by
  intro pointer member
  cases step with
  | accept socket target =>
    obtain ⟨grown, grew, built⟩ := bind_ok.mp ran
    cases built
    rcases grow_ok grew with ⟨-, rfl⟩ | ⟨-, moved, -, rfl⟩
    · exact List.mem_append_left _ member
    · exact List.mem_append_left _ member
  | register connection playerId =>
    cases ran
    rw [(modify_rest handler connection _).1]
    exact member
  | shutdown connection =>
    cases ran
    rw [(modify_rest handler connection _).1]
    exact member

theorem torn_stays (step : HandlerStep) (torn : Torn handler) (ran : handler.step step = .ok next) :
    Torn next := by
  obtain ⟨first, firstMember, second, secondMember, apart⟩ := torn
  exact ⟨first, step_started step ran first firstMember, second, step_started step ran second secondMember, apart⟩

theorem torn_apart (arranged : Arranged handler) (torn : Torn handler) : ¬ Shared handler := by
  obtain ⟨first, firstMember, second, secondMember, apart⟩ := torn
  intro shared
  have placed : ∀ pointer ∈ handler.started, pointer.block = handler.connections := by
    intro pointer member
    obtain ⟨i, inside, found⟩ := List.mem_iff_getElem.mp member
    have there := shared i (by rw [← arranged.started]; exact inside)
    rw [List.getElem?_eq_getElem inside, found] at there
    cases there
    rfl
  exact apart ((placed first firstMember).trans (placed second secondMember).symm)

/-! ## Whole runs -/

/-- The handler and the threads share their records exactly when `realloc` has never
moved the array. -/
theorem run_shared_iff (memory : RecordMemory) (block : Nat) (records : Nat → ClientConnection)
    {steps : List HandlerStep} (ran : (ConnectionHandler.start memory block records).run steps = .ok handler) :
    ((∀ i, i < handler.connectionsSize →
        handler.started[i]? = some { block := handler.connections, index := i } ∧
          (handler.destroyConnection i).tested i = some true) ↔
      Guarded ConnectionHandler.step InPlace (ConnectionHandler.start memory block records) steps) := by
  have arranged : Arranged handler :=
    run_always ConnectionHandler.step Arranged steps (fun _ step _ _ arranged ran => step_arranged step arranged ran)
      (start_arranged memory block records) ran
  have guarded : Guarded ConnectionHandler.step InPlace (ConnectionHandler.start memory block records) steps ↔
      Arranged handler ∧ Shared handler := guarded_iff (fun handler => Arranged handler ∧ Shared handler)
    (fun handler => Arranged handler ∧ Torn handler)
    (fun _ step _ kept inPlace ran =>
      ⟨step_arranged step kept.1 ran, step_shared step kept.1 kept.2 inPlace ran⟩)
    (fun _ step _ kept moves ran =>
      ⟨step_arranged step kept.1 ran, step_torn step kept.1 kept.2 moves ran⟩)
    (fun _ step _ lost ran => ⟨step_arranged step lost.1 ran, torn_stays step lost.2 ran⟩)
    (fun _ lost kept => torn_apart lost.1 lost.2 kept.2) steps
    ⟨start_arranged memory block records, start_shared memory block records⟩ ran
  rw [guarded]
  constructor
  · intro all
    exact ⟨arranged, fun i inside => (all i inside).1⟩
  · rintro ⟨-, shared⟩ i inside
    refine ⟨shared i inside, ?_⟩
    unfold ConnectionHandler.tested ConnectionHandler.destroyConnection
    dsimp only
    rw [shared i inside]
    dsimp only
    rw [modify_read]
    obtain ⟨records, allocated⟩ := Option.isSome_iff_exists.mp arranged.allocated
    simp [RecordMemory.read, allocated, clientConnectionShutdown]

def unusedRecord : ClientConnection := { playerId := 0, socket := 0, shutdown := false }

/-- Four connections fit; one of them registers and one is shut down. -/
def fourAccepted : List HandlerStep :=
  [.accept 5 0, .accept 6 0, .register 0 3, .accept 7 0, .shutdown 1, .accept 8 0]

theorem run_shared_iff_fourAccepted :
    ∃ handler, (ConnectionHandler.start (fun _ => none) 0 fun _ => unusedRecord).run fourAccepted = .ok handler ∧
      handler.started[3]? = some { block := 0, index := 3 } ∧ (handler.destroyConnection 3).tested 3 = some true := by
  have inPlace : Guarded ConnectionHandler.step InPlace (ConnectionHandler.start (fun _ => none) 0 fun _ => unusedRecord)
      fourAccepted := ⟨fun _ => rfl, fun _ => rfl, trivial, fun _ => rfl, trivial, fun _ => rfl, trivial⟩
  refine ⟨_, rfl, ?_⟩
  exact (@run_shared_iff _ (fun _ => none) 0 (fun _ => unusedRecord) fourAccepted rfl).mpr inPlace 3 (by decide)

/-- The fifth makes the array grow, and `realloc` returns another block. -/
def fiveAccepted : List HandlerStep :=
  [.accept 5 0, .accept 6 0, .accept 7 0, .accept 8 0, .accept 9 1]

theorem run_shared_iff_fiveAccepted :
    ∃ handler, (ConnectionHandler.start (fun _ => none) 0 fun _ => unusedRecord).run fiveAccepted = .ok handler ∧
      0 < handler.connectionsSize ∧ handler.connections = 1 ∧
      handler.started[0]? = some { block := 0, index := 0 } ∧ (handler.destroyConnection 0).tested 0 = none :=
  ⟨_, rfl, by decide, rfl, rfl, rfl⟩

end SnakePosix.SharedRecords
