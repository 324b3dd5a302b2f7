import SnakePosix.RecordPlaces
import SnakePosix.SlotLeases

/-! Connections leave nothing behind. A descriptor number is open for a connection
exactly from `accept` until its send thread closes it or the handler refuses it, and
a slot is held from its registration until it is unregistered. The records are found in
the handler's array as long as `realloc` leaves it where it is. -/
namespace SnakePosix.Departures
open Connections Descriptors GuardedRuns RecordPlaces SlotLeases SlotOwners

variable {ι κ : Type} {network next : Network ι κ} {k other : ι} {before after : Place} {number : Nat}

/-! ## Slots -/

/-- Where a slot is held, and that it is the slot of the record. -/
def Housed (place : Place) : Prop := ∀ slot, place.registration = .holding slot →
  place.send = .registering ∨ Seated place.send ∧ place.record.playerId = slot

/-- The slot is given up in the call of `player_manager_unregister` and nowhere else. -/
theorem turn_housed (turn : Turn before after) (attached : Attached before) (housed : Housed before)
    (unregistered : after.send = .shuttingDown → ∀ slot, after.registration ≠ .holding slot) : Housed after := by
  cases turn with
  | rests | shuts => exact housed
  | accepts | rejects | refuses | turnsAway | shutsDown | closes =>
    intro slot holds
    rcases housed slot holds with registering | ⟨seated, -⟩
    · cases registering
    · exact seated.elim
  | begins | searches => exact fun slot holds => Or.inl rfl
  | seats =>
    intro slot holds
    exact Or.inr ⟨trivial, Registration.holding.inj holds⟩
  | misses => exact fun slot holds => by cases holds
  | serves seated stays told =>
    intro slot holds
    refine Or.inr ⟨stays, ?_⟩
    have own := attached.seated seated
    rw [told_playerId told]
    exact Registration.holding.inj (own.symm.trans holds)
  | unregisters => exact fun slot holds => absurd holds (unregistered rfl slot)

theorem turn_left (turn : Turn before after) (left : after.send = .shuttingDown) :
    before.send = .shuttingDown ∧ after.registration = before.registration ∨ before.send = .unregistering := by
  cases turn with
  | rests | shuts => exact Or.inl ⟨left, rfl⟩
  | unregisters => exact Or.inr rfl
  | serves seated stays =>
    cases left
    exact stays.elim
  | _ => cases left

variable [DecidableEq ι] [DecidableEq κ] {step : NetworkStep ι κ}

theorem unregister_gives_up (room : Room (ι ⊕ κ)) (client : ι ⊕ κ) (slot : Nat) :
    (room.unregister client).clients client ≠ .holding slot := by
  unfold Room.unregister
  split
  · intro holds
    rw [show ((room.withManager _).withClient client .absent).clients client = .absent from
      Function.update_self ..] at holds
    cases holds
  · rename_i other
    exact other slot

/-- Past the call the connection holds no slot. -/
theorem step_gives_up (plugged : Plugged network) (housed : Housed (place network k))
    (ran : network.step step = .ok next) (left : next.sends k = .shuttingDown) (slot : Nat) :
    next.room.clients (.inl k) ≠ .holding slot := by
  rcases turn_left (step_turn plugged step ran k) left with ⟨already, same⟩ | leaving
  · intro holds
    rcases housed slot (same.symm.trans holds) with registering | ⟨seated, -⟩
    · rw [already] at registering
      cases registering
    · rw [already] at seated
      exact seated
  · replace leaving : network.sends k = .unregistering := leaving
    have own : ∃ delivered, step = .send k delivered := by
      by_contra others
      have stays := step_sends plugged step ran (by simp [leaving]) fun delivered same => others ⟨delivered, same⟩
      rw [left, leaving] at stays
      cases stays
    obtain ⟨delivered, rfl⟩ := own
    cases ran
    simp only [Network.send, leaving]
    exact unregister_gives_up network.room (.inl k) slot

theorem step_housed (plugged : Plugged network) (attached : Attached (place network k))
    (housed : Housed (place network k)) (ran : network.step step = .ok next) : Housed (place next k) :=
  turn_housed (step_turn plugged step ran k) attached housed (step_gives_up plugged housed ran)

/-! ## The room of the network -/

theorem send_room (network : Network ι κ) (k : ι) (delivered : Bool) :
    (network.send k delivered).room = network.room ∨
      ∃ roomStep, network.room.step roomStep = .ok (network.send k delivered).room := by
  have silent : (network.sent k delivered).room = network.room := by
    unfold Network.sent
    split <;> rfl
  unfold Network.send
  cases network.sends k with
  | starting => exact Or.inr ⟨.register (.inl k), rfl⟩
  | registering =>
    dsimp only
    split
    · exact Or.inr ⟨.search (.inl k), rfl⟩
    · exact Or.inl rfl
    · exact Or.inl rfl
  | unregistering => exact Or.inr ⟨.unregister (.inl k), rfl⟩
  | refused | greeting | observing | refreshing | updating => exact Or.inl silent
  | leaving =>
    dsimp only
    split
    · exact Or.inl silent
    · exact Or.inl rfl
  | _ => exact Or.inl rfl

theorem receive_room (network : Network ι κ) (k : ι) (outcome : ReadOutcome) :
    (network.receive k outcome).room = network.room ∨
      ∃ roomStep, network.room.step roomStep = .ok (network.receive k outcome).room := by
  unfold Network.receive
  cases network.receives k with
  | calling call => exact Or.inr ⟨.call call, rfl⟩
  | reading reader =>
    left
    cases reader with
    | blocked source call =>
      cases outcome with
      | failed => rfl
      | bytes extra =>
        simp only [Network.read]
        split <;> rfl
    | returned message => cases message <;> rfl
    | reading call => rfl
  | _ => exact Or.inl rfl

/-- Whatever happens in the network is at most one step of its room. -/
theorem step_room (ran : network.step step = .ok next) :
    next.room = network.room ∨ ∃ roomStep, network.room.step roomStep = .ok next.room := by
  cases step with
  | room step =>
    obtain ⟨room, stepped, built⟩ := bind_ok.mp ran
    cases built
    exact Or.inr ⟨_, stepped⟩
  | endGame | arrive | hangUp =>
    cases ran
    exact Or.inl rfl
  | accept connection number =>
    cases ran
    unfold Network.accept
    split <;> exact Or.inl rfl
  | verify outcome =>
    cases ran
    left
    unfold Network.verify
    split
    case h_2 =>
      split
      · rfl
      · split <;> rfl
    case h_3 =>
      unfold Network.verified
      split <;> rfl
    all_goals rfl
  | stop =>
    cases ran
    unfold Network.stop
    split <;> exact Or.inl rfl
  | destroy connection =>
    cases ran
    unfold Network.destroy
    split <;> exact Or.inl rfl
  | send k delivered =>
    cases ran
    exact send_room network k delivered
  | receive k outcome =>
    cases ran
    exact receive_room network k outcome

/-! ## Descriptors -/

/-- What a descriptor number is open for. -/
def Traced (network : Network ι κ) : Prop := ∀ number k, network.descriptors number = some k →
  Connected (network.sends k) ∧ (network.records k).socket = number ∨
    ∃ reader, network.handler = .verifying k number reader

omit [DecidableEq ι] [DecidableEq κ] in
theorem turn_socket (turn : Turn before after) (connected : Connected before.send) :
    after.record.socket = before.record.socket := by
  cases turn with
  | accepts => exact connected.elim
  | refuses told | serves _ _ told => rcases told with rfl | rfl <;> rfl
  | _ => rfl

omit [DecidableEq ι] [DecidableEq κ] in
/-- A send thread stays connected until it calls `socket_close`. -/
theorem turn_connected (turn : Turn before after) (connected : Connected before.send)
    (turningAway : before.send ≠ .turningAway) (closing : before.send ≠ .closing) : Connected after.send := by
  cases turn with
  | rests | shuts => exact connected
  | accepts | rejects => exact connected.elim
  | begins | searches | seats | misses | refuses | unregisters | shutsDown => trivial
  | turnsAway => exact absurd rfl turningAway
  | closes => exact absurd rfl closing
  | serves _ stays => exact seated_connected stays

/-- Steps that open no number and close none. -/
theorem kept_traced (traced : Traced network) (plugged : Plugged network) (ran : network.step step = .ok next)
    (descriptors : next.descriptors = network.descriptors)
    (connected : ∀ k, Connected (network.sends k) → Connected (next.sends k))
    (handler : ∀ k number reader, network.handler = .verifying k number reader →
      ∃ later, next.handler = .verifying k number later) : Traced next := by
  intro number k found
  rw [descriptors] at found
  rcases traced number k found with ⟨open_, socket⟩ | ⟨reader, verifying⟩
  · have same : (next.records k).socket = (network.records k).socket :=
      turn_socket (step_turn plugged step ran k) open_
    exact Or.inl ⟨connected k open_, same.trans socket⟩
  · exact Or.inr (handler k number reader verifying)

omit [DecidableEq ι] [DecidableEq κ] in
theorem accept_traced (traced : Traced network) (k : ι) (number : Nat) : Traced (network.accept k number) := by
  unfold Network.accept
  split
  case h_2 => exact traced
  case h_1 accepting absent free =>
    intro number' k' found
    dsimp only at found ⊢
    rw [Function.update_apply] at found
    split at found
    · rename_i same
      cases same
      cases found
      exact Or.inr ⟨_, rfl⟩
    · rcases traced number' k' found with open_ | ⟨reader, verifying⟩
      · exact Or.inl open_
      · rw [accepting] at verifying
        cases verifying

omit [DecidableEq κ] in
/-- The handler's connection is started behind its number, or the number is closed. -/
theorem verified_traced {reader : SocketReader ι} {message : Option SocketMessage} (traced : Traced network)
    (plugged : Plugged network) (handler : network.handler = .verifying k number reader) :
    Traced (network.verified k number message) := by
  have absent : network.sends k = .absent := (plugged.verifying k number reader handler).2
  have away : ∀ {other}, Connected (network.sends other) → other ≠ k := by
    rintro other connected rfl
    rw [absent] at connected
    exact connected
  unfold Network.verified
  split
  · intro number' k' found
    left
    rcases traced number' k' found with ⟨open_, socket⟩ | ⟨later, verifying⟩
    · simp only [Network.withReceive, Network.withSend, Network.withRecord, Function.update_of_ne (away open_)]
      exact ⟨open_, socket⟩
    · rw [handler] at verifying
      cases verifying
      simp only [Network.withReceive, Network.withSend, Network.withRecord, Function.update_self]
      exact ⟨trivial, rfl⟩
  · intro number' k' found
    left
    simp only [Network.close, Network.withSend] at found ⊢
    rw [Function.update_apply] at found
    split at found
    · cases found
    · rename_i others
      rcases traced number' k' found with ⟨open_, socket⟩ | ⟨later, verifying⟩
      · rw [Function.update_of_ne (away open_)]
        exact ⟨open_, socket⟩
      · rw [handler] at verifying
        cases verifying
        exact absurd rfl others

omit [DecidableEq κ] in
theorem close_traced {stage : SendStage} (traced : Traced network) (k : ι) :
    Traced ((network.close (network.records k).socket).withSend k stage) := by
  intro number k' found
  simp only [Network.close, Network.withSend] at found ⊢
  rw [Function.update_apply] at found
  split at found
  · cases found
  · rename_i others
    rcases traced number k' found with ⟨open_, socket⟩ | verifying
    · have away : k' ≠ k := by
        rintro rfl
        exact others socket.symm
      rw [Function.update_of_ne away]
      exact Or.inl ⟨open_, socket⟩
    · exact Or.inr verifying

omit [DecidableEq κ] in
theorem verify_traced (traced : Traced network) (plugged : Plugged network) (outcome : ReadOutcome) :
    Traced (network.verify outcome) := by
  have reads : ∀ {connection number reader later} (inbound : ι → List UInt8),
      network.handler = .verifying connection number reader →
        Traced { network with inbound, handler := .verifying connection number later } := by
    intro connection number reader later inbound handler number' k' found
    rcases traced number' k' found with open_ | ⟨reader', verifying⟩
    · exact Or.inl open_
    · rw [handler] at verifying
      cases verifying
      exact Or.inr ⟨later, rfl⟩
  unfold Network.verify
  split
  case h_1 handler => exact reads network.inbound handler
  case h_2 handler =>
    split
    · exact reads network.inbound handler
    · split
      · exact traced
      · exact reads _ handler
  case h_3 handler => exact verified_traced traced plugged handler
  case h_4 => exact traced
  case h_5 => exact traced

theorem send_traced (traced : Traced network) (plugged : Plugged network) (k : ι) (delivered : Bool) :
    Traced (network.send k delivered) := by
  by_cases turningAway : network.sends k = .turningAway
  · simp only [Network.send, turningAway]
    exact close_traced traced k
  · by_cases closing : network.sends k = .closing
    · simp only [Network.send, closing]
      exact close_traced traced k
    · have quiet := send_kept network k delivered turningAway closing
      have ran : network.step (.send k delivered) = .ok (network.send k delivered) := rfl
      apply kept_traced traced plugged ran quiet.descriptors
      · intro other open_
        by_cases here : other = k
        · subst here
          exact turn_connected (step_turn plugged _ ran other) open_ turningAway closing
        · exact (congrArg (Connected ·.send) (send_elsewhere here network delivered)).mpr open_
      · intro other number reader verifying
        exact ⟨reader, quiet.handler.trans verifying⟩

omit [DecidableEq κ] in
theorem receive_descriptors (network : Network ι κ) (k : ι) (outcome : ReadOutcome) :
    (network.receive k outcome).descriptors = network.descriptors := by
  unfold Network.receive
  cases network.receives k with
  | reading reader =>
    cases reader with
    | blocked source call =>
      cases outcome with
      | failed => rfl
      | bytes extra =>
        simp only [Network.read]
        split <;> rfl
    | returned message => cases message <;> rfl
    | reading call => rfl
  | _ => rfl

theorem step_traced (traced : Traced network) (plugged : Plugged network) (ran : network.step step = .ok next) :
    Traced next := by
  cases step with
  | room step =>
    obtain ⟨room, -, built⟩ := bind_ok.mp ran
    cases built
    exact traced
  | endGame | arrive | hangUp =>
    cases ran
    exact traced
  | accept connection number =>
    cases ran
    exact accept_traced traced connection number
  | verify outcome =>
    cases ran
    exact verify_traced traced plugged outcome
  | stop =>
    cases ran
    unfold Network.stop
    split
    · rename_i accepting
      intro number k found
      refine (traced number k found).imp_right fun ⟨reader, verifying⟩ => ?_
      rw [accepting] at verifying
      cases verifying
    · exact traced
  | destroy connection =>
    have quiet := destroy_quiet network connection
    have destroyed : network.step (.destroy connection) = .ok (network.destroy connection) := rfl
    cases ran
    apply kept_traced traced plugged destroyed quiet.descriptors
    · intro k open_
      unfold Network.destroy
      split <;> exact open_
    · intro k number reader verifying
      exact ⟨reader, quiet.handler.trans verifying⟩
  | send connection delivered =>
    cases ran
    exact send_traced traced plugged connection delivered
  | receive connection outcome =>
    have leaves := receive_leaves network connection outcome
    have received : network.step (.receive connection outcome) = .ok (network.receive connection outcome) := rfl
    cases ran
    apply kept_traced traced plugged received (receive_descriptors network connection outcome)
    · intro k open_
      rwa [leaves.1]
    · intro k number reader verifying
      exact ⟨reader, leaves.2.trans verifying⟩

/-! ## Runs -/

structure Accounted (network : Network ι κ) : Prop where
  steady : Steady network
  traced : Traced network
  housed : ∀ k, Housed (place network k)
  owned : Owned network.room
  leased : Leased network.room

theorem step_accounted (accounted : Accounted network) (ran : network.step step = .ok next) : Accounted next where
  steady := step_steady step accounted.steady ran
  traced := step_traced accounted.traced accounted.steady.plugged ran
  housed := fun k => step_housed accounted.steady.plugged (accounted.steady.attached k) (accounted.housed k) ran
  owned := by
    rcases step_room ran with same | ⟨roomStep, stepped⟩
    · exact same ▸ accounted.owned
    · exact step_owned accounted.owned roomStep stepped
  leased := by
    rcases step_room ran with same | ⟨roomStep, stepped⟩
    · exact same ▸ accounted.leased
    · exact step_leased accounted.leased roomStep stepped

omit [DecidableEq ι] [DecidableEq κ] in
theorem start_accounted (map : Map) (directions : Nat → Direction) (cache : PlayerDataCache) (template : MapTemplate)
    (records : ι → ClientConnection) (memory : Nat → UInt8) :
    Accounted (Network.start (Room.start map directions cache template) records memory : Network ι κ) where
  steady := start_steady map directions cache template records memory
  traced := fun _ _ found => by cases found
  housed := fun _ _ holds => by cases holds
  owned := start_owned map directions cache template
  leased := fun _ => Or.inl (Or.inl rfl)

omit [DecidableEq ι] [DecidableEq κ] in
/-- What is said of a connection's record is said of the one its threads find. -/
theorem found_iff {array : RecordArray ι} (placed : Placed network array) (begun : Begun (network.sends k))
    (holds : ClientConnection → Prop) :
    (∃ record, array.record k = some record ∧ holds record) ↔ holds (network.records k) := by
  rw [placed_record placed (started_iff.mpr begun)]
  exact ⟨fun ⟨_, same, held⟩ => Option.some.inj same ▸ held, fun held => ⟨_, rfl, held⟩⟩

/-- What holds of the network with its array. -/
structure Kept (state : Network ι κ × RecordArray ι) : Prop where
  accounted : Accounted state.1
  placed : Placed state.1 state.2

theorem step_kept {state later : Network ι κ × RecordArray ι} {step : NetworkStep ι κ × Nat} (kept : Kept state)
    (stays : Stays state.2 step) (ran : Network.stepArray state step = .ok later) : Kept later := by
  obtain ⟨accounted, placed⟩ := kept
  obtain ⟨stepped, still⟩ := stepArray_step placed accounted.steady.plugged stays ran
  exact ⟨step_accounted accounted stepped, still⟩

/-- In every run of the server's threads whose array stays where it is: the threads of a
connection find its record, the numbers that are open are those of connections that the
handler is checking or whose send thread has not closed its socket, the slots connections
hold are those of send threads that have not unregistered, and a tick frees the slots that
nobody holds. -/
theorem run_departs {array final : RecordArray ι} {steps : List (NetworkStep ι κ × Nat)}
    (started : array = .start blocks block unused places)
    (stays : Guarded Network.stepArray (fun state => Stays state.2)
      (Network.start (Room.start map directions cache template) records memory, array) steps)
    (ran : Network.runArray (Network.start (Room.start map directions cache template) records memory, array) steps =
      .ok (network, final)) :
    (∀ k, network.started k = true → (final.record k).isSome) ∧
    (∀ number k, network.descriptors number = some k ↔
      (Connected (network.sends k) ∧ ∃ record, final.record k = some record ∧ record.socket = number) ∨
        ∃ reader, network.handler = .verifying k number reader) ∧
    (∀ k slot, network.room.clients (.inl k) = .holding slot →
      network.sends k = .registering ∨
        Seated (network.sends k) ∧ ∃ record, final.record k = some record ∧ record.playerId = slot) ∧
    ∀ rng room, network.room.tick rng = .ok room → ∀ slot < maxPlayers,
      (room.manager.players slot).status = .notConnected ↔
        ∀ client, network.room.clients client ≠ .holding slot := by
  subst started
  have begun : @Kept ι κ (Network.start (Room.start map directions cache template) records memory,
      RecordArray.start blocks block unused places) :=
    ⟨start_accounted map directions cache template records memory, start_placed _ _ _ blocks block unused places⟩
  obtain ⟨accounted, placed⟩ := run_preserves Kept steps (fun _ _ _ _ => step_kept) begun stays ran
  have plugged := accounted.steady.plugged
  refine ⟨fun k begun => ?_, fun number k => ?_, fun k slot holds => ?_, fun rng room ticked slot within => ?_⟩
  · rw [placed_record placed begun]
    rfl
  · have found : (Connected (network.sends k) ∧ ∃ record, final.record k = some record ∧ record.socket = number) ↔
        Connected (network.sends k) ∧ (network.records k).socket = number :=
      and_congr_right fun connected => found_iff placed (connected_begun connected) (·.socket = number)
    rw [found]
    refine ⟨accounted.traced number k, ?_⟩
    rintro (⟨connected, rfl⟩ | ⟨reader, verifying⟩)
    · exact plugged.opened k connected
    · exact (plugged.verifying k number reader verifying).1
  · refine (accounted.housed k slot holds).imp_right fun ⟨seated, own⟩ => ⟨seated, ?_⟩
    exact (found_iff placed (connected_begun (seated_connected seated)) (·.playerId = slot)).mpr own
  · exact tick_free_iff accounted.owned accounted.leased ticked within

def quietArray : Network (Fin 5) Empty × RecordArray (Fin 5) :=
  (.start SlotOwners.emptyRoom (fun _ => clientConnectionInit 0) fun _ => 0,
    .start (fun _ => none) 0 (fun _ => SharedRecords.unusedRecord) fun _ => 0)

/-- A client is accepted behind a number. -/
def comes (k : Fin 5) : List (NetworkStep (Fin 5) Empty) :=
  [.arrive k (socketMessageSerialize (socketMessageInitMagicBytes gameMagicBytes)), .accept k (5 + k), .verify .failed,
    .verify (.bytes 0), .verify .failed, .verify (.bytes 3), .verify .failed]

/-- The first message for the first client cannot be sent, and its send thread runs to
its end. -/
def goes : List (NetworkStep (Fin 5) Empty) :=
  [.send 0 true, .send 0 true, .send 0 true, .send 0 false, .send 0 true, .send 0 true, .send 0 true, .send 0 true,
    .send 0 true, .send 0 true]

/-- When the fifth client comes, the array grows where it is. -/
def departing : List (NetworkStep (Fin 5) Empty × Nat) :=
  (comes 0 ++ comes 1 ++ comes 2 ++ comes 3 ++ comes 4 ++ goes).map (·, 0)

private theorem departing_stays : Guarded Network.stepArray (fun state => Stays state.2) quietArray departing := by
  decide +kernel

private theorem departing_ran : ∃ network final, Network.runArray quietArray departing = .ok (network, final) ∧
    network.sends 0 = .ended ∧ network.handler = .accepting ∧ final.handler.connectionsCapacity = 8 :=
  ⟨_, _, rfl, rfl, rfl, rfl⟩

theorem run_departs_departing : ∃ network final, Network.runArray quietArray departing = .ok (network, final) ∧
    network.sends 0 = .ended ∧ final.handler.connectionsCapacity = 8 ∧ (final.record 0).isSome ∧
      ∀ number, network.descriptors number ≠ some 0 := by
  obtain ⟨network, final, ran, ended, accepting, grown⟩ := departing_ran
  have departs := run_departs rfl departing_stays ran
  have started : network.started 0 = true := started_iff.mpr (by rw [ended]; trivial)
  refine ⟨network, final, ran, ended, grown, departs.1 0 started, fun number found => ?_⟩
  rcases (departs.2.1 number 0).mp found with ⟨connected, -⟩ | ⟨reader, verifying⟩
  · rw [ended] at connected
    exact connected
  · rw [accepting] at verifying
    cases verifying

end SnakePosix.Departures
