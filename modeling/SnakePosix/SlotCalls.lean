import SnakePosix.Connections

/-! A connection steers its own player only, as long as its send thread does not
unregister the player while its receive thread is past the test of `shutdown_` and not
through with the player manager. The two threads share no lock, and the next client may
take a slot as soon as it is unregistered. -/
namespace SnakePosix.SlotCalls
open GuardedRuns Descriptors SlotOwners Connections

variable {ι κ : Type} {network next : Network ι κ} {k : ι} {before after : Place} {receive : ReceiveStage ι}
  {record : ClientConnection} {message : SocketMessage} {call : SlotCall}

/-! ## On the way to the player manager -/

/-- The messages that ask for a call of the player manager. -/
def CallsFor : SocketMessage → Prop
  | .direction _ | .pause | .unpause | .respawn => True
  | _ => False

/-- Past the test of `shutdown_` with such a message. -/
def Steering : ReceiveStage ι → Prop
  | .handling message => CallsFor message
  | .calling _ => True
  | _ => False

/-- Who steers has a player, and the number of that player. -/
def Steers (place : Place) : ReceiveStage ι → Prop
  | .handling message => CallsFor message → place.record.playerId ≠ playerIdNotRegistered → Seated place.send
  | .calling call => Seated place.send ∧ place.record.playerId = call.playerId
  | _ => True

/-- The player is not unregistered under the receive thread, and no message for the
player manager passes the test between the unregistering and the shutdown. -/
def Orderly (network : Network ι κ) : NetworkStep ι κ → Prop
  | .send k _ => network.sends k = .unregistering → ¬ Steering (network.receives k)
  | .receive k _ => network.sends k = .shuttingDown → ∀ message,
    network.receives k = .reading (.returned (some message)) → CallsFor message → (network.records k).shutdown = true
  | _ => True

/-! ## The send thread goes on -/

/-- Without a seat nobody steers, whatever becomes of the send thread. -/
private theorem unseated_steers (idle : ¬ Seated before.send) (same : after.record.playerId = before.record.playerId)
    (steers : Steers before receive) : Steers after receive := by
  cases receive with
  | handling message => exact fun calls known => absurd (steers calls (same ▸ known)) idle
  | calling call => exact absurd steers.1 idle
  | _ => trivial

theorem turn_steers (turn : Turn before after) (steers : Steers before receive)
    (orderly : before.send = .unregistering → after.send ≠ .unregistering → ¬ Steering receive) :
    Steers after receive := by
  cases turn with
  | rests => exact steers
  | shuts => cases receive <;> exact steers
  | accepts =>
    cases receive with
    | handling message => exact fun calls known => absurd rfl known
    | calling call => exact steers.1.elim
    | _ => trivial
  | seats =>
    cases receive with
    | handling message => exact fun _ _ => trivial
    | calling call => exact steers.1.elim
    | _ => trivial
  | serves seated stays told =>
    cases receive with
    | handling message => exact fun _ _ => stays
    | calling call => exact ⟨stays, (told_playerId told).trans steers.2⟩
    | _ => trivial
  | unregisters =>
    have still := orderly rfl nofun
    cases receive with
    | handling message => exact fun calls => absurd calls still
    | calling call => exact absurd trivial still
    | _ => trivial
  | refuses told =>
    refine unseated_steers ?_ (told_playerId told) steers
    exact not_false
  | rejects | begins | searches | misses | turnsAway | shutsDown | closes =>
    refine unseated_steers ?_ rfl steers
    exact not_false

/-! ## The receive thread goes on -/

/-- A message for the player manager is handled with the number of the record. -/
theorem handle_calling (called : clientConnectionHandle record message = (.calling call : ReceiveStage ι)) :
    CallsFor message ∧ record.playerId ≠ playerIdNotRegistered ∧ record.playerId = call.playerId := by
  unfold clientConnectionHandle at called
  cases message with
  | direction | pause | unpause | respawn =>
    dsimp only at called
    split at called
    · cases called
      exact ⟨trivial, ‹_›, rfl⟩
    · cases called
  | _ => cases called

theorem handle_handled (record : ClientConnection) (message other : SocketMessage) :
    clientConnectionHandle record message ≠ (.handling other : ReceiveStage ι) := by
  unfold clientConnectionHandle
  cases message with
  | direction | pause | unpause | respawn =>
    dsimp only
    split <;> nofun
  | _ => nofun

theorem handle_steers (steers : Steers before (.handling message : ReceiveStage ι)) :
    Steers before (clientConnectionHandle before.record message : ReceiveStage ι) := by
  cases stage : (clientConnectionHandle before.record message : ReceiveStage ι) with
  | handling other => exact absurd stage (handle_handled _ _ _)
  | calling call =>
    obtain ⟨calls, known, own⟩ := handle_calling stage
    exact ⟨steers calls known, own⟩
  | _ => trivial

/-- A message that finds `shutdown_` false finds a player that is still there. -/
theorem passes_steers (attached : Attached before) (begun : Connected before.send ∨ Closed before.send)
    (orderly : before.send = .shuttingDown → CallsFor message → before.record.shutdown = true)
    (unset : before.record.shutdown = false) : Steers before (.handling message : ReceiveStage ι) := by
  intro calls known
  have unfinished : ¬ Finished before.send := by
    intro finished
    rw [attached.finished finished] at unset
    cases unset
  have registered : ¬ Unseated before.send := fun unseated => known (attached.unseated unseated)
  cases stage : before.send with
  | absent | rejected =>
    rw [stage] at begun
    exact (begun.elim id id).elim
  | starting | registering | refused | turningAway | turnedAway =>
    rw [stage] at registered
    exact absurd trivial registered
  | shuttingDown =>
    rw [orderly stage calls] at unset
    cases unset
  | closing | ended =>
    rw [stage] at unfinished
    exact absurd trivial unfinished
  | _ => trivial

section
variable [DecidableEq ι]

theorem receive_steers {outcome : ReadOutcome} (steady : Steady network)
    (steers : Steers (place network k) (network.receives k)) (orderly : Orderly network (.receive k outcome)) :
    Steers (place (network.receive k outcome) k) ((network.receive k outcome).receives k) := by
  have moved : ∀ (before : Network ι κ) (stage : ReceiveStage ι), Steers (place before k) stage →
      Steers (place (before.withReceive k stage) k) ((before.withReceive k stage).receives k) := by
    intro before stage own
    rwa [show (before.withReceive k stage).receives k = stage from Function.update_self k _ _]
  unfold Network.receive
  cases stage : network.receives k with
  | absent | ended => rwa [stage] at steers ⊢
  | testing =>
    refine moved network _ ?_
    split <;> trivial
  | handling message =>
    rw [stage] at steers
    exact moved network _ (handle_steers steers)
  | calling | disconnecting | complaining => exact moved _ _ trivial
  | reading reader =>
    cases reader with
    | reading call => exact moved _ _ trivial
    | blocked source call =>
      cases outcome with
      | failed => exact moved _ _ trivial
      | bytes extra =>
        simp only [Network.read]
        split
        · rwa [stage] at steers ⊢
        · exact moved (network.take source _) _ trivial
    | returned message =>
      cases message with
      | none => exact moved _ _ trivial
      | some message =>
        refine moved network _ ?_
        by_cases closed : (network.records k).shutdown = true
        · rw [if_pos closed]
          trivial
        · rw [if_neg closed]
          refine passes_steers (steady.attached k) (steady.plugged.begun k (by simp [stage])) ?_
            (Bool.eq_false_iff.mpr closed)
          exact fun leaving calls => orderly leaving message stage calls

/-! ## Owners of the slots -/

theorem verify_room (network : Network ι κ) (outcome : ReadOutcome) : (network.verify outcome).room = network.room := by
  unfold Network.verify
  split
  case h_1 => rfl
  case h_2 =>
    split
    · rfl
    · split <;> rfl
  case h_3 =>
    unfold Network.verified
    split <;> rfl
  case h_4 => rfl
  case h_5 => rfl

theorem destroy_room (network : Network ι κ) (k : ι) : (network.destroy k).room = network.room := by
  unfold Network.destroy
  split <;> rfl

theorem receive_owned (owned : Owned network.room) (k : ι) (outcome : ReadOutcome) :
    Owned (network.receive k outcome).room := by
  unfold Network.receive
  cases stage : network.receives k with
  | calling call => exact call_owned owned call
  | reading reader =>
    cases reader with
    | blocked source call =>
      cases outcome with
      | failed => exact owned
      | bytes extra =>
        simp only [Network.read]
        split <;> exact owned
    | returned message => cases message <;> exact owned
    | reading call => exact owned
  | _ => exact owned

variable [DecidableEq κ]

theorem send_owned (owned : Owned network.room) (k : ι) (delivered : Bool) : Owned (network.send k delivered).room := by
  have spoke : ∀ later, ((network.sent k delivered).withSend k later).room = network.room := by
    intro later
    unfold Network.sent
    split <;> rfl
  unfold Network.send
  cases stage : network.sends k with
  | starting => exact register_owned owned
  | registering =>
    dsimp only
    split
    · exact search_owned owned
    · exact owned
    · exact owned
  | unregistering => exact unregister_owned owned
  | refused | greeting | observing | refreshing | updating => exact (spoke _).symm ▸ owned
  | leaving =>
    dsimp only
    split
    · exact (spoke _).symm ▸ owned
    · exact owned
  | _ => exact owned

/-! ## Whole runs -/

theorem step_steers (steady : Steady network) (steers : ∀ k, Steers (place network k) (network.receives k))
    (step : NetworkStep ι κ) (orderly : Orderly network step) (ran : network.step step = .ok next) (k : ι) :
    Steers (place next k) (next.receives k) := by
  have turned : Steers (place next k) (network.receives k) := by
    refine turn_steers (step_turn steady.plugged step ran k) (steers k) fun leaving left => ?_
    by_cases own : ∃ delivered, step = .send k delivered
    · obtain ⟨delivered, rfl⟩ := own
      exact orderly leaving
    · have kept := step_sends steady.plugged step ran (k := k) (by rw [show network.sends k = _ from leaving]; nofun)
        fun delivered same => own ⟨delivered, same⟩
      exact absurd (kept.trans leaving) left
  rcases step_receives step ran k with same | testing | ⟨outcome, rfl⟩
  · rw [same]
    exact turned
  · rw [testing]
    trivial
  · cases ran
    exact receive_steers steady (steers k) orderly

theorem step_owners (step : NetworkStep ι κ) (owned : Owned network.room) (ran : network.step step = .ok next) :
    Owned next.room := by
  cases step with
  | room step =>
    obtain ⟨room, stepped, built⟩ := bind_ok.mp ran
    cases built
    exact step_owned owned _ stepped
  | endGame | arrive | hangUp =>
    cases ran
    exact owned
  | accept =>
    cases ran
    unfold Network.accept
    split <;> exact owned
  | verify outcome =>
    cases ran
    exact (verify_room network outcome).symm ▸ owned
  | stop =>
    cases ran
    unfold Network.stop
    split <;> exact owned
  | destroy k =>
    cases ran
    exact (destroy_room network k).symm ▸ owned
  | send k delivered =>
    cases ran
    exact send_owned owned k delivered
  | receive k outcome =>
    cases ran
    exact receive_owned owned k outcome

/-- Every call that a receive thread makes is on the slot that its own send thread has
registered and not unregistered, and nobody else holds it. -/
theorem run_calls_own (map : Map) (directions : Nat → Direction) (cache : PlayerDataCache) (template : MapTemplate)
    (records : ι → ClientConnection) (memory : Nat → UInt8) {steps : List (NetworkStep ι κ)}
    (orderly : Guarded Network.step Orderly
      (Network.start (Room.start map directions cache template) records memory) steps)
    (ran : (Network.start (Room.start map directions cache template) records memory).run steps = .ok network) (k : ι)
    (calling : network.receives k = .calling call) :
    Seated (network.sends k) ∧ (network.records k).playerId = call.playerId ∧
      network.room.clients (.inl k) = .holding call.playerId ∧
        ∀ other, network.room.clients other = .holding call.playerId → other = .inl k := by
  obtain ⟨steady, steers, owned⟩ := run_preserves
    (fun network => Steady network ∧ (∀ k, Steers (place network k) (network.receives k)) ∧ Owned network.room) steps
    (fun _ step _ _ kept orderly ran => ⟨step_steady step kept.1 ran,
      step_steers kept.1 kept.2.1 step orderly ran, step_owners step kept.2.2 ran⟩)
    ⟨start_steady map directions cache template records memory, fun _ => trivial,
      start_owned map directions cache template⟩ orderly ran
  obtain ⟨seated, own⟩ : Seated (network.sends k) ∧ (network.records k).playerId = call.playerId := by
    have steered := steers k
    rwa [calling] at steered
  have holds : network.room.clients (.inl k) = .holding call.playerId := own ▸ (steady.attached k).seated seated
  exact ⟨seated, own, holds, fun other alsoHolds => owned.exclusive other (.inl k) _ alsoHolds holds⟩

end

/-- A client has slot 0, and its receive thread is about to turn its snake to the left. -/
def steered : List (NetworkStep Bool Empty) :=
  accepted ++ [.send true true, .send true true, .send true true, .send true true,
    .arrive true (socketMessageSerialize (socketMessageInitDirection .left)), .receive true .failed,
    .receive true (.bytes 0), .receive true .failed, .receive true (.bytes 0), .receive true .failed,
    .receive true .failed]

theorem run_calls_own_steered : ∃ network, quietServer.run steered = .ok network ∧
    network.receives true = .calling (.setPlayerDirection 0 .left) ∧
      ∀ other, network.room.clients other = .holding 0 → other = .inl true := by
  have orderly : Guarded Network.step Orderly quietServer steered :=
    ⟨trivial, trivial, trivial, trivial, trivial, trivial, trivial, nofun, nofun, nofun, nofun, nofun, trivial, nofun,
      nofun, nofun, nofun, nofun, nofun, trivial⟩
  refine ⟨_, rfl, rfl, ?_⟩
  obtain ⟨-, -, -, alone⟩ := run_calls_own _ _ _ _ _ _ orderly rfl true rfl
  exact alone

/-- Before it does, sending the map to it fails: its send thread unregisters the player,
whom no tick has seen yet, and the next client takes the slot. -/
def slotTaken : List (NetworkStep Bool Empty) :=
  steered ++ [.send true false, .send true true, .send true true, .send true true,
    .arrive false (socketMessageSerialize (socketMessageInitMagicBytes gameMagicBytes)), .accept false 8, .verify .failed,
    .verify (.bytes 0), .verify .failed, .verify (.bytes 3), .verify .failed, .send false true, .send false true]

/-- The first connection turns the second client's snake. -/
theorem run_calls_own_slotTaken : ∃ network next, quietServer.run slotTaken = .ok network ∧
    network.receives true = .calling (.setPlayerDirection 0 .left) ∧
      network.room.clients (.inl true) = .absent ∧ network.room.clients (.inl false) = .holding 0 ∧
        (network.room.manager.players 0).direction = .up ∧ network.step (.receive true .failed) = .ok next ∧
          (next.room.manager.players 0).direction = .left :=
  ⟨_, _, rfl, rfl, rfl, rfl, rfl, rfl, rfl⟩

end SnakePosix.SlotCalls
