import SnakePosix.Descriptors

/-! What one step of the whole network can do to one connection: to its send thread, to
its registration and to its record. Whatever the others do leaves all three alone. -/
namespace SnakePosix.Connections
open GuardedRuns Descriptors SlotOwners

/-! ## Places -/

/-- `player_manager_register` has not returned, or without a slot. -/
def Unseated : SendStage → Prop
  | .starting | .registering | .refused | .turningAway | .turnedAway => True
  | _ => False

/-- `player_manager_register` has returned a slot and `player_manager_unregister` has
not been called. -/
def Seated : SendStage → Prop
  | .greeting | .observing | .testing | .waiting | .woken | .refreshing | .updating | .leaving | .unregistering => True
  | _ => False

/-- `player_manager_unregister` has been called. -/
def Left : SendStage → Prop
  | .shuttingDown | .closing | .ended => True
  | _ => False

/-- The send thread has shut the connection down at its end. -/
def Finished : SendStage → Prop
  | .closing | .ended => True
  | _ => False

structure Place where
  send : SendStage
  registration : Registration
  record : ClientConnection

/-- The record after something that may have shut the connection down. -/
def Told (record later : ClientConnection) : Prop :=
  later = record ∨ later = clientConnectionShutdown record

inductive Turn : Place → Place → Prop where
  | rests : Turn place place
  /-- One of the threads, or the handler at its end, shuts the connection down. -/
  | shuts : Turn ⟨send, registration, record⟩ ⟨send, registration, clientConnectionShutdown record⟩
  | accepts (socket : Nat) : Turn ⟨.absent, registration, record⟩ ⟨.starting, registration, clientConnectionInit socket⟩
  | rejects : Turn ⟨.absent, registration, record⟩ ⟨.rejected, registration, record⟩
  | begins (nothing : ∀ playerId, later = .holding playerId → registration = .holding playerId) :
      Turn ⟨.starting, registration, record⟩ ⟨.registering, later, record⟩
  | searches (numbered : ∀ playerId, later = .holding playerId → playerId < maxPlayers) :
      Turn ⟨.registering, .searching slot, record⟩ ⟨.registering, later, record⟩
  | seats : Turn ⟨.registering, .holding playerId, record⟩ ⟨.greeting, .holding playerId, { record with playerId }⟩
  | misses : Turn ⟨.registering, .absent, record⟩ ⟨.refused, .absent, record⟩
  | refuses (told : Told record later) : Turn ⟨.refused, registration, record⟩ ⟨.turningAway, registration, later⟩
  | turnsAway : Turn ⟨.turningAway, registration, record⟩ ⟨.turnedAway, registration, record⟩
  | serves (seated : Seated send) (stays : Seated next) (told : Told record later) :
      Turn ⟨send, registration, record⟩ ⟨next, registration, later⟩
  | unregisters (nothing : ∀ playerId, later = .holding playerId → registration = .holding playerId) :
      Turn ⟨.unregistering, registration, record⟩ ⟨.shuttingDown, later, record⟩
  | shutsDown :
      Turn ⟨.shuttingDown, registration, record⟩ ⟨.closing, registration, clientConnectionShutdown record⟩
  | closes : Turn ⟨.closing, registration, record⟩ ⟨.ended, registration, record⟩

variable {ι κ : Type} {network next : Network ι κ} {k other : ι}

def place (network : Network ι κ) (k : ι) : Place :=
  ⟨network.sends k, network.room.clients (.inl k), network.records k⟩

/-! ## Steps at one place -/

section
variable [DecidableEq ι]

theorem place_withSend (network : Network ι κ) (k : ι) (stage : SendStage) :
    place (network.withSend k stage) k = { place network k with send := stage } := by
  simp [place, Network.withSend]

theorem place_withSend_of_ne (away : other ≠ k) (network : Network ι κ) (stage : SendStage) :
    place (network.withSend k stage) other = place network other := by
  simp [place, Network.withSend, away]

theorem place_withRecord (network : Network ι κ) (k : ι) (record : ClientConnection) :
    place (network.withRecord k record) k = { place network k with record } := by
  simp [place, Network.withRecord]

theorem place_withRecord_of_ne (away : other ≠ k) (network : Network ι κ) (record : ClientConnection) :
    place (network.withRecord k record) other = place network other := by
  simp [place, Network.withRecord, away]

theorem place_shutdown_of_ne (away : other ≠ k) (network : Network ι κ) :
    place (network.shutdown k) other = place network other :=
  place_withRecord_of_ne away network _

/-- `client_connection_shutdown`, seen from any connection. -/
theorem shutdown_turn (network : Network ι κ) (k other : ι) :
    Turn (place network other) (place (network.shutdown k) other) := by
  by_cases here : other = k
  · subst here
    rw [Network.shutdown, place_withRecord]
    exact .shuts
  · rw [place_shutdown_of_ne here]
    exact .rests

theorem place_sent_of_ne (away : other ≠ k) (network : Network ι κ) (delivered : Bool) :
    place (network.sent k delivered) other = place network other := by
  unfold Network.sent
  split
  · rfl
  · exact place_shutdown_of_ne away network

theorem place_sent (network : Network ι κ) (k : ι) (delivered : Bool) :
    ∃ record, Told (network.records k) record ∧
      place (network.sent k delivered) k = { place network k with record } := by
  unfold Network.sent
  split
  · exact ⟨_, Or.inl rfl, rfl⟩
  · exact ⟨_, Or.inr rfl, place_withRecord network k _⟩

theorem destroy_turn (network : Network ι κ) (k other : ι) :
    Turn (place network other) (place (network.destroy k) other) := by
  unfold Network.destroy
  split
  · exact .rests
  · exact .rests
  · exact shutdown_turn network k other
  · exact .rests

theorem receive_turn (network : Network ι κ) (k other : ι) (outcome : ReadOutcome) :
    Turn (place network other) (place (network.receive k outcome) other) := by
  unfold Network.receive
  cases network.receives k with
  | disconnecting | complaining => exact shutdown_turn network k other
  | reading reader =>
    cases reader with
    | blocked source call =>
      cases outcome with
      | failed => exact .rests
      | bytes extra =>
        simp only [Network.read]
        split <;> exact .rests
    | returned message => cases message <;> exact .rests
    | reading call => exact .rests
  | _ => exact .rests

theorem verify_turn (plugged : Plugged network) (outcome : ReadOutcome) (other : ι) :
    Turn (place network other) (place (network.verify outcome) other) := by
  unfold Network.verify
  split
  case h_1 => exact .rests
  case h_2 =>
    split
    · exact .rests
    · split <;> exact .rests
  case h_3 k number message handler =>
    have absent : network.sends k = .absent := (plugged.verifying k number _ handler).2
    by_cases here : other = k
    · subst here
      have before : place network other = ⟨.absent, network.room.clients (.inl other), network.records other⟩ := by
        rw [place, absent]
      unfold Network.verified
      split
      · have after : place ((network.withRecord other (clientConnectionInit number)).withSend other .starting) other =
            ⟨.starting, network.room.clients (.inl other), clientConnectionInit number⟩ := by
          rw [place_withSend, place_withRecord, before]
        exact before ▸ after ▸ .accepts number
      · have after : place ((network.close number).withSend other .rejected) other =
            ⟨.rejected, network.room.clients (.inl other), network.records other⟩ := by
          rw [place_withSend]
          rfl
        exact before ▸ after ▸ .rejects
    · unfold Network.verified
      split
      · have after : place ((network.withRecord k (clientConnectionInit number)).withSend k .starting) other =
            place network other := by
          rw [place_withSend_of_ne here, place_withRecord_of_ne here]
        exact after ▸ .rests
      · have after : place ((network.close number).withSend k .rejected) other = place network other :=
          place_withSend_of_ne here _ _
        exact after ▸ .rests
  case h_4 => exact .rests
  case h_5 => exact .rests

variable [DecidableEq κ]

theorem send_elsewhere (away : other ≠ k) (network : Network ι κ) (delivered : Bool) :
    place (network.send k delivered) other = place network other := by
  have moved : ∀ (before : Network ι κ) (later : SendStage), place before other = place network other →
      place (before.withSend k later) other = place network other :=
    fun before later same => (place_withSend_of_ne away before later).trans same
  have roomed : ∀ room : Room (ι ⊕ κ), room.clients (.inl other) = network.room.clients (.inl other) →
      place { network with room } other = place network other := by
    intro room same
    simp only [place, same]
  have aside : (.inl other : ι ⊕ κ) ≠ .inl k := Sum.inl_injective.ne away
  unfold Network.send
  cases network.sends k with
  | absent | rejected | turnedAway | ended => rfl
  | starting => exact moved _ _ (roomed _ (register_elsewhere aside))
  | registering =>
    dsimp only
    split
    · exact roomed _ (search_elsewhere aside)
    · exact moved _ _ (place_withRecord_of_ne away network _)
    · exact moved _ _ rfl
  | turningAway | closing | testing | waiting | woken => exact moved _ _ rfl
  | refused | greeting | observing | refreshing | updating => exact moved _ _ (place_sent_of_ne away network delivered)
  | leaving =>
    refine moved _ _ ?_
    split
    · exact place_sent_of_ne away network delivered
    · rfl
  | unregistering => exact moved _ _ (roomed _ (unregister_elsewhere aside))
  | shuttingDown => exact moved _ _ (place_shutdown_of_ne away network)

theorem send_turn (network : Network ι κ) (k : ι) (delivered : Bool) :
    Turn (place network k) (place (network.send k delivered) k) := by
  have spoke : ∀ later, Seated (network.sends k) → Seated later →
      Turn (place network k) (place ((network.sent k delivered).withSend k later) k) := by
    intro later seated stays
    obtain ⟨record, told, same⟩ := place_sent network k delivered
    rw [place_withSend, same]
    exact .serves seated stays told
  have before : place network k = ⟨network.sends k, network.room.clients (.inl k), network.records k⟩ := rfl
  unfold Network.send
  cases stage : network.sends k with
  | absent | rejected | turnedAway | ended => exact .rests
  | starting =>
    rw [place_withSend, before, stage]
    exact .begins fun playerId => register_nothing
  | registering =>
    dsimp only
    split
    case h_1 slot searching =>
      have after : place { network with room := network.room.search (.inl k) } k =
          ⟨.registering, (network.room.search (.inl k)).clients (.inl k), network.records k⟩ := by
        rw [← stage]
        rfl
      rw [before, after, stage, searching]
      refine .searches fun playerId found => (search_numbered found).resolve_right ?_
      rw [searching]
      nofun
    case h_2 playerId holds =>
      rw [place_withSend, place_withRecord, before, stage, holds]
      exact .seats
    case h_3 absent =>
      rw [place_withSend, before, stage, absent]
      exact .misses
  | refused =>
    obtain ⟨record, told, same⟩ := place_sent network k delivered
    rw [place_withSend, same, before, stage]
    exact .refuses told
  | turningAway =>
    rw [place_withSend, before, stage]
    exact .turnsAway
  | greeting | observing | refreshing | updating => exact spoke _ (by rw [stage]; trivial) trivial
  | testing | woken =>
    rw [place_withSend, before, stage]
    refine .serves trivial ?_ (Or.inl rfl)
    split <;> trivial
  | waiting =>
    rw [place_withSend, before, stage]
    exact .serves trivial trivial (Or.inl rfl)
  | leaving =>
    dsimp only
    split
    · exact spoke _ (by rw [stage]; trivial) trivial
    · rw [place_withSend, before, stage]
      exact .serves trivial trivial (Or.inl rfl)
  | unregistering =>
    rw [place_withSend, before, stage]
    exact .unregisters fun playerId => unregister_nothing
  | shuttingDown =>
    rw [place_withSend, Network.shutdown, place_withRecord, before, stage]
    exact .shutsDown
  | closing =>
    rw [place_withSend, before, stage]
    exact .closes

theorem roomStep_elsewhere {room after : Room (ι ⊕ κ)} {step : RoomStep κ}
    (ran : room.step (step.map .inr) = .ok after) (k : ι) : after.clients (.inl k) = room.clients (.inl k) := by
  have away : ∀ client : κ, (.inl k : ι ⊕ κ) ≠ .inr client := nofun
  cases step with
  | tick rng =>
    obtain ⟨_, -, ran⟩ := bind_ok.mp ran
    cases ran
    rfl
  | register client =>
    cases ran
    exact register_elsewhere (away client)
  | search client =>
    cases ran
    exact search_elsewhere (away client)
  | unregister client =>
    cases ran
    exact unregister_elsewhere (away client)
  | call call =>
    cases ran
    rfl

/-- Every step of the network is a turn of every connection. -/
theorem step_turn (plugged : Plugged network) (step : NetworkStep ι κ) (ran : network.step step = .ok next) (k : ι) :
    Turn (place network k) (place next k) := by
  cases step with
  | room step =>
    obtain ⟨room, stepped, built⟩ := bind_ok.mp ran
    cases built
    have same : place { network with room } k = place network k := by
      simp only [place, roomStep_elsewhere stepped k]
    rw [same]
    exact .rests
  | endGame | arrive | hangUp =>
    cases ran
    exact .rests
  | accept connection number =>
    cases ran
    have same : place (network.accept connection number) k = place network k := by
      unfold Network.accept
      split <;> rfl
    rw [same]
    exact .rests
  | verify outcome =>
    cases ran
    exact verify_turn plugged outcome k
  | stop =>
    cases ran
    have same : place network.stop k = place network k := by
      unfold Network.stop
      split <;> rfl
    rw [same]
    exact .rests
  | destroy connection =>
    cases ran
    exact destroy_turn network connection k
  | send connection delivered =>
    cases ran
    by_cases here : k = connection
    · subst here
      exact send_turn network k delivered
    · rw [send_elsewhere here]
      exact .rests
  | receive connection outcome =>
    cases ran
    exact receive_turn network connection k outcome

end

/-! ## Whose step it is -/

section
variable [DecidableEq ι]

theorem sent_leaves (network : Network ι κ) (k : ι) (delivered : Bool) :
    (network.sent k delivered).receives = network.receives ∧ (network.sent k delivered).inbound = network.inbound ∧
      (network.sent k delivered).handler = network.handler := by
  unfold Network.sent
  split <;> exact ⟨rfl, rfl, rfl⟩

theorem receive_leaves (network : Network ι κ) (k : ι) (outcome : ReadOutcome) :
    (network.receive k outcome).sends = network.sends ∧ (network.receive k outcome).handler = network.handler := by
  unfold Network.receive
  cases network.receives k with
  | reading reader =>
    cases reader with
    | blocked source call =>
      cases outcome with
      | failed => exact ⟨rfl, rfl⟩
      | bytes extra =>
        simp only [Network.read]
        split <;> exact ⟨rfl, rfl⟩
    | returned message => cases message <;> exact ⟨rfl, rfl⟩
    | reading call => exact ⟨rfl, rfl⟩
  | _ => exact ⟨rfl, rfl⟩

theorem receive_receives (away : other ≠ k) (network : Network ι κ) (outcome : ReadOutcome) :
    (network.receive k outcome).receives other = network.receives other := by
  have moved : ∀ (before : Network ι κ) (stage : ReceiveStage ι), before.receives = network.receives →
      (before.withReceive k stage).receives other = network.receives other := by
    intro before stage same
    rw [← same]
    exact Function.update_of_ne away _ _
  unfold Network.receive
  cases network.receives k with
  | absent | ended => rfl
  | reading reader =>
    cases reader with
    | blocked source call =>
      cases outcome with
      | failed => exact moved _ _ rfl
      | bytes extra =>
        simp only [Network.read]
        split
        · rfl
        · exact moved _ _ rfl
    | returned message => cases message <;> exact moved _ _ rfl
    | reading call => exact moved _ _ rfl
  | _ => exact moved _ _ rfl

theorem verify_sends (plugged : Plugged network) (started : network.sends other ≠ .absent) (outcome : ReadOutcome) :
    (network.verify outcome).sends other = network.sends other := by
  unfold Network.verify
  split
  case h_1 => rfl
  case h_2 =>
    split
    · rfl
    · split <;> rfl
  case h_3 k number message handler =>
    have away : other ≠ k := by
      rintro rfl
      exact started (plugged.verifying other number _ handler).2
    unfold Network.verified
    split <;> exact Function.update_of_ne away _ _
  case h_4 => rfl
  case h_5 => rfl

theorem verify_receives (network : Network ι κ) (outcome : ReadOutcome) (k : ι) :
    (network.verify outcome).receives k = network.receives k ∨ (network.verify outcome).receives k = .testing := by
  unfold Network.verify
  split
  case h_1 => exact Or.inl rfl
  case h_2 =>
    split
    · exact Or.inl rfl
    · split <;> exact Or.inl rfl
  case h_3 accepted number message handler =>
    unfold Network.verified
    split
    · by_cases here : k = accepted
      · subst here
        exact Or.inr (Function.update_self k _ _)
      · exact Or.inl (Function.update_of_ne here _ _)
    · exact Or.inl rfl
  case h_4 => exact Or.inl rfl
  case h_5 => exact Or.inl rfl

variable [DecidableEq κ]

theorem send_leaves (network : Network ι κ) (k : ι) (delivered : Bool) :
    (network.send k delivered).receives = network.receives ∧ (network.send k delivered).inbound = network.inbound ∧
      (network.send k delivered).handler = network.handler := by
  unfold Network.send
  cases network.sends k with
  | refused | greeting | observing | refreshing | updating => exact sent_leaves network k delivered
  | leaving =>
    dsimp only
    split
    · exact sent_leaves network k delivered
    · exact ⟨rfl, rfl, rfl⟩
  | registering =>
    dsimp only
    split <;> exact ⟨rfl, rfl, rfl⟩
  | _ => exact ⟨rfl, rfl, rfl⟩

/-- Once it is started, a send thread goes on by its own steps only. -/
theorem step_sends (plugged : Plugged network) (step : NetworkStep ι κ) (ran : network.step step = .ok next)
    (started : network.sends k ≠ .absent) (others : ∀ delivered, step ≠ .send k delivered) :
    next.sends k = network.sends k := by
  cases step with
  | room step =>
    obtain ⟨room, -, built⟩ := bind_ok.mp ran
    cases built
    rfl
  | endGame | arrive | hangUp =>
    cases ran
    rfl
  | accept =>
    cases ran
    unfold Network.accept
    split <;> rfl
  | verify outcome =>
    cases ran
    exact verify_sends plugged started outcome
  | stop =>
    cases ran
    unfold Network.stop
    split <;> rfl
  | destroy =>
    cases ran
    unfold Network.destroy
    split <;> rfl
  | send connection delivered =>
    cases ran
    have away : k ≠ connection := by
      rintro rfl
      exact others delivered rfl
    exact congrArg Place.send (send_elsewhere away network delivered)
  | receive connection outcome =>
    cases ran
    exact congrFun (receive_leaves network connection outcome).1 k

theorem step_receives (step : NetworkStep ι κ) (ran : network.step step = .ok next) (k : ι) :
    next.receives k = network.receives k ∨ next.receives k = .testing ∨ ∃ outcome, step = .receive k outcome := by
  cases step with
  | room step =>
    obtain ⟨room, -, built⟩ := bind_ok.mp ran
    cases built
    exact Or.inl rfl
  | endGame | arrive | hangUp =>
    cases ran
    exact Or.inl rfl
  | accept =>
    cases ran
    left
    unfold Network.accept
    split <;> rfl
  | verify outcome =>
    cases ran
    exact (verify_receives network outcome k).imp_right Or.inl
  | stop =>
    cases ran
    left
    unfold Network.stop
    split <;> rfl
  | destroy =>
    cases ran
    left
    unfold Network.destroy
    split <;> rfl
  | send connection delivered =>
    cases ran
    exact Or.inl (congrFun (send_leaves network connection delivered).1 k)
  | receive connection outcome =>
    by_cases here : k = connection
    · exact Or.inr (Or.inr ⟨outcome, here ▸ rfl⟩)
    · cases ran
      exact Or.inl (receive_receives here network outcome)

end

/-! ## Connections and their players -/

structure Attached (place : Place) : Prop where
  seated : Seated place.send → place.registration = .holding place.record.playerId
  unseated : Unseated place.send → place.record.playerId = playerIdNotRegistered
  held : ∀ playerId, place.registration = .holding playerId → playerId < maxPlayers
  left : Left place.send → place.record.playerId < maxPlayers
  finished : Finished place.send → place.record.shutdown = true

variable {before after : Place} {record later : ClientConnection}

theorem seated_connected {send : SendStage} (seated : Seated send) : Connected send := by
  cases send <;> trivial

theorem seated_apart {send : SendStage} (seated : Seated send) : ¬ Unseated send ∧ ¬ Left send ∧ ¬ Finished send := by
  cases send with
  | greeting | observing | testing | waiting | woken | refreshing | updating | leaving | unregistering =>
    exact ⟨not_false, not_false, not_false⟩
  | _ => exact seated.elim

theorem told_playerId (told : Told record later) : later.playerId = record.playerId := by
  rcases told with rfl | rfl <;> rfl

theorem turn_attached (turn : Turn before after) (attached : Attached before) : Attached after := by
  cases turn with
  | rests => exact attached
  | shuts => exact ⟨attached.seated, attached.unseated, attached.held, attached.left, fun _ => rfl⟩
  | accepts => exact ⟨nofun, fun _ => rfl, attached.held, nofun, nofun⟩
  | rejects => exact ⟨nofun, nofun, attached.held, nofun, nofun⟩
  | begins nothing =>
    exact ⟨nofun, fun _ => attached.unseated trivial,
      fun playerId holds => attached.held playerId (nothing playerId holds), nofun, nofun⟩
  | searches numbered => exact ⟨nofun, fun _ => attached.unseated trivial, numbered, nofun, nofun⟩
  | seats => exact ⟨fun _ => rfl, nofun, attached.held, nofun, nofun⟩
  | misses | turnsAway => exact ⟨nofun, fun _ => attached.unseated trivial, attached.held, nofun, nofun⟩
  | refuses told =>
    exact ⟨nofun, fun _ => (told_playerId told).trans (attached.unseated trivial), attached.held, nofun, nofun⟩
  | serves seated stays told =>
    obtain ⟨unseated, left, finished⟩ := seated_apart stays
    refine ⟨fun _ => ?_, fun now => absurd now unseated, attached.held, fun now => absurd now left,
      fun now => absurd now finished⟩
    rw [told_playerId told]
    exact attached.seated seated
  | unregisters nothing =>
    have seat := attached.held _ (attached.seated trivial)
    exact ⟨nofun, nofun, fun playerId holds => attached.held playerId (nothing playerId holds), fun _ => seat, nofun⟩
  | shutsDown => exact ⟨nofun, nofun, attached.held, fun _ => attached.left trivial, fun _ => rfl⟩
  | closes => exact ⟨nofun, nofun, attached.held, fun _ => attached.left trivial, fun _ => attached.finished trivial⟩

/-! ## Whole runs -/

structure Steady (network : Network ι κ) : Prop where
  plugged : Plugged network
  attached : ∀ k, Attached (place network k)

theorem step_steady [DecidableEq ι] [DecidableEq κ] (step : NetworkStep ι κ) (steady : Steady network)
    (ran : network.step step = .ok next) : Steady next where
  plugged := step_plugged step steady.plugged ran
  attached := fun k => turn_attached (step_turn steady.plugged step ran k) (steady.attached k)

theorem start_steady (map : Map) (directions : Nat → Direction) (cache : PlayerDataCache) (template : MapTemplate)
    (records : ι → ClientConnection) (memory : Nat → UInt8) :
    Steady (Network.start (Room.start map directions cache template) records memory : Network ι κ) where
  plugged := start_plugged _ records memory
  attached := fun _ => ⟨nofun, nofun, nofun, nofun, nofun⟩

end SnakePosix.Connections
