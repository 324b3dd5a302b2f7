import SnakePosix.Foundation.GuardedRuns
import SnakePosix.Server.Network
import SnakePosix.SlotOwners

/-! A connection reads what was sent to it as long as its descriptor number is not
given away under its receive thread. The send thread closes the number while the
other thread may still be on its way to `read`; the number of an open connection is
never given to another one. -/
namespace SnakePosix.Descriptors
open ReadPrograms GuardedRuns

variable {ι κ : Type} {network next : Network ι κ} {k : ι} {number : Nat}

/-! ## Open numbers -/

/-- From the start of the threads to the close of the socket. -/
def Connected : SendStage → Prop
  | .absent | .rejected | .turnedAway | .ended => False
  | _ => True

/-- The send thread is through with `socket_close`. -/
def Closed : SendStage → Prop
  | .turnedAway | .ended => True
  | _ => False

structure Plugged (network : Network ι κ) : Prop where
  opened : ∀ k, Connected (network.sends k) → network.descriptors (network.records k).socket = some k
  begun : ∀ k, network.receives k ≠ .absent → Connected (network.sends k) ∨ Closed (network.sends k)
  verifying : ∀ k number reader, network.handler = .verifying k number reader →
    network.descriptors number = some k ∧ network.sends k = .absent

/-- The number of a connection does not stand for another one. -/
def Unclaimed (network : Network ι κ) (k : ι) : Prop :=
  ∀ other, network.descriptors (network.records k).socket = some other → other = k

structure OwnReads (network : Network ι κ) : Prop where
  reading : ∀ k call, network.receives k = .reading (.reading call) → Unclaimed network k
  blocked : ∀ k source call, network.receives k = .reading (.blocked source call) → source = k
  consumed : ∀ k, ∀ entry ∈ network.consumed k, entry.1 = k

/-- The step of the receive thread that brings it to a call of `read`: past its loop's
test, or with a message begun and not complete. -/
def Resumes (network : Network ι κ) (k : ι) (outcome : ReadOutcome) : Prop :=
  match network.receives k with
  | .testing => (network.records k).shutdown = false
  | .reading (.blocked source call) => ∃ extra chunk more, outcome = .bytes extra ∧
    network.chunk source call extra = some chunk ∧
      call.receive network.memory chunk = (.reading more : SocketReader ι)
  | _ => False

/-- Once its send thread has closed the socket, a receive thread does not come to a call
of `read` with a number that another connection has by then, and `accept` does not
return the number while the thread is about to call `read` with it. -/
def Fresh (network : Network ι κ) : NetworkStep ι κ → Prop
  | .accept _ number => ∀ k call, Closed (network.sends k) → network.receives k = .reading (.reading call) →
    (network.records k).socket ≠ number
  | .receive k outcome => Closed (network.sends k) → Resumes network k outcome → Unclaimed network k
  | _ => True

/-- The number of an open socket is not given away. -/
theorem unclaimed_of_connected (plugged : Plugged network) (connected : Connected (network.sends k)) :
    Unclaimed network k := by
  intro other found
  rw [plugged.opened k connected] at found
  exact (Option.some.inj found).symm

/-! ## Steps that leave the numbers alone -/

structure Quiet (next network : Network ι κ) : Prop where
  descriptors : next.descriptors = network.descriptors
  sockets : ∀ k, (next.records k).socket = (network.records k).socket
  connected : ∀ k, Connected (next.sends k) → Connected (network.sends k)
  begun : ∀ k, Connected (network.sends k) ∨ Closed (network.sends k) → Connected (next.sends k) ∨ Closed (next.sends k)
  absent : ∀ k, network.sends k = .absent → next.sends k = .absent
  handler : next.handler = network.handler
  receives : next.receives = network.receives
  consumed : next.consumed = network.consumed

theorem quiet_refl (network : Network ι κ) : Quiet network network :=
  ⟨rfl, fun _ => rfl, fun _ => id, fun _ => id, fun _ => id, rfl, rfl, rfl⟩

theorem quiet_trans {middle : Network ι κ} (later : Quiet next middle) (earlier : Quiet middle network) :
    Quiet next network where
  descriptors := later.descriptors.trans earlier.descriptors
  sockets := fun k => (later.sockets k).trans (earlier.sockets k)
  connected := fun k now => earlier.connected k (later.connected k now)
  begun := fun k before => later.begun k (earlier.begun k before)
  absent := fun k before => later.absent k (earlier.absent k before)
  handler := later.handler.trans earlier.handler
  receives := later.receives.trans earlier.receives
  consumed := later.consumed.trans earlier.consumed

theorem quiet_plugged (quiet : Quiet next network) (plugged : Plugged network) : Plugged next where
  opened := by
    intro k now
    rw [quiet.descriptors, quiet.sockets]
    exact plugged.opened k (quiet.connected k now)
  begun := by
    intro k started
    rw [quiet.receives] at started
    exact quiet.begun k (plugged.begun k started)
  verifying := by
    intro k number reader handler
    rw [quiet.handler] at handler
    obtain ⟨own, absent⟩ := plugged.verifying k number reader handler
    rw [quiet.descriptors]
    exact ⟨own, quiet.absent k absent⟩

theorem quiet_ownReads (quiet : Quiet next network) (own : OwnReads network) : OwnReads next where
  reading := by
    intro k call reading
    rw [quiet.receives] at reading
    rw [Unclaimed, quiet.descriptors, quiet.sockets]
    exact own.reading k call reading
  blocked := by
    rw [quiet.receives]
    exact own.blocked
  consumed := by
    rw [quiet.consumed]
    exact own.consumed

/-! ## Closing -/

/-- A number that is closed stands for nothing. -/
theorem close_unclaimed (unclaimed : Unclaimed network k) : Unclaimed (network.close number) k := by
  intro other found
  simp only [Network.close] at found
  by_cases here : (network.records k).socket = number
  · rw [here, Function.update_self] at found
    cases found
  · rw [Function.update_of_ne here] at found
    exact unclaimed other found

theorem close_ownReads (own : OwnReads network) : OwnReads (network.close number) where
  reading := fun k call reading => close_unclaimed (own.reading k call reading)
  blocked := own.blocked
  consumed := own.consumed

/-! ## Accepting -/

theorem accept_plugged (plugged : Plugged network) : Plugged (network.accept k number) := by
  unfold Network.accept
  split
  case h_1 accepting absent free =>
    refine ⟨fun other now => ?_, plugged.begun, fun other taken reader handler => ?_⟩
    · have own := plugged.opened other now
      have away : (network.records other).socket ≠ number := by
        rintro rfl
        rw [free] at own
        cases own
      simp only [Function.update_of_ne away, own]
    · cases handler
      exact ⟨Function.update_self number _ _, absent⟩
  case h_2 => exact plugged

/-- A thread that is about to call `read` does not find its number taken. -/
theorem accept_ownReads (plugged : Plugged network) (own : OwnReads network)
    (fresh : Fresh network (.accept k number)) : OwnReads (network.accept k number) := by
  unfold Network.accept
  split
  case h_1 free =>
    refine ⟨fun reader call reading other found => ?_, own.blocked, own.consumed⟩
    have away : (network.records reader).socket ≠ number := by
      rcases plugged.begun reader (by rw [reading]; nofun) with connected | closed
      · rintro rfl
        rw [plugged.opened reader connected] at free
        cases free
      · exact fresh reader call closed reading
    simp only [Function.update_of_ne away] at found
    exact own.reading reader call reading other found
  case h_2 => exact own

/-- The handler goes on reading. -/
private theorem verifying_plugged {reader later : SocketReader ι} (plugged : Plugged network)
    (handler : network.handler = .verifying k number reader) (inbound : ι → List UInt8) :
    Plugged { network with inbound, handler := .verifying k number later } := by
  refine ⟨plugged.opened, plugged.begun, fun other taken reader same => ?_⟩
  cases same
  exact plugged.verifying k number _ handler

/-! ## Reading -/

/-- Nobody blocks without having called `read`. -/
theorem begin_unblocked (memory : Nat → UInt8) (program : ReadProgram SocketMessage) (source : ι) (call : SocketRead) :
    SocketReader.begin memory program ≠ .blocked source call := by
  induction program with
  | done result => nofun
  | read length next ih =>
    unfold SocketReader.begin
    split
    · exact ih []
    · nofun

theorem receive_unblocked (memory : Nat → UInt8) (chunk : List UInt8) (call later : SocketRead) (source : ι) :
    call.receive memory chunk ≠ .blocked source later := by
  unfold SocketRead.receive
  dsimp only
  split
  · nofun
  · exact begin_unblocked memory _ source later

theorem handle_outside (record : ClientConnection) (message : SocketMessage) (reader : SocketReader ι) :
    clientConnectionHandle record message ≠ .reading reader := by
  unfold clientConnectionHandle
  cases message with
  | direction | pause | unpause | respawn =>
    dsimp only
    split <;> nofun
  | _ => nofun

/-! ## The send thread -/

section
variable [DecidableEq ι]

theorem withRecord_quiet {record : ClientConnection} (socket : record.socket = (network.records k).socket) :
    Quiet (network.withRecord k record) network where
  descriptors := rfl
  sockets := by
    intro other
    simp only [Network.withRecord]
    by_cases here : other = k
    · subst here
      rw [Function.update_self, socket]
    · rw [Function.update_of_ne here]
  connected := fun _ => id
  begun := fun _ => id
  absent := fun _ => id
  handler := rfl
  receives := rfl
  consumed := rfl

theorem shutdown_quiet (network : Network ι κ) (k : ι) : Quiet (network.shutdown k) network :=
  withRecord_quiet rfl

theorem sent_quiet (network : Network ι κ) (k : ι) (delivered : Bool) : Quiet (network.sent k delivered) network := by
  unfold Network.sent
  split
  · exact quiet_refl network
  · exact shutdown_quiet network k

theorem withSend_quiet {stage : SendStage} (before : Connected (network.sends k)) (after : Connected stage) :
    Quiet (network.withSend k stage) network where
  descriptors := rfl
  sockets := fun _ => rfl
  connected := by
    intro other now
    simp only [Network.withSend] at now
    by_cases here : other = k
    · subst here
      exact before
    · rwa [Function.update_of_ne here] at now
  begun := by
    intro other begun
    simp only [Network.withSend]
    by_cases here : other = k
    · subst here
      rw [Function.update_self]
      exact Or.inl after
    · rwa [Function.update_of_ne here]
  absent := by
    intro other absent
    simp only [Network.withSend]
    have away : other ≠ k := by
      rintro rfl
      rw [absent] at before
      exact before
    rw [Function.update_of_ne away, absent]
  handler := rfl
  receives := rfl
  consumed := rfl

theorem destroy_quiet (network : Network ι κ) (k : ι) : Quiet (network.destroy k) network := by
  unfold Network.destroy
  split
  · exact quiet_refl network
  · exact quiet_refl network
  · exact shutdown_quiet network k
  · exact quiet_refl network

/-- The send thread's own socket, after which it does nothing with it. -/
theorem close_plugged {stage : SendStage} (plugged : Plugged network) (connected : Connected (network.sends k))
    (closes : ¬ Connected stage) (closed : Closed stage) :
    Plugged ((network.close (network.records k).socket).withSend k stage) where
  opened := by
    intro other now
    simp only [Network.close, Network.withSend] at now ⊢
    have away : other ≠ k := by
      rintro rfl
      rw [Function.update_self] at now
      exact closes now
    rw [Function.update_of_ne away] at now
    have own := plugged.opened other now
    have elsewhere : (network.records other).socket ≠ (network.records k).socket := by
      intro same
      rw [same, plugged.opened k connected] at own
      exact away (Option.some.inj own).symm
    rw [Function.update_of_ne elsewhere, own]
  begun := by
    intro other started
    simp only [Network.close, Network.withSend]
    by_cases here : other = k
    · subst here
      rw [Function.update_self]
      exact Or.inr closed
    · rw [Function.update_of_ne here]
      exact plugged.begun other started
  verifying := by
    intro other number reader handler
    obtain ⟨own, absent⟩ := plugged.verifying other number reader handler
    simp only [Network.close, Network.withSend]
    have away : other ≠ k := by
      rintro rfl
      rw [absent] at connected
      exact connected
    have elsewhere : number ≠ (network.records k).socket := by
      rintro rfl
      rw [plugged.opened k connected] at own
      exact away (Option.some.inj own).symm
    rw [Function.update_of_ne elsewhere, Function.update_of_ne away]
    exact ⟨own, absent⟩

variable [DecidableEq κ]

theorem send_kept (network : Network ι κ) (k : ι) (delivered : Bool) (turningAway : network.sends k ≠ .turningAway)
    (closing : network.sends k ≠ .closing) : Quiet (network.send k delivered) network := by
  have sends : (network.sent k delivered).sends = network.sends := by
    unfold Network.sent
    split <;> rfl
  have spoke : ∀ stage, Connected (network.sends k) → Connected stage →
      Quiet ((network.sent k delivered).withSend k stage) network :=
    fun stage before after => quiet_trans (withSend_quiet (by rw [sends]; exact before) after)
      (sent_quiet network k delivered)
  have roomed : ∀ room, Quiet { network with room } network :=
    fun _ => ⟨rfl, fun _ => rfl, fun _ => id, fun _ => id, fun _ => id, rfl, rfl, rfl⟩
  unfold Network.send
  cases stage : network.sends k with
  | absent | rejected | turnedAway | ended => exact quiet_refl network
  | turningAway => exact absurd stage turningAway
  | closing => exact absurd stage closing
  | starting | unregistering =>
    exact quiet_trans (withSend_quiet (by simp [stage, Connected]) trivial) (roomed _)
  | registering =>
    dsimp only
    split
    · exact roomed _
    · exact quiet_trans (withSend_quiet (by simp [Network.withRecord, stage, Connected]) trivial) (withRecord_quiet rfl)
    · exact withSend_quiet (by simp [stage, Connected]) trivial
  | refused | greeting | observing | refreshing | updating => exact spoke _ (by simp [stage, Connected]) trivial
  | waiting => exact withSend_quiet (by simp [stage, Connected]) trivial
  | testing | woken =>
    refine withSend_quiet (by simp [stage, Connected]) ?_
    split <;> trivial
  | leaving =>
    dsimp only
    split
    · exact spoke _ (by simp [stage, Connected]) trivial
    · exact withSend_quiet (by simp [stage, Connected]) trivial
  | shuttingDown =>
    exact quiet_trans (withSend_quiet (by simp [Network.shutdown, Network.withRecord, stage, Connected]) trivial)
      (shutdown_quiet network k)

end

/-! ## The handler -/

section
variable [DecidableEq ι]

theorem verified_plugged {reader : SocketReader ι} {message : Option SocketMessage} (plugged : Plugged network)
    (handler : network.handler = .verifying k number reader) : Plugged (network.verified k number message) := by
  obtain ⟨own, absent⟩ := plugged.verifying k number reader handler
  unfold Network.verified
  split
  · refine ⟨fun other now => ?_, fun other started => ?_, nofun⟩
    · simp only [Network.withRecord, Network.withSend, Network.withReceive] at now ⊢
      by_cases here : other = k
      · subst here
        rw [Function.update_self]
        exact own
      · rw [Function.update_of_ne here] at now ⊢
        exact plugged.opened other now
    · simp only [Network.withRecord, Network.withSend, Network.withReceive] at started ⊢
      by_cases here : other = k
      · subst here
        rw [Function.update_self]
        exact Or.inl trivial
      · rw [Function.update_of_ne here] at started ⊢
        exact plugged.begun other started
  · refine ⟨fun other now => ?_, fun other started => ?_, nofun⟩
    · simp only [Network.close, Network.withSend] at now ⊢
      have away : other ≠ k := by
        rintro rfl
        rw [Function.update_self] at now
        exact now
      rw [Function.update_of_ne away] at now
      have opened := plugged.opened other now
      have elsewhere : (network.records other).socket ≠ number := by
        rintro rfl
        rw [own] at opened
        exact away (Option.some.inj opened).symm
      rw [Function.update_of_ne elsewhere, opened]
    · have away : other ≠ k := by
        rintro rfl
        rcases plugged.begun other started with connected | closed
        · rw [absent] at connected
          exact connected
        · rw [absent] at closed
          exact closed
      simp only [Network.close, Network.withSend]
      rw [Function.update_of_ne away]
      exact plugged.begun other started

theorem verified_ownReads {message : Option SocketMessage} (own : OwnReads network) :
    OwnReads (network.verified k number message) := by
  unfold Network.verified
  split
  · refine ⟨fun other call reading => ?_, fun other source call blocked => ?_, own.consumed⟩
    · simp only [Network.withRecord, Network.withSend, Network.withReceive, Unclaimed] at reading ⊢
      have away : other ≠ k := by
        rintro rfl
        rw [Function.update_self] at reading
        cases reading
      rw [Function.update_of_ne away] at reading ⊢
      exact own.reading other call reading
    · simp only [Network.withRecord, Network.withSend, Network.withReceive] at blocked
      have away : other ≠ k := by
        rintro rfl
        rw [Function.update_self] at blocked
        cases blocked
      rw [Function.update_of_ne away] at blocked
      exact own.blocked other source call blocked
  · have closed : OwnReads (network.close number) := close_ownReads own
    exact ⟨closed.reading, closed.blocked, closed.consumed⟩

theorem verify_plugged (plugged : Plugged network) (outcome : ReadOutcome) : Plugged (network.verify outcome) := by
  unfold Network.verify
  split
  case h_1 k number call handler => exact verifying_plugged plugged handler _
  case h_2 k number source call handler =>
    split
    · exact verifying_plugged plugged handler _
    · split
      · exact plugged
      · exact verifying_plugged plugged handler _
  case h_3 k number message handler => exact verified_plugged plugged handler
  case h_4 => exact plugged
  case h_5 => exact plugged

theorem verify_ownReads (own : OwnReads network) (outcome : ReadOutcome) : OwnReads (network.verify outcome) := by
  unfold Network.verify
  split
  case h_1 => exact ⟨own.reading, own.blocked, own.consumed⟩
  case h_2 =>
    split
    · exact ⟨own.reading, own.blocked, own.consumed⟩
    · split
      · exact own
      · exact ⟨own.reading, own.blocked, own.consumed⟩
  case h_3 => exact verified_ownReads own
  case h_4 => exact own
  case h_5 => exact own

/-! ## The receive thread -/

private theorem withReceive_own {stage : ReceiveStage ι} (own : OwnReads network)
    (reading : ∀ call, stage = .reading (.reading call) → Unclaimed network k)
    (blocked : ∀ source call, stage = .reading (.blocked source call) → source = k) :
    OwnReads (network.withReceive k stage) where
  reading := by
    intro other call now
    simp only [Network.withReceive] at now
    by_cases here : other = k
    · subst here
      rw [Function.update_self] at now
      exact reading call now
    · rw [Function.update_of_ne here] at now
      exact own.reading other call now
  blocked := by
    intro other source call now
    simp only [Network.withReceive] at now
    by_cases here : other = k
    · subst here
      rw [Function.update_self] at now
      exact blocked source call now
    · rw [Function.update_of_ne here] at now
      exact own.blocked other source call now
  consumed := own.consumed

private theorem read_ownReads {reader : SocketReader ι} {outcome : ReadOutcome} (own : OwnReads network)
    (stage : network.receives k = .reading reader)
    (fresh : Resumes network k outcome → Unclaimed network k) :
    OwnReads (network.read k outcome reader) := by
  cases reader with
  | reading call =>
    have unclaimed := own.reading k call stage
    refine withReceive_own own (fun later same => ?_) fun source later same => ?_
    · unfold SocketRead.call at same
      split at same <;> cases same
    · unfold SocketRead.call at same
      split at same
      · cases same
        exact unclaimed source ‹_›
      · cases same
  | blocked source call =>
    unfold Network.read
    cases outcome with
    | failed => exact withReceive_own own nofun nofun
    | bytes extra =>
      dsimp only
      split
      case h_1 => exact own
      case h_2 chunk arrived =>
        have sender : source = k := own.blocked k source call stage
        have later : OwnReads
            ((network.take source chunk).withReceive k (.reading (call.receive network.memory chunk))) := by
          refine withReceive_own ⟨own.reading, own.blocked, own.consumed⟩ (fun more same => ?_)
            fun other more same => absurd (ReceiveStage.reading.inj same) (receive_unblocked _ _ _ _ _)
          refine fresh ?_
          rw [Resumes, stage]
          exact ⟨extra, chunk, more, rfl, arrived, ReceiveStage.reading.inj same⟩
        refine ⟨later.reading, later.blocked, fun other entry member => ?_⟩
        by_cases here : other = k
        · subst here
          simp only [Function.update_self] at member
          rcases List.mem_append.mp member with before | now
          · exact own.consumed other entry before
          · obtain ⟨byte, -, rfl⟩ := List.mem_map.mp now
            exact sender
        · simp only [Function.update_of_ne here] at member
          exact own.consumed other entry member
  | returned message =>
    cases message with
    | none => exact withReceive_own own nofun nofun
    | some message =>
      unfold Network.read
      dsimp only
      split
      · exact withReceive_own own nofun nofun
      · exact withReceive_own own nofun nofun

theorem receive_ownReads {outcome : ReadOutcome} (plugged : Plugged network) (own : OwnReads network)
    (fresh : Fresh network (.receive k outcome)) : OwnReads (network.receive k outcome) := by
  have unclaimed : network.receives k ≠ .absent → Resumes network k outcome → Unclaimed network k := by
    intro started resumes
    rcases plugged.begun k started with connected | closed
    · exact unclaimed_of_connected plugged connected
    · exact fresh closed resumes
  unfold Network.receive
  cases stage : network.receives k with
  | absent | ended => exact own
  | testing =>
    dsimp only
    by_cases closed : (network.records k).shutdown = true
    · rw [if_pos closed]
      exact withReceive_own own nofun nofun
    · rw [if_neg closed]
      refine withReceive_own own (fun call _ => unclaimed (by rw [stage]; nofun) ?_) fun source call same =>
        absurd (ReceiveStage.reading.inj same) (begin_unblocked _ _ _ _)
      rw [Resumes, stage]
      simpa using closed
  | reading reader => exact read_ownReads own stage (unclaimed (by rw [stage]; nofun))
  | handling message =>
    exact withReceive_own own (fun call same => absurd same (handle_outside _ _ _))
      fun source call same => absurd same (handle_outside _ _ _)
  | calling call =>
    have roomed : OwnReads { network with room := network.room.withManager (call.apply network.room.manager) } :=
      ⟨own.reading, own.blocked, own.consumed⟩
    exact withReceive_own roomed nofun nofun
  | disconnecting | complaining =>
    exact withReceive_own (quiet_ownReads (shutdown_quiet network k) own) nofun nofun

theorem receive_plugged (plugged : Plugged network) (outcome : ReadOutcome) : Plugged (network.receive k outcome) := by
  have moved : ∀ {network : Network ι κ}, Plugged network → network.receives k ≠ .absent →
      ∀ stage, Plugged (network.withReceive k stage) := by
    intro network plugged running stage
    refine ⟨plugged.opened, fun other started => ?_, plugged.verifying⟩
    by_cases here : other = k
    · subst here
      exact plugged.begun other running
    · simp only [Network.withReceive, Function.update_of_ne here] at started
      exact plugged.begun other started
  have roomed : ∀ (inbound : ι → List UInt8) (room : Room (ι ⊕ κ)), Plugged { network with inbound, room } :=
    fun _ _ => ⟨plugged.opened, plugged.begun, plugged.verifying⟩
  unfold Network.receive
  cases stage : network.receives k with
  | absent | ended => exact plugged
  | testing | handling => exact moved plugged (by rw [stage]; nofun) _
  | calling call => exact moved (roomed network.inbound _) (by rw [stage]; nofun) _
  | disconnecting | complaining =>
    refine moved (quiet_plugged (shutdown_quiet network k) plugged) ?_ _
    rw [show (network.shutdown k).receives k = network.receives k from rfl, stage]
    nofun
  | reading reader =>
    cases reader with
    | reading call => exact moved plugged (by rw [stage]; nofun) _
    | blocked source call =>
      cases outcome with
      | failed => exact moved plugged (by rw [stage]; nofun) _
      | bytes extra =>
        simp only [Network.read]
        split
        · exact plugged
        case h_2 chunk _ =>
          have taken : Plugged (network.take source chunk) := roomed _ network.room
          have later := moved taken (by
            rw [show (network.take source chunk).receives k = network.receives k from rfl, stage]
            nofun) (.reading (call.receive network.memory chunk))
          exact ⟨later.opened, later.begun, later.verifying⟩
    | returned message =>
      cases message with
      | none => exact moved plugged (by rw [stage]; nofun) _
      | some message => exact moved plugged (by rw [stage]; nofun) _

end

/-! ## Whole runs -/

section
variable [DecidableEq ι] [DecidableEq κ]

theorem send_plugged (plugged : Plugged network) (delivered : Bool) : Plugged (network.send k delivered) := by
  by_cases turningAway : network.sends k = .turningAway
  · have connected : Connected (network.sends k) := by simp [turningAway, Connected]
    simp only [Network.send, turningAway]
    exact close_plugged plugged connected not_false trivial
  · by_cases closing : network.sends k = .closing
    · have connected : Connected (network.sends k) := by simp [closing, Connected]
      simp only [Network.send, closing]
      exact close_plugged plugged connected not_false trivial
    · exact quiet_plugged (send_kept network k delivered turningAway closing) plugged

theorem send_ownReads (own : OwnReads network) (delivered : Bool) : OwnReads (network.send k delivered) := by
  have closed : ∀ stage, OwnReads ((network.close (network.records k).socket).withSend k stage) := by
    intro stage
    have own := @close_ownReads ι κ network (network.records k).socket own
    exact ⟨own.reading, own.blocked, own.consumed⟩
  by_cases turningAway : network.sends k = .turningAway
  · simp only [Network.send, turningAway]
    exact closed _
  · by_cases closing : network.sends k = .closing
    · simp only [Network.send, closing]
      exact closed _
    · exact quiet_ownReads (send_kept network k delivered turningAway closing) own

theorem step_plugged (step : NetworkStep ι κ) (plugged : Plugged network) (ran : network.step step = .ok next) :
    Plugged next := by
  cases step with
  | room step =>
    obtain ⟨room, -, built⟩ := bind_ok.mp ran
    cases built
    exact ⟨plugged.opened, plugged.begun, plugged.verifying⟩
  | endGame | arrive | hangUp =>
    cases ran
    exact ⟨plugged.opened, plugged.begun, plugged.verifying⟩
  | accept k number =>
    cases ran
    exact accept_plugged plugged
  | verify outcome =>
    cases ran
    exact verify_plugged plugged outcome
  | stop =>
    cases ran
    unfold Network.stop
    split
    · exact ⟨plugged.opened, plugged.begun, nofun⟩
    · exact plugged
  | destroy k =>
    cases ran
    exact quiet_plugged (destroy_quiet network k) plugged
  | send k delivered =>
    cases ran
    exact send_plugged plugged delivered
  | receive k outcome =>
    cases ran
    exact receive_plugged plugged outcome

theorem step_ownReads (step : NetworkStep ι κ) (plugged : Plugged network) (own : OwnReads network)
    (fresh : Fresh network step) (ran : network.step step = .ok next) : OwnReads next := by
  cases step with
  | room step =>
    obtain ⟨room, -, built⟩ := bind_ok.mp ran
    cases built
    exact ⟨own.reading, own.blocked, own.consumed⟩
  | endGame | arrive | hangUp =>
    cases ran
    exact ⟨own.reading, own.blocked, own.consumed⟩
  | accept k number =>
    cases ran
    exact accept_ownReads plugged own fresh
  | verify outcome =>
    cases ran
    exact verify_ownReads own outcome
  | stop =>
    cases ran
    unfold Network.stop
    split
    · exact ⟨own.reading, own.blocked, own.consumed⟩
    · exact own
  | destroy k =>
    cases ran
    exact quiet_ownReads (destroy_quiet network k) own
  | send k delivered =>
    cases ran
    exact send_ownReads own delivered
  | receive k outcome =>
    cases ran
    exact receive_ownReads plugged own fresh

omit [DecidableEq ι] [DecidableEq κ] in
theorem start_plugged (room : Room (ι ⊕ κ)) (records : ι → ClientConnection) (memory : Nat → UInt8) :
    Plugged (Network.start room records memory : Network ι κ) :=
  ⟨fun _ now => absurd now not_false, fun _ started => absurd rfl started, nofun⟩

omit [DecidableEq ι] [DecidableEq κ] in
theorem start_ownReads (room : Room (ι ⊕ κ)) (records : ι → ClientConnection) (memory : Nat → UInt8) :
    OwnReads (Network.start room records memory : Network ι κ) :=
  ⟨nofun, nofun, nofun⟩

/-- Every byte that the receive thread of a connection has read came from the socket
that was accepted for it. -/
theorem run_reads_own (room : Room (ι ⊕ κ)) (records : ι → ClientConnection) (memory : Nat → UInt8)
    {steps : List (NetworkStep ι κ)}
    (fresh : Guarded Network.step Fresh (Network.start room records memory) steps)
    (ran : (Network.start room records memory).run steps = .ok network) (k : ι) :
    ∀ entry ∈ network.consumed k, entry.1 = k := by
  obtain ⟨-, own⟩ := run_preserves (fun network => Plugged network ∧ OwnReads network) steps
    (fun _ step _ _ kept fresh ran => ⟨step_plugged step kept.1 ran, step_ownReads step kept.1 kept.2 fresh ran⟩)
    ⟨start_plugged room records memory, start_ownReads room records memory⟩ fresh ran
  exact own.consumed k

end

/-- Nobody has connected yet. -/
def quietServer : Network Bool Empty :=
  Network.start SlotOwners.emptyRoom (fun _ => clientConnectionInit 0) fun _ => 0

/-- A client is accepted as number 7 and its receive thread reaches `read`. -/
def accepted : List (NetworkStep Bool Empty) :=
  [.arrive true (socketMessageSerialize (socketMessageInitMagicBytes gameMagicBytes)), .accept true 7, .verify .failed,
    .verify (.bytes 0), .verify .failed, .verify (.bytes 3), .verify .failed, .receive true .failed]

/-- Its next byte is read. -/
def ownByte : List (NetworkStep Bool Empty) :=
  accepted ++ [.receive true .failed, .arrive true [9], .receive true (.bytes 0)]

theorem run_reads_own_ownByte : ∃ network, quietServer.run ownByte = .ok network ∧
    network.consumed true = [(true, 9)] ∧ ∀ entry ∈ network.consumed true, entry.1 = true := by
  have fresh : Guarded Network.step Fresh quietServer ownByte :=
    ⟨trivial, nofun, trivial, trivial, trivial, trivial, trivial, nofun, nofun, trivial, nofun, trivial⟩
  refine ⟨_, rfl, rfl, ?_⟩
  exact run_reads_own _ _ _ fresh rfl true

/-- Before it does, the sending of its first message fails; the send thread runs to its
end and closes the socket, and the next client is accepted as number 7. -/
def numberReused : List (NetworkStep Bool Empty) :=
  accepted ++ [.send true true, .send true true, .send true true, .send true false, .send true true, .send true true,
    .send true true, .send true true, .send true true, .send true true,
    .arrive false (socketMessageSerialize (socketMessageInitMagicBytes gameMagicBytes)), .accept false 7,
    .receive true .failed, .receive true (.bytes 0)]

/-- The first connection reads the magic bytes of the second one. -/
theorem run_reads_own_numberReused : ∃ network,
    quietServer.run numberReused = .ok network ∧ network.sends true = .ended ∧ network.consumed true = [(false, 0)] :=
  ⟨_, rfl, rfl, rfl⟩

end SnakePosix.Descriptors
