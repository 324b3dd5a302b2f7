import SnakePosix.Client.SocketClientThreads
import SnakePosix.SlotCalls

/-! A connection never complains about a message of `socket_client_run` when its player
is registered, as long as no key's message is handled before `player_manager_register`
has returned. The client's bytes stay whole messages on their way, so what is read is
what was pressed; but the client presses keys before it has been told that it is
connected. -/
namespace SnakePosix.ConformingClient
open ReadPrograms GuardedRuns Descriptors Connections SlotCalls

/-! ## What the client sends -/

/-- The messages after the magic bytes. -/
def FromClient : SocketMessage → Prop
  | .direction _ | .pause | .unpause | .respawn | .disconnect => True
  | _ => False

/-- A stream of whole messages. -/
inductive Framed : List UInt8 → Prop where
  | nil : Framed []
  | cons (fromClient : FromClient message) (framed : Framed rest) : Framed (socketMessageSerialize message ++ rest)

def magicBytes : SocketMessage := socketMessageInitMagicBytes gameMagicBytes

/-! ## Reading it -/

/-- A call of `socket_read` in the receive thread, and what is on its way to it. -/
inductive Hears : SocketRead → List UInt8 → Prop where
  | type (framed : Framed stream) : Hears ⟨1, 0, buffer, socketMessageTypeReads⟩ stream
  | direction (framed : Framed stream) : Hears ⟨1, 0, buffer, socketMessageDirectionData⟩ (direction :: stream)

/-- The same for the handler's check, up to the last of the magic bytes. -/
inductive Greets : SocketRead → List UInt8 → Prop where
  | type (framed : Framed stream) :
      Greets ⟨1, 0, buffer, socketMessageTypeReads⟩ (socketMessageSerialize magicBytes ++ stream)
  | data (missing : List UInt8) (length : readBytes + missing.length = 4) (framed : Framed stream) :
      Greets ⟨4, readBytes, buffer, socketMessageMagicBytesData⟩ (missing ++ stream)

variable {ι κ : Type} {network next : Network ι κ} {k : ι} {stream rest chunk more : List UInt8} {first : UInt8}
  {message : SocketMessage} {call : SocketRead}

def HearsAt (k : ι) (stream : List UInt8) : SocketReader ι → Prop
  | .reading call => Hears call stream
  | .blocked source call => source = k ∧ Hears call stream
  | .returned (some message) => FromClient message ∧ Framed stream
  | .returned none => True

def GreetsAt (stream : List UInt8) : SocketReader ι → Prop
  | .reading call | .blocked _ call => Greets call stream
  | .returned (some _) => Framed stream
  | .returned none => True

theorem framed_append (framed : Framed stream) (fromClient : FromClient message) :
    Framed (stream ++ socketMessageSerialize message) := by
  induction framed with
  | nil => simpa using Framed.cons fromClient .nil
  | cons earlier _ ih =>
    rw [List.append_assoc]
    exact .cons earlier ih

/-- The first byte of a message decides how many follow. -/
theorem type_hears (memory : Nat → UInt8) (framed : Framed (first :: rest)) (k : ι) :
    HearsAt k rest (.begin memory (socketMessageTypeReads (first :: more))) := by
  generalize same : first :: rest = stream at framed
  cases framed with
  | nil => cases same
  | @cons message _ fromClient framed =>
    cases message with
    | direction direction =>
      cases same
      exact Hears.direction framed
    | pause | unpause | respawn | disconnect =>
      cases same
      exact ⟨trivial, framed⟩
    | _ => exact fromClient.elim

theorem receive_hears (memory : Nat → UInt8) (hears : Hears call (chunk ++ rest))
    (short : chunk.length ≤ call.length - call.readBytes) (k : ι) : HearsAt k rest (call.receive memory chunk) := by
  generalize same : chunk ++ rest = stream at hears
  cases hears with
  | type framed =>
    cases chunk with
    | nil =>
      cases same
      exact Hears.type framed
    | cons byte chunk =>
      obtain rfl : chunk = [] := List.length_eq_zero_iff.mp (by simpa using short)
      cases same
      exact type_hears memory framed k
  | direction framed =>
    cases chunk with
    | nil =>
      cases same
      exact Hears.direction framed
    | cons byte chunk =>
      obtain rfl : chunk = [] := List.length_eq_zero_iff.mp (by simpa using short)
      cases same
      exact ⟨trivial, framed⟩

theorem receive_greets (memory : Nat → UInt8) (greets : Greets call (chunk ++ rest))
    (short : chunk.length ≤ call.length - call.readBytes) :
    GreetsAt rest (call.receive memory chunk : SocketReader ι) := by
  generalize same : chunk ++ rest = stream at greets
  cases greets with
  | type framed =>
    cases chunk with
    | nil =>
      cases same
      exact Greets.type framed
    | cons byte chunk =>
      obtain rfl : chunk = [] := List.length_eq_zero_iff.mp (by simpa using short)
      cases same
      exact Greets.data gameMagicBytes rfl framed
  | @data readBytes stream buffer missing length framed =>
    have leading : chunk <+: missing :=
      List.prefix_of_prefix_length_le ⟨rest, same⟩ (List.prefix_append missing stream) (by simp at short; omega)
    obtain ⟨left, rfl⟩ := leading
    obtain rfl : rest = left ++ stream := by simpa using same
    unfold SocketRead.receive
    dsimp only
    rw [List.length_append] at length
    split
    · exact Greets.data left (by omega) framed
    · obtain rfl : left = [] := List.length_eq_zero_iff.mp (by omega)
      exact framed

/-- What a `read` returns is the next part of the stream. -/
theorem chunk_taken {source : ι} {extra : Nat} [DecidableEq ι]
    (arrived : network.chunk source call extra = some chunk) :
    chunk.length ≤ call.length - call.readBytes ∧
      network.inbound source = chunk ++ (network.take source chunk).inbound source := by
  have leading : chunk <+: network.inbound source ∧ chunk.length ≤ call.length - call.readBytes := by
    unfold Network.chunk at arrived
    split at arrived
    · split at arrived
      · cases arrived
        exact ⟨List.nil_prefix, Nat.zero_le _⟩
      · cases arrived
    · cases arrived
      refine ⟨List.take_prefix _ _, ?_⟩
      rw [List.length_take]
      omega
  obtain ⟨⟨later, whole⟩, short⟩ := leading
  refine ⟨short, ?_⟩
  simp only [Network.take, Function.update_self, ← whole, List.drop_left]

/-! ## More of it arrives -/

theorem hears_append (hears : Hears call stream) (fromClient : FromClient message) :
    Hears call (stream ++ socketMessageSerialize message) := by
  cases hears with
  | type framed => exact .type (framed_append framed fromClient)
  | direction framed => exact .direction (framed_append framed fromClient)

theorem hearsAt_append {reader : SocketReader ι} (hears : HearsAt k stream reader) (fromClient : FromClient message) :
    HearsAt k (stream ++ socketMessageSerialize message) reader := by
  cases reader with
  | reading call => exact hears_append hears fromClient
  | blocked source call => exact ⟨hears.1, hears_append hears.2 fromClient⟩
  | returned message =>
    cases message with
    | none => trivial
    | some message => exact ⟨hears.1, framed_append hears.2 fromClient⟩

theorem greets_append (greets : Greets call stream) (fromClient : FromClient message) :
    Greets call (stream ++ socketMessageSerialize message) := by
  cases greets with
  | type framed =>
    rw [List.append_assoc]
    exact .type (framed_append framed fromClient)
  | data missing length framed =>
    rw [List.append_assoc]
    exact .data missing length (framed_append framed fromClient)

theorem greetsAt_append {reader : SocketReader ι} (greets : GreetsAt stream reader) (fromClient : FromClient message) :
    GreetsAt (stream ++ socketMessageSerialize message) reader := by
  cases reader with
  | reading call => exact greets_append greets fromClient
  | blocked source call => exact greets_append greets fromClient
  | returned message =>
    cases message with
    | none => trivial
    | some message => exact framed_append greets fromClient

/-! ## The connection and what it hears -/

/-- `player_manager_register` has returned without a slot. -/
def Refused : SendStage → Prop
  | .refused | .turningAway | .turnedAway => True
  | _ => False

def HearsThread (k : ι) (stream : List UInt8) : ReceiveStage ι → Prop
  | .testing | .handling _ | .calling _ => Framed stream
  | .reading reader => HearsAt k stream reader
  | _ => True

/-- What is on its way to connection `k`, or will be first, is what the handler or the
receive thread is prepared for, until the socket is closed. -/
structure Heard (k : ι) (stream : List UInt8) (network : Network ι κ) : Prop where
  awaited : network.sends k = .absent → (∀ number reader, network.handler ≠ .verifying k number reader) →
    ∃ rest, Framed rest ∧ stream = socketMessageSerialize magicBytes ++ rest
  sources : ∀ other number source call, network.handler = .verifying other number (.blocked source call) →
    source = other
  greeted : ∀ number reader, network.handler = .verifying k number reader → GreetsAt stream reader
  heard : ¬ Closed (network.sends k) → HearsThread k stream (network.receives k)
  handled : ∀ message, network.receives k = .handling message → network.sends k = .turnedAway ∨ FromClient message
  refused : network.receives k = .complaining → Refused (network.sends k)

theorem heard_append (heard : Heard k stream network) (fromClient : FromClient message) :
    Heard k (stream ++ socketMessageSerialize message) network where
  awaited := by
    intro absent unverified
    obtain ⟨rest, framed, rfl⟩ := heard.awaited absent unverified
    exact ⟨_, framed_append framed fromClient, List.append_assoc _ _ _⟩
  sources := heard.sources
  greeted := fun number reader verifying => greetsAt_append (heard.greeted number reader verifying) fromClient
  heard := by
    intro opened
    have before := heard.heard opened
    cases stage : network.receives k with
    | testing | handling | calling =>
      rw [stage] at before
      exact framed_append before fromClient
    | reading reader =>
      rw [stage] at before
      exact hearsAt_append before fromClient
    | _ => trivial
  handled := heard.handled
  refused := heard.refused

/-! ## Steps that neither read nor check anything -/

theorem closed_unconnected {send : SendStage} (closed : Closed send) : ¬ Connected send := by
  cases send with
  | turnedAway | ended => exact not_false
  | _ => exact closed.elim

theorem refused_unseated {send : SendStage} (refused : Refused send) : Unseated send := by
  cases send <;> trivial

/-- A send thread does not come back, neither from its end nor from a refusal. -/
theorem turn_follows {before after : Place} (turn : Turn before after) :
    (after.send = .absent → before.send = .absent) ∧ (Closed before.send → after.send = before.send) ∧
      (Refused before.send → Refused after.send) := by
  cases turn with
  | rests | shuts => exact ⟨id, fun _ => rfl, id⟩
  | serves seated stays =>
    refine ⟨fun absent => ?_, fun closed => ?_, fun refused => ?_⟩
    · cases absent
      exact stays.elim
    · exact absurd (seated_connected seated) (closed_unconnected closed)
    · exact absurd (refused_unseated refused) (seated_apart seated).1
  | refuses | turnsAway => exact ⟨nofun, nofun, fun _ => trivial⟩
  | _ => exact ⟨nofun, nofun, nofun⟩

/-- Only the send thread may have moved. -/
theorem turn_heard (heard : Heard k stream network) (turn : Turn (place network k) (place next k))
    (handler : next.handler = network.handler) (receives : next.receives k = network.receives k) :
    Heard k stream next := by
  obtain ⟨absent, closed, refused⟩ : (next.sends k = .absent → network.sends k = .absent) ∧
      (Closed (network.sends k) → next.sends k = network.sends k) ∧
        (Refused (network.sends k) → Refused (next.sends k)) :=
    turn_follows turn
  refine ⟨fun now unverified => ?_, ?_, ?_, fun opened => ?_, fun message handling => ?_, fun complaining => ?_⟩
  · rw [handler] at unverified
    exact heard.awaited (absent now) unverified
  · rw [handler]
    exact heard.sources
  · rw [handler]
    exact heard.greeted
  · rw [receives]
    refine heard.heard fun ended => opened ?_
    rwa [closed ended]
  · rw [receives] at handling
    refine (heard.handled message handling).imp_left fun away => ?_
    rw [closed (by rw [away]; trivial), away]
  · rw [receives] at complaining
    exact refused (heard.refused complaining)

/-! ## Complaints -/

/-- Only a message of the wrong type is complained about, or one that comes before the
player is registered. -/
theorem handle_complaining {record : ClientConnection}
    (complains : clientConnectionHandle record message = (.complaining : ReceiveStage ι))
    (fromClient : FromClient message) :
    CallsFor message ∧ record.playerId = playerIdNotRegistered := by
  unfold clientConnectionHandle at complains
  cases message with
  | direction | pause | unpause | respawn =>
    dsimp only at complains
    split at complains
    · cases complains
    · exact ⟨trivial, not_not.mp ‹_›⟩
  | disconnect => cases complains
  | _ => exact fromClient.elim

/-- Between messages it does not matter what the thread does with the last one. -/
theorem framed_hears {stage : ReceiveStage ι} (framed : Framed stream) (outside : ∀ reader, stage ≠ .reading reader) :
    HearsThread k stream stage := by
  cases stage with
  | testing | handling | calling => exact framed
  | reading reader => exact absurd rfl (outside reader)
  | _ => trivial

/-- A registered player has the number of a slot. -/
theorem unregistered_refused (steady : Steady network) (started : network.receives k ≠ .absent)
    (unregistered : (network.records k).playerId = playerIdNotRegistered)
    (registered : network.sends k ≠ .starting ∧ network.sends k ≠ .registering) : Refused (network.sends k) := by
  have attached := steady.attached k
  have begun := steady.plugged.begun k started
  have numberless : ¬ (network.records k).playerId < maxPlayers := by
    rw [unregistered]
    decide
  have unseated : ¬ Seated (network.sends k) := fun seated => numberless (attached.held _ (attached.seated seated))
  have staying : ¬ Left (network.sends k) := fun left => numberless (attached.left left)
  cases stage : network.sends k with
  | refused | turningAway | turnedAway => trivial
  | starting => exact absurd stage registered.1
  | registering => exact absurd stage registered.2
  | absent | rejected =>
    rw [stage] at begun
    exact (begun.elim id id).elim
  | shuttingDown | closing | ended =>
    rw [stage] at staying
    exact absurd trivial staying
  | _ =>
    rw [stage] at unseated
    exact absurd trivial unseated

/-! ## The handler -/

section
variable {other : ι} {number : Nat} {ahead : List UInt8}

/-- A connection that is being checked has no threads yet. -/
theorem verifying_absent {reader : SocketReader ι} (plugged : Plugged network)
    (handler : network.handler = .verifying k number reader) : network.receives k = .absent := by
  have absent := (plugged.verifying k number reader handler).2
  by_contra started
  have begun := plugged.begun k started
  rw [absent] at begun
  exact begun.elim id id

/-- What a step of the handler's check comes to. -/
inductive Checks [DecidableEq ι] (network : Network ι κ) : Network ι κ → Prop where
  | waits : Checks network network
  | calls {source : ι} {number : Nat} {call : SocketRead}
      (handler : network.handler = .verifying source number (.reading call)) :
      Checks network { network with handler := .verifying source number (.blocked source call) }
  | fails {source : ι} {number : Nat} {call : SocketRead}
      (handler : network.handler = .verifying source number (.blocked source call)) :
      Checks network { network with handler := .verifying source number (.returned none) }
  | takes {source : ι} {number : Nat} {call : SocketRead} {chunk : List UInt8}
      (handler : network.handler = .verifying source number (.blocked source call))
      (short : chunk.length ≤ call.length - call.readBytes)
      (whole : network.inbound source = chunk ++ (network.take source chunk).inbound source) :
      Checks network { network.take source chunk with
        handler := .verifying source number (call.receive network.memory chunk) }
  | decides {source : ι} {number : Nat} {checked : Option SocketMessage}
      (handler : network.handler = .verifying source number (.returned checked)) :
      Checks network (network.verified source number checked)

theorem verify_checks [DecidableEq ι] (plugged : Plugged network)
    (sources : ∀ other number source call, network.handler = .verifying other number (.blocked source call) →
      source = other) (outcome : ReadOutcome) : Checks network (network.verify outcome) := by
  unfold Network.verify
  split
  case h_1 other number call handler =>
    rw [(plugged.verifying other number _ handler).1]
    exact .calls handler
  case h_2 other number source call handler =>
    obtain rfl : source = other := sources other number source call handler
    split
    · exact .fails handler
    · split
      case h_1 => exact .waits
      case h_2 chunk arrived =>
        obtain ⟨short, whole⟩ := chunk_taken arrived
        exact .takes handler short whole
  case h_3 other number checked handler => exact .decides handler
  case h_4 => exact .waits
  case h_5 => exact .waits

theorem verified_inbound [DecidableEq ι] (network : Network ι κ) (other : ι) (number : Nat)
    (checked : Option SocketMessage) : (network.verified other number checked).inbound = network.inbound := by
  unfold Network.verified
  split <;> rfl

/-- The handler goes on reading from the connection it checks. -/
private theorem verifying_heard {before : SocketReader ι} {later : SocketReader ι} (plugged : Plugged network)
    (heard : Heard k stream network) (handler : network.handler = .verifying other number before)
    (inbound : ι → List UInt8) (elsewhere : k ≠ other → rest = stream) (greets : k = other → GreetsAt rest later)
    (sources : ∀ source call, later = .blocked source call → source = other) :
    Heard k rest { network with inbound, handler := .verifying other number later } := by
  by_cases here : k = other
  · subst here
    have unstarted : network.receives k = .absent := verifying_absent plugged handler
    refine ⟨fun _ unverified => absurd rfl (unverified number later), fun _ _ _ _ same => ?_, fun _ _ same => ?_, ?_,
      heard.handled, heard.refused⟩
    · cases same
      exact sources _ _ rfl
    · cases same
      exact greets rfl
    · simp only [unstarted]
      exact fun _ => trivial
  · rw [elsewhere here]
    have others : ∀ number reader, network.handler ≠ .verifying k number reader := by
      intro _ _ same
      rw [handler] at same
      cases same
      exact here rfl
    refine ⟨fun absent _ => heard.awaited absent others, fun _ _ _ _ same => ?_, fun _ _ same => ?_, heard.heard,
      heard.handled, heard.refused⟩
    · cases same
      exact sources _ _ rfl
    · cases same
      exact absurd rfl here

/-- The handler is through with a connection, and it was not this one. -/
private theorem aside_heard (heard : Heard k stream network)
    (unverified : ∀ number reader, network.handler ≠ .verifying k number reader)
    (idle : next.handler = .accepting ∨ next.handler = .stopped) (sends : next.sends k = network.sends k)
    (receives : next.receives k = network.receives k) : Heard k stream next := by
  have nobody : ∀ other number reader, next.handler ≠ .verifying other number reader := by
    intro other number reader same
    rw [same] at idle
    exact idle.elim nofun nofun
  refine ⟨fun absent _ => heard.awaited (sends ▸ absent) unverified, fun _ _ _ _ same => absurd same (nobody _ _ _),
    fun _ _ same => absurd same (nobody _ _ _), ?_, ?_, ?_⟩
  · rw [sends, receives]
    exact heard.heard
  · rw [sends, receives]
    exact heard.handled
  · rw [sends, receives]
    exact heard.refused

theorem accept_heard (heard : Heard k stream network) :
    Heard k stream (network.accept other number) := by
  unfold Network.accept
  split
  case h_1 accepting absent free =>
    have unverified : ∀ number reader, network.handler ≠ .verifying k number reader := by
      rw [accepting]
      nofun
    refine ⟨fun absent _ => heard.awaited absent unverified, nofun, fun _ _ same => ?_, heard.heard, heard.handled,
      heard.refused⟩
    cases same
    obtain ⟨rest, framed, rfl⟩ := heard.awaited absent unverified
    exact Greets.type framed
  case h_2 => exact heard

section
variable [DecidableEq ι]

private theorem verified_heard {checked : Option SocketMessage} (plugged : Plugged network)
    (heard : Heard k stream network) (handler : network.handler = .verifying other number (.returned checked)) :
    Heard k stream (network.verified other number checked) := by
  unfold Network.verified
  by_cases here : k = other
  · subst here
    split
    case isTrue passed =>
      subst passed
      have framed : Framed stream := heard.greeted number _ handler
      refine ⟨fun absent => ?_, fun _ _ _ _ verifying => ?_, fun _ _ verifying => ?_, fun _ => ?_,
        fun _ handling => ?_, fun complaining => ?_⟩
      · simp [Network.withReceive, Network.withSend] at absent
      · cases verifying
      · cases verifying
      · simpa [Network.withReceive, HearsThread] using framed
      · simp [Network.withReceive] at handling
      · simp [Network.withReceive] at complaining
    case isFalse =>
      have unstarted : network.receives k = .absent := verifying_absent plugged handler
      refine ⟨fun absent => ?_, fun _ _ _ _ verifying => ?_, fun _ _ verifying => ?_, fun _ => ?_,
        fun _ handling => ?_, fun complaining => ?_⟩
      · simp [Network.withSend] at absent
      · cases verifying
      · cases verifying
      · simp [Network.withSend, Network.close, unstarted, HearsThread]
      · simp [Network.withSend, Network.close, unstarted] at handling
      · simp [Network.withSend, Network.close, unstarted] at complaining
  · have others : ∀ number reader, network.handler ≠ .verifying k number reader := by
      intro _ _ same
      rw [handler] at same
      cases same
      exact here rfl
    split
    · refine aside_heard heard others (Or.inl rfl) ?_ ?_
      · exact Function.update_of_ne here _ _
      · exact Function.update_of_ne here _ _
    · exact aside_heard heard others (Or.inl rfl) (Function.update_of_ne here _ _) rfl

theorem verify_heard (plugged : Plugged network) (heard : Heard k (network.inbound k ++ ahead) network)
    (outcome : ReadOutcome) : Heard k ((network.verify outcome).inbound k ++ ahead) (network.verify outcome) := by
  have checks := verify_checks plugged heard.sources outcome
  generalize network.verify outcome = next at checks
  cases checks with
  | waits => exact heard
  | @calls source number call handler =>
    refine verifying_heard plugged heard handler _ (fun _ => rfl) (fun here => ?_) fun _ _ same => ?_
    · subst here
      exact heard.greeted number (.reading call) handler
    · cases same
      rfl
  | fails handler => exact verifying_heard plugged heard handler _ (fun _ => rfl) (fun _ => trivial) nofun
  | @takes source number call chunk handler short whole =>
    refine verifying_heard plugged heard handler _ (fun away => ?_) (fun here => ?_) fun _ _ same => ?_
    · simp only [Network.take, Function.update_of_ne away]
    · subst here
      have greets := heard.greeted number _ handler
      rw [whole, List.append_assoc] at greets
      exact receive_greets network.memory greets short
    · exact absurd same (receive_unblocked _ _ _ _ _)
  | decides handler =>
    rw [verified_inbound]
    exact verified_heard plugged heard handler

/-! ## The receive thread -/

private theorem withReceive_heard {stage : ReceiveStage ι} (plugged : Plugged network) (heard : Heard k stream network)
    (started : network.sends k ≠ .absent) (own : ¬ Closed (network.sends k) → HearsThread k rest stage)
    (handled : ∀ message, stage = .handling message → network.sends k = .turnedAway ∨ FromClient message)
    (refused : stage = .complaining → Refused (network.sends k)) : Heard k rest (network.withReceive k stage) where
  awaited := fun absent => absurd absent started
  sources := heard.sources
  greeted := fun number reader handler => absurd (plugged.verifying k number reader handler).2 started
  heard := by
    intro opened
    simp only [Network.withReceive, Function.update_self]
    exact own opened
  handled := by
    simp only [Network.withReceive, Function.update_self]
    exact handled
  refused := by
    simp only [Network.withReceive, Function.update_self]
    exact refused

/-- A step of `socket_message_deserialize_from_socket`, or of the test after it. -/
theorem read_heard {outcome : ReadOutcome} {reader : SocketReader ι} (steady : Steady network)
    (heard : Heard k (network.inbound k ++ ahead) network) (running : network.sends k ≠ .absent)
    (stage : network.receives k = .reading reader) :
    Heard k ((network.read k outcome reader).inbound k ++ ahead) (network.read k outcome reader) := by
  have hears := heard.heard
  rw [stage] at hears
  cases reader with
  | reading call =>
    refine withReceive_heard steady.plugged heard running (fun opened => ?_) (by rintro _ ⟨⟩) (by rintro ⟨⟩)
    have connected := (steady.plugged.begun k (by simp [stage])).resolve_right opened
    rw [steady.plugged.opened k connected]
    exact ⟨rfl, hears opened⟩
  | blocked source call =>
    cases outcome with
    | failed => exact withReceive_heard steady.plugged heard running (fun _ => trivial) (by rintro _ ⟨⟩) (by rintro ⟨⟩)
    | bytes extra =>
      simp only [Network.read]
      split
      · exact heard
      case h_2 chunk arrived =>
        obtain ⟨short, whole⟩ := chunk_taken arrived
        have taken : Heard k (network.inbound k ++ ahead) (network.take source chunk) :=
          ⟨heard.awaited, heard.sources, heard.greeted, heard.heard, heard.handled, heard.refused⟩
        have plugged : Plugged (network.take source chunk) :=
          ⟨steady.plugged.opened, steady.plugged.begun, steady.plugged.verifying⟩
        have later : Heard k ((network.take source chunk).inbound k ++ ahead)
            ((network.take source chunk).withReceive k (.reading (call.receive network.memory chunk))) := by
          refine withReceive_heard plugged taken running (fun opened => ?_) (by rintro _ ⟨⟩) (by rintro ⟨⟩)
          obtain ⟨rfl, calls⟩ := hears opened
          rw [whole, List.append_assoc] at calls
          exact receive_hears network.memory calls short source
        exact ⟨later.awaited, later.sources, later.greeted, later.heard, later.handled, later.refused⟩
  | returned message =>
    cases message with
    | none => exact withReceive_heard steady.plugged heard running (fun _ => trivial) (by rintro _ ⟨⟩) (by rintro ⟨⟩)
    | some message =>
      simp only [Network.read]
      by_cases closed : (network.records k).shutdown = true
      · rw [if_pos closed]
        exact withReceive_heard steady.plugged heard running (fun _ => trivial) (by rintro _ ⟨⟩) (by rintro ⟨⟩)
      · rw [if_neg closed]
        refine withReceive_heard steady.plugged heard running (fun opened => (hears opened).2)
          (fun other handled => ?_) (by rintro ⟨⟩)
        cases handled
        by_cases opened : Closed (network.sends k)
        · -- The socket is closed; a thread that has gone to its end is shut down.
          left
          have unfinished : ¬ Finished (network.sends k) := fun finished =>
            closed ((steady.attached k).finished finished)
          cases send : network.sends k with
          | turnedAway => rfl
          | ended =>
            rw [send] at unfinished
            exact absurd trivial unfinished
          | _ =>
            rw [send] at opened
            exact opened.elim
        · exact Or.inr (hears opened).1

theorem receive_heard {outcome : ReadOutcome} (steady : Steady network)
    (heard : Heard k (network.inbound k ++ ahead) network)
    (registered : ∀ message, network.receives k = .handling message → CallsFor message →
      network.sends k ≠ .starting ∧ network.sends k ≠ .registering) :
    Heard k ((network.receive k outcome).inbound k ++ ahead) (network.receive k outcome) := by
  have started : network.receives k ≠ .absent → network.sends k ≠ .absent := by
    intro running absent
    have begun := steady.plugged.begun k running
    rw [absent] at begun
    exact begun.elim id id
  have hears := heard.heard
  unfold Network.receive
  cases stage : network.receives k with
  | absent | ended => exact heard
  | testing =>
    rw [stage] at hears
    dsimp only
    by_cases closed : (network.records k).shutdown = true
    · rw [if_pos closed]
      exact withReceive_heard steady.plugged heard (started (by rw [stage]; nofun)) (fun _ => trivial) nofun nofun
    · rw [if_neg closed]
      exact withReceive_heard steady.plugged heard (started (by rw [stage]; nofun))
        (fun opened => Hears.type (hears opened)) nofun nofun
  | handling message =>
    rw [stage] at hears
    refine withReceive_heard steady.plugged heard (started (by rw [stage]; nofun)) (fun opened => ?_)
      (fun other handled => ?_) fun complains => ?_
    · exact framed_hears (hears opened) (handle_outside _ _)
    · exact absurd handled (handle_handled _ _ _)
    · rcases heard.handled message stage with away | fromClient
      · rw [away]
        trivial
      · obtain ⟨calls, unregistered⟩ := handle_complaining complains fromClient
        exact unregistered_refused steady (by rw [stage]; nofun) unregistered (registered message stage calls)
  | calling call =>
    rw [stage] at hears
    have called : ∀ room : Room (ι ⊕ κ), Heard k (network.inbound k ++ ahead) { network with room } := fun _ =>
      ⟨heard.awaited, heard.sources, heard.greeted, heard.heard, heard.handled, heard.refused⟩
    have plugged : ∀ room : Room (ι ⊕ κ), Plugged { network with room } := fun _ =>
      ⟨steady.plugged.opened, steady.plugged.begun, steady.plugged.verifying⟩
    exact withReceive_heard (plugged _) (called _) (started (by rw [stage]; nofun)) hears nofun nofun
  | disconnecting | complaining =>
    exact withReceive_heard (quiet_plugged (shutdown_quiet network k) steady.plugged)
      (turn_heard heard (shutdown_turn network k k) rfl rfl) (started (by rw [stage]; nofun)) (fun _ => trivial)
      nofun nofun
  | reading reader => exact read_heard steady heard (started (by rw [stage]; nofun)) stage

/-! ## Every step of the network -/

/-- Who is not in `read` on the client's socket takes nothing from it. -/
theorem receive_elsewhere (others : ∀ call, network.receives other ≠ .reading (.blocked k call))
    (outcome : ReadOutcome) : (network.receive other outcome).inbound k = network.inbound k := by
  unfold Network.receive
  cases stage : network.receives other with
  | reading reader =>
    cases reader with
    | blocked source call =>
      have away : k ≠ source := by
        rintro rfl
        exact others call stage
      cases outcome with
      | failed => rfl
      | bytes extra =>
        simp only [Network.read]
        split
        · rfl
        · exact Function.update_of_ne away _ _
    | returned message => cases message <;> rfl
    | reading call => rfl
  | _ => rfl

variable [DecidableEq κ]

/-- `player_manager_register` has returned when a message for the player manager is
handled, and no other thread is in `read` on the client's socket. -/
def Admits (k : ι) (session : Session ι κ) : SessionStep ι κ → Prop
  | .server (.receive other _) =>
    (other = k → ∀ message, session.network.receives k = .handling message → CallsFor message →
      session.network.sends k ≠ .starting ∧ session.network.sends k ≠ .registering) ∧
    (other ≠ k → ∀ call, session.network.receives other ≠ .reading (.blocked k call))
  | _ => True

theorem step_heard {client : SocketClientThreads} (steady : Steady network)
    (heard : Heard k (network.inbound k ++ ahead) network) (step : NetworkStep ι κ) (foreign : step.peer ≠ some k)
    (admits : Admits k { network, client } (.server step)) (ran : network.step step = .ok next) :
    Heard k (next.inbound k ++ ahead) next := by
  have turn := step_turn steady.plugged step ran k
  cases step with
  | room step =>
    obtain ⟨room, -, built⟩ := bind_ok.mp ran
    cases built
    exact turn_heard heard turn rfl rfl
  | endGame | hangUp =>
    cases ran
    exact turn_heard heard turn rfl rfl
  | arrive connection bytes =>
    have away : k ≠ connection := fun same => foreign (by rw [same]; rfl)
    cases ran
    simp only [Function.update_of_ne away]
    exact turn_heard heard turn rfl rfl
  | accept connection number =>
    cases ran
    have same : (network.accept connection number).inbound = network.inbound := by
      unfold Network.accept
      split <;> rfl
    rw [same]
    exact accept_heard heard
  | verify outcome =>
    cases ran
    exact verify_heard steady.plugged heard outcome
  | stop =>
    cases ran
    unfold Network.stop
    split
    case h_1 accepting =>
      refine aside_heard heard ?_ (Or.inr rfl) rfl rfl
      rw [accepting]
      nofun
    case h_2 => exact heard
  | destroy connection =>
    cases ran
    obtain ⟨inbound, handler, receives⟩ : (network.destroy connection).inbound = network.inbound ∧
        (network.destroy connection).handler = network.handler ∧
          (network.destroy connection).receives = network.receives := by
      unfold Network.destroy
      split <;> exact ⟨rfl, rfl, rfl⟩
    rw [inbound]
    exact turn_heard heard turn handler (congrFun receives k)
  | send connection delivered =>
    cases ran
    obtain ⟨receives, inbound, handler⟩ := send_leaves network connection delivered
    rw [inbound]
    exact turn_heard heard turn handler (congrFun receives k)
  | receive connection outcome =>
    cases ran
    by_cases here : connection = k
    · subst here
      exact receive_heard steady heard (admits.1 rfl)
    · rw [receive_elsewhere (admits.2 here) outcome]
      exact turn_heard heard turn (receive_leaves network connection outcome).2
        (receive_receives (Ne.symm here) network outcome)

end
end

/-! ## The client -/

/-- The bytes that the client sends before any other. -/
def ahead (client : SocketClientThreads) : List UInt8 :=
  match client.main with
  | .connecting | .failed => socketMessageSerialize magicBytes
  | _ => []

/-- What the input thread is about to write comes after the magic bytes. -/
def Speaks (client : SocketClientThreads) : Prop :=
  ∀ message, client.pressed = some message → FromClient message ∧ ahead client = []

/-- What a key sends, if it sends anything. -/
theorem callbacks_send {key : Key} {lastDirection : Direction}
    (pressed : socketClientInputCallbacks key lastDirection = some message) :
    (∃ direction : Direction, direction.Declared ∧ message = .direction direction) ∨
      message = .pause ∨ message = .unpause ∨ message = .respawn := by
  cases key with
  | arrow arrow =>
    unfold socketClientInputCallbacks socketClientOnArrowPress at pressed
    dsimp only at pressed
    left
    split at pressed
    · cases pressed
      exact ⟨.up, trivial, rfl⟩
    · split at pressed
      · cases pressed
        exact ⟨.down, trivial, rfl⟩
      · split at pressed
        · cases pressed
          exact ⟨.left, trivial, rfl⟩
        · split at pressed
          · cases pressed
            exact ⟨.right, trivial, rfl⟩
          · cases pressed
  | pause =>
    cases pressed
    exact Or.inr (Or.inl rfl)
  | unpause =>
    cases pressed
    exact Or.inr (Or.inr (Or.inl rfl))
  | respawn =>
    cases pressed
    exact Or.inr (Or.inr (Or.inr rfl))

theorem callbacks_fromClient {key : Key} {lastDirection : Direction}
    (pressed : socketClientInputCallbacks key lastDirection = some message) : FromClient message := by
  rcases callbacks_send pressed with ⟨direction, -, rfl⟩ | rfl | rfl | rfl <;> trivial

/-- What is written are the bytes that come before any other, or a message. -/
def Wrote (client after : SocketClientThreads) (written : Option SocketMessage) : Prop :=
  (written.map socketMessageSerialize).getD [] ++ ahead after = ahead client ∨
    ∃ message, FromClient message ∧
      (written.map socketMessageSerialize).getD [] ++ ahead after = ahead client ++ socketMessageSerialize message

/-- A step between the magic bytes and the end of the client. -/
private theorem running_speaks {client after : SocketClientThreads} {written : Option SocketMessage}
    (begun : ahead client = []) (still : ahead after = [])
    (pressed : ∀ message, after.pressed = some message → FromClient message)
    (fromClient : ∀ message, written = some message → FromClient message) :
    Speaks after ∧ Wrote client after written := by
  refine ⟨fun message now => ⟨pressed message now, still⟩, ?_⟩
  rw [Wrote, begun, still]
  cases written with
  | none => exact Or.inl rfl
  | some message => exact Or.inr ⟨message, fromClient message rfl, by simp⟩

theorem proceed_speaks {client after : SocketClientThreads} {received : Option SocketMessage} {delivered : Bool}
    {written : Option SocketMessage} (speaks : Speaks client)
    (ran : client.proceed received delivered = some (after, written)) : Speaks after ∧ Wrote client after written := by
  have built : ∀ message, client.pressed = some message → FromClient message :=
    fun message pressed => (speaks message pressed).1
  unfold SocketClientThreads.proceed at ran
  cases stage : client.main with
  | connecting =>
    have first : ahead client = socketMessageSerialize magicBytes := by rw [ahead, stage]
    rw [stage] at ran
    dsimp only at ran
    split at ran
    · cases ran
      exact ⟨fun message pressed => ⟨built message pressed, rfl⟩, Or.inl (by rw [first]; rfl)⟩
    · cases ran
      refine ⟨fun message pressed => ⟨built message pressed, ?_⟩, Or.inl (by rw [first]; rfl)⟩
      rw [← (speaks message pressed).2, first]
      rfl
  | testing =>
    rw [stage] at ran
    dsimp only at ran
    split at ran
    all_goals
      cases ran
      exact running_speaks (by rw [ahead, stage]) rfl built nofun
  | receiving =>
    rw [stage] at ran
    dsimp only at ran
    cases received with
    | none =>
      cases ran
      exact running_speaks (by rw [ahead, stage]) rfl built nofun
    | some message =>
      obtain ⟨processed, -, same⟩ := Option.bind_eq_some_iff.mp ran
      cases same
      exact running_speaks (by rw [ahead, stage]) rfl built nofun
  | leaving =>
    rw [stage] at ran
    cases ran
    refine running_speaks (by rw [ahead, stage]) rfl built fun message written => ?_
    split at written
    · cases written
      trivial
    · cases written
  | stopping =>
    rw [stage] at ran
    dsimp only at ran
    cases ran
    refine running_speaks (by rw [ahead, stage]) ?_ ?_ nofun
    · split
      · rfl
      · rw [ahead, stage]
    · split
      · exact built
      · exact built
  | failed =>
    rw [stage] at ran
    cases ran
    exact ⟨speaks, Or.inl rfl⟩
  | closed =>
    rw [stage] at ran
    cases ran
    exact running_speaks (by rw [ahead, stage]) (by rw [ahead, stage]) built nofun

/-- Whatever the two threads do, they write the magic bytes first and one message of
the client at a time after that. -/
theorem step_speaks {client after : SocketClientThreads} {step : SocketClientStep} {written : Option SocketMessage}
    (speaks : Speaks client) (ran : client.step step = some (after, written)) :
    Speaks after ∧ Wrote client after written := by
  have built : ∀ message, client.pressed = some message → FromClient message :=
    fun message pressed => (speaks message pressed).1
  have polls : client.polling = true → ahead client = [] := by
    intro polling
    unfold SocketClientThreads.polling at polling
    unfold ahead
    split at polling
    · cases polling
    · cases polling
    · cases polling
    all_goals simp [*]
  cases step with
  | proceed received delivered => exact proceed_speaks speaks ran
  | press key =>
    cases ran
    unfold SocketClientThreads.press
    split
    case isTrue polling =>
      exact running_speaks (polls polling) (polls polling) (fun message pressed => callbacks_fromClient pressed) nofun
    case isFalse => exact ⟨speaks, Or.inl rfl⟩
  | exitPress =>
    cases ran
    unfold SocketClientThreads.exitPress
    split
    case isTrue polling => exact running_speaks (polls polling) (polls polling) built nofun
    case isFalse => exact ⟨speaks, Or.inl rfl⟩
  | write delivered =>
    cases ran
    cases pressed : client.pressed with
    | none =>
      refine ⟨nofun, Or.inl ?_⟩
      split <;> rfl
    | some message =>
      obtain ⟨fromClient, begun⟩ := speaks message pressed
      refine running_speaks begun begun nofun fun other written => ?_
      split at written
      · cases written
        exact fromClient
      · cases written

/-! ## Whole runs -/

structure Conforms (k : ι) (session : Session ι κ) : Prop where
  steady : Steady session.network
  speaks : Speaks session.client
  heard : Heard k (session.network.inbound k ++ ahead session.client) session.network

theorem hear_steady [DecidableEq ι] (steady : Steady network) (written : Option SocketMessage) (hangsUp : Bool) :
    Steady (network.hear k written hangsUp) :=
  ⟨⟨steady.plugged.opened, steady.plugged.begun, steady.plugged.verifying⟩, steady.attached⟩

theorem hear_heard [DecidableEq ι] (heard : Heard k stream network) (written : Option SocketMessage) (hangsUp : Bool) :
    Heard k stream (network.hear k written hangsUp) :=
  ⟨heard.awaited, heard.sources, heard.greeted, heard.heard, heard.handled, heard.refused⟩

theorem start_conforms (map : Map) (directions : Nat → Direction) (cache : PlayerDataCache) (template : MapTemplate)
    (records : ι → ClientConnection) (memory : Nat → UInt8) (tiles : Coordinates → MapTile) (k : ι) :
    Conforms k (Session.start (Room.start map directions cache template) records memory tiles : Session ι κ) where
  steady := Connections.start_steady map directions cache template records memory
  speaks := nofun
  heard := ⟨fun _ _ => ⟨[], .nil, rfl⟩, nofun, nofun, fun _ => trivial, nofun, nofun⟩

section
variable [DecidableEq ι] [DecidableEq κ]

theorem step_conforms {session after : Session ι κ} (conforms : Conforms k session) (step : SessionStep ι κ)
    (admits : Admits k session step) (ran : session.step k step = .ok after) : Conforms k after := by
  obtain ⟨steady, speaks, heard⟩ := conforms
  cases step with
  | server step =>
    simp only [Session.step] at ran
    by_cases own : step.peer = some k
    · rw [if_pos own] at ran
      cases ran
      exact ⟨steady, speaks, heard⟩
    · rw [if_neg own] at ran
      split at ran
      case h_1 network stepped =>
        cases ran
        exact ⟨step_steady step steady stepped, speaks, step_heard steady heard step own admits stepped⟩
      case h_2 => cases ran
  | client step =>
    simp only [Session.step] at ran
    split at ran
    case h_2 => cases ran
    case h_1 client written stepped =>
      cases ran
      obtain ⟨still, wrote⟩ := step_speaks speaks stepped
      refine ⟨hear_steady steady _ _, still, hear_heard ?_ _ _⟩
      have arrived : (session.network.hear k written client.hangsUp).inbound k ++ ahead client =
          session.network.inbound k ++ ((written.map socketMessageSerialize).getD [] ++ ahead client) := by
        simp [Network.hear]
      rw [arrived]
      rcases wrote with same | ⟨message, fromClient, later⟩
      · rw [same]
        exact heard
      · rw [later, ← List.append_assoc]
        exact heard_append heard fromClient

/-- The receive thread of the client's connection is never about to complain, unless its
player could not be registered. -/
theorem run_conforms (map : Map) (directions : Nat → Direction) (cache : PlayerDataCache) (template : MapTemplate)
    (records : ι → ClientConnection) (memory : Nat → UInt8) (tiles : Coordinates → MapTile) (k : ι)
    {steps : List (SessionStep ι κ)} {session : Session ι κ}
    (admits : Guarded (Session.step k) (Admits k)
      (Session.start (Room.start map directions cache template) records memory tiles) steps)
    (ran : (Session.start (Room.start map directions cache template) records memory tiles).run k steps = .ok session)
    (registered : ¬ Refused (session.network.sends k)) : session.network.receives k ≠ .complaining := by
  have conforms : Conforms k session := run_preserves (Conforms k) steps
    (fun _ step _ _ conforms admits ran => step_conforms conforms step admits ran)
    (start_conforms map directions cache template records memory tiles k) admits ran
  exact fun complaining => registered (conforms.heard.refused complaining)

end

/-- A client and a server before they meet. -/
def apart : Session Unit Empty :=
  Session.start SlotOwners.emptyRoom (fun _ => clientConnectionInit 0) (fun _ => 0)
    fun _ => { order := 0, type := .empty, player := 0 }

/-- The client is accepted, and its receive thread reaches `read`. -/
def meets : List (SessionStep Unit Empty) :=
  [.client (.proceed none true), .server (.accept () 7), .server (.verify .failed), .server (.verify (.bytes 0)),
    .server (.verify .failed), .server (.verify (.bytes 3)), .server (.verify .failed), .server (.receive () .failed)]

/-- The send thread registers the player. -/
def registers : List (SessionStep Unit Empty) :=
  [.server (.send () true), .server (.send () true), .server (.send () true)]

/-- A key is pressed, and its message is read and handled. -/
def pauses : List (SessionStep Unit Empty) :=
  [.client (.press .pause), .client (.write true), .server (.receive () .failed), .server (.receive () (.bytes 0)),
    .server (.receive () .failed), .server (.receive () .failed)]

theorem run_conforms_pauses : ∃ session, apart.run () (meets ++ registers ++ pauses) = .ok session ∧
    session.network.sends () = .greeting ∧ session.network.receives () ≠ .complaining := by
  have admits : Guarded (Session.step ()) (Admits ()) apart (meets ++ registers ++ pauses) := by
    refine ⟨trivial, trivial, trivial, trivial, trivial, trivial, trivial,
      ⟨fun _ => nofun, fun away => absurd rfl away⟩, trivial, trivial, trivial, trivial, trivial,
      ⟨fun _ => nofun, fun away => absurd rfl away⟩,
      ⟨fun _ => nofun, fun away => absurd rfl away⟩, ⟨fun _ => nofun, fun away => absurd rfl away⟩,
      ⟨fun _ _ _ _ => ⟨nofun, nofun⟩, fun away => absurd rfl away⟩, trivial⟩
  exact ⟨_, rfl, rfl, run_conforms _ _ _ _ _ _ _ () admits rfl not_false⟩

/-- The key is pressed first: the player is registered while the receive thread throws
the client out. -/
theorem run_conforms_earlyKey : ∃ session, apart.run () (meets ++ pauses ++ registers) = .ok session ∧
    session.network.room.clients (.inl ()) = .holding 0 ∧ session.network.sends () = .greeting ∧
      session.network.receives () = .complaining :=
  ⟨_, rfl, rfl, rfl, rfl⟩

end SnakePosix.ConformingClient
