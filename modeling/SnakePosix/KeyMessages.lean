import SnakePosix.ConformingClient
import SnakePosix.Foundation.Histories
import SnakePosix.RecordPlaces
import SnakePosix.SocketRoundTrip

/-! What a remote player asks for is what the server does. Between the input thread at
one end of a connection and the receive thread at the other no message is lost, doubled,
reordered or made up, whatever else happens, until the connection ends, as long as
`realloc` leaves the records where the threads look for them. -/
namespace SnakePosix.KeyMessages
open ReadPrograms GuardedRuns Histories Descriptors Connections SlotCalls ConformingClient RecordPlaces SocketRoundTrip

/-! ## What is asked for -/

/-- The message that a call of the player manager answers. -/
def callMessage : SlotCall → SocketMessage
  | .pause _ => .pause
  | .unpause _ => .unpause
  | .respawn _ => .respawn
  | .setPlayerDirection _ direction => .direction direction

inductive Event where
  | wrote (message : SocketMessage)
  | called (call : SlotCall)

def Event.written : Event → Option SocketMessage
  | .wrote message => some message
  | .called _ => none

def Event.asked : Event → Option SocketMessage
  | .wrote _ => none
  | .called call => some (callMessage call)

variable {ι κ : Type}

section
variable [DecidableEq ι] [DecidableEq κ]

/-- What the client writes and what the receive thread of connection `k` calls. -/
def events (k : ι) (session : Session ι κ) : SessionStep ι κ → List Event
  | .client step =>
    match session.client.step step with
    | some (_, some message) => [.wrote message]
    | _ => []
  | .server (.receive other _) =>
    if other = k then
      match session.network.receives k with
      | .calling call => [.called call]
      | _ => []
    else []
  | .server _ => []

/-- The calls are the receive thread's, as the messages that they answer. -/
def askedFor (k : ι) (state : Session ι κ × RecordArray ι) (steps : List (SessionStep ι κ × Nat)) :
    List SocketMessage :=
  (history (Session.stepArray k) (fun state step => events k state.1 step.1) state steps).filterMap Event.asked

/-- The first message a client writes are the magic bytes. -/
def writtenBy (k : ι) (state : Session ι κ × RecordArray ι) (steps : List (SessionStep ι κ × Nat)) :
    List SocketMessage :=
  (history (Session.stepArray k) (fun state step => events k state.1 step.1) state steps).filterMap Event.written

end

/-- No other thread is in `read` on the client's socket. -/
def Undisturbed (k : ι) (session : Session ι κ) : SessionStep ι κ → Prop
  | .server (.receive other _) => other ≠ k → ∀ call, session.network.receives other ≠ .reading (.blocked k call)
  | _ => True

/-- Nor does a step of the server move the array. -/
def Unmoved (k : ι) (state : Session ι κ × RecordArray ι) (step : SessionStep ι κ × Nat) : Prop :=
  Undisturbed k state.1 step.1 ∧ ∀ serverStep, step.1 = .server serverStep → Stays state.2 (serverStep, step.2)

/-! ## One message on its way -/

/-- A message of the client that is read as it was written. -/
def Named : SocketMessage → Prop
  | .direction direction => direction.Declared
  | message => FromClient message

/-- A call of `socket_read`, and what is left to come of the message it reads. -/
inductive Awaits : SocketRead → SocketMessage → List UInt8 → Prop where
  | type : Awaits ⟨1, 0, buffer, socketMessageTypeReads⟩ message (socketMessageSerialize message)
  | direction (declared : direction.Declared) : Awaits ⟨1, 0, buffer, socketMessageDirectionData⟩
      (.direction direction) [charOfEnum direction.value]
  | magicBytes (length : readBytes + missing.length = 4) :
      Awaits ⟨4, readBytes, buffer, socketMessageMagicBytesData⟩ magicBytes missing

variable {network next : Network ι κ} {k : ι} {message read : SocketMessage} {messages asked later : List SocketMessage}
  {part stream chunk : List UInt8} {call : SocketRead}

/-- The magic bytes may be read as others, when they come in pieces. -/
def AwaitsAt (message : SocketMessage) (part : List UInt8) : SocketReader ι → Prop
  | .reading call | .blocked _ call => Awaits call message part
  | .returned (some read) => part = [] ∧ (read = message ∨ message = magicBytes)
  | .returned none => True

theorem awaits_length (awaits : Awaits call message part) (known : message = magicBytes ∨ Named message) :
    call.length - call.readBytes ≤ part.length := by
  cases awaits with
  | type =>
    rcases known with rfl | named
    · exact Nat.le_add_left 1 4
    · cases message with
      | direction | pause | unpause | respawn | disconnect => exact Nat.le_add_left 1 _
      | _ => exact named.elim
  | direction => exact Nat.le_refl 1
  | magicBytes length => dsimp only; omega

/-- The first byte of a message decides what is read next. -/
theorem type_awaits (memory : Nat → UInt8) (known : message = magicBytes ∨ Named message) (first : UInt8)
    (left : List UInt8) (starts : socketMessageSerialize message = first :: left) (more : List UInt8) :
    AwaitsAt message left (.begin memory (socketMessageTypeReads (first :: more)) : SocketReader ι) := by
  rcases known with rfl | named
  · cases starts
    exact Awaits.magicBytes rfl
  · cases message with
    | direction direction =>
      cases starts
      exact Awaits.direction named
    | pause | unpause | respawn | disconnect =>
      cases starts
      exact ⟨rfl, Or.inl rfl⟩
    | _ => exact named.elim

/-- `read` returns with some of what is left of the message. -/
theorem receive_awaits (memory : Nat → UInt8) (awaits : Awaits call message part)
    (known : message = magicBytes ∨ Named message) (comes : chunk <+: part ++ stream)
    (short : chunk.length ≤ call.length - call.readBytes) :
    ∃ left, part = chunk ++ left ∧ AwaitsAt message left (call.receive memory chunk : SocketReader ι) := by
  obtain ⟨left, rfl⟩ : chunk <+: part :=
    List.prefix_of_prefix_length_le comes (List.prefix_append part stream)
      (Nat.le_trans short (awaits_length awaits known))
  refine ⟨left, rfl, ?_⟩
  generalize whole : chunk ++ left = part at awaits
  cases awaits with
  | type =>
    cases chunk with
    | nil =>
      rw [List.nil_append] at whole
      rw [whole]
      exact Awaits.type
    | cons byte chunk =>
      obtain rfl : chunk = [] := List.length_eq_zero_iff.mp (by simpa using short)
      exact type_awaits memory known byte left whole.symm _
  | direction declared =>
    cases chunk with
    | nil =>
      rw [List.nil_append] at whole
      rw [whole]
      exact Awaits.direction declared
    | cons byte chunk =>
      obtain rfl : chunk = [] := List.length_eq_zero_iff.mp (by simpa using short)
      cases whole
      refine ⟨rfl, Or.inl ?_⟩
      exact congrArg SocketMessage.direction (direction_char declared)
  | @magicBytes readBytes missing buffer length =>
    rw [← whole, List.length_append] at length
    unfold SocketRead.receive
    dsimp only
    split
    · exact Awaits.magicBytes (by omega)
    · exact ⟨List.length_eq_zero_iff.mp (by omega), Or.inr rfl⟩

/-! ## All that is on its way -/

/-- `read` is called, or about to be called, for the type of the next message. -/
def Between : SocketReader ι → Prop
  | .reading call | .blocked _ call => ∃ buffer, call = ⟨1, 0, buffer, socketMessageTypeReads⟩
  | .returned _ => False

/-- The reader and the stream have these messages left, the first of them perhaps read in
part. -/
def Brings (later : List SocketMessage) (stream : List UInt8) (reader : SocketReader ι) : Prop :=
  Between reader ∧ stream = later.flatMap socketMessageSerialize ∨
    (∃ message rest part, later = message :: rest ∧ stream = part ++ rest.flatMap socketMessageSerialize ∧
      AwaitsAt message part reader) ∨
    reader = .returned none

theorem brings_call (brings : Brings later stream (.reading call : SocketReader ι)) (source : ι) :
    Brings later stream (.blocked source call : SocketReader ι) := by
  rcases brings with between | within | failed
  · exact Or.inl between
  · exact Or.inr (Or.inl within)
  · cases failed

theorem brings_receive {rest : List UInt8} {source : ι} (memory : Nat → UInt8)
    (known : ∀ message ∈ later, Named message) (brings : Brings later stream (.blocked source call))
    (comes : stream = chunk ++ rest) (short : chunk.length ≤ call.length - call.readBytes) :
    Brings later rest (call.receive memory chunk : SocketReader ι) := by
  have within : ∀ message more part, later = message :: more → stream = part ++ more.flatMap socketMessageSerialize →
      Awaits call message part → Brings later rest (call.receive memory chunk : SocketReader ι) := by
    rintro message more part rfl split awaits
    have leading : chunk <+: part ++ more.flatMap socketMessageSerialize := ⟨rest, by rw [← comes, split]⟩
    obtain ⟨left, rfl, awaited⟩ :=
      receive_awaits memory awaits (Or.inr (known message List.mem_cons_self)) leading short
    refine Or.inr (Or.inl ⟨message, more, left, rfl, ?_, awaited⟩)
    rw [split, List.append_assoc] at comes
    exact (List.append_cancel_left comes).symm
  rcases brings with ⟨⟨buffer, rfl⟩, whole⟩ | ⟨message, more, part, same, split, awaits⟩ | failed
  · cases later with
    | nil =>
      -- Nothing has been written that has not been read.
      rw [whole] at comes
      obtain ⟨rfl, rfl⟩ := List.append_eq_nil_iff.mp comes.symm
      exact Or.inl ⟨⟨_, rfl⟩, rfl⟩
    | cons message more => exact within message more _ rfl whole .type
  · exact within message more part same split awaits
  · cases failed

theorem brings_append {reader : SocketReader ι} (brings : Brings later stream reader) (message : SocketMessage) :
    Brings (later ++ [message]) (stream ++ socketMessageSerialize message) reader := by
  rcases brings with ⟨between, whole⟩ | ⟨first, rest, part, same, split, awaits⟩ | failed
  · refine Or.inl ⟨between, ?_⟩
    rw [whole, List.flatMap_append, List.flatMap_singleton]
  · refine Or.inr (Or.inl ⟨first, rest ++ [message], part, ?_, ?_, awaits⟩)
    · rw [same, List.cons_append]
    · rw [split, List.flatMap_append, List.flatMap_singleton, List.append_assoc]
  · exact Or.inr (Or.inr failed)

/-- Without bytes there are no messages. -/
theorem named_read (known : ∀ message ∈ later, Named message) (empty : later.flatMap socketMessageSerialize = []) :
    later = [] := by
  cases later with
  | nil => rfl
  | cons message rest =>
    rw [List.flatMap_cons] at empty
    have first := awaits_length (@Awaits.type [] message) (Or.inr (known message List.mem_cons_self))
    rw [(List.append_eq_nil_iff.mp empty).1] at first
    exact absurd first (Nat.not_succ_le_zero 0)

/-- The message that the receive thread is busy with. -/
def pending : ReceiveStage ι → List SocketMessage
  | .handling message => [message]
  | .calling call => [callMessage call]
  | _ => []

/-- The message that the thread's next step answers. -/
def asks : ReceiveStage ι → List SocketMessage
  | .calling call => [callMessage call]
  | _ => []

theorem handle_asks {record : ClientConnection} {slotCall : SlotCall}
    (called : clientConnectionHandle record message = (.calling slotCall : ReceiveStage ι)) :
    callMessage slotCall = message := by
  unfold clientConnectionHandle at called
  cases message with
  | direction | pause | unpause | respawn =>
    dsimp only at called
    split at called
    · cases called
      rfl
    · cases called
  | _ => cases called

/-- A message is for the player manager, or the last one. -/
theorem handle_goes (record : ClientConnection) (message : SocketMessage) :
    (∃ slotCall, clientConnectionHandle record message = (.calling slotCall : ReceiveStage ι)) ∨
      clientConnectionHandle record message = (.disconnecting : ReceiveStage ι) ∨
        clientConnectionHandle record message = (.complaining : ReceiveStage ι) := by
  unfold clientConnectionHandle
  cases message with
  | direction | pause | unpause | respawn =>
    dsimp only
    split
    · exact Or.inl ⟨_, rfl⟩
    · exact Or.inr (Or.inr rfl)
  | disconnect => exact Or.inr (Or.inl rfl)
  | _ => exact Or.inr (Or.inr rfl)

def BringsThread (k : ι) (later : List SocketMessage) (stream : List UInt8) : ReceiveStage ι → Prop
  | .testing | .handling _ | .calling _ => stream = later.flatMap socketMessageSerialize
  | .reading reader => Brings later stream reader ∧ ∀ source call, reader = .blocked source call → source = k
  | _ => True

theorem bringsThread_append {stage : ReceiveStage ι} (brings : BringsThread k later stream stage)
    (message : SocketMessage) :
    BringsThread k (later ++ [message]) (stream ++ socketMessageSerialize message) stage := by
  cases stage with
  | testing | handling | calling =>
    change _ = _
    rw [show stream = later.flatMap socketMessageSerialize from brings, List.flatMap_append, List.flatMap_singleton]
  | reading reader => exact ⟨brings_append brings.1 message, brings.2⟩
  | _ => trivial

/-- The messages after the magic bytes are asked for, in hand, or on their way to
connection `k`, in the order in which they were written. -/
structure Relays (k : ι) (messages asked : List SocketMessage) (stream : List UInt8) (network : Network ι κ) : Prop where
  known : ∀ message ∈ messages, Named message
  sources : ∀ other number source call, network.handler = .verifying other number (.blocked source call) →
    source = other
  awaited : network.sends k = .absent → (∀ number reader, network.handler ≠ .verifying k number reader) →
    stream = socketMessageSerialize magicBytes ++ messages.flatMap socketMessageSerialize
  checked : ∀ number reader, network.handler = .verifying k number reader →
    ∃ part, stream = part ++ messages.flatMap socketMessageSerialize ∧ AwaitsAt magicBytes part reader
  silent : network.receives k = .absent → asked = []
  relayed : network.sends k ≠ .turnedAway → ∃ later, messages = asked ++ pending (network.receives k) ++ later ∧
    (¬ Closed (network.sends k) → BringsThread k later stream (network.receives k))

theorem relays_append (relays : Relays k messages asked stream network) (named : Named message) :
    Relays k (messages ++ [message]) asked (stream ++ socketMessageSerialize message) network where
  known := by
    intro other member
    rcases List.mem_append.mp member with earlier | last
    · exact relays.known other earlier
    · rw [List.mem_singleton.mp last]
      exact named
  sources := relays.sources
  awaited := by
    intro absent unverified
    rw [relays.awaited absent unverified, List.flatMap_append, List.flatMap_singleton, List.append_assoc]
  checked := by
    intro number reader handler
    obtain ⟨part, split, awaits⟩ := relays.checked number reader handler
    refine ⟨part, ?_, awaits⟩
    rw [split, List.flatMap_append, List.flatMap_singleton, List.append_assoc]
  silent := relays.silent
  relayed := by
    intro served
    obtain ⟨later, order, brings⟩ := relays.relayed served
    refine ⟨later ++ [message], ?_, fun opened => bringsThread_append (brings opened) message⟩
    rw [order, List.append_assoc]

/-- What has not been asked for any more stays unread. -/
private theorem gives_up {stage : ReceiveStage ι} (relays : Relays k messages asked stream network)
    (nothing : pending stage = []) (brings : ∀ later, BringsThread k later stream stage)
    (served : network.sends k ≠ .turnedAway) : ∃ later, messages = asked ++ pending stage ++ later ∧
      (¬ Closed (network.sends k) → BringsThread k later stream stage) := by
  obtain ⟨later, order, -⟩ := relays.relayed served
  refine ⟨pending (network.receives k) ++ later, ?_, fun _ => brings _⟩
  rw [nothing, List.append_nil, ← List.append_assoc]
  exact order

/-! ## Steps of the other threads -/

/-- Only the send thread may have moved. -/
theorem turn_relays (relays : Relays k messages asked stream network) (turn : Turn (place network k) (place next k))
    (handler : next.handler = network.handler) (receives : next.receives k = network.receives k) :
    Relays k messages asked stream next := by
  obtain ⟨absent, closed, -⟩ : (next.sends k = .absent → network.sends k = .absent) ∧
      (Closed (network.sends k) → next.sends k = network.sends k) ∧ _ := turn_follows turn
  refine ⟨relays.known, ?_, fun now unverified => ?_, ?_, ?_, fun served => ?_⟩
  · rw [handler]
    exact relays.sources
  · rw [handler] at unverified
    exact relays.awaited (absent now) unverified
  · rw [handler]
    exact relays.checked
  · rw [receives]
    exact relays.silent
  · have before : network.sends k ≠ .turnedAway := by
      intro away
      have still := closed (by rw [away]; trivial)
      exact served (still.trans away)
    obtain ⟨later, order, brings⟩ := relays.relayed before
    rw [receives]
    refine ⟨later, order, fun opened => brings fun ended => opened ?_⟩
    rwa [closed ended]

/-! ## The handler -/

section
variable {other : ι} {number : Nat} {ahead : List UInt8}

/-- The handler goes on reading from the connection it checks. -/
private theorem verifying_relays {rest : List UInt8} {before later : SocketReader ι} (plugged : Plugged network)
    (relays : Relays k messages asked stream network) (handler : network.handler = .verifying other number before)
    (inbound : ι → List UInt8) (elsewhere : k ≠ other → rest = stream)
    (checks : k = other → ∃ part, rest = part ++ messages.flatMap socketMessageSerialize ∧ AwaitsAt magicBytes part later)
    (sources : ∀ source call, later = .blocked source call → source = other) :
    Relays k messages asked rest { network with inbound, handler := .verifying other number later } := by
  by_cases here : k = other
  · subst here
    have unstarted : network.receives k = .absent := verifying_absent plugged handler
    refine ⟨relays.known, fun _ _ _ _ same => ?_, fun _ unverified => absurd rfl (unverified number later),
      fun _ _ same => ?_, relays.silent, fun served => ?_⟩
    · cases same
      exact sources _ _ rfl
    · cases same
      exact checks rfl
    · obtain ⟨later, order, -⟩ := relays.relayed served
      refine ⟨later, order, fun _ => ?_⟩
      simp only [unstarted]
      trivial
  · rw [elsewhere here]
    have others : ∀ number reader, network.handler ≠ .verifying k number reader := by
      intro _ _ same
      rw [handler] at same
      cases same
      exact here rfl
    refine ⟨relays.known, fun _ _ _ _ same => ?_, fun absent _ => relays.awaited absent others, fun _ _ same => ?_,
      relays.silent, relays.relayed⟩
    · cases same
      exact sources _ _ rfl
    · cases same
      exact absurd rfl here

/-- The handler is through with another connection. -/
private theorem aside_relays (relays : Relays k messages asked stream network)
    (unverified : ∀ number reader, network.handler ≠ .verifying k number reader)
    (idle : next.handler = .accepting ∨ next.handler = .stopped) (sends : next.sends k = network.sends k)
    (receives : next.receives k = network.receives k) : Relays k messages asked stream next := by
  have nobody : ∀ other number reader, next.handler ≠ .verifying other number reader := by
    intro other number reader same
    rw [same] at idle
    rcases idle with idle | idle <;> cases idle
  refine ⟨relays.known, fun _ _ _ _ same => absurd same (nobody _ _ _), fun absent _ => ?_,
    fun _ _ same => absurd same (nobody _ _ _), ?_, ?_⟩
  · exact relays.awaited (sends ▸ absent) unverified
  · rw [receives]
    exact relays.silent
  · rw [sends, receives]
    exact relays.relayed

theorem accept_relays (relays : Relays k messages asked stream network) :
    Relays k messages asked stream (network.accept other number) := by
  unfold Network.accept
  split
  case h_1 accepting absent free =>
    have unverified : ∀ number reader, network.handler ≠ .verifying k number reader := by
      intro number reader same
      rw [accepting] at same
      cases same
    refine ⟨relays.known, fun _ _ _ _ same => ?_, fun absent _ => relays.awaited absent unverified, fun _ _ same => ?_,
      relays.silent, relays.relayed⟩
    · cases same
    · cases same
      exact ⟨_, relays.awaited absent unverified, Awaits.type⟩
  case h_2 => exact relays

section
variable [DecidableEq ι]

private theorem verified_relays {checked : Option SocketMessage} (plugged : Plugged network)
    (relays : Relays k messages asked stream network)
    (handler : network.handler = .verifying other number (.returned checked)) :
    Relays k messages asked stream (network.verified other number checked) := by
  unfold Network.verified
  by_cases here : k = other
  · subst here
    have unstarted : network.receives k = .absent := verifying_absent plugged handler
    have absent : network.sends k = .absent := (plugged.verifying k number _ handler).2
    have nothing := relays.silent unstarted
    split
    case isTrue passed =>
      subst passed
      obtain ⟨part, split, rfl, -⟩ := relays.checked number _ handler
      refine ⟨relays.known, fun _ _ _ _ same => ?_, fun absent => ?_, fun _ _ same => ?_, fun _ => nothing,
        fun _ => ⟨messages, ?_, fun _ => ?_⟩⟩
      · cases same
      · simp [Network.withReceive, Network.withSend] at absent
      · cases same
      · simp [Network.withReceive, pending, nothing]
      · simpa [Network.withReceive, BringsThread] using split
    case isFalse =>
      refine ⟨relays.known, fun _ _ _ _ same => ?_, fun absent => ?_, fun _ _ same => ?_, fun _ => nothing,
        fun _ => ⟨messages, ?_, fun _ => ?_⟩⟩
      · cases same
      · simp [Network.withSend] at absent
      · cases same
      · simp [Network.withSend, Network.close, unstarted, pending, nothing]
      · simp [Network.withSend, Network.close, unstarted, BringsThread]
  · have others : ∀ number reader, network.handler ≠ .verifying k number reader := by
      intro _ _ same
      rw [handler] at same
      cases same
      exact here rfl
    split
    · refine aside_relays relays others (Or.inl rfl) ?_ ?_
      · exact Function.update_of_ne here _ _
      · exact Function.update_of_ne here _ _
    · exact aside_relays relays others (Or.inl rfl) (Function.update_of_ne here _ _) rfl

theorem verify_relays (plugged : Plugged network) (relays : Relays k messages asked (network.inbound k ++ ahead) network)
    (outcome : ReadOutcome) :
    Relays k messages asked ((network.verify outcome).inbound k ++ ahead) (network.verify outcome) := by
  have checks := verify_checks plugged relays.sources outcome
  generalize network.verify outcome = next at checks
  cases checks with
  | waits => exact relays
  | @calls source number call handler =>
    refine verifying_relays plugged relays handler _ (fun _ => rfl) (fun here => ?_) fun _ _ same => ?_
    · subst here
      exact relays.checked number (.reading call) handler
    · cases same
      rfl
  | @fails source number call handler =>
    refine verifying_relays plugged relays handler _ (fun _ => rfl) (fun here => ?_) nofun
    subst here
    obtain ⟨part, split, -⟩ := relays.checked number _ handler
    exact ⟨part, split, trivial⟩
  | @takes source number call chunk handler short whole =>
    refine verifying_relays plugged relays handler _ (fun away => ?_) (fun here => ?_) fun _ _ same => ?_
    · simp only [Network.take, Function.update_of_ne away]
    · subst here
      obtain ⟨part, split, awaits⟩ := relays.checked number _ handler
      rw [whole, List.append_assoc] at split
      obtain ⟨left, rfl, awaited⟩ :=
        receive_awaits network.memory awaits (Or.inl rfl) ⟨_, split⟩ short
      rw [List.append_assoc] at split
      exact ⟨left, List.append_cancel_left split, awaited⟩
    · exact absurd same (receive_unblocked _ _ _ _ _)
  | decides handler =>
    rw [verified_inbound]
    exact verified_relays plugged relays handler

/-! ## The receive thread -/

private theorem withReceive_relays {stage : ReceiveStage ι} {rest : List UInt8} {after : List SocketMessage}
    (plugged : Plugged network) (relays : Relays k messages asked stream network) (started : network.sends k ≠ .absent)
    (running : stage ≠ .absent)
    (relayed : network.sends k ≠ .turnedAway → ∃ later, messages = after ++ pending stage ++ later ∧
      (¬ Closed (network.sends k) → BringsThread k later rest stage)) :
    Relays k messages after rest (network.withReceive k stage) where
  known := relays.known
  sources := relays.sources
  awaited := fun absent => absurd absent started
  checked := fun number reader handler => absurd (plugged.verifying k number reader handler).2 started
  silent := by
    simp only [Network.withReceive, Function.update_self]
    exact fun absent => absurd absent running
  relayed := by
    simp only [Network.withReceive, Function.update_self]
    exact relayed

/-- A step of `socket_message_deserialize_from_socket`, or of the test after it. -/
theorem read_relays {outcome : ReadOutcome} {reader : SocketReader ι} (steady : Steady network)
    (relays : Relays k messages asked (network.inbound k ++ ahead) network) (running : network.sends k ≠ .absent)
    (stage : network.receives k = .reading reader) :
    Relays k messages asked ((network.read k outcome reader).inbound k ++ ahead) (network.read k outcome reader) := by
  have before := relays.relayed
  rw [stage] at before
  cases reader with
  | reading call =>
    refine withReceive_relays steady.plugged relays running (by simp) fun served => ?_
    obtain ⟨later, order, brings⟩ := before served
    refine ⟨later, order, fun opened => ?_⟩
    have connected := (steady.plugged.begun k (by simp [stage])).resolve_right opened
    rw [steady.plugged.opened k connected]
    refine ⟨brings_call (brings opened).1 k, fun source call same => ?_⟩
    cases same
    rfl
  | blocked source call =>
    cases outcome with
    | failed =>
      refine withReceive_relays steady.plugged relays running (by simp) fun served => ?_
      refine gives_up relays rfl (fun later => ⟨Or.inr (Or.inr rfl), fun _ _ same => ?_⟩) served
      cases same
    | bytes extra =>
      simp only [Network.read]
      split
      · exact relays
      case h_2 chunk arrived =>
        obtain ⟨short, whole⟩ := chunk_taken arrived
        have taken : Relays k messages asked (network.inbound k ++ ahead) (network.take source chunk) :=
          ⟨relays.known, relays.sources, relays.awaited, relays.checked, relays.silent, relays.relayed⟩
        have plugged : Plugged (network.take source chunk) :=
          ⟨steady.plugged.opened, steady.plugged.begun, steady.plugged.verifying⟩
        have later : Relays k messages asked ((network.take source chunk).inbound k ++ ahead)
            ((network.take source chunk).withReceive k (.reading (call.receive network.memory chunk))) := by
          refine withReceive_relays plugged taken running (by simp) fun served => ?_
          obtain ⟨later, order, brings⟩ := before served
          refine ⟨later, order, fun opened => ?_⟩
          obtain ⟨unread, own⟩ := brings opened
          obtain rfl : source = k := own source call rfl
          have known : ∀ message ∈ later, Named message := fun message member =>
            relays.known message (order ▸ List.mem_append_right _ member)
          refine ⟨brings_receive network.memory known unread ?_ short, fun _ _ same => ?_⟩
          · rw [whole, List.append_assoc]
          · exact absurd same (receive_unblocked _ _ _ _ _)
        exact ⟨later.known, later.sources, later.awaited, later.checked, later.silent, later.relayed⟩
  | returned message =>
    cases message with
    | none =>
      exact withReceive_relays steady.plugged relays running (by simp) (gives_up relays rfl fun _ => trivial)
    | some message =>
      simp only [Network.read]
      by_cases closed : (network.records k).shutdown = true
      · rw [if_pos closed]
        exact withReceive_relays steady.plugged relays running (by simp) (gives_up relays rfl fun _ => trivial)
      · rw [if_neg closed]
        refine withReceive_relays steady.plugged relays running (by simp) fun served => ?_
        obtain ⟨later, order, brings⟩ := before served
        -- The thread of a connection that has ended is shut down.
        have opened : ¬ Closed (network.sends k) := by
          intro ended
          have unfinished : ¬ Finished (network.sends k) := fun finished =>
            closed ((steady.attached k).finished finished)
          cases send : network.sends k with
          | turnedAway => exact served send
          | ended =>
            rw [send] at unfinished
            exact unfinished trivial
          | _ =>
            rw [send] at ended
            exact ended
        obtain ⟨⟨between, -⟩ | ⟨first, rest, part, rfl, split, rfl, same⟩ | failed, -⟩ := brings opened
        · exact between.elim
        · have known := relays.known first (order ▸ List.mem_append_right _ List.mem_cons_self)
          obtain rfl : message = first := same.resolve_right fun magic => by
            rw [magic] at known
            exact known
          exact ⟨rest, by simpa [pending] using order, fun _ => split⟩
        · cases failed

theorem receive_relays {outcome : ReadOutcome} (steady : Steady network)
    (relays : Relays k messages asked (network.inbound k ++ ahead) network) :
    Relays k messages (asked ++ asks (network.receives k)) ((network.receive k outcome).inbound k ++ ahead)
      (network.receive k outcome) := by
  have started : network.receives k ≠ .absent → network.sends k ≠ .absent := by
    intro running absent
    have begun := steady.plugged.begun k running
    rw [absent] at begun
    exact begun.elim id id
  have before := relays.relayed
  unfold Network.receive
  cases stage : network.receives k with
  | absent | ended => simpa [asks] using relays
  | testing =>
    rw [stage] at before
    dsimp only
    have nothing : asked ++ asks (.testing : ReceiveStage ι) = asked := List.append_nil asked
    rw [nothing]
    by_cases closed : (network.records k).shutdown = true
    · rw [if_pos closed]
      exact withReceive_relays steady.plugged relays (started (by simp [stage])) (by simp)
        (gives_up relays rfl fun _ => trivial)
    · rw [if_neg closed]
      refine withReceive_relays steady.plugged relays (started (by simp [stage])) (by simp) fun served => ?_
      obtain ⟨later, order, brings⟩ := before served
      refine ⟨later, order, fun opened => ⟨Or.inl ⟨⟨_, rfl⟩, brings opened⟩, fun _ _ same => ?_⟩⟩
      cases same
  | handling message =>
    rw [stage] at before
    dsimp only
    have nothing : asked ++ asks (.handling message : ReceiveStage ι) = asked := List.append_nil asked
    rw [nothing]
    rcases handle_goes (network.records k) message with ⟨slotCall, handled⟩ | handled | handled
    · rw [handled]
      refine withReceive_relays steady.plugged relays (started (by simp [stage])) (by simp) fun served => ?_
      obtain ⟨later, order, brings⟩ := before served
      refine ⟨later, ?_, brings⟩
      rw [pending, handle_asks handled]
      exact order
    · rw [handled]
      exact withReceive_relays steady.plugged relays (started (by simp [stage])) (by simp)
        (gives_up relays rfl fun _ => trivial)
    · rw [handled]
      exact withReceive_relays steady.plugged relays (started (by simp [stage])) (by simp)
        (gives_up relays rfl fun _ => trivial)
  | calling slotCall =>
    rw [stage] at before
    have called : ∀ room : Room (ι ⊕ κ), Relays k messages asked (network.inbound k ++ ahead) { network with room } :=
      fun _ => ⟨relays.known, relays.sources, relays.awaited, relays.checked, relays.silent, relays.relayed⟩
    have plugged : ∀ room : Room (ι ⊕ κ), Plugged { network with room } := fun _ =>
      ⟨steady.plugged.opened, steady.plugged.begun, steady.plugged.verifying⟩
    refine withReceive_relays (plugged _) (called _) (started (by simp [stage])) (by simp) fun served => ?_
    obtain ⟨later, order, brings⟩ := before served
    exact ⟨later, by simpa [pending, asks] using order, brings⟩
  | disconnecting | complaining =>
    dsimp only
    have shut : Relays k messages asked (network.inbound k ++ ahead) (network.shutdown k) :=
      turn_relays relays (shutdown_turn network k k) rfl rfl
    simp only [asks, List.append_nil]
    exact withReceive_relays (quiet_plugged (shutdown_quiet network k) steady.plugged) shut (started (by simp [stage]))
      (by simp) (gives_up shut rfl fun _ => trivial)
  | reading reader =>
    simp only [asks, List.append_nil]
    exact read_relays steady relays (started (by simp [stage])) stage

/-! ## Every step of the network -/

variable [DecidableEq κ]

theorem step_relays {client : SocketClientThreads} (steady : Steady network)
    (relays : Relays k messages asked (network.inbound k ++ ahead) network) (step : NetworkStep ι κ)
    (foreign : step.peer ≠ some k) (undisturbed : Undisturbed k { network, client } (.server step))
    (ran : network.step step = .ok next) :
    Relays k messages (asked ++ (events k { network, client } (.server step)).filterMap Event.asked)
      (next.inbound k ++ ahead) next := by
  have turn := step_turn steady.plugged step ran k
  cases step with
  | receive connection outcome =>
    cases ran
    by_cases here : connection = k
    · subst here
      have answers : (events connection { network, client } (.server (.receive connection outcome))).filterMap
          Event.asked = asks (network.receives connection) := by
        simp only [events, if_true]
        cases network.receives connection <;> rfl
      rw [answers]
      exact receive_relays steady relays
    · rw [receive_elsewhere (undisturbed here) outcome]
      simp only [events, if_neg here, List.filterMap_nil, List.append_nil]
      exact turn_relays relays turn (receive_leaves network connection outcome).2
        (receive_receives (Ne.symm here) network outcome)
  | room step =>
    obtain ⟨room, -, built⟩ := bind_ok.mp ran
    cases built
    simp only [events, List.filterMap_nil, List.append_nil]
    exact turn_relays relays turn rfl rfl
  | endGame | hangUp =>
    cases ran
    simp only [events, List.filterMap_nil, List.append_nil]
    exact turn_relays relays turn rfl rfl
  | arrive connection bytes =>
    have away : k ≠ connection := fun same => foreign (by rw [same]; rfl)
    cases ran
    simp only [events, List.filterMap_nil, List.append_nil, Function.update_of_ne away]
    exact turn_relays relays turn rfl rfl
  | accept connection number =>
    cases ran
    have same : (network.accept connection number).inbound = network.inbound := by
      unfold Network.accept
      split <;> rfl
    rw [same]
    simp only [events, List.filterMap_nil, List.append_nil]
    exact accept_relays relays
  | verify outcome =>
    cases ran
    simp only [events, List.filterMap_nil, List.append_nil]
    exact verify_relays steady.plugged relays outcome
  | stop =>
    cases ran
    simp only [events, List.filterMap_nil, List.append_nil]
    unfold Network.stop
    split
    case h_1 accepting =>
      refine aside_relays relays (fun number reader same => ?_) (Or.inr rfl) rfl rfl
      rw [accepting] at same
      cases same
    case h_2 => exact relays
  | destroy connection =>
    cases ran
    obtain ⟨inbound, handler, receives⟩ : (network.destroy connection).inbound = network.inbound ∧
        (network.destroy connection).handler = network.handler ∧
          (network.destroy connection).receives = network.receives := by
      unfold Network.destroy
      split <;> exact ⟨rfl, rfl, rfl⟩
    rw [inbound]
    simp only [events, List.filterMap_nil, List.append_nil]
    exact turn_relays relays turn handler (congrFun receives k)
  | send connection delivered =>
    cases ran
    obtain ⟨receives, inbound, handler⟩ := send_leaves network connection delivered
    rw [inbound]
    simp only [events, List.filterMap_nil, List.append_nil]
    exact turn_relays relays turn handler (congrFun receives k)

end
end

/-! ## The client -/

/-- What the input thread is about to write is read as it was written, and comes after
the magic bytes. -/
def Presses (client : SocketClientThreads) : Prop :=
  ∀ message, client.pressed = some message → Named message ∧ ahead client = []

/-- What is written between two states of the bytes that come before any other. -/
inductive Writes : List UInt8 → Option SocketMessage → List UInt8 → Prop where
  | nothing {before : List UInt8} : Writes before none before
  | opening : Writes (socketMessageSerialize magicBytes) (some magicBytes) []
  | message {pressed : SocketMessage} (named : Named pressed) : Writes [] (some pressed) []

theorem callbacks_named {key : Key} {lastDirection : Direction}
    (pressed : socketClientInputCallbacks key lastDirection = some message) : Named message := by
  rcases callbacks_send pressed with ⟨direction, declared, rfl⟩ | rfl | rfl | rfl
  · exact declared
  all_goals trivial

variable {client after : SocketClientThreads} {written : Option SocketMessage}

theorem proceed_writes {received : Option SocketMessage} {delivered : Bool} (presses : Presses client)
    (ran : client.proceed received delivered = some (after, written)) :
    Presses after ∧ Writes (ahead client) written (ahead after) := by
  have still : ∀ later : SocketClientThreads, later.pressed = client.pressed → ahead later = ahead client →
      Presses later ∧ Writes (ahead client) none (ahead later) := by
    intro later pressed same
    refine ⟨fun message now => ?_, same ▸ .nothing⟩
    rw [same]
    exact presses message (pressed ▸ now)
  unfold SocketClientThreads.proceed at ran
  cases stage : client.main with
  | connecting =>
    have first : ahead client = socketMessageSerialize magicBytes := by rw [ahead, stage]
    rw [stage] at ran
    dsimp only at ran
    split at ran
    · cases ran
      refine ⟨fun message pressed => ⟨(presses message pressed).1, rfl⟩, ?_⟩
      rw [first]
      exact .opening
    · cases ran
      exact still _ rfl first.symm
  | leaving =>
    have begun : ahead client = [] := by rw [ahead, stage]
    rw [stage] at ran
    cases ran
    split
    · refine ⟨fun message pressed => ⟨(presses message pressed).1, rfl⟩, ?_⟩
      rw [begun]
      exact .message trivial
    · exact still _ rfl begun.symm
  | testing =>
    rw [stage] at ran
    dsimp only at ran
    split at ran
    all_goals
      cases ran
      exact still _ rfl (by rw [ahead, ahead, stage])
  | receiving =>
    rw [stage] at ran
    dsimp only at ran
    cases received with
    | none =>
      cases ran
      exact still _ rfl (by rw [ahead, ahead, stage])
    | some message =>
      obtain ⟨processed, -, same⟩ := Option.bind_eq_some_iff.mp ran
      cases same
      exact still _ rfl (by rw [ahead, ahead, stage])
  | stopping =>
    rw [stage] at ran
    dsimp only at ran
    cases ran
    split
    · exact still _ rfl (by rw [ahead, ahead, stage])
    · exact still _ rfl rfl
  | failed | closed =>
    rw [stage] at ran
    cases ran
    exact still _ rfl rfl

/-- The two threads write the magic bytes first and one message at a time after that. -/
theorem step_writes {step : SocketClientStep} (presses : Presses client)
    (ran : client.step step = some (after, written)) : Presses after ∧ Writes (ahead client) written (ahead after) := by
  have polls : client.polling = true → ahead client = [] := by
    intro polling
    unfold SocketClientThreads.polling at polling
    unfold ahead
    split at polling
    · cases polling
    · cases polling
    · cases polling
    all_goals simp [*]
  cases step with
  | proceed received delivered => exact proceed_writes presses ran
  | press key =>
    cases ran
    unfold SocketClientThreads.press
    split
    case isTrue polling => exact ⟨fun message pressed => ⟨callbacks_named pressed, polls polling⟩, .nothing⟩
    case isFalse => exact ⟨presses, .nothing⟩
  | exitPress =>
    cases ran
    unfold SocketClientThreads.exitPress
    split
    · exact ⟨presses, .nothing⟩
    · exact ⟨presses, .nothing⟩
  | write delivered =>
    cases ran
    refine ⟨nofun, ?_⟩
    change Writes (ahead client) (if delivered = true then client.pressed else none) (ahead client)
    split
    · cases pressed : client.pressed with
      | none => exact .nothing
      | some message =>
        obtain ⟨named, begun⟩ := presses message pressed
        rw [begun]
        exact .message named
    · exact .nothing

/-! ## Whole runs -/

/-- The first message written is the magic bytes; `before` comes before any other. -/
def Opens (before : List UInt8) (messages : List SocketMessage) : Prop :=
  messages = [] ∧ before = socketMessageSerialize magicBytes ∨
    (∃ later, messages = magicBytes :: later) ∧ before = []

/-- What the client writes is added to the stream. -/
theorem writes_relays {inbound before behind : List UInt8} (opens : Opens before messages)
    (relays : Relays k messages.tail asked (inbound ++ before) network) (writes : Writes before written behind) :
    Opens behind (messages ++ written.toList) ∧ Relays k (messages ++ written.toList).tail asked
      (inbound ++ ((written.map socketMessageSerialize).getD [] ++ behind)) network := by
  cases writes with
  | nothing =>
    rw [Option.toList_none, List.append_nil]
    exact ⟨opens, relays⟩
  | opening =>
    rcases opens with ⟨rfl, -⟩ | ⟨-, begun⟩
    · exact ⟨Or.inr ⟨⟨[], rfl⟩, rfl⟩, relays⟩
    · cases begun
  | @message pressed named =>
    rcases opens with ⟨-, first⟩ | ⟨⟨later, rfl⟩, -⟩
    · cases first
    · refine ⟨Or.inr ⟨⟨later ++ [pressed], rfl⟩, rfl⟩, ?_⟩
      rw [List.append_nil] at relays
      simpa using relays_append relays named

structure Relaying (k : ι) (said : List Event) (session : Session ι κ) : Prop where
  steady : Steady session.network
  presses : Presses session.client
  opens : Opens (ahead session.client) (said.filterMap Event.written)
  relays : Relays k (said.filterMap Event.written).tail (said.filterMap Event.asked)
    (session.network.inbound k ++ ahead session.client) session.network

theorem start_relaying (map : Map) (directions : Nat → Direction) (cache : PlayerDataCache) (template : MapTemplate)
    (records : ι → ClientConnection) (memory : Nat → UInt8) (tiles : Coordinates → MapTile) (k : ι) :
    Relaying k [] (Session.start (Room.start map directions cache template) records memory tiles : Session ι κ) where
  steady := Connections.start_steady map directions cache template records memory
  presses := fun _ pressed => by cases pressed
  opens := Or.inl ⟨rfl, rfl⟩
  relays :=
    { known := List.forall_mem_nil _
      sources := fun _ _ _ _ handler => by cases handler
      awaited := fun _ _ => rfl
      checked := fun _ _ handler => by cases handler
      silent := fun _ => rfl
      relayed := fun _ => ⟨[], rfl, fun _ => trivial⟩ }

section
variable [DecidableEq ι] {said : List Event} {session : Session ι κ}

theorem client_relaying {step : SocketClientStep} (relaying : Relaying k said session)
    (ran : session.client.step step = some (client, written)) : Relaying k (said ++ events k session (.client step))
      { network := session.network.hear k written client.hangsUp, client } := by
  obtain ⟨steady, presses, opens, relays⟩ := relaying
  obtain ⟨still, writes⟩ := step_writes presses ran
  have given : events k session (.client step) = (written.map Event.wrote).toList := by
    rw [events, ran]
    cases written <;> rfl
  have noted : (said ++ events k session (.client step)).filterMap Event.written =
      said.filterMap Event.written ++ written.toList := by
    rw [given, List.filterMap_append]
    cases written <;> rfl
  have same : (said ++ events k session (.client step)).filterMap Event.asked = said.filterMap Event.asked := by
    rw [given, List.filterMap_append]
    cases written <;> exact List.append_nil _
  have arrived : (session.network.hear k written client.hangsUp).inbound k ++ ahead client =
      session.network.inbound k ++ ((written.map socketMessageSerialize).getD [] ++ ahead client) := by
    simp [Network.hear]
  obtain ⟨opening, later⟩ := writes_relays opens relays writes
  refine ⟨hear_steady steady _ _, still, by rw [noted]; exact opening, ?_⟩
  rw [noted, same, arrived]
  exact ⟨later.known, later.sources, later.awaited, later.checked, later.silent, later.relayed⟩

variable [DecidableEq κ]

theorem server_relaying {step : NetworkStep ι κ} (relaying : Relaying k said session) (foreign : step.peer ≠ some k)
    (undisturbed : Undisturbed k session (.server step)) (ran : session.network.step step = .ok network) :
    Relaying k (said ++ events k session (.server step)) { session with network } := by
  obtain ⟨steady, presses, opens, relays⟩ := relaying
  have nothing : (events k session (.server step)).filterMap Event.written = [] := by
    unfold events
    cases step with
    | receive other outcome =>
      dsimp only
      split
      · split <;> rfl
      · rfl
    | _ => rfl
  have noted : (said ++ events k session (.server step)).filterMap Event.written = said.filterMap Event.written := by
    rw [List.filterMap_append, nothing, List.append_nil]
  refine ⟨step_steady step steady ran, presses, by rw [noted]; exact opens, ?_⟩
  rw [noted, List.filterMap_append]
  exact step_relays steady relays step foreign undisturbed ran

theorem step_relaying {after : Session ι κ} (relaying : Relaying k said session) (step : SessionStep ι κ)
    (undisturbed : Undisturbed k session step) (ran : session.step k step = .ok after) :
    Relaying k (said ++ events k session step) after := by
  cases step with
  | client step =>
    simp only [Session.step] at ran
    split at ran
    case h_1 client written stepped =>
      cases ran
      exact client_relaying relaying stepped
    case h_2 => cases ran
  | server step =>
    simp only [Session.step] at ran
    by_cases own : step.peer = some k
    · rw [if_pos own] at ran
      cases ran
      have silent : events k session (.server step) = [] := by
        cases step with
        | receive => cases own
        | _ => rfl
      rw [silent, List.append_nil]
      exact relaying
    · rw [if_neg own] at ran
      split at ran
      case h_1 network stepped =>
        cases ran
        exact server_relaying relaying own undisturbed stepped
      case h_2 => cases ran

/-- A session takes the steps of its own, as long as the array stays. -/
theorem stepArray_session {state later : Session ι κ × RecordArray ι} {step : SessionStep ι κ × Nat}
    (plugged : Plugged state.1.network) (placed : Placed state.1.network state.2)
    (stays : ∀ serverStep, step.1 = .server serverStep → Stays state.2 (serverStep, step.2))
    (ran : Session.stepArray k state step = .ok later) :
    state.1.step k step.1 = .ok later.1 ∧ Placed later.1.network later.2 := by
  obtain ⟨session, array⟩ := state
  obtain ⟨step, target⟩ := step
  cases step with
  | client step =>
    obtain ⟨after, stepped, built⟩ := bind_ok.mp ran
    cases built
    refine ⟨stepped, ?_⟩
    simp only [Session.step] at stepped
    split at stepped
    · cases stepped
      exact still_placed placed (still_started rfl) rfl
    · cases stepped
  | server step =>
    simp only [Session.stepArray] at ran
    by_cases own : step.peer = some k
    · rw [if_pos own] at ran
      cases ran
      exact ⟨if_pos own, placed⟩
    · rw [if_neg own] at ran
      obtain ⟨⟨network, moved⟩, stepped, built⟩ := bind_ok.mp ran
      cases built
      obtain ⟨own', kept⟩ := stepArray_step placed plugged (stays step rfl) stepped
      refine ⟨?_, kept⟩
      simp only [Session.step, if_neg own, own']

end

/-! ## A run -/

/-- The call that answers the key is made; `realloc` would return the block the array has. -/
def pausesAsked : List (SessionStep Unit Empty × Nat) :=
  (meets ++ registers ++ pauses).map (·, 0) ++ [(.server (.receive () .failed), 0)]

def apartArray : Session Unit Empty × RecordArray Unit :=
  (apart, .start (fun _ => none) 0 (fun _ => SharedRecords.unusedRecord) fun _ => 0)

/-- The one connection is disturbed by nobody, and its record stays in the first block. -/
private theorem alone {state : Session Unit Empty × RecordArray Unit} (step : SessionStep Unit Empty)
    (first : state.2.handler.connections = 0) : Unmoved () state (step, 0) := by
  cases step with
  | client step => exact ⟨trivial, nofun⟩
  | server step =>
    cases step with
    | receive other outcome =>
      refine ⟨fun away => absurd rfl away, fun serverStep same => ?_⟩
      cases same
      trivial
    | verify outcome =>
      refine ⟨trivial, fun serverStep same => ?_⟩
      cases same
      exact fun _ => first.symm
    | _ =>
      refine ⟨trivial, fun serverStep same => ?_⟩
      cases same
      trivial

private theorem pauses_unmoved : Guarded (Session.stepArray ()) (Unmoved ()) apartArray pausesAsked :=
  ⟨alone _ rfl, alone _ rfl, alone _ rfl, alone _ rfl, alone _ rfl, alone _ rfl, alone _ rfl, alone _ rfl, alone _ rfl,
    alone _ rfl, alone _ rfl, alone _ rfl, alone _ rfl, alone _ rfl, alone _ rfl, alone _ rfl, alone _ rfl, alone _ rfl,
    trivial⟩

end SnakePosix.KeyMessages
