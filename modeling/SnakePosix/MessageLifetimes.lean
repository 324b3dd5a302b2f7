import Mathlib.Data.Finset.Card
import SnakePosix.Client.SocketMemory
import SnakePosix.KeyMessages
import SnakePosix.SocketPieces

/-! Every message is destroyed once. Whatever bytes come, the two ends of a connection
follow no dangling pointer and give back all the memory that they take for messages,
except that a receive thread which is shut down behind a read leaves what it has read. -/
namespace SnakePosix.MessageLifetimes
open Allocations MessageMemory ReadPrograms SocketPieces KeyMessages

/-! ## Who owns what -/

/-- The data of the message is one block. -/
def HasData : SocketMessage → Prop
  | .magicBytes _ | .tileChange _ | .playerState .. | .direction _ => True
  | _ => False

def Simple : SocketMessage → Prop
  | .magicBytes _ | .map _ | .tileChange _ | .playerState .. | .direction _ => False
  | _ => True

variable {α ε : Type}

/-- The pointers of a message are those of its type, and the blocks behind them are owned. -/
inductive Owned : HeldMessage α → Multiset α → Prop where
  | simple (simple : Simple message) : Owned ⟨message, .none⟩ 0
  | data (one : HasData message) : Owned ⟨message, .data block⟩ {block}
  | map {data : SocketMessageMapData} : Owned ⟨.map data, .map block tiles⟩ (block ::ₘ {tiles})

/-- What the function returns is what the reads come to, with the memory behind it. -/
def Receives (decoded : Option (Option SocketMessage × ReadSide)) (received : Received α) (owned : Multiset α) : Prop :=
  match received with
  | none => (∃ after, decoded = some (none, after)) ∧ owned = 0
  | some (held, after) => decoded = some (some held.message, after) ∧ Owned held owned

variable [DecidableEq α] {allocator : Allocator α} {fails : ε → Prop} {held : HeldMessage α} {owned : Multiset α}
  {message : SocketMessage}

/-! ## The functions of `socket_message.c` -/

theorem initData_owns (allocator : Allocator α) (one : HasData message) :
    Owns 0 (initData allocator message) (fun held owned => Owned held owned) fails := by
  apply owns_malloc
  intro data
  apply owns_access (Multiset.mem_cons_self _ _)
  exact owns_pure (.data one)

theorem initMap_owns (allocator : Allocator α) (map : Map) :
    Owns 0 (MessageMemory.socketMessageInitMap allocator map) (fun held owned => Owned held owned) fails := by
  apply owns_malloc
  intro data
  apply owns_access (Multiset.mem_cons_self _ _)
  apply owns_malloc
  intro tiles
  refine owns_bind (owns_each _ fun _ _ => ?_) fun _ _ same => ?_
  · apply owns_access (Multiset.mem_cons_of_mem (Multiset.mem_cons_self _ _))
    exact owns_accessed (Multiset.mem_cons_self _ _)
  · rw [same]
    apply owns_pure
    rw [Multiset.cons_swap]
    exact .map

theorem accessTiles_owns {data : SocketMessageMapData} {block tiles : α} {more : Multiset α} (count : Nat)
    (block_mem : block ∈ more) (tiles_mem : tiles ∈ more) :
    Owns more (HeldMessage.accessTiles (⟨.map data, .map block tiles⟩ : HeldMessage α) count)
      (fun _ left => left = more) fails :=
  owns_each _ fun _ _ => owns_access block_mem (owns_accessed tiles_mem)

theorem calculateSize_owns (owns : Owned held owned) :
    Owns owned (MessageMemory.socketMessageCalculateDataBufferSize held) (fun _ left => left = owned) fails := by
  cases owns with
  | @simple message simple => cases message <;> first | exact owns_pure rfl | exact simple.elim
  | @data message block one => cases message <;> first | exact owns_pure rfl | exact one.elim
  | map => exact owns_accessed (Multiset.mem_cons_self _ _)

theorem serializeData_owns {more : Multiset α} (owns : Owned held owned) (within : owned ≤ more) :
    Owns more (socketMessageSerializeData held) (fun _ left => left = more) fails := by
  cases owns with
  | @simple message simple => cases message <;> first | exact owns_pure rfl | exact simple.elim
  | @data message block one =>
    have member : block ∈ more := Multiset.mem_of_le within (Multiset.mem_singleton_self _)
    cases message with
    | magicBytes | tileChange | playerState | direction => exact owns_accessed member
    | _ => exact one.elim
  | @map block tiles data =>
    have member : block ∈ more := Multiset.mem_of_le within (Multiset.mem_cons_self _ _)
    have behind : tiles ∈ more :=
      Multiset.mem_of_le within (Multiset.mem_cons_of_mem (Multiset.mem_singleton_self _))
    exact owns_access member (accessTiles_owns _ member behind)

/-- A buffer is allocated, and filled from the message. -/
theorem serialize_owns (allocator : Allocator α) (owns : Owned held owned) :
    Owns owned (MessageMemory.socketMessageSerialize allocator held) (fun buffer left => left = buffer ::ₘ owned)
      fails := by
  apply owns_bind (calculateSize_owns owns)
  rintro _ _ rfl
  apply owns_malloc
  intro buffer
  apply owns_access (Multiset.mem_cons_self _ _)
  apply owns_bind (serializeData_owns owns (Multiset.le_cons_self _ _))
  rintro _ _ rfl
  exact owns_pure rfl

theorem serializeToSocket_owns (allocator : Allocator α) (owns : Owned held owned) (delivered : Bool) :
    Owns owned (MessageMemory.socketMessageSerializeToSocket allocator held delivered)
      (fun result left => result = delivered ∧ left = owned) fails := by
  have serialized : Owns owned (MessageMemory.socketMessageSerialize allocator held) (fun buffer left => left = buffer ::ₘ owned)
      fails := serialize_owns allocator owns
  refine owns_bind serialized ?_
  rintro buffer _ rfl
  apply owns_access (Multiset.mem_cons_self _ _)
  apply owns_free rfl
  exact owns_pure ⟨rfl, rfl⟩

theorem destroy_owns (owns : Owned held owned) :
    Owns owned (socketMessageDestroy held) (fun _ left => left = 0) fails := by
  cases owns with
  | @simple message simple =>
    cases message with
    | gameFull | connected | disconnect | gameEnd | pause | unpause | respawn => exact owns_pure rfl
    | _ => exact simple.elim
  | @data message block one =>
    cases message with
    | magicBytes | tileChange | playerState | direction => exact owns_freed rfl
    | _ => exact one.elim
  | map =>
    apply owns_access (Multiset.mem_cons_self _ _)
    apply owns_free (Multiset.cons_swap _ _ _)
    exact owns_freed rfl

/-- A message that is built, sent and destroyed leaves nothing behind. -/
theorem sendHeld_owns {init : Heaped α ε (HeldMessage α)} (allocator : Allocator α)
    (built : Owns 0 init (fun held owned => Owned held owned) fails) (delivered : Bool) :
    Owns 0 (sendHeld allocator init delivered) (fun result owned => result = delivered ∧ owned = 0) fails := by
  apply owns_bind built
  intro held owned owns
  apply owns_bind (serializeToSocket_owns allocator owns delivered)
  rintro _ _ ⟨rfl, rfl⟩
  apply owns_bind (destroy_owns owns)
  rintro _ _ rfl
  exact owns_pure ⟨rfl, rfl⟩

/-! ## `socket_message_deserialize_from_socket` -/

section Deserialisation

variable {ends : Stop → Prop} {memory : Nat → UInt8} {rounds : Nat} {socket : ReadSide}

omit [DecidableEq α] in
/-- A read that is still going on, one that fails and one that has filled its buffer. -/
theorem owns_read {needs : Multiset α} {next : Option (List UInt8 × ReadSide) → Heaped α Stop (Received α)}
    {reads : List UInt8 → ReadProgram SocketMessage} {decoded : Option (Option SocketMessage × ReadSide)}
    (calls : decoded = socketMessageReadCalls memory rounds (.read length reads) socket)
    (running : decoded = none → ends .unfinished)
    (failed : (∃ after, decoded = some (none, after)) → Owns needs (next none) (Receives decoded) ends)
    (read : ∀ buffer after, decoded = socketMessageReadCalls memory rounds (reads buffer) after →
      Owns needs (next (some (buffer, after))) (Receives decoded) ends) :
    Owns needs (MessageMemory.socketRead memory rounds socket length >>= next) (Receives decoded) ends := by
  rw [socketMessageReadCalls] at calls
  unfold MessageMemory.socketRead
  cases ran : socketReadCalls rounds socket ((List.range length).map memory) with
  | none =>
    rw [ran] at calls
    have unfinished : Owns needs (fail .unfinished : Heaped α Stop (Option (List UInt8 × ReadSide))) (fun _ _ => False)
        ends := owns_fail (running calls)
    exact owns_bind unfinished fun _ _ impossible => impossible.elim
  | some outcome =>
    obtain ⟨result, buffer, after⟩ := outcome
    rw [ran] at calls
    cases result with
    | false => exact failed ⟨after, calls⟩
    | true => exact read buffer after calls

theorem deserializeMagicBytes_owns (allocator : Allocator α)
    (running : socketMessageReadCalls memory rounds (.read 4 socketMessageMagicBytesData) socket = none →
      ends .unfinished) :
    Owns 0 (MessageMemory.socketMessageDeserializeMagicBytesFromSocket allocator memory rounds socket)
      (Receives (socketMessageReadCalls memory rounds (.read 4 socketMessageMagicBytesData) socket)) ends := by
  apply owns_malloc
  intro data
  apply owns_access (Multiset.mem_cons_self _ _)
  apply owns_read rfl running
  · intro failed
    apply owns_free rfl
    exact owns_pure ⟨failed, rfl⟩
  · exact fun _ _ decoded => owns_pure ⟨decoded, .data trivial⟩

theorem deserializeMap_owns (allocator : Allocator α)
    (running : socketMessageReadCalls memory rounds socketMessageMapReads socket = none → ends .unfinished) :
    Owns 0 (MessageMemory.socketMessageDeserializeMapFromSocket allocator memory rounds socket)
      (Receives (socketMessageReadCalls memory rounds socketMessageMapReads socket)) ends := by
  apply owns_read rfl running
  · exact fun failed => owns_pure ⟨failed, rfl⟩
  · intro dimensions after tilesNext
    apply owns_malloc
    intro tilesBuffer
    apply owns_access (Multiset.mem_cons_self _ _)
    apply owns_read tilesNext running
    · intro failed
      apply owns_free rfl
      exact owns_pure ⟨failed, rfl⟩
    · intro buffer after' decoded
      apply owns_malloc
      intro tiles
      refine owns_bind (owns_each _ fun _ _ => ?_) fun _ _ same => ?_
      · apply owns_access (Multiset.mem_cons_of_mem (Multiset.mem_cons_self _ _))
        exact owns_accessed (Multiset.mem_cons_self _ _)
      · rw [same]
        apply owns_free (Multiset.cons_swap _ _ _)
        apply owns_malloc
        intro data
        apply owns_access (Multiset.mem_cons_self _ _)
        exact owns_pure ⟨decoded, .map⟩

theorem deserializeData_owns (allocator : Allocator α) {decode : List UInt8 → SocketMessage}
    (one : ∀ buffer, HasData (decode buffer))
    (running : socketMessageReadCalls memory rounds (.read length fun buffer => .done (some (decode buffer))) socket =
      none → ends .unfinished) :
    Owns 0 (deserializeData allocator memory rounds length decode socket)
      (Receives (socketMessageReadCalls memory rounds (.read length fun buffer => .done (some (decode buffer))) socket))
      ends := by
  apply owns_read rfl running
  · exact fun failed => owns_pure ⟨failed, rfl⟩
  · intro buffer after decoded
    apply owns_malloc
    intro data
    apply owns_access (Multiset.mem_cons_self _ _)
    exact owns_pure ⟨decoded, .data (one buffer)⟩

/-- The message and its memory, or neither. -/
theorem deserialize_owns (allocator : Allocator α)
    (running : socketMessageDeserializeCalls memory rounds socket = none → ends .unfinished) :
    Owns 0 (MessageMemory.socketMessageDeserializeFromSocket allocator memory rounds socket)
      (Receives (socketMessageDeserializeCalls memory rounds socket)) ends := by
  unfold socketMessageDeserializeCalls socketMessageReads at running ⊢
  apply owns_read rfl running
  · exact fun failed => owns_pure ⟨failed, rfl⟩
  · intro rawType after decoded
    rw [decoded] at running ⊢
    dsimp only
    unfold socketMessageTypeReads at running ⊢
    revert running
    cases SocketMessageType.ofValue (enumOfChar (rawType.getD 0 0)) with
    | none => exact fun _ => owns_pure ⟨⟨after, rfl⟩, rfl⟩
    | some type =>
      intro running
      cases type with
      | magicBytes => exact deserializeMagicBytes_owns allocator running
      | map => exact deserializeMap_owns allocator running
      | tileChange | playerState | direction => exact deserializeData_owns allocator (fun _ => trivial) running
      | gameFull | connected | disconnect | gameEnd | pause | unpause | respawn =>
        exact owns_pure ⟨rfl, .simple trivial⟩

end Deserialisation

/-! ## `socket_client_run` -/

/-- One of the next calls of `read` fails. -/
def FailsWithin (count : Nat) (socket : ReadSide) : Prop :=
  ∃ call, socket.answers call = none ∧ socket.calls ≤ call ∧ call < socket.calls + count

/-- The computation may be still running, as long as no call of `read` has failed. -/
def Running (rounds : Nat) (socket : ReadSide) (reason : Stop) : Prop :=
  reason = .unfinished ∧ ¬ FailsWithin rounds socket

/-- And a message may lead out of the range of the client's map. -/
def Escapes (rounds : Nat) (socket : ReadSide) (reason : Stop) : Prop :=
  reason = .outOfRange ∨ Running rounds socket reason

/-- The computation finishes what it begins. -/
def Never (_ : Stop) : Prop := False

/-- A loop over messages has the turns it needs, or need not end. -/
def Ends (ends : Stop → Prop) (rounds turns : Nat) (socket : ReadSide) : Prop :=
  ends .unfinished ∨ turns ≤ rounds ∧ FailsWithin turns socket

variable {ends : Stop → Prop} {memory : Nat → UInt8} {rounds turns turn : Nat} {socket after : ReadSide}

theorem ends_turn (goes : Ends ends rounds turns socket) : turns = 0 → ends .unfinished := by
  rintro rfl
  refine goes.elim id ?_
  rintro ⟨-, call, -, from_le, to_lt⟩
  omega

theorem ends_running (goes : Ends ends rounds turns socket)
    (running : socketMessageDeserializeCalls memory rounds socket = none) : ends .unfinished := by
  refine goes.elim id ?_
  rintro ⟨enough, call, failing, from_le, to_lt⟩
  have soon : call < socket.calls + rounds := by omega
  obtain ⟨outcome, ended, -⟩ := deserialize_fails memory failing from_le soon
  rw [running] at ended
  cases ended

/-- Every message takes a call of `read`. -/
theorem ends_step (goes : Ends ends rounds (turns + 1) socket)
    (decoded : socketMessageDeserializeCalls memory rounds socket = some (some message, after)) :
    Ends ends rounds turns after := by
  refine goes.imp_right ?_
  rintro ⟨enough, call, failing, from_le, to_lt⟩
  have soon : call < socket.calls + rounds := by omega
  obtain ⟨outcome, ended, later⟩ := deserialize_fails memory failing from_le soon
  cases decoded.symm.trans ended
  obtain ⟨same, next_lt, next_le⟩ := later rfl
  dsimp only at same next_lt next_le
  exact ⟨by omega, call, same ▸ failing, next_le, by omega⟩

theorem clientAccess_owns (owns : Owned held owned) :
    Owns owned (socketClientAccess held) (fun _ left => left = owned) ends := by
  cases owns with
  | @simple message simple => cases message <;> first | exact owns_pure rfl | exact simple.elim
  | @data message block one =>
    cases message with
    | tileChange | playerState => exact owns_accessed (Multiset.mem_singleton_self _)
    | magicBytes | direction => exact owns_pure rfl
    | _ => exact one.elim
  | map => exact owns_access (Multiset.mem_cons_self _ _) (accessTiles_owns _ (by simp) (by simp))

theorem clientLoop_owns (allocator : Allocator α) (memory : Nat → Nat → UInt8) (exit : Nat → Bool)
    (self : SocketClient) (escapes : ends .outOfRange) (goes : Ends ends rounds turns socket) :
    Owns 0 (MessageMemory.socketClientLoop allocator memory exit rounds turns turn self socket)
      (fun _ owned => owned = 0) ends := by
  induction turns generalizing turn self socket with
  | zero => exact owns_fail (ends_turn goes rfl)
  | succ turns ih =>
    unfold MessageMemory.socketClientLoop
    split
    case isFalse => exact owns_pure rfl
    case isTrue =>
      apply owns_bind (deserialize_owns allocator (ends_running goes))
      intro received owned receives
      cases received with
      | none => exact owns_pure receives.2
      | some pair =>
        obtain ⟨decoded, owns⟩ := receives
        have later := ends_step goes decoded
        apply owns_bind (clientAccess_owns owns)
        rintro _ _ rfl
        cases processed : socketClientProcess self pair.1.message with
        | none =>
          dsimp only
          exact owns_fail escapes
        | some next =>
          dsimp only
          apply owns_bind (destroy_owns owns)
          rintro _ _ rfl
          exact ih next later

/-- Enough rounds for a call that fails are enough for the loop. -/
theorem ends_rounds (running : ¬ FailsWithin rounds socket → ends .unfinished) : Ends ends rounds rounds socket := by
  by_cases failing : FailsWithin rounds socket
  · exact Or.inr ⟨Nat.le_refl _, failing⟩
  · exact Or.inl (running failing)

theorem clientRun_owns (allocator : Allocator α) (memory : Nat → Nat → UInt8) (exit : Nat → Bool)
    (leaves greeted parted : Bool) (rounds : Nat) (self : SocketClient) (socket : ReadSide) :
    Owns 0 (socketClientRun allocator memory exit leaves greeted parted rounds self socket)
      (fun _ owned => owned = 0) (Escapes rounds socket) := by
  have one : HasData (SnakePosix.socketMessageInitMagicBytes gameMagicBytes) := trivial
  have goes : Ends (Escapes rounds socket) rounds rounds socket := ends_rounds fun on => Or.inr ⟨rfl, on⟩
  apply owns_bind (sendHeld_owns allocator (initData_owns allocator one) greeted)
  rintro _ _ ⟨rfl, rfl⟩
  split
  · exact owns_pure rfl
  · apply owns_bind (clientLoop_owns allocator memory exit self (Or.inl rfl) goes)
    rintro _ _ rfl
    split
    · have plain : Simple SnakePosix.socketMessageInitDisconnect := trivial
      apply owns_bind (sendHeld_owns allocator (owns_pure (.simple plain)) parted)
      rintro _ _ ⟨-, rfl⟩
      exact owns_pure rfl
    · exact owns_pure rfl

theorem callbacks_simple {key : Key} {lastDirection : Direction}
    (pressed : socketClientInputCallbacks key lastDirection = some message)
    (other : ∀ direction, message ≠ .direction direction) : Simple message := by
  have fromClient := ConformingClient.callbacks_fromClient pressed
  cases message with
  | direction direction => exact absurd rfl (other direction)
  | pause | unpause | respawn | disconnect => trivial
  | _ => exact fromClient.elim

theorem clientInput_owns (allocator : Allocator α) (presses : List (Key × Direction × Bool)) :
    Owns 0 (socketClientInput allocator presses) (fun _ owned => owned = 0) Never := by
  apply owns_each
  rintro ⟨key, lastDirection, delivered⟩ _
  dsimp only [socketClientOnPress]
  split
  case h_1 => exact owns_pure rfl
  case h_2 direction _ =>
    have one : HasData (SnakePosix.socketMessageInitDirection direction) := trivial
    apply owns_bind (sendHeld_owns allocator (initData_owns allocator one) delivered)
    rintro _ _ ⟨-, rfl⟩
    exact owns_pure rfl
  case h_3 message other pressed =>
    apply owns_bind (sendHeld_owns allocator (owns_pure (.simple (callbacks_simple pressed other))) delivered)
    rintro _ _ ⟨-, rfl⟩
    exact owns_pure rfl

theorem verify_owns (allocator : Allocator α) (memory : Nat → UInt8) (rounds : Nat) (socket : ReadSide) :
    Owns 0 (MessageMemory.clientConnectionHandlerVerifyMagicBytes allocator memory rounds socket)
      (fun _ owned => owned = 0) (Running rounds socket) := by
  have goes : Ends (Running rounds socket) rounds rounds socket := ends_rounds fun on => ⟨rfl, on⟩
  apply owns_bind (deserialize_owns allocator (ends_running goes))
  intro received owned receives
  cases received with
  | none => exact owns_pure receives.2
  | some pair =>
    obtain ⟨held, rest⟩ := pair
    obtain ⟨-, owns⟩ := receives
    have compared : Owns owned (magicBytesAccess held) (fun _ left => left = owned) (Running rounds socket) := by
      cases owns with
      | @simple message simple => cases message <;> first | exact owns_pure rfl | exact simple.elim
      | @data message block one =>
        cases message with
        | magicBytes => exact owns_accessed (Multiset.mem_singleton_self _)
        | tileChange | playerState | direction => exact owns_pure rfl
        | _ => exact one.elim
      | map => exact owns_pure rfl
    apply owns_bind compared
    rintro _ _ rfl
    apply owns_bind (destroy_owns owns)
    rintro _ _ rfl
    exact owns_pure rfl

/-- What is left is the memory of one message, and nothing unless the thread has been
interrupted. -/
def Leaves (turns : Nat → ReceiveTurn) (left : Option (HeldMessage α)) (owned : Multiset α) : Prop :=
  match left with
  | none => owned = 0
  | some held => Owned held owned ∧ (owned = 0 ∨ ∃ turn, (turns turn).interrupted = true)

theorem receive_owns (allocator : Allocator α) (found : Nat → ReceiveTurn) (turn : Nat)
    (goes : Ends ends rounds turns socket) :
    Owns 0 (clientConnectionReceive allocator found rounds turns turn socket) (Leaves found) ends := by
  induction turns generalizing turn socket with
  | zero => exact owns_fail (ends_turn goes rfl)
  | succ turns ih =>
    unfold clientConnectionReceive
    split
    case isTrue => exact owns_pure rfl
    case isFalse =>
      apply owns_bind (deserialize_owns allocator (ends_running goes))
      intro received owned receives
      cases received with
      | none => exact owns_pure receives.2
      | some pair =>
        obtain ⟨decoded, owns⟩ := receives
        have later := ends_step goes decoded
        dsimp only
        split
        case isTrue interrupted => exact owns_pure ⟨owns, Or.inr ⟨turn, interrupted⟩⟩
        case isFalse =>
          have goesOn : Owns owned (do
              socketMessageDestroy pair.1
              clientConnectionReceive allocator found rounds turns (turn + 1) pair.2) (Leaves found) ends := by
            apply owns_bind (destroy_owns owns)
            rintro _ _ rfl
            exact ih _ later
          split
          case h_1 playerId direction called =>
            obtain ⟨held, rest⟩ := pair
            have turns : held.message = .direction direction := (handle_asks called).symm
            cases owns with
            | simple simple =>
              cases turns
              exact simple.elim
            | data => exact owns_access (Multiset.mem_singleton_self _) goesOn
            | map => cases turns
          case h_2 => exact goesOn
          case h_3 parted =>
            obtain ⟨held, rest⟩ := pair
            cases owns with
            | simple simple => exact owns_pure ⟨.simple simple, Or.inl rfl⟩
            | @data message block one =>
              cases message with
              | direction =>
                simp only [clientConnectionHandle] at parted
                split at parted <;> cases parted
              | magicBytes | tileChange | playerState => cases parted
              | _ => exact one.elim
            | map => cases parted
          case h_4 =>
            apply owns_bind (destroy_owns owns)
            rintro _ _ rfl
            exact owns_pure rfl

theorem sendMap_owns (allocator : Allocator α) (map : Map) (delivered : Bool) :
    Owns 0 (MessageMemory.clientConnectionSendMap allocator map delivered) (fun _ owned => owned = 0) Never :=
  owns_mono (sendHeld_owns allocator (initMap_owns allocator map) delivered) fun _ _ sent => sent.2

/-- The copy of the changes is freed in the end, or at the message that fails. -/
theorem sendChanges_owns (allocator : Allocator α) (copied : α) (delivered : Nat → Bool) (turn : Nat)
    (changes : List Change) :
    Owns {copied} (clientConnectionSendChanges allocator copied delivered turn changes) (fun _ owned => owned = 0)
      Never := by
  induction changes generalizing turn with
  | nil =>
    apply owns_free rfl
    exact owns_pure rfl
  | cons change rest ih =>
    apply owns_access (Multiset.mem_singleton_self _)
    have one : HasData (SnakePosix.socketMessageInitTileChange change.coordinates.row change.coordinates.column
      change.tileData) := trivial
    apply owns_call (sendHeld_owns allocator (initData_owns allocator one) (delivered turn))
      (Multiset.zero_add _).symm
    rintro result _ ⟨-, rfl⟩
    rw [Multiset.zero_add]
    split
    · apply owns_free rfl
      exact owns_pure rfl
    · exact ih (turn + 1)

theorem sendChangelog_owns (allocator : Allocator α) (changelog : Changelog) (delivered : Nat → Bool) :
    Owns 0 (MessageMemory.clientConnectionSendChangelog allocator changelog delivered) (fun _ owned => owned = 0) Never := by
  have copy : Owns 0 (synChangelogCopy allocator changelog)
      (fun copied owned => owned = copied.elim 0 fun block => {block}) Never := by
    unfold synChangelogCopy
    split
    · exact owns_pure rfl
    · apply owns_malloc
      intro block
      apply owns_access (Multiset.mem_cons_self _ _)
      exact owns_pure rfl
  apply owns_bind copy
  rintro copied _ rfl
  cases copied with
  | none => exact owns_pure rfl
  | some block => exact sendChanges_owns allocator block delivered 0 changelog

theorem send_owns (allocator : Allocator α) (calls : List SendCall) :
    Owns 0 (clientConnectionSend allocator calls) (fun _ owned => owned = 0) Never := by
  have simple : ∀ message delivered, Simple message →
      Owns 0 (sendHeld allocator (pure (initSimple message)) delivered) (fun _ owned => owned = 0) Never :=
    fun message delivered plain => owns_mono (sendHeld_owns allocator (owns_pure (.simple plain)) delivered)
      fun _ _ sent => sent.2
  apply owns_each
  intro call _
  have returned : Owns 0 (sendCall allocator call) (fun _ owned => owned = 0) Never := by
    cases call with
    | gameFull delivered => exact simple _ delivered trivial
    | connected delivered => exact simple _ delivered trivial
    | gameEnd delivered => exact simple _ delivered trivial
    | map map delivered => exact sendMap_owns allocator map delivered
    | changelog changelog delivered => exact sendChangelog_owns allocator changelog delivered
    | playerState playerState delivered =>
      have one : HasData (SnakePosix.socketMessageInitPlayerState playerState.status playerState.direction) := trivial
      exact owns_mono (sendHeld_owns allocator (initData_owns allocator one) delivered) fun _ _ sent => sent.2
  exact owns_bind returned fun _ _ same => owns_pure same

omit [DecidableEq α] in
theorem owned_card (owns : Owned held owned) : owned.card ≤ 2 := by
  cases owns with
  | simple => exact Nat.zero_le 2
  | data => exact Nat.le_succ 1
  | map => exact Nat.le_refl 2

/-- The first block that is free. -/
def lowest : Allocator Nat where
  find := fun blocks => ((List.range (blocks.card + 1)).find? (· ∉ blocks)).getD 0
  fresh := by
    intro blocks
    obtain ⟨block, below, free⟩ : ∃ block ∈ Finset.range (blocks.card + 1), block ∉ blocks :=
      Finset.exists_mem_notMem_of_card_lt_card (by simp)
    cases found : (List.range (blocks.card + 1)).find? (· ∉ blocks) with
    | none =>
      have listed : block ∈ List.range (blocks.card + 1) := List.mem_range.mpr (Finset.mem_range.mp below)
      exact absurd (decide_eq_true free) (List.find?_eq_none.mp found block listed)
    | some first => simpa using List.find?_some found

/-- The direction that is read as the thread is shut down. -/
example : ∃ left, clientConnectionReceive lowest (fun _ => ⟨fun _ => 0, false, true, clientConnectionInit 7⟩) 2 2 0
    { stream := [6, 0], answers := fun _ => some 0, calls := 0 } ∅ = .ok (left, {0}) := ⟨_, rfl⟩

end SnakePosix.MessageLifetimes
