import SnakePosix.Client.SocketClient
import SnakePosix.SocketPieces
import SnakePosix.SocketRoundTrip

/-! Which bytes make the client index its map out of range. The decoder takes
sizes and coordinates as they come, so it is exactly the messages whose header
keeps the limits that are processed within them. The header is what the pieces it
came in have left in its buffer. -/
namespace SnakePosix.ReceivedBounds
open Wire Torus SocketRoundTrip SocketPieces ReadPrograms

variable {memory : Nat → UInt8} {socket after : ReadSide} {rounds : Nat} {message : SocketMessage}
  {data : SocketMessageMapData}

/-- A map message brings as many tiles as its dimensions say, within the limits,
and all of them find their place; a tile change names a tile of the array. -/
def InRange : SocketMessage → Prop
  | .map data => data.tiles.length = data.width * data.height ∧ data.width ≤ maxMapWidth ∧
      data.height ≤ maxMapHeight ∧ ∀ map, (socketMessageDeserializeToMap (.map data) map).isSome
  | .tileChange data => data.row < maxMapHeight ∧ data.column < maxMapWidth
  | _ => True

/-- What the bytes after the type leave in a buffer, every piece copied to its start. -/
def dataRead (memory : Nat → UInt8) (socket : ReadSide) (length : Nat) : List UInt8 :=
  piled (advanced socket 1) ((List.range length).map memory)

/-- The limits: in the buffer a map message begins with, its width and height; in that
of a tile change, its row and column. -/
def HeaderInRange (memory : Nat → UInt8) (socket : ReadSide) : Prop :=
  (socket.stream.head? = some 3 →
    decodeLE ((dataRead memory socket (2 * 4)).take 4) ≤ maxMapWidth ∧
      decodeLE ((dataRead memory socket (2 * 4)).drop 4) ≤ maxMapHeight) ∧
  (socket.stream.head? = some 4 →
    decodeLE ((dataRead memory socket (2 * 4 + 8 + 1 + 2)).take 4) < maxMapHeight ∧
      decodeLE (((dataRead memory socket (2 * 4 + 8 + 1 + 2)).drop 4).take 4) < maxMapWidth)

/-! ## Applying a map message -/

private theorem foldlM_isSome (step : σ → α → Option σ) (list : List α)
    (each : ∀ a ∈ list, ∀ state, (step state a).isSome) (state : σ) : (list.foldlM step state).isSome := by
  induction list generalizing state with
  | nil => rfl
  | cons a list ih =>
    obtain ⟨next, stepped⟩ := Option.isSome_iff_exists.mp (each a List.mem_cons_self state)
    rw [List.foldlM_cons, stepped]
    exact ih (fun a member => each a (List.mem_cons_of_mem _ member)) next

private theorem write_isSome {write : Map → Coordinates → Map} {c : Coordinates} (inside : c.InArrays) (map : Map) :
    (mapTilesWrite write map c).isSome := by
  rw [mapTilesWrite, if_pos inside]
  rfl

/-- Within the limits every read and every write of the two loops is in range. -/
theorem deserializeToMap_isSome (length : data.tiles.length = data.width * data.height)
    (width : data.width ≤ maxMapWidth) (height : data.height ≤ maxMapHeight) (map : Map) :
    (socketMessageDeserializeToMap (.map data) map).isSome := by
  have inside : ∀ c ∈ cells data.width data.height, c.InArrays := fun c member =>
    ⟨Nat.lt_of_lt_of_le (mem_cells.mp member).1 height, Nat.lt_of_lt_of_le (mem_cells.mp member).2 width⟩
  obtain ⟨initial, ran⟩ := Option.isSome_iff_exists.mp
    (foldlM_isSome (mapTilesWrite mapSetTileEmpty) (cells data.width data.height)
      (fun c member => write_isSome (inside c member)) { map with width := data.width, height := data.height })
  simp only [socketMessageDeserializeToMap, ran, Option.bind_eq_bind, Option.bind_some]
  refine foldlM_isSome _ _ (fun visit member state => ?_) initial
  obtain ⟨c, index⟩ := visit
  obtain ⟨-, below, position⟩ := List.mem_zipIdx member
  have cell : c ∈ cells data.width data.height := position ▸ List.getElem_mem _
  have within : index < data.tiles.length := by
    rw [length, ← cells_length]
    simpa using below
  simp only [List.getElem?_eq_getElem within, Option.bind_some]
  exact write_isSome (inside c cell) state

/-! ## Decoded headers -/

/-- A read of a message that is finished has had what its pieces leave in the buffer. -/
theorem reads_some {next : List UInt8 → ReadProgram SocketMessage}
    (ran : socketMessageReadCalls memory rounds (.read length next) socket = some (some message, after)) :
    length ≤ socket.stream.length ∧
      socketMessageReadCalls memory rounds (next (piled socket ((List.range length).map memory)))
        (advanced socket length) = some (some message, after) := by
  rw [socketMessageReadCalls] at ran
  cases read : socketReadCalls rounds socket ((List.range length).map memory) with
  | none =>
    rw [read] at ran
    cases ran
  | some outcome =>
    obtain ⟨result, buffer, left⟩ := outcome
    rw [read] at ran
    cases result with
    | false => cases ran
    | true =>
      obtain ⟨enough, rfl, rfl⟩ := socketRead_true read
      simp only [List.length_map, List.length_range] at enough ran
      exact ⟨enough, ran⟩

private theorem done_some {result : Option SocketMessage}
    (ran : socketMessageReadCalls memory rounds (.done result) socket = some (some message, after)) :
    result = some message := by
  cases ran
  rfl

/-- A map is decoded from the eight bytes of its header and the tiles after it. -/
theorem mapReads_some
    (ran : socketMessageReadCalls memory rounds socketMessageMapReads socket = some (some message, after)) :
    ∃ data, message = .map data ∧
      data.width = decodeLE ((piled socket ((List.range (2 * 4)).map memory)).take 4) ∧
      data.height = decodeLE ((piled socket ((List.range (2 * 4)).map memory)).drop 4) ∧
        data.tiles.length = tileCount data.width data.height := by
  obtain ⟨-, tiles⟩ := reads_some ran
  obtain ⟨-, built⟩ := reads_some tiles
  cases done_some built
  exact ⟨_, rfl, rfl, rfl, deserializeMapTiles_length _ _⟩

theorem tileChangeReads_some
    (ran : socketMessageReadCalls memory rounds socketMessageTileChangeReads socket = some (some message, after)) :
    ∃ data, message = .tileChange data ∧
      data.row = decodeLE ((piled socket ((List.range (2 * 4 + 8 + 1 + 2)).map memory)).take 4) ∧
      data.column = decodeLE (((piled socket ((List.range (2 * 4 + 8 + 1 + 2)).map memory)).drop 4).take 4) := by
  obtain ⟨-, built⟩ := reads_some ran
  cases done_some built
  exact ⟨_, rfl, rfl, rfl⟩

private theorem type_of_char (decoded : SocketMessageType.ofValue (enumOfChar char) = some type) :
    char.toNat = type.value := by
  have value : enumOfChar char = type.value := by
    unfold SocketMessageType.ofValue at decoded
    split at decoded <;> cases decoded <;> assumption
  have small : type.value < 128 := by cases type <;> decide
  unfold enumOfChar at value
  split at value
  · exact value
  · omega

/-- The type of an accepted message is the next byte, and its data comes after it. -/
theorem deserialize_some
    (decoded : socketMessageDeserializeCalls memory rounds socket = some (some message, after)) :
    ∃ char type, socket.stream.head? = some char ∧ char.toNat = type.value ∧
      socketMessageReadCalls memory rounds (socketMessageDataReads type) (advanced socket 1) =
        some (some message, after) := by
  obtain ⟨nonempty, typed⟩ := reads_some decoded
  match stream : socket.stream with
  | [] =>
    rw [stream] at nonempty
    cases nonempty
  | char :: _ =>
    rw [piled_type _ stream] at typed
    cases known : SocketMessageType.ofValue (enumOfChar char) with
    | none =>
      simp only [socketMessageTypeReads, List.getD_cons_zero, known] at typed
      cases typed
    | some type =>
      simp only [socketMessageTypeReads, List.getD_cons_zero, known] at typed
      exact ⟨char, type, rfl, type_of_char known, typed⟩

/-- One accepted message is in range exactly if its header is. -/
theorem deserialize_inRange_iff
    (decoded : socketMessageDeserializeCalls memory rounds socket = some (some message, after)) :
    InRange message ↔ HeaderInRange memory socket := by
  obtain ⟨char, type, next, number, built⟩ := deserialize_some decoded
  have isMap : char = 3 ↔ type = .map := by
    rw [← UInt8.toNat_inj, number]
    cases type <;> simp [SocketMessageType.value]
  have isTileChange : char = 4 ↔ type = .tileChange := by
    rw [← UInt8.toNat_inj, number]
    cases type <;> simp [SocketMessageType.value]
  simp only [HeaderInRange, next, Option.some.injEq, isMap, isTileChange]
  cases type with
  | map =>
    obtain ⟨data, rfl, width, height, length⟩ := mapReads_some built
    simp only [reduceCtorEq, true_imp_iff, false_imp_iff, and_true]
    rw [dataRead, ← width, ← height]
    constructor
    · exact fun inRange => ⟨inRange.2.1, inRange.2.2.1⟩
    · rintro ⟨widthBound, heightBound⟩
      rw [tileCount_of_arrays widthBound heightBound] at length
      exact ⟨length, widthBound, heightBound, deserializeToMap_isSome length widthBound heightBound⟩
  | tileChange =>
    obtain ⟨data, rfl, row, column⟩ := tileChangeReads_some built
    simp only [reduceCtorEq, true_imp_iff, false_imp_iff, true_and]
    rw [dataRead, ← row, ← column]
    exact Iff.rfl
  | magicBytes | playerState | direction =>
    cases done_some (reads_some built).2
    simp [InRange]
  | gameFull | connected | disconnect | gameEnd | pause | unpause | respawn =>
    cases done_some built
    simp [InRange]

/-! ## The receiving loop -/

variable {exit : Nat → Bool} {turns turn : Nat} {client : SocketClient} {reception : SocketReception}

private theorem socketClientLoop_decodes {memory : Nat → Nat → UInt8}
    (received : reception ∈ socketClientLoop memory exit rounds turns turn client socket) :
    ∃ after, socketMessageDeserializeCalls reception.memory rounds reception.socket =
      some (some reception.message, after) := by
  induction turns generalizing turn client socket with
  | zero => cases received
  | succ turns ih =>
    unfold socketClientLoop at received
    split at received
    · cases decoded : socketMessageDeserializeCalls (memory turn) rounds socket with
      | none => simp [decoded] at received
      | some outcome =>
        obtain ⟨result, rest⟩ := outcome
        cases result with
        | none => simp [decoded] at received
        | some first =>
          simp only [decoded, List.mem_cons] at received
          rcases received with rfl | later
          · exact ⟨rest, decoded⟩
          · split at later
            · cases later
            · exact ih later
    · cases received

/-- Looking on for more rounds and turns only adds to the messages. -/
theorem socketClientLoop_prefix (memory : Nat → Nat → UInt8) (rounds_le : rounds ≤ rounds')
    (turns_le : turns ≤ turns') : socketClientLoop memory exit rounds turns turn client socket <+:
      socketClientLoop memory exit rounds' turns' turn client socket := by
  induction turns generalizing turns' turn client socket with
  | zero => exact List.nil_prefix
  | succ turns ih =>
    obtain ⟨turns', rfl⟩ : ∃ less, turns' = less + 1 := ⟨turns' - 1, by omega⟩
    rw [socketClientLoop, socketClientLoop]
    split
    · cases decoded : socketMessageDeserializeCalls (memory turn) rounds socket with
      | none => exact List.nil_prefix
      | some outcome =>
        obtain ⟨result, rest⟩ := outcome
        have again : socketMessageDeserializeCalls (memory turn) rounds' socket = some (result, rest) :=
          reads_more rounds_le decoded
        rw [again]
        cases result with
        | none => exact List.prefix_refl _
        | some message =>
          dsimp only
          rw [List.prefix_cons_inj]
          cases socketClientProcess client message with
          | none => exact List.prefix_refl _
          | some next => exact ih (by omega)
    · exact List.prefix_refl _

/-- Of all messages a client ever processes, whatever bytes it receives and in whatever
pieces, exactly those with a header within the limits are processed within bounds. -/
theorem socketClientReceived_inRange_iff (memory : Nat → Nat → UInt8) (exit : Nat → Bool)
    (tiles : Coordinates → MapTile) (rounds turns : Nat) (socket : ReadSide)
    (received : reception ∈ socketClientReceived memory exit tiles rounds turns socket) :
    InRange reception.message ↔ HeaderInRange reception.memory reception.socket := by
  obtain ⟨after, decoded⟩ := socketClientLoop_decodes received
  exact deserialize_inRange_iff decoded

/-- A TILE_CHANGE message for row 3 and column 3. -/
def tileChanged (answers : Nat → Option Nat) : ReadSide where
  stream := [4, 3, 0, 0, 0, 3, 0, 0, 0, 0, 0, 0, 0, 0, 0, 0, 0, 0, 0, 0]
  answers
  calls := 0

private def clear : MapTile := { order := 0, type := .empty, player := 0 }

private theorem received_tileChange (row column : Nat) (answers : Nat → Option Nat)
    (decoded : ∃ after, socketMessageDeserializeCalls (fun _ => 0) 4 (tileChanged answers) =
      some (some (.tileChange { row, column, tile := clear }), after)) :
    { memory := fun _ => 0, socket := tileChanged answers, message := .tileChange { row, column, tile := clear } } ∈
      socketClientReceived (fun _ _ => 0) (fun _ => false) (fun _ => clear) 4 1 (tileChanged answers) := by
  obtain ⟨after, decoded⟩ := decoded
  rw [socketClientReceived, socketClientLoop, if_pos (Or.inl rfl), decoded]
  exact List.mem_cons_self

/-- Read in one piece its header is within the limits; with its first byte for itself,
the row that is left in the buffer is 50331648. -/
theorem socketClientReceived_inRange_pieces :
    HeaderInRange (fun _ => 0) (tileChanged fun _ => some 18) ∧
      ¬ HeaderInRange (fun _ => 0) (tileChanged fun call => some (if call = 2 then 17 else 0)) := by
  constructor
  · have received := received_tileChange 3 3 (fun _ => some 18) ⟨_, rfl⟩
    exact (socketClientReceived_inRange_iff _ _ _ _ _ _ received).mp
      (show 3 < maxMapHeight ∧ 3 < maxMapWidth by decide)
  · have received := received_tileChange 50331648 0
      (fun call => some (if call = 2 then 17 else 0)) ⟨_, rfl⟩
    intro within
    exact absurd ((socketClientReceived_inRange_iff _ _ _ _ _ _ received).mpr within).1
      (show ¬ 50331648 < maxMapHeight by decide)

/-- A map of 65536 by 65536 cells without a tile. -/
def wrapped : ReadSide where
  stream := [3, 0, 0, 1, 0, 0, 0, 1, 0]
  answers := fun _ => some 7
  calls := 0

/-- It is accepted, the product of its dimensions being zero in an `unsigned int`. -/
theorem socketClientReceived_wrapped :
    { memory := fun _ => 0, socket := wrapped, message := .map { width := 65536, height := 65536, tiles := [] } } ∈
        socketClientReceived (fun _ _ => 0) (fun _ => false) (fun _ => clear) 2 1 wrapped ∧
      ¬ InRange (.map { width := 65536, height := 65536, tiles := [] }) := by
  constructor
  · have decoded : ∃ after, socketMessageDeserializeCalls (fun _ => 0) 2 wrapped =
        some (some (.map { width := 65536, height := 65536, tiles := [] }), after) := ⟨_, rfl⟩
    obtain ⟨after, decoded⟩ := decoded
    rw [socketClientReceived, socketClientLoop, if_pos (Or.inl rfl), decoded]
    exact List.mem_cons_self
  · rintro ⟨length, -⟩
    simp at length

end SnakePosix.ReceivedBounds
