import SnakePosix.SocketRoundTrip

/-! Every byte string the decoder accepts is the one the encoder writes for the
message it stands for. An enumeration keeps the byte it was read from even where
that byte names none of its values, and the reader, the writer and the size all
compute the number of a map's tiles with the same wrap-around. -/
namespace SnakePosix.CanonicalBytes
open Wire SocketRoundTrip

variable {message : SocketMessage} {input buffer rest : List UInt8}

/-! ## Enumerations -/

/-- A `char` survives the way through an `unsigned int`. -/
@[simp] theorem charOfEnum_enumOfChar (char : UInt8) : charOfEnum (enumOfChar char) = char := by
  have bound := char.toNat_lt
  rw [← UInt8.toNat_inj, charOfEnum, UInt8.toNat_ofNat', enumOfChar]
  split <;> omega

@[simp] theorem tileType_value (value : Nat) : (MapTileType.ofValue value).value = value := by
  match value with
  | 0 | 1 | 2 | 3 | 4 => rfl
  | excess + 5 => exact Nat.add_comm 5 excess

@[simp] theorem status_value (value : Nat) : (PlayerStatus.ofValue value).value = value := by
  match value with
  | 0 | 1 | 2 | 3 | 4 | 5 | 6 => rfl
  | excess + 7 => exact Nat.add_comm 7 excess

@[simp] theorem direction_value (value : Nat) : (Direction.ofValue value).value = value := by
  match value with
  | 0 | 1 | 2 | 3 => rfl
  | excess + 4 => exact Nat.add_comm 4 excess

theorem messageType_value {type : SocketMessageType} (known : SocketMessageType.ofValue value = some type) :
    type.value = value := by
  unfold SocketMessageType.ofValue at known
  split at known <;> cases known <;> rfl

/-! ## Tiles -/

/-- The eleven bytes of a tile. -/
theorem serializeMapTile_deserialize (enough : sizeofSize + 1 + sizeofPlayerId ≤ buffer.length) :
    socketMessageSerializeMapTile (socketMessageDeserializeMapTile buffer).1 =
      buffer.take (sizeofSize + 1 + sizeofPlayerId) := by
  obtain ⟨order, type, player, rest, orderLength, playerLength, rfl⟩ : ∃ order type player rest,
      order.length = 8 ∧ player.length = 2 ∧ buffer = order ++ type :: (player ++ rest) := by
    change 8 + 1 + 2 ≤ buffer.length at enough
    refine ⟨buffer.take 8, buffer[8], (buffer.drop 9).take 2, buffer.drop 11, ?_, ?_, ?_⟩
    · exact List.length_take_of_le (by omega)
    · rw [List.length_take, List.length_drop]
      omega
    · have tail : (buffer.drop 9).take 2 ++ buffer.drop 11 = buffer.drop 9 := by
        have split := List.take_append_drop 2 (buffer.drop 9)
        rwa [List.drop_drop] at split
      rw [tail, List.getElem_cons_drop, List.take_append_drop]
  have first := encodeLE_decodeLE orderLength
  have last := encodeLE_decodeLE playerLength
  simp [socketMessageDeserializeMapTile, socketMessageSerializeMapTile, sizeofSize, sizeofPlayerId,
    List.take_append, List.drop_append, orderLength, playerLength, first, last]

theorem serialize_deserializeMapTiles (length : Nat)
    (enough : length * (sizeofSize + 1 + sizeofPlayerId) ≤ buffer.length) :
    (socketMessageDeserializeMapTiles length buffer).flatMap socketMessageSerializeMapTile =
      buffer.take (length * (sizeofSize + 1 + sizeofPlayerId)) := by
  induction length generalizing buffer with
  | zero => simp [socketMessageDeserializeMapTiles]
  | succ length ih =>
    have size : (length + 1) * (sizeofSize + 1 + sizeofPlayerId) =
        sizeofSize + 1 + sizeofPlayerId + length * (sizeofSize + 1 + sizeofPlayerId) := by
      rw [Nat.succ_mul, Nat.add_comm]
    rw [size] at enough ⊢
    have first := @serializeMapTile_deserialize buffer (by omega)
    have remaining : (socketMessageDeserializeMapTile buffer).2 =
        buffer.drop (sizeofSize + 1 + sizeofPlayerId) := by
      simp [socketMessageDeserializeMapTile, sizeofSize, sizeofPlayerId]
    have enough : length * (sizeofSize + 1 + sizeofPlayerId) ≤
        (buffer.drop (sizeofSize + 1 + sizeofPlayerId)).length := by
      rw [List.length_drop]
      omega
    have later := ih enough
    rw [socketMessageDeserializeMapTiles, List.flatMap_cons, first, remaining, later, ← List.take_add]

/-! ## Messages -/

/-- The bytes after the type are the body of the message, and as many as the
calculated size. -/
structure BodyOf (message : SocketMessage) (type : SocketMessageType) (input rest : List UInt8) : Prop where
  type : message.type = type
  bytes : input = body message ++ rest
  size : (body message).length = socketMessageCalculateDataBufferSize message

theorem deserializeMagicBytes_body
    (decoded : socketMessageDeserializeMagicBytesFromSocket input = some (message, rest)) :
    BodyOf message .magicBytes input rest := by
  obtain ⟨⟨bytes, socket⟩, read, built⟩ := Option.bind_eq_some_iff.mp decoded
  cases built
  obtain ⟨rfl, four⟩ := readExactly_sound read
  have whole : body (.magicBytes bytes) = bytes := List.take_of_length_le (Nat.le_of_eq four)
  exact ⟨rfl, by rw [whole], by rw [whole, four]; rfl⟩

theorem deserializeMap_body (decoded : socketMessageDeserializeMapFromSocket input = some (message, rest)) :
    BodyOf message .map input rest := by
  unfold socketMessageDeserializeMapFromSocket at decoded
  obtain ⟨⟨dimensions, socket⟩, readDimensions, decoded⟩ := Option.bind_eq_some_iff.mp decoded
  dsimp only at decoded
  obtain ⟨⟨tilesBuffer, socket'⟩, readTiles, built⟩ := Option.bind_eq_some_iff.mp decoded
  cases built
  obtain ⟨rfl, eight⟩ := readExactly_sound readDimensions
  obtain ⟨rfl, tilesLength⟩ := readExactly_sound readTiles
  have width : encodeLE 4 (decodeLE (dimensions.take 4)) = dimensions.take 4 :=
    encodeLE_decodeLE (by rw [List.length_take, eight]; rfl)
  have height : encodeLE 4 (decodeLE (dimensions.drop 4)) = dimensions.drop 4 :=
    encodeLE_decodeLE (by rw [List.length_drop, eight])
  have tiles : (socketMessageDeserializeMapTiles (tileCount (decodeLE (dimensions.take 4))
      (decodeLE (dimensions.drop 4))) tilesBuffer).flatMap socketMessageSerializeMapTile = tilesBuffer :=
    (serialize_deserializeMapTiles _ (Nat.le_of_eq tilesLength.symm)).trans
      (List.take_of_length_le (Nat.le_of_eq tilesLength))
  have whole : body (.map
      { width := decodeLE (dimensions.take 4)
        height := decodeLE (dimensions.drop 4)
        tiles := socketMessageDeserializeMapTiles (tileCount (decodeLE (dimensions.take 4))
          (decodeLE (dimensions.drop 4))) tilesBuffer }) = dimensions ++ tilesBuffer := by
    refine (serializeMap_tiles (deserializeMapTiles_length _ _)).trans ?_
    dsimp only
    rw [tiles, width, height, List.take_append_drop]
  refine ⟨rfl, by rw [whole, List.append_assoc], ?_⟩
  rw [whole, List.length_append, eight, tilesLength]
  rfl

theorem deserializeTileChange_body
    (decoded : socketMessageDeserializeTileChangeFromSocket input = some (message, rest)) :
    BodyOf message .tileChange input rest := by
  unfold socketMessageDeserializeTileChangeFromSocket at decoded
  obtain ⟨⟨buffer, socket⟩, read, built⟩ := Option.bind_eq_some_iff.mp decoded
  obtain ⟨rfl, length⟩ := readExactly_sound read
  dsimp only at built
  have row : encodeLE 4 (decodeLE (buffer.take 4)) = buffer.take 4 :=
    encodeLE_decodeLE (by rw [List.length_take, length]; rfl)
  have column : encodeLE 4 (decodeLE ((buffer.drop 4).take 4)) = (buffer.drop 4).take 4 :=
    encodeLE_decodeLE (by rw [List.length_take, List.length_drop, length]; rfl)
  have tileLength : (buffer.drop (2 * 4)).length = sizeofSize + 1 + sizeofPlayerId := by
    rw [List.length_drop, length]
    rfl
  have tile : socketMessageSerializeMapTile (socketMessageDeserializeMapTile (buffer.drop (2 * 4))).1 =
      buffer.drop (2 * 4) :=
    (serializeMapTile_deserialize (Nat.le_of_eq tileLength.symm)).trans
      (List.take_of_length_le (Nat.le_of_eq tileLength))
  have middle : (buffer.drop 4).take 4 ++ buffer.drop (2 * 4) = buffer.drop 4 := by
    rw [show 2 * 4 = 4 + 4 from rfl, ← List.drop_drop, List.take_append_drop]
  generalize (socketMessageDeserializeMapTile (buffer.drop (2 * 4))).1 = decodedTile at built tile
  cases built
  have whole : body (.tileChange
      { row := decodeLE (buffer.take 4), column := decodeLE ((buffer.drop 4).take 4), tile := decodedTile }) =
        buffer := by
    change encodeLE 4 (decodeLE (buffer.take 4)) ++ encodeLE 4 (decodeLE ((buffer.drop 4).take 4)) ++
      socketMessageSerializeMapTile decodedTile = buffer
    rw [tile, row, column, List.append_assoc, middle, List.take_append_drop]
  exact ⟨rfl, by rw [whole], by rw [whole, length]; rfl⟩

theorem deserializePlayerState_body
    (decoded : socketMessageDeserializePlayerStateFromSocket input = some (message, rest)) :
    BodyOf message .playerState input rest := by
  unfold socketMessageDeserializePlayerStateFromSocket at decoded
  obtain ⟨⟨buffer, socket⟩, read, built⟩ := Option.bind_eq_some_iff.mp decoded
  cases built
  obtain ⟨rfl, two⟩ := readExactly_sound read
  obtain ⟨status, direction, rfl⟩ := List.length_eq_two.mp two
  refine ⟨rfl, ?_, rfl⟩
  simp [body, socketMessageSerializePlayerState]

theorem deserializeDirection_body
    (decoded : socketMessageDeserializeDirectionFromSocket input = some (message, rest)) :
    BodyOf message .direction input rest := by
  unfold socketMessageDeserializeDirectionFromSocket at decoded
  obtain ⟨⟨buffer, socket⟩, read, built⟩ := Option.bind_eq_some_iff.mp decoded
  cases built
  obtain ⟨rfl, one⟩ := readExactly_sound read
  obtain ⟨direction, rfl⟩ := List.length_eq_one_iff.mp one
  refine ⟨rfl, ?_, rfl⟩
  simp [body, socketMessageSerializeDirection]

/-- An accepted message serialises to the bytes it was read from, at the calculated
length, and its first byte names a type. -/
theorem deserialize_canonical (decoded : socketMessageDeserializeFromSocket input = some (message, rest)) :
    input = socketMessageSerialize message ++ rest ∧
      input.length = 1 + socketMessageCalculateDataBufferSize message + rest.length ∧
      ∃ type, input.head? = some type ∧ type.toNat ≤ 11 := by
  unfold socketMessageDeserializeFromSocket at decoded
  obtain ⟨⟨rawType, socket⟩, readType, typed⟩ := Option.bind_eq_some_iff.mp decoded
  dsimp only at typed
  obtain ⟨type, known, built⟩ := Option.bind_eq_some_iff.mp typed
  obtain ⟨rfl, one⟩ := readExactly_sound readType
  obtain ⟨char, rfl⟩ := List.length_eq_one_iff.mp one
  have value : type.value = enumOfChar char := messageType_value known
  have read : BodyOf message type socket rest := by
    cases type with
    | magicBytes => exact deserializeMagicBytes_body built
    | map => exact deserializeMap_body built
    | tileChange => exact deserializeTileChange_body built
    | playerState => exact deserializePlayerState_body built
    | direction => exact deserializeDirection_body built
    | gameFull | connected | disconnect | gameEnd | pause | unpause | respawn =>
      cases built
      exact ⟨rfl, rfl, rfl⟩
  have written := serialize_body read.size
  rw [read.type, value, charOfEnum_enumOfChar] at written
  refine ⟨?_, ?_, char, rfl, ?_⟩
  · rw [written, read.bytes]
    rfl
  · rw [List.length_append, read.bytes, List.length_append, read.size, Nat.add_assoc]
    rfl
  · have highest : type.value ≤ 11 := by cases type <;> decide
    rw [value, enumOfChar] at highest
    split at highest <;> omega

/-- A player state whose status and direction have no name, and a map of 65536 by
65536 cells, of which none is sent. -/
theorem deserialize_canonical_unnamed :
    [5, 200, 255, 9] = socketMessageSerialize (.playerState (.undeclared (2 ^ 32 - 63)) (.undeclared (2 ^ 32 - 5))) ++
        [9] ∧
      [3, 0, 0, 1, 0, 0, 0, 1, 0] =
        socketMessageSerialize (.map { width := 65536, height := 65536, tiles := [] }) ++ [] := by
  constructor
  · have decoded : socketMessageDeserializeFromSocket [5, 200, 255, 9] =
        some (.playerState (.undeclared (2 ^ 32 - 63)) (.undeclared (2 ^ 32 - 5)), [9]) := by decide +kernel
    exact (deserialize_canonical decoded).1
  · have decoded : socketMessageDeserializeFromSocket [3, 0, 0, 1, 0, 0, 0, 1, 0] =
        some (.map { width := 65536, height := 65536, tiles := [] }, []) := by decide +kernel
    exact (deserialize_canonical decoded).1

end SnakePosix.CanonicalBytes
