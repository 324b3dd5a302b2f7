import SnakePosix.Libsnake.Socket
import SnakePosix.Torus

/-! What one side of a socket sends, the other side reads. The size that is
calculated, the bytes that are written and the bytes that are read agree for
every message, so a stream of messages needs no lengths of its own. -/
namespace SnakePosix.SocketRoundTrip
open Wire ReadPrograms Torus

/-- A tile that fits the wire format. -/
structure TileInRange (tile : MapTile) : Prop where
  order : tile.order < 2 ^ 64
  player : tile.player < 2 ^ 16
  type : tile.type.Declared

/-- The messages the constructors build from data in range. -/
inductive Built : SocketMessage → Prop where
  | magicBytes (four : 4 ≤ bytes.length) : Built (socketMessageInitMagicBytes bytes)
  | gameFull : Built socketMessageInitGameFull
  | connected : Built socketMessageInitConnected
  | map {map : Map} (width : map.width ≤ maxMapWidth) (height : map.height ≤ maxMapHeight)
    (tiles : ∀ c, map.InBounds c → TileInRange (map.tiles c)) : Built (socketMessageInitMap map)
  | tileChange (row : i < 2 ^ 32) (column : j < 2 ^ 32) (tile : TileInRange t) :
    Built (socketMessageInitTileChange i j t)
  | playerState (status : s.Declared) (direction : d.Declared) : Built (socketMessageInitPlayerState s d)
  | direction (direction : d.Declared) : Built (socketMessageInitDirection d)
  | disconnect : Built socketMessageInitDisconnect
  | gameEnd : Built socketMessageInitGameEnd
  | pause : Built socketMessageInitPause
  | unpause : Built socketMessageInitUnpause
  | respawn : Built socketMessageInitRespawn

variable {tile : MapTile} {data : SocketMessageMapData} {rest : List UInt8}

/-! ## Enumerations -/

theorem tileType_char {type : MapTileType} (declared : type.Declared) :
    MapTileType.ofValue (enumOfChar (charOfEnum type.value)) = type := by
  cases type with
  | undeclared => cases declared
  | empty | player | fruit | wall | dead => rfl

theorem status_char {status : PlayerStatus} (declared : status.Declared) :
    PlayerStatus.ofValue (enumOfChar (charOfEnum status.value)) = status := by
  cases status with
  | undeclared => cases declared
  | notConnected | playing | paused | dead | respawning | joining | disconnecting => rfl

theorem direction_char {direction : Direction} (declared : direction.Declared) :
    Direction.ofValue (enumOfChar (charOfEnum direction.value)) = direction := by
  cases direction with
  | undeclared => cases declared
  | up | left | down | right => rfl

theorem messageType_char (type : SocketMessageType) :
    SocketMessageType.ofValue (enumOfChar (charOfEnum type.value)) = some type := by
  cases type <;> rfl

/-! ## Tiles -/

@[simp] theorem serializeMapTile_length (tile : MapTile) :
    (socketMessageSerializeMapTile tile).length = sizeofSize + 1 + sizeofPlayerId := by
  simp [socketMessageSerializeMapTile, sizeofSize, sizeofPlayerId]

theorem deserializeMapTile_serialize (inRange : TileInRange tile) (rest : List UInt8) :
    socketMessageDeserializeMapTile (socketMessageSerializeMapTile tile ++ rest) = (tile, rest) := by
  have order : decodeLE (encodeLE 8 tile.order) = tile.order := decodeLE_encodeLE_of_lt inRange.order
  have player : decodeLE (encodeLE 2 tile.player) = tile.player := decodeLE_encodeLE_of_lt inRange.player
  have type := tileType_char inRange.type
  unfold socketMessageDeserializeMapTile socketMessageSerializeMapTile
  simp [List.drop_append, order, player, type]

theorem deserializeMapTiles_serialize (tiles : List MapTile) (inRange : ∀ tile ∈ tiles, TileInRange tile) :
    socketMessageDeserializeMapTiles tiles.length (tiles.flatMap socketMessageSerializeMapTile) = tiles := by
  induction tiles with
  | nil => rfl
  | cons tile tiles ih =>
    have first := deserializeMapTile_serialize (inRange tile List.mem_cons_self)
      (tiles.flatMap socketMessageSerializeMapTile)
    have later := ih fun tile member => inRange tile (List.mem_cons_of_mem _ member)
    simp only [List.flatMap_cons, List.length_cons, socketMessageDeserializeMapTiles, first, later]

theorem deserializeMapTiles_length (length : Nat) (buffer : List UInt8) :
    (socketMessageDeserializeMapTiles length buffer).length = length := by
  induction length generalizing buffer with
  | zero => rfl
  | succ length ih => rw [socketMessageDeserializeMapTiles, List.length_cons, ih]

/-- Reading an array index by index gives the array. -/
private theorem map_getD_range (list : List α) (default : α) :
    (List.range list.length).map (fun i => list.getD i default) = list := by
  refine List.ext_getElem (by simp) fun i _ within => ?_
  simp [within]

/-- The loop over the tile array writes the array. -/
theorem serializeMap_tiles (length : data.tiles.length = tileCount data.width data.height) :
    socketMessageSerializeMap data = encodeLE 4 data.width ++ encodeLE 4 data.height ++
      data.tiles.flatMap socketMessageSerializeMapTile := by
  unfold socketMessageSerializeMap
  rw [← length, ← List.flatMap_map, map_getD_range]

theorem flatMap_tiles_length (tiles : List MapTile) :
    (tiles.flatMap socketMessageSerializeMapTile).length = tiles.length * (sizeofSize + 1 + sizeofPlayerId) := by
  simp [List.length_flatMap]

@[simp] theorem serializeTileChange_length (data : SocketMessageTileChange) :
    (socketMessageSerializeTileChange data).length =
      2 * sizeofCoordinate + (sizeofSize + 1 + sizeofPlayerId) := by
  simp [socketMessageSerializeTileChange, sizeofCoordinate, sizeofSize, sizeofPlayerId]

/-! ## The size of a message -/

/-- The bytes after the type. -/
def body : SocketMessage → List UInt8
  | .magicBytes bytes => socketMessageSerializeMagicBytes bytes
  | .map data => socketMessageSerializeMap data
  | .tileChange data => socketMessageSerializeTileChange data
  | .playerState status direction => socketMessageSerializePlayerState status direction
  | .direction direction => socketMessageSerializeDirection direction
  | _ => []

/-- Where the calculated size is that of the body, the buffer is written full:
no byte of its filling is left, and none past its end is touched. -/
theorem serialize_body {message : SocketMessage}
    (size : (body message).length = socketMessageCalculateDataBufferSize message) :
    socketMessageSerialize message = charOfEnum message.type.value :: body message := by
  unfold socketMessageSerialize
  rw [← size]
  cases message with
  | magicBytes | map | tileChange | playerState | direction => exact overwrite_all ..
  | gameFull | connected | disconnect | gameEnd | pause | unpause | respawn => exact overwrite_first ..

/-- The tiles of a map message are as many as its dimensions say. -/
theorem initMap_tiles_length (map : Map) :
    ((cells map.width map.height).map (mapGetTileState map)).length = map.width * map.height := by
  rw [List.length_map, cells_length]

theorem tileCount_of_arrays (width : w ≤ maxMapWidth) (height : h ≤ maxMapHeight) : tileCount w h = w * h := by
  refine Nat.mod_eq_of_lt (Nat.lt_of_le_of_lt (Nat.mul_le_mul width height) ?_)
  decide

theorem built_size {message : SocketMessage} (built : Built message) :
    (body message).length = socketMessageCalculateDataBufferSize message := by
  cases built with
  | magicBytes four =>
    simp [body, socketMessageInitMagicBytes, socketMessageSerializeMagicBytes,
      socketMessageCalculateDataBufferSize, four]
  | @map map width height tiles =>
    have length := (initMap_tiles_length map).trans (tileCount_of_arrays width height).symm
    simp only [body, socketMessageInitMap, socketMessageCalculateDataBufferSize, mapGetWidth, mapGetHeight]
    rw [serializeMap_tiles length]
    simp only [List.length_append, encodeLE_length, flatMap_tiles_length, length, sizeofCoordinate]
  | tileChange => exact serializeTileChange_length _
  | playerState => rfl
  | direction => rfl
  | gameFull | connected | disconnect | gameEnd | pause | unpause | respawn => rfl

/-! ## Reading a message back -/

private theorem read_type (message : SocketMessage) (bytes : List UInt8) :
    socketRead (charOfEnum message.type.value :: bytes) 1 = some ([charOfEnum message.type.value], bytes) := by
  have read : socketRead ([charOfEnum message.type.value] ++ bytes) 1 =
      some ([charOfEnum message.type.value], bytes) := readExactly_append rfl
  exact read

private theorem read_map (inRange : ∀ tile ∈ data.tiles, TileInRange tile) (width : data.width < 2 ^ 32)
    (height : data.height < 2 ^ 32) (length : data.tiles.length = tileCount data.width data.height) :
    socketMessageDeserializeMapFromSocket (socketMessageSerializeMap data ++ rest) = some (.map data, rest) := by
  have decodedWidth : decodeLE (encodeLE 4 data.width) = data.width := decodeLE_encodeLE_of_lt width
  have decodedHeight : decodeLE (encodeLE 4 data.height) = data.height := decodeLE_encodeLE_of_lt height
  have dimensions : socketRead (encodeLE 4 data.width ++ encodeLE 4 data.height ++
      (data.tiles.flatMap socketMessageSerializeMapTile ++ rest)) (2 * 4) =
        some (encodeLE 4 data.width ++ encodeLE 4 data.height,
          data.tiles.flatMap socketMessageSerializeMapTile ++ rest) :=
    readExactly_append (by simp)
  have tiles : socketRead (data.tiles.flatMap socketMessageSerializeMapTile ++ rest)
      (tileCount data.width data.height * (8 + 1 + 2)) =
        some (data.tiles.flatMap socketMessageSerializeMapTile, rest) :=
    readExactly_append (by rw [flatMap_tiles_length, length]; rfl)
  have decoded := deserializeMapTiles_serialize data.tiles inRange
  rw [length] at decoded
  rw [serializeMap_tiles length, List.append_assoc]
  unfold socketMessageDeserializeMapFromSocket
  simp only [dimensions, Option.bind_eq_bind, Option.bind_some]
  rw [List.take_left' (encodeLE_length 4 _), List.drop_left' (encodeLE_length 4 _), decodedWidth, decodedHeight]
  simp only [tiles, Option.bind_some, decoded]

private theorem read_tileChange (row : i < 2 ^ 32) (column : j < 2 ^ 32) (inRange : TileInRange tile) :
    socketMessageDeserializeTileChangeFromSocket
      (socketMessageSerializeTileChange { row := i, column := j, tile } ++ rest) =
        some (.tileChange { row := i, column := j, tile }, rest) := by
  have decodedRow : decodeLE (encodeLE 4 i) = i := decodeLE_encodeLE_of_lt row
  have decodedColumn : decodeLE (encodeLE 4 j) = j := decodeLE_encodeLE_of_lt column
  have decodedTile := deserializeMapTile_serialize inRange []
  rw [List.append_nil] at decodedTile
  have buffer : socketRead (socketMessageSerializeTileChange { row := i, column := j, tile } ++ rest)
      (2 * 4 + 8 + 1 + 2) =
        some (encodeLE 4 i ++ encodeLE 4 j ++ socketMessageSerializeMapTile tile, rest) :=
    readExactly_append (serializeTileChange_length _)
  unfold socketMessageDeserializeTileChangeFromSocket
  simp only [buffer, Option.bind_eq_bind, Option.bind_some]
  rw [List.append_assoc, List.take_left' (encodeLE_length 4 _), List.drop_left' (encodeLE_length 4 _),
    List.take_left' (encodeLE_length 4 _), decodedRow, decodedColumn, ← List.append_assoc,
    List.drop_left' (by simp), decodedTile]

/-! ## Read by read -/

private theorem dataReads_exact (type : SocketMessageType) (socket : List UInt8) :
    (socketMessageDataReads type).exact socket =
      match type with
      | .magicBytes => socketMessageDeserializeMagicBytesFromSocket socket
      | .map => socketMessageDeserializeMapFromSocket socket
      | .tileChange => socketMessageDeserializeTileChangeFromSocket socket
      | .playerState => socketMessageDeserializePlayerStateFromSocket socket
      | .direction => socketMessageDeserializeDirectionFromSocket socket
      | .gameFull => some (.gameFull, socket)
      | .connected => some (.connected, socket)
      | .disconnect => some (.disconnect, socket)
      | .gameEnd => some (.gameEnd, socket)
      | .pause => some (.pause, socket)
      | .unpause => some (.unpause, socket)
      | .respawn => some (.respawn, socket) := by
  cases type with
  | map =>
    simp only [socketMessageDataReads, socketMessageMapReads, socketMessageDeserializeMapFromSocket, socketRead,
      ReadProgram.exact, Option.bind_eq_bind]
    cases readExactly socket (2 * 4) with
    | none => rfl
    | some dimensions => rfl
  | _ => rfl

/-- The computation that asks for its bytes one read after another decodes what the
whole function does. -/
theorem socketMessageReads_exact (socket : List UInt8) :
    socketMessageReads.exact socket = socketMessageDeserializeFromSocket socket := by
  unfold socketMessageReads socketMessageDeserializeFromSocket socketRead
  rw [ReadProgram.exact]
  cases readExactly socket 1 with
  | none => rfl
  | some read =>
    simp only [Option.bind_some, Option.bind_eq_bind, socketMessageTypeReads]
    cases SocketMessageType.ofValue (enumOfChar (read.1.getD 0 0)) with
    | none => rfl
    | some type => exact dataReads_exact type read.2

/-- A message built from data in range reads back, whatever follows it. -/
theorem deserialize_serialize {message : SocketMessage} (built : Built message) (rest : List UInt8) :
    socketMessageDeserializeFromSocket (socketMessageSerialize message ++ rest) = some (message, rest) := by
  rw [serialize_body (built_size built), List.cons_append]
  unfold socketMessageDeserializeFromSocket
  simp only [read_type, Option.bind_eq_bind, Option.bind_some, List.getD_cons_zero, messageType_char]
  cases built with
  | @magicBytes bytes four =>
    have read : socketRead (bytes.take 4 ++ rest) 4 = some (bytes.take 4, rest) :=
      readExactly_append (by simp [four])
    simp only [socketMessageInitMagicBytes, SocketMessage.type, body, socketMessageSerializeMagicBytes,
      socketMessageDeserializeMagicBytesFromSocket, List.take_take, Nat.min_self, read, Option.bind_eq_bind,
      Option.bind_some]
  | @map map width height tiles =>
    have length := (initMap_tiles_length map).trans (tileCount_of_arrays width height).symm
    have inRange : ∀ tile ∈ (cells map.width map.height).map (mapGetTileState map), TileInRange tile := by
      intro tile member
      obtain ⟨c, inside, rfl⟩ := List.mem_map.mp member
      exact tiles c (mem_cells.mp inside)
    exact read_map inRange (Nat.lt_of_le_of_lt width (by decide)) (Nat.lt_of_le_of_lt height (by decide)) length
  | tileChange row column tile => exact read_tileChange row column tile
  | @playerState status direction declaredStatus declaredDirection =>
    have read : socketRead ([charOfEnum status.value, charOfEnum direction.value] ++ rest) 2 =
        some ([charOfEnum status.value, charOfEnum direction.value], rest) := readExactly_append rfl
    simp only [socketMessageInitPlayerState, SocketMessage.type, body, socketMessageSerializePlayerState,
      socketMessageDeserializePlayerStateFromSocket, read, Option.bind_eq_bind, Option.bind_some,
      List.getD_cons_zero, List.getD_cons_succ, status_char declaredStatus, direction_char declaredDirection]
  | @direction direction declared =>
    have read : socketRead ([charOfEnum direction.value] ++ rest) 1 =
        some ([charOfEnum direction.value], rest) := readExactly_append rfl
    simp only [socketMessageInitDirection, SocketMessage.type, body, socketMessageSerializeDirection,
      socketMessageDeserializeDirectionFromSocket, read, Option.bind_eq_bind, Option.bind_some,
      List.getD_cons_zero, direction_char declared]
  | gameFull | connected | disconnect | gameEnd | pause | unpause | respawn => rfl

/-- The messages on the other side of a socket are the messages sent, to the last
byte. -/
theorem deserialize_stream (messages : List SocketMessage) (built : ∀ message ∈ messages, Built message) :
    readMany socketMessageDeserializeFromSocket messages.length (messages.flatMap socketMessageSerialize) =
      some (messages, []) := by
  have read := readMany_flatMap messages []
    fun message member rest => deserialize_serialize (built message member) rest
  rwa [List.append_nil] at read

/-- One message of each kind that carries data, and one that does not. -/
def session : List SocketMessage :=
  [socketMessageInitMagicBytes [0x73, 0x6e, 0x65, 0x6b],
    socketMessageInitMap
      { tiles := fun _ => { order := 2 ^ 40, type := .player, player := 63 }, width := 3, height := 2 },
    socketMessageInitTileChange 1 2 { order := 0, type := .dead, player := 7 },
    socketMessageInitPlayerState .respawning .left, socketMessageInitDirection .down, socketMessageInitDisconnect]

theorem deserialize_stream_session :
    readMany socketMessageDeserializeFromSocket 6 (session.flatMap socketMessageSerialize) = some (session, []) := by
  refine deserialize_stream session fun message member => ?_
  simp only [session, List.mem_cons, List.not_mem_nil, or_false] at member
  rcases member with rfl | rfl | rfl | rfl | rfl | rfl
  · exact .magicBytes (by decide)
  · exact .map (by decide) (by decide) fun _ _ =>
      ⟨(by decide : 2 ^ 40 < 2 ^ 64), (by decide : 63 < 2 ^ 16), trivial⟩
  · exact .tileChange (by decide) (by decide) ⟨by decide, by decide, trivial⟩
  · exact .playerState trivial trivial
  · exact .direction trivial
  · exact .disconnect

end SnakePosix.SocketRoundTrip
