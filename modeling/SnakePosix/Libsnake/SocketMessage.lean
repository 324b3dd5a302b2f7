import SnakePosix.Foundation.Wire
import SnakePosix.Libsnake.Map
import SnakePosix.Libsnake.Player

/-! The messages of `socket_message.c`. A socket is the stream of bytes still to
be read from it; `socket_read` delivers exactly the bytes asked for. Sizes are
those of an LP64 machine with a signed `char`. -/
namespace SnakePosix
open Wire

/-! ## Enumerations in a `char` -/

/-- `(char) value` -/
def charOfEnum (value : Nat) : UInt8 := UInt8.ofNat value

/-- A `char` read back as an enumeration: the sign is extended to an `unsigned int`. -/
def enumOfChar (char : UInt8) : Nat :=
  if char.toNat < 128 then char.toNat else char.toNat + (2 ^ 32 - 256)

def MapTileType.value : MapTileType → Nat
  | .empty => 0
  | .player => 1
  | .fruit => 2
  | .wall => 3
  | .dead => 4
  | .undeclared excess => 5 + excess

def MapTileType.ofValue : Nat → MapTileType
  | 0 => .empty
  | 1 => .player
  | 2 => .fruit
  | 3 => .wall
  | 4 => .dead
  | excess + 5 => .undeclared excess

/-- One of the five named types. -/
def MapTileType.Declared : MapTileType → Prop
  | .undeclared _ => False
  | _ => True

def PlayerStatus.value : PlayerStatus → Nat
  | .notConnected => 0
  | .playing => 1
  | .paused => 2
  | .dead => 3
  | .respawning => 4
  | .joining => 5
  | .disconnecting => 6
  | .undeclared excess => 7 + excess

def PlayerStatus.ofValue : Nat → PlayerStatus
  | 0 => .notConnected
  | 1 => .playing
  | 2 => .paused
  | 3 => .dead
  | 4 => .respawning
  | 5 => .joining
  | 6 => .disconnecting
  | excess + 7 => .undeclared excess

def Direction.value : Direction → Nat
  | .up => 0
  | .left => 1
  | .down => 2
  | .right => 3
  | .undeclared excess => 4 + excess

def Direction.ofValue : Nat → Direction
  | 0 => .up
  | 1 => .left
  | 2 => .down
  | 3 => .right
  | excess + 4 => .undeclared excess

/-! ## `socket_message.h` -/

inductive SocketMessageType where
  | magicBytes
  | gameFull
  | connected
  | map
  | tileChange
  | playerState
  | direction
  | disconnect
  | gameEnd
  | pause
  | unpause
  | respawn
  deriving DecidableEq, Repr

def SocketMessageType.value : SocketMessageType → Nat
  | .magicBytes => 0
  | .gameFull => 1
  | .connected => 2
  | .map => 3
  | .tileChange => 4
  | .playerState => 5
  | .direction => 6
  | .disconnect => 7
  | .gameEnd => 8
  | .pause => 9
  | .unpause => 10
  | .respawn => 11

/-- `none` is a value above the last type, which the code refuses. -/
def SocketMessageType.ofValue : Nat → Option SocketMessageType
  | 0 => some .magicBytes
  | 1 => some .gameFull
  | 2 => some .connected
  | 3 => some .map
  | 4 => some .tileChange
  | 5 => some .playerState
  | 6 => some .direction
  | 7 => some .disconnect
  | 8 => some .gameEnd
  | 9 => some .pause
  | 10 => some .unpause
  | 11 => some .respawn
  | _ => none

structure SocketMessageMapData where
  width : Nat
  height : Nat
  tiles : List MapTile
  deriving DecidableEq, Repr

structure SocketMessageTileChange where
  row : Nat
  column : Nat
  tile : MapTile
  deriving DecidableEq, Repr

/-- A message with the data of its type, so that the two cannot disagree. -/
inductive SocketMessage where
  | magicBytes (bytes : List UInt8)
  | gameFull
  | connected
  | map (data : SocketMessageMapData)
  | tileChange (data : SocketMessageTileChange)
  | playerState (status : PlayerStatus) (direction : Direction)
  | direction (direction : Direction)
  | disconnect
  | gameEnd
  | pause
  | unpause
  | respawn
  deriving DecidableEq, Repr

def SocketMessage.type : SocketMessage → SocketMessageType
  | .magicBytes _ => .magicBytes
  | .gameFull => .gameFull
  | .connected => .connected
  | .map _ => .map
  | .tileChange _ => .tileChange
  | .playerState _ _ => .playerState
  | .direction _ => .direction
  | .disconnect => .disconnect
  | .gameEnd => .gameEnd
  | .pause => .pause
  | .unpause => .unpause
  | .respawn => .respawn

/-! ## Construction -/

def socketMessageInitMagicBytes (magicBytes : List UInt8) : SocketMessage :=
  .magicBytes (magicBytes.take 4)

def socketMessageInitGameFull : SocketMessage := .gameFull

def socketMessageInitConnected : SocketMessage := .connected

def socketMessageInitMap (map : Map) : SocketMessage :=
  .map
    { width := mapGetWidth map
      height := mapGetHeight map
      tiles := (cells (mapGetWidth map) (mapGetHeight map)).map (mapGetTileState map) }

def socketMessageInitTileChange (row column : Nat) (tile : MapTile) : SocketMessage :=
  .tileChange { row, column, tile }

def socketMessageInitPlayerState (status : PlayerStatus) (direction : Direction) : SocketMessage :=
  .playerState status direction

def socketMessageInitDirection (direction : Direction) : SocketMessage := .direction direction

def socketMessageInitDisconnect : SocketMessage := .disconnect

def socketMessageInitGameEnd : SocketMessage := .gameEnd

def socketMessageInitPause : SocketMessage := .pause

def socketMessageInitUnpause : SocketMessage := .unpause

def socketMessageInitRespawn : SocketMessage := .respawn

/-! ## Serialisation -/

def sizeofCoordinate : Nat := 4
def sizeofSize : Nat := 8
def sizeofPlayerId : Nat := 2

/-- `width * height` in `unsigned int`, as all three of size, writer and reader
compute it. -/
def tileCount (width height : Nat) : Nat := wrap32 (width * height)

def socketMessageCalculateDataBufferSize (self : SocketMessage) : Nat :=
  match self with
  | .magicBytes _ => 4
  | .map data =>
    2 * sizeofCoordinate + tileCount data.width data.height * (sizeofSize + 1 + sizeofPlayerId)
  | .tileChange _ => 2 * sizeofCoordinate + (sizeofSize + 1 + sizeofPlayerId)
  | .playerState _ _ => 2
  | .direction _ => 1
  | _ => 0

def socketMessageSerializeMagicBytes (bytes : List UInt8) : List UInt8 := bytes.take 4

def socketMessageSerializeMapTile (tile : MapTile) : List UInt8 :=
  encodeLE 8 tile.order ++ [charOfEnum tile.type.value] ++ encodeLE 2 tile.player

/-- A read past the tile array is given some tile; `socket_message_init_map` and
the reader allocate as many as are written here. -/
def socketMessageSerializeMap (data : SocketMessageMapData) : List UInt8 :=
  encodeLE 4 data.width ++ encodeLE 4 data.height ++
    (List.range (tileCount data.width data.height)).flatMap fun i =>
      socketMessageSerializeMapTile (data.tiles.getD i { order := 0, type := .empty, player := 0 })

def socketMessageSerializeTileChange (data : SocketMessageTileChange) : List UInt8 :=
  encodeLE 4 data.row ++ encodeLE 4 data.column ++ socketMessageSerializeMapTile data.tile

def socketMessageSerializePlayerState (status : PlayerStatus) (direction : Direction) : List UInt8 :=
  [charOfEnum status.value, charOfEnum direction.value]

def socketMessageSerializeDirection (direction : Direction) : List UInt8 := [charOfEnum direction.value]

def socketMessageSerialize (self : SocketMessage) : List UInt8 :=
  let length := 1 + socketMessageCalculateDataBufferSize self
  let buffer := overwrite (List.replicate length 0x69) 0 [charOfEnum self.type.value]
  match self with
  | .magicBytes bytes => overwrite buffer 1 (socketMessageSerializeMagicBytes bytes)
  | .map data => overwrite buffer 1 (socketMessageSerializeMap data)
  | .tileChange data => overwrite buffer 1 (socketMessageSerializeTileChange data)
  | .playerState status direction => overwrite buffer 1 (socketMessageSerializePlayerState status direction)
  | .direction direction => overwrite buffer 1 (socketMessageSerializeDirection direction)
  | _ => buffer

/-! ## Deserialisation -/

/-- `socket_read`: false is `none`. -/
def socketRead (socket : List UInt8) (length : Nat) : Option (List UInt8 × List UInt8) :=
  readExactly socket length

def socketMessageDeserializeMagicBytesFromSocket (socket : List UInt8) :
    Option (SocketMessage × List UInt8) := do
  let (bytes, socket) ← socketRead socket 4
  some (.magicBytes bytes, socket)

/-- The tile and the rest of the buffer. -/
def socketMessageDeserializeMapTile (buffer : List UInt8) : MapTile × List UInt8 :=
  let order := decodeLE (buffer.take 8)
  let buffer := buffer.drop 8
  let type := MapTileType.ofValue (enumOfChar (buffer.headD 0))
  let buffer := buffer.drop 1
  let player := decodeLE (buffer.take 2)
  ({ order, type, player }, buffer.drop 2)

/-- The loop over the tiles of a map. -/
def socketMessageDeserializeMapTiles : Nat → List UInt8 → List MapTile
  | 0, _ => []
  | length + 1, buffer =>
    let (tile, buffer) := socketMessageDeserializeMapTile buffer
    tile :: socketMessageDeserializeMapTiles length buffer

def socketMessageDeserializeMapFromSocket (socket : List UInt8) : Option (SocketMessage × List UInt8) := do
  let (dimensions, socket) ← socketRead socket (2 * 4)
  let width := decodeLE (dimensions.take 4)
  let height := decodeLE (dimensions.drop 4)
  let length := tileCount width height
  let (tilesBuffer, socket) ← socketRead socket (length * (8 + 1 + 2))
  some (.map { width, height, tiles := socketMessageDeserializeMapTiles length tilesBuffer }, socket)

def socketMessageDeserializeTileChangeFromSocket (socket : List UInt8) :
    Option (SocketMessage × List UInt8) := do
  let (buffer, socket) ← socketRead socket (2 * 4 + 8 + 1 + 2)
  let row := decodeLE (buffer.take 4)
  let column := decodeLE ((buffer.drop 4).take 4)
  let (tile, _) := socketMessageDeserializeMapTile (buffer.drop (2 * 4))
  some (.tileChange { row, column, tile }, socket)

def socketMessageDeserializePlayerStateFromSocket (socket : List UInt8) :
    Option (SocketMessage × List UInt8) := do
  let (buffer, socket) ← socketRead socket 2
  let status := PlayerStatus.ofValue (enumOfChar (buffer.getD 0 0))
  let direction := Direction.ofValue (enumOfChar (buffer.getD 1 0))
  some (.playerState status direction, socket)

def socketMessageDeserializeDirectionFromSocket (socket : List UInt8) :
    Option (SocketMessage × List UInt8) := do
  let (buffer, socket) ← socketRead socket 1
  some (.direction (Direction.ofValue (enumOfChar (buffer.getD 0 0))), socket)

def socketMessageDeserializeFromSocket (socket : List UInt8) : Option (SocketMessage × List UInt8) := do
  let (rawType, socket) ← socketRead socket 1
  let type ← SocketMessageType.ofValue (enumOfChar (rawType.getD 0 0))
  match type with
  | .magicBytes => socketMessageDeserializeMagicBytesFromSocket socket
  | .map => socketMessageDeserializeMapFromSocket socket
  | .tileChange => socketMessageDeserializeTileChangeFromSocket socket
  | .playerState => socketMessageDeserializePlayerStateFromSocket socket
  | .direction => socketMessageDeserializeDirectionFromSocket socket
  | .gameFull => some (.gameFull, socket)
  | .connected => some (.connected, socket)
  | .disconnect => some (.disconnect, socket)
  | .gameEnd => some (.gameEnd, socket)
  | .pause => some (.pause, socket)
  | .unpause => some (.unpause, socket)
  | .respawn => some (.respawn, socket)

/-! ## Applying a map message -/

/-- An index of `tiles_[MAX_MAP_HEIGHT][MAX_MAP_WIDTH]`. -/
def Coordinates.InArrays (self : Coordinates) : Prop :=
  self.row < maxMapHeight ∧ self.column < maxMapWidth

instance (self : Coordinates) : Decidable self.InArrays := inferInstanceAs (Decidable (_ ∧ _))

/-- A write to `tiles_`; `none` is one out of range. -/
def mapTilesWrite (write : Map → Coordinates → Map) (map : Map) (coordinates : Coordinates) : Option Map :=
  if coordinates.InArrays then some (write map coordinates) else none

/-- `none` is a read past the message's tiles or a write past the map's. -/
def socketMessageDeserializeToMap (self : SocketMessage) (map : Map) : Option Map :=
  match self with
  | .map data => do
    let visited := cells data.width data.height
    let map ← visited.foldlM (mapTilesWrite mapSetTileEmpty)
      { map with width := data.width, height := data.height }
    visited.zipIdx.foldlM (fun map (coordinates, index) => do
      let tile ← data.tiles[index]?
      mapTilesWrite (mapSetTileState · · tile) map coordinates) map
  | _ => some map

end SnakePosix
