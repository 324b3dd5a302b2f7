import SnakePosix.Foundation.Allocations
import SnakePosix.Libsnake.GameState
import SnakePosix.Libsnake.SocketCalls

/-! The memory behind a message: what the functions of `socket_message.c` allocate, read
and free. What they compute is taken from `SocketMessage` and what they read from
`SocketCalls`; `malloc` is taken to succeed. -/
namespace SnakePosix.MessageMemory
open Allocations Wire ReadPrograms

/-- Why a computation does not go on: an access to the map out of its range, or that it
is still running after the rounds it is given. -/
inductive Stop where
  | outOfRange
  | unfinished
  deriving DecidableEq, Repr

/-- Where `data_` points, and `tiles_` of a map behind it. -/
inductive MessageData (α : Type) where
  | none
  | data (block : α)
  | map (block tiles : α)

structure HeldMessage (α : Type) where
  message : SocketMessage
  data : MessageData α

variable {α ε : Type}

def MessageData.pointer : MessageData α → Option α
  | .none => .none
  | .data block | .map block _ => some block

def MessageData.tiles : MessageData α → Option α
  | .map _ tiles => some tiles
  | _ => .none

variable [DecidableEq α]

/-! ## Construction -/

/-- A message whose data is one block. -/
def initData (allocator : Allocator α) (message : SocketMessage) : Heaped α ε (HeldMessage α) := do
  let data ← malloc allocator
  access (some data)
  pure { message, data := .data data }

def socketMessageInitMagicBytes (allocator : Allocator α) (magicBytes : List UInt8) : Heaped α ε (HeldMessage α) :=
  initData allocator (SnakePosix.socketMessageInitMagicBytes magicBytes)

def socketMessageInitTileChange (allocator : Allocator α) (row column : Nat) (tile : MapTile) :
    Heaped α ε (HeldMessage α) :=
  initData allocator (SnakePosix.socketMessageInitTileChange row column tile)

def socketMessageInitPlayerState (allocator : Allocator α) (status : PlayerStatus) (direction : Direction) :
    Heaped α ε (HeldMessage α) :=
  initData allocator (SnakePosix.socketMessageInitPlayerState status direction)

def socketMessageInitDirection (allocator : Allocator α) (direction : Direction) : Heaped α ε (HeldMessage α) :=
  initData allocator (SnakePosix.socketMessageInitDirection direction)

def socketMessageInitMap (allocator : Allocator α) (map : Map) : Heaped α ε (HeldMessage α) := do
  let mapData ← malloc allocator
  access (some mapData)
  let tiles ← malloc allocator
  (cells (mapGetWidth map) (mapGetHeight map)).forM fun _ => do
    access (some mapData)
    access (some tiles)
  pure { message := SnakePosix.socketMessageInitMap map, data := .map mapData tiles }

/-- GAME_FULL, CONNECTED, DISCONNECT, GAME_END, PAUSE, UNPAUSE and RESPAWN have no data. -/
def initSimple (message : SocketMessage) : HeldMessage α := { message, data := .none }

/-! ## Serialisation -/

/-- A loop over the tiles of a map message. -/
def HeldMessage.accessTiles (self : HeldMessage α) (count : Nat) : Heaped α ε Unit :=
  (List.range count).forM fun _ => do
    access self.data.pointer
    access self.data.tiles

def socketMessageCalculateDataBufferSize (self : HeldMessage α) : Heaped α ε Unit :=
  match self.message with
  | .map _ => access self.data.pointer
  | _ => pure ()

/-- The functions `socket_message_serialize_magic_bytes` to `_direction`, by type. -/
def socketMessageSerializeData (self : HeldMessage α) : Heaped α ε Unit :=
  match self.message with
  | .map data => do
    access self.data.pointer
    self.accessTiles (tileCount data.width data.height)
  | .magicBytes _ | .tileChange _ | .playerState .. | .direction _ => access self.data.pointer
  | _ => pure ()

/-- The block of the buffer. -/
def socketMessageSerialize (allocator : Allocator α) (self : HeldMessage α) : Heaped α ε α := do
  socketMessageCalculateDataBufferSize self
  let buffer ← malloc allocator
  access (some buffer)
  socketMessageSerializeData self
  pure buffer

/-- `delivered` is what `socket_write` returns. -/
def socketMessageSerializeToSocket (allocator : Allocator α) (self : HeldMessage α) (delivered : Bool) :
    Heaped α ε Bool := do
  let buffer ← socketMessageSerialize allocator self
  access (some buffer)
  free (some buffer)
  pure delivered

/-! ## Deserialisation -/

/-- The message and the socket after it; `none` is the result `false`. -/
abbrev Received (α : Type) := Option (HeldMessage α × ReadSide)

variable (allocator : Allocator α) (memory : Nat → UInt8) (rounds : Nat)

def socketRead (socket : ReadSide) (length : Nat) : Heaped α Stop (Option (List UInt8 × ReadSide)) :=
  match socketReadCalls rounds socket ((List.range length).map memory) with
  | none => fail .unfinished
  | some (false, _, _) => pure none
  | some (true, buffer, socket) => pure (some (buffer, socket))

def socketMessageDeserializeMagicBytesFromSocket (socket : ReadSide) : Heaped α Stop (Received α) := do
  let data ← malloc allocator
  access (some data)
  match ← socketRead memory rounds socket 4 with
  | none => do
    free (some data)
    pure none
  | some (bytes, socket) => pure (some ({ message := .magicBytes bytes, data := .data data }, socket))

def socketMessageDeserializeMapFromSocket (socket : ReadSide) : Heaped α Stop (Received α) := do
  match ← socketRead memory rounds socket (2 * 4) with
  | none => pure none
  | some (dimensions, socket) => do
    let width := decodeLE (dimensions.take 4)
    let height := decodeLE (dimensions.drop 4)
    let length := tileCount width height
    let tilesBuffer ← malloc allocator
    access (some tilesBuffer)
    match ← socketRead memory rounds socket (length * (8 + 1 + 2)) with
    | none => do
      free (some tilesBuffer)
      pure none
    | some (buffer, socket) => do
      let tiles ← malloc allocator
      (List.range length).forM fun _ => do
        access (some tilesBuffer)
        access (some tiles)
      free (some tilesBuffer)
      let data ← malloc allocator
      access (some data)
      let message := .map { width, height, tiles := socketMessageDeserializeMapTiles length buffer }
      pure (some ({ message, data := .map data tiles }, socket))

/-- What has been read into a buffer of the stack is copied into one block. -/
def deserializeData (length : Nat) (decode : List UInt8 → SocketMessage) (socket : ReadSide) :
    Heaped α Stop (Received α) := do
  match ← socketRead memory rounds socket length with
  | none => pure none
  | some (buffer, socket) => do
    let data ← malloc allocator
    access (some data)
    pure (some ({ message := decode buffer, data := .data data }, socket))

def socketMessageDeserializeTileChangeFromSocket : ReadSide → Heaped α Stop (Received α) :=
  deserializeData allocator memory rounds (2 * 4 + 8 + 1 + 2) fun buffer =>
    let row := decodeLE (buffer.take 4)
    let column := decodeLE ((buffer.drop 4).take 4)
    let (tile, _) := socketMessageDeserializeMapTile (buffer.drop (2 * 4))
    .tileChange { row, column, tile }

def socketMessageDeserializePlayerStateFromSocket : ReadSide → Heaped α Stop (Received α) :=
  deserializeData allocator memory rounds 2 fun buffer =>
    let status := PlayerStatus.ofValue (enumOfChar (buffer.getD 0 0))
    let direction := Direction.ofValue (enumOfChar (buffer.getD 1 0))
    .playerState status direction

def socketMessageDeserializeDirectionFromSocket : ReadSide → Heaped α Stop (Received α) :=
  deserializeData allocator memory rounds 1 fun buffer =>
    .direction (Direction.ofValue (enumOfChar (buffer.getD 0 0)))

def socketMessageDeserializeFromSocket (socket : ReadSide) : Heaped α Stop (Received α) := do
  match ← socketRead memory rounds socket 1 with
  | none => pure none
  | some (rawType, socket) =>
    match SocketMessageType.ofValue (enumOfChar (rawType.getD 0 0)) with
    | none => pure none
    | some .magicBytes => socketMessageDeserializeMagicBytesFromSocket allocator memory rounds socket
    | some .map => socketMessageDeserializeMapFromSocket allocator memory rounds socket
    | some .tileChange => socketMessageDeserializeTileChangeFromSocket allocator memory rounds socket
    | some .playerState => socketMessageDeserializePlayerStateFromSocket allocator memory rounds socket
    | some .direction => socketMessageDeserializeDirectionFromSocket allocator memory rounds socket
    | some .gameFull => pure (some (initSimple .gameFull, socket))
    | some .connected => pure (some (initSimple .connected, socket))
    | some .disconnect => pure (some (initSimple .disconnect, socket))
    | some .gameEnd => pure (some (initSimple .gameEnd, socket))
    | some .pause => pure (some (initSimple .pause, socket))
    | some .unpause => pure (some (initSimple .unpause, socket))
    | some .respawn => pure (some (initSimple .respawn, socket))

/-! ## Destruction -/

def socketMessageDestroy (self : HeldMessage α) : Heaped α ε Unit :=
  match self.message with
  | .map _ => do
    access self.data.pointer
    free self.data.tiles
    free self.data.pointer
  | .magicBytes _ | .tileChange _ | .playerState .. | .direction _ => free self.data.pointer
  | _ => pure ()

/-! ## `syn_changelog_copy` -/

/-- `none` is the null pointer, for no changes. -/
def synChangelogCopy (allocator : Allocator α) (changelog : Changelog) : Heaped α ε (Option α) :=
  if changelog = [] then pure none
  else do
    let changes ← malloc allocator
    access (some changes)
    pure (some changes)

def synChangelogFreeCopy (changes : α) : Heaped α ε Unit := free (some changes)

end SnakePosix.MessageMemory
