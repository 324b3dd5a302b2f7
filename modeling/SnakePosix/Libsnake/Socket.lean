import SnakePosix.Foundation.ReadPrograms
import SnakePosix.Libsnake.SocketMessage

/-! `socket_read` of `socket.c` call by call, for threads that share a table of
descriptors: the number is looked up when `read` is called, and the call goes on
reading what it has found even if the number is closed meanwhile. -/
namespace SnakePosix
open Wire ReadPrograms

/-! ## `socket_message_deserialize_from_socket` as a computation -/

def socketMessageMapReads : ReadProgram SocketMessage :=
  .read (2 * 4) fun dimensions =>
    let width := decodeLE (dimensions.take 4)
    let height := decodeLE (dimensions.drop 4)
    let length := tileCount width height
    .read (length * (8 + 1 + 2)) fun tilesBuffer =>
      .done (some (.map { width, height, tiles := socketMessageDeserializeMapTiles length tilesBuffer }))

def socketMessageTileChangeReads : ReadProgram SocketMessage :=
  .read (2 * 4 + 8 + 1 + 2) fun buffer =>
    let row := decodeLE (buffer.take 4)
    let column := decodeLE ((buffer.drop 4).take 4)
    let (tile, _) := socketMessageDeserializeMapTile (buffer.drop (2 * 4))
    .done (some (.tileChange { row, column, tile }))

def socketMessagePlayerStateReads : ReadProgram SocketMessage :=
  .read 2 fun buffer =>
    let status := PlayerStatus.ofValue (enumOfChar (buffer.getD 0 0))
    let direction := Direction.ofValue (enumOfChar (buffer.getD 1 0))
    .done (some (.playerState status direction))

def socketMessageDirectionData (buffer : List UInt8) : ReadProgram SocketMessage :=
  .done (some (.direction (Direction.ofValue (enumOfChar (buffer.getD 0 0)))))

def socketMessageMagicBytesData (bytes : List UInt8) : ReadProgram SocketMessage :=
  .done (some (.magicBytes bytes))

/-- What comes after the type. -/
def socketMessageDataReads : SocketMessageType → ReadProgram SocketMessage
  | .magicBytes => .read 4 socketMessageMagicBytesData
  | .map => socketMessageMapReads
  | .tileChange => socketMessageTileChangeReads
  | .playerState => socketMessagePlayerStateReads
  | .direction => .read 1 socketMessageDirectionData
  | .gameFull => .done (some .gameFull)
  | .connected => .done (some .connected)
  | .disconnect => .done (some .disconnect)
  | .gameEnd => .done (some .gameEnd)
  | .pause => .done (some .pause)
  | .unpause => .done (some .unpause)
  | .respawn => .done (some .respawn)

def socketMessageTypeReads (rawType : List UInt8) : ReadProgram SocketMessage :=
  match SocketMessageType.ofValue (enumOfChar (rawType.getD 0 0)) with
  | none => .done none
  | some type => socketMessageDataReads type

def socketMessageReads : ReadProgram SocketMessage := .read 1 socketMessageTypeReads

/-! ## `socket_read` -/

/-- One call of `socket_read`. -/
structure SocketRead where
  length : Nat
  readBytes : Nat
  buffer : List UInt8
  /-- What the caller does with the buffer. -/
  next : List UInt8 → ReadProgram SocketMessage

/-- Where a thread is in `socket_message_deserialize_from_socket`; `ι` names the
sockets. -/
inductive SocketReader (ι : Type) where
  /-- About to call `read`. -/
  | reading (call : SocketRead)
  /-- In `read`, on the socket that the number stood for. -/
  | blocked (source : ι) (call : SocketRead)
  | returned (message : Option SocketMessage)

variable {ι : Type}

/-- Up to the next call of `read`; `memory` is what a buffer holds before it is read
into. -/
def SocketReader.begin (memory : Nat → UInt8) : ReadProgram SocketMessage → SocketReader ι
  | .done result => .returned result
  | .read length next =>
    if length = 0 then begin memory (next [])
    else .reading { length, readBytes := 0, buffer := (List.range length).map memory, next }

/-- `read` is called; it fails on a number that is not open. -/
def SocketRead.call (self : SocketRead) (target : Option ι) : SocketReader ι :=
  match target with
  | some source => .blocked source self
  | none => .returned none

/-- `read` returns with some bytes, which it has written to the start of the buffer. -/
def SocketRead.receive (memory : Nat → UInt8) (self : SocketRead) (chunk : List UInt8) : SocketReader ι :=
  let readBytes := self.readBytes + chunk.length
  let buffer := overwrite self.buffer 0 chunk
  if readBytes < self.length then .reading { self with readBytes, buffer }
  else .begin memory (self.next buffer)

end SnakePosix
