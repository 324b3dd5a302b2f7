import SnakePosix.Foundation.Pieces
import SnakePosix.Libsnake.Socket

/-! `socket_read` and `socket_write` of `socket.c` call by call, for every way the
kernel may answer their calls. A loop is given a number of rounds; `none` is one that
is still running after them. -/
namespace SnakePosix
open Pieces Wire ReadPrograms

/-! ## `socket_read` -/

/-- A socket that is read: the bytes that have yet to be read, after which it is at
its end, and what the kernel answers to the calls. -/
structure ReadSide where
  stream : List UInt8
  answers : Nat → Option Nat
  calls : Nat

/-- `read`: -1, or at least one of the bytes that are left and at most as many as asked
for. At the end of the stream that is none. -/
def ReadSide.read (self : ReadSide) (count : Nat) : Option (List UInt8) × ReadSide :=
  let after := { self with calls := self.calls + 1 }
  match self.answers self.calls with
  | none => (none, after)
  | some draw =>
    let size := 1 + draw % count
    (some (self.stream.take size), { after with stream := self.stream.drop size })

def socketReadLoop (bufferLength : Nat) :
    Nat → ReadSide → Nat → List UInt8 → Option (Bool × List UInt8 × ReadSide)
  | 0, _, _, _ => none
  | rounds + 1, self, readBytes, buffer =>
    if readBytes < bufferLength then
      match self.read (bufferLength - readBytes) with
      | (none, self) => some (false, buffer, self)
      | (some chunk, self) =>
        socketReadLoop bufferLength rounds self (readBytes + chunk.length) (overwrite buffer 0 chunk)
    else some (true, buffer, self)

def socketReadCalls (rounds : Nat) (self : ReadSide) (buffer : List UInt8) :
    Option (Bool × List UInt8 × ReadSide) :=
  socketReadLoop buffer.length rounds self 0 buffer

/-- `memory` is what a buffer holds before it is read into. -/
def socketMessageReadCalls (memory : Nat → UInt8) (rounds : Nat) :
    ReadProgram SocketMessage → ReadSide → Option (Option SocketMessage × ReadSide)
  | .done result, socket => some (result, socket)
  | .read length next, socket =>
    match socketReadCalls rounds socket ((List.range length).map memory) with
    | none => none
    | some (false, _, socket) => some (none, socket)
    | some (true, buffer, socket) => socketMessageReadCalls memory rounds (next buffer) socket

/-- `socket_message_deserialize_from_socket`, whose result `false` is no message. -/
def socketMessageDeserializeCalls (memory : Nat → UInt8) (rounds : Nat) (socket : ReadSide) :
    Option (Option SocketMessage × ReadSide) :=
  socketMessageReadCalls memory rounds socketMessageReads socket

/-! ## `socket_write` -/

/-- A socket that is written to: the bytes the kernel has taken, and its answers. -/
structure WriteSide where
  accepted : List UInt8
  answers : Nat → Option Nat
  calls : Nat

/-- `write`: -1, or at least one and at most all of the bytes, from the first on. -/
def WriteSide.write (self : WriteSide) (bytes : List UInt8) : Option Nat × WriteSide :=
  let after := { self with calls := self.calls + 1 }
  match self.answers self.calls with
  | none => (none, after)
  | some draw =>
    let size := 1 + draw % bytes.length
    (some size, { after with accepted := self.accepted ++ bytes.take size })

def socketWriteLoop (buffer : List UInt8) : Nat → WriteSide → Nat → Option (Bool × WriteSide)
  | 0, _, _ => none
  | rounds + 1, self, writtenBytes =>
    if writtenBytes < buffer.length then
      match self.write (buffer.take (buffer.length - writtenBytes)) with
      | (none, self) => some (false, self)
      | (some count, self) => socketWriteLoop buffer rounds self (writtenBytes + count)
    else some (true, self)

def socketWriteCalls (rounds : Nat) (self : WriteSide) (buffer : List UInt8) : Option (Bool × WriteSide) :=
  socketWriteLoop buffer rounds self 0

def socketMessageSerializeToSocket (rounds : Nat) (self : SocketMessage) (socket : WriteSide) :
    Option (Bool × WriteSide) :=
  socketWriteCalls rounds socket (socketMessageSerialize self)

end SnakePosix
