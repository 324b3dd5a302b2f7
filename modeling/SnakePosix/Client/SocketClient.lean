import SnakePosix.Libsnake.SocketCalls

/-! The receiving loop of `socket_client.c`. -/
namespace SnakePosix

inductive SocketClientState where
  | connecting
  | playing
  | full
  | gameEnded
  | connectionError
  deriving DecidableEq, Repr

structure SocketClient where
  state : SocketClientState
  map : Map
  lastStatus : PlayerStatus
  lastDirection : Direction

/-- The loop's reaction to a message; `none` is an access out of range. -/
def socketClientProcess (self : SocketClient) (message : SocketMessage) : Option SocketClient :=
  match message with
  | .gameFull => some { self with state := .full }
  | .gameEnd => some { self with state := .gameEnded }
  | .connected => some { self with state := .playing }
  | .map data => do
    let map ← socketMessageDeserializeToMap (.map data) self.map
    some { self with map }
  | .tileChange data => do
    let map ← mapTilesWrite (mapSetTileState · · data.tile) self.map { row := data.row, column := data.column }
    some { self with map }
  | .playerState status direction => some { self with lastStatus := status, lastDirection := direction }
  | _ => some { self with state := .connectionError }

/-- A message that the loop processes, with what the stack held and what the socket
stood at when its reading began. -/
structure SocketReception where
  memory : Nat → UInt8
  socket : ReadSide
  message : SocketMessage

/-- The messages the loop processes in that many turns, call of `read` by call of
`read`. The loop goes on while it is connecting, or playing and not told to exit; `exit`
is what it finds in that flag at each turn. A message still being read after `rounds`
calls is not processed, and after an access out of range nothing more is known. -/
def socketClientLoop (memory : Nat → Nat → UInt8) (exit : Nat → Bool) (rounds : Nat) :
    Nat → Nat → SocketClient → ReadSide → List SocketReception
  | 0, _, _, _ => []
  | turns + 1, turn, self, socket =>
    if self.state = .connecting ∨ self.state = .playing ∧ exit turn = false then
      match socketMessageDeserializeCalls (memory turn) rounds socket with
      | none => []
      | some (none, _) => []
      | some (some message, rest) =>
        { memory := memory turn, socket, message } :: match socketClientProcess self message with
          | none => []
          | some next => socketClientLoop memory exit rounds turns (turn + 1) next rest
    else []

/-- What `socket_client_run` processes of the bytes it receives; `tiles` is what
the memory of its map held. The map is five by five until the first message. -/
def socketClientReceived (memory : Nat → Nat → UInt8) (exit : Nat → Bool) (tiles : Coordinates → MapTile)
    (rounds turns : Nat) (socket : ReadSide) : List SocketReception :=
  socketClientLoop memory exit rounds turns 0
    { state := .connecting
      map := mapInit { tiles, width := 0, height := 0 } 5 5
      lastStatus := .notConnected
      lastDirection := .up } socket

end SnakePosix
