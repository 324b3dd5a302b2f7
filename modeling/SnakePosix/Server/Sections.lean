import SnakePosix.Server.Game

/-! The server as a client sees it that follows the map: the locked section of
`server_tick`, the ticker's turn behind it and `server_end_game`, with the operations
of the player manager between them. -/
namespace SnakePosix

/-- What an observer of the whole system writes down; no step reads it. -/
structure FollowerRecord where
  /-- The changes of the locked sections since the client was last given the whole map
  or a copy of the changelog. -/
  missed : List Change
  /-- The number of these sections. -/
  behind : Nat
  sections : Nat
  ticks : Nat

structure RunningServer where
  game : Game
  /-- The server has left the locked section of `server_tick`, or has set `game_ended_`,
  and not yet called `ticker_tick`. -/
  ticking : Bool
  record : FollowerRecord

abbrev RunningServer.gameState (self : RunningServer) : GameState := self.game.server.gameState

/-- A step that is not the server's next one does nothing. -/
def RunningServer.lockedSection (self : RunningServer) (rng : Rng) : Except Halt RunningServer :=
  if self.ticking ∨ self.gameState.gameEnded then .ok self
  else do
    let (server, _) ← serverTickLocked self.game.server rng
    .ok { game := { self.game with server }
          ticking := true
          record := { self.record with
            missed := self.record.missed ++ server.gameState.changelog
            behind := self.record.behind + 1
            sections := self.record.sections + 1 } }

def RunningServer.tickerTick (self : RunningServer) : RunningServer :=
  if self.ticking then
    { game := { self.game with server := self.game.server.tick }
      ticking := false
      record := { self.record with ticks := self.record.ticks + 1 } }
  else self

/-- `server_end_game` up to its call of `ticker_tick`. -/
def RunningServer.endGame (self : RunningServer) : RunningServer :=
  if self.ticking ∨ self.gameState.gameEnded then self
  else
    { self with
      game := { self.game with server := { self.game.server with
        gameState := { self.gameState with gameEnded := true } } }
      ticking := true }

def RunningServer.operate (self : RunningServer) (action : Action) : RunningServer :=
  { self with game := self.game.operate action }

/-- From here on the client has missed nothing. -/
def RunningServer.caughtUp (self : RunningServer) : RunningServer :=
  { self with record := { self.record with missed := [], behind := 0 } }

def RunningServer.start (game : Game) : RunningServer where
  game := game
  ticking := false
  record := { missed := [], behind := 0, sections := 0, ticks := 0 }

end SnakePosix
