import SnakePosix.Server.Game

/-! The loop of `main.c`. -/
namespace SnakePosix

/-- What happens until the next tick: the operations of the clients' threads and
perhaps a signal. -/
structure Round where
  operations : List Action
  interrupted : Bool
  rng : Rng

/-- The variables of the loop; `ticks` counts its ticks and no step reads it. -/
structure MainLoop where
  game : Game
  gameRunning : Bool
  gameTickedAtLeastOnce : Bool
  ticks : Nat

def MainLoop.start (game : Game) : MainLoop where
  game := game
  gameRunning := false
  gameTickedAtLeastOnce := false
  ticks := 0

def Game.operateAll (self : Game) (operations : List Action) : Game :=
  operations.foldl Game.operate self

/-- The rest of the loop's body behind the test of `interrupted`. -/
def MainLoop.tick (self : MainLoop) (rng : Rng) : Except Halt MainLoop := do
  let (server, gameRunning) ← serverTick self.game.server rng
  .ok { game := { self.game with server }
        gameRunning
        gameTickedAtLeastOnce := if gameRunning then true else self.gameTickedAtLeastOnce
        ticks := self.ticks + 1 }

/-- Where the loop is after the rounds so far. -/
inductive LoopStage where
  | looping
  | finished
  | interrupted
  deriving DecidableEq, Repr

/-- `do … while (game_running || !game_ticked_at_least_once)`. With no round left
the loop is still in its wait. -/
def MainLoop.run (self : MainLoop) : List Round → Except Halt (MainLoop × LoopStage)
  | [] => .ok (self, .looping)
  | round :: rest => do
    let self := { self with game := self.game.operateAll round.operations }
    if round.interrupted then .ok (self, .interrupted)
    else
      let self ← self.tick round.rng
      if self.gameRunning || !self.gameTickedAtLeastOnce then self.run rest
      else .ok (self, .finished)

/-- `main` from `server_init` to `server_end_game`. -/
def serverMain (game : Game) (rounds : List Round) : Except Halt (Server × LoopStage) := do
  let (final, stage) ← (MainLoop.start game).run rounds
  match stage with
  | .looping => .ok (final.game.server, stage)
  | _ => .ok (serverEndGame final.game.server, stage)

end SnakePosix
