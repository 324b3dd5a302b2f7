import SnakePosix.Foundation.Footprints
import SnakePosix.Foundation.Simulations
import SnakePosix.SnakeRuns

/-! The game as its players see it, without tiles, orders, caches or a changelog: who
holds a slot, what each player does, where each snake lies, and the walls and fruits. -/
namespace SnakePosix
open MapProofs Torus TickTurns GameRuns

structure Arena where
  player : Nat → Player
  held : Nat → Bool
  /-- From the tail to the head; a player without a snake has no cells. -/
  body : Nat → List Coordinates
  wall : Coordinates → Bool
  fruit : Coordinates → Bool

/-! ## The rules -/

/-- What one tick makes of a player and of its snake's cells. A snake eats where there
is food for it, and dies where it is barred. -/
inductive Fate (width height : Nat) (food barred : Coordinates → Prop) (player : Player) (body : List Coordinates) :
    Player → List Coordinates → Prop where
  | absent (snakeless : ¬ HasSnake player.status) (waiting : ¬ Spawning player.status) :
    Fate width height food barred player body player []
  | rests (status : player.status = .paused) : Fate width height food barred player body player body
  | advances (status : player.status = .playing) (front : body.getLast? = some head) :
    Fate width height food barred player body player (body.tail ++ [torusMove width height head player.direction])
  | eats (status : player.status = .playing) (front : body.getLast? = some head)
    (fruit : food (torusMove width height head player.direction)) :
    Fate width height food barred player body player (body ++ [torusMove width height head player.direction])
  | dies (status : player.status = .playing) (front : body.getLast? = some head)
    (blocked : barred (torusMove width height head player.direction)) :
    Fate width height food barred player body { player with status := .dead } []
  | leaves (status : player.status = .disconnecting) :
    Fate width height food barred player body { player with status := .notConnected } []
  /-- A new snake faces away from its tail. -/
  | spawns (status : Spawning player.status) (inside : head.InGrid width height)
    (behind : tail = torusMove width height head direction) :
    Fate width height food barred player body
      { status := .playing, direction := directionGetOpposite direction } [tail, head]
  | waits (status : Spawning player.status) :
    Fate width height food barred player body { player with status := .dead } []

/-- There is a fruit, or a player before this one joins and has a fruit planted. -/
def Arena.Food (before : Arena) (p : Nat) (c : Coordinates) : Prop :=
  before.fruit c = true ∨ ∃ q < p, (before.player q).status = .joining

/-- A wall, or a cell of a snake before or after the tick. -/
def Arena.Barred (before after : Arena) (c : Coordinates) : Prop :=
  before.wall c = true ∨ ∃ q < maxPlayers, c ∈ before.body q ∨ c ∈ after.body q

structure Arena.Ticked (width height : Nat) (before after : Arena) : Prop where
  fate : ∀ p < maxPlayers, Fate width height (before.Food p) (before.Barred after) (before.player p) (before.body p)
    (after.player p) (after.body p)
  wall : after.wall = before.wall

/-- What a player or its connection does moves no snake. -/
structure Arena.Operated (action : Action) (before after : Arena) : Prop where
  body : after.body = before.body
  wall : after.wall = before.wall
  fruit : after.fruit = before.fruit
  moved : ∀ p, Moved (before.held p) (after.held p) (before.player p).status (after.player p).status
  steered : ∀ p, (after.player p).direction = (before.player p).direction ∨
    action = .setPlayerDirection p (after.player p).direction ∨
      action = .register ∧ (before.player p).status = .notConnected

def Arena.Step (width height : Nat) (before : Arena) (action : Action) (after : Arena) : Prop :=
  match action with
  | .tick _ => before.Ticked width height after
  | action => before.Operated action after

/-! ## What the arena of a game is -/

/-- A player's cells on the map, by their orders. -/
def snakeBody (map : Map) (player : Nat) : List Coordinates :=
  ((cells map.width map.height).filter fun c => Owns map player c).insertionSort
    fun c c' => (map.tiles c).order ≤ (map.tiles c').order

def Game.arena (game : Game) : Arena where
  player := game.manager.players
  held := game.registered
  body := snakeBody game.server.gameState.map
  wall := fun c => (mapGetTileState game.server.gameState.map c).type == .wall
  fruit := fun c => (mapGetTileState game.server.gameState.map c).type == .fruit

/-- A watcher's notes on the players' snakes along a run. -/
def Game.notes (game : Game) (notes : Nat → List Coordinates) : List Action → Nat → List Coordinates
  | [] => notes
  | action :: rest =>
    match game.step action with
    | .ok next => next.notes (fun p => Footprints.note (notes p) (next.arena.body p)) rest
    | .error _ => notes

end SnakePosix
