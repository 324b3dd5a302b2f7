import SnakePosix.Libsnake.Map
import SnakePosix.Libsnake.Player

/-! The changelog, the ticker and the game state the server shares with its
clients. -/
namespace SnakePosix

/-! ## `changelog.h` -/

/-- A `change_t`. `CHANGE_TILE_STATE` is its only type. -/
structure Change where
  coordinates : Coordinates
  tileData : MapTile
  deriving DecidableEq, Repr

/-- The first `size_` entries of `changes_`. The array behind it has room for
`maxChangelogSize`, which no function checks. -/
abbrev Changelog := List Change

def changelogClear (_self : Changelog) : Changelog := []

def changelogPushTileStateChange (self : Changelog) (coordinates : Coordinates) (mapTile : MapTile) :
    Changelog :=
  self ++ [{ coordinates, tileData := mapTile }]

/-! ## `ticker.h` -/

structure Ticker where
  tick : Nat

def tickerTick (self : Ticker) : Ticker where
  tick := wrap64 (self.tick + 1)

structure TickerObserver where
  lastTick : Nat

def tickerObserverInit (ticker : Ticker) : TickerObserver where
  lastTick := ticker.tick

/-- `none` is a caller still blocked on the condition variable; otherwise the
number of ticks that passed. -/
def tickerObserverWaitForNextTick (self : TickerObserver) (ticker : Ticker) :
    Option (Nat × TickerObserver) :=
  if self.lastTick = ticker.tick then none
  else some (wrap64 (ticker.tick + (2 ^ 64 - self.lastTick)), { lastTick := ticker.tick })

/-! ## `game_state.h` -/

structure GameState where
  changelog : Changelog
  map : Map
  playerManager : PlayerManager
  ticker : Ticker
  gameEnded : Bool

/-- `map` and `directions` are the contents of the memory before it. -/
def gameStateInit (map : Map) (directions : Nat → Direction) (template : MapTemplate) : GameState where
  changelog := []
  map := mapInitFromTemplate map template
  playerManager := playerManagerInit directions
  ticker := { tick := 0 }
  gameEnded := false

end SnakePosix
