import SnakePosix.Libsnake.GameState

/-! One tick of the game: `server.c` with its `player_data_cache.c`. -/
namespace SnakePosix

/-! ## `player_data_cache.h` -/

structure PlayerDataCache where
  head : Nat → Coordinates
  tail : Nat → Coordinates

def playerDataCacheGetHead (self : PlayerDataCache) (player : Nat) : Coordinates := self.head player

def playerDataCacheGetTail (self : PlayerDataCache) (player : Nat) : Coordinates := self.tail player

def playerDataCacheSetHead (self : PlayerDataCache) (player : Nat) (coordinates : Coordinates) :
    PlayerDataCache :=
  { self with head := fun p => if p = player then coordinates else self.head p }

def playerDataCacheSetTail (self : PlayerDataCache) (player : Nat) (coordinates : Coordinates) :
    PlayerDataCache :=
  { self with tail := fun p => if p = player then coordinates else self.tail p }

/-! ## `server.c` -/

/-- Why a tick does not return: the process exits in `move_player_tail`, or one
of the two recursions is still running at the depth it was given. -/
inductive Halt where
  | nextTailNotFound
  | recursionTooDeep
  deriving DecidableEq, Repr

structure ProcessPlayerData where
  changelog : Changelog
  map : Map
  playerDataCache : PlayerDataCache
  fruitsEaten : Nat
  playerDied : Bool
  noPlayerAlive : Bool

/-- `PUSH_CHANGELOG_TILE` -/
def pushChangelogTile (data : ProcessPlayerData) (coordinates : Coordinates) : ProcessPlayerData :=
  { data with
    changelog := changelogPushTileStateChange data.changelog coordinates
      (mapGetTileState data.map coordinates) }

def movePlayerHead (data : ProcessPlayerData) (playerId : Nat) (nextHead : Coordinates) :
    ProcessPlayerData :=
  let head := playerDataCacheGetHead data.playerDataCache playerId
  let headState := mapGetTileState data.map head
  pushChangelogTile { data with
    map := mapSetTilePlayer data.map nextHead playerId (wrap64 (headState.order + 1))
    playerDataCache := playerDataCacheSetHead data.playerDataCache playerId nextHead } nextHead

/-- The part of `move_player_tail` that gives the old tail cell up, unless it was
overwritten by another snake or is the cell this snake's head has just entered. -/
def clearPlayerTail (data : ProcessPlayerData) (playerId : Nat) (tail : Coordinates) :
    ProcessPlayerData :=
  let tailState := mapGetTileState data.map tail
  if tailState.type = .player ∧ tailState.player = playerId then
    let head := playerDataCacheGetHead data.playerDataCache playerId
    if coordinatesEqual head tail then data
    else pushChangelogTile { data with map := mapSetTileEmpty data.map tail } tail
  else data

def movePlayerTail (data : ProcessPlayerData) (playerId : Nat) : Except Halt ProcessPlayerData :=
  let tail := playerDataCacheGetTail data.playerDataCache playerId
  let data := clearPlayerTail data playerId tail
  match mapFindPlayerNeighborWithLowestOrder data.map playerId tail with
  | none => .error .nextTailNotFound
  | some nextTail =>
    .ok (pushChangelogTile { data with
      playerDataCache := playerDataCacheSetTail data.playerDataCache playerId nextTail } nextTail)

/-- The status the caller's player is left with is part of the result. -/
def killPlayer (data : ProcessPlayerData) (playerId : Nat) (player : Player) :
    Except Halt (ProcessPlayerData × Player) :=
  let head := playerDataCacheGetHead data.playerDataCache playerId
  match mapMarkPlayerAsDead data.map.searchDepth data.map playerId head with
  | none => .error .recursionTooDeep
  | some map => .ok ({ data with map, playerDied := true }, { player with status := .dead })

def mapTileIsEmptyPredicate (map : Map) (coordinates : Coordinates) : Bool :=
  mapIsTileEmpty map coordinates

/-- The fruit on the cell the search chose. -/
def placeFruit (data : ProcessPlayerData) (fruit : Coordinates) : ProcessPlayerData :=
  pushChangelogTile { data with map := mapSetTileFruit data.map fruit } fruit

def spawnFruit (data : ProcessPlayerData) (rng : Rng) : Except Halt (ProcessPlayerData × Rng) :=
  match mapFindRandomMatchingPredicate data.map mapTileIsEmptyPredicate rng with
  | none => .error .recursionTooDeep
  | some (none, rng) => .ok (data, rng)
  | some (some fruit, rng) => .ok (placeFruit data fruit, rng)

def mapTileIsEmptyWithEmptyNeighborPredicate (map : Map) (coordinates : Coordinates) : Bool :=
  if mapIsTileEmpty map coordinates then (mapFindEmptyNeighbor map coordinates).isSome else false

/-- The player's first two tiles, from the cell and the neighbor the search chose. -/
def placePlayer (data : ProcessPlayerData) (playerId : Nat) (head tail : Coordinates) :
    ProcessPlayerData :=
  let data := pushChangelogTile { data with
    map := mapSetTilePlayer data.map head playerId 1
    playerDataCache := playerDataCacheSetHead data.playerDataCache playerId head } head
  pushChangelogTile { data with
    map := mapSetTilePlayer data.map tail playerId 0
    playerDataCache := playerDataCacheSetTail data.playerDataCache playerId tail } tail

/-- `none` in place of a player is the result `false`. The second search cannot
fail where the first one succeeded; the code does not look at its result. -/
def spawnPlayer (data : ProcessPlayerData) (playerId : Nat) (rng : Rng) :
    Except Halt (Option Player × ProcessPlayerData × Rng) :=
  match mapFindRandomMatchingPredicate data.map mapTileIsEmptyWithEmptyNeighborPredicate rng with
  | none => .error .recursionTooDeep
  | some (none, rng) => .ok (none, data, rng)
  | some (some head, rng) =>
    match mapFindEmptyNeighbor data.map head with
    | none => .ok (none, data, rng)
    | some (tail, tailDirection) =>
      .ok (some { status := .playing, direction := directionGetOpposite tailDirection },
        placePlayer data playerId head tail, rng)

def isPlayerPaused (manager : PlayerManager) (player : Nat) : Bool :=
  (playerManagerGetPlayerState manager player).status == .paused

/-- What one call of the tick's callback can change. -/
structure TickState where
  manager : PlayerManager
  data : ProcessPlayerData
  rng : Rng

/-- A snake whose next cell is free or is being vacated takes it and gives up its
tail. -/
def advancePlayer (state : TickState) (playerId : Nat) (nextHead : Coordinates) :
    Except Halt TickState := do
  let data ← movePlayerTail (movePlayerHead state.data playerId nextHead) playerId
  .ok { state with data := { data with noPlayerAlive := false } }

/-- A snake that runs into something dies; the callback returns at once. -/
def crashPlayer (state : TickState) (playerId : Nat) : Except Halt TickState := do
  let (data, player) ← killPlayer state.data playerId (state.manager.players playerId)
  .ok { state with manager := state.manager.set playerId player, data }

/-- A snake that moves onto a fruit keeps its tail. -/
def feedPlayer (state : TickState) (playerId : Nat) (nextHead : Coordinates) : TickState :=
  let data := movePlayerHead state.data playerId nextHead
  { state with data := { data with fruitsEaten := data.fruitsEaten + 1, noPlayerAlive := false } }

/-- The branch for `PLAYER_RESPAWNING` and `PLAYER_JOINING`. -/
def processSpawningPlayer (state : TickState) (playerId : Nat) (player : Player) :
    Except Halt TickState := do
  let shouldSpawnFruit := player.status = .joining
  match ← spawnPlayer state.data playerId state.rng with
  | (some spawned, data, rng) =>
    let (data, rng) ← if shouldSpawnFruit then spawnFruit data rng else .ok (data, rng)
    .ok { manager := state.manager.set playerId spawned
          data := { data with noPlayerAlive := false }
          rng }
  | (none, data, rng) =>
    .ok { manager := state.manager.set playerId { player with status := .dead }, data, rng }

/-- The branch for `PLAYER_DISCONNECTING`. -/
def processDisconnectingPlayer (state : TickState) (playerId : Nat) (player : Player) :
    Except Halt TickState := do
  let (data, player) ← killPlayer state.data playerId player
  .ok { state with
    manager := state.manager.set playerId { player with status := .notConnected }, data }

/-- A lower player's guess at whether the owner of the tail in front of it will
have moved on by the end of the tick. -/
def otherTailWillMove (state : TickState) (other : Nat) : Bool :=
  let otherPlayer := playerManagerGetPlayerState state.manager other
  let otherHead := playerDataCacheGetHead state.data.playerDataCache other
  let otherNextHead := mapMoveInDirection state.data.map otherHead otherPlayer.direction
  (mapGetTileState state.data.map otherNextHead).type == .empty

/-- The branch for `PLAYER_PLAYING`. -/
def processPlayingPlayer (state : TickState) (playerId : Nat) (player : Player) :
    Except Halt TickState :=
  let data := state.data
  let head := playerDataCacheGetHead data.playerDataCache playerId
  let nextHead := mapMoveInDirection data.map head player.direction
  let nextHeadState := mapGetTileState data.map nextHead
  match nextHeadState.type with
  | .empty => advancePlayer state playerId nextHead
  | .fruit => .ok (feedPlayer state playerId nextHead)
  | .player =>
    let otherTail := playerDataCacheGetTail data.playerDataCache nextHeadState.player
    if playerId = nextHeadState.player then
      if coordinatesEqual nextHead otherTail then advancePlayer state playerId nextHead
      else crashPlayer state playerId
    else if ¬ coordinatesEqual nextHead otherTail ∨ nextHeadState.player < playerId
        ∨ isPlayerPaused state.manager nextHeadState.player then
      crashPlayer state playerId
    else if otherTailWillMove state nextHeadState.player then
      advancePlayer state playerId nextHead
    else crashPlayer state playerId
  | _ => crashPlayer state playerId

def serverTickProcessPlayer (state : TickState) (playerId : Nat) : Except Halt TickState :=
  let player := state.manager.players playerId
  match player.status with
  | .respawning | .joining => processSpawningPlayer state playerId player
  | .disconnecting => processDisconnectingPlayer state playerId player
  | .paused => .ok { state with data := { state.data with noPlayerAlive := false } }
  | .playing => processPlayingPlayer state playerId player
  | _ => .ok state

/-- One slot of `player_manager_for_each`: free slots are passed over. -/
def forEachSlot (state : TickState) (playerId : Nat) : Except Halt TickState :=
  if (state.manager.players playerId).status = .notConnected then .ok state
  else serverTickProcessPlayer state playerId

/-- `player_manager_for_each` with the tick's callback. -/
def playerManagerForEach (state : TickState) : Except Halt TickState :=
  (List.range maxPlayers).foldlM forEachSlot state

/-- The body of the loop that clears dead tiles. -/
def sweepTile (data : ProcessPlayerData) (coordinates : Coordinates) : ProcessPlayerData :=
  if mapIsTileDead data.map coordinates then
    pushChangelogTile { data with map := mapSetTileEmpty data.map coordinates } coordinates
  else data

def sweepDeadTiles (data : ProcessPlayerData) : ProcessPlayerData :=
  if data.playerDied then
    (cells (mapGetWidth data.map) (mapGetHeight data.map)).foldl sweepTile data
  else data

/-- One replacement fruit for every fruit eaten. -/
def spawnFruits : Nat → ProcessPlayerData → Rng → Except Halt (ProcessPlayerData × Rng)
  | 0, data, rng => .ok (data, rng)
  | count + 1, data, rng => do
    let (data, rng) ← spawnFruit data rng
    spawnFruits count data rng

structure Server where
  gameState : GameState
  playerDataCache : PlayerDataCache

/-- What `server_tick` sets up before it visits the players. -/
def Server.beginTick (self : Server) (rng : Rng) : TickState where
  manager := self.gameState.playerManager
  data :=
    { changelog := changelogClear self.gameState.changelog
      map := self.gameState.map
      playerDataCache := self.playerDataCache
      fruitsEaten := 0
      playerDied := false
      noPlayerAlive := true }
  rng

/-- The part of `server_tick` inside the map's and the changelog's lock; the
result is whether a player is alive. -/
def serverTickLocked (self : Server) (rng : Rng) : Except Halt (Server × Bool) := do
  let state ← playerManagerForEach (self.beginTick rng)
  let (data, _) ← spawnFruits state.data.fruitsEaten (sweepDeadTiles state.data) state.rng
  .ok ({ gameState := { self.gameState with
           changelog := data.changelog, map := data.map, playerManager := state.manager }
         playerDataCache := data.playerDataCache }, !data.noPlayerAlive)

/-- The ticker's turn after the locks are released. -/
def Server.tick (self : Server) : Server :=
  { self with gameState := { self.gameState with ticker := tickerTick self.gameState.ticker } }

def serverTick (self : Server) (rng : Rng) : Except Halt (Server × Bool) := do
  let (server, alive) ← serverTickLocked self rng
  .ok (server.tick, alive)

def serverEndGame (self : Server) : Server :=
  Server.tick { self with gameState := { self.gameState with gameEnded := true } }

end SnakePosix
