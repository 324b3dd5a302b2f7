import SnakePosix.Server.Tick

/-! Whole games: server ticks with the player manager's operations between them. -/
namespace SnakePosix

/-- What can happen to a running game. A client holds a slot from the
registration that returned it to its own unregistering. -/
inductive Action where
  | tick (rng : Rng)
  | register
  | unregister (playerId : Nat)
  | pause (playerId : Nat)
  | unpause (playerId : Nat)
  | respawn (playerId : Nat)
  | setPlayerDirection (playerId : Nat) (direction : Direction)

/-- The server together with the slots its clients hold. -/
structure Game where
  server : Server
  registered : Nat → Bool

def Game.withManager (self : Game) (manager : PlayerManager) : Game :=
  { self with server := { self.server with
      gameState := { self.server.gameState with playerManager := manager } } }

def Game.manager (self : Game) : PlayerManager := self.server.gameState.playerManager

/-- An operation of the player manager. Unregistering is its owner's to do, once:
for a slot nobody holds it is not done. -/
def Game.operate (self : Game) : Action → Game
  | .tick _ => self
  | .register =>
    match playerManagerRegister self.manager with
    | none => self
    | some (playerId, manager) =>
      { self.withManager manager with
        registered := fun p => if p = playerId then true else self.registered p }
  | .unregister playerId =>
    if self.registered playerId then
      { self.withManager (playerManagerUnregister self.manager playerId) with
        registered := fun p => if p = playerId then false else self.registered p }
    else self
  | .pause playerId => self.withManager (playerManagerPause self.manager playerId)
  | .unpause playerId => self.withManager (playerManagerUnpause self.manager playerId)
  | .respawn playerId => self.withManager (playerManagerRespawn self.manager playerId)
  | .setPlayerDirection playerId direction =>
    self.withManager (playerManagerSetPlayerDirection self.manager playerId direction)

def Game.step (self : Game) (action : Action) : Except Halt Game :=
  match action with
  | .tick rng => do
    let (server, _) ← serverTick self.server rng
    .ok { self with server }
  | action => .ok (self.operate action)

def Game.run (self : Game) (actions : List Action) : Except Halt Game :=
  actions.foldlM Game.step self

/-- A server just initialised: the game state from a template, nobody connected,
and whatever was in the memory of the map, the player directions and the cache. -/
def Game.start (map : Map) (directions : Nat → Direction) (cache : PlayerDataCache)
    (template : MapTemplate) : Game where
  server := { gameState := gameStateInit map directions template, playerDataCache := cache }
  registered := fun _ => false

end SnakePosix
