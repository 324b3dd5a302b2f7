import SnakePosix.Libsnake.Coordinates

/-! Players and the player manager of `player_manager.c`. Every operation takes
the mutex of one slot only, so each is one atomic change of that slot. -/
namespace SnakePosix

/-- `player_status_t`, with the unnamed value `7 + k` as `undeclared k`. -/
inductive PlayerStatus where
  | notConnected
  | playing
  | paused
  | dead
  | respawning
  | joining
  | disconnecting
  | undeclared (excess : Nat)
  deriving DecidableEq, Repr

/-- One of the seven named statuses. -/
def PlayerStatus.Declared : PlayerStatus → Prop
  | .undeclared _ => False
  | _ => True

structure Player where
  status : PlayerStatus
  direction : Direction
  deriving DecidableEq, Repr

structure PlayerManager where
  players : Nat → Player

/-- The write to a slot every operation below ends with. -/
def PlayerManager.set (self : PlayerManager) (playerId : Nat) (player : Player) : PlayerManager where
  players := fun p => if p = playerId then player else self.players p

/-- The slots start out free; their directions are whatever the memory held. -/
def playerManagerInit (directions : Nat → Direction) : PlayerManager where
  players := fun p => { status := .notConnected, direction := directions p }

/-- The first free slot joins. -/
def playerManagerRegister (self : PlayerManager) : Option (Nat × PlayerManager) :=
  ((List.range maxPlayers).find? fun i => (self.players i).status = .notConnected).map fun i =>
    (i, self.set i { status := .joining, direction := .up })

def playerManagerUnregister (self : PlayerManager) (playerId : Nat) : PlayerManager :=
  let player := self.players playerId
  self.set playerId { player with
    status :=
      if player.status = .dead ∨ player.status = .respawning ∨ player.status = .joining then
        .notConnected
      else .disconnecting }

/-- Pausing, unpausing and respawning each move a slot from one status to
another and leave a slot in any other status alone. -/
def PlayerManager.transition (self : PlayerManager) (playerId : Nat) (source target : PlayerStatus) :
    PlayerManager :=
  let player := self.players playerId
  if player.status = source then self.set playerId { player with status := target } else self

def playerManagerPause (self : PlayerManager) (playerId : Nat) : PlayerManager :=
  self.transition playerId .playing .paused

def playerManagerUnpause (self : PlayerManager) (playerId : Nat) : PlayerManager :=
  self.transition playerId .paused .playing

def playerManagerRespawn (self : PlayerManager) (playerId : Nat) : PlayerManager :=
  self.transition playerId .dead .respawning

/-- Also what `player_manager_peek_player_state` reads. -/
def playerManagerGetPlayerState (self : PlayerManager) (playerId : Nat) : Player :=
  self.players playerId

def playerManagerSetPlayerDirection (self : PlayerManager) (playerId : Nat) (direction : Direction) :
    PlayerManager :=
  self.set playerId { self.players playerId with direction }

end SnakePosix
