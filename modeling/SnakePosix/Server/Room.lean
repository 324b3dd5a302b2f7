import Mathlib.Logic.Function.Basic
import SnakePosix.Server.Game

/-! Any number of clients at the slots of `player_manager.c`, beside the ticking
server. Every operation holds one slot's mutex. `player_manager_register` takes
one after another, so it is a search with a step for each slot; the tick takes
all of them before it visits the first player. -/
namespace SnakePosix

/-! ## Operations on a slot -/

/-- The body of the loop of `player_manager_register`. -/
def playerManagerRegisterSlot (self : PlayerManager) (playerId : Nat) : Option PlayerManager :=
  if (self.players playerId).status ≠ .notConnected then none
  else some (self.set playerId { status := .joining, direction := .up })

/-- The calls that take a slot as they find it, whoever owns it. -/
inductive SlotCall where
  | pause (playerId : Nat)
  | unpause (playerId : Nat)
  | respawn (playerId : Nat)
  | setPlayerDirection (playerId : Nat) (direction : Direction)
  deriving DecidableEq, Repr

def SlotCall.playerId : SlotCall → Nat
  | .pause playerId | .unpause playerId | .respawn playerId | .setPlayerDirection playerId _ => playerId

def SlotCall.apply (self : SlotCall) (manager : PlayerManager) : PlayerManager :=
  match self with
  | .pause playerId => playerManagerPause manager playerId
  | .unpause playerId => playerManagerUnpause manager playerId
  | .respawn playerId => playerManagerRespawn manager playerId
  | .setPlayerDirection playerId direction => playerManagerSetPlayerDirection manager playerId direction

/-! ## Clients and server -/

/-- Where a client is: it has not called `player_manager_register` or the call has
failed, it is inside the call and about to look at a slot, or the call has
returned a slot that is not unregistered yet. -/
inductive Registration where
  | absent
  | searching (slot : Nat)
  | holding (playerId : Nat)
  deriving DecidableEq, Repr

structure Room (ι : Type) where
  server : Server
  clients : ι → Registration

variable {ι : Type}

def Room.manager (self : Room ι) : PlayerManager := self.server.gameState.playerManager

def Room.withManager (self : Room ι) (manager : PlayerManager) : Room ι :=
  { self with server := { self.server with
      gameState := { self.server.gameState with playerManager := manager } } }

def Room.withClient [DecidableEq ι] (self : Room ι) (client : ι) (registration : Registration) : Room ι :=
  { self with clients := Function.update self.clients client registration }

inductive RoomStep (ι : Type) where
  | tick (rng : Rng)
  | register (client : ι)
  | search (client : ι)
  | unregister (client : ι)
  | call (call : SlotCall)

/-- The server's own part: its tick visits the players of all slots. -/
def Room.tick (self : Room ι) (rng : Rng) : Except Halt (Room ι) := do
  let (server, _) ← serverTick self.server rng
  .ok { self with server }

variable [DecidableEq ι]

/-- A client without a slot asks for one. -/
def Room.register (self : Room ι) (client : ι) : Room ι :=
  match self.clients client with
  | .absent => self.withClient client (.searching 0)
  | _ => self

/-- One turn of the loop of `player_manager_register`, or its end without a slot. -/
def Room.search (self : Room ι) (client : ι) : Room ι :=
  match self.clients client with
  | .searching slot =>
    if slot < maxPlayers then
      match playerManagerRegisterSlot self.manager slot with
      | none => self.withClient client (.searching (slot + 1))
      | some manager => (self.withManager manager).withClient client (.holding slot)
    else self.withClient client .absent
  | _ => self

/-- Only the owner of a slot unregisters it, and then does not own it any more. -/
def Room.unregister (self : Room ι) (client : ι) : Room ι :=
  match self.clients client with
  | .holding playerId =>
    (self.withManager (playerManagerUnregister self.manager playerId)).withClient client .absent
  | _ => self

def Room.step (self : Room ι) : RoomStep ι → Except Halt (Room ι)
  | .tick rng => self.tick rng
  | .register client => .ok (self.register client)
  | .search client => .ok (self.search client)
  | .unregister client => .ok (self.unregister client)
  | .call call => .ok (self.withManager (call.apply self.manager))

def Room.run (self : Room ι) (steps : List (RoomStep ι)) : Except Halt (Room ι) :=
  steps.foldlM Room.step self

/-- A server just initialised, before any client has registered. -/
def Room.start (map : Map) (directions : Nat → Direction) (cache : PlayerDataCache)
    (template : MapTemplate) : Room ι where
  server := { gameState := gameStateInit map directions template, playerDataCache := cache }
  clients := fun _ => .absent

end SnakePosix
