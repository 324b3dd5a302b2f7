import SnakePosix.Client.Renderer
import SnakePosix.Foundation.LockOrder
import SnakePosix.Libsnake.Player

/-! What the functions of `libsnake`, the server and the clients do with mutexes. A
function is the list of its lock operations for what it reads on its way; reading and
writing between them takes no mutex, since whoever holds an object peeks at it. -/
namespace SnakePosix
open LockOrder

/-- The mutexes of a server and its clients `κ`. A socket client has a map of its own;
the map of `none` is the game state's. -/
inductive Mutex (κ : Type) where
  | map (owner : Option κ)
  | changelog
  | player (playerId : Nat)
  | ticker
  | queue (client : κ)
  deriving DecidableEq, Repr

variable {κ : Type}

/-! ## `syn_template.h` -/

/-- An acquire and the release after it. -/
def whileAcquired (mutex : Mutex κ) : List (LockAct (Mutex κ)) := [.acquire mutex, .release mutex]

/-! ## `player_manager.c` -/

/-- The loop of `player_manager_register`, which finds each slot in some status. -/
def registerLocks (statuses : Nat → PlayerStatus) : List Nat → List (LockAct (Mutex κ))
  | [] => []
  | i :: slots =>
    if statuses i ≠ .notConnected then
      .acquire (.player i) :: .release (.player i) :: registerLocks statuses slots
    else [.acquire (.player i), .release (.player i)]

def playerManagerRegisterLocks (statuses : Nat → PlayerStatus) : List (LockAct (Mutex κ)) :=
  registerLocks statuses (List.range maxPlayers)

def playerManagerUnregisterLocks (playerId : Nat) : List (LockAct (Mutex κ)) := whileAcquired (.player playerId)
def playerManagerPauseLocks (playerId : Nat) : List (LockAct (Mutex κ)) := whileAcquired (.player playerId)
def playerManagerUnpauseLocks (playerId : Nat) : List (LockAct (Mutex κ)) := whileAcquired (.player playerId)
def playerManagerRespawnLocks (playerId : Nat) : List (LockAct (Mutex κ)) := whileAcquired (.player playerId)
def playerManagerGetPlayerStateLocks (playerId : Nat) : List (LockAct (Mutex κ)) := whileAcquired (.player playerId)
def playerManagerGetPlayerStatusLocks (playerId : Nat) : List (LockAct (Mutex κ)) := whileAcquired (.player playerId)
def playerManagerSetPlayerDirectionLocks (playerId : Nat) : List (LockAct (Mutex κ)) := whileAcquired (.player playerId)

/-- All slots are acquired before the first call and released after the last one; the
callback of `server_tick` only peeks at them. -/
def playerManagerForEachLocks : List (LockAct (Mutex κ)) :=
  (List.range maxPlayers).map (fun i => .acquire (.player i)) ++
    (List.range maxPlayers).map (fun i => .release (.player i))

/-! ## `syn_changelog.c` -/

/-- Both ways out release the mutex, and the copy is used without it. -/
def synChangelogCopyLocks : List (LockAct (Mutex κ)) := whileAcquired .changelog

/-- The calls made for a copy of the given size. -/
def synChangelogForEachCopyLocks (size : Nat) (forEachFn : List (LockAct (Mutex κ))) : List (LockAct (Mutex κ)) :=
  synChangelogCopyLocks ++ (List.replicate size forEachFn).flatten

/-! ## `ticker.c` -/

def tickerTickLocks : List (LockAct (Mutex κ)) := [.acquire .ticker, .broadcast .ticker, .release .ticker]

def tickerObserverInitLocks : List (LockAct (Mutex κ)) := whileAcquired .ticker

/-- The loop waits until it has found a later tick. -/
def tickerObserverWaitForNextTickLocks (wakeups : Nat) : List (LockAct (Mutex κ)) :=
  .acquire .ticker :: (List.replicate wakeups (.wait .ticker) ++ [.release .ticker])

/-! ## The server -/

def serverTickLocks : List (LockAct (Mutex κ)) :=
  .acquire (.map none) :: .acquire .changelog :: (playerManagerForEachLocks ++
    .release .changelog :: .release (.map none) :: tickerTickLocks)

def serverEndGameLocks : List (LockAct (Mutex κ)) := tickerTickLocks

/-- The message is written without the mutex. -/
def clientConnectionSendMapLocks : List (LockAct (Mutex κ)) := whileAcquired (.map none)

def clientConnectionSendChangelogLocks : List (LockAct (Mutex κ)) := synChangelogCopyLocks

/-! ## `renderer.c` -/

def rendererRedrawLocks (client : κ) : List (LockAct (Mutex κ)) := whileAcquired (.queue client)
def rendererUpdateLocks (client : κ) : List (LockAct (Mutex κ)) := whileAcquired (.queue client)

def rendererRedrawScreenLocks (drawn : Option κ) : List (LockAct (Mutex κ)) := whileAcquired (.map drawn)

/-- One round of the outer loop: the waits for a command, and then the command, or
`none` after a shutdown. A redraw names the map it draws. -/
def rendererMainLocks (client : κ) (drawn : Option κ) (wakeups : Nat) (command : Option RendererCommand) :
    List (LockAct (Mutex κ)) :=
  .acquire (.queue client) :: (List.replicate wakeups (.wait (.queue client)) ++
    match command with
    | some (.redraw _) => rendererRedrawScreenLocks drawn ++ [.release (.queue client)]
    | some (.update ..) | none => [.release (.queue client)])

/-! ## The clients -/

/-- The end of a round of `shm_client_run` that draws the changelog. -/
def shmClientUpdatesLocks (client : κ) (size : Nat) : List (LockAct (Mutex κ)) :=
  synChangelogForEachCopyLocks size (rendererUpdateLocks client)

/-- A map message in `socket_client_run`. -/
def socketClientMapLocks (client : κ) : List (LockAct (Mutex κ)) :=
  whileAcquired (.map (some client)) ++ rendererRedrawLocks client

def socketClientTileChangeLocks (client : κ) : List (LockAct (Mutex κ)) :=
  whileAcquired (.map (some client)) ++ rendererUpdateLocks client

/-! ## Calls -/

/-- Every call that takes a mutex, with what it reads that its locks depend on. The
threads of all programs do nothing else with mutexes than to make these calls, one
after the other. -/
inductive LockCall (κ : Type) where
  | serverTick
  | serverEndGame
  | clientConnectionSendMap
  | clientConnectionSendChangelog
  | playerManagerRegister (statuses : Nat → PlayerStatus)
  | playerManagerUnregister (playerId : Nat)
  | playerManagerPause (playerId : Nat)
  | playerManagerUnpause (playerId : Nat)
  | playerManagerRespawn (playerId : Nat)
  | playerManagerGetPlayerState (playerId : Nat)
  | playerManagerGetPlayerStatus (playerId : Nat)
  | playerManagerSetPlayerDirection (playerId : Nat)
  | playerManagerForEach
  | synChangelogCopy
  | tickerTick
  | tickerObserverInit
  | tickerObserverWaitForNextTick (wakeups : Nat)
  | rendererRedraw (client : κ)
  | rendererUpdate (client : κ)
  | rendererMain (client : κ) (drawn : Option κ) (wakeups : Nat) (command : Option RendererCommand)
  | shmClientUpdates (client : κ) (size : Nat)
  | socketClientMap (client : κ)
  | socketClientTileChange (client : κ)

def LockCall.locks : LockCall κ → List (LockAct (Mutex κ))
  | .serverTick => serverTickLocks
  | .serverEndGame => serverEndGameLocks
  | .clientConnectionSendMap => clientConnectionSendMapLocks
  | .clientConnectionSendChangelog => clientConnectionSendChangelogLocks
  | .playerManagerRegister statuses => playerManagerRegisterLocks statuses
  | .playerManagerUnregister playerId => playerManagerUnregisterLocks playerId
  | .playerManagerPause playerId => playerManagerPauseLocks playerId
  | .playerManagerUnpause playerId => playerManagerUnpauseLocks playerId
  | .playerManagerRespawn playerId => playerManagerRespawnLocks playerId
  | .playerManagerGetPlayerState playerId => playerManagerGetPlayerStateLocks playerId
  | .playerManagerGetPlayerStatus playerId => playerManagerGetPlayerStatusLocks playerId
  | .playerManagerSetPlayerDirection playerId => playerManagerSetPlayerDirectionLocks playerId
  | .playerManagerForEach => playerManagerForEachLocks
  | .synChangelogCopy => synChangelogCopyLocks
  | .tickerTick => tickerTickLocks
  | .tickerObserverInit => tickerObserverInitLocks
  | .tickerObserverWaitForNextTick wakeups => tickerObserverWaitForNextTickLocks wakeups
  | .rendererRedraw client => rendererRedrawLocks client
  | .rendererUpdate client => rendererUpdateLocks client
  | .rendererMain client drawn wakeups command => rendererMainLocks client drawn wakeups command
  | .shmClientUpdates client size => shmClientUpdatesLocks client size
  | .socketClientMap client => socketClientMapLocks client
  | .socketClientTileChange client => socketClientTileChangeLocks client

end SnakePosix
