import SnakePosix.Server.Game

/-! The client of `shm_client.c` beside the server it shares its memory with: its
loop and its input thread, whose handlers compare with what the loop last read of
the player. The renderer, the exit key and the end of the game are left out. -/
namespace SnakePosix

/-! ## The key handlers -/

/-- The four values of `arrow` the input thread passes on. -/
inductive Arrow where
  | up
  | left
  | down
  | right
  deriving DecidableEq, Repr

structure ShmClientInputContext where
  playerId : Nat
  playerStatus : PlayerStatus
  lastPlayerDirection : Direction

/-- A handler's comparison, and the call of the player manager it goes on to make. -/
def shmClientOnArrowPress (arrow : Arrow) (ctx : ShmClientInputContext) : Option Action :=
  if arrow = .up ∧ ctx.lastPlayerDirection ≠ .down then some (.setPlayerDirection ctx.playerId .up)
  else if arrow = .left ∧ ctx.lastPlayerDirection ≠ .right then some (.setPlayerDirection ctx.playerId .left)
  else if arrow = .down ∧ ctx.lastPlayerDirection ≠ .up then some (.setPlayerDirection ctx.playerId .down)
  else if arrow = .right ∧ ctx.lastPlayerDirection ≠ .left then some (.setPlayerDirection ctx.playerId .right)
  else none

def shmClientOnPausePress (ctx : ShmClientInputContext) : Option Action :=
  if ctx.playerStatus = .playing then some (.pause ctx.playerId) else none

def shmClientOnUnpausePress (ctx : ShmClientInputContext) : Option Action :=
  if ctx.playerStatus = .paused then some (.unpause ctx.playerId) else none

def shmClientOnRespawnPress (ctx : ShmClientInputContext) : Option Action :=
  if ctx.playerStatus = .dead then some (.respawn ctx.playerId) else none

inductive Key where
  | arrow (arrow : Arrow)
  | pause
  | unpause
  | respawn

/-- The callbacks `shm_client_run` gives the input thread. -/
def inputCallbacks : Key → ShmClientInputContext → Option Action
  | .arrow arrow => shmClientOnArrowPress arrow
  | .pause => shmClientOnPausePress
  | .unpause => shmClientOnUnpausePress
  | .respawn => shmClientOnRespawnPress

/-! ## `shm_client_run` -/

/-- Where the loop is: at its wait, past it, or with the player's state read. -/
inductive ShmClientLoop where
  | waiting
  | woken (ticksPassed : Nat)
  | refreshing (ticksPassed : Nat) (playerState : Player)

structure ShmClient where
  context : ShmClientInputContext
  observer : TickerObserver
  loop : ShmClientLoop
  /-- The call a handler is about to make. -/
  pending : Option Action

/-- How far `shm_client_run` is: before `player_manager_register`, before
`ticker_observer_init`, before the first look at the player, or in the loop. -/
inductive ShmClientStage where
  | outside
  | registered (playerId : Nat)
  | observing (playerId : Nat) (observer : TickerObserver)
  | running (client : ShmClient)

def ShmClientStage.playerId? : ShmClientStage → Option Nat
  | .outside => none
  | .registered playerId => some playerId
  | .observing playerId _ => some playerId
  | .running client => some client.context.playerId

/-- A step of a thread that is not at that point of its loop does nothing. -/
def ShmClient.waitReturn (self : ShmClient) (ticker : Ticker) : ShmClient :=
  match self.loop, tickerObserverWaitForNextTick self.observer ticker with
  | .waiting, some (ticksPassed, observer) => { self with observer, loop := .woken ticksPassed }
  | _, _ => self

def ShmClient.getPlayerState (self : ShmClient) (manager : PlayerManager) : ShmClient :=
  match self.loop with
  | .woken ticksPassed =>
    { self with loop := .refreshing ticksPassed (playerManagerGetPlayerState manager self.context.playerId) }
  | _ => self

/-- The end of an iteration of the loop. -/
def ShmClient.refresh (self : ShmClient) : ShmClient :=
  match self.loop with
  | .refreshing ticksPassed playerState =>
    { self with
      context := { self.context with
        lastPlayerDirection := playerState.direction
        playerStatus :=
          if ticksPassed > 1 ∨ playerState.status ≠ self.context.playerStatus then playerState.status
          else self.context.playerStatus }
      loop := .waiting }
  | _ => self

/-- The input thread handles one key after the other. -/
def ShmClient.press (self : ShmClient) (key : Key) : ShmClient :=
  match self.pending with
  | none => { self with pending := inputCallbacks key self.context }
  | some _ => self

/-! ## Server and client -/

/-- A snake's last step, or the spawn it began with: the cell behind its head
and the direction from there. -/
structure LastStep where
  behind : Coordinates
  direction : Direction

/-- What one tick makes of it, for a player in the game before and after. -/
def tickLastStep (before after : Server) (playerId : Nat) (last : Option LastStep) : Option LastStep :=
  let player := before.gameState.playerManager.players playerId
  let player' := after.gameState.playerManager.players playerId
  match player.status with
  | .playing => some { behind := before.playerDataCache.head playerId, direction := player.direction }
  | .respawning | .joining =>
    if player'.status = .playing then
      some { behind := after.playerDataCache.tail playerId, direction := player'.direction }
    else last
  | _ => last

/-- The slot an operation is for. -/
def Action.slot? : Action → Option Nat
  | .tick _ | .register => none
  | .unregister playerId | .pause playerId | .unpause playerId | .respawn playerId
  | .setPlayerDirection playerId _ => some playerId

structure ShmRoom where
  game : Game
  stage : ShmClientStage
  /-- What an observer writes down about the client's player; no step reads it. -/
  last : Option LastStep

inductive ShmStep where
  | tick (rng : Rng)
  | others (action : Action)
  | register
  | observerInit
  | initPlayerState
  | waitReturn
  | getPlayerState
  | refresh
  | press (key : Key)
  | call

/-- The first look at the player, from which on keys are read. -/
def ShmRoom.initPlayerState (self : ShmRoom) (playerId : Nat) (observer : TickerObserver) : ShmClient :=
  let playerState := playerManagerGetPlayerState self.game.manager playerId
  { context := { playerId, playerStatus := playerState.status, lastPlayerDirection := playerState.direction }
    observer
    loop := .waiting
    pending := none }

def ShmRoom.inLoop (self : ShmRoom) (change : ShmClient → ShmClient) : ShmRoom :=
  match self.stage with
  | .running client => { self with stage := .running (change client) }
  | _ => self

/-- The other clients call the player manager for their own slots only. -/
def ShmRoom.step (self : ShmRoom) : ShmStep → Except Halt ShmRoom
  | .tick rng => do
    let (server, _) ← serverTick self.game.server rng
    .ok { self with
      game := { self.game with server }
      last := self.stage.playerId?.bind fun playerId => tickLastStep self.game.server server playerId self.last }
  | .others action =>
    if action.slot?.isSome ∧ action.slot? = self.stage.playerId? then .ok self
    else .ok { self with game := self.game.operate action }
  | .register =>
    match self.stage, playerManagerRegister self.game.manager with
    | .outside, some (playerId, _) =>
      .ok { self with game := self.game.operate .register, stage := .registered playerId }
    | _, _ => .ok self
  | .observerInit =>
    match self.stage with
    | .registered playerId =>
      .ok { self with stage := .observing playerId (tickerObserverInit self.game.server.gameState.ticker) }
    | _ => .ok self
  | .initPlayerState =>
    match self.stage with
    | .observing playerId observer =>
      .ok { self with stage := .running (self.initPlayerState playerId observer) }
    | _ => .ok self
  | .waitReturn => .ok (self.inLoop (·.waitReturn self.game.server.gameState.ticker))
  | .getPlayerState => .ok (self.inLoop (·.getPlayerState self.game.manager))
  | .refresh => .ok (self.inLoop ShmClient.refresh)
  | .press key => .ok (self.inLoop (·.press key))
  | .call =>
    match self.stage with
    | .running client =>
      match client.pending with
      | some action =>
        .ok { self with game := self.game.operate action, stage := .running { client with pending := none } }
      | none => .ok self
    | _ => .ok self

def ShmRoom.run (self : ShmRoom) (steps : List ShmStep) : Except Halt ShmRoom :=
  steps.foldlM ShmRoom.step self

def ShmRoom.start (game : Game) : ShmRoom where
  game := game
  stage := .outside
  last := none

end SnakePosix
