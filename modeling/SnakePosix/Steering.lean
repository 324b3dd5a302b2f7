import SnakePosix.SnakeRuns
import SnakePosix.Client.ShmClient

/-! The snake of a player at the shared memory never turns back on itself, as
long as the handlers compare with the direction of its last step. The invariant
follows the player's slot through the ticks and the handlers' calls through the
client. -/
namespace SnakePosix.Steering
open MapProofs Torus TickTurns ChangelogReplay Snakes GameRuns SnakeRuns GuardedRuns

variable {width height playerId p : Nat} {game : Game} {server server' : Server} {rng : Rng}
  {state next seen : TickState} {start : Map} {last : Option LastStep}

/-! ## One player's part in a tick -/

/-- What other players' visits leave alone. -/
structure SameSeat (before after : TickState) (playerId : Nat) : Prop where
  slot : after.manager.players playerId = before.manager.players playerId
  head : after.data.playerDataCache.head playerId = before.data.playerDataCache.head playerId
  tail : after.data.playerDataCache.tail playerId = before.data.playerDataCache.tail playerId

private theorem turn_sameSeat (turn : Turn state p (.ok next)) (other : playerId ≠ p) :
    SameSeat state next playerId := by
  rcases turn_spares turn other with spared | ⟨-, -, -, spared⟩
  · exact ⟨spared.slot, spared.head, spared.tail⟩
  · exact ⟨spared.slot, spared.head, spared.tail⟩

private theorem sameSeat_trans {first second third : TickState} (early : SameSeat first second playerId)
    (late : SameSeat second third playerId) : SameSeat first third playerId :=
  ⟨late.slot.trans early.slot, late.head.trans early.head, late.tail.trans early.tail⟩

private theorem visits_sameSeat (playable : Playable start) (list : List Nat)
    (others : ∀ p ∈ list, p < maxPlayers ∧ playerId ≠ p) (ticking : Ticking start state)
    (ran : list.foldlM forEachSlot state = .ok next) : Ticking start next ∧ SameSeat state next playerId := by
  refine run_always forEachSlot (fun reached => Ticking start reached ∧ SameSeat state reached playerId) list
    (fun reached p member after held stepped => ?_) ⟨ticking, rfl, rfl, rfl⟩ ran
  obtain ⟨ticking, same⟩ := held
  obtain ⟨within, other⟩ := others p member
  have turn := forEachSlot_turn (playable_sameSize ticking.logged.size playable)
    fun alive => (ticking.cached p within alive).1
  rw [stepped] at turn
  exact ⟨forEachSlot_ticking playable within ticking stepped, sameSeat_trans same (turn_sameSeat turn other)⟩

/-- A tick's visits are one player's own and those of the others around it. -/
theorem playerManagerForEach_own (playable : Playable start) (ticking : Ticking start state)
    (within : playerId < maxPlayers) (ran : playerManagerForEach state = .ok next) :
    ∃ before after, Ticking start before ∧ SameSeat state before playerId ∧
      Turn before playerId (.ok after) ∧ SameSeat after next playerId := by
  unfold playerManagerForEach at ran
  have bounded : ∀ p ∈ List.range maxPlayers, p < maxPlayers := fun p => List.mem_range.mp
  have distinct : (List.range maxPlayers).Nodup := List.nodup_range
  obtain ⟨early, late, split⟩ := List.append_of_mem (List.mem_range.mpr within)
  rw [split] at ran bounded distinct
  obtain ⟨before, ranEarly, ran⟩ := run_append.mp ran
  obtain ⟨after, visited, ranLate⟩ := run_cons.mp ran
  rw [List.nodup_middle, List.nodup_cons, List.mem_append, not_or] at distinct
  obtain ⟨⟨notEarly, notLate⟩, -⟩ := distinct
  obtain ⟨tickingBefore, sameBefore⟩ := visits_sameSeat playable early
    (fun p member => ⟨bounded p (List.mem_append_left _ member), (ne_of_mem_of_not_mem member notEarly).symm⟩)
    ticking ranEarly
  have turn := forEachSlot_turn (playable_sameSize tickingBefore.logged.size playable)
    fun alive => (tickingBefore.cached playerId within alive).1
  rw [visited] at turn
  have tickingAfter := forEachSlot_ticking playable within tickingBefore visited
  obtain ⟨-, sameAfter⟩ := visits_sameSeat playable late
    (fun p member => ⟨bounded p (List.mem_append_right _ (List.mem_cons_of_mem _ member)),
      (ne_of_mem_of_not_mem member notLate).symm⟩) tickingAfter ranLate
  exact ⟨before, after, tickingBefore, sameBefore, turn, sameAfter⟩

/-- A tick seen from one player: its slot and its cached coordinates before and
after are those around its own visit. -/
theorem serverTickLocked_own (sizes : Sizes width height) (steady : Steady width height game)
    (within : playerId < maxPlayers) (ran : serverTickLocked game.server rng = .ok (server', alive)) :
    ∃ before after, Turn before playerId (.ok after) ∧
      (before.data.map.width = width ∧ before.data.map.height = height) ∧
      before.manager.players playerId = game.manager.players playerId ∧
      before.data.playerDataCache.head playerId = game.server.playerDataCache.head playerId ∧
      server'.gameState.playerManager.players playerId = after.manager.players playerId ∧
      server'.playerDataCache.head playerId = after.data.playerDataCache.head playerId ∧
      server'.playerDataCache.tail playerId = after.data.playerDataCache.tail playerId := by
  have playable := playable_of_sizes sizes steady.sized
  obtain ⟨state, data, rng', visited, -⟩ := serverTickLocked_ok ran
  have began := beginTick_ticking game.server rng steady.cached
  have ticking := playerManagerForEach_ticking playable began visited
  obtain ⟨before, after, tickingBefore, sameBefore, turn, sameAfter⟩ :=
    playerManagerForEach_own playable began within visited
  obtain ⟨final, undisturbed, returned⟩ := serverTickLocked_after_visits visited
    (playable_sameSize ticking.logged.size playable)
  rw [returned] at ran
  obtain ⟨rfl, -⟩ := Prod.mk.inj (Except.ok.inj ran)
  have size := tickingBefore.logged.size
  refine ⟨before, after, turn, ⟨size.1.trans steady.sized.1, size.2.trans steady.sized.2⟩, sameBefore.slot,
    sameBefore.head, sameAfter.slot, ?_, ?_⟩
  · exact (congrArg (PlayerDataCache.head · playerId) undisturbed.cache).trans sameAfter.head
  · exact (congrArg (PlayerDataCache.tail · playerId) undisturbed.cache).trans sameAfter.tail

/-! ## Where a snake is heading -/

/-- The snake's head is one step from the cell behind it, and the requested
direction does not lead back there. -/
structure Heading (width height : Nat) (server : Server) (playerId : Nat) (last : LastStep) : Prop where
  declared : last.direction.Declared
  inside : last.behind.InGrid width height
  head : server.playerDataCache.head playerId = torusMove width height last.behind last.direction
  forward : (server.gameState.playerManager.players playerId).direction ≠ directionGetOpposite last.direction

/-- What holds of the client's player between all steps. -/
structure Driven (width height : Nat) (game : Game) (last : Option LastStep) (playerId : Nat) : Prop where
  within : playerId < maxPlayers
  held : game.registered playerId = true
  declared : (game.manager.players playerId).direction.Declared
  heading : HasSnake (game.manager.players playerId).status →
    ∃ step, last = some step ∧ Heading width height game.server playerId step

/-- The requested direction leads elsewhere than to the cell behind the head. -/
theorem heading_ahead {step : LastStep} (sizes : Sizes width height) (wide : 3 ≤ width) (high : 3 ≤ height)
    (steady : Steady width height game) (heading : Heading width height game.server playerId step)
    (declared : (game.manager.players playerId).direction.Declared) :
    mapMoveInDirection game.server.gameState.map (game.server.playerDataCache.head playerId)
      (game.manager.players playerId).direction ≠ step.behind := by
  intro back
  have playable := playable_of_sizes sizes steady.sized
  obtain ⟨rfl, rfl⟩ := steady.sized
  have inside := torusMove_inGrid heading.inside step.direction
  rw [heading.head, mapMoveInDirection_eq playable.fits inside] at back
  exact heading.forward (torusMove_back wide high heading.inside declared back)

/-- A tick that moves the snake. -/
private theorem heading_stepped (steady : Steady width height game)
    (driven : Driven width height game last playerId)
    (playing : (game.manager.players playerId).status = .playing)
    (slot : server'.gameState.playerManager.players playerId = game.manager.players playerId)
    (head : server'.playerDataCache.head playerId =
      torusMove width height (game.server.playerDataCache.head playerId)
        (game.manager.players playerId).direction) :
    Heading width height server' playerId
      ⟨game.server.playerDataCache.head playerId, (game.manager.players playerId).direction⟩ where
  declared := driven.declared
  inside := by
    have inside := (steady.cached playerId driven.within (Or.inl playing)).1
    unfold Map.InBounds at inside
    rwa [steady.sized.1, steady.sized.2] at inside
  head := head
  forward := by
    rw [slot]
    exact directionGetOpposite_ne _

/-- A tick that spawns it. -/
private theorem heading_spawned {direction : Direction}
    (inside : (server.playerDataCache.head playerId).InGrid width height)
    (tail : server.playerDataCache.tail playerId =
      torusMove width height (server.playerDataCache.head playerId) direction)
    (slot : (server.gameState.playerManager.players playerId).direction = directionGetOpposite direction) :
    Heading width height server playerId
      ⟨server.playerDataCache.tail playerId, (server.gameState.playerManager.players playerId).direction⟩ where
  declared := by
    rw [slot]
    exact directionGetOpposite_declared direction
  inside := by
    rw [tail]
    exact torusMove_inGrid inside direction
  head := by
    dsimp only
    rw [tail, slot, torusMove_opposite inside]
  forward := directionGetOpposite_ne _

/-- Where an advancing or eating player's head is after its visit. -/
private theorem nextHead_torus (sizes : Sizes width height)
    (sized : state.data.map.width = width ∧ state.data.map.height = height)
    (inside : (state.data.playerDataCache.head playerId).InGrid width height) :
    nextHead state playerId = torusMove width height (state.data.playerDataCache.head playerId)
      (state.manager.players playerId).direction := by
  have playable := playable_of_sizes sizes sized
  obtain ⟨rfl, rfl⟩ := sized
  exact mapMoveInDirection_eq playable.fits inside _

/-- What a player's own visit makes of it: it ends without a snake, its snake
rests, takes a step, or is new. -/
private theorem turn_own (sizes : Sizes width height)
    (sized : state.data.map.width = width ∧ state.data.map.height = height)
    (inside : HasSnake (state.manager.players playerId).status →
      (state.data.playerDataCache.head playerId).InGrid width height)
    (turn : Turn state playerId (.ok next)) :
    (¬ HasSnake (next.manager.players playerId).status ∧
      (next.manager.players playerId).direction = (state.manager.players playerId).direction) ∨
    ((state.manager.players playerId).status = .paused ∧
      next.manager.players playerId = state.manager.players playerId ∧
      next.data.playerDataCache.head playerId = state.data.playerDataCache.head playerId) ∨
    ((state.manager.players playerId).status = .playing ∧
      next.manager.players playerId = state.manager.players playerId ∧
      next.data.playerDataCache.head playerId = torusMove width height
        (state.data.playerDataCache.head playerId) (state.manager.players playerId).direction) ∨
    (Spawning (state.manager.players playerId).status ∧
      (next.manager.players playerId).status = .playing ∧
      (next.data.playerDataCache.head playerId).InGrid width height ∧
      ∃ direction, (next.manager.players playerId).direction = directionGetOpposite direction ∧
        next.data.playerDataCache.tail playerId =
          torusMove width height (next.data.playerDataCache.head playerId) direction) := by
  cases turn with
  | idle snakeless => exact Or.inl ⟨snakeless, rfl⟩
  | paused status => exact Or.inr (Or.inl ⟨status, rfl, rfl⟩)
  | noRoom | left | crashed =>
    rw [set_players, if_pos rfl]
    exact Or.inl ⟨by simp [HasSnake], rfl⟩
  | fed status =>
    refine Or.inr (Or.inr (Or.inl ⟨status, rfl, ?_⟩))
    rw [← nextHead_torus sizes sized (inside (Or.inl status))]
    exact if_pos rfl
  | advanced status =>
    refine Or.inr (Or.inr (Or.inl ⟨status, rfl, ?_⟩))
    rw [← nextHead_torus sizes sized (inside (Or.inl status))]
    change (vacate state playerId).playerDataCache.head playerId = _
    rw [vacate, clearPlayerTail_cache]
    exact if_pos rfl
  | @spawned head tail direction placed status site planted =>
    have playable := playable_of_sizes sizes sized
    have step := site.step
    obtain ⟨rfl, rfl⟩ := sized
    rw [mapMoveInDirection_eq playable.fits site.inside] at step
    have headAfter : placed.playerDataCache.head playerId = head := by
      rw [planted_cache planted]
      exact if_pos rfl
    have tailAfter : placed.playerDataCache.tail playerId = tail := by
      rw [planted_cache planted]
      exact if_pos rfl
    rw [set_players, if_pos rfl]
    dsimp only
    rw [headAfter, tailAfter]
    exact Or.inr (Or.inr (Or.inr ⟨status, rfl, site.inside, direction, rfl, step⟩))

/-- The same for a whole tick, with what is written down of it. -/
inductive TickOwn (width height : Nat) (game : Game) (server' : Server) (last : Option LastStep) (playerId : Nat) :
    Option LastStep → Prop where
  | snakeless (last' : Option LastStep)
    (none : ¬ HasSnake (server'.gameState.playerManager.players playerId).status)
    (direction : (server'.gameState.playerManager.players playerId).direction =
      (game.manager.players playerId).direction) :
    TickOwn width height game server' last playerId last'
  | paused (status : (game.manager.players playerId).status = .paused)
    (slot : server'.gameState.playerManager.players playerId = game.manager.players playerId)
    (head : server'.playerDataCache.head playerId = game.server.playerDataCache.head playerId) :
    TickOwn width height game server' last playerId last
  | stepped (status : (game.manager.players playerId).status = .playing)
    (slot : server'.gameState.playerManager.players playerId = game.manager.players playerId)
    (direction : step.direction = (game.manager.players playerId).direction)
    (heading : Heading width height server' playerId step) :
    TickOwn width height game server' last playerId (some step)
  | spawned (status : Spawning (game.manager.players playerId).status)
    (direction : (server'.gameState.playerManager.players playerId).direction = step.direction)
    (heading : Heading width height server' playerId step) :
    TickOwn width height game server' last playerId (some step)

theorem tickLastStep_paused {before after : Server}
    (status : (before.gameState.playerManager.players playerId).status = .paused) :
    tickLastStep before after playerId last = last := by
  unfold tickLastStep
  dsimp only
  rw [status]

theorem tickLastStep_playing {before after : Server}
    (status : (before.gameState.playerManager.players playerId).status = .playing) :
    tickLastStep before after playerId last = some ⟨before.playerDataCache.head playerId,
      (before.gameState.playerManager.players playerId).direction⟩ := by
  unfold tickLastStep
  dsimp only
  rw [status]

theorem tickLastStep_spawned {before after : Server}
    (spawning : Spawning (before.gameState.playerManager.players playerId).status)
    (status : (after.gameState.playerManager.players playerId).status = .playing) :
    tickLastStep before after playerId last = some ⟨after.playerDataCache.tail playerId,
      (after.gameState.playerManager.players playerId).direction⟩ := by
  unfold tickLastStep
  dsimp only
  rcases spawning with before | before
  · rw [before, if_pos status]
  · rw [before, if_pos status]

theorem serverTickLocked_tickOwn (sizes : Sizes width height) (steady : Steady width height game)
    (driven : Driven width height game last playerId)
    (ran : serverTickLocked game.server rng = .ok (server', alive)) :
    TickOwn width height game server' last playerId (tickLastStep game.server server' playerId last) := by
  obtain ⟨before, after, turn, sized, slot, head, slot', head', tail'⟩ :=
    serverTickLocked_own sizes steady driven.within ran
  have inside : HasSnake (before.manager.players playerId).status →
      (before.data.playerDataCache.head playerId).InGrid width height := by
    intro alive
    rw [slot] at alive
    have inside := (steady.cached playerId driven.within alive).1
    unfold Map.InBounds at inside
    rwa [steady.sized.1, steady.sized.2, ← head] at inside
  have own := turn_own sizes sized inside turn
  rw [← slot', ← head', ← tail', slot, head] at own
  rcases own with ⟨none, direction⟩ | ⟨status, slot, head⟩ | ⟨status, slot, head⟩ |
    ⟨spawning, status, inside, direction, away, tail⟩
  · exact .snakeless _ none direction
  · rw [tickLastStep_paused status]
    exact .paused status slot head
  · rw [tickLastStep_playing status]
    exact .stepped status slot rfl (heading_stepped steady driven status slot head)
  · have heading := heading_spawned inside tail away
    rw [tickLastStep_spawned spawning status]
    exact .spawned spawning rfl heading

theorem tick_driven (driven : Driven width height game last playerId)
    (own : TickOwn width height game server' last playerId last') :
    Driven width height { game with server := server' } last' playerId := by
  cases own with
  | snakeless _ none direction =>
    exact ⟨driven.within, driven.held, direction ▸ driven.declared, fun alive => absurd alive none⟩
  | paused status slot head =>
    refine ⟨driven.within, driven.held, slot ▸ driven.declared, fun _ => ?_⟩
    obtain ⟨step, recorded, heading⟩ := driven.heading (Or.inr (Or.inl status))
    exact ⟨step, recorded, heading.declared, heading.inside, head.trans heading.head, slot ▸ heading.forward⟩
  | stepped status slot direction heading =>
    exact ⟨driven.within, driven.held, slot ▸ driven.declared, fun _ => ⟨_, rfl, heading⟩⟩
  | spawned status direction heading =>
    exact ⟨driven.within, driven.held, direction ▸ heading.declared, fun _ => ⟨_, rfl, heading⟩⟩

/-! ## The handlers' calls -/

def arrowDirection : Arrow → Direction
  | .up => .up
  | .left => .left
  | .down => .down
  | .right => .right

/-- A handler's comparison is with the direction opposite to its arrow's. -/
theorem shmClientOnArrowPress_eq (arrow : Arrow) (ctx : ShmClientInputContext) :
    shmClientOnArrowPress arrow ctx =
      if ctx.lastPlayerDirection = directionGetOpposite (arrowDirection arrow) then none
      else some (.setPlayerDirection ctx.playerId (arrowDirection arrow)) := by
  obtain ⟨playerId, status, seen⟩ := ctx
  cases arrow <;> cases seen <;> rfl

/-- A call that does not turn the snake back on itself. -/
inductive SafeCall (game : Game) (last : Option LastStep) (playerId : Nat) : Action → Prop where
  | turn (declared : direction.Declared)
    (forward : HasSnake (game.manager.players playerId).status → ∀ step, last = some step →
      direction ≠ directionGetOpposite step.direction) :
    SafeCall game last playerId (.setPlayerDirection playerId direction)
  | pause : SafeCall game last playerId (.pause playerId)
  | unpause : SafeCall game last playerId (.unpause playerId)
  | respawn : SafeCall game last playerId (.respawn playerId)

private theorem transition_elsewhere (manager : PlayerManager) (other : playerId ≠ p)
    (source target : PlayerStatus) :
    (manager.transition p source target).players playerId = manager.players playerId := by
  unfold PlayerManager.transition
  dsimp only
  split
  · exact if_neg other
  · rfl

/-- An operation on another slot, or a registration, leaves a held slot alone. -/
theorem operate_elsewhere (steady : Steady width height game) (held : game.registered playerId = true)
    (action : Action) (elsewhere : action.slot? ≠ some playerId) :
    (game.operate action).manager.players playerId = game.manager.players playerId ∧
      (game.operate action).registered playerId = game.registered playerId := by
  have active := steady.active playerId held
  have other : ∀ slot, action.slot? = some slot → playerId ≠ slot := by
    rintro slot named rfl
    exact elsewhere named
  cases action with
  | tick => exact ⟨rfl, rfl⟩
  | register =>
    cases registered : playerManagerRegister game.manager with
    | none => simp only [Game.operate, registered, and_self]
    | some result =>
      obtain ⟨slot, manager⟩ := result
      obtain ⟨-, free, rfl⟩ := register_joins registered
      have distinct : playerId ≠ slot := by
        rintro rfl
        rw [free] at active
        exact active
      simp only [Game.operate, registered]
      exact ⟨if_neg distinct, if_neg distinct⟩
  | unregister slot =>
    have distinct := other slot rfl
    simp only [Game.operate]
    split
    · exact ⟨if_neg distinct, if_neg distinct⟩
    · exact ⟨rfl, rfl⟩
  | pause slot => exact ⟨transition_elsewhere _ (other slot rfl) _ _, rfl⟩
  | unpause slot => exact ⟨transition_elsewhere _ (other slot rfl) _ _, rfl⟩
  | respawn slot => exact ⟨transition_elsewhere _ (other slot rfl) _ _, rfl⟩
  | setPlayerDirection slot direction => exact ⟨if_neg (other slot rfl), rfl⟩

/-- Only the slot, its holder and the cached head matter to a driven player. -/
private theorem driven_kept {game' : Game} (driven : Driven width height game last playerId)
    (slot : game'.manager.players playerId = game.manager.players playerId)
    (held : game'.registered playerId = game.registered playerId)
    (cache : game'.server.playerDataCache = game.server.playerDataCache) :
    Driven width height game' last playerId where
  within := driven.within
  held := held.trans driven.held
  declared := slot ▸ driven.declared
  heading := by
    intro alive
    rw [slot] at alive
    obtain ⟨step, recorded, heading⟩ := driven.heading alive
    refine ⟨step, recorded, heading.declared, heading.inside, ?_, ?_⟩
    · rw [cache]
      exact heading.head
    · change (game'.manager.players playerId).direction ≠ _
      rw [slot]
      exact heading.forward

/-- The same after a call that only moves the slot from one status to another. -/
private theorem driven_transition {source target : PlayerStatus} (driven : Driven width height game last playerId)
    (snake : HasSnake target → HasSnake source) :
    Driven width height (game.withManager (game.manager.transition playerId source target)) last playerId := by
  unfold PlayerManager.transition
  dsimp only
  split
  · rename_i status
    refine ⟨driven.within, driven.held, ?_, fun alive => ?_⟩
    · change Direction.Declared (((game.manager.set playerId _).players playerId).direction)
      rw [set_players, if_pos rfl]
      exact driven.declared
    · change HasSnake (((game.manager.set playerId _).players playerId).status) at alive
      rw [set_players, if_pos rfl] at alive
      obtain ⟨step, recorded, heading⟩ := driven.heading (status ▸ snake alive)
      refine ⟨step, recorded, heading.declared, heading.inside, heading.head, ?_⟩
      change (((game.manager.set playerId _).players playerId).direction) ≠ _
      rw [set_players, if_pos rfl]
      exact heading.forward
  · exact driven_kept driven rfl rfl rfl

theorem call_driven (driven : Driven width height game last playerId) (safe : SafeCall game last playerId action) :
    Driven width height (game.operate action) last playerId := by
  cases safe with
  | pause => exact driven_transition driven fun _ => Or.inl rfl
  | unpause => exact driven_transition driven fun _ => Or.inr (Or.inl rfl)
  | respawn => exact driven_transition driven fun snake => absurd snake (by simp [HasSnake])
  | @turn direction declared forward =>
    have slot : (game.operate (.setPlayerDirection playerId direction)).manager.players playerId =
        { game.manager.players playerId with direction } := if_pos rfl
    refine ⟨driven.within, driven.held, ?_, fun alive => ?_⟩
    · rw [slot]
      exact declared
    · rw [slot] at alive
      obtain ⟨step, recorded, heading⟩ := driven.heading alive
      refine ⟨step, recorded, heading.declared, heading.inside, heading.head, ?_⟩
      change ((game.operate (.setPlayerDirection playerId direction)).manager.players playerId).direction ≠ _
      rw [slot]
      exact forward alive step recorded

/-! ## Server and client together -/

/-- A press of the arrow that leads back, while there is a snake, finds the
direction of its last step in the loop's variable. -/
def FreshPress (self : ShmRoom) (arrow : Arrow) : Prop :=
  match self.stage, self.last with
  | .running client, some step =>
    client.pending.isNone = true → HasSnake (self.game.manager.players client.context.playerId).status →
      arrowDirection arrow = directionGetOpposite step.direction →
        client.context.lastPlayerDirection = step.direction
  | _, _ => True

/-- A tick between an arrow handler's comparison and its call neither spawns the
snake nor moves it the other way. -/
def QuietTick (self : ShmRoom) : Prop :=
  match self.stage with
  | .running client =>
    match client.pending with
    | some (.setPlayerDirection playerId direction) =>
      ¬ Spawning (self.game.manager.players playerId).status ∧
        ((self.game.manager.players playerId).status = .playing →
          direction ≠ directionGetOpposite (self.game.manager.players playerId).direction)
    | _ => True
  | _ => True

def Fresh (self : ShmRoom) : ShmStep → Prop
  | .tick _ => QuietTick self
  | .press (.arrow arrow) => FreshPress self arrow
  | _ => True

instance (self : ShmRoom) : Decidable (QuietTick self) := by
  unfold QuietTick
  split <;> try split
  all_goals infer_instance

instance (self : ShmRoom) (arrow : Arrow) : Decidable (FreshPress self arrow) := by
  unfold FreshPress
  split <;> infer_instance

instance (self : ShmRoom) : DecidablePred (Fresh self) := by
  intro step
  unfold Fresh
  split <;> infer_instance

structure Steered (width height : Nat) (room : ShmRoom) : Prop where
  steady : Steady width height room.game
  driven : ∀ playerId, room.stage.playerId? = some playerId →
    Driven width height room.game room.last playerId
  calls : ∀ client, room.stage = .running client → ∀ action ∈ client.pending,
    SafeCall room.game room.last client.context.playerId action

variable {self next : ShmRoom}

private theorem running_playerId {client : ShmClient} (running : self.stage = .running client) :
    self.stage.playerId? = some client.context.playerId := congrArg ShmClientStage.playerId? running

private theorem safeCall_kept {game' : Game} (safe : SafeCall game last playerId action)
    (slot : game'.manager.players playerId = game.manager.players playerId) :
    SafeCall game' last playerId action := by
  cases safe with
  | turn declared forward => exact .turn declared (slot ▸ forward)
  | pause => exact .pause
  | unpause => exact .unpause
  | respawn => exact .respawn

private theorem safeCall_tick (safe : SafeCall game last playerId action)
    (own : TickOwn width height game server' last playerId last')
    (quiet : ∀ direction, action = .setPlayerDirection playerId direction →
      ¬ Spawning (game.manager.players playerId).status ∧
        ((game.manager.players playerId).status = .playing →
          direction ≠ directionGetOpposite (game.manager.players playerId).direction)) :
    SafeCall { game with server := server' } last' playerId action := by
  cases safe with
  | pause => exact .pause
  | unpause => exact .unpause
  | respawn => exact .respawn
  | @turn direction declared forward =>
    obtain ⟨unspawned, ahead⟩ := quiet direction rfl
    refine .turn declared fun alive step recorded => ?_
    cases own with
    | snakeless _ none => exact absurd alive none
    | paused status => exact forward (Or.inr (Or.inl status)) step recorded
    | stepped status slot used =>
      obtain rfl := Option.some.inj recorded
      rw [used]
      exact ahead status
    | spawned status => exact absurd status unspawned

private theorem tick_steered (sizes : Sizes width height) (steered : Steered width height self)
    (quiet : QuietTick self) (ran : self.step (.tick rng) = .ok next) : Steered width height next := by
  obtain ⟨⟨server', alive⟩, ticked, ran⟩ := bind_ok.mp ran
  obtain ⟨locked, ranLocked, rfl⟩ := serverTick_ok ticked
  cases ran
  have own := fun playerId known =>
    serverTickLocked_tickOwn sizes steered.steady (steered.driven playerId known) ranLocked
  have playable := playable_of_sizes sizes steered.steady.sized
  refine ⟨tick_steady (serverTickLocked_steady playable steered.steady ranLocked), fun playerId known => ?_,
    fun client running action pending => ?_⟩
  · change self.stage.playerId? = some playerId at known
    dsimp only
    rw [known]
    exact driven_kept (tick_driven (steered.driven playerId known) (own playerId known)) rfl rfl rfl
  · change self.stage = .running client at running
    have known := running_playerId running
    have safe := steered.calls client running action pending
    dsimp only
    rw [known]
    refine safeCall_kept (safeCall_tick safe (own _ known) ?_) rfl
    rintro direction rfl
    unfold QuietTick at quiet
    simp only [running, Option.mem_def.mp pending] at quiet
    exact quiet

private theorem operate_steered (steered : Steered width height self) (action : Action)
    (elsewhere : ∀ playerId, self.stage.playerId? = some playerId → action.slot? ≠ some playerId) :
    Steered width height { self with game := self.game.operate action } := by
  have kept := fun playerId known => operate_elsewhere steered.steady (steered.driven playerId known).held action
    (elsewhere playerId known)
  refine ⟨operate_steady steered.steady action, fun playerId known => ?_, fun client running action' pending => ?_⟩
  · exact driven_kept (steered.driven playerId known) (kept playerId known).1 (kept playerId known).2
      (operate_cache _ _)
  · have known := running_playerId running
    exact safeCall_kept (steered.calls client running action' pending) (kept _ known).1

private theorem inLoop_steered (steered : Steered width height self) (change : ShmClient → ShmClient)
    (player : ∀ client, (change client).context.playerId = client.context.playerId)
    (calls : ∀ client, self.stage = .running client → ∀ action ∈ (change client).pending,
      SafeCall self.game self.last client.context.playerId action) :
    Steered width height (self.inLoop change) := by
  unfold ShmRoom.inLoop
  split
  · rename_i client running
    refine ⟨steered.steady, fun playerId known => ?_, fun client' same action pending => ?_⟩
    · apply steered.driven
      rw [running]
      exact (congrArg some (player client)).symm.trans known
    · cases same
      rw [player client]
      exact calls client running action pending
  · exact steered

private theorem press_steered (steered : Steered width height self) (key : Key)
    (fresh : Fresh self (.press key)) : Steered width height (self.inLoop (·.press key)) := by
  refine inLoop_steered steered _ (fun client => ?_) fun client running action pending => ?_
  · unfold ShmClient.press
    split <;> rfl
  · have known := running_playerId running
    unfold ShmClient.press at pending
    split at pending
    case h_2 => exact steered.calls client running action pending
    case h_1 idle =>
      cases key with
      | pause =>
        obtain ⟨-, ⟨⟩⟩ := Option.ite_none_right_eq_some.mp (Option.mem_def.mp pending)
        exact .pause
      | unpause =>
        obtain ⟨-, ⟨⟩⟩ := Option.ite_none_right_eq_some.mp (Option.mem_def.mp pending)
        exact .unpause
      | respawn =>
        obtain ⟨-, ⟨⟩⟩ := Option.ite_none_right_eq_some.mp (Option.mem_def.mp pending)
        exact .respawn
      | arrow arrow =>
        have compared := (shmClientOnArrowPress_eq arrow client.context).symm.trans (Option.mem_def.mp pending)
        obtain ⟨apart, ⟨⟩⟩ := Option.ite_none_left_eq_some.mp compared
        refine .turn (by cases arrow <;> trivial) fun alive step recorded back => apart ?_
        have seen : FreshPress self arrow := fresh
        unfold FreshPress at seen
        simp only [running, recorded] at seen
        obtain ⟨step', recorded', heading⟩ := (steered.driven _ known).heading alive
        obtain rfl := Option.some.inj (recorded.symm.trans recorded')
        rw [back, seen (Option.isNone_iff_eq_none.mpr idle) alive back]
        exact (directionGetOpposite_twice heading.declared).symm

private theorem call_steered (steered : Steered width height self)
    (ran : self.step .call = .ok next) : Steered width height next := by
  simp only [ShmRoom.step] at ran
  split at ran
  case h_2 =>
    cases ran
    exact steered
  case h_1 client running =>
    split at ran
    case h_2 =>
      cases ran
      exact steered
    case h_1 action pending =>
      cases ran
      have known := running_playerId running
      have safe := steered.calls client running action pending
      refine ⟨operate_steady steered.steady action, fun playerId same => ?_, fun client' same action' pending' => ?_⟩
      · cases same
        exact call_driven (steered.driven _ known) safe
      · cases same
        cases pending'

private theorem register_steered (steered : Steered width height self)
    (ran : self.step .register = .ok next) : Steered width height next := by
  simp only [ShmRoom.step] at ran
  split at ran
  case h_2 =>
    cases ran
    exact steered
  case h_1 playerId manager outside registered =>
    cases ran
    obtain ⟨within, free, rfl⟩ := register_joins registered
    have operated : self.game.operate .register =
        { self.game.withManager (self.game.manager.set playerId { status := .joining, direction := .up }) with
          registered := fun p => if p = playerId then true else self.game.registered p } := by
      simp only [Game.operate, registered]
    have slot : (self.game.operate .register).manager.players playerId =
        { status := .joining, direction := .up } := by
      rw [operated]
      exact if_pos rfl
    refine ⟨operate_steady steered.steady .register, fun playerId' same => ?_,
      fun client running => by cases running⟩
    cases same
    refine ⟨within, ?_, ?_, ?_⟩
    · rw [operated]
      exact if_pos rfl
    · rw [slot]
      trivial
    · rw [slot]
      exact fun alive => absurd alive (by simp [HasSnake])

/-- No step lets the snake turn back on itself, as long as the handlers compare
with its last direction. -/
theorem step_steered (sizes : Sizes width height) (steered : Steered width height self) (step : ShmStep)
    (fresh : Fresh self step) (ran : self.step step = .ok next) : Steered width height next := by
  cases step with
  | tick rng => exact tick_steered sizes steered fresh ran
  | register => exact register_steered steered ran
  | call => exact call_steered steered ran
  | press key =>
    cases ran
    exact press_steered steered key fresh
  | others action =>
    simp only [ShmRoom.step] at ran
    split at ran
    case isTrue =>
      cases ran
      exact steered
    case isFalse apart =>
      cases ran
      refine operate_steered steered action fun playerId known named => apart ?_
      rw [named, known]
      exact ⟨rfl, rfl⟩
  | observerInit =>
    simp only [ShmRoom.step] at ran
    split at ran
    case h_2 =>
      cases ran
      exact steered
    case h_1 registered =>
      cases ran
      exact ⟨steered.steady, fun playerId same => steered.driven playerId (by rw [registered]; exact same),
        fun client running => by cases running⟩
  | initPlayerState =>
    simp only [ShmRoom.step] at ran
    split at ran
    case h_2 =>
      cases ran
      exact steered
    case h_1 observing =>
      cases ran
      refine ⟨steered.steady, fun playerId same => steered.driven playerId (by rw [observing]; exact same),
        fun client same action pending => ?_⟩
      cases same
      cases pending
  | waitReturn =>
    cases ran
    refine inLoop_steered steered _ (fun client => ?_) fun client running action pending => ?_
    · unfold ShmClient.waitReturn
      split <;> rfl
    · unfold ShmClient.waitReturn at pending
      split at pending <;> exact steered.calls client running action pending
  | getPlayerState =>
    cases ran
    refine inLoop_steered steered _ (fun client => ?_) fun client running action pending => ?_
    · unfold ShmClient.getPlayerState
      split <;> rfl
    · unfold ShmClient.getPlayerState at pending
      split at pending <;> exact steered.calls client running action pending
  | refresh =>
    cases ran
    refine inLoop_steered steered _ (fun client => ?_) fun client running action pending => ?_
    · unfold ShmClient.refresh
      split <;> rfl
    · unfold ShmClient.refresh at pending
      split at pending <;> exact steered.calls client running action pending

theorem start_steered (map : Map) (directions : Nat → Direction) (cache : PlayerDataCache)
    (template : MapTemplate) :
    Steered template.width template.height (ShmRoom.start (Game.start map directions cache template)) where
  steady := start_steady map directions cache template
  driven := fun playerId known => by cases known
  calls := fun client running => by cases running

/-- The client's snake is not about to turn back on itself: its next step is
neither against its last one nor to the cell behind its head. -/
def Ahead (room : ShmRoom) : Prop :=
  ∀ playerId, room.stage.playerId? = some playerId → (room.game.manager.players playerId).status = .playing →
    ∃ step, room.last = some step ∧
      (room.game.manager.players playerId).direction ≠ directionGetOpposite step.direction ∧
      mapMoveInDirection room.game.server.gameState.map (room.game.server.playerDataCache.head playerId)
        (room.game.manager.players playerId).direction ≠ step.behind

/-- In a run whose arrow presses find the direction of the last step, no tick can
move the snake back: every prefix of such a run is one. -/
theorem run_ahead (wide : minMapWidth ≤ template.width) (widthBound : template.width ≤ maxMapWidth)
    (high : minMapHeight ≤ template.height) (heightBound : template.height ≤ maxMapHeight)
    (guarded : Guarded ShmRoom.step Fresh (ShmRoom.start (Game.start map directions cache template)) steps)
    (ran : (ShmRoom.start (Game.start map directions cache template)).run steps = .ok final) : Ahead final := by
  have sizes := sizes_of_limits wide widthBound high heightBound
  have steered := run_preserves (Steered template.width template.height) steps
    (fun state step _ next held met stepped => step_steered sizes held step met stepped)
    (start_steered map directions cache template) guarded ran
  intro playerId known playing
  have driven := steered.driven playerId known
  obtain ⟨step, recorded, heading⟩ := driven.heading (Or.inl playing)
  exact ⟨step, recorded, heading.forward, heading_ahead sizes (Nat.le_trans (by decide) wide)
    (Nat.le_trans (by decide) high) steered.steady heading driven.declared⟩

/-- The player joins, its snake is put on the map facing down, and the loop reads
its state. -/
def firstSpawn : List ShmStep :=
  [.register, .observerInit, .initPlayerState, .tick (drawing [2, 2, 3, 2]), .waitReturn, .getPlayerState, .refresh]

/-- One turn after each of two steps. -/
def turning : List ShmStep :=
  firstSpawn ++ [.press (.arrow .up), .press (.arrow .left), .call, .tick (drawing [9, 9]), .waitReturn,
    .getPlayerState, .refresh, .press (.arrow .up), .call]

private theorem turning_fresh : Guarded ShmRoom.step Fresh (ShmRoom.start emptyGame) turning := by decide +kernel

private theorem turning_plays : ∃ final, (ShmRoom.start emptyGame).run turning = .ok final ∧
    final.stage.playerId? = some 0 ∧ (final.game.manager.players 0).status = .playing ∧
      (final.game.manager.players 0).direction = .up := by decide +kernel

theorem run_ahead_turning : ∃ final, (ShmRoom.start emptyGame).run turning = .ok final ∧
    final.stage.playerId? = some 0 ∧ (final.game.manager.players 0).status = .playing ∧
      (final.game.manager.players 0).direction = .up ∧ Ahead final := by
  obtain ⟨final, ran, player, status, direction⟩ := turning_plays
  exact ⟨final, ran, player, status, direction,
    run_ahead (by decide) (by decide) (by decide) (by decide) turning_fresh ran⟩

/-- Both turns come after the same step, with an iteration of the loop between
them. -/
def doubleTurn : List ShmStep :=
  firstSpawn ++ [.tick (drawing [9, 9]), .press (.arrow .left), .call, .waitReturn, .getPlayerState, .refresh,
    .press (.arrow .up), .call]

private theorem doubleTurn_back : ∃ final, (ShmRoom.start emptyGame).run doubleTurn = .ok final ∧
    final.stage.playerId? = some 0 ∧ (final.game.manager.players 0).status = .playing ∧
      final.last.map LastStep.direction = some .down ∧ (final.game.manager.players 0).direction = .up := by
  decide +kernel

private theorem doubleTurn_dies : ∃ final,
    (ShmRoom.start emptyGame).run (doubleTurn ++ [.tick (drawing [])]) = .ok final ∧
      (final.game.manager.players 0).status = .dead := by decide +kernel

/-- The snake of length three is about to turn back, and dies of it. -/
theorem run_ahead_doubleTurn :
    (∃ final, (ShmRoom.start emptyGame).run doubleTurn = .ok final ∧
      (final.game.manager.players 0).status = .playing ∧ ¬ Ahead final) ∧
    ∃ final, (ShmRoom.start emptyGame).run (doubleTurn ++ [.tick (drawing [])]) = .ok final ∧
      (final.game.manager.players 0).status = .dead := by
  constructor
  · obtain ⟨final, ran, player, status, used, requested⟩ := doubleTurn_back
    refine ⟨final, ran, status, fun ahead => ?_⟩
    obtain ⟨step, recorded, forward, -⟩ := ahead 0 player status
    rw [recorded] at used
    rw [requested, Option.some.inj used] at forward
    exact forward rfl
  · exact doubleTurn_dies

end SnakePosix.Steering
