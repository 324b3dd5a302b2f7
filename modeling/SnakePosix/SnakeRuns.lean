import SnakePosix.Snakes
import SnakePosix.GameRuns

/-! Snakes along whole runs. Inside a tick the players below some index have had
their visit and the others have not; `Midway` says what holds there, and
`Rested` what holds between ticks. -/
namespace SnakePosix.SnakeRuns
open MapProofs Torus TickTurns Trails ChangelogReplay Snakes GameRuns GuardedRuns

variable {width height playerId player index : Nat} {state next : TickState} {game : Game}
  {settled : TickState → Nat → Prop} {data after : ProcessPlayerData}

/-! ## Inside a tick -/

/-- The first `index` players have had their visit and their snakes are settled;
every other snake lies on the map, without its tail where a lower player took it. -/
structure Midway (width height : Nat) (settled : TickState → Nat → Prop) (index : Nat) (state : TickState) :
    Prop where
  sized : state.data.map.width = width ∧ state.data.map.height = height
  owners : ∀ p < maxPlayers, ∀ c, c.InGrid width height → Owns state.data.map p c →
    HasSnake (state.manager.players p).status
  visited : ∀ p < index, HasSnake (state.manager.players p).status → settled state p
  waiting : ∀ p, index ≤ p → p < maxPlayers → HasSnake (state.manager.players p).status →
    ∃ (snake : Snake width height) (held : List Coordinates),
      Lies state.data.map state.data.playerDataCache p snake held ∧
        ((state.manager.players p).status = .paused → held = snake.cells)

/-- A visit spares a settled snake, and what it spares stays settled. -/
def Respected (settled : TickState → Nat → Prop) : Prop :=
  ∀ before after p, Spared before after p (fun _ => False) → settled before p → settled after p

theorem midway_visited (midway : Midway width height settled index state) (sizes : Sizes width height)
    (within : index < maxPlayers) :
    ∃ next, forEachSlot state index = .ok next ∧ Turn state index (.ok next) := by
  have playable := playable_of_sizes sizes midway.sized
  have turn := forEachSlot_turn playable fun alive => by
    obtain ⟨snake, held, lies, -⟩ := midway.waiting index (Nat.le_refl _) within alive
    obtain ⟨rfl, rfl⟩ := midway.sized
    exact lies.head ▸ head_inside lies
  cases visited : forEachSlot state index with
  | ok next => exact ⟨next, rfl, visited ▸ turn⟩
  | error halt =>
    rw [visited] at turn
    cases turn with
    | stuck status way missed =>
      obtain ⟨snake, held, lies, -⟩ := midway.waiting index (Nat.le_refl _) within (Or.inl status)
      exact absurd missed (vacate_tail_found midway.sized playable lies)

/-- A player without a snake owns no tile. -/
theorem midway_unowned (midway : Midway width height settled index state) (within : playerId < maxPlayers)
    (snakeless : ¬ HasSnake (state.manager.players playerId).status) :
    ∀ c, c.InGrid width height → ¬ Owns state.data.map playerId c :=
  fun c inside owned => snakeless (midway.owners playerId within c inside owned)

theorem spawning_snakeless (spawning : Spawning status) : ¬ HasSnake status := by
  rcases spawning with rfl | rfl <;> simp [HasSnake]

/-- The visited player's own tiles after the visit belong to a snake again. -/
private theorem turn_owner (midway : Midway width height settled index state) (sizes : Sizes width height)
    (within : index < maxPlayers) (turn : Turn state index (.ok next)) (c : Coordinates)
    (inside : c.InGrid width height) (owned : Owns next.data.map index c) :
    HasSnake (next.manager.players index).status := by
  have playable := playable_of_sizes sizes midway.sized
  have before := midway.owners index within c inside
  cases turn with
  | idle snakeless => exact before owned
  | paused => exact before owned
  | noRoom status => exact absurd (before owned) (spawning_snakeless status)
  | spawned => exact Or.inl (congrArg Player.status (if_pos rfl))
  | left status removed =>
    obtain ⟨snake, held, lies, -⟩ := midway.waiting index (Nat.le_refl _) within (Or.inr (Or.inr status))
    exact absurd owned (removed_unowned midway.sized lies removed inside)
  | crashed status _ _ removed =>
    obtain ⟨snake, held, lies, -⟩ := midway.waiting index (Nat.le_refl _) within (Or.inl status)
    exact absurd owned (removed_unowned midway.sized lies removed inside)
  | fed status => exact Or.inl status
  | advanced status => exact Or.inl status

/-- One visit carries the invariant to the next index, given that it settles its
own snake. -/
theorem midway_turn (midway : Midway width height settled index state) (sizes : Sizes width height)
    (within : index < maxPlayers) (respected : Respected settled) (turn : Turn state index (.ok next))
    (own : HasSnake (next.manager.players index).status → settled next index) :
    Midway width height settled (index + 1) next where
  sized := by
    have size := turn_sameSize turn
    exact ⟨size.1.trans midway.sized.1, size.2.trans midway.sized.2⟩
  owners := by
    intro p bound c inside owned
    by_cases here : p = index
    · subst here
      exact turn_owner midway sizes within turn c inside owned
    · rcases turn_spares turn here with spared | ⟨-, -, -, spared⟩
      · rw [spared.slot]
        exact midway.owners p bound c inside (spared.claimed c owned).1
      · rw [spared.slot]
        exact midway.owners p bound c inside (spared.claimed c owned).1
  visited := by
    intro p before alive
    rcases Nat.lt_or_eq_of_le (Nat.le_of_lt_succ before) with earlier | rfl
    · rcases turn_spares turn (Nat.ne_of_lt earlier) with spared | ⟨later, -⟩
      · rw [spared.slot] at alive
        exact respected _ _ _ spared (midway.visited p earlier alive)
      · exact absurd later (Nat.lt_asymm earlier)
    · exact own alive
  waiting := by
    intro p later bound alive
    have other : p ≠ index := Nat.ne_of_gt later
    rcases turn_spares turn other with spared | ⟨-, running, tailOwned, spared⟩
    · rw [spared.slot] at alive ⊢
      obtain ⟨snake, held, lies, whole⟩ := midway.waiting p (Nat.le_of_lt later) bound alive
      exact ⟨snake, held, lies_spared spared lies, whole⟩
    · rw [spared.slot] at alive ⊢
      obtain ⟨snake, held, lies, -⟩ := midway.waiting p (Nat.le_of_lt later) bound alive
      have whole : Whole state.data.map state.data.playerDataCache p snake := by
        rcases lies.holding with rfl | rfl
        · exact lies
        · rw [lies.tail] at tailOwned
          exact absurd ((lies.owned _ (tail_inside lies)).mp tailOwned) snake.tail_not_mem
      exact ⟨snake, snake.rest, whole_overrun spared whole, fun paused => absurd paused running⟩

/-- All visits of a tick return, and settle every snake, where every single
visit settles its own. Another invariant of the visits may be carried along. -/
theorem playerManagerForEach_carries {good : TickState → Nat → Prop} (carried : Nat → TickState → Prop)
    (sizes : Sizes width height) (respected : Respected settled)
    (settles : ∀ index state next, index < maxPlayers → Midway width height settled index state →
      good state index → Turn state index (.ok next) → HasSnake (next.manager.players index).status →
        settled next index)
    (carries : ∀ index state next, Turn state index (.ok next) → carried index state → carried (index + 1) next)
    (midway : Midway width height settled 0 state) (held : carried 0 state)
    (guarded : Guarded forEachSlot good state (List.range maxPlayers)) :
    ∃ final, playerManagerForEach state = .ok final ∧ Midway width height settled maxPlayers final ∧
      carried maxPlayers final := by
  refine range_succeeds (fun index state => Midway width height settled index state ∧ carried index state)
    maxPlayers (fun index state within kept met => ?_) ⟨midway, held⟩ guarded
  obtain ⟨midway, held⟩ := kept
  obtain ⟨next, visited, turn⟩ := midway_visited midway sizes within
  have own := settles index state next within midway met turn
  exact ⟨next, visited, midway_turn midway sizes within respected turn own, carries index state next turn held⟩

/-! ## Snakes that stay whole -/

/-- The cell in front of a snake, and the reasons its callback has to enter it. -/
def Moves (state : TickState) (playerId : Nat) : Prop :=
  (state.data.map.tiles (nextHead state playerId)).type = .fruit ∨ Way state playerId

/-- What a visit of a playing snake needs to leave the snake whole: a snake that
eats still has its tail cell, and the order of a new head does not wrap. -/
def Sound (state : TickState) (playerId : Nat) : Prop :=
  (state.manager.players playerId).status = .playing →
    ((state.data.map.tiles (nextHead state playerId)).type = .fruit →
      Owns state.data.map playerId (state.data.playerDataCache.tail playerId)) ∧
    (Moves state playerId → OrderFits state playerId)

/-- The snake the player's tiles form. -/
def SnakeWhole (width height : Nat) (state : TickState) (playerId : Nat) : Prop :=
  ∃ snake : Snake width height, Whole state.data.map state.data.playerDataCache playerId snake

theorem snakeWhole_respected : Respected (SnakeWhole width height) :=
  fun _ _ _ spared ⟨snake, whole⟩ => ⟨snake, lies_spared spared whole⟩

/-- A sound visit leaves its snake whole. -/
theorem turn_settles (sizes : Sizes width height) (within : index < maxPlayers)
    (midway : Midway width height settled index state) (sound : Sound state index)
    (turn : Turn state index (.ok next)) (alive : HasSnake (next.manager.players index).status) :
    SnakeWhole width height next index := by
  have playable := playable_of_sizes sizes midway.sized
  have waiting := midway.waiting index (Nat.le_refl _) within
  cases turn with
  | idle snakeless => exact absurd alive snakeless
  | paused status =>
    obtain ⟨snake, held, lies, whole⟩ := waiting alive
    obtain rfl := whole status
    exact ⟨snake, lies⟩
  | noRoom | left | crashed =>
    rw [set_players, if_pos rfl] at alive
    simp [HasSnake] at alive
  | spawned status site planted =>
    obtain ⟨snake, whole⟩ := spawned_whole midway.sized playable sizes.wide sizes.high
      (midway_unowned midway within (spawning_snakeless status)) site planted
    exact ⟨snake, whole⟩
  | fed status fruit =>
    obtain ⟨snake, held, lies, -⟩ := waiting alive
    obtain ⟨tailOwned, orderFits⟩ := sound status
    have whole : Whole state.data.map state.data.playerDataCache index snake := by
      rcases lies.holding with rfl | rfl
      · exact lies
      · have owned := tailOwned fruit
        rw [lies.tail] at owned
        exact absurd ((lies.owned _ (tail_inside lies)).mp owned) snake.tail_not_mem
    exact fed_whole midway.sized playable whole (orderFits (Or.inl fruit)) fruit
  | advanced status way found =>
    obtain ⟨snake, held, lies, -⟩ := waiting alive
    exact advanced_whole midway.sized playable lies ((sound status).2 (Or.inr way)) way found

instance (state : TickState) (playerId : Nat) : Decidable (Sound state playerId) := by
  unfold Sound Moves OrderFits
  infer_instance

/-! ## Between ticks -/

/-- Every snake lies whole on the map, and every player's tile is part of a
snake. -/
structure Rested (width height : Nat) (game : Game) : Prop where
  steady : Steady width height game
  owners : ∀ p < maxPlayers, ∀ c, c.InGrid width height → Owns game.server.gameState.map p c →
    HasSnake (game.manager.players p).status
  whole : ∀ p < maxPlayers, HasSnake (game.manager.players p).status →
    ∃ snake : Snake width height, Whole game.server.gameState.map game.server.playerDataCache p snake

theorem beginTick_midway (rested : Rested width height game) (settled : TickState → Nat → Prop) (rng : Rng) :
    Midway width height settled 0 (game.server.beginTick rng) where
  sized := rested.steady.sized
  owners := rested.owners
  visited := fun _ before => absurd before (Nat.not_lt_zero _)
  waiting := by
    intro p _ within alive
    obtain ⟨snake, whole⟩ := rested.whole p within alive
    exact ⟨snake, snake.cells, whole, fun _ => rfl⟩

/-- What ends a tick leaves whole snakes whole. -/
theorem whole_undisturbed {snake : Snake width height} (undisturbed : Undisturbed data after)
    (whole : Whole data.map data.playerDataCache player snake) :
    Whole after.map after.playerDataCache player snake where
  tail := by
    rw [undisturbed.cache]
    exact whole.tail
  head := by
    rw [undisturbed.cache]
    exact whole.head
  inside := whole.inside
  holding := whole.holding
  owned := by
    intro c inside
    rw [undisturbed_owns undisturbed]
    exact whole.owned c inside
  numbered := by
    refine numbered_congr (fun c member => congrArg MapTile.order ?_) whole.numbered
    exact (undisturbed.tiles c).resolve_right fun apart => apart.1 (held_owned whole member).1

/-- A tick of sound visits returns and leaves every snake whole. -/
theorem serverTickLocked_rested (sizes : Sizes width height) (rested : Rested width height game)
    (guarded : Guarded forEachSlot Sound (game.server.beginTick rng) (List.range maxPlayers)) :
    ∃ server' alive, serverTickLocked game.server rng = .ok (server', alive) ∧
      Rested width height { game with server := server' } := by
  obtain ⟨state, visited, midway, -⟩ := playerManagerForEach_carries (fun _ _ => True) sizes snakeWhole_respected
    (fun index state next within midway sound turn alive => turn_settles sizes within midway sound turn alive)
    (fun _ _ _ _ held => held) (beginTick_midway rested _ rng) trivial guarded
  obtain ⟨data, undisturbed, returned⟩ := serverTickLocked_after_visits visited
    (playable_of_sizes sizes midway.sized)
  have playable := playable_of_sizes sizes rested.steady.sized
  refine ⟨_, _, returned, serverTickLocked_steady playable rested.steady returned, ?_, ?_⟩
  · intro p within c inside owned
    exact midway.owners p within c inside ((undisturbed_owns undisturbed c).mp owned)
  · intro p within alive
    obtain ⟨snake, whole⟩ := midway.visited p within alive
    exact ⟨snake, whole_undisturbed undisturbed whole⟩

theorem operate_rested (rested : Rested width height game) (action : Action) :
    Rested width height (game.operate action) where
  steady := operate_steady rested.steady action
  owners := by
    intro p within c inside owned
    rw [operate_map] at owned
    exact (moved_hasSnake (operate_moved rested.steady.active action p)).mpr (rested.owners p within c inside owned)
  whole := by
    intro p within alive
    rw [operate_map, operate_cache]
    exact rested.whole p within ((moved_hasSnake (operate_moved rested.steady.active action p)).mp alive)

/-- Every visit of the action, if it is a tick, is sound. -/
def SoundStep (game : Game) : Action → Prop
  | .tick rng => Guarded forEachSlot Sound (game.server.beginTick rng) (List.range maxPlayers)
  | _ => True

instance (game : Game) : (action : Action) → Decidable (SoundStep game action)
  | .tick _ => inferInstanceAs (Decidable (Guarded ..))
  | .register | .unregister _ | .pause _ | .unpause _ | .respawn _ | .setPlayerDirection .. => isTrue trivial

theorem step_rested (sizes : Sizes width height) (rested : Rested width height game)
    (action : Action) (sound : SoundStep game action) :
    ∃ next, game.step action = .ok next ∧ Rested width height next := by
  cases action with
  | tick rng =>
    obtain ⟨server', alive, returned, steady, owners, whole⟩ := serverTickLocked_rested sizes rested sound
    refine ⟨{ game with server := server'.tick }, ?_, tick_steady steady, owners, whole⟩
    simp only [Game.step, serverTick, returned, bind, Except.bind]
  | register | unregister | pause | unpause | respawn | setPlayerDirection =>
    exact ⟨_, rfl, operate_rested rested _⟩

theorem start_rested (map : Map) (directions : Nat → Direction) (cache : PlayerDataCache)
    (template : MapTemplate) :
    Rested template.width template.height (Game.start map directions cache template) where
  steady := start_steady map directions cache template
  owners := by
    intro p _ c inside owned
    have tile : (Game.start map directions cache template).server.gameState.map.tiles c = _ :=
      mapInitFromTemplate_tiles map template inside
    refine absurd owned (not_owns_of_type ?_)
    rw [tile]
    dsimp only
    split <;> simp
  whole := fun p _ alive => absurd alive (by simp [Game.start, Game.manager, gameStateInit,
    playerManagerInit, HasSnake])

/-- Every run of sound visits goes through, and its snakes are whole at the end. -/
theorem run_rested (map : Map) (directions : Nat → Direction) (cache : PlayerDataCache)
    (template : MapTemplate) (sizes : Sizes template.width template.height) (actions : List Action)
    (guarded : Guarded Game.step SoundStep (Game.start map directions cache template) actions) :
    ∃ final, (Game.start map directions cache template).run actions = .ok final ∧
      Rested template.width template.height final :=
  run_succeeds (Rested template.width template.height)
    (fun _ action rested sound => step_rested sizes rested action sound) actions
    (start_rested map directions cache template) guarded

/-- In a run of sound visits the tiles, the orders and the cache of every snake
agree after each action: every prefix of such a run is one. -/
theorem run_snakeCells (wide : minMapWidth ≤ template.width) (widthBound : template.width ≤ maxMapWidth)
    (high : minMapHeight ≤ template.height) (heightBound : template.height ≤ maxMapHeight)
    (guarded : Guarded Game.step SoundStep (Game.start map directions cache template) actions)
    (ran : (Game.start map directions cache template).run actions = .ok final) :
    ∀ p < maxPlayers, HasSnake (final.manager.players p).status →
      ∃ list, SnakeCells final.server.gameState.map final.server.playerDataCache p list := by
  intro p within alive
  have sizes := sizes_of_limits wide widthBound high heightBound
  obtain ⟨reached, returned, rested⟩ := run_rested map directions cache template sizes actions guarded
  rw [returned] at ran
  cases ran
  obtain ⟨snake, whole⟩ := rested.whole p within alive
  have sized := rested.steady.sized
  revert snake
  rw [← sized.1, ← sized.2]
  exact fun snake whole => ⟨snake.cells, whole_snakeCells whole⟩

/-- The unfilled server the runs below start from: ten by ten cells, no walls. -/
def emptyGame : Game :=
  Game.start { tiles := fun _ => { order := 0, type := .empty, player := 0 }, width := 0, height := 0 }
    (fun _ => .up) { head := fun _ => ⟨0, 0⟩, tail := fun _ => ⟨0, 0⟩ }
    { walls := fun _ => false, width := 10, height := 10 }

/-- The draws of one tick, zero after the last one given. -/
def drawing (draws : List Nat) : Rng := { draws := fun i => draws.getD i 0, used := 0 }

/-- Two players join, at the cells (2, 2) and (6, 6), and each of them eats: player 0 the
fruit that comes with player 1, and player 1 the one that replaces it. -/
def joining : List Action :=
  [.register, .register, .tick (drawing [2, 2, 9, 9, 6, 6, 3, 2]), .tick (drawing [8, 6]), .tick (drawing [])]

private theorem joining_sound : Guarded Game.step SoundStep emptyGame joining := by decide +kernel

private theorem joining_plays : ∃ final, emptyGame.run joining = .ok final ∧
    (final.manager.players 0).status = .playing ∧ (final.manager.players 1).status = .playing ∧
      (final.manager.players 2).status = .notConnected := by
  decide +kernel

theorem run_snakeCells_joining : ∃ final, emptyGame.run joining = .ok final ∧
    (final.manager.players 0).status = .playing ∧ (final.manager.players 1).status = .playing ∧
      (∃ list, SnakeCells final.server.gameState.map final.server.playerDataCache 0 list) ∧
        ∃ list, SnakeCells final.server.gameState.map final.server.playerDataCache 1 list := by
  obtain ⟨final, ran, first, second, -⟩ := joining_plays
  have snakes := run_snakeCells (by decide) (by decide) (by decide) (by decide) joining_sound ran
  exact ⟨final, ran, first, second, snakes 0 (by decide) (Or.inl first), snakes 1 (by decide) (Or.inl second)⟩

/-- Player 2 is about to turn right when player 0 takes its tail, and player 1,
who joins between their visits, has its fruit put in front of player 2. -/
def tailTaken : List Action :=
  [.register, .register, .register, .unregister 1, .tick (drawing [2, 2, 9, 9, 4, 2, 9, 8]),
    .register, .setPlayerDirection 2 .right, .tick (drawing [8, 8, 4, 3, 3, 3])]

private theorem not_snakeCells (lost : ¬ Owns map player (playerDataCacheGetTail cache player)) :
    ¬ ∃ list, SnakeCells map cache player list := by
  rintro ⟨list, snakeCells⟩
  have position := snakeCells.tail
  rw [List.head?_eq_getElem?] at position
  exact lost (snakeCells.owned 0 _ position).1

private theorem tailTaken_lost : ∃ final, emptyGame.run tailTaken = .ok final ∧
    (final.manager.players 2).status = .playing ∧
      ¬ Owns final.server.gameState.map 2 (playerDataCacheGetTail final.server.playerDataCache 2) := by
  decide +kernel

/-- The cached tail of player 2 is a tile of player 0 after such a tick. -/
theorem run_snakeCells_tailTaken : ∃ final, emptyGame.run tailTaken = .ok final ∧
    (final.manager.players 2).status = .playing ∧
      ¬ ∃ list, SnakeCells final.server.gameState.map final.server.playerDataCache 2 list := by
  obtain ⟨final, ran, status, foreign⟩ := tailTaken_lost
  exact ⟨final, ran, status, not_snakeCells foreign⟩

/-- A run of sound visits comes to its end: no move misses its next tail, and no
recursion outgrows its depth. -/
theorem run_returns (wide : minMapWidth ≤ template.width) (widthBound : template.width ≤ maxMapWidth)
    (high : minMapHeight ≤ template.height) (heightBound : template.height ≤ maxMapHeight)
    (guarded : Guarded Game.step SoundStep (Game.start map directions cache template) actions) :
    ∃ final, (Game.start map directions cache template).run actions = .ok final := by
  have sizes := sizes_of_limits wide widthBound high heightBound
  obtain ⟨final, returned, -⟩ := run_rested map directions cache template sizes actions guarded
  exact ⟨final, returned⟩

theorem run_returns_joining : ∃ final, emptyGame.run joining = .ok final :=
  run_returns (by decide) (by decide) (by decide) (by decide) joining_sound

/-- Player 2 goes on with its stale tail and eats twice more. -/
def tailStale : List Action :=
  tailTaken ++ [.setPlayerDirection 2 .up, .setPlayerDirection 1 .right, .tick (drawing [3, 2]),
    .setPlayerDirection 2 .left, .tick (drawing [9, 7]), .tick (drawing [9, 7])]

/-- From there the tail is soon next to no tile of the snake's. -/
theorem run_tailStale_halts :
    emptyGame.run (tailStale ++ [.tick (drawing [9, 7]), .tick (drawing [9, 7]), .tick (drawing [9, 7])]) =
      .error .nextTailNotFound := by decide +kernel

/-- In a run of sound visits exactly the players with a snake own tiles. -/
theorem run_owners (wide : minMapWidth ≤ template.width) (widthBound : template.width ≤ maxMapWidth)
    (high : minMapHeight ≤ template.height) (heightBound : template.height ≤ maxMapHeight)
    (guarded : Guarded Game.step SoundStep (Game.start map directions cache template) actions)
    (ran : (Game.start map directions cache template).run actions = .ok final) :
    ∀ p < maxPlayers, (∃ c, final.server.gameState.map.InBounds c ∧ Owns final.server.gameState.map p c) ↔
      HasSnake (final.manager.players p).status := by
  intro p within
  have sizes := sizes_of_limits wide widthBound high heightBound
  obtain ⟨reached, returned, rested⟩ := run_rested map directions cache template sizes actions guarded
  rw [returned] at ran
  cases ran
  have sized := rested.steady.sized
  constructor
  · rintro ⟨c, inside, owned⟩
    unfold Map.InBounds at inside
    rw [sized.1, sized.2] at inside
    exact rested.owners p within c inside owned
  · intro alive
    obtain ⟨snake, whole⟩ := rested.whole p within alive
    have member := snake.mem_cells.mpr (Or.inr snake.head_mem)
    refine ⟨snake.head, ?_, held_owned whole member⟩
    unfold Map.InBounds
    rw [sized.1, sized.2]
    exact head_inside whole

theorem run_owners_joining : ∃ final, emptyGame.run joining = .ok final ∧
    (∃ c, final.server.gameState.map.InBounds c ∧ Owns final.server.gameState.map 0 c) ∧
      (∃ c, final.server.gameState.map.InBounds c ∧ Owns final.server.gameState.map 1 c) ∧
        ¬ ∃ c, final.server.gameState.map.InBounds c ∧ Owns final.server.gameState.map 2 c := by
  obtain ⟨final, ran, first, second, absent⟩ := joining_plays
  have owners := run_owners (by decide) (by decide) (by decide) (by decide) joining_sound ran
  refine ⟨final, ran, (owners 0 (by decide)).mpr (Or.inl first), (owners 1 (by decide)).mpr (Or.inl second), fun owned => ?_⟩
  have alive := (owners 2 (by decide)).mp owned
  rw [absent] at alive
  exact absurd alive (by decide)

private theorem tailStale_orphans : ∃ final,
    emptyGame.run (tailStale ++ [.unregister 2, .tick (drawing [9, 7])]) = .ok final ∧
      (final.manager.players 2).status = .notConnected ∧
      final.server.gameState.map.InBounds ⟨4, 2⟩ ∧ Owns final.server.gameState.map 2 ⟨4, 2⟩ := by decide +kernel

/-- A broken snake's removal does not reach all of it: the slot is free again and
the tile is still the player's. -/
theorem run_owners_tailStale : ∃ final,
    emptyGame.run (tailStale ++ [.unregister 2, .tick (drawing [9, 7])]) = .ok final ∧
      ¬ HasSnake (final.manager.players 2).status ∧
      ∃ c, final.server.gameState.map.InBounds c ∧ Owns final.server.gameState.map 2 c := by
  obtain ⟨final, ran, status, inside, owned⟩ := tailStale_orphans
  exact ⟨final, ran, by simp [HasSnake, status], ⟨4, 2⟩, inside, owned⟩

end SnakePosix.SnakeRuns
