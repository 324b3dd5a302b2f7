import SnakePosix.ChangelogReplay
import SnakePosix.Server.Game

/-! What holds between the ticks of every run, whatever the snakes do: the map
keeps its size, cached coordinates of snakes stay on it, and a slot somebody
holds is never free or on its way out. -/
namespace SnakePosix.GameRuns
open MapProofs Torus TickTurns ChangelogReplay GuardedRuns

/-- The statuses of a slot somebody holds. -/
def Active : PlayerStatus → Prop
  | .playing | .paused | .dead | .respawning | .joining => True
  | _ => False

variable {width height : Nat} {game next : Game} {server server' : Server} {rng : Rng} {playerId p : Nat}

/-! ## Operations of the player manager -/

/-- An operation changes the player manager and nothing else of the server. -/
theorem operate_server (game : Game) (action : Action) :
    (game.operate action).server = { game.server with
      gameState := { game.server.gameState with playerManager := (game.operate action).manager } } := by
  cases action with
  | register =>
    simp only [Game.operate]
    split <;> rfl
  | unregister =>
    simp only [Game.operate]
    split <;> rfl
  | _ => rfl

theorem operate_map (game : Game) (action : Action) :
    (game.operate action).server.gameState.map = game.server.gameState.map := by
  rw [operate_server]

theorem operate_cache (game : Game) (action : Action) :
    (game.operate action).server.playerDataCache = game.server.playerDataCache := by
  rw [operate_server]

theorem operate_changelog (game : Game) (action : Action) :
    (game.operate action).server.gameState.changelog = game.server.gameState.changelog := by
  rw [operate_server]

/-- Registration takes a free slot and leaves the others alone. -/
theorem register_joins {manager manager' : PlayerManager}
    (registered : playerManagerRegister manager = some (playerId, manager')) :
    playerId < maxPlayers ∧ (manager.players playerId).status = .notConnected ∧
      manager' = manager.set playerId { status := .joining, direction := .up } := by
  unfold playerManagerRegister at registered
  obtain ⟨slot, found, result⟩ := Option.map_eq_some_iff.mp registered
  obtain ⟨rfl, rfl⟩ := Prod.mk.inj result
  refine ⟨?_, by simpa using List.find?_some found, rfl⟩
  exact List.mem_range.mp (List.mem_of_find?_eq_some found)

theorem transition_status (manager : PlayerManager) (playerId p : Nat) (source target : PlayerStatus) :
    ((manager.transition playerId source target).players p).status = (manager.players p).status ∨
      (manager.players p).status = source ∧
        ((manager.transition playerId source target).players p).status = target := by
  unfold PlayerManager.transition
  dsimp only
  split
  · rename_i matching
    rw [set_players]
    split
    · rename_i here
      exact Or.inr ⟨here ▸ matching, rfl⟩
    · exact Or.inl rfl
  · exact Or.inl rfl

/-- What an operation makes of a slot's status; the two flags tell whether
somebody holds the slot before and after it. -/
inductive Moved (before : Bool) : Bool → PlayerStatus → PlayerStatus → Prop where
  | kept (held : after = true → before = true) : Moved before after status status
  | joined : Moved before true .notConnected .joining
  | paused : Moved before before .playing .paused
  | unpaused : Moved before before .paused .playing
  | respawned : Moved before before .dead .respawning
  | left (cleared : status = .dead ∨ status = .respawning ∨ status = .joining) :
    Moved before false status .notConnected
  | leaving (snake : HasSnake status) : Moved before false status .disconnecting

theorem operate_moved (active : ∀ p, game.registered p = true → Active (game.manager.players p).status)
    (action : Action) (p : Nat) :
    Moved (game.registered p) ((game.operate action).registered p) (game.manager.players p).status
      ((game.operate action).manager.players p).status := by
  cases action with
  | tick => exact .kept id
  | register =>
    cases registered : playerManagerRegister game.manager with
    | none =>
      simp only [Game.operate, registered]
      exact .kept id
    | some result =>
      obtain ⟨slot, manager⟩ := result
      simp only [Game.operate, registered]
      obtain ⟨-, free, rfl⟩ := register_joins registered
      change Moved _ _ _ ((game.manager.set slot _).players p).status
      rw [set_players]
      split
      · rename_i here
        rw [here, free]
        exact .joined
      · exact .kept id
  | unregister slot =>
    simp only [Game.operate]
    split
    · rename_i registered
      have held := active slot registered
      change Moved _ (if p = slot then false else game.registered p) _
        ((playerManagerUnregister game.manager slot).players p).status
      unfold playerManagerUnregister
      dsimp only
      rw [set_players]
      split
      · rename_i here
        rw [here]
        dsimp only
        split
        · rename_i cleared
          exact .left cleared
        · rename_i alive
          apply Moved.leaving
          cases status : (game.manager.players slot).status <;> simp_all [Active, HasSnake]
      · exact .kept id
    · exact .kept id
  | pause slot =>
    rcases transition_status game.manager slot p .playing .paused with same | ⟨source, target⟩
    · exact same ▸ .kept id
    · exact source ▸ target ▸ .paused
  | unpause slot =>
    rcases transition_status game.manager slot p .paused .playing with same | ⟨source, target⟩
    · exact same ▸ .kept id
    · exact source ▸ target ▸ .unpaused
  | respawn slot =>
    rcases transition_status game.manager slot p .dead .respawning with same | ⟨source, target⟩
    · exact same ▸ .kept id
    · exact source ▸ target ▸ .respawned
  | setPlayerDirection slot direction =>
    change Moved _ _ _ ((game.manager.set slot _).players p).status
    rw [set_players]
    split
    · rename_i here
      exact here ▸ .kept id
    · exact .kept id

/-- No operation puts a snake on the map or takes one off. -/
theorem moved_hasSnake (moved : Moved before after status status') : HasSnake status' ↔ HasSnake status := by
  cases moved with
  | kept => exact Iff.rfl
  | leaving snake => exact iff_of_true (by simp [HasSnake]) snake
  | left cleared => rcases cleared with rfl | rfl | rfl <;> simp [HasSnake]
  | joined | paused | unpaused | respawned => simp [HasSnake]

theorem moved_active (moved : Moved before after status status') (active : before = true → Active status)
    (held : after = true) : Active status' := by
  cases moved with
  | kept still => exact active (still held)
  | left | leaving => cases held
  | joined | paused | unpaused | respawned => trivial

/-! ## The end of a tick -/

/-- The sweep and the replacement fruits write no player's tile and no cache. -/
structure Undisturbed (before after : ProcessPlayerData) : Prop where
  size : SameSize after.map before.map
  cache : after.playerDataCache = before.playerDataCache
  tiles : ∀ c, after.map.tiles c = before.map.tiles c ∨
    (before.map.tiles c).type ≠ .player ∧ (after.map.tiles c).type ≠ .player

theorem undisturbed_refl (data : ProcessPlayerData) : Undisturbed data data :=
  ⟨⟨rfl, rfl⟩, rfl, fun _ => Or.inl rfl⟩

theorem undisturbed_trans {first second third : ProcessPlayerData} (early : Undisturbed first second)
    (late : Undisturbed second third) : Undisturbed first third where
  size := late.size.trans early.size
  cache := late.cache.trans early.cache
  tiles := by
    intro c
    rcases early.tiles c with same | apart
    · rw [← same]
      exact late.tiles c
    · rcases late.tiles c with same | later
      · exact Or.inr ⟨apart.1, same ▸ apart.2⟩
      · exact Or.inr ⟨apart.1, later.2⟩

theorem undisturbed_owns {before after : ProcessPlayerData} (undisturbed : Undisturbed before after)
    (c : Coordinates) : Owns after.map p c ↔ Owns before.map p c := by
  rcases undisturbed.tiles c with same | apart
  · exact owns_of_tiles_eq same
  · exact iff_of_false (fun owned => apart.2 owned.1) (fun owned => apart.1 owned.1)

/-- One write of a tile that neither was nor becomes a player's. -/
private theorem undisturbed_write (data : ProcessPlayerData) (c : Coordinates) (type : MapTileType)
    (before : (data.map.tiles c).type ≠ .player) (after : type ≠ .player) :
    Undisturbed data (pushChangelogTile { data with map := mapSetTileType data.map c type } c) where
  size := ⟨rfl, rfl⟩
  cache := rfl
  tiles := by
    intro c'
    by_cases here : c' = c
    · subst here
      have written : (mapSetTileType data.map c' type).tiles c' = { data.map.tiles c' with type } :=
        mapSetTileState_same _ _ _
      exact Or.inr ⟨before, fun claimed => after ((congrArg MapTile.type written).symm.trans claimed)⟩
    · exact Or.inl (mapSetTileState_other _ _ _ _ here)

theorem planted_undisturbed {data after : ProcessPlayerData} (planted : Planted data after) :
    Undisturbed data after := by
  cases planted with
  | full => exact undisturbed_refl data
  | fruit inside empty => exact undisturbed_write data _ .fruit (by simp [empty]) (by simp)

theorem sweepTile_undisturbed (data : ProcessPlayerData) (c : Coordinates) :
    Undisturbed data (sweepTile data c) := by
  unfold sweepTile
  split
  · rename_i dead
    have type : (data.map.tiles c).type = .dead := by simpa [mapIsTileDead] using dead
    exact undisturbed_write data c .empty (by simp [type]) (by simp)
  · exact undisturbed_refl data

private theorem sweepTiles_undisturbed (list : List Coordinates) (data : ProcessPlayerData) :
    Undisturbed data (list.foldl sweepTile data) := by
  induction list generalizing data with
  | nil => exact undisturbed_refl data
  | cons c rest ih => exact undisturbed_trans (sweepTile_undisturbed data c) (ih _)

theorem sweepDeadTiles_undisturbed (data : ProcessPlayerData) : Undisturbed data (sweepDeadTiles data) := by
  unfold sweepDeadTiles
  split
  · exact sweepTiles_undisturbed _ data
  · exact undisturbed_refl data

/-- The replacement fruits are always found a place, or there is none. -/
theorem spawnFruits_undisturbed (count : Nat) (data : ProcessPlayerData) (playable : Playable data.map)
    (rng : Rng) : ∃ after rng', spawnFruits count data rng = .ok (after, rng') ∧ Undisturbed data after := by
  exact spawnFruits_planted (fun _ after => Undisturbed data after)
    (fun _ _ _ planted held => undisturbed_trans held (planted_undisturbed planted)) count playable
    (undisturbed_refl data) rng

/-- A tick whose visits all return returns, and what follows them disturbs no
snake. -/
theorem serverTickLocked_after_visits {state : TickState}
    (visited : playerManagerForEach (server.beginTick rng) = .ok state) (playable : Playable state.data.map) :
    ∃ data, Undisturbed state.data data ∧ serverTickLocked server rng =
      .ok ({ gameState := { server.gameState with
              changelog := data.changelog, map := data.map, playerManager := state.manager }
             playerDataCache := data.playerDataCache }, !data.noPlayerAlive) := by
  have swept := sweepDeadTiles_undisturbed state.data
  obtain ⟨data, rng', fruited, late⟩ := spawnFruits_undisturbed state.data.fruitsEaten
    (sweepDeadTiles state.data) (playable_sameSize swept.size playable) state.rng
  refine ⟨data, undisturbed_trans swept late, ?_⟩
  unfold serverTickLocked
  simp only [visited, bind, Except.bind, fruited]

/-! ## Whole runs -/

/-- What holds between the ticks of every run. -/
structure Steady (width height : Nat) (game : Game) : Prop where
  sized : game.server.gameState.map.width = width ∧ game.server.gameState.map.height = height
  cached : CacheInside game.manager game.server.playerDataCache game.server.gameState.map
  active : ∀ p, game.registered p = true → Active (game.manager.players p).status

/-- Sizes at which every search comes back. -/
structure Sizes (width height : Nat) : Prop where
  fits : FitsWord width height
  wide : 2 ≤ width
  high : 2 ≤ height

theorem sizes_of_limits (wide : minMapWidth ≤ width) (widthBound : width ≤ maxMapWidth)
    (high : minMapHeight ≤ height) (heightBound : height ≤ maxMapHeight) : Sizes width height where
  fits := fitsWord_of_arrays widthBound heightBound
  wide := Nat.le_trans (by decide) wide
  high := Nat.le_trans (by decide) high

theorem playable_of_sizes {map : Map} (sizes : Sizes width height)
    (sized : map.width = width ∧ map.height = height) : Playable map := by
  obtain ⟨rfl, rfl⟩ := sized
  exact ⟨sizes.fits, Nat.lt_of_lt_of_le (by decide) sizes.wide, Nat.lt_of_lt_of_le (by decide) sizes.high⟩

theorem operate_steady (steady : Steady width height game) (action : Action) :
    Steady width height (game.operate action) where
  sized := by
    rw [operate_map]
    exact steady.sized
  cached := by
    intro p within alive
    rw [operate_map, operate_cache]
    exact steady.cached p within ((moved_hasSnake (operate_moved steady.active action p)).mp alive)
  active := fun p => moved_active (operate_moved steady.active action p) (steady.active p)

/-- No visit frees a slot somebody holds. -/
private theorem turn_active {state next : TickState} (turn : Turn state playerId (.ok next))
    (active : Active (state.manager.players p).status) : Active (next.manager.players p).status := by
  cases turn with
  | idle | paused | fed | advanced => exact active
  | noRoom | spawned | crashed =>
    rw [set_players]
    split
    · trivial
    · exact active
  | left status =>
    rw [set_players]
    split
    · rename_i here
      rw [here, status] at active
      cases active
    · exact active

/-- A tick that returns keeps the steady state. -/
theorem serverTickLocked_steady (playable : Playable game.server.gameState.map)
    (steady : Steady width height game)
    (ran : serverTickLocked game.server rng = .ok (server', alive)) :
    Steady width height { game with server := server' } := by
  obtain ⟨state, data, rng', visited, -, gameState, cache, -⟩ := serverTickLocked_ok ran
  obtain ⟨ticking, active⟩ := playerManagerForEach_turns
    (fun state => ∀ p, game.registered p = true → Active (state.manager.players p).status) playable
    (fun _ _ _ _ _ turn active p registered => turn_active turn (active p registered))
    (beginTick_ticking game.server rng steady.cached) steady.active visited
  have visitedSize := ticking.logged.size
  obtain ⟨after, undisturbed, returned⟩ := serverTickLocked_after_visits visited
    (playable_sameSize visitedSize playable)
  rw [returned] at ran
  obtain ⟨rfl, -⟩ := Prod.mk.inj (Except.ok.inj ran)
  refine ⟨?_, ?_, active⟩
  · exact ⟨undisturbed.size.1.trans (visitedSize.1.trans steady.sized.1),
      undisturbed.size.2.trans (visitedSize.2.trans steady.sized.2)⟩
  · intro p within snake
    change after.map.InBounds (after.playerDataCache.head p) ∧ after.map.InBounds (after.playerDataCache.tail p)
    rw [undisturbed.cache, inBounds_sameSize undisturbed.size, inBounds_sameSize undisturbed.size]
    exact ticking.cached p within snake

/-! ## What the changelog names -/

/-- Every change is to a cell of the map. -/
def ChangesInside (data : ProcessPlayerData) : Prop :=
  ∀ change ∈ data.changelog, data.map.InBounds change.coordinates

private theorem changes_push {data after : ProcessPlayerData} {c : Coordinates} (changes : ChangesInside data)
    (size : SameSize after.map data.map) (log : after.changelog = data.changelog) (inside : data.map.InBounds c) :
    ChangesInside (pushChangelogTile after c) := by
  intro change member
  simp only [pushChangelogTile, changelogPushTileStateChange, log, List.mem_append, List.mem_singleton] at member
  change after.map.InBounds change.coordinates
  rw [inBounds_sameSize size]
  rcases member with earlier | rfl
  · exact changes change earlier
  · exact inside

private theorem changes_planted {data after : ProcessPlayerData} (changes : ChangesInside data)
    (planted : Planted data after) : ChangesInside after := by
  cases planted with
  | full => exact changes
  | fruit inside => exact changes_push changes ⟨rfl, rfl⟩ rfl inside

private theorem changes_clear {data : ProcessPlayerData} {c : Coordinates} (changes : ChangesInside data)
    (inside : data.map.InBounds c) : ChangesInside (clearPlayerTail data playerId c) := by
  unfold clearPlayerTail
  dsimp only
  split
  · split
    · exact changes
    · exact changes_push changes ⟨rfl, rfl⟩ rfl inside
  · exact changes

private theorem changes_size {data : ProcessPlayerData} {map : Map} (changes : ChangesInside data)
    (size : SameSize map data.map) (playerDied : Bool) : ChangesInside { data with map, playerDied } :=
  fun change member => (inBounds_sameSize size).mpr (changes change member)

/-- A visit pushes cells of the map only. -/
private theorem turn_changes {start : Map} {state next : TickState} (playable : Playable state.data.map)
    (within : playerId < maxPlayers) (ticking : Ticking start state) (turn : Turn state playerId (.ok next))
    (changes : ChangesInside state.data) : ChangesInside next.data := by
  have front : state.data.map.InBounds (state.data.playerDataCache.head playerId) →
      state.data.map.InBounds (nextHead state playerId) :=
    fun inside => mapMoveInDirection_inBounds playable.fits inside _
  cases turn with
  | idle | paused | noRoom => exact changes
  | left _ removed => exact changes_size changes removed.size true
  | crashed _ _ _ removed => exact changes_size changes removed.size true
  | @spawned head tail _ _ _ site planted =>
    have tailInside := mapMoveInDirection_inBounds playable.fits site.inside
    have headed : ChangesInside (pushChangelogTile { state.data with
        map := mapSetTilePlayer state.data.map head playerId 1
        playerDataCache := playerDataCacheSetHead state.data.playerDataCache playerId head } head) :=
      changes_push changes ⟨rfl, rfl⟩ rfl site.inside
    have placed : ChangesInside (placePlayer state.data playerId head tail) :=
      changes_push headed ⟨rfl, rfl⟩ rfl (site.step ▸ tailInside _)
    have fruited := changes_planted placed planted
    exact fruited
  | fed status =>
    have cached := ticking.cached playerId within (Or.inl status)
    have headed : ChangesInside (movePlayerHead state.data playerId (nextHead state playerId)) :=
      changes_push changes ⟨rfl, rfl⟩ rfl (front cached.1)
    exact headed
  | @advanced nextTail status way found =>
    have cached := ticking.cached playerId within (Or.inl status)
    have headed : ChangesInside (movePlayerHead state.data playerId (nextHead state playerId)) :=
      changes_push changes ⟨rfl, rfl⟩ rfl (front cached.1)
    have vacated : ChangesInside (vacate state playerId) := changes_clear headed cached.2
    have size : SameSize (vacate state playerId).map state.data.map := clearPlayerTail_sameSize
    obtain ⟨⟨direction, _, rfl⟩, _⟩ := lowest_found found
    have tailInside := mapMoveInDirection_inBounds playable.fits cached.2 direction
    rw [← mapMoveInDirection_sameSize size, ← inBounds_sameSize size] at tailInside
    have retailed : ChangesInside (retail (vacate state playerId) playerId _) :=
      changes_push vacated ⟨rfl, rfl⟩ rfl tailInside
    exact retailed

private theorem sweepTiles_changes (list : List Coordinates) (data : ProcessPlayerData)
    (inside : ∀ c ∈ list, data.map.InBounds c) (changes : ChangesInside data) :
    ChangesInside (list.foldl sweepTile data) := by
  induction list generalizing data with
  | nil => exact changes
  | cons c rest ih =>
    have size := (sweepTile_undisturbed data c).size
    refine ih _ (fun c' member => (inBounds_sameSize size).mpr (inside c' (List.mem_cons_of_mem _ member))) ?_
    unfold sweepTile
    split
    · exact changes_push changes ⟨rfl, rfl⟩ rfl (inside c List.mem_cons_self)
    · exact changes

private theorem spawnFruits_changes (count : Nat) {data after : ProcessPlayerData} (playable : Playable data.map)
    (changes : ChangesInside data) (ran : spawnFruits count data rng = .ok (after, rng')) :
    ChangesInside after := by
  obtain ⟨final, rng'', fruited, kept⟩ := spawnFruits_planted (fun _ data => ChangesInside data)
    (fun _ _ _ planted changes => changes_planted changes planted) count playable changes rng
  rw [fruited] at ran
  cases ran
  exact kept

/-- A tick's changelog names cells of the map only. -/
theorem serverTickLocked_changes (sizes : Sizes width height) (steady : Steady width height game)
    (ran : serverTickLocked game.server rng = .ok (server', alive)) :
    ∀ change ∈ server'.gameState.changelog, change.coordinates.InGrid width height := by
  have playable := playable_of_sizes sizes steady.sized
  obtain ⟨state, data, rng', visited, fruited, gameState, -⟩ := serverTickLocked_ok ran
  obtain ⟨ticking, changes⟩ := playerManagerForEach_turns (fun state => ChangesInside state.data) playable
    (fun state p within next ticking turn changes =>
      turn_changes (playable_sameSize ticking.logged.size playable) within ticking turn changes)
    (beginTick_ticking game.server rng steady.cached) nofun visited
  have swept : ChangesInside (sweepDeadTiles state.data) := by
    unfold sweepDeadTiles
    split
    · exact sweepTiles_changes _ _ (fun c member => mem_cells.mp member) changes
    · exact changes
  have sweptSize := (sweepDeadTiles_undisturbed state.data).size
  have sweptPlayable := playable_sameSize sweptSize (playable_sameSize ticking.logged.size playable)
  have fruits := spawnFruits_changes _ sweptPlayable swept fruited
  have size := (serverTickLocked_logged playable steady.cached ran).1
  intro change member
  have inside := fruits change (by simpa [gameState] using member)
  have sized : data.map = server'.gameState.map := by rw [gameState]
  rw [sized, inBounds_sameSize size] at inside
  obtain ⟨rfl, rfl⟩ := steady.sized
  exact inside

/-! ## Steps of a run -/

/-- The ticker's turn leaves the map, the cache and the slots alone. -/
theorem tick_steady (steady : Steady width height { game with server := server' }) :
    Steady width height { game with server := server'.tick } := ⟨steady.sized, steady.cached, steady.active⟩

/-- An action is a tick or an operation. -/
theorem step_ok (ran : game.step action = .ok next) :
    (∃ rng server' alive, action = .tick rng ∧ serverTickLocked game.server rng = .ok (server', alive) ∧
      next = { game with server := server'.tick }) ∨
      (∀ rng, action ≠ .tick rng) ∧ next = game.operate action := by
  cases action with
  | tick rng =>
    obtain ⟨⟨server', alive⟩, ticked, ran⟩ := bind_ok.mp ran
    obtain ⟨locked, ranLocked, rfl⟩ := serverTick_ok ticked
    exact Or.inl ⟨rng, locked, alive, rfl, ranLocked, (Except.ok.inj ran).symm⟩
  | register | unregister | pause | unpause | respawn | setPlayerDirection =>
    exact Or.inr ⟨nofun, (Except.ok.inj ran).symm⟩

theorem step_steady (playable : Playable game.server.gameState.map) (steady : Steady width height game)
    (ran : game.step action = .ok next) : Steady width height next := by
  rcases step_ok ran with ⟨rng, server', alive, -, ranLocked, rfl⟩ | ⟨-, rfl⟩
  · exact tick_steady (serverTickLocked_steady playable steady ranLocked)
  · exact operate_steady steady action

theorem start_steady (map : Map) (directions : Nat → Direction) (cache : PlayerDataCache)
    (template : MapTemplate) :
    Steady template.width template.height (Game.start map directions cache template) where
  sized := mapInitFromTemplate_size map template
  cached := fun p _ alive => absurd alive (by simp [Game.start, Game.manager, gameStateInit,
    playerManagerInit, HasSnake])
  active := fun _ registered => by cases registered

end SnakePosix.GameRuns
