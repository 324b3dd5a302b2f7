import SnakePosix.GameRuns
import SnakePosix.RandomSearch
import SnakePosix.Snakes

/-! What a tick does to the tiles nobody owns: walls stay, no dead tile outlives the
sweep, and every fruit that is eaten is replaced as long as a cell is empty. -/
namespace SnakePosix.TileCensus
open ChangelogReplay GameRuns GuardedRuns MapProofs RandomSearch Snakes TickTurns Torus

variable {state next : TickState} {playerId : Nat} {c : Coordinates} {data after : ProcessPlayerData}
  {map : Map} {server server' : Server} {rng : Rng}

/-! ## What a visit writes to a tile -/

/-- What becomes of one tile in one visit; a visit that kills is known for it
afterwards. -/
inductive Rewritten (state : TickState) (playerId : Nat) (died : Bool) (c : Coordinates) : MapTile → Prop where
  | kept : Rewritten state playerId died c (state.data.map.tiles c)
  | entered (status : (state.manager.players playerId).status = .playing) (front : c = nextHead state playerId)
    (reason : Way state playerId ∨ (state.data.map.tiles c).type = .fruit) :
    Rewritten state playerId died c (headTile state playerId)
  | vacated (way : Way state playerId) (owned : Owns state.data.map playerId c)
    (tail : c = state.data.playerDataCache.tail playerId) :
    Rewritten state playerId died c { state.data.map.tiles c with type := .empty }
  | killed (known : died = true) (owned : Owns state.data.map playerId c) :
    Rewritten state playerId died c { state.data.map.tiles c with type := .dead }
  | placed (status : Spawning (state.manager.players playerId).status)
    (empty : (state.data.map.tiles c).type = .empty) (order : Nat) :
    Rewritten state playerId died c { order, type := .player, player := playerId }
  | planted (status : Spawning (state.manager.players playerId).status)
    (empty : (state.data.map.tiles c).type = .empty) (tile : MapTile) (fruit : tile.type = .fruit) :
    Rewritten state playerId died c tile

private theorem removed_rewritten (known : died = true) (removed : Removed state.data.map playerId start map) :
    Rewritten state playerId died c (map.tiles c) := by
  by_cases reached : PlayerReaches state.data.map playerId start c
  · rw [removed.dead c reached]
    exact .killed known (Exploration.reaches_live reached).2
  · rw [removed.kept c reached]
    exact .kept

private theorem placed_rewritten (status : Spawning (state.manager.players playerId).status)
    (site : SpawnSite state.data.map head tail direction) :
    Rewritten state playerId died c ((placePlayer state.data playerId head tail).map.tiles c) := by
  rw [placePlayer_tiles]
  split
  · rename_i here
    exact .placed status (here ▸ site.tailEmpty) 0
  · split
    · rename_i here
      exact .placed status (here ▸ site.headEmpty) 1
    · exact .kept

/-- A visit rewrites every tile in one of these ways. -/
theorem turn_rewritten (turn : Turn state playerId (.ok next)) (c : Coordinates) :
    Rewritten state playerId next.data.playerDied c (next.data.map.tiles c) := by
  cases turn with
  | idle | paused | noRoom => exact .kept
  | left _ removed => exact removed_rewritten rfl removed
  | crashed _ _ _ removed => exact removed_rewritten rfl removed
  | @spawned head tail _ placed status site planted =>
    change Rewritten state playerId _ c (placed.map.tiles c)
    have written := placePlayer_tiles state.data playerId head tail c
    rcases planted_tiles planted c with same | ⟨empty, fruit⟩
    · rw [same]
      exact placed_rewritten status site
    · split at written
      · rw [written] at empty
        cases empty
      · split at written
        · rw [written] at empty
          cases empty
        · exact .planted status (written ▸ empty) _ fruit
  | fed status fruit =>
    have written := movePlayerHead_tiles state playerId c
    change Rewritten state playerId _ c
      ((movePlayerHead state.data playerId (nextHead state playerId)).map.tiles c)
    rw [written]
    split
    · rename_i here
      exact .entered status here (Or.inr (here ▸ fruit))
    · exact .kept
  | advanced status way =>
    change Rewritten state playerId _ c ((vacate state playerId).map.tiles c)
    rw [vacate_tiles]
    split
    · rename_i here
      exact .entered status here (Or.inl way)
    · split
      · rename_i given
        exact .vacated way given.2 given.1
      · exact .kept

theorem rewritten_wall (rewritten : Rewritten state playerId died c tile) :
    tile.type = .wall ↔ (state.data.map.tiles c).type = .wall := by
  cases rewritten with
  | kept => exact Iff.rfl
  | entered _ front reason =>
    refine iff_of_false nofun fun wall => ?_
    rcases reason with way | fruit
    · rw [front] at wall
      rcases way_iff.mp way with vacant | ⟨player, -⟩
      · simp [wall] at vacant
      · simp [wall] at player
    · simp [wall] at fruit
  | vacated _ owned | killed _ owned => exact iff_of_false nofun fun wall => by simp [owned.1] at wall
  | placed _ empty => exact iff_of_false nofun fun wall => by simp [empty] at wall
  | planted _ empty tile fruit =>
    exact iff_of_false (fun wall => by simp [fruit] at wall) fun wall => by simp [empty] at wall

theorem rewritten_dead (rewritten : Rewritten state playerId died c tile) (dead : tile.type = .dead) :
    (state.data.map.tiles c).type = .dead ∨ died = true ∧ Owns state.data.map playerId c := by
  cases rewritten with
  | kept => exact Or.inl dead
  | killed known owned => exact Or.inr ⟨known, owned⟩
  | entered | vacated | placed => cases dead
  | planted _ _ tile fruit => simp [fruit] at dead

theorem turn_died (turn : Turn state playerId (.ok next)) (died : state.data.playerDied = true) :
    next.data.playerDied = true := by
  cases turn with
  | idle | paused | noRoom | fed => exact died
  | left | crashed => rfl
  | spawned _ _ planted =>
    cases planted <;> exact died
  | advanced =>
    exact (vacate_died state playerId).trans died

/-! ## The end of the tick -/

/-- What the sweep leaves of a tile. -/
def swept (tile : MapTile) : MapTile := if tile.type = .dead then { tile with type := .empty } else tile

theorem swept_of_alive (alive : tile.type ≠ .dead) : swept tile = tile := if_neg alive

theorem swept_alive (tile : MapTile) : (swept tile).type ≠ .dead := by
  unfold swept
  split
  · exact nofun
  · assumption

theorem sweepTile_tiles (data : ProcessPlayerData) (cell c : Coordinates) :
    (sweepTile data cell).map.tiles c = if c = cell then swept (data.map.tiles c) else data.map.tiles c := by
  unfold sweepTile
  split
  · rename_i dead
    by_cases here : c = cell
    · rw [if_pos here, here]
      have type : (data.map.tiles cell).type = .dead := by simpa [mapIsTileDead] using dead
      exact (mapSetTileState_same _ _ _).trans (if_pos type).symm
    · rw [if_neg here]
      exact mapSetTileState_other _ _ _ _ here
  · rename_i alive
    split
    · rename_i here
      rw [swept_of_alive]
      exact fun dead => alive (by simp [mapIsTileDead, ← here, dead])
    · rfl

private theorem sweepTiles_tiles (list : List Coordinates) (data : ProcessPlayerData) (c : Coordinates) :
    (list.foldl sweepTile data).map.tiles c =
      if c ∈ list then swept (data.map.tiles c) else data.map.tiles c := by
  induction list generalizing data with
  | nil => simp
  | cons cell rest ih =>
    have again : swept (swept (data.map.tiles c)) = swept (data.map.tiles c) :=
      swept_of_alive (swept_alive _)
    rw [List.foldl_cons, ih, sweepTile_tiles]
    by_cases here : c = cell
    · subst here
      by_cases later : c ∈ rest <;> simp [later, again]
    · simp [here]

/-- The sweep empties the dead tiles of the map, if there are any. -/
theorem sweepDeadTiles_tiles (known : ∀ c, data.map.InBounds c → (data.map.tiles c).type = .dead →
    data.playerDied = true) (inside : data.map.InBounds c) :
    (sweepDeadTiles data).map.tiles c = swept (data.map.tiles c) := by
  unfold sweepDeadTiles
  split
  · exact (sweepTiles_tiles _ data c).trans (if_pos (mem_cells.mpr inside))
  · rename_i nobody
    exact (swept_of_alive fun dead => nobody (known c inside dead)).symm

/-- The sweep changes no tile that is neither dead nor becomes empty. -/
theorem sweepDeadTiles_type (type : MapTileType) (notDead : type ≠ .dead) (notEmpty : type ≠ .empty)
    (data : ProcessPlayerData) (c : Coordinates) :
    ((sweepDeadTiles data).map.tiles c).type = type ↔ (data.map.tiles c).type = type := by
  have kept : ∀ tile : MapTile, (swept tile).type = type ↔ tile.type = type := by
    intro tile
    unfold swept
    split
    · rename_i dead
      rw [dead]
      exact iff_of_false (Ne.symm notEmpty) (Ne.symm notDead)
    · exact Iff.rfl
  unfold sweepDeadTiles
  split
  · rw [sweepTiles_tiles]
    split
    · exact kept _
    · exact Iff.rfl
  · exact Iff.rfl

/-- A tick stops nowhere but at a missed tail. -/
theorem serverTick_halts (playable : Playable server.gameState.map)
    (cached : CacheInside server.gameState.playerManager server.playerDataCache server.gameState.map)
    (halted : serverTick server rng = .error halt) : halt = .nextTailNotFound := by
  cases visited : playerManagerForEach (server.beginTick rng) with
  | error early =>
    have ticked : serverTick server rng = .error early := by
      simp only [serverTick, serverTickLocked, visited, bind, Except.bind]
    rw [ticked] at halted
    cases halted
    exact playerManagerForEach_halts playable (beginTick_ticking server rng cached) visited
  | ok state =>
    have ticking := playerManagerForEach_ticking playable (beginTick_ticking server rng cached) visited
    obtain ⟨data, -, returned⟩ := serverTickLocked_after_visits visited
      (playable_sameSize ticking.logged.size playable)
    simp [serverTick, returned, bind, Except.bind] at halted

/-! ## Walls and dead tiles -/

/-- The walls are where they were, and nothing is dead without being known for it. -/
structure Standing (start map : Map) (died : Bool) : Prop where
  size : SameSize map start
  walls : ∀ c, (map.tiles c).type = .wall ↔ (start.tiles c).type = .wall
  known : ∀ c, start.InBounds c → (map.tiles c).type = .dead → died = true

theorem turn_standing (turn : Turn state playerId (.ok next))
    (standing : Standing start state.data.map state.data.playerDied) :
    Standing start next.data.map next.data.playerDied where
  size := by
    have size := turn_sameSize turn
    exact size.trans standing.size
  walls := fun c => (rewritten_wall (turn_rewritten turn c)).trans (standing.walls c)
  known := by
    intro c inside dead
    rcases rewritten_dead (turn_rewritten turn c) dead with before | ⟨died, -⟩
    · exact turn_died turn (standing.known c inside before)
    · exact died

/-- After the sweep nothing is dead, whoever died. -/
theorem sweepDeadTiles_standing (standing : Standing start data.map data.playerDied) :
    Standing start (sweepDeadTiles data).map false where
  size := by
    have size := (sweepDeadTiles_undisturbed data).size
    exact size.trans standing.size
  walls := fun c => (sweepDeadTiles_type .wall nofun nofun data c).trans (standing.walls c)
  known := by
    intro c inside dead
    have within : ∀ {c}, start.InBounds c ↔ data.map.InBounds c := (inBounds_sameSize standing.size).symm
    rw [sweepDeadTiles_tiles (fun c inside => standing.known c (within.mpr inside)) (within.mp inside)] at dead
    exact absurd dead (swept_alive _)

theorem planted_standing (planted : Planted data after) (standing : Standing start data.map died) :
    Standing start after.map died where
  size := by
    have size := planted_sameSize planted
    exact size.trans standing.size
  walls := by
    intro c
    rcases planted_tiles planted c with same | ⟨empty, fruit⟩
    · rw [same]
      exact standing.walls c
    · rw [← standing.walls c]
      exact iff_of_false (by simp [fruit]) (by simp [empty])
  known := by
    intro c inside dead
    rcases planted_tiles planted c with same | ⟨_, fruit⟩
    · exact standing.known c inside (same ▸ dead)
    · simp [fruit] at dead

/-- A tick that returns leaves every wall standing and nothing dead. -/
theorem serverTickLocked_standing (playable : Playable server.gameState.map)
    (cached : CacheInside server.gameState.playerManager server.playerDataCache server.gameState.map)
    (undead : ∀ c, server.gameState.map.InBounds c → (server.gameState.map.tiles c).type ≠ .dead)
    (ran : serverTickLocked server rng = .ok (server', alive)) :
    Standing server.gameState.map server'.gameState.map false := by
  obtain ⟨state, data, rng', visited, fruited, gameState, -, -⟩ := serverTickLocked_ok ran
  have fresh : Standing server.gameState.map server.gameState.map false :=
    ⟨⟨rfl, rfl⟩, fun _ => Iff.rfl, fun c inside dead => absurd dead (undead c inside)⟩
  obtain ⟨ticking, standing⟩ := playerManagerForEach_turns
    (fun state => Standing server.gameState.map state.data.map state.data.playerDied) playable
    (fun _ _ _ _ _ turn standing => turn_standing turn standing) (beginTick_ticking server rng cached) fresh visited
  have clean := sweepDeadTiles_standing standing
  obtain ⟨final, rng'', planted, stood⟩ := spawnFruits_planted
    (fun _ data => Standing server.gameState.map data.map false)
    (fun _ _ _ planted standing => planted_standing planted standing) state.data.fruitsEaten
    (playable_sameSize clean.size playable) clean state.rng
  rw [fruited] at planted
  cases planted
  rw [gameState]
  exact stood

/-- What holds between the ticks of a run that began with the given map. -/
structure Unbroken (start : Map) (game : Game) : Prop where
  steady : Steady start.width start.height game
  standing : Standing start game.server.gameState.map false

theorem step_unbroken {game later : Game} (playable : Playable start) (unbroken : Unbroken start game)
    (ran : game.step action = .ok later) : Unbroken start later := by
  obtain ⟨steady, standing⟩ := unbroken
  have playing := playable_sameSize steady.sized playable
  refine ⟨step_steady playing steady ran, ?_⟩
  rcases step_ok ran with ⟨rng, server', alive, -, ranLocked, rfl⟩ | ⟨-, rfl⟩
  · have size : ∀ c, game.server.gameState.map.InBounds c ↔ start.InBounds c :=
      fun _ => inBounds_sameSize steady.sized
    have undead : ∀ c, game.server.gameState.map.InBounds c →
        (game.server.gameState.map.tiles c).type ≠ .dead := fun c inside dead =>
      absurd (standing.known c ((size c).mp inside) dead) nofun
    have ticked := serverTickLocked_standing playing steady.cached undead ranLocked
    exact ⟨ticked.size.trans standing.size,
      fun c => (ticked.walls c).trans (standing.walls c),
      fun c inside => ticked.known c ((size c).mpr inside)⟩
  · rw [operate_map]
    exact standing

/-- The map of a new game has the template's walls and nothing dead. -/
theorem start_unbroken (map : Map) (directions : Nat → Direction) (cache : PlayerDataCache)
    (template : MapTemplate) :
    Unbroken (mapInitFromTemplate map template) (Game.start map directions cache template) where
  steady := by
    rw [(mapInitFromTemplate_size map template).1, (mapInitFromTemplate_size map template).2]
    exact start_steady map directions cache template
  standing := by
    refine ⟨⟨rfl, rfl⟩, fun _ => Iff.rfl, fun c inside dead => ?_⟩
    unfold Map.InBounds at inside
    rw [(mapInitFromTemplate_size map template).1, (mapInitFromTemplate_size map template).2] at inside
    have tile := mapInitFromTemplate_tiles map template inside
    change ((mapInitFromTemplate map template).tiles c).type = .dead at dead
    rw [tile] at dead
    dsimp only at dead
    split at dead <;> cases dead

/-- No tick that returns moves a wall, leaves a tile dead or changes the map's size,
and it fails to return only at a missed tail; so after every run the walls are the
template's. -/
theorem walls_stand :
    (∀ (server : Server) (rng : Rng), 1 ≤ server.gameState.map.width → 1 ≤ server.gameState.map.height →
      server.gameState.map.width * server.gameState.map.height < 2 ^ 32 →
      CacheInside server.gameState.playerManager server.playerDataCache server.gameState.map →
      (∀ c, server.gameState.map.InBounds c → (server.gameState.map.tiles c).type ≠ .dead) →
      (∀ halt, serverTick server rng = .error halt → halt = .nextTailNotFound) ∧
      ∀ server' alive, serverTick server rng = .ok (server', alive) →
        SameSize server'.gameState.map server.gameState.map ∧
        (∀ c, (server'.gameState.map.tiles c).type = .wall ↔ (server.gameState.map.tiles c).type = .wall) ∧
        ∀ c, server'.gameState.map.InBounds c → (server'.gameState.map.tiles c).type ≠ .dead) ∧
    ∀ (map : Map) (directions : Nat → Direction) (cache : PlayerDataCache) (template : MapTemplate)
      (actions : List Action) (final : Game), 1 ≤ template.width → 1 ≤ template.height →
      template.width * template.height < 2 ^ 32 →
      (Game.start map directions cache template).run actions = .ok final →
      final.server.gameState.map.width = template.width ∧ final.server.gameState.map.height = template.height ∧
      ∀ c : Coordinates, c.InGrid template.width template.height →
        ((final.server.gameState.map.tiles c).type = .wall ↔ template.walls c = true) := by
  constructor
  · intro server rng wide high countable cached undead
    have playable : Playable server.gameState.map := ⟨fitsWord_of_cells wide high countable, wide, high⟩
    refine ⟨fun halt => serverTick_halts playable cached, fun server' alive ran => ?_⟩
    obtain ⟨locked, ranLocked, rfl⟩ := serverTick_ok ran
    have standing := serverTickLocked_standing playable cached undead ranLocked
    exact ⟨standing.size, standing.walls, fun c inside dead =>
      absurd (standing.known c ((inBounds_sameSize standing.size).mp inside) dead) nofun⟩
  · intro map directions cache template actions final wide high countable ran
    have size := mapInitFromTemplate_size map template
    have playable : Playable (mapInitFromTemplate map template) := by
      refine ⟨?_, size.1 ▸ wide, size.2 ▸ high⟩
      rw [size.1, size.2]
      exact fitsWord_of_cells wide high countable
    have unbroken := run_always Game.step (Unbroken (mapInitFromTemplate map template)) actions
      (fun _ _ _ _ held stepped => step_unbroken playable held stepped)
      (start_unbroken map directions cache template) ran
    refine ⟨unbroken.standing.size.1.trans size.1, unbroken.standing.size.2.trans size.2, fun c inside => ?_⟩
    rw [unbroken.standing.walls, mapInitFromTemplate_tiles map template inside]
    dsimp only
    split
    · rename_i wall
      simp [wall]
    · rename_i floor
      simp [floor]

/-- A new game on three by three cells with a wall in one corner. -/
def cornered : Game :=
  Game.start { tiles := fun _ => { order := 0, type := .dead, player := 0 }, width := 0, height := 0 }
    (fun _ => .up) { head := fun _ => ⟨0, 0⟩, tail := fun _ => ⟨0, 0⟩ }
    { walls := fun c => c = ⟨0, 0⟩, width := 3, height := 3 }

theorem walls_stand_cornered :
    (∃ final, cornered.run [.register, .tick { draws := id, used := 0 }] = .ok final ∧
      (final.server.gameState.map.tiles ⟨0, 0⟩).type = .wall) ∧
    ∃ server' alive, serverTick hungrySnake { draws := fun _ => 5, used := 0 } = .ok (server', alive) ∧
      ∀ c, server'.gameState.map.InBounds c → (server'.gameState.map.tiles c).type ≠ .dead := by
  constructor
  · obtain ⟨final, ran⟩ : ∃ final, cornered.run [.register, .tick { draws := id, used := 0 }] = .ok final := by
      decide +kernel
    have stood := walls_stand.2 _ _ _ _ _ final (by decide) (by decide) (by decide) ran
    exact ⟨final, ran, (stood.2.2 ⟨0, 0⟩ (by decide)).mpr rfl⟩
  · obtain ⟨⟨server', alive⟩, ran⟩ : ∃ result,
        serverTick hungrySnake { draws := fun _ => 5, used := 0 } = .ok result := by decide +kernel
    have undead : ∀ c, hungrySnake.gameState.map.InBounds c →
        (hungrySnake.gameState.map.tiles c).type ≠ .dead := by
      intro c _
      simp only [hungrySnake]
      split
      · exact nofun
      · split
        · exact nofun
        · split <;> exact nofun
    have ticked := walls_stand.1 hungrySnake { draws := fun _ => 5, used := 0 } (by decide) (by decide)
      (by decide) hungrySnake_cached undead
    exact ⟨server', alive, ran, (ticked.2 server' alive ran).2.2⟩

/-! ## Fruit -/

/-- The fruit on the map. -/
def fruitCount (map : Map) : Nat :=
  ((region map.width map.height).filter fun c => (map.tiles c).type = .fruit).card

/-- How many of the first players went from joining to playing. -/
def joinedCount (before after : PlayerManager) (index : Nat) : Nat :=
  (List.range index).countP fun p => (before.players p).status = .joining ∧ (after.players p).status = .playing

private theorem fruitCount_same {first second : Map} (size : SameSize second first)
    (same : ∀ c, (second.tiles c).type = .fruit ↔ (first.tiles c).type = .fruit) :
    fruitCount second = fruitCount first := by
  unfold fruitCount
  rw [size.1, size.2]
  exact congrArg Finset.card (Finset.filter_congr fun c _ => same c)

/-- One cell that becomes a fruit is one fruit more. -/
private theorem fruitCount_more {first second : Map} (size : SameSize second first) (inside : first.InBounds c)
    (before : (first.tiles c).type ≠ .fruit) (now : (second.tiles c).type = .fruit)
    (others : ∀ c', c' ≠ c → ((second.tiles c').type = .fruit ↔ (first.tiles c').type = .fruit)) :
    fruitCount second = fruitCount first + 1 := by
  have inserted : (region first.width first.height).filter (fun c => (second.tiles c).type = .fruit) =
      insert c ((region first.width first.height).filter fun c => (first.tiles c).type = .fruit) := by
    ext c'
    simp only [Finset.mem_filter, Finset.mem_insert]
    by_cases here : c' = c
    · subst here
      exact iff_of_true ⟨mem_region.mpr inside, now⟩ (Or.inl rfl)
    · simp [here, others c' here]
  unfold fruitCount
  rw [size.1, size.2, inserted, Finset.card_insert_of_notMem]
  exact fun member => before (Finset.mem_filter.mp member).2

private theorem placeFruit_count (inside : data.map.InBounds c) (empty : (data.map.tiles c).type = .empty) :
    fruitCount (placeFruit data c).map = fruitCount data.map + 1 := by
  refine fruitCount_more ⟨rfl, rfl⟩ inside (by simp [empty]) ?_ fun c' other => ?_
  · exact congrArg MapTile.type (mapSetTileState_same _ _ _)
  · rw [show (placeFruit data c).map.tiles c' = data.map.tiles c' from mapSetTileState_other _ _ _ _ other]

private theorem planted_count (planted : Planted data after) :
    fruitCount data.map ≤ fruitCount after.map ∧ fruitCount after.map ≤ fruitCount data.map + 1 ∧
      after.fruitsEaten = data.fruitsEaten := by
  cases planted with
  | full => exact ⟨Nat.le_refl _, Nat.le_succ _, rfl⟩
  | fruit inside empty =>
    have more := placeFruit_count inside empty
    exact ⟨by omega, more.le, rfl⟩

private theorem placePlayer_count (site : SpawnSite data.map head tail direction) (playerId : Nat) :
    fruitCount (placePlayer data playerId head tail).map = fruitCount data.map := by
  refine fruitCount_same ⟨rfl, rfl⟩ fun c => ?_
  rw [placePlayer_tiles]
  split
  · rename_i here
    exact iff_of_false nofun (by simp [here, site.tailEmpty])
  · split
    · rename_i here
      exact iff_of_false nofun (by simp [here, site.headEmpty])
    · exact Iff.rfl

private theorem removed_count {final : Map} (removed : Removed map playerId c final) :
    fruitCount final = fruitCount map := by
  refine fruitCount_same removed.size fun c' => ?_
  by_cases reached : PlayerReaches map playerId c c'
  · have owned := (Exploration.reaches_live reached).2
    exact iff_of_false (by simp [removed.dead c' reached]) (by simp [owned.1])
  · rw [removed.kept c' reached]

private theorem vacate_count (way : Way state playerId) :
    fruitCount (vacate state playerId).map = fruitCount state.data.map := by
  refine fruitCount_same clearPlayerTail_sameSize fun c => ?_
  rw [vacate_tiles]
  split
  · rename_i here
    refine iff_of_false nofun fun fruit => ?_
    rw [here] at fruit
    rcases way_iff.mp way with vacant | ⟨player, -⟩
    · simp [fruit] at vacant
    · simp [fruit] at player
  · split
    · rename_i given
      exact iff_of_false nofun (by simp [given.2.1])
    · exact Iff.rfl

private theorem fed_count (inside : state.data.map.InBounds (nextHead state playerId))
    (fruit : (state.data.map.tiles (nextHead state playerId)).type = .fruit) :
    fruitCount state.data.map =
      fruitCount (movePlayerHead state.data playerId (nextHead state playerId)).map + 1 := by
  have written := movePlayerHead_tiles state playerId
  refine fruitCount_more ⟨rfl, rfl⟩ inside ?_ fruit fun c' other => ?_
  · rw [written, if_pos rfl]
    exact nofun
  · rw [written, if_neg other]

/-- A visit loses no fruit that it does not count as eaten, and makes one only for a
player who joins. -/
theorem turn_fruit (playable : Playable state.data.map)
    (inside : HasSnake (state.manager.players playerId).status →
      state.data.map.InBounds (state.data.playerDataCache.head playerId))
    (turn : Turn state playerId (.ok next)) :
    fruitCount state.data.map + state.data.fruitsEaten ≤ fruitCount next.data.map + next.data.fruitsEaten ∧
      fruitCount next.data.map + next.data.fruitsEaten ≤
        fruitCount state.data.map + state.data.fruitsEaten +
          if (state.manager.players playerId).status = .joining ∧
            (next.manager.players playerId).status = .playing then 1 else 0 := by
  cases turn with
  | idle | paused | noRoom => exact ⟨Nat.le_refl _, Nat.le_add_right _ _⟩
  | left _ removed =>
    simp only [removed_count removed]
    exact ⟨Nat.le_refl _, Nat.le_add_right _ _⟩
  | crashed _ _ _ removed =>
    simp only [removed_count removed]
    exact ⟨Nat.le_refl _, Nat.le_add_right _ _⟩
  | @spawned head tail direction _ status site planted respawned =>
    have eaten : (placePlayer state.data playerId head tail).fruitsEaten = state.data.fruitsEaten := rfl
    have same := placePlayer_count site playerId
    rcases status with respawning | joining
    · simp only [respawned respawning, same, eaten]
      exact ⟨Nat.le_refl _, Nat.le_add_right _ _⟩
    · have playing : ((state.manager.set playerId
          { status := .playing, direction := directionGetOpposite direction }).players playerId).status = .playing := by
        rw [set_players, if_pos rfl]
      obtain ⟨more, fewer, kept⟩ := planted_count planted
      rw [if_pos ⟨joining, playing⟩]
      simp only [kept, eaten]
      omega
  | fed status fruit =>
    have front := mapMoveInDirection_inBounds playable.fits (inside (Or.inl status))
      (state.manager.players playerId).direction
    have count := fed_count front fruit
    have eaten : (feedPlayer state playerId (nextHead state playerId)).data.fruitsEaten =
        state.data.fruitsEaten + 1 := rfl
    have moved : (feedPlayer state playerId (nextHead state playerId)).data.map =
        (movePlayerHead state.data playerId (nextHead state playerId)).map := rfl
    rw [eaten, moved]
    omega
  | advanced status way =>
    have count := vacate_count way
    have eaten := vacate_eaten state playerId
    simp only [retail, pushChangelogTile, count, eaten]
    exact ⟨Nat.le_refl _, Nat.le_add_right _ _⟩

/-- The first players have had their visits: fruit was only eaten or put there by
those who joined. -/
structure Counted (server : Server) (index : Nat) (state : TickState) : Prop where
  waiting : ∀ p, index ≤ p → state.manager.players p = server.gameState.playerManager.players p
  kept : fruitCount server.gameState.map ≤ fruitCount state.data.map + state.data.fruitsEaten
  joined : fruitCount state.data.map + state.data.fruitsEaten ≤
    fruitCount server.gameState.map + joinedCount server.gameState.playerManager state.manager index

theorem turn_counted {index : Nat} (playable : Playable state.data.map)
    (inside : HasSnake (state.manager.players index).status →
      state.data.map.InBounds (state.data.playerDataCache.head index))
    (turn : Turn state index (.ok next)) (counted : Counted server index state) :
    Counted server (index + 1) next := by
  obtain ⟨lower, upper⟩ := turn_fruit playable inside turn
  have before := counted.waiting index (Nat.le_refl _)
  have earlier : joinedCount server.gameState.playerManager next.manager index =
      joinedCount server.gameState.playerManager state.manager index := by
    refine List.countP_congr fun p member => ?_
    rw [turn_slot turn (Nat.ne_of_lt (List.mem_range.mp member))]
  have split : joinedCount server.gameState.playerManager next.manager (index + 1) =
      joinedCount server.gameState.playerManager next.manager index +
        if (state.manager.players index).status = .joining ∧
          (next.manager.players index).status = .playing then 1 else 0 := by
    rw [joinedCount, List.range_succ, List.countP_append, before, List.countP_singleton]
    simp [joinedCount]
  refine ⟨fun p later => ?_, counted.kept.trans lower, ?_⟩
  · rw [turn_slot turn (Nat.ne_of_gt later)]
    exact counted.waiting p (Nat.le_of_lt later)
  · have joined := counted.joined
    omega

/-! ## Replacement fruit -/

/-- A fruit is planted unless no cell is empty. -/
theorem spawnFruit_plants (playable : Playable data.map) (ran : spawnFruit data rng = .ok (after, rng')) :
    (after = data ∧ ∀ c, data.map.InBounds c → (data.map.tiles c).type ≠ .empty) ∨
      fruitCount after.map = fruitCount data.map + 1 ∧ Planted data after := by
  obtain ⟨found, drawn, searched, matched⟩ := mapFindRandomMatchingPredicate_spec playable.fits
    playable.wide playable.high mapTileIsEmptyPredicate rng
  unfold spawnFruit at ran
  rw [searched] at ran
  cases found with
  | none =>
    cases ran
    refine Or.inl ⟨rfl, fun c inside empty => ?_⟩
    have unmet := mapFindRandomMatchingPredicate_missed playable.fits playable.wide playable.high searched inside
    simp [mapTileIsEmptyPredicate, mapIsTileEmpty, empty] at unmet
  | some fruit =>
    cases ran
    obtain ⟨inside, met⟩ := matched fruit rfl
    have empty : (data.map.tiles fruit).type = .empty := by
      simpa [mapTileIsEmptyPredicate, mapIsTileEmpty] using met
    exact Or.inr ⟨placeFruit_count inside empty, .fruit inside empty⟩

/-- Every replacement finds its place as long as one cell is empty in the end. -/
theorem spawnFruits_count (count : Nat) (playable : Playable data.map)
    (ran : spawnFruits count data rng = .ok (after, rng')) :
    SameSize after.map data.map ∧ fruitCount after.map ≤ fruitCount data.map + count ∧
      ∀ c, after.map.InBounds c → (after.map.tiles c).type = .empty →
        (data.map.tiles c).type = .empty ∧ fruitCount after.map = fruitCount data.map + count := by
  induction count generalizing data rng with
  | zero =>
    cases ran
    exact ⟨⟨rfl, rfl⟩, Nat.le_refl _, fun _ _ empty => ⟨empty, rfl⟩⟩
  | succ count ih =>
    obtain ⟨⟨middle, drawn⟩, spawned, later⟩ := bind_ok.mp ran
    rcases spawnFruit_plants playable spawned with ⟨rfl, full⟩ | ⟨more, planted⟩
    · obtain ⟨size, fewer, vacant⟩ := ih playable later
      refine ⟨size, by omega, fun c inside empty => ?_⟩
      exact absurd (vacant c inside empty).1 (full c ((inBounds_sameSize size).mp inside))
    · have sameSize := planted_sameSize planted
      obtain ⟨size, fewer, vacant⟩ := ih (playable_sameSize sameSize playable) later
      refine ⟨size.trans sameSize, by omega, fun c inside empty => ?_⟩
      obtain ⟨between, exactly⟩ := vacant c inside empty
      refine ⟨?_, by omega⟩
      rcases planted_tiles planted c with same | ⟨before, _⟩
      · exact same ▸ between
      · exact before

/-- Fruit is conserved by every tick that returns: joining players add one each at
most, and what is eaten is replaced unless the map is full in the end. -/
theorem serverTick_fruit (server : Server) (wide : 1 ≤ server.gameState.map.width)
    (high : 1 ≤ server.gameState.map.height)
    (countable : server.gameState.map.width * server.gameState.map.height < 2 ^ 32)
    (cached : CacheInside server.gameState.playerManager server.playerDataCache server.gameState.map)
    (rng : Rng) :
    (∀ halt, serverTick server rng = .error halt → halt = .nextTailNotFound) ∧
    ∀ server' alive, serverTick server rng = .ok (server', alive) →
      fruitCount server'.gameState.map ≤ fruitCount server.gameState.map +
        joinedCount server.gameState.playerManager server'.gameState.playerManager maxPlayers ∧
      ((∃ c, server'.gameState.map.InBounds c ∧ (server'.gameState.map.tiles c).type = .empty) →
        fruitCount server.gameState.map ≤ fruitCount server'.gameState.map) := by
  have playable : Playable server.gameState.map := ⟨fitsWord_of_cells wide high countable, wide, high⟩
  refine ⟨fun halt => serverTick_halts playable cached, fun server' alive ran => ?_⟩
  obtain ⟨locked, ranLocked, rfl⟩ := serverTick_ok ran
  obtain ⟨state, data, rng', visited, fruited, gameState, -, -⟩ := serverTickLocked_ok ranLocked
  obtain ⟨ticking, counted⟩ := playerManagerForEach_visits (Counted server) playable
    (fun index state next within ticking turn counted =>
      turn_counted (playable_sameSize ticking.logged.size playable)
        (fun alive => (ticking.cached index within alive).1) turn counted)
    (beginTick_ticking server rng cached)
    ⟨fun _ _ => rfl, Nat.le_add_right _ _, Nat.le_add_right _ _⟩ visited
  have sweptSize := (sweepDeadTiles_undisturbed state.data).size
  obtain ⟨-, fewer, vacant⟩ := spawnFruits_count state.data.fruitsEaten
    (playable_sameSize sweptSize (playable_sameSize ticking.logged.size playable)) fruited
  have swept := fruitCount_same sweptSize (sweepDeadTiles_type .fruit nofun nofun state.data)
  obtain ⟨-, kept, joined⟩ := counted
  have map : locked.tick.gameState.map = data.map := congrArg GameState.map gameState
  have manager : locked.tick.gameState.playerManager = state.manager := congrArg GameState.playerManager gameState
  rw [map, manager]
  refine ⟨by omega, fun ⟨c, inside, empty⟩ => ?_⟩
  have exactly := (vacant c inside empty).2
  omega

theorem serverTick_fruit_hungrySnake :
    ∃ server' alive, serverTick hungrySnake { draws := fun _ => 5, used := 0 } = .ok (server', alive) ∧
      fruitCount hungrySnake.gameState.map ≤ fruitCount server'.gameState.map := by
  obtain ⟨⟨server', alive⟩, ran, vacant⟩ : ∃ result,
      serverTick hungrySnake { draws := fun _ => 5, used := 0 } = .ok result ∧
        result.1.gameState.map.InBounds ⟨9, 9⟩ ∧ (result.1.gameState.map.tiles ⟨9, 9⟩).type = .empty := by
    decide +kernel
  have fruit := (serverTick_fruit hungrySnake (by decide) (by decide) (by decide)
    hungrySnake_cached { draws := fun _ => 5, used := 0 }).2 server' alive ran
  exact ⟨server', alive, ran, fruit.2 ⟨⟨9, 9⟩, vacant⟩⟩

end SnakePosix.TileCensus
