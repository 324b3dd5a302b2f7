import SnakePosix.Foundation.GuardedRuns
import SnakePosix.Foundation.WriteLogs
import SnakePosix.TickTurns

/-! The changelog a tick leaves carries the map from before the tick to the map
after it. A dead tile is the one write that is pushed late, by the sweep; until
then the log may lag behind the map on such tiles and nowhere else. -/
namespace SnakePosix.ChangelogReplay
open MapProofs Torus TickTurns GuardedRuns

/-- A client's copy of the map after the changes are applied in order. -/
def replayChanges (map : Map) (changelog : Changelog) : Map :=
  changelog.foldl (fun map change => mapSetTileState map change.coordinates change.tileData) map

/-- The two maps show the same game. -/
def Agree (first second : Map) : Prop :=
  SameSize first second ∧ ∀ c, second.InBounds c → first.tiles c = second.tiles c

theorem replayChanges_append (map : Map) (changelog : Changelog) (change : Change) :
    replayChanges map (changelog ++ [change]) =
      mapSetTileState (replayChanges map changelog) change.coordinates change.tileData := by
  simp [replayChanges, List.foldl_append]

theorem replayChanges_size (map : Map) (changelog : Changelog) :
    SameSize (replayChanges map changelog) map := by
  induction changelog generalizing map with
  | nil => exact ⟨rfl, rfl⟩
  | cons change rest ih => exact ih (mapSetTileState map change.coordinates change.tileData)

/-- The tiles after a replay are those of a log of writes. -/
theorem replayChanges_tiles (map : Map) (changelog : Changelog) :
    (replayChanges map changelog).tiles =
      WriteLogs.replay (changelog.map fun change => (change.coordinates, change.tileData)) map.tiles := by
  induction changelog generalizing map with
  | nil => rfl
  | cons change rest ih =>
    rw [List.map_cons, WriteLogs.replay_cons, ← mapSetTileState_tiles]
    exact ih _

/-- The log so far brings the tick's first map to its current one, except for
dead tiles that are still to be swept. -/
structure Logged (start : Map) (pending : Coordinates → Prop) (data : ProcessPlayerData) : Prop where
  size : SameSize data.map start
  tiles : ∀ c, start.InBounds c → (replayChanges start data.changelog).tiles c = data.map.tiles c ∨
    (data.map.tiles c).type = .dead ∧ pending c

variable {start : Map} {pending : Coordinates → Prop} {data after : ProcessPlayerData}
  {state next : TickState} {playerId : Nat} {c : Coordinates}

/-- Pushing a cell brings the log up to date there, whatever was written to it. -/
theorem logged_push (after : ProcessPlayerData) (c : Coordinates)
    (logged : Logged start pending data) (size : SameSize after.map data.map)
    (log : after.changelog = data.changelog)
    (others : ∀ c', c' ≠ c → after.map.tiles c' = data.map.tiles c') :
    Logged start (fun c' => pending c' ∧ c' ≠ c) (pushChangelogTile after c) where
  size := size.trans logged.size
  tiles := by
    intro c' inside
    have appended := replayChanges_append start data.changelog ⟨c, mapGetTileState after.map c⟩
    simp only [pushChangelogTile, changelogPushTileStateChange, log, appended]
    by_cases here : c' = c
    · subst here
      exact Or.inl (mapSetTileState_same _ _ _)
    · rw [mapSetTileState_other _ _ _ _ here, others c' here]
      exact (logged.tiles c' inside).imp_right fun lag => ⟨lag.1, lag.2, here⟩

private theorem logged_weaken (logged : Logged start first data) (weaker : ∀ c, first c → second c) :
    Logged start second data where
  size := logged.size
  tiles := fun c inside => (logged.tiles c inside).imp_right fun lag => ⟨lag.1, weaker c lag.2⟩

private theorem logged_write (after : ProcessPlayerData) (c : Coordinates)
    (logged : Logged start pending data) (size : SameSize after.map data.map)
    (log : after.changelog = data.changelog)
    (others : ∀ c', c' ≠ c → after.map.tiles c' = data.map.tiles c') :
    Logged start pending (pushChangelogTile after c) :=
  logged_weaken (logged_push after c logged size log others) fun _ lag => lag.1

theorem logged_movePlayerHead (playerId : Nat) (c : Coordinates) (logged : Logged start pending data) :
    Logged start pending (movePlayerHead data playerId c) :=
  logged_write _ c logged ⟨rfl, rfl⟩ rfl fun _ other => mapSetTileState_other _ _ _ _ other

theorem logged_clearPlayerTail (playerId : Nat) (c : Coordinates) (logged : Logged start pending data) :
    Logged start pending (clearPlayerTail data playerId c) := by
  unfold clearPlayerTail
  dsimp only
  split
  · split
    · exact logged
    · exact logged_write _ c logged ⟨rfl, rfl⟩ rfl fun _ other => mapSetTileState_other _ _ _ _ other
  · exact logged

theorem logged_retail (playerId : Nat) (c : Coordinates) (logged : Logged start pending data) :
    Logged start pending (retail data playerId c) :=
  logged_write _ c logged ⟨rfl, rfl⟩ rfl fun _ _ => rfl

theorem logged_placePlayer (logged : Logged start pending data) :
    Logged start pending (placePlayer data playerId head tail) := by
  have headed := logged_write
    { data with
      map := mapSetTilePlayer data.map head playerId 1
      playerDataCache := playerDataCacheSetHead data.playerDataCache playerId head }
    head logged ⟨rfl, rfl⟩ rfl fun _ other => mapSetTileState_other _ _ _ _ other
  exact logged_write _ tail headed ⟨rfl, rfl⟩ rfl fun _ other => mapSetTileState_other _ _ _ _ other

theorem logged_planted (logged : Logged start pending data) (planted : Planted data after) :
    Logged start pending after := by
  cases planted with
  | full => exact logged
  | fruit => exact logged_write _ _ logged ⟨rfl, rfl⟩ rfl fun _ other => mapSetTileState_other _ _ _ _ other

/-- A removal writes without pushing, so what it wrote is still to be swept. -/
theorem logged_removed (logged : Logged start pending data)
    (removed : Removed data.map playerId c map) :
    Logged start (fun _ => True) { data with map, playerDied := true } where
  size := removed.size.trans logged.size
  tiles := by
    intro c' inside
    by_cases reached : PlayerReaches data.map playerId c c'
    · exact Or.inr ⟨congrArg MapTile.type (removed.dead c' reached), trivial⟩
    · simp only [removed.kept c' reached]
      exact (logged.tiles c' inside).imp_right fun lag => ⟨lag.1, trivial⟩

/-- Giving up a tail writes to the map and the changelog only. -/
theorem clearPlayerTail_writes (data : ProcessPlayerData) (playerId : Nat) (c : Coordinates) :
    ∃ map changelog, clearPlayerTail data playerId c = { data with map, changelog } := by
  unfold clearPlayerTail
  dsimp only
  split
  · split
    · exact ⟨_, _, rfl⟩
    · exact ⟨_, _, rfl⟩
  · exact ⟨_, _, rfl⟩

@[simp] theorem clearPlayerTail_cache :
    (clearPlayerTail data playerId c).playerDataCache = data.playerDataCache := by
  obtain ⟨map, changelog, writes⟩ := clearPlayerTail_writes data playerId c
  rw [writes]

theorem vacate_died (state : TickState) (playerId : Nat) :
    (vacate state playerId).playerDied = state.data.playerDied := by
  obtain ⟨map, changelog, writes⟩ := clearPlayerTail_writes
    (movePlayerHead state.data playerId (nextHead state playerId)) playerId (state.data.playerDataCache.tail playerId)
  rw [vacate, writes]
  rfl

theorem vacate_eaten (state : TickState) (playerId : Nat) :
    (vacate state playerId).fruitsEaten = state.data.fruitsEaten := by
  obtain ⟨map, changelog, writes⟩ := clearPlayerTail_writes
    (movePlayerHead state.data playerId (nextHead state playerId)) playerId (state.data.playerDataCache.tail playerId)
  rw [vacate, writes]
  rfl

private theorem planted_died (planted : Planted data after) : after.playerDied = data.playerDied := by
  cases planted <;> rfl

/-- No outcome of a visit loses a write: what the log lags behind on is dead, and
then somebody died. -/
theorem turn_logged (turn : Turn state playerId (.ok next))
    (logged : Logged start (fun _ => state.data.playerDied = true) state.data) :
    Logged start (fun _ => next.data.playerDied = true) next.data := by
  cases turn with
  | idle => exact logged
  | paused => exact ⟨logged.size, logged.tiles⟩
  | noRoom => exact logged
  | spawned _ _ planted _ _ =>
    have kept := logged_planted (logged_placePlayer logged) planted
    have died := planted_died planted
    exact ⟨kept.size, fun c inside => (kept.tiles c inside).imp_right fun lag => ⟨lag.1, died.trans lag.2⟩⟩
  | left _ removed => exact logged_weaken (logged_removed logged removed) fun _ _ => rfl
  | crashed _ _ _ removed => exact logged_weaken (logged_removed logged removed) fun _ _ => rfl
  | fed =>
    have kept := logged_movePlayerHead playerId (nextHead state playerId) logged
    exact ⟨kept.size, kept.tiles⟩
  | @advanced nextTail =>
    have died := vacate_died state playerId
    have kept := logged_retail playerId nextTail
      (logged_clearPlayerTail playerId (state.data.playerDataCache.tail playerId)
        (logged_movePlayerHead playerId (nextHead state playerId) logged))
    exact ⟨kept.size, fun c inside => (kept.tiles c inside).imp_right fun lag => ⟨lag.1, died.trans lag.2⟩⟩

/-! ## Cached coordinates stay on the map -/

/-- Every snake's cached head and tail lie on the map. -/
def CacheInside (manager : PlayerManager) (cache : PlayerDataCache) (map : Map) : Prop :=
  ∀ p < maxPlayers, HasSnake (manager.players p).status →
    map.InBounds (cache.head p) ∧ map.InBounds (cache.tail p)

theorem mapMoveInDirection_inBounds {map : Map} (fits : FitsWord map.width map.height)
    (inside : map.InBounds c) (direction : Direction) :
    map.InBounds (mapMoveInDirection map c direction) := by
  rw [mapMoveInDirection_eq fits inside]
  exact torusMove_inGrid inside direction

theorem set_players (manager : PlayerManager) (p q : Nat) (player : Player) :
    (manager.set p player).players q = if q = p then player else manager.players q := rfl

theorem clearPlayerTail_sameSize : SameSize (clearPlayerTail data playerId c).map data.map := by
  unfold clearPlayerTail
  dsimp only
  split
  · split <;> exact ⟨rfl, rfl⟩
  · exact ⟨rfl, rfl⟩

theorem planted_cache (planted : Planted data after) : after.playerDataCache = data.playerDataCache := by
  cases planted <;> rfl

theorem planted_sameSize (planted : Planted data after) : SameSize after.map data.map := by
  cases planted <;> exact ⟨rfl, rfl⟩

/-- No visit changes the size of the map. -/
theorem turn_sameSize (turn : Turn state playerId (.ok next)) : SameSize next.data.map state.data.map := by
  cases turn with
  | idle | paused | noRoom | fed => exact ⟨rfl, rfl⟩
  | spawned _ _ planted =>
    have size := planted_sameSize planted
    exact ⟨size.1, size.2⟩
  | left _ removed => exact removed.size
  | crashed _ _ _ removed => exact removed.size
  | advanced => exact clearPlayerTail_sameSize

theorem inBounds_sameSize {first second : Map} (same : SameSize first second) :
    first.InBounds c ↔ second.InBounds c := by
  unfold Map.InBounds
  rw [same.1, same.2]

/-- A visit writes cached coordinates of its own player only, and only cells of
the map. -/
theorem turn_cacheInside (playable : Playable state.data.map) (within : playerId < maxPlayers)
    (turn : Turn state playerId (.ok next))
    (cached : CacheInside state.manager state.data.playerDataCache state.data.map) :
    CacheInside next.manager next.data.playerDataCache next.data.map := by
  intro p bound alive
  rw [inBounds_sameSize (turn_sameSize turn), inBounds_sameSize (turn_sameSize turn)]
  have before := cached p bound
  have moved := fun inside => mapMoveInDirection_inBounds (c := state.data.playerDataCache.head playerId)
    playable.fits inside (state.manager.players playerId).direction
  cases turn with
  | idle | paused => exact before alive
  | noRoom | left | crashed =>
    rw [set_players] at alive
    split at alive
    · simp [HasSnake] at alive
    · exact before alive
  | spawned _ site planted =>
    rw [set_players] at alive
    simp only [planted_cache planted]
    by_cases own : p = playerId
    · subst own
      have tailInside := mapMoveInDirection_inBounds playable.fits site.inside
      simp only [placePlayer, pushChangelogTile, playerDataCacheSetHead, playerDataCacheSetTail, ↓reduceIte]
      exact ⟨site.inside, site.step ▸ tailInside _⟩
    · rw [if_neg own] at alive
      simp only [placePlayer, pushChangelogTile, playerDataCacheSetHead, playerDataCacheSetTail, own, ↓reduceIte]
      exact before alive
  | fed status =>
    by_cases own : p = playerId
    · subst own
      simp only [feedPlayer, movePlayerHead, pushChangelogTile, playerDataCacheSetHead, ↓reduceIte]
      exact ⟨moved (before alive).1, (before alive).2⟩
    · simp only [feedPlayer, movePlayerHead, pushChangelogTile, playerDataCacheSetHead, own, ↓reduceIte]
      exact before alive
  | advanced status _ found =>
    by_cases own : p = playerId
    · subst own
      obtain ⟨⟨direction, _, rfl⟩, _⟩ := lowest_found found
      have size : SameSize (vacate state p).map state.data.map := clearPlayerTail_sameSize
      have tailInside := mapMoveInDirection_inBounds playable.fits (before alive).2 direction
      rw [← mapMoveInDirection_sameSize size] at tailInside
      simp only [retail, vacate, pushChangelogTile, clearPlayerTail_cache, movePlayerHead,
        playerDataCacheSetHead, playerDataCacheSetTail, ↓reduceIte]
      exact ⟨moved (before alive).1, tailInside⟩
    · simp only [retail, vacate, pushChangelogTile, clearPlayerTail_cache, movePlayerHead,
        playerDataCacheSetHead, playerDataCacheSetTail, own, ↓reduceIte]
      exact before alive

theorem playable_sameSize {first second : Map} (same : SameSize first second) (playable : Playable second) :
    Playable first := by
  obtain ⟨fits, wide, high⟩ := playable
  rw [← same.1, ← same.2] at fits
  exact ⟨fits, same.1 ▸ wide, same.2 ▸ high⟩

/-- What every visit of a tick preserves without any assumption on the snakes. -/
structure Ticking (start : Map) (state : TickState) : Prop where
  logged : Logged start (fun _ => state.data.playerDied = true) state.data
  cached : CacheInside state.manager state.data.playerDataCache state.data.map

theorem forEachSlot_ticking (playable : Playable start) (within : playerId < maxPlayers)
    (ticking : Ticking start state) (ran : forEachSlot state playerId = .ok next) : Ticking start next := by
  have playing := playable_sameSize ticking.logged.size playable
  have turn := forEachSlot_turn playing fun alive => (ticking.cached playerId within alive).1
  rw [ran] at turn
  exact ⟨turn_logged turn ticking.logged, turn_cacheInside playing within turn ticking.cached⟩

/-- What the visits preserve one after another, all visits of a tick preserve. -/
theorem playerManagerForEach_visits (keeps : Nat → TickState → Prop) (playable : Playable start)
    (each : ∀ index state next, index < maxPlayers → Ticking start state →
      Turn state index (.ok next) → keeps index state → keeps (index + 1) next)
    (ticking : Ticking start state) (held : keeps 0 state) (ran : playerManagerForEach state = .ok next) :
    Ticking start next ∧ keeps maxPlayers next := by
  refine range_preserves forEachSlot (fun index state => Ticking start state ∧ keeps index state) maxPlayers
    (fun index state next within held stepped => ?_) ⟨ticking, held⟩ ran
  obtain ⟨ticking, held⟩ := held
  have turn := forEachSlot_turn (playable_sameSize ticking.logged.size playable)
    fun alive => (ticking.cached index within alive).1
  rw [stepped] at turn
  exact ⟨forEachSlot_ticking playable within ticking stepped, each index state next within ticking turn held⟩

theorem playerManagerForEach_turns (keeps : TickState → Prop) (playable : Playable start)
    (each : ∀ state, ∀ playerId < maxPlayers, ∀ next, Ticking start state →
      Turn state playerId (.ok next) → keeps state → keeps next)
    (ticking : Ticking start state) (held : keeps state) (ran : playerManagerForEach state = .ok next) :
    Ticking start next ∧ keeps next :=
  playerManagerForEach_visits (fun _ => keeps) playable
    (fun index state next within ticking turn held => each state index within next ticking turn held)
    ticking held ran

/-- A tick's visits end early only where a moving snake misses its next tail. -/
theorem playerManagerForEach_halts (playable : Playable start) (ticking : Ticking start state)
    (halted : playerManagerForEach state = .error halt) : halt = .nextTailNotFound := by
  obtain ⟨last, playerId, member, ticking, stepped⟩ := run_fails forEachSlot (Ticking start) (List.range maxPlayers)
    (fun state playerId member next ticking stepped =>
      forEachSlot_ticking playable (List.mem_range.mp member) ticking stepped) ticking halted
  have turn := forEachSlot_turn (playable_sameSize ticking.logged.size playable)
    fun alive => (ticking.cached playerId (List.mem_range.mp member) alive).1
  rw [stepped] at turn
  cases turn with
  | stuck => rfl

theorem playerManagerForEach_ticking (playable : Playable start) (ticking : Ticking start state)
    (ran : playerManagerForEach state = .ok next) : Ticking start next :=
  (playerManagerForEach_turns (fun _ => True) playable (fun _ _ _ _ _ _ held => held) ticking trivial ran).1

/-! ## The sweep and the replacement fruit -/

private theorem sweepTile_logged (logged : Logged start (· ∈ c :: rest) data) :
    Logged start (· ∈ rest) (sweepTile data c) := by
  unfold sweepTile
  split
  · have pushed := logged_push { data with map := mapSetTileEmpty data.map c } c logged
      ⟨rfl, rfl⟩ rfl fun _ other => mapSetTileState_other _ _ _ _ other
    exact logged_weaken pushed fun c' lag => (List.mem_cons.mp lag.1).resolve_left lag.2
  · rename_i living
    refine ⟨logged.size, fun c' inside => ?_⟩
    rcases logged.tiles c' inside with same | ⟨dead, later⟩
    · exact Or.inl same
    · rcases List.mem_cons.mp later with rfl | later
      · exact absurd (by simpa [mapIsTileDead] using dead) living
      · exact Or.inr ⟨dead, later⟩

private theorem sweepTiles_logged (list : List Coordinates) (logged : Logged start (· ∈ list) data) :
    Logged start (fun _ => False) (list.foldl sweepTile data) := by
  induction list generalizing data with
  | nil => exact logged_weaken logged fun _ => List.not_mem_nil
  | cons c rest ih => exact ih (sweepTile_logged logged)

/-- After the sweep the log lags behind nowhere. -/
theorem sweepDeadTiles_logged (logged : Logged start (fun _ => data.playerDied = true) data) :
    Logged start (fun _ => False) (sweepDeadTiles data) := by
  unfold sweepDeadTiles
  split
  · refine sweepTiles_logged _ ⟨logged.size, fun c inside => ?_⟩
    refine (logged.tiles c inside).imp_right fun lag => ⟨lag.1, ?_⟩
    exact mem_cells.mpr ((inBounds_sameSize logged.size).mpr inside)
  · rename_i nobody
    exact logged_weaken logged fun _ died => nobody died

/-- The replacement fruits always find a place, or there is none; what planting
one preserves, given how many are still to come, all of them preserve. -/
theorem spawnFruits_planted (keeps : Nat → ProcessPlayerData → Prop)
    (plants : ∀ count data after, Planted data after → keeps (count + 1) data → keeps count after)
    (count : Nat) (playable : Playable data.map) (held : keeps count data) (rng : Rng) :
    ∃ after rng', spawnFruits count data rng = .ok (after, rng') ∧ keeps 0 after := by
  induction count generalizing data rng with
  | zero => exact ⟨data, rng, rfl, held⟩
  | succ count ih =>
    obtain ⟨middle, rng', spawned, planted⟩ := spawnFruit_planted playable rng
    obtain ⟨after, rng'', fruited, kept⟩ := ih (playable_sameSize (planted_sameSize planted) playable)
      (plants count data middle planted held) rng'
    refine ⟨after, rng'', ?_, kept⟩
    simp only [spawnFruits, spawned, bind, Except.bind]
    exact fruited

theorem spawnFruits_logged (playable : Playable start) (count : Nat)
    (logged : Logged start (fun _ => False) data)
    (ran : spawnFruits count data rng = .ok (after, rng')) : Logged start (fun _ => False) after := by
  obtain ⟨final, rng'', fruited, kept⟩ := spawnFruits_planted (fun _ data => Logged start (fun _ => False) data)
    (fun _ _ _ planted logged => logged_planted logged planted) count
    (playable_sameSize logged.size playable) logged rng
  rw [fruited] at ran
  cases ran
  exact kept

/-! ## The whole tick -/

theorem beginTick_ticking (server : Server) (rng : Rng)
    (cached : CacheInside server.gameState.playerManager server.playerDataCache server.gameState.map) :
    Ticking server.gameState.map (server.beginTick rng) where
  logged := ⟨⟨rfl, rfl⟩, fun _ _ => Or.inl rfl⟩
  cached := cached

/-- The steps of a tick that returns. -/
theorem serverTickLocked_ok (ran : serverTickLocked server rng = .ok (server', alive)) :
    ∃ state data rng', playerManagerForEach (server.beginTick rng) = .ok state ∧
      spawnFruits state.data.fruitsEaten (sweepDeadTiles state.data) state.rng = .ok (data, rng') ∧
      server'.gameState = { server.gameState with
        changelog := data.changelog, map := data.map, playerManager := state.manager } ∧
      server'.playerDataCache = data.playerDataCache ∧ alive = !data.noPlayerAlive := by
  obtain ⟨state, visited, ran⟩ := bind_ok.mp ran
  obtain ⟨⟨data, rng'⟩, fruited, ran⟩ := bind_ok.mp ran
  cases ran
  exact ⟨state, data, rng', visited, fruited, rfl, rfl, rfl⟩

theorem serverTick_ok (ran : serverTick server rng = .ok (server', alive)) :
    ∃ locked, serverTickLocked server rng = .ok (locked, alive) ∧ server' = locked.tick := by
  obtain ⟨⟨locked, _⟩, visited, ran⟩ := bind_ok.mp ran
  cases ran
  exact ⟨locked, visited, rfl⟩

/-- The changelog of a tick that returns carries the old map to the new one. -/
theorem serverTickLocked_logged (playable : Playable server.gameState.map)
    (cached : CacheInside server.gameState.playerManager server.playerDataCache server.gameState.map)
    (ran : serverTickLocked server rng = .ok (server', alive)) :
    SameSize server'.gameState.map server.gameState.map ∧
      ∀ c, server.gameState.map.InBounds c →
        (replayChanges server.gameState.map server'.gameState.changelog).tiles c =
          server'.gameState.map.tiles c := by
  obtain ⟨state, data, rng', visited, fruited, gameState, -, -⟩ := serverTickLocked_ok ran
  have ticking := playerManagerForEach_ticking playable (beginTick_ticking server rng cached) visited
  have logged := spawnFruits_logged playable _ (sweepDeadTiles_logged ticking.logged) fruited
  rw [gameState]
  exact ⟨logged.size, fun c inside => (logged.tiles c inside).resolve_right fun lag => lag.2⟩

/-- A map between the two ends of a tick is brought to the second end. -/
theorem replay_between_ticks (playable : Playable server.gameState.map)
    (cached : CacheInside server.gameState.playerManager server.playerDataCache server.gameState.map)
    (ran : serverTickLocked server rng = .ok (server', alive)) (map : Map)
    (size : SameSize map server.gameState.map)
    (between : ∀ c, server.gameState.map.InBounds c →
      map.tiles c = server.gameState.map.tiles c ∨ map.tiles c = server'.gameState.map.tiles c) :
    Agree (replayChanges map server'.gameState.changelog) server'.gameState.map := by
  obtain ⟨sizeAfter, carries⟩ := serverTickLocked_logged playable cached ran
  have replayed := replayChanges_size map server'.gameState.changelog
  refine ⟨⟨replayed.1.trans (size.1.trans sizeAfter.1.symm), replayed.2.trans (size.2.trans sizeAfter.2.symm)⟩, ?_⟩
  intro c inside
  have insideBefore := (inBounds_sameSize sizeAfter).mp inside
  have carried := carries c insideBefore
  rw [replayChanges_tiles] at carried ⊢
  exact WriteLogs.replay_between carried (between c insideBefore)

/-- A tick's changelog brings every map between the two ends of the tick to its
second end: the first end itself, and the second, on which it changes nothing. -/
theorem serverTick_replay (wide : 1 ≤ server.gameState.map.width)
    (widthBound : server.gameState.map.width ≤ maxMapWidth) (high : 1 ≤ server.gameState.map.height)
    (heightBound : server.gameState.map.height ≤ maxMapHeight)
    (cached : CacheInside server.gameState.playerManager server.playerDataCache server.gameState.map)
    (ran : serverTick server rng = .ok (server', alive)) :
    (∀ map, SameSize map server.gameState.map →
      (∀ c, server.gameState.map.InBounds c →
        map.tiles c = server.gameState.map.tiles c ∨ map.tiles c = server'.gameState.map.tiles c) →
      Agree (replayChanges map server'.gameState.changelog) server'.gameState.map) ∧
    Agree (replayChanges server.gameState.map server'.gameState.changelog) server'.gameState.map ∧
    Agree (replayChanges (replayChanges server.gameState.map server'.gameState.changelog)
      server'.gameState.changelog) server'.gameState.map := by
  have playable : Playable server.gameState.map := ⟨fitsWord_of_arrays widthBound heightBound, wide, high⟩
  obtain ⟨locked, ranLocked, rfl⟩ := serverTick_ok ran
  have between := replay_between_ticks playable cached ranLocked
  refine ⟨between, between _ ⟨rfl, rfl⟩ fun _ _ => Or.inl rfl, ?_⟩
  have first := between _ ⟨rfl, rfl⟩ fun _ _ => Or.inl rfl
  have size := (serverTickLocked_logged playable cached ranLocked).1
  exact between _ (replayChanges_size _ _) fun c inside =>
    Or.inr (first.2 c ((inBounds_sameSize size).mpr inside))

/-- A ten by ten map on which the player in slot 0 is about to eat. -/
def hungrySnake : Server where
  gameState :=
    { changelog := []
      map :=
        { tiles := fun c =>
            if c = ⟨2, 1⟩ then { order := 0, type := .player, player := 0 }
            else if c = ⟨2, 2⟩ then { order := 1, type := .player, player := 0 }
            else if c = ⟨2, 3⟩ then { order := 0, type := .fruit, player := 0 }
            else { order := 0, type := .empty, player := 0 }
          width := 10
          height := 10 }
      playerManager :=
        { players := fun p => { status := if p = 0 then .playing else .notConnected, direction := .right } }
      ticker := { tick := 0 }
      gameEnded := false }
  playerDataCache := { head := fun _ => ⟨2, 2⟩, tail := fun _ => ⟨2, 1⟩ }

theorem hungrySnake_cached : CacheInside hungrySnake.gameState.playerManager hungrySnake.playerDataCache
    hungrySnake.gameState.map := fun _ _ _ =>
  ⟨(by decide : (⟨2, 2⟩ : Coordinates).InGrid 10 10), (by decide : (⟨2, 1⟩ : Coordinates).InGrid 10 10)⟩

theorem serverTick_replay_hungrySnake :
    ∃ server' alive, serverTick hungrySnake { draws := fun _ => 5, used := 0 } = .ok (server', alive) ∧
      server'.gameState.changelog.length = 2 ∧
      Agree (replayChanges hungrySnake.gameState.map server'.gameState.changelog) server'.gameState.map := by
  obtain ⟨⟨server', alive⟩, ran, eaten⟩ : ∃ result,
      serverTick hungrySnake { draws := fun _ => 5, used := 0 } = .ok result ∧
        result.1.gameState.changelog.length = 2 := by decide +kernel
  have replayed := serverTick_replay (by decide) (by decide) (by decide) (by decide) hungrySnake_cached ran
  exact ⟨server', alive, ran, eaten, replayed.2.1⟩

end SnakePosix.ChangelogReplay
