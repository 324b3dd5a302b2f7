import SnakePosix.LockedSections
import SnakePosix.SocketRoundTrip

/-! What the server writes fits the wire format: an order is a machine word, a player
one of the slots and a type has a name, on the map and in the changelog alike. -/
namespace SnakePosix.TileRanges
open GuardedRuns MapProofs Torus TickTurns ChangelogReplay GameRuns LockedSections SocketRoundTrip

variable {width height : Nat} {data after : ProcessPlayerData} {map : Map} {c : Coordinates}
  {state next : TickState} {playerId : Nat} {game : Game} {server : Server} {rng : Rng}

/-- The cells of the map, and the changes. -/
structure Ranged (map : Map) (changelog : Changelog) : Prop where
  tiles : ∀ c, map.InBounds c → TileInRange (map.tiles c)
  changes : ∀ change ∈ changelog, TileInRange change.tileData

/-- One cell of the map is written. -/
theorem ranged_write {tile : MapTile} {changelog : Changelog} (ranged : Ranged map changelog)
    (inRange : TileInRange tile) : Ranged (mapSetTileState map c tile) changelog where
  tiles := by
    intro c' inside
    by_cases here : c' = c
    · rw [here, mapSetTileState_same]
      exact inRange
    · rw [mapSetTileState_other _ _ _ _ here]
      exact ranged.tiles c' inside
  changes := ranged.changes

theorem inRange_type {tile : MapTile} {type : MapTileType} (inRange : TileInRange tile) (declared : type.Declared) :
    TileInRange { tile with type } :=
  ⟨inRange.order, inRange.player, declared⟩

theorem ranged_type {type : MapTileType} {changelog : Changelog} (ranged : Ranged map changelog)
    (inside : map.InBounds c) (declared : type.Declared) : Ranged (mapSetTileType map c type) changelog :=
  ranged_write ranged (inRange_type (ranged.tiles c inside) declared)

theorem ranged_player {order : Nat} {changelog : Changelog} (ranged : Ranged map changelog)
    (within : playerId < maxPlayers) (order64 : order < 2 ^ 64) :
    Ranged (mapSetTilePlayer map c playerId order) changelog :=
  ranged_write ranged ⟨order64, Nat.lt_of_lt_of_le within (by decide), trivial⟩

/-- A cell of the map is pushed. -/
theorem ranged_push (ranged : Ranged data.map data.changelog) (inside : data.map.InBounds c) :
    Ranged (pushChangelogTile data c).map (pushChangelogTile data c).changelog where
  tiles := ranged.tiles
  changes := by
    intro change member
    rcases List.mem_append.mp member with earlier | last
    · exact ranged.changes change earlier
    · rw [List.mem_singleton.mp last]
      exact ranged.tiles c inside

/-- A cell of the map is emptied. -/
theorem ranged_emptied (ranged : Ranged data.map data.changelog) (inside : data.map.InBounds c) :
    Ranged (pushChangelogTile { data with map := mapSetTileEmpty data.map c } c).map
      (pushChangelogTile { data with map := mapSetTileEmpty data.map c } c).changelog := by
  have written : Ranged (mapSetTileEmpty data.map c) data.changelog := ranged_type ranged inside trivial
  exact @ranged_push { data with map := mapSetTileEmpty data.map c } c written inside

theorem ranged_planted (ranged : Ranged data.map data.changelog) (planted : Planted data after) :
    Ranged after.map after.changelog := by
  cases planted with
  | full => exact ranged
  | @fruit c inside =>
    have written : Ranged (mapSetTileFruit data.map c) data.changelog := ranged_type ranged inside trivial
    have pushed := @ranged_push { data with map := mapSetTileFruit data.map c } c written inside
    exact pushed

/-! ## A tick -/

theorem ranged_movePlayerHead (ranged : Ranged data.map data.changelog) (within : playerId < maxPlayers)
    (inside : data.map.InBounds c) :
    Ranged (movePlayerHead data playerId c).map (movePlayerHead data playerId c).changelog := by
  have order : wrap64 ((mapGetTileState data.map (data.playerDataCache.head playerId)).order + 1) < 2 ^ 64 :=
    Nat.mod_lt _ (by decide)
  have written : Ranged (mapSetTilePlayer data.map c playerId _) data.changelog :=
    ranged_player ranged within order
  exact @ranged_push { data with
    map := mapSetTilePlayer data.map c playerId _
    playerDataCache := playerDataCacheSetHead data.playerDataCache playerId c } c written inside

theorem ranged_clearPlayerTail (ranged : Ranged data.map data.changelog) (inside : data.map.InBounds c) :
    Ranged (clearPlayerTail data playerId c).map (clearPlayerTail data playerId c).changelog := by
  unfold clearPlayerTail
  dsimp only
  split
  · split
    · exact ranged
    · exact ranged_emptied ranged inside
  · exact ranged

theorem ranged_placePlayer {head tail : Coordinates} (ranged : Ranged data.map data.changelog)
    (within : playerId < maxPlayers) (headInside : data.map.InBounds head) (tailInside : data.map.InBounds tail) :
    Ranged (placePlayer data playerId head tail).map (placePlayer data playerId head tail).changelog := by
  have headWritten : Ranged (mapSetTilePlayer data.map head playerId 1) data.changelog :=
    ranged_player ranged within (by decide)
  have headed := @ranged_push { data with
    map := mapSetTilePlayer data.map head playerId 1
    playerDataCache := playerDataCacheSetHead data.playerDataCache playerId head } head headWritten headInside
  have tailWritten := @ranged_player _ tail playerId 0 _ headed within (by decide)
  exact @ranged_push { data with
    map := mapSetTilePlayer (mapSetTilePlayer data.map head playerId 1) tail playerId 0
    playerDataCache := playerDataCacheSetTail (playerDataCacheSetHead data.playerDataCache playerId head) playerId tail
    changelog := changelogPushTileStateChange data.changelog head
      (mapGetTileState (mapSetTilePlayer data.map head playerId 1) head) } tail tailWritten tailInside

theorem turn_ranged {start : Map} (playable : Playable state.data.map) (within : playerId < maxPlayers)
    (ticking : Ticking start state) (turn : Turn state playerId (.ok next))
    (ranged : Ranged state.data.map state.data.changelog) : Ranged next.data.map next.data.changelog := by
  have front : state.data.map.InBounds (state.data.playerDataCache.head playerId) →
      state.data.map.InBounds (nextHead state playerId) :=
    fun inside => mapMoveInDirection_inBounds playable.fits inside _
  have removed : ∀ {after}, Removed state.data.map playerId (state.data.playerDataCache.head playerId) after →
      Ranged after state.data.changelog := by
    intro after removed
    refine ⟨fun c inside => ?_, ranged.changes⟩
    have before := ranged.tiles c ((inBounds_sameSize removed.size).mp inside)
    by_cases reached : PlayerReaches state.data.map playerId (state.data.playerDataCache.head playerId) c
    · rw [removed.dead c reached]
      exact inRange_type before trivial
    · rw [removed.kept c reached]
      exact before
  cases turn with
  | idle | paused | noRoom => exact ranged
  | left _ gone => exact removed gone
  | crashed _ _ _ gone => exact removed gone
  | spawned _ site planted =>
    have tailInside := mapMoveInDirection_inBounds playable.fits site.inside
    have placed := ranged_placePlayer ranged within site.inside (site.step ▸ tailInside _)
    have fruited := ranged_planted placed planted
    exact fruited
  | fed status =>
    have cached := ticking.cached playerId within (Or.inl status)
    exact ranged_movePlayerHead ranged within (front cached.1)
  | @advanced nextTail status way found =>
    have cached := ticking.cached playerId within (Or.inl status)
    have headed := ranged_movePlayerHead ranged within (front cached.1)
    have vacated := @ranged_clearPlayerTail _ _ playerId headed cached.2
    have size : SameSize (vacate state playerId).map state.data.map := clearPlayerTail_sameSize
    obtain ⟨⟨direction, _, rfl⟩, _⟩ := lowest_found found
    have tailInside := mapMoveInDirection_inBounds playable.fits cached.2 direction
    rw [← mapMoveInDirection_sameSize size, ← inBounds_sameSize size] at tailInside
    exact @ranged_push { vacate state playerId with
      playerDataCache := playerDataCacheSetTail (vacate state playerId).playerDataCache playerId _ } _ vacated
      tailInside

theorem ranged_sweepTile (ranged : Ranged data.map data.changelog) (inside : data.map.InBounds c) :
    Ranged (sweepTile data c).map (sweepTile data c).changelog := by
  unfold sweepTile
  split
  · exact ranged_emptied ranged inside
  · exact ranged

theorem ranged_sweepDeadTiles (ranged : Ranged data.map data.changelog) :
    Ranged (sweepDeadTiles data).map (sweepDeadTiles data).changelog := by
  unfold sweepDeadTiles
  split
  · have kept : ∀ list : List Coordinates, (∀ c ∈ list, data.map.InBounds c) → ∀ reached : ProcessPlayerData,
        SameSize reached.map data.map → Ranged reached.map reached.changelog →
        Ranged (list.foldl sweepTile reached).map (list.foldl sweepTile reached).changelog := by
      intro list inside
      induction list with
      | nil => exact fun _ _ ranged => ranged
      | cons c rest ih =>
        intro reached size ranged
        refine ih (fun c' member => inside c' (List.mem_cons_of_mem _ member)) _
          ((sweepTile_undisturbed reached c).size.trans size) (ranged_sweepTile ranged ?_)
        exact (inBounds_sameSize size).mpr (inside c List.mem_cons_self)
    exact kept _ (fun c member => mem_cells.mp member) data ⟨rfl, rfl⟩ ranged
  · exact ranged

/-- A tick keeps the map in range, and its changelog is. -/
theorem serverTickLocked_ranged (sizes : Sizes width height) (steady : Steady width height game)
    (ranged : ∀ c, game.server.gameState.map.InBounds c → TileInRange (game.server.gameState.map.tiles c))
    (ran : serverTickLocked game.server rng = .ok (server, alive)) :
    Ranged server.gameState.map server.gameState.changelog := by
  have playable := playable_of_sizes sizes steady.sized
  obtain ⟨state, data, rng', visited, fruited, gameState, -⟩ := serverTickLocked_ok ran
  obtain ⟨ticking, visits⟩ := playerManagerForEach_turns
    (fun state => Ranged state.data.map state.data.changelog) playable
    (fun state p within next ticking turn ranged =>
      turn_ranged (playable_sameSize ticking.logged.size playable) within ticking turn ranged)
    (beginTick_ticking game.server rng steady.cached) ⟨ranged, nofun⟩ visited
  have swept := ranged_sweepDeadTiles visits
  have sweptSize := (sweepDeadTiles_undisturbed state.data).size
  have sweptPlayable := playable_sameSize sweptSize (playable_sameSize ticking.logged.size playable)
  obtain ⟨final, rng'', planted, kept⟩ := spawnFruits_planted (fun _ data => Ranged data.map data.changelog)
    (fun _ _ _ planted ranged => ranged_planted ranged planted) state.data.fruitsEaten sweptPlayable swept state.rng
  rw [planted] at fruited
  obtain ⟨rfl, -⟩ := Prod.mk.inj (Except.ok.inj fruited)
  rw [gameState]
  exact kept

/-! ## The running server -/

variable {running later : RunningServer}

def InRange (server : RunningServer) : Prop := Ranged server.gameState.map server.gameState.changelog

theorem start_inRange (map : Map) (directions : Nat → Direction) (cache : PlayerDataCache)
    (template : MapTemplate) : InRange (.start (Game.start map directions cache template)) where
  tiles := by
    intro c inside
    have size := mapInitFromTemplate_size map template
    have grid : c.InGrid template.width template.height := ⟨size.2 ▸ inside.1, size.1 ▸ inside.2⟩
    change TileInRange ((mapInitFromTemplate map template).tiles c)
    rw [mapInitFromTemplate_tiles map template grid]
    refine ⟨Nat.two_pow_pos 64, Nat.two_pow_pos 16, ?_⟩
    dsimp only
    split <;> trivial
  changes := nofun

theorem lockedSection_inRange (sizes : Sizes width height) (side : ServerSide width height running)
    (inRange : InRange running) (ran : running.lockedSection rng = .ok later) : InRange later := by
  unfold RunningServer.lockedSection at ran
  split at ran
  · cases ran
    exact inRange
  · obtain ⟨⟨server, alive⟩, ticked, ran⟩ := bind_ok.mp ran
    cases ran
    exact serverTickLocked_ranged sizes side.steady inRange.tiles ticked

theorem operate_inRange (inRange : InRange running) (action : Action) : InRange (running.operate action) := by
  obtain ⟨map, changelog, -⟩ := operate_rest running action
  unfold InRange
  rw [map, changelog]
  exact inRange

end SnakePosix.TileRanges
