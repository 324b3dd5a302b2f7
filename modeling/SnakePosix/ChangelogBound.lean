import Mathlib.Algebra.Order.BigOperators.Group.Finset
import SnakePosix.SnakeRuns

/-! The changelog never outgrows its array. A visit pushes three entries at most,
and only for a snake that lives on; a cell that is swept pushes one, but no
living snake holds it. The map has room for both only within the bound. -/
namespace SnakePosix.ChangelogBound
open MapProofs Torus TickTurns Trails ChangelogReplay Snakes GameRuns SnakeRuns GuardedRuns

/-- Owners of two cells each, and marked cells nobody owns, share a finite set. -/
theorem occupancy {α β : Type} [DecidableEq α] {places : Finset α} {owners : Finset β}
    (owns : β → α → Prop) (marked : α → Prop) [∀ b, DecidablePred (owns b)] [DecidablePred marked]
    (two : ∀ b ∈ owners, ∃ x ∈ places, ∃ y ∈ places, x ≠ y ∧ owns b x ∧ owns b y)
    (unique : ∀ a b c, owns b a → owns c a → b = c) (unmarked : ∀ a b, owns b a → ¬ marked a) :
    (places.filter marked).card + 2 * owners.card ≤ places.card := by
  have apart : Set.PairwiseDisjoint (owners : Set β) fun b => places.filter (owns b) := by
    intro b _ c _ distinct
    refine Finset.disjoint_left.mpr fun a first second => distinct ?_
    exact unique a b c (Finset.mem_filter.mp first).2 (Finset.mem_filter.mp second).2
  have free : Disjoint (places.filter marked) (owners.biUnion fun b => places.filter (owns b)) := by
    refine Finset.disjoint_left.mpr fun a first second => ?_
    obtain ⟨b, _, owned⟩ := Finset.mem_biUnion.mp second
    exact unmarked a b (Finset.mem_filter.mp owned).2 (Finset.mem_filter.mp first).2
  have each : ∀ b ∈ owners, 2 ≤ (places.filter (owns b)).card := by
    intro b member
    obtain ⟨x, xIn, y, yIn, distinct, xOwned, yOwned⟩ := two b member
    exact Finset.one_lt_card.mpr ⟨x, Finset.mem_filter.mpr ⟨xIn, xOwned⟩, y,
      Finset.mem_filter.mpr ⟨yIn, yOwned⟩, distinct⟩
  calc (places.filter marked).card + 2 * owners.card
      ≤ (places.filter marked).card + ∑ b ∈ owners, (places.filter (owns b)).card := by
        refine Nat.add_le_add_left ?_ _
        have counted := Finset.sum_le_sum each
        rwa [Finset.sum_const, Nat.nsmul_eq_mul, Nat.mul_comm] at counted
    _ = ((places.filter marked) ∪ owners.biUnion fun b => places.filter (owns b)).card := by
        rw [Finset.card_union_of_disjoint free, Finset.card_biUnion apart]
    _ ≤ places.card := by
        refine Finset.card_le_card (Finset.union_subset (Finset.filter_subset _ _) ?_)
        exact Finset.biUnion_subset.mpr fun b _ => Finset.filter_subset _ _

variable {width height playerId index : Nat} {state next : TickState} {server : Server}
  {data after : ProcessPlayerData} {settled : TickState → Nat → Prop}

/-! ## Pushes of a visit -/

private theorem planted_pushes (planted : Planted data after) :
    after.changelog.length ≤ data.changelog.length + 1 ∧ after.fruitsEaten = data.fruitsEaten := by
  cases planted with
  | full => exact ⟨Nat.le_succ _, rfl⟩
  | fruit => exact ⟨by simp [placeFruit, pushChangelogTile, changelogPushTileStateChange], rfl⟩

private theorem clearPlayerTail_pushes (data : ProcessPlayerData) (playerId : Nat) (c : Coordinates) :
    (clearPlayerTail data playerId c).changelog.length ≤ data.changelog.length + 1 ∧
      (clearPlayerTail data playerId c).fruitsEaten = data.fruitsEaten := by
  unfold clearPlayerTail
  dsimp only
  split
  · split
    · exact ⟨Nat.le_succ _, rfl⟩
    · exact ⟨by simp [pushChangelogTile, changelogPushTileStateChange], rfl⟩
  · exact ⟨Nat.le_succ _, rfl⟩

/-- What is pushed or still owed: an eaten fruit costs one push after the visits. -/
def pushes (data : ProcessPlayerData) : Nat := data.changelog.length + data.fruitsEaten

/-- The players below the index that have a snake. -/
def living (manager : PlayerManager) (index : Nat) : Finset Nat :=
  (Finset.range index).filter fun p => HasSnake (manager.players p).status

/-- A visit pushes only for a snake that lives on, and three entries at most. -/
theorem turn_pushes (turn : Turn state playerId (.ok next)) :
    pushes next.data ≤ pushes state.data ∨
      HasSnake (next.manager.players playerId).status ∧ pushes next.data ≤ pushes state.data + 3 := by
  cases turn with
  | idle | paused | noRoom | left | crashed => exact Or.inl (Nat.le_refl _)
  | @spawned head tail _ placed _ _ planted =>
    have grown := planted_pushes planted
    have placedPushes : (placePlayer state.data playerId head tail).changelog.length =
        state.data.changelog.length + 2 := by
      simp [placePlayer, pushChangelogTile, changelogPushTileStateChange]
    have owed : (placePlayer state.data playerId head tail).fruitsEaten = state.data.fruitsEaten := rfl
    refine Or.inr ⟨Or.inl (congrArg Player.status (if_pos rfl)), ?_⟩
    simp only [pushes]
    omega
  | fed status =>
    have eaten : (feedPlayer state playerId (nextHead state playerId)).data.changelog.length =
        state.data.changelog.length + 1 := by
      simp [feedPlayer, movePlayerHead, pushChangelogTile, changelogPushTileStateChange]
    have owed : (feedPlayer state playerId (nextHead state playerId)).data.fruitsEaten =
        state.data.fruitsEaten + 1 := rfl
    refine Or.inr ⟨Or.inl status, ?_⟩
    simp only [pushes]
    omega
  | @advanced nextTail status =>
    have cleared := clearPlayerTail_pushes (movePlayerHead state.data playerId (nextHead state playerId)) playerId
      (state.data.playerDataCache.tail playerId)
    have headed : (movePlayerHead state.data playerId (nextHead state playerId)).changelog.length =
        state.data.changelog.length + 1 := by
      simp [movePlayerHead, pushChangelogTile, changelogPushTileStateChange]
    have kept : (movePlayerHead state.data playerId (nextHead state playerId)).fruitsEaten =
        state.data.fruitsEaten := rfl
    have pushed : (retail (vacate state playerId) playerId nextTail).changelog.length =
        (vacate state playerId).changelog.length + 1 := by
      simp [retail, pushChangelogTile, changelogPushTileStateChange]
    have owed : (retail (vacate state playerId) playerId nextTail).fruitsEaten =
        (vacate state playerId).fruitsEaten := rfl
    refine Or.inr ⟨Or.inl status, ?_⟩
    unfold vacate at pushed owed
    simp only [pushes, vacate]
    omega

/-- The visits so far have pushed three entries for every snake alive at most. -/
def Pushed (index : Nat) (state : TickState) : Prop :=
  pushes state.data ≤ 3 * (living state.manager index).card

theorem turn_pushed (turn : Turn state index (.ok next)) (pushed : Pushed index state) :
    Pushed (index + 1) next := by
  have earlier : living next.manager index = living state.manager index := by
    refine Finset.filter_congr fun p member => ?_
    rw [turn_slot turn (Nat.ne_of_lt (Finset.mem_range.mp member))]
  have split : living next.manager (index + 1) =
      if HasSnake (next.manager.players index).status then insert index (living next.manager index)
      else living next.manager index := by
    unfold living
    rw [Finset.range_add_one, Finset.filter_insert]
  have fresh : index ∉ living next.manager index := by simp [living]
  unfold Pushed at pushed ⊢
  rw [split]
  rcases turn_pushes turn with same | ⟨alive, grown⟩
  · have monotone : (living next.manager index).card ≤ (if HasSnake (next.manager.players index).status then
        insert index (living next.manager index) else living next.manager index).card := by
      split
      · exact Finset.card_le_card (Finset.subset_insert _ _)
      · exact Nat.le_refl _
    rw [earlier] at monotone ⊢
    omega
  · rw [if_pos alive, Finset.card_insert_of_notMem fresh, earlier]
    omega

/-! ## Two cells for every snake -/

/-- The player owns two cells of the map. -/
def TwoCells (width height : Nat) (state : TickState) (playerId : Nat) : Prop :=
  ∃ x, x.InGrid width height ∧ ∃ y, y.InGrid width height ∧ x ≠ y ∧
    Owns state.data.map playerId x ∧ Owns state.data.map playerId y

theorem twoCells_respected : Respected (TwoCells width height) := by
  rintro before after p spared ⟨x, xInside, y, yInside, distinct, xOwned, yOwned⟩
  exact ⟨x, xInside, y, yInside, distinct, (owns_of_tiles_eq (spared.kept x xOwned id)).mpr xOwned,
    (owns_of_tiles_eq (spared.kept y yOwned id)).mpr yOwned⟩

theorem whole_twoCells {snake : Snake width height}
    (whole : Whole state.data.map state.data.playerDataCache playerId snake) :
    TwoCells width height state playerId := by
  have tailMember := snake.mem_cells.mpr (Or.inl rfl)
  have headMember := snake.mem_cells.mpr (Or.inr snake.head_mem)
  refine ⟨_, tail_inside whole, _, head_inside whole, ?_, held_owned whole tailMember, held_owned whole headMember⟩
  intro same
  exact snake.tail_not_mem (same ▸ snake.head_mem)

/-- Every visit leaves its snake two cells at least, sound or not. -/
theorem turn_twoCells (sizes : Sizes width height) (within : index < maxPlayers)
    (midway : Midway width height settled index state) (turn : Turn state index (.ok next))
    (alive : HasSnake (next.manager.players index).status) : TwoCells width height next index := by
  have playable := playable_of_sizes sizes midway.sized
  have waiting := midway.waiting index (Nat.le_refl _) within
  cases turn with
  | idle snakeless => exact absurd alive snakeless
  | paused status =>
    obtain ⟨snake, held, lies, whole⟩ := waiting alive
    obtain rfl := whole status
    exact whole_twoCells lies
  | noRoom | left | crashed =>
    rw [set_players, if_pos rfl] at alive
    simp [HasSnake] at alive
  | spawned status site planted =>
    obtain ⟨snake, whole⟩ := spawned_whole midway.sized playable sizes.wide sizes.high
      (midway_unowned midway within (spawning_snakeless status)) site planted
    exact whole_twoCells whole
  | fed status fruit =>
    obtain ⟨snake, held, lies, -⟩ := waiting alive
    have inside := nextHead_inside midway.sized playable lies
    have headHeld := holding_rest lies.holding snake.head_mem
    obtain ⟨vacant, front⟩ := fed_owns lies fruit inside
    have behind := (fed_owns lies fruit (head_inside lies)).2
    refine ⟨_, inside, _, head_inside lies, ?_, front.mpr (Or.inr rfl), behind.mpr (Or.inl headHeld)⟩
    exact fun same => vacant (same ▸ headHeld)
  | advanced status way =>
    obtain ⟨snake, held, lies, -⟩ := waiting alive
    have inside := nextHead_inside midway.sized playable lies
    have front := (vacate_owns lies inside).mpr (Or.inr rfl)
    have behind := (vacate_owns lies (head_inside lies)).mpr (Or.inl snake.head_mem)
    refine ⟨_, inside, _, head_inside lies, ?_, front, behind⟩
    exact fun same => way_free lies way (same ▸ snake.head_mem)

/-! ## The end of the tick -/

/-- Sweeping a cell makes no other cell dead. -/
private theorem sweepTile_dead (data : ProcessPlayerData) (c c' : Coordinates)
    (dead : mapIsTileDead (sweepTile data c).map c' = true) : mapIsTileDead data.map c' = true := by
  unfold sweepTile at dead
  split at dead
  · rename_i swept
    by_cases here : c' = c
    · exact here ▸ swept
    · have kept : (mapSetTileEmpty data.map c).tiles c' = data.map.tiles c' :=
        mapSetTileState_other _ _ _ _ here
      simpa [mapIsTileDead, pushChangelogTile, kept] using dead
  · exact dead

private theorem sweepTiles_pushes (list : List Coordinates) (data : ProcessPlayerData) :
    (list.foldl sweepTile data).changelog.length ≤
      data.changelog.length + list.countP fun c => mapIsTileDead data.map c := by
  induction list generalizing data with
  | nil => exact Nat.le_refl _
  | cons c rest ih =>
    have later := ih (sweepTile data c)
    have fewer : (rest.countP fun c' => mapIsTileDead (sweepTile data c).map c') ≤
        rest.countP fun c' => mapIsTileDead data.map c' :=
      List.countP_mono_left fun c' _ dead => sweepTile_dead data c c' dead
    have here : (sweepTile data c).changelog.length =
        data.changelog.length + if mapIsTileDead data.map c then 1 else 0 := by
      unfold sweepTile
      split <;> simp [pushChangelogTile, changelogPushTileStateChange]
    rw [List.foldl_cons, List.countP_cons]
    omega

/-- The sweep pushes one entry for each dead cell at most. -/
theorem sweepDeadTiles_pushes (sized : data.map.width = width ∧ data.map.height = height) :
    (sweepDeadTiles data).changelog.length ≤ data.changelog.length +
      ((region width height).filter fun c => mapIsTileDead data.map c = true).card := by
  obtain ⟨rfl, rfl⟩ := sized
  have counted : ((region data.map.width data.map.height).filter fun c => mapIsTileDead data.map c = true).card =
      (cells data.map.width data.map.height).countP fun c => mapIsTileDead data.map c := by
    rw [region, ← List.toFinset_filter, List.toFinset_card_of_nodup (cells_nodup.filter _),
      List.countP_eq_length_filter]
  rw [counted]
  unfold sweepDeadTiles
  split
  · exact sweepTiles_pushes _ data
  · exact Nat.le_add_right _ _

private theorem spawnFruits_pushes (count : Nat) (playable : Playable data.map)
    (ran : spawnFruits count data rng = .ok (after, rng')) :
    after.changelog.length ≤ data.changelog.length + count := by
  have plants : ∀ left middle next, Planted middle next →
      middle.changelog.length + (left + 1) ≤ data.changelog.length + count →
        next.changelog.length + left ≤ data.changelog.length + count := by
    intro left middle next planted held
    have pushed := (planted_pushes planted).1
    omega
  obtain ⟨final, rng'', fruited, kept⟩ := spawnFruits_planted
    (fun left middle => middle.changelog.length + left ≤ data.changelog.length + count) plants count playable
    (Nat.le_refl _) rng
  rw [fruited] at ran
  cases ran
  exact kept

/-- The dead cells and the cells of the living share the map. -/
private theorem dead_and_living (midway : Midway width height (TwoCells width height) maxPlayers state) :
    ((region width height).filter fun c => mapIsTileDead state.data.map c = true).card +
      2 * (living state.manager maxPlayers).card ≤ width * height := by
  refine (occupancy (Owns state.data.map) (fun c => mapIsTileDead state.data.map c = true) ?_
    (fun _ _ _ => owns_unique) ?_).trans_eq region_card
  · intro p member
    obtain ⟨within, alive⟩ := Finset.mem_filter.mp member
    obtain ⟨x, xInside, y, yInside, apart⟩ := midway.visited p (Finset.mem_range.mp within) alive
    exact ⟨x, mem_region.mpr xInside, y, mem_region.mpr yInside, apart⟩
  · intro c p owned dead
    have type : (state.data.map.tiles c).type = .dead := by simpa [mapIsTileDead] using dead
    exact not_owns_of_type (by simp [type]) owned

private theorem living_card_le (manager : PlayerManager) (count : Nat) : (living manager count).card ≤ count := by
  have bound := Finset.card_filter_le (Finset.range count) fun p => HasSnake (manager.players p).status
  rwa [Finset.card_range] at bound

/-- A tick that starts with every snake a path of cells and no tile without a
snake returns, and has pushed no more entries than the changelog has room for. -/
theorem serverTick_changelog_fits (wide : minMapWidth ≤ server.gameState.map.width)
    (widthBound : server.gameState.map.width ≤ maxMapWidth)
    (high : minMapHeight ≤ server.gameState.map.height)
    (heightBound : server.gameState.map.height ≤ maxMapHeight)
    (snakes : ∀ p < maxPlayers, HasSnake (server.gameState.playerManager.players p).status →
      ∃ list, SnakeCells server.gameState.map server.playerDataCache p list)
    (others : ∀ p < maxPlayers, ¬ HasSnake (server.gameState.playerManager.players p).status →
      ∀ c, server.gameState.map.InBounds c → ¬ Owns server.gameState.map p c)
    (rng : Rng) :
    ∃ server' alive, serverTick server rng = .ok (server', alive) ∧
      server'.gameState.changelog.length ≤ maxChangelogSize := by
  have sizes := sizes_of_limits wide widthBound high heightBound
  have start : Midway server.gameState.map.width server.gameState.map.height
      (TwoCells server.gameState.map.width server.gameState.map.height) 0 (server.beginTick rng) := by
    refine ⟨⟨rfl, rfl⟩, ?_, fun _ before => absurd before (Nat.not_lt_zero _), ?_⟩
    · intro p within c inside owned
      by_contra snakeless
      exact others p within snakeless c inside owned
    · intro p _ within alive
      obtain ⟨list, snakeCells⟩ := snakes p within alive
      obtain ⟨snake, whole⟩ := snakeCells_whole snakeCells
      exact ⟨snake, snake.cells, whole, fun _ => rfl⟩
  have unguarded : Guarded forEachSlot (fun _ _ => True) (server.beginTick rng) (List.range maxPlayers) :=
    guarded_always (fun _ _ => trivial) _ _
  obtain ⟨state, visited, midway, pushed⟩ := playerManagerForEach_carries Pushed sizes twoCells_respected
    (fun index state next within midway _ turn alive => turn_twoCells sizes within midway turn alive)
    (fun index state next turn pushed => turn_pushed turn pushed) start (Nat.zero_le _) unguarded
  have playable := playable_of_sizes sizes midway.sized
  have swept := sweepDeadTiles_undisturbed state.data
  obtain ⟨data, rng', fruited, -⟩ := spawnFruits_undisturbed state.data.fruitsEaten (sweepDeadTiles state.data)
    (playable_sameSize swept.size playable) state.rng
  have returned : serverTick server rng = .ok (Server.tick
      { gameState := { server.gameState with
          changelog := data.changelog, map := data.map, playerManager := state.manager }
        playerDataCache := data.playerDataCache }, !data.noPlayerAlive) := by
    simp only [serverTick, serverTickLocked, visited, fruited, bind, Except.bind]
  refine ⟨_, _, returned, ?_⟩
  change data.changelog.length ≤ maxChangelogSize
  have sweeping := sweepDeadTiles_pushes midway.sized
  have fruits := spawnFruits_pushes _ (playable_sameSize swept.size playable) fruited
  have shared := dead_and_living midway
  have few := living_card_le state.manager maxPlayers
  have area := Nat.mul_le_mul widthBound heightBound
  unfold Pushed pushes at pushed
  unfold maxChangelogSize
  omega

theorem hungrySnake_cells : SnakeCells hungrySnake.gameState.map hungrySnake.playerDataCache 0 [⟨2, 1⟩, ⟨2, 2⟩] where
  length := by decide
  nodup := by decide
  inside := by decide
  tail := rfl
  head := rfl
  linked := List.isChain_pair.mpr ⟨.right, rfl⟩
  owned := by
    intro i c position
    match i with
    | 0 =>
      cases position
      decide
    | 1 =>
      cases position
      decide
    | i + 2 => cases position
  complete := by
    intro c _ owned
    by_contra outside
    simp only [List.mem_cons, List.not_mem_nil, or_false, not_or] at outside
    simp only [Owns, hungrySnake, outside, if_false] at owned
    split at owned <;> simp at owned

theorem serverTick_changelog_fits_hungrySnake :
    ∃ server' alive, serverTick hungrySnake { draws := fun _ => 5, used := 0 } = .ok (server', alive) ∧
      server'.gameState.changelog.length ≤ maxChangelogSize := by
  refine serverTick_changelog_fits (by decide) (by decide) (by decide) (by decide) ?_ ?_ _
  · intro p _ alive
    have here : p = 0 := by
      by_contra other
      simp [hungrySnake, other, HasSnake] at alive
    exact here ▸ ⟨_, hungrySnake_cells⟩
  · intro p _ snakeless c _ owned
    have claimed : (hungrySnake.gameState.map.tiles c).player = 0 := by
      simp only [hungrySnake]
      split
      · rfl
      · split
        · rfl
        · split <;> rfl
    have here : p = 0 := owned.2.symm.trans claimed
    exact snakeless (here ▸ Or.inl rfl)

end SnakePosix.ChangelogBound
