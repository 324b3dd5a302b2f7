import SnakePosix.RandomSearch
import SnakePosix.TickTurns

/-! How snakes come onto the map and leave it. A new snake takes two neighboring
empty cells and finds them whenever the map has some; a dead one leaves with
everything its head hangs together with. -/
namespace SnakePosix.SnakePlacement
open MapProofs RandomSearch TickTurns Torus

variable {map : Map} {data after : ProcessPlayerData} {playerId player : Nat} {head tail start c : Coordinates}

/-! ## Leaving -/

/-- The removal turns exactly the player's tiles that are reached from the start into
dead ones, and changes no more of them than their type. -/
theorem mapMarkPlayerAsDead_removes (map : Map) (wide : 1 ≤ map.width) (high : 1 ≤ map.height)
    (countable : map.width * map.height < 2 ^ 32) (player : Nat) (start : Coordinates)
    (inside : map.InBounds start) :
    ∃ final, mapMarkPlayerAsDead map.searchDepth map player start = some final ∧ SameSize final map ∧
      (∀ c, (final.tiles c).type = .dead ↔
        (map.tiles c).type = .dead ∨ PlayerReaches map player start c) ∧
      (∀ c, ¬ PlayerReaches map player start c → final.tiles c = map.tiles c) ∧
      ∀ c, (final.tiles c).order = (map.tiles c).order ∧ (final.tiles c).player = (map.tiles c).player := by
  obtain ⟨final, ran, size, dead, kept⟩ :=
    mapMarkPlayerAsDead_exact (fitsWord_of_cells wide high countable) inside player
  refine ⟨final, ran, size, fun c => ?_, kept, fun c => ?_⟩
  · by_cases reached : PlayerReaches map player start c
    · simp [dead c reached, reached]
    · simp [kept c reached, reached]
  · by_cases reached : PlayerReaches map player start c
    · rw [dead c reached]
      exact ⟨rfl, rfl⟩
    · rw [kept c reached]
      exact ⟨rfl, rfl⟩

/-- A map of three by two cells on which the player in slot 7 holds the two corners
at the ends of the upper row, and another player what is between them. -/
def wrappedBody : Map where
  tiles := fun c =>
    if c = ⟨0, 0⟩ ∨ c = ⟨0, 2⟩ then { order := 3, type := .player, player := 7 }
    else if c = ⟨0, 1⟩ then { order := 5, type := .player, player := 2 }
    else { order := 0, type := .empty, player := 0 }
  width := 3
  height := 2

theorem mapMarkPlayerAsDead_removes_wrappedBody :
    ∃ final, mapMarkPlayerAsDead wrappedBody.searchDepth wrappedBody 7 ⟨0, 0⟩ = some final ∧
      (final.tiles ⟨0, 2⟩).type = .dead ∧ (final.tiles ⟨0, 1⟩).type = .player := by
  obtain ⟨final, ran, -, dead, kept, -⟩ := mapMarkPlayerAsDead_removes wrappedBody (by decide)
    (by decide) (by decide) 7 ⟨0, 0⟩ (by decide)
  have around : PlayerReaches wrappedBody 7 ⟨0, 0⟩ ⟨0, 2⟩ :=
    Exploration.reaches_step ⟨by decide, by decide⟩ ⟨.left, by decide⟩
      (Exploration.reaches_self ⟨by decide, by decide⟩)
  have between : ¬ PlayerReaches wrappedBody 7 ⟨0, 0⟩ ⟨0, 1⟩ := fun path =>
    absurd (Exploration.reaches_live path).2 (by decide)
  refine ⟨final, ran, (dead _).mpr (Or.inr around), ?_⟩
  rw [kept _ between]
  rfl

/-! ## Arriving -/

/-- Two neighboring empty cells. -/
def EmptyPair (map : Map) (c c' : Coordinates) : Prop :=
  map.InBounds c ∧ TorusAdjacent map.width map.height c c' ∧
    (map.tiles c).type = .empty ∧ (map.tiles c').type = .empty

/-- The predicate of the search holds where the search for an empty neighbor
succeeds. -/
theorem emptyWithEmptyNeighbor_iff (fits : FitsWord map.width map.height) (inside : map.InBounds c) :
    mapTileIsEmptyWithEmptyNeighborPredicate map c = true ↔ ∃ c', EmptyPair map c c' := by
  constructor
  · intro suitable
    unfold mapTileIsEmptyWithEmptyNeighborPredicate at suitable
    split at suitable
    · rename_i empty
      obtain ⟨⟨c', direction⟩, found⟩ := Option.isSome_iff_exists.mp suitable
      obtain ⟨_, step, emptyNeighbor⟩ := emptyNeighbor_found found
      rw [mapMoveInDirection_eq fits inside] at step
      exact ⟨c', inside, ⟨direction, step⟩, by simpa [mapIsTileEmpty] using empty, emptyNeighbor⟩
    · cases suitable
  · rintro ⟨c', _, edge, empty, emptyNeighbor⟩
    obtain ⟨direction, member, rfl⟩ := torusAdjacent_iff.mp edge
    rw [← mapMoveInDirection_eq fits inside] at emptyNeighbor
    have here : mapIsTileEmpty map c = true := by simp [mapIsTileEmpty, empty]
    unfold mapTileIsEmptyWithEmptyNeighborPredicate
    rw [if_pos here, mapFindEmptyNeighbor, List.findSome?_isSome_iff]
    exact ⟨direction, member, by simp [emptyNeighbor]⟩

/-- What a successful `spawn_player` has done. -/
structure Spawned (before : ProcessPlayerData) (playerId : Nat) (player : Player)
    (head tail : Coordinates) (after : ProcessPlayerData) : Prop where
  pair : EmptyPair before.map head tail
  apart : head ≠ tail
  size : SameSize after.map before.map
  headTile : after.map.tiles head = { order := 1, type := .player, player := playerId }
  tailTile : after.map.tiles tail = { order := 0, type := .player, player := playerId }
  others : ∀ c, c ≠ head → c ≠ tail → after.map.tiles c = before.map.tiles c
  cachedHead : after.playerDataCache.head playerId = head
  cachedTail : after.playerDataCache.tail playerId = tail
  otherCaches : ∀ p, p ≠ playerId → after.playerDataCache.head p = before.playerDataCache.head p ∧
    after.playerDataCache.tail p = before.playerDataCache.tail p
  ahead : mapMoveInDirection before.map tail player.direction = head
  playing : player.status = .playing

theorem placePlayer_spawned (fits : FitsWord data.map.width data.map.height) (wide : 2 ≤ data.map.width)
    (high : 2 ≤ data.map.height) (site : SpawnSite data.map head tail direction) (playerId : Nat) :
    Spawned data playerId { status := .playing, direction := directionGetOpposite direction } head tail
      (placePlayer data playerId head tail) := by
  have step : tail = torusMove data.map.width data.map.height head direction := by
    rw [← mapMoveInDirection_eq fits site.inside]
    exact site.step
  have apart : head ≠ tail := fun same => torusMove_ne wide high site.inside direction (same.trans step).symm
  have tailInside : data.map.InBounds tail := step ▸ torusMove_inGrid site.inside direction
  refine ⟨⟨site.inside, ⟨direction, step⟩, site.headEmpty, site.tailEmpty⟩, apart, ⟨rfl, rfl⟩, ?_, ?_, ?_, ?_, ?_,
    ?_, ?_, rfl⟩
  · exact (mapSetTileState_other _ _ _ _ apart).trans (mapSetTileState_same _ _ _)
  · exact mapSetTileState_same _ _ _
  · intro c notHead notTail
    exact (mapSetTileState_other _ _ _ _ notTail).trans (mapSetTileState_other _ _ _ _ notHead)
  · exact if_pos rfl
  · exact if_pos rfl
  · exact fun p other => ⟨if_neg other, if_neg other⟩
  · rw [mapMoveInDirection_eq fits tailInside, step]
    exact torusMove_opposite site.inside direction

/-- Where the spawn fails no two neighboring cells are empty: the second search
always finds what the first one saw. -/
private theorem spawnPlayer_failed (fits : FitsWord data.map.width data.map.height)
    (wide : 1 ≤ data.map.width) (high : 1 ≤ data.map.height)
    (failed : spawnPlayer data playerId rng = .ok (none, data, rng')) :
    ¬ ∃ c c', EmptyPair data.map c c' := by
  obtain ⟨found, drawn, searched, matched⟩ := mapFindRandomMatchingPredicate_spec fits wide high
    mapTileIsEmptyWithEmptyNeighborPredicate rng
  unfold spawnPlayer at failed
  rw [searched] at failed
  cases found with
  | none =>
    rintro ⟨c, c', pair⟩
    have unmet := mapFindRandomMatchingPredicate_missed fits wide high searched pair.1
    have met := (emptyWithEmptyNeighbor_iff fits pair.1).mpr ⟨c', pair⟩
    exact absurd met (by simp [unmet])
  | some head =>
    have suitable := (matched head rfl).2
    unfold mapTileIsEmptyWithEmptyNeighborPredicate at suitable
    split at suitable
    · obtain ⟨neighbor, second⟩ := Option.isSome_iff_exists.mp suitable
      dsimp only at failed
      rw [second] at failed
      cases failed
    · cases suitable

/-- A player is spawned exactly when the map has two neighboring empty cells; a
spawned snake lies on two such cells and heads away from its tail, and a failed
spawn has changed nothing. -/
theorem spawnPlayer_places (data : ProcessPlayerData) (wide : 3 ≤ data.map.width) (high : 3 ≤ data.map.height)
    (countable : data.map.width * data.map.height < 2 ^ 32) (playerId : Nat) (rng : Rng) :
    ∃ result after rng', spawnPlayer data playerId rng = .ok (result, after, rng') ∧
      (result.isSome ↔ ∃ c c', EmptyPair data.map c c') ∧
      (result = none → after = data) ∧
      ∀ player, result = some player → ∃ head tail, Spawned data playerId player head tail after := by
  have wide' : 1 ≤ data.map.width := Nat.le_trans (by decide) wide
  have high' : 1 ≤ data.map.height := Nat.le_trans (by decide) high
  have fits := fitsWord_of_cells wide' high' countable
  rcases spawnPlayer_cases ⟨fits, wide', high'⟩ playerId rng with
    ⟨rng', failed⟩ | ⟨head, tail, direction, rng', site, placed⟩
  · have room := spawnPlayer_failed fits wide' high' failed
    exact ⟨none, data, rng', failed, ⟨nofun, fun pair => absurd pair room⟩, fun _ => rfl, nofun⟩
  · have spawned := placePlayer_spawned fits (Nat.le_of_succ_le wide) (Nat.le_of_succ_le high) site playerId
    refine ⟨_, _, rng', placed, ?_, nofun, ?_⟩
    · exact ⟨fun _ => ⟨head, tail, spawned.pair⟩, fun _ => rfl⟩
    · rintro player ⟨⟩
      exact ⟨head, tail, spawned⟩

/-- A map of three by three cells with room for one snake, across the left edge. -/
def oneGap : ProcessPlayerData where
  changelog := []
  map :=
    { tiles := fun c =>
        { order := 0, type := if c = ⟨1, 0⟩ ∨ c = ⟨1, 2⟩ then .empty else .wall, player := 0 }
      width := 3
      height := 3 }
  playerDataCache := { head := fun _ => ⟨0, 0⟩, tail := fun _ => ⟨0, 0⟩ }
  fruitsEaten := 0
  playerDied := false
  noPlayerAlive := true

theorem spawnPlayer_places_oneGap :
    ∃ player after rng' head tail, spawnPlayer oneGap 4 { draws := id, used := 0 } =
      .ok (some player, after, rng') ∧ Spawned oneGap 4 player head tail after := by
  obtain ⟨result, after, rng', ran, some_iff, -, placed⟩ := spawnPlayer_places oneGap
    (by decide) (by decide) (by decide) 4 { draws := id, used := 0 }
  have pair : EmptyPair oneGap.map ⟨1, 0⟩ ⟨1, 2⟩ := ⟨by decide, ⟨.left, by decide⟩, by decide, by decide⟩
  obtain ⟨player, rfl⟩ := Option.isSome_iff_exists.mp (some_iff.mpr ⟨_, _, pair⟩)
  obtain ⟨head, tail, spawned⟩ := placed player rfl
  exact ⟨player, after, rng', head, tail, ran, spawned⟩

end SnakePosix.SnakePlacement
