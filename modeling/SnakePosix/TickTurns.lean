import SnakePosix.MapProofs
import SnakePosix.Server.Tick

/-! Everything one visit of `player_manager_for_each` can do. `Turn` lists the
outcomes with what the callback had seen when it chose each; the later proofs
go by its cases and look at no branch of the callback again. -/
namespace SnakePosix.TickTurns
open MapProofs Torus Exploration

/-- The statuses under which the game keeps a snake on the map. -/
def HasSnake (status : PlayerStatus) : Prop :=
  status = .playing ∨ status = .paused ∨ status = .disconnecting

/-- The statuses whose next turn puts a snake on the map. -/
def Spawning (status : PlayerStatus) : Prop := status = .respawning ∨ status = .joining

instance : DecidablePred HasSnake := fun _ => inferInstanceAs (Decidable (_ ∨ _))

instance : DecidablePred Spawning := fun _ => inferInstanceAs (Decidable (_ ∨ _))

/-- A map whose searches come back. -/
structure Playable (map : Map) : Prop where
  fits : FitsWord map.width map.height
  wide : 0 < map.width
  high : 0 < map.height

variable {state : TickState} {data : ProcessPlayerData} {playerId : Nat} {map : Map}

/-! ## The pieces of a turn -/

/-- One player's tiles, as far as they hang together with a cell, have become
dead ones. -/
structure Removed (before : Map) (player : Nat) (start : Coordinates) (after : Map) : Prop where
  size : SameSize after before
  dead : ∀ c, PlayerReaches before player start c → after.tiles c = { before.tiles c with type := .dead }
  kept : ∀ c, ¬ PlayerReaches before player start c → after.tiles c = before.tiles c

theorem killPlayer_removed (playable : Playable data.map)
    (inside : data.map.InBounds (data.playerDataCache.head playerId)) (player : Player) :
    ∃ after, Removed data.map playerId (data.playerDataCache.head playerId) after ∧
      killPlayer data playerId player =
        .ok ({ data with map := after, playerDied := true }, { player with status := .dead }) := by
  obtain ⟨after, ran, size, dead, kept⟩ := mapMarkPlayerAsDead_exact playable.fits inside playerId
  refine ⟨after, ⟨size, dead, kept⟩, ?_⟩
  unfold killPlayer playerDataCacheGetHead
  dsimp only
  rw [ran]

/-- At most one empty cell gets a fruit. -/
inductive Planted (data : ProcessPlayerData) : ProcessPlayerData → Prop where
  | full : Planted data data
  | fruit (inside : data.map.InBounds c) (empty : (data.map.tiles c).type = .empty) :
    Planted data (placeFruit data c)

theorem spawnFruit_planted (playable : Playable data.map) (rng : Rng) :
    ∃ after rng', spawnFruit data rng = .ok (after, rng') ∧ Planted data after := by
  obtain ⟨found, rng', searched, matched⟩ := mapFindRandomMatchingPredicate_spec playable.fits
    playable.wide playable.high mapTileIsEmptyPredicate rng
  unfold spawnFruit
  rw [searched]
  cases found with
  | none => exact ⟨data, rng', rfl, .full⟩
  | some fruit =>
    obtain ⟨inside, empty⟩ := matched fruit rfl
    exact ⟨_, rng', rfl, .fruit inside (by simpa [mapTileIsEmptyPredicate, mapIsTileEmpty] using empty)⟩

/-- Two neighboring empty cells, the second in the direction given. -/
structure SpawnSite (map : Map) (head tail : Coordinates) (direction : Direction) : Prop where
  inside : map.InBounds head
  declared : direction ∈ neighborDirections
  step : tail = mapMoveInDirection map head direction
  headEmpty : (map.tiles head).type = .empty
  tailEmpty : (map.tiles tail).type = .empty

theorem spawnPlayer_cases (playable : Playable data.map) (playerId : Nat) (rng : Rng) :
    (∃ rng', spawnPlayer data playerId rng = .ok (none, data, rng')) ∨
      ∃ head tail direction rng', SpawnSite data.map head tail direction ∧
        spawnPlayer data playerId rng =
          .ok (some { status := .playing, direction := directionGetOpposite direction },
            placePlayer data playerId head tail, rng') := by
  obtain ⟨found, rng', searched, matched⟩ := mapFindRandomMatchingPredicate_spec playable.fits
    playable.wide playable.high mapTileIsEmptyWithEmptyNeighborPredicate rng
  unfold spawnPlayer
  rw [searched]
  cases found with
  | none => exact Or.inl ⟨rng', rfl⟩
  | some head =>
    obtain ⟨inside, suitable⟩ := matched head rfl
    unfold mapTileIsEmptyWithEmptyNeighborPredicate at suitable
    split at suitable
    · rename_i empty
      obtain ⟨⟨tail, direction⟩, neighbor⟩ := Option.isSome_iff_exists.mp suitable
      obtain ⟨declared, step, tailEmpty⟩ := emptyNeighbor_found neighbor
      refine Or.inr ⟨head, tail, direction, rng', ⟨inside, declared, step, ?_, tailEmpty⟩, ?_⟩
      · simpa [mapIsTileEmpty] using empty
      · dsimp only
        rw [neighbor]
    · cases suitable

/-! ## A turn -/

/-- The cell in front of a snake. -/
def nextHead (state : TickState) (playerId : Nat) : Coordinates :=
  mapMoveInDirection state.data.map (state.data.playerDataCache.head playerId)
    (state.manager.players playerId).direction

/-- Why a snake may enter the cell in front of it and give up its tail: the cell
is empty, or it is the snake's own tail, or it is the tail of a snake that has
yet to move this tick and looks as if it will. -/
inductive Way (state : TickState) (playerId : Nat) : Prop where
  | empty (vacant : (state.data.map.tiles (nextHead state playerId)).type = .empty)
  | ownTail (owned : Owns state.data.map playerId (nextHead state playerId))
    (tail : state.data.playerDataCache.tail playerId = nextHead state playerId)
  | otherTail (other : Nat) (owned : Owns state.data.map other (nextHead state playerId))
    (later : playerId < other)
    (tail : state.data.playerDataCache.tail other = nextHead state playerId)
    (running : (state.manager.players other).status ≠ .paused)
    (moves : otherTailWillMove state other = true)

/-- The head has moved and the old tail cell is given up. -/
def vacate (state : TickState) (playerId : Nat) : ProcessPlayerData :=
  clearPlayerTail (movePlayerHead state.data playerId (nextHead state playerId)) playerId
    (state.data.playerDataCache.tail playerId)

/-- The tail is found again and pushed. -/
def retail (data : ProcessPlayerData) (playerId : Nat) (nextTail : Coordinates) : ProcessPlayerData :=
  pushChangelogTile { data with
    playerDataCache := playerDataCacheSetTail data.playerDataCache playerId nextTail } nextTail

/-- The outcomes of one visit. -/
inductive Turn (state : TickState) (playerId : Nat) : Except Halt TickState → Prop where
  | idle (snakeless : ¬ HasSnake (state.manager.players playerId).status)
    (waiting : ¬ Spawning (state.manager.players playerId).status) :
    Turn state playerId (.ok state)
  | paused (status : (state.manager.players playerId).status = .paused) :
    Turn state playerId (.ok { state with data := { state.data with noPlayerAlive := false } })
  | noRoom (status : Spawning (state.manager.players playerId).status) (rng : Rng) :
    Turn state playerId (.ok
      { manager := state.manager.set playerId { state.manager.players playerId with status := .dead }
        data := state.data
        rng })
  | spawned (status : Spawning (state.manager.players playerId).status)
    (site : SpawnSite state.data.map head tail direction)
    (planted : Planted (placePlayer state.data playerId head tail) placed)
    (respawned : (state.manager.players playerId).status = .respawning →
      placed = placePlayer state.data playerId head tail) (rng : Rng) :
    Turn state playerId (.ok
      { manager := state.manager.set playerId
          { status := .playing, direction := directionGetOpposite direction }
        data := { placed with noPlayerAlive := false }
        rng })
  | left (status : (state.manager.players playerId).status = .disconnecting)
    (removed : Removed state.data.map playerId (state.data.playerDataCache.head playerId) after) :
    Turn state playerId (.ok { state with
      manager := state.manager.set playerId
        { state.manager.players playerId with status := .notConnected }
      data := { state.data with map := after, playerDied := true } })
  | crashed (status : (state.manager.players playerId).status = .playing)
    (blocked : ¬ Way state playerId)
    (unfed : (state.data.map.tiles (nextHead state playerId)).type ≠ .fruit)
    (removed : Removed state.data.map playerId (state.data.playerDataCache.head playerId) after) :
    Turn state playerId (.ok { state with
      manager := state.manager.set playerId { state.manager.players playerId with status := .dead }
      data := { state.data with map := after, playerDied := true } })
  | fed (status : (state.manager.players playerId).status = .playing)
    (fruit : (state.data.map.tiles (nextHead state playerId)).type = .fruit) :
    Turn state playerId (.ok (feedPlayer state playerId (nextHead state playerId)))
  | advanced (status : (state.manager.players playerId).status = .playing) (way : Way state playerId)
    (found : mapFindPlayerNeighborWithLowestOrder (vacate state playerId).map playerId
      (state.data.playerDataCache.tail playerId) = some nextTail) :
    Turn state playerId (.ok { state with
      data := { retail (vacate state playerId) playerId nextTail with noPlayerAlive := false } })
  | stuck (status : (state.manager.players playerId).status = .playing) (way : Way state playerId)
    (missed : mapFindPlayerNeighborWithLowestOrder (vacate state playerId).map playerId
      (state.data.playerDataCache.tail playerId) = none) :
    Turn state playerId (.error .nextTailNotFound)

private theorem advance_turn (status : (state.manager.players playerId).status = .playing)
    (way : Way state playerId) :
    Turn state playerId (advancePlayer state playerId (nextHead state playerId)) := by
  cases found : mapFindPlayerNeighborWithLowestOrder (vacate state playerId).map playerId
      (state.data.playerDataCache.tail playerId) with
  | none =>
    have halted : advancePlayer state playerId (nextHead state playerId) = .error .nextTailNotFound := by
      unfold advancePlayer movePlayerTail
      simp only [vacate] at found
      simp only [movePlayerHead, pushChangelogTile, playerDataCacheGetTail, playerDataCacheSetHead] at found ⊢
      rw [found]
      rfl
    rw [halted]
    exact .stuck status way found
  | some nextTail =>
    have moved : advancePlayer state playerId (nextHead state playerId) = .ok { state with
        data := { retail (vacate state playerId) playerId nextTail with noPlayerAlive := false } } := by
      unfold advancePlayer movePlayerTail
      simp only [vacate] at found
      simp only [movePlayerHead, pushChangelogTile, playerDataCacheGetTail, playerDataCacheSetHead] at found ⊢
      rw [found]
      rfl
    rw [moved]
    exact .advanced status way found

private theorem crash_turn (playable : Playable state.data.map)
    (inside : state.data.map.InBounds (state.data.playerDataCache.head playerId))
    (status : (state.manager.players playerId).status = .playing) (blocked : ¬ Way state playerId)
    (unfed : (state.data.map.tiles (nextHead state playerId)).type ≠ .fruit) :
    Turn state playerId (crashPlayer state playerId) := by
  obtain ⟨after, removed, killed⟩ := killPlayer_removed playable inside (state.manager.players playerId)
  unfold crashPlayer
  rw [killed]
  exact .crashed status blocked unfed removed

/-- The tile in front of a snake is the tail of this player's snake, which gives it up. -/
def TailLeaves (state : TickState) (playerId other : Nat) : Prop :=
  if playerId = other then state.data.playerDataCache.tail playerId = nextHead state playerId
  else
    state.data.playerDataCache.tail other = nextHead state playerId ∧ playerId < other ∧
      (state.manager.players other).status ≠ .paused ∧ otherTailWillMove state other = true

instance (state : TickState) (playerId other : Nat) : Decidable (TailLeaves state playerId other) := by
  unfold TailLeaves
  infer_instance

/-- A snake that has run into another player's tile goes on only over the tail of
a snake still to move. -/
private theorem way_player (type : (state.data.map.tiles (nextHead state playerId)).type = .player) :
    Way state playerId ↔ TailLeaves state playerId (state.data.map.tiles (nextHead state playerId)).player := by
  unfold TailLeaves
  constructor
  · intro way
    cases way with
    | empty vacant => rw [type] at vacant; cases vacant
    | ownTail owned tail => rw [if_pos owned.2.symm]; exact tail
    | otherTail other owned later tail running moves =>
      obtain rfl := owned.2
      rw [if_neg (Nat.ne_of_lt later)]
      exact ⟨tail, later, running, moves⟩
  · split
    · rename_i own
      exact fun tail => .ownTail ⟨type, own.symm⟩ tail
    · exact fun ⟨tail, later, running, moves⟩ => .otherTail _ ⟨type, rfl⟩ later tail running moves

theorem way_iff : Way state playerId ↔
    (state.data.map.tiles (nextHead state playerId)).type = .empty ∨
      (state.data.map.tiles (nextHead state playerId)).type = .player ∧
        TailLeaves state playerId (state.data.map.tiles (nextHead state playerId)).player := by
  constructor
  · intro way
    have type : (state.data.map.tiles (nextHead state playerId)).type = .empty ∨
        (state.data.map.tiles (nextHead state playerId)).type = .player := by
      cases way with
      | empty vacant => exact Or.inl vacant
      | ownTail owned => exact Or.inr owned.1
      | otherTail _ owned => exact Or.inr owned.1
    exact type.imp_right fun type => ⟨type, (way_player type).mp way⟩
  · rintro (vacant | ⟨type, clear⟩)
    · exact .empty vacant
    · exact (way_player type).mpr clear

instance (state : TickState) (playerId : Nat) : Decidable (Way state playerId) :=
  decidable_of_iff _ way_iff.symm

theorem coordinatesEqual_iff : coordinatesEqual c c' = true ↔ c = c' := by
  cases c
  cases c'
  simp [coordinatesEqual]

private theorem playing_turn (playable : Playable state.data.map)
    (inside : state.data.map.InBounds (state.data.playerDataCache.head playerId))
    (status : (state.manager.players playerId).status = .playing) :
    Turn state playerId (processPlayingPlayer state playerId (state.manager.players playerId)) := by
  have advance := fun way : Way state playerId => advance_turn status way
  have crash := fun blocked unfed => crash_turn playable inside status blocked unfed
  have next : mapMoveInDirection state.data.map (state.data.playerDataCache.head playerId)
      (state.manager.players playerId).direction = nextHead state playerId := rfl
  unfold processPlayingPlayer
  simp only [playerDataCacheGetHead, mapGetTileState, playerDataCacheGetTail, next]
  cases type : (state.data.map.tiles (nextHead state playerId)).type with
  | empty => exact advance (.empty type)
  | fruit => exact .fed status type
  | player =>
    have way := way_player type
    unfold TailLeaves at way
    have unfed : (state.data.map.tiles (nextHead state playerId)).type ≠ .fruit := by simp [type]
    dsimp only
    split
    · rename_i own
      rw [if_pos own] at way
      rw [← own]
      split
      · rename_i same
        exact advance (way.mpr (coordinatesEqual_iff.mp same).symm)
      · rename_i apart
        exact crash (fun clear => apart (coordinatesEqual_iff.mpr (way.mp clear).symm)) unfed
    · rename_i foreign
      rw [if_neg foreign] at way
      split
      · rename_i closed
        refine crash (fun clear => ?_) unfed
        obtain ⟨tail, later, running, _⟩ := way.mp clear
        rcases closed with apart | earlier | pausing
        · exact apart (coordinatesEqual_iff.mpr tail.symm)
        · omega
        · exact running (by simpa [isPlayerPaused, playerManagerGetPlayerState] using pausing)
      · rename_i clear
        simp only [not_or, not_not] at clear
        have later : playerId < (state.data.map.tiles (nextHead state playerId)).player := by omega
        have running : (state.manager.players (state.data.map.tiles (nextHead state playerId)).player).status
            ≠ .paused := by
          simpa [isPlayerPaused, playerManagerGetPlayerState] using clear.2.2
        split
        · rename_i moves
          exact advance (way.mpr ⟨(coordinatesEqual_iff.mp clear.1).symm, later, running, moves⟩)
        · rename_i stays
          exact crash (fun clear => stays (way.mp clear).2.2.2) unfed
  | wall | dead | undeclared =>
    refine crash (fun way => ?_) (by simp [type])
    cases way with
    | empty vacant => rw [type] at vacant; cases vacant
    | ownTail owned tail => rw [Owns, type] at owned; cases owned.1
    | otherTail other owned => rw [Owns, type] at owned; cases owned.1

private theorem spawning_turn (playable : Playable state.data.map)
    (status : Spawning (state.manager.players playerId).status) :
    Turn state playerId (processSpawningPlayer state playerId (state.manager.players playerId)) := by
  unfold processSpawningPlayer
  rcases spawnPlayer_cases playable playerId state.rng with
    ⟨rng, failed⟩ | ⟨head, tail, direction, rng, site, placed⟩
  · rw [failed]
    exact .noRoom status rng
  · rw [placed]
    by_cases joining : (state.manager.players playerId).status = .joining
    · have sizes : Playable (placePlayer state.data playerId head tail).map :=
        ⟨playable.fits, playable.wide, playable.high⟩
      obtain ⟨after, rng', fruited, planted⟩ := spawnFruit_planted sizes rng
      have respawned : (state.manager.players playerId).status = .respawning →
          after = placePlayer state.data playerId head tail := by
        rw [joining]
        exact nofun
      simp only [joining, ↓reduceIte, bind, Except.bind, fruited]
      exact .spawned status site planted respawned rng'
    · simp only [joining, ↓reduceIte, bind, Except.bind]
      exact .spawned status site .full (fun _ => rfl) rng

/-- One visit ends in one of the outcomes. Only a snake that is about to move or
to be removed needs its cached head on the map. -/
theorem forEachSlot_turn (playable : Playable state.data.map)
    (inside : HasSnake (state.manager.players playerId).status →
      state.data.map.InBounds (state.data.playerDataCache.head playerId)) :
    Turn state playerId (forEachSlot state playerId) := by
  unfold forEachSlot serverTickProcessPlayer
  cases status : (state.manager.players playerId).status with
  | respawning =>
    simp only [status, reduceCtorEq, ↓reduceIte]
    exact spawning_turn playable (Or.inl status)
  | joining =>
    simp only [status, reduceCtorEq, ↓reduceIte]
    exact spawning_turn playable (Or.inr status)
  | playing =>
    simp only [status, reduceCtorEq, ↓reduceIte]
    exact playing_turn playable (inside (by simp [HasSnake, status])) status
  | paused =>
    simp only [status, reduceCtorEq, ↓reduceIte]
    exact .paused status
  | disconnecting =>
    obtain ⟨after, removed, killed⟩ := killPlayer_removed playable
      (inside (by simp [HasSnake, status])) (state.manager.players playerId)
    simp only [status, reduceCtorEq, ↓reduceIte, processDisconnectingPlayer, killed]
    exact .left status removed
  | notConnected | dead | undeclared =>
    simp only [status, reduceCtorEq, ↓reduceIte]
    exact .idle (by simp [HasSnake, status]) (by simp [Spawning, status])

end SnakePosix.TickTurns
