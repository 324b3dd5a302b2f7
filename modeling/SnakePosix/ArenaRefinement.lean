import SnakePosix.Arena
import SnakePosix.Libsnake.SocketMessage
import SnakePosix.TileCensus

/-! The server plays the game of the arena. As long as every visit is sound, each
tick gives every player one of the fates, and the cells a player owns, by their
orders, are the body this fate leaves. -/
namespace SnakePosix.ArenaRefinement
open MapProofs Torus TickTurns Trails ChangelogReplay Snakes GameRuns GuardedRuns SnakeRuns TileCensus Footprints Simulations

variable {width height playerId player index p : Nat} {start state next : TickState} {game : Game} {map : Map}
  {data after : ProcessPlayerData} {snake : Snake width height} {held body : List Coordinates} {c : Coordinates}

/-! ## The body on the map -/

theorem mem_snakeBody : c ∈ snakeBody map player ↔ map.InBounds c ∧ Owns map player c := by
  unfold snakeBody
  rw [List.mem_insertionSort, List.mem_filter, Torus.mem_cells, decide_eq_true_iff]
  exact Iff.rfl

theorem snakeBody_unowned (unowned : ∀ c, map.InBounds c → ¬ Owns map player c) : snakeBody map player = [] :=
  List.eq_nil_iff_forall_not_mem.mpr fun c member =>
    unowned c (mem_snakeBody.mp member).1 (mem_snakeBody.mp member).2

/-- The orders of a whole snake tell its cells apart, from the tail to the head. -/
theorem snakeBody_whole {cache : PlayerDataCache} (sized : map.width = width ∧ map.height = height)
    (whole : Whole map cache player snake) : snakeBody map player = snake.cells := by
  obtain ⟨rfl, rfl⟩ := sized
  apply insertionSort_numbered whole.numbered
  · exact cells_nodup.filter _
  · intro c
    rw [List.mem_filter, Torus.mem_cells, decide_eq_true_iff]
    constructor
    · exact fun ⟨inside, owned⟩ => (whole.owned c inside).mp owned
    · exact fun member => ⟨whole.inside c member, held_owned whole member⟩

/-! ## Inside a tick -/

/-- The cells of one player, of a whole snake or of none. -/
structure Shaped (width height : Nat) (state : TickState) (p : Nat) (body : List Coordinates) : Prop where
  snake : HasSnake (state.manager.players p).status → ∃ snake : Snake width height,
    Whole state.data.map state.data.playerDataCache p snake ∧ snake.cells = body
  snakeless : ¬ HasSnake (state.manager.players p).status → body = []

/-- The players that have not had their visit are as they were, and their snakes lie
where they lay, but for tails that were taken. -/
structure Awaiting (width height : Nat) (start : TickState) (index : Nat) (state : TickState) : Prop where
  slot : ∀ p, index ≤ p → state.manager.players p = start.manager.players p
  lies : ∀ p, index ≤ p → p < maxPlayers → HasSnake (state.manager.players p).status →
    ∃ (snake : Snake width height) (held : List Coordinates), snake.cells = snakeBody start.data.map p ∧
      Lies state.data.map state.data.playerDataCache p snake held ∧
        ((state.manager.players p).status = .paused → held = snake.cells)

theorem awaiting_turn (awaiting : Awaiting width height start index state) (turn : Turn state index (.ok next)) :
    Awaiting width height start (index + 1) next where
  slot := fun p later => (turn_slot turn (Nat.ne_of_gt later)).trans (awaiting.slot p (Nat.le_of_lt later))
  lies := by
    intro p later within alive
    have other : p ≠ index := Nat.ne_of_gt later
    rw [turn_slot turn other] at alive ⊢
    obtain ⟨snake, held, cells, lies, paused⟩ := awaiting.lies p (Nat.le_of_lt later) within alive
    rcases turn_spares turn other with spared | ⟨-, running, tailOwned, spared⟩
    · exact ⟨snake, held, cells, lies_spared spared lies, paused⟩
    · have whole : Whole state.data.map state.data.playerDataCache p snake := by
        rcases lies.holding with rfl | rfl
        · exact lies
        · rw [lies.tail] at tailOwned
          exact absurd ((lies.owned _ (tail_inside lies)).mp tailOwned) snake.tail_not_mem
      exact ⟨snake, snake.rest, cells, whole_overrun spared whole, fun paused => absurd paused running⟩

/-- What a player that waits for its visit owns was its snake's at the start. -/
theorem awaiting_owned {settled : TickState → Nat → Prop} (midway : Midway width height settled index state)
    (awaiting : Awaiting width height start index state) (later : index ≤ p) (within : p < maxPlayers)
    (inside : c.InGrid width height) (owned : Owns state.data.map p c) : c ∈ snakeBody start.data.map p := by
  have alive := midway.owners p within c inside owned
  obtain ⟨snake, held, cells, lies, -⟩ := awaiting.lies p later within alive
  rw [← cells]
  exact holding_cells lies.holding ((lies.owned c inside).mp owned)

/-! ## The tiles inside a tick -/

/-- A tile with a named type, and a slot's number on a player's tile. -/
def Proper (tile : MapTile) : Prop := tile.type.Declared ∧ (tile.type = .player → tile.player < maxPlayers)

theorem rewritten_proper (rewritten : Rewritten state playerId died c tile) (within : playerId < maxPlayers)
    (proper : Proper (state.data.map.tiles c)) : Proper tile := by
  cases rewritten with
  | kept => exact proper
  | entered | placed => exact ⟨trivial, fun _ => within⟩
  | vacated | killed => exact ⟨trivial, nofun⟩
  | planted _ _ tile fruit =>
    unfold Proper
    rw [fruit]
    exact ⟨trivial, nofun⟩

theorem rewritten_fruit (rewritten : Rewritten state playerId died c tile) (fruit : tile.type = .fruit) :
    (state.data.map.tiles c).type = .fruit ∨ Spawning (state.manager.players playerId).status := by
  cases rewritten with
  | kept => exact Or.inl fruit
  | planted status => exact Or.inr status
  | entered | vacated | killed | placed => cases fruit

/-- A fruit that comes during a visit comes with a player that joins. -/
theorem turn_plants (turn : Turn state playerId (.ok next)) (fruit : (next.data.map.tiles c).type = .fruit) :
    (state.data.map.tiles c).type = .fruit ∨ (state.manager.players playerId).status = .joining := by
  rcases rewritten_fruit (turn_rewritten turn c) fruit with before | respawning | joining
  · exact Or.inl before
  · cases turn with
    | idle | paused | noRoom => exact Or.inl fruit
    | spawned _ site planted respawned =>
      dsimp only at fruit
      rw [respawned respawning, placePlayer_tiles] at fruit
      split at fruit
      · cases fruit
      · split at fruit
        · cases fruit
        · exact Or.inl fruit
    | left status | crashed status | fed status | advanced status =>
      rw [status] at respawning
      cases respawning
  · exact Or.inr joining

/-- Where the tiles of a tick's map come from. -/
structure Accounted (start : TickState) (index : Nat) (state : TickState) : Prop where
  size : SameSize state.data.map start.data.map
  walls : ∀ c, (state.data.map.tiles c).type = .wall ↔ (start.data.map.tiles c).type = .wall
  dead : ∀ c, start.data.map.InBounds c → (state.data.map.tiles c).type = .dead →
    ∃ q < maxPlayers, c ∈ snakeBody start.data.map q
  fruit : ∀ c, (state.data.map.tiles c).type = .fruit → (start.data.map.tiles c).type = .fruit ∨
    ∃ q < index, (start.manager.players q).status = .joining
  proper : ∀ c, start.data.map.InBounds c → Proper (state.data.map.tiles c)

theorem accounted_turn {settled : TickState → Nat → Prop} (midway : Midway width height settled index state)
    (awaiting : Awaiting width height start index state) (within : index < maxPlayers)
    (accounted : Accounted start index state) (turn : Turn state index (.ok next)) :
    Accounted start (index + 1) next where
  size := by
    have size := turn_sameSize turn
    exact size.trans accounted.size
  walls := fun c => (rewritten_wall (turn_rewritten turn c)).trans (accounted.walls c)
  dead := by
    intro c inside dead
    rcases rewritten_dead (turn_rewritten turn c) dead with before | ⟨-, owned⟩
    · exact accounted.dead c inside before
    · have grid := (inBounds_sameSize accounted.size).mpr inside
      unfold Map.InBounds at grid
      rw [midway.sized.1, midway.sized.2] at grid
      exact ⟨index, within, awaiting_owned midway awaiting (Nat.le_refl _) within grid owned⟩
  fruit := by
    intro c fruit
    rcases turn_plants turn fruit with before | joining
    · exact (accounted.fruit c before).imp_right fun ⟨q, earlier, joining⟩ => ⟨q, Nat.lt_succ_of_lt earlier, joining⟩
    · rw [awaiting.slot index (Nat.le_refl _)] at joining
      exact Or.inr ⟨index, Nat.lt_succ_self _, joining⟩
  proper := fun c inside => rewritten_proper (turn_rewritten turn c) within (accounted.proper c inside)

/-! ## Fates inside a tick -/

def FoodNow (start : TickState) (p : Nat) (c : Coordinates) : Prop :=
  (start.data.map.tiles c).type = .fruit ∨ ∃ q < p, (start.manager.players q).status = .joining

def BarredNow (start state : TickState) (c : Coordinates) : Prop :=
  (start.data.map.tiles c).type = .wall ∨
    ∃ q < maxPlayers, c ∈ snakeBody start.data.map q ∨ c ∈ snakeBody state.data.map q

/-- The fate of a player that has had its visit. -/
def Fated (width height : Nat) (start state : TickState) (p : Nat) : Prop :=
  ∃ body, Fate width height (FoodNow start p) (BarredNow start state) (start.manager.players p)
    (snakeBody start.data.map p) (state.manager.players p) body ∧ Shaped width height state p body

theorem fate_mono {food food' barred barred' : Coordinates → Prop} {player player' : Player}
    {body body' : List Coordinates} (feeds : ∀ c, food c → food' c) (bars : ∀ c, barred c → barred' c)
    (fate : Fate width height food barred player body player' body') :
    Fate width height food' barred' player body player' body' := by
  cases fate with
  | absent snakeless waiting => exact .absent snakeless waiting
  | rests status => exact .rests status
  | advances status front => exact .advances status front
  | eats status front fruit => exact .eats status front (feeds _ fruit)
  | dies status front blocked => exact .dies status front (bars _ blocked)
  | leaves status => exact .leaves status
  | spawns status inside behind => exact .spawns status inside behind
  | waits status => exact .waits status

/-- What bars a snake goes on doing so for the rest of the tick. -/
theorem barred_turn {settled : TickState → Nat → Prop} (midway : Midway width height settled index state)
    (awaiting : Awaiting width height start index state) (turn : Turn state index (.ok next))
    (barred : BarredNow start state c) : BarredNow start next c := by
  rcases barred with wall | ⟨q, within, before | now⟩
  · exact Or.inl wall
  · exact Or.inr ⟨q, within, Or.inl before⟩
  · obtain ⟨inside, owned⟩ := mem_snakeBody.mp now
    rcases Nat.lt_or_ge q index with earlier | later
    · rcases turn_spares turn (Nat.ne_of_lt earlier) with spared | ⟨after, -⟩
      · refine Or.inr ⟨q, within, Or.inr (mem_snakeBody.mpr ⟨?_, ?_⟩)⟩
        · exact (inBounds_sameSize (turn_sameSize turn)).mpr inside
        · exact (owns_of_tiles_eq (spared.kept c owned id)).mpr owned
      · exact absurd after (Nat.lt_asymm earlier)
    · unfold Map.InBounds at inside
      rw [midway.sized.1, midway.sized.2] at inside
      exact Or.inr ⟨q, within, Or.inl (awaiting_owned midway awaiting later within inside owned)⟩

theorem fated_spared {settled : TickState → Nat → Prop} (midway : Midway width height settled index state)
    (awaiting : Awaiting width height start index state) (turn : Turn state index (.ok next)) (earlier : p < index)
    (fated : Fated width height start state p) : Fated width height start next p := by
  obtain ⟨body, fate, snake, snakeless⟩ := fated
  rcases turn_spares turn (Nat.ne_of_lt earlier) with spared | ⟨later, -⟩
  · unfold Fated
    refine ⟨body, ?_, fun alive => ?_, fun none => ?_⟩
    · rw [spared.slot]
      exact fate_mono (fun _ => id) (fun c => barred_turn midway awaiting turn) fate
    · rw [spared.slot] at alive
      obtain ⟨snake, whole, cells⟩ := snake alive
      exact ⟨snake, lies_spared spared whole, cells⟩
    · rw [spared.slot] at none
      exact snakeless none
  · exact absurd later (Nat.lt_asymm earlier)

/-- A snake that has ended. -/
theorem fated_end {player : Player} (slot : state.manager.players p = start.manager.players p)
    (left : next.manager.players p = player)
    (fate : Fate width height (FoodNow start p) (BarredNow start next) (state.manager.players p)
      (snakeBody start.data.map p) player []) (snakeless : ¬ HasSnake player.status) :
    Fated width height start next p := by
  subst left
  rw [slot] at fate
  exact ⟨[], fate, fun alive => absurd alive snakeless, fun _ => rfl⟩

/-- A snake that has moved or is new. -/
theorem fated_whole {player : Player} (slot : state.manager.players p = start.manager.players p)
    (left : next.manager.players p = player)
    (fate : Fate width height (FoodNow start p) (BarredNow start next) (state.manager.players p)
      (snakeBody start.data.map p) player body) (alive : HasSnake player.status)
    (snake : ∃ snake : Snake width height, snake.cells = body ∧
      Whole next.data.map next.data.playerDataCache p snake) : Fated width height start next p := by
  subst left
  rw [slot] at fate
  obtain ⟨snake, cells, whole⟩ := snake
  exact ⟨body, fate, fun _ => ⟨snake, whole, cells⟩, fun none => absurd alive none⟩

theorem nextHead_torus (sized : state.data.map.width = width ∧ state.data.map.height = height)
    (playable : Playable state.data.map) (lies : Lies state.data.map state.data.playerDataCache playerId snake held) :
    nextHead state playerId = torusMove width height snake.head (state.manager.players playerId).direction := by
  have inside := head_inside lies
  unfold nextHead
  rw [lies.head]
  obtain ⟨rfl, rfl⟩ := sized
  exact mapMoveInDirection_eq playable.fits inside _

/-- What a snake runs into is a wall or part of a snake. -/
theorem crash_barred {settled : TickState → Nat → Prop} (midway : Midway width height settled index state)
    (accounted : Accounted start index state) (inside : c.InGrid width height) (unfed : (state.data.map.tiles c).type ≠ .fruit)
    (occupied : (state.data.map.tiles c).type ≠ .empty) : BarredNow start state c := by
  have grid : state.data.map.InBounds c := by
    unfold Map.InBounds
    rw [midway.sized.1, midway.sized.2]
    exact inside
  have before := (inBounds_sameSize accounted.size).mp grid
  cases type : (state.data.map.tiles c).type with
  | empty => exact absurd type occupied
  | fruit => exact absurd type unfed
  | wall => exact Or.inl ((accounted.walls c).mp type)
  | dead =>
    obtain ⟨q, within, member⟩ := accounted.dead c before type
    exact Or.inr ⟨q, within, Or.inl member⟩
  | player =>
    have within := (accounted.proper c before).2 type
    exact Or.inr ⟨_, within, Or.inr (mem_snakeBody.mpr ⟨grid, type, rfl⟩)⟩
  | undeclared excess =>
    have declared := (accounted.proper c before).1
    rw [type] at declared
    cases declared

/-- A sound visit gives its player one of the fates. -/
theorem fated_turn (sizes : Sizes width height) (within : index < maxPlayers)
    (midway : Midway width height (SnakeWhole width height) index state)
    (awaiting : Awaiting width height start index state) (accounted : Accounted start index state)
    (sound : Sound state index) (turn : Turn state index (.ok next)) : Fated width height start next index := by
  have playable := playable_of_sizes sizes midway.sized
  have slot := awaiting.slot index (Nat.le_refl _)
  have waiting := awaiting.lies index (Nat.le_refl _) within
  have barred := fun {c} => barred_turn (c := c) midway awaiting turn
  cases turn with
  | idle snakeless waits => exact fated_end slot rfl (.absent snakeless waits) snakeless
  | paused status =>
    obtain ⟨snake, held, cells, lies, whole⟩ := waiting (Or.inr (Or.inl status))
    obtain rfl := whole status
    exact fated_whole slot rfl (.rests status) (Or.inr (Or.inl status)) ⟨snake, cells, lies⟩
  | noRoom status => exact fated_end slot (if_pos rfl) (.waits status) (by simp [HasSnake])
  | @spawned head tail direction placed status site planted =>
    have unowned := midway_unowned midway within (spawning_snakeless status)
    have spawned := spawned_cells midway.sized playable sizes.wide sizes.high unowned site planted
    have step := site.step
    have inside := site.inside
    rw [mapMoveInDirection_eq playable.fits inside] at step
    obtain ⟨rfl, rfl⟩ := midway.sized
    exact fated_whole slot (if_pos rfl) (.spawns status inside step) (Or.inl rfl) spawned
  | left status => exact fated_end slot (if_pos rfl) (.leaves status) (by simp [HasSnake])
  | crashed status blocked unfed =>
    obtain ⟨snake, held, cells, lies, -⟩ := waiting (Or.inl status)
    have front := snake.getLast?_cells
    rw [cells] at front
    have occupied : (state.data.map.tiles (nextHead state index)).type ≠ .empty := fun vacant => blocked (.empty vacant)
    have hit := barred (crash_barred midway accounted (nextHead_inside midway.sized playable lies) unfed occupied)
    rw [nextHead_torus midway.sized playable lies] at hit
    exact fated_end slot (if_pos rfl) (.dies status front hit) (by simp [HasSnake])
  | fed status fruit =>
    obtain ⟨snake, held, cells, lies, -⟩ := waiting (Or.inl status)
    obtain ⟨tailOwned, orderFits⟩ := sound status
    have whole : Whole state.data.map state.data.playerDataCache index snake := by
      rcases lies.holding with rfl | rfl
      · exact lies
      · have owned := tailOwned fruit
        rw [lies.tail] at owned
        exact absurd ((lies.owned _ (tail_inside lies)).mp owned) snake.tail_not_mem
    obtain ⟨grown, longer, lying⟩ := fed_cells midway.sized playable whole (orderFits (Or.inl fruit)) fruit
    have food : FoodNow start index (nextHead state index) := accounted.fruit _ fruit
    have front := snake.getLast?_cells
    rw [nextHead_torus midway.sized playable lies] at longer food
    rw [cells] at longer front
    exact fated_whole slot rfl (.eats status front food) (Or.inl status) ⟨grown, longer, lying⟩
  | advanced status way found =>
    obtain ⟨snake, held, cells, lies, -⟩ := waiting (Or.inl status)
    obtain ⟨moved, shifted, lying⟩ :=
      advanced_cells midway.sized playable lies ((sound status).2 (Or.inr way)) way found
    have front := snake.getLast?_cells
    have rest : snake.rest = snake.cells.tail := rfl
    rw [nextHead_torus midway.sized playable lies, rest, cells] at shifted
    rw [cells] at front
    exact fated_whole slot rfl (.advances status front) (Or.inl status) ⟨moved, shifted, lying⟩

/-! ## A tick -/

/-- What holds between the ticks of a run whose visits are all sound. -/
structure Playing (width height : Nat) (game : Game) : Prop where
  rested : Rested width height game
  undead : ∀ c, game.server.gameState.map.InBounds c → (game.server.gameState.map.tiles c).type ≠ .dead
  proper : ∀ c, game.server.gameState.map.InBounds c → Proper (game.server.gameState.map.tiles c)

theorem beginTick_awaiting (rested : Rested width height game) (rng : Rng) :
    Awaiting width height (game.server.beginTick rng) 0 (game.server.beginTick rng) where
  slot := fun _ _ => rfl
  lies := by
    intro p _ within alive
    obtain ⟨snake, whole⟩ := rested.whole p within alive
    exact ⟨snake, snake.cells, (snakeBody_whole rested.steady.sized whole).symm, whole, fun _ => rfl⟩

theorem beginTick_accounted (playing : Playing width height game) (rng : Rng) :
    Accounted (game.server.beginTick rng) 0 (game.server.beginTick rng) where
  size := ⟨rfl, rfl⟩
  walls := fun _ => Iff.rfl
  dead := fun c inside dead => absurd dead (playing.undead c inside)
  fruit := fun _ => Or.inl
  proper := playing.proper

/-- The visits of a tick so far. -/
structure Progress (width height : Nat) (start : TickState) (index : Nat) (state : TickState) : Prop where
  midway : Midway width height (SnakeWhole width height) index state
  awaiting : Awaiting width height start index state
  accounted : Accounted start index state
  fated : ∀ p < index, Fated width height start state p

theorem visit_progress (sizes : Sizes width height) (within : index < maxPlayers)
    (progress : Progress width height start index state) (sound : Sound state index) :
    ∃ next, forEachSlot state index = .ok next ∧ Progress width height start (index + 1) next := by
  obtain ⟨midway, awaiting, accounted, fated⟩ := progress
  obtain ⟨next, visited, turn⟩ := midway_visited midway sizes within
  refine ⟨next, visited, ?_, awaiting_turn awaiting turn, accounted_turn midway awaiting within accounted turn,
    fun p before => ?_⟩
  · exact midway_turn midway sizes within snakeWhole_respected turn (turn_settles sizes within midway sound turn)
  · rcases Nat.lt_succ_iff_lt_or_eq.mp before with earlier | rfl
    · exact fated_spared midway awaiting turn earlier (fated p earlier)
    · exact fated_turn sizes within midway awaiting accounted sound turn

/-- All of them. -/
theorem visits_progress (sizes : Sizes width height) (playing : Playing width height game) {rng : Rng}
    (guarded : Guarded forEachSlot Sound (game.server.beginTick rng) (List.range maxPlayers)) :
    ∃ state, playerManagerForEach (game.server.beginTick rng) = .ok state ∧
      Progress width height (game.server.beginTick rng) maxPlayers state := by
  apply range_succeeds (Progress width height (game.server.beginTick rng)) maxPlayers _ _ guarded
  · exact fun index state within progress sound => visit_progress sizes within progress sound
  · exact ⟨beginTick_midway playing.rested _ rng, beginTick_awaiting playing.rested rng,
      beginTick_accounted playing rng, fun p earlier => absurd earlier (Nat.not_lt_zero p)⟩

/-- The end of a tick leaves the bodies as the visits left them. -/
theorem shaped_body (midway : Midway width height (SnakeWhole width height) maxPlayers state)
    (undisturbed : Undisturbed state.data after) (within : p < maxPlayers) (shaped : Shaped width height state p body) :
    snakeBody after.map p = body := by
  by_cases alive : HasSnake (state.manager.players p).status
  · obtain ⟨snake, whole, rfl⟩ := shaped.snake alive
    have sized : after.map.width = width ∧ after.map.height = height :=
      ⟨undisturbed.size.1.trans midway.sized.1, undisturbed.size.2.trans midway.sized.2⟩
    exact snakeBody_whole sized (whole_undisturbed undisturbed whole)
  · rw [shaped.snakeless alive]
    refine snakeBody_unowned fun c inside owned => alive (midway.owners p within c ?_ ?_)
    · have grid := (inBounds_sameSize undisturbed.size).mp inside
      unfold Map.InBounds at grid
      rw [midway.sized.1, midway.sized.2] at grid
      exact grid
    · exact (undisturbed_owns undisturbed c).mp owned

theorem sweep_proper (proper : ∀ c, data.map.InBounds c → Proper (data.map.tiles c)) (inside : data.map.InBounds c) :
    Proper ((sweepDeadTiles data).map.tiles c) := by
  rcases (sweepDeadTiles_undisturbed data).tiles c with same | ⟨-, vacant⟩
  · rw [same]
    exact proper c inside
  · refine ⟨?_, fun claimed => absurd claimed vacant⟩
    cases type : ((sweepDeadTiles data).map.tiles c).type with
    | undeclared excess =>
      have before := (sweepDeadTiles_type (.undeclared excess) nofun nofun data c).mp type
      have declared := (proper c inside).1
      rw [before] at declared
      cases declared
    | empty | player | fruit | wall | dead => trivial

theorem planted_proper (planted : Planted data after) (proper : Proper (data.map.tiles c)) :
    Proper (after.map.tiles c) := by
  rcases planted_tiles planted c with same | ⟨-, fruit⟩
  · rw [same]
    exact proper
  · unfold Proper
    rw [fruit]
    exact ⟨trivial, nofun⟩

/-- Neither the sweep nor the replacement fruits leave an improper tile. -/
theorem tick_proper {server server' : Server} {rng : Rng} (visited : playerManagerForEach (server.beginTick rng) = .ok state)
    (playable : Playable state.data.map) (proper : ∀ c, state.data.map.InBounds c → Proper (state.data.map.tiles c))
    (ran : serverTickLocked server rng = .ok (server', alive)) (inside : state.data.map.InBounds c) :
    Proper (server'.gameState.map.tiles c) := by
  obtain ⟨_, data, rng', again, fruited, gameState, -⟩ := serverTickLocked_ok ran
  rw [visited] at again
  cases again
  obtain ⟨final, rng'', planted, kept⟩ := spawnFruits_planted (fun _ data => Proper (data.map.tiles c))
    (fun _ _ _ planted => planted_proper planted) state.data.fruitsEaten
    (playable_sameSize (sweepDeadTiles_undisturbed state.data).size playable) (sweep_proper proper inside) state.rng
  rw [fruited] at planted
  cases planted
  rw [gameState]
  exact kept

/-- A sound tick is a tick of the arena. -/
theorem tick_refines (sizes : Sizes width height) (playing : Playing width height game) {rng : Rng}
    (guarded : Guarded forEachSlot Sound (game.server.beginTick rng) (List.range maxPlayers)) :
    ∃ server' alive, serverTickLocked game.server rng = .ok (server', alive) ∧
      Playing width height { game with server := server' } ∧
      game.arena.Ticked width height { game with server := server' }.arena := by
  have playable := playable_of_sizes sizes playing.rested.steady.sized
  obtain ⟨server', alive, returned, rested⟩ := serverTickLocked_rested sizes playing.rested guarded
  obtain ⟨state, visited, midway, awaiting, accounted, fated⟩ := visits_progress sizes playing guarded
  obtain ⟨data, undisturbed, ended⟩ := serverTickLocked_after_visits visited (playable_of_sizes sizes midway.sized)
  have standing := serverTickLocked_standing playable playing.rested.steady.cached playing.undead returned
  have proper := fun {c} => tick_proper (c := c) visited (playable_of_sizes sizes midway.sized)
    (fun c inside => accounted.proper c ((inBounds_sameSize accounted.size).mp inside)) returned
  rw [returned] at ended
  cases ended
  refine ⟨_, _, returned, ⟨rested, fun c inside dead => ?_, fun c inside => ?_⟩, fun p within => ?_, ?_⟩
  · exact absurd (standing.known c ((inBounds_sameSize standing.size).mp inside) dead) nofun
  · exact proper ((inBounds_sameSize undisturbed.size).mp inside)
  · obtain ⟨body, fate, shaped⟩ := fated p within
    obtain rfl := shaped_body midway undisturbed within shaped
    refine fate_mono (fun c food => food.imp_left beq_of_eq) (fun c barred => ?_) fate
    rcases barred with wall | ⟨q, bound, before | now⟩
    · exact Or.inl (beq_of_eq wall)
    · exact Or.inr ⟨q, bound, Or.inl before⟩
    · refine Or.inr ⟨q, bound, Or.inr ?_⟩
      obtain ⟨inside, owned⟩ := mem_snakeBody.mp now
      exact mem_snakeBody.mpr ⟨(inBounds_sameSize undisturbed.size).mpr inside,
        (undisturbed_owns undisturbed c).mpr owned⟩
  · funext c
    exact Bool.eq_iff_iff.mpr (by simpa [Game.arena, mapGetTileState] using standing.walls c)

/-! ## Steps and runs -/

theorem status_direction (manager : PlayerManager) (slot p : Nat) (status : PlayerStatus) :
    ((manager.set slot { manager.players slot with status }).players p).direction = (manager.players p).direction := by
  rw [set_players]
  split
  · rename_i here
    rw [here]
  · rfl

theorem transition_direction (manager : PlayerManager) (slot p : Nat) (source target : PlayerStatus) :
    ((manager.transition slot source target).players p).direction = (manager.players p).direction := by
  unfold PlayerManager.transition
  dsimp only
  split
  · exact status_direction manager slot p target
  · rfl

/-- Only a client turns its snake, and whoever joins faces up. -/
theorem operate_direction (game : Game) (action : Action) (p : Nat) :
    ((game.operate action).manager.players p).direction = (game.manager.players p).direction ∨
      action = .setPlayerDirection p ((game.operate action).manager.players p).direction ∨
        action = .register ∧ (game.manager.players p).status = .notConnected := by
  cases action with
  | tick => exact Or.inl rfl
  | register =>
    cases registered : playerManagerRegister game.manager with
    | none =>
      refine Or.inl ?_
      simp only [Game.operate, registered]
    | some result =>
      obtain ⟨slot, manager⟩ := result
      obtain ⟨-, free, rfl⟩ := register_joins registered
      by_cases here : p = slot
      · subst here
        exact Or.inr (Or.inr ⟨rfl, free⟩)
      · simp only [Game.operate, registered]
        exact Or.inl (congrArg Player.direction (if_neg here))
  | unregister slot =>
    refine Or.inl ?_
    simp only [Game.operate]
    split
    · exact status_direction game.manager slot p _
    · rfl
  | pause slot | unpause slot | respawn slot => exact Or.inl (transition_direction game.manager slot p _ _)
  | setPlayerDirection slot direction =>
    by_cases here : p = slot
    · subst here
      have turned : (((game.operate (.setPlayerDirection p direction)).manager.players p).direction) = direction :=
        congrArg Player.direction (if_pos rfl)
      rw [turned]
      exact Or.inr (Or.inl rfl)
    · exact Or.inl (congrArg Player.direction (if_neg here))

/-- An operation of the player manager is one of the arena. -/
theorem operate_refines (playing : Playing width height game) (action : Action) :
    game.arena.Operated action (game.operate action).arena where
  body := by
    unfold Game.arena
    rw [operate_map]
  wall := by
    unfold Game.arena
    rw [operate_map]
  fruit := by
    unfold Game.arena
    rw [operate_map]
  moved := operate_moved playing.rested.steady.active action
  steered := operate_direction game action

theorem operate_playing (playing : Playing width height game) (action : Action) :
    Playing width height (game.operate action) where
  rested := operate_rested playing.rested action
  undead := by
    rw [operate_map]
    exact playing.undead
  proper := by
    rw [operate_map]
    exact playing.proper

/-- A sound step goes through and is a step of the arena. -/
theorem step_refines (sizes : Sizes width height) (playing : Playing width height game) (action : Action)
    (sound : SoundStep game action) : ∃ next, game.step action = .ok next ∧ Playing width height next ∧
      game.arena.Step width height action next.arena := by
  cases action with
  | tick rng =>
    obtain ⟨server', alive, returned, ⟨rested, undead, proper⟩, ticked⟩ := tick_refines sizes playing sound
    refine ⟨{ game with server := server'.tick }, ?_, ⟨?_, undead, proper⟩, ticked⟩
    · simp only [Game.step, serverTick, returned, bind, Except.bind]
    · exact ⟨tick_steady rested.steady, rested.owners, rested.whole⟩
  | register | unregister | pause | unpause | respawn | setPlayerDirection =>
    exact ⟨_, rfl, operate_playing playing _, operate_refines playing _⟩

theorem start_tile (map : Map) (directions : Nat → Direction) (cache : PlayerDataCache) (template : MapTemplate)
    (inside : (Game.start map directions cache template).server.gameState.map.InBounds c) :
    ((Game.start map directions cache template).server.gameState.map.tiles c).type = .wall ∨
      ((Game.start map directions cache template).server.gameState.map.tiles c).type = .empty := by
  obtain ⟨width, height⟩ := mapInitFromTemplate_size map template
  have grid : c.InGrid template.width template.height := ⟨height ▸ inside.1, width ▸ inside.2⟩
  change ((mapInitFromTemplate map template).tiles c).type = .wall ∨
    ((mapInitFromTemplate map template).tiles c).type = .empty
  rw [mapInitFromTemplate_tiles map template grid]
  dsimp only
  split
  · exact Or.inl rfl
  · exact Or.inr rfl

theorem start_playing (map : Map) (directions : Nat → Direction) (cache : PlayerDataCache) (template : MapTemplate) :
    Playing template.width template.height (Game.start map directions cache template) where
  rested := start_rested map directions cache template
  undead := by
    intro c inside
    rcases start_tile map directions cache template inside with wall | empty
    · rw [wall]
      exact nofun
    · rw [empty]
      exact nofun
  proper := by
    intro c inside
    unfold Proper
    rcases start_tile map directions cache template inside with wall | empty
    · rw [wall]
      exact ⟨trivial, nofun⟩
    · rw [empty]
      exact ⟨trivial, nofun⟩

/-- Every run of sound visits is a run of the arena's game. -/
theorem run_plays (wide : minMapWidth ≤ template.width) (widthBound : template.width ≤ maxMapWidth)
    (high : minMapHeight ≤ template.height) (heightBound : template.height ≤ maxMapHeight)
    (guarded : Guarded Game.step SoundStep (Game.start map directions cache template) actions) :
    ∃ final, (Game.start map directions cache template).run actions = .ok final ∧
      Steps (Arena.Step template.width template.height) (Game.start map directions cache template).arena actions
        final.arena := by
  have sizes := sizes_of_limits wide widthBound high heightBound
  obtain ⟨final, ran, -, steps⟩ := run_simulates Game.arena (Playing template.width template.height)
    (fun _ action playing sound => step_refines sizes playing action sound) actions
    (start_playing map directions cache template) guarded
  exact ⟨final, ran, steps⟩

/-- A snake appears at the cells (1, 2) and (2, 2), eats at (3, 2), turns right and
goes on. -/
def wandering : List Action :=
  [.register, .tick (drawing [2, 2, 3, 2]), .tick (drawing [9, 9]), .setPlayerDirection 0 .right, .tick (drawing [])]

private theorem wandering_sound : Guarded Game.step SoundStep emptyGame wandering := by decide +kernel

theorem run_plays_wandering : ∃ final, emptyGame.run wandering = .ok final ∧
    Steps (Arena.Step 10 10) emptyGame.arena wandering final.arena :=
  run_plays (by decide) (by decide) (by decide) (by decide) wandering_sound

/-! ## Snakes lie where their heads have been -/

theorem body_inside (playing : Playing width height game) (member : c ∈ game.arena.body p) : c.InGrid width height := by
  have inside := (mem_snakeBody.mp member).1
  unfold Map.InBounds at inside
  rw [playing.rested.steady.sized.1, playing.rested.steady.sized.2] at inside
  exact inside

theorem body_nowhere (playing : Playing width height game) (within : p < maxPlayers)
    (snakeless : ¬ HasSnake (game.manager.players p).status) : game.arena.body p = [] :=
  List.eq_nil_iff_forall_not_mem.mpr fun c member => snakeless
    (playing.rested.owners p within c (body_inside playing member) (mem_snakeBody.mp member).2)

/-- A fate moves a body in one of the ways a watcher can follow. -/
theorem fate_shift {food barred : Coordinates → Prop} {player player' : Player} {body body' : List Coordinates}
    (sizes : Sizes width height) (inside : ∀ c ∈ body, c.InGrid width height)
    (nowhere : ¬ HasSnake player.status → body = []) (fate : Fate width height food barred player body player' body') :
    Shift body body' := by
  have fresh : ∀ {head : Coordinates} {direction : Direction}, body.getLast? = some head →
      body.getLast? ≠ some (torusMove width height head direction) := by
    intro head direction front same
    rw [front] at same
    exact torusMove_ne sizes.wide sizes.high (inside head (List.mem_of_getLast? front)) direction
      (Option.some.inj same).symm
  cases fate with
  | absent | dies | leaves | waits => exact .gone
  | rests => exact .rests
  | advances _ front => exact .moves (fresh front)
  | eats _ front => exact .grows (fresh front)
  | spawns status => exact .appears (nowhere (spawning_snakeless status))

theorem step_shift (sizes : Sizes width height) (playing : Playing width height game) {arena : Arena}
    (stepped : game.arena.Step width height action arena) (within : p < maxPlayers) :
    Shift (game.arena.body p) (arena.body p) := by
  cases action with
  | tick =>
    exact fate_shift sizes (fun c => body_inside playing) (body_nowhere playing within) (stepped.fate p within)
  | register | unregister | pause | unpause | respawn | setPlayerDirection =>
    rw [stepped.body]
    exact .rests

private theorem run_noted_from (sizes : Sizes width height) (actions : List Action) (notes : Nat → List Coordinates)
    (playing : Playing width height game) (noted : ∀ p < maxPlayers, Noted (notes p) (game.arena.body p))
    (guarded : Guarded Game.step SoundStep game actions) (ran : game.run actions = .ok final) :
    Playing width height final ∧ ∀ p < maxPlayers, final.arena.body p <:+ game.notes notes actions p := by
  induction actions generalizing game notes with
  | nil =>
    cases ran
    exact ⟨playing, fun p within => (noted p within).suffix⟩
  | cons action rest ih =>
    obtain ⟨next, stepped, kept, refined⟩ := step_refines sizes playing action guarded.1
    have ran := (run_cons_ok stepped).symm.trans ran
    have later : ∀ p < maxPlayers, Noted (note (notes p) (next.arena.body p)) (next.arena.body p) :=
      fun p within => noted_shift (noted p within) (step_shift sizes playing refined within)
    have reached := ih _ kept later (guarded_tail guarded stepped) ran
    unfold Game.notes
    rw [stepped]
    exact reached

/-- Whoever notes where a snake appeared and where its head has been since knows
where all of it is: its cells are the last ones noted, at least two. -/
theorem run_noted (wide : minMapWidth ≤ template.width) (widthBound : template.width ≤ maxMapWidth)
    (high : minMapHeight ≤ template.height) (heightBound : template.height ≤ maxMapHeight)
    (guarded : Guarded Game.step SoundStep (Game.start map directions cache template) actions)
    (ran : (Game.start map directions cache template).run actions = .ok final) :
    ∀ p < maxPlayers, final.arena.body p <:+ (Game.start map directions cache template).notes (fun _ => []) actions p ∧
      (HasSnake (final.manager.players p).status → 2 ≤ (final.arena.body p).length) := by
  have sizes := sizes_of_limits wide widthBound high heightBound
  have playing := start_playing map directions cache template
  have nobody : ∀ p < maxPlayers, Noted [] ((Game.start map directions cache template).arena.body p) := by
    intro p within
    rw [body_nowhere playing within (by simp [Game.start, Game.manager, gameStateInit, playerManagerInit, HasSnake])]
    exact noted_nothing
  obtain ⟨kept, suffix⟩ := run_noted_from sizes actions (fun _ => []) playing nobody guarded ran
  intro p within
  refine ⟨suffix p within, fun alive => ?_⟩
  obtain ⟨snake, whole⟩ := kept.rested.whole p within alive
  change 2 ≤ (snakeBody final.server.gameState.map p).length
  rw [snakeBody_whole kept.rested.steady.sized whole]
  exact snake.two_le_length

private theorem wandering_body : ∃ final, emptyGame.run wandering = .ok final ∧
    (final.manager.players 0).status = .playing ∧ final.arena.body 0 = [⟨2, 2⟩, ⟨3, 2⟩, ⟨3, 3⟩] := by decide +kernel

theorem run_noted_wandering :
    [⟨2, 2⟩, ⟨3, 2⟩, ⟨3, 3⟩] <:+ emptyGame.notes (fun _ => []) wandering 0 := by
  obtain ⟨final, ran, status, body⟩ := wandering_body
  rw [← body]
  exact (run_noted (by decide) (by decide) (by decide) (by decide) wandering_sound ran 0 (by decide)).1

end SnakePosix.ArenaRefinement
