import SnakePosix.Foundation.Trails
import SnakePosix.ChangelogReplay

/-! A snake on the map is a trail on the torus. Between two ticks all of it is
on the map; inside a tick a snake that has yet to move may have lost its tail
cell to a lower player. What a visit does to its own snake and to all others is
stated here once for the invariants of whole runs. -/
namespace SnakePosix.Snakes
open MapProofs Torus TickTurns Trails ChangelogReplay Exploration

abbrev Snake (width height : Nat) := Trail (TorusAdjacent width height)

/-- What a snake may hold of its cells: all of them, or all but the tail. -/
def Holding (snake : Snake width height) (held : List Coordinates) : Prop :=
  held = snake.cells ∨ held = snake.rest

/-- The cache names the snake's two ends, and the player's tiles are the held
cells, with orders rising by one towards the head. -/
structure Lies (map : Map) (cache : PlayerDataCache) (player : Nat) (snake : Snake width height)
    (held : List Coordinates) : Prop where
  tail : cache.tail player = snake.tail
  head : cache.head player = snake.head
  inside : ∀ c ∈ snake.cells, c.InGrid width height
  holding : Holding snake held
  owned : ∀ c, c.InGrid width height → (Owns map player c ↔ c ∈ held)
  numbered : Numbered (fun c => (map.tiles c).order) held

/-- All of the snake is on the map. -/
def Whole (map : Map) (cache : PlayerDataCache) (player : Nat) (snake : Snake width height) : Prop :=
  Lies map cache player snake snake.cells

/-- All of the snake but its tail is on the map. -/
def Overrun (map : Map) (cache : PlayerDataCache) (player : Nat) (snake : Snake width height) : Prop :=
  Lies map cache player snake snake.rest

variable {width height playerId player index : Nat} {state next : TickState} {map : Map}
  {data after : ProcessPlayerData} {snake : Snake width height} {held : List Coordinates} {c : Coordinates}

theorem holding_rest (holding : Holding snake held) (member : c ∈ snake.rest) : c ∈ held := by
  rcases holding with rfl | rfl
  · exact snake.mem_cells.mpr (Or.inr member)
  · exact member

theorem holding_cells (holding : Holding snake held) (member : c ∈ held) : c ∈ snake.cells := by
  rcases holding with rfl | rfl
  · exact member
  · exact snake.mem_cells.mpr (Or.inr member)

theorem head_inside (lies : Lies map cache player snake held) : snake.head.InGrid width height :=
  lies.inside _ (snake.mem_cells.mpr (Or.inr snake.head_mem))

theorem tail_inside (lies : Lies map cache player snake held) : snake.tail.InGrid width height :=
  lies.inside _ (snake.mem_cells.mpr (Or.inl rfl))

theorem held_inside (lies : Lies map cache player snake held) (member : c ∈ held) :
    c.InGrid width height := lies.inside c (holding_cells lies.holding member)

theorem held_owned (lies : Lies map cache player snake held) (member : c ∈ held) : Owns map player c :=
  (lies.owned c (held_inside lies member)).mpr member

/-! ## What a visit writes -/

/-- The tile a moving head leaves in front of it. -/
def headTile (state : TickState) (playerId : Nat) : MapTile where
  order := wrap64 ((state.data.map.tiles (state.data.playerDataCache.head playerId)).order + 1)
  type := .player
  player := playerId

theorem movePlayerHead_tiles (state : TickState) (playerId : Nat) (c : Coordinates) :
    (movePlayerHead state.data playerId (nextHead state playerId)).map.tiles c =
      if c = nextHead state playerId then headTile state playerId else state.data.map.tiles c := rfl

/-- The head cell is written, and the tail cell given up where it is still the
player's and not the head cell itself. -/
theorem vacate_tiles (state : TickState) (playerId : Nat) (c : Coordinates) :
    (vacate state playerId).map.tiles c =
    if c = nextHead state playerId then headTile state playerId
    else if c = state.data.playerDataCache.tail playerId ∧ Owns state.data.map playerId c then
      { state.data.map.tiles c with type := .empty }
    else state.data.map.tiles c := by
  have moved := movePlayerHead_tiles state playerId
  have cachedHead : (movePlayerHead state.data playerId (nextHead state playerId)).playerDataCache.head playerId =
      nextHead state playerId := if_pos rfl
  unfold vacate clearPlayerTail
  simp only [mapGetTileState, playerDataCacheGetHead, cachedHead, coordinatesEqual_iff, moved]
  by_cases circle : state.data.playerDataCache.tail playerId = nextHead state playerId
  · rw [circle, if_pos rfl, if_pos ⟨rfl, rfl⟩, if_pos rfl, moved]
    by_cases here : c = nextHead state playerId
    · rw [if_pos here, if_pos here]
    · rw [if_neg here, if_neg here, if_neg (fun at_tail => here at_tail.1)]
  · rw [if_neg circle]
    by_cases owned : Owns state.data.map playerId (state.data.playerDataCache.tail playerId)
    · rw [if_pos (show _ ∧ _ from owned), if_neg (Ne.symm circle)]
      by_cases given : c = state.data.playerDataCache.tail playerId
      · subst given
        rw [if_neg circle, if_pos ⟨rfl, owned⟩]
        exact (mapSetTileState_same _ _ _).trans (by rw [moved, if_neg circle])
      · rw [if_neg (c := c = state.data.playerDataCache.tail playerId ∧ _) (fun at_tail => given at_tail.1)]
        exact (mapSetTileState_other _ _ _ _ given).trans (moved c)
    · rw [if_neg (show ¬ (_ ∧ _) from owned), moved]
      by_cases here : c = nextHead state playerId
      · rw [if_pos here, if_pos here]
      · rw [if_neg here, if_neg here, if_neg]
        rintro ⟨rfl, kept⟩
        exact owned kept

theorem placePlayer_tiles (data : ProcessPlayerData) (playerId : Nat) (head tail c : Coordinates) :
    (placePlayer data playerId head tail).map.tiles c =
    if c = tail then { order := 0, type := .player, player := playerId }
    else if c = head then { order := 1, type := .player, player := playerId }
    else data.map.tiles c := rfl

/-- Planting a fruit changes one empty cell at most. -/
theorem planted_tiles (planted : Planted data after) (c : Coordinates) :
    after.map.tiles c = data.map.tiles c ∨
      (data.map.tiles c).type = .empty ∧ (after.map.tiles c).type = .fruit := by
  cases planted with
  | full => exact Or.inl rfl
  | @fruit site inside empty =>
    by_cases here : c = site
    · subst here
      exact Or.inr ⟨empty, congrArg MapTile.type (mapSetTileState_same _ _ _)⟩
    · exact Or.inl (mapSetTileState_other _ _ _ _ here)

theorem planted_owns (planted : Planted data after) (c : Coordinates) :
    Owns after.map player c ↔ Owns data.map player c := by
  rcases planted_tiles planted c with same | ⟨empty, fruit⟩
  · exact owns_of_tiles_eq same
  · constructor
    · intro owned
      exact absurd owned (not_owns_of_type (by simp [fruit]))
    · intro owned
      exact absurd owned (not_owns_of_type (by simp [empty]))

/-! ## The other snakes -/

/-- Somebody else's visit leaves a player's slot, cache and tiles alone, except
for the lost cells. -/
structure Spared (before after : TickState) (player : Nat) (lost : Coordinates → Prop) : Prop where
  slot : after.manager.players player = before.manager.players player
  head : after.data.playerDataCache.head player = before.data.playerDataCache.head player
  tail : after.data.playerDataCache.tail player = before.data.playerDataCache.tail player
  kept : ∀ c, Owns before.data.map player c → ¬ lost c → after.data.map.tiles c = before.data.map.tiles c
  claimed : ∀ c, Owns after.data.map player c → Owns before.data.map player c ∧ ¬ lost c

/-- A cell that is either untouched or neither was nor becomes the player's. -/
def Foreign (before after : Map) (player : Nat) (c : Coordinates) : Prop :=
  after.tiles c = before.tiles c ∨ ¬ Owns before player c ∧ ¬ Owns after player c

private theorem spared_of_foreign (slot : next.manager.players player = state.manager.players player)
    (head : next.data.playerDataCache.head player = state.data.playerDataCache.head player)
    (tail : next.data.playerDataCache.tail player = state.data.playerDataCache.tail player)
    (foreign : ∀ c, Foreign state.data.map next.data.map player c) :
    Spared state next player (fun _ => False) where
  slot := slot
  head := head
  tail := tail
  kept := fun c owned _ => (foreign c).resolve_right fun apart => apart.1 owned
  claimed := by
    intro c owned
    rcases foreign c with same | apart
    · exact ⟨(owns_of_tiles_eq same).mp owned, id⟩
    · exact absurd owned apart.2

private theorem not_owns_other (other : player ≠ playerId) (owned : Owns map playerId c) :
    ¬ Owns map player c := fun claimed => other (owns_unique claimed owned)

private theorem removed_foreign (other : player ≠ playerId) (removed : Removed map playerId start final)
    (c : Coordinates) : Foreign map final player c := by
  by_cases reached : PlayerReaches map playerId start c
  · have dead := removed.dead c reached
    exact Or.inr ⟨not_owns_other other (reaches_live reached).2, not_owns_of_type (by simp [dead])⟩
  · exact Or.inl (removed.kept c reached)

private theorem headTile_foreign (other : player ≠ playerId)
    (written : map.tiles c = headTile state playerId) : ¬ Owns map player c := by
  intro claimed
  have claimant := claimed.2
  rw [written] at claimant
  exact other claimant.symm

/-- The cells an advancing snake writes besides the one in front of it are its own. -/
private theorem vacate_foreign (other : player ≠ playerId) (elsewhere : c ≠ nextHead state playerId) :
    Foreign state.data.map (vacate state playerId).map player c := by
  have written := vacate_tiles state playerId c
  rw [if_neg elsewhere] at written
  split at written
  · rename_i given
    exact Or.inr ⟨not_owns_other other given.2, not_owns_of_type (by simp [written])⟩
  · exact Or.inl written

private theorem placed_foreign (other : player ≠ playerId) (site : SpawnSite data.map head tail direction)
    (planted : Planted (placePlayer data playerId head tail) after) (c : Coordinates) :
    Foreign data.map after.map player c := by
  have written := placePlayer_tiles data playerId head tail c
  have notClaimed : ∀ order, (placePlayer data playerId head tail).map.tiles c =
      { order, type := .player, player := playerId } → ¬ Owns after.map player c := by
    intro order tile claimed
    have claimant := ((planted_owns planted c).mp claimed).2
    rw [tile] at claimant
    exact other claimant.symm
  split at written
  · rename_i atTail
    subst atTail
    exact Or.inr ⟨not_owns_of_type (by simp [site.tailEmpty]), notClaimed _ written⟩
  · split at written
    · rename_i atHead
      subst atHead
      exact Or.inr ⟨not_owns_of_type (by simp [site.headEmpty]), notClaimed _ written⟩
    · rcases planted_tiles planted c with same | ⟨empty, fruit⟩
      · exact Or.inl (same.trans written)
      · rw [written] at empty
        exact Or.inr ⟨not_owns_of_type (by simp [empty]), not_owns_of_type (by simp [fruit])⟩

private theorem planted_heads (planted : Planted (placePlayer data playerId head tail) after)
    (other : player ≠ playerId) :
    after.playerDataCache.head player = data.playerDataCache.head player ∧
      after.playerDataCache.tail player = data.playerDataCache.tail player := by
  rw [planted_cache planted]
  exact ⟨if_neg other, if_neg other⟩

private theorem vacate_cache (state : TickState) (other : player ≠ playerId) (nextTail : Coordinates) :
    (retail (vacate state playerId) playerId nextTail).playerDataCache.head player =
        state.data.playerDataCache.head player ∧
      (retail (vacate state playerId) playerId nextTail).playerDataCache.tail player =
        state.data.playerDataCache.tail player := by
  simp [retail, vacate, pushChangelogTile, movePlayerHead, playerDataCacheSetHead,
    playerDataCacheSetTail, other]

/-- A visit spares every other snake, or takes the tail of one that has yet to
move and is not paused. -/
theorem turn_spares (turn : Turn state playerId (.ok next)) (other : player ≠ playerId) :
    Spared state next player (fun _ => False) ∨
      playerId < player ∧ (state.manager.players player).status ≠ .paused ∧
        Owns state.data.map player (state.data.playerDataCache.tail player) ∧
        Spared state next player (· = state.data.playerDataCache.tail player) := by
  cases turn with
  | idle => exact Or.inl (spared_of_foreign rfl rfl rfl fun _ => Or.inl rfl)
  | paused => exact Or.inl (spared_of_foreign rfl rfl rfl fun _ => Or.inl rfl)
  | noRoom => exact Or.inl (spared_of_foreign (if_neg other) rfl rfl fun _ => Or.inl rfl)
  | spawned _ site planted =>
    have cache := planted_heads planted other
    have foreign := placed_foreign other site planted
    exact Or.inl (spared_of_foreign (if_neg other) cache.1 cache.2 foreign)
  | left _ removed =>
    exact Or.inl (spared_of_foreign (if_neg other) rfl rfl (removed_foreign other removed))
  | crashed _ _ _ removed =>
    exact Or.inl (spared_of_foreign (if_neg other) rfl rfl (removed_foreign other removed))
  | fed _ fruit =>
    refine Or.inl (spared_of_foreign rfl (if_neg other) rfl fun c => ?_)
    have written := movePlayerHead_tiles state playerId c
    split at written
    · rename_i here
      subst here
      exact Or.inr ⟨not_owns_of_type (by simp [fruit]), headTile_foreign other written⟩
    · exact Or.inl written
  | @advanced nextTail _ way found =>
    have cache := vacate_cache state other nextTail
    have taken := vacate_tiles state playerId (nextHead state playerId)
    rw [if_pos rfl] at taken
    have lost : ¬ Owns (vacate state playerId).map player (nextHead state playerId) :=
      headTile_foreign other taken
    -- Only a tail still to be vacated can be another snake's.
    by_cases owned : Owns state.data.map player (nextHead state playerId)
    · cases way with
      | empty vacant => exact absurd owned (not_owns_of_type (by simp [vacant]))
      | ownTail own => exact absurd (owns_unique owned own) other
      | otherTail owner ownerOwns later tail running moves =>
        obtain rfl := owns_unique owned ownerOwns
        refine Or.inr ⟨later, running, tail ▸ owned, rfl, cache.1, cache.2,
          fun c claimed away => ?_, fun c claimed => ?_⟩
        · rw [tail] at away
          exact (vacate_foreign other away).resolve_right fun apart => apart.1 claimed
        · have away : c ≠ nextHead state playerId := by
            rintro rfl
            exact lost claimed
          rw [tail]
          rcases vacate_foreign other away with same | apart
          · exact ⟨(owns_of_tiles_eq same).mp claimed, away⟩
          · exact absurd claimed apart.2
    · refine Or.inl (spared_of_foreign rfl cache.1 cache.2 fun c => ?_)
      by_cases here : c = nextHead state playerId
      · subst here
        exact Or.inr ⟨owned, lost⟩
      · exact vacate_foreign other here

/-- A visit writes no slot but its own. -/
theorem turn_slot (turn : Turn state playerId (.ok next)) (other : player ≠ playerId) :
    next.manager.players player = state.manager.players player := by
  rcases turn_spares turn other with spared | ⟨-, -, -, spared⟩ <;> exact spared.slot

private theorem spared_orders (spared : Spared state next player lost)
    (lies : Lies state.data.map state.data.playerDataCache player snake held)
    (kept : ∀ c ∈ part, c ∈ held ∧ ¬ lost c)
    (numbered : Numbered (fun c => (state.data.map.tiles c).order) part) :
    Numbered (fun c => (next.data.map.tiles c).order) part :=
  numbered_congr (fun c member => congrArg MapTile.order
    (spared.kept c (held_owned lies (kept c member).1) (kept c member).2)) numbered

/-- A spared snake lies where it lay. -/
theorem lies_spared (spared : Spared state next player (fun _ => False))
    (lies : Lies state.data.map state.data.playerDataCache player snake held) :
    Lies next.data.map next.data.playerDataCache player snake held where
  tail := spared.tail.trans lies.tail
  head := spared.head.trans lies.head
  inside := lies.inside
  holding := lies.holding
  owned := by
    intro c inside
    rw [← lies.owned c inside]
    constructor
    · exact fun owned => (spared.claimed c owned).1
    · exact fun owned => (owns_of_tiles_eq (spared.kept c owned id)).mpr owned
  numbered := spared_orders spared lies (fun _ member => ⟨member, id⟩) lies.numbered

/-- A snake whose tail is taken still holds the rest. -/
theorem whole_overrun (spared : Spared state next player (· = state.data.playerDataCache.tail player))
    (whole : Whole state.data.map state.data.playerDataCache player snake) :
    Overrun next.data.map next.data.playerDataCache player snake where
  tail := spared.tail.trans whole.tail
  head := spared.head.trans whole.head
  inside := whole.inside
  holding := Or.inr rfl
  owned := by
    intro c inside
    have before := whole.owned c inside
    rw [snake.mem_cells] at before
    constructor
    · intro owned
      obtain ⟨claimed, away⟩ := spared.claimed c owned
      rw [whole.tail] at away
      exact (before.mp claimed).resolve_left away
    · intro member
      have owned := before.mpr (Or.inr member)
      have away : c ≠ state.data.playerDataCache.tail player := by
        rw [whole.tail]
        rintro rfl
        exact snake.tail_not_mem member
      exact (owns_of_tiles_eq (spared.kept c owned away)).mpr owned
  numbered := by
    refine spared_orders spared whole (fun c member => ⟨snake.mem_cells.mpr (Or.inr member), ?_⟩)
      (numbered_tail whole.numbered)
    rw [whole.tail]
    rintro rfl
    exact snake.tail_not_mem member

/-! ## A snake's own visit -/

section
variable (sized : state.data.map.width = width ∧ state.data.map.height = height)
  (playable : Playable state.data.map)
  (lies : Lies state.data.map state.data.playerDataCache playerId snake held)
include sized playable lies

omit lies in
private theorem moved_torus (inside : c.InGrid width height) (direction : Direction) :
    mapMoveInDirection state.data.map c direction = torusMove width height c direction := by
  obtain ⟨rfl, rfl⟩ := sized
  exact mapMoveInDirection_eq playable.fits inside direction

theorem nextHead_adjacent : TorusAdjacent width height snake.head (nextHead state playerId) := by
  unfold nextHead
  rw [lies.head, moved_torus sized playable (head_inside lies)]
  exact torusAdjacent_move

theorem nextHead_inside : (nextHead state playerId).InGrid width height :=
  torusAdjacent_inGrid (head_inside lies) (nextHead_adjacent sized playable lies)

omit sized playable in
/-- The way ahead never leads back into the snake's own body. -/
theorem way_free (way : Way state playerId) : nextHead state playerId ∉ snake.rest := by
  intro member
  have owned := held_owned lies (holding_rest lies.holding member)
  cases way with
  | empty vacant => exact not_owns_of_type (by simp [vacant]) owned
  | ownTail _ tail =>
    rw [← tail, lies.tail] at member
    exact snake.tail_not_mem member
  | otherTail other others later _ _ _ =>
    obtain rfl := owns_unique owned others
    exact Nat.lt_irrefl _ later

omit sized playable in
theorem vacate_kept (member : c ∈ snake.rest) (elsewhere : c ≠ nextHead state playerId) :
    (vacate state playerId).map.tiles c = state.data.map.tiles c := by
  rw [vacate_tiles, if_neg elsewhere, if_neg]
  rintro ⟨atTail, -⟩
  rw [atTail, lies.tail] at member
  exact snake.tail_not_mem member

omit sized playable in
/-- After the move the snake holds the rest and the cell in front. -/
theorem vacate_owns (inside : c.InGrid width height) :
    Owns (vacate state playerId).map playerId c ↔ c ∈ snake.rest ∨ c = nextHead state playerId := by
  by_cases here : c = nextHead state playerId
  · have written := vacate_tiles state playerId c
    rw [if_pos here] at written
    rw [Owns, written]
    exact ⟨fun _ => Or.inr here, fun _ => ⟨rfl, rfl⟩⟩
  · constructor
    · intro owned
      have written := vacate_tiles state playerId c
      rw [if_neg here] at written
      split at written
      · exact absurd owned (not_owns_of_type (by simp [written]))
      · rename_i kept
        have before := (owns_of_tiles_eq written).mp owned
        have member := holding_cells lies.holding ((lies.owned c inside).mp before)
        refine Or.inl ((snake.mem_cells.mp member).resolve_left fun atTail => kept ⟨?_, before⟩)
        rw [lies.tail, atTail]
    · rintro (member | front)
      · exact (owns_of_tiles_eq (vacate_kept lies member here)).mpr
          (held_owned lies (holding_rest lies.holding member))
      · exact absurd front here

/-- A move always finds a next tail. -/
theorem vacate_tail_found :
    mapFindPlayerNeighborWithLowestOrder (vacate state playerId).map playerId
      (state.data.playerDataCache.tail playerId) ≠ none := by
  intro missed
  obtain ⟨direction, member, step⟩ := torusAdjacent_iff.mp snake.tail_second
  have sameSize : SameSize (vacate state playerId).map state.data.map := clearPlayerTail_sameSize
  apply lowest_missed missed member
  rw [mapMoveInDirection_sameSize sameSize, lies.tail, moved_torus sized playable (tail_inside lies),
    ← step]
  have inside := lies.inside _ (snake.mem_cells.mpr (Or.inr snake.second_mem))
  exact (vacate_owns lies inside).mpr (Or.inl snake.second_mem)

/-- An order that has not reached the last value of a `size_t`. -/
def OrderFits (state : TickState) (playerId : Nat) : Prop :=
  (state.data.map.tiles (state.data.playerDataCache.head playerId)).order + 1 < 2 ^ 64

omit sized playable in
private theorem headTile_order (orderFits : OrderFits state playerId) :
    (headTile state playerId).order = (state.data.map.tiles snake.head).order + 1 := by
  unfold OrderFits at orderFits
  rw [← lies.head]
  exact Nat.mod_eq_of_lt orderFits

omit sized playable in
/-- The new head continues the numbers of whatever the snake keeps. -/
private theorem headed_numbered (orderFits : OrderFits state playerId)
    (kept : ∀ c ∈ part, after.map.tiles c = state.data.map.tiles c)
    (front : after.map.tiles (nextHead state playerId) = headTile state playerId)
    (atEnd : part.getLast? = some snake.head)
    (numbered : Numbered (fun c => (state.data.map.tiles c).order) part) :
    Numbered (fun c => (after.map.tiles c).order) (part ++ [nextHead state playerId]) := by
  refine numbered_concat (numbered_congr (fun c member => congrArg MapTile.order (kept c member)) numbered) ?_
  intro last final
  rw [atEnd] at final
  cases final
  rw [front, headTile_order lies orderFits, kept _ (List.mem_of_getLast? atEnd)]

omit sized playable in
theorem rest_numbered : Numbered (fun c => (state.data.map.tiles c).order) snake.rest := by
  obtain ⟨-, -, -, holding, -, numbered⟩ := lies
  rcases holding with rfl | rfl
  · exact numbered_tail numbered
  · exact numbered

/-- A snake that moves gives up its tail cell for the one in front, also when the
tail had been taken before. -/
theorem advanced_cells (orderFits : OrderFits state playerId) (way : Way state playerId)
    (found : mapFindPlayerNeighborWithLowestOrder (vacate state playerId).map playerId
      (state.data.playerDataCache.tail playerId) = some nextTail) :
    ∃ moved : Snake width height, moved.cells = snake.rest ++ [nextHead state playerId] ∧
      Whole (retail (vacate state playerId) playerId nextTail).map
        (retail (vacate state playerId) playerId nextTail).playerDataCache playerId moved := by
  have free := way_free lies way
  have edge := nextHead_adjacent sized playable lies
  have inside := nextHead_inside sized playable lies
  have sameSize : SameSize (vacate state playerId).map state.data.map := clearPlayerTail_sameSize
  have kept : ∀ c ∈ snake.rest, (vacate state playerId).map.tiles c = state.data.map.tiles c := by
    intro c member
    apply vacate_kept lies member
    rintro rfl
    exact free member
  have numbered := headed_numbered lies orderFits kept ((vacate_tiles _ _ _).trans (if_pos rfl))
    snake.getLast?_rest (rest_numbered lies)
  -- The lowest neighbor of the old tail is the second cell: it is one, and the
  -- orders of everything the snake holds now start there.
  have second : nextTail = snake.second := by
    obtain ⟨⟨direction, member, rfl⟩, owned, lowest⟩ := lowest_found found
    have tailInside := tail_inside lies
    rw [lies.tail, mapMoveInDirection_sameSize sameSize, moved_torus sized playable tailInside] at owned lowest ⊢
    obtain ⟨toSecond, declared, step⟩ := torusAdjacent_iff.mp snake.tail_second
    have atSecond := lowest toSecond declared
    rw [mapMoveInDirection_sameSize sameSize, moved_torus sized playable tailInside, ← step] at atSecond
    have secondInside := lies.inside _ (snake.mem_cells.mpr (Or.inr snake.second_mem))
    have low := atSecond ((vacate_owns lies secondInside).mpr (Or.inl snake.second_mem))
    have among := (vacate_owns lies (torusMove_inGrid tailInside direction)).mp owned
    rw [snake.rest_eq, List.cons_append] at numbered
    refine first_of_lowest numbered ?_ low
    rw [← List.cons_append, ← snake.rest_eq, List.mem_append, List.mem_singleton]
    exact among
  refine ⟨snake.advance _ edge free, snake.advance_cells edge free, ?_, ?_, ?_, Or.inl rfl, ?_, ?_⟩
  · simp [retail, pushChangelogTile, playerDataCacheSetTail, second]
  · simp [retail, pushChangelogTile, playerDataCacheSetTail, vacate, clearPlayerTail_cache, movePlayerHead,
      playerDataCacheSetHead]
  · intro c member
    rw [snake.advance_cells, List.mem_append, List.mem_singleton] at member
    rcases member with member | rfl
    · exact lies.inside c (snake.mem_cells.mpr (Or.inr member))
    · exact inside
  · intro c cInside
    rw [snake.advance_cells, List.mem_append, List.mem_singleton]
    exact vacate_owns lies cInside
  · rw [snake.advance_cells]
    exact numbered

/-- It lies on the map as a whole then. -/
theorem advanced_whole (orderFits : OrderFits state playerId) (way : Way state playerId)
    (found : mapFindPlayerNeighborWithLowestOrder (vacate state playerId).map playerId
      (state.data.playerDataCache.tail playerId) = some nextTail) :
    ∃ moved : Snake width height, Whole (retail (vacate state playerId) playerId nextTail).map
      (retail (vacate state playerId) playerId nextTail).playerDataCache playerId moved := by
  obtain ⟨moved, -, whole⟩ := advanced_cells sized playable lies orderFits way found
  exact ⟨moved, whole⟩

omit sized playable in
theorem fed_owns (fruit : (state.data.map.tiles (nextHead state playerId)).type = .fruit)
    (inside : c.InGrid width height) :
    nextHead state playerId ∉ held ∧
      (Owns (feedPlayer state playerId (nextHead state playerId)).data.map playerId c ↔
        c ∈ held ∨ c = nextHead state playerId) := by
  have vacant : nextHead state playerId ∉ held := fun member =>
    not_owns_of_type (by simp [fruit]) (held_owned lies member)
  refine ⟨vacant, ?_⟩
  have written : (feedPlayer state playerId (nextHead state playerId)).data.map.tiles c =
      if c = nextHead state playerId then headTile state playerId else state.data.map.tiles c :=
    movePlayerHead_tiles state playerId c
  split at written
  · rename_i here
    rw [Owns, written]
    exact ⟨fun _ => Or.inr here, fun _ => ⟨rfl, rfl⟩⟩
  · rename_i elsewhere
    rw [owns_of_tiles_eq written, lies.owned c inside]
    exact ⟨Or.inl, fun member => member.resolve_right elsewhere⟩

omit lies in
/-- A snake that eats grows by the fruit's cell. -/
theorem fed_cells (whole : Whole state.data.map state.data.playerDataCache playerId snake)
    (orderFits : OrderFits state playerId)
    (fruit : (state.data.map.tiles (nextHead state playerId)).type = .fruit) :
    ∃ grown : Snake width height, grown.cells = snake.cells ++ [nextHead state playerId] ∧
      Whole (feedPlayer state playerId (nextHead state playerId)).data.map
        (feedPlayer state playerId (nextHead state playerId)).data.playerDataCache playerId grown := by
  have inside := nextHead_inside sized playable whole
  have vacant := (fed_owns whole fruit inside).1
  have kept : ∀ c ∈ snake.cells,
      (movePlayerHead state.data playerId (nextHead state playerId)).map.tiles c = state.data.map.tiles c := by
    intro c member
    rw [movePlayerHead_tiles, if_neg]
    rintro rfl
    exact vacant member
  have numbered := headed_numbered whole orderFits kept
    ((movePlayerHead_tiles _ _ _).trans (if_pos rfl)) snake.getLast?_cells whole.numbered
  have edge := nextHead_adjacent sized playable whole
  refine ⟨snake.grow _ edge vacant, snake.grow_cells edge vacant, ?_, ?_, ?_, Or.inl rfl, ?_, ?_⟩
  · exact whole.tail
  · rw [snake.grow_head]
    exact if_pos rfl
  · intro c member
    rw [snake.grow_cells, List.mem_append, List.mem_singleton] at member
    rcases member with member | rfl
    · exact whole.inside c member
    · exact inside
  · intro c cInside
    rw [snake.grow_cells, List.mem_append, List.mem_singleton]
    exact (fed_owns whole fruit cInside).2
  · rw [snake.grow_cells]
    exact numbered

omit lies in
theorem fed_whole (whole : Whole state.data.map state.data.playerDataCache playerId snake)
    (orderFits : OrderFits state playerId)
    (fruit : (state.data.map.tiles (nextHead state playerId)).type = .fruit) :
    ∃ grown : Snake width height, Whole (feedPlayer state playerId (nextHead state playerId)).data.map
      (feedPlayer state playerId (nextHead state playerId)).data.playerDataCache playerId grown := by
  obtain ⟨grown, -, whole⟩ := fed_cells sized playable whole orderFits fruit
  exact ⟨grown, whole⟩

omit playable in
/-- Nothing of a snake survives its removal: the cached head is its own, and all
it holds hangs together with the head. -/
theorem removed_unowned
    (removed : Removed state.data.map playerId (state.data.playerDataCache.head playerId) final)
    (inside : c.InGrid width height) : ¬ Owns final playerId c := by
  intro owned
  by_cases reached : PlayerReaches state.data.map playerId (state.data.playerDataCache.head playerId) c
  · exact not_owns_of_type (by simp [removed.dead c reached]) owned
  · apply reached
    have member := (lies.owned c inside).mp ((owns_of_tiles_eq (removed.kept c reached)).mp owned)
    obtain ⟨linked, occupied, atEnd⟩ : ∃ (_ : held.IsChain (TorusAdjacent width height)) (occupied : held ≠ []),
        held.getLast occupied = snake.head := by
      rcases lies.holding with rfl | rfl
      · exact ⟨snake.linked, List.cons_ne_nil _ _, List.getLast_cons snake.occupied⟩
      · exact ⟨snake.rest_linked, snake.occupied, rfl⟩
    have path := reaches_back
      (fun a memberA _ _ edge => torusAdjacent_symm (held_inside lies memberA) edge) linked occupied member
    rw [atEnd, ← lies.head] at path
    obtain ⟨rfl, rfl⟩ := sized
    have headHeld : state.data.playerDataCache.head playerId ∈ held := by
      rw [lies.head, ← atEnd]
      exact List.getLast_mem _
    have live : ∀ c ∈ held, state.data.map.InBounds c ∧ Owns state.data.map playerId c :=
      fun c member => ⟨held_inside lies member, held_owned lies member⟩
    exact reaches_mono live ⟨headHeld, path⟩

end

/-- A new snake is two cells long, its head the cell the search chose. -/
theorem spawned_cells (sized : data.map.width = width ∧ data.map.height = height)
    (playable : Playable data.map) (wide : 2 ≤ width) (high : 2 ≤ height)
    (unowned : ∀ c, c.InGrid width height → ¬ Owns data.map playerId c)
    (site : SpawnSite data.map head tail direction)
    (planted : Planted (placePlayer data playerId head tail) after) :
    ∃ spawned : Snake width height, spawned.cells = [tail, head] ∧
      Whole after.map after.playerDataCache playerId spawned := by
  obtain ⟨rfl, rfl⟩ := sized
  have step := site.step
  rw [mapMoveInDirection_eq playable.fits site.inside] at step
  have edge : TorusAdjacent data.map.width data.map.height head tail := ⟨direction, step⟩
  have tailInside := torusAdjacent_inGrid site.inside edge
  have distinct : tail ≠ head := step ▸ torusMove_ne wide high site.inside direction
  have atTail : (placePlayer data playerId head tail).map.tiles tail =
      { order := 0, type := .player, player := playerId } := if_pos rfl
  have atHead : (placePlayer data playerId head tail).map.tiles head =
      { order := 1, type := .player, player := playerId } :=
    (placePlayer_tiles data playerId head tail head).trans ((if_neg distinct.symm).trans (if_pos rfl))
  have kept : ∀ c order, (placePlayer data playerId head tail).map.tiles c =
      { order, type := .player, player := playerId } →
        after.map.tiles c = { order, type := .player, player := playerId } := by
    intro c order tile
    refine (planted_tiles planted c).elim (fun same => same.trans tile) fun changed => ?_
    rw [tile] at changed
    cases changed.1
  refine ⟨Trail.start tail head (torusAdjacent_symm site.inside edge) distinct, rfl, ?_, ?_, ?_, Or.inl rfl, ?_, ?_⟩
  · rw [planted_cache planted]
    exact if_pos rfl
  · rw [planted_cache planted]
    exact if_pos rfl
  · intro c member
    simp only [Trail.cells, Trail.start, List.mem_cons, List.not_mem_nil, or_false] at member
    rcases member with rfl | rfl
    · exact tailInside
    · exact site.inside
  · intro c inside
    simp only [Trail.cells, Trail.start, List.mem_cons, List.not_mem_nil, or_false]
    rw [planted_owns planted]
    constructor
    · intro owned
      by_contra elsewhere
      rw [not_or] at elsewhere
      have before : (placePlayer data playerId head tail).map.tiles c = data.map.tiles c :=
        (placePlayer_tiles data playerId head tail c).trans ((if_neg elsewhere.1).trans (if_neg elsewhere.2))
      exact unowned c inside ((owns_of_tiles_eq before).mp owned)
    · rintro (rfl | rfl)
      · rw [Owns, atTail]
        exact ⟨rfl, rfl⟩
      · rw [Owns, atHead]
        exact ⟨rfl, rfl⟩
  · refine ⟨0, ?_⟩
    simp [Trail.cells, Trail.start, kept tail 0 atTail, kept head 1 atHead, List.range']

theorem spawned_whole (sized : data.map.width = width ∧ data.map.height = height)
    (playable : Playable data.map) (wide : 2 ≤ width) (high : 2 ≤ height)
    (unowned : ∀ c, c.InGrid width height → ¬ Owns data.map playerId c)
    (site : SpawnSite data.map head tail direction)
    (planted : Planted (placePlayer data playerId head tail) after) :
    ∃ spawned : Snake width height, Whole after.map after.playerDataCache playerId spawned := by
  obtain ⟨spawned, -, whole⟩ := spawned_cells sized playable wide high unowned site planted
  exact ⟨spawned, whole⟩

/-! ## Snakes as lists of cells -/

/-- The cells of a player's snake, from its cached tail to its cached head. -/
structure SnakeCells (map : Map) (cache : PlayerDataCache) (player : Nat) (list : List Coordinates) : Prop where
  length : 2 ≤ list.length
  nodup : list.Nodup
  inside : ∀ c ∈ list, map.InBounds c
  tail : list.head? = some (playerDataCacheGetTail cache player)
  head : list.getLast? = some (playerDataCacheGetHead cache player)
  linked : list.IsChain (TorusAdjacent map.width map.height)
  owned : ∀ i c, list[i]? = some c → Owns map player c ∧
    (map.tiles c).order = (map.tiles (playerDataCacheGetTail cache player)).order + i
  complete : ∀ c, map.InBounds c → Owns map player c → c ∈ list

theorem whole_snakeCells {cache : PlayerDataCache} {snake : Snake map.width map.height}
    (whole : Whole map cache player snake) : SnakeCells map cache player snake.cells where
  length := snake.two_le_length
  nodup := snake.nodup
  inside := whole.inside
  tail := congrArg some whole.tail.symm
  head := snake.getLast?_cells.trans (congrArg some whole.head.symm)
  linked := snake.linked
  owned := by
    intro i c position
    refine ⟨held_owned whole (List.mem_of_getElem? position), ?_⟩
    unfold playerDataCacheGetTail
    rw [whole.tail]
    have numbered : Numbered (fun c => (map.tiles c).order) (snake.tail :: snake.rest) := whole.numbered
    have above := numbered_getElem numbered position
    exact above
  complete := fun c inside => (whole.owned c inside).mp

/-- A list of cells as the snake it is. -/
theorem snakeCells_whole {cache : PlayerDataCache} {list : List Coordinates}
    (snakeCells : SnakeCells map cache player list) :
    ∃ snake : Snake map.width map.height, Whole map cache player snake := by
  obtain ⟨length, nodup, inside, tail, head, linked, owned, complete⟩ := snakeCells
  match list, length with
  | first :: second :: rest, _ =>
    obtain rfl : first = cache.tail player := Option.some.inj tail
    let snake : Snake map.width map.height :=
      { tail := cache.tail player, rest := second :: rest, occupied := List.cons_ne_nil _ _, nodup, linked }
    have numbers : ∀ i c, (cache.tail player :: second :: rest)[i]? = some c →
        (map.tiles c).order = (map.tiles (cache.tail player)).order + i := fun i c position => (owned i c position).2
    refine ⟨snake, rfl, ?_, inside, Or.inl rfl, fun c cInside => ⟨complete c cInside, fun member => ?_⟩, ?_⟩
    · exact Option.some.inj (head.symm.trans snake.getLast?_cells)
    · obtain ⟨i, position⟩ := List.getElem?_of_mem member
      exact (owned i c position).1
    · exact numbered_of_getElem numbers

end SnakePosix.Snakes
