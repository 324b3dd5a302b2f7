import Mathlib.Data.List.GetD
import SnakePosix.Foundation.Exploration
import SnakePosix.Torus

/-! What the operations of `map.c` do: each write changes one tile, each search
looks where it says, and both recursions come back at the depth they are given. -/
namespace SnakePosix.MapProofs
open Exploration Torus

/-! ## Writes -/

section
variable (map : Map) (c c' : Coordinates)

theorem mapSetTileState_tiles (tile : MapTile) :
    (mapSetTileState map c tile).tiles = Function.update map.tiles c tile := by
  funext other
  simp only [mapSetTileState, Function.update_apply]

@[simp] theorem mapSetTileState_same (tile : MapTile) : (mapSetTileState map c tile).tiles c = tile := by
  simp [mapSetTileState]

theorem mapSetTileState_other (tile : MapTile) (other : c' ≠ c) :
    (mapSetTileState map c tile).tiles c' = map.tiles c' := by
  simp [mapSetTileState, other]

end

variable {map grid : Map} {c c' : Coordinates} {direction : Direction} {directions : List Direction}
  {player : Nat} {predicate : Map → Coordinates → Bool}

/-- The two maps have one size. -/
def SameSize (first second : Map) : Prop := first.width = second.width ∧ first.height = second.height

theorem SameSize.trans (early : SameSize first second) (late : SameSize second third) : SameSize first third :=
  ⟨Eq.trans early.1 late.1, Eq.trans early.2 late.2⟩

theorem mapMoveInDirection_sameSize (same : SameSize first second) (c : Coordinates)
    (direction : Direction) : mapMoveInDirection first c direction = mapMoveInDirection second c direction := by
  unfold mapMoveInDirection mapGetHeight mapGetWidth
  rw [same.1, same.2]

/-- The tile at the cell is one of the player's. -/
def Owns (map : Map) (player : Nat) (c : Coordinates) : Prop :=
  (map.tiles c).type = .player ∧ (map.tiles c).player = player

instance (map : Map) (player : Nat) : DecidablePred (Owns map player) :=
  fun _ => inferInstanceAs (Decidable (_ ∧ _))

theorem owns_unique (first : Owns map p c) (second : Owns map q c) : p = q :=
  first.2.symm.trans second.2

theorem owns_of_tiles_eq (same : after.tiles c = before.tiles c) : Owns after p c ↔ Owns before p c := by
  unfold Owns
  rw [same]

theorem not_owns_of_type (type : (map.tiles c).type ≠ .player) : ¬ Owns map p c := fun owned =>
  type owned.1

/-! ## Initialisation -/

theorem foldl_writes (tile : Coordinates → MapTile) (list : List Coordinates) (map : Map) :
    let final := list.foldl (fun map cell => mapSetTileState map cell (tile cell)) map
    SameSize final map ∧ ∀ c, final.tiles c = if c ∈ list then tile c else map.tiles c := by
  induction list generalizing map with
  | nil => exact ⟨⟨rfl, rfl⟩, by simp⟩
  | cons cell rest ih =>
    obtain ⟨size, tiles⟩ := ih (mapSetTileState map cell (tile cell))
    refine ⟨size, fun c => ?_⟩
    simp only [List.foldl_cons, tiles c, List.mem_cons]
    by_cases later : c ∈ rest
    · simp [later]
    · by_cases here : c = cell
      · simp [here]
      · simp [later, here, mapSetTileState_other]

theorem mapInitFromTemplate_size (map : Map) (template : MapTemplate) :
    (mapInitFromTemplate map template).width = template.width ∧
      (mapInitFromTemplate map template).height = template.height :=
  (foldl_writes _ _ _).1

/-- Every cell of the new map is a wall or empty, as the template has it. -/
theorem mapInitFromTemplate_tiles (map : Map) (template : MapTemplate)
    (inside : c.InGrid template.width template.height) :
    (mapInitFromTemplate map template).tiles c =
      { order := 0, type := if template.walls c then .wall else .empty, player := 0 } := by
  exact ((foldl_writes _ _ _).2 c).trans (if_pos (mem_cells.mpr inside))

/-! ## Looking around a cell -/

/-- What is known of the best neighbor after some of the directions. -/
private structure BestOf (map : Map) (player : Nat) (c : Coordinates) (seen : List Direction)
    (best : Option Coordinates) : Prop where
  found : ∀ b, best = some b → (∃ direction ∈ seen, b = mapMoveInDirection map c direction) ∧
    Owns map player b ∧ ∀ direction ∈ seen, Owns map player (mapMoveInDirection map c direction) →
      (map.tiles b).order ≤ (map.tiles (mapMoveInDirection map c direction)).order
  missed : best = none → ∀ direction ∈ seen, ¬ Owns map player (mapMoveInDirection map c direction)

private theorem bestOf_assign (held : BestOf map player c seen best) :
    BestOf map player c (seen ++ [direction]) (mapAssignBetterTile map player c best direction) := by
  unfold mapAssignBetterTile
  dsimp only
  split
  · rename_i better
    have owned : Owns map player (mapMoveInDirection map c direction) := ⟨better.1, better.2.1⟩
    refine ⟨?_, nofun⟩
    rintro b ⟨⟩
    refine ⟨⟨direction, by simp, rfl⟩, owned, fun other member othersOwned => ?_⟩
    rcases List.mem_append.mp member with member | member
    · cases best with
      | none => exact absurd othersOwned (held.missed rfl other member)
      | some old =>
        have lower : (map.tiles old).order > (map.tiles (mapMoveInDirection map c direction)).order := by
          simpa using better.2.2
        exact (Nat.le_of_lt lower).trans ((held.found old rfl).2.2 other member othersOwned)
    · rw [List.mem_singleton.mp member]
  · rename_i notBetter
    constructor
    · rintro b rfl
      obtain ⟨⟨source, member, rfl⟩, owned, least⟩ := held.found b rfl
      refine ⟨⟨source, by simp [member], rfl⟩, owned, fun other member othersOwned => ?_⟩
      rcases List.mem_append.mp member with member | member
      · exact least other member othersOwned
      · rw [List.mem_singleton.mp member] at othersOwned ⊢
        by_contra higher
        exact notBetter ⟨othersOwned.1, othersOwned.2, by simpa using Nat.lt_of_not_le higher⟩
    · rintro rfl other member owned
      rcases List.mem_append.mp member with member | member
      · exact held.missed rfl other member owned
      · rw [List.mem_singleton.mp member] at owned
        exact notBetter ⟨owned.1, owned.2, rfl⟩

private theorem lowest_bestOf : BestOf map player c neighborDirections
    (mapFindPlayerNeighborWithLowestOrder map player c) := by
  have empty : BestOf map player c [] none := ⟨nofun, nofun⟩
  exact bestOf_assign (bestOf_assign (bestOf_assign (bestOf_assign empty)))

/-- The neighbor found is the player's, and none of the player's other neighbors
has a lower order. -/
theorem lowest_found (found : mapFindPlayerNeighborWithLowestOrder map player c = some b) :
    (∃ direction ∈ neighborDirections, b = mapMoveInDirection map c direction) ∧ Owns map player b ∧
      ∀ direction ∈ neighborDirections, Owns map player (mapMoveInDirection map c direction) →
        (map.tiles b).order ≤ (map.tiles (mapMoveInDirection map c direction)).order :=
  lowest_bestOf.found b found

/-- The search fails only where no neighbor is the player's. -/
theorem lowest_missed (missed : mapFindPlayerNeighborWithLowestOrder map player c = none)
    (member : direction ∈ neighborDirections) :
    ¬ Owns map player (mapMoveInDirection map c direction) :=
  lowest_bestOf.missed missed direction member

theorem emptyNeighbor_found (found : mapFindEmptyNeighbor map c = some (tail, direction)) :
    direction ∈ neighborDirections ∧ tail = mapMoveInDirection map c direction ∧
      (map.tiles tail).type = .empty := by
  obtain ⟨source, member, hit⟩ := List.exists_of_findSome?_eq_some found
  dsimp only at hit
  split at hit
  · rename_i empty
    simp only [Option.some.injEq, Prod.mk.injEq] at hit
    obtain ⟨rfl, rfl⟩ := hit
    exact ⟨member, rfl, empty⟩
  · cases hit

/-! ## Removing a dead snake -/

/-- `map_mark_player_as_dead` as an exploration of one player's tiles. `grid`
fixes the size; the marks are the writes to the map itself. -/
def deadExplorer (grid : Map) (player : Nat) : Explorer Coordinates Map where
  fresh := fun map c => decide (Owns map player c)
  goal := fun _ => false
  mark := mapSetTileDead
  next := fun map c => (neighborDirections.map (mapMoveInDirection grid c), map)

theorem mapSetTileDead_other (other : c' ≠ c) : (mapSetTileDead map c).tiles c' = map.tiles c' :=
  mapSetTileState_other _ _ _ _ other

theorem mapSetTileDead_same : (mapSetTileDead map c).tiles c = { map.tiles c with type := .dead } :=
  mapSetTileState_same _ _ _

theorem mem_moved (fits : FitsWord grid.width grid.height) (inside : grid.InBounds c)
    (all : ∀ direction, direction ∈ directions ↔ direction ∈ neighborDirections) :
    c' ∈ directions.map (mapMoveInDirection grid c) ↔ TorusAdjacent grid.width grid.height c c' := by
  rw [torusAdjacent_iff]
  simp only [List.mem_map, all, mapMoveInDirection_eq fits inside, eq_comm]

theorem deadExplorer_lawful (grid : Map) (player : Nat) (fits : FitsWord grid.width grid.height) :
    Lawful (deadExplorer grid player) (region grid.width grid.height)
      (TorusAdjacent grid.width grid.height) where
  fresh_mark := by
    intro map a _ b _
    simp only [deadExplorer, decide_eq_true_eq]
    by_cases same : b = a
    · subst same
      simp [Owns, mapSetTileDead_same]
    · rw [owns_of_tiles_eq (mapSetTileDead_other same)]
      simp [same]
  fresh_next := fun _ _ _ => rfl
  mem_next := fun _ _ inside _ => mem_moved fits (mem_region.mp inside) fun _ => Iff.rfl
  closed := fun _ inside _ edge => mem_region.mpr (torusAdjacent_inGrid (mem_region.mp inside) edge)

theorem mapMarkPlayerAsDead_sameSize (ran : mapMarkPlayerAsDead depth map player c = some final) :
    SameSize final map := by
  induction depth generalizing map c final with
  | zero => simp [mapMarkPlayerAsDead] at ran
  | succ depth ih =>
    unfold mapMarkPlayerAsDead at ran
    dsimp only at ran
    split at ran
    · cases ran
      exact ⟨rfl, rfl⟩
    · simp only [Option.bind_eq_bind, Option.bind_eq_some_iff] at ran
      obtain ⟨first, ranUp, second, ranDown, third, ranLeft, ranRight⟩ := ran
      have up := ih ranUp
      have down := ih ranDown
      have left := ih ranLeft
      have right := ih ranRight
      exact ⟨right.1.trans (left.1.trans (down.1.trans up.1)),
        right.2.trans (left.2.trans (down.2.trans up.2))⟩

private theorem mapMarkPlayerAsDead_explore (same : SameSize map grid) :
    mapMarkPlayerAsDead depth map player c =
      (explore (deadExplorer grid player) depth c map).map Prod.snd := by
  induction depth generalizing map c with
  | zero => rfl
  | succ depth ih =>
    have misses : ∀ a before found after,
        explore (deadExplorer grid player) depth a before = some (found, after) → found = none :=
      fun _ _ _ _ ran => explore_goalless (fun _ => rfl) ran
    have sequence : ∀ directions : List Direction, ∀ map : Map, SameSize map grid →
        (firstHit (explore (deadExplorer grid player) depth)
            (directions.map (mapMoveInDirection grid c)) map).map Prod.snd =
          directions.foldlM (fun map direction =>
            mapMarkPlayerAsDead depth map player (mapMoveInDirection map c direction)) map := by
      intro directions
      induction directions with
      | nil => intro map _; rfl
      | cons direction rest inner =>
        intro map same
        rw [List.map_cons, firstHit_goalless _ misses, List.foldlM_cons,
          mapMoveInDirection_sameSize same, ← ih same]
        cases ran : mapMarkPlayerAsDead depth map player (mapMoveInDirection grid c direction) with
        | none => rfl
        | some next =>
          have kept := mapMarkPlayerAsDead_sameSize ran
          exact inner next (kept.trans same)
    unfold mapMarkPlayerAsDead explore
    dsimp only
    by_cases owned : Owns map player c
    · rw [if_neg (by simpa [Owns, not_or] using owned), if_pos (by simpa [deadExplorer] using owned)]
      have unrolled := sequence neighborDirections (mapSetTileDead map c) same
      simpa [neighborDirections, deadExplorer] using unrolled.symm
    · rw [if_pos (by simpa [Owns, imp_iff_not_or] using owned), if_neg (by simpa [deadExplorer] using owned)]
      rfl

/-- A path over one player's tiles. -/
def PlayerReaches (map : Map) (player : Nat) : Coordinates → Coordinates → Prop :=
  Reaches (fun c => map.InBounds c ∧ Owns map player c) (TorusAdjacent map.width map.height)

private theorem live_deadExplorer (same : SameSize map grid) :
    Live (deadExplorer grid player) (region grid.width grid.height) map =
      fun c => map.InBounds c ∧ Owns map player c := by
  funext c
  simp [Live, deadExplorer, Map.InBounds, same.1, same.2]

/-- The flood comes back, and turns exactly the tiles it reaches into dead ones. -/
theorem mapMarkPlayerAsDead_exact (fits : FitsWord map.width map.height) (inside : map.InBounds c)
    (player : Nat) :
    ∃ final, mapMarkPlayerAsDead map.searchDepth map player c = some final ∧ SameSize final map ∧
      (∀ c', PlayerReaches map player c c' → final.tiles c' = { map.tiles c' with type := .dead }) ∧
      ∀ c', ¬ PlayerReaches map player c c' → final.tiles c' = map.tiles c' := by
  have lawful := deadExplorer_lawful map player fits
  have member : c ∈ region map.width map.height := mem_region.mpr inside
  have size : SameSize map map := ⟨rfl, rfl⟩
  have enough : freshCount (deadExplorer map player) (region map.width map.height) map < map.searchDepth := by
    have bound := Finset.card_filter_le (region map.width map.height)
      (fun a => (deadExplorer map player).fresh map a = true)
    rw [region_card] at bound
    exact Nat.lt_succ_of_le bound
  obtain ⟨⟨found, final⟩, ran⟩ := Option.isSome_iff_exists.mp (explore_terminates lawful member enough)
  cases explore_goalless (fun _ => rfl) ran
  have marked : mapMarkPlayerAsDead map.searchDepth map player c = some final := by
    rw [mapMarkPlayerAsDead_explore size, ran]
    rfl
  have sizeAfter := mapMarkPlayerAsDead_sameSize marked
  have exactly := explore_exact lawful member ran
  simp only [live_deadExplorer size, live_deadExplorer sizeAfter] at exactly
  -- A tile is as it was, or it was the player's and is dead.
  have written := explore_preserves lawful
    (fun state => ∀ c', state.tiles c' = map.tiles c' ∨
      (map.InBounds c' ∧ Owns map player c') ∧ state.tiles c' = { map.tiles c' with type := .dead })
    (by
      intro state a within kept fresh c'
      by_cases here : c' = a
      · subst here
        have owned : Owns state player c' := by simpa [deadExplorer] using fresh
        rcases kept c' with same | dead
        · refine Or.inr ⟨⟨mem_region.mp within, (owns_of_tiles_eq same).mp owned⟩, ?_⟩
          rw [show (deadExplorer map player).mark state c' = mapSetTileDead state c' from rfl]
          exact mapSetTileDead_same.trans (by rw [same])
        · exact absurd (dead.2 ▸ owned.1 : ({ map.tiles c' with type := .dead } : MapTile).type = .player) nofun
      · rcases kept c' with same | dead
        · exact Or.inl ((mapSetTileDead_other here).trans same)
        · exact Or.inr ⟨dead.1, (mapSetTileDead_other here).trans dead.2⟩)
    member (fun _ => Or.inl rfl) ran
  refine ⟨final, marked, sizeAfter, fun c' path => ?_, fun c' apart => ?_⟩
  · rcases written c' with same | dead
    · have held := reaches_live path
      have live : final.InBounds c' ∧ Owns final player c' :=
        ⟨by unfold Map.InBounds; rw [sizeAfter.1, sizeAfter.2]; exact held.1,
          (owns_of_tiles_eq same).mpr held.2⟩
      exact absurd path ((exactly c').mp live).2
    · exact dead.2
  · rcases written c' with same | dead
    · exact same
    · have live := (exactly c').mpr ⟨dead.1, apart⟩
      exact absurd (dead.2 ▸ live.2.1 : ({ map.tiles c' with type := .dead } : MapTile).type = .player) nofun

/-! ## Random search -/

theorem shuffleDirections_perm (swaps : Nat) (directions : List Direction) (rng : Rng)
    (four : directions.length = 4) : (shuffleDirections directions swaps rng).1.Perm directions := by
  induction swaps generalizing directions rng with
  | zero => exact List.Perm.refl _
  | succ swaps ih =>
    have source : rng.draws rng.used % 4 < directions.length := by omega
    have target : rng.draws (rng.used + 1) % 4 < directions.length := by omega
    have swapped := List.set_set_perm source target
    unfold shuffleDirections
    simp only [rngUniformDist, Nat.zero_add, Nat.sub_zero, List.getD_eq_getElem _ _ source,
      List.getD_eq_getElem _ _ target]
    exact (ih _ _ (by simpa using four)).trans swapped

/-- A cell's place in the array of visited cells. -/
def searchIndex (map : Map) (c : Coordinates) : Nat :=
  wrap32 (wrap32 (map.width * c.row) + c.column)

theorem searchIndex_eq (fits : FitsWord map.width map.height) (inside : map.InBounds c) :
    searchIndex map c = map.width * c.row + c.column ∧ searchIndex map c < map.width * map.height := by
  have below : map.width * c.row + c.column < map.width * map.height := by
    calc map.width * c.row + c.column < map.width * c.row + map.width := by have := inside.2; omega
      _ = map.width * (c.row + 1) := (Nat.mul_succ _ _).symm
      _ ≤ map.width * map.height := Nat.mul_le_mul_left _ inside.1
  have product := fits.product
  have exactly : searchIndex map c = map.width * c.row + c.column := by
    unfold searchIndex wrap32
    rw [Nat.mod_eq_of_lt (a := map.width * c.row) (by omega), Nat.mod_eq_of_lt (by omega)]
  exact ⟨exactly, exactly ▸ below⟩

theorem searchIndex_injective (fits : FitsWord map.width map.height) (inside : map.InBounds c)
    (inside' : map.InBounds c') (same : searchIndex map c = searchIndex map c') : c = c' := by
  rw [(searchIndex_eq fits inside).1, (searchIndex_eq fits inside').1] at same
  have columnBound := inside.2
  have columnBound' := inside'.2
  have row : c.row = c'.row := by
    have positive : 0 < map.width := Nat.zero_lt_of_lt columnBound
    have quotient := congrArg (· / map.width) same
    simpa [Nat.mul_add_div positive, Nat.div_eq_of_lt columnBound, Nat.div_eq_of_lt columnBound'] using quotient
  have column : c.column = c'.column := by
    rw [row] at same
    omega
  cases c
  cases c'
  simp_all

/-- The random search as an exploration of the whole map. -/
def searchExplorer (map : Map) (predicate : Map → Coordinates → Bool) :
    Explorer Coordinates MapSearchData where
  fresh := fun data c => !data.visited (searchIndex map c)
  goal := predicate map
  mark := fun data c =>
    { data with visited := fun i => if i = searchIndex map c then true else data.visited i }
  next := fun data c =>
    let shuffled := shuffleDirections [.up, .down, .left, .right] 4 data.rng
    (shuffled.1.map (mapMoveInDirection map c), { data with rng := shuffled.2 })

theorem searchExplorer_lawful (map : Map) (predicate : Map → Coordinates → Bool)
    (fits : FitsWord map.width map.height) :
    Lawful (searchExplorer map predicate) (region map.width map.height)
      (TorusAdjacent map.width map.height) where
  fresh_mark := by
    intro data a insideA b insideB
    by_cases same : b = a
    · simp [searchExplorer, same]
    · have apart : searchIndex map b ≠ searchIndex map a := fun equal =>
        same (searchIndex_injective fits (mem_region.mp insideB) (mem_region.mp insideA) equal)
      simp [searchExplorer, same, apart]
  fresh_next := fun _ _ _ => rfl
  mem_next := fun _ _ inside _ =>
    mem_moved fits (mem_region.mp inside) fun _ => (shuffleDirections_perm 4 _ _ rfl).mem_iff
  closed := fun _ inside _ edge => mem_region.mpr (torusAdjacent_inGrid (mem_region.mp inside) edge)

theorem mapFindRandomMatchingPredicateSearch_explore :
    mapFindRandomMatchingPredicateSearch map predicate depth = explore (searchExplorer map predicate) depth := by
  induction depth with
  | zero => rfl
  | succ depth ih =>
    funext c data
    unfold mapFindRandomMatchingPredicateSearch explore
    rw [ih]
    cases visited : data.visited (searchIndex map c) with
    | false =>
      have fresh : (searchExplorer map predicate).fresh data c = true := by simp [searchExplorer, visited]
      have unvisited : ¬ data.visited (searchIndex map c) = true := by simp [visited]
      rw [if_pos fresh]
      exact if_neg unvisited
    | true =>
      have stale : ¬ (searchExplorer map predicate).fresh data c = true := by
        simp [searchExplorer, visited]
      rw [if_neg stale]
      exact if_pos visited

theorem rngUniformDist_lt (positive : 0 < bound) : (rngUniformDist 0 bound rng).1 < bound := by
  simp [rngUniformDist, Nat.mod_lt _ positive]

/-- The random search comes back, and what it finds lies on the map and matches. -/
theorem mapFindRandomMatchingPredicate_spec (fits : FitsWord map.width map.height)
    (wide : 0 < map.width) (high : 0 < map.height) (predicate : Map → Coordinates → Bool) (rng : Rng) :
    ∃ found rng', mapFindRandomMatchingPredicate map predicate rng = some (found, rng') ∧
      ∀ c, found = some c → map.InBounds c ∧ predicate map c = true := by
  have lawful := searchExplorer_lawful map predicate fits
  let row := rngUniformDist 0 map.height rng
  let column := rngUniformDist 0 map.width row.2
  have inside : ({ row := row.1, column := column.1 } : Coordinates) ∈ region map.width map.height :=
    mem_region.mpr ⟨rngUniformDist_lt high, rngUniformDist_lt wide⟩
  let data : MapSearchData := { visited := fun _ => false, rng := column.2 }
  have enough : freshCount (searchExplorer map predicate) (region map.width map.height) data <
      map.searchDepth := by
    have bound := Finset.card_filter_le (region map.width map.height)
      (fun a => (searchExplorer map predicate).fresh data a = true)
    rw [region_card] at bound
    exact Nat.lt_succ_of_le bound
  obtain ⟨⟨found, final⟩, ran⟩ := Option.isSome_iff_exists.mp (explore_terminates lawful inside enough)
  refine ⟨found, final.rng, ?_, fun c hit => ?_⟩
  · have searched := ran
    rw [← mapFindRandomMatchingPredicateSearch_explore] at searched
    simp only [mapFindRandomMatchingPredicate, Option.bind_eq_bind]
    exact (congrArg (Option.bind · _) searched).trans rfl
  · obtain ⟨held, met⟩ := (explore_explored lawful inside ran).goal c hit
    exact ⟨mem_region.mp held.1, met⟩

end SnakePosix.MapProofs
