import Mathlib.Data.Nat.Init
import SnakePosix.MapProofs

/-! The random search finds a matching tile exactly when the map has one. It enters
every cell it can reach, the torus is connected, and the array of visited cells
holds every index it looks at. -/
namespace SnakePosix.RandomSearch
open Cyclic Exploration MapProofs Relation Torus

variable {map : Map} {predicate : Map → Coordinates → Bool} {width height : Nat} {c c' : Coordinates}

/-- Sizes whose cells an `unsigned int` can count. -/
theorem fitsWord_of_cells (wide : 1 ≤ width) (high : 1 ≤ height) (countable : width * height < 2 ^ 32) :
    FitsWord width height where
  columns := (Nat.le_mul_of_pos_right width high).trans countable.le
  rows := (Nat.le_mul_of_pos_left height wide).trans countable.le
  product := countable.le

/-! ## The torus is connected -/

/-- One step between two cells of a grid. -/
def GridStep (width height : Nat) (c c' : Coordinates) : Prop :=
  TorusAdjacent width height c c' ∧ c.InGrid width height ∧ c'.InGrid width height

instance : Std.Symm (GridStep width height) where
  symm := fun _ _ step => ⟨torusAdjacent_symm step.2.1 step.1, step.2.2, step.2.1⟩

private theorem down_column (row : Nat) (inside : (⟨row, column⟩ : Coordinates).InGrid width height) :
    ReflTransGen (GridStep width height) ⟨0, column⟩ ⟨row, column⟩ := by
  induction row with
  | zero => exact .refl
  | succ row ih =>
    have above : (⟨row, column⟩ : Coordinates).InGrid width height := ⟨Nat.lt_of_succ_lt inside.1, inside.2⟩
    have bound : row + 1 < height := inside.1
    refine .tail (ih above) ⟨⟨.down, ?_⟩, above, inside⟩
    simp only [torusMove, forward]
    rw [if_neg (by omega)]

private theorem along_row (column : Nat) (inside : (⟨0, column⟩ : Coordinates).InGrid width height) :
    ReflTransGen (GridStep width height) ⟨0, 0⟩ ⟨0, column⟩ := by
  induction column with
  | zero => exact .refl
  | succ column ih =>
    have before : (⟨0, column⟩ : Coordinates).InGrid width height := ⟨inside.1, Nat.lt_of_succ_lt inside.2⟩
    have bound : column + 1 < width := inside.2
    refine .tail (ih before) ⟨⟨.right, ?_⟩, before, inside⟩
    simp only [torusMove, forward]
    rw [if_neg (by omega)]

private theorem from_corner (inside : c.InGrid width height) :
    ReflTransGen (GridStep width height) ⟨0, 0⟩ c :=
  (along_row c.column ⟨Nat.zero_lt_of_lt inside.1, inside.2⟩).trans (down_column c.row inside)

/-- Every cell of a grid is reached from every other. -/
theorem torus_connected (inside : c.InGrid width height) (inside' : c'.InGrid width height) :
    ReflTransGen (GridStep width height) c c' :=
  (Std.Symm.symm _ _ (from_corner inside)).trans (from_corner inside')

/-! ## What the search finds -/

/-- A search that starts with nothing visited and finds nothing has seen every
cell of the map. -/
private theorem search_misses (fits : FitsWord map.width map.height) (inside : map.InBounds c)
    (unvisited : ∀ i, data.visited i = false)
    (ran : explore (searchExplorer map predicate) depth c data = some (none, after))
    (inside' : map.InBounds c') : predicate map c' = false := by
  have live : ∀ c', map.InBounds c' →
      Live (searchExplorer map predicate) (region map.width map.height) data c' := by
    intro c' inside'
    exact ⟨mem_region.mpr inside', by simp [searchExplorer, unvisited]⟩
  refine explore_misses (searchExplorer_lawful map predicate fits) (mem_region.mpr inside) ran
    ⟨live c inside, ?_⟩
  exact ReflTransGen.mono (fun _ b step => ⟨step.1, live b step.2.2⟩) _ _ (torus_connected inside inside')

/-! ## The array of visited cells -/

/-- The array holds the marks of a search. -/
structure Holds (map : Map) (data : MapSearchData) (array : MapSearchArrayData) : Prop where
  rng : array.rng = data.rng
  length : array.visited.length = map.width * map.height
  visited : ∀ i < map.width * map.height, array.visited[i]? = some (data.visited i)

private theorem holds_mark (rng : Rng) (holds : Holds map data array) :
    Holds map { visited := fun i => if i = index then true else data.visited i, rng }
      { visited := array.visited.set index true, rng } where
  rng := rfl
  length := by simpa using holds.length
  visited := by
    intro i bound
    have same := holds.visited i bound
    by_cases here : i = index
    · subst here
      have within : i < array.visited.length := holds.length ▸ bound
      simp [within]
    · simpa [List.getElem?_set, here, Ne.symm here] using same

/-- On the array the search does what it does on the marks. -/
theorem searchArray_holds (fits : FitsWord map.width map.height) (inside : map.InBounds c)
    (holds : Holds map data array)
    (ran : mapFindRandomMatchingPredicateSearch map predicate depth c data = some (found, after)) :
    ∃ arrayAfter, mapFindRandomMatchingPredicateSearchArray map predicate depth c array =
      some (found, arrayAfter) ∧ Holds map after arrayAfter := by
  induction depth generalizing c data array found after with
  | zero => cases ran
  | succ depth ih =>
    have index : array.visited[searchIndex map c]? = some (data.visited (searchIndex map c)) :=
      holds.visited _ (searchIndex_eq fits inside).2
    have neighbors : ∀ c' ∈ (shuffleDirections [.up, .down, .left, .right] 4 data.rng).1.map
        (mapMoveInDirection map c), map.InBounds c' := by
      intro c' member
      have edge := (mem_moved fits inside fun _ => (shuffleDirections_perm 4 _ _ rfl).mem_iff).mp member
      exact torusAdjacent_inGrid inside edge
    unfold mapFindRandomMatchingPredicateSearch at ran
    unfold mapFindRandomMatchingPredicateSearchArray
    simp only [searchIndex] at index
    simp only [index, holds.rng, Option.bind_eq_bind, Option.bind_some] at ran ⊢
    split at ran
    · rename_i seen
      cases ran
      exact ⟨array, if_pos seen, holds⟩
    · rename_i fresh
      rw [if_neg fresh]
      split at ran
      · rename_i met
        cases ran
        exact ⟨array, if_pos met, holds⟩
      · rename_i unmet
        rw [if_neg unmet]
        exact firstHit_related (Holds map) _
          (fun c' member _ _ held _ _ visited => ih (neighbors c' member) held visited)
          (holds_mark _ holds) ran

/-- The start of a search: a cell of the map, and nothing visited. -/
private theorem search_start (wide : 1 ≤ map.width) (high : 1 ≤ map.height)
    (searched : mapFindRandomMatchingPredicate map predicate rng = some (found, rng')) :
    ∃ c drawn after, map.InBounds c ∧
      mapFindRandomMatchingPredicateSearch map predicate map.searchDepth c
        { visited := fun _ => false, rng := drawn } = some (found, after) ∧
      rng' = after.rng ∧
      ∀ arrayAfter, mapFindRandomMatchingPredicateSearchArray map predicate map.searchDepth c
          { visited := List.replicate (wrap32 (map.width * map.height)) false, rng := drawn } =
            some (found, arrayAfter) →
        mapFindRandomMatchingPredicateArray map predicate rng = some (found, arrayAfter.rng) := by
  simp only [mapFindRandomMatchingPredicate, Option.bind_eq_bind, Option.bind_eq_some_iff, Prod.exists,
    Option.some.injEq, Prod.mk.injEq] at searched
  obtain ⟨found, after, ran, rfl, rfl⟩ := searched
  refine ⟨_, _, after, ⟨rngUniformDist_lt high, rngUniformDist_lt wide⟩, ran, rfl, fun arrayAfter ranArray => ?_⟩
  simp only [mapFindRandomMatchingPredicateArray, ranArray, Option.bind_eq_bind, Option.bind_some]

/-- A search that finds nothing leaves no matching tile on the map. -/
theorem mapFindRandomMatchingPredicate_missed (fits : FitsWord map.width map.height) (wide : 1 ≤ map.width)
    (high : 1 ≤ map.height) (missed : mapFindRandomMatchingPredicate map predicate rng = some (none, rng'))
    (inside : map.InBounds c) : predicate map c = false := by
  obtain ⟨start, drawn, after, starts, ran, -, -⟩ := search_start wide high missed
  rw [mapFindRandomMatchingPredicateSearch_explore] at ran
  exact search_misses fits starts (fun _ => rfl) ran inside

/-- The random search comes back with a tile that matches exactly when the map has
one, and looks at no place outside its array of visited cells. -/
theorem mapFindRandomMatchingPredicate_found (map : Map) (wide : 1 ≤ map.width) (high : 1 ≤ map.height)
    (countable : map.width * map.height < 2 ^ 32) (predicate : Map → Coordinates → Bool) (rng : Rng) :
    ∃ found rng', mapFindRandomMatchingPredicate map predicate rng = some (found, rng') ∧
      mapFindRandomMatchingPredicateArray map predicate rng = some (found, rng') ∧
      (found.isSome ↔ ∃ c, map.InBounds c ∧ predicate map c = true) ∧
      ∀ c, found = some c → map.InBounds c ∧ predicate map c = true := by
  have fits := fitsWord_of_cells wide high countable
  obtain ⟨found, rng', searched, matched⟩ := mapFindRandomMatchingPredicate_spec fits wide high predicate rng
  refine ⟨found, rng', searched, ?_, ?_, matched⟩
  · obtain ⟨c, drawn, after, inside, ran, rfl, onArray⟩ := search_start wide high searched
    have allocated : wrap32 (map.width * map.height) = map.width * map.height := Nat.mod_eq_of_lt countable
    have holds : Holds map { visited := fun _ => false, rng := drawn }
        { visited := List.replicate (wrap32 (map.width * map.height)) false, rng := drawn } := by
      refine ⟨rfl, by simp [allocated], fun i bound => ?_⟩
      simp [allocated, bound]
    obtain ⟨arrayAfter, ranArray, kept⟩ := searchArray_holds fits inside holds ran
    exact kept.rng ▸ onArray arrayAfter ranArray
  · constructor
    · intro hit
      obtain ⟨c, rfl⟩ := Option.isSome_iff_exists.mp hit
      exact ⟨c, matched c rfl⟩
    · rintro ⟨c, inside, met⟩
      cases found with
      | some _ => rfl
      | none =>
        have unmet := mapFindRandomMatchingPredicate_missed fits wide high searched inside
        exact absurd met (by simp [unmet])

/-- A map of three by two cells, walls but for one corner. -/
def walledCorner : Map where
  tiles := fun c => { order := 0, type := if c = ⟨1, 2⟩ then .empty else .wall, player := 0 }
  width := 3
  height := 2

theorem mapFindRandomMatchingPredicate_found_walledCorner :
    ∃ rng', mapFindRandomMatchingPredicateArray walledCorner mapIsTileEmpty { draws := id, used := 0 } =
      some (some ⟨1, 2⟩, rng') := by
  obtain ⟨found, rng', _, searched, some_iff, matched⟩ := mapFindRandomMatchingPredicate_found
    walledCorner (by decide) (by decide) (by decide) mapIsTileEmpty { draws := id, used := 0 }
  have hit : found.isSome := some_iff.mpr ⟨⟨1, 2⟩, by decide, by decide⟩
  obtain ⟨c, rfl⟩ := Option.isSome_iff_exists.mp hit
  have empty := (matched c rfl).2
  by_cases corner : c = ⟨1, 2⟩
  · exact ⟨rng', corner ▸ searched⟩
  · simp [mapIsTileEmpty, walledCorner, corner] at empty

end SnakePosix.RandomSearch
