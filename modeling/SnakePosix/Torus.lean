import Mathlib.Data.List.Nodup
import Mathlib.Data.Finset.Card
import SnakePosix.Foundation.Cyclic
import SnakePosix.Libsnake.Map

/-! The torus the snakes move on. Inside the map `map_move_in_direction` is a step
along one of two cycles, whatever the machine arithmetic does elsewhere. -/
namespace SnakePosix.Torus
open Cyclic

/-- A step on a torus, without machine arithmetic. -/
def torusMove (width height : Nat) (c : Coordinates) : Direction → Coordinates
  | .up => { c with row := backward height c.row }
  | .down => { c with row := forward height c.row }
  | .left => { c with column := backward width c.column }
  | _ => { c with column := forward width c.column }

/-- One step leads from the first cell to the second. -/
def TorusAdjacent (width height : Nat) (c c' : Coordinates) : Prop :=
  ∃ direction, c' = torusMove width height c direction

/-- Sizes at which `unsigned int` holds every coordinate and every cell's index. -/
structure FitsWord (width height : Nat) : Prop where
  columns : width ≤ 2 ^ 32
  rows : height ≤ 2 ^ 32
  product : width * height ≤ 2 ^ 32

theorem fitsWord_of_arrays (widthBound : width ≤ maxMapWidth) (heightBound : height ≤ maxMapHeight) :
    FitsWord width height := by
  have product := Nat.mul_le_mul widthBound heightBound
  unfold maxMapWidth at widthBound product
  unfold maxMapHeight at heightBound product
  exact ⟨by omega, by omega, by omega⟩

variable {width height : Nat} {c c' : Coordinates} {direction : Direction}

private theorem dec32_pos (positive : 0 < value) (bound : value ≤ 2 ^ 32) : dec32 value = value - 1 := by
  unfold dec32 wrap32
  omega

private theorem inc32_lt (bound : value + 1 < 2 ^ 32) : inc32 value = value + 1 := by
  unfold inc32 wrap32
  omega

private theorem machine_backward (inside : position < size) (bound : size ≤ 2 ^ 32) :
    (if position = 0 then dec32 size else dec32 position) = backward size position := by
  unfold backward
  split
  · exact dec32_pos (by omega) bound
  · exact dec32_pos (by omega) (by omega)

private theorem machine_forward (inside : position < size) (bound : size ≤ 2 ^ 32) :
    (if position = dec32 size then 0 else inc32 position) = forward size position := by
  unfold forward
  rw [dec32_pos (by omega) bound]
  split
  · rfl
  · exact inc32_lt (by omega)

/-- The code's movement is the torus step on every cell of the map. -/
theorem mapMoveInDirection_eq {map : Map} (fits : FitsWord map.width map.height) (inside : map.InBounds c)
    (direction : Direction) :
    mapMoveInDirection map c direction = torusMove map.width map.height c direction := by
  cases direction with
  | up => exact congrArg (Coordinates.mk · c.column) (machine_backward inside.1 fits.rows)
  | down => exact congrArg (Coordinates.mk · c.column) (machine_forward inside.1 fits.rows)
  | left => exact congrArg (Coordinates.mk c.row) (machine_backward inside.2 fits.columns)
  | right => exact congrArg (Coordinates.mk c.row) (machine_forward inside.2 fits.columns)
  | undeclared => exact congrArg (Coordinates.mk c.row) (machine_forward inside.2 fits.columns)

theorem torusMove_inGrid (inside : c.InGrid width height) (direction : Direction) :
    (torusMove width height c direction).InGrid width height := by
  obtain ⟨row, column⟩ := inside
  cases direction with
  | up => exact ⟨backward_lt row, column⟩
  | down => exact ⟨forward_lt row, column⟩
  | left => exact ⟨row, backward_lt column⟩
  | right => exact ⟨row, forward_lt column⟩
  | undeclared => exact ⟨row, forward_lt column⟩

/-- Stepping back undoes a step, also for a direction without a name. -/
theorem torusMove_opposite (inside : c.InGrid width height) (direction : Direction) :
    torusMove width height (torusMove width height c direction) (directionGetOpposite direction) = c := by
  obtain ⟨row, column⟩ := inside
  cases direction <;>
    simp [torusMove, directionGetOpposite, forward_backward row, backward_forward row,
      forward_backward column, backward_forward column]

theorem torusMove_ne (wide : 2 ≤ width) (high : 2 ≤ height) (inside : c.InGrid width height)
    (direction : Direction) : torusMove width height c direction ≠ c := by
  obtain ⟨row, column⟩ := inside
  intro same
  cases direction with
  | up => exact backward_ne high row (congrArg Coordinates.row same)
  | down => exact forward_ne high (congrArg Coordinates.row same)
  | left => exact backward_ne wide column (congrArg Coordinates.column same)
  | right => exact forward_ne wide (congrArg Coordinates.column same)
  | undeclared => exact forward_ne wide (congrArg Coordinates.column same)

theorem directionGetOpposite_twice (declared : direction.Declared) :
    directionGetOpposite (directionGetOpposite direction) = direction := by
  cases direction <;> first | rfl | cases declared

theorem directionGetOpposite_ne (direction : Direction) : direction ≠ directionGetOpposite direction := by
  cases direction <;> simp [directionGetOpposite]

theorem directionGetOpposite_declared (direction : Direction) : (directionGetOpposite direction).Declared := by
  cases direction <;> trivial

/-- On a torus of at least three by three cells the four directions lead to
different cells. -/
theorem torusMove_injective {first second : Direction} (wide : 3 ≤ width) (high : 3 ≤ height)
    (inside : c.InGrid width height) (declared : first.Declared) (declared' : second.Declared)
    (same : torusMove width height c first = torusMove width height c second) : first = second := by
  obtain ⟨row, column⟩ := inside
  have up : backward height c.row ≠ c.row := backward_ne (Nat.le_of_succ_le high) row
  have down : forward height c.row ≠ c.row := forward_ne (Nat.le_of_succ_le high)
  have left : backward width c.column ≠ c.column := backward_ne (Nat.le_of_succ_le wide) column
  have right : forward width c.column ≠ c.column := forward_ne (Nat.le_of_succ_le wide)
  have rows : forward height c.row ≠ backward height c.row := forward_ne_backward high
  have columns : forward width c.column ≠ backward width c.column := forward_ne_backward wide
  cases first <;> cases second <;>
    simp [torusMove, Direction.Declared, up, down, left, right, rows, columns, Ne.symm] at *

/-- So only the opposite direction leads back. -/
theorem torusMove_back {first second : Direction} (wide : 3 ≤ width) (high : 3 ≤ height)
    (inside : c.InGrid width height) (declared : second.Declared)
    (back : torusMove width height (torusMove width height c first) second = c) :
    second = directionGetOpposite first := by
  have opposite := torusMove_opposite inside first
  exact torusMove_injective wide high (torusMove_inGrid inside first) declared
    (directionGetOpposite_declared first) (back.trans opposite.symm)

theorem torusAdjacent_move : TorusAdjacent width height c (torusMove width height c direction) :=
  ⟨direction, rfl⟩

theorem torusAdjacent_symm (inside : c.InGrid width height) (edge : TorusAdjacent width height c c') :
    TorusAdjacent width height c' c := by
  obtain ⟨direction, rfl⟩ := edge
  exact ⟨directionGetOpposite direction, (torusMove_opposite inside direction).symm⟩

theorem torusAdjacent_inGrid (inside : c.InGrid width height) (edge : TorusAdjacent width height c c') :
    c'.InGrid width height := by
  obtain ⟨direction, rfl⟩ := edge
  exact torusMove_inGrid inside direction

/-- The four directions the code looks in lead to all neighbors. -/
theorem torusAdjacent_iff :
    TorusAdjacent width height c c' ↔
      ∃ direction ∈ neighborDirections, c' = torusMove width height c direction := by
  constructor
  · rintro ⟨direction, rfl⟩
    cases direction with
    | undeclared => exact ⟨.right, by simp [neighborDirections], rfl⟩
    | _ => exact ⟨_, by simp [neighborDirections], rfl⟩
  · rintro ⟨direction, _, rfl⟩
    exact torusAdjacent_move

/-! ## The cells of a grid -/

@[simp] theorem mem_cells : c ∈ cells width height ↔ c.InGrid width height := by
  simp only [cells, List.mem_flatMap, List.mem_range, List.mem_map, Coordinates.InGrid]
  constructor
  · rintro ⟨row, rowBound, column, columnBound, rfl⟩
    exact ⟨rowBound, columnBound⟩
  · rintro ⟨rowBound, columnBound⟩
    exact ⟨c.row, rowBound, c.column, columnBound, rfl⟩

theorem cells_nodup : (cells width height).Nodup := by
  rw [cells, List.nodup_flatMap]
  refine ⟨fun row _ => ?_, ?_⟩
  · exact List.nodup_range.map fun _ _ same => congrArg Coordinates.column same
  · refine List.nodup_range.imp fun {row other} distinct => ?_
    apply List.disjoint_left.mpr
    intro c first second
    obtain ⟨_, _, rfl⟩ := List.mem_map.mp first
    obtain ⟨_, _, same⟩ := List.mem_map.mp second
    exact distinct (congrArg Coordinates.row same).symm

theorem cells_length : (cells width height).length = width * height := by
  rw [cells, List.length_flatMap]
  simp [Nat.mul_comm]

/-- The grid as a finite set. -/
def region (width height : Nat) : Finset Coordinates := (cells width height).toFinset

@[simp] theorem mem_region : c ∈ region width height ↔ c.InGrid width height := by
  rw [region, List.mem_toFinset, mem_cells]

theorem region_card : (region width height).card = width * height := by
  rw [region, List.toFinset_card_of_nodup cells_nodup, cells_length]

end SnakePosix.Torus
