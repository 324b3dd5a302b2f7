import Mathlib.Algebra.Group.Nat.Defs

/-! The constants, grid positions, directions and random draws of `libsnake`.
Fixed-width C integers are natural numbers; where the code computes with
`unsigned int` or `size_t` the wrap-around is written out. -/
namespace SnakePosix

/-! ## `constants.h` -/

def maxPlayers : Nat := 64
def minMapWidth : Nat := 10
def minMapHeight : Nat := 10
def maxMapWidth : Nat := 100
def maxMapHeight : Nat := 50
def maxChangelogSize : Nat := maxMapWidth * maxMapHeight + maxPlayers

/-! ## Machine arithmetic -/

/-- The value an `unsigned int` keeps of a result. -/
def wrap32 (value : Nat) : Nat := value % 2 ^ 32

/-- The value a `size_t` keeps of a result. -/
def wrap64 (value : Nat) : Nat := value % 2 ^ 64

/-- `value + 1` in `unsigned int`. -/
def inc32 (value : Nat) : Nat := wrap32 (value + 1)

/-- `value - 1` in `unsigned int`, which wraps at zero. -/
def dec32 (value : Nat) : Nat := wrap32 (value + (2 ^ 32 - 1))

/-! ## `coordinates.h` -/

structure Coordinates where
  row : Nat
  column : Nat
  deriving DecidableEq, Repr

def coordinatesEqual (lhs rhs : Coordinates) : Bool :=
  lhs.row == rhs.row && lhs.column == rhs.column

/-- The cells of a grid. -/
def Coordinates.InGrid (self : Coordinates) (width height : Nat) : Prop :=
  self.row < height ∧ self.column < width

instance (self : Coordinates) (width height : Nat) : Decidable (self.InGrid width height) :=
  inferInstanceAs (Decidable (_ ∧ _))

/-- Every cell of a grid in the order of the code's nested loops
`for i < height { for j < width { .. } }`. -/
def cells (width height : Nat) : List Coordinates :=
  (List.range height).flatMap fun i => (List.range width).map fun j => ⟨i, j⟩

/-! ## `direction.h` -/

/-- `direction_t`. A C enumeration object holds any `unsigned int`, and one read
from a socket may hold a value without a name: `undeclared k` is the value
`4 + k`. -/
inductive Direction where
  | up
  | left
  | down
  | right
  | undeclared (excess : Nat)
  deriving DecidableEq, Repr

/-- One of the four named directions. -/
def Direction.Declared : Direction → Prop
  | .undeclared _ => False
  | _ => True

instance : DecidablePred Direction.Declared := fun direction =>
  match direction with
  | .up | .left | .down | .right => isTrue trivial
  | .undeclared _ => isFalse id

def directionGetOpposite (direction : Direction) : Direction :=
  match direction with
  | .up => .down
  | .left => .right
  | .down => .up
  | _ => .left

/-! ## `rng.h` -/

/-- The generator's outcomes, in the order they are drawn. Nothing is known of
them but the range `rngUniformDist` puts each one into. -/
structure Rng where
  draws : Nat → Nat
  used : Nat

/-- Some value of `[min, maxExclusive)`. -/
def rngUniformDist (min maxExclusive : Nat) (rng : Rng) : Nat × Rng :=
  (min + rng.draws rng.used % (maxExclusive - min), { rng with used := rng.used + 1 })

end SnakePosix
