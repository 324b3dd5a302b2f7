import SnakePosix.Foundation.Wire

/-! Computations that read from a stream as they go: how many bytes they ask for
next depends on the bytes they have had. -/
namespace SnakePosix.ReadPrograms
open Wire

inductive ReadProgram (α : Type) where
  | done (result : Option α)
  | read (length : Nat) (next : List UInt8 → ReadProgram α)

/-- Every read is given exactly the bytes it asks for; `none` is a stream that is too
short, or a failure of the computation. -/
def ReadProgram.exact : ReadProgram α → List UInt8 → Option (α × List UInt8)
  | .done result, stream => result.map (·, stream)
  | .read length next, stream => (readExactly stream length).bind fun read => (next read.1).exact read.2

end SnakePosix.ReadPrograms
