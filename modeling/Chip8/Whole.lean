/-!
Whole numbers as callers give them. A truth value counts as one or nothing wherever a number is asked
for; but it is shown as what it is, and it names no place on an axis.
-/

namespace Chip8

/-- A whole number, or a truth value in its place. -/
inductive Whole where
  | number (n : Int)
  | flag (b : Bool)
  deriving DecidableEq, Repr

namespace Whole

/-- The number that a whole value counts as. -/
def toInt : Whole → Int
  | number n => n
  | flag b => b.toInt

/-- What is shown of it. -/
def text : Whole → String
  | number n => toString n
  | flag b => if b then "True" else "False"

end Whole

end Chip8
