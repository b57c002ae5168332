import Chip8.Text.Digit
/-!
Texts of several lines: the forms that a line end may take, and the line that a text ends with.
-/

namespace Chip8.Text

/-- Every line end, whether carriage return, line feed or both, as a line feed. -/
def unifyLineEnds : List Char → List Char
  | '\r' :: '\n' :: rest => '\n' :: unifyLineEnds rest
  | '\r' :: rest => '\n' :: unifyLineEnds rest
  | c :: rest => c :: unifyLineEnds rest
  | [] => []

/-- A text without the space at its end. -/
def trimEnd (cs : List Char) : List Char := (cs.reverse.dropWhile isSpace).reverse

/-- The last line of a text; space at the end of the text does not count. -/
def lastLine (text : String) : String :=
  String.ofList ((trimEnd text.toList).reverse.takeWhile (· != '\n')).reverse

end Chip8.Text
