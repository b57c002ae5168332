/-!
Sets of characters as tables: closed ranges of code points in ascending order.
-/

namespace Chip8.Text

/-- Binary search for a range that holds `n` among those from `lo` to below `hi`. -/
def searchRanges (ranges : Array (Nat × Nat)) (n lo hi : Nat) : Bool :=
  if _h : lo < hi then
    let mid := (lo + hi) / 2
    match ranges[mid]? with
    | some (first, last) =>
      if n < first then searchRanges ranges n lo mid
      else if last < n then searchRanges ranges n (mid + 1) hi
      else true
    | none => false
  else false
termination_by hi - lo

/-- Does a table hold the character? -/
def inRanges (ranges : Array (Nat × Nat)) (c : Char) : Bool :=
  searchRanges ranges c.toNat 0 ranges.size

end Chip8.Text
