import Chip8.Display
/-!
A sprite stays on the grid.

Positions of a grid may be counted from either end, and one that is on neither would be an error. The
positions that a drawing walks over start again at the near edge when they reach the far one, so a walk that
starts on the axis, counted from either end, stays on it (`mem_axisWalk`). Then every position is one of the
grid (`mem_spriteCells`), and every drawing answers and leaves a picture (`Display.draw_ok`).
-/

namespace Chip8

/-- The positions of an axis, counted from either end. -/
def OnAxis (size : Nat) (i : Int) : Prop := -(size : Int) ≤ i ∧ i < size

/-- A walk stays on the axis: it only goes up, and back to zero at the far edge. -/
theorem mem_axisWalk {size count : Nat} {start i : Int} (hsize : 0 < size)
    (hstart : -(size : Int) ≤ start) (hi : i ∈ axisWalk size start count) : OnAxis size i := by
  induction count generalizing start with
  | zero => exact absurd hi List.not_mem_nil
  | succ count ih =>
    have hw : OnAxis size (wrapEdge size start) := by
      unfold OnAxis wrapEdge
      split <;> omega
    rcases List.mem_cons.mp hi with rfl | hi
    · exact hw
    · exact ih (by have := hw.1; omega) hi

/-- The axes of a grid are short enough for every position to be a machine word. -/
theorem isWord64_of_onAxis {size : Nat} {i : Int} (hsize : size < 0x8000000000000000)
    (hi : OnAxis size i) : isWord64 i := by
  obtain ⟨hlo, hhi⟩ := hi
  simp only [isWord64, Bool.and_eq_true, decide_eq_true_eq]
  omega

theorem cellOn_of_onAxis (axis : Nat) {size : Nat} {i : Int} (hi : OnAxis size i) :
    ∃ k, cellOn axis size i = .ok k := by
  unfold cellOn
  cases h : axisIndex? size i with
  | some k => exact ⟨k, rfl⟩
  | none =>
    obtain ⟨hlo, hhi⟩ := hi
    have := (axisIndex?_eq_none_iff size i).mp h
    omega

namespace Grid

variable {s : Size}

/-- Positions on both axes name a cell. -/
theorem cell_of_onAxis {row col : Int} (hrow : OnAxis s.height row) (hcol : OnAxis s.width col) :
    ∃ p, cell s row col = .ok p := by
  have hc := s.countable
  obtain ⟨hw, hh⟩ := s.sides_le
  obtain ⟨r, hr⟩ := cellOn_of_onAxis 0 hrow
  obtain ⟨c, hc'⟩ := cellOn_of_onAxis 1 hcol
  refine ⟨(r, c), ?_⟩
  rw [cell, checkPosition_of_isWord64 (isWord64_of_onAxis (by omega) hrow),
    checkPosition_of_isWord64 (isWord64_of_onAxis (by omega) hcol), hr, hc']
  rfl

/-- Turning over pixels at positions of the grid always answers. -/
theorem plot_ok (cells : List (Int × Int))
    (h : ∀ p ∈ cells, OnAxis s.height p.1 ∧ OnAxis s.width p.2) (g : Grid s) (hit : Bool) :
    ∃ hit', (g.plot hit cells).1 = .ok hit' := by
  induction cells generalizing g hit with
  | nil => exact ⟨hit, rfl⟩
  | cons p rest ih =>
    obtain ⟨hrow, hcol⟩ := h p List.mem_cons_self
    obtain ⟨⟨r, c⟩, hp⟩ := cell_of_onAxis hrow hcol
    obtain ⟨hit', hrest⟩ := ih (fun q hq => h q (List.mem_cons_of_mem _ hq)) (g.flip r c)
      (hit || g.pixel r c)
    refine ⟨hit', ?_⟩
    rw [plot, hp]
    exact hrest

end Grid

/-- A sprite that starts on both axes turns over positions of the grid only. -/
theorem mem_spriteCells {s : Size} {x y : Int} {rows : List Int} (hx : -(s.width : Int) ≤ x)
    (hy : -(s.height : Int) ≤ y) {p : Int × Int} (hp : p ∈ spriteCells s x y rows) :
    OnAxis s.height p.1 ∧ OnAxis s.width p.2 := by
  unfold spriteCells at hp
  obtain ⟨⟨bits, row⟩, hrow, hp⟩ := List.mem_flatMap.mp hp
  obtain ⟨⟨on, col⟩, hcol, hp⟩ := List.mem_filterMap.mp hp
  cases on with
  | false => simp at hp
  | true =>
    obtain rfl : (row, col) = p := by simpa using hp
    exact ⟨mem_axisWalk s.height_pos hy (List.of_mem_zip hrow).2,
      mem_axisWalk s.width_pos hx (List.of_mem_zip hcol).2⟩

namespace Display

variable {s : Size}

/-- A sprite that starts on both axes, or beyond their far edges, is drawn and makes a picture. -/
theorem draw_ok (d : Display s) {x y : Int} (hx : -(s.width : Int) ≤ x) (hy : -(s.height : Int) ≤ y)
    (rows : List Int) :
    ∃ hit g, d.draw x y rows = (.ok hit, ⟨g, true⟩) := by
  obtain ⟨hit, hp⟩ := Grid.plot_ok (spriteCells s x y rows) (fun _ => mem_spriteCells hx hy)
    d.grid false
  generalize hg : d.grid.plot false (spriteCells s x y rows) = drawing at hp
  obtain ⟨answer, g⟩ := drawing
  obtain rfl : answer = .ok hit := hp
  refine ⟨hit, g, ?_⟩
  rw [draw, hg]
  rfl

end Display

end Chip8
