import Mathlib.Algebra.BigOperators.Fin
import Chip8.Proofs.Sprite
/-!
What a sprite does to each pixel.

A drawing walks over positions one by one and starts again at the near edge, so that it may meet a cell more
than once on a small grid. It turns over what it meets, and it collides if it meets a pixel that is lit at
that time. So both the picture and the collision depend on the order, as the program is written.

1. **Specification** — `hits` counts how often a cell is met, from where the set bits land: no walk and no
   order is in it. `landing` is the place where a neighbour of the start lies, in closed form.

2. **Walk** — the positions that are gone through name a cell just as often (`named_spriteCells`). That is two
   sums over walks, one for the rows and one for the columns, by the same lemma (`sum_axisWalk`).

3. **Plot** — `Grid.plot_eq` is the invariant of the loop: after any positions a pixel is turned over if it
   was met an odd number of times, and a lit one was met if one was lit at the start and met at all, or met
   twice.

4. **Drawing** — a pixel is turned over once for each of its hits (`Display.draw_hits`): it comes out as it
   was if they are even in number, and the drawing collides if it meets a lit pixel, or any pixel twice. What
   a drawing does to a grid depends on no more than the counts, so drawings commute and undo themselves.
-/

namespace Chip8

/-! ## Walks

Where the positions of a walk along one side of the display land: each lies one further on than the one
before, and past the edge the walk goes on from the other side. A position lies in one place only, so those
that land in a place are counted by a sum over the walk. -/

/-- Where the `k`-th of neighbouring positions from `start` on lies, counted from the near edge. A start
    beyond the far edge is one at the near edge. -/
def landing (size : Nat) (start : Int) (k : Nat) : Int :=
  if start < size then (start + k) % size else (k : Int) % size

/-- A position on the axis names the place that it leaves as a remainder. -/
theorem axisIndex?_eq_some_iff {size : Nat} {i : Int} (hi : OnAxis size i) (r : Fin size) :
    axisIndex? size i = some r ↔ i % size = r.val := by
  obtain ⟨hlo, hhi⟩ := hi
  unfold axisIndex?
  split
  · next h =>
    rw [Int.emod_eq_of_lt h.1 h.2, Option.some.injEq, Fin.ext_iff]
    dsimp only
    omega
  · have hmod : i % size = i + size := by
      rw [← Int.add_emod_right, Int.emod_eq_of_lt (by omega) (by omega)]
    rw [dif_pos (by omega), hmod, Option.some.injEq, Fin.ext_iff]
    dsimp only
    omega

theorem cellOn_eq_ok_iff {axis size : Nat} {i : Int} {k : Fin size} :
    cellOn axis size i = .ok k ↔ axisIndex? size i = some k := by
  unfold cellOn
  cases axisIndex? size i <;> simp

/-- A walk goes over positions of the axis only, if it does not start before its near end. -/
theorem onAxis_wrapEdge {size : Nat} {start : Int} (hsize : 0 < size) (hstart : -(size : Int) ≤ start) :
    OnAxis size (wrapEdge size start) := by
  unfold OnAxis wrapEdge
  split <;> omega

/-- The first position lies where the walk starts. -/
theorem landing_zero (size : Nat) (start : Int) :
    landing size start 0 = wrapEdge size start % size := by
  unfold landing wrapEdge
  split
  · rw [if_neg (by omega), Int.natCast_zero, Int.add_zero]
  · rw [if_pos (by omega), Int.natCast_zero]

/-- The other positions lie where the walk goes on from the one behind the first. -/
theorem landing_succ {size : Nat} (hsize : 0 < size) (start : Int) (k : Nat) :
    landing size start (k + 1) = landing size (wrapEdge size start + 1) k := by
  unfold landing wrapEdge
  by_cases h : (size : Int) ≤ start
  · rw [if_neg (by omega), if_pos h]
    split
    · congr 1
      omega
    · -- there is only one place
      obtain rfl : size = 1 := by omega
      omega
  · rw [if_pos (by omega), if_neg h]
    split
    · congr 1
      omega
    · -- the walk reaches the far edge
      have hsum : start + (k + 1 : Nat) = k + size := by omega
      rw [hsum, Int.add_emod_right]

/-- What the positions of a walk contribute to a place, summed up in order or by where they land. The
    induction is on the walk, with its start general: each step goes on from the next position. -/
theorem sum_axisWalk {α : Type} {size : Nat} (hsize : 0 < size) (r : Fin size) (f : α → Nat) {n : Nat}
    (g : Fin n → α) {start : Int} (hstart : -(size : Int) ≤ start) :
    (((List.ofFn g).zip (axisWalk size start n)).map fun p =>
        if axisIndex? size p.2 = some r then f p.1 else 0).sum =
      ∑ k : Fin n, if landing size start k = r.val then f (g k) else 0 := by
  induction n generalizing start with
  | zero => rfl
  | succ n ih =>
    have hwrap := onAxis_wrapEdge hsize hstart
    -- the next start is on the axis or right behind it, so the walk may go on from there
    have hnext : -(size : Int) ≤ wrapEdge size start + 1 := by
      have := hwrap.1
      omega
    have hrest := ih (fun k => g k.succ) hnext
    rw [List.ofFn_succ, axisWalk, List.zip_cons_cons, List.map_cons, List.sum_cons, hrest,
      Fin.sum_univ_succ]
    simp only [axisIndex?_eq_some_iff hwrap, Fin.val_zero, landing_zero, Fin.val_succ,
      landing_succ hsize]

/-! ## Sprites

How many set bits of a sprite land on a cell. On a display that is narrower than a sprite there may be
several. -/

/-- Is the bit of the column `j` set? The highest comes first. -/
def BitSet (row : Int) (j : Fin 8) : Prop := row / 2 ^ (7 - j.val) % 2 = 1

instance (row : Int) (j : Fin 8) : Decidable (BitSet row j) := inferInstanceAs (Decidable (_ = _))

/-- How many set bits of a sprite at `(x, y)` land on a cell. -/
def hits (s : Size) (x y : Int) (rows : List Int) (r : Fin s.height) (c : Fin s.width) : Nat :=
  Finset.card {p : Fin rows.length × Fin 8 |
    BitSet rows[p.1] p.2 ∧ landing s.height y p.1 = r.val ∧ landing s.width x p.2 = c.val}

/-- How many positions of a list name a cell. This is what the drawing goes through. -/
def named (s : Size) (cells : List (Int × Int)) (r : Fin s.height) (c : Fin s.width) : Nat :=
  cells.countP fun p => axisIndex? s.height p.1 = some r ∧ axisIndex? s.width p.2 = some c

/-- How many positions of one row name a cell: none if the row is another one, and otherwise as many as its
    set bits that stand in the column. -/
theorem named_row {s : Size} (row : Int) (cols : List (Bool × Int)) (r : Fin s.height) (c : Fin s.width) :
    named s (cols.filterMap fun (on, col) => if on then some (row, col) else none) r c =
      if axisIndex? s.height row = some r then
        (cols.map fun q => if axisIndex? s.width q.2 = some c then q.1.toNat else 0).sum
      else 0 := by
  unfold named
  induction cols with
  | nil => simp
  | cons q cols ih =>
    obtain ⟨on, col⟩ := q
    cases on <;> by_cases hr : axisIndex? s.height row = some r <;>
      by_cases hc : axisIndex? s.width col = some c <;> simp_all [Nat.add_comm]

/-- The bits of a row are those that its number has in the binary system. -/
theorem spriteBits_eq (row : Int) : spriteBits row = List.ofFn fun j => decide (BitSet row j) := by
  have hbit (k : Nat) : row >>> k = row / 2 ^ k := by
    rw [Int.shiftRight_eq_div_pow]
    push_cast
    rfl
  simp only [spriteBits, hbit]
  rfl

/-- The positions of a sprite name a cell as often as its set bits land there. -/
theorem named_spriteCells {s : Size} {x y : Int} (hx : -(s.width : Int) ≤ x) (hy : -(s.height : Int) ≤ y)
    (rows : List Int) (r : Fin s.height) (c : Fin s.width) :
    named s (spriteCells s x y rows) r c = hits s x y rows r c := by
  have hrow (bits row : Int) : named s (((spriteBits bits).zip (axisWalk s.width x 8)).filterMap
      fun (on, col) => if on then some (row, col) else none) r c =
        if axisIndex? s.height row = some r then
          ∑ j : Fin 8, if landing s.width x j = c.val then (decide (BitSet bits j)).toNat else 0
        else 0 := by
    rw [named_row, spriteBits_eq, sum_axisWalk s.width_pos c Bool.toNat _ hx]
  have hrows := sum_axisWalk s.height_pos r (fun bits =>
    ∑ j : Fin 8, if landing s.width x j = c.val then (decide (BitSet bits j)).toNat else 0) rows.get hy
  rw [List.ofFn_get] at hrows
  calc named s (spriteCells s x y rows) r c
      = ((rows.zip (axisWalk s.height y rows.length)).map fun p =>
          if axisIndex? s.height p.2 = some r then
            ∑ j : Fin 8, if landing s.width x j = c.val then (decide (BitSet p.1 j)).toNat else 0
          else 0).sum := by
        unfold named at hrow ⊢
        rw [spriteCells, List.countP_flatMap]
        congr 2
        funext p
        exact hrow p.1 p.2
    _ = ∑ k : Fin rows.length, if landing s.height y k = r.val then
          ∑ j : Fin 8, if landing s.width x j = c.val then (decide (BitSet (rows.get k) j)).toNat else 0
        else 0 := hrows
    _ = hits s x y rows r c := by
        rw [hits, Finset.card_filter, Fintype.sum_prod_type]
        refine Finset.sum_congr rfl fun k _ => ?_
        split
        · next hk =>
          refine Finset.sum_congr rfl fun j _ => ?_
          by_cases hbit : BitSet rows[k.val] j <;> simp [hk, hbit]
        · next hk => simp [hk]

/-! ## Pixels

Pixels are turned over one after the other. A pixel comes out changed if it is named an odd number of times,
and there is a collision if a lit one is met on the way: one that was lit before, or one that is named
twice. -/

/-- Is a lit pixel met when one that is lit or not is turned over `n` times? -/
def Struck (n : Nat) (lit : Bool) : Prop := (1 ≤ n ∧ lit = true) ∨ 2 ≤ n

namespace Grid

variable {s : Size}

/-- Two grids are equal if they agree in every pixel. -/
theorem ext_pixel {g g' : Grid s} (h : ∀ r c, g.pixel r c = g'.pixel r c) : g = g' :=
  Vector.ext fun i hi => Vector.ext fun j hj => h ⟨i, hi⟩ ⟨j, hj⟩

/-- Turning a pixel over leaves the others as they are. -/
theorem pixel_flip (g : Grid s) (r r' : Fin s.height) (c c' : Fin s.width) :
    (g.flip r c).pixel r' c' = (g.pixel r' c' ^^ decide (r = r' ∧ c = c')) := by
  unfold flip pixel
  by_cases hr : r = r'
  · subst hr
    by_cases hc : c = c'
    · subst hc
      simp
    · have hne : c.val ≠ c'.val := fun h => hc (Fin.ext h)
      simp [hc, hne]
  · have hne : r.val ≠ r'.val := fun h => hr (Fin.ext h)
    simp [hr, hne]

/-- A position on both axes names a cell of the grid, whatever its sides are. -/
theorem cell_eq_ok {row col : Int} (hrow : OnAxis s.height row) (hcol : OnAxis s.width col) :
    ∃ r c, cell s row col = .ok (r, c) ∧ axisIndex? s.height row = some r ∧
      axisIndex? s.width col = some c := by
  have hcount := s.countable
  obtain ⟨hw, hh⟩ := s.sides_le
  obtain ⟨r, hr⟩ := cellOn_of_onAxis 0 hrow
  obtain ⟨c, hc⟩ := cellOn_of_onAxis 1 hcol
  refine ⟨r, c, ?_, cellOn_eq_ok_iff.mp hr, cellOn_eq_ok_iff.mp hc⟩
  rw [cell, checkPosition_of_isWord64 (isWord64_of_onAxis (by omega) hrow),
    checkPosition_of_isWord64 (isWord64_of_onAxis (by omega) hcol), hr, hc]
  rfl

/-- Turning a pixel over, as the first of several times. -/
theorem struck_succ (n : Nat) (lit : Bool) : Struck (n + 1) lit ↔ lit = true ∨ Struck n (!lit) := by
  unfold Struck
  cases lit
  · simp
    omega
  · simp

/-- Turning over pixels at positions of the grid: how each pixel comes out, and whether a lit one was met. The
    induction is on the positions, with the grid general; what is counted of the later positions is relative to
    the grid on which the first pixel is turned over already. -/
theorem plot_eq (cells : List (Int × Int)) (h : ∀ p ∈ cells, OnAxis s.height p.1 ∧ OnAxis s.width p.2)
    (g : Grid s) (hit : Bool) :
    ∃ hit' g', g.plot hit cells = (.ok hit', g') ∧
      (∀ r c, g'.pixel r c = (g.pixel r c ^^ decide (named s cells r c % 2 = 1))) ∧
      (hit' = true ↔ hit = true ∨ ∃ r c, Struck (named s cells r c) (g.pixel r c)) := by
  induction cells generalizing g hit with
  | nil => exact ⟨hit, g, rfl, by simp [named], by simp [named, Struck]⟩
  | cons p rest ih =>
    obtain ⟨hrow, hcol⟩ := h p List.mem_cons_self
    obtain ⟨r, c, hcell, hr, hc⟩ := cell_eq_ok hrow hcol
    obtain ⟨hit', g', hplot, hpixels, hhit⟩ := ih (fun q hq => h q (List.mem_cons_of_mem _ hq))
      (g.flip r c) (hit || g.pixel r c)
    have hnamed (r' : Fin s.height) (c' : Fin s.width) : named s (p :: rest) r' c' =
        named s rest r' c' + if r = r' ∧ c = c' then 1 else 0 := by
      simp [named, List.countP_cons, hr, hc]
    refine ⟨hit', g', ?_, fun r' c' => ?_, ?_⟩
    · rw [plot, hcell]
      exact hplot
    · rw [hpixels, pixel_flip, hnamed]
      by_cases hp : r = r' ∧ c = c'
      · rcases Nat.mod_two_eq_zero_or_one (named s rest r' c') with hn | hn
        · simp [hp, hn, Nat.add_mod]
        · simp [hp, hn, Nat.add_mod]
      · simp [hp]
    · -- the first position meets one pixel; the others are met as before
      have hfirst : Struck (named s (p :: rest) r c) (g.pixel r c) ↔
          g.pixel r c = true ∨ Struck (named s rest r c) ((g.flip r c).pixel r c) := by
        rw [hnamed, if_pos ⟨rfl, rfl⟩, struck_succ, pixel_flip]
        simp
      have hother {r' : Fin s.height} {c' : Fin s.width} (hp : ¬(r = r' ∧ c = c')) :
          Struck (named s (p :: rest) r' c') (g.pixel r' c') ↔
            Struck (named s rest r' c') ((g.flip r c).pixel r' c') := by
        rw [hnamed, if_neg hp, pixel_flip, decide_eq_false hp, Bool.xor_false, Nat.add_zero]
      rw [hhit, Bool.or_eq_true, or_assoc]
      refine or_congr Iff.rfl ⟨?_, ?_⟩
      · rintro (hlit | ⟨r', c', hs⟩)
        · exact ⟨r, c, hfirst.mpr (.inl hlit)⟩
        · by_cases hp : r = r' ∧ c = c'
          · obtain ⟨rfl, rfl⟩ := hp
            exact ⟨r, c, hfirst.mpr (.inr hs)⟩
          · exact ⟨r', c', (hother hp).mpr hs⟩
      · rintro ⟨r', c', hs⟩
        by_cases hp : r = r' ∧ c = c'
        · obtain ⟨rfl, rfl⟩ := hp
          exact (hfirst.mp hs).imp_right fun hs => ⟨r, c, hs⟩
        · exact .inr ⟨r', c', (hother hp).mp hs⟩

end Grid

/-! ## Drawings

A whole drawing, row by row, with the cells of the walk counted together. -/

/-- The answer of a drawing and its picture, by how often each pixel is met. -/
theorem Display.draw_eq {s : Size} (d : Display s) {x y : Int} (hx : -(s.width : Int) ≤ x)
    (hy : -(s.height : Int) ≤ y) (rows : List Int) :
    ∃ hit g, d.draw x y rows = (.ok hit, ⟨g, true⟩) ∧
      (∀ r c, g.pixel r c = (d.grid.pixel r c ^^ decide (hits s x y rows r c % 2 = 1))) ∧
      (hit = true ↔ ∃ r c, Struck (hits s x y rows r c) (d.grid.pixel r c)) := by
  obtain ⟨hit, g, hplot, hpixels, hhit⟩ := d.grid.plot_eq (spriteCells s x y rows)
    (fun _ => mem_spriteCells hx hy) false
  simp only [named_spriteCells hx hy] at hpixels hhit
  refine ⟨hit, g, ?_, hpixels, by simpa using hhit⟩
  rw [draw, hplot]
  rfl

/-- The pixels that a drawing leaves depend on the counts only. -/
theorem Display.pixel_draw {s : Size} (d : Display s) {x y : Int} (hx : -(s.width : Int) ≤ x)
    (hy : -(s.height : Int) ≤ y) (rows : List Int) (r : Fin s.height) (c : Fin s.width) :
    (d.draw x y rows).2.grid.pixel r c =
      (d.grid.pixel r c ^^ decide (hits s x y rows r c % 2 = 1)) := by
  obtain ⟨hit, g, hdraw, hpixels, -⟩ := d.draw_eq hx hy rows
  rw [hdraw]
  exact hpixels r c

/-- A sprite on the grid, or beyond its far edges, turns every pixel over as often as its set bits land
    there: the pixel changes if that is an odd number, and the drawing collides where it meets a lit pixel
    or any pixel more than once. So it undoes itself, and drawings may be made in either order. -/
theorem Display.draw_hits {s : Size} (d : Display s) {x y : Int} (hx : -(s.width : Int) ≤ x)
    (hy : -(s.height : Int) ≤ y) (rows : List Int) :
    (∃ hit g, d.draw x y rows = (.ok hit, ⟨g, true⟩) ∧
      (∀ r c, g.pixel r c = (d.grid.pixel r c ^^ decide (hits s x y rows r c % 2 = 1))) ∧
      (hit = true ↔ ∃ r c,
        (1 ≤ hits s x y rows r c ∧ d.grid.pixel r c = true) ∨ 2 ≤ hits s x y rows r c)) ∧
    ((d.draw x y rows).2.draw x y rows).2.grid = d.grid ∧
    ∀ x' y' rows', -(s.width : Int) ≤ x' → -(s.height : Int) ≤ y' →
      ((d.draw x y rows).2.draw x' y' rows').2.grid = ((d.draw x' y' rows').2.draw x y rows).2.grid := by
  refine ⟨d.draw_eq hx hy rows, Grid.ext_pixel fun r c => ?_, fun x' y' rows' hx' hy' =>
    Grid.ext_pixel fun r c => ?_⟩
  · rw [pixel_draw _ hx hy, pixel_draw _ hx hy, Bool.xor_assoc, Bool.xor_self, Bool.xor_false]
  · rw [pixel_draw _ hx' hy', pixel_draw _ hx hy, pixel_draw _ hx hy, pixel_draw _ hx' hy',
      Bool.xor_assoc, Bool.xor_assoc, Bool.xor_comm (decide _)]

/-- Three rows of eight bits on two rows of three pixels, from the near ends of both axes on: the first
    and the last row land on the same pixels, each an even number of times. -/
theorem Display.draw_hits_narrow :
    ∃ g, (blank (s := { width := 3, height := 2 })).draw (-1) (-2) [0xFF, 0x81, -1] =
        (.ok true, ⟨g, true⟩) ∧
      g = #v[#v[false, false, false], #v[true, false, true]] := by
  obtain ⟨⟨hit, g, hdraw, hpixels, hhit⟩, -⟩ :=
    draw_hits (blank (s := { width := 3, height := 2 })) (x := -1) (y := -2) (by decide) (by decide)
      [0xFF, 0x81, -1]
  obtain rfl : hit = true := hhit.mpr (by decide)
  refine ⟨g, hdraw, Grid.ext_pixel fun r c => ?_⟩
  rw [hpixels]
  revert r c
  decide

end Chip8
