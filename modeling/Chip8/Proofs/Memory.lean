import Chip8.Word
import Chip8.Memory
/-!
Memory through the addresses of a running machine.

Accesses are given by natural addresses: below 4096 they succeed and name their cell (`read_of_lt`,
`put_of_lt`), from there on they fail with the address (`read_of_ge`, `put_of_ge`). A word is two cells
(`WordAt`), and memory has at most one at an address.

A transfer of several bytes that runs into the end of memory leaves what was written before the end. The
program writes it as a loop; `overlay` is the memory that it leaves in one piece, and `tail` the bytes that a
transfer in the other direction finds before the end. `overlay_cons` and `tail_of_lt` go along with the loops,
one byte at a time, and the lemmas about `cells_overlay` say what is in a cell afterwards.
-/

namespace Chip8.Memory

/-! ## Single cells

A cell is read and written within the memory, and outside of it there is a fault. -/

/-- No cell lies at an address from 4096 on. -/
theorem locate_of_ge {a : Int} (h : 4096 ≤ a) : locate a = .error (.addressOutOfRange a) :=
  (locate_eq_error_iff a _).mpr ⟨Or.inr (by omega), rfl⟩

theorem read_of_lt (m : Memory) {k : Nat} (h : k < 4096) : m.read k = .ok m.cells[k] := by
  rw [read, locate_of_lt h]
  rfl

theorem read_of_ge (m : Memory) {a : Int} (h : 4096 ≤ a) :
    m.read a = .error (.addressOutOfRange a) := by
  rw [read, locate_of_ge h]
  rfl

theorem put_of_lt (m : Memory) {k : Nat} (h : k < 4096) (b : UInt8) :
    m.put k b = .ok ⟨m.cells.set k b⟩ := by
  rw [put, locate_of_lt h]
  rfl

theorem put_of_ge (m : Memory) {a : Int} (h : 4096 ≤ a) (b : UInt8) :
    m.put a b = .error (.addressOutOfRange a) := by
  rw [put, locate_of_ge h]
  rfl

/-- Two memories are equal if they agree in every cell. -/
theorem ext_cells {m m' : Memory} (h : ∀ (a : Nat) (ha : a < 4096), m.cells[a] = m'.cells[a]) :
    m = m' := by
  cases m
  cases m'
  congr 1
  exact Vector.ext h

/-! ## Words

The word at an address, as a relation: it is there if both of its bytes are. What is fetched, and what steps
and histories say of words, is said with this relation. -/

/-- The word at an address: two cells, the high byte first. Both must lie in memory. -/
def WordAt (m : Memory) (address : Int) (w : Word) : Prop :=
  ∃ (k : Nat) (h : k + 1 < 4096), address = k ∧ w = Word.ofBytes m.cells[k] m.cells[k + 1]

/-- There is at most one word at an address. -/
theorem WordAt.unique {m : Memory} {a : Int} {w w' : Word} (h : m.WordAt a w) (h' : m.WordAt a w') :
    w = w' := by
  obtain ⟨k, hk, rfl, rfl⟩ := h
  obtain ⟨l, hl, hkl, rfl⟩ := h'
  obtain rfl : k = l := by omega
  rfl

/-- The word at an address, unless memory ends there. -/
def word? (m : Memory) (address : Int) : Option Word :=
  if h : 0 ≤ address ∧ address < 0xFFF then
    some (Word.ofBytes m.cells[address.toNat] m.cells[address.toNat + 1])
  else none

theorem word?_eq_some_iff {m : Memory} {a : Int} {w : Word} : m.word? a = some w ↔ m.WordAt a w := by
  unfold word? WordAt
  constructor
  · intro h
    split at h
    · next ha => exact ⟨a.toNat, by omega, by omega, (Option.some.inj h).symm⟩
    · cases h
  · rintro ⟨k, hk, rfl, rfl⟩
    rw [dif_pos (by omega)]
    rfl

theorem word?_of_ge (m : Memory) {a : Int} (h : 0xFFF ≤ a) : m.word? a = none :=
  dif_neg (by omega)

/-! ## Blocks

What a read of a block answers for any address and any length. -/

/-- A block can be read exactly if its first address is one, and its last one too if its length is
    positive. The address that is none is named. Of a block of negative length only the first address is
    looked at, so what is read then is whatever `blockEnd` leaves. -/
theorem readBlock_eq (m : Memory) (start length : Int) :
    m.readBlock start length =
      if start < 0 ∨ 0xFFF < start then .error (.addressOutOfRange start)
      else if 0 < length ∧ 0xFFF < start + length - 1 then
        .error (.addressOutOfRange (start + length - 1))
      else .ok ((m.cells.toList.take (blockEnd start length)).drop start.toNat) := by
  have hwrong {a : Int} (h : a < 0 ∨ 0xFFF < a) : locate a = .error (.addressOutOfRange a) :=
    (locate_eq_error_iff a _).mpr ⟨h, rfl⟩
  unfold readBlock
  by_cases hs : start < 0 ∨ 0xFFF < start
  · rw [hwrong hs, if_pos hs]
    rfl
  · obtain ⟨k, rfl⟩ := Int.eq_ofNat_of_zero_le (by omega : 0 ≤ start)
    rw [locate_of_lt (by omega), if_neg hs]
    by_cases hn : 0 < length
    · by_cases he : 0xFFF < (k : Int) + length - 1
      · rw [if_pos ⟨hn, he⟩, hwrong (Or.inr he)]
        simp [bind, Except.bind, hn]
      · -- the last address is a natural number again
        obtain ⟨l, hl⟩ := Int.eq_ofNat_of_zero_le (by omega : 0 ≤ (k : Int) + length - 1)
        rw [if_neg (fun h => he h.2), hl, locate_of_lt (by omega)]
        simp [bind, Except.bind, pure, Except.pure, hn]
    · rw [if_neg (fun h => hn h.1)]
      simp [bind, Except.bind, pure, Except.pure, hn]

/-! ## Transfers

Bytes that are laid over memory from an address on, and the memory from an address on: the two directions of
a transfer. -/

/-- The bound of a cell, by a name of its own. -/
theorem lt_size (a : Fin 4096) : a.val < 4096 := a.isLt

/-- The memory with bytes laid over its cells from `start` on. Bytes beyond the last cell are lost. -/
def overlay (m : Memory) (start : Int) (bytes : List UInt8) : Memory :=
  ⟨Vector.ofFn fun a =>
    if start ≤ a.val then bytes[(a.val - start).toNat]?.getD (getElem m.cells a.val (lt_size a))
    else getElem m.cells a.val (lt_size a)⟩

theorem cells_overlay (m : Memory) (start : Int) (bytes : List UInt8) {a : Nat} (h : a < 4096) :
    (m.overlay start bytes).cells[a] =
      if start ≤ a then bytes[(a - start).toNat]?.getD m.cells[a] else m.cells[a] := by
  simp [overlay]

/-- Cells below the start keep their byte. -/
theorem cells_overlay_of_lt (m : Memory) {start : Int} (bytes : List UInt8) {a : Nat}
    (h : a < 4096) (hs : (a : Int) < start) : (m.overlay start bytes).cells[a] = m.cells[a] := by
  rw [cells_overlay, if_neg (by omega)]

/-- Cells behind the bytes keep their byte. -/
theorem cells_overlay_of_ge (m : Memory) {start : Int} (bytes : List UInt8) {a : Nat}
    (h : a < 4096) (hs : start + bytes.length ≤ a) :
    (m.overlay start bytes).cells[a] = m.cells[a] := by
  rw [cells_overlay, if_pos (by omega), List.getElem?_eq_none (by omega), Option.getD_none]

/-- A byte laid over is at its place. -/
theorem cells_overlay_add (m : Memory) {start k : Nat} {bytes : List UInt8} (hk : k < bytes.length)
    (h : start + k < 4096) : (m.overlay start bytes).cells[start + k] = bytes[k] := by
  have hsub : (((start + k : Nat) : Int) - (start : Int)).toNat = k := by omega
  rw [cells_overlay, if_pos (by omega), hsub, List.getElem?_eq_getElem hk]
  rfl

theorem cells_blank_of_lt {a : Nat} (h : a < 80) : blank.cells[a] = font[a] := by
  simp [blank, h]

theorem cells_blank_of_ge {a : Nat} (h : a < 4096) (hfont : 80 ≤ a) : blank.cells[a] = 0 := by
  simp [blank, Nat.not_lt.mpr hfont]

@[simp] theorem overlay_nil (m : Memory) (start : Int) : m.overlay start [] = m := by
  apply ext_cells
  intro a ha
  simp [cells_overlay]

/-- An image that fits is laid over the program area. -/
theorem load_of_le (m : Memory) {image : List UInt8} (h : image.length ≤ maxImageSize) :
    m.load image = .ok (m.overlay programStart image) := by
  rw [load, if_neg (by omega)]
  refine congrArg Except.ok (ext_cells fun a ha => ?_)
  rw [cells_overlay]
  dsimp only
  rw [Vector.getElem_mapFinIdx]
  by_cases hs : programStart ≤ a
  · have hn : ((a : Int) - programStart).toNat = a - programStart := by omega
    rw [if_pos hs, if_pos (by omega), hn, List.getElem?_toArray]
  · rw [if_neg hs, if_neg (by omega)]

/-- Nothing is written from 4096 on. -/
theorem overlay_of_ge (m : Memory) {start : Int} (bytes : List UInt8) (h : 4096 ≤ start) :
    m.overlay start bytes = m := by
  apply ext_cells
  intro a ha
  exact cells_overlay_of_lt m bytes ha (by omega)

/-- Bytes may be laid over one by one, the way the loops of a transfer write them. -/
theorem overlay_cons (m : Memory) {k : Nat} (h : k < 4096) (b : UInt8) (bytes : List UInt8) :
    m.overlay k (b :: bytes) = overlay ⟨m.cells.set k b⟩ (k + 1) bytes := by
  apply ext_cells
  intro a ha
  rw [cells_overlay, cells_overlay]
  rcases Nat.lt_trichotomy a k with hlt | heq | hgt
  · rw [if_neg (by omega), if_neg (by omega), Vector.getElem_set_ne _ _ (by omega)]
  · subst heq
    rw [if_pos (by omega), if_neg (by omega)]
    simp
  · have hn : ((a : Int) - k).toNat = ((a : Int) - (k + 1)).toNat + 1 := by omega
    rw [if_pos (by omega), if_pos (by omega), hn, List.getElem?_cons_succ,
      Vector.getElem_set_ne _ _ (by omega)]

/-- The bytes from an address to the end of memory. -/
def tail (m : Memory) (start : Int) : List UInt8 := m.cells.toList.drop start.toNat

theorem getElem?_tail (m : Memory) (start : Int) (n : Nat) :
    (m.tail start)[n]? = m.cells[start.toNat + n]? := by
  simp [tail]

theorem length_tail (m : Memory) (start : Int) : (m.tail start).length = 4096 - start.toNat := by
  simp [tail]

theorem tail_of_ge (m : Memory) {start : Int} (h : 4096 ≤ start) : m.tail start = [] := by
  apply List.eq_nil_of_length_eq_zero
  rw [length_tail]
  omega

theorem tail_of_lt (m : Memory) {k : Nat} (h : k < 4096) :
    m.tail k = m.cells[k] :: m.tail (k + 1) := by
  have hl : k < m.cells.toList.length := by simpa using h
  have hn : ((k : Int) + 1).toNat = k + 1 := by omega
  rw [tail, tail, Int.toNat_natCast, hn, List.drop_eq_getElem_cons hl]
  simp

end Chip8.Memory
