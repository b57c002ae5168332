import Chip8.Proofs.Meaning
/-!
Transfers between registers and memory.

A program stores its registers and takes them back later, with other instructions in between. What it may rely
on is not said by either instruction alone.

1. **Cells** — storing lays the registers up to one over memory from the index register on (`Memory.overlay`),
   and filling takes them back from there (`Board.filled`). Each byte is at its place, and all else is as it
   was (`getElem?_overlay`, `getElem?_overlay_off`, `getElem_filled_of_le`, `getElem_filled_of_lt`).

2. **Words** — in range both are one change of the machine that moves the index register behind the last cell
   (`Machine.exec_storeWord`, `Machine.exec_fillWord`). The decimal digits of a register are laid over memory
   in the same way, and leave the index register where it is (`Machine.exec_digitsWord`).

3. **Round trip** — so each undoes the other, at every place in range and whatever the registers and memory
   hold (`Machine.store_fill_roundtrip`).
-/

namespace Chip8

/-! ## Cells

The cells that bytes were laid over, one by one. -/

namespace Memory

/-- Bytes that were laid over memory are at their places. -/
theorem getElem?_overlay (m : Memory) {i k : Nat} {bytes : List UInt8} (hk : k < bytes.length)
    (h : i + bytes.length ≤ 4096) : (m.overlay i bytes).cells[i + k]? = bytes[k]? := by
  rw [Vector.getElem?_eq_getElem (by omega), cells_overlay_add m hk (by omega),
    List.getElem?_eq_getElem hk]

/-- A cell that no byte was laid over keeps its byte. -/
theorem getElem?_overlay_off (m : Memory) {i a : Nat} {bytes : List UInt8}
    (h : a < i ∨ i + bytes.length ≤ a) : (m.overlay i bytes).cells[a]? = m.cells[a]? := by
  by_cases ha : a < 4096
  · rw [Vector.getElem?_eq_getElem ha, Vector.getElem?_eq_getElem ha]
    rcases h with h | h
    · rw [cells_overlay_of_lt m bytes ha (by omega)]
    · rw [cells_overlay_of_ge m bytes ha (by omega)]
  · rw [Vector.getElem?_eq_none (by omega), Vector.getElem?_eq_none (by omega)]

/-- Laying bytes over themselves changes nothing. -/
theorem overlay_self (m : Memory) {i : Nat} {bytes : List UInt8}
    (h : ∀ k < bytes.length, i + k < 4096 → m.cells[i + k]? = bytes[k]?) : m.overlay i bytes = m := by
  apply ext_cells
  intro a ha
  by_cases hoff : a < i ∨ i + bytes.length ≤ a
  · have := getElem?_overlay_off m hoff
    rw [Vector.getElem?_eq_getElem ha, Vector.getElem?_eq_getElem ha] at this
    exact Option.some.inj this
  · obtain ⟨k, rfl⟩ : ∃ k, a = i + k := ⟨a - i, by omega⟩
    have hk := h k (by omega) ha
    rw [Vector.getElem?_eq_getElem ha, List.getElem?_eq_getElem (by omega)] at hk
    rw [cells_overlay_add m (by omega) ha]
    exact (Option.some.inj hk).symm

end Memory

/-! ## Registers

The registers that bytes were taken into, and what the three digits of a number come to. -/

namespace Board

/-- Registers in a row, by number. -/
theorem getElem?_map_upTo (f : Fin 16 → UInt8) {x k : Fin 16} (h : k ≤ x) :
    ((upTo x).map f)[k.val]? = some (f k) := by
  rw [List.getElem?_map, getElem?_upTo h]
  rfl

/-- The byte registers after those up to `x` were filled from `i` on. -/
def filled (v : Vector UInt8 16) (memory : Memory) (i : Nat) (x : Fin 16) : Vector UInt8 16 :=
  Registers.putAll v ((upTo x).zip (memory.tail i))

/-- A filled register holds the byte at its place. -/
theorem getElem_filled_of_le (v : Vector UInt8 16) (memory : Memory) {i : Nat} {x k : Fin 16}
    (hx : i + x.val < 4096) (hk : k ≤ x) :
    memory.cells[i + k.val]? = some (filled v memory i x)[k.val] := by
  have hcell : i + k.val < 4096 := by omega
  rw [filled, Registers.getElem_putAll_zip _ _ (map_val_upTo x) k.isLt, if_pos (Nat.zero_le _),
    length_upTo, Nat.sub_zero, List.getElem?_take_of_lt (by omega), Memory.getElem?_tail,
    Int.toNat_natCast, Vector.getElem?_eq_getElem hcell, Option.getD_some]

/-- A register behind the filled ones keeps its byte. -/
theorem getElem_filled_of_lt (v : Vector UInt8 16) (memory : Memory) (i : Nat) {x k : Fin 16}
    (hk : x < k) : (filled v memory i x)[k.val] = v[k.val] := by
  rw [filled, Registers.getElem_putAll_zip _ _ (map_val_upTo x) k.isLt, if_pos (Nat.zero_le _),
    length_upTo, Nat.sub_zero, List.getElem?_eq_none (by rw [List.length_take]; omega),
    Option.getD_none]

end Board

/-- The digits of a byte, as numbers. -/
theorem sum_digits (b : UInt8) :
    (b / 100).toNat ≤ 9 ∧ (b / 10 % 10).toNat ≤ 9 ∧ (b % 10).toNat ≤ 9 ∧
      100 * (b / 100).toNat + 10 * (b / 10 % 10).toNat + (b % 10).toNat = b.toNat := by
  have hb := b.toNat_lt
  have hundreds : (b / 100).toNat = b.toNat / 100 := UInt8.toNat_div b 100
  have htens : (b / 10 % 10).toNat = b.toNat / 10 % 10 := by
    rw [UInt8.toNat_mod, UInt8.toNat_div]
    rfl
  have hones : (b % 10).toNat = b.toNat % 10 := UInt8.toNat_mod b 10
  omega

/-! ## Words

The three words on a machine, for any index: what they answer, what they leave in memory and registers, and
where the index stands. -/

namespace Machine

variable {κ τ : Type} {s : Size} [Seconds τ] [Clock κ τ] (host : Host s)

/-- Storing in range is one change of memory and registers. -/
theorem exec_storeWord {m : Machine κ τ s} {w : Word} (hw : w.Misc 0x55) {i : Nat}
    (hi : m.board.regs.i = i) (hx : i + w.x.val ≤ 0xFFF) :
    (executeWord host w).exec m = (.ok (), { m with board := { m.board with
      memory := m.board.memory.overlay i ((Board.upTo w.x).map m.board.regs.get)
      regs := { m.board.regs with i := i + w.x.val + 1, lastWord := w } } }) := by
  refine exec_executeWord_of_quiet host (show (Instruction.store w.x).Encodes w from ⟨hw, rfl⟩) ?_
  have hi' : (m.board.mapRegs (·.noting w)).regs.i = i := hi
  have hfault : transferFault? (i : Int) (w.x.val + 1) = none := if_pos (by omega)
  have hend : Board.transferEnd (i : Int) (w.x.val + 1) = i + w.x.val + 1 := by
    unfold Board.transferEnd
    omega
  rw [Board.exec_store w.x (by omega), hi', hfault, hend]
  rfl

/-- Filling in range is one change of the registers. -/
theorem exec_fillWord {m : Machine κ τ s} {w : Word} (hw : w.Misc 0x65) {i : Nat}
    (hi : m.board.regs.i = i) (hx : i + w.x.val ≤ 0xFFF) :
    (executeWord host w).exec m = (.ok (), m.mapRegs fun r => { r with
      v := Board.filled r.v m.board.memory i w.x
      i := i + w.x.val + 1
      lastWord := w }) := by
  refine exec_executeWord_of_quiet host (show (Instruction.fill w.x).Encodes w from ⟨hw, rfl⟩) ?_
  have hi' : (m.board.regs.noting w).i = i := hi
  have hfault : transferFault? (i : Int) (w.x.val + 1) = none := if_pos (by omega)
  have hend : Board.transferEnd (i : Int) (w.x.val + 1) = i + w.x.val + 1 := by
    unfold Board.transferEnd
    omega
  rw [Board.exec_fill w.x (by rw [Board.mapRegs, hi']; omega)]
  simp only [Board.mapRegs, hi', hfault, hend]
  rfl

/-- Storing digits in range is one change of memory, and leaves the index register where it is. -/
theorem exec_digitsWord {m : Machine κ τ s} {w : Word} (hw : w.Misc 0x33) {i : Nat}
    (hi : m.board.regs.i = i) (hx : i + 2 ≤ 0xFFF) :
    (executeWord host w).exec m = (.ok (), { m with board := { m.board with
      memory := m.board.memory.overlay i (Board.digits (m.board.regs.get w.x))
      regs := { m.board.regs with lastWord := w } } }) := by
  refine exec_executeWord_of_quiet host (show (Instruction.storeDigits w.x).Encodes w from ⟨hw, rfl⟩) ?_
  have hi' : (m.board.mapRegs (·.noting w)).regs.i = i := hi
  have hanswer : Board.transferAnswer (i : Int) 3 = .ok () := if_pos (by omega)
  rw [Board.exec_storeDigits _ _ _ _ (by omega), hi', hanswer]
  rfl

/-- What transfers with the index register at `i` do to a machine. -/
structure Transfers (i : Nat) (m : Machine κ τ s) : Prop where
  /-- Registers are stored in order and nothing else changes, but the index register moves behind them.
      Whatever the registers hold later: as long as the memory is this, they can be filled again. -/
  stored : ∀ w : Word, w.Misc 0x55 → i + w.x.val ≤ 0xFFF → ∃ memory,
    (executeWord host w).exec m = (.ok (), { m with board := { m.board with
      memory, regs := { m.board.regs with i := i + w.x.val + 1, lastWord := w } } }) ∧
    (∀ k : Fin 16, k ≤ w.x → memory.cells[i + k.val]? = some (m.board.regs.get k)) ∧
    (∀ a, a < i ∨ i + w.x.val < a → memory.cells[a]? = m.board.memory.cells[a]?) ∧
    ∀ (t : Machine κ τ s) (w' : Word), t.board.memory = memory → t.board.regs.i = i →
      w'.Misc 0x65 → w'.x = w.x → ∃ v,
        (executeWord host w').exec t = (.ok (), t.mapRegs fun r =>
          { r with v, i := i + w.x.val + 1, lastWord := w' }) ∧
        (∀ k : Fin 16, k ≤ w.x → v.get k = m.board.regs.get k) ∧
        ∀ k : Fin 16, w.x < k → v.get k = t.board.regs.get k
  /-- Registers that were filled are stored again without any change of memory. -/
  filled : ∀ w w' : Word, w.Misc 0x65 → w'.Misc 0x55 → w'.x = w.x → i + w.x.val ≤ 0xFFF → ∃ t t',
    (executeWord host w).exec m = (.ok (), t) ∧ t.board.memory = m.board.memory ∧
    (executeWord host w').exec (t.mapRegs fun r => { r with i := i }) = (.ok (), t') ∧
    t'.board.memory = m.board.memory
  /-- The digits of a register lie in order in memory and nothing else changes. Three registers can be
      filled with them. -/
  digits : ∀ w : Word, w.Misc 0x33 → i + 2 ≤ 0xFFF →
    ∃ (memory : Memory) (a b c : UInt8) (t : Machine κ τ s),
    (executeWord host w).exec m = (.ok (), t) ∧
    t = { m with board := { m.board with memory, regs := { m.board.regs with lastWord := w } } } ∧
    (a.toNat ≤ 9 ∧ b.toNat ≤ 9 ∧ c.toNat ≤ 9 ∧
      100 * a.toNat + 10 * b.toNat + c.toNat = (m.board.regs.get w.x).toNat) ∧
    (memory.cells[i]? = some a ∧ memory.cells[i + 1]? = some b ∧ memory.cells[i + 2]? = some c) ∧
    (∀ n, n < i ∨ i + 2 < n → memory.cells[n]? = m.board.memory.cells[n]?) ∧
    ∃ v, (executeWord host 0xF265).exec t = (.ok (), t.mapRegs fun r =>
        { r with v, i := i + 2 + 1, lastWord := 0xF265 }) ∧
      (v.get 0 = a ∧ v.get 1 = b ∧ v.get 2 = c) ∧ ∀ k : Fin 16, 2 < k → v.get k = m.board.regs.get k

/-- Registers stored in memory, and the rest of memory. -/
theorem cells_stored (memory : Memory) (r : Registers) {i : Nat} {x : Fin 16} (hx : i + x.val ≤ 0xFFF) :
    (∀ k : Fin 16, k ≤ x →
      (memory.overlay i ((Board.upTo x).map r.get)).cells[i + k.val]? = some (r.get k)) ∧
    ∀ a, a < i ∨ i + x.val < a →
      (memory.overlay i ((Board.upTo x).map r.get)).cells[a]? = memory.cells[a]? := by
  have hlength : ((Board.upTo x).map r.get).length = x.val + 1 := by
    rw [List.length_map, Board.length_upTo]
  refine ⟨fun k hk => ?_, fun a ha => memory.getElem?_overlay_off (by omega)⟩
  rw [memory.getElem?_overlay (by omega) (by omega), Board.getElem?_map_upTo _ hk]

/-- In range, transfers in either direction undo one another, whatever the registers and memory hold. -/
theorem store_fill_roundtrip {m : Machine κ τ s} {i : Nat} (hi : m.board.regs.i = i) : Transfers host i m where
  stored w hw hx := by
    obtain ⟨hstored, hkept⟩ := cells_stored m.board.memory m.board.regs hx
    refine ⟨_, exec_storeWord host hw hi hx, hstored, hkept, ?_⟩
    -- filling reads the cells that storing wrote, whatever else has changed since then
    intro t w' hmemory hindex hw' hsame
    have hfill := exec_fillWord host hw' hindex (by rw [hsame]; exact hx)
    rw [hsame] at hfill
    refine ⟨_, hfill, fun k hk => ?_, fun k hk => Board.getElem_filled_of_lt _ _ i hk⟩
    have hcell := Board.getElem_filled_of_le t.board.regs.v t.board.memory
      (by omega : i + w.x.val < 4096) hk
    rw [hmemory, hstored k hk] at hcell
    rw [hmemory]
    exact (Option.some.inj hcell).symm
  filled w w' hw hw' hsame hx := by
    have hstore := exec_storeWord host (m := (m.mapRegs fun r => { r with
      v := Board.filled r.v m.board.memory i w.x
      i := i + w.x.val + 1
      lastWord := w }).mapRegs fun r => { r with i := i }) hw' rfl (by rw [hsame]; exact hx)
    refine ⟨_, _, exec_fillWord host hw hi hx, rfl, hstore, ?_⟩
    -- every byte that is stored was found at its place
    refine m.board.memory.overlay_self fun k hk _ => ?_
    rw [List.length_map, Board.length_upTo, hsame] at hk
    have hfound := Board.getElem_filled_of_le m.board.regs.v m.board.memory (k := ⟨k, by omega⟩)
      (by omega : i + w.x.val < 4096) (by exact Nat.le_of_lt_succ hk)
    refine hfound.trans (Eq.symm ?_)
    rw [hsame]
    exact Board.getElem?_map_upTo _ (k := ⟨k, by omega⟩) (Nat.le_of_lt_succ hk)
  digits w hw hx := by
    have hcell (k : Nat) (hk : k < 3) :
        (m.board.memory.overlay i (Board.digits (m.board.regs.get w.x))).cells[i + k]? =
          (Board.digits (m.board.regs.get w.x))[k]? :=
      m.board.memory.getElem?_overlay hk (show i + 3 ≤ 4096 by omega)
    have hdigits := exec_digitsWord host hw hi hx
    refine ⟨_, _, _, _, _, hdigits, rfl, sum_digits (m.board.regs.get w.x),
      ⟨hcell 0 (by decide), hcell 1 (by decide), hcell 2 (by decide)⟩,
      fun n hn => m.board.memory.getElem?_overlay_off (show n < i ∨ i + 3 ≤ n by omega), ?_⟩
    have hfill := exec_fillWord host (m := { m with board := { m.board with
      memory := m.board.memory.overlay i (Board.digits (m.board.regs.get w.x))
      regs := { m.board.regs with lastWord := w } } }) (w := 0xF265) (by decide) hi
      (show i + 2 ≤ 0xFFF by omega)
    have htaken (k : Fin 16) (hk : k ≤ 2) := Board.getElem_filled_of_le m.board.regs.v
      (m.board.memory.overlay i (Board.digits (m.board.regs.get w.x))) (x := 2) (k := k)
      (show i + 2 < 4096 by omega) hk
    refine ⟨_, hfill, ⟨?_, ?_, ?_⟩, fun k hk => Board.getElem_filled_of_lt _ _ i hk⟩
    · exact Option.some.inj ((htaken 0 (by decide)).symm.trans (hcell 0 (by decide)))
    · exact Option.some.inj ((htaken 1 (by decide)).symm.trans (hcell 1 (by decide)))
    · exact Option.some.inj ((htaken 2 (by decide)).symm.trans (hcell 2 (by decide)))

/-- All registers at the end of memory. -/
theorem store_fill_roundtrip_last : Transfers Host.inert 0xFF0 (still.mapRegs fun r => { r with i := 0xFF0 }) :=
  store_fill_roundtrip Host.inert rfl

end Machine

end Chip8
