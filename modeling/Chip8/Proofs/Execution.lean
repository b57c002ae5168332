import Chip8.Proofs.Act
import Chip8.Proofs.Instruction
import Chip8.Proofs.Memory
import Chip8.Proofs.Sprite
/-!
What the operations of a board answer and leave, as equations.

There is one equation for each operation that instructions are made of, so that an instruction is read off by
rewriting, and no proof about instructions looks into the operations.

1. **Memory** — a byte is read or written at an address below 4096, and is refused from there on. No operation
   meets a negative address, which the equations leave out.

2. **Transfers** — the two transfers between registers and memory go byte by byte and stop at the end of
   memory. Their equations give them in one piece, also where they are cut short: what was moved before the
   end stays moved, the index register stops at 4096, and the answer is the fault (`exec_storeAll`,
   `exec_fillAll`). Both are inductions on the registers that are left.

3. **Keys, sprites, words** — each equation has a case for the fault, in which the board is as it was.
-/

namespace Chip8

namespace Registers

/-! ## Filling registers

The registers after several of them were put one after the other, register by register. -/

/-- Byte registers with bytes put into some of them, one after another. -/
def putAll (v : Vector UInt8 16) (l : List (Fin 16 × UInt8)) : Vector UInt8 16 :=
  l.foldl (fun v p => v.set p.1.val p.2) v

/-- Neighbouring registers from `j` on take the bytes in order, as far as there are any. The induction is on the
    registers, with `j` and the bytes general, since both go on by one. -/
theorem getElem_putAll_zip {xs : List (Fin 16)} {j : Nat} (bytes : List UInt8)
    (v : Vector UInt8 16) (hxs : xs.map Fin.val = List.range' j xs.length) {k : Nat} (hk : k < 16) :
    (putAll v (xs.zip bytes))[k] =
      if j ≤ k then (bytes.take xs.length)[k - j]?.getD v[k] else v[k] := by
  induction xs generalizing j v bytes with
  | nil => simp [putAll]
  | cons x xs ih =>
    obtain ⟨hx, hxs⟩ : x.val = j ∧ xs.map Fin.val = List.range' (j + 1) xs.length := by
      simpa [List.range'_succ] using hxs
    cases bytes with
    | nil => simp [putAll]
    | cons c bytes =>
      have h := ih bytes (v.set x.val c) hxs
      have hput : putAll v ((x :: xs).zip (c :: bytes)) = putAll (v.set x.val c) (xs.zip bytes) := rfl
      rw [hput, h]
      -- the first register takes the first byte, and the rest begin one further on
      rcases Nat.lt_trichotomy k j with hlt | heq | hgt
      · rw [if_neg (by omega), if_neg (by omega), Vector.getElem_set_ne _ _ (by omega)]
      · subst heq
        rw [if_neg (by omega), if_pos (by omega)]
        simp [hx]
      · have hn : k - j = k - (j + 1) + 1 := by omega
        rw [if_pos (by omega), if_pos (by omega), hn, List.length_cons, List.take_succ_cons,
          List.getElem?_cons_succ, Vector.getElem_set_ne _ _ (by omega)]

end Registers

namespace Board

variable {s : Size}

/-- The registers of a transfer are neighbours. -/
theorem map_val_upTo (x : Fin 16) : (upTo x).map Fin.val = List.range' 0 (upTo x).length := by
  revert x
  decide

@[simp] theorem length_upTo (x : Fin 16) : (upTo x).length = x.val + 1 := by
  revert x
  decide

theorem getElem?_upTo {x k : Fin 16} (h : k ≤ x) : (upTo x)[k.val]? = some k := by
  revert x k
  decide

/-- The three decimal digits of a byte. -/
def digits (value : UInt8) : List UInt8 := [value / 100, value / 10 % 10, value % 10]

/-! ## Single operations

The equations of the small operations on a board, each for the case that it goes well and the case that it
does not. -/

theorem exec_setTone (on : Bool) (b : Board s) :
    (setTone on).exec b =
      (.ok (if on = b.tone then .quiet else .tone on), { b with tone := on }) := by
  rw [setTone, Act.exec_get_bind]
  by_cases h : on = b.tone
  · simp [Tone.transition, h]
  · simp only [Tone.transition, beq_iff_eq, h, if_false]
    rfl

theorem exec_readByte (address : Int) (b : Board s) :
    (readByte address).exec b = ((b.memory.read address).mapError .fault, b) := by
  rw [readByte, Act.exec_get_bind, Act.exec_ofExcept]

theorem exec_readByte_of_lt (b : Board s) {k : Nat} (h : k < 4096) :
    (readByte k).exec b = (.ok b.memory.cells[k], b) := by
  rw [exec_readByte, Memory.read_of_lt _ h]
  rfl

theorem exec_readByte_of_ge (b : Board s) {a : Int} (h : 4096 ≤ a) :
    (readByte a).exec b = (.error (.fault (.addressOutOfRange a)), b) := by
  rw [exec_readByte, Memory.read_of_ge _ h]
  rfl

theorem exec_putByte_of_lt (b : Board s) {k : Nat} (h : k < 4096) (v : UInt8) :
    (putByte k v).exec b = (.ok (), { b with memory := ⟨b.memory.cells.set k v⟩ }) := by
  rw [putByte, Act.exec_get_bind, Memory.put_of_lt _ h]
  rfl

theorem exec_putByte_of_ge (b : Board s) {a : Int} (h : 4096 ≤ a) (v : UInt8) :
    (putByte a v).exec b = (.error (.fault (.addressOutOfRange a)), b) := by
  rw [putByte, Act.exec_get_bind, Memory.put_of_ge _ h]
  rfl

/-! ## Transfers

Bytes are moved one at a time, so a transfer that runs out of memory has moved those before. The equations
say how far it got, where the index stands then, and what it answers. -/

/-- What a transfer of `n` cells from address `i` answers: it fails where it leaves memory. -/
def transferAnswer (i : Int) (n : Nat) : Except Failure Unit :=
  if n = 0 ∨ i + n ≤ 4096 then .ok () else .error (.fault (.addressOutOfRange (max i 4096)))

/-- Where a transfer of `n` cells from address `i` leaves the index register. -/
def transferEnd (i : Int) (n : Nat) : Int := max i (min (i + n) 4096)

/-- From 4096 on the first cell already fails, and nothing is moved. -/
theorem transferAnswer_of_ge {i : Int} (h : 4096 ≤ i) (n : Nat) :
    transferAnswer i (n + 1) = .error (.fault (.addressOutOfRange i)) := by
  rw [transferAnswer, if_neg (by omega), Int.max_eq_left h]

theorem transferEnd_of_ge {i : Int} (h : 4096 ≤ i) (n : Nat) : transferEnd i n = i := by
  unfold transferEnd
  omega

/-- Below 4096 one cell is moved, and the rest follows from the next address. -/
theorem transferAnswer_of_lt {i : Int} (h : i < 4096) (n : Nat) :
    transferAnswer i (n + 1) = transferAnswer (i + 1) n := by
  unfold transferAnswer
  by_cases hn : n = 0 ∨ i + 1 + n ≤ 4096
  · rw [if_pos hn, if_pos (by omega)]
  · rw [if_neg hn, if_neg (by omega), Int.max_eq_right (by omega), Int.max_eq_right (by omega)]

theorem transferEnd_of_lt {i : Int} (h : i < 4096) (n : Nat) :
    transferEnd i (n + 1) = transferEnd (i + 1) n := by
  unfold transferEnd
  omega

/-- Moving the index register on from an address below 4096 does not start it over. -/
theorem moveIndex_one {r : Registers} (h0 : 0 ≤ r.i) (h : r.i < 4096) :
    r.moveIndex 1 = { r with i := r.i + 1 } := by
  rw [Registers.moveIndex, Int.emod_eq_of_lt (by omega) (by omega)]

/-- Storing registers lays their bytes over memory from the index register on, as far as memory goes. The
    induction is on the registers that are left, with the board general: after each byte the index register is
    one further on, and the rest is a transfer from there. -/
theorem exec_storeAll (xs : List (Fin 16)) (b : Board s) (hi : 0 ≤ b.regs.i) :
    (storeAll xs).exec b =
      (transferAnswer b.regs.i xs.length,
        { b with
          memory := b.memory.overlay b.regs.i (xs.map b.regs.get)
          regs := { b.regs with i := transferEnd b.regs.i xs.length } }) := by
  induction xs generalizing b with
  | nil =>
    have he : transferEnd b.regs.i 0 = b.regs.i := by unfold transferEnd; omega
    simp [storeAll, transferAnswer, he]
  | cons x xs ih =>
    rw [storeAll, Act.exec_get_bind, List.length_cons]
    by_cases hlt : b.regs.i < 4096
    · obtain ⟨k, hk⟩ := Int.eq_ofNat_of_zero_le hi
      have hput := exec_putByte_of_lt b (by omega : k < 4096) (b.regs.get x)
      have hover := b.memory.overlay_cons (by omega : k < 4096) (b.regs.get x) (xs.map b.regs.get)
      rw [← hk] at hput hover
      have hmove := moveIndex_one hi hlt
      rw [Act.exec_bind_of_ok hput, Act.exec_modify_bind,
        ih _ (by simp only [mapRegs, hmove]; omega), transferAnswer_of_lt hlt, transferEnd_of_lt hlt,
        List.map_cons, hover]
      simp only [mapRegs, hmove]
      rfl
    · -- memory ends here: the first byte is refused and the others are not tried
      rw [Act.exec_bind_of_error (exec_putByte_of_ge b (by omega) _), transferAnswer_of_ge (by omega),
        transferEnd_of_ge (by omega), Memory.overlay_of_ge _ _ (by omega)]

/-- Filling registers puts the bytes from the index register on into them, as far as memory goes. The induction
    is the same as for storing. -/
theorem exec_fillAll (xs : List (Fin 16)) (b : Board s) (hi : 0 ≤ b.regs.i) :
    (fillAll xs).exec b =
      (transferAnswer b.regs.i xs.length,
        b.mapRegs fun r => { r with
          v := Registers.putAll r.v (xs.zip (b.memory.tail r.i))
          i := transferEnd r.i xs.length }) := by
  induction xs generalizing b with
  | nil =>
    have he : transferEnd b.regs.i 0 = b.regs.i := by unfold transferEnd; omega
    simp [fillAll, transferAnswer, he, mapRegs, Registers.putAll]
  | cons x xs ih =>
    rw [fillAll, Act.exec_get_bind, List.length_cons]
    -- with an index register in range one byte is filled and the rest goes on from the next; else it ends
    -- here
    by_cases hlt : b.regs.i < 4096
    · obtain ⟨k, hk⟩ := Int.eq_ofNat_of_zero_le hi
      have hread := exec_readByte_of_lt b (by omega : k < 4096)
      have htail := b.memory.tail_of_lt (by omega : k < 4096)
      rw [← hk] at hread htail
      have hmove : ∀ c, (b.regs.put x c).moveIndex 1 = { b.regs.put x c with i := b.regs.i + 1 } :=
        fun c => moveIndex_one hi hlt
      rw [Act.exec_bind_of_ok hread, Act.exec_modify_bind,
        ih _ (by simp only [mapRegs, hmove]; omega), transferAnswer_of_lt hlt]
      simp only [mapRegs, hmove, transferEnd_of_lt hlt, htail]
      rfl
    · rw [Act.exec_bind_of_error (exec_readByte_of_ge b (by omega)), transferAnswer_of_ge (by omega)]
      simp only [mapRegs, transferEnd_of_ge (show 4096 ≤ b.regs.i by omega),
        Memory.tail_of_ge _ (show 4096 ≤ b.regs.i by omega)]
      rfl

/-- Storing the digits of a register lays them over memory, as far as it goes; the index register stays. The
    four cases are how many of the three digits fit. -/
theorem exec_storeDigits (strict : Bool) (noise : Nat → UInt8) (x : Fin 16) (b : Board s)
    (hi : 0 ≤ b.regs.i) :
    (perform strict noise (.storeDigits x)).exec b =
      ((transferAnswer b.regs.i 3).map fun _ => .quiet,
        { b with memory := b.memory.overlay b.regs.i (digits (b.regs.get x)) }) := by
  obtain ⟨k, hk⟩ := Int.eq_ofNat_of_zero_le hi
  have h1 : (k : Int) + 1 = (k + 1 : Nat) := Int.natCast_succ k
  have h2 : (k : Int) + 2 = (k + 2 : Nat) := by omega
  have h3 : ((k + 1 : Nat) : Int) + 1 = (k + 2 : Nat) := by omega
  rw [perform, storeDigits, Act.exec_get_bind, digits]
  dsimp only
  rw [hk, h1, h2]
  rcases (by omega : 4096 ≤ k ∨ k = 4095 ∨ k = 4094 ∨ k < 4094) with h | h | h | h
  · -- no digit fits
    rw [Act.exec_bind_of_error (exec_putByte_of_ge b (by omega) _), transferAnswer_of_ge (by omega),
      Memory.overlay_of_ge _ _ (by omega), Except.map]
  · -- the hundreds fit
    rw [Act.exec_bind_of_ok (exec_putByte_of_lt b (by omega) _),
      Act.exec_bind_of_error (exec_putByte_of_ge _ (by omega) _),
      Memory.overlay_cons _ (by omega), h1, Memory.overlay_of_ge _ _ (by omega),
      transferAnswer_of_lt (by omega), h1, transferAnswer_of_ge (by omega), Except.map]
  · -- the hundreds and the tens fit
    rw [Act.exec_bind_of_ok (exec_putByte_of_lt b (by omega) _),
      Act.exec_bind_of_ok (exec_putByte_of_lt _ (by omega) _),
      Act.exec_bind_of_error (exec_putByte_of_ge _ (by omega) _),
      Memory.overlay_cons _ (by omega), h1, Memory.overlay_cons _ (by omega), h3,
      Memory.overlay_of_ge _ _ (by omega), transferAnswer_of_lt (by omega), h1,
      transferAnswer_of_lt (by omega), h3, transferAnswer_of_ge (by omega), Except.map]
  · -- all of them fit
    rw [Act.exec_bind_of_ok (exec_putByte_of_lt b (by omega) _),
      Act.exec_bind_of_ok (exec_putByte_of_lt _ (by omega) _),
      Act.exec_bind_of_ok (exec_putByte_of_lt _ (by omega) _), Act.exec_pure,
      Memory.overlay_cons _ (by omega), h1, Memory.overlay_cons _ (by omega), h3,
      Memory.overlay_cons _ (by omega), Memory.overlay_nil, transferAnswer, if_pos (by omega),
      Except.map]

/-! ## Keys and sprites

Both operations look at something first, a key that a register names or the rows of a sprite, and fail
before anything has changed. -/

/-- A register names a key if its value is below sixteen. What needs the key goes on with it, and is
    not begun without it. -/
theorem exec_namedKey_bind {α : Type} (x : Fin 16) (f : Fin 16 → Act (Board s) α) (b : Board s) :
    (namedKey x >>= f).exec b =
      if h : (b.regs.get x).toNat < 16 then (f ⟨(b.regs.get x).toNat, h⟩).exec b
      else (.error (.fault (.invalidKey (b.regs.get x).toNat)), b) := by
  -- the key is looked up before anything is done, so the board is as it was if there is none
  have hkey : (namedKey x).exec b =
      if h : (b.regs.get x).toNat < 16 then (.ok ⟨(b.regs.get x).toNat, h⟩, b)
      else (.error (.fault (.invalidKey (b.regs.get x).toNat)), b) := by
    rw [namedKey, Act.exec_get_bind]
    dsimp only
    split
    · rfl
    · rfl
  split
  · next h =>
    rw [dif_pos h] at hkey
    exact Act.exec_bind_of_ok hkey
  · next h =>
    rw [dif_neg h] at hkey
    exact Act.exec_bind_of_error hkey

/-- A sprite whose rows cannot be read is not drawn. -/
theorem exec_drawSprite_of_error {x y n : Fin 16} {b : Board s} {f : Fault}
    (h : b.memory.readBlock b.regs.i n.val = .error f) :
    (drawSprite x y n).exec b = (.error (.fault f), b) := by
  rw [drawSprite, Act.exec_get_bind, h]
  rfl

/-- A sprite whose rows can be read is drawn; only pixels and the flag register change. -/
theorem exec_drawSprite_of_ok {x y n : Fin 16} {b : Board s} {rows : List UInt8}
    (h : b.memory.readBlock b.regs.i n.val = .ok rows) :
    ∃ hit g,
      b.display.draw (b.regs.get x).toNat (b.regs.get y).toNat
          (rows.map fun row => (row.toNat : Int)) = (.ok hit, ⟨g, true⟩) ∧
        (drawSprite x y n).exec b =
          (.ok .quiet, { b with
            display := ⟨g, true⟩
            regs := b.regs.put Registers.flag hit.toUInt8 }) := by
  -- positions that are bytes are never below the near edge, so drawing succeeds
  obtain ⟨hit, g, hd⟩ := b.display.draw_ok (x := (b.regs.get x).toNat) (y := (b.regs.get y).toNat)
    (by omega) (by omega) (rows.map fun row => (row.toNat : Int))
  refine ⟨hit, g, hd, ?_⟩
  have hrows : (Act.ofExcept .fault (b.memory.readBlock b.regs.i n.val)).exec b = (.ok rows, b) := by
    rw [Act.exec_ofExcept, h]
    rfl
  rw [drawSprite, Act.exec_get_bind, Act.exec_bind_of_ok hrows]
  simp only [hd]
  rfl

/-! ## Fetching

A fetch answers the word at the program counter, and fails where one of its two bytes is outside of memory. -/

/-- A fetch that finds a word moves the program counter past it. -/
theorem exec_fetch_of_wordAt {b : Board s} {w : Word} (h : b.memory.WordAt b.regs.pc w) :
    fetch.exec b = (.ok w, b.mapRegs fun r => { r with pc := r.pc + 2 }) := by
  obtain ⟨k, hk, hpc, rfl⟩ := h
  have hhi := exec_readByte_of_lt b (by omega : k < 4096)
  have hlo := exec_readByte_of_lt b hk
  rw [← hpc] at hhi
  rw [Int.natCast_succ, ← hpc] at hlo
  have hm : (b.regs.pc + 2) % 65536 = b.regs.pc + 2 := Int.emod_eq_of_lt (by omega) (by omega)
  rw [fetch, Act.exec_get_bind, Act.exec_bind_of_ok hhi, Act.exec_bind_of_ok hlo,
    Act.exec_modify_bind, Act.exec_pure]
  simp only [mapRegs, hm]

/-- A fetch that finds no word changes nothing. It fails with the first address that is none. -/
theorem exec_fetch_of_ge {b : Board s} (h : 0xFFF ≤ b.regs.pc) :
    fetch.exec b = (.error (.fault (.addressOutOfRange (max b.regs.pc 4096))), b) := by
  rw [fetch, Act.exec_get_bind]
  by_cases hpc : b.regs.pc = (0xFFF : Nat)
  · -- the high byte is there, the low one is not
    have hhi := exec_readByte_of_lt b (by omega : 0xFFF < 4096)
    rw [← hpc] at hhi
    rw [Act.exec_bind_of_ok hhi, Act.exec_bind_of_error (exec_readByte_of_ge b (by omega)),
      Int.max_eq_right (by omega), hpc]
    rfl
  · rw [Act.exec_bind_of_error (exec_readByte_of_ge b (by omega)), Int.max_eq_left (by omega)]

end Board

end Chip8
