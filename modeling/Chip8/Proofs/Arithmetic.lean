import Mathlib.Logic.Function.Basic
import Chip8.Proofs.Meaning
/-!
What arithmetic words make of the byte registers.

The nine words of the family 8 compute a result and, five of them, a flag. The flag register is a register
like any other: it may hold an operand, and it may be the one for the result. Then the order in which the two
are put decides what is left, and the words do not agree in it.

1. **Table** — `Registers.arithmetic` is the table of the nine words, on the numbers in the registers. The
   result of an addition is put before the flag, and in the other words with a flag the flag comes first; so
   the one that comes second may overwrite the other, and an operand in the flag register may be the new flag.

2. **Laws** — `Registers.Lawful` is what one expects of sums, differences and shifts. The table obeys them
   wherever the flag register is not itself an operand that is read after the flag (`lawful_arithmetic`). The
   statement is for every row and all operands; its proof is arithmetic on bytes.

3. **Program** — the operations on the registers follow the table (`numbers_addReg` and those beside it), and
   executing an arithmetic word is one of these operations and nothing else
   (`Board.perform_arithmetic`, `Machine.arithmetic_executeWord`).
-/

namespace Chip8

namespace Registers

/-! ## The table

The specification: what the sixteen registers, read as numbers, become by the code of a row. It mentions
neither bytes nor machines. `Lawful` says of such a change what the rows are for, in terms of sums,
differences and halves, and that every register still holds a byte. -/

/-- The numbers in the byte registers. -/
def numbers (r : Registers) (k : Fin 16) : Nat := (r.get k).toNat

/-- What the arithmetic word with last nibble `n` makes of the numbers in the registers. -/
def arithmetic (v : Fin 16 → Nat) (x y : Fin 16) (n : Nat) : Fin 16 → Nat :=
  match n with
  | 0x0 => Function.update v x (v y)
  | 0x1 => Function.update v x (v x ||| v y)
  | 0x2 => Function.update v x (v x &&& v y)
  | 0x3 => Function.update v x (v x ^^^ v y)
  | 0x4 =>
    let u := Function.update v x ((v x + v y) % 256)
    Function.update u flag (if 255 < v x + v y then 1 else 0)
  | 0x5 =>
    let u := Function.update v flag (if v y < v x then 1 else 0)
    Function.update u x (((u x : Int) - u y) % 256).toNat
  | 0x6 =>
    let u := Function.update v flag (v x % 2)
    Function.update u x (u x / 2)
  | 0x7 =>
    let u := Function.update v flag (if v x < v y then 1 else 0)
    Function.update u x (((u y : Int) - u x) % 256).toNat
  | 0xE =>
    let u := Function.update v flag (v x / 128)
    Function.update u x (2 * u x % 256)
  | _ => v

/-- What holds of the numbers in the registers before and after an arithmetic word. No law is stated for a
    result in the flag register, where the table itself says which of the two is left. -/
structure Lawful (x y : Fin 16) (n : Nat) (v v' : Fin 16 → Nat) : Prop where
  /-- No register changes but the one for the result and the flag. -/
  kept : ∀ k, k ≠ x → k ≠ flag → v' k = v k
  bytes : ∀ k, v' k ≤ 255
  /-- The first four words leave the flag alone too. -/
  logic : n ≤ 3 → ∀ k, k ≠ x → v' k = v k
  /-- Whatever the operands are, the carry stays. -/
  carry : n = 0x4 → v' flag = if 255 < v x + v y then 1 else 0
  /-- The sum and its carry are the whole sum. -/
  sum : n = 0x4 → x ≠ flag → v' x = (v x + v y) % 256 ∧ 256 * v' flag + v' x = v x + v y
  /-- The other flags stay unless the result overwrites them. -/
  larger : n = 0x5 → x ≠ flag → v' flag = if v y < v x then 1 else 0
  smaller : n = 0x7 → x ≠ flag → v' flag = if v x < v y then 1 else 0
  difference : n = 0x5 → x ≠ flag → y ≠ flag → (v' x : Int) = ((v x : Int) - v y) % 256
  differenceFrom : n = 0x7 → x ≠ flag → y ≠ flag → (v' x : Int) = ((v y : Int) - v x) % 256
  /-- A shift loses nothing: the bit that goes out is in the flag. -/
  half : n = 0x6 → x ≠ flag → v' flag = v x % 2 ∧ 2 * v' x + v' flag = v x
  double : n = 0xE → x ≠ flag → v' flag = v x / 128 ∧ 256 * v' flag + v' x = 2 * v x

/-- Bytes stay bytes if one of them is set to a byte. -/
theorem le_update {v : Fin 16 → Nat} (hv : ∀ k, v k ≤ 255) (x : Fin 16) {b : Nat} (hb : b ≤ 255)
    (k : Fin 16) : Function.update v x b k ≤ 255 := by
  rw [Function.update_apply]
  split
  · exact hb
  · exact hv k

/-- The table makes bytes of bytes. In the shift to the right the operand may be the flag, which is a single bit
    by then. -/
theorem le_arithmetic {v : Fin 16 → Nat} (hv : ∀ k, v k ≤ 255) (x y : Fin 16) (n : Nat) (k : Fin 16) :
    arithmetic v x y n k ≤ 255 := by
  have hxv := hv x
  have hyv := hv y
  have hflag {p : Prop} [Decidable p] : (if p then 1 else 0) ≤ 255 := by split <;> omega
  have hor : v x ||| v y < 2 ^ 8 := Nat.or_lt_two_pow (by omega) (by omega)
  have hxor : v x ^^^ v y < 2 ^ 8 := Nat.xor_lt_two_pow (by omega) (by omega)
  -- two updates one after the other: the bound of the second is about what the first left
  unfold arithmetic
  split
  case h_1 => exact le_update hv x hyv k
  case h_2 => exact le_update hv x (by omega) k
  case h_3 => exact le_update hv x (Nat.le_trans Nat.and_le_left hxv) k
  case h_4 => exact le_update hv x (by omega) k
  case h_5 => exact le_update (le_update hv x (by omega)) flag hflag k
  case h_6 => exact le_update (le_update hv flag hflag) x (by omega) k
  case h_7 =>
    have hu := le_update hv flag (b := v x % 2) (by omega) x
    exact le_update (le_update hv flag (by omega)) x (by omega) k
  case h_8 => exact le_update (le_update hv flag hflag) x (by omega) k
  case h_9 => exact le_update (le_update hv flag (by omega)) x (by omega) k
  case h_10 => exact hv k

/-- The table obeys the laws. Each law is about one word, and where the flag register is not an operand, or not
    the result, the updates of the table do not meet; what is left is arithmetic. -/
theorem lawful_arithmetic {v : Fin 16 → Nat} (hv : ∀ k, v k ≤ 255) (x y : Fin 16) (n : Nat) :
    Lawful x y n v (arithmetic v x y n) where
  kept k hx hf := by
    -- no row touches another register than the target and the flag
    unfold arithmetic
    split <;> simp [hx, hf]
  bytes := le_arithmetic hv x y n
  logic hn k hx := by
    obtain rfl | rfl | rfl | rfl : n = 0 ∨ n = 1 ∨ n = 2 ∨ n = 3 := by omega
    all_goals simp [arithmetic, hx]
  carry hn := by
    subst hn
    simp [arithmetic]
  sum hn hx := by
    subst hn
    have hxv := hv x
    have hyv := hv y
    simp only [arithmetic, Function.update_self, Function.update_of_ne hx, true_and]
    split <;> omega
  larger hn hx := by
    subst hn
    simp [arithmetic, Ne.symm hx]
  smaller hn hx := by
    subst hn
    simp [arithmetic, Ne.symm hx]
  difference hn hx hy := by
    subst hn
    simp only [arithmetic, Function.update_self, Function.update_of_ne hx, Function.update_of_ne hy]
    omega
  differenceFrom hn hx hy := by
    subst hn
    simp only [arithmetic, Function.update_self, Function.update_of_ne hx, Function.update_of_ne hy]
    omega
  half hn hx := by
    subst hn
    simp only [arithmetic, Function.update_self, Function.update_of_ne hx,
      Function.update_of_ne (Ne.symm hx), true_and]
    omega
  double hn hx := by
    subst hn
    have hxv := hv x
    simp only [arithmetic, Function.update_self, Function.update_of_ne hx,
      Function.update_of_ne (Ne.symm hx), true_and]
    omega

/-! ## The registers follow it

Each operation on the registers is a row of the table. The order in which flag and result are put matters
where one of the operands is the flag register, and the table has that order too. -/

theorem toNat_get (r : Registers) (k : Fin 16) : (r.get k).toNat = r.numbers k := rfl

/-- To put a byte in a register changes one of the numbers. -/
theorem numbers_put (r : Registers) (x : Fin 16) (b : UInt8) :
    (r.put x b).numbers = Function.update r.numbers x b.toNat := by
  funext k
  unfold numbers
  by_cases h : k = x
  · subst h
    simp
  · rw [get_put_ne r (Ne.symm h), Function.update_of_ne h]

/-- A truth value that is put into a register is one or zero. -/
theorem toNat_toUInt8_decide (p : Prop) [Decidable p] :
    (decide p).toUInt8.toNat = if p then 1 else 0 := by
  by_cases h : p
  · rw [decide_eq_true h, if_pos h]
    rfl
  · rw [decide_eq_false h, if_neg h]
    rfl

/-- The difference of two bytes is that of their numbers modulo 256. -/
theorem toNat_sub_eq (a b : UInt8) : (a - b).toNat = (((a.toNat : Int) - b.toNat) % 256).toNat := by
  have ha := a.toNat_lt
  have hb := b.toNat_lt
  rw [UInt8.toNat_sub]
  omega

theorem numbers_addReg (r : Registers) (x y : Fin 16) :
    (r.addReg x y).numbers = arithmetic r.numbers x y 0x4 := by
  rw [addReg, numbers_put, numbers_put, toNat_toUInt8_decide, UInt8.toNat_add]
  rfl

/-- Subtraction puts the flag, which says that nothing is borrowed, and after it the difference. -/
theorem numbers_sub (r : Registers) (x y : Fin 16) :
    (r.sub x y).numbers = arithmetic r.numbers x y 0x5 := by
  -- the flag is put first and the operands are read after it
  have hu := numbers_put r flag (decide (r.get y < r.get x)).toUInt8
  rw [toNat_toUInt8_decide] at hu
  rw [sub, numbers_put, toNat_sub_eq]
  simp only [UInt8.lt_iff_toNat_lt, toNat_get] at hu ⊢
  rw [hu]
  rfl

theorem numbers_subFrom (r : Registers) (x y : Fin 16) :
    (r.subFrom x y).numbers = arithmetic r.numbers x y 0x7 := by
  have hu := numbers_put r flag (decide (r.get x < r.get y)).toUInt8
  rw [toNat_toUInt8_decide] at hu
  rw [subFrom, numbers_put, toNat_sub_eq]
  simp only [UInt8.lt_iff_toNat_lt, toNat_get] at hu ⊢
  rw [hu]
  rfl

theorem numbers_shiftRight (r : Registers) (x y : Fin 16) :
    (r.shiftRight x).numbers = arithmetic r.numbers x y 0x6 := by
  have hu := numbers_put r flag (r.get x &&& 1)
  rw [UInt8.toNat_and, UInt8.toNat_one, Nat.and_one_is_mod, toNat_get] at hu
  have hhalf (b : UInt8) : (b >>> 1).toNat = b.toNat / 2 := by
    rw [UInt8.toNat_shiftRight]
    exact Nat.shiftRight_eq_div_pow _ 1
  rw [shiftRight, numbers_put, hhalf, toNat_get, hu]
  rfl

theorem numbers_shiftLeft (r : Registers) (x y : Fin 16) :
    (r.shiftLeft x).numbers = arithmetic r.numbers x y 0xE := by
  have hu := numbers_put r flag (r.get x >>> 7)
  have hhigh (b : UInt8) : (b >>> 7).toNat = b.toNat / 128 := by
    rw [UInt8.toNat_shiftRight]
    exact Nat.shiftRight_eq_div_pow _ 7
  have hdouble (b : UInt8) : (b <<< 1).toNat = 2 * b.toNat % 256 := by
    rw [UInt8.toNat_shiftLeft, Nat.mul_comm]
    exact congrArg (· % 256) (Nat.shiftLeft_eq _ 1)
  rw [hhigh, toNat_get] at hu
  rw [shiftLeft, numbers_put, hdouble, toNat_get, hu]
  rfl

theorem numbers_le (r : Registers) (k : Fin 16) : r.numbers k ≤ 255 :=
  Nat.le_of_lt_succ (r.get k).toNat_lt

end Registers

/-! ## Words

From the words of the family to the operations, and from those to the table. -/

/-- An operation on the registers for the arithmetic word `w`: it changes byte registers only, and those
    follow the table. -/
structure Registers.ForWord (w : Word) (f : Registers → Registers) : Prop where
  bytes : ∀ r : Registers, f (r.noting w) = { r with v := (f r).v, lastWord := w }
  numbers : ∀ r : Registers, (f r).numbers = arithmetic r.numbers w.x w.y w.n.val

/-- Each of the nine words is an operation on the registers that follows the table in its row. -/
theorem Board.perform_arithmetic {s : Size} (strict : Bool) (noise : Nat → UInt8) {w : Word}
    (hf : w.family = 0x8) (hn : w.n.val ≤ 7 ∨ w.n.val = 0xE) :
    ∃ f, Registers.ForWord w f ∧
      (perform strict noise (Instruction.ofWord w) : Act (Board s) Effect) = onRegs f := by
  have hword (ins : Instruction) (h : ins.Encodes w) : Instruction.ofWord w = ins :=
    (Instruction.ofWord_eq_iff w ins).mpr h
  -- the words with the nibbles 0 to 7 and E, one after the other
  obtain h | h | h | h | h | h | h | h | h : w.n.val = 0 ∨ w.n.val = 1 ∨ w.n.val = 2 ∨ w.n.val = 3 ∨
      w.n.val = 4 ∨ w.n.val = 5 ∨ w.n.val = 6 ∨ w.n.val = 7 ∨ w.n.val = 0xE := by omega
  · rw [hword (.copy w.x w.y) ⟨⟨hf, h⟩, rfl, rfl⟩]
    exact ⟨_, ⟨fun r => rfl, fun r => by rw [h, Registers.numbers_put]; rfl⟩, rfl⟩
  · rw [hword (.or w.x w.y) ⟨⟨hf, h⟩, rfl, rfl⟩]
    exact ⟨_, ⟨fun r => rfl, fun r => by rw [h, Registers.numbers_put, UInt8.toNat_or]; rfl⟩, rfl⟩
  · rw [hword (.and w.x w.y) ⟨⟨hf, h⟩, rfl, rfl⟩]
    exact ⟨_, ⟨fun r => rfl, fun r => by rw [h, Registers.numbers_put, UInt8.toNat_and]; rfl⟩, rfl⟩
  · rw [hword (.xor w.x w.y) ⟨⟨hf, h⟩, rfl, rfl⟩]
    exact ⟨_, ⟨fun r => rfl, fun r => by rw [h, Registers.numbers_put, UInt8.toNat_xor]; rfl⟩, rfl⟩
  · rw [hword (.addReg w.x w.y) ⟨⟨hf, h⟩, rfl, rfl⟩]
    exact ⟨_, ⟨fun r => rfl, fun r => by rw [h, Registers.numbers_addReg]⟩, rfl⟩
  · rw [hword (.sub w.x w.y) ⟨⟨hf, h⟩, rfl, rfl⟩]
    exact ⟨_, ⟨fun r => rfl, fun r => by rw [h, Registers.numbers_sub]⟩, rfl⟩
  · rw [hword (.shiftRight w.x) ⟨⟨hf, h⟩, rfl⟩]
    exact ⟨_, ⟨fun r => rfl, fun r => by rw [h, Registers.numbers_shiftRight]⟩, rfl⟩
  · rw [hword (.subFrom w.x w.y) ⟨⟨hf, h⟩, rfl, rfl⟩]
    exact ⟨_, ⟨fun r => rfl, fun r => by rw [h, Registers.numbers_subFrom]⟩, rfl⟩
  · rw [hword (.shiftLeft w.x) ⟨⟨hf, h⟩, rfl⟩]
    exact ⟨_, ⟨fun r => rfl, fun r => by rw [h, Registers.numbers_shiftLeft]⟩, rfl⟩

namespace Machine

variable {κ τ : Type} {s : Size} [Seconds τ] [Clock κ τ]

/-- Every arithmetic word is executed, whatever the registers hold and whichever it names. All that
    changes is the byte registers, and which word was executed last. The byte registers follow the table
    and obey its laws. -/
theorem arithmetic_executeWord (host : Host s) (m : Machine κ τ s) {w : Word} (hf : w.family = 0x8)
    (hn : w.n.val ≤ 7 ∨ w.n.val = 0xE) :
    ∃ v, (executeWord host w).exec m = (.ok (), m.mapRegs fun r => { r with v, lastWord := w }) ∧
      ({ m.board.regs with v } : Registers).numbers =
        Registers.arithmetic m.board.regs.numbers w.x w.y w.n.val ∧
      Registers.Lawful w.x w.y w.n.val m.board.regs.numbers
        ({ m.board.regs with v } : Registers).numbers := by
  obtain ⟨f, hword, hperform⟩ := Board.perform_arithmetic (s := s) m.strict m.noise hf hn
  have hnumbers : ({ m.board.regs with v := (f m.board.regs).v } : Registers).numbers =
      Registers.arithmetic m.board.regs.numbers w.x w.y w.n.val := hword.numbers m.board.regs
  refine ⟨(f m.board.regs).v, ?_, hnumbers, ?_⟩
  · -- noting the word and operating on the byte registers do not meet
    have hregs : f (m.board.regs.noting w) =
        { m.board.regs with v := (f m.board.regs).v, lastWord := w } := hword.bytes m.board.regs
    have hleft : m.mapRegs (fun r => f (r.noting w)) =
        m.mapRegs fun r => { r with v := (f m.board.regs).v, lastWord := w } :=
      congrArg (fun regs => { m with board := { m.board with regs } }) hregs
    rw [exec_executeWord_eq, perform, hperform, ← hleft]
    rfl
  · rw [hnumbers]
    exact Registers.lawful_arithmetic m.board.regs.numbers_le w.x w.y w.n.val

/-- A subtraction of the flag register takes away the new flag: 3 - 200 leaves 3. -/
theorem arithmetic_flagOperand :
    ∃ v, (executeWord Host.inert 0x81F5).exec (still.mapRegs fun r => (r.put 1 3).put Registers.flag 200) =
        (.ok (), still.mapRegs fun r => { r with v, lastWord := 0x81F5 }) ∧
      ({ Registers.initial with v } : Registers).numbers 1 = 3 ∧
      ({ Registers.initial with v } : Registers).numbers Registers.flag = 0 := by
  obtain ⟨v, hexec, hnumbers, -⟩ := arithmetic_executeWord Host.inert
    (still.mapRegs fun r => (r.put 1 3).put Registers.flag 200) (w := 0x81F5) (by decide) (by decide)
  refine ⟨v, hexec, ?_, ?_⟩
  · exact (congrFun hnumbers 1).trans (by decide)
  · exact (congrFun hnumbers Registers.flag).trans (by decide)

end Machine

end Chip8
