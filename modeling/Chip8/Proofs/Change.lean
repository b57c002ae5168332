import Chip8.Proofs.Encoding
import Chip8.Proofs.Perform
/-!
What a word can change.

Every frame condition of the machine asks the same: which words change a certain part of it, and how. To go
through the instructions for each of them would be to write the same case analysis many times.

1. **Ways** — `Board.Change b w b'` lists the ways in which executing the word `w` can take the board `b` to
   `b'`, with or without a fault. It says of each way which words take it and which parts it puts anew; what
   it does not mention it leaves alone. Words that do the same kind of thing are one way, with a predicate for
   the words (`Word.Jumps`, `Word.Puts`, `Word.Flags`, `Word.Points`).

2. **Completeness** — `change_perform` says that there are no other ways, for boards whose registers are
   sound. It is the one place where the effect of every instruction is looked at; a frame condition is then a
   matter of going through the fifteen ways.
-/

namespace Chip8

namespace Word

/-- The words that may send the program counter elsewhere: jumps, and the six skips. -/
inductive Jumps (w : Word) : Prop
  | sys (family : w.family = 0x0) (clear : w ≠ 0x00E0)
  | jump (family : w.family = 0x1)
  | call (family : w.family = 0x2)
  | skipEq (family : w.family = 0x3)
  | skipNe (family : w.family = 0x4)
  | skipEqReg (family : w.family = 0x5) (n : w.n.val = 0)
  | skipNeReg (family : w.family = 0x9) (n : w.n.val = 0)
  | jumpOffset (family : w.family = 0xB)
  | skipDown (key : w.Key 0x9E)
  | skipUp (key : w.Key 0xA1)

/-- None of these words is a random one. Words that leave a board as it was must not be, since a random byte is
    taken in any case. -/
theorem Jumps.family_ne {w : Word} (h : w.Jumps) : w.family ≠ 0xC := by
  cases h with
  | skipDown key | skipUp key =>
    have := key.1
    omega
  | _ => omega

/-- The words that put a byte into their register `x`, and do nothing else. -/
inductive Puts (w : Word) : Prop
  | load (family : w.family = 0x6)
  | add (family : w.family = 0x7)
  | alu {n : Nat} (alu : w.Alu n) (n_le : n ≤ 3)
  | readDelay (misc : w.Misc 0x07)

theorem Puts.family_ne {w : Word} (h : w.Puts) : w.family ≠ 0xC := by
  cases h with
  | load hf | add hf => omega
  | alu hw | readDelay hw =>
    have := hw.1
    omega

/-- The words that put a byte into their register `x` and a flag into the flag register. -/
inductive Flags (w : Word) : Prop
  | alu {n : Nat} (alu : w.Alu n) (n_mem : 4 ≤ n ∧ n ≤ 7 ∨ n = 0xE)

theorem Flags.family_ne {w : Word} (h : w.Flags) : w.family ≠ 0xC := by
  obtain ⟨hw, -⟩ := h
  have := hw.1
  omega

/-- The words that point the index register elsewhere without a transfer. -/
inductive Points (w : Word) : Prop
  | setIndex (family : w.family = 0xA)
  | addIndex (misc : w.Misc 0x1E)
  | glyph (misc : w.Misc 0x29)

theorem Points.family_ne {w : Word} (h : w.Points) : w.family ≠ 0xC := by
  cases h with
  | setIndex hf => omega
  | addIndex hw | glyph hw =>
    have := hw.1
    omega

end Word

namespace Board

variable {s : Size}

/-- The ways in which executing a word can change a board. Where a way allows more than the word does, as a jump
    to any place, that is left to those who need to know it. -/
inductive Change (b : Board s) (w : Word) : Board s → Prop
  /-- The word has no effect here, or it faults at once. -/
  | nothing (word : w.family ≠ 0xC) : Change b w b
  | clear (word : w = 0x00E0) : Change b w { b with display := b.display.clear }
  | jump (word : w.Jumps) (pc : Int) : Change b w (b.mapRegs (·.jump pc))
  | call (word : w.family = 0x2) (k : Fin 16) (free : b.regs.sp = k.val) (cell : UInt16) (pc : Int) :
    Change b w (b.mapRegs fun r => { r with stack := r.stack.set k.val cell, sp := r.sp + 1, pc })
  | ret (word : w = 0x00EE) (pc : Int) : Change b w (b.mapRegs fun r => { r with sp := r.sp - 1, pc })
  | put (word : w.Puts) (byte : UInt8) : Change b w (b.mapRegs (·.put w.x byte))
  | random (word : w.family = 0xC) (byte : UInt8) :
    Change b w { b with draws := b.draws + 1, regs := b.regs.put w.x byte }
  | flags (word : w.Flags) (v : Vector UInt8 16)
      (kept : ∀ k : Fin 16, k ≠ w.x → k ≠ Registers.flag →
        getElem v k.val (lt_sixteen k) = getElem b.regs.v k.val (lt_sixteen k)) :
    Change b w (b.mapRegs fun r => { r with v })
  | point (word : w.Points) (i : Int) : Change b w (b.mapRegs fun r => { r with i })
  | draw (word : w.family = 0xD) (display : Display s) (flag : UInt8) :
    Change b w { b with display, regs := b.regs.put Registers.flag flag }
  | delay (word : w.Misc 0x15) (delay : Int) : Change b w (b.mapRegs fun r => { r with delay })
  | sound (word : w.Misc 0x18) (sound : Int) (tone : Bool) :
    Change b w { b with regs := { b.regs with sound }, tone }
  | storeDigits (word : w.Misc 0x33) (memory : Memory)
      (kept : ∀ (a : Nat) (h : a < 4096), (a < b.regs.i ∨ b.regs.i + 2 < a) →
        memory.cells[a] = b.memory.cells[a]) :
    Change b w { b with memory }
  | store (word : w.Misc 0x55) (memory : Memory) (i : Int)
      (kept : ∀ (a : Nat) (h : a < 4096), (a < b.regs.i ∨ b.regs.i + w.x.val < a) →
        memory.cells[a] = b.memory.cells[a]) :
    Change b w { b with memory, regs := { b.regs with i } }
  | fill (word : w.Misc 0x65) (v : Vector UInt8 16) (i : Int)
      (kept : ∀ k : Fin 16, w.x < k →
        getElem v k.val (lt_sixteen k) = getElem b.regs.v k.val (lt_sixteen k)) :
    Change b w (b.mapRegs fun r => { r with v, i })

/-- A skip jumps or does nothing. -/
theorem Change.skipIf {b : Board s} {w : Word} (word : w.Jumps) (c : Bool) :
    Change b w (b.mapRegs (·.skipIf c)) := by
  cases c with
  | false => exact .nothing word.family_ne
  | true => exact .jump word _

/-- Two puts change no more than two registers. -/
theorem getElem_put_put (r : Registers) {x y k : Fin 16} (hx : k ≠ x) (hy : k ≠ y) (c d : UInt8) :
    getElem ((r.put x c).put y d).v k.val (lt_sixteen k) = getElem r.v k.val (lt_sixteen k) := by
  have hkx : x.val ≠ k.val := fun h => hx (Fin.ext h.symm)
  have hky : y.val ≠ k.val := fun h => hy (Fin.ext h.symm)
  simp only [Registers.put]
  rw [Vector.getElem_set_ne _ _ hky, Vector.getElem_set_ne _ _ hkx]

/-- A transfer of `n` bytes leaves the cells before and behind them. -/
theorem cells_overlay_of_outside (m : Memory) {i : Int} {bytes : List UInt8} {n : Nat}
    (hn : bytes.length = n + 1) {a : Nat} (ha : a < 4096) (h : a < i ∨ i + n < a) :
    (m.overlay i bytes).cells[a] = m.cells[a] := by
  rcases h with h | h
  · exact m.cells_overlay_of_lt bytes ha h
  · exact m.cells_overlay_of_ge bytes ha (by omega)

/-- Executing a word changes a board in one of these ways. The cases are those of the instruction that the
    word encodes; where an instruction can fault, the fault leaves the board as it was, or in a transfer
    with some of the bytes moved. -/
theorem change_perform {strict : Bool} {noise : Nat → UInt8} {b : Board s} (hb : b.regs.Sound)
    (w : Word) : Change b w ((perform strict noise (Instruction.ofWord w)).exec b).2 := by
  have hi := hb.index.1
  have h := Instruction.ofWord_encodes w
  generalize Instruction.ofWord w = ins at h
  cases ins with
  | clear => exact .clear h
  | ret =>
    -- an empty stack is a fault, and nothing happens
    rcases hb.empty_or_used with hsp | ⟨k, hsp⟩
    · rw [exec_ret_of_zero hsp]
      exact .nothing (by rw [show w = 0x00EE from h]; decide)
    · rw [exec_ret_of_used hsp]
      exact .ret h _
  | sys nnn => exact .jump (.sys h.1.1 h.1.2.1) _
  | jump nnn => exact .jump (.jump h.1) _
  | jumpOffset nnn => exact .jump (.jumpOffset h.1) _
  | call nnn =>
    rcases hb.full_or_free with hsp | ⟨k, hsp⟩
    · rw [exec_call_of_full hsp]
      exact .nothing (by rw [h.1]; decide)
    · obtain ⟨a, ha⟩ := Int.eq_ofNat_of_zero_le hb.counter.1
      have hpc := hb.counter.2
      rw [exec_call_of_free hsp ha (by omega)]
      exact .call h.1 k hsp _ _
  | skipEq x kk => exact .skipIf (.skipEq h.1) _
  | skipNe x kk => exact .skipIf (.skipNe h.1) _
  | skipEqReg x y => exact .skipIf (.skipEqReg h.1.1 h.1.2) _
  | skipNeReg x y => exact .skipIf (.skipNeReg h.1.1 h.1.2) _
  | load x kk =>
    obtain ⟨hw, rfl, rfl⟩ := h
    exact .put (.load hw) _
  | add x kk =>
    obtain ⟨hw, rfl, rfl⟩ := h
    exact .put (.add hw) _
  | copy x y | or x y | and x y | xor x y =>
    obtain ⟨hw, rfl, rfl⟩ := h
    exact .put (.alu hw (by decide)) _
  -- the sum is put before the flag, the other results after it
  | addReg x y =>
    obtain ⟨hw, rfl, rfl⟩ := h
    exact .flags (.alu hw (by decide)) _ fun k hx hf => getElem_put_put _ hx hf _ _
  | sub x y | subFrom x y =>
    obtain ⟨hw, rfl, rfl⟩ := h
    exact .flags (.alu hw (by decide)) _ fun k hx hf => getElem_put_put _ hf hx _ _
  | shiftRight x | shiftLeft x =>
    obtain ⟨hw, rfl⟩ := h
    exact .flags (.alu hw (by decide)) _ fun k hx hf => getElem_put_put _ hf hx _ _
  | setIndex nnn => exact .point (.setIndex h.1) _
  | random x kk =>
    obtain ⟨hw, rfl, rfl⟩ := h
    exact .random hw _
  | draw x y n =>
    rcases exec_draw strict noise hi x y n with ⟨f, -, hdraw⟩ | ⟨-, display, flag, hdraw⟩
    · rw [hdraw]
      exact .nothing (by rw [h.1]; decide)
    · rw [hdraw]
      exact .draw h.1 _ _
  | skipDown x =>
    rw [exec_skipDown]
    split
    · exact .skipIf (.skipDown h.1) _
    · exact .nothing (by rw [h.1.1]; decide)
  | skipUp x =>
    rw [exec_skipUp]
    split
    · exact .skipIf (.skipUp h.1) _
    · exact .nothing (by rw [h.1.1]; decide)
  | readDelay x =>
    obtain ⟨hw, rfl⟩ := h
    exact .put (.readDelay hw) _
  | awaitKey x => exact .nothing (by rw [h.1.1]; decide)
  | setDelay x => exact .delay h.1 _
  | setSound x =>
    rw [exec_setSound]
    exact .sound h.1 _ _
  | addIndex x => exact .point (.addIndex h.1) _
  | glyph x =>
    rw [exec_glyph]
    split
    · exact .point (.glyph h.1) _
    · exact .nothing (by rw [h.1.1]; decide)
  | storeDigits x =>
    rw [exec_storeDigits _ _ _ _ hi]
    exact .storeDigits h.1 _ fun a ha hout => cells_overlay_of_outside _ rfl ha hout
  | store x =>
    obtain ⟨hw, rfl⟩ := h
    rw [exec_store _ hi]
    exact .store hw _ _ fun a ha hout => cells_overlay_of_outside _ (by simp) ha hout
  | fill x =>
    obtain ⟨hw, rfl⟩ := h
    rw [exec_fill _ hi]
    refine .fill hw _ _ fun k hk => ?_
    rw [Registers.getElem_putAll_zip _ _ (map_val_upTo w.x) k.isLt, if_pos (Nat.zero_le _),
      List.getElem?_eq_none, Option.getD_none]
    rw [length_upTo, List.length_take]
    omega
  | unrecognized w' =>
    obtain ⟨hw, rfl⟩ := h
    have hf : w'.family ≠ 0xC := by
      cases hw with
      | skipReg hf => rcases hf with hf | hf <;> rw [hf] <;> decide
      | alu hf | key hf | misc hf => rw [hf]; decide
    cases strict <;> exact .nothing hf

end Board

end Chip8
