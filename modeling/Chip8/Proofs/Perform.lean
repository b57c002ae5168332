import Chip8.Proofs.Execution
import Chip8.Proofs.Registers
/-!
What instructions answer, and the bounds that they keep.

An instruction may fail in the middle of its work, by one of several checks. What it answers can be told
beforehand, from the registers alone.

1. **Specification** — `Instruction.fault?` says which fault an instruction strikes and `Board.effect` what it
   has to tell otherwise.

2. **Single instructions** — the operations that can fail have an equation each, for every case
   (`exec_ret_of_zero` to `exec_draw`). The others compute.

3. **Results** — `answer_perform`: fault or effect, that is all an instruction answers; so a board with sound
   registers never brings forth a failure other than a fault. `sound_perform`: the state that an instruction
   leaves has sound registers again, whether it faulted or not. This is the step that the invariant of
   `Chip8.Proofs.Reach` rests on.
-/

namespace Chip8

/-- The fault of a transfer of `n` cells from address `i`. -/
def transferFault? (i : Int) (n : Nat) : Option Fault :=
  if n = 0 ∨ i + n ≤ 4096 then none else some (.addressOutOfRange (max i 4096))

/-- The fault that an instruction strikes, if any, with the registers that it finds. -/
def Instruction.fault? (strict : Bool) (r : Registers) : Instruction → Option Fault
  | .ret => if r.sp = 0 then some .stackUnderflow else none
  | .call _ => if r.sp = 16 then some (.stackOverflow (r.pc - 2)) else none
  | .draw _ _ n =>
    if 0xFFF < r.i then some (.addressOutOfRange r.i)
    else if 0 < n.val ∧ 0xFFF < r.i + n.val - 1 then some (.addressOutOfRange (r.i + n.val - 1))
    else none
  | .skipDown x | .skipUp x =>
    if 15 < (r.get x).toNat then some (.invalidKey (r.get x).toNat) else none
  | .glyph x => if 15 < (r.get x).toNat then some (.invalidDigit (r.get x).toNat) else none
  | .storeDigits _ => transferFault? r.i 3
  | .store x | .fill x => transferFault? r.i (x.val + 1)
  | .unrecognized w => if strict then some (.unrecognized w) else none
  | _ => none

namespace Board

variable {s : Size} {strict : Bool} {noise : Nat → UInt8}

/-- What an instruction that strikes no fault has to tell. Only three kinds of instruction tell anything. -/
def effect (b : Board s) : Instruction → Effect
  | .setSound x =>
    let on := decide (0 < ((b.regs.get x).toNat : Int))
    if on = b.tone then .quiet else .tone on
  | .awaitKey x => .awaitKey x
  | .unrecognized w => .ignored w
  | _ => .quiet

/-- The answer of an operation that may strike one fault. -/
def answerOf {α : Type} (fault : Option Fault) (a : α) : Except Failure α :=
  match fault with
  | some f => .error (.fault f)
  | none => .ok a

theorem transferAnswer_eq (i : Int) (n : Nat) :
    transferAnswer i n = answerOf (transferFault? i n) () := by
  unfold transferAnswer transferFault?
  split <;> rfl

theorem map_answerOf {α β : Type} (fault : Option Fault) (a : α) (f : α → β) :
    (answerOf fault a).map f = answerOf fault (f a) := by
  cases fault <;> rfl

/-! ## Equations of single instructions

What an instruction answers and the board that it leaves. The equations are for those instructions that are
more than a change of the registers. -/

/-- A return with nothing on the stack is an underflow, and the board is as it was. -/
theorem exec_ret_of_zero {b : Board s} (h : b.regs.sp = 0) :
    (perform strict noise .ret).exec b = (.error (.fault .stackUnderflow), b) := by
  rw [perform, ret, Act.exec_get_bind, Registers.pop_of_zero h]
  rfl

/-- A return takes the top of the stack as the next place. -/
theorem exec_ret_of_used {b : Board s} {k : Fin 16} (h : b.regs.sp = k.val + 1) :
    (perform strict noise .ret).exec b =
      (.ok .quiet, b.mapRegs fun r => { r with sp := r.sp - 1, pc := r.stack[k.val].toNat }) := by
  rw [perform, ret, Act.exec_get_bind, Registers.pop_of_pos h]
  rfl

/-- A call with sixteen addresses on the stack is an overflow at the place of the call. -/
theorem exec_call_of_full {b : Board s} (h : b.regs.sp = 16) (nnn : Fin 4096) :
    (perform strict noise (.call nnn)).exec b =
      (.error (.fault (.stackOverflow (b.regs.pc - 2))), b) := by
  rw [perform, call, Act.exec_get_bind]
  dsimp only
  rw [Registers.push_of_ge (by omega)]
  rfl

/-- A call puts the next place on the stack and goes to its address. -/
theorem exec_call_of_free {b : Board s} {k : Fin 16} (h : b.regs.sp = k.val) {a : Nat}
    (hpc : b.regs.pc = a) (ha : a < 65536) (nnn : Fin 4096) :
    (perform strict noise (.call nnn)).exec b =
      (.ok .quiet, b.mapRegs fun r => { r with
        stack := r.stack.set k.val (UInt16.ofNat a)
        sp := r.sp + 1
        pc := nnn.val }) := by
  rw [perform, call, Act.exec_get_bind]
  dsimp only
  rw [hpc, Registers.push_of_lt h ha]
  rfl

/-- The sound timer takes the value of the register, and the tone goes with it. -/
theorem exec_setSound (x : Fin 16) (b : Board s) :
    (perform strict noise (.setSound x)).exec b =
      (.ok (b.effect (.setSound x)),
        { b with
          regs := { b.regs with sound := (b.regs.get x).toNat }
          tone := decide (0 < ((b.regs.get x).toNat : Int)) }) := by
  rw [perform, setSound, Act.exec_modify_bind, Act.exec_get_bind, exec_setTone]
  rfl

/-- A skip on a key that is down asks for a register that names a key. -/
theorem exec_skipDown (x : Fin 16) (b : Board s) :
    (perform strict noise (.skipDown x)).exec b =
      if h : (b.regs.get x).toNat < 16 then
        (.ok .quiet, b.mapRegs (·.skipIf b.keypad.keys[(b.regs.get x).toNat]))
      else (.error (.fault (.invalidKey (b.regs.get x).toNat)), b) := by
  rw [perform, skipDown, exec_namedKey_bind]
  split
  · rw [Act.exec_get_bind]
    rfl
  · rfl

/-- A skip on a key that is up asks for a register that names a key. -/
theorem exec_skipUp (x : Fin 16) (b : Board s) :
    (perform strict noise (.skipUp x)).exec b =
      if h : (b.regs.get x).toNat < 16 then
        (.ok .quiet, b.mapRegs (·.skipIf !b.keypad.keys[(b.regs.get x).toNat]))
      else (.error (.fault (.invalidKey (b.regs.get x).toNat)), b) := by
  rw [perform, skipUp, exec_namedKey_bind]
  split
  · rw [Act.exec_get_bind]
    rfl
  · rfl

/-- A glyph asks for a register that holds a digit. -/
theorem exec_glyph (x : Fin 16) (b : Board s) :
    (perform strict noise (.glyph x)).exec b =
      if (b.regs.get x).toNat < 16 then
        (.ok .quiet, b.mapRegs fun r => { r with i := (b.regs.get x).toNat * 5 })
      else (.error (.fault (.invalidDigit (b.regs.get x).toNat)), b) := by
  rw [perform, glyph, Act.exec_get_bind, glyphAddress]
  split
  · next h =>
    rw [if_pos (by omega)]
    rfl
  · next h =>
    rw [if_neg (by omega)]
    rfl

/-- A transfer has nothing to tell, unless it fails. -/
theorem exec_bind_quiet {transfer : Act (Board s) Unit} {b t : Board s} {i : Int} {n : Nat}
    (h : transfer.exec b = (transferAnswer i n, t)) :
    (transfer >>= fun _ => pure Effect.quiet).exec b = (answerOf (transferFault? i n) .quiet, t) := by
  rw [transferAnswer_eq] at h
  cases hf : transferFault? i n with
  | none =>
    rw [hf] at h
    rw [Act.exec_bind_of_ok h]
    rfl
  | some f =>
    rw [hf] at h
    rw [Act.exec_bind_of_error h]
    rfl

theorem exec_store (x : Fin 16) {b : Board s} (hi : 0 ≤ b.regs.i) :
    (perform strict noise (.store x)).exec b =
      (answerOf (transferFault? b.regs.i (x.val + 1)) .quiet,
        { b with
          memory := b.memory.overlay b.regs.i ((upTo x).map b.regs.get)
          regs := { b.regs with i := transferEnd b.regs.i (x.val + 1) } }) := by
  have hstore := exec_storeAll (upTo x) b hi
  rw [length_upTo] at hstore
  exact exec_bind_quiet hstore

theorem exec_fill (x : Fin 16) {b : Board s} (hi : 0 ≤ b.regs.i) :
    (perform strict noise (.fill x)).exec b =
      (answerOf (transferFault? b.regs.i (x.val + 1)) .quiet,
        b.mapRegs fun r => { r with
          v := Registers.putAll r.v ((upTo x).zip (b.memory.tail r.i))
          i := transferEnd r.i (x.val + 1) }) := by
  have hfill := exec_fillAll (upTo x) b hi
  rw [length_upTo] at hfill
  exact exec_bind_quiet hfill

/-- The rows of a sprite can be read exactly if drawing it strikes no fault. -/
theorem readBlock_eq (strict : Bool) (b : Board s) (hi : 0 ≤ b.regs.i) (x y n : Fin 16) :
    b.memory.readBlock b.regs.i n.val =
      match (Instruction.draw x y n).fault? strict b.regs with
      | some f => .error f
      | none =>
        .ok ((b.memory.cells.toList.take (Memory.blockEnd b.regs.i n.val)).drop b.regs.i.toNat) := by
  rw [Memory.readBlock_eq, Instruction.fault?]
  simp only [Int.natCast_pos]
  by_cases hstart : 0xFFF < b.regs.i
  · rw [if_pos (Or.inr hstart), if_pos hstart]
  · rw [if_neg (by omega), if_neg hstart]
    split <;> rfl

/-- A drawing strikes its fault before anything changes, or else changes pixels and the flag register. -/
theorem exec_draw (strict : Bool) (noise : Nat → UInt8) {b : Board s} (hi : 0 ≤ b.regs.i)
    (x y n : Fin 16) :
    (∃ f, (Instruction.draw x y n).fault? strict b.regs = some f ∧
        (perform strict noise (.draw x y n)).exec b = (.error (.fault f), b)) ∨
      ((Instruction.draw x y n).fault? strict b.regs = none ∧ ∃ display flag,
        (perform strict noise (.draw x y n)).exec b =
          (.ok .quiet, { b with display, regs := b.regs.put Registers.flag flag })) := by
  have hread := readBlock_eq strict b hi x y n
  rw [perform]
  -- reading the rows fails exactly with the fault, and drawing them never does
  cases hf : (Instruction.draw x y n).fault? strict b.regs with
  | some f =>
    rw [hf] at hread
    left
    exact ⟨f, rfl, exec_drawSprite_of_error hread⟩
  | none =>
    rw [hf] at hread
    obtain ⟨hit, g, -, hdraw⟩ := exec_drawSprite_of_ok hread
    right
    exact ⟨rfl, _, _, hdraw⟩

/-! ## All instructions

The answer of any instruction, read off the registers before anything is executed. The proof is by cases on
the instructions, with one equation for each. -/

/-- An instruction answers with its fault, or with its effect if it has none. In particular it never answers
    with a misuse: within the bounds of the registers no check of an argument can fail. -/
theorem answer_perform (strict : Bool) (noise : Nat → UInt8) {b : Board s} (hb : b.regs.Sound)
    (ins : Instruction) :
    ((perform strict noise ins).exec b).1 =
      answerOf (ins.fault? strict b.regs) (b.effect ins) := by
  have hi := hb.index.1
  cases ins with
  | ret =>
    rcases hb.empty_or_used with h | ⟨k, h⟩
    · rw [exec_ret_of_zero h, Instruction.fault?, if_pos h]
      rfl
    · rw [exec_ret_of_used h, Instruction.fault?, if_neg (by omega)]
      rfl
  | call nnn =>
    -- here the bounds of the registers are needed: a counter out of range would be a misuse and no fault
    rcases hb.full_or_free with h | ⟨k, h⟩
    · rw [exec_call_of_full h, Instruction.fault?, if_pos h]
      rfl
    · obtain ⟨a, ha⟩ := Int.eq_ofNat_of_zero_le hb.counter.1
      have hpc := hb.counter.2
      rw [exec_call_of_free h ha (by omega), Instruction.fault?, if_neg (by omega)]
      rfl
  | draw x y n =>
    rcases exec_draw strict noise hi x y n with ⟨f, hf, hdraw⟩ | ⟨hf, display, flag, hdraw⟩
    · rw [hdraw, hf]
      rfl
    · rw [hdraw, hf]
      rfl
  | skipDown x =>
    rw [exec_skipDown, Instruction.fault?]
    split
    · rw [if_neg (by omega)]
      rfl
    · rw [if_pos (by omega)]
      rfl
  | skipUp x =>
    rw [exec_skipUp, Instruction.fault?]
    split
    · rw [if_neg (by omega)]
      rfl
    · rw [if_pos (by omega)]
      rfl
  | glyph x =>
    rw [exec_glyph, Instruction.fault?]
    split
    · rw [if_neg (by omega)]
      rfl
    · rw [if_pos (by omega)]
      rfl
  | storeDigits x =>
    rw [exec_storeDigits _ _ _ _ hi, transferAnswer_eq, map_answerOf]
    rfl
  | store x =>
    rw [exec_store x hi]
    rfl
  | fill x =>
    rw [exec_fill x hi]
    rfl
  | setSound x =>
    rw [exec_setSound]
    rfl
  | unrecognized w => cases strict <;> rfl
  | _ => rfl

/-- Registers are sound whatever memory holds. -/
theorem sound_withMemory {b : Board s} (hb : b.regs.Sound) (memory : Memory) :
    ({ b with memory } : Board s).regs.Sound :=
  hb

/-- An instruction that was fetched from memory leaves sound registers, also if it faults. The bound on the
    counter is that of a fetch; calls push the counter and skips add to it. -/
theorem sound_perform {b : Board s} (hb : b.regs.Sound) (hpc : 2 ≤ b.regs.pc ∧ b.regs.pc ≤ 0x1000)
    (ins : Instruction) : ((perform strict noise ins).exec b).2.regs.Sound := by
  have hi := hb.index
  have hend (n : Nat) : 0 ≤ transferEnd b.regs.i n ∧ transferEnd b.regs.i n ≤ 0xFFFF := by
    unfold transferEnd
    omega
  cases ins with
  | clear | awaitKey x => exact hb
  | ret =>
    rcases hb.empty_or_used with h | ⟨k, h⟩
    · rw [exec_ret_of_zero h]
      exact hb
    · rw [exec_ret_of_used h]
      exact hb.ret h
  | sys nnn | jump nnn => exact hb.jump (by have := nnn.isLt; omega)
  | jumpOffset nnn =>
    -- the farthest jump of all
    have hnnn := nnn.isLt
    have hbyte := (b.regs.get Registers.offset).toNat_lt
    exact hb.jump (by omega)
  | call nnn =>
    rcases hb.full_or_free with h | ⟨k, h⟩
    · rw [exec_call_of_full h]
      exact hb
    · -- the counter is pushed, which is where the call was fetched from and two more
      obtain ⟨a, ha⟩ := Int.eq_ofNat_of_zero_le hb.counter.1
      have hnnn := nnn.isLt
      rw [exec_call_of_free h ha (by omega)]
      exact (hb.call h (by omega)).jump (by omega)
  | skipEq x kk | skipNe x kk => exact hb.skipIf hpc.2 _
  | skipEqReg x y | skipNeReg x y => exact hb.skipIf hpc.2 _
  | load x kk | add x kk => exact hb.put x _
  | copy x y | or x y | and x y | xor x y => exact hb.put x _
  | addReg x y => exact (hb.put x _).put _ _
  | sub x y | subFrom x y => exact (hb.put _ _).put x _
  | shiftRight x | shiftLeft x => exact (hb.put _ _).put x _
  | setIndex nnn => exact hb.withIndex (by have := nnn.isLt; omega)
  | random x kk => exact hb.put x _
  | draw x y n =>
    rcases exec_draw strict noise hi.1 x y n with ⟨f, -, hdraw⟩ | ⟨-, display, flag, hdraw⟩
    · rw [hdraw]
      exact hb
    · rw [hdraw]
      exact hb.put _ _
  | skipDown x =>
    rw [exec_skipDown]
    split
    · exact hb.skipIf hpc.2 _
    · exact hb
  | skipUp x =>
    rw [exec_skipUp]
    split
    · exact hb.skipIf hpc.2 _
    · exact hb
  | readDelay x => exact hb.put x _
  | setDelay x => exact hb.withDelay (by have := (b.regs.get x).toNat_lt; omega)
  | setSound x =>
    rw [exec_setSound]
    exact hb.withSound (by have := (b.regs.get x).toNat_lt; omega)
  | addIndex x => exact hb.moveIndex _
  | glyph x =>
    rw [exec_glyph]
    split
    · exact hb.withIndex (by omega)
    · exact hb
  | storeDigits x =>
    rw [exec_storeDigits _ _ _ _ hi.1]
    exact sound_withMemory hb _
  | store x =>
    rw [exec_store x hi.1]
    exact hb.withIndex (hend _)
  | fill x =>
    rw [exec_fill x hi.1]
    exact (hb.withV _).withIndex (hend _)
  | unrecognized w => cases strict <;> exact hb

end Board

end Chip8
