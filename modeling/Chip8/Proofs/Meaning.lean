import Chip8.Proofs.Assembly
import Chip8.Proofs.Past
import Chip8.Proofs.Turns
/-!
The text of a word and what the word does.

The disassembler and the machine take words apart by themselves, with a dispatch each (`mnemonic` and
`Board.execute`). They must agree on which words are instructions, and on which bits of an instruction matter.

1. **Factoring** — both dispatches go through one type: the text of a word is that of `Instruction.ofWord`,
   and executing a word is performing that instruction, once the word is noted (`mnemonic_eq_text` and
   `Board.exec_execute` in `Chip8.Proofs.Dispatch`, `exec_executeWord_eq` here).

2. **Recognition** — no instruction fails as a word that is none does (`recognizes_perform`), so a machine
   takes a word for none exactly if the disassembler does (`unrecognized_executeWord`).

3. **Meaning** — the text of an instruction tells all that performing it depends on, since no two instructions
   have the same text. So words with the same text do the same, but for the record of which word was executed
   last (`sameMeaning_executeWord`). The invariant is `ButForWord`: nothing an instruction or a listener does
   looks at that record.

Both results hold of every machine, also where a debugger has set its registers to what no program could.
-/

namespace Chip8

/-! ## Failures of instructions

An instruction may fail, but never with the fault of a word that is none. The proof goes through all
operations that an instruction is made of. -/

/-- The failure is another than that a word is no instruction. The lemmas below say of each part of an
    instruction that it fails in no way but such, so that only a word that is none can. -/
def Failure.Recognizes (e : Failure) : Prop := ∀ w, e ≠ .fault (.unrecognized w)

namespace Memory

theorem recognizes_locate {a : Int} {f : Fault} (h : locate a = .error f) :
    (Failure.fault f).Recognizes := by
  rw [((locate_eq_error_iff a f).mp h).2]
  intro w hw
  cases hw

/-- Reading and writing a cell fail only where the address is none. -/
theorem recognizes_access {α : Type} {g : Fin 4096 → α} {a : Int} {f : Fault}
    (h : g <$> locate a = .error f) : (Failure.fault f).Recognizes := by
  cases hlocate : locate a with
  | ok k =>
    rw [hlocate] at h
    cases h
  | error f' =>
    rw [hlocate] at h
    cases h
    exact recognizes_locate hlocate

/-- Reading a block fails only where its first or last address is none. -/
theorem recognizes_readBlock {m : Memory} {start length : Int} {f : Fault}
    (h : m.readBlock start length = .error f) : (Failure.fault f).Recognizes := by
  unfold readBlock at h
  cases hfirst : locate start with
  | error f' =>
    rw [hfirst] at h
    cases h
    exact recognizes_locate hfirst
  | ok first =>
    rw [hfirst] at h
    -- a length below one leaves no last address to look at, so nothing can fail any more
    by_cases hlength : 0 < length
    · cases hlast : locate (start + length - 1) with
      | error f' =>
        simp only [bind, Except.bind, hlength, if_true, hlast] at h
        cases h
        exact recognizes_locate hlast
      | ok last =>
        simp only [bind, Except.bind, hlength, if_true, hlast] at h
        cases h
    · simp only [bind, Except.bind, hlength, if_false] at h
      cases h

end Memory

theorem recognizes_misuse (e : Misuse) : (Failure.misuse e).Recognizes := by
  intro w hw
  cases hw

/-- A digit without a glyph is a fault, but not that of an unrecognized word. -/
theorem recognizes_glyphAddress {digit : Int} {f : Fault} (h : glyphAddress digit = .error f) :
    (Failure.fault f).Recognizes := by
  unfold glyphAddress at h
  split at h
  · cases h
  · cases h
    intro w hw
    cases hw

namespace Registers

/-- An empty stack is a fault, but not that of an unrecognized word. -/
theorem recognizes_pop {r : Registers} {e : Failure} (h : r.pop.1 = .error e) : e.Recognizes := by
  unfold pop at h
  split at h
  · cases h
    intro w hw
    cases hw
  · dsimp only at h
    cases hk : cellAt 16 (r.sp - 1) with
    | ok k =>
      rw [hk] at h
      cases h
    | error e' =>
      rw [hk] at h
      cases h
      exact recognizes_misuse e'

/-- A full stack is a fault, but not that of an unrecognized word. -/
theorem recognizes_push {r : Registers} {a : Int} {e : Failure} (h : r.push a = .error e) :
    e.Recognizes := by
  unfold push at h
  split at h
  · cases h
    intro w hw
    cases hw
  · cases hpoke : r.pokeStack r.sp a with
    | ok t =>
      rw [hpoke] at h
      cases h
    | error e' =>
      rw [hpoke] at h
      cases h
      exact recognizes_misuse e'

end Registers

namespace Board

variable {s : Size} (strict : Bool) (noise : Nat → UInt8)

theorem recognizes_onRegs (f : Registers → Registers) :
    Act.FailsWith Failure.Recognizes (onRegs f : Act (Board s) Effect) :=
  .bind (.modify _) fun _ => .pure _

theorem recognizes_readByte (a : Int) :
    Act.FailsWith Failure.Recognizes (readByte a : Act (Board s) UInt8) :=
  .bind .get fun _ => .ofExcept_of fun _ => Memory.recognizes_access

theorem recognizes_putByte (a : Int) (v : UInt8) :
    Act.FailsWith Failure.Recognizes (putByte a v : Act (Board s) Unit) :=
  .bind .get fun _ => .bind (.ofExcept_of fun _ => Memory.recognizes_access) fun _ => .modify _

theorem recognizes_storeAll (xs : List (Fin 16)) :
    Act.FailsWith Failure.Recognizes (storeAll xs : Act (Board s) Unit) := by
  induction xs with
  | nil => exact .pure ()
  | cons x xs ih =>
    exact .bind .get fun _ => .bind (recognizes_putByte _ _) fun _ => .bind (.modify _) fun _ => ih

theorem recognizes_fillAll (xs : List (Fin 16)) :
    Act.FailsWith Failure.Recognizes (fillAll xs : Act (Board s) Unit) := by
  induction xs with
  | nil => exact .pure ()
  | cons x xs ih =>
    exact .bind .get fun _ => .bind (recognizes_readByte _) fun _ => .bind (.modify _) fun _ => ih

theorem recognizes_namedKey (x : Fin 16) :
    Act.FailsWith Failure.Recognizes (namedKey x : Act (Board s) (Fin 16)) := by
  refine .bind .get fun b => ?_
  dsimp only
  split
  · exact .pure _
  · refine .throw ?_
    intro w hw
    cases hw

theorem recognizes_setTone (on : Bool) :
    Act.FailsWith Failure.Recognizes (setTone on : Act (Board s) Effect) := by
  refine .bind .get fun b => ?_
  split
  · exact .pure _
  · exact .bind (.modify _) fun _ => .pure _

theorem recognizes_drawSprite (x y n : Fin 16) :
    Act.FailsWith Failure.Recognizes (drawSprite x y n : Act (Board s) Effect) := by
  refine .bind .get fun b => .bind (.ofExcept_of fun _ => Memory.recognizes_readBlock) fun rows => ?_
  exact .bind (.modify _) fun _ => .bind (.ofExcept recognizes_misuse _) fun _ => recognizes_onRegs _

/-- An instruction never fails as a word that is none does. The cases are those of the type. -/
theorem recognizes_perform {ins : Instruction} (h : ∀ w, ins ≠ .unrecognized w) :
    Act.FailsWith Failure.Recognizes (perform strict noise ins : Act (Board s) Effect) := by
  cases ins with
  | clear => exact .bind (.modify _) fun _ => .pure _
  | ret =>
    refine .bind .get fun b => ?_
    -- the stack is popped and the registers are stored before it is looked whether that failed
    have hpop (e : Failure) := Registers.recognizes_pop (r := b.regs) (e := e)
    generalize b.regs.pop = out at hpop ⊢
    obtain ⟨answer, regs⟩ := out
    refine .bind (.modify _) fun _ => ?_
    cases answer with
    | ok a => exact recognizes_onRegs _
    | error e => exact .throw (hpop e rfl)
  | call nnn =>
    refine .bind .get fun b => ?_
    dsimp only
    cases hpush : b.regs.push b.regs.pc with
    | ok r => exact recognizes_onRegs _
    | error e => exact .throw (Registers.recognizes_push hpush)
  | random x kk => exact .bind .get fun _ => .bind (.modify _) fun _ => recognizes_onRegs _
  | draw x y n => exact recognizes_drawSprite x y n
  | skipDown x | skipUp x =>
    exact .bind (recognizes_namedKey x) fun _ => .bind .get fun _ => recognizes_onRegs _
  | awaitKey x => exact .pure _
  | setSound x => exact .bind (.modify _) fun _ => .bind .get fun _ => recognizes_setTone _
  | glyph x =>
    exact .bind .get fun _ => .bind (.ofExcept_of fun _ => recognizes_glyphAddress) fun _ =>
      recognizes_onRegs _
  | storeDigits x =>
    exact .bind .get fun _ => .bind (recognizes_putByte _ _) fun _ =>
      .bind (recognizes_putByte _ _) fun _ => .bind (recognizes_putByte _ _) fun _ => .pure _
  | store x => exact .bind (recognizes_storeAll _) fun _ => .pure _
  | fill x => exact .bind (recognizes_fillAll _) fun _ => .pure _
  | unrecognized w => exact absurd rfl (h w)
  | _ => exact recognizes_onRegs _

end Board

/-! ## Machines

From boards to machines: a word is executed as its instruction, noted as the last one. -/

namespace Machine

variable {κ τ : Type} {s : Size} [Seconds τ] [Clock κ τ] {host : Host s}

/-- Do what an instruction does, and pass on its effect. The machine has no such operation: it executes words,
    and `exec_executeWord_eq` says that executing a word comes to this. -/
def perform (host : Host s) (strict : Bool) (noise : Nat → UInt8) (ins : Instruction) :
    Act (Machine κ τ s) Unit := do
  deliver host (← onBoard (Board.perform strict noise ins))

/-- A word is noted, and then its instruction does the rest. -/
theorem exec_executeWord_eq (host : Host s) (w : Word) (m : Machine κ τ s) :
    (executeWord host w).exec m =
      (perform host m.strict m.noise (Instruction.ofWord w)).exec (m.mapRegs (·.noting w)) := by
  have hboard : (onBoard (Board.execute m.strict m.noise w)).exec m =
      (onBoard (Board.perform m.strict m.noise (Instruction.ofWord w))).exec
        (m.mapRegs (·.noting w)) := by
    rw [exec_onBoard, exec_onBoard, Board.exec_execute]
    rfl
  rw [executeWord, Act.exec_get_bind, perform, Act.exec_bind, Act.exec_bind, hboard]

/-- Where its instruction has nothing to tell, a word does to a machine what it does to the board. -/
theorem exec_executeWord_of_quiet (host : Host s) {m : Machine κ τ s} {w : Word} {ins : Instruction}
    (hins : ins.Encodes w) {board : Board s}
    (h : (Board.perform m.strict m.noise ins).exec (m.board.mapRegs (·.noting w)) =
      (.ok .quiet, board)) :
    (executeWord host w).exec m = (.ok (), { m with board }) := by
  have honBoard : (onBoard (Board.perform m.strict m.noise ins)).exec (m.mapRegs (·.noting w)) =
      (.ok .quiet, { m with board }) := by
    rw [exec_onBoard]
    exact congrArg (fun out : Except Failure Effect × Board s => (out.1, { m with board := out.2 })) h
  rw [exec_executeWord_eq, (Instruction.ofWord_eq_iff w ins).mpr hins, perform,
    Act.exec_bind_of_ok honBoard]
  rfl

/-! ### Which words are instructions

A machine finds out that a word is no instruction exactly where the word has no text. -/

/-- The machine passes on what the board answers and adds failures of listeners only. -/
theorem recognizes_perform (strict : Bool) (noise : Nat → UInt8) {ins : Instruction}
    (h : ∀ w, ins ≠ .unrecognized w) :
    Act.FailsWith Failure.Recognizes (perform host strict noise ins : Act (Machine κ τ s) Unit) := by
  refine .bind (fun m e he => ?_) fun effect m e he => ?_
  · rw [exec_onBoard] at he
    exact Board.recognizes_perform strict noise h m.board e he
  · -- passing on an effect fails with a listener only
    obtain ⟨⟨name, rfl⟩, -⟩ := deliver_fails host effect m e he
    intro w hw
    cases hw

/-- A word that is no instruction is noted, and then it is a fault or nothing but a line of the log. -/
theorem executeWord_of_unrecognized (host : Host s) {w : Word} (h : w.Unrecognized) (m : Machine κ τ s) :
    (executeWord host w).exec m =
      if m.strict then (.error (.fault (.unrecognized w)), m.mapRegs (·.noting w))
      else (.ok (), (m.mapRegs (·.noting w)).note .debug
        s!"Ignoring unrecognized instruction ${Text.hex 4 w.toNat}") := by
  rw [exec_executeWord_eq, Instruction.ofWord_of_unrecognized h]
  cases m.strict <;> rfl

/-- A machine takes a word for no instruction exactly if the word has no text. If it is strict, that is a
    fault; if it is not, all that changes is which word was executed last. -/
theorem unrecognized_executeWord (host : Host s) (w : Word) (m : Machine κ τ s) :
    (∀ w', ((executeWord host w).exec m).1 = .error (.fault (.unrecognized w')) ↔
      m.strict = true ∧ mnemonic w = unknownText ∧ w' = w) ∧
    (m.strict = false → mnemonic w = unknownText →
      (executeWord host w).exec m = (.ok (), (m.mapRegs (·.noting w)).note .debug
        s!"Ignoring unrecognized instruction ${Text.hex 4 w.toNat}")) := by
  rw [mnemonic_eq_unknownText_iff]
  by_cases hw : w.Unrecognized
  · rw [executeWord_of_unrecognized host hw]
    cases m.strict with
    | true =>
      refine ⟨fun w' => ?_, fun h => by cases h⟩
      simp only [if_true, true_and, hw, Except.error.injEq, Failure.fault.injEq,
        Fault.unrecognized.injEq]
      exact eq_comm
    | false =>
      refine ⟨fun w' => ?_, fun _ _ => rfl⟩
      simp
  · -- a word that is an instruction may fail, but only as an instruction does
    have hinstruction : ∀ w', Instruction.ofWord w ≠ .unrecognized w' := by
      intro w' hw'
      exact hw ((Instruction.ofWord_eq_iff w _).mp hw').1
    refine ⟨fun w' => ⟨fun he => ?_, fun h => absurd h.2.1 hw⟩, fun _ h => absurd h hw⟩
    rw [exec_executeWord_eq] at he
    exact absurd rfl (recognizes_perform m.strict m.noise hinstruction _ _ he w')

/-- In a machine that is not strict nothing happens at the last word of all. -/
theorem unrecognized_last :
    still.strict = false ∧ mnemonic 0xFFFF = unknownText ∧
      (executeWord Host.inert 0xFFFF).exec still = (.ok (), (still.mapRegs (·.noting 0xFFFF)).note .debug
        s!"Ignoring unrecognized instruction ${Text.hex 4 0xFFFF}") :=
  ⟨rfl, rfl, (unrecognized_executeWord Host.inert 0xFFFF still).2 rfl rfl⟩

/-! ### What instructions do

Two words with one text have one instruction. They do the same except that each is noted as itself. -/

/-- The machines differ only in which word was executed last, which is `w` in `t`. -/
def ButForWord (w : Word) (m t : Machine κ τ s) : Prop := t = m.mapRegs (·.noting w)

omit [Seconds τ] [Clock κ τ] in
/-- An instruction does not read which word was executed last, and does not set it. -/
theorem together_onBoard_perform (strict : Bool) (noise : Nat → UInt8) (ins : Instruction) (w : Word) :
    Act.Together (ButForWord (κ := κ) (τ := τ) (s := s) w) (onBoard (Board.perform strict noise ins))
      (onBoard (Board.perform strict noise ins)) := by
  rintro m _ rfl
  have hpast (b : Board s) : b.withPast (fun _ => w) 0 = b.mapRegs (·.noting w) := by
    rw [Board.withPast, Nat.zero_add]
    rfl
  have hnoise : (fun k => noise (0 + k)) = noise := funext fun k => by rw [Nat.zero_add]
  obtain ⟨hanswer, hboard⟩ := Board.unmindful_perform (fun _ => w) 0 strict noise ins m.board _ rfl
  rw [hpast, hnoise] at hanswer hboard
  rw [hpast] at hboard
  rw [exec_onBoard, exec_onBoard]
  refine ⟨hanswer, ?_⟩
  unfold ButForWord
  exact congrArg (fun board : Board s => { m with board }) hboard

/-- Listeners do not hear which word was executed last. -/
theorem together_deliver (effect : Effect) (w : Word) :
    Act.Together (ButForWord (κ := κ) (τ := τ) w) (deliver host effect) (deliver host effect) := by
  have hpause (m t : Machine κ τ s) (h : ButForWord w m t) : ButForWord w m.pause t.pause := by
    obtain rfl := h
    unfold ButForWord pause pauseCadences
    dsimp only [mapRegs]
    cases m.pace <;> rfl
  -- whatever a listener does in answer, the registers are not among the things that it changes
  have hemit (event : Event s) :
      Act.Together (ButForWord (κ := κ) (τ := τ) w) (emit host event) (emit host event) := by
    refine together_emit ?_ ?_ ?_ hpause ?_
    · rintro m _ rfl
      rfl
    · rintro m _ records rfl
      rfl
    · rintro m _ rfl
      rfl
    · rintro m _ rfl
      rfl
  cases effect with
  | quiet => exact .pure ()
  | tone on => exact hemit _
  | awaitKey x =>
    refine .bind (.modify ?_) fun _ => hemit _
    rintro m _ rfl
    rfl
  | ignored word =>
    refine .modify ?_
    rintro m _ rfl
    rfl

/-- An instruction does the same whatever word was executed before. -/
theorem exec_perform_noting (host : Host s) (strict : Bool) (noise : Nat → UInt8) (ins : Instruction)
    (w : Word) (m : Machine κ τ s) :
    (perform host strict noise ins).exec (m.mapRegs (·.noting w)) =
      (((perform host strict noise ins).exec m).1,
        ((perform host strict noise ins).exec m).2.mapRegs (·.noting w)) := by
  have htogether : Act.Together (ButForWord (κ := κ) (τ := τ) w) (perform host strict noise ins)
      (perform host strict noise ins) :=
    .bind (together_onBoard_perform strict noise ins w) fun effect => together_deliver effect w
  obtain ⟨hanswer, hleft⟩ := htogether m _ rfl
  exact Prod.ext hanswer.symm hleft

/-- Words with the same text do the same to every machine: they answer the same, and what they leave
    differs only in which word was executed last. -/
theorem sameMeaning_executeWord (host : Host s) {w₁ w₂ : Word} (h : mnemonic w₁ = mnemonic w₂)
    (hknown : mnemonic w₁ ≠ unknownText) (m : Machine κ τ s) :
    ∃ (answer : Except Failure Unit) (t : Machine κ τ s),
      (executeWord host w₁).exec m = (answer, t.mapRegs (·.noting w₁)) ∧
      (executeWord host w₂).exec m = (answer, t.mapRegs (·.noting w₂)) := by
  rw [mnemonic_eq_text] at hknown
  rw [mnemonic_eq_text, mnemonic_eq_text] at h
  have hins : Instruction.ofWord w₁ = Instruction.ofWord w₂ := Instruction.eq_of_text_eq h hknown
  have hrun (w : Word) (hw : Instruction.ofWord w = Instruction.ofWord w₁) :
      (executeWord host w).exec m =
        (((perform host m.strict m.noise (Instruction.ofWord w₁)).exec m).1,
          ((perform host m.strict m.noise (Instruction.ofWord w₁)).exec m).2.mapRegs (·.noting w)) := by
    rw [exec_executeWord_eq, exec_perform_noting, hw]
  exact ⟨_, _, hrun w₁ rfl, hrun w₂ hins.symm⟩

/-- Two words of a shift that differ in the nibble that neither the text nor the shift looks at. -/
theorem sameMeaning_shiftRight :
    mnemonic 0x8126 = mnemonic 0x8136 ∧ mnemonic 0x8126 ≠ unknownText ∧
      ∃ (answer : Except Failure Unit) (t : Machine (ManualClock Rat) Rat .standard),
        (executeWord Host.inert 0x8126).exec still = (answer, t.mapRegs (·.noting 0x8126)) ∧
          (executeWord Host.inert 0x8136).exec still = (answer, t.mapRegs (·.noting 0x8136)) := by
  have htext : mnemonic 0x8126 = mnemonic 0x8136 := rfl
  have hknown : mnemonic 0x8126 ≠ unknownText := by decide
  exact ⟨htext, hknown, sameMeaning_executeWord Host.inert htext hknown still⟩

end Machine

end Chip8
