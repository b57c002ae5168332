import Chip8.Proofs.Executing
/-!
What instructions do not look at.

A board remembers the word that was executed last and how many random bytes were taken. The first is there for
messages only, and the second tells which byte of the noise comes next. A machine that is reset keeps neither
apart from what is loaded into it, so whoever compares a machine with a new one has to know that they make no
difference.

1. **Relation** — a board and the same board with another past, `b' = b.withPast past taken`. An operation
   that keeps it, on boards that differ in their past only, is `Unmindful`.

2. **Operations** — each operation on a board is unmindful if its changes of the registers commute with
   noting a word (`unmindful_mapRegs`). Of the call stack this needs a proof (`Registers.pop_noting`,
   `Registers.push_noting`); for the others it holds by definition.

3. **Instructions** — on boards that differ in their past an instruction answers the same and leaves boards
   that differ in their past (`unmindful_perform`), as long as the random bytes that are still to come are the
   same. Only `random` needs that assumption.
-/

namespace Chip8

variable {s : Size}

namespace Board

/-- The board with another past: another word executed last, and more random bytes taken. The other word may
    depend on that of the board, so that both a constant and the identity are a `past`. -/
def withPast (past : Word → Word) (taken : Nat) (b : Board s) : Board s :=
  { b with
    regs := b.regs.noting (past b.regs.lastWord)
    draws := taken + b.draws }

variable {past : Word → Word} {taken : Nat}

/-- The operation `y` does on a board with another past what `x` does on the board, and the past stays as it
    is. -/
def Unmindful {α : Type} (past : Word → Word) (taken : Nat) (x y : Act (Board s) α) : Prop :=
  Act.Together (fun b b' => b' = b.withPast past taken) x y

theorem unmindful_modify {f g : Board s → Board s}
    (h : ∀ b, g (b.withPast past taken) = (f b).withPast past taken) :
    Unmindful past taken (modify f) (modify g) := by
  refine .modify ?_
  rintro b _ rfl
  exact h b

theorem unmindful_get {α : Type} {f g : Board s → Act (Board s) α}
    (h : ∀ b, Unmindful past taken (f b) (g (b.withPast past taken))) :
    Unmindful past taken (get >>= f) (get >>= g) := by
  refine .get_bind ?_
  rintro b _ rfl
  exact h b b _ rfl

/-! ## Single operations

Each operation on a board that an instruction is made of, in the order in which they are defined. -/

/-- A change of the registers is unmindful if it does not look at the last word and does not set it. -/
theorem unmindful_mapRegs {f : Registers → Registers} (h : ∀ r w, f (r.noting w) = (f r).noting w) :
    Unmindful past taken (modify (mapRegs f) : Act (Board s) PUnit) (modify (mapRegs f)) := by
  refine unmindful_modify fun b => ?_
  -- noting the word that is there already changes nothing, so `f` cannot have set another
  have hself : f b.regs = (f b.regs).noting b.regs.lastWord := h b.regs b.regs.lastWord
  have hword : (f b.regs).lastWord = b.regs.lastWord := by
    rw [hself]
    rfl
  show ({ b with regs := f (b.regs.noting (past b.regs.lastWord)), draws := _ } : Board s) =
    { b with regs := (f b.regs).noting (past (f b.regs).lastWord), draws := _ }
  rw [h, hword]
  rfl

theorem unmindful_onRegs {f : Registers → Registers} (h : ∀ r w, f (r.noting w) = (f r).noting w) :
    Unmindful past taken (onRegs f : Act (Board s) Effect) (onRegs f) :=
  .bind (unmindful_mapRegs h) fun _ => .pure _

/-- The tone is switched whatever the past of the board. -/
theorem unmindful_setTone (on : Bool) :
    Unmindful past taken (setTone on : Act (Board s) Effect) (setTone on) := by
  refine unmindful_get fun b => ?_
  dsimp only [withPast]
  split
  · exact .pure _
  · exact .bind (unmindful_modify fun _ => rfl) fun _ => .pure _

theorem unmindful_readByte (a : Int) :
    Unmindful past taken (readByte a : Act (Board s) UInt8) (readByte a) :=
  unmindful_get fun _ => .ofExcept _ _

theorem unmindful_putByte (a : Int) (v : UInt8) :
    Unmindful past taken (putByte a v : Act (Board s) Unit) (putByte a v) :=
  unmindful_get fun _ => .bind (.ofExcept _ _) fun _ => unmindful_modify fun _ => rfl

theorem unmindful_fetch : Unmindful past taken (fetch : Act (Board s) Word) fetch := by
  refine unmindful_get fun b => .bind (unmindful_readByte _) fun hi => .bind (unmindful_readByte _) fun lo => ?_
  exact .bind (unmindful_mapRegs fun _ _ => rfl) fun _ => .pure _

/-- Registers are stored whatever the past of the board. -/
theorem unmindful_storeAll (xs : List (Fin 16)) :
    Unmindful past taken (storeAll xs : Act (Board s) Unit) (storeAll xs) := by
  induction xs with
  | nil => exact .pure ()
  | cons x xs ih =>
    refine unmindful_get fun b => .bind (unmindful_putByte _ _) fun _ => ?_
    exact .bind (unmindful_mapRegs fun _ _ => rfl) fun _ => ih

/-- Registers are filled whatever the past of the board. -/
theorem unmindful_fillAll (xs : List (Fin 16)) :
    Unmindful past taken (fillAll xs : Act (Board s) Unit) (fillAll xs) := by
  induction xs with
  | nil => exact .pure ()
  | cons x xs ih =>
    refine unmindful_get fun b => .bind (unmindful_readByte _) fun c => ?_
    exact .bind (unmindful_mapRegs fun _ _ => rfl) fun _ => ih

theorem unmindful_namedKey (x : Fin 16) :
    Unmindful past taken (namedKey x : Act (Board s) (Fin 16)) (namedKey x) := by
  refine unmindful_get fun b => ?_
  have hget : (b.withPast past taken).regs.get x = b.regs.get x := rfl
  simp only [hget]
  split
  · exact .pure _
  · exact .throw _

theorem unmindful_drawSprite (x y n : Fin 16) :
    Unmindful past taken (drawSprite x y n : Act (Board s) Effect) (drawSprite x y n) := by
  refine unmindful_get fun b => .bind (.ofExcept _ _) fun rows => ?_
  refine .bind (unmindful_modify fun _ => rfl) fun _ => ?_
  exact .bind (.ofExcept _ _) fun hit => unmindful_onRegs fun _ _ => rfl

end Board

/-! ## The call stack

A return address is taken and put whatever the last word is. -/

namespace Registers

/-- A return address comes off the stack in the same way whatever the last word is. -/
theorem pop_noting (r : Registers) (w : Word) : (r.noting w).pop = (r.pop.1, r.pop.2.noting w) := by
  rw [pop, pop]
  by_cases h : r.sp = 0
  · have hw : (r.noting w).sp = 0 := h
    rw [if_pos h, if_pos hw]
  · have hw : (r.noting w).sp ≠ 0 := h
    rw [if_neg h, if_neg hw]
    dsimp only [noting]
    cases cellAt 16 (r.sp - 1) <;> rfl

/-- To take a return address off the stack does not set the last word. -/
theorem lastWord_pop (r : Registers) : r.pop.2.lastWord = r.lastWord := by
  have hself : r.pop = (r.pop.1, r.pop.2.noting r.lastWord) := r.pop_noting r.lastWord
  rw [hself]
  rfl

/-- A return address goes onto the stack in the same way whatever the last word is. -/
theorem push_noting (r : Registers) (w : Word) (a : Int) :
    (r.noting w).push a = (r.push a).map (·.noting w) := by
  have hpoke : (r.noting w).pokeStack r.sp a = (r.pokeStack r.sp a).map (·.noting w) := by
    unfold pokeStack
    cases cellAt 16 r.sp with
    | error e => rfl
    | ok k => cases checkValue 16 a <;> rfl
  rw [push, push]
  by_cases h : 16 ≤ r.sp
  · have hw : 16 ≤ (r.noting w).sp := h
    rw [if_pos h, if_pos hw]
    rfl
  · have hw : ¬16 ≤ (r.noting w).sp := h
    rw [if_neg h, if_neg hw, show (r.noting w).sp = r.sp from rfl, hpoke]
    cases r.pokeStack r.sp a <;> rfl

theorem lastWord_push (r : Registers) (a : Int) {t : Registers} (h : r.push a = .ok t) :
    t.lastWord = r.lastWord := by
  have hself : r.push a = (r.push a).map (·.noting r.lastWord) := r.push_noting r.lastWord a
  rw [h] at hself
  rw [Except.ok.inj hself]
  rfl

theorem skipIf_noting (r : Registers) (w : Word) (c : Bool) :
    (r.noting w).skipIf c = (r.skipIf c).noting w := by
  cases c <;> rfl

end Registers

/-! ## Instructions

Return and call are proved on their own, since they take the registers apart; all other instructions are
sequences of single operations. -/

namespace Board

variable {past : Word → Word} {taken : Nat}

/-- A return does not look at the past of a board. -/
theorem unmindful_ret (strict : Bool) (noise noise' : Nat → UInt8) :
    Unmindful past taken (perform strict noise .ret : Act (Board s) Effect) (perform strict noise' .ret) := by
  refine unmindful_get fun b => ?_
  have hpop := b.regs.pop_noting (past b.regs.lastWord)
  have hword := b.regs.lastWord_pop
  dsimp only [withPast]
  rw [hpop]
  generalize b.regs.pop = out at hword ⊢
  obtain ⟨answer, regs⟩ := out
  refine .bind (unmindful_modify fun c => ?_) fun _ => ?_
  · dsimp only [withPast]
    rw [hword]
  · cases answer with
    | error e => exact .throw e
    | ok a => exact unmindful_onRegs fun _ _ => rfl

/-- A call does not look at the past of a board. -/
theorem unmindful_call (strict : Bool) (noise noise' : Nat → UInt8) (nnn : Fin 4096) :
    Unmindful past taken (perform strict noise (.call nnn) : Act (Board s) Effect)
      (perform strict noise' (.call nnn)) := by
  refine unmindful_get fun b => ?_
  have hpush := b.regs.push_noting (past b.regs.lastWord) b.regs.pc
  dsimp only [withPast]
  rw [show (b.regs.noting (past b.regs.lastWord)).pc = b.regs.pc from rfl, hpush]
  -- whatever comes of the push, the last word is still the one that was noted
  have hword (r : Registers) := b.regs.lastWord_push b.regs.pc (t := r)
  generalize b.regs.push b.regs.pc = out at hword ⊢
  cases out with
  | error e => exact .throw e
  | ok r =>
    refine .bind (unmindful_modify fun c => ?_) fun _ => .pure _
    dsimp only [withPast, mapRegs]
    rw [show (r.jump nnn.val).lastWord = b.regs.lastWord from hword r rfl]
    rfl

/-- An instruction does not look at the past of a board, but for the random bytes that are still to come. -/
theorem unmindful_perform (past : Word → Word) (taken : Nat) (strict : Bool) (noise : Nat → UInt8)
    (ins : Instruction) :
    Unmindful past taken (perform strict (fun k => noise (taken + k)) ins : Act (Board s) Effect)
      (perform strict noise ins) := by
  cases ins with
  | clear => exact .bind (unmindful_modify fun _ => rfl) fun _ => .pure _
  | ret => exact unmindful_ret _ _ _
  | call nnn => exact unmindful_call _ _ _ nnn
  | skipEq x kk | skipNe x kk | skipEqReg x y | skipNeReg x y =>
    exact unmindful_onRegs fun r w => Registers.skipIf_noting r w _
  | random x kk =>
    -- the one place where the bytes that were taken count; both sides take the same byte
    refine unmindful_get fun b => .bind (unmindful_modify fun c => ?_) fun _ => ?_
    · exact congrArg (fun n => ({ c.withPast past taken with draws := n } : Board s)) (Nat.add_assoc ..)
    · exact unmindful_onRegs fun _ _ => rfl
  | draw x y n => exact unmindful_drawSprite x y n
  | skipDown x | skipUp x =>
    refine .bind (unmindful_namedKey x) fun key => unmindful_get fun b => ?_
    exact unmindful_onRegs fun r w => Registers.skipIf_noting r w _
  | awaitKey x => exact .pure _
  | setSound x =>
    refine .bind (unmindful_mapRegs fun _ _ => rfl) fun _ => unmindful_get fun b => ?_
    exact unmindful_setTone _
  | glyph x =>
    refine unmindful_get fun b => .bind (.ofExcept _ _) fun a => ?_
    exact unmindful_onRegs fun _ _ => rfl
  | storeDigits x =>
    refine unmindful_get fun b => .bind (unmindful_putByte _ _) fun _ => ?_
    exact .bind (unmindful_putByte _ _) fun _ => .bind (unmindful_putByte _ _) fun _ => .pure _
  | store x => exact .bind (unmindful_storeAll _) fun _ => .pure _
  | fill x => exact .bind (unmindful_fillAll _) fun _ => .pure _
  | unrecognized w => exact .ite (.throw _) (.pure _)
  | _ => exact unmindful_onRegs fun _ _ => rfl

end Board
end Chip8
