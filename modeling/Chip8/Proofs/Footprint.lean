import Chip8.Proofs.Change
import Chip8.Proofs.Reach
/-!
What executing a word leaves alone.

A machine executes a word on its board and passes the effect on, so a word can change the board, the wait for
a key, and what listeners change when they are told. A statement for every word and every part of the machine
would be a table of 35 kinds of word by 14 parts; it is proved the other way around, part by part.

1. **Specification** — `Board.Footprint` and `Machine.Footprint` say of each part which words may change it,
   and where: which cells of memory, which registers, which cell of the stack.

2. **Words** — all that a word changes on the board is one of the ways of `Board.Change`
   (`change_executed`). Each part of the footprint is read off these ways by one lemma (`memory_of_ne`,
   `bytes_of_ne` and the rest); none of them looks at an instruction.

3. **Machine** — `footprint_executeWord` holds of every word in every machine that calls lead to, whether the
   word faults or not and whatever the listeners do.
-/

namespace Chip8

variable {κ τ : Type} {s : Size}

/-! ## The board

What may change on a board, read off the ways in `Chip8.Proofs.Change`: each part names the words that can
reach it. -/

namespace Board

/-- Which words may change which part of a board, and where: `b` is the board before the word and `b'` the one
    after it. Each field is stated the way it is used, from a change to the words that can have made it. -/
structure Footprint (w : Word) (b b' : Board s) : Prop where
  /-- `Fx33` stores three digits, `Fx55` the registers up to `x`. -/
  memory : ∀ (a : Nat) (h : a < 4096), b'.memory.cells[a] ≠ b.memory.cells[a] →
    (w.Misc 0x33 ∧ b.regs.i ≤ a ∧ a ≤ b.regs.i + 2) ∨
      (w.Misc 0x55 ∧ b.regs.i ≤ a ∧ a ≤ b.regs.i + w.x.val)
  pixels : b'.display.grid ≠ b.display.grid → w = 0x00E0 ∨ w.family = 0xD
  /-- The stack pointer goes up by a call and down by a return. -/
  pointer : b'.regs.sp ≠ b.regs.sp →
    (w.family = 0x2 ∧ b'.regs.sp = b.regs.sp + 1) ∨ (w = 0x00EE ∧ b'.regs.sp = b.regs.sp - 1)
  /-- A call that moves the stack pointer writes the cell that it pointed at. -/
  stack : ∀ k : Fin 16,
    getElem b'.regs.stack k.val (lt_sixteen k) ≠ getElem b.regs.stack k.val (lt_sixteen k) →
      w.family = 0x2 ∧ b'.regs.sp = b.regs.sp + 1 ∧ b.regs.sp = k.val
  index : b'.regs.i ≠ b.regs.i → w.Points ∨ w.Misc 0x55 ∨ w.Misc 0x65
  delay : b'.regs.delay ≠ b.regs.delay → w.Misc 0x15
  sound : b'.regs.sound ≠ b.regs.sound → w.Misc 0x18
  tone : b'.tone ≠ b.tone → w.Misc 0x18
  /-- Besides its own register `x` a word may change the flag register, or the ones below `x`. -/
  bytes : ∀ k : Fin 16, b'.regs.get k ≠ b.regs.get k →
    ((w.Puts ∨ w.family = 0xC) ∧ k = w.x) ∨ (w.Flags ∧ (k = w.x ∨ k = Registers.flag)) ∨
      (w.family = 0xD ∧ k = Registers.flag) ∨ (w.Misc 0x65 ∧ k ≤ w.x)
  counter : b'.regs.pc ≠ b.regs.pc → w.Jumps
  /-- One random byte is taken by `Cxkk`, and none by any other word. -/
  draws : b'.draws = if w.family = 0xC then b.draws + 1 else b.draws
  keypad : b'.keypad = b.keypad

namespace Change

/-! Each field of the footprint is a case analysis on the way of the change, in which all ways but those of the
    field keep the part as it is and so contradict the premise that it changed. -/

variable {b b' : Board s} {w : Word}

/-- A byte of memory changes only where digits or registers are stored, within their range. -/
theorem memory_of_ne (h : Change b w b') (a : Nat) (ha : a < 4096)
    (hne : b'.memory.cells[a] ≠ b.memory.cells[a]) :
    (w.Misc 0x33 ∧ b.regs.i ≤ a ∧ a ≤ b.regs.i + 2) ∨
      (w.Misc 0x55 ∧ b.regs.i ≤ a ∧ a ≤ b.regs.i + w.x.val) := by
  -- only two of the ways change memory, and outside their range they leave it
  cases h with
  | storeDigits word memory kept =>
    left
    refine ⟨word, ?_⟩
    refine Decidable.byContradiction fun hout => ?_
    exact hne (kept a ha (by omega))
  | store word memory i kept =>
    right
    refine ⟨word, ?_⟩
    refine Decidable.byContradiction fun hout => ?_
    exact hne (kept a ha (by omega))
  | _ => exact absurd rfl hne

/-- Pixels change only where the display is cleared or a sprite is drawn. -/
theorem pixels_of_ne (h : Change b w b') (hne : b'.display.grid ≠ b.display.grid) :
    w = 0x00E0 ∨ w.family = 0xD := by
  cases h with
  | clear word => exact Or.inl word
  | draw word display flag => exact Or.inr word
  | _ => exact absurd rfl hne

/-- The stack pointer moves up at a call and down at a return. -/
theorem pointer_of_ne (h : Change b w b') (hne : b'.regs.sp ≠ b.regs.sp) :
    (w.family = 0x2 ∧ b'.regs.sp = b.regs.sp + 1) ∨
      (w = 0x00EE ∧ b'.regs.sp = b.regs.sp - 1) := by
  cases h with
  | call word k free cell pc => exact Or.inl ⟨word, rfl⟩
  | ret word pc => exact Or.inr ⟨word, rfl⟩
  | _ => exact absurd rfl hne

/-- A cell of the stack changes only at a call, and only the one at the stack pointer. -/
theorem stack_of_ne (h : Change b w b') (k : Fin 16)
    (hne : getElem b'.regs.stack k.val (lt_sixteen k) ≠ getElem b.regs.stack k.val (lt_sixteen k)) :
    w.family = 0x2 ∧ b'.regs.sp = b.regs.sp + 1 ∧ b.regs.sp = k.val := by
  cases h with
  | call word j free cell pc =>
    -- every cell but the one that is pushed to keeps what it holds
    refine ⟨word, rfl, ?_⟩
    refine Decidable.byContradiction fun hsp => ?_
    have hjk : j.val ≠ k.val := by omega
    exact hne (Vector.getElem_set_ne j.isLt k.isLt hjk)
  | _ => exact absurd rfl hne

/-- The index changes only where it is set and where registers are transferred. -/
theorem index_of_ne (h : Change b w b') (hne : b'.regs.i ≠ b.regs.i) :
    w.Points ∨ w.Misc 0x55 ∨ w.Misc 0x65 := by
  cases h with
  | point word i => exact Or.inl word
  | store word memory i kept => exact Or.inr (Or.inl word)
  | fill word v i kept => exact Or.inr (Or.inr word)
  | _ => exact absurd rfl hne

theorem delay_of_ne (h : Change b w b') (hne : b'.regs.delay ≠ b.regs.delay) : w.Misc 0x15 := by
  cases h with
  | delay word d => exact word
  | _ => exact absurd rfl hne

theorem sound_of_ne (h : Change b w b') (hne : b'.regs.sound ≠ b.regs.sound) : w.Misc 0x18 := by
  cases h with
  | sound word d tone => exact word
  | _ => exact absurd rfl hne

theorem tone_of_ne (h : Change b w b') (hne : b'.tone ≠ b.tone) : w.Misc 0x18 := by
  cases h with
  | sound word d tone => exact word
  | _ => exact absurd rfl hne

theorem eq_of_get_put_ne {r : Registers} {x k : Fin 16} {byte : UInt8}
    (hne : (r.put x byte).get k ≠ r.get k) : k = x := by
  refine Decidable.byContradiction fun hkx => ?_
  exact hne (r.get_put_ne (Ne.symm hkx) byte)

/-- A register changes only where it is the target, a flag, or one of those that are filled. -/
theorem bytes_of_ne (h : Change b w b') (k : Fin 16) (hne : b'.regs.get k ≠ b.regs.get k) :
    ((w.Puts ∨ w.family = 0xC) ∧ k = w.x) ∨ (w.Flags ∧ (k = w.x ∨ k = Registers.flag)) ∨
      (w.family = 0xD ∧ k = Registers.flag) ∨ (w.Misc 0x65 ∧ k ≤ w.x) := by
  cases h with
  | put word byte => exact Or.inl ⟨Or.inl word, eq_of_get_put_ne hne⟩
  | random word byte => exact Or.inl ⟨Or.inr word, eq_of_get_put_ne hne⟩
  | flags word v kept =>
    -- the word puts two registers, so one of them it must be
    refine Or.inr (Or.inl ⟨word, ?_⟩)
    refine Decidable.byContradiction fun hk => ?_
    obtain ⟨hx, hf⟩ := not_or.mp hk
    exact hne (kept k hx hf)
  | draw word display flag =>
    exact Or.inr (Or.inr (Or.inl ⟨word, eq_of_get_put_ne hne⟩))
  | fill word v i kept =>
    refine Or.inr (Or.inr (Or.inr ⟨word, ?_⟩))
    refine Decidable.byContradiction fun hk => ?_
    exact hne (kept k (by omega))
  | _ => exact absurd rfl hne

theorem counter_of_ne (h : Change b w b') (hne : b'.regs.pc ≠ b.regs.pc) : w.Jumps := by
  cases h with
  | jump word pc => exact word
  | call word k free cell pc => exact .call word
  | ret word pc => exact .sys (by rw [word]; rfl) (by rw [word]; decide)
  | _ => exact absurd rfl hne

/-- Only one of the ways takes a random byte, and all words of one family go it. -/
theorem draws (h : Change b w b') :
    b'.draws = if w.family = 0xC then b.draws + 1 else b.draws := by
  -- all ways but one leave the number of draws; that none of their words is random is said by their
  -- families
  cases h with
  | nothing word => rw [if_neg word]
  | clear word | ret word pc =>
    rw [word]
    rfl
  | jump word pc => exact (if_neg word.family_ne).symm
  | call word => exact (if_neg (by omega)).symm
  | put word byte => exact (if_neg word.family_ne).symm
  | random word byte => rw [if_pos word]
  | flags word v kept => exact (if_neg word.family_ne).symm
  | point word i => exact (if_neg word.family_ne).symm
  | draw word display flag => exact (if_neg (by omega)).symm
  | delay word | sound word | storeDigits word | store word | fill word =>
    exact (if_neg (by rw [word.1]; decide)).symm

theorem keypad (h : Change b w b') : b'.keypad = b.keypad := by
  cases h <;> rfl

end Change

/-- Executing a word makes one of the changes that the word stands for, once the word is noted. -/
theorem change_executed (strict : Bool) (noise : Nat → UInt8) {b : Board s} (hb : b.regs.Sound)
    (w : Word) : Change (b.mapRegs (·.noting w)) w (b.executed strict noise w) := by
  rw [executed_eq]
  exact change_perform (hb.withLastWord w) w

/-- Executing a word changes only what is on its footprint. That the word is noted first is no change of
    anything the footprint speaks about. -/
theorem footprint_executed (strict : Bool) (noise : Nat → UInt8) {b : Board s} (hb : b.regs.Sound)
    (w : Word) : Footprint w b (b.executed strict noise w) := by
  have h := change_executed strict noise hb w
  exact ⟨h.memory_of_ne, h.pixels_of_ne, h.pointer_of_ne, h.stack_of_ne, h.index_of_ne, h.delay_of_ne,
    h.sound_of_ne, h.tone_of_ne, h.bytes_of_ne, h.counter_of_ne, h.draws, h.keypad⟩

end Board

/-! ## The machine

On a machine the execution of a word may also begin a wait, tell listeners and add to the log. The board is
as above, and what the listeners do in answer is theirs. -/

namespace Machine

/-- Which words may change which part of a machine: its board, its wait, and nothing else but the log and what
    listeners do when they are told. -/
structure Footprint (w : Word) (m m' : Machine κ τ s) : Prop where
  board : Board.Footprint w m.board m'.board
  wait : m'.wait ≠ m.wait → w.Misc 0x0A
  status : m'.status ≠ m.status → w.Misc 0x0A
  program : m'.program = m.program
  /-- No word touches a counter, a switch or the traces. -/
  core : m'.core = { m.core with board := m'.board, wait := m'.wait }
  /-- Where listeners are told of nothing, the rest stays as it is, but for the log. -/
  rest : ¬w.Misc 0x0A → ¬w.Misc 0x18 → m' = { m with board := m'.board, log := m'.log }

variable [Seconds τ] [Clock κ τ]

/-- Words that neither ask for a key nor set the sound timer tell listeners nothing, so beyond the board they
    leave the machine as it is, but for the log. -/
theorem executeWord_untold (host : Host s) {m : Machine κ τ s} (hm : m.Bounded) {w : Word}
    (hkey : ¬w.Misc 0x0A) (htone : ¬w.Misc 0x18) :
    ∃ answer log, (executeWord host w).exec m = (answer, { m.executed w with log }) := by
  rw [exec_executeWord host hm]
  split
  · -- a fault is not told
    exact ⟨_, m.log, rfl⟩
  · obtain ⟨log, hlog⟩ := deliver_untold host (m.executed w)
      (fun on => Board.effect_ne_tone htone (m.board.mapRegs (·.noting w)) on)
      (fun x => Board.effect_ne_awaitKey hkey (m.board.mapRegs (·.noting w)) x)
    exact ⟨_, log, hlog⟩

/-- Executing a word, whether it returns or faults and whatever listeners do, changes only what is on
    the footprint of the word. -/
theorem footprint_executeWord {host : Host s} {m : Machine κ τ s} (h : Reachable host m) (w : Word) :
    Footprint w m ((executeWord host w).exec m).2 := by
  -- all of the machine that listeners cannot reach is known up to the wait
  obtain ⟨wait, hwait, hcore⟩ := core_executeWord host h.bounded w
  have hboard : ((executeWord host w).exec m).2.board = m.board.executed m.strict m.noise w :=
    congrArg Core.board hcore
  have hw : ((executeWord host w).exec m).2.wait = wait := congrArg Core.wait hcore
  refine ⟨?_, ?_, ?_, congrArg Core.program hcore, ?_, ?_⟩
  · rw [hboard]
    exact Board.footprint_executed m.strict m.noise h.bounded w
  · rw [hw]
    exact hwait
  · intro hne
    refine hwait fun heq => hne ?_
    rw [status, hw, heq, status]
  · rw [hcore, hboard, hw]
    rfl
  · intro hkey htone
    obtain ⟨answer, log, heq⟩ := executeWord_untold host h.bounded hkey htone
    rw [heq]
    rfl

/-- A subtraction in a machine that was loaded with it. -/
theorem footprint_sub :
    Footprint 0x8125 (loaded ⟨"", [0x81, 0x25], by decide⟩)
      ((executeWord Host.inert 0x8125).exec (loaded ⟨"", [0x81, 0x25], by decide⟩)).2 :=
  footprint_executeWord (reachable_loaded _) 0x8125

end Machine

end Chip8
