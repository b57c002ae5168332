import Chip8.Registers
/-!
The register file of a running program.

Nothing in the registers' types keeps the program counter, the index register, the stack pointer and
the timers small: programs do. `Registers.Sound` is the bounds that they never leave. The counter has
the odd one: a computed jump reaches `0xFFF` plus a byte, and no other instruction goes further. Return
addresses are smaller, since a call must have been fetched from below `0xFFF`.
-/

namespace Chip8.Registers

/-- The bounds that no program leaves. The clause about the stack is needed for the one about the counter,
    since a return goes to what a cell holds. -/
structure Sound (r : Registers) : Prop where
  index : 0 ≤ r.i ∧ r.i ≤ 0xFFFF
  counter : 0 ≤ r.pc ∧ r.pc ≤ 0x10FE
  pointer : 0 ≤ r.sp ∧ r.sp ≤ 16
  /-- The cells below the stack pointer hold places behind an instruction. -/
  frames : ∀ k : Fin 16, (k.val : Int) < r.sp →
    2 ≤ r.stack[k.val].toNat ∧ r.stack[k.val].toNat ≤ 0x1000
  delay : 0 ≤ r.delay ∧ r.delay ≤ 255
  sound : 0 ≤ r.sound ∧ r.sound ≤ 255

theorem sound_initial : initial.Sound where
  index := by decide
  counter := by decide
  pointer := by decide
  frames := by
    intro k hk
    exact absurd hk (by have : initial.sp = 0 := rfl; omega)
  delay := by decide
  sound := by decide

namespace Sound

variable {r : Registers}

/-- The bounds say nothing about byte registers. -/
theorem put (h : r.Sound) (x : Fin 16) (b : UInt8) : (r.put x b).Sound :=
  ⟨h.index, h.counter, h.pointer, h.frames, h.delay, h.sound⟩

theorem withV (h : r.Sound) (v : Vector UInt8 16) : Sound { r with v } :=
  ⟨h.index, h.counter, h.pointer, h.frames, h.delay, h.sound⟩

theorem withIndex (h : r.Sound) {i : Int} (hi : 0 ≤ i ∧ i ≤ 0xFFFF) : Sound { r with i } :=
  ⟨hi, h.counter, h.pointer, h.frames, h.delay, h.sound⟩

theorem withDelay (h : r.Sound) {d : Int} (hd : 0 ≤ d ∧ d ≤ 255) : Sound { r with delay := d } :=
  ⟨h.index, h.counter, h.pointer, h.frames, hd, h.sound⟩

theorem withSound (h : r.Sound) {d : Int} (hd : 0 ≤ d ∧ d ≤ 255) : Sound { r with sound := d } :=
  ⟨h.index, h.counter, h.pointer, h.frames, h.delay, hd⟩

theorem withLastWord (h : r.Sound) (w : Word) : Sound { r with lastWord := w } :=
  ⟨h.index, h.counter, h.pointer, h.frames, h.delay, h.sound⟩

/-- A jump keeps the bounds if its target is within them. -/
theorem jump (h : r.Sound) {a : Int} (ha : 0 ≤ a ∧ a ≤ 0x10FE) : (r.jump a).Sound :=
  ⟨h.index, ha, h.pointer, h.frames, h.delay, h.sound⟩

/-- A skip may go on at most four places behind an instruction. -/
theorem skipIf (h : r.Sound) (hpc : r.pc ≤ 0x1000) (c : Bool) : (r.skipIf c).Sound := by
  have h0 := h.counter.1
  unfold Registers.skipIf
  split
  · exact h.jump (by omega)
  · exact h

/-- The index register starts over at sixteen bits. -/
theorem moveIndex (h : r.Sound) (d : Int) : (r.moveIndex d).Sound := h.withIndex (by omega)

end Sound

/-! ## The call stack

A push and a pop, each for the case that it goes well and the case that it does not. Within the bounds of
the pointer there is no third case. -/

/-- What fits sixteen bits is a machine word. -/
theorem isWord64_natCast {n : Nat} (h : n < 65536) : isWord64 (n : Int) := by
  simp only [isWord64, Bool.and_eq_true, decide_eq_true_eq]
  omega

/-- A call with a free cell writes that cell and nothing else. -/
theorem push_of_lt {r : Registers} {k : Fin 16} (hk : r.sp = k.val) {a : Nat} (ha : a < 65536) :
    r.push a = .ok { r with
      stack := r.stack.set k.val (UInt16.ofNat a)
      sp := r.sp + 1 } := by
  have hlt := k.isLt
  have hcell : cellAt 16 r.sp = .ok k := by
    rw [hk]
    exact cellAt_natCast hlt (isWord64_natCast (by omega))
  have hvalue : checkValue 16 (a : Int) = .ok a := by
    rw [checkValue, isWord64_natCast ha, if_neg (by simp), if_pos (by omega), Int.toNat_natCast]
  have hpoke : r.pokeStack r.sp a =
      .ok { r with stack := r.stack.set k.val (UInt16.ofNat a) } := by
    rw [pokeStack, hcell, hvalue]
    rfl
  rw [push, if_neg (by omega), hpoke]

theorem push_of_ge {r : Registers} (h : 16 ≤ r.sp) (a : Int) :
    r.push a = .error (.fault (.stackOverflow (a - 2))) := by
  rw [push, if_pos h]

/-- A return with a cell in use reads the last one and writes none. -/
theorem pop_of_pos {r : Registers} {k : Fin 16} (hk : r.sp = k.val + 1) :
    r.pop = (.ok (r.stack[k.val].toNat : Int), { r with sp := r.sp - 1 }) := by
  have hlt := k.isLt
  have hcell : cellAt 16 (r.sp - 1) = .ok k := by
    rw [show r.sp - 1 = (k.val : Int) by omega]
    exact cellAt_natCast hlt (isWord64_natCast (by omega))
  rw [pop, if_neg (by omega)]
  simp only [hcell]

theorem pop_of_zero {r : Registers} (h : r.sp = 0) : r.pop = (.error (.fault .stackUnderflow), r) := by
  rw [pop, if_pos h]

namespace Sound

variable {r : Registers}

/-- Either every cell is in use or the stack pointer names a free one. -/
theorem full_or_free (h : r.Sound) : r.sp = 16 ∨ ∃ k : Fin 16, r.sp = k.val := by
  obtain ⟨h0, h16⟩ := h.pointer
  rcases Int.lt_or_eq_of_le h16 with hlt | heq
  · exact Or.inr ⟨⟨r.sp.toNat, by omega⟩, by simp only; omega⟩
  · exact Or.inl heq

/-- Either no cell is in use or the last one in use is below the stack pointer. -/
theorem empty_or_used (h : r.Sound) : r.sp = 0 ∨ ∃ k : Fin 16, r.sp = k.val + 1 := by
  obtain ⟨h0, h16⟩ := h.pointer
  rcases Int.lt_or_eq_of_le h0 with hlt | heq
  · exact Or.inr ⟨⟨(r.sp - 1).toNat, by omega⟩, by simp only; omega⟩
  · exact Or.inl heq.symm

/-- A call keeps the bounds if its return address does. -/
theorem call (h : r.Sound) {k : Fin 16} (hk : r.sp = k.val) {a : Nat} (ha : 2 ≤ a ∧ a ≤ 0x1000) :
    Sound { r with stack := r.stack.set k.val (UInt16.ofNat a), sp := r.sp + 1 } := by
  have hlt := k.isLt
  refine ⟨h.index, h.counter, ?_, ?_, h.delay, h.sound⟩
  · have := h.pointer
    simp only
    omega
  · intro j hj
    simp only at hj ⊢
    rw [Vector.getElem_set]
    split
    · -- the new cell; sixteen bits hold the address
      rw [UInt16.toNat_ofNat', Nat.mod_eq_of_lt (by omega)]
      exact ha
    · exact h.frames j (by omega)

/-- A return keeps the bounds, and goes on at an address within them. -/
theorem ret (h : r.Sound) {k : Fin 16} (hk : r.sp = k.val + 1) :
    Sound { r with sp := r.sp - 1, pc := r.stack[k.val].toNat } := by
  have hframe := h.frames k (by omega)
  refine ⟨h.index, ?_, ?_, ?_, h.delay, h.sound⟩
  · simp only
    omega
  · have := h.pointer
    simp only
    omega
  · intro j hj
    exact h.frames j (by simp only at hj; omega)

end Sound

end Chip8.Registers
