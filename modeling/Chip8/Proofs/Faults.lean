import Chip8.Proofs.Reach
/-!
When a step halts the machine, and with which fault.

What can go wrong in an instruction is spread over the program: over the fetch, the stack, the reads and
writes of memory, the digits and the keys. A user of the machine wants the list, and wants to know that it is
complete.

1. **Specification** — `Faults` lists the conditions under which a word strikes a fault, in terms of the word
   and of the registers that its step finds; `Board.Stops` adds the fetch that finds no word. No operation of
   the machine is mentioned.

2. **Words** — the faults that are listed for a word are those of the instruction which the word encodes, in
   both directions (`Faults.of_fault?`, `Faults.fault?_eq`). They do not depend on the timers
   (`faults_untimed_iff`), so it makes no difference that the timers are serviced before the word is fetched.

3. **Steps** — a step of a running machine halts it under these conditions and no others, with the fault that
   belongs to the condition, the place of the instruction, and its word unless there was none to fetch
   (`Reachable.step_halt_iff`). It rests on the bounds of the registers, which every machine keeps that can be
   reached (`Reachable.bounded`), and on listeners that do not fail.
-/

namespace Chip8

variable {κ τ : Type} {s : Size}

/-- The faults of a word, by the registers that its step finds. The program counter among them is still
    the place of the word. -/
inductive Faults (strict : Bool) (r : Registers) (w : Word) : Fault → Prop
  | stackOverflow (call : w.family = 0x2) (full : r.sp = 16) : Faults strict r w (.stackOverflow r.pc)
  | stackUnderflow (ret : w = 0x00EE) (empty : r.sp = 0) : Faults strict r w .stackUnderflow
  /-- A sprite without rows needs a place to begin, too. -/
  | spriteStart (draw : w.family = 0xD) (start : 0xFFF < r.i) :
    Faults strict r w (.addressOutOfRange r.i)
  | spriteEnd (draw : w.family = 0xD) (start : r.i ≤ 0xFFF) (rows : 0 < w.n.val)
    (stop : 0xFFF < r.i + w.n.val - 1) : Faults strict r w (.addressOutOfRange (r.i + w.n.val - 1))
  | key (key : w.Key 0x9E ∨ w.Key 0xA1) (large : 15 < (r.get w.x).toNat) :
    Faults strict r w (.invalidKey (r.get w.x).toNat)
  | digit (glyph : w.Misc 0x29) (large : 15 < (r.get w.x).toNat) :
    Faults strict r w (.invalidDigit (r.get w.x).toNat)
  /-- A transfer fails at the first of its addresses that is none. -/
  | digits (storeDigits : w.Misc 0x33) (stop : 0xFFF < r.i + 2) :
    Faults strict r w (.addressOutOfRange (max r.i 0x1000))
  | transfer (transfer : w.Misc 0x55 ∨ w.Misc 0x65) (stop : 0xFFF < r.i + w.x.val) :
    Faults strict r w (.addressOutOfRange (max r.i 0x1000))
  | unrecognized (refused : strict = true) (word : w.Unrecognized) :
    Faults strict r w (.unrecognized w)

/-- The ways in which a board stops a running machine. -/
inductive Board.Stops (strict : Bool) (b : Board s) : Halt → Prop
  | fetch (past : 0xFFF ≤ b.regs.pc) :
    Stops strict b ⟨.addressOutOfRange (max b.regs.pc 0x1000), b.regs.pc, none⟩
  | word {w : Word} {f : Fault} (fetched : b.memory.WordAt b.regs.pc w)
    (faults : Faults strict b.regs w f) : Stops strict b ⟨f, b.regs.pc, some w⟩

namespace Faults

variable {strict : Bool} {r : Registers} {w : Word} {f : Fault}

/-- A transfer that faults leaves memory. -/
theorem of_transferFault? {i : Int} {n : Nat} (h : transferFault? i (n + 1) = some f) :
    0xFFF < i + n ∧ f = .addressOutOfRange (max i 0x1000) := by
  obtain ⟨hend, hf⟩ := Option.ite_none_left_eq_some.mp h
  cases hf
  exact ⟨by omega, rfl⟩

/-- A transfer that leaves memory faults. -/
theorem transferFault?_of_lt {i : Int} {n : Nat} (h : 0xFFF < i + n) :
    transferFault? i (n + 1) = some (.addressOutOfRange (max i 0x1000)) := by
  unfold transferFault?
  rw [if_neg (by omega)]

/-- A fault of the instruction that a word encodes is listed for the word. By then the counter is past the
    word. -/
theorem of_fault? (h : (Instruction.ofWord w).fault? strict { r with pc := r.pc + 2 } = some f) :
    Faults strict r w f := by
  have hw := Instruction.ofWord_encodes w
  generalize Instruction.ofWord w = ins at h hw
  cases ins with
  | ret =>
    obtain ⟨hsp, hf⟩ := Option.ite_none_right_eq_some.mp h
    cases hf
    exact .stackUnderflow hw hsp
  | call nnn =>
    obtain ⟨hsp, hf⟩ := Option.ite_none_right_eq_some.mp h
    cases hf
    -- the counter is past the call by now
    show Faults strict r w (.stackOverflow (r.pc + 2 - 2))
    rw [Int.add_sub_cancel]
    exact .stackOverflow hw.1 hsp
  | draw x y n =>
    obtain ⟨hd, -, -, rfl⟩ := hw
    simp only [Instruction.fault?] at h
    split at h
    · next hi =>
      cases h
      exact .spriteStart hd hi
    · next hi =>
      obtain ⟨hstop, hf⟩ := Option.ite_none_right_eq_some.mp h
      cases hf
      exact .spriteEnd hd (by omega) hstop.1 hstop.2
  | skipDown x =>
    obtain ⟨hk, rfl⟩ := hw
    obtain ⟨hx, hf⟩ := Option.ite_none_right_eq_some.mp h
    cases hf
    exact .key (Or.inl hk) hx
  | skipUp x =>
    obtain ⟨hk, rfl⟩ := hw
    obtain ⟨hx, hf⟩ := Option.ite_none_right_eq_some.mp h
    cases hf
    exact .key (Or.inr hk) hx
  | glyph x =>
    obtain ⟨hm, rfl⟩ := hw
    obtain ⟨hx, hf⟩ := Option.ite_none_right_eq_some.mp h
    cases hf
    exact .digit hm hx
  | storeDigits x =>
    obtain ⟨hstop, rfl⟩ := of_transferFault? h
    exact .digits hw.1 hstop
  | store x =>
    obtain ⟨hm, rfl⟩ := hw
    obtain ⟨hstop, rfl⟩ := of_transferFault? h
    exact .transfer (Or.inl hm) hstop
  | fill x =>
    obtain ⟨hm, rfl⟩ := hw
    obtain ⟨hstop, rfl⟩ := of_transferFault? h
    exact .transfer (Or.inr hm) hstop
  | unrecognized w' =>
    obtain ⟨hu, rfl⟩ := hw
    obtain ⟨hs, hf⟩ := Option.ite_none_right_eq_some.mp h
    cases hf
    exact .unrecognized hs hu
  | _ => cases h

/-- Each fault that is listed for a word is that of the instruction which the word encodes. -/
theorem fault?_eq (h : Faults strict r w f) :
    (Instruction.ofWord w).fault? strict { r with pc := r.pc + 2 } = some f := by
  -- each row names the form of its word, which says what instruction it is, and the condition of its fault
  cases h with
  | stackOverflow hf hsp =>
    rw [(Instruction.ofWord_eq_iff w (.call w.address)).mpr ⟨hf, rfl⟩, Instruction.fault?, if_pos hsp]
    simp
  | stackUnderflow hw hsp =>
    rw [(Instruction.ofWord_eq_iff w .ret).mpr hw, Instruction.fault?, if_pos hsp]
  | spriteStart hf hi =>
    rw [(Instruction.ofWord_eq_iff w (.draw w.x w.y w.n)).mpr ⟨hf, rfl, rfl, rfl⟩, Instruction.fault?,
      if_pos hi]
  | spriteEnd hf hi hrows hstop =>
    rw [(Instruction.ofWord_eq_iff w (.draw w.x w.y w.n)).mpr ⟨hf, rfl, rfl, rfl⟩, Instruction.fault?,
      if_neg (by simp only; omega), if_pos ⟨hrows, hstop⟩]
  | key hk hx =>
    rcases hk with hk | hk
    · rw [(Instruction.ofWord_eq_iff w (.skipDown w.x)).mpr ⟨hk, rfl⟩, Instruction.fault?]
      exact if_pos hx
    · rw [(Instruction.ofWord_eq_iff w (.skipUp w.x)).mpr ⟨hk, rfl⟩, Instruction.fault?]
      exact if_pos hx
  | digit hm hx =>
    rw [(Instruction.ofWord_eq_iff w (.glyph w.x)).mpr ⟨hm, rfl⟩, Instruction.fault?]
    exact if_pos hx
  | digits hm hstop =>
    rw [(Instruction.ofWord_eq_iff w (.storeDigits w.x)).mpr ⟨hm, rfl⟩, Instruction.fault?]
    exact transferFault?_of_lt hstop
  | transfer hm hstop =>
    rcases hm with hm | hm
    · rw [(Instruction.ofWord_eq_iff w (.store w.x)).mpr ⟨hm, rfl⟩, Instruction.fault?]
      exact transferFault?_of_lt hstop
    · rw [(Instruction.ofWord_eq_iff w (.fill w.x)).mpr ⟨hm, rfl⟩, Instruction.fault?]
      exact transferFault?_of_lt hstop
  | unrecognized hs hu =>
    rw [(Instruction.ofWord_eq_iff w (.unrecognized w)).mpr ⟨hu, rfl⟩, Instruction.fault?, if_pos hs]

end Faults

/-- Faults do not depend on the timers. -/
theorem faults_untimed_iff {strict : Bool} {r r' : Registers} (h : r'.untimed = r.untimed) {w : Word}
    {f : Fault} : Faults strict r' w f ↔ Faults strict r w f := by
  have hfault : (Instruction.ofWord w).fault? strict { r' with pc := r'.pc + 2 } =
      (Instruction.ofWord w).fault? strict { r with pc := r.pc + 2 } := by
    rw [← Instruction.fault?_untimed, ← Instruction.fault?_untimed strict { r with pc := r.pc + 2 }]
    exact congrArg (fun r : Registers => (Instruction.ofWord w).fault? strict { r with pc := r.pc + 2 }) h
  constructor
  · intro hf
    exact .of_fault? (hfault.symm.trans hf.fault?_eq)
  · intro hf
    exact .of_fault? (hfault.trans hf.fault?_eq)

namespace Machine

variable {m t : Machine κ τ s}

/-- What stops a machine after its timers were serviced would have stopped it before. -/
theorem Ticked.stops_iff (h : Ticked m t) {halt : Halt} :
    t.board.Stops t.strict halt ↔ m.board.Stops m.strict halt := by
  have hstrict : t.strict = m.strict := congrArg Core.strict h.core
  have hmemory : t.board.memory = m.board.memory := congrArg (·.board.memory) h.core
  have hregs : t.board.regs.untimed = m.board.regs.untimed := congrArg (·.board.regs) h.core
  have hpc : t.board.regs.pc = m.board.regs.pc := congrArg (·.board.regs.pc) h.core
  rw [hstrict]
  -- a halt names the place of the instruction, which is the same in both machines
  constructor
  · rintro (past | ⟨fetched, faults⟩)
    · rw [hpc] at past ⊢
      exact .fetch past
    · rw [hmemory, hpc] at fetched
      rw [hpc]
      exact .word fetched ((faults_untimed_iff hregs).mp faults)
  · rintro (past | ⟨fetched, faults⟩)
    · rw [← hpc] at past ⊢
      exact .fetch past
    · rw [← hmemory, ← hpc] at fetched
      rw [← hpc]
      exact .word fetched ((faults_untimed_iff hregs).mpr faults)

variable [Seconds τ] [Clock κ τ] {host : Host s}

/-- No word is fetched where none can be. -/
theorem lt_of_wordAt {memory : Memory} {pc : Int} {w : Word} (h : memory.WordAt pc w) : pc < 0xFFF := by
  obtain ⟨k, hk, hpc, -⟩ := h
  omega

/-- An instruction halts a machine with the halts that its board stops it with. -/
theorem Ran.halt_iff (hfails : host.NeverFails) {out : Except Failure Unit × Machine κ τ s}
    (h : Ran host m out) {halt : Halt} :
    out.1 = .error (.halt halt) ↔ m.board.Stops m.strict halt := by
  constructor
  · intro hout
    cases h with
    | noWord past =>
      cases hout
      exact .fetch past
    | fault fetched fault =>
      cases hout
      exact .word fetched (.of_fault? fault)
    | untraced fetched fails | untold fetched fault fails => exact absurd hfails fails.2
    | done fetched fault => exact absurd hfails (announceFrame_fails host _ _ hout).2
  · rintro (past | ⟨fetched, faults⟩)
    · cases h with
      | noWord => rfl
      | untraced fetched | fault fetched | untold fetched | done fetched =>
        have := lt_of_wordAt fetched
        omega
    · cases h with
      | noWord past =>
        have := lt_of_wordAt fetched
        omega
      | untraced fetched' fails | untold fetched' fault fails => exact absurd hfails fails.2
      | fault fetched' fault =>
        -- only one word can be fetched, and it has only one fault
        obtain rfl := fetched.unique fetched'
        obtain rfl : _ = _ := Option.some.inj (faults.fault?_eq.symm.trans fault)
        rfl
      | done fetched' fault =>
        obtain rfl := fetched.unique fetched'
        exact absurd (faults.fault?_eq.symm.trans fault) (by simp)

/-- A step of a running machine whose timers can be serviced halts it with the halts that its board stops it
    with: servicing the timers changes nothing that a fault depends on. -/
theorem halt_step_iff (hfails : host.NeverFails) (hb : m.Bounded) (hhalted : m.halted = false)
    (hwait : m.wait = none) {due : Int} (hdue : (pollTimer.exec m).1 = .ok due) {halt : Halt} :
    ((step host).exec m).1 = .error (.halt halt) ↔ m.board.Stops m.strict halt := by
  have hticked := ticked_serviceTimers host m
  have h := stepped_step host hb hhalted
  generalize (step host).exec m = out at h ⊢
  cases h with
  | unserviced service =>
    obtain ⟨-, hmay⟩ := serviceTimers_of_poll_ok host hdue (congrArg Prod.fst service)
    exact absurd hfails hmay
  | polled service wait =>
    -- servicing the timers starts no wait
    rw [service] at hticked
    rw [hticked.wait_eq, hwait] at wait
    cases wait
  | ran service wait ran =>
    rw [service] at hticked
    rw [ran.halt_iff hfails, hticked.stops_iff]

/-- A step fails if the timers cannot be polled. -/
theorem step_of_poll_error (hhalted : m.halted = false) {e : Failure}
    (he : (pollTimer.exec m).1 = .error e) : ((step host).exec m).1 = .error e := by
  have hservice := serviceTimers_of_poll_error host he
  rw [exec_step host hhalted]
  generalize (serviceTimers host).exec m = out at hservice ⊢
  obtain ⟨answer, t⟩ := out
  obtain rfl : answer = .error e := hservice
  rfl

/-- A step of a running machine halts it with the halts that its board stops it with, provided that the
    periods due have a number; otherwise it fails over that number. -/
theorem Reachable.step_halt_iff (hfails : host.NeverFails) (h : Reachable host m)
    (hhalted : m.halted = false) (hwait : m.wait = none) :
    (∀ due, (pollTimer.exec m).1 = .ok due →
      ∀ halt, ((step host).exec m).1 = .error (.halt halt) ↔ m.board.Stops m.strict halt) ∧
    ∀ e, (pollTimer.exec m).1 = .error e →
      ∃ p, e = .time p ∧ ((step host).exec m).1 = .error (.time p) := by
  constructor
  · intro due hdue halt
    exact halt_step_iff hfails h.bounded hhalted hwait hdue
  · intro e he
    obtain ⟨p, rfl⟩ := pollTimer_fails m e he
    exact ⟨p, rfl, step_of_poll_error hhalted he⟩

/-- A return from no call. -/
def returning : Program := ⟨"", [0x00, 0xEE], by decide⟩

/-- The word at its program counter is the return. -/
theorem wordAt_returning : (loaded returning).board.memory.WordAt (loaded returning).board.regs.pc 0x00EE := by
  have hword : Word.ofBytes returning.bytes[0] returning.bytes[1] = 0x00EE := by decide
  rw [← hword]
  exact wordAt_loaded_pc returning (by decide)

/-- The board stops the machine, with nothing on its stack to return to. -/
theorem stops_returning :
    (loaded returning).board.Stops false ⟨.stackUnderflow, 0x200, some 0x00EE⟩ :=
  .word wordAt_returning (.stackUnderflow rfl rfl)

/-- The return halts the machine. -/
theorem step_halt_iff_returning :
    ((step Host.inert).exec (loaded returning)).1 =
      .error (.halt ⟨.stackUnderflow, 0x200, some 0x00EE⟩) := by
  obtain ⟨due, hdue⟩ := (loaded returning).pollTimer_ok
  have hiff := Reachable.step_halt_iff Host.inert_neverFails (reachable_loaded returning) rfl rfl
  exact (hiff.1 due hdue _).mpr stops_returning

end Machine

end Chip8
