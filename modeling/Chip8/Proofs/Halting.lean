import Chip8.Proofs.Faults
/-!
The state that a fault leaves, and what can be done with it.

Faults strike before an instruction changes anything, except in the middle of a transfer: what was moved
before the end of memory stays moved, and the index register may have moved too. A trace of the word may have
been told before it faulted, and a listener may have acted on it.

1. **Specification** — `Board.Interrupted` says what is left of the board, part by part, and `Stopped` what is
   left of the machine around it: it is halted, nothing was counted, and listeners heard at most of the trace.

2. **Words** — a word that faults breaks off in one of the ways of `BrokenOff` (`brokenOff_perform`), by cases
   on the fault. Transfers are loops over bytes; their closed forms (`exec_storeDigits`, `exec_store`,
   `exec_fill`) say how far they got.

3. **Step** — a step that halts serviced its timers, and then stopped (`stopped_of_step`).

4. **Afterwards** — a halted machine stays halted under every call that does not restart it (`halted_call`);
   by induction over the calls it never runs again, and each step and each run of it ends at once
   (`Reachable.halts`).
-/

namespace Chip8

variable {κ τ : Type} {s : Size}

namespace Board

/-- The ways in which a word that faults breaks off: `BrokenOff b w b'` says that `b'` is what `w` leaves of
    `b`. Transfers go byte by byte and may be broken off in the middle. -/
inductive BrokenOff (b : Board s) (w : Word) : Board s → Prop
  /-- The word is no transfer: nothing changed. -/
  | nothing (word : ¬w.Misc 0x33 ∧ ¬w.Misc 0x55 ∧ ¬w.Misc 0x65) : BrokenOff b w b
  /-- The digits whose cells are below the end of memory are stored. -/
  | digits (word : w.Misc 0x33) (memory : Memory)
    (before : ∀ (a : Nat) (h : a < 4096), a < b.regs.i → memory.cells[a] = b.memory.cells[a])
    (moved : ∀ (a : Nat) (h : a < 4096) (n : Nat), a = b.regs.i + n →
      (digits (b.regs.get w.x))[n]? = some memory.cells[a]) :
    BrokenOff b w { b with memory }
  /-- The registers whose cells are below the end of memory are stored. -/
  | stored (word : w.Misc 0x55) (memory : Memory)
    (before : ∀ (a : Nat) (h : a < 4096), a < b.regs.i → memory.cells[a] = b.memory.cells[a])
    (moved : ∀ (a : Nat) (h : a < 4096) (k : Fin 16), a = b.regs.i + k.val →
      memory.cells[a] = b.regs.get k) :
    BrokenOff b w { b with memory, regs := { b.regs with i := max b.regs.i 0x1000 } }
  /-- The registers whose cells are below the end of memory are filled, and the others keep what they hold. -/
  | filled (word : w.Misc 0x65) (v : Vector UInt8 16)
    (moved : ∀ (a : Nat) (h : a < 4096) (k : Fin 16), a = b.regs.i + k.val →
      getElem v k.val (lt_sixteen k) = b.memory.cells[a])
    (behind : ∀ k : Fin 16, 0xFFF < b.regs.i + k.val →
      getElem v k.val (lt_sixteen k) = getElem b.regs.v k.val (lt_sixteen k)) :
    BrokenOff b w { b with regs := { b.regs with v, i := max b.regs.i 0x1000 } }

/-- A transfer that leaves memory ends behind it, or where it began. -/
theorem transferEnd_of_lt_add {i : Int} {n : Nat} (h : 0xFFF < i + n) :
    transferEnd i (n + 1) = max i 0x1000 := by
  unfold transferEnd
  omega

/-- The byte that a transfer of many bytes puts into a cell. -/
theorem getElem?_of_overlay (m : Memory) {i : Int} {bytes : List UInt8} {a n : Nat} (ha : a < 4096)
    (hn : a = i + n) (hlt : n < bytes.length) :
    bytes[n]? = some (m.overlay i bytes).cells[a] := by
  have hsub : (a - i).toNat = n := by omega
  rw [Memory.cells_overlay, if_pos (by omega), hsub, List.getElem?_eq_getElem hlt]
  rfl

/-- Words of other families are no transfers. -/
theorem BrokenOff.nothing_of_family {b : Board s} {w : Word} (h : w.family ≠ 0xF) :
    BrokenOff b w b :=
  .nothing ⟨fun hw => h hw.1, fun hw => h hw.1, fun hw => h hw.1⟩

/-- A word has one low byte, so it is a transfer of one kind only. -/
theorem not_misc_of_misc {w : Word} {c d : UInt8} (hc : w.Misc c) (h : c ≠ d) : ¬w.Misc d := by
  intro hd
  exact h (hc.2.symm.trans hd.2)

/-- A word that faults breaks off in one of these ways. The cases are those of the faults, and each fault
    tells the instruction that strikes it. -/
theorem brokenOff_perform {strict : Bool} {noise : Nat → UInt8} {b : Board s} (hb : b.regs.Sound)
    {w : Word} {f : Fault} (hfault : (Instruction.ofWord w).fault? strict b.regs = some f) :
    BrokenOff b w ((perform strict noise (Instruction.ofWord w)).exec b).2 := by
  have hi := hb.index.1
  -- the conditions are about the counter before the fetch
  have hfaults : Faults strict { b.regs with pc := b.regs.pc - 2 } w f := by
    refine .of_fault? ?_
    show (Instruction.ofWord w).fault? strict { b.regs with pc := b.regs.pc - 2 + 2 } = some f
    rw [Int.sub_add_cancel]
    exact hfault
  cases hfaults with
  | stackOverflow call full =>
    rw [(Instruction.ofWord_eq_iff w (.call w.address)).mpr ⟨call, rfl⟩, exec_call_of_full full]
    exact .nothing_of_family (by rw [call]; decide)
  | stackUnderflow ret empty =>
    rw [(Instruction.ofWord_eq_iff w .ret).mpr ret, exec_ret_of_zero empty]
    exact .nothing_of_family (by rw [ret]; decide)
  | spriteStart draw | spriteEnd draw =>
    rw [(Instruction.ofWord_eq_iff w (.draw w.x w.y w.n)).mpr ⟨draw, rfl, rfl, rfl⟩] at hfault ⊢
    rcases exec_draw strict noise hi w.x w.y w.n with ⟨f', -, hdraw⟩ | ⟨hnone, -⟩
    · rw [hdraw]
      exact .nothing_of_family (by rw [draw]; decide)
    · rw [hnone] at hfault
      cases hfault
  | key key large =>
    have hbyte : ¬(b.regs.get w.x).toNat < 16 := Nat.not_lt.mpr large
    rcases key with hk | hk
    · rw [(Instruction.ofWord_eq_iff w (.skipDown w.x)).mpr ⟨hk, rfl⟩, exec_skipDown, dif_neg hbyte]
      exact .nothing_of_family (by rw [hk.1]; decide)
    · rw [(Instruction.ofWord_eq_iff w (.skipUp w.x)).mpr ⟨hk, rfl⟩, exec_skipUp, dif_neg hbyte]
      exact .nothing_of_family (by rw [hk.1]; decide)
  | digit glyph large =>
    have hbyte : ¬(b.regs.get w.x).toNat < 16 := Nat.not_lt.mpr large
    rw [(Instruction.ofWord_eq_iff w (.glyph w.x)).mpr ⟨glyph, rfl⟩, exec_glyph, if_neg hbyte]
    exact .nothing ⟨not_misc_of_misc glyph (by decide), not_misc_of_misc glyph (by decide),
      not_misc_of_misc glyph (by decide)⟩
  | digits storeDigits stop =>
    rw [(Instruction.ofWord_eq_iff w (.storeDigits w.x)).mpr ⟨storeDigits, rfl⟩,
      exec_storeDigits _ _ _ _ hi]
    refine .digits storeDigits _ (fun a ha hlt => b.memory.cells_overlay_of_lt _ ha hlt) ?_
    intro a ha n hn
    -- from the index register to the end there are no more cells than digits
    have hlt : n < (Board.digits (b.regs.get w.x)).length := by
      show n < 3
      have : 0xFFF < b.regs.i + 2 := stop
      omega
    exact getElem?_of_overlay b.memory ha hn hlt
  | transfer transfer stop =>
    have hstop : 0xFFF < b.regs.i + w.x.val := stop
    rcases transfer with hm | hm
    · rw [(Instruction.ofWord_eq_iff w (.store w.x)).mpr ⟨hm, rfl⟩, exec_store _ hi,
        transferEnd_of_lt_add hstop]
      refine .stored hm _ (fun a ha hlt => b.memory.cells_overlay_of_lt _ ha hlt) ?_
      intro a ha k hk
      have hle : k ≤ w.x := by omega
      have hlt : k.val < ((upTo w.x).map b.regs.get).length := by
        rw [List.length_map, length_upTo]
        omega
      have hbyte := getElem?_of_overlay b.memory ha hk hlt
      rw [List.getElem?_map, getElem?_upTo hle] at hbyte
      exact (Option.some.inj hbyte).symm
    · rw [(Instruction.ofWord_eq_iff w (.fill w.x)).mpr ⟨hm, rfl⟩, exec_fill _ hi, mapRegs,
        transferEnd_of_lt_add hstop]
      refine .filled hm _ ?_ ?_
      · intro a ha k hk
        have hcell : b.regs.i.toNat + k.val = a := by omega
        rw [Registers.getElem_putAll_zip _ _ (map_val_upTo w.x) k.isLt, if_pos (Nat.zero_le _),
          length_upTo, List.getElem?_take_of_lt (by omega), Memory.getElem?_tail, Nat.sub_zero, hcell,
          Vector.getElem?_eq_getElem ha]
        rfl
      · intro k hk
        rw [Registers.getElem_putAll_zip _ _ (map_val_upTo w.x) k.isLt, if_pos (Nat.zero_le _),
          List.getElem?_eq_none, Option.getD_none]
        rw [List.length_take, Memory.length_tail]
        omega
  | unrecognized refused word =>
    subst refused
    rw [Instruction.ofWord_of_unrecognized word]
    cases word with
    | skipReg hf hn =>
      refine .nothing_of_family ?_
      rcases hf with hf | hf
      · rw [hf]
        decide
      · rw [hf]
        decide
    | alu hf | key hf => exact .nothing_of_family (by rw [hf]; decide)
    | misc hf hkk =>
      have hno (kk : UInt8) (hmem : kk ∈ Word.miscBytes) : ¬w.Misc kk := fun hw => hkk (hw.2 ▸ hmem)
      exact .nothing ⟨hno 0x33 (by decide), hno 0x55 (by decide), hno 0x65 (by decide)⟩

/-- What a word that faults leaves of a board that it is fetched from: `b'` of `b`. The counter is behind the
    word, and all else is as it was but for an interrupted transfer. -/
structure Interrupted (w : Word) (b b' : Board s) : Prop where
  counter : b'.regs.pc = b.regs.pc + 2
  pointer : b'.regs.sp = b.regs.sp
  stack : b'.regs.stack = b.regs.stack
  delay : b'.regs.delay = b.regs.delay
  sound : b'.regs.sound = b.regs.sound
  tone : b'.tone = b.tone
  display : b'.display = b.display
  keypad : b'.keypad = b.keypad
  draws : b'.draws = b.draws
  bytes : ¬w.Misc 0x65 → b'.regs.v = b.regs.v
  memory : ¬w.Misc 0x33 → ¬w.Misc 0x55 → b'.memory = b.memory
  index : ¬w.Misc 0x55 → ¬w.Misc 0x65 → b'.regs.i = b.regs.i
  /-- No transfer writes before the place where it begins. -/
  before : ∀ (a : Nat) (h : a < 4096), a < b.regs.i → b'.memory.cells[a] = b.memory.cells[a]
  /-- The digits are stored in order, as far as there are cells. -/
  digits : w.Misc 0x33 → ∀ (a : Nat) (h : a < 4096) (n : Nat), a = b.regs.i + n →
    (digits (b.regs.get w.x))[n]? = some b'.memory.cells[a]
  /-- The registers are stored in order, as far as there are cells. -/
  stored : w.Misc 0x55 → ∀ (a : Nat) (h : a < 4096) (k : Fin 16), a = b.regs.i + k.val →
    b'.memory.cells[a] = b.regs.get k
  /-- The registers hold the cells in order, as far as there are cells, and the others what they held. -/
  filled : w.Misc 0x65 → ∀ k : Fin 16,
    (∀ (a : Nat) (h : a < 4096), a = b.regs.i + k.val → b'.regs.get k = b.memory.cells[a]) ∧
      (0xFFF < b.regs.i + k.val → b'.regs.get k = b.regs.get k)
  /-- The index register is left behind memory, unless it was beyond it. -/
  moved : w.Misc 0x55 ∨ w.Misc 0x65 →
    b'.regs.i = if 0xFFF < b.regs.i then b.regs.i else 0x1000

theorem BrokenOff.interrupted {b b' : Board s} {w : Word}
    (h : BrokenOff (b.mapRegs fun r => { r with pc := r.pc + 2, lastWord := w }) w b') :
    Interrupted w b b' := by
  have hmax : max b.regs.i 0x1000 = if 0xFFF < b.regs.i then b.regs.i else 0x1000 := by
    split <;> omega
  -- a word is in at most one of the three kinds of transfers, so each clause is about its own case or
  -- empty
  cases h with
  | nothing word =>
    obtain ⟨h33, h55, h65⟩ := word
    refine ⟨rfl, rfl, rfl, rfl, rfl, rfl, rfl, rfl, rfl, fun _ => rfl, fun _ _ => rfl, fun _ _ => rfl,
      fun _ _ _ => rfl, fun hw => absurd hw h33, fun hw => absurd hw h55, fun hw => absurd hw h65, ?_⟩
    rintro (hw | hw)
    · exact absurd hw h55
    · exact absurd hw h65
  | digits word memory before moved =>
    have h55 : ¬w.Misc 0x55 := not_misc_of_misc word (by decide)
    have h65 : ¬w.Misc 0x65 := not_misc_of_misc word (by decide)
    refine ⟨rfl, rfl, rfl, rfl, rfl, rfl, rfl, rfl, rfl, fun _ => rfl, fun hw => absurd word hw,
      fun _ _ => rfl, before, fun _ => moved, fun hw => absurd hw h55, fun hw => absurd hw h65, ?_⟩
    rintro (hw | hw)
    · exact absurd hw h55
    · exact absurd hw h65
  | stored word memory before moved =>
    have h33 : ¬w.Misc 0x33 := not_misc_of_misc word (by decide)
    have h65 : ¬w.Misc 0x65 := not_misc_of_misc word (by decide)
    exact ⟨rfl, rfl, rfl, rfl, rfl, rfl, rfl, rfl, rfl, fun _ => rfl, fun _ hw => absurd word hw,
      fun hw => absurd word hw, before, fun hw => absurd hw h33, fun _ => moved,
      fun hw => absurd hw h65, fun _ => hmax⟩
  | filled word v moved behind =>
    have h33 : ¬w.Misc 0x33 := not_misc_of_misc word (by decide)
    have h55 : ¬w.Misc 0x55 := not_misc_of_misc word (by decide)
    exact ⟨rfl, rfl, rfl, rfl, rfl, rfl, rfl, rfl, rfl, fun hw => absurd word hw, fun _ _ => rfl,
      fun _ hw => absurd word hw, fun _ _ _ => rfl, fun hw => absurd hw h33,
      fun hw => absurd hw h55, fun _ k => ⟨fun a ha hk => moved a ha k hk, behind k⟩, fun _ => hmax⟩

end Board

namespace Machine

/-- What a halt leaves of a machine: `m'` of `t`, where `t` is the machine with its timers serviced. -/
structure Stopped (t : Machine κ τ s) (halt : Halt) (m' : Machine κ τ s) : Prop where
  /-- The machine had to stop. -/
  cause : t.board.Stops t.strict halt
  halted : m'.halted = true
  /-- If there was no word to fetch the board is as it was. -/
  fetching : halt.word = none → m'.board = t.board
  /-- If there was a word it was interrupted. -/
  executing : ∀ w, halt.word = some w → Board.Interrupted w t.board m'.board
  instructions : m'.instructions = t.instructions
  ticks : m'.ticks = t.ticks
  wait : m'.wait = t.wait
  program : m'.program = t.program
  noise : m'.noise = t.noise
  /-- Listeners hear at most of the trace of the word. -/
  heard : m'.heard = t.heard ∨ ∃ entry, t.tracing = true ∧ m'.heard = .traced entry :: t.heard
  /-- Unless the word is traced no listener can touch the time. -/
  time : t.tracing = false → m'.timerCadence = t.timerCadence ∧ m'.pace = t.pace ∧
    m'.paused = t.paused ∧ m'.clock = t.clock

variable [Seconds τ] [Clock κ τ] {host : Host s}

/-- The machine in which a word is executed differs from the one that fetched it by the trace. -/
theorem ready_frame (host : Host s) (w : Word) (t : Machine κ τ s) :
    (∃ traces, (t.ready host w).core = { t.fetched.core with traces }) ∧
      ((t.ready host w).heard = t.heard ∨
        ∃ entry, t.tracing = true ∧ (t.ready host w).heard = .traced entry :: t.heard) ∧
      (t.tracing = false → t.ready host w = t.fetched) := by
  refine ⟨t.fetched.core_traced host _ w, ?_, ?_⟩
  · have hheard := t.fetched.heard_traced host t.board.regs.pc w
    rw [ready, hheard]
    -- an untraced machine is not changed at all
    cases htracing : t.tracing with
    | true =>
      right
      exact ⟨_, rfl, if_pos htracing⟩
    | false =>
      left
      exact if_neg (by rw [show t.fetched.tracing = false from htracing]; decide)
  · intro htracing
    rw [ready, traced, if_neg (by rw [show t.fetched.tracing = false from htracing]; decide)]

/-- An attempt at an instruction that ends in a halt leaves the machine stopped. Of the ways that an attempt
    can go only two end so, since a listener fails with its own failure and not with a halt. -/
theorem Ran.stopped {t : Machine κ τ s} (hb : t.Bounded)
    {out : Except Failure Unit × Machine κ τ s} (h : Ran host t out) {halt : Halt}
    (hout : out.1 = .error (.halt halt)) : Stopped t halt out.2 := by
  cases h with
  | noWord past =>
    cases hout
    refine ⟨.fetch past, rfl, fun _ => rfl, ?_, rfl, rfl, rfl, rfl, rfl, Or.inl rfl,
      fun _ => ⟨rfl, rfl, rfl, rfl⟩⟩
    rintro w ⟨⟩
  | @fault w fetched f fault =>
    cases hout
    obtain ⟨⟨traces, hcore⟩, hheard, htime⟩ := ready_frame host w t
    have hboard : (t.ready host w).board = t.fetched.board := congrArg Core.board hcore
    have hstrict : (t.ready host w).strict = t.strict := congrArg Core.strict hcore
    refine ⟨.word fetched (.of_fault? fault), rfl, ?_, ?_, congrArg Core.instructions hcore,
      congrArg Core.ticks hcore, congrArg Core.wait hcore, congrArg Core.program hcore,
      congrArg Core.noise hcore, hheard, ?_⟩
    · rintro ⟨⟩
    · rintro w' ⟨⟩
      have hbroken : Board.BrokenOff ((t.ready host w).board.mapRegs (·.noting w)) w
          ((t.ready host w).executed w).board := by
        show Board.BrokenOff _ w (Board.executed _ _ w (t.ready host w).board)
        rw [Board.executed_eq]
        refine Board.brokenOff_perform (f := f) ((bounded_ready host hb fetched).1.withLastWord w)
          ((Instruction.fault?_noting _ (t.ready host w).board.regs w _).trans ?_)
        rw [hstrict, hboard]
        exact fault
      rw [hboard] at hbroken
      exact Board.BrokenOff.interrupted (b := t.board) hbroken
    · intro htracing
      rw [htime htracing]
      exact ⟨rfl, rfl, rfl, rfl⟩
  | untraced fetched fails | untold fetched fault fails =>
    -- a listener failed, and that is no halt
    obtain ⟨⟨name, rfl⟩, -⟩ := fails
    cases hout
  | done fetched fault =>
    obtain ⟨⟨name, hname⟩, -⟩ := announceFrame_fails host _ _ hout
    cases hname

/-! ## After the halt

A machine that is halted stays as it is at every step, and a run of it ends at once. -/

theorem halted_emit_of_halted (event : Event s) :
    Act.Keeps (fun m : Machine κ τ s => m.halted = true) (emit host event) := by
  intro m hm
  rw [halted_emit, hm]
  rfl

/-- A halted machine stays halted, whatever is done with it, until it is reset or loaded. -/
theorem halted_call (c : Call κ) (hc : c.restarts = false) :
    Act.Keeps (fun m : Machine κ τ s => m.halted = true) (c.act host) := by
  have hchange (m t : Machine κ τ s) (hm : m.halted = true) (h : TimerChange m t) :
      t.halted = true := h.halted_eq.trans hm
  refine keeps_call (fun m t _ _ h hm => h.trans hm) ?_
    (keeps_serviceTimers (fun _ => halted_emit_of_halted _) hchange)
    (keeps_tick (fun _ => halted_emit_of_halted _) hchange) c fun h => ?_
  · intro m hm
    rw [exec_step_of_halted host hm]
    exact hm
  · rw [hc] at h
    cases h

/-- A run of a halted machine ends at once: it starts the signal anew and looks at it once. -/
theorem exec_run_of_halted {m : Machine κ τ s} (h : m.halted = true) (look : κ → κ) (looks : Nat) :
    (run host look looks).exec m =
      (.ok (), { m with
        clock := if looks = 0 then m.clock else look m.clock
        signal := { looks := looks - 1 } }) := by
  rw [run, Act.exec_modify_bind]
  cases looks with
  | zero => rfl
  | succ looks =>
    rw [loop, Act.exec_get_bind, if_neg (by simp), Act.exec_modify_bind, Act.exec_get_bind,
      if_pos (by exact h)]
    rfl

/-- What a halting step did: it serviced the timers, and then the machine stopped. -/
theorem stopped_of_step {m m' : Machine κ τ s} (hb : m.Bounded) (hhalted : m.halted = false)
    (hwait : m.wait = none) {halt : Halt} (hstep : (step host).exec m = (.error (.halt halt), m')) :
    ∃ t, (serviceTimers host).exec m = (.ok (), t) ∧ Ticked m t ∧ Stopped t halt m' := by
  have hticked := ticked_serviceTimers host m
  have hbounded := bounded_serviceTimers host m hb
  have h := stepped_step host hb hhalted
  rw [hstep] at h
  generalize hout : ((.error (.halt halt), m') : Except Failure Unit × Machine κ τ s) = out at h
  cases h with
  | unserviced service =>
    -- over the number of the periods due, or with the failure of a listener
    cases hout
    exact absurd rfl (serviceTimers_ne_halt service halt)
  | polled service wait =>
    rw [service] at hticked
    rw [hticked.wait_eq, hwait] at wait
    cases wait
  | @ran t service wait out ran =>
    rw [service] at hticked hbounded
    subst hout
    exact ⟨t, service, hticked, ran.stopped hbounded rfl⟩

/-- If a step halts a machine it does so after the timers were serviced, and leaves all but an
    interrupted transfer as it was then. From then on, whatever is done with the machine, steps do
    nothing and runs end at once, until it is reset or loaded. -/
theorem Reachable.halts {m m' : Machine κ τ s} (h : Reachable host m) (hhalted : m.halted = false)
    (hwait : m.wait = none) {halt : Halt} (hstep : (step host).exec m = (.error (.halt halt), m')) :
    (∃ t, (serviceTimers host).exec m = (.ok (), t) ∧ Ticked m t ∧ Stopped t halt m') ∧
    ∀ calls : List (Call κ), (∀ c ∈ calls, c.restarts = false) →
      ∀ n, n = calls.foldl (fun n c => c.after host n) m' →
        n.halted = true ∧ (step host).exec n = (.ok (), n) ∧
        ∀ look looks, (run host look looks).exec n =
          (.ok (), { n with
            clock := if looks = 0 then n.clock else look n.clock
            signal := { looks := looks - 1 } }) := by
  obtain ⟨t, ht, hticked, hstopped⟩ := stopped_of_step h.bounded hhalted hwait hstep
  refine ⟨⟨t, ht, hticked, hstopped⟩, ?_⟩
  rintro calls hcalls n rfl
  have hn : (calls.foldl (fun n c => c.after host n) m').halted = true := by
    -- each call finds a halted machine and leaves one
    have hm' := hstopped.halted
    clear hstep hstopped
    induction calls generalizing m' with
    | nil => exact hm'
    | cons c calls ih =>
      refine ih (fun d hd => hcalls d (List.mem_cons_of_mem _ hd)) ?_
      exact halted_call c (hcalls c List.mem_cons_self) m' hm'
  exact ⟨hn, exec_step_of_halted host hn, exec_run_of_halted hn⟩

/-- A program that returns without a call halts at its first step, so there are machines of which
    `Reachable.halts` speaks. -/
theorem halts_returning :
    ∃ m' : Machine (ManualClock Rat) Rat .standard,
      (step Host.inert).exec (loaded returning) =
        (.error (.halt ⟨.stackUnderflow, 0x200, some 0x00EE⟩), m') ∧
      (∃ t, (serviceTimers Host.inert).exec (loaded returning) = (.ok (), t) ∧
        Ticked (loaded returning) t ∧ Stopped t ⟨.stackUnderflow, 0x200, some 0x00EE⟩ m') ∧
      ∀ calls : List (Call (ManualClock Rat)), (∀ c ∈ calls, c.restarts = false) →
        ∀ n, n = calls.foldl (fun n c => c.after Host.inert n) m' →
          n.halted = true ∧ (step Host.inert).exec n = (.ok (), n) ∧
          ∀ look looks, (run Host.inert look looks).exec n =
            (.ok (), { n with
              clock := if looks = 0 then n.clock else look n.clock
              signal := { looks := looks - 1 } }) := by
  obtain ⟨due, hdue⟩ := (loaded returning).pollTimer_ok
  have hreachable := reachable_loaded returning
  have hhalt := (halt_step_iff Host.inert_neverFails hreachable.bounded rfl rfl hdue).mpr
    stops_returning
  -- a step that halts leaves some machine; which one, the theorem says
  have hanswer (out : Except Failure Unit × Machine (ManualClock Rat) Rat .standard)
      (h : out.1 = .error (.halt ⟨.stackUnderflow, 0x200, some 0x00EE⟩)) :
      ∃ m', out = (.error (.halt ⟨.stackUnderflow, 0x200, some 0x00EE⟩), m') :=
    ⟨out.2, Prod.ext h rfl⟩
  obtain ⟨m', hstep⟩ := hanswer _ hhalt
  exact ⟨m', hstep, Reachable.halts hreachable rfl rfl hstep⟩

end Machine

end Chip8
