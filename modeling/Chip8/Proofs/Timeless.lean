import Chip8.Proofs.Bounds
import Chip8.Proofs.Footprint
import Chip8.Proofs.Turns
/-!
What is left of a machine when its time is taken away.

The clock, the timers and the tone reach the rest of a machine in one place only, the instruction that reads
the delay timer. Everything else that a program does must be the same however fast it is run.

1. **The machine without time** — `Timeless` is the rest of a machine, and `Timeless.step` the step that it
   makes by itself, given the keys and how strict it is to be. It has no clock, no timers and no listeners.

2. **Simulation** — a step of a machine is one of the machine without time, whatever its clock, unless it
   reads the delay timer (`Machine.follows_step`). On the board this is a fact about instructions
   (`Board.timeless_perform`), case by case; turns that are no steps leave the rest alone
   (`Turn.timeless_after`).

3. **Runs** — by induction a run comes to what the same steps without time come to (`Turn.follows_afterAll`).
   The hypothesis that no word reads the delay timer may be about either of the two.

4. **Two runs** — two machines that are given the same follow the same machine without time, so they go the
   same way, each in its own time (`Turn.sameWay_afterAll`): their clocks need not be related at all.
-/

namespace Chip8

variable {κ τ : Type} {s : Size}

/-! ## Boards

A board without its timers, its tone, its keys and the count of its random bytes, and what an instruction
does to that. -/

theorem Registers.Sound.untimed {r : Registers} (h : r.Sound) : r.untimed.Sound :=
  (h.withDelay ⟨Int.le_refl 0, by decide⟩).withSound ⟨Int.le_refl 0, by decide⟩

namespace Board

variable {strict : Bool} {noise : Nat → UInt8}

/-- A board without the timers, the tone, the keys, and the count of random bytes. -/
def timeless (b : Board s) : Board s :=
  { b with regs := b.regs.untimed, keypad := .released, tone := false, draws := 0 }

/-- A board without timers and tone that has its keys. -/
def keyed (b : Board s) : Board s := { b.timeless with keypad := b.keypad }

/-- Skipping looks at no timer. -/
theorem timeless_skipIf (c : Bool) (b : Board s) :
    (b.mapRegs (·.skipIf c)).timeless = (b.keyed.mapRegs (·.skipIf c)).timeless := by
  cases c <;> rfl

/-- Only the instruction that reads the delay timer makes a difference between boards that differ in
    their timers. Random bytes are counted from the first that is still to come. -/
theorem timeless_perform {b : Board s} (hb : b.regs.Sound) {ins : Instruction}
    (h : ∀ x, ins ≠ .readDelay x) :
    ((perform strict noise ins).exec b).2.timeless =
      ((perform strict (fun k => noise (b.draws + k)) ins).exec b.keyed).2.timeless := by
  have hi : 0 ≤ b.keyed.regs.i := hb.index.1
  cases ins with
  | readDelay x => exact absurd rfl (h x)
  | ret =>
    rcases hb.empty_or_used with h | ⟨k, h⟩
    · have hkeyed : b.keyed.regs.sp = 0 := h
      rw [exec_ret_of_zero h, exec_ret_of_zero hkeyed]
      rfl
    · have hkeyed : b.keyed.regs.sp = k.val + 1 := h
      rw [exec_ret_of_used h, exec_ret_of_used hkeyed]
      rfl
  | call nnn =>
    rcases hb.full_or_free with h | ⟨k, h⟩
    · have hkeyed : b.keyed.regs.sp = 16 := h
      rw [exec_call_of_full h, exec_call_of_full hkeyed]
      rfl
    · obtain ⟨a, ha⟩ := Int.eq_ofNat_of_zero_le hb.counter.1
      have hpc := hb.counter.2
      have hkeyed : b.keyed.regs.sp = k.val := h
      have hkeyed' : b.keyed.regs.pc = a := ha
      rw [exec_call_of_free h ha (by omega), exec_call_of_free hkeyed hkeyed' (by omega)]
      rfl
  | skipEq x kk | skipNe x kk => exact timeless_skipIf _ b
  | skipEqReg x y | skipNeReg x y => exact timeless_skipIf _ b
  | skipDown x | skipUp x =>
    simp only [exec_skipDown, exec_skipUp]
    by_cases hkey : (b.regs.get x).toNat < 16
    · have hkeyed : (b.keyed.regs.get x).toNat < 16 := hkey
      rw [dif_pos hkey, dif_pos hkeyed]
      exact timeless_skipIf _ b
    · have hkeyed : ¬(b.keyed.regs.get x).toNat < 16 := hkey
      rw [dif_neg hkey, dif_neg hkeyed]
      rfl
  | draw x y n =>
    have hread := readBlock_eq strict b hb.index.1 x y n
    rw [perform, perform]
    cases hf : (Instruction.draw x y n).fault? strict b.regs with
    | some f =>
      rw [hf] at hread
      have hkeyed : b.keyed.memory.readBlock b.keyed.regs.i n.val = .error f := hread
      rw [exec_drawSprite_of_error hread, exec_drawSprite_of_error hkeyed]
      rfl
    | none =>
      rw [hf] at hread
      obtain ⟨hit, g, hdraw, heq⟩ := exec_drawSprite_of_ok (x := x) (y := y) hread
      obtain ⟨hit', g', hdraw', heq'⟩ := exec_drawSprite_of_ok (x := x) (y := y) (b := b.keyed) hread
      -- the rows, the place and the picture are the same, so what is drawn is, too
      obtain ⟨rfl, rfl⟩ : hit' = hit ∧ g' = g := by
        have := hdraw.symm.trans hdraw'
        simp at this
        exact ⟨this.1.symm, this.2.symm⟩
      rw [heq, heq']
      rfl
  | setSound x =>
    rw [exec_setSound, exec_setSound]
    rfl
  | glyph x =>
    rw [exec_glyph, exec_glyph]
    by_cases hdigit : (b.regs.get x).toNat < 16
    · have hkeyed : (b.keyed.regs.get x).toNat < 16 := hdigit
      rw [if_pos hdigit, if_pos hkeyed]
      rfl
    · have hkeyed : ¬(b.keyed.regs.get x).toNat < 16 := hdigit
      rw [if_neg hdigit, if_neg hkeyed]
      rfl
  | storeDigits x =>
    rw [exec_storeDigits _ _ _ _ hb.index.1, exec_storeDigits _ _ _ _ hi]
    rfl
  | store x =>
    rw [exec_store x hb.index.1, exec_store x hi]
    rfl
  | fill x =>
    rw [exec_fill x hb.index.1, exec_fill x hi]
    rfl
  | unrecognized w => cases strict <;> rfl
  | _ => rfl

/-- Only a word that reads the delay timer makes a difference between boards that differ in their timers. -/
theorem timeless_executed {b : Board s} (hb : b.regs.Sound) {w : Word} (hw : ¬w.Misc 0x07) :
    (b.executed strict noise w).timeless =
      (b.keyed.executed strict (fun k => noise (b.draws + k)) w).timeless := by
  rw [executed_eq, executed_eq]
  refine timeless_perform (b := b.mapRegs (·.noting w)) (hb.withLastWord w) fun x hx => hw ?_
  exact ((Instruction.ofWord_eq_iff w (.readDelay x)).mp hx).1

/-- A word takes as many random bytes with the timers as without. -/
theorem draws_executed {b : Board s} (hb : b.regs.Sound) (w : Word) :
    (b.executed strict noise w).draws =
      b.draws + (b.keyed.executed strict (fun k => noise (b.draws + k)) w).draws := by
  have hkeyed : b.keyed.regs.Sound := hb.untimed
  rw [(footprint_executed strict noise hb w).draws,
    (footprint_executed strict (fun k => noise (b.draws + k)) hkeyed w).draws]
  split
  · rfl
  · rfl

/-- The board after a finished picture, if there is one, was told of. -/
def announced (b : Board s) : Board s := { b with display := b.display.takeFrameReady.2 }

theorem timeless_announced {b b' : Board s} (h : b.timeless = b'.timeless) :
    b.announced.timeless = b'.announced.timeless := by
  show b.timeless.announced = b'.timeless.announced
  rw [h]

theorem fault?_keyed (b : Board s) (ins : Instruction) :
    ins.fault? strict b.keyed.regs = ins.fault? strict b.regs :=
  ins.fault?_untimed strict b.regs

end Board

/-! ## Machines without time

The specification: a machine without timers, clock, cadences and listeners that executes words, given the
keys and the strictness at each step. -/

/-- Is the event about pictures or keys? -/
def Event.isShown : Event s → Bool
  | .tone _ | .traced _ => false
  | _ => true

/-- What a step is given from outside: the keys, and whether it is to be strict. -/
structure Given where
  keypad : Keypad
  strict : Bool

/-- What a core holds of what a step is given. -/
def Core.given (c : Core s) : Given := ⟨c.board.keypad, c.strict⟩

/-- A machine without its time. -/
structure Timeless (s : Size) where
  /-- The board without what time changes. -/
  board : Board s
  wait : Option (Fin 16)
  halted : Bool
  instructions : Nat
  /-- The random bytes that are still to come. -/
  ahead : Nat → UInt8

/-- What is left of the core of a machine. -/
def Core.timeless (halted : Bool) (c : Core s) : Timeless s where
  board := c.board.timeless
  wait := c.wait
  halted := halted
  instructions := c.instructions
  ahead := fun k => c.noise (c.board.draws + k)

namespace Timeless

/-- What a step comes to. -/
structure Outcome (s : Size) where
  answer : Except Failure Unit
  left : Timeless s
  /-- What is shown of it, the last first. -/
  shown : List (Event s)
  /-- The word that it completes, if it completes one. -/
  word : Option Word

/-- The step did not read the delay timer. -/
def Outcome.ReadsNoTimer (o : Outcome s) : Prop := ∀ w, o.word = some w → ¬w.Misc 0x07

/-- Nothing happens. -/
def idle (c : Timeless s) : Outcome s := ⟨.ok (), c, [], none⟩

/-- A fault halts the machine. -/
def halt (h : Halt) (c : Timeless s) : Outcome s := ⟨.error (.halt h), { c with halted := true }, [], none⟩

/-- The machine with what is left of a board that was worked on. -/
def leave (b : Board s) (c : Timeless s) : Timeless s :=
  { c with board := b.timeless, ahead := fun k => c.ahead (b.draws + k) }

/-- The board behind the word at the program counter. -/
def fetched (keypad : Keypad) (c : Timeless s) : Board s :=
  { c.board with keypad }.mapRegs fun r => { r with pc := r.pc + 2 }

/-- A word that strikes no fault is counted. It leaves a board and has something to tell, or nothing. -/
def complete (w : Word) (e : Effect) (b : Board s) (c : Timeless s) : Outcome s where
  answer := .ok ()
  left := { c.leave b.announced with
    wait := Machine.waitAfter e c.wait
    instructions := c.instructions + 1 }
  shown := (if b.display.frameReady then [.frameComplete b.display.grid] else []) ++
    (Machine.told e).filter Event.isShown
  word := some w

/-- The word at the program counter is executed. -/
def execute (g : Given) (w : Word) (c : Timeless s) : Outcome s :=
  let b := (c.fetched g.keypad).executed g.strict c.ahead w
  match (Instruction.ofWord w).fault? g.strict (c.fetched g.keypad).regs with
  | some f => (c.leave b).halt ⟨f, c.board.regs.pc, some w⟩
  | none => c.complete w (((c.fetched g.keypad).mapRegs (·.noting w)).effect (Instruction.ofWord w)) b

/-- One step. It looks at the keys, or executes a word, or does nothing. -/
def step (g : Given) (c : Timeless s) : Outcome s :=
  if c.halted then c.idle
  else match c.wait with
  | some x =>
    match g.keypad.first? with
    | none => c.idle
    | some key =>
      { c.idle with
        left := { c with board := c.board.mapRegs (·.put x (UInt8.ofNat key.val)), wait := none }
        shown := [.keyResume x key] }
  | none =>
    match c.board.memory.word? c.board.regs.pc with
    | none => c.halt ⟨.addressOutOfRange (max c.board.regs.pc 4096), c.board.regs.pc, none⟩
    | some w => c.execute g w

/-- A machine that runs executes the word at its counter. -/
theorem step_of_word {c : Timeless s} (hhalted : c.halted = false) (hwait : c.wait = none) {w : Word}
    (hw : c.board.memory.word? c.board.regs.pc = some w) (g : Given) : c.step g = c.execute g w := by
  rw [step, if_neg (by rw [hhalted]; decide), hwait]
  dsimp only
  rw [hw]

/-- What a word has to tell depends on the tone only if it is about the tone, which nothing depends on. -/
theorem complete_keyed (b : Board s) (w : Word) (b' : Board s) (c : Timeless s) :
    c.complete w ((b.keyed.mapRegs (·.noting w)).effect (Instruction.ofWord w)) b' =
      c.complete w ((b.mapRegs (·.noting w)).effect (Instruction.ofWord w)) b' := by
  cases Instruction.ofWord w with
  | setSound x =>
    simp only [Board.effect]
    split <;> split <;> rfl
  | _ => rfl

end Timeless

/-- What is left of a core whose board was worked on. -/
theorem Core.timeless_leave {c : Core s} {b b' : Board s} (hboard : b.timeless = b'.timeless)
    (hdraws : b.draws = c.board.draws + b'.draws) (halted : Bool) :
    ({ c with board := b } : Core s).timeless halted = (c.timeless halted).leave b' := by
  have hahead : (fun k => c.noise (b.draws + k)) =
      fun k => c.noise (c.board.draws + (b'.draws + k)) := by
    funext k
    rw [hdraws, Nat.add_assoc]
  show Timeless.mk b.timeless c.wait halted c.instructions (fun k => c.noise (b.draws + k)) =
    Timeless.mk b'.timeless c.wait halted c.instructions
      (fun k => c.noise (c.board.draws + (b'.draws + k)))
  rw [hboard, hahead]

namespace Machine

/-- What is left of a machine without its time. -/
def timeless (m : Machine κ τ s) : Timeless s := m.core.timeless m.halted

/-- What was shown so far, the last first. -/
def shown (m : Machine κ τ s) : List (Event s) := m.heard.filter Event.isShown

/-- What the next step is given. -/
def given (m : Machine κ τ s) : Given := ⟨m.board.keypad, m.strict⟩

/-! ## What makes no difference

Timer periods and everything that a host does between steps leave the machine without time as it is. -/

/-- What is heard of tones and traces is not among what is shown. -/
theorem shown_of_heard {m t : Machine κ τ s} (events : List (Event s))
    (hevents : ∀ e ∈ events, e.isShown = false) (h : t.heard = events ++ m.heard) : t.shown = m.shown := by
  have hnone : events.filter Event.isShown = [] := by
    rw [List.filter_eq_nil_iff]
    intro e he
    rw [hevents e he]
    decide
  rw [shown, h, List.filter_append, hnone]
  rfl

theorem Ticked.shown_eq {m t : Machine κ τ s} (h : Ticked m t) : t.shown = m.shown := by
  obtain ⟨tones, htones, hheard⟩ := h.heard
  refine shown_of_heard tones (fun e he => ?_) hheard
  obtain ⟨on, rfl⟩ := htones e he
  rfl

theorem Ticked.timeless_eq {m t : Machine κ τ s} (h : Ticked m t) (hhalted : t.halted = m.halted) :
    t.timeless = m.timeless := by
  show t.core.untimed.timeless t.halted = m.core.untimed.timeless m.halted
  rw [h.core, hhalted]

theorem Ticked.given_eq {m t : Machine κ τ s} (h : Ticked m t) : t.given = m.given := by
  show t.core.untimed.given = m.core.untimed.given
  rw [h.core]

theorem Aside.timeless_eq {m t : Machine κ τ s} (h : Aside m t) : t.timeless = m.timeless := by
  obtain ⟨keypad, strict, tracing, hcore⟩ := h.core
  rw [timeless, hcore, h.halted]
  rfl

theorem Aside.shown_eq {m t : Machine κ τ s} (h : Aside m t) : t.shown = m.shown := by
  rw [shown, h.heard, shown]

/-! ## One step

A step of the machine with time is a step of the one without. Only the word that reads the delay timer is an
exception, and even then the answer and the word are the same. -/

/-- What an operation comes to is, but for the time, the outcome of a step, unless the delay timer is read.
    Even then the answer and the word are those of the step, so that which of two machines reads the delay timer
    first is never in question. -/
structure Follows (m : Machine κ τ s) (out : Except Failure Unit × Machine κ τ s)
    (o : Timeless.Outcome s) : Prop where
  answer : out.1 = o.answer
  word : (if out.2.instructions = m.instructions + 1 then m.word? else none) = o.word
  left : o.ReadsNoTimer → out.2.timeless = o.left
  shown : o.ReadsNoTimer → out.2.shown = o.shown ++ m.shown

namespace Follows

variable {m t : Machine κ τ s} {out : Except Failure Unit × Machine κ τ s} {o : Timeless.Outcome s}

/-- No word is completed, so no timer is read. -/
theorem of_same (hword : o.word = none) (hanswer : out.1 = o.answer)
    (hcount : out.2.instructions = m.instructions) (hleft : out.2.timeless = o.left)
    (hshown : out.2.shown = o.shown ++ m.shown) : Follows m out o := by
  refine ⟨hanswer, ?_, fun _ => hleft, fun _ => hshown⟩
  rw [hword, if_neg (by omega)]

/-- Servicing the timers beforehand makes no difference. -/
theorem of_ticked (h : Follows t out (t.timeless.step t.given)) (hticked : Ticked m t)
    (hhalted : t.halted = m.halted) : Follows m out (m.timeless.step m.given) := by
  have hcount : t.instructions = m.instructions := congrArg Core.instructions hticked.core
  rw [← hticked.timeless_eq hhalted, ← hticked.given_eq]
  refine ⟨h.answer, ?_, h.left, fun hword => ?_⟩
  · rw [← hcount, ← hticked.word?_eq]
    exact h.word
  · rw [h.shown hword, hticked.shown_eq]

end Follows

variable [Seconds τ] [Clock κ τ] {host : Host s}

/-- Tracing is not shown. -/
theorem shown_ready (host : Host s) (w : Word) (m : Machine κ τ s) : (m.ready host w).shown = m.shown := by
  have hheard := m.fetched.heard_traced host m.board.regs.pc w
  split at hheard
  · exact shown_of_heard [.traced _] (by simp [Event.isShown]) hheard
  · exact shown_of_heard [] (by simp) hheard

omit [Seconds τ] [Clock κ τ] in
/-- A step without time of a machine that runs executes the word at its place, or halts if there is none. -/
theorem timeless_step_of_word {t : Machine κ τ s} (hhalted : t.halted = false) (hwait : t.wait = none) :
    t.timeless.step t.given =
      match t.word? with
      | none => t.timeless.halt ⟨.addressOutOfRange (max t.board.regs.pc 4096), t.board.regs.pc, none⟩
      | some w => t.timeless.execute t.given w := by
  have hrunning : t.timeless.halted = false := hhalted
  have hidle : t.timeless.wait = none := hwait
  rw [Timeless.step, if_neg (by rw [hrunning]; decide), hidle]
  rfl

omit [Seconds τ] [Clock κ τ] in
/-- Executing a word without time, told by the machine with it. -/
theorem timeless_execute (t : Machine κ τ s) (w : Word) :
    t.timeless.execute t.given w =
      match (Instruction.ofWord w).fault? t.strict t.fetched.board.regs with
      | some f =>
        (t.timeless.leave (t.fetched.board.keyed.executed t.strict t.timeless.ahead w)).halt
          ⟨f, t.board.regs.pc, some w⟩
      | none =>
        t.timeless.complete w ((t.fetched.board.mapRegs (·.noting w)).effect (Instruction.ofWord w))
          (t.fetched.board.keyed.executed t.strict t.timeless.ahead w) := by
  rw [← Board.fault?_keyed, ← Timeless.complete_keyed]
  rfl

section Listening

variable (hfails : host.NeverFails) (hhalts : host.NeverHalts) {t : Machine κ τ s} (hb : t.Bounded)
  (hhalted : t.halted = false)

include hb

/-- A fault depends on no timer, and what it leaves neither. -/
theorem follows_fault {w : Word} (hw : t.board.memory.WordAt t.board.regs.pc w) {f : Fault}
    (hfault : (Instruction.ofWord w).fault? t.strict t.fetched.board.regs = some f) :
    Follows t (.error (.halt ⟨f, t.board.regs.pc, some w⟩),
        ((t.ready host w).executed w).haltedBy ⟨f, t.board.regs.pc, some w⟩)
      (t.timeless.execute t.given w) := by
  -- reading the delay timer strikes no fault
  have hmisc : ¬w.Misc 0x07 := by
    intro hw
    rw [(Instruction.ofWord_eq_iff w (.readDelay w.x)).mpr ⟨hw, rfl⟩] at hfault
    cases hfault
  have hsound : t.fetched.board.regs.Sound := sound_fetched hb (lt_of_wordAt hw)
  obtain ⟨traces, hcore⟩ := core_executed_ready host w t
  rw [timeless_execute, hfault]
  refine .of_same rfl rfl (congrArg Core.instructions hcore) ?_ (shown_ready host w t)
  show ((t.ready host w).executed w).core.timeless true = _
  rw [hcore]
  exact Core.timeless_leave (Board.timeless_executed hsound hmisc) (Board.draws_executed hsound w) true

include hhalts

/-- What is left when a word that does not read the delay timer was counted. -/
theorem timeless_counted {w : Word} (hw : t.board.memory.WordAt t.board.regs.pc w)
    (hdelay : ¬w.Misc 0x07) :
    ((announceFrame host).exec (t.counted host w)).2.timeless =
      (t.timeless.complete w ((t.fetched.board.mapRegs (·.noting w)).effect (Instruction.ofWord w))
        (t.fetched.board.keyed.executed t.strict t.timeless.ahead w)).left := by
  have hsound : t.fetched.board.regs.Sound := sound_fetched hb (lt_of_wordAt hw)
  have hstill : ((announceFrame host).exec (t.counted host w)).2.halted = t.halted := by
    rw [halted_announceFrame hhalts]
    exact (halted_deliver hhalts _ _).trans (halted_traced hhalts _ w _)
  have hboard : (t.fetched.board.executed t.strict t.noise w).timeless =
      (t.fetched.board.keyed.executed t.strict t.timeless.ahead w).timeless :=
    Board.timeless_executed hsound hdelay
  have hdraws : (t.fetched.board.executed t.strict t.noise w).announced.draws =
      t.core.board.draws + (t.fetched.board.keyed.executed t.strict t.timeless.ahead w).announced.draws :=
    Board.draws_executed hsound w
  -- what a machine leaves is what a board leaves once the frame flag is taken; all else is copied from the
  -- core
  have hleave := Core.timeless_leave (Board.timeless_announced hboard) hdraws t.halted
  obtain ⟨traces, hcore⟩ := core_announced host w t
  rw [timeless, hcore, hstill]
  exact congrArg (fun c : Timeless s => { c with
    wait := waitAfter ((t.fetched.board.mapRegs (·.noting w)).effect (Instruction.ofWord w)) t.wait
    instructions := t.instructions + 1 }) hleave

omit hhalts

/-- What is shown of a counted word: what it has to tell, and then the picture that it finished. -/
theorem shown_counted {w : Word} (hw : t.board.memory.WordAt t.board.regs.pc w) (hdelay : ¬w.Misc 0x07) :
    ((announceFrame host).exec (t.counted host w)).2.shown =
      (t.timeless.complete w ((t.fetched.board.mapRegs (·.noting w)).effect (Instruction.ofWord w))
        (t.fetched.board.keyed.executed t.strict t.timeless.ahead w)).shown ++ t.shown := by
  have hsound : t.fetched.board.regs.Sound := sound_fetched hb (lt_of_wordAt hw)
  have hdisplay : (t.counted host w).board.display =
      (t.fetched.board.keyed.executed t.strict t.timeless.ahead w).display := by
    obtain ⟨traces, hcounted⟩ := core_counted host w t
    rw [show (t.counted host w).board = _ from congrArg Core.board hcounted]
    exact congrArg (·.display) (Board.timeless_executed hsound hdelay)
  -- a trace is told before the word is executed, but it is not among the events that are shown
  have htold : (t.counted host w).shown =
      (told ((t.fetched.board.mapRegs (·.noting w)).effect (Instruction.ofWord w))).filter
        Event.isShown ++ t.shown := by
    rw [shown, heard_counted, List.filter_append]
    split <;> rfl
  rw [shown, heard_announceFrame, hdisplay]
  dsimp only [Timeless.complete]
  rw [List.append_assoc, ← htold]
  split
  · rfl
  · rfl

include hfails hhalts

/-- A word that is counted comes to what it comes to without time, except for the word that reads the
    delay timer. -/
theorem follows_done {w : Word} (hw : t.board.memory.WordAt t.board.regs.pc w)
    (hfault : (Instruction.ofWord w).fault? t.strict t.fetched.board.regs = none) :
    Follows t ((announceFrame host).exec (t.counted host w)) (t.timeless.execute t.given w) := by
  have hanswer := Act.exec_of_neverFails hfails (announceFrame_fails host) (t.counted host w)
  obtain ⟨traces, hcore⟩ := core_announced host w t
  rw [timeless_execute, hfault]
  refine ⟨congrArg Prod.fst hanswer, ?_, fun hdelay => timeless_counted hhalts hb hw (hdelay w rfl),
    fun hdelay => shown_counted hb hw (hdelay w rfl)⟩
  exact (if_pos (congrArg Core.instructions hcore)).trans (word?_eq_some_iff.mpr hw)

include hhalted

/-- Whatever an instruction comes to, it comes to without time. -/
theorem Ran.follows (hwait : t.wait = none) {out : Except Failure Unit × Machine κ τ s}
    (h : Ran host t out) : Follows t out (t.timeless.step t.given) := by
  rw [timeless_step_of_word hhalted hwait]
  cases h with
  | noWord past =>
    have hword : t.word? = none := Memory.word?_of_ge _ past
    rw [hword]
    exact .of_same rfl rfl rfl rfl rfl
  | untraced fetched fails | untold fetched fault fails => exact absurd hfails fails.2
  | @fault w fetched f fault =>
    rw [word?_eq_some_iff.mpr fetched]
    exact follows_fault hb fetched fault
  | @done w fetched fault =>
    rw [word?_eq_some_iff.mpr fetched, counted_eq]
    exact follows_done hfails hhalts hb fetched fault

omit hb

/-- A wait for a key looks at the keys only. -/
theorem follows_pollKeys {x : Fin 16} (hwait : t.wait = some x) :
    Follows t ((pollKeys host x).exec t) (t.timeless.step t.given) := by
  have hrunning : t.timeless.halted = false := hhalted
  have hwaiting : t.timeless.wait = some x := hwait
  have hkeypad : t.given.keypad = t.board.keypad := rfl
  rw [Timeless.step, if_neg (by rw [hrunning]; decide), hwaiting, exec_pollKeys]
  dsimp only
  rw [hkeypad]
  cases t.board.keypad.first? with
  | none => exact .of_same rfl rfl rfl rfl rfl
  | some key =>
    -- the news of the key may log and ask for things, but it reaches nothing that is compared here
    have hcore := core_emit host (.keyResume x key)
      { t.mapRegs (·.put x (UInt8.ofNat key.val)) with wait := none }
    have hheard := heard_emit host (.keyResume x key)
      { t.mapRegs (·.put x (UInt8.ofNat key.val)) with wait := none }
    have hstill := halted_emit_of_neverHalts hhalts (.keyResume x key)
      { t.mapRegs (·.put x (UInt8.ofNat key.val)) with wait := none }
    refine .of_same rfl ?_ (congrArg Core.instructions hcore) ?_ ?_
    · exact congrArg Prod.fst (Act.exec_of_neverFails hfails (emit_fails host _) _)
    · dsimp only
      rw [timeless, hcore, hstill]
      rfl
    · dsimp only
      rw [shown, hheard]
      rfl

end Listening

/-- An instruction changes neither the keys nor how strict the machine is, whatever it comes to. -/
theorem Ran.given_eq {t : Machine κ τ s} (hb : t.Bounded) {out : Except Failure Unit × Machine κ τ s}
    (h : Ran host t out) : out.2.given = t.given := by
  have hexecuted {w : Word} (hw : t.board.memory.WordAt t.board.regs.pc w) :
      ((t.ready host w).executed w).given = t.given := by
    have hsound : t.fetched.board.regs.Sound := sound_fetched hb (lt_of_wordAt hw)
    have hkeypad := (Board.footprint_executed t.strict t.noise hsound w).keypad
    obtain ⟨traces, hcore⟩ := core_executed_ready host w t
    have hstrict : ((t.ready host w).executed w).strict = t.strict := congrArg Core.strict hcore
    rw [given, given, board_executed_ready, hkeypad, hstrict]
    rfl
  have heffected {w : Word} (hw : t.board.memory.WordAt t.board.regs.pc w) :
      ((t.ready host w).effected host w).given = t.given :=
    (congrArg Core.given (core_deliver host _ _)).trans (hexecuted hw)
  have hannounced (m : Machine κ τ s) : ((announceFrame host).exec m).2.given = m.given :=
    congrArg Core.given (core_announceFrame host m)
  -- all that is left is the order in which these three parts come in each case
  cases h with
  | noWord past => rfl
  | @untraced w fetched e fails =>
    obtain ⟨traces, hcore⟩ := t.fetched.core_traced host t.board.regs.pc w
    exact congrArg Core.given hcore
  | fault fetched fault => exact hexecuted fetched
  | untold fetched fault fails told => exact heffected fetched
  | done fetched fault => exact (hannounced _).trans (heffected fetched)

/-- No step changes what the next one is given. -/
theorem given_step (host : Host s) {m : Machine κ τ s} (hb : m.Bounded) :
    (Call.step.after host m).given = m.given := by
  have hmoved := moved_step host hb
  generalize Call.step.after host m = u at hmoved ⊢
  cases hmoved with
  | halted => rfl
  | unserviced service ticked => exact ticked.given_eq
  | @polled t service ticked x wait =>
    obtain ⟨v, wait, hcore⟩ := core_pollKeys host x t
    exact (congrArg Core.given hcore).trans ticked.given_eq
  | ran service ticked bounded wait ran => exact (ran.given_eq bounded).trans ticked.given_eq

theorem keypad_step (host : Host s) {m : Machine κ τ s} (hb : m.Bounded) :
    (Call.step.after host m).board.keypad = m.board.keypad :=
  congrArg Given.keypad (given_step host hb)

/-- A step is one of the machine without time, whatever the clock, unless it reads the delay timer. -/
theorem follows_step (hfails : host.NeverFails) (hhalts : host.NeverHalts) {m : Machine κ τ s}
    (hb : m.Bounded) (hserved : m.halted = false → ∃ due, (pollTimer.exec m).1 = .ok due) :
    Follows m ((step host).exec m) (m.timeless.step m.given) := by
  cases hhalted : m.halted with
  | true =>
    have hstill : m.timeless.halted = true := hhalted
    rw [exec_step_of_halted host hhalted, Timeless.step, if_pos hstill]
    exact .of_same rfl rfl rfl rfl rfl
  | false =>
    obtain ⟨due, hdue⟩ := hserved hhalted
    have hticked := ticked_serviceTimers host m
    have hrunning := halted_serviceTimers hhalts m hhalted
    have hbounded := bounded_serviceTimers host m hb
    have h := stepped_step host hb hhalted
    -- the timers are serviced first, which is nothing to the machine without time; then the cases are
    -- those of a wait and of an instruction
    generalize (step host).exec m = out at h ⊢
    cases h with
    | unserviced service =>
      have hmay := serviceTimers_of_poll_ok host hdue (congrArg Prod.fst service)
      exact absurd hfails hmay.2
    | polled service wait =>
      rw [service] at hticked hrunning
      exact (follows_pollKeys hfails hhalts hrunning wait).of_ticked hticked (hrunning.trans hhalted.symm)
    | ran service wait ran =>
      rw [service] at hticked hrunning hbounded
      exact (ran.follows hfails hhalts hbounded hrunning wait).of_ticked hticked
        (hrunning.trans hhalted.symm)

end Machine

/-! ## Runs

Between the steps of a run nothing happens to the machine without time, so a run of turns is a run of its
steps. The induction is on the turns. -/

namespace Timeless

/-- What one step after another comes to. -/
def outcomes : List Given → Timeless s → List (Outcome s)
  | [], _ => []
  | g :: gs, c => c.step g :: outcomes gs (c.step g).left

/-- The machine that one step after another leaves. -/
def after (gs : List Given) (c : Timeless s) : Timeless s := gs.foldl (fun c g => (c.step g).left) c

end Timeless

namespace Turn

variable [Seconds τ] [Clock κ τ] {host : Host s}

/-- What the steps of a run are given. -/
def givens (host : Host s) (xs : List (Turn κ)) (m : Machine κ τ s) : List Given :=
  (steps host xs m).map Machine.given

/-- What the steps of a run answer. -/
def answers (host : Host s) (xs : List (Turn κ)) (m : Machine κ τ s) : List (Except Failure Unit) :=
  (steps host xs m).map fun u => ((Machine.step host).exec u).1

/-- A run that is not restarted, among listeners that neither fail nor halt the machine, and in which the
    periods that are due at a step always have a number. -/
structure Undisturbed (host : Host s) (xs : List (Turn κ)) (m : Machine κ τ s) : Prop where
  fails : host.NeverFails
  halts : host.NeverHalts
  restarts : ∀ x ∈ xs, x.kind ≠ .restart
  served : ∀ u ∈ steps host xs m, u.halted = false → ∃ due, (Machine.pollTimer.exec u).1 = .ok due

/-- What a run comes to is, but for the time, what steps of the machine without time come to. -/
structure Follows (host : Host s) (xs : List (Turn κ)) (m : Machine κ τ s) : Prop where
  answers : answers host xs m = (m.timeless.outcomes (givens host xs m)).map (·.answer)
  words : completedWords host xs m = (m.timeless.outcomes (givens host xs m)).filterMap (·.word)
  left : (afterAll host xs m).timeless = m.timeless.after (givens host xs m)
  shown : (afterAll host xs m).shown =
    ((m.timeless.outcomes (givens host xs m)).map (·.shown)).reverse.flatten ++ m.shown

theorem steps_of_ne {x : Turn κ} (hx : x.kind ≠ .step) (host : Host s) (xs : List (Turn κ))
    (m : Machine κ τ s) : steps host (x :: xs) m = steps host xs (x.after host m) := by
  rw [steps, if_neg hx]

theorem steps_step (host : Host s) (xs : List (Turn κ)) (m : Machine κ τ s) :
    steps host (step :: xs) m = m :: steps host xs (step.after host m) := by
  rw [steps, if_pos kind_step]

/-- What leaves a run undisturbed leaves the rest of it undisturbed. -/
theorem Undisturbed.tail {x : Turn κ} {xs : List (Turn κ)} {m : Machine κ τ s}
    (h : Undisturbed host (x :: xs) m) : Undisturbed host xs (x.after host m) := by
  refine ⟨h.fails, h.halts, fun y hy => h.restarts y (List.mem_cons_of_mem _ hy), fun u hu => ?_⟩
  refine h.served u ?_
  by_cases hx : x.kind = .step
  · obtain rfl := eq_step_of_kind hx
    rw [steps_step]
    exact List.mem_cons_of_mem _ hu
  · rw [steps_of_ne hx]
    exact hu

/-- In exact time the periods that are due always have a number. -/
theorem Undisturbed.of_exactTime [ExactTime τ] (hfails : host.NeverFails) (hhalts : host.NeverHalts)
    {xs : List (Turn κ)} (hxs : ∀ x ∈ xs, x.kind ≠ .restart) {m : Machine κ τ s} :
    Undisturbed host xs m :=
  ⟨hfails, hhalts, hxs, fun u _ _ => u.pollTimer_ok⟩

/-- A turn that is no step and restarts nothing changes the time only. -/
theorem timeless_after (hhalts : host.NeverHalts) {x : Turn κ} (hstep : x.kind ≠ .step)
    (hrestart : x.kind ≠ .restart) (m : Machine κ τ s) :
    (x.after host m).timeless = m.timeless ∧ (x.after host m).shown = m.shown := by
  cases hx : x.kind with
  | step => exact absurd hx hstep
  | restart => exact absurd hx hrestart
  | tick =>
    have hticked := ticked_after host hx m
    -- a tone that goes off is told of, and a listener could halt the machine: here it does not
    have hhalted : (x.after host m).halted = m.halted := by
      cases x with
      | call c single =>
        cases c with
        | tick => exact Machine.halted_tick hhalts m rfl
        | _ => cases hx
      | service => exact Machine.halted_serviceTimers hhalts m rfl
      | _ => cases hx
    exact ⟨hticked.timeless_eq hhalted, hticked.shown_eq⟩
  | aside =>
    have haside := aside_after host hx m
    exact ⟨haside.timeless_eq, haside.shown_eq⟩

/-- Turns between the steps add nothing to what a run comes to. -/
theorem Follows.cons_of_ne {x : Turn κ} (hx : x.kind ≠ .step) {xs : List (Turn κ)} {m : Machine κ τ s}
    (hleft : (x.after host m).timeless = m.timeless) (hshown : (x.after host m).shown = m.shown)
    (h : Follows host xs (x.after host m)) : Follows host (x :: xs) m := by
  have hsteps := steps_of_ne hx host xs m
  refine ⟨?_, ?_, ?_, ?_⟩
  · rw [Turn.answers, givens, hsteps, ← hleft]
    exact h.answers
  · rw [completedWords, completed_of_ne hx, givens, hsteps, ← hleft]
    exact h.words
  · rw [givens, hsteps, ← hleft]
    exact h.left
  · rw [givens, hsteps, ← hleft, ← hshown]
    exact h.shown

/-- The first of the outcomes is that of the first step. -/
theorem outcomes_step (xs : List (Turn κ)) {m : Machine κ τ s}
    (hleft : (step.after host m).timeless = (m.timeless.step m.given).left) :
    m.timeless.outcomes (givens host (step :: xs) m) =
      m.timeless.step m.given ::
        (step.after host m).timeless.outcomes (givens host xs (step.after host m)) := by
  rw [hleft, givens, steps_step, List.map_cons, Timeless.outcomes]
  rfl

/-- A step adds its outcome to what a run comes to. -/
theorem Follows.cons_step {xs : List (Turn κ)} {m : Machine κ τ s}
    (hstep : Machine.Follows m ((Machine.step host).exec m) (m.timeless.step m.given))
    (hdelay : (m.timeless.step m.given).ReadsNoTimer) (h : Follows host xs (step.after host m)) :
    Follows host (step :: xs) m := by
  have hsteps := steps_step host xs m
  have hleft : (step.after host m).timeless = (m.timeless.step m.given).left := hstep.left hdelay
  -- the outcome is put in front; that of the turns that follow is taken from the machine that the step
  -- left
  have houtcomes := outcomes_step xs hleft
  refine ⟨?_, ?_, ?_, ?_⟩
  · rw [houtcomes, List.map_cons, ← h.answers, Turn.answers, hsteps, List.map_cons, hstep.answer]
    rfl
  · have hword : m.completed host = (m.timeless.step m.given).word := hstep.word
    rw [houtcomes, List.filterMap_cons, ← h.words, completedWords, completed_step, hword]
    cases (m.timeless.step m.given).word with
    | none => rfl
    | some w => rfl
  · rw [givens, hsteps, List.map_cons, Timeless.after, List.foldl_cons, ← hleft]
    exact h.left
  · have hshown : (step.after host m).shown = (m.timeless.step m.given).shown ++ m.shown :=
      hstep.shown hdelay
    rw [houtcomes, List.map_cons, List.reverse_cons, List.flatten_append, List.append_assoc,
      List.flatten_singleton, ← hshown]
    exact h.shown

/-- A run is, but for the time, the run of the machine without time that is given the same, as long as
    one of the two never reads the delay timer. -/
theorem follows_afterAll {xs : List (Turn κ)} {m : Machine κ τ s} (h : Undisturbed host xs m)
    (hb : m.Bounded)
    (hdelay : (∀ w ∈ completedWords host xs m, ¬w.Misc 0x07) ∨
      ∀ o ∈ m.timeless.outcomes (givens host xs m), o.ReadsNoTimer) : Follows host xs m := by
  induction xs generalizing m with
  | nil => exact ⟨rfl, rfl, rfl, rfl⟩
  | cons x xs ih =>
    have hbounded := x.bounded_after host hb
    by_cases hx : x.kind = .step
    · obtain rfl := eq_step_of_kind hx
      have hserved := h.served m (by rw [steps_step]; exact List.mem_cons_self)
      have hstep := Machine.follows_step h.fails h.halts hb hserved
      -- the two machines complete the same word now, so it does not matter which one the hypothesis is on
      have hhead : (m.timeless.step m.given).ReadsNoTimer := by
        rcases hdelay with hdelay | hdelay
        · intro w hw
          refine hdelay w (List.mem_append_left _ ?_)
          have hword : m.completed host = (m.timeless.step m.given).word := hstep.word
          rw [completed_step, hword, hw]
          exact List.mem_singleton_self w
        · refine hdelay _ ?_
          rw [givens, steps_step]
          exact List.mem_cons_self
      have houtcomes := outcomes_step xs (hstep.left hhead)
      refine .cons_step hstep hhead (ih h.tail hbounded ?_)
      rcases hdelay with hdelay | hdelay
      · exact Or.inl fun w hw => hdelay w (List.mem_append_right _ hw)
      · rw [houtcomes] at hdelay
        exact Or.inr fun o ho => hdelay o (List.mem_cons_of_mem _ ho)
    · obtain ⟨hleft, hshown⟩ := timeless_after h.halts hx (h.restarts x List.mem_cons_self) m
      refine .cons_of_ne hx hleft hshown (ih h.tail hbounded ?_)
      rw [completedWords, completed_of_ne hx, givens, steps_of_ne hx, ← hleft] at hdelay
      exact hdelay

end Turn

/-! ## Two runs

Both runs are runs of one machine without time. Nothing is compared turn by turn, so the two may interleave
their steps with anything else. -/

namespace Machine

variable [Seconds τ] [Clock κ τ] {host : Host s}

/-- The machine when a program was just loaded. -/
def started (host : Host s) (program : Program) (m : Machine κ τ s) : Machine κ τ s :=
  Call.after host (.load program) m

theorem bounded_started (host : Host s) (program : Program) (m : Machine κ τ s) :
    (m.started host program).Bounded := by
  rw [Bounded, started, Call.after, Call.act, board_load]
  exact Registers.sound_initial

/-- Loading a program brings the rest of a machine to a state that depends on no more than the random
    bytes that are still to come. -/
theorem timeless_started (hfails : host.NeverFails) (program : Program) (m : Machine κ τ s) :
    (m.started host program).timeless =
      { board := (powered program .initial).timeless
        wait := none
        halted := false
        instructions := 0
        ahead := fun k => m.noise (m.board.draws + k) } := by
  obtain ⟨hcore, hhalted⟩ := core_load hfails program m
  show ((load host program).exec m).2.core.timeless ((load host program).exec m).2.halted = _
  rw [hcore, hhalted]
  rfl

theorem given_started (hfails : host.NeverFails) (program : Program) (m : Machine κ τ s) :
    (m.started host program).given = m.given := by
  obtain ⟨hcore, -⟩ := core_load hfails program m
  show ((load host program).exec m).2.core.given = _
  rw [hcore]
  rfl

/-- A machine whose clock moves on by a second at each reading. -/
def hurried : Machine (ManualClock Rat) Rat .standard :=
  .create ({} : Machine.Settings Rat) (⟨0, 1, 0⟩ : ManualClock Rat) fun _ => 0

end Machine

/-- Two machines, each in its own time, agree on all else. -/
structure Machine.Agree {κ' τ' : Type} (m : Machine κ τ s) (t : Machine κ' τ' s) : Prop where
  v : m.board.regs.v = t.board.regs.v
  i : m.board.regs.i = t.board.regs.i
  pc : m.board.regs.pc = t.board.regs.pc
  sp : m.board.regs.sp = t.board.regs.sp
  stack : m.board.regs.stack = t.board.regs.stack
  lastWord : m.board.regs.lastWord = t.board.regs.lastWord
  memory : m.board.memory = t.board.memory
  grid : m.board.display.grid = t.board.display.grid
  status : m.status = t.status
  wait : m.wait = t.wait
  halted : m.halted = t.halted
  instructions : m.instructions = t.instructions

/-- Machines that are the same without their time agree in all that programs see. -/
theorem Machine.agree_of_timeless {κ' τ' : Type} {m : Machine κ τ s} {t : Machine κ' τ' s}
    (h : m.timeless = t.timeless) : Agree m t := by
  have hregs : m.board.regs.untimed = t.board.regs.untimed := congrArg (·.board.regs) h
  have hwait : m.wait = t.wait := congrArg Timeless.wait h
  refine ⟨congrArg (·.v) hregs, congrArg (·.i) hregs, congrArg (·.pc) hregs, congrArg (·.sp) hregs,
    congrArg (·.stack) hregs, congrArg (·.lastWord) hregs, congrArg (·.board.memory) h,
    congrArg (·.board.display.grid) h, ?_, hwait, congrArg Timeless.halted h,
    congrArg Timeless.instructions h⟩
  rw [status, status, hwait]

namespace Turn

variable [Seconds τ] [Clock κ τ] {κ' τ' : Type} [Seconds τ'] [Clock κ' τ'] {host host' : Host s}

/-- Two runs go the same way: the machines that they leave agree, what is shown of the runs is the same,
    and so are the answers of their steps. -/
structure SameWay (host host' : Host s) (xs : List (Turn κ)) (ys : List (Turn κ')) (m : Machine κ τ s)
    (t : Machine κ' τ' s) : Prop where
  agree : Machine.Agree (afterAll host xs m) (afterAll host' ys t)
  shown : ∃ news, (afterAll host xs m).shown = news ++ m.shown ∧
    (afterAll host' ys t).shown = news ++ t.shown
  answers : answers host xs m = answers host' ys t

/-- Two runs of a program from when it was loaded go the same way, if their steps are given the same keys,
    the same strictness and the same random bytes, and one of them never completes a word that reads the
    delay timer. Their clocks, their pauses and all that happens between the steps may differ. -/
theorem sameWay_afterAll (program : Program) {m : Machine κ τ s} {t : Machine κ' τ' s}
    (hnoise : ∀ k, m.noise (m.board.draws + k) = t.noise (t.board.draws + k))
    {xs : List (Turn κ)} {ys : List (Turn κ')}
    (hxs : Undisturbed host xs (m.started host program))
    (hys : Undisturbed host' ys (t.started host' program))
    (hgiven : givens host xs (m.started host program) = givens host' ys (t.started host' program))
    (hdelay : ∀ w ∈ completedWords host xs (m.started host program), ¬w.Misc 0x07) :
    SameWay host host' xs ys (m.started host program) (t.started host' program) := by
  have hstart : (m.started host program).timeless = (t.started host' program).timeless := by
    rw [Machine.timeless_started hxs.fails, Machine.timeless_started hys.fails, funext hnoise]
  have hfirst := follows_afterAll hxs (m.bounded_started host program) (Or.inl hdelay)
  -- the second run completes the words that the first one completes
  rw [hfirst.words, hstart, hgiven] at hdelay
  have hsecond := follows_afterAll hys (t.bounded_started host' program)
    (Or.inr fun o ho w hw => hdelay w (List.mem_filterMap.mpr ⟨o, ho, hw⟩))
  refine ⟨Machine.agree_of_timeless ?_, ⟨_, hfirst.shown, ?_⟩, ?_⟩
  · rw [hfirst.left, hsecond.left, hstart, hgiven]
  · rw [hsecond.shown, hstart, hgiven]
  · rw [hfirst.answers, hsecond.answers, hstart, hgiven]

/-- Does the turn change what the steps behind it are given? -/
def gives : Turn κ → Bool
  | call (.inputKey _ _) _ | call (.inputKeys _) _ | call (.switch _ _) _ => true
  | _ => false

/-- Nothing but input and switches changes what a step is given. -/
theorem given_after (host : Host s) {x : Turn κ} (hrestart : x.kind ≠ .restart) (hgives : x.gives = false)
    {m : Machine κ τ s} (hb : m.Bounded) : (x.after host m).given = m.given := by
  -- the three calls that change the keys or the switches are excluded, and so are those that restart
  cases x with
  | service => exact (Machine.ticked_serviceTimers host m).given_eq
  | pollPace => exact congrArg Core.given (Machine.pollPace_frame host m).1
  | signal change => rfl
  | call c single =>
    cases c with
    | step => exact Machine.given_step host hb
    | tick => exact (Machine.ticked_tick host m).given_eq
    | pause => exact congrArg Core.given (Machine.pause_frame m).1
    | resume => exact congrArg Core.given (Machine.resume_frame m).1
    | elapse move => rfl
    | load program | reset => exact absurd rfl hrestart
    | inputKey key down | inputKeys changes | switch strict tracing => cases hgives
    | run look looks => cases single

/-- Without input and switches all steps are given what the first one is given. -/
theorem givens_eq_replicate (host : Host s) {xs : List (Turn κ)} (hrestart : ∀ x ∈ xs, x.kind ≠ .restart)
    (hgives : ∀ x ∈ xs, x.gives = false) {m : Machine κ τ s} (hb : m.Bounded) :
    givens host xs m = List.replicate (xs.countP (·.kind = .step)) m.given := by
  induction xs generalizing m with
  | nil => rfl
  | cons x xs ih =>
    have hrest := ih (fun y hy => hrestart y (List.mem_cons_of_mem _ hy))
      (fun y hy => hgives y (List.mem_cons_of_mem _ hy)) (bounded_after host x hb)
    have hkept := given_after host (hrestart x List.mem_cons_self) (hgives x List.mem_cons_self) hb
    rw [hkept] at hrest
    by_cases hx : x.kind = .step
    · obtain rfl := eq_step_of_kind hx
      rw [givens, steps_step, List.map_cons, ← givens, hrest, List.countP_cons_of_pos (by simp)]
      rfl
    · rw [givens, steps_of_ne hx, ← givens, hrest, List.countP_cons_of_neg (by simpa using hx)]

end Turn

/-! ## Two runs of one program

A program that counts without end. Its steps are made one after the other in one run, and with timer periods
and a pause between them in the other. -/

/-- A program that sets a register and the delay timer, and then counts for ever. -/
def counting : Program := ⟨"", [0x60, 5, 0xF0, 0x15, 0x70, 1, 0x12, 4], by decide⟩

namespace Timeless

variable {M : Memory} {k : Int} {c : Timeless s}

/-- A running machine with memory `M`, at address `k`. -/
structure At (M : Memory) (k : Int) (c : Timeless s) : Prop where
  running : c.halted = false
  awake : c.wait = none
  memory : c.board.memory = M
  pc : c.board.regs.pc = k

theorem At.step_eq (h : c.At M k) {w : Word} (hw : M.word? k = some w) (g : Given) :
    c.step g = c.execute g w :=
  step_of_word h.running h.awake (by rw [h.memory, h.pc, hw]) g

/-- The words that the program is made of, each at its address. -/
structure Counts (M : Memory) : Prop where
  set : M.word? 0x200 = some 0x6005
  delay : M.word? 0x202 = some 0xF015
  add : M.word? 0x204 = some 0x7001
  jump : M.word? 0x206 = some 0x1204

variable (hM : Counts M) (g : Given)

include hM

theorem At.add (h : c.At M 0x204) :
    (c.step g).word = some 0x7001 ∧ (c.step g).left.At M 0x206 := by
  rw [h.step_eq hM.add]
  exact ⟨rfl, h.running, h.awake, h.memory, congrArg (· + 2) h.pc⟩

/-- Five steps complete five words, the third of them twice. -/
theorem words_counting (h : c.At M 0x200) :
    (c.outcomes (List.replicate 5 g)).filterMap (·.word) = [0x6005, 0xF015, 0x7001, 0x1204, 0x7001] := by
  have hset : (c.step g).word = some 0x6005 ∧ (c.step g).left.At M 0x202 := by
    rw [h.step_eq hM.set]
    exact ⟨rfl, h.running, h.awake, h.memory, congrArg (· + 2) h.pc⟩
  obtain ⟨hset, h⟩ := hset
  have hdelay : ((c.step g).left.step g).word = some 0xF015 ∧ ((c.step g).left.step g).left.At M 0x204 := by
    rw [h.step_eq hM.delay]
    exact ⟨rfl, h.running, h.awake, h.memory, congrArg (· + 2) h.pc⟩
  obtain ⟨hdelay, h⟩ := hdelay
  obtain ⟨hadd, h⟩ := h.add hM g
  -- the jump leads back to the addition, so its step is stated for whatever machine stands before it
  have hjump (d : Timeless s) (h : d.At M 0x206) :
      (d.step g).word = some 0x1204 ∧ (d.step g).left.At M 0x204 := by
    rw [h.step_eq hM.jump]
    exact ⟨rfl, h.running, h.awake, h.memory, rfl⟩
  obtain ⟨hjump, h⟩ := hjump _ h
  obtain ⟨hagain, -⟩ := h.add hM g
  simp only [List.replicate, outcomes, List.filterMap_cons, List.filterMap_nil, hset, hdelay, hadd, hjump,
    hagain]

end Timeless

namespace Machine

variable [Seconds τ] [Clock κ τ] {host : Host s}

theorem at_started (hfails : host.NeverFails) (program : Program) (m : Machine κ τ s) :
    (m.started host program).timeless.At (m.started host program).board.memory 0x200 := by
  have htimeless := timeless_started hfails program m
  exact ⟨congrArg Timeless.halted htimeless, congrArg Timeless.wait htimeless, rfl,
    congrArg (·.board.regs.pc) htimeless⟩

/-- Loading the program puts its words at their addresses. -/
theorem counts_started (host : Host s) (m : Machine κ τ s) :
    Timeless.Counts (m.started host counting).board.memory := by
  have hword {k : Nat} (h : k + 1 < counting.bytes.length) {a : Int} (ha : a = (programStart + k : Nat))
      {w : Word} (hw : Word.ofBytes counting.bytes[k] counting.bytes[k + 1] = w) :
      (m.started host counting).board.memory.word? a = some w := by
    rw [ha, ← hw]
    exact Memory.word?_eq_some_iff.mpr (wordAt_load host counting m h)
  exact ⟨hword (k := 0) (by decide) (by decide) (by decide), hword (k := 2) (by decide) (by decide) (by decide),
    hword (k := 4) (by decide) (by decide) (by decide), hword (k := 6) (by decide) (by decide) (by decide)⟩

end Machine

namespace Turn

/-- Five steps, one after another. -/
def promptly : List (Turn (ManualClock Rat)) := [step, step, step, step, step]

/-- Five steps, with timer periods and a pause between them. -/
def slowly : List (Turn (ManualClock Rat)) :=
  [step, step, tick, pause, step, resume, tick, step, step]

/-- One machine makes the steps promptly while its clock runs, and the other slowly while its clock stands
    still. They complete five words, of which the second sets the delay timer. -/
theorem sameWay_counting :
    completedWords Host.inert promptly (Machine.hurried.started Host.inert counting) =
        [0x6005, 0xF015, 0x7001, 0x1204, 0x7001] ∧
      SameWay Host.inert Host.inert promptly slowly (Machine.hurried.started Host.inert counting)
        (Machine.still.started Host.inert counting) := by
  have hfails : (Host.inert : Host .standard).NeverFails := Host.inert_neverFails
  have hhalts : (Host.inert : Host .standard).NeverHalts := Host.inert_neverHalts
  have hhurried := Machine.core_create (s := .standard) ({} : Machine.Settings Rat)
    (⟨0, 1, 0⟩ : ManualClock Rat) fun _ => 0
  have hstill := Machine.core_create (s := .standard) ({} : Machine.Settings Rat)
    (⟨0, 0, 0⟩ : ManualClock Rat) fun _ => 0
  have hnoise (k : Nat) : Machine.hurried.noise (Machine.hurried.board.draws + k) =
      Machine.still.noise (Machine.still.board.draws + k) := by
    rw [show Machine.hurried.noise = fun _ => 0 from congrArg Core.noise hhurried,
      show Machine.still.noise = fun _ => 0 from congrArg Core.noise hstill]
  have hgiven : Machine.hurried.given = Machine.still.given := by
    show Machine.hurried.core.given = Machine.still.core.given
    rw [show Machine.hurried.core = _ from hhurried, show Machine.still.core = _ from hstill]
  have hprompt : Undisturbed Host.inert promptly (Machine.hurried.started Host.inert counting) :=
    .of_exactTime hfails hhalts (by decide)
  have hslow : Undisturbed Host.inert slowly (Machine.still.started Host.inert counting) :=
    .of_exactTime hfails hhalts (by decide)
  have hgivens := givens_eq_replicate Host.inert hprompt.restarts (by decide)
    (Machine.bounded_started Host.inert counting Machine.hurried)
  have hgivens' := givens_eq_replicate Host.inert hslow.restarts (by decide)
    (Machine.bounded_started Host.inert counting Machine.still)
  have hstarted := Machine.given_started hfails counting Machine.hurried
  have houtcomes := Timeless.words_counting (Machine.counts_started Host.inert Machine.hurried)
    Machine.hurried.given (Machine.at_started hfails counting Machine.hurried)
  have hmisc : ∀ w ∈ ([0x6005, 0xF015, 0x7001, 0x1204, 0x7001] : List Word), ¬w.Misc 0x07 := by
    simp only [List.forall_mem_cons, List.not_mem_nil, false_imp_iff, implies_true, and_true]
    decide
  have hsteps : promptly.countP (·.kind = .step) = 5 := rfl
  rw [hstarted, hsteps] at hgivens
  -- the words can be told from the machine without time, since none of them reads the delay timer
  have hfollows : Follows Host.inert promptly (Machine.hurried.started Host.inert counting) := by
    refine follows_afterAll hprompt (Machine.bounded_started _ _ _) (Or.inr fun o ho w hw => hmisc w ?_)
    rw [← houtcomes, ← hgivens]
    exact List.mem_filterMap.mpr ⟨o, ho, hw⟩
  have hwords : completedWords Host.inert promptly (Machine.hurried.started Host.inert counting) =
      [0x6005, 0xF015, 0x7001, 0x1204, 0x7001] := by
    rw [hfollows.words, hgivens]
    exact houtcomes
  refine ⟨hwords, sameWay_afterAll counting hnoise hprompt hslow ?_ ?_⟩
  · rw [hgivens, hgivens', Machine.given_started hfails, hgiven]
    rfl
  · rw [hwords]
    exact hmisc

end Turn

end Chip8
