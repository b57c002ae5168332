import Chip8.Proofs.Reach
/-!
Two machines in step.

When two machines are compared, whatever is done to one is done to the other, and something holds between
them all the while: that they differ in their traces only, in their pasts, in the state of their clocks. The
argument is the same each time and is made once here, for a relation `R` of which little must be known.

1. **What must be known** — `Machine.Lockstep` lists it: related machines agree in what decides how an
   operation goes on (`Machine.Abreast`), and `R` is kept by the changes that operations are made of, by
   polls, by telling listeners, and by the execution of a word. Each of these is a fact about one small
   change.

2. **What follows** — `R` is kept by steps, restarts, bursts and runs, and they answer the same on both sides.
   Each proof follows the text of its operation. Where the operation reads the machine and chooses, `Abreast`
   says that both choose the same way; where it changes the machine, a field of `Lockstep` applies. The loops
   are inductions on the number of steps or of looks (`Lockstep.burst`, `Lockstep.loop`).
-/

namespace Chip8

variable {κ κ' τ : Type} {s : Size}

/-- Is the event a line of the trace? -/
def Event.isTrace : Event s → Bool
  | .traced _ => true
  | _ => false

namespace Machine

/-- Two machines agree in what decides how an operation goes on: whatever an operation reads of a machine before
    it chooses between two ways is listed here. -/
structure Abreast (m : Machine κ τ s) (t : Machine κ' τ s) : Prop where
  regs : m.board.regs = t.board.regs
  display : m.board.display = t.board.display
  keypad : m.board.keypad = t.board.keypad
  program : m.program = t.program
  wait : m.wait = t.wait
  halted : m.halted = t.halted
  paused : m.paused = t.paused
  pace : m.pace = t.pace

variable [Seconds τ] [Clock κ τ] [Clock κ' τ]

/-- A relation between two machines that is kept by what operations are made of. -/
structure Lockstep (host host' : Host s) (R : Machine κ τ s → Machine κ' τ s → Prop) : Prop where
  abreast : ∀ {m t}, R m t → Abreast m t
  /-- Any part of the boards may be changed but the number of random bytes that were taken. -/
  withBoard : ∀ {m t} (f : Board s → Board s), (∀ b draws, f { b with draws } = { f b with draws }) →
    R m t → R { m with board := f m.board } { t with board := f t.board }
  withProgram : ∀ {m t} program, R m t → R { m with program } { t with program }
  withWait : ∀ {m t} wait, R m t → R { m with wait } { t with wait }
  halt : ∀ {m t}, R m t → R { m with halted := true } { t with halted := true }
  countInstruction : ∀ {m t}, R m t →
    R { m with instructions := m.instructions + 1 } { t with instructions := t.instructions + 1 }
  countTick : ∀ {m t}, R m t → R { m with ticks := m.ticks + 1 } { t with ticks := t.ticks + 1 }
  /-- A restart clears the counts, the traces and the wait. -/
  idle : ∀ {m t}, R m t →
    R { m with wait := none, halted := false, instructions := 0, ticks := 0, traces := [] }
      { t with wait := none, halted := false, instructions := 0, ticks := 0, traces := [] }
  note : ∀ {m t} level message, R m t → R (m.note level message) (t.note level message)
  startCadences : ∀ {m t}, R m t → R m.startCadences t.startCadences
  pauseCadences : ∀ {m t}, R m t → R m.pauseCadences t.pauseCadences
  /-- The clocks may be different ones, so that they count the same periods is assumed. -/
  pollTimer : Act.Together R pollTimer pollTimer
  pollPace : ∀ pace, Act.Together R (pollPace pace) (pollPace pace)
  tone : ∀ on, Act.Together R (onBoard (Board.setTone on)) (onBoard (Board.setTone on))
  fetch : Act.Together R (onBoard Board.fetch) (onBoard Board.fetch)
  execute : ∀ w {m t}, R m t → Act.Paired R ((onBoard (Board.execute m.strict m.noise w)).exec m)
    ((onBoard (Board.execute t.strict t.noise w)).exec t)
  /-- Listeners are told the same and do the same. A line of the trace is left out, since one of the
      machines may not trace. -/
  emit : ∀ event : Event s, event.isTrace = false → Act.Together R (emit host event) (emit host' event)
  /-- A word may be traced before it is executed. -/
  attempt : ∀ pc w, Act.Together R (executeWord host w) (executeWord host' w) →
    Act.Together R (attempt host pc w) (attempt host' pc w)

namespace Lockstep

variable {host host' : Host s} {R : Machine κ τ s → Machine κ' τ s → Prop} (hR : Lockstep host host' R)

include hR

/-- The registers are a part of the board. -/
theorem withRegs (f : Registers → Registers) {m : Machine κ τ s} {t : Machine κ' τ s} (h : R m t) :
    R (m.mapRegs f) (t.mapRegs f) :=
  hR.withBoard (fun b => b.mapRegs f) (fun _ _ => rfl) h

/-! ## Keys

Input reaches the keypad, and a wrong key is refused by both machines. -/

/-- A key is set alike in both, or refused alike. -/
theorem inputKey (key : Int) (down : Option Bool) :
    Act.Together R (inputKey key down) (inputKey key down) := by
  cases down with
  | none => exact .throw _
  | some down =>
    refine .get_bind fun m t h => ?_
    rw [(hR.abreast h).keypad]
    refine Act.Together.bind (.ofExcept _ _) (fun keypad => .modify fun m t h => ?_) m t h
    exact hR.withBoard (fun b => { b with keypad }) (fun _ _ => rfl) h

theorem inputKeys (changes : List (Int × Bool)) :
    Act.Together R (inputKeys changes) (inputKeys changes) := by
  refine .get_bind fun m t h => ?_
  rw [(hR.abreast h).keypad]
  refine Act.Together.bind (.ofExcept _ _) (fun keypad => .modify fun m t h => ?_) m t h
  exact hR.withBoard (fun b => { b with keypad }) (fun _ _ => rfl) h

/-! ## Timers

Timer periods are counted by each machine with its own cadence; that the counts agree is what `pollTimer` of
the relation says. -/

theorem deliver (effect : Effect) : Act.Together R (deliver host effect) (deliver host' effect) := by
  cases effect with
  | quiet => exact .pure ()
  | tone on => exact hR.emit _ rfl
  | awaitKey x => exact .bind (.modify fun _ _ h => hR.withWait _ h) fun _ => hR.emit _ rfl
  | ignored w => exact .modify fun _ _ h => hR.note _ _ h

theorem setTone (on : Bool) : Act.Together R (setTone host on) (setTone host' on) :=
  .bind (hR.tone on) fun _ => hR.deliver _

/-- A timer period: the tone is set before the timers are counted down, and both see the same timers. -/
theorem tick : Act.Together R (tick host) (tick host') := by
  -- what is done after the tone was set, in either case
  have hrest : Act.Together R
      (do
        modify (Machine.mapRegs fun r => if 0 < r.delay then { r with delay := r.delay - 1 } else r)
        modify fun m => { m with ticks := m.ticks + 1 })
      (do
        modify (Machine.mapRegs fun r => if 0 < r.delay then { r with delay := r.delay - 1 } else r)
        modify fun m => { m with ticks := m.ticks + 1 }) :=
    .bind (.modify fun _ _ h => hR.withRegs _ h) fun _ => .modify fun _ _ h => hR.countTick h
  refine .get_bind fun m t h => ?_
  dsimp only
  rw [(hR.abreast h).regs]
  split
  · refine Act.Together.bind (.modify fun _ _ h => hR.withRegs _ h) (fun _ => ?_) m t h
    exact .bind (hR.setTone _) fun _ => hrest
  · exact Act.Together.bind (hR.setTone _) (fun _ => hrest) m t h

theorem tickTimes (n : Nat) : Act.Together R (tickTimes host n) (tickTimes host' n) := by
  induction n with
  | zero => exact .pure ()
  | succ n ih => exact .bind hR.tick fun _ => ih

theorem serviceTimers : Act.Together R (serviceTimers host) (serviceTimers host') :=
  .bind hR.pollTimer fun due => hR.tickTimes due.toNat

/-! ## Steps

A step is put together from the parts above it in the same order as the step itself is. -/

theorem pollKeys (x : Fin 16) : Act.Together R (pollKeys host x) (pollKeys host' x) := by
  refine .get_bind fun m t h => ?_
  rw [(hR.abreast h).keypad]
  cases t.board.keypad.first? with
  | none => exact ⟨rfl, h⟩
  | some key =>
    refine Act.Together.bind (.modify fun _ _ h => hR.withRegs _ h) (fun _ => ?_) m t h
    exact .bind (.modify fun _ _ h => hR.withWait _ h) fun _ => hR.emit _ rfl

/-- A fault halts both machines, with the same message. -/
theorem haltWith {α : Type} (fault : Fault) (pc : Int) (word : Option Word) :
    Act.Together R (haltWith fault pc word : Act (Machine κ τ s) α) (haltWith fault pc word) :=
  .bind (.modify fun _ _ h => hR.note _ _ (hR.halt h)) fun _ => .throw _

theorem executeWord (w : Word) : Act.Together R (executeWord host w) (executeWord host' w) := by
  refine .get_bind fun m t h => ?_
  exact (hR.execute w h).bind fun effect => hR.deliver effect

theorem announceFrame : Act.Together R (announceFrame host) (announceFrame host') := by
  refine .get_bind fun m t h => ?_
  rw [(hR.abreast h).display]
  generalize t.board.display.takeFrameReady = out
  obtain ⟨ready, display⟩ := out
  refine Act.Together.bind (.modify fun m t h => ?_) (fun _ => .ite (hR.emit _ rfl) (.pure ())) m t h
  exact hR.withBoard (fun b => { b with display }) (fun _ _ => rfl) h

/-- The two fetch the same word, and what comes of it goes together. -/
theorem runInstruction : Act.Together R (runInstruction host) (runInstruction host') := by
  rw [runInstruction_eq, runInstruction_eq]
  refine .get_bind fun m t h => ?_
  dsimp only
  rw [(hR.abreast h).regs]
  refine Act.Together.bind (.onFault hR.fetch fun f => hR.haltWith f _ _) (fun w => ?_) m t h
  have hattempt := hR.attempt t.board.regs.pc w (hR.executeWord w)
  refine .bind (.onFault hattempt fun f => hR.haltWith f _ _) fun _ => ?_
  exact .bind (.modify fun _ _ h => hR.countInstruction h) fun _ => hR.announceFrame

/-- A step: both are halted or neither, both wait or neither, and each way of the step goes together. -/
theorem step : Act.Together R (step host) (step host') := by
  refine .get_bind fun m t h => ?_
  rw [(hR.abreast h).halted]
  split
  · exact ⟨rfl, h⟩
  · refine Act.Together.bind hR.serviceTimers (fun _ => .get_bind fun u v h => ?_) m t h
    rw [(hR.abreast h).wait]
    cases v.wait with
    | none => exact hR.runInstruction u v h
    | some x => exact hR.pollKeys x u v h

/-! ## Restarts

A restart changes the board first, then switches the tone off, and at last starts the cadences again. It is
a sequence of operations that the relation is kept by. -/

/-- The cadences start again, and stand still again if the machines are paused. -/
theorem restarted {m : Machine κ τ s} {t : Machine κ' τ s} (h : R m t) : R m.restarted t.restarted := by
  have hpause {u : Machine κ τ s} {v : Machine κ' τ s} (h : R u v) :
      R (if u.paused then u.pauseCadences else u) (if v.paused then v.pauseCadences else v) := by
    rw [(hR.abreast h).paused]
    split
    · exact hR.pauseCadences h
    · exact h
  have hstarted := hpause (hR.startCadences (hR.idle h))
  unfold Machine.restarted
  dsimp only
  rw [(hR.abreast hstarted).regs, (hR.abreast hstarted).program]
  exact hR.note _ _ hstarted

theorem reset : Act.Together R (reset host) (reset host') := by
  have hrestart : Act.Together R (restart host) (restart host') := by
    refine .bind (hR.setTone _) fun _ m t h => ?_
    rw [exec_restartTime, exec_restartTime]
    exact ⟨rfl, hR.restarted h⟩
  rw [reset_eq, reset_eq]
  refine .get_bind fun m t h => ?_
  rw [(hR.abreast h).program]
  refine Act.Together.bind (.ofExcept _ _) (fun memory => ?_) m t h
  refine .bind (.modify fun m t h => ?_) fun _ => hrestart
  exact hR.withBoard (fun b => { b with memory, regs := .initial, display := .blank }) (fun _ _ => rfl) h

theorem load (program : Program) : Act.Together R (load host program) (load host' program) := by
  refine .bind (.modify fun _ _ h => hR.withProgram program h) fun _ => ?_
  exact .bind hR.reset fun _ => .modify fun _ _ h => hR.note _ _ h

/-! ## Runs

The loops, by induction on what is left of them. -/

/-- A burst ends in both at the same step, since both are halted or neither. -/
theorem burst (n : Nat) : Act.Together R (burst host n) (burst host' n) := by
  induction n with
  | zero => exact .pure ()
  | succ n ih =>
    refine .bind hR.step fun _ => .get_bind fun m t h => ?_
    rw [(hR.abreast h).halted]
    split
    · exact ⟨rfl, h⟩
    · exact ih m t h

/-- One pass of the loop: the two are paused alike, have the same pace, and count the same due steps. -/
theorem pass : Act.Together R (pass host) (pass host') := by
  refine .get_bind fun m t h => ?_
  dsimp only
  rw [(hR.abreast h).paused, (hR.abreast h).pace]
  split
  · exact ⟨rfl, h⟩
  · cases t.pace with
    | none => exact Act.Together.bind hR.step (fun _ => .pure false) m t h
    | some pace =>
      refine Act.Together.bind (hR.pollPace pace) (fun due => ?_) m t h
      split
      · exact .bind hR.serviceTimers fun _ => .pure false
      · exact .bind (hR.burst _) fun _ => .pure false

/-- The loop looks at the stop signal, so the two must be the same. -/
theorem loop {look : κ → κ} {look' : κ' → κ'} (hsignal : ∀ {m t}, R m t → m.signal = t.signal)
    (hlook : ∀ {m t} looks, R m t → R (useLook look looks m) (useLook look' looks t))
    (hwait : ∀ {m t}, R m t → R (countWait m) (countWait t)) (looks : Nat) :
    Act.Together R (loop host look looks) (loop host' look' looks) := by
  induction looks with
  | zero => exact .pure ()
  | succ looks ih =>
    refine .get_bind fun m t h => ?_
    rw [hsignal h]
    split
    · exact ⟨rfl, h⟩
    · refine Act.Together.bind (.modify fun m t h => hlook looks h) (fun _ => ?_) m t h
      refine .get_bind fun m t h => ?_
      rw [(hR.abreast h).halted]
      split
      · exact ⟨rfl, h⟩
      · -- a pass answers the same on both sides, so both wait or neither does
        refine Act.Together.bind hR.pass (fun idle => ?_) m t h
        cases idle with
        | false => exact ih
        | true => exact .bind (.modify fun m t h => hwait h) fun _ => ih

end Lockstep

end Machine

end Chip8
