import Chip8.Machine.Control
import Chip8.Machine.Run
import Chip8.Proofs.Timers
/-!
The machines that a program can meet.

A machine is built and then called: stepped, run, loaded, reset, given keys, paused and resumed, its timers
ticked, its debugging switches set, and all the while its clock goes on. `Machine.Reachable` is what any such
calls leave, whether they succeed or fail.

1. **Induction** — what a new machine has and every call keeps, all reachable machines have
   (`Reachable.invariant`). Calls are made of few parts: `keeps_call` reduces them to a step, servicing the
   timers, a timer period and a reset.

2. **Inversion** — `Stepped` lists all that a step of a running machine can come to, with what went before,
   and `AfterReset` the two ways in which a reset can end. Other modules are by cases on these.

3. **Invariant** — `Bounded`: the registers are within `Registers.Sound`. It is kept by every call whatever
   the listeners do (`bounded_call`), and holds of every reachable machine (`Reachable.bounded`).
-/

namespace Chip8

variable {κ τ : Type} {s : Size}

/-- What a host may do with a machine. -/
inductive Call (κ : Type) where
  | step
  /-- One timer period. -/
  | tick
  | load (program : Program)
  | reset
  | inputKey (key : Int) (down : Option Bool)
  | inputKeys (changes : List (Int × Bool))
  | pause
  | resume
  | run (look : κ → κ) (looks : Nat)
  /-- Set the debugging switches. -/
  | switch (strict tracing : Bool)
  /-- Let time pass. -/
  | elapse (move : κ → κ)

/-- Does the call bring the machine to its state at power-on? -/
def Call.restarts : Call κ → Bool
  | load _ | reset => true
  | _ => false

variable [Seconds τ] [Clock κ τ]

/-- What a call does. -/
def Call.act (host : Host s) : Call κ → Act (Machine κ τ s) Unit
  | step => Machine.step host
  | tick => Machine.tick host
  | load program => Machine.load host program
  | reset => Machine.reset host
  | inputKey key down => Machine.inputKey key down
  | inputKeys changes => Machine.inputKeys changes
  | pause => modify Machine.pause
  | resume => modify Machine.resume
  | run look looks => Machine.run host look looks
  | switch strict tracing => modify fun m => { m with strict, tracing }
  | elapse move => modify fun m => { m with clock := move m.clock }

/-- The machine that a call leaves, whether it succeeds or fails. -/
def Call.after (host : Host s) (c : Call κ) (m : Machine κ τ s) : Machine κ τ s :=
  ((c.act host).exec m).2

namespace Machine

/-- The machines that calls lead to. Failed calls count: a host may catch the failure and go on with the machine
    that was left. -/
inductive Reachable (host : Host s) : Machine κ τ s → Prop
  | create (settings : Settings τ) (clock : κ) (noise : Nat → UInt8) :
    Reachable host (create settings clock noise)
  | call {m : Machine κ τ s} (c : Call κ) (h : Reachable host m) : Reachable host (c.after host m)

/-- What a new machine has and every call keeps, all reachable machines have. -/
theorem Reachable.invariant {host : Host s} {P : Machine κ τ s → Prop}
    (hcreate : ∀ settings clock noise, P (Machine.create settings clock noise))
    (hcall : ∀ c : Call κ, Act.Keeps P (c.act host)) {m : Machine κ τ s} (h : Reachable host m) :
    P m := by
  induction h with
  | create settings clock noise => exact hcreate settings clock noise
  | call c _ ih => exact hcall c _ ih

/-! ## Resetting

A reset comes apart into what it does to the board, the tone that goes off, and the time that starts over. A
listener hears of the second only, so it is there that a reset can break off. -/

/-- The end of a reset, after the tone: nothing is awaited or counted any more, and the time starts
    over. -/
def restartTime : Act (Machine κ τ s) Unit := do
  modify fun m => { m with
    wait := none
    halted := false
    instructions := 0
    ticks := 0
    traces := [] }
  modify startCadences
  if (← get).paused then modify pauseCadences
  modify fun m => m.note .debug
    s!"Reset: PC=${Text.hex 4 m.board.regs.pc}, program {m.program.size} bytes"

/-- The rest of a reset, after memory, registers and display: the tone goes off, nothing is awaited or
    counted any more, and the time starts over. -/
def restart (host : Host s) : Act (Machine κ τ s) Unit := do
  setTone host false
  restartTime

theorem reset_eq (host : Host s) :
    reset host = (do
      let memory ← Act.ofExcept .fault (Memory.blank.load (← get).program.bytes)
      modify fun m =>
        { m with board := { m.board with memory, regs := .initial, display := .blank } }
      restart host : Act (Machine κ τ s) Unit) := rfl

/-- The machine after the end of a reset. -/
def restarted (m : Machine κ τ s) : Machine κ τ s :=
  let t := startCadences
    { m with wait := none, halted := false, instructions := 0, ticks := 0, traces := [] }
  let t := if t.paused then pauseCadences t else t
  t.note .debug s!"Reset: PC=${Text.hex 4 t.board.regs.pc}, program {t.program.size} bytes"

theorem exec_restartTime (m : Machine κ τ s) : restartTime.exec m = (.ok (), restarted m) := by
  rw [restartTime, Act.exec_modify_bind, Act.exec_modify_bind, Act.exec_get_bind]
  dsimp only [restarted]
  split <;> rfl

/-- Nobody hears of the end of a reset. -/
theorem restarted_frame (m : Machine κ τ s) :
    (restarted m).core = { m.core with wait := none, instructions := 0, ticks := 0, traces := [] } ∧
      (restarted m).heard = m.heard ∧ (restarted m).halted = false := by
  obtain ⟨timer, pace, clock, hstart⟩ := startCadences_eq
    { m with wait := none, halted := false, instructions := 0, ticks := 0, traces := [] }
  unfold restarted
  rw [hstart]
  dsimp only
  split
  · obtain ⟨timer', pace', clock', hpause⟩ := pauseCadences_eq (withTime
      { m with wait := none, halted := false, instructions := 0, ticks := 0, traces := [] }
      timer pace clock)
    rw [hpause]
    exact ⟨rfl, rfl, rfl⟩
  · exact ⟨rfl, rfl, rfl⟩

/-- What no change of the time and no return to the start touches, the restart of the time keeps. -/
theorem keeps_restartTime {P : Machine κ τ s → Prop}
    (hidle : ∀ m, P m → P { m with
      wait := none, halted := false, instructions := 0, ticks := 0, traces := [] })
    (htime : ∀ m t, t.core = m.core → t.halted = m.halted → P m → P t) :
    Act.Keeps P (restartTime : Act (Machine κ τ s) Unit) := by
  intro m hm
  obtain ⟨hcore, -, hhalted⟩ := restarted_frame m
  rw [exec_restartTime]
  exact htime _ _ hcore hhalted (hidle m hm)

/-- What a switch of the tone and the restart of the time keep, a restart keeps. -/
theorem keeps_restart {host : Host s} {P : Machine κ τ s → Prop}
    (htone : Act.Keeps P (setTone host false))
    (hidle : ∀ m, P m → P { m with
      wait := none, halted := false, instructions := 0, ticks := 0, traces := [] })
    (htime : ∀ m t, t.core = m.core → t.halted = m.halted → P m → P t) :
    Act.Keeps P (restart host) :=
  .bind htone fun _ => keeps_restartTime hidle htime

/-- A board at power-on: all is as in the beginning but the program, the keys, and the number of random
    bytes that were taken. -/
def powered (program : Program) (b : Board s) : Board s :=
  { b with
    memory := Memory.blank.overlay programStart program.bytes
    regs := .initial
    display := .blank
    tone := false }

/-- A machine whose board was brought to power-on, all but the tone. That is switched off after the rest, since
    listeners hear of it. -/
def cleared (m : Machine κ τ s) : Machine κ τ s :=
  { m with board := { powered m.program m.board with tone := m.board.tone } }

/-- A reset brings the board to power-on before any listener can fail. -/
theorem exec_reset (host : Host s) (m : Machine κ τ s) :
    (reset host).exec m = (restart host).exec m.cleared := by
  have hload : (Act.ofExcept .fault (Memory.blank.load m.program.bytes)).exec m =
      (.ok (Memory.blank.overlay programStart m.program.bytes), m) := by
    rw [Act.exec_ofExcept, Memory.load_of_le _ m.program.fits]
    rfl
  rw [reset_eq, Act.exec_get_bind, Act.exec_bind_of_ok hload, Act.exec_modify_bind]
  rfl

/-- The ways in which a reset ends. The board is at power-on when the tone goes off, which leaves `t`. If a
    listener fails over that the reset breaks off, and if none does the time starts over. -/
inductive AfterReset (host : Host s) (m : Machine κ τ s) : Except Failure Unit × Machine κ τ s → Prop
  | brokenOff {e : Failure} {t : Machine κ τ s} (tone : (setTone host false).exec m.cleared = (.error e, t))
    (core : t.core = { m.core with board := powered m.program m.board }) : AfterReset host m (.error e, t)
  | done {t : Machine κ τ s} (tone : (setTone host false).exec m.cleared = (.ok (), t))
    (core : t.core = { m.core with board := powered m.program m.board }) :
    AfterReset host m (.ok (), restarted t)

/-- A reset ends in one of these ways. The three parts of it are the board, the tone and the time, and only the
    second of them can fail. -/
theorem afterReset_reset (host : Host s) (m : Machine κ τ s) : AfterReset host m ((reset host).exec m) := by
  have hcore := core_setTone host false m.cleared
  rw [exec_reset, restart, Act.exec_bind]
  cases htone : (setTone host false).exec m.cleared with
  | mk answer t =>
    rw [htone] at hcore
    cases answer with
    | error e => exact .brokenOff htone hcore
    | ok a =>
      dsimp only
      rw [exec_restartTime]
      exact .done htone hcore

/-- A reset brings the board to power-on, even if a listener fails over the tone. -/
theorem board_reset (host : Host s) (m : Machine κ τ s) :
    ((reset host).exec m).2.board = powered m.program m.board := by
  have hreset := afterReset_reset host m
  generalize (reset host).exec m = out at hreset ⊢
  cases hreset with
  | brokenOff tone core => exact congrArg Core.board core
  | @done t tone core => exact (congrArg Core.board (restarted_frame t).1).trans (congrArg Core.board core)

/-- A reset comes to its end if no listener fails when the tone goes off. -/
theorem exec_reset_of_tone {host : Host s} {m t : Machine κ τ s}
    (h : (setTone host false).exec m.cleared = (.ok (), t)) :
    (reset host).exec m = (.ok (), restarted t) := by
  rw [exec_reset, restart, Act.exec_bind_of_ok h, exec_restartTime]

/-- A reset comes to its end where no listener ever fails. -/
theorem exec_reset_of_neverFails {host : Host s} (hfails : host.NeverFails) (m : Machine κ τ s) :
    (reset host).exec m = (.ok (), restarted ((setTone host false).exec m.cleared).2) :=
  exec_reset_of_tone (Act.exec_of_neverFails hfails (setTone_fails host false) _)

/-- Loading a program is a reset with it; the log grows. -/
theorem after_load (host : Host s) (program : Program) (m : Machine κ τ s) :
    ∃ log, ((load host program).exec m).2 = { ((reset host).exec { m with program }).2 with log } := by
  rw [load, Act.exec_modify_bind, Act.exec_bind]
  generalize (reset host).exec { m with program } = out
  obtain ⟨answer, t⟩ := out
  cases answer with
  | error e => exact ⟨t.log, rfl⟩
  | ok a => exact ⟨_, rfl⟩

/-- Where no listener fails a reset leaves the core at power-on. -/
theorem core_reset {host : Host s} (hfails : host.NeverFails) (m : Machine κ τ s) :
    ((reset host).exec m).2.core = { m.core with
        board := powered m.program m.board, wait := none, instructions := 0, ticks := 0, traces := [] } ∧
      ((reset host).exec m).2.halted = false := by
  have htone := core_setTone host false m.cleared
  rw [exec_reset_of_neverFails hfails]
  obtain ⟨hcore, -, hhalted⟩ := restarted_frame ((setTone host false).exec m.cleared).2
  refine ⟨?_, hhalted⟩
  dsimp only
  rw [hcore, htone]
  rfl

/-- To load a program sets everything but the time as at power-on, with that program. -/
theorem core_load {host : Host s} (hfails : host.NeverFails) (program : Program) (m : Machine κ τ s) :
    ((load host program).exec m).2.core = { m.core with
        board := powered program m.board, program := program, wait := none, instructions := 0, ticks := 0,
        traces := [] } ∧
      ((load host program).exec m).2.halted = false := by
  obtain ⟨log, hload⟩ := after_load host program m
  rw [hload]
  exact core_reset hfails { m with program }

/-- All of a new machine but the time is as at power-on, with no program. -/
theorem core_create (settings : Settings τ) (clock : κ) (noise : Nat → UInt8) :
    (create settings clock noise : Machine κ τ s).core =
      ⟨powered .empty .initial, .empty, settings.strict, false, none, 0, 0, [], noise⟩ :=
  (core_reset Host.inert_neverFails _).1

theorem board_load (host : Host s) (program : Program) (m : Machine κ τ s) :
    ((load host program).exec m).2.board = powered program m.board := by
  obtain ⟨log, hload⟩ := after_load host program m
  rw [hload]
  exact board_reset host { m with program }

/-- A new machine is at power-on. -/
theorem board_create (settings : Settings τ) (clock : κ) (noise : Nat → UInt8) :
    (create settings clock noise : Machine κ τ s).board = powered .empty .initial := by
  rw [create, board_reset]

theorem memory_load (host : Host s) (program : Program) (m : Machine κ τ s) :
    ((load host program).exec m).2.board.memory = Memory.blank.overlay programStart program.bytes := by
  rw [board_load, powered]

/-- The words of a program lie where programs start, whatever lay there before. -/
theorem wordAt_load (host : Host s) (program : Program) (m : Machine κ τ s) {k : Nat}
    (h : k + 1 < program.bytes.length) :
    ((load host program).exec m).2.board.memory.WordAt (programStart + k : Nat)
      (Word.ofBytes program.bytes[k] program.bytes[k + 1]) := by
  have hfits := program.fits
  unfold maxImageSize at hfits
  have hstart : programStart + (k + 1) < 4096 := by
    unfold programStart
    omega
  -- two neighbouring bytes of the image are at their places
  have hfirst : (Memory.blank.overlay programStart program.bytes).cells[programStart + k] =
      program.bytes[k] := Memory.cells_overlay_add _ _ (Nat.lt_of_succ_lt hstart)
  have hsecond : (Memory.blank.overlay programStart program.bytes).cells[programStart + (k + 1)] =
      program.bytes[k + 1] := Memory.cells_overlay_add _ h hstart
  rw [memory_load]
  refine ⟨programStart + k, hstart, rfl, ?_⟩
  rw [hfirst, ← hsecond]
  rfl

/-- The first word of a program is the word at the program counter of a machine that loaded it. -/
theorem wordAt_load_pc (host : Host s) (program : Program) (m : Machine κ τ s)
    (h : 1 < program.bytes.length) :
    ((load host program).exec m).2.board.memory.WordAt ((load host program).exec m).2.board.regs.pc
      (Word.ofBytes program.bytes[0] program.bytes[1]) := by
  have hpc : ((load host program).exec m).2.board.regs.pc = (programStart + 0 : Nat) := by
    rw [board_load]
    rfl
  rw [hpc]
  exact wordAt_load host program m h

/-! ## Calls that are made of others

For properties that depend on no more than the registers, the wait for a key and the halt flag. -/

section Keeps

variable {host : Host s} {P : Machine κ τ s → Prop}
  (hsame : ∀ m t, t.board.regs = m.board.regs → t.wait = m.wait → t.halted = m.halted → P m → P t)

include hsame

theorem keeps_pollPace (pace : Cadence τ) : Act.Keeps P (pollPace pace) := by
  refine .bind .get fun m => .bind (.modify fun t ht => hsame t _ rfl rfl rfl ht) fun _ => ?_
  refine .bind (.ofExcept _ _) fun p => ?_
  exact .bind (.modify fun t ht => hsame t _ rfl rfl rfl ht) fun _ => .pure _

/-- A reset is kept if its two parts are: initial registers, and then no wait and no halt. -/
theorem keeps_reset (htone : Act.Keeps P (setTone host false))
    (hinitial : ∀ m t, P m → t.board.regs = .initial → t.wait = m.wait → t.halted = m.halted → P t)
    (hidle : ∀ m t, P m → t.board.regs = m.board.regs → t.wait = none → t.halted = false → P t) :
    Act.Keeps P (reset host) := by
  refine .bind .get fun m => .bind (.ofExcept _ _) fun memory => ?_
  refine .bind (.modify fun t ht => hinitial t _ ht rfl rfl rfl) fun _ => ?_
  exact keeps_restart htone (fun t ht => hidle t _ ht rfl rfl rfl) fun t u hcore hhalted ht =>
    hsame t u (congrArg (·.board.regs) hcore) (congrArg Core.wait hcore) hhalted ht

variable (hstep : Act.Keeps P (step host)) (hservice : Act.Keeps P (serviceTimers host))

include hstep

omit hsame in
theorem keeps_burst (n : Nat) : Act.Keeps P (burst host n) := by
  induction n with
  | zero => exact .pure ()
  | succ n ih =>
    refine .bind hstep fun _ => .bind .get fun m => ?_
    exact .ite (.pure ()) ih

include hservice

/-- What a step and servicing the timers keep, a pass of the loop keeps. -/
theorem keeps_pass : Act.Keeps P (pass host) := by
  refine .bind .get fun m => .ite (.pure true) ?_
  split
  · exact .bind hstep fun _ => .pure false
  · refine .bind (keeps_pollPace hsame _) fun due => ?_
    split
    · exact .bind hservice fun _ => .pure false
    · exact .bind (keeps_burst hstep _) fun _ => .pure false

/-- What a step and servicing the timers keep, a run keeps. -/
theorem keeps_run (look : κ → κ) (looks : Nat) : Act.Keeps P (run host look looks) := by
  have hloop (looks : Nat) : Act.Keeps P (loop host look looks) := by
    induction looks with
    | zero => exact .pure ()
    | succ looks ih =>
      -- a look at the stop signal, and then a pass unless there was a stop or a halt
      refine .bind .get fun m => .ite (.pure ()) ?_
      refine .bind (.modify fun t ht => hsame t _ rfl rfl rfl ht) fun _ => .bind .get fun m => ?_
      refine .ite (.pure ()) (.bind (keeps_pass hsame hstep hservice) fun idle => ?_)
      exact .ite (.bind (.modify fun t ht => hsame t _ rfl rfl rfl ht) fun _ => ih) ih
  exact .bind (.modify fun t ht => hsame t _ rfl rfl rfl ht) fun _ => hloop looks

/-- What a step, a timer period and a reset keep, every call keeps. For most of them the reset does not
    matter. -/
theorem keeps_call (htick : Act.Keeps P (tick host)) (c : Call κ)
    (hreset : c.restarts = true → Act.Keeps P (reset host)) : Act.Keeps P (c.act host) := by
  cases c with
  | step => exact hstep
  | tick => exact htick
  | load program =>
    -- the program is installed, then the machine is reset, then the log is written
    refine .bind (.modify fun m hm => hsame m _ rfl rfl rfl hm) fun _ => .bind (hreset rfl) fun _ => ?_
    exact .modify fun m hm => hsame m _ rfl rfl rfl hm
  | reset => exact hreset rfl
  | inputKey key down =>
    cases down with
    | none => exact .throw _
    | some down =>
      refine .bind .get fun m => .bind (.ofExcept _ _) fun keypad => ?_
      exact .modify fun m hm => hsame m _ rfl rfl rfl hm
  | inputKeys changes =>
    refine .bind .get fun m => .bind (.ofExcept _ _) fun keypad => ?_
    exact .modify fun m hm => hsame m _ rfl rfl rfl hm
  | pause =>
    refine .modify fun m hm => ?_
    obtain ⟨hcore, -, hhalted⟩ := pause_frame m
    exact hsame m _ (congrArg (·.board.regs) hcore) (congrArg Core.wait hcore) hhalted hm
  | resume =>
    refine .modify fun m hm => ?_
    obtain ⟨hcore, -, hhalted⟩ := resume_frame m
    exact hsame m _ (congrArg (·.board.regs) hcore) (congrArg Core.wait hcore) hhalted hm
  | run look looks => exact keeps_run hsame hstep hservice look looks
  | switch strict tracing => exact .modify fun m hm => hsame m _ rfl rfl rfl hm
  | elapse move => exact .modify fun m hm => hsame m _ rfl rfl rfl hm

end Keeps

/-! ## The registers

The bounds of the registers are the invariant that all others are built on: that a step can fetch, push and
transfer as its cases say is true within these bounds only. -/

/-- The invariant: the registers of the machine are within their bounds. -/
def Bounded (m : Machine κ τ s) : Prop := m.board.regs.Sound

omit [Seconds τ] [Clock κ τ] in
theorem Bounded.of_regs {m t : Machine κ τ s} (hm : m.Bounded) (h : t.board.regs = m.board.regs) :
    t.Bounded := by
  unfold Bounded
  rw [h]
  exact hm

theorem bounded_emit (host : Host s) (event : Event s) :
    Act.Keeps (Bounded (κ := κ) (τ := τ)) (emit host event) := by
  intro m hm
  exact hm.of_regs (congrArg (·.board.regs) (core_emit host event m))

omit [Seconds τ] [Clock κ τ] in
/-- A change of the timers keeps them within their bounds, since only a timer that runs goes down. -/
theorem Bounded.of_change {m t : Machine κ τ s} (hm : m.Bounded) (h : TimerChange m t) :
    t.Bounded := by
  have hsound := hm.sound
  have hdelay := hm.delay
  cases h with
  | sound pos => exact hm.withSound (by omega)
  | delay pos => exact hm.withDelay (by omega)
  | _ => exact hm

/-- A machine that has fetched a word is within its bounds and stands behind the word. -/
theorem bounded_ready (host : Host s) {m : Machine κ τ s} (hm : m.Bounded) {w : Word}
    (hw : m.board.memory.WordAt m.board.regs.pc w) : (m.ready host w).Bounded ∧
      2 ≤ (m.ready host w).board.regs.pc ∧ (m.ready host w).board.regs.pc ≤ 0x1000 := by
  obtain ⟨k, hk, hpc, -⟩ := hw
  have hboard : (m.ready host w).board = m.fetched.board := board_traced host _ w m.fetched
  have hfetched : m.fetched.board.regs.pc = m.board.regs.pc + 2 := rfl
  refine ⟨Bounded.of_regs (sound_fetched hm (by omega)) (congrArg (·.regs) hboard), ?_, ?_⟩
  · rw [hboard, hfetched]
    omega
  · rw [hboard, hfetched]
    omega

/-- Whatever an instruction comes to, it leaves registers within their bounds. -/
theorem Ran.bounded {host : Host s} {m : Machine κ τ s} (hm : m.Bounded)
    {out : Except Failure Unit × Machine κ τ s} (h : Ran host m out) : out.2.Bounded := by
  -- the bounds depend on the registers alone, so effects and events need no argument of their own
  have hexecuted {w : Word} (hw : m.board.memory.WordAt m.board.regs.pc w) :
      ((m.ready host w).executed w).Bounded := by
    obtain ⟨hready, hpc⟩ := bounded_ready host hm hw
    show (Board.executed _ _ w (m.ready host w).board).regs.Sound
    rw [Board.executed_eq]
    exact Board.sound_perform (b := (m.ready host w).board.mapRegs (·.noting w))
      (hready.withLastWord w) hpc _
  have heffected {w : Word} (hw : m.board.memory.WordAt m.board.regs.pc w) :
      ((m.ready host w).effected host w).Bounded :=
    (hexecuted hw).of_regs (congrArg (·.board.regs) (core_deliver host _ _))
  cases h with
  | noWord past => exact hm
  | untraced fetched fails => exact (bounded_ready host hm fetched).1
  | fault fetched fault => exact hexecuted fetched
  | untold fetched fault fails => exact heffected fetched
  | done fetched fault =>
    rw [exec_announceFrame]
    split
    · exact bounded_emit host _ _ (heffected fetched)
    · exact heffected fetched

theorem bounded_serviceTimers (host : Host s) :
    Act.Keeps (Bounded (κ := κ) (τ := τ)) (serviceTimers host) :=
  keeps_serviceTimers (fun _ => bounded_emit host _) fun _ _ hm h => hm.of_change h

/-- A key that ends a wait changes a byte register. -/
theorem bounded_pollKeys (host : Host s) (x : Fin 16) :
    Act.Keeps (Bounded (κ := κ) (τ := τ)) (pollKeys host x) := by
  refine .bind .get fun m => ?_
  split
  · exact .pure ()
  · refine .bind (.modify fun t ht => Registers.Sound.put ht x _) fun _ => ?_
    exact .bind (.modify fun t ht => ht) fun _ => bounded_emit host _

/-- The registers stay within their bounds at every step. -/
theorem bounded_step (host : Host s) : Act.Keeps (Bounded (κ := κ) (τ := τ)) (step host) := by
  refine .bind .get fun m => .ite (.pure ()) ?_
  refine .bind (bounded_serviceTimers host) fun _ => .bind .get fun t => ?_
  split
  · exact bounded_pollKeys host _
  · exact fun u hu => (ran_runInstruction host hu).bounded hu

/-- All that a step of a running machine can come to. Proofs about steps are by cases on this and do not unfold
    the step. -/
inductive Stepped (host : Host s) (m : Machine κ τ s) : Except Failure Unit × Machine κ τ s → Prop
  /-- The timers cannot be serviced. -/
  | unserviced {e : Failure} {t : Machine κ τ s}
    (service : (serviceTimers host).exec m = (.error e, t)) : Stepped host m (.error e, t)
  /-- The machine waits for a key and looks for one. -/
  | polled {t : Machine κ τ s} (service : (serviceTimers host).exec m = (.ok (), t)) {x : Fin 16}
    (wait : t.wait = some x) : Stepped host m ((pollKeys host x).exec t)
  /-- An instruction runs. -/
  | ran {t : Machine κ τ s} (service : (serviceTimers host).exec m = (.ok (), t))
    (wait : t.wait = none) {out : Except Failure Unit × Machine κ τ s} (ran : Ran host t out) :
    Stepped host m out

/-- Every step of a running machine is one of the three. -/
theorem stepped_step (host : Host s) {m : Machine κ τ s} (hm : m.Bounded) (h : m.halted = false) :
    Stepped host m ((step host).exec m) := by
  have ht := bounded_serviceTimers host m hm
  rw [exec_step host h]
  cases hservice : (serviceTimers host).exec m with
  | mk answer t =>
    rw [hservice] at ht
    cases answer with
    | error e => exact .unserviced hservice
    | ok a =>
      -- the bounds of the machine after the service are what the analysis of the instruction needs
      cases hwait : t.wait with
      | some x =>
        simp only [hwait]
        exact .polled hservice hwait
      | none =>
        simp only [hwait]
        exact .ran hservice hwait (ran_runInstruction host ht)

theorem bounded_tick (host : Host s) : Act.Keeps (Bounded (κ := κ) (τ := τ)) (tick host) :=
  keeps_tick (fun _ => bounded_emit host _) fun _ _ hm h => hm.of_change h

/-- The registers are within their bounds after a reset, as at power-on. -/
theorem bounded_reset (host : Host s) : Act.Keeps (Bounded (κ := κ) (τ := τ)) (reset host) := by
  refine keeps_reset (fun _ _ h _ _ hm => hm.of_regs h)
    (keeps_setTone (fun _ => bounded_emit host _) (fun _ _ ht h => ht.of_change h) false) ?_
    (fun _ _ hm h _ _ => hm.of_regs h)
  intro m t _ hregs _ _
  unfold Bounded
  rw [hregs]
  exact Registers.sound_initial

/-- A new machine begins within its bounds. -/
theorem bounded_create (settings : Settings τ) (clock : κ) (noise : Nat → UInt8) :
    (create settings clock noise : Machine κ τ s).Bounded :=
  bounded_reset Host.inert _ Registers.sound_initial

/-- The registers stay within their bounds at every call, whatever the listeners do. -/
theorem bounded_call (host : Host s) (c : Call κ) : Act.Keeps (Bounded (κ := κ) (τ := τ)) (c.act host) :=
  keeps_call (fun _ _ h _ _ hm => hm.of_regs h) (bounded_step host) (bounded_serviceTimers host)
    (bounded_tick host) c fun _ => bounded_reset host

/-- The registers of every machine that calls lead to are within their bounds. -/
theorem Reachable.bounded {host : Host s} {m : Machine κ τ s} (h : Reachable host m) : m.Bounded :=
  h.invariant bounded_create (bounded_call host)

/-- A new machine on a clock set by hand, with a program loaded. -/
def loaded (program : Program) : Machine (ManualClock Rat) Rat .standard :=
  Call.after Host.inert (.load program) (create {} ⟨0, 1, 0⟩ fun _ => 0)

theorem reachable_loaded (program : Program) : Reachable Host.inert (loaded program) :=
  .call _ (.create _ _ _)

/-- The first word of the program is the word at the program counter. -/
theorem wordAt_loaded_pc (program : Program) (h : 1 < program.bytes.length) :
    (loaded program).board.memory.WordAt (loaded program).board.regs.pc
      (Word.ofBytes program.bytes[0] program.bytes[1]) :=
  wordAt_load_pc Host.inert program _ h

end Machine

end Chip8
