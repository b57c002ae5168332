import Chip8.Proofs.Turns
/-!
What a machine has to do with time.

`Tempo` is the two cadences, the pause, the clock and the count of the timer periods. What is to be said of
time is said of the tempo by itself, without the rest of the machine.

1. **Operations** — only a few operations touch the tempo: pausing, resuming, starting over and polling, each
   of them on both cadences or on one. `Tempo.both` does the same with both, the one of the timers first, and
   the operations of the machine are such (`tempo_pause`, `tempo_resume`, `tempo_restarted`).

2. **Frame** — all else that a step does leaves the tempo alone, as far as listeners do (`keeps_tempo_step`);
   where no listener pauses the machine, only the service of the timers touches it (`tempo_step`).

3. **Rates** — nothing at all changes the rates of the cadences, whatever listeners do (`Turn.rates_after`,
   `Call.rates_after`). So whether a machine is throttled was settled when it was built.
-/

namespace Chip8

variable {κ τ : Type} {s : Size}

/-- The cadences, the clock, and what was counted by it. -/
structure Tempo (κ τ : Type) where
  timerCadence : Cadence τ
  pace : Option (Cadence τ)
  paused : Bool
  clock : κ
  ticks : Nat

/-- The tempo of a machine. -/
def Machine.tempo (m : Machine κ τ s) : Tempo κ τ :=
  ⟨m.timerCadence, m.pace, m.paused, m.clock, m.ticks⟩

namespace Tempo

/-- Do the same with both cadences, the one of the timers first. -/
def both (f : Cadence τ → κ → Cadence τ × κ) (T : Tempo κ τ) : Tempo κ τ :=
  let (timerCadence, clock) := f T.timerCadence T.clock
  match T.pace with
  | none => { T with timerCadence, clock }
  | some pace =>
    let (pace, clock) := f pace clock
    { T with timerCadence, pace := some pace, clock }

variable {f : Cadence τ → κ → Cadence τ × κ} {T : Tempo κ τ}

theorem timerCadence_both : (T.both f).timerCadence = (f T.timerCadence T.clock).1 := by
  unfold both
  cases T.pace <;> rfl

theorem paused_both : (T.both f).paused = T.paused := by
  unfold both
  cases T.pace <;> rfl

theorem ticks_both : (T.both f).ticks = T.ticks := by
  unfold both
  cases T.pace <;> rfl

/-- The rates of the cadences. -/
def rates (T : Tempo κ τ) : Rate τ × Option (Rate τ) := (T.timerCadence.rate, T.pace.map (·.rate))

theorem rates_both (hf : ∀ c clock, (f c clock).1.rate = c.rate) : (T.both f).rates = T.rates := by
  unfold both rates
  cases T.pace with
  | none => exact congrArg (·, none) (hf _ _)
  | some c => exact congr (congrArg Prod.mk (hf _ _)) (congrArg some (hf c _))

/-- The flag and the count are passed through. -/
theorem both_with (paused : Bool) (ticks : Nat) :
    both f { T with paused, ticks } = { T.both f with paused, ticks } := by
  unfold both
  cases T.pace <;> rfl

/-- The pace is changed as the timers are, if there is one. -/
theorem pace_both {c : Cadence τ} (h : (T.both f).pace = some c) :
    ∃ c₀ clock, T.pace = some c₀ ∧ c = (f c₀ clock).1 := by
  unfold both at h
  generalize f T.timerCadence T.clock = out at h
  obtain ⟨timerCadence, clock⟩ := out
  cases hpace : T.pace with
  | none =>
    rw [hpace] at h
    cases h
  | some c₀ =>
    rw [hpace] at h
    exact ⟨c₀, clock, rfl, (Option.some.inj h).symm⟩

/-- What every operation on a cadence keeps of the clock is kept when both cadences are operated on. -/
theorem clock_both {Q : κ → Prop} (hf : ∀ c clock, Q clock → Q (f c clock).2) (h : Q T.clock) :
    Q (T.both f).clock := by
  unfold both
  cases T.pace with
  | none => exact hf _ _ h
  | some c => exact hf _ _ (hf _ _ h)

end Tempo

variable [Seconds τ] [Clock κ τ]

/-- The periods are counted from nothing, and both cadences start over; they stand still again if the
    machine is paused. -/
def Tempo.restart (T : Tempo κ τ) : Tempo κ τ :=
  if T.paused then ({ T with ticks := 0 }.both Cadence.start).both Cadence.pause
  else { T with ticks := 0 }.both Cadence.start

/-- A restart in one equation: both cadences start and nothing has been counted, and if the machine is paused
    they are paused at once. -/
theorem Tempo.restart_eq_both (T : Tempo κ τ) :
    T.restart =
      if T.paused then { T.both Cadence.start with paused := true, ticks := 0 }.both Cadence.pause
      else { T.both Cadence.start with paused := false, ticks := 0 } := by
  have hboth : { T with ticks := 0 }.both Cadence.start =
      { T.both Cadence.start with paused := T.paused, ticks := 0 } :=
    both_with T.paused 0
  rw [restart, hboth]
  cases T.paused <;> rfl

theorem Tempo.paused_restart (T : Tempo κ τ) : T.restart.paused = T.paused := by
  unfold restart
  split
  · rw [paused_both, paused_both]
  · rw [paused_both]

/-! ## Polls

What a poll does to the clock is what reading the elapsed time does. It leaves the watch alone. -/

/-- A poll reads the clock as its watch does. -/
theorem Cadence.clock_due (c : Cadence τ) (clock : κ) : (c.due clock).2 = (c.watch.elapsed clock).2 := by
  unfold due
  dsimp only
  split <;> rfl

/-- A poll leaves the watch alone. -/
theorem Cadence.watch_due {c c' : Cadence τ} {clock : κ} {n : Int}
    (h : (c.due clock).1 = .ok (n, c')) : c'.watch = c.watch := by
  obtain ⟨consumed, rfl⟩ := eq_of_due h
  rfl

namespace Machine

/-! ## Operations on both cadences

A pause, its end and a start do the same to both cadences, one after the other. So each fact about them is
stated once, for an operation that is given. -/

theorem tempo_pause (m : Machine κ τ s) :
    m.pause.tempo = { m.tempo with paused := true }.both Cadence.pause := by
  unfold pause pauseCadences Tempo.both
  dsimp only [tempo]
  cases m.pace <;> rfl

omit [Seconds τ] in
theorem tempo_resume (m : Machine κ τ s) :
    m.resume.tempo = { m.tempo with paused := false }.both Cadence.resume := by
  unfold resume resumeCadences Tempo.both
  dsimp only [tempo]
  cases m.pace <;> rfl

theorem tempo_startCadences (m : Machine κ τ s) :
    m.startCadences.tempo = m.tempo.both Cadence.start := by
  unfold startCadences Tempo.both
  dsimp only [tempo]
  cases m.pace <;> rfl

theorem tempo_pauseCadences (m : Machine κ τ s) :
    m.pauseCadences.tempo = m.tempo.both Cadence.pause := by
  unfold pauseCadences Tempo.both
  dsimp only [tempo]
  cases m.pace <;> rfl

omit [Seconds τ] in
theorem tempo_resumeCadences (m : Machine κ τ s) :
    m.resumeCadences.tempo = m.tempo.both Cadence.resume := by
  unfold resumeCadences Tempo.both
  dsimp only [tempo]
  cases m.pace <;> rfl

/-- The tempo restarts with the machine. -/
theorem tempo_restarted (m : Machine κ τ s) : (restarted m).tempo = m.tempo.restart := by
  have hstart : (startCadences { m with
      wait := none, halted := false, instructions := 0, ticks := 0, traces := [] }).tempo =
        { m.tempo with ticks := 0 }.both Cadence.start :=
    tempo_startCadences _
  have hpaused : (startCadences { m with
      wait := none, halted := false, instructions := 0, ticks := 0, traces := [] }).paused = m.paused :=
    (congrArg Tempo.paused hstart).trans Tempo.paused_both
  unfold restarted Tempo.restart
  dsimp only
  rw [hpaused, show m.tempo.paused = m.paused from rfl]
  split
  · exact (tempo_pauseCadences _).trans (congrArg (Tempo.both Cadence.pause) hstart)
  · exact hstart

/-! ## What leaves the tempo alone

Instructions, keys, switches and traces have no time. The lemmas are about any property of tempo and signal
that listeners keep, so that requests and rates can be followed with them as well. -/

omit [Seconds τ] [Clock κ τ] in
/-- Keys do not touch the tempo. -/
theorem tempo_inputKey (key : Int) (down : Option Bool) (m : Machine κ τ s) :
    ((inputKey key down).exec m).2.tempo = m.tempo := by
  cases down with
  | none => rfl
  | some down =>
    rw [inputKey, Act.exec_get_bind]
    cases m.board.keypad.set key down <;> rfl

omit [Seconds τ] [Clock κ τ] in
theorem tempo_inputKeys (changes : List (Int × Bool)) (m : Machine κ τ s) :
    ((inputKeys changes).exec m).2.tempo = m.tempo := by
  rw [inputKeys, Act.exec_get_bind]
  cases m.board.keypad.update changes <;> rfl

variable {host : Host s}

section Keeps

variable {P : Tempo κ τ → StopSignal → Prop}
  (hemit : ∀ event, Act.Keeps (fun m : Machine κ τ s => P m.tempo m.signal) (emit host event))

omit [Seconds τ] [Clock κ τ] in
theorem keeps_tempo_onBoard {α : Type} (x : Act (Board s) α) :
    Act.Keeps (fun m : Machine κ τ s => P m.tempo m.signal) (onBoard x) := by
  intro m hm
  rw [exec_onBoard]
  exact hm

include hemit

/-- What listeners keep of the tempo, passing on an effect keeps. -/
theorem keeps_tempo_deliver (e : Effect) :
    Act.Keeps (fun m : Machine κ τ s => P m.tempo m.signal) (deliver host e) := by
  cases e with
  | quiet => exact .pure ()
  | tone on => exact hemit _
  | awaitKey x => exact .bind (.modify fun _ ht => ht) fun _ => hemit _
  | ignored w => exact .modify fun t ht => ht

theorem keeps_tempo_setTone (on : Bool) :
    Act.Keeps (fun m : Machine κ τ s => P m.tempo m.signal) (setTone host on) :=
  .bind (keeps_tempo_onBoard _) fun e => keeps_tempo_deliver hemit e

theorem keeps_tempo_announceFrame :
    Act.Keeps (fun m : Machine κ τ s => P m.tempo m.signal) (announceFrame host) :=
  .bind .get fun _ => .bind (.modify fun _ ht => ht) fun _ => .ite (hemit _) (.pure ())

theorem keeps_tempo_pollKeys (x : Fin 16) :
    Act.Keeps (fun m : Machine κ τ s => P m.tempo m.signal) (pollKeys host x) := by
  refine .bind .get fun m => ?_
  split
  · exact .pure ()
  · exact .bind (.modify fun t ht => ht) fun _ => .bind (.modify fun t ht => ht) fun _ => hemit _

/-- What listeners keep of the tempo, the attempt of an instruction keeps. -/
theorem keeps_tempo_attempt (pc : Int) (w : Word) :
    Act.Keeps (fun m : Machine κ τ s => P m.tempo m.signal) (attempt host pc w) := by
  have htrace : Act.Keeps (fun m : Machine κ τ s => P m.tempo m.signal) (traceWord host pc w) :=
    .bind .get fun m => .bind (.modify fun t ht => ht) fun _ => hemit _
  have hexecute : Act.Keeps (fun m : Machine κ τ s => P m.tempo m.signal) (executeWord host w) :=
    .bind .get fun m => .bind (keeps_tempo_onBoard _) fun e => keeps_tempo_deliver hemit e
  refine .bind .get fun m => ?_
  dsimp only
  split
  · exact .bind htrace fun _ => hexecute
  · exact hexecute

/-- An instruction touches the time only where a listener does, whatever it comes to. -/
theorem keeps_tempo_runInstruction :
    Act.Keeps (fun m : Machine κ τ s => P m.tempo m.signal) (runInstruction host) := by
  have hhalt {α : Type} (f : Fault) (pc : Int) (w : Option Word) :
      Act.Keeps (fun m : Machine κ τ s => P m.tempo m.signal) (haltWith f pc w : Act (Machine κ τ s) α) :=
    .bind (.modify fun t ht => ht) fun _ => .throw _
  rw [runInstruction_eq]
  refine .bind .get fun m => ?_
  refine .bind (.onFault (keeps_tempo_onBoard _) fun f => hhalt f _ _) fun w => ?_
  refine .bind (.onFault (keeps_tempo_attempt hemit _ w) fun f => hhalt f _ _) fun _ => ?_
  exact .bind (.modify fun t ht => ht) fun _ => keeps_tempo_announceFrame hemit

/-- A step touches the time only where a listener does and where the timers are serviced. -/
theorem keeps_tempo_step
    (hservice : Act.Keeps (fun m : Machine κ τ s => P m.tempo m.signal) (serviceTimers host)) :
    Act.Keeps (fun m : Machine κ τ s => P m.tempo m.signal) (step host) := by
  refine .bind .get fun m => .ite (.pure ()) (.bind hservice fun _ => .bind .get fun t => ?_)
  split
  · exact keeps_tempo_pollKeys hemit _
  · exact keeps_tempo_runInstruction hemit

end Keeps

/-- An event touches the time only where a listener pauses the machine. -/
theorem tempo_emit_of {event : Event s} {m : Machine κ τ s}
    (hpause : (host m.heard event).pause = false) : ((emit host event).exec m).2.tempo = m.tempo := by
  rw [exec_emit]
  generalize host m.heard event = r at hpause ⊢
  obtain ⟨log, stop, pause, halt, fail⟩ := r
  obtain rfl : pause = false := hpause
  cases stop <;> cases halt <;> rfl

section NeverPauses

variable (hpauses : host.NeverPauses)

include hpauses

theorem keeps_tempo_emit (T : Tempo κ τ) (event : Event s) :
    Act.Keeps (fun m : Machine κ τ s => m.tempo = T) (emit host event) :=
  fun m hm => (tempo_emit_of (hpauses m.heard event)).trans hm

theorem tempo_setTone (on : Bool) (m : Machine κ τ s) :
    ((setTone host on).exec m).2.tempo = m.tempo :=
  keeps_tempo_setTone (P := fun T _ => T = m.tempo) (keeps_tempo_emit hpauses m.tempo) on m rfl

theorem tempo_pollKeys (x : Fin 16) (m : Machine κ τ s) :
    ((pollKeys host x).exec m).2.tempo = m.tempo :=
  keeps_tempo_pollKeys (P := fun T _ => T = m.tempo) (keeps_tempo_emit hpauses m.tempo) x m rfl

theorem tempo_runInstruction (m : Machine κ τ s) :
    ((runInstruction host).exec m).2.tempo = m.tempo :=
  keeps_tempo_runInstruction (P := fun T _ => T = m.tempo) (keeps_tempo_emit hpauses m.tempo) m rfl

/-- Among listeners that never pause, only the service of the timers touches the time in a step. -/
theorem tempo_step {m : Machine κ τ s} (hhalted : m.halted = false) :
    (Call.step.after host m).tempo = ((serviceTimers host).exec m).2.tempo := by
  unfold Call.after Call.act
  rw [exec_step host hhalted]
  -- after the service, neither a poll of the keys nor an instruction has to do with time
  generalize (serviceTimers host).exec m = out
  obtain ⟨answer, t⟩ := out
  cases answer with
  | error e => rfl
  | ok a =>
    cases hwait : t.wait with
    | none =>
      dsimp only
      rw [hwait]
      exact tempo_runInstruction hpauses t
    | some x =>
      dsimp only
      rw [hwait]
      exact tempo_pollKeys hpauses x t

variable (hfails : host.NeverFails)

include hfails

/-- Timer periods are counted, and nothing else of the tempo changes with them. -/
theorem tempo_tickTimes (n : Nat) (m : Machine κ τ s) :
    ((tickTimes host n).exec m).2.tempo = { m.tempo with ticks := m.ticks + n } := by
  have hone (m : Machine κ τ s) :
      ((tick host).exec m).2.tempo = { m.tempo with ticks := m.ticks + 1 } := by
    have hok (on : Bool) (m : Machine κ τ s) := Act.exec_of_neverFails hfails (setTone_fails host on) m
    -- what comes after the tone was set
    have hrest (t : Machine κ τ s) :
        Machine.tempo { t.mapRegs fun r => if 0 < r.delay then { r with delay := r.delay - 1 } else r with
          ticks := t.ticks + 1 } = { t.tempo with ticks := t.tempo.ticks + 1 } := rfl
    rw [tick, Act.exec_get_bind]
    dsimp only
    split
    · rw [Act.exec_modify_bind, Act.exec_bind_of_ok (hok _ _), Act.exec_modify_bind, Act.exec_modify]
      refine (hrest _).trans ?_
      rw [tempo_setTone hpauses]
      rfl
    · rw [Act.exec_bind_of_ok (hok _ _), Act.exec_modify_bind, Act.exec_modify]
      refine (hrest _).trans ?_
      rw [tempo_setTone hpauses]
      rfl
  induction n generalizing m with
  | zero => rfl
  | succ n ih =>
    have hcount : ((tick host).exec m).2.ticks = m.ticks + 1 := congrArg Tempo.ticks (hone m)
    rw [tickTimes, Act.exec_bind_of_ok (Act.exec_of_neverFails hfails (tick_fails host) m), ih, hone,
      hcount, Nat.add_assoc, Nat.add_comm 1]

/-- Servicing the timers polls their cadence and counts the periods due. -/
theorem exec_serviceTimers_of_due {m : Machine κ τ s} {due : Int} {timerCadence : Cadence τ} {clock : κ}
    (h : m.timerCadence.due m.clock = (.ok (due, timerCadence), clock)) :
    ∃ t, (serviceTimers host).exec m = (.ok (), t) ∧
      t.tempo = { m.tempo with timerCadence, clock, ticks := m.ticks + due.toNat } := by
  have hpoll : pollTimer.exec m = (.ok due, { m with timerCadence, clock }) := by
    rw [exec_pollTimer, h]
  refine ⟨_, ?_, tempo_tickTimes hpauses hfails due.toNat { m with timerCadence, clock }⟩
  rw [serviceTimers, Act.exec_bind_of_ok hpoll]
  exact Act.exec_of_neverFails hfails (tickTimes_fails host _) _

/-- A reset restarts the tempo. -/
theorem tempo_reset (m : Machine κ τ s) : ((reset host).exec m).2.tempo = m.tempo.restart := by
  have htone := tempo_setTone hpauses false m.cleared
  rw [exec_reset_of_neverFails hfails, tempo_restarted, htone]
  rfl

/-- Loading a program restarts the tempo. -/
theorem tempo_load (program : Program) (m : Machine κ τ s) :
    ((load host program).exec m).2.tempo = m.tempo.restart := by
  obtain ⟨log, hload⟩ := after_load host program m
  rw [hload]
  exact tempo_reset hpauses hfails { m with program }

end NeverPauses

/-! ## Rates

Nothing changes the rates that the cadences were built with, whatever listeners do. -/

/-- Listeners do not change the rates, and neither does a pause that they ask for. -/
theorem keeps_rates_emit (host : Host s) (r : Rate τ × Option (Rate τ)) (event : Event s) :
    Act.Keeps (fun m : Machine κ τ s => m.tempo.rates = r) (emit host event) := by
  intro m hm
  have hpause (t : Machine κ τ s) : t.pause.tempo.rates = t.tempo.rates := by
    rw [tempo_pause]
    exact Tempo.rates_both fun _ _ => rfl
  rw [exec_emit]
  generalize host m.heard event = reaction
  obtain ⟨log, stop, pause, halt, fail⟩ := reaction
  cases pause with
  | false => cases stop <;> cases halt <;> exact hm
  | true => cases stop <;> cases halt <;> exact (hpause _).trans hm

omit [Seconds τ] [Clock κ τ] in
theorem keeps_rates_of_change {m t : Machine κ τ s} {r : Rate τ × Option (Rate τ)}
    (hm : m.tempo.rates = r) (h : TimerChange m t) : t.tempo.rates = r := by
  cases h <;> exact hm

/-- A restart does not change the rates. -/
theorem rates_restart (T : Tempo κ τ) : T.restart.rates = T.rates := by
  have hstart : ({ T with ticks := 0 }.both Cadence.start).rates = T.rates :=
    Tempo.rates_both fun _ _ => rfl
  unfold Tempo.restart
  split
  · exact (Tempo.rates_both fun _ _ => rfl).trans hstart
  · exact hstart

/-- A reset does not change the rates. -/
theorem keeps_rates_reset (host : Host s) (r : Rate τ × Option (Rate τ)) :
    Act.Keeps (fun m : Machine κ τ s => m.tempo.rates = r) (reset host) := by
  have hrestart : Act.Keeps (fun m : Machine κ τ s => m.tempo.rates = r) (restart host) := by
    have htone := keeps_tempo_setTone (P := fun T _ => T.rates = r) (keeps_rates_emit (κ := κ) host r) false
    refine .bind htone fun _ m hm => ?_
    rw [exec_restartTime, tempo_restarted, rates_restart]
    exact hm
  rw [reset_eq]
  refine .bind .get fun _ => .bind (.ofExcept _ _) fun _ => ?_
  exact .bind (.modify fun _ hm => hm) fun _ => hrestart

theorem keeps_rates_step (host : Host s) (r : Rate τ × Option (Rate τ)) :
    Act.Keeps (fun m : Machine κ τ s => m.tempo.rates = r) (step host) := by
  have hemit := keeps_rates_emit (κ := κ) host r
  have hservice := keeps_serviceTimers (fun _ => hemit _) fun _ _ => keeps_rates_of_change
  exact keeps_tempo_step (P := fun T _ => T.rates = r) hemit hservice

end Machine

/-- A turn leaves the rates as they are. -/
theorem Turn.rates_after (host : Host s) (x : Turn κ) (m : Machine κ τ s) :
    (x.after host m).tempo.rates = m.tempo.rates := by
  have hemit := Machine.keeps_rates_emit (κ := κ) host m.tempo.rates
  cases x with
  | call c single =>
    cases c with
    | step => exact Machine.keeps_rates_step host _ m rfl
    | tick => exact Machine.keeps_tick (fun _ => hemit _) (fun _ _ => Machine.keeps_rates_of_change) m rfl
    | load program =>
      obtain ⟨log, hload⟩ := Machine.after_load host program m
      have hreset := Machine.keeps_rates_reset host _ { m with program } rfl
      exact (congrArg (·.tempo.rates) hload).trans hreset
    | reset => exact Machine.keeps_rates_reset host _ m rfl
    | inputKey key down => exact congrArg Tempo.rates (Machine.tempo_inputKey key down m)
    | inputKeys changes => exact congrArg Tempo.rates (Machine.tempo_inputKeys changes m)
    | pause =>
      exact (congrArg Tempo.rates (Machine.tempo_pause m)).trans (Tempo.rates_both fun _ _ => rfl)
    | resume =>
      exact (congrArg Tempo.rates (Machine.tempo_resume m)).trans (Tempo.rates_both fun _ _ => rfl)
    | run look looks => cases single
    | switch strict tracing => rfl
    | elapse move => rfl
  | service =>
    exact Machine.keeps_serviceTimers (fun _ => hemit _) (fun _ _ => Machine.keeps_rates_of_change) m rfl
  | pollPace =>
    rw [Machine.after_pollPace]
    cases hpace : m.pace with
    | none => rfl
    | some pace =>
      dsimp only
      rw [Machine.exec_pollPace]
      generalize hdue : pace.due m.clock = out
      obtain ⟨answer, clock⟩ := out
      cases answer with
      | error e => rfl
      | ok due =>
        -- a poll changes how much was given out, and leaves the rate
        obtain ⟨consumed, hcadence⟩ := Cadence.eq_of_due (congrArg Prod.fst hdue)
        dsimp only [Machine.tempo, Tempo.rates]
        rw [hcadence, hpace]
        rfl
  | signal change => rfl

/-- Turns leave the rates as they are. -/
theorem Turn.rates_afterAll (host : Host s) (xs : List (Turn κ)) (m : Machine κ τ s) :
    (afterAll host xs m).tempo.rates = m.tempo.rates := by
  induction xs generalizing m with
  | nil => rfl
  | cons x xs ih => exact (ih (x.after host m)).trans (x.rates_after host m)

/-- A call leaves the rates as they are. -/
theorem Call.rates_after (host : Host s) (c : Call κ) (m : Machine κ τ s) :
    (c.after host m).tempo.rates = m.tempo.rates := by
  obtain ⟨xs, -, hleft⟩ := c.madeOf host m
  exact (congrArg (·.tempo.rates) hleft).trans (Turn.rates_afterAll host xs m)

/-- A machine that is not throttled stays that way, and so does one that is. -/
theorem Turn.pace_afterAll_eq_none_iff (host : Host s) (xs : List (Turn κ)) {m : Machine κ τ s} :
    (afterAll host xs m).pace = none ↔ m.pace = none := by
  have hnone (m : Machine κ τ s) : m.tempo.rates.2 = none ↔ m.pace = none := Option.map_eq_none_iff
  rw [← hnone, rates_afterAll host xs m, hnone]

end Chip8
