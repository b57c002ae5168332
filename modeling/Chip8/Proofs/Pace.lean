import Chip8.Proofs.Traces
import Chip8.Proofs.Uptime
/-!
The pace of a throttled machine.

Where listeners may pause the machine its tempo can change at any event, in the middle of a burst of steps.
That each due step is made once must not depend on when they do.

1. **Reduction** — the tempo changes in one way only. `Tempo.still` is the tempo that a pause leaves, a second
   pause changes nothing (`still_still`), and so all that a step does after its poll of the timers is to count
   periods and perhaps to bring the tempo to a standstill (`Tempo.Touched`, `Machine.touched_step`).

2. **Invariant** — `Tempo.Paced`: the pace agrees with a timeline of its own readings, and has given out the
   periods up to its latest poll. It passes through pauses, resumptions and restarts (`touched`, `resume`,
   `Tempo.paced_restart`). The clock is read for the timers before it is read for the pace, so the timeline is
   written with the second of two readings.

3. **Polls** — `Tempo.Paced.due_eq` tells what the next poll finds: the periods of the running time, less
   those that were given out.
-/

namespace Chip8

variable {κ τ : Type} {s : Size}

/-! ## Pauses in between

A pause may come at any moment from a listener, between two timer periods of one service. So what a turn
leaves of a tempo is known only up to counted periods and at most one pause, which is what `Touched` says. -/

section Touched

variable [Seconds τ] [Clock κ τ]

/-- A cadence that stands still is not read by another pause. -/
theorem Cadence.pause_pause (c : Cadence τ) (clock clock' : κ) :
    (c.pause clock).1.pause clock' = ((c.pause clock).1, clock') := by
  obtain ⟨rate, ⟨startedAt, accumulated⟩, consumed⟩ := c
  cases startedAt <;> rfl

namespace Tempo

variable {T U : Tempo κ τ}

/-- The tempo that a pause leaves: both cadences stand still. -/
def still (T : Tempo κ τ) : Tempo κ τ := { T with paused := true }.both Cadence.pause

@[simp] theorem paused_still : T.still.paused = true := paused_both

/-- A second pause changes nothing, and reads no clock. -/
theorem still_still (T : Tempo κ τ) : T.still.still = T.still := by
  obtain ⟨timerCadence, pace, paused, clock, ticks⟩ := T
  cases pace with
  | none => simp only [still, both, Cadence.pause_pause]
  | some c => simp only [still, both, Cadence.pause_pause]

theorem still_with (ticks : Nat) : still { T with ticks } = { T.still with ticks } := by
  unfold still both
  cases T.pace <;> rfl

/-- Nothing happened to the tempo but that periods were counted and the machine was paused. -/
def Touched (T U : Tempo κ τ) : Prop := ∃ ticks, U = { T with ticks } ∨ U = { T.still with ticks }

theorem Touched.refl (T : Tempo κ τ) : T.Touched T := ⟨T.ticks, Or.inl rfl⟩

theorem Touched.pause (h : T.Touched U) : T.Touched U.still := by
  obtain ⟨ticks, rfl | rfl⟩ := h
  · exact ⟨ticks, Or.inr (still_with ticks)⟩
  · refine ⟨ticks, Or.inr ?_⟩
    rw [still_with, still_still]

theorem Touched.period (h : T.Touched U) (n : Nat) : T.Touched { U with ticks := n } := by
  obtain ⟨ticks, rfl | rfl⟩ := h
  · exact ⟨n, Or.inl rfl⟩
  · exact ⟨n, Or.inr rfl⟩

end Tempo

namespace Machine

variable {host : Host s} {T : Tempo κ τ}

section Keeps

variable {P : Tempo κ τ → StopSignal → Prop}
  (hemit : ∀ event, Act.Keeps (fun m : Machine κ τ s => P m.tempo m.signal) (emit host event))
  (hperiod : ∀ T signal n, P T signal → P { T with ticks := n } signal)

include hemit hperiod

theorem keeps_tempo_tick : Act.Keeps (fun m : Machine κ τ s => P m.tempo m.signal) (tick host) := by
  have hrest (on : Bool) : Act.Keeps (fun m : Machine κ τ s => P m.tempo m.signal) (do
      setTone host on
      modify (mapRegs fun r => if 0 < r.delay then { r with delay := r.delay - 1 } else r)
      modify fun m => { m with ticks := m.ticks + 1 }) :=
    .bind (keeps_tempo_setTone hemit on) fun _ =>
      .bind (.modify fun _ hm => hm) fun _ => .modify fun m hm => hperiod m.tempo m.signal _ hm
  refine .bind .get fun m => ?_
  dsimp only
  split
  · exact .bind (.modify fun _ hm => hm) fun _ => hrest _
  · exact hrest false

theorem keeps_tempo_tickTimes (n : Nat) :
    Act.Keeps (fun m : Machine κ τ s => P m.tempo m.signal) (tickTimes host n) := by
  induction n with
  | zero => exact .pure ()
  | succ n ih => exact .bind (keeps_tempo_tick hemit hperiod) fun _ => ih

end Keeps

/-- An event lets a listener pause the machine. -/
theorem keeps_touched_emit (event : Event s) :
    Act.Keeps (fun m : Machine κ τ s => T.Touched m.tempo) (emit host event) := by
  intro m hm
  have hpause (t : Machine κ τ s) (ht : T.Touched t.tempo) : T.Touched t.pause.tempo := by
    rw [tempo_pause]
    exact ht.pause
  rw [exec_emit]
  generalize host m.heard event = reaction
  obtain ⟨log, stop, pause, halt, fail⟩ := reaction
  cases pause with
  | false => cases stop <;> cases halt <;> exact hm
  | true => cases stop <;> cases halt <;> exact hpause _ hm

/-- A service of the timers polls them, and then periods pass and listeners hear of the tone. -/
theorem touched_serviceTimers (host : Host s) (m : Machine κ τ s) :
    (pollTimer.exec m).2.tempo.Touched ((serviceTimers host).exec m).2.tempo := by
  have hticks (n : Nat) : Act.Keeps (fun t : Machine κ τ s => (pollTimer.exec m).2.tempo.Touched t.tempo)
      (tickTimes host n) :=
    keeps_tempo_tickTimes (P := fun T _ => (pollTimer.exec m).2.tempo.Touched T) keeps_touched_emit
      (fun _ _ _ h => h.period _) n
  rw [serviceTimers, Act.exec_bind]
  generalize pollTimer.exec m = out at hticks ⊢
  obtain ⟨answer, t⟩ := out
  cases answer with
  | error e => exact .refl t.tempo
  | ok due => exact hticks due.toNat t (.refl t.tempo)

/-- What a step does to the tempo after its poll of the timers is to count periods, and listeners may pause. -/
theorem touched_step (host : Host s) {m : Machine κ τ s} (hhalted : m.halted = false) :
    (pollTimer.exec m).2.tempo.Touched (Call.step.after host m).tempo := by
  have hservice := touched_serviceTimers host m
  -- after the service only events reach the tempo, and what a listener does to it is to pause
  have hemit (event : Event s) : Act.Keeps
      (fun t : Machine κ τ s => (pollTimer.exec m).2.tempo.Touched t.tempo) (emit host event) :=
    keeps_touched_emit event
  unfold Call.after Call.act
  rw [exec_step host hhalted]
  generalize (serviceTimers host).exec m = out at hservice ⊢
  obtain ⟨answer, t⟩ := out
  cases answer with
  | error e => exact hservice
  | ok a =>
    cases hwait : t.wait with
    | none =>
      dsimp only
      rw [hwait]
      exact keeps_tempo_runInstruction (P := fun T _ => (pollTimer.exec m).2.tempo.Touched T) hemit t hservice
    | some x =>
      dsimp only
      rw [hwait]
      exact keeps_tempo_pollKeys (P := fun T _ => (pollTimer.exec m).2.tempo.Touched T) hemit x t hservice

/-- A reset turns the tone off, at which a listener may pause, and then restarts the tempo. -/
theorem touched_reset (hfails : host.NeverFails) (m : Machine κ τ s) :
    ∃ T, m.tempo.Touched T ∧ ((reset host).exec m).2.tempo = T.restart := by
  refine ⟨_, ?_, by rw [exec_reset_of_neverFails hfails, tempo_restarted]⟩
  exact keeps_tempo_setTone (P := fun T _ => m.tempo.Touched T) keeps_touched_emit false _ (.refl m.tempo)

/-- Loading a program restarts the tempo as a reset does. -/
theorem touched_load (hfails : host.NeverFails) (program : Program) (m : Machine κ τ s) :
    ∃ T, m.tempo.Touched T ∧ ((load host program).exec m).2.tempo = T.restart := by
  obtain ⟨log, hload⟩ := after_load host program m
  rw [hload]
  exact touched_reset hfails { m with program }

end Machine

end Touched

/-! ## Rates

A rate that a cadence is made with is above zero. -/

theorem Rate.value_pos {rate : Rate Rat} (h : Seconds.isPositive rate = true) : 0 < rate.value := by
  cases rate with
  | whole n =>
    have hn : 0 < n := of_decide_eq_true h
    exact Int.cast_pos.mpr hn
  | real x => exact of_decide_eq_true h
  | flag b =>
    obtain rfl : b = true := h
    exact one_pos

/-! ## A pace that agrees with a timeline

The invariant is for the pace alone. The periods of the timers are not followed, but their watch is stopped
and started together with that of the pace and reads the clock first, so whether it runs has to be known. -/

open Clock (now next Steady From)

section Both

variable {f : Cadence τ → κ → Cadence τ × κ} {T : Tempo κ τ} {c : Cadence τ}

/-- The second of two cadences is changed after the first. -/
theorem Tempo.pace_both_of_some (h : T.pace = some c) :
    (T.both f).pace = some (f c (f T.timerCadence T.clock).2).1 := by
  unfold both
  rw [h]

theorem Tempo.clock_both_of_some (h : T.pace = some c) :
    (T.both f).clock = (f c (f T.timerCadence T.clock).2).2 := by
  unfold both
  rw [h]

end Both

variable [Clock κ Rat]

theorem Stopwatch.running_ofTimeline (line : Timeline) :
    (ofTimeline line).running = !line.since.isNone := by
  unfold running ofTimeline
  cases line.since <;> rfl

/-- Stopping a running watch reads the clock once. -/
theorem Stopwatch.clock_stop_of_running {w : Stopwatch Rat} (h : w.running = true) (clock : κ) :
    (w.stop clock).2 = next clock := by
  obtain ⟨_ | began, accumulated⟩ := w
  · cases h
  · rfl

/-- Starting a watch that stands still reads the clock once. -/
theorem Stopwatch.clock_start_of_not_running {w : Stopwatch Rat} (h : w.running = false) (clock : κ) :
    (w.start clock).2 = next clock := by
  obtain ⟨_ | began, accumulated⟩ := w
  · rfl
  · cases h

/-- The invariant: the pace agrees with a timeline of its readings, and gave out the periods of the time
    `polled`. The timers run when the pace does, so that pausing and resuming reads the clock for them first. -/
structure Tempo.Paced (T : Tempo κ Rat) (rate : Rate Rat) (line : Timeline) (polled : Rat) : Prop where
  pace : T.pace = some ⟨rate, .ofTimeline line, ⌊rate.value * polled⌋⟩
  timer : T.timerCadence.watch.running = !T.paused
  paused : T.paused = line.since.isNone
  nonneg : 0 ≤ polled
  polled : polled ≤ line.total (now T.clock)
  steady : Steady T.clock

namespace Tempo.Paced

variable {T U : Tempo κ Rat} {rate : Rate Rat} {line : Timeline} {polled : Rat}

/-- The timers may be polled and their periods counted, and the clock may go on. -/
theorem onward (h : T.Paced rate line polled) (hpace : U.pace = T.pace) (hpaused : U.paused = T.paused)
    (htimer : U.timerCadence.watch = T.timerCadence.watch) (hclock : From (now T.clock) U.clock) :
    U.Paced rate line polled := by
  refine ⟨hpace.trans h.pace, ?_, hpaused.trans h.paused, h.nonneg, ?_, hclock.1⟩
  · rw [htimer, hpaused]
    exact h.timer
  · exact h.polled.trans (line.total_mono hclock.2)

/-- The clock, after both watches were read if the machine was not paused. -/
theorem clock_still (h : T.Paced rate line polled) :
    T.still.clock = if T.paused then T.clock else next (next T.clock) := by
  have htimer := h.timer
  rw [still, clock_both_of_some (T := { T with paused := true }) h.pace]
  dsimp only [Cadence.pause]
  -- both watches run or neither does, so that the clock is read twice or not at all
  cases hpaused : T.paused with
  | true =>
    have hsince : (Stopwatch.ofTimeline line).running = false := by
      rw [Stopwatch.running_ofTimeline, ← h.paused, hpaused]
      rfl
    rw [hpaused] at htimer
    rw [Stopwatch.stop_of_not_running _ _ htimer, Stopwatch.stop_of_not_running _ _ hsince]
    rfl
  | false =>
    have hsince : (Stopwatch.ofTimeline line).running = true := by
      rw [Stopwatch.running_ofTimeline, ← h.paused, hpaused]
      rfl
    rw [hpaused] at htimer
    rw [Stopwatch.clock_stop_of_running htimer, Stopwatch.clock_stop_of_running hsince]
    rfl

theorem pause_of_paused (h : T.Paced rate line polled) (hpaused : T.paused = true) (reading : Rat) :
    line.pause reading = line := by
  have hsince : line.since = none := by
    rw [← Option.isNone_iff_eq_none, ← h.paused]
    exact hpaused
  rw [Timeline.pause, hsince]

/-- The timeline of a paused machine stands still already. -/
theorem pause_if_paused (h : T.Paced rate line polled) (reading : Rat) :
    (if T.paused then line.pause reading else line) = line := by
  split
  · next hpaused => exact h.pause_of_paused hpaused reading
  · rfl

theorem resume_of_running (h : T.Paced rate line polled) (hpaused : T.paused = false) (reading : Rat) :
    line.resume reading = line := by
  have hsince : line.since.isNone = false := by
    rw [← h.paused]
    exact hpaused
  obtain ⟨past, _ | began⟩ := line
  · cases hsince
  · rfl

/-- A pause reads the clock for the pace after it did for the timers. -/
theorem still (h : T.Paced rate line polled) :
    T.still.Paced rate (line.pause (now (next T.clock))) polled := by
  have hclock : From (now T.clock) T.still.clock :=
    clock_both (fun _ _ h => Stopwatch.from_stop h) h.steady.from_now
  have hrunning : (line.pause (now (next T.clock))).since = none := by
    unfold Timeline.pause
    cases hsince : line.since with
    | none => exact hsince
    | some began => rfl
  refine ⟨?_, ?_, ?_, h.nonneg, ?_, hclock.1⟩
  · rw [Tempo.still, pace_both_of_some (T := { T with paused := true }) h.pace]
    dsimp only [Cadence.pause]
    rw [Stopwatch.stop_ofTimeline]
    -- the timers stop first and read the clock before the pace does, but only if they run
    cases hpaused : T.paused with
    | true => rw [h.pause_of_paused hpaused, h.pause_of_paused hpaused]
    | false =>
      have htimer := h.timer
      rw [hpaused] at htimer
      rw [Stopwatch.clock_stop_of_running htimer]
  · rw [paused_still, Tempo.still, timerCadence_both]
    exact Stopwatch.running_stop _ _
  · rw [paused_still, hrunning]
    rfl
  · exact h.polled.trans (line.total_le_pause h.steady.now_le _)

/-- The pace is read if the tempo was not touched by a pause before. -/
theorem touched (h : T.Paced rate line polled) (hU : T.Touched U) :
    U.Paced rate (if U.paused then line.pause (now (next T.clock)) else line) polled := by
  obtain ⟨ticks, rfl | rfl⟩ := hU
  · show { T with ticks }.Paced rate (if T.paused then line.pause (now (next T.clock)) else line) polled
    rw [h.pause_if_paused]
    exact h.onward rfl rfl rfl h.steady.from_now
  · have hstill := h.still
    rw [if_pos paused_still]
    exact hstill.onward rfl rfl rfl hstill.steady.from_now

/-- A pause takes two readings, if the machine was not paused before. -/
theorem clock_touched (h : T.Paced rate line polled) (hU : T.Touched U) :
    U.clock = if !T.paused && U.paused then next (next T.clock) else T.clock := by
  obtain ⟨ticks, rfl | rfl⟩ := hU
  · cases T.paused <;> rfl
  · show T.still.clock = if !T.paused && T.still.paused then next (next T.clock) else T.clock
    rw [h.clock_still, paused_still]
    cases T.paused <;> rfl

/-- A resumption reads the clock for the pace after it did for the timers. -/
theorem resume (h : T.Paced rate line polled) :
    ({ T with paused := false }.both Cadence.resume).Paced rate (line.resume (now (next T.clock)))
      polled := by
  have hclock : From (now T.clock) ({ T with paused := false }.both Cadence.resume).clock :=
    clock_both (fun _ _ h => Stopwatch.from_start h) h.steady.from_now
  have htimer := h.timer
  have hpace := pace_both_of_some (f := Cadence.resume) (T := { T with paused := false }) h.pace
  have hend := clock_both_of_some (f := Cadence.resume) (T := { T with paused := false }) h.pace
  dsimp only [Cadence.resume] at hpace hend
  rw [Stopwatch.start_ofTimeline] at hpace
  have hrunning : (line.resume (now (next T.clock))).since.isNone = false := by
    unfold Timeline.resume
    cases hsince : line.since <;> simp [hsince]
  refine ⟨hpace.trans ?_, ?_, ?_, h.nonneg, ?_, hclock.1⟩
  · cases hpaused : T.paused with
    | true =>
      rw [hpaused] at htimer
      rw [Stopwatch.clock_start_of_not_running htimer]
    | false =>
      rw [h.resume_of_running hpaused, h.resume_of_running hpaused]
  · rw [paused_both, timerCadence_both]
    exact Stopwatch.running_start _ _
  · rw [paused_both, hrunning]
  · cases hpaused : T.paused with
    | true =>
      -- both watches are read, the one of the pace last
      have hsince : (Stopwatch.ofTimeline line).running = false := by
        rw [Stopwatch.running_ofTimeline, ← h.paused, hpaused]
        rfl
      rw [hpaused] at htimer
      rw [Stopwatch.clock_start_of_not_running htimer, Stopwatch.clock_start_of_not_running hsince] at hend
      rw [hend] at hclock ⊢
      exact h.polled.trans (line.total_le_resume hclock.2 h.steady.next.now_le)
    | false =>
      rw [h.resume_of_running hpaused]
      exact h.polled.trans (line.total_mono hclock.2)

/-- A poll of the pace finds the periods that have passed since the one before. -/
theorem due_eq (h : T.Paced rate line polled) (hrate : 0 ≤ rate.value) :
    ∃ c clock, T.pace = some c ∧
      c.due T.clock = (.ok (⌊rate.value * line.total (now T.clock)⌋ - ⌊rate.value * polled⌋,
        ⟨rate, .ofTimeline line, ⌊rate.value * line.total (now T.clock)⌋⟩), clock) ∧
      From (now T.clock) clock := by
  have hmono : ⌊rate.value * polled⌋ ≤ ⌊rate.value * line.total (now T.clock)⌋ :=
    Int.floor_le_floor (mul_le_mul_of_nonneg_left h.polled hrate)
  exact ⟨_, ((Stopwatch.ofTimeline line).elapsed T.clock).2, h.pace,
    Cadence.due_ofTimeline hrate (h.nonneg.trans h.polled) hmono, Stopwatch.from_elapsed h.steady.from_now⟩

/-- After a poll of the pace the periods up to now were given out. -/
theorem poll (h : T.Paced rate line polled) {clock : κ} (hclock : From (now T.clock) clock) :
    Paced { T with
      pace := some ⟨rate, .ofTimeline line, ⌊rate.value * line.total (now T.clock)⌋⟩
      clock } rate line (line.total (now T.clock)) :=
  ⟨rfl, h.timer, h.paused, h.nonneg.trans h.polled, line.total_mono hclock.2, hclock.1⟩

end Tempo.Paced

/-- When the cadences start over the pace begins a timeline of its own. -/
theorem Tempo.paced_start {T : Tempo κ Rat} {c : Cadence Rat} (hpace : T.pace = some c)
    (hsteady : Steady T.clock) :
    ({ T with paused := false, ticks := 0 }.both Cadence.start).Paced c.rate
      (.start (now (next T.clock))) 0 := by
  have hstart := pace_both_of_some (f := Cadence.start) (T := { T with paused := false, ticks := 0 }) hpace
  have hend := clock_both_of_some (f := Cadence.start) (T := { T with paused := false, ticks := 0 }) hpace
  refine ⟨hstart.trans ?_, ?_, ?_, le_refl 0, ?_, ?_⟩
  · rw [mul_zero, Int.floor_zero]
    rfl
  · rw [paused_both, timerCadence_both]
    rfl
  · rw [paused_both]
    rfl
  · -- the pace starts on the second reading, and its total is that of no time before the third
    rw [hend]
    rw [Timeline.total_start]
    exact sub_nonneg.mpr hsteady.next.now_le
  · rw [hend]
    exact hsteady.next.next

/-- A restart begins a timeline of its own for the pace, and lets it stand still if the machine is paused. -/
theorem Tempo.paced_restart {T : Tempo κ Rat} {c : Cadence Rat} (hpace : T.pace = some c)
    (hsteady : Steady T.clock) :
    T.restart.Paced c.rate
      (if T.paused then (Timeline.start (now (next T.clock))).pause (now (next (next (next T.clock))))
        else .start (now (next T.clock))) 0 := by
  have hstart := paced_start hpace hsteady
  have hend := clock_both_of_some (f := Cadence.start) (T := { T with paused := false, ticks := 0 }) hpace
  have hstill := hstart.still
  rw [hend] at hstill
  rw [both_with] at hstart hstill
  -- the cadences start over whether the machine is paused or not, and are paused again afterwards
  rw [Tempo.restart_eq_both]
  cases T.paused with
  | false => exact hstart
  | true => exact hstill

end Chip8
