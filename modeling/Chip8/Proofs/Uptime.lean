import Chip8.Proofs.Tempo
import Mathlib.Data.Rat.Floor
import Mathlib.Tactic.Linarith
/-!
Timer periods and the time that has passed.

The machine counts periods at each service of the timers, at uneven times and with pauses between. Rounding at
each service could lose a part of a period every time, or count it twice.

1. **Specification** — a `Timeline` keeps the readings of the clock at which the time of a machine began,
   stood still and went on. Its total is the time during which the machine was not paused.

2. **Invariant** — `Tempo.Keeps`: the watches of the cadences show the total of the timeline, and the periods
   that were given out are at most the sixtyfold of it, rounded down. Since it is the total that is rounded
   and not the time since the last service, no part of a period is lost (`Cadence.due_ofTimeline`).

3. **Step** — a service brings the periods to what has passed (`Machine.keeps_service`); pausing, going on and
   restarting change the watches and the timeline at the same reading (`Tempo.Keeps.pause`,
   `Tempo.Keeps.resume`, `Tempo.Keeps.restart`, which `Tempo.Keeps.of_both` reduces to the timer cadence).

4. **Runs** — time is exact here and the clock never goes back. Whatever turns are taken, with the next
   service the number of periods is the sixtyfold of the total, rounded down (`Turn.onTime_afterAll`).
-/

namespace Chip8

variable {κ : Type} {s : Size}

/-! ## Clocks that do not go back

A clock may stand still and may run at any speed, as long as each reading is no earlier than the one before.
-/

namespace Clock

/-- The time on a clock. -/
def now {τ : Type} [Clock κ τ] (c : κ) : τ := (read c).1

/-- A clock after it was read. -/
def next {τ : Type} [Clock κ τ] (c : κ) : κ := (read c).2

variable [Clock κ Rat]

/-- No reading is earlier than the one before. -/
def Steady (c : κ) : Prop := ∀ n, (now (next^[n] c) : Rat) ≤ now (next^[n + 1] c)

theorem Steady.next {c : κ} (h : Steady c) : Steady (Clock.next c) := fun n => h (n + 1)

theorem Steady.now_le {c : κ} (h : Steady c) : (now c : Rat) ≤ now (Clock.next c) := h 0

/-- The clock `d` does not go back, and does not show an earlier time than `r`. -/
def From (r : Rat) (d : κ) : Prop := Steady d ∧ r ≤ now d

theorem Steady.from_now {c : κ} (h : Steady c) : From (now c : Rat) c := ⟨h, le_refl _⟩

theorem From.next {r : Rat} {d : κ} (h : From r d) : From r (Clock.next d) :=
  ⟨h.1.next, h.2.trans h.1.now_le⟩

/-- A move that takes no clock back. -/
def Forward (move : κ → κ) : Prop := ∀ c, Steady c → From (now c) (move c)

end Clock

namespace ManualClock

open Clock

variable {c : ManualClock Rat}

theorem step_iterate (n : Nat) : (next^[n] c).step = c.step := by
  induction n with
  | zero => rfl
  | succ n ih =>
    rw [Function.iterate_succ_apply']
    exact ih

/-- A clock set by hand does not go back if its readings do not. -/
theorem steady_iff : Steady c ↔ 0 ≤ c.step := by
  constructor
  · intro h
    have : c.now ≤ c.now + c.step := h 0
    linarith
  · intro h n
    rw [Function.iterate_succ_apply']
    show (next^[n] c).now ≤ (next^[n] c).now + (next^[n] c).step
    rw [step_iterate]
    linarith

/-- Letting time pass takes a clock set by hand forward. -/
theorem forward_advance {dt : Rat} (h : 0 ≤ dt) : Forward (advance dt) := by
  intro c hc
  have hstep : 0 ≤ c.step := steady_iff.mp hc
  refine ⟨steady_iff.mpr (show 0 ≤ (c.advance dt).step from hstep), ?_⟩
  show c.now ≤ c.now + dt
  linarith

end ManualClock

open Clock (now next Steady From Forward)

/-! ## Timelines

The specification: the intervals between the readings at which a machine was paused and resumed, and their
total length at any reading. It knows no watch and no period. -/

/-- The readings between which a machine was not paused: of the intervals that are over, the latest
    first, and the one at which the present interval began. -/
structure Timeline where
  past : List (Rat × Rat)
  since : Option Rat

namespace Timeline

/-- The length of the intervals that are over. -/
def closed (line : Timeline) : Rat := (line.past.map fun p => p.2 - p.1).sum

/-- The length of all intervals, by the time that it is now. -/
def total (line : Timeline) (now : Rat) : Rat :=
  line.closed + match line.since with
    | none => 0
    | some began => now - began

/-- The timeline of a time that begins now. -/
def start (now : Rat) : Timeline := ⟨[], some now⟩

/-- The timeline of a time that stands still from now on. It may do so already. -/
def pause (now : Rat) (line : Timeline) : Timeline :=
  match line.since with
  | none => line
  | some began => ⟨(began, now) :: line.past, none⟩

/-- The timeline of a time that goes on from now. It may do so already. -/
def resume (now : Rat) (line : Timeline) : Timeline :=
  match line.since with
  | none => { line with since := some now }
  | some _ => line

variable {line : Timeline} {a b : Rat}

@[simp] theorem total_none (now : Rat) : (⟨[], none⟩ : Timeline).total now = 0 := by
  simp [total, closed]

@[simp] theorem total_start (a b : Rat) : (start a).total b = b - a := by
  simp [start, total, closed]

/-- The total does not shrink while the clock goes on. -/
theorem total_mono (h : a ≤ b) : line.total a ≤ line.total b := by
  unfold total
  cases line.since with
  | none => exact le_refl _
  | some began =>
    dsimp only
    linarith

/-- Nothing of the total is lost when the time stands still. -/
theorem total_le_pause (h : a ≤ b) (c : Rat) : line.total a ≤ (line.pause b).total c := by
  obtain ⟨past, since⟩ := line
  cases since with
  | none => exact le_refl _
  | some began =>
    -- the present interval becomes the latest of those that are over, with the same length
    simp only [pause, total, closed, List.map_cons, List.sum_cons]
    linarith

/-- Nothing of the total is lost when the time goes on. -/
theorem total_le_resume (h : a ≤ b) {c : Rat} (hc : c ≤ b) : line.total a ≤ (line.resume c).total b := by
  obtain ⟨past, since⟩ := line
  cases since with
  | none =>
    simp only [resume, total, closed]
    linarith
  | some began => exact total_mono h

end Timeline

/-! ## Watches that agree with a timeline

A watch is a sum and a mark. The sum is the length of the intervals that are over, and the mark is where the
present one began. -/

namespace Stopwatch

variable [Clock κ Rat]

/-- The watch that agrees with a timeline. -/
def ofTimeline (line : Timeline) : Stopwatch Rat := ⟨line.since, line.closed⟩

theorem elapsed_ofTimeline (line : Timeline) (clock : κ) :
    ((ofTimeline line).elapsed clock).1 = line.total (now clock) := by
  unfold elapsed ofTimeline Timeline.total
  cases line.since with
  | none => exact (add_zero _).symm
  | some began => rfl

theorem stop_ofTimeline (line : Timeline) (clock : κ) :
    ((ofTimeline line).stop clock).1 = ofTimeline (line.pause (now clock)) := by
  obtain ⟨past, since⟩ := line
  cases since with
  | none => rfl
  | some began =>
    simp only [ofTimeline, Timeline.pause, Timeline.closed, List.map_cons, List.sum_cons]
    rw [add_comm]
    rfl

theorem start_ofTimeline (line : Timeline) (clock : κ) :
    ((ofTimeline line).start clock).1 = ofTimeline (line.resume (now clock)) := by
  obtain ⟨past, since⟩ := line
  cases since <;> rfl

variable {w : Stopwatch Rat} {r : Rat} {clock : κ}

theorem from_elapsed (h : From r clock) : From r (w.elapsed clock).2 := by
  unfold elapsed
  cases w.startedAt with
  | none => exact h
  | some began => exact h.next

theorem from_stop (h : From r clock) : From r (w.stop clock).2 := by
  unfold stop
  cases w.startedAt with
  | none => exact h
  | some began => exact h.next

theorem from_start (h : From r clock) : From r (w.start clock).2 := by
  unfold start
  cases w.startedAt with
  | none => exact h.next
  | some began => exact h

theorem running_stop (w : Stopwatch Rat) (clock : κ) : (w.stop clock).1.running = false := by
  obtain ⟨startedAt, accumulated⟩ := w
  cases startedAt <;> rfl

theorem running_start (w : Stopwatch Rat) (clock : κ) : (w.start clock).1.running = true := by
  obtain ⟨startedAt, accumulated⟩ := w
  cases startedAt <;> rfl

end Stopwatch

/-! ## Cadences that agree with a timeline

The invariant of the timers of a machine. The periods given out are never more than have passed, so a poll
never has to take one back, and after it they are exactly as many. -/

/-- The invariant: the cadences agree with a timeline, and no more periods were given out than have passed. -/
structure Tempo.Keeps [Clock κ Rat] (T : Tempo κ Rat) (line : Timeline) : Prop where
  rate : T.timerCadence.rate = .whole timerFrequency
  watch : T.timerCadence.watch = .ofTimeline line
  paused : T.paused = line.since.isNone
  pace : ∀ c, T.pace = some c → c.watch.running = !T.paused
  ticks : (T.ticks : Int) = T.timerCadence.consumed
  consumed : T.timerCadence.consumed ≤ ⌊60 * line.total (now T.clock)⌋
  steady : Steady T.clock

/-- A product that is not negative is rounded down. -/
theorem tdiv_eq_floor {q : Rat} (h : 0 ≤ q) : q.num.tdiv q.den = ⌊q⌋ := by
  rw [Rat.floor_def', Int.tdiv_eq_ediv_of_nonneg (Rat.num_nonneg.mpr h)]

/-- The periods per second. -/
def Rate.value : Rate Rat → Rat
  | .whole n => n
  | .real x => x
  | .flag b => if b then 1 else 0

/-- The whole periods of a time. -/
theorem Rate.periods_eq {rate : Rate Rat} (hrate : 0 ≤ rate.value) {elapsed : Rat} (h : 0 ≤ elapsed) :
    Seconds.periods elapsed rate = .ok ⌊rate.value * elapsed⌋ := by
  have hperiods : Seconds.periods elapsed rate =
      .ok ((elapsed * rate.value).num.tdiv (elapsed * rate.value).den) := by
    cases rate <;> rfl
  rw [hperiods, mul_comm, tdiv_eq_floor (mul_nonneg hrate h)]

/-- A poll of a watch that agrees with a timeline finds all its periods, and gives out those that were not
    given out yet. -/
theorem Cadence.due_ofTimeline [Clock κ Rat] {rate : Rate Rat} {line : Timeline} {consumed : Int} {clock : κ}
    (hrate : 0 ≤ rate.value) (htotal : 0 ≤ line.total (now clock))
    (hconsumed : consumed ≤ ⌊rate.value * line.total (now clock)⌋) :
    (⟨rate, .ofTimeline line, consumed⟩ : Cadence Rat).due clock =
      (.ok (⌊rate.value * line.total (now clock)⌋ - consumed,
        ⟨rate, .ofTimeline line, ⌊rate.value * line.total (now clock)⌋⟩),
        ((Stopwatch.ofTimeline line).elapsed clock).2) := by
  rw [Cadence.due]
  dsimp only
  rw [Stopwatch.elapsed_ofTimeline, Rate.periods_eq hrate htotal]
  dsimp only
  rw [max_eq_left (by omega)]

namespace Tempo.Keeps

variable [Clock κ Rat] {T : Tempo κ Rat} {line : Timeline}

/-- The timer cadence is known from the timeline and the count of periods. -/
theorem timerCadence_eq (h : T.Keeps line) :
    T.timerCadence = ⟨.whole timerFrequency, .ofTimeline line, T.ticks⟩ := by
  rw [← h.rate, ← h.watch, h.ticks]

theorem ticks_le (h : T.Keeps line) : (T.ticks : Int) ≤ ⌊60 * line.total (now T.clock)⌋ := by
  rw [h.ticks]
  exact h.consumed

theorem total_nonneg (h : T.Keeps line) : 0 ≤ 60 * line.total (now T.clock) :=
  Int.floor_nonneg.mp ((Int.natCast_nonneg T.ticks).trans h.ticks_le)

omit line in
/-- What is done with both cadences leads to the invariant if it makes of the timer cadence what the timeline
    says and lets the pace run with it. A pause, its end and a start are done so. -/
theorem of_both {f : Cadence Rat → κ → Cadence Rat × κ} {line : Timeline}
    (hcadence : (f T.timerCadence T.clock).1 = ⟨.whole timerFrequency, .ofTimeline line, T.ticks⟩)
    (hpaused : T.paused = line.since.isNone)
    (hpace : ∀ c clock, (f c clock).1.watch.running = !T.paused)
    (hticks : (T.ticks : Int) ≤ ⌊60 * line.total (now (T.both f).clock)⌋)
    (hsteady : Steady (T.both f).clock) : (T.both f).Keeps line where
  rate := by rw [timerCadence_both, hcadence]
  watch := by rw [timerCadence_both, hcadence]
  paused := paused_both.trans hpaused
  pace := by
    intro c hc
    obtain ⟨c₀, clock, -, rfl⟩ := pace_both hc
    rw [paused_both]
    exact hpace c₀ clock
  ticks := by rw [timerCadence_both, hcadence, ticks_both]
  consumed := by
    rw [timerCadence_both, hcadence]
    exact hticks
  steady := hsteady

/-- The clock may go on, since the total only grows. -/
theorem elapse (h : T.Keeps line) {clock : κ} (hclock : From (now T.clock) clock) :
    Keeps { T with clock } line := by
  refine ⟨h.rate, h.watch, h.paused, h.pace, h.ticks, ?_, hclock.1⟩
  refine h.consumed.trans (Int.floor_le_floor ?_)
  have := line.total_mono hclock.2
  dsimp only
  linarith

/-- The pace may be polled, since that leaves its watch as it is. -/
theorem withPace (h : T.Keeps line) {c : Cadence Rat} (hc : c.watch.running = !T.paused) :
    Keeps { T with pace := some c } line := by
  refine ⟨h.rate, h.watch, h.paused, ?_, h.ticks, h.consumed, h.steady⟩
  rintro c' hc'
  obtain rfl := Option.some.inj hc'
  exact hc

/-- A poll of the timers gives out the periods that have passed and were not given out yet. -/
theorem due_eq (h : T.Keeps line) :
    ∃ clock, T.timerCadence.due T.clock =
      (.ok (⌊60 * line.total (now T.clock)⌋ - T.ticks,
        { T.timerCadence with consumed := ⌊60 * line.total (now T.clock)⌋ }), clock) ∧
      From (now T.clock) clock := by
  have hticks := h.ticks_le
  have hvalue : (Rate.whole timerFrequency : Rate Rat).value = 60 := by
    norm_num [Rate.value, timerFrequency]
  have hnonneg : 0 ≤ line.total (now T.clock) := by
    have := h.total_nonneg
    linarith
  refine ⟨((Stopwatch.ofTimeline line).elapsed T.clock).2, ?_,
    Stopwatch.from_elapsed h.steady.from_now⟩
  -- written out by the timeline the cadence is one of which it is known what a poll gives
  rw [h.timerCadence_eq, Cadence.due_ofTimeline (by rw [hvalue]; norm_num) hnonneg (by rwa [hvalue]), hvalue]

/-- After a service of the timers the periods are all that have passed. -/
theorem service (h : T.Keeps line) {clock : κ} (hclock : From (now T.clock) clock) :
    Keeps { T with
      timerCadence := { T.timerCadence with consumed := ⌊60 * line.total (now T.clock)⌋ }
      clock
      ticks := T.ticks + (⌊60 * line.total (now T.clock)⌋ - T.ticks).toNat } line := by
  have hconsumed := h.consumed
  have hticks := h.ticks
  refine ⟨h.rate, h.watch, h.paused, h.pace, ?_, ?_, hclock.1⟩
  · dsimp only
    omega
  · refine Int.floor_le_floor ?_
    have := line.total_mono hclock.2
    dsimp only
    linarith

/-- A pause stops the cadences and the timeline at the same reading of the clock. -/
theorem pause (h : T.Keeps line) :
    Keeps ({ T with paused := true }.both Cadence.pause) (line.pause (now T.clock)) := by
  have hclock : From (now T.clock) ({ T with paused := true }.both Cadence.pause).clock :=
    clock_both (fun _ _ h => Stopwatch.from_stop h) h.steady.from_now
  refine of_both ?_ ?_ (fun _ _ => Stopwatch.running_stop _ _) ?_ hclock.1
  · dsimp only [Cadence.pause]
    rw [h.timerCadence_eq, Stopwatch.stop_ofTimeline]
  · rw [Timeline.pause]
    cases hsince : line.since <;> simp [hsince]
  · refine h.ticks_le.trans (Int.floor_le_floor ?_)
    have := line.total_le_pause (le_refl (now T.clock))
      (now ({ T with paused := true }.both Cadence.pause).clock)
    linarith

/-- When the machine goes on, the cadences and the timeline do so from the same reading of the clock. -/
theorem resume (h : T.Keeps line) :
    Keeps ({ T with paused := false }.both Cadence.resume) (line.resume (now T.clock)) := by
  have hclock : From (now T.clock) ({ T with paused := false }.both Cadence.resume).clock :=
    clock_both (fun _ _ h => Stopwatch.from_start h) h.steady.from_now
  refine of_both ?_ ?_ (fun _ _ => Stopwatch.running_start _ _) ?_ hclock.1
  · dsimp only [Cadence.resume]
    rw [h.timerCadence_eq, Stopwatch.start_ofTimeline]
  · rw [Timeline.resume]
    cases hsince : line.since <;> simp [hsince]
  · refine h.ticks_le.trans (Int.floor_le_floor ?_)
    have := line.total_le_resume hclock.2 hclock.2
    linarith

omit line in
/-- When the cadences start over the timeline begins. -/
theorem start (hrate : T.timerCadence.rate = .whole timerFrequency) (hsteady : Steady T.clock) :
    Keeps ({ T with paused := false, ticks := 0 }.both Cadence.start) (.start (now T.clock)) := by
  have hclock : From (now T.clock) ({ T with paused := false, ticks := 0 }.both Cadence.start).clock :=
    clock_both (fun _ _ h => Stopwatch.from_start (w := .fresh) h) hsteady.from_now
  refine of_both ?_ rfl (fun _ _ => rfl) ?_ hclock.1
  · -- a start keeps nothing of the cadence but its rate
    rw [← hrate]
    rfl
  · show (0 : Int) ≤ _
    refine Int.floor_nonneg.mpr ?_
    have := hclock.2
    rw [Timeline.total_start]
    linarith

omit line in
/-- A restart begins the timeline anew. -/
theorem restart (hrate : T.timerCadence.rate = .whole timerFrequency) (hsteady : Steady T.clock) :
    T.restart.Keeps
      (if T.paused then (Timeline.start (now T.clock)).pause (now (T.both Cadence.start).clock)
        else .start (now T.clock)) := by
  have hstart := start hrate hsteady
  rw [both_with] at hstart
  rw [restart_eq_both]
  cases T.paused with
  | false => exact hstart
  | true => exact hstart.pause

end Tempo.Keeps

/-! ## Whole runs

The invariant through all turns of a machine whose listeners neither fail nor pause it, by induction on the
turns. -/

namespace Turn

variable [Clock κ Rat] {host : Host s}

/-- The timeline after a turn: it begins with a restart, stands still with a pause and goes on with a
    resumption. A machine that is paused lets its new timeline stand still at once. -/
def mark (x : Turn κ) (m : Machine κ Rat s) (line : Timeline) : Timeline :=
  match x with
  | call (.load _) _ | call .reset _ =>
    if m.paused then (Timeline.start (now m.clock)).pause (now m.startCadences.clock)
    else .start (now m.clock)
  | call .pause _ => line.pause (now m.clock)
  | call .resume _ => line.resume (now m.clock)
  | _ => line

/-- The timeline after turns, of a machine whose time had begun. -/
def timeline (host : Host s) (xs : List (Turn κ)) (m : Machine κ Rat s) (began : Rat) : Timeline :=
  track host mark xs m (.start began)

/-- A turn that counts no period by itself and takes no clock back. -/
def Timely (x : Turn κ) : Prop :=
  match x with
  | call .tick _ => False
  | call (.elapse move) _ => Clock.Forward move
  | _ => True

end Turn

namespace Machine

variable [Clock κ Rat] {host : Host s}

/-- A service of the timers brings the number of their periods to what has passed. -/
theorem keeps_service (hfails : host.NeverFails) (hpauses : host.NeverPauses) {m : Machine κ Rat s}
    {line : Timeline} (h : m.tempo.Keeps line) :
    ∃ t, (serviceTimers host).exec m = (.ok (), t) ∧ t.tempo.Keeps line ∧
      (t.ticks : Int) = ⌊60 * line.total (now m.clock)⌋ := by
  obtain ⟨clock, hdue, hclock⟩ := h.due_eq
  obtain ⟨t, ht, htempo⟩ := exec_serviceTimers_of_due hpauses hfails hdue
  have hkeeps := h.service hclock
  have hticks : t.ticks = m.ticks + (⌊60 * line.total (now m.clock)⌋ - m.ticks).toNat :=
    congrArg Tempo.ticks htempo
  refine ⟨t, ht, ?_, ?_⟩
  · rw [htempo]
    exact hkeeps
  · rw [hticks]
    exact hkeeps.ticks

end Machine

namespace Turn

variable [Clock κ Rat] {host : Host s}

/-- A poll of the pace takes time, and leaves the pace running if it was. -/
theorem keeps_pollPace {m : Machine κ Rat s} {line : Timeline} (h : m.tempo.Keeps line) :
    (pollPace.after host m).tempo.Keeps line := by
  rw [Machine.after_pollPace]
  cases hpace : m.pace with
  | none => exact h
  | some pace =>
    have hclock : From (now m.clock) (pace.due m.clock).2 := by
      rw [Cadence.clock_due]
      exact Stopwatch.from_elapsed h.steady.from_now
    have hwatch (n : Int) (c : Cadence Rat) (hdue : (pace.due m.clock).1 = .ok (n, c)) :
        c.watch = pace.watch :=
      Cadence.watch_due hdue
    dsimp only
    rw [Machine.exec_pollPace]
    -- a poll that fails has read the clock nevertheless
    generalize pace.due m.clock = out at hclock hwatch ⊢
    obtain ⟨answer, clock⟩ := out
    cases answer with
    | error e => exact h.elapse hclock
    | ok polled =>
      obtain ⟨n, c⟩ := polled
      have hrunning : c.watch.running = !m.paused := by
        rw [hwatch n c rfl]
        exact h.pace pace hpace
      exact (h.withPace hrunning).elapse hclock

/-- Every turn keeps the cadences to the timeline. -/
theorem keeps_after (hfails : host.NeverFails) (hpauses : host.NeverPauses) {x : Turn κ} (hx : x.Timely)
    {m : Machine κ Rat s} {line : Timeline} (h : m.tempo.Keeps line) :
    (x.after host m).tempo.Keeps (x.mark m line) := by
  have hservice : ((Machine.serviceTimers host).exec m).2.tempo.Keeps line := by
    obtain ⟨t, ht, hkeeps, -⟩ := Machine.keeps_service hfails hpauses h
    rw [ht]
    exact hkeeps
  have hsame {t : Machine κ Rat s} (ht : t.tempo = m.tempo) : t.tempo.Keeps line := by
    rw [ht]
    exact h
  have hrestart := Tempo.Keeps.restart h.rate h.steady
  rw [← Machine.tempo_startCadences] at hrestart
  -- a step services the timers and leaves the time alone otherwise; a restart begins the timeline anew
  cases x with
  | call c single =>
    cases c with
    | step =>
      cases hhalted : m.halted with
      | true => exact hsame (congrArg (·.2.tempo) (Machine.exec_step_of_halted host hhalted))
      | false =>
        rw [← Machine.tempo_step hpauses hhalted] at hservice
        exact hservice
    | tick => exact hx.elim
    | load program =>
      rw [← Machine.tempo_load hpauses hfails program m] at hrestart
      exact hrestart
    | reset =>
      rw [← Machine.tempo_reset hpauses hfails m] at hrestart
      exact hrestart
    | inputKey key down => exact hsame (Machine.tempo_inputKey key down m)
    | inputKeys changes => exact hsame (Machine.tempo_inputKeys changes m)
    | pause =>
      have hpause := h.pause
      rw [← Machine.tempo_pause] at hpause
      exact hpause
    | resume =>
      have hresume := h.resume
      rw [← Machine.tempo_resume] at hresume
      exact hresume
    | run look looks => cases single
    | switch strict tracing => exact h
    | elapse move => exact h.elapse (hx m.clock h.steady)
  | service => exact hservice
  | pollPace => exact keeps_pollPace h
  | signal change => exact h

end Turn

/-- A call that counts no period by itself and takes no clock back. -/
def Call.Timely [Clock κ Rat] : Call κ → Prop
  | tick => False
  | elapse move | run move _ => Clock.Forward move
  | _ => True

/-- The timer periods of a machine are those that have passed on its timeline. -/
structure OnTime [Clock κ Rat] (host : Host s) (m : Machine κ Rat s) (line : Timeline) : Prop where
  /-- The cadences run as long as the machine is not paused. -/
  timer : m.timerCadence.watch.running = !m.paused
  pace : ∀ pace, m.pace = some pace → pace.watch.running = !m.paused
  /-- With a service of the timers, the periods are all that have passed by then. -/
  service : ∃ t, (Machine.serviceTimers host).exec m = (.ok (), t) ∧
    (t.ticks : Int) = ⌊60 * line.total (now m.clock)⌋
  /-- A step services the timers, unless the machine is halted. -/
  step : m.halted = false →
    ((Call.step.after host m).ticks : Int) = ⌊60 * line.total (now m.clock)⌋

namespace Turn

variable [Clock κ Rat] {host : Host s}

/-- The parts of a call keep to its time. -/
theorem PartOf.timely {c : Call κ} {x : Turn κ} (h : x.PartOf c) (hc : c.Timely) : x.Timely := by
  cases h with
  | single single =>
    cases c with
    | run look looks => cases single
    | _ => exact hc
  | elapse => exact hc
  | _ => trivial

/-- What the invariant says of the periods: with the next service of the timers they are on time. -/
theorem onTime_of_keeps (hfails : host.NeverFails) (hpauses : host.NeverPauses) {m : Machine κ Rat s}
    {line : Timeline} (h : m.tempo.Keeps line) : OnTime host m line := by
  obtain ⟨t, ht, -, hticks⟩ := Machine.keeps_service hfails hpauses h
  refine ⟨?_, h.pace, ⟨t, ht, hticks⟩, ?_⟩
  · have hpaused : m.paused = line.since.isNone := h.paused
    have hwatch : m.timerCadence.watch = .ofTimeline line := h.watch
    rw [hwatch, hpaused]
    cases hsince : line.since <;> simp [Stopwatch.running, Stopwatch.ofTimeline, hsince]
  · intro hhalted
    have htempo : (Call.step.after host m).ticks = t.ticks := by
      have hstep := Machine.tempo_step hpauses hhalted
      rw [ht] at hstep
      exact congrArg Tempo.ticks hstep
    rw [htempo]
    exact hticks

/-- At every time of every run the timer periods are the sixtyfold of the time during which the machine
    was not paused, rounded down: whatever turns it takes, as long as its clock does not go back. All
    calls are made of such turns. -/
theorem onTime_afterAll (hfails : host.NeverFails) (hpauses : host.NeverPauses)
    (settings : Machine.Settings Rat) {clock : κ} (hclock : Steady clock) (noise : Nat → UInt8) :
    (∀ xs : List (Turn κ), (∀ x ∈ xs, x.Timely) →
      OnTime host (afterAll host xs (.create settings clock noise))
        (timeline host xs (.create settings clock noise) (now clock))) ∧
    ∀ cs : List (Call κ), (∀ c ∈ cs, c.Timely) → ∃ xs : List (Turn κ), (∀ x ∈ xs, x.Timely) ∧
      cs.foldl (fun m c => c.after host m) (.create settings clock noise) =
        afterAll host xs (.create settings clock noise) := by
  constructor
  · intro xs hxs
    -- a machine is created with a reset, which begins the timeline
    have hcreate : (Machine.create settings clock noise : Machine κ Rat s).tempo.Keeps
        (.start (now clock)) := by
      rw [Machine.create, Machine.tempo_reset Host.inert_neverPauses Host.inert_neverFails]
      exact Tempo.Keeps.restart rfl hclock
    have hrun := invariant_track (I := fun (m : Machine κ Rat s) line => m.tempo.Keeps line)
      (fun x m line hx h => keeps_after hfails hpauses hx h) hxs hcreate
    exact onTime_of_keeps hfails hpauses hrun
  · intro cs hcs
    -- turns that are parts of a timely call are timely
    obtain ⟨xs, hxs, hm⟩ := Call.exists_turns host cs (.create settings clock noise)
    refine ⟨xs, fun x hx => ?_, hm⟩
    obtain ⟨c, hc, hpart⟩ := hxs x hx
    exact hpart.timely (hcs c hc)

/-- Half a second, a pause of a second, and a quarter of a second. -/
def recess : List (Turn (ManualClock Rat)) :=
  [.call (.elapse (·.advance (1 / 2))) rfl, .step, .call .pause rfl, .call (.elapse (·.advance 1)) rfl,
    .call .resume rfl, .call (.elapse (·.advance (1 / 4))) rfl]

theorem onTime_recess :
    OnTime Host.inert (afterAll Host.inert recess .still) (timeline Host.inert recess .still 0) := by
  have hclock : Steady (⟨0, 0, 0⟩ : ManualClock Rat) := ManualClock.steady_iff.mpr (le_refl 0)
  refine (onTime_afterAll Host.inert_neverFails Host.inert_neverPauses ({} : Machine.Settings Rat)
    hclock fun _ => 0).1 recess ?_
  intro x hx
  simp only [recess, List.mem_cons, List.not_mem_nil, or_false] at hx
  rcases hx with rfl | rfl | rfl | rfl | rfl | rfl
  · exact ManualClock.forward_advance (by norm_num)
  · trivial
  · trivial
  · exact ManualClock.forward_advance (by norm_num)
  · trivial
  · exact ManualClock.forward_advance (by norm_num)

end Turn

end Chip8
