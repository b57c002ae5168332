import Chip8.Proofs.Pace
/-!
How many steps a throttled machine makes.

Each poll of the pace finds the periods that have passed since the one before, and the loop makes as many
steps, but no more than a thousand. Pauses, restarts and listeners that pause in the middle of a burst come
between.

1. **Specification** — `Throttling` is the history since the machine was last reset or loaded: a timeline of
   the readings at which the pace began, stood still and went on, the polls with the steps that followed each
   of them, and the steps. `Throttling.Within` and `Throttling.CaughtUp` bound the steps from above and from
   below.

2. **Invariant** — `Machine.Metered` puts two together: `Burst.Left` for the counting, that so many steps are
   left to be made of the latest burst, and `Tempo.Paced` for the time, that the pace agrees with the
   timeline.

3. **Step** — every turn that the loop permits keeps it (`Turn.metered_after`). What the loop permits is a
   matter of the order of its turns only, and is taken from `Chip8.Proofs.Traces`.

4. **Runs** — so the steps never get ahead of the time, and what one poll finds beyond the thousand no later
   one finds again (`Call.throttled_allTurns`).
-/

namespace Chip8

variable {κ : Type} {s : Size}

open Clock (now next Steady From)

/-! ## Bursts

The specification: how many steps each poll found due and how many were made after it. It knows neither
clock nor machine. -/

/-- The steps that a poll of the pace finds due, and those that are made before the next poll. -/
structure Burst where
  due : Nat
  made : Nat

namespace Burst

/-- `k` steps are left to be made of the latest burst, and none of those before. -/
def Left : List Burst → Nat → Prop
  | [], k => k = 0
  | b :: bs, k => b.made + k = min b.due 1000 ∧ Left bs 0

/-- A step counts for the latest burst. -/
def step : List Burst → List Burst
  | [] => []
  | b :: bs => { b with made := b.made + 1 } :: bs

variable {bs : List Burst} {k : Nat}

theorem Left.poll (h : Left bs 0) (due : Nat) : Left (⟨due, 0⟩ :: bs) (min due 1000) :=
  ⟨Nat.zero_add _, h⟩

theorem Left.step (h : Left bs k) (hk : 0 < k) : Left (step bs) (k - 1) := by
  cases bs with
  | nil =>
    obtain rfl : k = 0 := h
    exact absurd hk (Nat.lt_irrefl 0)
  | cons b bs =>
    obtain ⟨hmade, hrest⟩ := h
    refine ⟨?_, hrest⟩
    dsimp only
    omega

/-- No burst is longer than its poll allowed. -/
theorem Left.made_le (h : Left bs k) : ∀ b ∈ bs, b.made ≤ min b.due 1000 := by
  induction bs generalizing k with
  | nil => simp
  | cons b bs ih =>
    obtain ⟨hmade, hrest⟩ := h
    intro b' hb'
    rcases List.mem_cons.mp hb' with rfl | hb'
    · omega
    · exact ih hrest b' hb'

/-- If nothing is left of the latest burst, all bursts are as long as their polls allowed. -/
theorem Left.made_eq (h : Left bs 0) : ∀ b ∈ bs, b.made = min b.due 1000 := by
  induction bs with
  | nil => simp
  | cons b bs ih =>
    obtain ⟨hmade, hrest⟩ := h
    intro b' hb'
    rcases List.mem_cons.mp hb' with rfl | hb'
    · exact hmade
    · exact ih hrest b' hb'

/-- The steps that polls found due, all together. -/
def allDue (bs : List Burst) : Nat := (bs.map (·.due)).sum

/-- The steps that were made after them. -/
def allMade (bs : List Burst) : Nat := (bs.map (·.made)).sum

theorem allDue_cons (b : Burst) (bs : List Burst) : allDue (b :: bs) = b.due + allDue bs :=
  List.sum_cons

theorem allMade_cons (b : Burst) (bs : List Burst) : allMade (b :: bs) = b.made + allMade bs :=
  List.sum_cons

theorem allDue_step (bs : List Burst) : allDue (step bs) = allDue bs := by
  cases bs <;> rfl

theorem allMade_step (h : Left bs k) (hk : 0 < k) : allMade (step bs) = allMade bs + 1 := by
  cases bs with
  | nil =>
    obtain rfl : k = 0 := h
    exact absurd hk (Nat.lt_irrefl 0)
  | cons b bs =>
    rw [step, allMade_cons, allMade_cons]
    dsimp only
    omega

/-- All that was made was due. -/
theorem Left.allMade_le (h : Left bs k) : allMade bs ≤ allDue bs := by
  induction bs generalizing k with
  | nil => exact le_refl 0
  | cons b bs ih =>
    obtain ⟨hmade, hrest⟩ := h
    have := ih hrest
    rw [allMade_cons, allDue_cons]
    omega

/-- All that was due is made when nothing is left, if no poll found more than a thousand steps. -/
theorem Left.allMade_eq (h : Left bs 0) (hdue : ∀ b ∈ bs, b.due ≤ 1000) : allMade bs = allDue bs := by
  induction bs with
  | nil => rfl
  | cons b bs ih =>
    obtain ⟨hmade, hrest⟩ := h
    have hb := hdue b List.mem_cons_self
    rw [allMade_cons, allDue_cons, ih hrest fun b' hb' => hdue b' (List.mem_cons_of_mem _ hb')]
    omega

end Burst

/-! ## The history of a throttled machine

What is written down of a run: the readings between which the machine was not paused, the latest reading of
a poll, the bursts, and the steps. -/

/-- What is kept of a throttled machine since it was last reset or loaded. -/
structure Throttling where
  /-- The readings between which it was not paused, taken by its pace. -/
  line : Timeline
  /-- How long that was by the latest poll of the pace. -/
  polled : Rat := 0
  /-- The polls of the pace, the latest first. -/
  bursts : List Burst := []
  /-- The steps. -/
  steps : Nat := 0

namespace Throttling

/-- A poll finds steps due. -/
def poll (reading : Rat) (due : Nat) (g : Throttling) : Throttling :=
  { g with polled := g.line.total reading, bursts := ⟨due, 0⟩ :: g.bursts }

/-- A step is made. -/
def step (g : Throttling) : Throttling := { g with bursts := Burst.step g.bursts, steps := g.steps + 1 }

/-- The time stands still if the machine is paused by now. -/
def stopIf (paused : Bool) (reading : Rat) (g : Throttling) : Throttling :=
  { g with line := if paused then g.line.pause reading else g.line }

end Throttling

variable [Clock κ Rat]

/-- The history begins when the cadences start over, on a clock that is read for the timers first; and
    a machine that is paused lets the time stand still at once. -/
def Throttling.restart (paused : Bool) (clock : κ) : Throttling :=
  stopIf paused (now (next (next (next clock)))) { line := .start (now (next clock)) }

/-- The clock after a turn's first event: a listener who pauses the machine takes two readings. -/
def Machine.clockThen (m t : Machine κ Rat s) : κ :=
  if !m.paused && t.paused then next (next m.clock) else m.clock

/-- The history after a turn. Pausing and resuming reads the clock for the timers before the pace, and a
    step reads it once more, to service the timers. -/
def Turn.throttle (host : Host s) (x : Turn κ) (m : Machine κ Rat s) (g : Throttling) : Throttling :=
  let t := x.after host m
  match x with
  | call (.load _) _ | call .reset _ => .restart t.paused (m.clockThen t)
  | call .step _ => g.step.stopIf t.paused (now (next (next m.clock)))
  | service => g.stopIf t.paused (now (next (next m.clock)))
  | call .pause _ => g.stopIf true (now (next m.clock))
  | call .resume _ => { g with line := g.line.resume (now (next m.clock)) }
  | pollPace => g.poll (now m.clock) m.dueSteps
  | _ => g

/-- The history after turns of a machine that was built on a clock. -/
def Turn.throttling (host : Host s) (xs : List (Turn κ)) (m : Machine κ Rat s) (clock : κ) : Throttling :=
  track host (throttle host) xs m (.restart false clock)

/-! ## What each turn keeps

The invariant `Metered`, case by case: a poll begins a burst, a step counts for the latest one, and a
restart begins the history anew. -/

/-- The invariant: the pace of a machine agrees with the history, and `k` steps are left to be made. -/
structure Machine.Metered (m : Machine κ Rat s) (rate : Rate Rat) (k : Nat) (g : Throttling) : Prop where
  paced : m.tempo.Paced rate g.line g.polled
  due : (Burst.allDue g.bursts : Int) = ⌊rate.value * g.polled⌋
  steps : g.steps = Burst.allMade g.bursts
  left : Burst.Left g.bursts k

namespace Machine

variable {m t : Machine κ Rat s} {rate : Rate Rat} {k : Nat} {g : Throttling} {host : Host s}

namespace Metered

/-- The time may go on in some other way. -/
theorem withLine (h : m.Metered rate k g) {line : Timeline} (ht : t.tempo.Paced rate line g.polled) :
    t.Metered rate k { g with line } :=
  ⟨ht, h.due, h.steps, h.left⟩

/-- A step counts. -/
theorem step (h : m.Metered rate k g) (hk : 0 < k) : m.Metered rate (k - 1) g.step := by
  refine ⟨h.paced, ?_, ?_, h.left.step hk⟩
  · show (Burst.allDue (Burst.step g.bursts) : Int) = _
    rw [Burst.allDue_step]
    exact h.due
  · show g.steps + 1 = Burst.allMade (Burst.step g.bursts)
    rw [h.steps, Burst.allMade_step h.left hk]

end Metered

/-- The poll of the timers reads the clock if they run. -/
theorem paced_pollTimer {line : Timeline} {polled : Rat} (h : m.tempo.Paced rate line polled) :
    (pollTimer.exec m).2.tempo.Paced rate line polled ∧
      (m.paused = false → (pollTimer.exec m).2.clock = next m.clock) := by
  -- with exact time a poll has an answer; it reads the clock only if the watch runs
  obtain ⟨n, c, clock, hdue⟩ := m.timerCadence.due_ok m.clock
  have hclock : clock = (m.timerCadence.watch.elapsed m.clock).2 := by
    rw [← Cadence.clock_due, hdue]
  have hwatch : c.watch = m.timerCadence.watch := Cadence.watch_due (congrArg Prod.fst hdue)
  rw [exec_pollTimer, hdue]
  refine ⟨h.onward rfl rfl hwatch ?_, ?_⟩
  · show From (now m.clock) clock
    rw [hclock]
    exact Stopwatch.from_elapsed h.steady.from_now
  · intro hpaused
    show clock = next m.clock
    have htimer : m.timerCadence.watch.running = !m.paused := h.timer
    rw [hpaused] at htimer
    rw [hclock, Stopwatch.elapsed]
    cases hstarted : m.timerCadence.watch.startedAt with
    | none =>
      rw [Stopwatch.running, hstarted] at htimer
      cases htimer
    | some began => rfl

/-- After a poll of the timers a listener may pause the machine. -/
theorem paced_of_polled {line : Timeline} {polled : Rat} (h : m.tempo.Paced rate line polled)
    {T : Tempo κ Rat} (hT : (pollTimer.exec m).2.tempo.Touched T) :
    T.Paced rate (if T.paused then line.pause (now (next (next m.clock))) else line) polled := by
  obtain ⟨hpolled, hclock⟩ := paced_pollTimer h
  have htouched := hpolled.touched hT
  cases hpaused : m.paused with
  | false =>
    rw [show (pollTimer.exec m).2.tempo.clock = next m.clock from hclock hpaused] at htouched
    exact htouched
  | true =>
    -- nothing is read then
    have hsame (reading : Rat) : line.pause reading = line := h.pause_of_paused hpaused reading
    rw [hsame, ite_self] at htouched ⊢
    exact htouched

/-- When the tempo restarts so does the history. -/
theorem metered_restart (h : m.Metered rate k g) {T : Tempo κ Rat} (hT : m.tempo.Touched T)
    (ht : t.tempo = T.restart) : t.Metered rate 0 (.restart t.paused (m.clockThen t)) := by
  have hpaused : t.paused = T.paused := (congrArg Tempo.paused ht).trans T.paused_restart
  have htouched := h.paced.touched hT
  have hclock : T.clock = m.clockThen t := by
    rw [clockThen, hpaused]
    exact h.paced.clock_touched hT
  have hrestart := Tempo.paced_restart htouched.pace htouched.steady
  rw [← ht, hclock, ← hpaused] at hrestart
  refine ⟨hrestart, ?_, rfl, rfl⟩
  show ((0 : Nat) : Int) = ⌊rate.value * 0⌋
  rw [mul_zero, Int.floor_zero]
  rfl

/-- A poll of the pace finds as many steps due as periods have passed since the one before. -/
theorem metered_pollPace (hrate : 0 ≤ rate.value) (h : m.Metered rate 0 g) :
    (Turn.pollPace.after host m).Metered rate (min m.dueSteps 1000) (g.poll (now m.clock) m.dueSteps) := by
  obtain ⟨c, clock, hpace, hdue, hclock⟩ := h.paced.due_eq hrate
  -- the time of the last poll was earlier, so the difference of the floors is no negative number
  have hmono : ⌊rate.value * g.polled⌋ ≤ ⌊rate.value * g.line.total (now m.clock)⌋ :=
    Int.floor_le_floor (mul_le_mul_of_nonneg_left h.paced.polled hrate)
  have hsteps : m.dueSteps =
      (⌊rate.value * g.line.total (now m.clock)⌋ - ⌊rate.value * g.polled⌋).toNat := by
    rw [dueSteps, show m.pace = some c from hpace]
    dsimp only
    rw [show c.due m.clock = _ from hdue]
    rfl
  rw [after_pollPace, show m.pace = some c from hpace]
  dsimp only
  rw [exec_pollPace, show c.due m.clock = _ from hdue]
  refine ⟨h.paced.poll hclock, ?_, ?_, h.left.poll _⟩
  · show ((Burst.allDue (⟨m.dueSteps, 0⟩ :: g.bursts) : Nat) : Int) =
      ⌊rate.value * g.line.total (now m.clock)⌋
    have hbefore := h.due
    rw [Burst.allDue_cons, hsteps]
    dsimp only
    omega
  · show g.steps = Burst.allMade (⟨m.dueSteps, 0⟩ :: g.bursts)
    rw [Burst.allMade_cons, h.steps]
    exact (Nat.zero_add _).symm

end Machine

namespace Turn

variable {host : Host s} {m : Machine κ Rat s} {rate : Rate Rat} {k : Nat} {g : Throttling}

/-- Every turn that the loop permits keeps the pace to the history and makes the steps that are left. -/
theorem metered_after (hfails : host.NeverFails) (hrate : 0 ≤ rate.value) {x : Turn κ} (hx : x.Timely)
    (hmay : x.Permitted m k) (h : m.Metered rate k g) :
    (x.after host m).Metered rate (x.allowance m k) (x.throttle host m g) := by
  have hsame {t : Machine κ Rat s} (ht : t.tempo = m.tempo) : t.Metered rate k g := by
    refine h.withLine ?_
    rw [ht]
    exact h.paced
  cases x with
  | call c single =>
    cases c with
    | step =>
      -- the pace is some cadence, so the step must have been allowed
      have hk : 0 < k := by
        rcases hmay.step rfl with hk | ⟨hnone, -⟩
        · exact hk
        · have hpace : m.pace = some _ := h.paced.pace
          rw [hnone] at hpace
          cases hpace
      have hcounted := h.step hk
      refine hcounted.withLine ?_
      cases hhalted : m.halted with
      | true =>
        have hstep : Call.step.after host m = m :=
          congrArg Prod.snd (Machine.exec_step_of_halted host hhalted)
        have hpaced := hcounted.paced
        rw [← hpaced.pause_if_paused (now (next (next m.clock)))] at hpaced
        show (Call.step.after host m).tempo.Paced rate
          (if (Call.step.after host m).paused then _ else _) g.polled
        rw [hstep]
        exact hpaced
      | false => exact Machine.paced_of_polled hcounted.paced (Machine.touched_step host hhalted)
    | tick => exact hx.elim
    | load program =>
      obtain ⟨T, hT, hload⟩ := Machine.touched_load hfails program m
      exact Machine.metered_restart h hT hload
    | reset =>
      obtain ⟨T, hT, hreset⟩ := Machine.touched_reset hfails m
      exact Machine.metered_restart h hT hreset
    | inputKey key down => exact hsame (Machine.tempo_inputKey key down m)
    | inputKeys changes => exact hsame (Machine.tempo_inputKeys changes m)
    | pause =>
      have hpause := h.paced.still
      rw [Tempo.still, ← Machine.tempo_pause] at hpause
      exact h.withLine hpause
    | resume =>
      have hresume := h.paced.resume
      rw [← Machine.tempo_resume] at hresume
      exact h.withLine hresume
    | run look looks => cases single
    | switch strict tracing => exact hsame rfl
    | elapse move => exact h.withLine (h.paced.onward rfl rfl rfl (hx m.clock h.paced.steady))
  | service => exact h.withLine (Machine.paced_of_polled h.paced (Machine.touched_serviceTimers host m))
  | pollPace =>
    obtain ⟨rfl, -⟩ := hmay.poll rfl
    exact Machine.metered_pollPace hrate h
  | signal change => exact hsame rfl

/-- Turns that the loop permits keep the pace to the history, by induction from a single one. -/
theorem metered_afterAll (hfails : host.NeverFails) (hrate : 0 ≤ rate.value) {xs : List (Turn κ)}
    (hxs : ∀ x ∈ xs, x.Timely) (hmay : Along Permitted host xs m k) (h : m.Metered rate k g) :
    (afterAll host xs m).Metered rate (allowed host xs m k) (track host (throttle host) xs m g) := by
  induction xs generalizing m k g with
  | nil => exact h
  | cons x xs ih =>
    have hx := metered_after hfails hrate (hxs x List.mem_cons_self) hmay.1 h
    exact ih (fun y hy => hxs y (List.mem_cons_of_mem _ hy)) hmay.2 hx

end Turn

/-- The history of a new machine begins. -/
theorem Machine.metered_create {settings : Settings Rat} (hpace : Seconds.isPositive settings.pace = true)
    {clock : κ} (hclock : Steady clock) (noise : Nat → UInt8) :
    (create settings clock noise : Machine κ Rat s).Metered settings.pace 0 (.restart false clock) := by
  have hcadence : Cadence.create? settings.pace = some ⟨settings.pace, .fresh, 0⟩ := if_pos hpace
  -- a machine is created with a restart of its cadences; the timeline begins at the second reading, since
  -- the timers take the first
  have hrestart (T : Tempo κ Rat) (hpace : T.pace = some ⟨settings.pace, .fresh, 0⟩)
      (hpaused : T.paused = false) (hon : T.clock = clock) :
      T.restart.Paced settings.pace (.start (now (next clock))) 0 := by
    subst hon
    have h := Tempo.paced_restart hpace hclock
    rw [hpaused] at h
    exact h
  have hpaced : (create settings clock noise : Machine κ Rat s).tempo.Paced settings.pace
      (.start (now (next clock))) 0 := by
    rw [create, tempo_reset Host.inert_neverPauses Host.inert_neverFails]
    exact hrestart _ hcadence rfl rfl
  refine ⟨hpaced, ?_, rfl, rfl⟩
  show ((0 : Nat) : Int) = ⌊settings.pace.value * 0⌋
  rw [mul_zero, Int.floor_zero]
  rfl

/-! ## The bound

What the invariant says of the number of steps, during a burst and after it. -/

namespace Throttling

variable {g : Throttling}

/-- The steps are within `f` periods a second. -/
structure Within (g : Throttling) (f : Rat) : Prop where
  /-- The steps are no more than the periods that had passed by the latest poll. -/
  steps_le : (g.steps : Int) ≤ ⌊f * g.polled⌋
  /-- Each of these periods was found due by one of the polls, and by no other. -/
  due : (Burst.allDue g.bursts : Int) = ⌊f * g.polled⌋
  /-- Each step was made after one of the polls. -/
  steps : g.steps = Burst.allMade g.bursts
  /-- No more steps followed a poll than it found due, and no more than a thousand. -/
  burst : ∀ b ∈ g.bursts, b.made ≤ min b.due 1000

/-- The steps have caught up with `f` periods a second, as far as a thousand at once can do. -/
structure CaughtUp (g : Throttling) (f : Rat) : Prop where
  burst : ∀ b ∈ g.bursts, b.made = min b.due 1000
  steps : (∀ b ∈ g.bursts, b.due ≤ 1000) → (g.steps : Int) = ⌊f * g.polled⌋

theorem within_of_metered {m : Machine κ Rat s} {rate : Rate Rat} {k : Nat} (h : m.Metered rate k g) :
    g.Within rate.value := by
  refine ⟨?_, h.due, h.steps, h.left.made_le⟩
  have hle := h.left.allMade_le
  rw [h.steps, ← h.due]
  exact Int.ofNat_le.mpr hle

theorem caughtUp_of_metered {m : Machine κ Rat s} {rate : Rate Rat} (h : m.Metered rate 0 g) :
    g.CaughtUp rate.value := by
  refine ⟨h.left.made_eq, fun hdue => ?_⟩
  rw [h.steps, ← h.due, h.left.allMade_eq hdue]

end Throttling

/-- The bound does not need the loop to go on undisturbed: it holds whatever is done between its turns, the
    machine paused, resumed, reset or loaded by others, as long as the loop permits the steps and polls that
    are made. -/
theorem Turn.within_afterAll {host : Host s} (hfails : host.NeverFails) {settings : Machine.Settings Rat}
    (hpace : Seconds.isPositive settings.pace = true) {clock : κ} (hclock : Steady clock)
    (noise : Nat → UInt8) {xs : List (Turn κ)} (hxs : ∀ x ∈ xs, x.Timely)
    (hmay : Along Permitted host xs (.create settings clock noise) 0) :
    (throttling host xs (.create settings clock noise) clock).Within settings.pace.value ∧
      (allowed host xs (.create settings clock noise) 0 = 0 →
        (throttling host xs (.create settings clock noise) clock).CaughtUp settings.pace.value) := by
  have hrun := metered_afterAll hfails (Rate.value_pos hpace).le hxs hmay
    (Machine.metered_create hpace hclock noise)
  refine ⟨Throttling.within_of_metered hrun, fun hleft => ?_⟩
  rw [hleft] at hrun
  exact Throttling.caughtUp_of_metered hrun

namespace Call

variable {host : Host s}

/-- At any time of any runs, between which the machine may be paused, resumed, reset and loaded, the steps
    since the last reset or load are no more than the periods that had passed by the latest poll of the
    pace, and each burst is no longer than a thousand steps, what its poll found beyond them being lost. As
    soon as a burst is over and the machine is not halted, the steps have caught up. -/
theorem throttled_allTurns (hfails : host.NeverFails) {settings : Machine.Settings Rat}
    (hpace : Seconds.isPositive settings.pace = true) {clock : κ} (hclock : Steady clock)
    (noise : Nat → UInt8) {cs : List (Call κ)} (hcs : ∀ c ∈ cs, c ≠ .step ∧ c.Timely)
    {xs ys : List (Turn κ)} (hturns : allTurns host cs (.create settings clock noise) = xs ++ ys) :
    (Turn.throttling host xs (.create settings clock noise) clock).Within settings.pace.value ∧
      ((∀ y ∈ ys.head?, y.kind ≠ .step) →
        (Turn.afterAll host xs (.create settings clock noise)).halted = false →
        (Turn.throttling host xs (.create settings clock noise) clock).CaughtUp settings.pace.value) := by
  have htidy := tidy_allTurns hfails (fun c hc => (hcs c hc).1)
    (Machine.bounded_create settings clock noise) (Or.inl rfl : 0 = 0 ∨ _)
  rw [hturns] at htidy
  obtain ⟨hxs, hys⟩ := Turn.along_append.mp htidy.orderly
  have htimely (x : Turn κ) (hx : x ∈ xs) : x.Timely := by
    have hmem : x ∈ allTurns host cs (.create settings clock noise) := by
      rw [hturns]
      exact List.mem_append_left ys hx
    obtain ⟨c, hc, hpart⟩ := exists_of_mem_allTurns hmem
    exact hpart.timely (hcs c hc).2
  obtain ⟨hwithin, hcaught⟩ := Turn.within_afterAll hfails hpace hclock noise htimely
    (hxs.imp fun _ _ _ h => h.toPermitted)
  refine ⟨hwithin, fun hnext hhalted => hcaught ?_⟩
  -- a turn that is no step comes only when the steps that are allowed are made, and so does the end
  have hleft : Turn.allowed host xs (.create settings clock noise) 0 = 0 ∨
      (Turn.afterAll host xs (.create settings clock noise)).halted = true := by
    cases ys with
    | nil =>
      rw [List.append_nil] at htidy
      exact htidy.ended trivial
    | cons y ys => exact hys.1.rest (hnext y rfl)
  rw [hhalted] at hleft
  exact hleft.resolve_right (by decide)

/-- A new machine on a clock that stands still, throttled to ten instructions a second. -/
def throttled : Machine (ManualClock Rat) Rat .standard :=
  .create { pace := .whole 10 } ⟨0, 0, 0⟩ fun _ => 0

/-- A program that jumps to itself, two looks of a second, a pause of a second, and two looks of half a
    second. -/
def drive : List (Call (ManualClock Rat)) :=
  [.load ⟨"", [0x12, 0x00], by decide⟩, .run (·.advance 1) 2, .pause, .elapse (·.advance 1), .resume,
    .run (·.advance (1 / 2)) 2]

/-- In this run the steps are within ten a second, and if the machine was not halted they have caught up. -/
theorem throttled_drive :
    (Turn.throttling Host.inert (allTurns Host.inert drive throttled) throttled
        (⟨0, 0, 0⟩ : ManualClock Rat)).Within 10 ∧
      ((Turn.afterAll Host.inert (allTurns Host.inert drive throttled) throttled).halted = false →
        (Turn.throttling Host.inert (allTurns Host.inert drive throttled) throttled
          (⟨0, 0, 0⟩ : ManualClock Rat)).CaughtUp 10) := by
  have hclock : Steady (⟨0, 0, 0⟩ : ManualClock Rat) := ManualClock.steady_iff.mpr (le_refl 0)
  -- no call of the drive makes a step by itself, and time goes forward in all of them
  have hcalls : ∀ c ∈ drive, c ≠ .step ∧ c.Timely := by
    intro c hc
    simp only [drive, List.mem_cons, List.not_mem_nil, or_false] at hc
    rcases hc with rfl | rfl | rfl | rfl | rfl | rfl
    · exact ⟨by simp, trivial⟩
    · exact ⟨by simp, ManualClock.forward_advance (by norm_num)⟩
    · exact ⟨by simp, trivial⟩
    · exact ⟨by simp, ManualClock.forward_advance (by norm_num)⟩
    · exact ⟨by simp, trivial⟩
    · exact ⟨by simp, ManualClock.forward_advance (by norm_num)⟩
  have hrate : ((10 : Int) : Rat) = 10 := by norm_num
  have hpace : Seconds.isPositive ({ pace := .whole 10 } : Machine.Settings Rat).pace = true := rfl
  have hturns : allTurns Host.inert drive throttled = allTurns Host.inert drive throttled ++ [] :=
    (List.append_nil _).symm
  have hdrive := throttled_allTurns Host.inert_neverFails hpace hclock (fun _ => 0) hcalls hturns
  rw [← hrate]
  exact ⟨hdrive.1, hdrive.2 fun y hy => by cases hy⟩

end Call

end Chip8
