import Chip8.Proofs.Uptime
/-!
What a stopwatch measures.

A watch is started, stopped, paused, resumed, reset, restarted, entered, left and read in any order
(`Action`), while its clock goes on.

1. **Specification** — `Course` writes down the readings between which the watch ran since it was last set
   back, by what is done alone: `Action.drawn` does not look at the watch. `Measures` says that the watch
   answers the length of these intervals.

2. **Invariant** — the watch agrees with the readings, `x.watch = .ofTimeline x.line`. Each action keeps it
   (`Course.watch_after`), whatever the clock does, and so do all (`watch_afterAll`).

3. **Clocks** — if the clock never goes back, no negative time is measured, and of all actions only a reset
   and a restart take anything of the measured time away (`Kept.elapsed_le_after`).

4. **The flag** — that a watch runs is told here by its mark. `Flagged` is a watch with a flag of its own,
   which goes by the flag and has no answer where the mark is missing; it never is (`Action.actAll_flagged`).
-/

namespace Chip8.Stopwatch

open Clock (now next Steady From Forward)

variable {κ τ : Type}

/-- What is done with a watch, and what its clock does meanwhile. -/
inductive Action (κ : Type) where
  | start
  | stop
  | pause
  | resume
  | reset
  | restart
  | enter
  | leave
  /-- Ask for the elapsed time. -/
  | read
  | elapse (move : κ → κ)

namespace Action

/-- The actions that open an interval. -/
def Starts : Action κ → Prop
  | start | resume | enter => True
  | _ => False

/-- The actions that close an interval. -/
def Stops : Action κ → Prop
  | stop | pause | leave => True
  | _ => False

/-- The actions that forget the intervals. -/
def Resets : Action κ → Prop
  | reset | restart => True
  | _ => False

/-- A watch and its clock after an action. -/
def act [Seconds τ] [Clock κ τ] (a : Action κ) (w : Stopwatch τ) (clock : κ) : Stopwatch τ × κ :=
  match a with
  | start | resume | enter => w.start clock
  | stop | pause | leave => w.stop clock
  | reset => (.fresh, clock)
  | restart => w.restart clock
  | read => (w, (w.elapsed clock).2)
  | elapse move => (w, move clock)

end Action

/-! ## A flag beside the mark

A watch with three variables, one of which says whether it runs. It goes in step with the watch whose mark
says so itself. -/

/-- A watch as three variables; the flag alone tells whether it runs. -/
structure Flagged (τ : Type) where
  mark : Option τ
  accumulated : τ
  running : Bool

namespace Flagged

variable [Seconds τ] [Clock κ τ]

def fresh : Flagged τ := ⟨none, Seconds.zero, false⟩

def start (w : Flagged τ) (clock : κ) : Flagged τ × κ :=
  if w.running then (w, clock)
  else
    let (now, clock) := Clock.read clock
    ({ w with mark := some now, running := true }, clock)

/-- Stopping a watch that runs needs its mark. -/
def stop (w : Flagged τ) (clock : κ) : Option (Flagged τ × κ) :=
  if w.running then
    w.mark.map fun began =>
      let (now, clock) := Clock.read clock
      (⟨none, Seconds.add w.accumulated (Seconds.sub now began), false⟩, clock)
  else some (w, clock)

/-- Asking a watch that runs for its time needs its mark. -/
def elapsed (w : Flagged τ) (clock : κ) : Option (τ × κ) :=
  if w.running then
    w.mark.map fun began =>
      let (now, clock) := Clock.read clock
      (Seconds.add w.accumulated (Seconds.sub now began), clock)
  else some (w.accumulated, clock)

/-- A watch and its clock after an action, unless a mark was missing. -/
def act (a : Action κ) (w : Flagged τ) (clock : κ) : Option (Flagged τ × κ) :=
  match a with
  | .start | .resume | .enter => some (w.start clock)
  | .stop | .pause | .leave => w.stop clock
  | .reset => some (fresh, clock)
  | .restart => some (fresh.start clock)
  | .read => (w.elapsed clock).map fun (_, clock) => (w, clock)
  | .elapse move => some (w, move clock)

/-- A watch and its clock after actions, unless a mark was missing at one of them. -/
def actAll : List (Action κ) → Flagged τ → κ → Option (Flagged τ × κ)
  | [], w, clock => some (w, clock)
  | a :: rest, w, clock => (w.act a clock).bind fun (w, clock) => actAll rest w clock

end Flagged

/-- The three variables of a watch. -/
def flagged (w : Stopwatch τ) : Flagged τ := ⟨w.startedAt, w.accumulated, w.running⟩

section Flagged

variable [Seconds τ] [Clock κ τ] (w : Stopwatch τ) (clock : κ)

omit [Seconds τ] in
theorem start_flagged :
    w.flagged.start clock = ((w.start clock).1.flagged, (w.start clock).2) := by
  obtain ⟨_ | began, accumulated⟩ := w <;> rfl

theorem stop_flagged :
    w.flagged.stop clock = some ((w.stop clock).1.flagged, (w.stop clock).2) := by
  obtain ⟨_ | began, accumulated⟩ := w <;> rfl

theorem elapsed_flagged : w.flagged.elapsed clock = some (w.elapsed clock) := by
  obtain ⟨_ | began, accumulated⟩ := w <;> rfl

/-- No action finds a mark missing. -/
theorem act_flagged (a : Action κ) :
    w.flagged.act a clock = some ((a.act w clock).1.flagged, (a.act w clock).2) := by
  cases a with
  | start | resume | enter => exact congrArg some (start_flagged w clock)
  | stop | pause | leave => exact stop_flagged w clock
  | reset => rfl
  | restart => exact congrArg some (start_flagged .fresh clock)
  | read =>
    rw [Flagged.act, elapsed_flagged]
    rfl
  | elapse move => rfl

end Flagged

/-! ## Courses

The specification: the intervals between the readings at which the watch was started and stopped, since it
was last set back. -/

variable [Clock κ Rat]

/-- A watch with its clock, and the readings between which it ran since it was last set back. -/
structure Course (κ : Type) where
  watch : Stopwatch Rat
  clock : κ
  line : Timeline

namespace Course

/-- A new watch. -/
def fresh (clock : κ) : Course κ := ⟨.fresh, clock, ⟨[], none⟩⟩

/-- The time that the watch would answer. -/
def elapsed (x : Course κ) : Rat := (x.watch.elapsed x.clock).1

end Course

namespace Action

/-- What an action makes of the readings, if it finds the given one on the clock. -/
def drawn (reading : Rat) (line : Timeline) : Action κ → Timeline
  | start | resume | enter => line.resume reading
  | stop | pause | leave => line.pause reading
  | reset => ⟨[], none⟩
  | restart => .start reading
  | read | elapse _ => line

/-- A course after an action. -/
def after (a : Action κ) (x : Course κ) : Course κ :=
  let (watch, clock) := a.act x.watch x.clock
  ⟨watch, clock, a.drawn (now x.clock) x.line⟩

/-- A course after actions. -/
def afterAll (actions : List (Action κ)) (x : Course κ) : Course κ :=
  actions.foldl (fun x a => a.after x) x

/-- An action that takes no clock back. -/
def Timely : Action κ → Prop
  | elapse move => Forward move
  | _ => True

/-- Actions in a row never find a mark missing, and both watches go through the same states. -/
theorem actAll_flagged (actions : List (Action κ)) (x : Course κ) :
    Flagged.actAll actions x.watch.flagged x.clock =
      some ((afterAll actions x).watch.flagged, (afterAll actions x).clock) := by
  induction actions generalizing x with
  | nil => rfl
  | cons a rest ih =>
    rw [Flagged.actAll, act_flagged]
    exact ih (a.after x)

end Action

namespace Course

variable {x : Course κ} {a : Action κ}

/-- A watch agrees with the readings after an action as before it. -/
theorem watch_after (h : x.watch = .ofTimeline x.line) (a : Action κ) :
    (a.after x).watch = .ofTimeline (a.after x).line := by
  obtain ⟨watch, clock, line⟩ := x
  obtain rfl : watch = .ofTimeline line := h
  cases a with
  | start | resume | enter => exact start_ofTimeline line clock
  | stop | pause | leave => exact stop_ofTimeline line clock
  | reset | restart => rfl
  | read | elapse move => rfl

theorem watch_afterAll (h : x.watch = .ofTimeline x.line) (actions : List (Action κ)) :
    (Action.afterAll actions x).watch = .ofTimeline (Action.afterAll actions x).line := by
  induction actions generalizing x with
  | nil => exact h
  | cons a rest ih => exact ih (watch_after h a)

/-- A watch that agrees with the readings answers their total. -/
theorem elapsed_eq (h : x.watch = .ofTimeline x.line) : x.elapsed = x.line.total (now x.clock) := by
  rw [elapsed, h]
  exact elapsed_ofTimeline x.line x.clock

/-! ## Clocks that do not go back

Only for such clocks is the elapsed time never negative and never less than before. -/

theorem from_after (h : Steady x.clock) (ha : a.Timely) : From (now x.clock) (a.after x).clock := by
  have hnow := h.from_now
  cases a with
  | start | resume | enter => exact from_start hnow
  | stop | pause | leave => exact from_stop hnow
  | reset => exact hnow
  | restart => exact from_start (w := .fresh) hnow
  | read => exact from_elapsed hnow
  | elapse move => exact ha x.clock h

/-- The invariant on clocks that do not go back: the watch agrees with the readings, and no negative time was
    measured. -/
structure Kept (x : Course κ) : Prop where
  watch : x.watch = .ofTimeline x.line
  steady : Steady x.clock
  nonneg : 0 ≤ x.elapsed

namespace Kept

/-- An action that forgets no interval takes nothing of the elapsed time away. -/
theorem elapsed_le_after (h : Kept x) (ha : a.Timely) (hresets : ¬a.Resets) :
    x.elapsed ≤ (a.after x).elapsed := by
  have hlater := (from_after h.steady ha).2
  rw [elapsed_eq h.watch, elapsed_eq (watch_after h.watch a)]
  cases a with
  | start | resume | enter => exact Timeline.total_le_resume hlater hlater
  | stop | pause | leave => exact Timeline.total_le_pause (le_refl _) _
  | reset | restart => exact absurd trivial hresets
  | read | elapse move => exact Timeline.total_mono hlater

/-- An action that forgets the intervals leaves no time but what has passed since. -/
theorem elapsed_nonneg_after (h : Kept x) (ha : a.Timely) (hresets : a.Resets) :
    0 ≤ (a.after x).elapsed := by
  have hlater := (from_after h.steady ha).2
  rw [elapsed_eq (watch_after h.watch a)]
  cases a with
  | reset => exact (Timeline.total_none _).ge
  | restart => exact (sub_nonneg.mpr hlater).trans_eq (Timeline.total_start _ _).symm
  | start | resume | enter | stop | pause | leave | read | elapse move => exact hresets.elim

theorem after (h : Kept x) (ha : a.Timely) : Kept (a.after x) := by
  refine ⟨watch_after h.watch a, (from_after h.steady ha).1, ?_⟩
  by_cases hresets : a.Resets
  · exact h.elapsed_nonneg_after ha hresets
  · exact h.nonneg.trans (h.elapsed_le_after ha hresets)

variable {actions : List (Action κ)}

theorem afterAll (h : Kept x) (hactions : ∀ a ∈ actions, a.Timely) :
    Kept (Action.afterAll actions x) := by
  induction actions generalizing x with
  | nil => exact h
  | cons a rest ih =>
    obtain ⟨ha, hrest⟩ := List.forall_mem_cons.mp hactions
    exact ih (h.after ha) hrest

/-- The elapsed time does not fall in a run without resets. -/
theorem elapsed_le_afterAll (h : Kept x) (hactions : ∀ a ∈ actions, a.Timely ∧ ¬a.Resets) :
    x.elapsed ≤ (Action.afterAll actions x).elapsed := by
  induction actions generalizing x with
  | nil => exact le_refl _
  | cons a rest ih =>
    obtain ⟨⟨ha, hresets⟩, hrest⟩ := List.forall_mem_cons.mp hactions
    exact (h.elapsed_le_after ha hresets).trans (ih (h.after ha) hrest)

end Kept

omit [Clock κ Rat] in
theorem watch_fresh (clock : κ) : (fresh clock).watch = .ofTimeline (fresh clock).line := rfl

theorem kept_fresh {clock : κ} (hclock : Steady clock) : Kept (fresh clock) :=
  ⟨watch_fresh clock, hclock, le_refl 0⟩

end Course

/-! ## All runs

The invariants through all actions, and a run in which the watch is started twice and left while it stands
still. -/

/-- What is to be said of a watch, and of one with a flag of its own, after the same actions. -/
structure Measures (x : Course κ) (run : Option (Flagged Rat × κ)) : Prop where
  /-- No mark was missing. There is one exactly if the flag is set, the flag is set exactly if the watch runs,
      and both watches answer the same. -/
  marked : ∃ w, run = some (w, x.clock) ∧ w.mark.isSome = w.running ∧ w.running = x.watch.running ∧
    w.elapsed x.clock = some (x.watch.elapsed x.clock)
  /-- The watch runs exactly if the last of its intervals is open. -/
  running : x.watch.running = x.line.since.isSome
  /-- The watch answers the length of all intervals. -/
  elapsed : x.elapsed = x.line.total (now x.clock)
  /-- To start a running watch changes nothing and reads no clock. -/
  started : x.watch.running = true → ∀ a : Action κ, a.Starts → a.after x = x
  /-- To stop a watch that stands still changes nothing and reads no clock. -/
  stopped : x.watch.running = false → ∀ a : Action κ, a.Stops → a.after x = x

namespace Course

variable {x : Course κ} {a : Action κ}

theorem after_of_running (h : x.watch = .ofTimeline x.line) (hrunning : x.watch.running = true)
    (ha : a.Starts) : a.after x = x := by
  obtain ⟨watch, clock, past, since⟩ := x
  obtain rfl : watch = .ofTimeline ⟨past, since⟩ := h
  cases since with
  | none => cases hrunning
  | some began =>
    cases a with
    | start | resume | enter => rfl
    | stop | pause | leave | reset | restart | read | elapse move => exact ha.elim

theorem after_of_not_running (h : x.watch = .ofTimeline x.line) (hrunning : x.watch.running = false)
    (ha : a.Stops) : a.after x = x := by
  obtain ⟨watch, clock, past, since⟩ := x
  obtain rfl : watch = .ofTimeline ⟨past, since⟩ := h
  cases since with
  | some began => cases hrunning
  | none =>
    cases a with
    | stop | pause | leave => rfl
    | start | resume | enter | reset | restart | read | elapse move => exact ha.elim

end Course

/-- Whatever is done with a new watch, it answers the length of the intervals in which it ran since it was last
    set back, by the readings at their ends. With a clock that never goes back that is not negative, and it
    falls only where the watch is set back. -/
theorem measures_afterAll (clock : κ) (actions : List (Action κ)) :
    Measures (Action.afterAll actions (.fresh clock)) (Flagged.actAll actions .fresh clock) ∧
    (Steady clock → (∀ a ∈ actions, a.Timely) →
      0 ≤ (Action.afterAll actions (.fresh clock)).elapsed ∧
      ∀ more : List (Action κ), (∀ a ∈ more, a.Timely ∧ ¬a.Resets) →
        (Action.afterAll actions (.fresh clock)).elapsed ≤
          (Action.afterAll (actions ++ more) (.fresh clock)).elapsed) := by
  -- the watch is the one of the timeline, so all it shows is read off that
  have hwatch := Course.watch_afterAll (Course.watch_fresh clock) actions
  constructor
  · constructor
    case marked =>
      exact ⟨_, Action.actAll_flagged actions (.fresh clock), rfl, rfl, elapsed_flagged _ _⟩
    case running =>
      rw [hwatch]
      rfl
    case elapsed => exact Course.elapsed_eq hwatch
    case started =>
      intro hrunning a ha
      exact Course.after_of_running hwatch hrunning ha
    case stopped =>
      intro hrunning a ha
      exact Course.after_of_not_running hwatch hrunning ha
  · intro hclock hactions
    have hkept := (Course.kept_fresh hclock).afterAll hactions
    refine ⟨hkept.nonneg, ?_⟩
    intro more hmore
    rw [Action.afterAll, Action.afterAll, List.foldl_append]
    exact hkept.elapsed_le_afterAll hmore

/-- Two seconds, a pause of five, and one second more. The watch is started while it runs and left while it
    stands still. -/
def outing : List (Action (ManualClock Rat)) :=
  [.start, .elapse (·.advance 2), .start, .pause, .elapse (·.advance 5), .leave, .resume,
    .elapse (·.advance 1)]

/-- Each reading takes a quarter of a second, and there are three until the watch is asked. -/
theorem measures_outing :
    (Action.afterAll outing (.fresh ⟨0, 1 / 4, 0⟩)).elapsed = 7 / 2 ∧
    0 ≤ (Action.afterAll outing (.fresh ⟨0, 1 / 4, 0⟩)).elapsed ∧
    (Action.afterAll outing (.fresh ⟨0, 1 / 4, 0⟩)).elapsed ≤
      (Action.afterAll (outing ++ [.read, .stop, .elapse (·.advance 1)]) (.fresh ⟨0, 1 / 4, 0⟩)).elapsed := by
  have hclock : Steady (⟨0, 1 / 4, 0⟩ : ManualClock Rat) := ManualClock.steady_iff.mpr (by norm_num)
  have htimely {dt : Rat} (h : 0 ≤ dt) : (Action.elapse (ManualClock.advance dt)).Timely :=
    ManualClock.forward_advance h
  obtain ⟨hmeasures, hlater⟩ := measures_afterAll (⟨0, 1 / 4, 0⟩ : ManualClock Rat) outing
  have houting : ∀ a ∈ outing, a.Timely := by
    simp only [outing, List.forall_mem_cons]
    exact ⟨trivial, htimely (by norm_num), trivial, trivial, htimely (by norm_num), trivial, trivial,
      htimely (by norm_num), List.forall_mem_nil _⟩
  obtain ⟨hnonneg, hmono⟩ := hlater hclock houting
  refine ⟨?_, hnonneg, hmono _ ?_⟩
  · -- the readings of the clock, written out along the actions
    rw [hmeasures.elapsed]
    show (⟨[(0, 0 + 1 / 4 + 2)], some (0 + 1 / 4 + 2 + 1 / 4 + 5)⟩ : Timeline).total
      (0 + 1 / 4 + 2 + 1 / 4 + 5 + 1 / 4 + 1) = 7 / 2
    norm_num [Timeline.total, Timeline.closed]
  · simp only [List.forall_mem_cons]
    exact ⟨⟨trivial, id⟩, ⟨trivial, id⟩, ⟨htimely (by norm_num), id⟩, List.forall_mem_nil _⟩

end Chip8.Stopwatch
