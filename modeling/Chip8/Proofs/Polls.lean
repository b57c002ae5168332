import Chip8.Proofs.Pace
/-!
The periods that a cadence gives out.

A cadence is polled for the periods that are due since the last poll. Each answer is rounded down, and the
cadence is paused, resumed and started over in between, so periods could be lost or given out twice.

1. **Program** — `Use` is all that is done with a cadence, in any order, while its clock goes on. The
   arithmetic is that of the program: it keeps the number of periods that were given out, and answers what the
   rounded running time has beyond it, but not less than zero.

2. **Specification** — `Diary` writes down what happens from the latest start on: the timeline of the
   readings, what the polls answered, and the running time that the latest poll read. `Conserves` says that
   the answers sum up to the rounded periods of that time.

3. **Invariant** — `Kept`: the watch agrees with the timeline, and the periods consumed are those of the
   running time that was read, which no later reading falls below. So a poll answers exactly what the answers
   before it are short of, and none is cut off at zero. Each use keeps it (`Kept.after`).

4. **Runs** — by induction over the uses the sum depends on the last poll only, not on the polls before it
   (`conservation`).
-/

namespace Chip8

open Clock (now next Steady From Forward)

namespace Cadence

variable {κ : Type} [Clock κ Rat] {rate : Rate Rat}

/-- What is done with a cadence, and what its clock does meanwhile. -/
inductive Use (κ : Type) where
  | start
  | pause
  | resume
  | due
  | elapse (move : κ → κ)

/-- A cadence since its latest start, or since it was made. -/
structure Diary where
  /-- When it ran. -/
  line : Timeline := ⟨[], none⟩
  /-- What the polls answered. -/
  answers : List Int := []
  /-- The running time that the latest of them read. -/
  read : Rat := 0

/-- A cadence with its clock and its diary. -/
structure Course (κ : Type) where
  cadence : Cadence Rat
  clock : κ
  diary : Diary := {}

namespace Use

/-- The answer of a poll is written down, if it is one. -/
def polled (x : Course κ) : Course κ :=
  match x.cadence.due x.clock with
  | (.error _, clock) => { x with clock }
  | (.ok (n, cadence), clock) => ⟨cadence, clock,
    { x.diary with answers := x.diary.answers ++ [n], read := (x.cadence.watch.elapsed x.clock).1 }⟩

/-- The cadence after a use. -/
def after (u : Use κ) (x : Course κ) : Course κ :=
  match u with
  | start =>
    let (cadence, clock) := x.cadence.start x.clock
    ⟨cadence, clock, { line := .start (now x.clock) }⟩
  | pause =>
    let (cadence, clock) := x.cadence.pause x.clock
    ⟨cadence, clock, { x.diary with line := x.diary.line.pause (now x.clock) }⟩
  | resume =>
    let (cadence, clock) := x.cadence.resume x.clock
    ⟨cadence, clock, { x.diary with line := x.diary.line.resume (now x.clock) }⟩
  | due => polled x
  | elapse move => { x with clock := move x.clock }

/-- The cadence after uses. -/
def afterAll (us : List (Use κ)) (x : Course κ) : Course κ := us.foldl (fun x u => u.after x) x

/-- A use that takes no clock back. -/
def Timely : Use κ → Prop
  | elapse move => Forward move
  | _ => True

end Use

/-! ## One use

Every use keeps the agreement of cadence and diary. A cadence does not store its answers. It stores how many
periods it has counted in all, and the sum of the answers is shown to be that number. -/

/-- The invariant: the cadence agrees with its diary. The running time that was read last is never above the
    present one, so that no answer has to be cut off at zero. -/
structure Kept (rate : Rate Rat) (x : Course κ) : Prop where
  cadence : x.cadence = ⟨rate, .ofTimeline x.diary.line, ⌊rate.value * x.diary.read⌋⟩
  nonneg : 0 ≤ x.diary.read
  read : x.diary.read ≤ x.diary.line.total (now x.clock)
  steady : Steady x.clock
  answers : ∀ n ∈ x.diary.answers, 0 ≤ n
  sum : x.diary.answers.sum = ⌊rate.value * x.diary.read⌋

namespace Kept

variable {x : Course κ}

/-- A poll reads the running time and answers the periods that are still missing. -/
theorem due_eq (h : Kept rate x) (hrate : 0 ≤ rate.value) :
    x.cadence.due x.clock =
      (.ok (⌊rate.value * x.diary.line.total (now x.clock)⌋ - ⌊rate.value * x.diary.read⌋,
        ⟨rate, .ofTimeline x.diary.line, ⌊rate.value * x.diary.line.total (now x.clock)⌋⟩),
        (x.cadence.watch.elapsed x.clock).2) := by
  rw [h.cadence]
  exact due_ofTimeline hrate (h.nonneg.trans h.read)
    (Int.floor_le_floor (mul_le_mul_of_nonneg_left h.read hrate))

theorem elapsed_eq (h : Kept rate x) :
    (x.cadence.watch.elapsed x.clock).1 = x.diary.line.total (now x.clock) := by
  rw [h.cadence]
  exact Stopwatch.elapsed_ofTimeline _ _

/-- A start begins a new diary: what was not given out by then is dropped. -/
theorem start (h : Kept rate x) : Kept rate (Use.start.after x) := by
  have hclock : From (now x.clock) (x.cadence.start x.clock).2 :=
    Stopwatch.from_start (w := .fresh) h.steady.from_now
  have htotal : 0 ≤ (Timeline.start (now x.clock)).total (now (x.cadence.start x.clock).2) := by
    rw [Timeline.total_start]
    exact sub_nonneg.mpr hclock.2
  have hnothing : ⌊rate.value * 0⌋ = 0 := by rw [mul_zero, Int.floor_zero]
  refine ⟨?_, le_refl 0, htotal, hclock.1, fun n hn => absurd hn List.not_mem_nil, hnothing.symm⟩
  have hrate : x.cadence.rate = rate := congrArg Cadence.rate h.cadence
  show (⟨x.cadence.rate, .ofTimeline (.start (now x.clock)), 0⟩ : Cadence Rat) = ⟨rate, _, ⌊rate.value * 0⌋⟩
  rw [hrate, hnothing]
  rfl

/-- A pause loses none of the running time. -/
theorem pause (h : Kept rate x) : Kept rate (Use.pause.after x) := by
  have hclock : From (now x.clock) (x.cadence.pause x.clock).2 := Stopwatch.from_stop h.steady.from_now
  refine ⟨?_, h.nonneg, ?_, hclock.1, h.answers, h.sum⟩
  · show (x.cadence.pause x.clock).1 = _
    rw [h.cadence, Cadence.pause]
    dsimp only [Use.after]
    rw [Stopwatch.stop_ofTimeline]
  · exact h.read.trans (Timeline.total_le_pause (le_refl _) _)

/-- A resumption loses none of the running time. -/
theorem resume (h : Kept rate x) : Kept rate (Use.resume.after x) := by
  have hclock : From (now x.clock) (x.cadence.resume x.clock).2 := Stopwatch.from_start h.steady.from_now
  refine ⟨?_, h.nonneg, ?_, hclock.1, h.answers, h.sum⟩
  · show (x.cadence.resume x.clock).1 = _
    rw [h.cadence, Cadence.resume]
    dsimp only [Use.after]
    rw [Stopwatch.start_ofTimeline]
  · exact h.read.trans (Timeline.total_le_resume hclock.2 hclock.2)

/-- The cadence after a poll. -/
theorem after_due (h : Kept rate x) (hrate : 0 ≤ rate.value) :
    Use.due.after x = ⟨⟨rate, .ofTimeline x.diary.line, ⌊rate.value * x.diary.line.total (now x.clock)⌋⟩,
      (x.cadence.watch.elapsed x.clock).2,
      { line := x.diary.line
        answers := x.diary.answers ++
          [⌊rate.value * x.diary.line.total (now x.clock)⌋ - ⌊rate.value * x.diary.read⌋]
        read := x.diary.line.total (now x.clock) }⟩ := by
  show Use.polled x = _
  rw [Use.polled, h.due_eq hrate]
  dsimp only
  rw [h.elapsed_eq]

/-- A poll answers no fewer than none, and with its answer the sum is what it has to be. -/
theorem due (h : Kept rate x) (hrate : 0 ≤ rate.value) : Kept rate (Use.due.after x) := by
  have hclock : From (now x.clock) (x.cadence.watch.elapsed x.clock).2 :=
    Stopwatch.from_elapsed h.steady.from_now
  -- the earlier reading has no more periods, so what is answered is no negative number
  have hmono : ⌊rate.value * x.diary.read⌋ ≤ ⌊rate.value * x.diary.line.total (now x.clock)⌋ :=
    Int.floor_le_floor (mul_le_mul_of_nonneg_left h.read hrate)
  have hsum := h.sum
  rw [h.after_due hrate]
  refine ⟨rfl, h.nonneg.trans h.read, Timeline.total_mono hclock.2, hclock.1, ?_, ?_⟩
  · intro n hn
    rcases List.mem_append.mp hn with hn | hn
    · exact h.answers n hn
    · obtain rfl := List.mem_singleton.mp hn
      omega
  · dsimp only
    rw [List.sum_append, List.sum_singleton]
    omega

/-- The time that passes is not read yet. -/
theorem elapse (h : Kept rate x) {clock : κ} (hclock : From (now x.clock) clock) :
    Kept rate { x with clock } :=
  ⟨h.cadence, h.nonneg, h.read.trans (Timeline.total_mono hclock.2), hclock.1, h.answers, h.sum⟩

/-- A cadence keeps to its diary at every use. -/
theorem after (h : Kept rate x) (hrate : 0 ≤ rate.value) {u : Use κ} (hu : u.Timely) :
    Kept rate (u.after x) := by
  cases u with
  | start => exact h.start
  | pause => exact h.pause
  | resume => exact h.resume
  | due => exact h.due hrate
  | elapse move => exact h.elapse (hu x.clock h.steady)

/-- A cadence keeps to its diary over any number of uses. -/
theorem afterAll (h : Kept rate x) (hrate : 0 ≤ rate.value) {us : List (Use κ)}
    (hus : ∀ u ∈ us, u.Timely) : Kept rate (Use.afterAll us x) := by
  induction us generalizing x with
  | nil => exact h
  | cons u us ih =>
    obtain ⟨hu, hus⟩ := List.forall_mem_cons.mp hus
    exact ih (h.after hrate hu) hus

end Kept

theorem eq_of_create? {c : Cadence Rat} (hc : create? rate = some c) : c = ⟨rate, .fresh, 0⟩ := by
  unfold create? at hc
  split at hc
  · exact (Option.some.inj hc).symm
  · cases hc

/-- A new cadence has a new diary. -/
theorem kept_create {c : Cadence Rat} (hc : create? rate = some c) {clock : κ} (hclock : Steady clock) :
    Kept rate (⟨c, clock, {}⟩ : Course κ) := by
  have hnothing : ⌊rate.value * 0⌋ = 0 := by rw [mul_zero, Int.floor_zero]
  refine ⟨?_, le_refl 0, (Timeline.total_none _).ge, hclock, fun n hn => absurd hn List.not_mem_nil,
    hnothing.symm⟩
  show c = ⟨rate, .ofTimeline ⟨[], none⟩, ⌊rate.value * 0⌋⟩
  rw [eq_of_create? hc, hnothing]
  rfl

/-! ## All uses

The sum telescopes: each poll answers what was missing, so what was answered at each poll before it does not
matter. -/

/-- What a cadence gives out. -/
structure Conserves (rate : Rate Rat) (x : Course κ) : Prop where
  /-- No answer is below zero. -/
  nonneg : ∀ n ∈ x.diary.answers, 0 ≤ n
  /-- The answers since the latest start are together the periods of the running time that the latest of the
      polls read. -/
  sum : x.diary.answers.sum = ⌊rate.value * x.diary.read⌋
  /-- The next poll will read all of the running time, and answer what is missing then. -/
  poll : ∃ n c, (x.cadence.due x.clock).1 = .ok (n, c) ∧ 0 ≤ n ∧
    (x.cadence.watch.elapsed x.clock).1 = x.diary.line.total (now x.clock) ∧
    x.diary.answers.sum + n = ⌊rate.value * x.diary.line.total (now x.clock)⌋
  /-- After a start the first poll answers the periods since then, whatever was not given out before. -/
  fresh : ∀ clock : κ, From (now (x.cadence.start x.clock).2) clock →
    ∃ c, ((x.cadence.start x.clock).1.due clock).1 =
      .ok (⌊rate.value * (now clock - now x.clock)⌋, c)

theorem Kept.conserves {x : Course κ} (h : Kept rate x) (hrate : 0 ≤ rate.value) : Conserves rate x := by
  have hmono : ⌊rate.value * x.diary.read⌋ ≤ ⌊rate.value * x.diary.line.total (now x.clock)⌋ :=
    Int.floor_le_floor (mul_le_mul_of_nonneg_left h.read hrate)
  have hsum := h.sum
  refine ⟨h.answers, hsum, ?_, ?_⟩
  · refine ⟨_, _, congrArg Prod.fst (h.due_eq hrate), by omega, h.elapsed_eq, by omega⟩
  · intro clock hclock
    -- time passes from the start to the poll
    have hlater := h.start.elapse hclock
    have hdue : ((x.cadence.start x.clock).1.due clock).1 =
        .ok (⌊rate.value * (Timeline.start (now x.clock)).total (now clock)⌋ - ⌊rate.value * 0⌋,
          ⟨rate, .ofTimeline (.start (now x.clock)),
            ⌊rate.value * (Timeline.start (now x.clock)).total (now clock)⌋⟩) :=
      congrArg Prod.fst (hlater.due_eq hrate)
    rw [Timeline.total_start, mul_zero, Int.floor_zero, sub_zero] at hdue
    exact ⟨_, hdue⟩

theorem isPositive_of_value_pos (h : 0 < rate.value) : Seconds.isPositive rate = true := by
  cases rate with
  | whole n => exact decide_eq_true (Int.cast_pos.mp h)
  | real x => exact decide_eq_true h
  | flag b =>
    cases b with
    | false => exact absurd h (lt_irrefl 0)
    | true => rfl

/-- At every rate above zero there is a cadence, and it gives out each period of its running time once: at
    whatever times it is polled, started, paused and resumed. Two cadences that ran at the same times have
    given out as much with a last poll at the same time, however often they were polled before. -/
theorem conservation (hrate : 0 < rate.value) : ∃ c, create? rate = some c ∧
    (∀ (clock : κ) (us : List (Use κ)), Steady clock → (∀ u ∈ us, u.Timely) →
      Conserves rate (Use.afterAll us ⟨c, clock, {}⟩)) ∧
    ∀ {κ' : Type} [Clock κ' Rat] (clock : κ) (clock' : κ') (us : List (Use κ)) (us' : List (Use κ')),
      Steady clock → Steady clock' → (∀ u ∈ us, u.Timely) → (∀ u ∈ us', u.Timely) →
      (Use.afterAll us ⟨c, clock, {}⟩).diary.line = (Use.afterAll us' ⟨c, clock', {}⟩).diary.line →
      (now (Use.afterAll us ⟨c, clock, {}⟩).clock : Rat) = now (Use.afterAll us' ⟨c, clock', {}⟩).clock →
      (Use.due.after (Use.afterAll us ⟨c, clock, {}⟩)).diary.answers.sum =
        (Use.due.after (Use.afterAll us' ⟨c, clock', {}⟩)).diary.answers.sum := by
  have hcreate : create? rate = some ⟨rate, .fresh, 0⟩ := if_pos (isPositive_of_value_pos hrate)
  refine ⟨_, hcreate, ?_, ?_⟩
  · intro clock us hclock hus
    exact ((kept_create hcreate hclock).afterAll hrate.le hus).conserves hrate.le
  · -- both sums are told by the timeline and the time of the last poll
    intro κ' _ clock clock' us us' hclock hclock' hus hus' hline hnow
    have hx := (kept_create hcreate hclock).afterAll hrate.le hus
    have hy := (kept_create hcreate hclock').afterAll hrate.le hus'
    rw [(hx.due hrate.le).sum, (hy.due hrate.le).sum, hx.after_due hrate.le, hy.after_due hrate.le]
    dsimp only
    rw [hline, hnow]

/-- A second, a pause of a second, and another second, with one poll before the pause. -/
def seldom : List (Use (ManualClock Rat)) :=
  [.start, .elapse (·.advance 1), .due, .pause, .elapse (·.advance 1), .resume, .elapse (·.advance 1)]

/-- The same times, with a poll after each half of a second. -/
def often : List (Use (ManualClock Rat)) :=
  [.start, .elapse (·.advance (1 / 2)), .due, .elapse (·.advance (1 / 2)), .due, .pause,
    .elapse (·.advance 1), .resume, .elapse (·.advance (1 / 2)), .due, .elapse (·.advance (1 / 2))]

/-- The two cadences are polled once more at the end, and have given out as much by then. -/
theorem conservation_often : ∃ c : Cadence Rat, create? (.real (5 / 2)) = some c ∧
    Conserves (.real (5 / 2)) (Use.afterAll often ⟨c, ⟨0, 0, 0⟩, {}⟩) ∧
    (Use.due.after (Use.afterAll often ⟨c, ⟨0, 0, 0⟩, {}⟩)).diary.answers.sum =
      (Use.due.after (Use.afterAll seldom ⟨c, ⟨0, 0, 0⟩, {}⟩)).diary.answers.sum := by
  have hrate : 0 < (Rate.real (5 / 2) : Rate Rat).value := by norm_num [Rate.value]
  have hclock : Steady (⟨0, 0, 0⟩ : ManualClock Rat) := ManualClock.steady_iff.mpr (le_refl 0)
  have hone : (Use.elapse (ManualClock.advance (1 : Rat))).Timely := ManualClock.forward_advance (by norm_num)
  have hhalf : (Use.elapse (ManualClock.advance (1 / 2 : Rat))).Timely :=
    ManualClock.forward_advance (by norm_num)
  have hoften : ∀ u ∈ often, u.Timely := by
    simp only [often, List.forall_mem_cons]
    exact ⟨trivial, hhalf, trivial, hhalf, trivial, trivial, hone, trivial, hhalf, trivial, hhalf,
      List.forall_mem_nil _⟩
  have hseldom : ∀ u ∈ seldom, u.Timely := by
    simp only [seldom, List.forall_mem_cons]
    exact ⟨trivial, hone, trivial, trivial, hone, trivial, hone, List.forall_mem_nil _⟩
  obtain ⟨c, hc, hconserves, hsame⟩ := conservation (κ := ManualClock Rat) hrate
  refine ⟨c, hc, hconserves _ _ hclock hoften, hsame _ _ _ _ hclock hclock hoften hseldom ?_ ?_⟩
  · -- the readings of the two clocks along the two lists of uses
    rw [eq_of_create? hc]
    show (⟨[(0, 0 + 0 + 1 / 2 + 0 + 1 / 2 + 0)], some (0 + 0 + 1 / 2 + 0 + 1 / 2 + 0 + 0 + 1)⟩ : Timeline) =
      ⟨[(0, 0 + 0 + 1 + 0)], some (0 + 0 + 1 + 0 + 0 + 1)⟩
    norm_num
  · rw [eq_of_create? hc]
    show (0 + 0 + 1 / 2 + 0 + 1 / 2 + 0 + 0 + 1 + 0 + 1 / 2 + 0 + 1 / 2 : Rat) =
      0 + 0 + 1 + 0 + 0 + 1 + 0 + 1
    norm_num

end Cadence

end Chip8
