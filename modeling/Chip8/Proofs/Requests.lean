import Chip8.Proofs.Traces
/-!
What the loop makes of a request.

A listener may ask for a stop or pause the machine in the middle of a step. The loop looks for that before
each of its passes and nowhere else, and a pass of a throttled machine is a burst of steps.

1. **Specification** — `Heeds` says what is done after a request: a machine that is not throttled makes no
   further step, and one that is makes the rest of the burst that the step belongs to, which may be any number
   of steps below `Machine.maxCatchUp`, and only then heeds the request.

2. **Invariant** — a request stands: no step and no other turn of the loop takes it back
   (`Machine.keeps_asked_step`, `Looped.asked_after`).

3. **Counting** — while a request stands the pace is not polled, so no new steps are allowed, and each step
   made is one of those that were left (`stepCount_of_asked`). What is left was allowed by one poll, and that
   is at most a thousand (`allowed_le`).

4. **Runs** — the turns of a run are in order (`Chip8.Proofs.Traces`), so this holds of every run of the loop,
   with whatever listeners (`heeds_runTurns`).
-/

namespace Chip8

variable {κ τ : Type} {s : Size} [Seconds τ] [Clock κ τ]

/-! ## Requests stay

A request is a signal that was raised or a pause that is on. Neither steps nor services of the timers take
one back, whatever listeners do, and the loop takes none back either. -/

namespace Machine

variable {host : Host s}

/-- Listeners can make a request, but cannot take one back. -/
theorem keeps_asked_emit (event : Event s) :
    Act.Keeps (Asked (κ := κ) (τ := τ)) (emit host event) := by
  have hpause (t : Machine κ τ s) : t.pause.Asked := by
    right
    have hpaused : t.pause.tempo.paused = true := by
      rw [tempo_pause]
      exact Tempo.paused_both
    exact hpaused
  intro m hm
  rw [exec_emit]
  -- a pause or a stop is a request of its own; without either nothing that was asked for is touched
  generalize host m.heard event = reaction
  obtain ⟨log, stop, pause, halt, fail⟩ := reaction
  cases pause with
  | true => cases halt <;> exact hpause _
  | false =>
    cases stop with
    | true => cases halt <;> exact Or.inl rfl
    | false => cases halt <;> exact hm

/-- Servicing the timers takes no request back. -/
theorem keeps_asked_service : Act.Keeps (Asked (κ := κ) (τ := τ)) (serviceTimers host) := by
  refine keeps_serviceTimers (fun _ => keeps_asked_emit _) fun m t hm h => ?_
  cases h <;> exact hm

/-- A step takes no request back. -/
theorem keeps_asked_step : Act.Keeps (Asked (κ := κ) (τ := τ)) (step host) :=
  keeps_tempo_step (P := fun T signal => signal.requested = true ∨ T.paused = true) keeps_asked_emit
    keeps_asked_service

end Machine

namespace Turn

variable {host : Host s} {x : Turn κ} {m : Machine κ τ s} {k : Nat}

/-- While a request stands the loop makes no turn that takes it back. -/
theorem Looped.asked_after {look : κ → κ} (hx : x.Looped look) (hpoll : x ≠ .pollPace) (hm : m.Asked) :
    (x.after host m).Asked := by
  cases hx with
  | step => exact Machine.keeps_asked_step m hm
  | service => exact Machine.keeps_asked_service m hm
  | pollPace => exact absurd rfl hpoll
  | elapse => exact hm
  | signal change requested =>
    rcases hm with hm | hm
    · left
      exact (requested m.signal).trans hm
    · exact Or.inr hm

/-! ## Steps that are left

After a request the loop polls the pace no more. So all the steps that it still makes are steps that the
latest poll allowed, and if nothing fails and the machine is not halted it makes all of those. -/

/-- The number of steps among turns. -/
def stepCount (xs : List (Turn κ)) : Nat := xs.countP fun x => x.kind = .step

theorem stepCount_cons_step (xs : List (Turn κ)) : stepCount (.step :: xs) = stepCount xs + 1 :=
  List.countP_cons_of_pos (by simp)

theorem stepCount_cons_of_ne (hx : x.kind ≠ .step) (xs : List (Turn κ)) :
    stepCount (x :: xs) = stepCount xs :=
  List.countP_cons_of_neg (by simp [hx])

/-- While a request stands the pace is not polled, and each step is one of those that are left. So the steps to
    come and those left in the end are together the ones left now; the induction is over the turns. -/
theorem stepCount_of_asked {look : κ → κ} {ys : List (Turn κ)} (hys : ∀ y ∈ ys, y.Looped look)
    (hmay : Along Permitted host ys m k) (hm : m.Asked) :
    (∀ y ∈ ys, y ≠ .pollPace) ∧ stepCount ys + allowed host ys m k = k := by
  induction ys generalizing m k with
  | nil => exact ⟨by simp, Nat.zero_add k⟩
  | cons y ys ih =>
    obtain ⟨hy, hrest⟩ := hmay
    have hlooped := hys y List.mem_cons_self
    have hpoll : y ≠ .pollPace := fun h => (hy.poll h).2 hm
    have hother : y.kind ≠ .step → stepCount (y :: ys) = stepCount ys :=
      fun h => stepCount_cons_of_ne h ys
    obtain ⟨hpolls, hcount⟩ := ih (fun z hz => hys z (List.mem_cons_of_mem _ hz)) hrest
      (hlooped.asked_after hpoll hm)
    refine ⟨fun z hz => ?_, ?_⟩
    · rcases List.mem_cons.mp hz with rfl | hz
      · exact hpoll
      · exact hpolls z hz
    · show stepCount (y :: ys) + allowed host ys (y.after host m) (y.allowance m k) = k
      cases hlooped with
      | step =>
        -- it must be one of those that are left: nothing else allows it after a request
        have hk : 0 < k := (hy.step rfl).resolve_right fun h => h.2 hm
        have hleft : (step : Turn κ).allowance m k = k - 1 := rfl
        rw [hleft] at hcount ⊢
        rw [stepCount_cons_step]
        omega
      | pollPace => exact absurd rfl hpoll
      | service | elapse | signal =>
        rw [hother (fun h => by cases h)]
        exact hcount

/-! ## Steps that are left at all

A poll allows no more steps than the limit of a burst, and a machine without a pace is allowed none. -/

theorem allowance_le (hk : k ≤ Machine.maxCatchUp) : x.allowance m k ≤ Machine.maxCatchUp := by
  unfold allowance
  split
  · exact Nat.min_le_right _ _
  · omega
  · exact Nat.zero_le _
  · exact Nat.zero_le _
  · exact hk

theorem allowed_le (host : Host s) (xs : List (Turn κ)) (m : Machine κ τ s)
    (hk : k ≤ Machine.maxCatchUp) : allowed host xs m k ≤ Machine.maxCatchUp := by
  induction xs generalizing m k with
  | nil => exact hk
  | cons x xs ih => exact ih (x.after host m) (allowance_le hk)

/-- A machine that is not throttled has no steps left. -/
theorem allowed_of_unthrottled (host : Host s) (xs : List (Turn κ)) (hm : m.pace = none) :
    allowed host xs m 0 = 0 := by
  induction xs generalizing m with
  | nil => rfl
  | cons x xs ih =>
    have hafter : (x.after host m).pace = none := (pace_afterAll_eq_none_iff host [x]).mpr hm
    have hallowance : x.allowance m 0 = 0 := by
      unfold allowance Machine.dueSteps
      rw [hm]
      split <;> rfl
    show allowed host xs (x.after host m) (x.allowance m 0) = 0
    rw [hallowance]
    exact ih hafter

/-! ## Runs

The same for the turns of a run, cut at any step after which there is a request. -/

/-- The turns `ys` come after a request, when `k` steps of a burst were left. -/
structure Heeded (host : Host s) (ys : List (Turn κ)) (m : Machine κ τ s) (k : Nat) : Prop where
  /-- No further steps are found due. -/
  poll : ∀ y ∈ ys, y ≠ .pollPace
  /-- A machine that is not throttled makes no further step. -/
  unthrottled : m.pace = none → stepCount ys = 0
  /-- A machine that is throttled makes no more steps than were left of the burst. -/
  burst : stepCount ys ≤ k
  left : k < Machine.maxCatchUp

/-- The ways in which a run of the loop heeds the requests that come up in its steps. -/
structure Heeds (host : Host s) (look : κ → κ) (looks : Nat) (m : Machine κ τ s) : Prop where
  heeded : ∀ xs ys, Machine.runTurns host look looks m = xs ++ .step :: ys →
    (afterAll host (xs ++ [.step]) m).Asked →
      Heeded host ys (afterAll host (xs ++ [.step]) m) (allowed host (xs ++ [.step]) m 0)
  /-- A run that does not fail, and does not leave the machine halted, makes the whole rest of the burst. -/
  rest : ((Machine.run host look looks).exec m).1 = .ok () →
    ((Machine.run host look looks).exec m).2.halted = false →
      ∀ xs ys, Machine.runTurns host look looks m = xs ++ .step :: ys →
        (afterAll host (xs ++ [.step]) m).Asked → stepCount ys = allowed host (xs ++ [.step]) m 0

/-- The turns of a run are those of the loop, but for the first one, which makes the signal anew. -/
theorem looped_of_runTurns {look : κ → κ} {looks : Nat} {xs ys : List (Turn κ)}
    (hturns : Machine.runTurns host look looks m = xs ++ .step :: ys) : ∀ y ∈ ys, y.Looped look := by
  intro y hy
  cases xs with
  | nil => cases hturns
  | cons x xs =>
    have hloop : Machine.loopTurns host look looks { m with signal := { looks } } = xs ++ .step :: ys :=
      (List.cons.inj hturns).2
    have hmem : y ∈ Machine.loopTurns host look looks { m with signal := { looks } } := by
      rw [hloop]
      exact List.mem_append_right xs (List.mem_cons_of_mem _ hy)
    exact Machine.looped_of_mem_loopTurns hmem

/-- Once a request stands, the steps of a run and those that it leaves undone in the end are the rest of
    the burst. -/
theorem stepCount_runTurns (hb : m.Bounded) {look : κ → κ} {looks : Nat} {xs ys : List (Turn κ)}
    (hturns : Machine.runTurns host look looks m = xs ++ .step :: ys)
    (hasked : (afterAll host (xs ++ [.step]) m).Asked) :
    (∀ y ∈ ys, y ≠ .pollPace) ∧
      stepCount ys + allowed host (Machine.runTurns host look looks m) m 0 =
        allowed host (xs ++ [.step]) m 0 := by
  have hsplit : Machine.runTurns host look looks m = (xs ++ [.step]) ++ ys := by
    rw [hturns, List.append_assoc]
    rfl
  have horder := (Machine.tidy_runTurns host look looks hb (Or.inl rfl : 0 = 0 ∨ _)).orderly
  -- the steps that are allowed in the end are counted on from those that are left at the request
  have hall : allowed host (Machine.runTurns host look looks m) m 0 =
      allowed host ys (afterAll host (xs ++ [.step]) m) (allowed host (xs ++ [.step]) m 0) := by
    rw [hsplit]
    exact track_append _ _ _ m 0
  rw [hsplit] at horder
  have hpermitted := (along_append.mp horder).2.imp fun _ _ _ h => h.toPermitted
  rw [hall]
  exact stepCount_of_asked (looped_of_runTurns hturns) hpermitted hasked

/-- Every run of the loop, of whatever machine, with whatever listeners, heeds requests in these ways. -/
theorem heeds_runTurns (host : Host s) (settings : Machine.Settings τ) (clock : κ) (noise : Nat → UInt8)
    (before : List (Turn κ)) (look : κ → κ) (looks : Nat) :
    Heeds host look looks (afterAll host before (.create settings clock noise)) := by
  have hb : (afterAll host before (.create settings clock noise)).Bounded :=
    Machine.bounded_afterAll host before (Machine.bounded_create settings clock noise)
  generalize afterAll host before (.create settings clock noise) = m at hb
  constructor
  · intro xs ys hturns hasked
    obtain ⟨hpoll, hcount⟩ := stepCount_runTurns hb hturns hasked
    have hle : stepCount ys ≤ allowed host (xs ++ [.step]) m 0 := by omega
    refine ⟨hpoll, fun hnone => ?_, hle, ?_⟩
    · have hunthrottled := allowed_of_unthrottled host (xs ++ [.step])
        ((pace_afterAll_eq_none_iff host _).mp hnone)
      rw [hunthrottled] at hle
      exact Nat.le_zero.mp hle
    · -- the step itself was one of those that the poll allowed
      have hbefore : allowed host xs m 0 ≤ Machine.maxCatchUp := allowed_le host xs m (Nat.zero_le _)
      have hstep : allowed host (xs ++ [.step]) m 0 = allowed host xs m 0 - 1 :=
        track_append _ xs [.step] m 0
      have hpos : 0 < Machine.maxCatchUp := by decide
      omega
  · intro hok hhalted xs ys hturns hasked
    obtain ⟨-, hcount⟩ := stepCount_runTurns hb hturns hasked
    have hleft := (Machine.tidy_runTurns host look looks hb (Or.inl rfl : 0 = 0 ∨ _)).ended hok
    have hend : afterAll host (Machine.runTurns host look looks m) m =
        ((Machine.run host look looks).exec m).2 :=
      Call.afterAll_turns host (.run look looks) m
    rw [hend, hhalted] at hleft
    rw [hleft.resolve_right (by decide)] at hcount
    exact hcount

end Turn

end Chip8
