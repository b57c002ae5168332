import Chip8.Proofs.Bounds
import Chip8.Proofs.Halting
import Chip8.Proofs.Tempo
/-!
The turns that a call takes.

`Call.madeOf` says that every call is made of some turns. Statements about the order in which things are done
need to know which: a list of steps by itself says nothing of why they were made.

1. **The list** — `Call.turns` lists the turns in the order in which they are taken, for a run of the loop as
   for any other call. `Call.afterAll_turns` says that they leave what the call leaves, so what holds of every
   beginning of the list holds at any time of the run.

2. **Ghost state** — `Turn.allowance` keeps beside the machine how many more steps the latest poll of the pace
   allows. It is a history (`Turn.track`), which the machine itself does not have.

3. **Specification** — `Turn.Permitted` says that a throttled machine makes no step but those that are
   allowed, and `Turn.InOrder` that it goes on to something else only when they are made or the machine is
   halted.

4. **Invariant** — `Tidy` has turns in order, and an end at which nothing is left to do. It is kept when lists
   are put together (`Tidy.cons`, `Tidy.append`), so that it follows for a burst, a pass and the loop along
   their recursions (`tidy_burstTurns`, `tidy_passTurns`, `tidy_loopTurns`).

5. **Runs** — a run of the loop takes its turns in order (`Machine.tidy_runTurns`), and so do other calls that
   come after it (`Call.tidy_allTurns`).
-/

namespace Chip8

variable {κ τ : Type} {s : Size}

/-- Time passes. -/
def Turn.elapse (move : κ → κ) : Turn κ := .call (.elapse move) rfl

@[simp] theorem Turn.kind_elapse (move : κ → κ) : (elapse move).kind = .aside := rfl

@[simp] theorem Turn.kind_signal (change : StopSignal → StopSignal) :
    (signal change : Turn κ).kind = .aside := rfl

variable [Seconds τ] [Clock κ τ]

namespace Machine

/-! ## The turns of the loop

A run of the loop, written down as the list of its turns. It is computed beside the run, by the same
recursion, and the two are shown to leave the same machine. -/

/-- The turns of a burst of at most `n` steps. -/
def burstTurns (host : Host s) : Nat → Machine κ τ s → List (Turn κ)
  | 0, _ => []
  | n + 1, m => .step ::
    match (step host).exec m with
    | (.error _, _) => []
    | (.ok _, t) => if t.halted then [] else burstTurns host n t

/-- The turns after a poll of the pace, which came to an answer and a machine. -/
def polledTurns (host : Host s) : Except Failure Int × Machine κ τ s → List (Turn κ)
  | (.error _, _) => []
  | (.ok due, t) => if due = 0 then [.service] else burstTurns host (min due.toNat maxCatchUp) t

/-- The turns of one pass of the loop. -/
def passTurns (host : Host s) (m : Machine κ τ s) : List (Turn κ) :=
  if m.paused then []
  else match m.pace with
  | none => [.step]
  | some pace => .pollPace :: polledTurns host ((pollPace pace).exec m)

/-- The turns of the loop. -/
def loopTurns (host : Host s) (look : κ → κ) : Nat → Machine κ τ s → List (Turn κ)
  | 0, _ => []
  | looks + 1, m =>
    if m.signal.requested then []
    else .elapse look :: .signal (fun signal => { signal with looks }) ::
      if (useLook look looks m).halted then []
      else passTurns host (useLook look looks m) ++
        match (pass host).exec (useLook look looks m) with
        | (.error _, _) => []
        | (.ok true, t) =>
          .signal (fun signal => { signal with waits := signal.waits + 1 }) ::
            loopTurns host look looks (countWait t)
        | (.ok false, t) => loopTurns host look looks t

/-- The turns of a run. -/
def runTurns (host : Host s) (look : κ → κ) (looks : Nat) (m : Machine κ τ s) : List (Turn κ) :=
  .signal (fun _ => { looks }) :: loopTurns host look looks { m with signal := { looks } }

variable {host : Host s}

/-- The turns of a burst leave what the burst leaves. The induction is on the steps that are left of it. -/
theorem afterAll_burstTurns (n : Nat) (m : Machine κ τ s) :
    Turn.afterAll host (burstTurns host n m) m = ((burst host n).exec m).2 := by
  induction n generalizing m with
  | zero => rfl
  | succ n ih =>
    rw [burstTurns, burst, Act.exec_bind]
    cases hstep : (step host).exec m with
    | mk answer t =>
      have hafter : Turn.step.after host m = t := congrArg Prod.snd hstep
      -- a failure or a halt ends the burst and the list at the same step
      cases answer with
      | error e => exact hafter
      | ok a =>
        dsimp only
        rw [Act.exec_get_bind]
        split
        · exact hafter
        · show Turn.afterAll host (burstTurns host n t) (Turn.step.after host m) = _
          rw [hafter]
          exact ih t

/-- A paused machine does nothing in a pass but wait. -/
theorem exec_pass_of_paused {m : Machine κ τ s} (h : m.paused = true) :
    (pass host).exec m = (.ok true, m) := by
  rw [pass, Act.exec_get_bind, if_pos h]
  rfl

/-- A machine that is not throttled makes one step. -/
theorem exec_pass_of_unthrottled {m : Machine κ τ s} (hpaused : m.paused = false) (hpace : m.pace = none) :
    (pass host).exec m = (step host >>= fun _ => pure false).exec m := by
  rw [pass, Act.exec_get_bind, if_neg (by rw [hpaused]; decide), hpace]

/-- A throttled machine polls its pace, and either services the timers or makes the steps that are due. -/
theorem exec_pass_of_throttled {m : Machine κ τ s} (hpaused : m.paused = false) {pace : Cadence τ}
    (hpace : m.pace = some pace) :
    (pass host).exec m =
      match (pollPace pace).exec m with
      | (.error e, t) => (.error e, t)
      | (.ok due, t) =>
        ((if due = 0 then serviceTimers host else burst host (min due.toNat maxCatchUp)) >>=
          fun _ => pure false).exec t := by
  rw [pass, Act.exec_get_bind, if_neg (by rw [hpaused]; decide), hpace]
  dsimp only
  rw [Act.exec_bind]
  -- the poll may fail; if it does, neither a service nor a burst follows
  cases (pollPace pace).exec m with
  | mk answer t =>
    cases answer with
    | error e => rfl
    | ok due =>
      dsimp only
      split <;> rfl

theorem passTurns_of_paused {m : Machine κ τ s} (h : m.paused = true) : passTurns host m = [] :=
  if_pos h

theorem passTurns_of_unthrottled {m : Machine κ τ s} (hpaused : m.paused = false) (hpace : m.pace = none) :
    passTurns host m = [.step] := by
  rw [passTurns, if_neg (by rw [hpaused]; decide), hpace]

theorem passTurns_of_throttled {m : Machine κ τ s} (hpaused : m.paused = false) {pace : Cadence τ}
    (hpace : m.pace = some pace) :
    passTurns host m = .pollPace :: polledTurns host ((pollPace pace).exec m) := by
  rw [passTurns, if_neg (by rw [hpaused]; decide), hpace]

theorem after_pollPace_of_some {m : Machine κ τ s} {pace : Cadence τ} (hpace : m.pace = some pace) :
    Turn.pollPace.after host m = ((pollPace pace).exec m).2 := by
  rw [after_pollPace, hpace]

/-- The turns of a pass leave what the pass leaves, whether it waits, makes a step or polls the pace. -/
theorem afterAll_passTurns (m : Machine κ τ s) :
    Turn.afterAll host (passTurns host m) m = ((pass host).exec m).2 := by
  cases hpaused : m.paused with
  | true =>
    rw [passTurns_of_paused hpaused, exec_pass_of_paused hpaused]
    rfl
  | false =>
    cases hpace : m.pace with
    | none =>
      rw [passTurns_of_unthrottled hpaused hpace, exec_pass_of_unthrottled hpaused hpace,
        Act.exec_bind_pure]
      rfl
    | some pace =>
      rw [passTurns_of_throttled hpaused hpace, exec_pass_of_throttled hpaused hpace]
      -- the poll is a turn of its own, and what follows depends on its answer
      show Turn.afterAll host _ (Turn.pollPace.after host m) = _
      rw [after_pollPace_of_some hpace]
      cases (pollPace pace).exec m with
      | mk answer t =>
        cases answer with
        | error e => rfl
        | ok due =>
          dsimp only [polledTurns]
          rw [Act.exec_bind_pure]
          split
          · rfl
          · exact afterAll_burstTurns _ t

/-- The turns of the loop leave what the loop leaves. The induction is on the looks at the signal. -/
theorem afterAll_loopTurns (look : κ → κ) (looks : Nat) (m : Machine κ τ s) :
    Turn.afterAll host (loopTurns host look looks m) m = ((loop host look looks).exec m).2 := by
  induction looks generalizing m with
  | zero => rfl
  | succ looks ih =>
    rw [loopTurns, loop, Act.exec_get_bind]
    split
    · rfl
    · -- the first two turns are the look at the signal, which the loop makes in one change of the machine
      show Turn.afterAll host _ (useLook look looks m) = _
      rw [Act.exec_modify_bind, Act.exec_get_bind]
      split
      · rfl
      · rw [Turn.afterAll_append, afterAll_passTurns, Act.exec_bind]
        cases (pass host).exec (useLook look looks m) with
        | mk answer t =>
          cases answer with
          | error e => rfl
          | ok idle =>
            cases idle with
            | false => exact ih t
            | true =>
              dsimp only
              rw [if_pos rfl, Act.exec_modify_bind]
              exact ih (countWait t)

end Machine

/-- The turns of the loop, none of which asks for a stop or takes that back. -/
inductive Turn.Looped (look : κ → κ) : Turn κ → Prop
  | step : Looped look .step
  | service : Looped look .service
  | pollPace : Looped look .pollPace
  | elapse : Looped look (.elapse look)
  | signal (change : StopSignal → StopSignal)
    (requested : ∀ signal, (change signal).requested = signal.requested) : Looped look (.signal change)

namespace Machine

variable {host : Host s} {x : Turn κ}

/-- A burst is made of steps. -/
theorem eq_step_of_mem_burstTurns {n : Nat} {m : Machine κ τ s} (h : x ∈ burstTurns host n m) :
    x = .step := by
  induction n generalizing m with
  | zero => cases h
  | succ n ih =>
    rw [burstTurns] at h
    generalize (step host).exec m = out at h
    rcases List.mem_cons.mp h with h | h
    · exact h
    · obtain ⟨e | a, t⟩ := out
      · cases h
      · dsimp only at h
        split at h
        · cases h
        · exact ih h

/-- The turns of a pass are turns of the loop. -/
theorem looped_of_mem_passTurns (look : κ → κ) {m : Machine κ τ s} (h : x ∈ passTurns host m) :
    x.Looped look := by
  -- the cases are those of the pass: no turn, one step, or a poll and what follows it
  cases hpaused : m.paused with
  | true =>
    rw [passTurns_of_paused hpaused] at h
    cases h
  | false =>
    cases hpace : m.pace with
    | none =>
      rw [passTurns_of_unthrottled hpaused hpace] at h
      obtain rfl := List.mem_singleton.mp h
      exact .step
    | some pace =>
      rw [passTurns_of_throttled hpaused hpace] at h
      generalize (pollPace pace).exec m = out at h
      obtain ⟨answer, t⟩ := out
      rcases List.mem_cons.mp h with rfl | h
      · exact .pollPace
      · cases answer with
        | error e => cases h
        | ok due =>
          dsimp only [polledTurns] at h
          split at h
          · obtain rfl := List.mem_singleton.mp h
            exact .service
          · obtain rfl := eq_step_of_mem_burstTurns h
            exact .step

/-- The turns of the loop leave alone what was asked of it. -/
theorem looped_of_mem_loopTurns {look : κ → κ} {looks : Nat} {m : Machine κ τ s}
    (h : x ∈ loopTurns host look looks m) : x.Looped look := by
  -- the induction is on the looks at the signal: two turns for the look, those of the pass, and the rest
  induction looks generalizing m with
  | zero => cases h
  | succ looks ih =>
    rw [loopTurns] at h
    split at h
    · cases h
    · rcases List.mem_cons.mp h with rfl | h
      · exact .elapse
      rcases List.mem_cons.mp h with rfl | h
      · exact .signal _ fun _ => rfl
      split at h
      · cases h
      · rcases List.mem_append.mp h with h | h
        · exact looped_of_mem_passTurns look h
        · generalize (pass host).exec (useLook look looks m) = out at h
          obtain ⟨answer, t⟩ := out
          cases answer with
          | error e => cases h
          | ok idle =>
            cases idle with
            | false => exact ih h
            | true =>
              rcases List.mem_cons.mp h with rfl | h
              · exact .signal _ fun _ => rfl
              · exact ih h

end Machine

/-- The turns that a call takes. -/
def Call.turns (host : Host s) (c : Call κ) (m : Machine κ τ s) : List (Turn κ) :=
  match c with
  | run look looks => Machine.runTurns host look looks m
  | step => [.step]
  | tick => [.call tick rfl]
  | load program => [.call (load program) rfl]
  | reset => [.call reset rfl]
  | inputKey key down => [.call (inputKey key down) rfl]
  | inputKeys changes => [.call (inputKeys changes) rfl]
  | pause => [.call pause rfl]
  | resume => [.call resume rfl]
  | switch strict tracing => [.call (switch strict tracing) rfl]
  | elapse move => [.call (elapse move) rfl]

/-- The turns that a call takes leave what the call leaves. -/
theorem Call.afterAll_turns (host : Host s) (c : Call κ) (m : Machine κ τ s) :
    Turn.afterAll host (c.turns host m) m = c.after host m := by
  cases c with
  | run look looks =>
    show _ = ((Machine.run host look looks).exec m).2
    rw [Machine.run, Act.exec_modify_bind]
    exact Machine.afterAll_loopTurns look looks _
  | _ => rfl

/-- The turns that a call takes are parts of the call. -/
theorem Call.partOf_of_mem_turns {host : Host s} {c : Call κ} {m : Machine κ τ s} {x : Turn κ}
    (h : x ∈ c.turns host m) : x.PartOf c := by
  cases c with
  | run look looks =>
    rcases List.mem_cons.mp h with rfl | h
    · exact .signal
    · cases Machine.looped_of_mem_loopTurns h with
      | step => exact .step
      | service => exact .service
      | pollPace => exact .pollPace
      | elapse => exact .elapse
      | signal change requested => exact .signal
  | _ =>
    obtain rfl := List.mem_singleton.mp h
    exact .single rfl

/-- The turns that calls take one after the other. -/
def Call.allTurns (host : Host s) : List (Call κ) → Machine κ τ s → List (Turn κ)
  | [], _ => []
  | c :: cs, m => c.turns host m ++ allTurns host cs (c.after host m)

/-- Every turn of a run is part of one of its calls. -/
theorem Call.exists_of_mem_allTurns {host : Host s} {cs : List (Call κ)} {m : Machine κ τ s} {x : Turn κ}
    (h : x ∈ allTurns host cs m) : ∃ c ∈ cs, x.PartOf c := by
  induction cs generalizing m with
  | nil => cases h
  | cons c cs ih =>
    rcases List.mem_append.mp h with h | h
    · exact ⟨c, List.mem_cons_self, partOf_of_mem_turns h⟩
    · obtain ⟨d, hd, hpart⟩ := ih h
      exact ⟨d, List.mem_cons_of_mem _ hd, hpart⟩

/-! ## Order

The turns of the loop come in an order that a host on its own need not keep: after a poll of the pace come
the steps that it found due, and before the next poll all of them. The induction carries what is still left
to be made. -/

namespace Machine

/-- A stop of the run or a pause of the machine was asked for. -/
def Asked (m : Machine κ τ s) : Prop := m.signal.requested = true ∨ m.paused = true

/-- The steps that a poll of the pace would find due. -/
def dueSteps (m : Machine κ τ s) : Nat :=
  match m.pace with
  | none => 0
  | some pace =>
    match (pace.due m.clock).1 with
    | .error _ => 0
    | .ok (due, _) => due.toNat

end Machine

namespace Turn

/-- How many more steps the latest poll of the pace allows after a turn, `k` being allowed before it. -/
def allowance (x : Turn κ) (m : Machine κ τ s) (k : Nat) : Nat :=
  match x with
  | pollPace => min m.dueSteps Machine.maxCatchUp
  | call .step _ => k - 1
  | call (.load _) _ | call .reset _ => 0
  | _ => k

/-- How many more steps are allowed after many turns. -/
def allowed (host : Host s) (xs : List (Turn κ)) (m : Machine κ τ s) (k : Nat) : Nat :=
  track host (fun x m k => x.allowance m k) xs m k

/-- A turn that the loop permits while `k` more steps are allowed. -/
structure Permitted (x : Turn κ) (m : Machine κ τ s) (k : Nat) : Prop where
  /-- A step must be allowed, or the machine is not throttled and nothing was asked for. -/
  step : x.kind = .step → 0 < k ∨ m.pace = none ∧ ¬m.Asked
  /-- Steps are allowed anew when none is left, and not after something was asked for. -/
  poll : x = .pollPace → k = 0 ∧ ¬m.Asked

/-- A turn that comes from the loop, or from a host that waits for the loop to end. -/
structure InOrder (x : Turn κ) (m : Machine κ τ s) (k : Nat) : Prop extends Permitted x m k where
  /-- Before anything else, the steps that are allowed are made. -/
  rest : x.kind ≠ .step → k = 0 ∨ m.halted = true

/-- Each turn may be taken when it is. -/
def Along (May : Turn κ → Machine κ τ s → Nat → Prop) (host : Host s) :
    List (Turn κ) → Machine κ τ s → Nat → Prop
  | [], _, _ => True
  | x :: xs, m, k => May x m k ∧ Along May host xs (x.after host m) (x.allowance m k)

variable {host : Host s}

/-- What is tracked along two lists is tracked along the first and then the second. -/
theorem track_append {γ : Type} (f : Turn κ → Machine κ τ s → γ → γ) (xs ys : List (Turn κ))
    (m : Machine κ τ s) (g : γ) :
    track host f (xs ++ ys) m g = track host f ys (afterAll host xs m) (track host f xs m g) := by
  induction xs generalizing m g with
  | nil => rfl
  | cons x xs ih => exact ih (x.after host m) (f x m g)

/-- A condition holds along two lists if it holds along the first, and along the second with what the first
    left of the allowance. -/
theorem along_append {May : Turn κ → Machine κ τ s → Nat → Prop} {xs ys : List (Turn κ)}
    {m : Machine κ τ s} {k : Nat} :
    Along May host (xs ++ ys) m k ↔
      Along May host xs m k ∧ Along May host ys (afterAll host xs m) (allowed host xs m k) := by
  induction xs generalizing m k with
  | nil => exact ⟨fun h => ⟨trivial, h⟩, fun h => h.2⟩
  | cons x xs ih =>
    have hrest := ih (m := x.after host m) (k := x.allowance m k)
    constructor
    · rintro ⟨hx, hxs⟩
      obtain ⟨hxs, hys⟩ := hrest.mp hxs
      exact ⟨⟨hx, hxs⟩, hys⟩
    · rintro ⟨⟨hx, hxs⟩, hys⟩
      exact ⟨hx, hrest.mpr ⟨hxs, hys⟩⟩

theorem Along.imp {May May' : Turn κ → Machine κ τ s → Nat → Prop}
    (himp : ∀ x m k, May x m k → May' x m k) {xs : List (Turn κ)} {m : Machine κ τ s} {k : Nat}
    (h : Along May host xs m k) : Along May' host xs m k := by
  induction xs generalizing m k with
  | nil => trivial
  | cons x xs ih => exact ⟨himp x m k h.1, ih h.2⟩

/-- The turns come from the loop, and from a host that waits for it to end. -/
abbrev Orderly (host : Host s) (xs : List (Turn κ)) (m : Machine κ τ s) (k : Nat) : Prop :=
  Along InOrder host xs m k

omit [Seconds τ] [Clock κ τ] in
/-- A turn that is neither a step nor a poll may be taken if no step is left to make. -/
theorem InOrder.aside {x : Turn κ} (hstep : x.kind ≠ .step) (hpoll : x ≠ .pollPace) {m : Machine κ τ s}
    {k : Nat} (h : k = 0 ∨ m.halted = true) : x.InOrder m k :=
  ⟨⟨fun hx => absurd hx hstep, fun hx => absurd hx hpoll⟩, fun _ => h⟩

omit [Seconds τ] [Clock κ τ] in
theorem InOrder.step_of_pos {m : Machine κ τ s} {k : Nat} (h : 0 < k) :
    InOrder (Turn.step : Turn κ) m k := by
  refine ⟨⟨fun _ => Or.inl h, fun hx => ?_⟩, fun hx => absurd kind_step hx⟩
  cases hx

end Turn

namespace Machine

variable {host : Host s}

/-- Nothing is left to do of what the latest poll allowed: no step, or the machine is halted; or a step
    failed. -/
def Spent (host : Host s) (m : Machine κ τ s) (k : Nat) : Prop :=
  (k = 0 ∨ m.halted = true) ∨ ∃ t e, t.Bounded ∧ (step host).exec t = (.error e, m)

/-- The turns of an operation may be taken one after the other, and they end with nothing left to do. A step
    can have failed only if the operation is not `done`. -/
structure Tidy (host : Host s) (xs : List (Turn κ)) (m : Machine κ τ s) (k : Nat) (done : Prop) :
    Prop where
  orderly : Turn.Orderly host xs m k
  spent : Spent host (Turn.afterAll host xs m) (Turn.allowed host xs m k)
  ended : done → Turn.allowed host xs m k = 0 ∨ (Turn.afterAll host xs m).halted = true

namespace Tidy

variable {m : Machine κ τ s} {k : Nat} {done : Prop}

/-- No turns at all are tidy if nothing is left to do. -/
theorem nil (h : k = 0 ∨ m.halted = true) : Tidy host [] m k done :=
  ⟨trivial, Or.inl h, fun _ => h⟩

/-- A turn that is in order may come before tidy turns. -/
theorem cons {x : Turn κ} {xs : List (Turn κ)} {t : Machine κ τ s} {j : Nat} (hx : x.InOrder m k)
    (ht : x.after host m = t) (hj : x.allowance m k = j) (h : Tidy host xs t j done) :
    Tidy host (x :: xs) m k done := by
  subst ht hj
  exact ⟨⟨hx, h.orderly⟩, h.spent, h.ended⟩

/-- Tidy turns may follow others if these end with nothing left to do. -/
theorem append {xs ys : List (Turn κ)} {done' : Prop} (h : Tidy host xs m k done)
    (hys : Tidy host ys (Turn.afterAll host xs m) (Turn.allowed host xs m k) done') :
    Tidy host (xs ++ ys) m k done' := by
  have hafter : Turn.afterAll host (xs ++ ys) m = Turn.afterAll host ys (Turn.afterAll host xs m) :=
    Turn.afterAll_append host xs ys m
  have hallowed : Turn.allowed host (xs ++ ys) m k =
      Turn.allowed host ys (Turn.afterAll host xs m) (Turn.allowed host xs m k) :=
    Turn.track_append _ xs ys m k
  refine ⟨Turn.along_append.mpr ⟨h.orderly, hys.orderly⟩, ?_, ?_⟩
  · rw [hafter, hallowed]
    exact hys.spent
  · rw [hafter, hallowed]
    exact hys.ended

end Tidy

/-- A burst makes the steps that are allowed. The induction is on their number. -/
theorem tidy_burstTurns (host : Host s) (n : Nat) {m : Machine κ τ s} (hb : m.Bounded) :
    Tidy host (burstTurns host n m) m n (((burst host n).exec m).1 = .ok ()) := by
  induction n generalizing m with
  | zero => exact .nil (Or.inl rfl)
  | succ n ih =>
    have horder : Turn.step.InOrder m (n + 1) := .step_of_pos (Nat.succ_pos n)
    have hbt : (Turn.step.after host m).Bounded := Turn.bounded_after host .step hb
    rw [burstTurns, burst, Act.exec_bind]
    cases hstep : (step host).exec m with
    | mk answer t =>
      have hafter : Turn.step.after host m = t := congrArg Prod.snd hstep
      rw [hafter] at hbt
      cases answer with
      | error e =>
        -- the failure ends the burst, whatever was left of it
        refine ⟨⟨horder, trivial⟩, Or.inr ⟨m, e, hb, ?_⟩, fun h => by cases h⟩
        show _ = (_, Turn.step.after host m)
        rw [hafter]
        exact hstep
      | ok a =>
        dsimp only
        rw [Act.exec_get_bind]
        refine .cons horder hafter (j := n) rfl ?_
        cases hhalted : t.halted with
        | true => exact .nil (Or.inr hhalted)
        | false =>
          rw [if_neg (by decide), if_neg (by decide)]
          exact ih hbt

/-- A poll of the pace finds the steps that are due. -/
theorem dueSteps_of_poll {m : Machine κ τ s} {pace : Cadence τ} (hpace : m.pace = some pace) :
    m.dueSteps = match ((pollPace pace).exec m).1 with
      | .error _ => 0
      | .ok due => due.toNat := by
  rw [dueSteps, hpace, exec_pollPace]
  dsimp only
  generalize pace.due m.clock = out
  obtain ⟨answer, clock⟩ := out
  cases answer <;> rfl

/-- A pass makes one step, or polls the pace and makes the steps that are due. -/
theorem tidy_passTurns {m : Machine κ τ s} (hb : m.Bounded) (hrequested : m.signal.requested = false) :
    Tidy host (passTurns host m) m 0 (∃ idle, ((pass host).exec m).1 = .ok idle) := by
  cases hpaused : m.paused with
  | true =>
    rw [passTurns_of_paused hpaused]
    exact .nil (Or.inl rfl)
  | false =>
    have hfree : ¬m.Asked := by
      rintro (h | h)
      · rw [hrequested] at h
        cases h
      · rw [hpaused] at h
        cases h
    cases hpace : m.pace with
    | none =>
      have horder : Turn.step.InOrder m 0 := by
        refine ⟨⟨fun _ => Or.inr ⟨hpace, hfree⟩, fun hx => ?_⟩, fun hx => absurd Turn.kind_step hx⟩
        cases hx
      rw [passTurns_of_unthrottled hpaused hpace]
      exact .cons horder rfl (j := 0) rfl (.nil (Or.inl rfl))
    | some pace =>
      -- the poll is in order, and allows as many steps as the burst after it makes at most
      have horder : Turn.pollPace.InOrder m 0 := by
        refine ⟨⟨fun hx => ?_, fun _ => ⟨rfl, hfree⟩⟩, fun _ => Or.inl rfl⟩
        cases hx
      have hdue := dueSteps_of_poll hpace
      have hbt : (Turn.pollPace.after host m).Bounded := Turn.bounded_after host .pollPace hb
      rw [passTurns_of_throttled hpaused hpace, exec_pass_of_throttled hpaused hpace]
      refine .cons horder (after_pollPace_of_some hpace) (j := min m.dueSteps maxCatchUp) rfl ?_
      rw [after_pollPace_of_some hpace] at hbt
      rw [hdue]
      generalize (pollPace pace).exec m = out at hbt ⊢
      obtain ⟨answer, t⟩ := out
      cases answer with
      | error e => exact .nil (Or.inl rfl)
      | ok due =>
        dsimp only [polledTurns]
        by_cases hzero : due = 0
        · subst hzero
          have hservice : Turn.service.InOrder t (min (0 : Int).toNat maxCatchUp) :=
            .aside (by simp [Turn.kind]) (by simp) (Or.inl rfl)
          rw [if_pos rfl]
          exact .cons hservice rfl (j := 0) rfl (.nil (Or.inl rfl))
        · rw [if_neg hzero, if_neg hzero]
          have hburst := tidy_burstTurns host (min due.toNat maxCatchUp) hbt
          refine ⟨hburst.orderly, hburst.spent, ?_⟩
          rintro ⟨idle, hok⟩
          refine hburst.ended ?_
          rw [Act.exec_bind] at hok
          generalize (burst host (min due.toNat maxCatchUp)).exec t = out at hok ⊢
          obtain ⟨answer, u⟩ := out
          cases answer with
          | error e => cases hok
          | ok a => rfl

theorem bounded_afterAll (host : Host s) (xs : List (Turn κ)) {m : Machine κ τ s} (hb : m.Bounded) :
    (Turn.afterAll host xs m).Bounded := by
  induction xs generalizing m with
  | nil => exact hb
  | cons x xs ih => exact ih (x.bounded_after host hb)

/-- The loop goes on to its next pass only when nothing is left to do of the one before. The induction is on the
    looks at the signal; between two passes nothing is left, or the machine is halted. -/
theorem tidy_loopTurns (host : Host s) (look : κ → κ) (looks : Nat) {m : Machine κ τ s} (hb : m.Bounded)
    {k : Nat} (h : k = 0 ∨ m.halted = true) :
    Tidy host (loopTurns host look looks m) m k (((loop host look looks).exec m).1 = .ok ()) := by
  induction looks generalizing m k with
  | zero => exact .nil h
  | succ looks ih =>
    rw [loopTurns, loop, Act.exec_get_bind]
    cases hrequested : m.signal.requested with
    | true => exact .nil h
    | false =>
      have hno : ¬false = true := by decide
      rw [if_neg hno, if_neg hno, Act.exec_modify_bind, Act.exec_get_bind]
      -- a look at the signal takes two turns, neither of which allows a step
      refine .cons (.aside (by simp) (by simp [Turn.elapse]) h) rfl rfl ?_
      refine .cons (.aside (by simp) (by simp) h) (t := useLook look looks m) rfl rfl ?_
      cases hhalted : (useLook look looks m).halted with
      | true => exact .nil (Or.inr hhalted)
      | false =>
        obtain rfl : k = 0 := h.resolve_right (by
          rw [show m.halted = false from hhalted]
          decide)
        have hpass : Tidy host (passTurns host (useLook look looks m)) (useLook look looks m) 0
            (∃ idle, ((pass host).exec (useLook look looks m)).1 = .ok idle) :=
          tidy_passTurns hb hrequested
        have hleft : Turn.afterAll host (passTurns host (useLook look looks m)) (useLook look looks m) =
            ((pass host).exec (useLook look looks m)).2 :=
          afterAll_passTurns _
        have hbt : (Turn.afterAll host (passTurns host (useLook look looks m))
            (useLook look looks m)).Bounded := bounded_afterAll host _ hb
        rw [if_neg hno, if_neg hno, Act.exec_bind]
        generalize (pass host).exec (useLook look looks m) = out at hpass hleft ⊢
        obtain ⟨answer, t⟩ := out
        cases answer with
        | error e =>
          refine ⟨?_, ?_, fun h => by cases h⟩
          · rw [List.append_nil]
            exact hpass.orderly
          · rw [List.append_nil]
            exact hpass.spent
        | ok idle =>
          have hended := hpass.ended ⟨idle, rfl⟩
          refine hpass.append ?_
          rw [hleft] at hbt hended ⊢
          cases idle with
          | false => exact ih hbt hended
          | true =>
            have hbw : (countWait t).Bounded := hbt
            dsimp only
            rw [if_pos rfl, Act.exec_modify_bind]
            exact .cons (.aside (by simp) (by simp) hended) (t := countWait t) rfl rfl (ih hbw hended)

/-- A run begins with nothing left to do, and its loop goes on from there. -/
theorem tidy_runTurns (host : Host s) (look : κ → κ) (looks : Nat) {m : Machine κ τ s} (hb : m.Bounded)
    {k : Nat} (h : k = 0 ∨ m.halted = true) :
    Tidy host (runTurns host look looks m) m k (((run host look looks).exec m).1 = .ok ()) := by
  have hbs : ({ m with signal := { looks } } : Machine κ τ s).Bounded := hb
  have hloop := tidy_loopTurns host look looks hbs h
  exact .cons (.aside (by simp) (by simp) h) (t := { m with signal := { looks } }) rfl rfl hloop

end Machine

/-- The turns of a call that is no step may be taken one after the other. -/
theorem Call.tidy_turns (host : Host s) {c : Call κ} (hc : c ≠ .step) {m : Machine κ τ s}
    (hb : m.Bounded) {k : Nat} (h : k = 0 ∨ m.halted = true) :
    Machine.Tidy host (c.turns host m) m k (((c.act host).exec m).1 = .ok ()) := by
  -- a call that takes one turn allows no steps, and a halted machine stays halted unless it starts over
  have hsingle (single : c.loops = false) (hallowance : (Turn.call c single).allowance m k =
      if c.restarts then 0 else k) (hkind : (Turn.call c single).kind ≠ .step) :
      Machine.Tidy host [.call c single] m k (((c.act host).exec m).1 = .ok ()) := by
    refine .cons (.aside hkind (by simp) h) rfl hallowance ?_
    cases hrestarts : c.restarts with
    | true => exact .nil (Or.inl rfl)
    | false => exact .nil (h.imp_right (Machine.halted_call c hrestarts m))
  cases c with
  | step => exact absurd rfl hc
  | run look looks => exact Machine.tidy_runTurns host look looks hb h
  | _ => exact hsingle rfl rfl (by simp [Turn.kind])

/-- Where no listener fails and the periods due always have a number, a step that fails halts the machine. -/
theorem Machine.halted_of_failed [ExactTime τ] {host : Host s} (hfails : host.NeverFails)
    {m t : Machine κ τ s} (hb : m.Bounded) {e : Failure}
    (hstep : (Machine.step host).exec m = (.error e, t)) : t.halted = true := by
  obtain ⟨due, hdue⟩ := m.pollTimer_ok
  cases hhalted : m.halted with
  | true =>
    rw [exec_step_of_halted host hhalted] at hstep
    cases hstep
  | false =>
    have hbounded := bounded_serviceTimers host m hb
    have hanswer := step_fails host hb hdue (congrArg Prod.fst hstep)
    have h := stepped_step host hb hhalted
    rw [hstep] at h
    -- of the failures only a halt is left, and it is the instruction that halts
    obtain ⟨halt, rfl⟩ := hanswer.resolve_right fun hmay => absurd hfails hmay.2
    generalize hout : ((.error (.halt halt), t) : Except Failure Unit × Machine κ τ s) = out at h
    cases h with
    | unserviced service =>
      cases hout
      obtain ⟨-, hmay⟩ := serviceTimers_of_poll_ok host hdue (congrArg Prod.fst service)
      exact absurd hfails hmay
    | polled service wait => exact absurd hfails (pollKeys_fails host _ _ _ (congrArg Prod.fst hout).symm).2
    | ran service wait ran =>
      rw [service] at hbounded
      subst hout
      exact (ran.stopped hbounded rfl).halted

/-- Where no listener fails, all calls but steps may be made one after the other. -/
theorem Call.tidy_allTurns [ExactTime τ] {host : Host s} (hfails : host.NeverFails) {cs : List (Call κ)}
    (hcs : ∀ c ∈ cs, c ≠ .step) {m : Machine κ τ s} (hb : m.Bounded) {k : Nat}
    (h : k = 0 ∨ m.halted = true) : Machine.Tidy host (allTurns host cs m) m k True := by
  induction cs generalizing m k with
  | nil => exact .nil h
  | cons c cs ih =>
    have hcall := tidy_turns host (hcs c List.mem_cons_self) hb h
    have hbt := Machine.bounded_afterAll host (c.turns host m) hb
    -- a call that was broken off by a failure left the machine halted, so nothing is left to do here either
    have hleft : Turn.allowed host (c.turns host m) m k = 0 ∨
        (Turn.afterAll host (c.turns host m) m).halted = true := by
      rcases hcall.spent with hspent | ⟨t, e, ht, hstep⟩
      · exact hspent
      · exact Or.inr (Machine.halted_of_failed hfails ht hstep)
    refine hcall.append ?_
    rw [Call.afterAll_turns] at hbt hleft ⊢
    exact ih (fun d hd => hcs d (List.mem_cons_of_mem _ hd)) hbt hleft

end Chip8
