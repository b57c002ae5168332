import Chip8.Proofs.Bounds
import Chip8.Proofs.Faults
/-!
Runs, taken apart into turns.

A call of the run loop makes many steps and services the timers many times. A statement about calls would say
nothing of what goes on within one, and each statement about the loop would need its own induction over it.

1. **Turns** — a `Turn` is a call that does not run the loop, or a part of the loop. Every call is made of
   turns (`Call.madeOf`), so what is proved of all lists of turns holds at any time of any run, in the middle
   of a loop as well as between calls (`Call.exists_turns`).

2. **Kinds** — a turn is a step, a period of the timers, a restart or none of these (`Turn.kind`). Of a turn
   that is no step it is said once what it leaves alone: `ticked_after`, `aside_after`,
   `board_after_of_restart`.

3. **Histories** — a property that looks back on a run needs a history. `Turn.track` keeps one beside the
   machine: it is written from the turns and from the machines that they find, and `Turn.invariant_track`
   proves of it what each turn keeps. This is the one induction over turns that most results of this library
   rest on.

4. **Steps** — `Moved` has the ways in which a step changes a machine, with the guards under which it does.
   `Machine.completed` is the word that a step completes, the entry that most histories are made of, and
   `completing_of_completed` says how it came to be completed.
-/

namespace Chip8

variable {κ τ : Type} {s : Size}

/-- Does the call run the loop? -/
def Call.loops : Call κ → Bool
  | run _ _ => true
  | _ => false

/-- What runs are made of: the calls that do not run the loop, and the parts of the loop. -/
inductive Turn (κ : Type) where
  | call (c : Call κ) (single : c.loops = false)
  /-- The timers catch up with the clock, and no instruction runs. -/
  | service
  /-- The steps that are due are counted. -/
  | pollPace
  /-- The stop signal is changed. -/
  | signal (change : StopSignal → StopSignal)

namespace Turn

/-- A step. -/
def step : Turn κ := .call .step rfl

/-- A timer period. -/
def tick : Turn κ := .call .tick (Eq.refl false)

/-- The begin of a pause. -/
def pause : Turn κ := .call .pause (Eq.refl false)

/-- The end of a pause. -/
def resume : Turn κ := .call .resume (Eq.refl false)

/-- What turns are about. Most histories and invariants tell them apart by this alone. -/
inductive Kind where
  | step
  /-- Timer periods, and nothing else. -/
  | tick
  /-- The machine is brought to its state at power-on. -/
  | restart
  /-- Keys, switches, time, and the stop signal. -/
  | aside
  deriving DecidableEq

/-- The kind of a turn. -/
def kind : Turn κ → Kind
  | call .step _ => .step
  | call .tick _ | service => .tick
  | call (.load _) _ | call .reset _ => .restart
  | _ => .aside

@[simp] theorem kind_step : (step : Turn κ).kind = .step := rfl

theorem eq_step_of_kind {x : Turn κ} (h : x.kind = .step) : x = step := by
  cases x with
  | call c single =>
    cases c with
    | step => rfl
    | _ => cases h
  | _ => cases h

variable [Seconds τ] [Clock κ τ]

/-- What happens at a turn. -/
def act (host : Host s) : Turn κ → Act (Machine κ τ s) Unit
  | call c _ => c.act host
  | service => Machine.serviceTimers host
  | pollPace => do
    match (← get).pace with
    | none => return ()
    | some pace =>
      let _ ← Machine.pollPace pace
      return ()
  | signal change => modify fun m => { m with signal := change m.signal }

/-- The machine that a turn leaves, whether it succeeds or fails. -/
def after (host : Host s) (x : Turn κ) (m : Machine κ τ s) : Machine κ τ s := ((x.act host).exec m).2

theorem after_step (host : Host s) (m : Machine κ τ s) : step.after host m = Call.step.after host m := rfl

/-- The machine that a list of turns leaves. -/
def afterAll (host : Host s) (xs : List (Turn κ)) (m : Machine κ τ s) : Machine κ τ s :=
  xs.foldl (fun m x => x.after host m) m

theorem afterAll_nil (host : Host s) (m : Machine κ τ s) : afterAll host [] m = m := rfl

theorem afterAll_cons (host : Host s) (x : Turn κ) (xs : List (Turn κ)) (m : Machine κ τ s) :
    afterAll host (x :: xs) m = afterAll host xs (x.after host m) := rfl

theorem afterAll_append (host : Host s) (xs ys : List (Turn κ)) (m : Machine κ τ s) :
    afterAll host (xs ++ ys) m = afterAll host ys (afterAll host xs m) :=
  List.foldl_append

/-! ## Histories

Something that is kept beside the machine from turn to turn, which is what the specifications of runs are
stated with: a list of pending calls, a number of periods, the news that were told. -/

/-- A history kept along a list of turns: each turn adds to it, given the machine that it finds. -/
def track {γ : Type} (host : Host s) (f : Turn κ → Machine κ τ s → γ → γ) :
    List (Turn κ) → Machine κ τ s → γ → γ
  | [], _, g => g
  | x :: xs, m, g => track host f xs (x.after host m) (f x m g)

/-- What each turn keeps of a machine and its history, a list of turns keeps. -/
theorem invariant_track {γ : Type} {host : Host s} {f : Turn κ → Machine κ τ s → γ → γ}
    {Allowed : Turn κ → Prop} {I : Machine κ τ s → γ → Prop}
    (hkeeps : ∀ x m g, Allowed x → I m g → I (x.after host m) (f x m g)) {xs : List (Turn κ)}
    (hxs : ∀ x ∈ xs, Allowed x) {m : Machine κ τ s} {g : γ} (h : I m g) :
    I (afterAll host xs m) (track host f xs m g) := by
  induction xs generalizing m g with
  | nil => exact h
  | cons x xs ih =>
    have hx := hkeeps x m g (hxs x List.mem_cons_self) h
    exact ih (fun y hy => hxs y (List.mem_cons_of_mem _ hy)) hx

/-- The machines that a list of turns finds when it makes steps. -/
def steps (host : Host s) : List (Turn κ) → Machine κ τ s → List (Machine κ τ s)
  | [], _ => []
  | x :: xs, m =>
    if x.kind = .step then m :: steps host xs (x.after host m) else steps host xs (x.after host m)

/-! ## Calls as lists of turns

Every call of a host is a list of turns. The loops are taken apart by the same recursion by which they are
defined. -/

/-- What an operation leaves of a machine is what turns of the kind `P` leave of it. -/
def MadeOf {α : Type} (host : Host s) (P : Turn κ → Prop) (act : Act (Machine κ τ s) α)
    (m : Machine κ τ s) : Prop :=
  ∃ xs : List (Turn κ), (∀ x ∈ xs, P x) ∧ (act.exec m).2 = afterAll host xs m

namespace MadeOf

variable {α β : Type} {host : Host s} {P : Turn κ → Prop}

theorem pure (a : α) (m : Machine κ τ s) : MadeOf host P (Pure.pure a) m := by
  refine ⟨[], ?_, rfl⟩
  intro x hx
  cases hx

/-- An operation is made of one turn if it leaves what the turn leaves. -/
theorem single {act : Act (Machine κ τ s) α} {m : Machine κ τ s} {x : Turn κ} (hx : P x)
    (h : (act.exec m).2 = x.after host m) : MadeOf host P act m := by
  refine ⟨[x], ?_, h⟩
  intro y hy
  obtain rfl := List.mem_singleton.mp hy
  exact hx

/-- A failure leaves the turns of the first operation, and success those of both. -/
theorem bind {x : Act (Machine κ τ s) α} {f : α → Act (Machine κ τ s) β} {m : Machine κ τ s}
    (hx : MadeOf host P x m) (hf : ∀ a t, MadeOf host P (f a) t) : MadeOf host P (x >>= f) m := by
  obtain ⟨xs, hxs, hm⟩ := hx
  unfold MadeOf
  rw [Act.exec_bind]
  -- whether the second operation is reached depends on the answer of the first
  generalize x.exec m = out at hm ⊢
  obtain ⟨e | a, t⟩ := out
  · exact ⟨xs, hxs, hm⟩
  · obtain ⟨ys, hys, ht⟩ := hf a t
    refine ⟨xs ++ ys, ?_, ?_⟩
    · intro y hy
      rcases List.mem_append.mp hy with hy | hy
      · exact hxs y hy
      · exact hys y hy
    · rw [afterAll_append, ← hm]
      exact ht

theorem get_bind {f : Machine κ τ s → Act (Machine κ τ s) α} {m : Machine κ τ s}
    (h : MadeOf host P (f m) m) : MadeOf host P (get >>= f) m := by
  unfold MadeOf
  rw [Act.exec_get_bind]
  exact h

theorem ite {c : Prop} [Decidable c] {x y : Act (Machine κ τ s) α} {m : Machine κ τ s}
    (hx : MadeOf host P x m) (hy : MadeOf host P y m) : MadeOf host P (if c then x else y) m := by
  split
  · exact hx
  · exact hy

end MadeOf

/-- The turns that a call is made of. -/
inductive PartOf : Call κ → Turn κ → Prop
  | single {c : Call κ} (single : c.loops = false) : PartOf c (.call c single)
  /-- A run is made of steps, of what goes on between them, and of the passing of time. -/
  | step {look : κ → κ} {looks : Nat} : PartOf (.run look looks) .step
  | service {look : κ → κ} {looks : Nat} : PartOf (.run look looks) .service
  | pollPace {look : κ → κ} {looks : Nat} : PartOf (.run look looks) .pollPace
  | signal {look : κ → κ} {looks : Nat} {change : StopSignal → StopSignal} :
    PartOf (.run look looks) (.signal change)
  | elapse {look : κ → κ} {looks : Nat} : PartOf (.run look looks) (.call (.elapse look) rfl)

end Turn

namespace Machine

variable [Seconds τ] [Clock κ τ] {host : Host s}

section MadeOf

variable {P : Turn κ → Prop} (hstep : P .step)

include hstep

/-- A burst is made of steps. The induction is on the steps that are left of it. -/
theorem madeOf_burst (n : Nat) (m : Machine κ τ s) : Turn.MadeOf host P (burst host n) m := by
  induction n generalizing m with
  | zero => exact .pure () m
  | succ n ih =>
    refine .bind (.single hstep rfl) fun _ t => .get_bind ?_
    exact .ite (.pure () t) (ih t)

variable (hservice : P .service) (hpoll : P .pollPace)

include hservice hpoll

/-- A pass is made of a poll of the pace and of steps or of a service of the timers. -/
theorem madeOf_pass (m : Machine κ τ s) : Turn.MadeOf host P (pass host) m := by
  refine .get_bind (.ite (.pure true m) ?_)
  cases hpace : m.pace with
  | none => exact .bind (.single hstep rfl) fun _ => .pure false
  | some pace =>
    -- the poll is a turn because it is the machine's own pace that is polled
    refine .bind (.single hpoll ?_) fun due t => ?_
    · rw [Turn.after, Turn.act, Act.exec_get_bind, hpace, Act.exec_bind]
      generalize (pollPace pace).exec m = out
      obtain ⟨e | a, t⟩ := out <;> rfl
    · dsimp only
      split
      · exact .bind (.single hservice rfl) fun _ => .pure false
      · exact .bind (madeOf_burst hstep _ t) fun _ => .pure false

variable (hsignal : ∀ change, P (.signal change)) {look : κ → κ}
  (helapse : P (.call (.elapse look) rfl))

include hsignal helapse

/-- The loop is made of its passes and of what goes on between them. The induction is on the looks at the
    signal. -/
theorem madeOf_loop (looks : Nat) (m : Machine κ τ s) :
    Turn.MadeOf host P (loop host look looks) m := by
  induction looks generalizing m with
  | zero => exact .pure () m
  | succ looks ih =>
    -- a look at the stop signal, and then a pass unless there was a stop or a halt
    refine .get_bind (.ite (.pure () m) ?_)
    have hlook : Turn.MadeOf host P (modify (useLook look looks)) m := by
      refine ⟨[.call (.elapse look) rfl, .signal fun signal => { signal with looks }], ?_, rfl⟩
      simp [helapse, hsignal]
    refine .bind hlook fun _ t => .get_bind (.ite (.pure () t) ?_)
    refine .bind (madeOf_pass hstep hservice hpoll t) fun idle u => .ite ?_ (ih u)
    exact .bind (.single (hsignal fun signal => { signal with waits := signal.waits + 1 }) rfl)
      fun _ v => ih v

/-- A run of the loop is made of turns. -/
theorem madeOf_run (looks : Nat) (m : Machine κ τ s) :
    Turn.MadeOf host P (run host look looks) m :=
  .bind (.single (hsignal fun _ => { looks }) rfl) fun _ t =>
    madeOf_loop hstep hservice hpoll hsignal helapse looks t

end MadeOf

end Machine

variable [Seconds τ] [Clock κ τ]

/-- Every call is made of turns that are parts of it. -/
theorem Call.madeOf (host : Host s) (c : Call κ) (m : Machine κ τ s) :
    Turn.MadeOf host (Turn.PartOf c) (c.act host) m := by
  cases c with
  | run look looks => exact Machine.madeOf_run .step .service .pollPace (fun _ => .signal) .elapse looks m
  | _ => exact .single (.single rfl) rfl

/-- What calls leave, turns leave: every list of calls is a list of turns that are parts of them. -/
theorem Call.exists_turns (host : Host s) (cs : List (Call κ)) (m : Machine κ τ s) :
    ∃ xs : List (Turn κ), (∀ x ∈ xs, ∃ c ∈ cs, x.PartOf c) ∧
      cs.foldl (fun m c => c.after host m) m = Turn.afterAll host xs m := by
  induction cs generalizing m with
  | nil => exact ⟨[], by simp, rfl⟩
  | cons c cs ih =>
    obtain ⟨xs, hxs, hm⟩ := c.madeOf host m
    obtain ⟨ys, hys, ht⟩ := ih (c.after host m)
    -- the turns of the first call, and then those of the others from what it left
    refine ⟨xs ++ ys, ?_, ?_⟩
    · intro x hx
      rcases List.mem_append.mp hx with hx | hx
      · exact ⟨c, List.mem_cons_self, hxs x hx⟩
      · obtain ⟨d, hd, hpart⟩ := hys x hx
        exact ⟨d, List.mem_cons_of_mem _ hd, hpart⟩
    · rw [Turn.afterAll_append, ← hm]
      exact ht

/-- A new machine on a clock that stands still. -/
def Machine.still : Machine (ManualClock Rat) Rat .standard :=
  .create ({} : Settings Rat) (⟨0, 0, 0⟩ : ManualClock Rat) fun _ => 0

/-! ## Kinds of turns

There are four kinds of turns: steps, timer periods, restarts, and those that leave alone what programs see.
What a turn of a kind leaves alone is said once here for all that follow. -/

namespace Machine

/-- `t` is `m` but for the keys, the switches, the time and the log. -/
structure Aside (m t : Machine κ τ s) : Prop where
  core : ∃ keypad strict tracing,
    t.core = { m.core with board := { m.board with keypad }, strict, tracing }
  heard : t.heard = m.heard
  halted : t.halted = m.halted

omit [Seconds τ] [Clock κ τ] in
theorem Aside.of_core {m t : Machine κ τ s} (hcore : t.core = m.core) (hheard : t.heard = m.heard)
    (hhalted : t.halted = m.halted) : Aside m t :=
  ⟨⟨m.board.keypad, m.strict, m.tracing, hcore⟩, hheard, hhalted⟩

/-- One timer period. -/
theorem ticked_tick (host : Host s) (m : Machine κ τ s) : Ticked m ((tick host).exec m).2 :=
  keeps_tick (fun on => Ticked.of_tone host on) (fun _ _ h hu => h.of_change hu) m (.refl m)

omit [Seconds τ] [Clock κ τ] in
theorem aside_inputKey (key : Int) (down : Option Bool) (m : Machine κ τ s) :
    Aside m ((inputKey key down).exec m).2 := by
  cases down with
  | none => exact .of_core rfl rfl rfl
  | some down =>
    rw [inputKey, Act.exec_get_bind]
    cases m.board.keypad.set key down with
    | error e => exact .of_core rfl rfl rfl
    | ok keypad => exact ⟨⟨keypad, m.strict, m.tracing, rfl⟩, rfl, rfl⟩

omit [Seconds τ] [Clock κ τ] in
theorem aside_inputKeys (changes : List (Int × Bool)) (m : Machine κ τ s) :
    Aside m ((inputKeys changes).exec m).2 := by
  rw [inputKeys, Act.exec_get_bind]
  cases m.board.keypad.update changes with
  | error e => exact .of_core rfl rfl rfl
  | ok keypad => exact ⟨⟨keypad, m.strict, m.tracing, rfl⟩, rfl, rfl⟩

/-- A poll of the pace moves the clock on, and the pace if the steps due have a number. -/
theorem exec_pollPace (pace : Cadence τ) (m : Machine κ τ s) :
    (pollPace pace).exec m =
      match pace.due m.clock with
      | (.error e, clock) => (.error (.time e), { m with clock })
      | (.ok (due, pace), clock) => (.ok due, { m with pace := some pace, clock }) := by
  rw [pollPace, Act.exec_get_bind]
  obtain ⟨answer, clock⟩ := pace.due m.clock
  cases answer <;> rfl

theorem after_pollPace (host : Host s) (m : Machine κ τ s) :
    Turn.pollPace.after host m =
      match m.pace with
      | none => m
      | some pace => ((pollPace pace).exec m).2 := by
  rw [Turn.after, Turn.act, Act.exec_get_bind]
  cases m.pace with
  | none => rfl
  | some pace =>
    dsimp only
    rw [Act.exec_bind]
    generalize (pollPace pace).exec m = out
    obtain ⟨answer, t⟩ := out
    cases answer <;> rfl

/-- A poll of the pace changes nothing but the time, whether it fails or not. -/
theorem pollPace_frame (host : Host s) (m : Machine κ τ s) :
    (Turn.pollPace.after host m).core = m.core ∧ (Turn.pollPace.after host m).heard = m.heard ∧
      (Turn.pollPace.after host m).halted = m.halted := by
  rw [after_pollPace]
  cases m.pace with
  | none => exact ⟨rfl, rfl, rfl⟩
  | some pace =>
    dsimp only
    rw [exec_pollPace]
    split <;> exact ⟨rfl, rfl, rfl⟩

end Machine

namespace Turn

/-- A turn about the timers changes nothing but them, and tells of tones only. -/
theorem ticked_after (host : Host s) {x : Turn κ} (hx : x.kind = .tick) (m : Machine κ τ s) :
    Machine.Ticked m (x.after host m) := by
  cases x with
  | call c single =>
    cases c with
    | tick => exact Machine.ticked_tick host m
    | _ => cases hx
  | service => exact Machine.ticked_serviceTimers host m
  | _ => cases hx

/-- A turn aside changes only the keys, the switches, the time and the log. -/
theorem aside_after (host : Host s) {x : Turn κ} (hx : x.kind = .aside) (m : Machine κ τ s) :
    Machine.Aside m (x.after host m) := by
  cases x with
  | call c single =>
    cases c with
    | inputKey key down => exact Machine.aside_inputKey key down m
    | inputKeys changes => exact Machine.aside_inputKeys changes m
    | pause =>
      obtain ⟨hcore, hheard, hhalted⟩ := Machine.pause_frame m
      exact .of_core hcore hheard hhalted
    | resume =>
      obtain ⟨hcore, hheard, hhalted⟩ := Machine.resume_frame m
      exact .of_core hcore hheard hhalted
    | switch strict tracing => exact ⟨⟨m.board.keypad, strict, tracing, rfl⟩, rfl, rfl⟩
    | elapse move => exact .of_core rfl rfl rfl
    -- a run is no single turn, and what is left has another kind
    | run look looks => cases single
    | _ => cases hx
  | pollPace =>
    obtain ⟨hcore, hheard, hhalted⟩ := Machine.pollPace_frame host m
    exact .of_core hcore hheard hhalted
  | signal change => exact .of_core rfl rfl rfl
  | service => cases hx

/-- A turn that restarts brings the board to power-on. -/
theorem board_after_of_restart (host : Host s) {x : Turn κ} (hx : x.kind = .restart)
    (m : Machine κ τ s) : ∃ program, (x.after host m).board = Machine.powered program m.board := by
  cases x with
  | call c single =>
    cases c with
    | load program => exact ⟨program, Machine.board_load host program m⟩
    | reset => exact ⟨m.program, Machine.board_reset host m⟩
    | _ => cases hx
  | _ => cases hx

/-- Registers stay within their bounds, whatever the turn. -/
theorem bounded_after (host : Host s) (x : Turn κ) {m : Machine κ τ s} (hm : m.Bounded) :
    (x.after host m).Bounded := by
  cases hx : x.kind with
  | step =>
    obtain rfl := eq_step_of_kind hx
    exact Machine.bounded_step host m hm
  | tick =>
    cases x with
    | call c single =>
      cases c with
      | tick => exact Machine.bounded_tick host m hm
      | _ => cases hx
    | service => exact Machine.bounded_serviceTimers host m hm
    | _ => cases hx
  | restart =>
    -- the registers at power-on do not depend on what they were
    obtain ⟨program, hboard⟩ := board_after_of_restart host hx m
    unfold Machine.Bounded
    rw [hboard]
    exact Registers.sound_initial
  | aside =>
    obtain ⟨keypad, strict, tracing, hcore⟩ := (aside_after host hx m).core
    exact hm.of_regs (congrArg (·.board.regs) hcore)

end Turn

namespace Machine

/-! ## Steps

All that a step does to a machine, with the state after the service of the timers named. -/

/-- The ways in which a step changes a machine. -/
inductive Moved (host : Host s) (m : Machine κ τ s) : Machine κ τ s → Prop
  | halted (halted : m.halted = true) : Moved host m m
  /-- The timers could not be serviced to the end. -/
  | unserviced {e : Failure} {t : Machine κ τ s} (service : (serviceTimers host).exec m = (.error e, t))
    (ticked : Ticked m t) : Moved host m t
  | polled {t : Machine κ τ s} (service : (serviceTimers host).exec m = (.ok (), t)) (ticked : Ticked m t)
    {x : Fin 16} (wait : t.wait = some x) : Moved host m ((pollKeys host x).exec t).2
  | ran {t : Machine κ τ s} (service : (serviceTimers host).exec m = (.ok (), t)) (ticked : Ticked m t)
    (bounded : t.Bounded) (wait : t.wait = none) {out : Except Failure Unit × Machine κ τ s}
    (ran : Ran host t out) : Moved host m out.2

/-- Every step changes a machine in one of these ways. -/
theorem moved_step (host : Host s) {m : Machine κ τ s} (hb : m.Bounded) :
    Moved host m (Call.step.after host m) := by
  unfold Call.after Call.act
  cases hhalted : m.halted with
  | true =>
    rw [exec_step_of_halted host hhalted]
    exact .halted hhalted
  | false =>
    have hticked := ticked_serviceTimers host m
    have hbounded := bounded_serviceTimers host m hb
    have h := stepped_step host hb hhalted
    -- `stepped_step` says how the step went; what is added are facts about the service of the timers
    generalize (step host).exec m = out at h
    cases h with
    | unserviced service =>
      rw [service] at hticked
      exact .unserviced service hticked
    | polled service wait =>
      rw [service] at hticked
      exact .polled service hticked wait
    | ran service wait ran =>
      rw [service] at hticked hbounded
      exact .ran service hticked hbounded wait ran

/-! ## Words

The word that the next step would fetch. Short of a restart, nothing that happens between steps changes
which one it is. -/

/-- The word at the program counter, unless memory ends there. -/
def word? (m : Machine κ τ s) : Option Word := m.board.memory.word? m.board.regs.pc

omit [Seconds τ] [Clock κ τ] in
theorem word?_eq_some_iff {m : Machine κ τ s} {w : Word} :
    m.word? = some w ↔ m.board.memory.WordAt m.board.regs.pc w :=
  Memory.word?_eq_some_iff

omit [Seconds τ] [Clock κ τ] in
/-- The word does not change while the timers are serviced. -/
theorem Ticked.word?_eq {m t : Machine κ τ s} (h : Ticked m t) : t.word? = m.word? := by
  have hmemory : t.board.memory = m.board.memory := congrArg (·.board.memory) h.core
  have hpc : t.board.regs.pc = m.board.regs.pc := congrArg (·.board.regs.pc) h.core
  rw [word?, word?, hmemory, hpc]

omit [Seconds τ] [Clock κ τ] in
/-- The word is the same whatever is done with the keys, the switches and the clock. -/
theorem Aside.word?_eq {m t : Machine κ τ s} (h : Aside m t) : t.word? = m.word? := by
  obtain ⟨keypad, strict, tracing, hcore⟩ := h.core
  exact congrArg (fun c : Core s => c.board.memory.word? c.board.regs.pc) hcore

/-! ## Answers

What a step answers, from the fault of the word that it fetches. -/

omit [Seconds τ] [Clock κ τ] in
/-- Servicing the timers changes nothing that a fault depends on. -/
theorem Ticked.fault?_eq {m t : Machine κ τ s} (h : Ticked m t) (ins : Instruction) :
    ins.fault? t.strict t.fetched.board.regs = ins.fault? m.strict m.fetched.board.regs := by
  have hstrict : t.strict = m.strict := congrArg Core.strict h.core
  have hregs : t.fetched.board.regs.untimed = m.fetched.board.regs.untimed :=
    congrArg (fun c : Core s => { c.board.regs with pc := c.board.regs.pc + 2 }) h.core
  rw [hstrict, ← Instruction.fault?_untimed, hregs, Instruction.fault?_untimed]

/-- Where no listener fails an instruction answers with the fault of its word. -/
theorem Ran.answer {host : Host s} {t : Machine κ τ s} {out : Except Failure Unit × Machine κ τ s}
    (h : Ran host t out) {w : Word} (hw : t.board.memory.WordAt t.board.regs.pc w)
    (hanswer : ∀ e, out.1 = .error e → ∃ halt, e = .halt halt) :
    out.1 = match (Instruction.ofWord w).fault? t.strict t.fetched.board.regs with
      | some f => .error (.halt ⟨f, t.board.regs.pc, some w⟩)
      | none => .ok () := by
  -- the answers that are excluded are those of listeners that fail
  have hlistener {e : Failure} (hmay : host.MayFail e) : out.1 ≠ .error e := by
    intro hout
    obtain ⟨halt, hhalt⟩ := hanswer e hout
    obtain ⟨⟨name, hname⟩, -⟩ := hmay
    cases hname.symm.trans hhalt
  cases h with
  | noWord past =>
    have := lt_of_wordAt hw
    omega
  | untraced fetched fails | untold fetched fault fails => exact absurd rfl (hlistener fails)
  | fault fetched fault =>
    obtain rfl := fetched.unique hw
    rw [fault]
  | @done w' fetched fault =>
    obtain rfl := fetched.unique hw
    rw [fault]
    cases hout : ((announceFrame host).exec { (t.ready host w').effected host w' with
        instructions := ((t.ready host w').effected host w').instructions + 1 }).1 with
    | ok a => rfl
    | error e => exact absurd hout (hlistener (announceFrame_fails host _ _ hout))

/-- A step answers with the fault of its word, unless it fails over the time or a listener. -/
theorem answer_step {host : Host s} {m : Machine κ τ s} (hb : m.Bounded) (hhalted : m.halted = false)
    (hwait : m.wait = none) {w : Word} (hw : m.word? = some w)
    (hanswer : ∀ e, ((step host).exec m).1 = .error e → ∃ halt, e = .halt halt) :
    ((step host).exec m).1 =
      match (Instruction.ofWord w).fault? m.strict m.fetched.board.regs with
      | some f => .error (.halt ⟨f, m.board.regs.pc, some w⟩)
      | none => .ok () := by
  have hticked := ticked_serviceTimers host m
  have h := stepped_step host hb hhalted
  generalize (step host).exec m = out at h hanswer ⊢
  cases h with
  | unserviced service =>
    -- a service fails over the time or a listener, never with a halt
    obtain ⟨halt, rfl⟩ := hanswer _ rfl
    exact absurd rfl (serviceTimers_ne_halt service halt)
  | polled service wait =>
    rw [service] at hticked
    rw [hticked.wait_eq, hwait] at wait
    cases wait
  | @ran t service wait out ran =>
    rw [service] at hticked
    -- the service leaves the counter, the word and what its fault depends on
    have hpc : t.board.regs.pc = m.board.regs.pc := congrArg (·.board.regs.pc) hticked.core
    rw [← hticked.word?_eq] at hw
    rw [ran.answer (word?_eq_some_iff.mp hw) hanswer, hticked.fault?_eq, hpc]

/-! ## Completed instructions

A step completes a word if the count of instructions goes up. There is one way for that to happen, and the
machine that it leaves is given by the effect of the word. -/

/-- The word that a step completes, if it completes one: an instruction was counted. -/
def completed (host : Host s) (m : Machine κ τ s) : Option Word :=
  if (Call.step.after host m).instructions = m.instructions + 1 then m.word? else none

theorem completed_eq_none {host : Host s} {m : Machine κ τ s}
    (h : (Call.step.after host m).instructions = m.instructions) : m.completed host = none := by
  rw [completed, if_neg (by omega)]

theorem word?_of_completed {host : Host s} {m : Machine κ τ s} {w : Word}
    (h : m.completed host = some w) : m.word? = some w :=
  (Option.ite_none_right_eq_some.mp h).2

theorem wordAt_of_completed {host : Host s} {m : Machine κ τ s} {w : Word}
    (h : m.completed host = some w) : m.board.memory.WordAt m.board.regs.pc w :=
  word?_eq_some_iff.mp (word?_of_completed h)

/-- A poll for a key changes no more of the core than a byte register and the wait. -/
theorem core_pollKeys (host : Host s) (x : Fin 16) (m : Machine κ τ s) :
    ∃ v wait, ((pollKeys host x).exec m).2.core =
      { m.core with board := m.board.mapRegs fun r => { r with v }, wait } := by
  rw [exec_pollKeys]
  split
  · exact ⟨m.board.regs.v, m.wait, rfl⟩
  · exact ⟨_, none, core_emit host _ _⟩

/-- The machine in which a fetched word was executed and counted. If a picture is finished, listeners
    are still to be told. -/
def counted (host : Host s) (w : Word) (m : Machine κ τ s) : Machine κ τ s :=
  { (m.ready host w).effected host w with instructions := m.instructions + 1 }

/-- Executing a fetched word and passing on its effect does not count it yet. -/
theorem instructions_effected (host : Host s) (w : Word) (m : Machine κ τ s) :
    ((m.ready host w).effected host w).instructions = m.instructions := by
  obtain ⟨traces, hcore⟩ := m.fetched.core_traced host m.board.regs.pc w
  have hready : (m.ready host w).instructions = m.instructions := congrArg Core.instructions hcore
  exact (congrArg Core.instructions (core_deliver host _ _)).trans hready

theorem counted_eq (host : Host s) (w : Word) (m : Machine κ τ s) :
    { (m.ready host w).effected host w with
      instructions := ((m.ready host w).effected host w).instructions + 1 } = m.counted host w := by
  rw [counted, instructions_effected]

/-- The core in which a fetched word was executed on the board. -/
theorem core_executed_ready (host : Host s) (w : Word) (m : Machine κ τ s) :
    ∃ traces, ((m.ready host w).executed w).core =
      { m.core with board := m.fetched.board.executed m.strict m.noise w, traces } := by
  obtain ⟨traces, hready⟩ := m.fetched.core_traced host m.board.regs.pc w
  refine ⟨traces, ?_⟩
  have hexecuted : ((m.ready host w).executed w).core =
      { (m.ready host w).core with board := m.fetched.board.executed m.strict m.noise w } := by
    rw [← board_executed_ready host w m]
    rfl
  rw [hexecuted, ready, hready]
  rfl

/-- The core of a machine in which a word was counted, whatever listeners were told. -/
theorem core_counted (host : Host s) (w : Word) (m : Machine κ τ s) :
    ∃ traces, (m.counted host w).core =
      { m.core with
        board := m.fetched.board.executed m.strict m.noise w
        wait := waitAfter ((m.fetched.board.mapRegs (·.noting w)).effect (Instruction.ofWord w)) m.wait
        instructions := m.instructions + 1
        traces } := by
  obtain ⟨traces, hexecuted⟩ := core_executed_ready host w m
  have hboard : (m.ready host w).board = m.fetched.board := board_traced host _ w m.fetched
  have hwait : ((m.ready host w).executed w).wait = m.wait := congrArg Core.wait hexecuted
  -- an effect reaches the core by the wait only, and a listener reaches none of it
  have heffected : ((m.ready host w).effected host w).core =
      { ((m.ready host w).executed w).core with
        wait := waitAfter (((m.ready host w).board.mapRegs (·.noting w)).effect (Instruction.ofWord w))
          ((m.ready host w).executed w).wait } :=
    core_deliver host _ _
  rw [hboard, hwait, hexecuted] at heffected
  have hcounted : (m.counted host w).core =
      { ((m.ready host w).effected host w).core with instructions := m.instructions + 1 } := rfl
  exact ⟨traces, by rw [hcounted, heffected]⟩

/-- What was heard of a machine in which a word was counted: the trace of the word, and then its effect. -/
theorem heard_counted (host : Host s) (w : Word) (m : Machine κ τ s) :
    (m.counted host w).heard =
      told ((m.fetched.board.mapRegs (·.noting w)).effect (Instruction.ofWord w)) ++
        if m.tracing then .traced (TraceEntry.of m.board.regs.pc w m.fetched.board.regs) :: m.heard
        else m.heard := by
  have hboard : (m.ready host w).board = m.fetched.board := board_traced host _ w m.fetched
  have htraced := m.fetched.heard_traced host m.board.regs.pc w
  have htold : (m.counted host w).heard =
      told (((m.ready host w).board.mapRegs (·.noting w)).effect (Instruction.ofWord w)) ++
        (m.ready host w).heard :=
    heard_deliver host _ _
  rw [htold, hboard, ready, htraced]
  rfl

/-- The core of a machine in which a word was counted and listeners were told of a finished picture. -/
theorem core_announced (host : Host s) (w : Word) (m : Machine κ τ s) :
    ∃ traces, ((announceFrame host).exec (m.counted host w)).2.core =
      { m.core with
        board := { m.fetched.board.executed m.strict m.noise w with
          display := (m.fetched.board.executed m.strict m.noise w).display.takeFrameReady.2 }
        wait := waitAfter ((m.fetched.board.mapRegs (·.noting w)).effect (Instruction.ofWord w)) m.wait
        instructions := m.instructions + 1
        traces } := by
  obtain ⟨traces, hcounted⟩ := core_counted host w m
  have hboard : (m.counted host w).board = m.fetched.board.executed m.strict m.noise w :=
    congrArg Core.board hcounted
  refine ⟨traces, ?_⟩
  rw [core_announceFrame, hcounted, hboard]

/-- A step that ends with a counted word completes it. -/
theorem completed_of_counted {host : Host s} {m t : Machine κ τ s} (h : Ticked m t) {w : Word}
    (hw : t.board.memory.WordAt t.board.regs.pc w)
    (hstep : Call.step.after host m = ((announceFrame host).exec (t.counted host w)).2) :
    m.completed host = some w := by
  have hcount : (Call.step.after host m).instructions = m.instructions + 1 := by
    have ht : t.instructions = m.instructions := congrArg Core.instructions h.core
    obtain ⟨traces, hcore⟩ := core_announced host w t
    rw [hstep, ← ht]
    exact congrArg Core.instructions hcore
  rw [completed, if_pos hcount, ← h.word?_eq]
  exact word?_eq_some_iff.mpr hw

/-- An instruction that does not come to its end is not counted, and one that does is counted as `counted`
    says. -/
theorem Ran.counted_or_not {host : Host s} {t : Machine κ τ s} {out : Except Failure Unit × Machine κ τ s}
    (h : Ran host t out) : out.2.instructions = t.instructions ∨
      ∃ w, t.board.memory.WordAt t.board.regs.pc w ∧
        (Instruction.ofWord w).fault? t.strict t.fetched.board.regs = none ∧
        out = (announceFrame host).exec (t.counted host w) := by
  -- an instruction can break off at four places, all of them before it is counted
  cases h with
  | noWord past => exact Or.inl rfl
  | @untraced w fetched e fails =>
    obtain ⟨traces, hcore⟩ := t.fetched.core_traced host t.board.regs.pc w
    exact Or.inl (congrArg Core.instructions hcore)
  | @fault w fetched f fault =>
    obtain ⟨traces, hcore⟩ := core_executed_ready host w t
    exact Or.inl (congrArg Core.instructions hcore)
  | @untold w fetched fault e fails told => exact Or.inl (instructions_effected host w t)
  | @done w fetched fault =>
    rw [counted_eq]
    exact Or.inr ⟨w, fetched, fault, rfl⟩

/-- How a step completes a word. The timers caught up with the clock, which left `t`; there the word was
    fetched and executed without a fault, and counted. -/
structure Completing (host : Host s) (m : Machine κ τ s) (w : Word) (t : Machine κ τ s) : Prop where
  ticked : Ticked m t
  bounded : t.Bounded
  awake : t.wait = none
  fetched : t.board.memory.WordAt t.board.regs.pc w
  fault : (Instruction.ofWord w).fault? t.strict t.fetched.board.regs = none
  after : Call.step.after host m = ((announceFrame host).exec (t.counted host w)).2

/-- There is no way to complete a word but this. -/
theorem completing_of_completed {host : Host s} {m : Machine κ τ s} (hb : m.Bounded) {w : Word}
    (h : m.completed host = some w) : ∃ t, Completing host m w t := by
  have hmoved := moved_step host hb
  generalize hu : Call.step.after host m = u at hmoved
  -- the step completed a word, so it must have counted one
  have hcounts : u.instructions ≠ m.instructions := by
    intro hcount
    rw [completed_eq_none (by rw [hu, hcount])] at h
    cases h
  cases hmoved with
  | halted => exact absurd rfl hcounts
  | unserviced service ticked => exact absurd (congrArg Core.instructions ticked.core) hcounts
  | @polled t service ticked x wait =>
    obtain ⟨v, wait, hcore⟩ := core_pollKeys host x t
    have hcount : ((pollKeys host x).exec t).2.instructions = t.instructions :=
      congrArg Core.instructions hcore
    exact absurd (hcount.trans (congrArg Core.instructions ticked.core)) hcounts
  | @ran t service ticked bounded wait out ran =>
    rcases ran.counted_or_not with hcount | ⟨v, fetched, fault, rfl⟩
    · exact absurd (hcount.trans (congrArg Core.instructions ticked.core)) hcounts
    · obtain rfl : w = v := Option.some.inj (h.symm.trans (completed_of_counted ticked fetched hu))
      exact ⟨t, ticked, bounded, wait, fetched, fault, hu⟩

/-- A step of a running machine that does not wait completes a word, if it does not fail. -/
theorem completed_of_ok {host : Host s} {m : Machine κ τ s} (hb : m.Bounded) (hhalted : m.halted = false)
    (hwait : m.wait = none) (hok : ((step host).exec m).1 = .ok ()) :
    ∃ w, m.completed host = some w ∧ m.board.memory.WordAt m.board.regs.pc w := by
  have hticked := ticked_serviceTimers host m
  have h := stepped_step host hb hhalted
  have hafter : Call.step.after host m = ((step host).exec m).2 := rfl
  generalize (step host).exec m = out at h hok hafter
  cases h with
  | unserviced service => cases hok
  | polled service wait =>
    rw [service] at hticked
    rw [hticked.wait_eq, hwait] at wait
    cases wait
  | @ran t service wait out ran =>
    rw [service] at hticked
    cases ran with
    | noWord past => cases hok
    -- all ways to break off answer with a failure
    | untraced fetched fails | untold fetched fault fails => cases hok
    | fault fetched fault => cases hok
    | @done w fetched fault =>
      rw [counted_eq] at hafter
      have hcompleted := completed_of_counted hticked fetched hafter
      exact ⟨w, hcompleted, wordAt_of_completed hcompleted⟩

/-- Where no listener fails and the periods due have a number, a step of a running machine that does not wait
    completes the word at the counter, unless the word strikes a fault. -/
theorem completed_of_word {host : Host s} (hfails : host.NeverFails) {m : Machine κ τ s} (hb : m.Bounded)
    (hhalted : m.halted = false) (hwait : m.wait = none) {due : Int} (hdue : (pollTimer.exec m).1 = .ok due)
    {w : Word} (hw : m.board.memory.WordAt m.board.regs.pc w)
    (hfault : (Instruction.ofWord w).fault? m.strict m.fetched.board.regs = none) :
    m.completed host = some w := by
  have hok : ((step host).exec m).1 = .ok () := by
    have hstep (hanswer : ∀ e, ((step host).exec m).1 = .error e → ∃ halt, e = .halt halt) :=
      answer_step hb hhalted hwait (word?_eq_some_iff.mpr hw) hanswer
    rw [hfault] at hstep
    refine hstep fun e he => ?_
    rcases step_fails host hb hdue he with hhalt | ⟨-, hmay⟩
    · exact hhalt
    · exact absurd hfails hmay
  obtain ⟨v, hv, hfetched⟩ := completed_of_ok hb hhalted hwait hok
  rw [hv, hfetched.unique hw]

end Machine

namespace Turn

/-- The word that a turn completes, if it is a step that completes one. -/
def completed (host : Host s) (x : Turn κ) (m : Machine κ τ s) : Option Word :=
  if x.kind = .step then m.completed host else none

/-- The words that turns complete, in this order. -/
def completedWords (host : Host s) : List (Turn κ) → Machine κ τ s → List Word
  | [], _ => []
  | x :: xs, m => (x.completed host m).toList ++ completedWords host xs (x.after host m)

/-- What a step completes as a turn is what it completes as a call. -/
theorem completed_step (host : Host s) (m : Machine κ τ s) :
    (step : Turn κ).completed host m = m.completed host :=
  if_pos kind_step

theorem completed_of_ne {x : Turn κ} (h : x.kind ≠ .step) (host : Host s) (m : Machine κ τ s) :
    x.completed host m = none :=
  if_neg h

end Turn

end Chip8
