import Chip8.Machine.Control
import Chip8.Machine.Run
import Chip8.Proofs.Act
/-!
What listeners can reach.

Listeners are code of the host that runs in the middle of the machine's operations. A listener may write to
the log, ask for a stop, pause the machine, halt it, or fail; it answers by what was heard so far, so it may
do each of these at any event.

1. **Frame** — an event leaves all of the machine but its log, stop signal, cadences and two flags alone. What
   it leaves alone is the `Core` (`core_emit`). The event is heard (`heard_emit`), and it can set the halt
   flag but never clear it (`halted_emit`).

2. **Failures** — telling fails only with the failure of a listener (`emit_fails`), so an operation that fails
   in no other way succeeds where no listener fails (`Act.exec_of_neverFails`).

3. **Hosts** — results that need well-behaved listeners say which: `Host.NeverFails`, `Host.NeverHalts` and
   `Host.NeverPauses`. All others hold of every host.
-/

namespace Chip8

variable {κ τ : Type} {s : Size}

/-- No listener fails. -/
def Host.NeverFails (host : Host s) : Prop := ∀ heard event, (host heard event).fail = false

/-- No listener halts the machine. -/
def Host.NeverHalts (host : Host s) : Prop := ∀ heard event, (host heard event).halt = false

/-- No listener pauses the machine. -/
def Host.NeverPauses (host : Host s) : Prop := ∀ heard event, (host heard event).pause = false

/-- A failure that a listener of the host may bring forth. Where no listener fails there is none, so a spec
    that allows it serves both kinds of host. -/
def Host.MayFail (host : Host s) (e : Failure) : Prop :=
  (∃ name, e = .listener name) ∧ ¬host.NeverFails

/-- Where no listener fails, what could fail only over a listener succeeds. -/
theorem Act.exec_of_neverFails {σ : Type} {host : Host s} (hfails : host.NeverFails)
    {act : Act σ Unit} (h : Act.FailsWith host.MayFail act) (m : σ) :
    act.exec m = (.ok (), (act.exec m).2) := by
  have h := h m
  generalize act.exec m = out at h ⊢
  obtain ⟨answer, t⟩ := out
  cases answer with
  | ok a => rfl
  | error e => exact absurd hfails (h e rfl).2

theorem Host.inert_neverFails : (inert : Host s).NeverFails := fun _ _ => rfl

theorem Host.inert_neverHalts : (inert : Host s).NeverHalts := fun _ _ => rfl

theorem Host.inert_neverPauses : (inert : Host s).NeverPauses := fun _ _ => rfl

/-- The parts of a machine that only its own operations change: no listener can reach them. The other parts
    are the clock and the cadences, the flags for a halt and a pause, the stop signal, the log, and what was
    heard. -/
structure Core (s : Size) where
  board : Board s
  program : Program
  strict : Bool
  tracing : Bool
  wait : Option (Fin 16)
  instructions : Nat
  ticks : Nat
  traces : List TraceEntry
  noise : Nat → UInt8

namespace Machine

/-- The core of a machine. -/
def core (m : Machine κ τ s) : Core s :=
  ⟨m.board, m.program, m.strict, m.tracing, m.wait, m.instructions, m.ticks, m.traces, m.noise⟩

variable [Seconds τ] [Clock κ τ]

/-! ## Time

What listeners can do to the cadences and the clock: a pause, or its end. All else of a machine is left
alone by these. -/

/-- The machine with other cadences and another clock. -/
def withTime (m : Machine κ τ s) (timer : Cadence τ) (pace : Option (Cadence τ)) (clock : κ) :
    Machine κ τ s :=
  { m with timerCadence := timer, pace, clock }

theorem pauseCadences_eq (m : Machine κ τ s) :
    ∃ timer pace clock, m.pauseCadences = m.withTime timer pace clock := by
  cases h : m.pace with
  | none => exact ⟨_, none, _, by rw [pauseCadences, withTime, h]⟩
  | some c => exact ⟨_, some _, _, by rw [pauseCadences, withTime, h]⟩

omit [Seconds τ] in
theorem resumeCadences_eq (m : Machine κ τ s) :
    ∃ timer pace clock, m.resumeCadences = m.withTime timer pace clock := by
  cases h : m.pace with
  | none => exact ⟨_, none, _, by rw [resumeCadences, withTime, h]⟩
  | some c => exact ⟨_, some _, _, by rw [resumeCadences, withTime, h]⟩

theorem startCadences_eq (m : Machine κ τ s) :
    ∃ timer pace clock, m.startCadences = m.withTime timer pace clock := by
  cases h : m.pace with
  | none => exact ⟨_, none, _, by rw [startCadences, withTime, h]⟩
  | some c => exact ⟨_, some _, _, by rw [startCadences, withTime, h]⟩

/-- Pausing changes the pace of the machine and nothing of its core; nobody hears of it. -/
theorem pause_frame (m : Machine κ τ s) :
    m.pause.core = m.core ∧ m.pause.heard = m.heard ∧ m.pause.halted = m.halted := by
  obtain ⟨timer, pace, clock, h⟩ := pauseCadences_eq { m with paused := true }
  rw [pause, h]
  exact ⟨rfl, rfl, rfl⟩

omit [Seconds τ] in
theorem resume_frame (m : Machine κ τ s) :
    m.resume.core = m.core ∧ m.resume.heard = m.heard ∧ m.resume.halted = m.halted := by
  obtain ⟨timer, pace, clock, h⟩ := resumeCadences_eq { m with paused := false }
  rw [resume, h]
  exact ⟨rfl, rfl, rfl⟩

/-! ## Events

An event is put in front of what was heard, and then the reaction of the host to it is carried out. The core
of the machine is out of its reach. -/

/-- A reaction, after the event was heard. -/
def react (r : Reaction) (m : Machine κ τ s) : Machine κ τ s :=
  let m := { m with log := r.log.reverse ++ m.log }
  let m := if r.stop then requestStop m else m
  let m := if r.pause then pause m else m
  if r.halt then { m with halted := true } else m

/-- An event is heard and reacted to. It fails if a listener does. -/
theorem exec_emit (host : Host s) (event : Event s) (m : Machine κ τ s) :
    (emit host event).exec m =
      (if (host m.heard event).fail then .error (.listener event.name) else .ok (),
        react (host m.heard event) { m with heard := event :: m.heard }) := by
  rw [emit, Act.exec_get_bind]
  generalize host m.heard event = r
  obtain ⟨log, stop, pause, halt, fail⟩ := r
  cases stop <;> cases pause <;> cases halt <;> cases fail <;> rfl

/-- A reaction leaves the core and what was heard, and of the flags it may raise that of a halt. -/
theorem react_frame (r : Reaction) (m : Machine κ τ s) :
    (react r m).core = m.core ∧ (react r m).heard = m.heard ∧
      (react r m).halted = (m.halted || r.halt) := by
  obtain ⟨log, stop, pause, halt, fail⟩ := r
  have hpause (m : Machine κ τ s) : (if pause then m.pause else m).core = m.core ∧
      (if pause then m.pause else m).heard = m.heard ∧
      (if pause then m.pause else m).halted = m.halted := by
    cases pause
    · exact ⟨rfl, rfl, rfl⟩
    · exact pause_frame m
  -- the log and the stop signal come first, and none of them touches what is kept
  let noted : Machine κ τ s := { m with log := log.reverse ++ m.log }
  obtain ⟨hc, hh, hf⟩ := hpause (if stop then noted.requestStop else noted)
  have hcs : (if stop then noted.requestStop else noted).core = m.core := by cases stop <;> rfl
  have hhs : (if stop then noted.requestStop else noted).heard = m.heard := by cases stop <;> rfl
  have hfs : (if stop then noted.requestStop else noted).halted = m.halted := by cases stop <;> rfl
  cases halt with
  | false =>
    rw [Bool.or_false]
    exact ⟨hc.trans hcs, hh.trans hhs, hf.trans hfs⟩
  | true =>
    rw [Bool.or_true]
    exact ⟨hc.trans hcs, hh.trans hhs, rfl⟩

/-- Nothing of the core changes when an event is told, whatever listeners do. -/
theorem core_emit (host : Host s) (event : Event s) (m : Machine κ τ s) :
    ((emit host event).exec m).2.core = m.core := by
  rw [exec_emit, (react_frame _ _).1]
  rfl

theorem heard_emit (host : Host s) (event : Event s) (m : Machine κ τ s) :
    ((emit host event).exec m).2.heard = event :: m.heard := by
  rw [exec_emit, (react_frame _ _).2.1]

theorem halted_emit (host : Host s) (event : Event s) (m : Machine κ τ s) :
    ((emit host event).exec m).2.halted = (m.halted || (host m.heard event).halt) := by
  rw [exec_emit, (react_frame _ _).2.2]

/-- Telling fails only with the failure of a listener. -/
theorem emit_fails (host : Host s) (event : Event s) :
    Act.FailsWith host.MayFail (emit host event : Act (Machine κ τ s) Unit) := by
  intro m e he
  rw [exec_emit] at he
  split at he
  · next hfail =>
    refine ⟨⟨_, (Except.error.inj he).symm⟩, fun hnever => ?_⟩
    rw [hnever] at hfail
    cases hfail
  · cases he

/-- Two machines hear an event and react to it alike, if their hosts do. The relation between the machines must
    survive each thing that a reaction may ask for, and is free otherwise. -/
theorem together_emit {κ' : Type} [Clock κ' τ] {host host' : Host s} {event : Event s}
    {R : Machine κ τ s → Machine κ' τ s → Prop}
    (hhost : ∀ m t, R m t → host m.heard event = host' t.heard event)
    (hheard : ∀ m t records, R m t →
      R { m with heard := event :: m.heard, log := records ++ m.log }
        { t with heard := event :: t.heard, log := records ++ t.log })
    (hstop : ∀ m t, R m t → R m.requestStop t.requestStop)
    (hpause : ∀ m t, R m t → R m.pause t.pause)
    (hhalt : ∀ m t, R m t → R { m with halted := true } { t with halted := true }) :
    Act.Together R (emit host event) (emit host' event) := by
  -- what a reaction may ask for is done on both sides or on neither
  have hif (c : Bool) {f : Machine κ τ s → Machine κ τ s} {g : Machine κ' τ s → Machine κ' τ s}
      (hfg : ∀ m t, R m t → R (f m) (g t)) {m : Machine κ τ s} {t : Machine κ' τ s} (h : R m t) :
      R (if c then f m else m) (if c then g t else t) := by
    split
    · exact hfg m t h
    · exact h
  intro m t h
  rw [exec_emit, exec_emit, hhost m t h]
  generalize host' t.heard event = r
  exact ⟨rfl, hif r.halt hhalt (hif r.pause hpause (hif r.stop hstop (hheard m t r.log.reverse h)))⟩

end Machine

end Chip8
