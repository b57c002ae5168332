import Chip8.Proofs.Turns
/-!
A state beside the register that waits.

That a machine waits for a key is told by the register that waits (`Machine.wait`), and its state is read off
that. `Flagged` is a machine with a state of its own: a flag that is raised when a wait begins and lowered
when it ends or the machine restarts, and that alone decides whether a step looks at the keys or runs an
instruction. A flagged machine that looks at the keys must know a register to put one into, and has no
answer if there is none.

1. **Operations** — `Flagged.step`, `reset` and `load` are those of a machine, written out once more with the
   flag wherever a wait begins or ends. All else that a machine does leaves the wait alone and is taken over
   as it is (`onMachine`).

2. **Invariant** — the flag is up exactly if there is a register that waits: `u = m.flagged`. Each operation
   keeps it and answers what the machine answers (`together_runInstruction`, `exec_step_flagged`,
   `together_load`). The one step that needs care is that of a machine that waits, since it must not find
   the register missing; the invariant says that it does not.

3. **Runs** — so a flagged machine goes through every list of turns, and is the flagged machine of the one
   that goes through the same turns (`actAll_flagged`). Its state is "awaiting" exactly while a register
   waits (`awaiting_iff`).
-/

namespace Chip8

variable {κ τ : Type} {s : Size}

/-- A machine whose state is a variable of its own. -/
structure Flagged (κ τ : Type) (s : Size) where
  machine : Machine κ τ s
  /-- Is the state that a key is awaited? -/
  awaiting : Bool

/-- The machine with the state that its register tells. -/
def Machine.flagged (m : Machine κ τ s) : Flagged κ τ s := ⟨m, m.wait.isSome⟩

namespace Flagged

/-- An operation on the machine that leaves the state alone. -/
def onMachine {α : Type} (act : Act (Machine κ τ s) α) : Act (Flagged κ τ s) α := do
  let (answer, machine) := act.exec (← get).machine
  modify fun u => { u with machine }
  Act.ofExcept id answer

/-- A wait begins for register `x`. -/
def await (x : Fin 16) (u : Flagged κ τ s) : Flagged κ τ s :=
  { machine := { u.machine with wait := some x }, awaiting := true }

/-- The wait is over. -/
def proceed (u : Flagged κ τ s) : Flagged κ τ s :=
  { machine := { u.machine with wait := none }, awaiting := false }

variable [Seconds τ] [Clock κ τ]

/-- Pass on the effect of an instruction. -/
def deliver (host : Host s) : Effect → Act (Flagged κ τ s) Unit
  | .awaitKey x => do
    modify (await x)
    onMachine (Machine.emit host (.keyWait x))
  | effect => onMachine (Machine.deliver host effect)

/-- Execute a word. -/
def executeWord (host : Host s) (word : Word) : Act (Flagged κ τ s) Unit := do
  let m := (← get).machine
  deliver host (← onMachine (Machine.onBoard (Board.execute m.strict m.noise word)))

/-- Execute a word that was fetched, after it was traced. -/
def attempt (host : Host s) (pc : Int) (word : Word) : Act (Flagged κ τ s) Unit := do
  if (← get).machine.tracing then onMachine (Machine.traceWord host pc word)
  executeWord host word

/-- Fetch, trace and execute one instruction. -/
def runInstruction (host : Host s) : Act (Flagged κ τ s) Unit := do
  let pc := (← get).machine.board.regs.pc
  let word ← Act.onFault (onMachine (Machine.onBoard Board.fetch)) fun f =>
    onMachine (Machine.haltWith f pc none)
  Act.onFault (attempt host pc word) fun f => onMachine (Machine.haltWith f pc (some word))
  onMachine (modify fun m => { m with instructions := m.instructions + 1 })
  onMachine (Machine.announceFrame host)

/-- Look for a key. There must be a register to put it into. -/
def pollKeys (host : Host s) : Act (Flagged κ τ s) (Option Unit) := do
  match (← get).machine.wait with
  | none => return none
  | some x =>
    match (← get).machine.board.keypad.first? with
    | none => return some ()
    | some key =>
      onMachine (modify (Machine.mapRegs (·.put x (UInt8.ofNat key.val))))
      modify proceed
      onMachine (Machine.emit host (.keyResume x key))
      return some ()

/-- One step. The state decides what it does; it has no answer if a register is missing. -/
def step (host : Host s) : Act (Flagged κ τ s) (Option Unit) := do
  if (← get).machine.halted then return some ()
  onMachine (Machine.serviceTimers host)
  if (← get).awaiting then pollKeys host
  else
    runInstruction host
    return some ()

/-- Bring the machine to its state at power-on. -/
def reset (host : Host s) : Act (Flagged κ τ s) Unit := do
  let memory ← Act.ofExcept .fault (Memory.blank.load (← get).machine.program.bytes)
  onMachine (modify fun m =>
    { m with board := { m.board with memory, regs := .initial, display := .blank } })
  onMachine (Machine.setTone host false)
  modify proceed
  onMachine Machine.restartTime

/-- Install a program and reset the machine to run it. -/
def load (host : Host s) (program : Program) : Act (Flagged κ τ s) Unit := do
  onMachine (modify fun m => { m with program })
  reset host
  onMachine (modify (Machine.note .info s!"Loaded {program.title} ({program.size} bytes)"))

/-- What happens at a turn. -/
def act (host : Host s) : Turn κ → Act (Flagged κ τ s) (Option Unit)
  | .call .step _ => step host
  | .call .reset _ => some <$> reset host
  | .call (.load program) _ => some <$> load host program
  | x => some <$> onMachine (x.act host)

/-- The machine that a list of turns leaves, unless a register was missing at one of them. -/
def actAll (host : Host s) : List (Turn κ) → Flagged κ τ s → Option (Flagged κ τ s)
  | [], u => some u
  | x :: xs, u =>
    match (act host x).exec u with
    | (.ok none, _) => none
    | (_, u) => actAll host xs u

/-! ## The flag agrees with the register

Each operation of the machine with two fields goes in step with that of the machine with one. The invariant
`Agrees` says that the flag is what the register tells. -/

/-- The flagged machine is that of the machine. -/
def Agrees (u : Flagged κ τ s) (m : Machine κ τ s) : Prop := u = m.flagged

section

omit [Seconds τ] [Clock κ τ]

variable {α : Type}

theorem exec_onMachine (act : Act (Machine κ τ s) α) (u : Flagged κ τ s) :
    (onMachine act).exec u =
      ((act.exec u.machine).1, { u with machine := (act.exec u.machine).2 }) := by
  rw [onMachine, Act.exec_get_bind, Act.exec_modify_bind, Act.exec_ofExcept]
  cases (act.exec u.machine).1 <;> rfl

/-- What leaves the wait alone leaves a flagged machine of a machine. -/
theorem exec_onMachine_flagged {act : Act (Machine κ τ s) α} {m : Machine κ τ s}
    (hwait : (act.exec m).2.wait = m.wait) :
    (onMachine act).exec m.flagged = ((act.exec m).1, (act.exec m).2.flagged) := by
  rw [exec_onMachine, Machine.flagged, Machine.flagged, hwait]

/-- What leaves the wait alone can be taken over as it is. -/
theorem together_onMachine {act : Act (Machine κ τ s) α} (hwait : ∀ m, (act.exec m).2.wait = m.wait) :
    Act.Together Agrees (onMachine act) act := by
  rintro u m rfl
  rw [exec_onMachine_flagged (hwait m)]
  exact ⟨rfl, rfl⟩

theorem together_onBoard (act : Act (Board s) α) :
    Act.Together Agrees (onMachine (Machine.onBoard act : Act (Machine κ τ s) α)) (Machine.onBoard act) := by
  refine together_onMachine fun m => ?_
  rw [Machine.exec_onBoard]

theorem together_haltWith (fault : Fault) (pc : Int) (word : Option Word) :
    Act.Together Agrees (onMachine (Machine.haltWith fault pc word : Act (Machine κ τ s) α))
      (Machine.haltWith fault pc word) :=
  together_onMachine fun _ => rfl

end

variable (host : Host s)

theorem exec_emit_flagged (event : Event s) (m : Machine κ τ s) :
    (onMachine (Machine.emit host event)).exec m.flagged =
      (((Machine.emit host event).exec m).1, ((Machine.emit host event).exec m).2.flagged) :=
  exec_onMachine_flagged (congrArg Core.wait (Machine.core_emit host event m))

/-- A wait begins in both, and no other effect is about the wait. -/
theorem together_deliver (effect : Effect) :
    Act.Together Agrees (deliver host effect : Act (Flagged κ τ s) Unit) (Machine.deliver host effect) := by
  have hwait (m : Machine κ τ s) :
      ((Machine.deliver host effect).exec m).2.wait = Machine.waitAfter effect m.wait :=
    congrArg Core.wait (Machine.core_deliver host effect m)
  cases effect with
  | awaitKey x =>
    -- the flag is raised before listeners are told, as the register is set
    refine .bind (.modify ?_) fun _ => together_onMachine fun m => ?_
    · rintro u m rfl
      rfl
    · exact congrArg Core.wait (Machine.core_emit host _ m)
  | quiet =>
    show Act.Together Agrees (onMachine (Machine.deliver host .quiet)) _
    exact together_onMachine hwait
  | tone on =>
    show Act.Together Agrees (onMachine (Machine.deliver host (.tone on))) _
    exact together_onMachine hwait
  | ignored w =>
    show Act.Together Agrees (onMachine (Machine.deliver host (.ignored w))) _
    exact together_onMachine hwait

theorem together_executeWord (w : Word) :
    Act.Together Agrees (executeWord host w : Act (Flagged κ τ s) Unit) (Machine.executeWord host w) := by
  refine .get_bind ?_
  rintro u m rfl
  exact Act.Together.bind (together_onBoard _) (fun effect => together_deliver host effect) _ _ rfl

/-- An attempt keeps the two fields in agreement with the one. -/
theorem together_attempt (pc : Int) (w : Word) :
    Act.Together Agrees (attempt host pc w : Act (Flagged κ τ s) Unit) (Machine.attempt host pc w) := by
  have htrace : Act.Together Agrees (onMachine (Machine.traceWord host pc w : Act (Machine κ τ s) Unit))
      (Machine.traceWord host pc w) := by
    refine together_onMachine fun m => ?_
    rw [Machine.traceWord, Act.exec_get_bind, Act.exec_modify_bind]
    exact congrArg Core.wait (Machine.core_emit host _ _)
  refine .get_bind ?_
  rintro u m rfl
  show Act.Paired _ (Act.exec (if m.tracing then _ else _) _) (Act.exec (if m.tracing then _ else _) _)
  split
  · exact Act.Together.bind htrace (fun _ => together_executeWord host w) _ _ rfl
  · exact together_executeWord host w _ _ rfl

/-- An instruction keeps the two fields in agreement with the one, whatever it comes to. -/
theorem together_runInstruction :
    Act.Together Agrees (runInstruction host : Act (Flagged κ τ s) Unit) (Machine.runInstruction host) := by
  have hannounce : Act.Together Agrees (onMachine (Machine.announceFrame host : Act (Machine κ τ s) Unit))
      (Machine.announceFrame host) :=
    together_onMachine fun m => congrArg Core.wait (Machine.core_announceFrame host m)
  rw [Machine.runInstruction_eq]
  refine .get_bind ?_
  rintro u m rfl
  refine Act.Together.bind (.onFault (together_onBoard _) fun f => together_haltWith f _ _) (fun w => ?_)
    _ _ rfl
  refine .bind (.onFault (together_attempt host _ w) fun f => together_haltWith f _ _) fun _ => ?_
  exact .bind (together_onMachine fun _ => rfl) fun _ => hannounce

/-- A register that waits is never missing when it is needed. -/
theorem exec_pollKeys_flagged {m : Machine κ τ s} {x : Fin 16} (hwait : m.wait = some x) :
    (pollKeys host).exec m.flagged =
      (((Machine.pollKeys host x).exec m).1.map some, ((Machine.pollKeys host x).exec m).2.flagged) := by
  have hregister : m.flagged.machine.wait = some x := hwait
  have hkeypad : m.flagged.machine.board.keypad = m.board.keypad := rfl
  rw [pollKeys, Act.exec_get_bind, hregister, Machine.exec_pollKeys]
  dsimp only
  rw [Act.exec_get_bind, hkeypad]
  cases m.board.keypad.first? with
  | none => rfl
  | some key =>
    -- the register and the state change together, before listeners are told
    have hproceed : proceed { machine := m.mapRegs (·.put x (UInt8.ofNat key.val)), awaiting := true } =
        ({ m.mapRegs (·.put x (UInt8.ofNat key.val)) with wait := none } : Machine κ τ s).flagged := rfl
    have hput : (onMachine (modify (Machine.mapRegs (·.put x (UInt8.ofNat key.val)))) :
        Act (Flagged κ τ s) PUnit).exec m.flagged =
          (.ok (), { machine := m.mapRegs (·.put x (UInt8.ofNat key.val)), awaiting := true }) := by
      rw [exec_onMachine, Machine.flagged, hwait]
      rfl
    dsimp only
    rw [Act.exec_bind_of_ok hput, Act.exec_modify_bind, hproceed, Act.exec_bind,
      exec_emit_flagged]
    generalize (Machine.emit host (.keyResume x key)).exec
      ({ m.mapRegs (·.put x (UInt8.ofNat key.val)) with wait := none } : Machine κ τ s) = out
    obtain ⟨e | a, t⟩ := out
    · rfl
    · rfl

/-- A step of the flagged machine is one of the machine. -/
theorem exec_step_flagged (m : Machine κ τ s) :
    (step host).exec m.flagged =
      (((Machine.step host).exec m).1.map some, ((Machine.step host).exec m).2.flagged) := by
  have hticked := Machine.ticked_serviceTimers host m
  cases hhalted : m.halted with
  | true =>
    have hstill : m.flagged.machine.halted = true := hhalted
    rw [step, Act.exec_get_bind, if_pos hstill, Machine.exec_step_of_halted host hhalted]
    rfl
  | false =>
    have hrunning : ¬m.flagged.machine.halted = true := by
      show ¬m.halted = true
      rw [hhalted]
      decide
    rw [step, Act.exec_get_bind, if_neg hrunning, Machine.exec_step host hhalted, Act.exec_bind,
      exec_onMachine_flagged hticked.wait_eq]
    generalize (Machine.serviceTimers host).exec m = out at hticked ⊢
    obtain ⟨e | a, t⟩ := out
    · rfl
    · dsimp only
      rw [Act.exec_get_bind]
      cases hwait : t.wait with
      | some x =>
        -- the flag is up because the register is there; this is where the agreement is used
        have hup : t.flagged.awaiting = true := congrArg Option.isSome hwait
        rw [if_pos hup]
        exact exec_pollKeys_flagged host hwait
      | none =>
        have hdown : ¬t.flagged.awaiting = true := by
          show ¬t.wait.isSome = true
          rw [hwait]
          decide
        rw [if_neg hdown]
        obtain ⟨hanswer, hleft⟩ := together_runInstruction host t.flagged t rfl
        rw [Act.exec_bind, ← hanswer, ← show _ = _ from hleft]
        generalize (runInstruction host).exec t.flagged = out
        obtain ⟨e | a, u⟩ := out
        · rfl
        · rfl

/-- A reset brings both machines to power-on, where no key is awaited. -/
theorem together_reset :
    Act.Together Agrees (reset host : Act (Flagged κ τ s) Unit) (Machine.reset host) := by
  rw [Machine.reset_eq]
  refine .get_bind ?_
  rintro u m rfl
  refine Act.Together.bind (.ofExcept _ _) (fun memory => ?_) _ _ rfl
  refine .bind (together_onMachine fun _ => rfl) fun _ => ?_
  refine .bind (together_onMachine fun m => congrArg Core.wait (Machine.core_setTone host false m)) fun _ => ?_
  rintro u m rfl
  obtain ⟨hcore, -, -⟩ := Machine.restarted_frame m
  -- the machine forgets its wait, and the flag is lowered at the same place
  have hidle : (Machine.restarted m).wait = none := congrArg Core.wait hcore
  rw [Act.exec_modify_bind, exec_onMachine, Machine.exec_restartTime, Machine.exec_restartTime]
  refine ⟨rfl, ?_⟩
  show Flagged.mk (Machine.restarted m) false = _
  rw [Machine.flagged, hidle]
  rfl

theorem together_load (program : Program) :
    Act.Together Agrees (load host program : Act (Flagged κ τ s) Unit) (Machine.load host program) := by
  refine .bind (together_onMachine fun _ => rfl) fun _ => ?_
  exact .bind (together_reset host) fun _ => together_onMachine fun _ => rfl

/-! ## Runs

A run of calls is by induction from the single calls. -/

omit [Seconds τ] [Clock κ τ] in
/-- An operation of which nothing is missing. -/
theorem exec_some_of_together {x : Act (Flagged κ τ s) Unit} {y : Act (Machine κ τ s) Unit}
    (h : Act.Together Agrees x y) (m : Machine κ τ s) :
    (some <$> x).exec m.flagged = ((y.exec m).1.map some, (y.exec m).2.flagged) := by
  obtain ⟨hanswer, hleft⟩ := h m.flagged m rfl
  rw [← hanswer, ← show _ = _ from hleft, ← bind_pure_comp, Act.exec_bind]
  generalize x.exec m.flagged = out
  obtain ⟨e | a, u⟩ := out
  · rfl
  · rfl

/-- A turn of the flagged machine is one of the machine, and nothing is missing at it. -/
theorem exec_act_flagged (x : Turn κ) (m : Machine κ τ s) :
    (act host x).exec m.flagged = (((x.act host).exec m).1.map some, (x.after host m).flagged) := by
  -- periods and turns aside leave the wait alone, so they are taken over as they are
  have htick (x : Turn κ) (hx : x.kind = .tick) : Act.Together Agrees (onMachine (x.act host)) (x.act host) :=
    together_onMachine fun m => (Turn.ticked_after host hx m).wait_eq
  have haside (x : Turn κ) (hx : x.kind = .aside) :
      Act.Together Agrees (onMachine (x.act host)) (x.act host) := by
    refine together_onMachine fun m => ?_
    obtain ⟨keypad, strict, tracing, hcore⟩ := (Turn.aside_after host hx m).core
    exact congrArg Core.wait hcore
  cases x with
  | service => exact exec_some_of_together (htick .service rfl) m
  | pollPace => exact exec_some_of_together (haside .pollPace rfl) m
  | signal change => exact exec_some_of_together (haside (.signal change) rfl) m
  | call c single =>
    cases c with
    | step => exact exec_step_flagged host m
    | load program => exact exec_some_of_together (together_load host program) m
    | reset => exact exec_some_of_together (together_reset host) m
    | tick => exact exec_some_of_together (htick (.call .tick single) rfl) m
    | run look looks => cases single
    | _ => exact exec_some_of_together (haside (.call _ single) rfl) m

/-- A flagged machine goes through every list of turns, and is left as the flagged machine of the machine
    that goes through them. -/
theorem actAll_flagged (xs : List (Turn κ)) (m : Machine κ τ s) :
    actAll host xs m.flagged = some (Turn.afterAll host xs m).flagged := by
  induction xs generalizing m with
  | nil => rfl
  | cons x xs ih =>
    rw [actAll, exec_act_flagged]
    generalize ((x.act host).exec m).1 = answer
    cases answer with
    | error e => exact ih _
    | ok a => exact ih _

omit [Seconds τ] [Clock κ τ] in
theorem status_eq_awaiting_iff (m : Machine κ τ s) : m.status = "AwaitingKey" ↔ m.wait.isSome = true := by
  unfold Machine.status
  cases m.wait with
  | none => simp
  | some x => simp

/-- A new machine, which awaits no key. -/
def create (settings : Machine.Settings τ) (clock : κ) (noise : Nat → UInt8) : Flagged κ τ s :=
  ⟨.create settings clock noise, false⟩

/-- At every time of every run the state is that a key is awaited exactly if there is a register that waits,
    and it is the state that the machine tells. -/
theorem awaiting_iff (settings : Machine.Settings τ) (clock : κ) (noise : Nat → UInt8)
    (xs : List (Turn κ)) :
    ∃ u : Flagged κ τ s, actAll host xs (create settings clock noise) = some u ∧
      u.machine = Turn.afterAll host xs (.create settings clock noise) ∧
      (u.awaiting = true ↔ ∃ x, u.machine.wait = some x) ∧
      (u.awaiting = true ↔ u.machine.status = "AwaitingKey") := by
  have hcreate : (create settings clock noise : Flagged κ τ s) =
      (Machine.create settings clock noise : Machine κ τ s).flagged := by
    have hwait := congrArg Core.wait (Machine.core_create (s := s) settings clock noise)
    show Flagged.mk _ false = Flagged.mk _ (Option.isSome _)
    rw [show (Machine.create settings clock noise : Machine κ τ s).wait = none from hwait]
    rfl
  have hrun := actAll_flagged host xs (Machine.create settings clock noise)
  rw [← hcreate] at hrun
  exact ⟨_, hrun, rfl, Option.isSome_iff_exists, (status_eq_awaiting_iff _).symm⟩

end Flagged

end Chip8
