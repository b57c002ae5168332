import Chip8.Machine.Step
import Chip8.Proofs.Dispatch
import Chip8.Proofs.Listeners
import Chip8.Proofs.Perform
/-!
One instruction of a machine, as equations.

An instruction is fetched, traced, executed, and its effect is passed on to listeners, who may fail at each
turn or change the machine by what they do. Whatever is said of steps has to go through all of that.

1. **Parts** — executing a word on the board and passing on its effect, fetching, tracing, and halting: each
   is one equation for all that it answers and leaves (`exec_executeWord`, `core_deliver`, `exec_attempt`,
   `exec_runInstruction_of_wordAt`). What listeners do to a machine is kept apart: the equations are about the
   core of the machine, which they do not touch, and about what was heard.

2. **Ways** — `Machine.Ran` puts the parts together. It lists all that an instruction can come to, the answers
   together with the machines that are left, and `ran_runInstruction` says that it comes to nothing else. Five
   ways: no word, a listener that fails over the trace, a fault, a listener that fails over the effect, and
   the end. Later proofs about steps are by cases on `Ran`, and none of them opens the instruction again.

3. **Steps** — `exec_step` is the equation of a step: the timers first, then the keys or an instruction.
-/

namespace Chip8

variable {κ τ : Type} {s : Size}

/-- The registers before a word is executed: the word is noted in them. -/
def Registers.noting (r : Registers) (w : Word) : Registers := { r with lastWord := w }

/-- Whether an instruction strikes a fault does not depend on the word that was noted last. -/
theorem Instruction.fault?_noting (strict : Bool) (r : Registers) (w : Word) (ins : Instruction) :
    ins.fault? strict (r.noting w) = ins.fault? strict r := by
  cases ins <;> rfl

/-- The board that executing a word leaves, also if the word strikes a fault. -/
def Board.executed (strict : Bool) (noise : Nat → UInt8) (w : Word) (b : Board s) : Board s :=
  ((Board.execute strict noise w).exec b).2

/-- Executing a word leaves the board that performing its instruction leaves, with the word noted first. -/
theorem Board.executed_eq (strict : Bool) (noise : Nat → UInt8) (w : Word) (b : Board s) :
    b.executed strict noise w =
      ((perform strict noise (Instruction.ofWord w)).exec (b.mapRegs (·.noting w))).2 := by
  rw [executed, exec_execute]
  rfl

/-- Only the word that sets the sound timer tells of the tone. -/
theorem Board.effect_ne_tone {w : Word} (h : ¬w.Misc 0x18) (b : Board s) (on : Bool) :
    b.effect (Instruction.ofWord w) ≠ .tone on := by
  have hw := Instruction.ofWord_encodes w
  generalize Instruction.ofWord w = ins at hw
  cases ins with
  | setSound x => exact absurd hw.1 h
  | _ => simp [effect]

/-- Only the word that waits for a key asks for one. -/
theorem Board.effect_ne_awaitKey {w : Word} (h : ¬w.Misc 0x0A) (b : Board s) (x : Fin 16) :
    b.effect (Instruction.ofWord w) ≠ .awaitKey x := by
  have hw := Instruction.ofWord_encodes w
  generalize Instruction.ofWord w = ins at hw
  cases ins with
  | awaitKey y => exact absurd hw.1 h
  | setSound y =>
    -- it tells of the tone or of nothing
    simp only [effect]
    split
    · simp
    · simp
  | _ => simp [effect]

namespace Machine

/-- An operation on the board changes nothing else of a machine. -/
theorem exec_onBoard {α : Type} (act : Act (Board s) α) (m : Machine κ τ s) :
    (onBoard act).exec m = ((act.exec m.board).1, { m with board := (act.exec m.board).2 }) := by
  rw [onBoard, Act.exec_get_bind, Act.exec_modify_bind, Act.exec_ofExcept]
  cases (act.exec m.board).1 <;> rfl

/-- The board that executing a word leaves in the machine. -/
def executed (w : Word) (m : Machine κ τ s) : Machine κ τ s :=
  { m with board := m.board.executed m.strict m.noise w }

variable [Seconds τ] [Clock κ τ]

/-- Executing a word fails with the fault of its instruction, or else passes on its effect. -/
theorem exec_executeWord (host : Host s) {m : Machine κ τ s} (hm : m.board.regs.Sound) (w : Word) :
    (executeWord host w).exec m =
      match (Instruction.ofWord w).fault? m.strict m.board.regs with
      | some f => (.error (.fault f), m.executed w)
      | none =>
        (deliver host ((m.board.mapRegs (·.noting w)).effect (Instruction.ofWord w))).exec
          (m.executed w) := by
  have hanswer := Board.answer_perform m.strict m.noise (b := m.board.mapRegs (·.noting w))
    (hm.withLastWord w) (Instruction.ofWord w)
  -- on the board there is an answer, a fault or an effect, and what is left depends on which
  have hboard : (onBoard (Board.execute m.strict m.noise w)).exec m =
      (Board.answerOf ((Instruction.ofWord w).fault? m.strict m.board.regs)
        ((m.board.mapRegs (·.noting w)).effect (Instruction.ofWord w)), m.executed w) := by
    rw [exec_onBoard, ← Instruction.fault?_noting]
    refine Prod.ext ?_ rfl
    rw [Board.exec_execute]
    exact hanswer
  rw [executeWord, Act.exec_get_bind]
  cases hf : (Instruction.ofWord w).fault? m.strict m.board.regs with
  | some f =>
    rw [hf] at hboard
    rw [Act.exec_bind_of_error hboard]
  | none =>
    rw [hf] at hboard
    rw [Act.exec_bind_of_ok hboard]

/-! ## Effects

What follows from an instruction outside of the board: nothing, a switch of the tone, a wait for a key, or a
note in the log. An effect changes the core of a machine only by beginning a wait. -/

/-- The register that waits for a key after an effect. -/
def waitAfter (e : Effect) (wait : Option (Fin 16)) : Option (Fin 16) :=
  match e with
  | .awaitKey x => some x
  | _ => wait

theorem waitAfter_of_ne {e : Effect} (h : ∀ x, e ≠ .awaitKey x) (wait : Option (Fin 16)) :
    waitAfter e wait = wait := by
  cases e with
  | awaitKey x => exact absurd rfl (h x)
  | _ => rfl

/-- Passing on an effect changes no more of the core than the wait for a key. -/
theorem core_deliver (host : Host s) (e : Effect) (m : Machine κ τ s) :
    ((deliver host e).exec m).2.core = { m.core with wait := waitAfter e m.wait } := by
  cases e with
  | quiet => rfl
  | tone on => exact core_emit host _ m
  | awaitKey x => exact core_emit host _ { m with wait := some x }
  | ignored w => rfl

/-- Only the tone and a wish for a key are told to listeners; else at most the log grows. -/
theorem deliver_untold (host : Host s) {e : Effect} (m : Machine κ τ s) (htone : ∀ on, e ≠ .tone on)
    (hkey : ∀ x, e ≠ .awaitKey x) :
    ∃ log, (deliver host e).exec m = (.ok (), { m with log }) := by
  cases e with
  | quiet => exact ⟨m.log, rfl⟩
  | tone on => exact absurd rfl (htone on)
  | awaitKey x => exact absurd rfl (hkey x)
  | ignored w => exact ⟨_, rfl⟩

/-- What listeners are told of an effect: at most one event. -/
def told : Effect → List (Event s)
  | .tone on => [.tone on]
  | .awaitKey x => [.keyWait x]
  | _ => []

theorem heard_deliver (host : Host s) (e : Effect) (m : Machine κ τ s) :
    ((deliver host e).exec m).2.heard = told e ++ m.heard := by
  cases e with
  | quiet => rfl
  | tone on => exact heard_emit host _ m
  | awaitKey x => exact heard_emit host _ { m with wait := some x }
  | ignored w => rfl

/-- Passing on an effect fails only with the failure of a listener. -/
theorem deliver_fails (host : Host s) (e : Effect) :
    Act.FailsWith host.MayFail (deliver host e : Act (Machine κ τ s) Unit) := by
  cases e with
  | quiet => exact .pure ()
  | tone on => exact emit_fails host _
  | awaitKey x => exact .bind (.modify _) fun _ => emit_fails host _
  | ignored w => exact .modify _

/-- Setting the tone tells listeners if that changes it. -/
theorem exec_setTone (host : Host s) (on : Bool) (m : Machine κ τ s) :
    (setTone host on).exec m =
      (deliver host (if on = m.board.tone then .quiet else .tone on)).exec
        { m with board := { m.board with tone := on } } := by
  rw [setTone, Act.exec_bind, exec_onBoard, Board.exec_setTone]

/-- Setting the tone changes nothing of the core but the tone. -/
theorem core_setTone (host : Host s) (on : Bool) (m : Machine κ τ s) :
    ((setTone host on).exec m).2.core =
      { m.core with board := { m.board with tone := on } } := by
  rw [exec_setTone, core_deliver, waitAfter_of_ne]
  · rfl
  · intro x
    split <;> simp

/-- The core that executing a word leaves: the board on which it was executed, and maybe a wait for a key. -/
theorem core_executeWord (host : Host s) {m : Machine κ τ s} (hm : m.board.regs.Sound) (w : Word) :
    ∃ wait, (wait ≠ m.wait → w.Misc 0x0A) ∧
      ((executeWord host w).exec m).2.core = { (m.executed w).core with wait } := by
  rw [exec_executeWord host hm]
  split
  · exact ⟨m.wait, fun h => absurd rfl h, rfl⟩
  · rw [core_deliver]
    refine ⟨_, fun hne => ?_, rfl⟩
    by_cases hkey : w.Misc 0x0A
    · exact hkey
    · exact absurd (waitAfter_of_ne (fun x => Board.effect_ne_awaitKey hkey _ x) m.wait) hne

/-! ## Tracing and halting

What stands around the execution of a word: a line of the trace before it, and a halt where the word strikes
a fault. -/

/-- The machine after the place and the word of an instruction were traced, if they are. -/
def traced (host : Host s) (pc : Int) (w : Word) (m : Machine κ τ s) : Machine κ τ s :=
  if m.tracing then ((traceWord host pc w).exec m).2 else m

/-- A trace changes the entries that are kept, and nothing else of the core. -/
theorem core_traced (host : Host s) (pc : Int) (w : Word) (m : Machine κ τ s) :
    ∃ traces, (m.traced host pc w).core = { m.core with traces } := by
  unfold traced
  split
  · rw [traceWord, Act.exec_get_bind, Act.exec_modify_bind, core_emit]
    exact ⟨_, rfl⟩
  · exact ⟨m.traces, rfl⟩

/-- Listeners hear of the instruction if it is traced. -/
theorem heard_traced (host : Host s) (pc : Int) (w : Word) (m : Machine κ τ s) :
    (m.traced host pc w).heard =
      if m.tracing then .traced (TraceEntry.of pc w m.board.regs) :: m.heard else m.heard := by
  unfold traced
  split
  · rw [traceWord, Act.exec_get_bind, Act.exec_modify_bind, heard_emit]
  · rfl

/-- Trace an instruction, if instructions are traced, and execute it. -/
def attempt (host : Host s) (pc : Int) (w : Word) : Act (Machine κ τ s) Unit := do
  if (← get).tracing then traceWord host pc w
  executeWord host w

/-- An instruction is executed after it was traced, unless a listener failed over the trace. -/
theorem exec_attempt (host : Host s) (pc : Int) (w : Word) (m : Machine κ τ s) :
    (attempt host pc w).exec m = (executeWord host w).exec (m.traced host pc w) ∨
      ∃ e, host.MayFail e ∧ (attempt host pc w).exec m = (.error e, m.traced host pc w) := by
  rw [attempt, Act.exec_get_bind, traced]
  -- only a traced machine tells of the word first, and only then can a listener fail
  split
  · cases h : (traceWord host pc w).exec m with
    | mk answer t =>
      cases answer with
      | ok a =>
        left
        rw [Act.exec_bind_of_ok h]
      | error e =>
        right
        rw [traceWord, Act.exec_get_bind, Act.exec_modify_bind] at h
        refine ⟨e, emit_fails host _ _ _ (congrArg Prod.fst h), ?_⟩
        rw [Act.exec_bind_of_error]
        exact h
  · left
    rfl

/-- The machine halted by a fault, which is logged. -/
def haltedBy (h : Halt) (m : Machine κ τ s) : Machine κ τ s :=
  { m with halted := true }.note .error s!"Machine halted: {h.message}"

/-! ## One instruction

The analysis of an instruction. `Ran` lists all it can come to, with the machine that is left in each case
given in terms of the machine before, so that later proofs are by cases on it. -/

/-- The machine behind the instruction that it fetched. -/
def fetched (m : Machine κ τ s) : Machine κ τ s := m.mapRegs fun r => { r with pc := r.pc + 2 }

/-- Below `0xFFF` there is a word to fetch. -/
theorem exists_wordAt (m : Memory) {pc : Int} (h0 : 0 ≤ pc) (h : pc < 0xFFF) :
    ∃ w, m.WordAt pc w := by
  obtain ⟨k, rfl⟩ := Int.eq_ofNat_of_zero_le h0
  exact ⟨_, k, by omega, rfl, rfl⟩

theorem runInstruction_eq (host : Host s) :
    runInstruction host = (do
      let pc := (← get).board.regs.pc
      let word ← Act.onFault (onBoard Board.fetch) fun f => haltWith f pc none
      Act.onFault (attempt host pc word) fun f => haltWith f pc (some word)
      modify fun m => { m with instructions := m.instructions + 1 }
      announceFrame host : Act (Machine κ τ s) Unit) := rfl

/-- Where no word can be fetched the machine halts without one. -/
theorem exec_runInstruction_of_ge (host : Host s) {m : Machine κ τ s} (h : 0xFFF ≤ m.board.regs.pc) :
    (runInstruction host).exec m =
      (.error (.halt ⟨.addressOutOfRange (max m.board.regs.pc 4096), m.board.regs.pc, none⟩),
        m.haltedBy ⟨.addressOutOfRange (max m.board.regs.pc 4096), m.board.regs.pc, none⟩) := by
  have hfetch := Board.exec_fetch_of_ge h
  have hrun : (Act.onFault (onBoard Board.fetch) fun f => haltWith f m.board.regs.pc none).exec m =
      (.error (.halt ⟨.addressOutOfRange (max m.board.regs.pc 4096), m.board.regs.pc, none⟩),
        m.haltedBy ⟨.addressOutOfRange (max m.board.regs.pc 4096), m.board.regs.pc, none⟩) := by
    rw [Act.exec_onFault, exec_onBoard, hfetch]
    rfl
  rw [runInstruction, Act.exec_get_bind, Act.exec_bind_of_error hrun]

/-- A word that is fetched is attempted. A fault halts the machine with the place of the word; after
    anything else the instruction counts and a finished picture is told of. -/
theorem exec_runInstruction_of_wordAt (host : Host s) {m : Machine κ τ s} {w : Word}
    (h : m.board.memory.WordAt m.board.regs.pc w) :
    (runInstruction host).exec m =
      match (attempt host m.board.regs.pc w).exec m.fetched with
      | (.error (.fault f), t) =>
        (.error (.halt ⟨f, m.board.regs.pc, some w⟩), t.haltedBy ⟨f, m.board.regs.pc, some w⟩)
      | (.error e, t) => (.error e, t)
      | (.ok _, t) => (announceFrame host).exec { t with instructions := t.instructions + 1 } := by
  have hfetch : (Act.onFault (onBoard Board.fetch) fun f =>
      haltWith f m.board.regs.pc none).exec m = (.ok w, m.fetched) := by
    rw [Act.exec_onFault, exec_onBoard, Board.exec_fetch_of_wordAt h]
    rfl
  rw [runInstruction_eq, Act.exec_get_bind, Act.exec_bind_of_ok hfetch, Act.exec_onFault_bind]
  -- only faults are turned into halts; a failure of a listener is passed on as it is
  generalize (attempt host m.board.regs.pc w).exec m.fetched = out
  obtain ⟨answer, t⟩ := out
  cases answer with
  | ok a => rfl
  | error e => cases e <;> rfl

/-- A listener is told of a finished picture; the flag that asked for it goes out. -/
theorem exec_announceFrame (host : Host s) (m : Machine κ τ s) :
    (announceFrame host).exec m =
      if m.board.display.frameReady then
        (emit host (.frameComplete m.board.display.grid)).exec
          { m with board := { m.board with display := m.board.display.takeFrameReady.2 } }
      else (.ok (), { m with board := { m.board with display := m.board.display.takeFrameReady.2 } }) := by
  rw [announceFrame, Act.exec_get_bind]
  dsimp only
  rw [Act.exec_modify_bind]
  by_cases h : m.board.display.frameReady
  · simp only [Display.takeFrameReady, h, if_true]
  · simp only [Display.takeFrameReady, h]
    rfl

/-- Telling of a finished picture changes no more of the core than the flag that asked for it. -/
theorem core_announceFrame (host : Host s) (m : Machine κ τ s) :
    ((announceFrame host).exec m).2.core =
      { m.core with board := { m.board with display := m.board.display.takeFrameReady.2 } } := by
  rw [exec_announceFrame]
  split
  · exact core_emit host _ _
  · rfl

theorem heard_announceFrame (host : Host s) (m : Machine κ τ s) :
    ((announceFrame host).exec m).2.heard =
      if m.board.display.frameReady then .frameComplete m.board.display.grid :: m.heard
      else m.heard := by
  rw [exec_announceFrame]
  split
  · exact heard_emit host _ _
  · rfl

/-- Telling of a finished picture fails only with the failure of a listener. -/
theorem announceFrame_fails (host : Host s) :
    Act.FailsWith host.MayFail (announceFrame host : Act (Machine κ τ s) Unit) := by
  intro m e he
  rw [exec_announceFrame] at he
  split at he
  · exact emit_fails host _ _ _ he
  · cases he

theorem board_traced (host : Host s) (pc : Int) (w : Word) (m : Machine κ τ s) :
    (m.traced host pc w).board = m.board := by
  obtain ⟨traces, h⟩ := m.core_traced host pc w
  exact congrArg Core.board h

theorem strict_traced (host : Host s) (pc : Int) (w : Word) (m : Machine κ τ s) :
    (m.traced host pc w).strict = m.strict := by
  obtain ⟨traces, h⟩ := m.core_traced host pc w
  exact congrArg Core.strict h

omit [Seconds τ] [Clock κ τ] in
theorem sound_fetched {m : Machine κ τ s} (hm : m.board.regs.Sound) (h : m.board.regs.pc < 0xFFF) :
    m.fetched.board.regs.Sound :=
  hm.jump (by have := hm.counter.1; omega)

/-- The machine in which a fetched word is executed: behind the word, and with the word traced if words are. -/
def ready (host : Host s) (w : Word) (m : Machine κ τ s) : Machine κ τ s :=
  m.fetched.traced host m.board.regs.pc w

/-- The machine after a word without a fault was executed and its effect passed on. -/
def effected (host : Host s) (w : Word) (m : Machine κ τ s) : Machine κ τ s :=
  ((deliver host ((m.board.mapRegs (·.noting w)).effect (Instruction.ofWord w))).exec (m.executed w)).2

/-- The board on which a word was executed and its effect passed on. -/
theorem board_effected (host : Host s) (w : Word) (m : Machine κ τ s) :
    (m.effected host w).board = (m.executed w).board :=
  congrArg Core.board (core_deliver host _ _)

/-- A fetched word is executed on the board behind it, traced or not. -/
theorem board_executed_ready (host : Host s) (w : Word) (m : Machine κ τ s) :
    ((m.ready host w).executed w).board = m.fetched.board.executed m.strict m.noise w := by
  obtain ⟨traces, h⟩ := m.fetched.core_traced host m.board.regs.pc w
  show (m.ready host w).board.executed (m.ready host w).strict (m.ready host w).noise w = _
  rw [show (m.ready host w).board = m.fetched.board from congrArg Core.board h,
    show (m.ready host w).strict = m.strict from congrArg Core.strict h,
    show (m.ready host w).noise = m.noise from congrArg Core.noise h]

/-- All that an instruction can come to: its answer and the machine that it leaves. -/
inductive Ran (host : Host s) (m : Machine κ τ s) : Except Failure Unit × Machine κ τ s → Prop
  /-- There is no word to fetch. -/
  | noWord (past : 0xFFF ≤ m.board.regs.pc) :
    Ran host m (.error (.halt ⟨.addressOutOfRange (max m.board.regs.pc 4096), m.board.regs.pc, none⟩),
      m.haltedBy ⟨.addressOutOfRange (max m.board.regs.pc 4096), m.board.regs.pc, none⟩)
  /-- A listener fails over the trace of the word. -/
  | untraced {w : Word} (fetched : m.board.memory.WordAt m.board.regs.pc w) {e : Failure}
    (fails : host.MayFail e) : Ran host m (.error e, m.ready host w)
  /-- The word strikes its fault. -/
  | fault {w : Word} (fetched : m.board.memory.WordAt m.board.regs.pc w) {f : Fault}
    (fault : (Instruction.ofWord w).fault? m.strict m.fetched.board.regs = some f) :
    Ran host m (.error (.halt ⟨f, m.board.regs.pc, some w⟩),
      ((m.ready host w).executed w).haltedBy ⟨f, m.board.regs.pc, some w⟩)
  /-- A listener fails over the effect of the word. -/
  | untold {w : Word} (fetched : m.board.memory.WordAt m.board.regs.pc w)
    (fault : (Instruction.ofWord w).fault? m.strict m.fetched.board.regs = none) {e : Failure}
    (fails : host.MayFail e)
    (told : ((m.ready host w).board.mapRegs (·.noting w)).effect (Instruction.ofWord w) ≠ .quiet) :
    Ran host m (.error e, (m.ready host w).effected host w)
  /-- The instruction counts, and a finished picture is told of. -/
  | done {w : Word} (fetched : m.board.memory.WordAt m.board.regs.pc w)
    (fault : (Instruction.ofWord w).fault? m.strict m.fetched.board.regs = none) :
    Ran host m ((announceFrame host).exec { (m.ready host w).effected host w with
      instructions := ((m.ready host w).effected host w).instructions + 1 })

/-- An instruction comes to nothing else. The cases are those of the fetch, of the attempt, and of the fault
    of the word; where an effect could not be passed on, there was one. -/
theorem ran_runInstruction (host : Host s) {m : Machine κ τ s} (hm : m.board.regs.Sound) :
    Ran host m ((runInstruction host).exec m) := by
  rcases Int.lt_or_le m.board.regs.pc 0xFFF with hlt | hge
  · obtain ⟨w, hw⟩ := exists_wordAt m.board.memory hm.counter.1 hlt
    have hsound : (m.ready host w).board.regs.Sound := by
      rw [ready, board_traced]
      exact sound_fetched hm hlt
    -- a trace changes nothing that a fault depends on
    have hfault : (Instruction.ofWord w).fault? (m.ready host w).strict (m.ready host w).board.regs =
        (Instruction.ofWord w).fault? m.strict m.fetched.board.regs := by
      rw [ready, strict_traced, board_traced]
      rfl
    rw [exec_runInstruction_of_wordAt host hw]
    rcases exec_attempt host m.board.regs.pc w m.fetched with heq | ⟨e, he, heq⟩
    · rw [heq, ← ready, exec_executeWord host hsound, hfault]
      cases hf : (Instruction.ofWord w).fault? m.strict m.fetched.board.regs with
      | some f => exact .fault hw hf
      | none =>
        have hdone : Ran host m _ := .done hw hf
        have huntold {e : Failure} (he : host.MayFail e)
            (told : ((m.ready host w).board.mapRegs (·.noting w)).effect (Instruction.ofWord w) ≠ .quiet) :
            Ran host m _ := .untold hw hf he told
        unfold effected at hdone huntold
        dsimp only
        cases hout : (deliver host (((m.ready host w).board.mapRegs (·.noting w)).effect
            (Instruction.ofWord w))).exec ((m.ready host w).executed w) with
        | mk answer t =>
          rw [hout] at hdone huntold
          cases answer with
          | ok a => exact hdone
          | error e =>
            obtain ⟨⟨name, rfl⟩, hnever⟩ := deliver_fails host _ _ _ (congrArg Prod.fst hout)
            refine huntold ⟨⟨name, rfl⟩, hnever⟩ fun hquiet => ?_
            -- listeners cannot fail over what they are not told
            rw [hquiet] at hout
            cases hout
    · obtain ⟨⟨name, rfl⟩, hnever⟩ := he
      rw [heq]
      exact .untraced hw ⟨⟨name, rfl⟩, hnever⟩
  · rw [exec_runInstruction_of_ge host hge]
    exact .noWord hge

/-- An instruction has no failure but a halt and those of listeners. -/
theorem Ran.fails {host : Host s} {m : Machine κ τ s} {out : Except Failure Unit × Machine κ τ s}
    (h : Ran host m out) {e : Failure} (he : out.1 = .error e) :
    (∃ halt, e = .halt halt) ∨ host.MayFail e := by
  cases h with
  | noWord past => exact Or.inl ⟨_, (Except.error.inj he).symm⟩
  | fault fetched fault => exact Or.inl ⟨_, (Except.error.inj he).symm⟩
  | untraced fetched fails | untold fetched fault fails =>
    cases he
    exact Or.inr fails
  | done fetched fault => exact Or.inr (announceFrame_fails host _ _ he)

/-! ## One step

A step of a machine that runs is a service of the timers, and then a look at the keys or an instruction. -/

/-- A step of a machine that is halted does nothing. -/
theorem exec_step_of_halted (host : Host s) {m : Machine κ τ s} (h : m.halted = true) :
    (step host).exec m = (.ok (), m) := by
  rw [step, Act.exec_get_bind, if_pos h]
  rfl

/-- A key that is down ends the wait for one. -/
theorem exec_pollKeys (host : Host s) (x : Fin 16) (m : Machine κ τ s) :
    (pollKeys host x).exec m =
      match m.board.keypad.first? with
      | none => (.ok (), m)
      | some key =>
        (emit host (.keyResume x key)).exec
          { m.mapRegs (·.put x (UInt8.ofNat key.val)) with wait := none } := by
  rw [pollKeys, Act.exec_get_bind]
  cases m.board.keypad.first? with
  | none => rfl
  | some key => rfl

theorem heard_pollKeys (host : Host s) (x : Fin 16) (m : Machine κ τ s) :
    ((pollKeys host x).exec m).2.heard =
      match m.board.keypad.first? with
      | none => m.heard
      | some key => .keyResume x key :: m.heard := by
  rw [exec_pollKeys]
  split
  · rfl
  · exact heard_emit host _ _

/-- A step services the timers first. What it finds then decides how it goes on. -/
theorem exec_step (host : Host s) {m : Machine κ τ s} (h : m.halted = false) :
    (step host).exec m =
      match (serviceTimers host).exec m with
      | (.error e, t) => (.error e, t)
      | (.ok _, t) =>
        match t.wait with
        | some x => (pollKeys host x).exec t
        | none => (runInstruction host).exec t := by
  rw [step, Act.exec_get_bind, if_neg (by rw [h]; decide)]
  -- the wait is looked at in the machine after the service
  cases hticks : (serviceTimers host).exec m with
  | mk answer t =>
    cases answer with
    | error e => rw [Act.exec_bind_of_error hticks]
    | ok a =>
      rw [Act.exec_bind_of_ok hticks, Act.exec_get_bind]
      dsimp only
      cases t.wait <;> rfl

end Machine

end Chip8
