import Chip8.Proofs.Lockstep
import Chip8.Proofs.Past
import Chip8.Proofs.Uptime
/-!
Machines that go the same way.

A machine cannot be told from another one by what it will do, though they differ in much: in the kind of their
clocks and what these showed before, in how many random bytes were taken, in what was heard and logged long
ago. `Machine.Alike` is the relation that is left when all of this is taken away.

1. **What is compared** — of the clocks, the readings that are still to come (`Clock.Alike`); of the random
   bytes, those that are still to come (`Board.Alike`); of what was heard and logged, that which was added
   since a certain time; of everything else, its value. The stop signal is compared inside of a run only,
   since each run brings its own.

2. **Lockstep** — the relation has what `Machine.Lockstep` asks for (`Alike.lockstep`). Clocks are only read
   through the watches of the two cadences, which are equal, so both clocks are read equally often. Boards are
   only changed by operations that do not look at their past (`Chip8.Proofs.Past`). Listeners may react to the
   news in any way, if the two hosts react the same to what was added (`HostsAlike`).

3. **Calls** — whatever is done to both, they answer the same and stay alike (`Call.together_act`, and
   `Call.together_acts` by induction on the calls).
-/

namespace Chip8

variable {κ κ' τ : Type} {s : Size}

/-! ## Clocks

Clocks are alike if they show the same from now on. They may be of different kinds, and what they showed
before does not matter, so a machine with a past can be compared with a new one. -/

namespace Clock

/-- Two clocks show the same from now on. They may be of different kinds, and may have shown anything before. -/
def Alike [Clock κ τ] [Clock κ' τ] (c : κ) (c' : κ') : Prop :=
  ∀ n, (now (next^[n] c) : τ) = now (next^[n] c')

variable [Clock κ τ] [Clock κ' τ] {c : κ} {c' : κ'}

/-- After a reading each clock has the rest of its readings left, which are the same. -/
theorem Alike.next (h : Alike c c') : Alike (Clock.next c) (Clock.next c') := fun n => h (n + 1)

/-- The same comes of two clocks, and they show the same from then on. -/
def Agree {α : Type} (out : α × κ) (out' : α × κ') : Prop := out.1 = out'.1 ∧ Alike out.2 out'.2

/-- A reading is used the same way. -/
theorem Alike.agree_read {α : Type} (f : τ → α) (h : Alike c c') :
    Agree (f (now c), Clock.next c) (f (now c'), Clock.next c') :=
  ⟨congrArg f (h 0), h.next⟩

/-- Where no reading is taken the clocks stay as they are. -/
theorem Alike.agree_pure {α : Type} (a : α) (h : Alike c c') : Agree (a, c) (a, c') := ⟨rfl, h⟩

end Clock

/-- Clocks set by hand that show the same and go the same are alike. -/
theorem ManualClock.alike_of_eq [Seconds τ] {c c' : ManualClock τ} (hnow : c.now = c'.now)
    (hstep : c.step = c'.step) : Clock.Alike (τ := τ) c c' := by
  intro n
  induction n generalizing c c' with
  | zero => exact hnow
  | succ n ih =>
    refine @ih (Clock.next c) (Clock.next c') ?_ hstep
    show Seconds.add c.now c.step = Seconds.add c'.now c'.step
    rw [hnow, hstep]

section Time

/-! ### Watches and cadences

Each operation takes a reading of the clock or none, as the watch says, and the watch is the same on both
sides. So the clocks are read equally often and stay alike. -/

variable [Seconds τ] [Clock κ τ] [Clock κ' τ] {k : κ} {k' : κ'} (h : Clock.Alike k k')

include h

namespace Stopwatch

variable (w : Stopwatch τ)

omit [Seconds τ] in
theorem agree_start : Clock.Agree (w.start k) (w.start k') := by
  unfold start
  cases w.startedAt with
  | none => exact h.agree_read fun now => { w with startedAt := some now }
  | some began => exact h.agree_pure w

theorem agree_stop : Clock.Agree (w.stop k) (w.stop k') := by
  unfold stop
  cases w.startedAt with
  | none => exact h.agree_pure w
  | some began =>
    exact h.agree_read fun now =>
      (⟨none, Seconds.add w.accumulated (Seconds.sub now began)⟩ : Stopwatch τ)

theorem agree_elapsed : Clock.Agree (w.elapsed k) (w.elapsed k') := by
  unfold elapsed
  cases w.startedAt with
  | none => exact h.agree_pure w.accumulated
  | some began => exact h.agree_read fun now => Seconds.add w.accumulated (Seconds.sub now began)

end Stopwatch

namespace Cadence

variable (c : Cadence τ)

theorem agree_start : Clock.Agree (c.start k) (c.start k') := by
  obtain ⟨hwatch, hclock⟩ := Stopwatch.agree_start h Stopwatch.fresh
  exact ⟨congrArg (fun watch => { c with watch, consumed := 0 }) hwatch, hclock⟩

theorem agree_pause : Clock.Agree (c.pause k) (c.pause k') := by
  obtain ⟨hwatch, hclock⟩ := c.watch.agree_stop h
  exact ⟨congrArg (fun watch => { c with watch }) hwatch, hclock⟩

omit [Seconds τ] in
theorem agree_resume : Clock.Agree (c.resume k) (c.resume k') := by
  obtain ⟨hwatch, hclock⟩ := c.watch.agree_start h
  exact ⟨congrArg (fun watch => { c with watch }) hwatch, hclock⟩

/-- The periods that are due are counted from one reading, or there are too many of them on both sides. -/
theorem agree_due : Clock.Agree (c.due k) (c.due k') := by
  obtain ⟨helapsed, hclock⟩ := c.watch.agree_elapsed h
  unfold due
  dsimp only
  rw [helapsed]
  cases Seconds.periods (c.watch.elapsed k').1 c.rate with
  | error e => exact hclock.agree_pure _
  | ok total => exact hclock.agree_pure _

end Cadence

omit h [Seconds τ]

/-- Two tempos are the same but for their clocks, which show the same from now on. -/
structure Tempo.Alike (T : Tempo κ τ) (T' : Tempo κ' τ) : Prop where
  timerCadence : T.timerCadence = T'.timerCadence
  pace : T.pace = T'.pace
  paused : T.paused = T'.paused
  clock : Clock.Alike T.clock T'.clock
  ticks : T.ticks = T'.ticks

/-- What is done with one cadence after the other is done alike, if it is with each of them. The timer cadence
    comes first, and the other one goes on with the clocks that it leaves. -/
theorem Tempo.Alike.both {T : Tempo κ τ} {T' : Tempo κ' τ} (h : T.Alike T')
    {f : Cadence τ → κ → Cadence τ × κ} {f' : Cadence τ → κ' → Cadence τ × κ'}
    (hf : ∀ (c : Cadence τ) {k : κ} {k' : κ'}, Clock.Alike k k' → Clock.Agree (f c k) (f' c k')) :
    (T.both f).Alike (T'.both f') := by
  obtain ⟨timerCadence, pace, paused, clock, ticks⟩ := T
  obtain ⟨timerCadence', pace', paused', clock', ticks'⟩ := T'
  obtain ⟨rfl, rfl, rfl, hclock, rfl⟩ := h
  obtain ⟨htimer, hclock⟩ := hf timerCadence hclock
  unfold Tempo.both
  cases pace with
  | none => exact ⟨htimer, rfl, rfl, hclock, rfl⟩
  | some c =>
    obtain ⟨hpace, hclock⟩ := hf c hclock
    exact ⟨htimer, congrArg some hpace, rfl, hclock, rfl⟩

end Time

/-! ## Boards

Boards are alike if they differ only in how many random bytes were taken, and the same bytes are still to
come. A word then does the same to both, since no instruction looks at what was taken before
(`Chip8.Proofs.Past`). -/

namespace Board

/-- A board as if no random byte had been taken from it. -/
def fresh (b : Board s) : Board s := { b with draws := 0 }

/-- Two boards are the same but for the number of random bytes taken, and the same bytes are still to
    come. -/
structure Alike (noise noise' : Nat → UInt8) (b b' : Board s) : Prop where
  fresh : b.fresh = b'.fresh
  ahead : ∀ k, noise (b.draws + k) = noise' (b'.draws + k)

namespace Alike

variable {noise noise' : Nat → UInt8} {b b' : Board s} (h : Alike noise noise' b b')

include h

theorem regs : b.regs = b'.regs := congrArg (·.regs) h.fresh

theorem display : b.display = b'.display := congrArg (·.display) h.fresh

theorem keypad : b.keypad = b'.keypad := congrArg (·.keypad) h.fresh

/-- A change that does not touch the number of random bytes, nor looks at it, may be made of both boards. -/
theorem map {f : Board s → Board s} (hf : ∀ b draws, f { b with draws } = { f b with draws }) :
    Alike noise noise' (f b) (f b') := by
  have hfresh (b : Board s) : (f b).fresh = f b.fresh := (hf b 0).symm
  have hdraws (b : Board s) : (f b).draws = b.draws := by
    have hsame := congrArg Board.draws (hf b b.draws)
    exact hsame
  refine ⟨?_, ?_⟩
  · rw [hfresh, h.fresh, ← hfresh]
  · intro k
    rw [hdraws, hdraws]
    exact h.ahead k

end Alike

/-- What does not look at the past of a board is done alike on boards that are alike. -/
theorem together_of_unmindful {α : Type} {x : (Nat → UInt8) → Act (Board s) α}
    (hx : ∀ noise taken, Unmindful id taken (x fun k => noise (taken + k)) (x noise))
    (noise noise' : Nat → UInt8) : Act.Together (Alike noise noise') (x noise) (x noise') := by
  intro b b' h
  -- both boards are the same one, on which nothing was taken, with some bytes taken before
  have hnoise : (fun k => noise (b.draws + k)) = fun k => noise' (b'.draws + k) := funext h.ahead
  obtain ⟨hanswer, hleft⟩ := hx noise b.draws b.fresh b rfl
  obtain ⟨hanswer', hleft'⟩ := hx noise' b'.draws b'.fresh b' rfl
  rw [← hnoise, ← h.fresh] at hanswer' hleft'
  refine ⟨hanswer.symm.trans hanswer', ?_⟩
  rw [hleft, hleft']
  refine ⟨rfl, fun k => ?_⟩
  show noise (b.draws + _ + k) = noise' (b'.draws + _ + k)
  rw [Nat.add_assoc, Nat.add_assoc]
  exact h.ahead _

/-- The execution of a word notes it as the last one and is otherwise that of an instruction, which does not
    look at the past. -/
theorem unmindful_execute (strict : Bool) (noise : Nat → UInt8) (taken : Nat) (w : Word) :
    Unmindful id taken (execute strict (fun k => noise (taken + k)) w : Act (Board s) Effect)
      (execute strict noise w) := by
  refine .bind (unmindful_modify fun _ => rfl) fun _ => ?_
  rw [dispatch_eq_perform, dispatch_eq_perform]
  exact unmindful_perform id taken strict noise _

end Board

/-! ## Machines

What two machines have to share for nothing to tell them apart: all but what was heard and logged before,
the random bytes that are spent, and the past of their clocks. -/

namespace Machine

variable [Clock κ τ] [Clock κ' τ]

/-- Two machines are alike since they were `m₀` and `t₀`: they agree in all that a later step looks at, and
    what was heard and logged since then is the same. Of their stop signals that is said only if it
    matters (`watched`), because each run of the loop brings its own. -/
structure Alike (m₀ : Machine κ τ s) (t₀ : Machine κ' τ s) (watched : Prop) (m : Machine κ τ s)
    (t : Machine κ' τ s) : Prop where
  board : Board.Alike m.noise t.noise m.board t.board
  program : m.program = t.program
  strict : m.strict = t.strict
  tracing : m.tracing = t.tracing
  wait : m.wait = t.wait
  halted : m.halted = t.halted
  instructions : m.instructions = t.instructions
  traces : m.traces = t.traces
  tempo : m.tempo.Alike t.tempo
  heard : ∃ news, m.heard = news ++ m₀.heard ∧ t.heard = news ++ t₀.heard
  log : ∃ records, m.log = records ++ m₀.log ∧ t.log = records ++ t₀.log
  signal : watched → m.signal = t.signal

/-- What the hosts of two machines do about an event depends on no more than what was heard since. -/
def HostsAlike (host host' : Host s) (m₀ : Machine κ τ s) (t₀ : Machine κ' τ s) : Prop :=
  ∀ news event, host (news ++ m₀.heard) event = host' (news ++ t₀.heard) event

variable {m₀ m u : Machine κ τ s} {t₀ t v : Machine κ' τ s} {watched : Prop}

namespace Alike

variable (h : Alike m₀ t₀ watched m t)

include h

/-- Machines that are alike stay so when both write the same into the log. -/
theorem note (level : Level) (message : String) :
    Alike m₀ t₀ watched (m.note level message) (t.note level message) := by
  obtain ⟨records, hm, ht⟩ := h.log
  exact { h with log := ⟨⟨level, message⟩ :: records, congrArg _ hm, congrArg _ ht⟩ }

/-- Machines that are alike stay so when both halt. -/
theorem halt : Alike m₀ t₀ watched { m with halted := true } { t with halted := true } :=
  { h with halted := rfl }

/-- All of the boards but the number of random bytes may be changed. -/
theorem withBoard {f : Board s → Board s} (hf : ∀ b draws, f { b with draws } = { f b with draws }) :
    Alike m₀ t₀ watched { m with board := f m.board } { t with board := f t.board } :=
  { h with board := h.board.map hf }

/-- What happens to the cadences and the clocks only has to leave the tempos alike. -/
theorem withTime (hu : ∃ timer pace clock, u = m.withTime timer pace clock)
    (hv : ∃ timer pace clock, v = t.withTime timer pace clock) (htempo : u.tempo.Alike v.tempo) :
    Alike m₀ t₀ watched u v := by
  obtain ⟨timer, pace, clock, rfl⟩ := hu
  obtain ⟨timer', pace', clock', rfl⟩ := hv
  exact { h with tempo := htempo }

theorem resume : Alike m₀ t₀ watched m.resume t.resume := by
  have hresumed : Alike m₀ t₀ watched { m with paused := false } { t with paused := false } :=
    { h with tempo := { h.tempo with paused := rfl } }
  refine note (hresumed.withTime (resumeCadences_eq _) (resumeCadences_eq _) ?_) _ _
  rw [tempo_resumeCadences, tempo_resumeCadences]
  exact hresumed.tempo.both fun c _ _ hk => c.agree_resume hk

variable [Seconds τ]

theorem startCadences : Alike m₀ t₀ watched m.startCadences t.startCadences := by
  refine h.withTime m.startCadences_eq t.startCadences_eq ?_
  rw [tempo_startCadences, tempo_startCadences]
  exact h.tempo.both fun c _ _ hk => c.agree_start hk

theorem pauseCadences : Alike m₀ t₀ watched m.pauseCadences t.pauseCadences := by
  refine h.withTime m.pauseCadences_eq t.pauseCadences_eq ?_
  rw [tempo_pauseCadences, tempo_pauseCadences]
  exact h.tempo.both fun c _ _ hk => c.agree_pause hk

theorem pause : Alike m₀ t₀ watched m.pause t.pause := by
  have hpaused : Alike m₀ t₀ watched { m with paused := true } { t with paused := true } :=
    { h with tempo := { h.tempo with paused := rfl } }
  exact hpaused.pauseCadences.note _ _

end Alike

/-! ### Single operations

The operations that are made of a board or of a cadence alone. -/

/-- What does not look at the past of a board is done alike by machines. Each may take its random bytes from a
    noise of its own. -/
theorem paired_onBoard {α : Type} {x : (Nat → UInt8) → Act (Board s) α}
    (hx : ∀ noise taken, Board.Unmindful id taken (x fun k => noise (taken + k)) (x noise))
    (h : Alike m₀ t₀ watched m t) :
    Act.Paired (Alike m₀ t₀ watched) ((onBoard (x m.noise)).exec m) ((onBoard (x t.noise)).exec t) := by
  obtain ⟨hanswer, hboard⟩ := Board.together_of_unmindful hx m.noise t.noise m.board t.board h.board
  rw [exec_onBoard, exec_onBoard]
  exact ⟨hanswer, { h with board := hboard }⟩

theorem together_onBoard {α : Type} {x : Act (Board s) α} (hx : ∀ taken, Board.Unmindful id taken x x) :
    Act.Together (Alike m₀ t₀ watched) (onBoard x) (onBoard x) :=
  fun _ _ => paired_onBoard (x := fun _ => x) fun _ => hx

variable [Seconds τ]

/-- Polls of the same cadence answer the same. -/
theorem together_pollTimer : Act.Together (Alike m₀ t₀ watched) pollTimer pollTimer := by
  refine .get_bind fun m t h => ?_
  obtain ⟨hdue, hclock⟩ := m.timerCadence.agree_due h.tempo.clock
  have hcadence : m.timerCadence = t.timerCadence := h.tempo.timerCadence
  dsimp only
  rw [← hcadence]
  change (m.timerCadence.due m.clock).1 = (m.timerCadence.due t.clock).1 at hdue
  rw [hdue]
  -- the clock is put back first, so that it has gone on even if too many periods are due
  refine Act.Together.bind (.modify fun _ _ h => ?_) (fun _ => ?_) m t h
  · exact { h with tempo := { h.tempo with clock := hclock } }
  refine .bind (.ofExcept _ _) fun p => .bind (.modify fun _ _ h => ?_) fun _ => .pure _
  exact { h with tempo := { h.tempo with timerCadence := rfl } }

theorem together_pollPace (pace : Cadence τ) :
    Act.Together (Alike m₀ t₀ watched) (pollPace pace) (pollPace pace) := by
  refine .get_bind fun m t h => ?_
  obtain ⟨hdue, hclock⟩ := pace.agree_due h.tempo.clock
  change (pace.due m.clock).1 = (pace.due t.clock).1 at hdue
  dsimp only
  rw [hdue]
  refine Act.Together.bind (.modify fun _ _ h => ?_) (fun _ => ?_) m t h
  · exact { h with tempo := { h.tempo with clock := hclock } }
  refine .bind (.ofExcept _ _) fun p => .bind (.modify fun _ _ h => ?_) fun _ => .pure _
  exact { h with tempo := { h.tempo with pace := rfl } }

/-! ### All operations

From here on listeners hear of what is done. -/

section Hosts

variable {host host' : Host s} (hhosts : HostsAlike host host' m₀ t₀)

include hhosts

/-- Both hosts hear the same news and react alike, and what they log is the same. -/
theorem together_emit_alike (event : Event s) :
    Act.Together (Alike m₀ t₀ watched) (emit host event) (emit host' event) := by
  refine together_emit ?_ ?_ ?_ (fun _ _ h => h.pause) fun _ _ h => h.halt
  · intro m t h
    obtain ⟨news, hm, ht⟩ := h.heard
    -- what was heard before the two began to be alike may differ, and hosts that are alike do not mind
    rw [hm, ht]
    exact hhosts news event
  · intro m t records h
    obtain ⟨news, hm, ht⟩ := h.heard
    obtain ⟨old, hlog, hlog'⟩ := h.log
    refine { h with heard := ⟨event :: news, ?_, ?_⟩, log := ⟨records ++ old, ?_, ?_⟩ }
    · exact congrArg (event :: ·) hm
    · exact congrArg (event :: ·) ht
    · rw [List.append_assoc, ← hlog]
    · rw [List.append_assoc, ← hlog']
  · intro m t h
    exact { h with signal := fun hwatched => by rw [requestStop, requestStop, h.signal hwatched] }

theorem together_traceWord (pc : Int) (w : Word) :
    Act.Together (Alike m₀ t₀ watched) (traceWord host pc w) (traceWord host' pc w) := by
  refine .get_bind fun m t h => ?_
  rw [h.board.regs]
  refine Act.Together.bind (.modify fun _ _ h => ?_) (fun _ => together_emit_alike hhosts _) m t h
  exact { h with traces := by rw [h.traces] }

/-- Machines that are alike go in lockstep. -/
theorem Alike.lockstep : Lockstep host host' (Alike m₀ t₀ watched) where
  abreast h :=
    { regs := h.board.regs, display := h.board.display, keypad := h.board.keypad, program := h.program
      wait := h.wait, halted := h.halted, paused := h.tempo.paused, pace := h.tempo.pace }
  withBoard f hf h := h.withBoard hf
  withProgram _ h := { h with program := rfl }
  withWait _ h := { h with wait := rfl }
  halt h := h.halt
  countInstruction h := { h with instructions := congrArg (· + 1) h.instructions }
  countTick h := { h with tempo := { h.tempo with ticks := congrArg (· + 1) h.tempo.ticks } }
  idle h :=
    { h with
      wait := rfl, halted := rfl, instructions := rfl, traces := rfl
      tempo := { h.tempo with ticks := rfl } }
  note level message h := h.note level message
  startCadences h := h.startCadences
  pauseCadences h := h.pauseCadences
  pollTimer := together_pollTimer
  pollPace := together_pollPace
  tone on := together_onBoard fun _ => Board.unmindful_setTone on
  fetch := together_onBoard fun _ => Board.unmindful_fetch
  -- a word may draw random bytes, of which those still to come agree
  execute w m t h := by
    rw [h.strict]
    exact paired_onBoard (x := fun noise => Board.execute t.strict noise w)
      (fun noise taken => Board.unmindful_execute t.strict noise taken w) h
  emit event _ := together_emit_alike hhosts event
  attempt pc w hexecute := by
    refine .get_bind fun m t h => ?_
    dsimp only
    rw [h.tracing]
    split
    · exact Act.Together.bind (together_traceWord hhosts pc w) (fun _ => hexecute) m t h
    · exact hexecute m t h

/-- Runs of the loop go together, also if the machines came with different stop signals: each run makes its
    own. -/
theorem together_run {look : κ → κ} {look' : κ' → κ'}
    (hlook : ∀ c c', Clock.Alike c c' → Clock.Alike (look c) (look' c')) (looks : Nat) :
    Act.Together (Alike m₀ t₀ watched) (run host look looks) (run host' look' looks) := by
  intro m t h
  rw [run, run, Act.exec_modify_bind, Act.exec_modify_bind]
  -- both signals are fresh now, whatever they were, so from here on they are watched
  have hfresh : Alike m₀ t₀ True { m with signal := { looks } } { t with signal := { looks } } :=
    { h with signal := fun _ => rfl }
  have hloop : Act.Together (Alike m₀ t₀ True) (loop host look looks) (loop host' look' looks) := by
    refine (Alike.lockstep hhosts).loop (fun h => h.signal trivial) (fun looks h => ?_) (fun h => ?_) looks
    · exact { h with
        tempo := { h.tempo with clock := hlook _ _ h.tempo.clock }
        signal := fun _ => by rw [useLook, useLook, h.signal trivial] }
    · exact { h with signal := fun _ => by rw [countWait, countWait, h.signal trivial] }
  obtain ⟨hanswer, hleft⟩ := hloop _ _ hfresh
  exact ⟨hanswer, { hleft with signal := fun _ => hleft.signal trivial }⟩

end Hosts

end Machine

/-! ## Calls

All calls of two machines that are alike, one after the other, answer the same. -/

namespace Call

variable [Clock κ τ] [Clock κ' τ]

/-- Two calls are the same but for what they do to the clocks; that leaves clocks alike that were alike. -/
inductive Alike (τ : Type) [Clock κ τ] [Clock κ' τ] : Call κ → Call κ' → Prop
  | step : Alike τ step step
  | tick : Alike τ tick tick
  | load (program : Program) : Alike τ (load program) (load program)
  | reset : Alike τ reset reset
  | inputKey (key : Int) (down : Option Bool) : Alike τ (inputKey key down) (inputKey key down)
  | inputKeys (changes : List (Int × Bool)) : Alike τ (inputKeys changes) (inputKeys changes)
  | pause : Alike τ pause pause
  | resume : Alike τ resume resume
  | run {look : κ → κ} {look' : κ' → κ'}
    (hlook : ∀ c c', Clock.Alike (τ := τ) c c' → Clock.Alike (τ := τ) (look c) (look' c')) (looks : Nat) :
    Alike τ (run look looks) (run look' looks)
  | switch (strict tracing : Bool) : Alike τ (switch strict tracing) (switch strict tracing)
  | elapse {move : κ → κ} {move' : κ' → κ'}
    (hmove : ∀ c c', Clock.Alike (τ := τ) c c' → Clock.Alike (τ := τ) (move c) (move' c')) :
    Alike τ (elapse move) (elapse move')

variable [Seconds τ]

/-- What a list of calls answers. -/
def answers (host : Host s) : List (Call κ) → Machine κ τ s → List (Except Failure Unit)
  | [], _ => []
  | c :: cs, m => ((c.act host).exec m).1 :: answers host cs (c.after host m)

/-- The machine that a list of calls leaves. -/
def afterAll (host : Host s) (cs : List (Call κ)) (m : Machine κ τ s) : Machine κ τ s :=
  cs.foldl (fun m c => c.after host m) m

variable {host host' : Host s} {m₀ m : Machine κ τ s} {t₀ t : Machine κ' τ s}
  (hhosts : Machine.HostsAlike host host' m₀ t₀)

include hhosts

/-- The same call of machines that are alike answers the same and leaves them alike. -/
theorem together_act {watched : Prop} {c : Call κ} {c' : Call κ'} (hc : Alike τ c c') :
    Act.Together (Machine.Alike m₀ t₀ watched) (c.act host) (c'.act host') := by
  have hlockstep : Machine.Lockstep host host' (Machine.Alike m₀ t₀ watched) :=
    Machine.Alike.lockstep hhosts
  -- calls that pass time are the only ones that may differ, by what they do to the two clocks
  cases hc with
  | step => exact hlockstep.step
  | tick => exact hlockstep.tick
  | load program => exact hlockstep.load program
  | reset => exact hlockstep.reset
  | inputKey key down => exact hlockstep.inputKey key down
  | inputKeys changes => exact hlockstep.inputKeys changes
  | pause => exact .modify fun _ _ h => h.pause
  | resume => exact .modify fun _ _ h => h.resume
  | run hlook looks => exact Machine.together_run hhosts hlook looks
  | switch strict tracing => exact .modify fun _ _ h => { h with strict := rfl, tracing := rfl }
  | elapse hmove =>
    exact .modify fun _ _ h => { h with tempo := { h.tempo with clock := hmove _ _ h.tempo.clock } }

/-- The same calls, one after the other, answer the same and leave the machines alike. The induction is on the
    calls, with the machines general: each call goes on from the two that the last one left. -/
theorem together_acts {watched : Prop} {cs : List (Call κ)} {cs' : List (Call κ')}
    (hcs : List.Forall₂ (Alike τ) cs cs') (h : Machine.Alike m₀ t₀ watched m t) :
    answers host cs m = answers host' cs' t ∧
      Machine.Alike m₀ t₀ watched (afterAll host cs m) (afterAll host' cs' t) := by
  induction hcs generalizing m t with
  | nil => exact ⟨rfl, h⟩
  | @cons c c' cs cs' hc _ ih =>
    obtain ⟨hanswer, hleft⟩ := together_act hhosts hc m t h
    obtain ⟨hanswers, hend⟩ := ih hleft
    refine ⟨?_, hend⟩
    unfold answers
    rw [hanswer]
    exact congrArg _ hanswers

end Call

end Chip8
