import Chip8.Proofs.Alike
import Chip8.Proofs.Traces
/-!
Machines that differ in their traces.

Whether instructions are traced decides what listeners hear and what is kept, and nothing else. That is not
clear from the code, for a line of the trace is told to listeners before the word is executed, and a listener
that stopped the machine over it would make a difference. The assumption is that listeners only take note of
the traces that they are told of (`Host.IgnoresTraces`).

1. **Invariant** — `Machine.ButForTraces`: of two machines all is equal but the switch for tracing, the
   traces, the log, and the lines of the trace among what was heard.

2. **Lockstep** — the relation has what `Machine.Lockstep` asks for (`ButForTraces.lockstep`). Only the
   attempt to execute a word needs a thought: each of the machines may trace the word first or not, and comes
   to a machine that is the same but for its traces before the word is executed (`exec_attempt`).

3. **Calls** — the two machines answer the same and stay the same whatever is done to both, also where tracing
   is switched on for one and off for the other (`Call.together_butForTraces`). Runs of them take the same
   turns (`Call.allTurns_butForTracing`), so all of it holds in the middle of a run as well.
-/

namespace Chip8

variable {κ τ : Type} {s : Size}

/-- What listeners heard besides lines of the trace. -/
def untraced (heard : List (Event s)) : List (Event s) := heard.filter fun e => !e.isTrace

/-- Listeners write at most to the log when they hear a trace, and no reaction to anything else depends on
    the traces heard before. -/
structure Host.IgnoresTraces (host : Host s) : Prop where
  logs : ∀ heard entry, ∃ log, host heard (.traced entry) = { log }
  others : ∀ heard heard' event, untraced heard = untraced heard' → event.isTrace = false →
    host heard event = host heard' event

namespace Machine

/-- `t` is `m` but for its traces. Listeners were told the same otherwise, and may have logged anything. -/
structure ButForTraces (m t : Machine κ τ s) : Prop where
  same : ∃ tracing traces heard log, t = { m with tracing, traces, heard, log }
  heard : untraced t.heard = untraced m.heard

namespace ButForTraces

variable {m t u : Machine κ τ s}

/-- The relation is an equivalence: of two machines neither is the one that is traced. -/
theorem refl (m : Machine κ τ s) : ButForTraces m m := ⟨⟨_, _, _, _, rfl⟩, rfl⟩

theorem symm (h : ButForTraces m t) : ButForTraces t m := by
  obtain ⟨⟨tracing, traces, heard, log, rfl⟩, hheard⟩ := h
  exact ⟨⟨m.tracing, m.traces, m.heard, m.log, rfl⟩, hheard.symm⟩

theorem trans (h : ButForTraces m t) (hu : ButForTraces t u) : ButForTraces m u := by
  obtain ⟨⟨tracing, traces, heard, log, rfl⟩, hheard⟩ := h
  obtain ⟨⟨tracing', traces', heard', log', rfl⟩, hheard'⟩ := hu
  exact ⟨⟨tracing', traces', heard', log', rfl⟩, hheard'.trans hheard⟩

/-- A change that looks at none of the four parts, and tells nobody, changes both machines in the same way. It
    may set the traces and the log, but listeners have heard the same as before. -/
theorem map (h : ButForTraces m t) {f : Machine κ τ s → Machine κ τ s}
    (hf : ∀ (m : Machine κ τ s) tracing traces heard log, ∃ tracing' traces' log',
      f { m with tracing, traces, heard, log } =
        { f m with tracing := tracing', traces := traces', heard, log := log' })
    (hheard : ∀ m, (f m).heard = m.heard) : ButForTraces (f m) (f t) := by
  obtain ⟨⟨tracing, traces, heard, log, rfl⟩, hbefore⟩ := h
  obtain ⟨tracing', traces', log', hleft⟩ := hf m tracing traces heard log
  refine ⟨⟨tracing', traces', heard, log', hleft⟩, ?_⟩
  rw [hleft, hheard]
  exact hbefore

/-- What does not depend on traces, nor on what was heard or logged, is the same in both. -/
theorem agree {α : Type} (h : ButForTraces m t) (f : Machine κ τ s → α)
    (hf : ∀ (m : Machine κ τ s) tracing traces heard log, f { m with tracing, traces, heard, log } = f m) :
    f m = f t := by
  obtain ⟨⟨tracing, traces, heard, log, rfl⟩, -⟩ := h
  exact (hf m tracing traces heard log).symm

theorem board (h : ButForTraces m t) : m.board = t.board := h.agree (·.board) fun _ _ _ _ _ => rfl

theorem note (h : ButForTraces m t) (level : Level) (message : String) :
    ButForTraces (m.note level message) (t.note level message) :=
  h.map (fun _ _ _ _ _ => ⟨_, _, _, rfl⟩) fun _ => rfl

section

variable [Seconds τ] [Clock κ τ]

theorem pauseCadences (h : ButForTraces m t) : ButForTraces m.pauseCadences t.pauseCadences := by
  refine h.map (fun m tracing traces heard log => ⟨tracing, traces, log, ?_⟩) fun m => ?_
  · unfold Machine.pauseCadences
    dsimp only
    cases m.pace <;> rfl
  · unfold Machine.pauseCadences
    cases m.pace <;> rfl

theorem pause (h : ButForTraces m t) : ButForTraces m.pause t.pause := by
  have hpaused : ButForTraces { m with paused := true } { t with paused := true } :=
    h.map (f := fun m => { m with paused := true }) (fun _ _ _ _ _ => ⟨_, _, _, rfl⟩) fun _ => rfl
  exact hpaused.pauseCadences.note _ _

theorem startCadences (h : ButForTraces m t) : ButForTraces m.startCadences t.startCadences := by
  refine h.map (fun m tracing traces heard log => ⟨tracing, traces, log, ?_⟩) fun m => ?_
  · unfold Machine.startCadences
    dsimp only
    cases m.pace <;> rfl
  · unfold Machine.startCadences
    cases m.pace <;> rfl

omit [Seconds τ] in
theorem resume (h : ButForTraces m t) : ButForTraces m.resume t.resume := by
  have hresumed : ButForTraces { m with paused := false } { t with paused := false } :=
    h.map (f := fun m => { m with paused := false }) (fun _ _ _ _ _ => ⟨_, _, _, rfl⟩) fun _ => rfl
  refine note (hresumed.map (fun m tracing traces heard log => ⟨tracing, traces, log, ?_⟩) fun m => ?_) _ _
  · unfold Machine.resumeCadences
    dsimp only
    cases m.pace <;> rfl
  · unfold Machine.resumeCadences
    cases m.pace <;> rfl

end

/-! ## Single operations

What the relation between the two machines is kept by, as `Lockstep` asks for it. -/

/-- An operation on the board answers the same and leaves the same board, since the boards are equal. -/
theorem together_onBoard {α : Type} (x : Act (Board s) α) :
    Act.Together (ButForTraces (κ := κ) (τ := τ)) (onBoard x) (onBoard x) := by
  rintro m t h
  rw [exec_onBoard, exec_onBoard, ← h.board]
  refine ⟨rfl, ?_⟩
  exact h.map (f := fun u => { u with board := (x.exec m.board).2 }) (fun _ _ _ _ _ => ⟨_, _, _, rfl⟩)
    fun _ => rfl

/-- What is changed without a look at the traces, and without telling anybody, stays the same but for
    them. -/
theorem together_modify {f : Machine κ τ s → Machine κ τ s}
    (hf : ∀ (m : Machine κ τ s) tracing traces heard log, ∃ tracing' traces' log',
      f { m with tracing, traces, heard, log } =
        { f m with tracing := tracing', traces := traces', heard, log := log' })
    (hheard : ∀ m, (f m).heard = m.heard) :
    Act.Together ButForTraces (modify f : Act (Machine κ τ s) PUnit) (modify f) :=
  .modify fun _ _ h => h.map hf hheard

variable [Seconds τ] [Clock κ τ]

theorem together_pollTimer :
    Act.Together ButForTraces (pollTimer : Act (Machine κ τ s) Int) pollTimer := by
  refine .get_bind fun m t h => ?_
  have htimer : m.timerCadence = t.timerCadence := h.agree (·.timerCadence) fun _ _ _ _ _ => rfl
  have hclock : m.clock = t.clock := h.agree (·.clock) fun _ _ _ _ _ => rfl
  dsimp only
  rw [htimer, hclock]
  refine Act.Together.bind ?_ (fun _ => .bind (.ofExcept _ _) fun p => .bind ?_ fun _ => .pure _) m t h
  · exact together_modify (fun _ _ _ _ _ => ⟨_, _, _, rfl⟩) fun _ => rfl
  · exact together_modify (fun _ _ _ _ _ => ⟨_, _, _, rfl⟩) fun _ => rfl

theorem together_pollPace (pace : Cadence τ) :
    Act.Together ButForTraces (pollPace pace : Act (Machine κ τ s) Int) (pollPace pace) := by
  refine .get_bind fun m t h => ?_
  have hclock : m.clock = t.clock := h.agree (·.clock) fun _ _ _ _ _ => rfl
  rw [hclock]
  refine Act.Together.bind ?_ (fun _ => .bind (.ofExcept _ _) fun p => .bind ?_ fun _ => .pure _) m t h
  · exact together_modify (fun _ _ _ _ _ => ⟨_, _, _, rfl⟩) fun _ => rfl
  · exact together_modify (fun _ _ _ _ _ => ⟨_, _, _, rfl⟩) fun _ => rfl

/-! ## Events

A trace may be told to one of the listeners and not to the other. Listeners that ignore traces react as if
it had not been told. -/

section Hosts

variable {host : Host s} (hhost : host.IgnoresTraces)

include hhost

/-- An event that is no trace is told of alike: the host reacts the same to it, and it comes to what was
    heard on both sides. -/
theorem together_emit {event : Event s} (hevent : event.isTrace = false) :
    Act.Together (ButForTraces (κ := κ) (τ := τ)) (emit host event) (emit host event) := by
  refine Machine.together_emit ?_ ?_ ?_ (fun _ _ h => h.pause) ?_
  · intro m t h
    exact hhost.others _ _ event h.heard.symm hevent
  · rintro m _ records ⟨⟨tracing, traces, heard, log, rfl⟩, hheard⟩
    refine ⟨⟨tracing, traces, event :: heard, records ++ log, rfl⟩, ?_⟩
    unfold untraced at hheard ⊢
    rw [List.filter_cons, List.filter_cons, hevent, hheard]
  · intro m t h
    exact h.map (f := requestStop) (fun _ _ _ _ _ => ⟨_, _, _, rfl⟩) fun _ => rfl
  · intro m t h
    exact h.map (f := fun m => { m with halted := true }) (fun _ _ _ _ _ => ⟨_, _, _, rfl⟩) fun _ => rfl

/-- To trace a word makes no difference but in the traces. It cannot fail, and the listeners do nothing about it
    but write to the log. -/
theorem traced (pc : Int) (w : Word) (m : Machine κ τ s) :
    (traceWord host pc w).exec m = (.ok (), ((traceWord host pc w).exec m).2) ∧
      ButForTraces m ((traceWord host pc w).exec m).2 := by
  obtain ⟨log, hlog⟩ := hhost.logs m.heard (TraceEntry.of pc w m.board.regs)
  rw [traceWord, Act.exec_get_bind, Act.exec_modify_bind, exec_emit]
  dsimp only
  rw [hlog]
  exact ⟨rfl, ⟨_, _, _, _, rfl⟩, rfl⟩

/-- A word that is traced before it is executed is executed on a machine that is the same but for its traces. -/
theorem exec_attempt (pc : Int) (w : Word) (m : Machine κ τ s) :
    ∃ t, ButForTraces m t ∧ (attempt host pc w).exec m = (executeWord host w).exec t := by
  rw [attempt, Act.exec_get_bind]
  split
  · obtain ⟨hok, hsame⟩ := traced hhost pc w m
    exact ⟨_, hsame, Act.exec_bind_of_ok hok⟩
  · exact ⟨m, .refl m, rfl⟩

/-- Machines that differ in their traces go in lockstep. -/
theorem lockstep : Lockstep host host (ButForTraces (κ := κ) (τ := τ)) where
  abreast h := by
    obtain ⟨⟨tracing, traces, heard, log, rfl⟩, -⟩ := h
    exact ⟨rfl, rfl, rfl, rfl, rfl, rfl, rfl, rfl⟩
  withBoard f _ h :=
    h.map (f := fun u => { u with board := f u.board }) (fun _ _ _ _ _ => ⟨_, _, _, rfl⟩) fun _ => rfl
  withProgram program h :=
    h.map (f := fun u => { u with program }) (fun _ _ _ _ _ => ⟨_, _, _, rfl⟩) fun _ => rfl
  withWait wait h :=
    h.map (f := fun u => { u with wait }) (fun _ _ _ _ _ => ⟨_, _, _, rfl⟩) fun _ => rfl
  halt h :=
    h.map (f := fun u => { u with halted := true }) (fun _ _ _ _ _ => ⟨_, _, _, rfl⟩) fun _ => rfl
  countInstruction h :=
    h.map (f := fun u => { u with instructions := u.instructions + 1 }) (fun _ _ _ _ _ => ⟨_, _, _, rfl⟩)
      fun _ => rfl
  countTick h :=
    h.map (f := fun u => { u with ticks := u.ticks + 1 }) (fun _ _ _ _ _ => ⟨_, _, _, rfl⟩) fun _ => rfl
  idle h :=
    h.map (f := fun u =>
        { u with wait := none, halted := false, instructions := 0, ticks := 0, traces := [] })
      (fun _ _ _ _ _ => ⟨_, _, _, rfl⟩) fun _ => rfl
  note level message h := h.note level message
  startCadences h := h.startCadences
  pauseCadences h := h.pauseCadences
  pollTimer := together_pollTimer
  pollPace := together_pollPace
  tone on := together_onBoard _
  fetch := together_onBoard _
  execute w m t h := by
    obtain ⟨⟨tracing, traces, heard, log, rfl⟩, hheard⟩ := h
    exact together_onBoard _ _ _ ⟨⟨tracing, traces, heard, log, rfl⟩, hheard⟩
  emit event hevent := together_emit hhost hevent
  attempt pc w hexecute := by
    -- each of the two comes to the word traced or not, and the same but for its traces
    intro m t h
    obtain ⟨u, hu, hm⟩ := exec_attempt hhost pc w m
    obtain ⟨v, hv, ht⟩ := exec_attempt hhost pc w t
    rw [hm, ht]
    exact hexecute u v ((hu.symm.trans h).trans hv)

/-! ## Runs

The turns of a run do not depend on traces, so both runs take the same turns. -/

omit [Seconds τ] [Clock κ τ] hhost in
theorem useLook {m t : Machine κ τ s} (h : ButForTraces m t) (look : κ → κ) (looks : Nat) :
    ButForTraces (m.useLook look looks) (t.useLook look looks) :=
  h.map (fun _ _ _ _ _ => ⟨_, _, _, rfl⟩) fun _ => rfl

omit [Seconds τ] [Clock κ τ] hhost in
theorem countWait {m t : Machine κ τ s} (h : ButForTraces m t) : ButForTraces m.countWait t.countWait :=
  h.map (fun _ _ _ _ _ => ⟨_, _, _, rfl⟩) fun _ => rfl

/-- Runs of the loop go together, since the stop signals are the same. -/
theorem together_run (look : κ → κ) (looks : Nat) :
    Act.Together (ButForTraces (κ := κ) (τ := τ)) (run host look looks) (run host look looks) := by
  refine .bind (together_modify (fun _ _ _ _ _ => ⟨_, _, _, rfl⟩) fun _ => rfl) fun _ => ?_
  refine (lockstep hhost).loop (fun h => ?_) (fun looks h => h.useLook look looks) (fun h => h.countWait) looks
  exact h.agree (·.signal) fun _ _ _ _ _ => rfl

/-- A burst takes the same turns on both sides: each step fails on both or on none, and halts both or none. -/
theorem burstTurns_eq (n : Nat) {m t : Machine κ τ s} (h : ButForTraces m t) :
    burstTurns host n m = burstTurns host n t := by
  induction n generalizing m t with
  | zero => rfl
  | succ n ih =>
    -- the induction is on the steps that are left, with both machines general
    obtain ⟨hanswer, hleft⟩ := (lockstep hhost).step m t h
    rw [burstTurns, burstTurns]
    generalize (step host).exec m = out at hanswer hleft ⊢
    generalize (step host).exec t = out' at hanswer hleft ⊢
    obtain ⟨answer, m'⟩ := out
    obtain ⟨answer', t'⟩ := out'
    obtain rfl : answer = answer' := hanswer
    cases answer with
    | error e => rfl
    | ok a =>
      dsimp only at hleft ⊢
      rw [hleft.agree (·.halted) fun _ _ _ _ _ => rfl, ih hleft]

theorem passTurns_eq {m t : Machine κ τ s} (h : ButForTraces m t) : passTurns host m = passTurns host t := by
  -- which turns a pass takes depends on the pause, the pace and the answer of the poll, none of which is a
  -- trace
  have hpaused : m.paused = t.paused := h.agree (·.paused) fun _ _ _ _ _ => rfl
  have hpace : m.pace = t.pace := h.agree (·.pace) fun _ _ _ _ _ => rfl
  cases hp : t.paused with
  | true => rw [passTurns_of_paused hp, passTurns_of_paused (hpaused.trans hp)]
  | false =>
    cases hc : t.pace with
    | none =>
      rw [passTurns_of_unthrottled hp hc, passTurns_of_unthrottled (hpaused.trans hp) (hpace.trans hc)]
    | some pace =>
      rw [passTurns_of_throttled hp hc, passTurns_of_throttled (hpaused.trans hp) (hpace.trans hc)]
      obtain ⟨hanswer, hleft⟩ := together_pollPace pace m t h
      generalize (pollPace pace).exec m = out at hanswer hleft ⊢
      generalize (pollPace pace).exec t = out' at hanswer hleft ⊢
      obtain ⟨answer, m'⟩ := out
      obtain ⟨answer', t'⟩ := out'
      obtain rfl : answer = answer' := hanswer
      cases answer with
      | error e => rfl
      | ok due =>
        dsimp only [polledTurns]
        rw [burstTurns_eq hhost _ hleft]

/-- The loop takes the same turns, by induction on the looks that are left. -/
theorem loopTurns_eq (look : κ → κ) (looks : Nat) {m t : Machine κ τ s} (h : ButForTraces m t) :
    loopTurns host look looks m = loopTurns host look looks t := by
  induction looks generalizing m t with
  | zero => rfl
  | succ looks ih =>
    have hlook := h.useLook look looks
    obtain ⟨hanswer, hleft⟩ := (lockstep hhost).pass _ _ hlook
    -- the signal and the halt are looked at before the pass, and the answer of the pass after it
    rw [loopTurns, loopTurns, h.agree (·.signal) fun _ _ _ _ _ => rfl,
      hlook.agree (·.halted) fun _ _ _ _ _ => rfl, passTurns_eq hhost hlook]
    generalize (pass host).exec (m.useLook look looks) = out at hanswer hleft ⊢
    generalize (pass host).exec (t.useLook look looks) = out' at hanswer hleft ⊢
    obtain ⟨answer, m'⟩ := out
    obtain ⟨answer', t'⟩ := out'
    obtain rfl : answer = answer' := hanswer
    cases answer with
    | error e => rfl
    | ok idle =>
      cases idle with
      | false =>
        dsimp only at hleft ⊢
        rw [ih hleft]
      | true =>
        dsimp only at hleft ⊢
        rw [ih hleft.countWait]

theorem runTurns_eq (look : κ → κ) (looks : Nat) {m t : Machine κ τ s} (h : ButForTraces m t) :
    runTurns host look looks m = runTurns host look looks t := by
  have hstarted : ButForTraces { m with signal := { looks } } { t with signal := { looks } } :=
    h.map (f := fun m => { m with signal := { looks } }) (fun _ _ _ _ _ => ⟨_, _, _, rfl⟩) fun _ => rfl
  rw [runTurns, runTurns, loopTurns_eq hhost look looks hstarted]

end Hosts

end ButForTraces

end Machine

/-! ## Calls

Both machines are given the same calls but for the switch of tracing itself. -/

/-- The same call, but for whether it switches tracing on. -/
inductive Call.ButForTracing : Call κ → Call κ → Prop
  | same (c : Call κ) : ButForTracing c c
  | switch (strict tracing tracing' : Bool) : ButForTracing (.switch strict tracing) (.switch strict tracing')

/-- The same turn, but for whether it switches tracing on. -/
inductive Turn.ButForTracing : Turn κ → Turn κ → Prop
  | same (x : Turn κ) : ButForTracing x x
  | call {c c' : Call κ} (h : c.ButForTracing c') (single : c.loops = false) (single' : c'.loops = false) :
    ButForTracing (.call c single) (.call c' single')

section Calls

variable [Seconds τ] [Clock κ τ] {host : Host s} (hhost : host.IgnoresTraces)

include hhost

/-- Machines that are the same but for their traces answer a call alike, and stay the same but for their
    traces, also if it switches tracing on for one of them only. -/
theorem Call.together_butForTraces {c c' : Call κ} (hc : c.ButForTracing c') :
    Act.Together (Machine.ButForTraces (τ := τ)) (c.act host) (c'.act host) := by
  have hlockstep : Machine.Lockstep host host (Machine.ButForTraces (κ := κ) (τ := τ)) :=
    Machine.ButForTraces.lockstep hhost
  cases hc with
  | same c =>
    cases c with
    | step => exact hlockstep.step
    | tick => exact hlockstep.tick
    | load program => exact hlockstep.load program
    | reset => exact hlockstep.reset
    | inputKey key down => exact hlockstep.inputKey key down
    | inputKeys changes => exact hlockstep.inputKeys changes
    | pause => exact .modify fun _ _ h => h.pause
    | resume => exact .modify fun _ _ h => h.resume
    | run look looks => exact Machine.ButForTraces.together_run hhost look looks
    | switch strict tracing =>
      exact Machine.ButForTraces.together_modify (fun _ _ _ _ _ => ⟨_, _, _, rfl⟩) fun _ => rfl
    | elapse move =>
      exact Machine.ButForTraces.together_modify (fun _ _ _ _ _ => ⟨_, _, _, rfl⟩) fun _ => rfl
  | switch strict tracing tracing' =>
    -- the switch is one of the parts in which the machines may differ
    refine .modify fun m t h => ?_
    obtain ⟨⟨_, traces, heard, log, rfl⟩, hheard⟩ := h
    exact ⟨⟨tracing', traces, heard, log, rfl⟩, hheard⟩

/-- Machines that are the same but for their traces take a turn alike, and stay the same but for their
    traces. -/
theorem Turn.together_butForTraces {x x' : Turn κ} (hx : x.ButForTracing x') :
    Act.Together (Machine.ButForTraces (τ := τ)) (x.act host) (x'.act host) := by
  cases hx with
  | same x =>
    cases x with
    | call c single => exact Call.together_butForTraces hhost (.same c)
    | service => exact (Machine.ButForTraces.lockstep hhost).serviceTimers
    | pollPace =>
      refine .get_bind fun m t h => ?_
      -- both have the same pace, so the same cadence is polled
      rw [h.agree (·.pace) fun _ _ _ _ _ => rfl]
      cases t.pace with
      | none => exact ⟨rfl, h⟩
      | some pace =>
        exact Act.Together.bind (Machine.ButForTraces.together_pollPace pace) (fun _ => .pure ()) m t h
    | signal change =>
      exact Machine.ButForTraces.together_modify (fun _ _ _ _ _ => ⟨_, _, _, rfl⟩) fun _ => rfl
  | call hc single single' => exact Call.together_butForTraces hhost hc

/-- A list of turns keeps two machines the same but for their traces, by induction on the turns. -/
theorem Turn.butForTraces_afterAll {xs xs' : List (Turn κ)}
    (hxs : List.Forall₂ Turn.ButForTracing xs xs') {m t : Machine κ τ s} (h : m.ButForTraces t) :
    (afterAll host xs m).ButForTraces (afterAll host xs' t) := by
  induction hxs generalizing m t with
  | nil => exact h
  | cons hx _ ih => exact ih (together_butForTraces hhost hx m t h).2

/-- The turns of a call are the same turns. -/
theorem Call.turns_butForTracing {c c' : Call κ} (hc : c.ButForTracing c') {m t : Machine κ τ s}
    (h : m.ButForTraces t) :
    List.Forall₂ Turn.ButForTracing (c.turns host m) (c'.turns host t) := by
  cases hc with
  | same c =>
    cases c with
    | run look looks =>
      show List.Forall₂ _ (Machine.runTurns host look looks m) (Machine.runTurns host look looks t)
      rw [Machine.ButForTraces.runTurns_eq hhost look looks h]
      exact List.forall₂_same.mpr fun x _ => .same x
    | _ => exact .cons (.same _) .nil
  | switch strict tracing tracing' => exact .cons (.call (.switch strict tracing tracing') rfl rfl) .nil

/-- Calls one after the other take the same turns and are answered alike. -/
theorem Call.allTurns_butForTracing {cs cs' : List (Call κ)} (hcs : List.Forall₂ Call.ButForTracing cs cs')
    {m t : Machine κ τ s} (h : m.ButForTraces t) :
    List.Forall₂ Turn.ButForTracing (allTurns host cs m) (allTurns host cs' t) ∧
      answers host cs m = answers host cs' t := by
  induction hcs generalizing m t with
  | nil => exact ⟨.nil, rfl⟩
  | @cons c c' cs cs' hc _ ih =>
    obtain ⟨hanswer, hleft⟩ := together_butForTraces hhost hc m t h
    obtain ⟨hturns, hanswers⟩ := ih hleft
    refine ⟨List.rel_append (turns_butForTracing hhost hc h) hturns, ?_⟩
    unfold answers
    rw [hanswer]
    exact congrArg _ hanswers

end Calls

end Chip8
