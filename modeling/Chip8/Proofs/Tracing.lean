import Chip8.CommandLine.Session
import Chip8.Proofs.Lines
import Chip8.Proofs.Timeless
import Chip8.Proofs.Untraced
/-!
What traces tell of a run.

A trace is told before its instruction is executed, so there may be one for an instruction that is never
counted: the machine may halt on it, or a listener may fail. The number of traces says something about a run
only if these cases are told apart.

1. **Specification** — `Machine.begun` is the line that a step owes the trace: the place and the word of the
   instruction that it fetches, with the registers as they are once the timers are serviced. `haltsOnWord` and
   `breaksOff` say which of these instructions are not counted.

2. **Invariant** — `Recorded`: what listeners heard of traces and what is kept of them are the lines that are
   owed, and the count of instructions is behind by those that are missing.

3. **Step** — every step of a traced machine pays its line (`Machine.accounted_step`), and no other turn adds
   one (`Turn.recorded_of_ne`).

4. **Runs** — so listeners hear one trace for each instruction that was counted, one more if the machine
   halted on an instruction that it fetched, and one for each instruction that a failing listener broke off;
   and the latest of these lines are kept (`Turn.recorded_afterAll`). `Machine.traces_complete_and_inert` adds
   that it all makes no difference to the machine (`Chip8.Proofs.Untraced`).
-/

namespace Chip8

variable {κ τ : Type} {s : Size}

/-- The entry that a trace tells of. -/
def Event.entry? : Event s → Option TraceEntry
  | .traced entry => some entry
  | _ => none

/-- What is kept of traces, the latest first, when entries are added one after the other. -/
def keptTraces (entries traces : List TraceEntry) : List TraceEntry :=
  entries.foldl (fun traces entry => (entry :: traces).take traceCapacity) traces

/-- The latest entries are kept, as many as there is room for. -/
theorem keptTraces_eq (entries : List TraceEntry) {traces : List TraceEntry}
    (h : traces.length ≤ traceCapacity) :
    keptTraces entries traces = (entries.reverse ++ traces).take traceCapacity := by
  induction entries generalizing traces with
  | nil => exact (List.take_of_length_le h).symm
  | cons entry entries ih =>
    have hroom : ((entry :: traces).take traceCapacity).length ≤ traceCapacity := List.length_take_le _ _
    have hmore (l : List TraceEntry) : (l ++ (entry :: traces).take traceCapacity).take traceCapacity =
        (l ++ entry :: traces).take traceCapacity := by
      rw [List.take_append, List.take_append, List.take_take, Nat.min_eq_left (Nat.sub_le _ _)]
    show keptTraces entries ((entry :: traces).take traceCapacity) = _
    rw [ih hroom, hmore, List.reverse_cons, List.append_assoc]
    rfl

/-- The kept traces, read in the order in which they were added, are the last ones. -/
theorem reverse_keptTraces (entries : List TraceEntry) :
    (keptTraces entries []).reverse = entries.drop (entries.length - min traceCapacity entries.length) := by
  have hlast : entries.length - min traceCapacity entries.length = entries.length - traceCapacity := by omega
  rw [keptTraces_eq entries (Nat.zero_le _), List.append_nil, List.take_reverse, List.reverse_reverse, hlast]

namespace Machine

/-- The machine `t` that came of `m` told of these entries and kept them as they came, and it counted an
    instruction for each but `missing` of them. -/
structure Recorded (entries : List TraceEntry) (missing : Nat) (m t : Machine κ τ s) : Prop where
  heard : ∃ news, t.heard = news ++ m.heard ∧ news.filterMap Event.entry? = entries.reverse
  traces : t.traces = keptTraces entries m.traces
  instructions : t.instructions + missing = m.instructions + entries.length

namespace Recorded

variable {m t u : Machine κ τ s} {entries entries' : List TraceEntry} {missing missing' : Nat}

/-- What is recorded one after the other is recorded together, and so is what is missing. -/
theorem trans (h : Recorded entries missing m t) (hu : Recorded entries' missing' t u) :
    Recorded (entries ++ entries') (missing + missing') m u := by
  obtain ⟨news, hheard, hentries⟩ := h.heard
  obtain ⟨news', hheard', hentries'⟩ := hu.heard
  refine ⟨⟨news' ++ news, ?_, ?_⟩, ?_, ?_⟩
  · rw [hheard', hheard, List.append_assoc]
  · rw [List.filterMap_append, hentries, hentries', List.reverse_append]
  · rw [hu.traces, h.traces]
    exact List.foldl_append.symm
  · have hfirst := h.instructions
    have hsecond := hu.instructions
    rw [List.length_append]
    omega

/-- A machine that tells of other events only records nothing. -/
theorem of_news (news : List (Event s)) (hheard : t.heard = news ++ m.heard)
    (hnews : ∀ e ∈ news, e.entry? = none) (htraces : t.traces = m.traces)
    (hinstructions : t.instructions = m.instructions) : Recorded [] 0 m t :=
  ⟨⟨news, hheard, List.filterMap_eq_nil_iff.mpr hnews⟩, htraces, hinstructions⟩

theorem of_same (hheard : t.heard = m.heard) (htraces : t.traces = m.traces)
    (hinstructions : t.instructions = m.instructions) : Recorded [] 0 m t :=
  of_news [] hheard (fun _ h => absurd h List.not_mem_nil) htraces hinstructions

theorem refl (m : Machine κ τ s) : Recorded [] 0 m m := of_same rfl rfl rfl

/-- A change without a trace makes no difference when it comes after. -/
theorem then_nothing (h : Recorded entries missing m t) (hu : Recorded [] 0 t u) :
    Recorded entries missing m u := by
  have hboth := h.trans hu
  rwa [List.append_nil] at hboth

/-- A change without a trace makes no difference when it comes before. -/
theorem after_nothing (h : Recorded [] 0 m t) (hu : Recorded entries missing t u) :
    Recorded entries missing m u := by
  have hboth := h.trans hu
  rwa [List.nil_append, Nat.zero_add] at hboth

theorem of_ticked (h : Ticked m t) : Recorded [] 0 m t := by
  obtain ⟨tones, htones, hheard⟩ := h.heard
  refine of_news _ hheard (fun e he => ?_) (congrArg Core.traces h.core) (congrArg Core.instructions h.core)
  obtain ⟨on, rfl⟩ := htones e he
  rfl

theorem of_aside (h : Aside m t) : Recorded [] 0 m t := by
  obtain ⟨keypad, strict, tracing, hcore⟩ := h.core
  exact of_same h.heard (congrArg Core.traces hcore) (congrArg Core.instructions hcore)

end Recorded

variable [Seconds τ] [Clock κ τ]

/-! ## Lines

The line that a step owes, told from the machine before the step, and whether the instruction is counted
that it is for. -/

/-- What a trace shows of the instruction that a step begins: the place and the word that it fetches, and
    the registers when the timers are serviced. A machine that is halted or waits for a key begins none, and
    neither does one whose timers fail or that finds no word. -/
def begun (host : Host s) (m : Machine κ τ s) : Option TraceEntry :=
  if m.halted then none
  else match (serviceTimers host).exec m with
  | (.error _, _) => none
  | (.ok _, t) =>
    let r := t.board.regs
    if t.wait.isSome then none
    else t.word?.map fun word =>
      { pc := r.pc, word, i := r.i, sp := r.sp, delay := r.delay, sound := r.sound, v := r.v }

/-- Does a step halt on an instruction that it fetched? -/
def haltsOnWord (host : Host s) (m : Machine κ τ s) : Bool :=
  match ((step host).exec m).1 with
  | .error (.halt halt) => halt.word.isSome
  | _ => false

/-- Does a failing listener break off the instruction that a step begins, before it is counted? -/
def breaksOff (host : Host s) (m : Machine κ τ s) : Bool :=
  match ((step host).exec m).1 with
  | .error (.listener _) =>
    (m.begun host).isSome && (Call.step.after host m).instructions == m.instructions
  | _ => false

/-- A step pays the line that it owes, and counts the instruction unless it halts on it or a listener
    breaks it off. -/
structure Accounted (host : Host s) (m : Machine κ τ s) : Prop where
  recorded : Recorded (m.begun host).toList ((m.haltsOnWord host).toNat + (m.breaksOff host).toNat) m
    (Call.step.after host m)
  halts : m.haltsOnWord host = true → (Call.step.after host m).halted = true
  breaks : m.breaksOff host = true → ¬host.NeverFails

namespace Accounted

variable {host : Host s} {m t : Machine κ τ s} {answer : Except Failure Unit}

/-- A step is accounted for by its answer and the machine that it leaves. -/
theorem of_step {line : Option TraceEntry} {halts breaks : Bool} (hstep : (step host).exec m = (answer, t))
    (hbegun : m.begun host = line) (hhalts : m.haltsOnWord host = halts) (hbreaks : m.breaksOff host = breaks)
    (h : Recorded line.toList (halts.toNat + breaks.toNat) m t) (hhalted : halts = true → t.halted = true)
    (hfails : breaks = true → ¬host.NeverFails) : Accounted host m := by
  obtain rfl : Call.step.after host m = t := congrArg Prod.snd hstep
  subst hbegun hhalts hbreaks
  exact ⟨h, hhalted, hfails⟩

/-- A step that begins no instruction owes nothing. -/
theorem of_idle (hstep : (step host).exec m = (answer, t)) (hbegun : m.begun host = none)
    (hanswer : ∀ halt, answer = .error (.halt halt) → halt.word = none) (h : Recorded [] 0 m t) :
    Accounted host m := by
  -- a step without an instruction may still halt, but then over a place at which there is no word
  have hhalts : m.haltsOnWord host = false := by
    unfold haltsOnWord
    rw [hstep]
    split
    · next halt heq =>
      rw [hanswer halt heq]
      rfl
    · rfl
  have hbreaks : m.breaksOff host = false := by
    unfold breaksOff
    rw [hbegun]
    split <;> rfl
  exact of_step hstep hbegun hhalts hbreaks h (fun h => nomatch h) fun h => nomatch h

variable {entry : TraceEntry}

/-- A step that halts on its instruction tells of it and does not count it. -/
theorem of_halt {f : Fault} {pc : Int} {w : Word}
    (hstep : (step host).exec m = (.error (.halt ⟨f, pc, some w⟩), t)) (hbegun : m.begun host = some entry)
    (hhalted : t.halted = true) (h : Recorded [entry] 1 m t) : Accounted host m := by
  have hhalts : m.haltsOnWord host = true := by
    unfold haltsOnWord
    rw [hstep]
    rfl
  have hbreaks : m.breaksOff host = false := by
    unfold breaksOff
    rw [hstep]
  exact of_step hstep hbegun hhalts hbreaks h (fun _ => hhalted) fun h => nomatch h

/-- A step that a listener breaks off tells of its instruction and does not count it. -/
theorem of_listener {e : Failure} (hstep : (step host).exec m = (.error e, t))
    (hbegun : m.begun host = some entry) (hfails : host.MayFail e) (h : Recorded [entry] 1 m t) :
    Accounted host m := by
  obtain ⟨⟨name, rfl⟩, hmay⟩ := hfails
  have hcount : (Call.step.after host m).instructions = m.instructions := by
    rw [show Call.step.after host m = t from congrArg Prod.snd hstep]
    exact Nat.add_right_cancel h.instructions
  have hhalts : m.haltsOnWord host = false := by
    unfold haltsOnWord
    rw [hstep]
  have hbreaks : m.breaksOff host = true := by
    unfold breaksOff
    rw [hstep, hbegun, hcount]
    exact beq_self_eq_true _
  exact of_step hstep hbegun hhalts hbreaks h (fun h => nomatch h) fun _ => hmay

/-- A step that counts its instruction tells of it once, whatever else is told. -/
theorem of_counted (hstep : (step host).exec m = (answer, t)) (hbegun : m.begun host = some entry)
    (hanswer : ∀ e, answer = .error e → host.MayFail e) (h : Recorded [entry] 0 m t) :
    Accounted host m := by
  have hcount : (Call.step.after host m).instructions = m.instructions + 1 := by
    rw [show Call.step.after host m = t from congrArg Prod.snd hstep]
    exact h.instructions
  -- a step that counts its instruction fails over a listener, if at all
  have hhalts : m.haltsOnWord host = false := by
    unfold haltsOnWord
    rw [hstep]
    split
    · next halt heq =>
      obtain ⟨⟨name, hname⟩, -⟩ := hanswer _ heq
      cases hname
    · rfl
  have hbreaks : m.breaksOff host = false := by
    unfold breaksOff
    rw [hcount]
    split
    · simp
    · rfl
  exact of_step hstep hbegun hhalts hbreaks h (fun h => nomatch h) fun h => nomatch h

end Accounted

/-! ## Steps

A step pays its line. The cases are those of the instruction, and in each of them the count of instructions
goes up unless the machine halts or a listener fails. -/

/-- A traced instruction puts its entry in front, and the oldest entry goes if there are too many. -/
theorem traces_traced (host : Host s) (pc : Int) (w : Word) (m : Machine κ τ s) :
    (m.traced host pc w).traces =
      if m.tracing then (TraceEntry.of pc w m.board.regs :: m.traces).take traceCapacity else m.traces := by
  unfold traced
  split
  · rw [traceWord, Act.exec_get_bind, Act.exec_modify_bind]
    exact congrArg Core.traces (core_emit host _ _)
  · rfl

/-- A traced machine that is ready for a word has told of it, and not yet counted it. -/
theorem recorded_ready (host : Host s) (w : Word) {m : Machine κ τ s} (htracing : m.tracing = true) :
    Recorded [TraceEntry.of m.board.regs.pc w m.board.regs] 1 m (m.ready host w) := by
  have hheard := m.fetched.heard_traced host m.board.regs.pc w
  have htraces := m.fetched.traces_traced host m.board.regs.pc w
  have hfetched : m.fetched.tracing = true := htracing
  obtain ⟨traces, hcore⟩ := m.fetched.core_traced host m.board.regs.pc w
  rw [if_pos hfetched] at hheard htraces
  refine ⟨⟨[_], hheard, rfl⟩, htraces, ?_⟩
  rw [ready, show (m.fetched.traced host m.board.regs.pc w).instructions = m.instructions from
    congrArg Core.instructions hcore]
  rfl

/-- Passing on the effect of the word adds no trace. -/
theorem recorded_effected (host : Host s) (w : Word) (m : Machine κ τ s) :
    Recorded [] 0 m (m.effected host w) := by
  have hheard : (m.effected host w).heard = _ ++ m.heard :=
    heard_deliver host ((m.board.mapRegs (·.noting w)).effect (Instruction.ofWord w)) (m.executed w)
  have hcore : (m.effected host w).core = _ :=
    core_deliver host ((m.board.mapRegs (·.noting w)).effect (Instruction.ofWord w)) (m.executed w)
  refine .of_news _ hheard (fun e he => ?_) (congrArg Core.traces hcore) (congrArg Core.instructions hcore)
  generalize (m.board.mapRegs (·.noting w)).effect (Instruction.ofWord w) = effect at he
  cases effect with
  | tone on | awaitKey x =>
    obtain rfl := List.mem_singleton.mp he
    rfl
  | quiet | ignored w => cases he

/-- Telling of a finished picture adds no trace. -/
theorem recorded_announceFrame (host : Host s) (m : Machine κ τ s) :
    Recorded [] 0 m ((announceFrame host).exec m).2 := by
  have hcore := core_announceFrame host m
  have hheard := heard_announceFrame host m
  split at hheard
  · refine .of_news [_] hheard (fun e he => ?_) (congrArg Core.traces hcore)
      (congrArg Core.instructions hcore)
    obtain rfl := List.mem_singleton.mp he
    rfl
  · exact .of_same hheard (congrArg Core.traces hcore) (congrArg Core.instructions hcore)

/-- Looking for a pressed key adds no trace. -/
theorem recorded_pollKeys (host : Host s) (x : Fin 16) (m : Machine κ τ s) :
    Recorded [] 0 m ((pollKeys host x).exec m).2 := by
  obtain ⟨v, wait, hcore⟩ := core_pollKeys host x m
  have hheard := heard_pollKeys host x m
  split at hheard
  · exact .of_same hheard (congrArg Core.traces hcore) (congrArg Core.instructions hcore)
  · refine .of_news [_] hheard (fun e he => ?_) (congrArg Core.traces hcore)
      (congrArg Core.instructions hcore)
    obtain rfl := List.mem_singleton.mp he
    rfl

/-- A word that was counted was told of before. -/
theorem recorded_counted (host : Host s) (w : Word) {m : Machine κ τ s} (htracing : m.tracing = true) :
    Recorded [TraceEntry.of m.board.regs.pc w m.board.regs] 0 m (m.counted host w) := by
  obtain ⟨hheard, htraces, -⟩ :=
    (recorded_ready host w htracing).then_nothing (recorded_effected host w (m.ready host w))
  exact ⟨hheard, htraces, rfl⟩

section Ran

variable {host : Host s} {m t : Machine κ τ s} (hhalted : m.halted = false)
  (hservice : (serviceTimers host).exec m = (.ok (), t)) (hwait : t.wait = none)

include hhalted hservice hwait

/-- The instruction that is begun when the timers are serviced. -/
theorem begun_of_service :
    m.begun host = t.word?.map fun w => TraceEntry.of t.board.regs.pc w t.board.regs := by
  have hrunning : ¬m.halted = true := by
    rw [hhalted]
    decide
  unfold begun
  rw [if_neg hrunning, hservice]
  dsimp only
  rw [hwait]
  rfl

/-- A step that comes to its instruction pays the line that it owes, in whichever way the instruction ends. -/
theorem accounted_of_ran (htracing : m.tracing = true) {out : Except Failure Unit × Machine κ τ s}
    (hstep : (step host).exec m = out) (hran : Ran host t out) : Accounted host m := by
  have hticked := ticked_serviceTimers host m
  rw [hservice] at hticked
  have htraced : t.tracing = true := (congrArg Core.tracing hticked.core).trans htracing
  have hserviced : Recorded [] 0 m t := .of_ticked hticked
  have hbegun := begun_of_service hhalted hservice hwait
  have hword {w : Word} (hw : t.board.memory.WordAt t.board.regs.pc w) :
      m.begun host = some (TraceEntry.of t.board.regs.pc w t.board.regs) := by
    rw [hbegun, word?_eq_some_iff.mpr hw]
    rfl
  -- in all cases with a word the line is written before the word is executed, so it is there already
  have hready (w : Word) := hserviced.after_nothing (recorded_ready host w htraced)
  cases hran with
  | noWord past =>
    have hnone : m.begun host = none := by
      rw [hbegun, word?, Memory.word?_of_ge _ past]
      rfl
    refine .of_idle hstep hnone ?_ (hserviced.then_nothing (.of_same rfl rfl rfl))
    intro halt h
    cases h
    rfl
  | untraced fetched fails => exact .of_listener hstep (hword fetched) fails (hready _)
  | fault fetched fault =>
    exact .of_halt hstep (hword fetched) rfl ((hready _).then_nothing (.of_same rfl rfl rfl))
  | untold fetched fault fails told =>
    exact .of_listener hstep (hword fetched) fails ((hready _).then_nothing (recorded_effected host _ _))
  | @done w fetched fault =>
    rw [counted_eq] at hstep
    have hcounted := hserviced.after_nothing (recorded_counted host w htraced)
    exact .of_counted hstep (hword fetched) (announceFrame_fails host _)
      (hcounted.then_nothing (recorded_announceFrame host _))

end Ran

/-- Every step of a traced machine pays the line that it owes. -/
theorem accounted_step (host : Host s) {m : Machine κ τ s} (hb : m.Bounded) (htracing : m.tracing = true) :
    Accounted host m := by
  cases hhalted : m.halted with
  | true =>
    have hbegun : m.begun host = none := if_pos hhalted
    refine .of_idle (exec_step_of_halted host hhalted) hbegun ?_ (.refl m)
    intro halt h
    cases h
  | false =>
    have hrunning : ¬m.halted = true := by
      rw [hhalted]
      decide
    -- the line is written after the timers are serviced, so a step that does not get that far owes none
    have hticked := ticked_serviceTimers host m
    have hstepped := stepped_step host hb hhalted
    generalize hstep : (step host).exec m = out at hstepped
    cases hstepped with
    | unserviced service =>
      rw [service] at hticked
      have hbegun : m.begun host = none := by
        unfold begun
        rw [if_neg hrunning, service]
      refine .of_idle hstep hbegun ?_ (.of_ticked hticked)
      intro halt h
      cases h
      exact absurd rfl (serviceTimers_ne_halt service _)
    | polled service wait =>
      rw [service] at hticked
      have hbegun : m.begun host = none := by
        unfold begun
        rw [if_neg hrunning, service]
        dsimp only
        rw [wait]
        rfl
      refine .of_idle hstep hbegun ?_ ((Recorded.of_ticked hticked).then_nothing (recorded_pollKeys host _ _))
      intro halt h
      obtain ⟨⟨name, hname⟩, -⟩ := pollKeys_fails host _ _ _ h
      cases hname
    | ran service wait ran => exact accounted_of_ran hhalted service wait htracing hstep ran

end Machine

/-! ## Runs

The lines of a run are those of its steps, in order; what is missing in the count is what the machine halted
on and what listeners broke off. -/

namespace Turn

open Machine

variable [Seconds τ] [Clock κ τ] {host : Host s}

/-- The lines that steps of a list of turns owe the trace, in this order. -/
def begun (host : Host s) (xs : List (Turn κ)) (m : Machine κ τ s) : List TraceEntry :=
  (steps host xs m).filterMap (·.begun host)

/-- Turns that are no steps record nothing, unless they start the machine anew. -/
theorem recorded_of_ne {x : Turn κ} (hstep : x.kind ≠ .step) (hrestart : x.kind ≠ .restart)
    (m : Machine κ τ s) : Recorded [] 0 m (x.after host m) := by
  cases hkind : x.kind with
  | step => exact absurd hkind hstep
  | restart => exact absurd hkind hrestart
  | tick => exact .of_ticked (ticked_after host hkind m)
  | aside => exact .of_aside (aside_after host hkind m)

/-- How many instructions were begun and not counted: the machine halted on them, or a listener broke
    them off. -/
def uncounted (host : Host s) (xs : List (Turn κ)) (m : Machine κ τ s) : Nat :=
  (steps host xs m).countP (·.haltsOnWord host) + (steps host xs m).countP (·.breaksOff host)

theorem begun_step (xs : List (Turn κ)) (m : Machine κ τ s) :
    begun host (step :: xs) m = (m.begun host).toList ++ begun host xs (step.after host m) := by
  rw [begun, steps_step, List.filterMap_cons]
  cases m.begun host <;> rfl

theorem uncounted_step (xs : List (Turn κ)) (m : Machine κ τ s) :
    uncounted host (step :: xs) m =
      (m.haltsOnWord host).toNat + (m.breaksOff host).toNat + uncounted host xs (step.after host m) := by
  have hcount (b : Bool) : (if b = true then 1 else 0) = b.toNat := by cases b <;> rfl
  rw [uncounted, uncounted, steps_step, List.countP_cons, List.countP_cons, hcount, hcount]
  omega

/-- While the machine is traced, turns tell of what their steps begin and of nothing else, and keep it. The
    induction is over the turns: a step adds its line, and any other turn adds none. -/
theorem recorded_afterAll {xs : List (Turn κ)} (hxs : ∀ x ∈ xs, x.kind ≠ .restart) {m : Machine κ τ s}
    (hb : m.Bounded) (htracing : ∀ n ∈ steps host xs m, n.tracing = true) :
    Recorded (begun host xs m) (uncounted host xs m) m (afterAll host xs m) := by
  induction xs generalizing m with
  | nil => exact .refl m
  | cons x xs ih =>
    have hrest := @ih (fun y hy => hxs y (List.mem_cons_of_mem _ hy)) (x.after host m) (bounded_after host x hb)
    by_cases hx : x.kind = .step
    · obtain rfl := eq_step_of_kind hx
      rw [steps_step] at htracing
      have hstep := (accounted_step host hb (htracing m List.mem_cons_self)).recorded
      rw [begun_step, uncounted_step]
      exact hstep.trans (hrest fun n hn => htracing n (List.mem_cons_of_mem _ hn))
    · -- a turn that is no step adds nothing to what is owed either
      have hsteps : steps host (x :: xs) m = steps host xs (x.after host m) := steps_of_ne hx host xs m
      rw [hsteps] at htracing
      unfold begun uncounted at hrest ⊢
      rw [hsteps]
      exact (recorded_of_ne hx (hxs x List.mem_cons_self) m).after_nothing (hrest htracing)

/-- What turns of a kind keep, holds in the end and whenever a step is made. -/
theorem holds_along {Allowed : Turn κ → Prop} {I : Machine κ τ s → Prop}
    (hkeeps : ∀ x m, Allowed x → I m → I (x.after host m)) {xs : List (Turn κ)} (hxs : ∀ x ∈ xs, Allowed x)
    {m : Machine κ τ s} (h : I m) : I (afterAll host xs m) ∧ ∀ n ∈ steps host xs m, I n := by
  induction xs generalizing m with
  | nil => exact ⟨h, fun n hn => absurd hn List.not_mem_nil⟩
  | cons x xs ih =>
    obtain ⟨hend, hrest⟩ := ih (fun y hy => hxs y (List.mem_cons_of_mem _ hy))
      (hkeeps x m (hxs x List.mem_cons_self) h)
    -- the machine at hand is the first of those that make steps, if the turn is a step
    refine ⟨hend, ?_⟩
    intro n hn
    by_cases hx : x.kind = .step
    · obtain rfl := eq_step_of_kind hx
      rw [steps_step] at hn
      rcases List.mem_cons.mp hn with rfl | hn
      · exact h
      · exact hrest n hn
    · rw [steps_of_ne hx] at hn
      exact hrest n hn

theorem bounded_of_mem_steps {xs : List (Turn κ)} {m n : Machine κ τ s} (hb : m.Bounded)
    (hn : n ∈ steps host xs m) : n.Bounded := by
  have hkeeps (x : Turn κ) (m : Machine κ τ s) (_ : True) (hm : m.Bounded) := bounded_after host x hm
  exact (holds_along hkeeps (fun _ _ => trivial) hb).2 n hn

/-- A halted machine stays halted until it is started anew. -/
theorem halted_after (host : Host s) {x : Turn κ} (hx : x.kind ≠ .restart) {m : Machine κ τ s}
    (h : m.halted = true) : (x.after host m).halted = true := by
  cases x with
  | call c single =>
    refine halted_call c ?_ m h
    cases c with
    | load program | reset => exact absurd rfl hx
    | _ => rfl
  | service =>
    exact keeps_serviceTimers (fun _ => halted_emit_of_halted _)
      (fun m t hm h => h.halted_eq.trans hm) m h
  | pollPace => exact (aside_after host rfl m).halted.trans h
  | signal change => exact h

/-- Once the machine is halted, no step that comes later halts on a word. -/
theorem halted_afterAll (host : Host s) {xs : List (Turn κ)} (hxs : ∀ x ∈ xs, x.kind ≠ .restart)
    {m : Machine κ τ s} (h : m.halted = true) :
    (afterAll host xs m).halted = true ∧ ∀ n ∈ steps host xs m, n.haltsOnWord host = false := by
  obtain ⟨hend, hsteps⟩ := holds_along (fun x m hx hm => halted_after host (m := m) hx hm) hxs h
  refine ⟨hend, ?_⟩
  intro n hn
  unfold haltsOnWord
  rw [exec_step_of_halted host (hsteps n hn)]

/-- A list of turns halts the machine on a word at most once, and leaves it halted then. -/
theorem countP_haltsOnWord {xs : List (Turn κ)} (hxs : ∀ x ∈ xs, x.kind ≠ .restart) {m : Machine κ τ s}
    (haccounted : ∀ n ∈ steps host xs m, Accounted host n) :
    (steps host xs m).countP (·.haltsOnWord host) = ((steps host xs m).any (·.haltsOnWord host)).toNat ∧
      ((steps host xs m).any (·.haltsOnWord host) = true → (afterAll host xs m).halted = true) := by
  induction xs generalizing m with
  | nil => exact ⟨rfl, fun h => Bool.noConfusion h⟩
  | cons x xs ih =>
    have hothers : ∀ y ∈ xs, y.kind ≠ .restart := fun y hy => hxs y (List.mem_cons_of_mem _ hy)
    by_cases hx : x.kind = .step
    · obtain rfl := eq_step_of_kind hx
      rw [steps_step] at haccounted ⊢
      rw [List.countP_cons, List.any_cons]
      cases hhalts : m.haltsOnWord host with
      | true =>
        -- there is nothing more to halt
        have hhalted := (haccounted m List.mem_cons_self).halts hhalts
        obtain ⟨hend, hnone⟩ := halted_afterAll host hothers hhalted
        have hcount : (steps host xs (step.after host m)).countP (·.haltsOnWord host) = 0 :=
          List.countP_eq_zero.mpr fun n hn => by rw [hnone n hn]; decide
        rw [hcount]
        exact ⟨rfl, fun _ => hend⟩
      | false => exact ih hothers fun n hn => haccounted n (List.mem_cons_of_mem _ hn)
    · have hsteps : steps host (x :: xs) m = steps host xs (x.after host m) := steps_of_ne hx host xs m
      rw [hsteps] at haccounted ⊢
      exact ih hothers haccounted

/-- What is shown of an instruction is within bounds. -/
theorem sound_of_mem_begun {xs : List (Turn κ)} {m : Machine κ τ s} (hb : m.Bounded) {e : TraceEntry}
    (he : e ∈ begun host xs m) : e.Sound := by
  obtain ⟨n, hn, hbegun⟩ := List.mem_filterMap.mp he
  have hserviced := bounded_serviceTimers host n (bounded_of_mem_steps hb hn)
  -- a line is written only of a machine that runs, was serviced and does not wait
  unfold Machine.begun at hbegun
  split at hbegun
  · cases hbegun
  · generalize (serviceTimers host).exec n = out at hserviced hbegun
    obtain ⟨answer, t⟩ := out
    cases answer with
    | error e => cases hbegun
    | ok a =>
      dsimp only at hserviced hbegun
      split at hbegun
      · cases hbegun
      · obtain ⟨w, hw, rfl⟩ := Option.map_eq_some_iff.mp hbegun
        have hpc := hserviced.counter
        exact TraceEntry.sound_of (by omega) hserviced w

end Turn

/-! ## Since a restart

A machine that starts anew has no traces and has counted nothing, so from then on the accounts are complete.
-/

variable [Seconds τ] [Clock κ τ]

namespace Machine

/-- Machines that start anew: those that are built, and those that are reset or loaded with success. -/
inductive Restarted (host : Host s) : Machine κ τ s → Prop
  | create (settings : Settings τ) (clock : κ) (noise : Nat → UInt8) :
    Restarted host (create settings clock noise)
  | call {c : Call κ} (restarts : c.restarts = true) {m t : Machine κ τ s}
    (succeeds : (c.act host).exec m = (.ok (), t)) : Restarted host t

/-- A reset that comes to its end has counted nothing yet and keeps no trace. -/
theorem fresh_of_reset {host : Host s} {m t : Machine κ τ s} (h : (reset host).exec m = (.ok (), t)) :
    t.instructions = 0 ∧ t.traces = [] := by
  have hreset := afterReset_reset host m
  rw [h] at hreset
  cases hreset with
  | @done u tone core =>
    have hcore := (restarted_frame u).1
    exact ⟨congrArg Core.instructions hcore, congrArg Core.traces hcore⟩

/-- A machine that was just restarted is within its bounds, has counted no instruction and has no traces. -/
theorem Restarted.fresh {host : Host s} {t : Machine κ τ s} (h : t.Restarted host) :
    t.Bounded ∧ t.instructions = 0 ∧ t.traces = [] := by
  cases h with
  | create settings clock noise =>
    have hcore : (Machine.create settings clock noise : Machine κ τ s).core = _ :=
      core_create settings clock noise
    exact ⟨bounded_create settings clock noise, congrArg Core.instructions hcore, congrArg Core.traces hcore⟩
  | @call c restarts m _ succeeds =>
    have hbounded {program : Program} (h : ((c.act host).exec m).2.board = powered program m.board) :
        t.Bounded := by
      rw [succeeds] at h
      unfold Bounded
      rw [h]
      exact Registers.sound_initial
    cases c with
    | reset => exact ⟨hbounded (board_reset host m), fresh_of_reset succeeds⟩
    | load program =>
      refine ⟨hbounded (board_load host program m), ?_⟩
      rw [Call.act, load, Act.exec_modify_bind, Act.exec_bind] at succeeds
      generalize hreset : (reset host).exec { m with program } = out at succeeds
      obtain ⟨answer, u⟩ := out
      cases answer with
      | error e => cases succeeds
      | ok a =>
        -- a record is added to the log, and that is all
        have hfresh := fresh_of_reset hreset
        obtain rfl : u.note _ _ = t := congrArg Prod.snd succeeds
        exact hfresh
    | _ => cases restarts

end Machine

/-- What traces come to in a run of a machine that is traced. -/
structure Turn.TracesComplete (host : Host s) (xs : List (Turn κ)) (m : Machine κ τ s) : Prop where
  /-- The traces that listeners hear, the latest first, are the lines that the steps owe. -/
  heard : ∃ news, (Turn.afterAll host xs m).heard = news ++ m.heard ∧
    news.filterMap Event.entry? = (Turn.begun host xs m).reverse
  /-- There is one line for each instruction that was counted, one for the instruction that the machine halted
      on, and one for each that a listener broke off. -/
  count : (Turn.begun host xs m).length = (Turn.afterAll host xs m).instructions +
    ((Turn.steps host xs m).any (·.haltsOnWord host)).toNat +
    (Turn.steps host xs m).countP (·.breaksOff host)
  /-- A machine with a step that halted on a word is halted in the end. -/
  halted : (Turn.steps host xs m).any (·.haltsOnWord host) = true → (Turn.afterAll host xs m).halted = true
  /-- Nothing is broken off where no listener fails. -/
  unbroken : host.NeverFails → (Turn.steps host xs m).countP (·.breaksOff host) = 0
  /-- The latest lines are kept. -/
  kept : (Turn.afterAll host xs m).traces.reverse = (Turn.begun host xs m).drop
    ((Turn.begun host xs m).length - min traceCapacity (Turn.begun host xs m).length)
  /-- Each line shows its entry: within the bounds of registers no other looks the same. -/
  legible : ∀ e ∈ Turn.begun host xs m, ∀ e' : TraceEntry, e'.Sound → e'.text = e.text → e' = e
  /-- Each line names the instruction after its place and its word. -/
  named : ∀ e ∈ Turn.begun host xs m, (mnemonic e.word).toList <+: e.text.toList.drop 12

/-- What tracing makes of calls that are made of two machines: they answer the same and take the same turns,
    and after any of them the machines are the same but for their traces. -/
structure Call.TracesInert (host : Host s) (cs cs' : List (Call κ)) (m t : Machine κ τ s) : Prop where
  answers : Call.answers host cs m = Call.answers host cs' t
  turns : List.Forall₂ Turn.ButForTracing (Call.allTurns host cs m) (Call.allTurns host cs' t)
  machines : ∀ n, (Turn.afterAll host ((Call.allTurns host cs m).take n) m).ButForTraces
    (Turn.afterAll host ((Call.allTurns host cs' t).take n) t)

/-- The traces of a run since a restart are complete if it is traced throughout. -/
theorem Turn.tracesComplete {host : Host s} {xs : List (Turn κ)} {m : Machine κ τ s}
    (hm : m.Restarted host) (hxs : ∀ x ∈ xs, x.kind ≠ .restart)
    (htracing : ∀ n ∈ Turn.steps host xs m, n.tracing = true) : Turn.TracesComplete host xs m := by
  obtain ⟨hb, hinstructions, htraces⟩ := hm.fresh
  have hrecorded := recorded_afterAll hxs hb htracing
  have haccounted : ∀ n ∈ Turn.steps host xs m, Machine.Accounted host n := fun n hn =>
    Machine.accounted_step host (bounded_of_mem_steps hb hn) (htracing n hn)
  -- of all the steps at most one halts on a word, so the count of those is a yes or no
  obtain ⟨hhalts, hhalted⟩ := countP_haltsOnWord hxs haccounted
  refine ⟨hrecorded.heard, ?_, hhalted, ?_, ?_, ?_, ?_⟩
  · have hcount := hrecorded.instructions
    rw [hinstructions, uncounted, hhalts] at hcount
    omega
  · intro hfails
    exact List.countP_eq_zero.mpr fun n hn hbreaks => (haccounted n hn).breaks hbreaks hfails
  · rw [hrecorded.traces, htraces, reverse_keptTraces]
  · intro e he e' hsound htext
    exact TraceEntry.eq_of_text_eq hsound (sound_of_mem_begun hb he) htext
  · intro e he
    exact (sound_of_mem_begun hb he).mnemonic_after_word

/-- Two runs that differ in whether they are traced go the same way otherwise. -/
theorem Call.tracesInert {host : Host s} (hhost : host.IgnoresTraces) {cs cs' : List (Call κ)}
    (hcs : List.Forall₂ Call.ButForTracing cs cs') {m t : Machine κ τ s} (h : m.ButForTraces t) :
    Call.TracesInert host cs cs' m t := by
  obtain ⟨hturns, hanswers⟩ := allTurns_butForTracing hhost hcs h
  refine ⟨hanswers, hturns, ?_⟩
  intro n
  exact Turn.butForTraces_afterAll hhost (List.forall₂_take n hturns) h

/-- Traces are complete and make no difference. In a run since a restart, instructions being traced
    throughout, listeners hear of every instruction that is begun and of no other, and the latest are kept.
    Two runs that differ only in whether instructions are traced go the same way otherwise, if listeners
    only take note of traces. -/
theorem Machine.traces_complete_and_inert (host : Host s) :
    (∀ (xs : List (Turn κ)) (m : Machine κ τ s), m.Restarted host → (∀ x ∈ xs, x.kind ≠ .restart) →
      (∀ n ∈ Turn.steps host xs m, n.tracing = true) → Turn.TracesComplete host xs m) ∧
    (host.IgnoresTraces → ∀ (cs cs' : List (Call κ)) (m t : Machine κ τ s),
      List.Forall₂ Call.ButForTracing cs cs' → m.ButForTraces t → Call.TracesInert host cs cs' m t) := by
  constructor
  · intro xs m hm hxs htracing
    exact Turn.tracesComplete hm hxs htracing
  · intro hhost cs cs' m t hcs h
    exact Call.tracesInert hhost hcs h

/-- The listener of a session takes note of traces at most. -/
theorem CommandLine.ignoresTraces_listener (o : CommandLine.Options) (s : Size) :
    (CommandLine.listener o s).IgnoresTraces := by
  constructor
  · intro heard entry
    by_cases htrace : o.trace = true
    · exact ⟨[⟨.debug, entry.text⟩], if_pos htrace⟩
    · exact ⟨[], if_neg htrace⟩
  · intro heard heard' event _ _
    rfl

/-- A session on a new machine, of which two steps are traced, and one that goes on in a run and is traced
    or not. -/
theorem Machine.traces_complete_and_inert_session :
    Turn.TracesComplete (CommandLine.listener { rom := "", trace := true } .standard)
        [.call (.switch false true) rfl, .step, .call (.switch false true) rfl, .step] still ∧
      Call.TracesInert (CommandLine.listener { rom := "", trace := true } .standard)
        [.switch false true, .step, .run id 3] [.switch false false, .step, .run id 3] still still := by
  obtain ⟨hcomplete, hinert⟩ :=
    traces_complete_and_inert (κ := ManualClock Rat) (τ := Rat)
      (CommandLine.listener { rom := "", trace := true } .standard)
  refine ⟨hcomplete _ _ (.create _ _ _) ?_ ?_, hinert (CommandLine.ignoresTraces_listener _ _) _ _ _ _ ?_ ?_⟩
  · decide
  · -- tracing was switched on right before each of the steps
    intro n hn
    change n ∈ [_, _] at hn
    rcases List.mem_cons.mp hn with rfl | hn
    · rfl
    · obtain rfl := List.mem_singleton.mp hn
      rfl
  · exact .cons (.switch false true false) (.cons (.same _) (.cons (.same _) .nil))
  · exact .refl _

end Chip8
