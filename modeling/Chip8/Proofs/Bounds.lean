import Chip8.Proofs.Reach
/-!
The bounds that a machine keeps over whole runs.

A machine has numbers that its types do not bound: the program counter, the index register, the stack pointer
and the timers are whole numbers, as are the addresses that are computed from them. And it has two switches,
the halt and the wait for a key, that must not be on at once.

1. **Invariants** — the registers are sound (`Bounded`, kept by every call: `Chip8.Proofs.Reach`), and a
   machine that is halted waits for no key (`Settled`). A wait begins at the end of an instruction that came
   to its end, and a halt ends an instruction before that; so the two cannot meet in one step. A listener
   could halt a machine that just began to wait, hence the assumption that listeners do not
   (`Host.NeverHalts`).

2. **Steps and calls** — `settled_step` goes through the ways of a step, and the others keep the halt or end
   the wait. By induction on how a machine was reached it is always settled (`Reachable.settled`).

3. **Bounds** — the two invariants give every bound of the machine (`WithinBounds`). With exact time and
   listeners that do not fail, a step has no failure but a halt (`step_fails`): there is no state in which it
   runs out of the ways that are foreseen. That the state which a machine tells agrees with the register that
   waits even if both are kept apart is the subject of `Chip8.Proofs.Awaiting`.
-/

namespace Chip8

variable {κ τ : Type} {s : Size} [Seconds τ] [Clock κ τ]

namespace Machine

/-! ## Halted machines do not wait

A machine that waits runs no instruction, so only a listener can halt it. Where no listener does, a machine
is never both halted and waiting: that is `Settled`, and every call keeps it. -/

/-- A machine that is halted waits for no key. -/
def Settled (m : Machine κ τ s) : Prop := m.halted = true → m.wait = none

omit [Seconds τ] [Clock κ τ] in
theorem Settled.of_change {m t : Machine κ τ s} (hm : m.Settled) (h : TimerChange m t) :
    t.Settled := by
  intro ht
  rw [h.wait_eq]
  exact hm (h.halted_eq.symm.trans ht)

section NeverHalts

variable {host : Host s} (hhost : host.NeverHalts)

include hhost

/-- The halts of a machine are its own: telling listeners does not halt it. -/
theorem halted_emit_of_neverHalts (event : Event s) (m : Machine κ τ s) :
    ((emit host event).exec m).2.halted = m.halted := by
  rw [halted_emit, hhost, Bool.or_false]

theorem halted_deliver (e : Effect) (m : Machine κ τ s) :
    ((deliver host e).exec m).2.halted = m.halted := by
  cases e with
  | quiet => rfl
  | tone on => exact halted_emit_of_neverHalts hhost _ m
  | awaitKey x => exact halted_emit_of_neverHalts hhost _ { m with wait := some x }
  | ignored w => rfl

theorem halted_traced (pc : Int) (w : Word) (m : Machine κ τ s) :
    (m.traced host pc w).halted = m.halted := by
  unfold traced
  split
  · rw [traceWord, Act.exec_get_bind, Act.exec_modify_bind, halted_emit_of_neverHalts hhost]
  · rfl

theorem halted_announceFrame (m : Machine κ τ s) :
    ((announceFrame host).exec m).2.halted = m.halted := by
  rw [exec_announceFrame]
  split
  · exact halted_emit_of_neverHalts hhost _ _
  · rfl

theorem settled_emit (event : Event s) : Act.Keeps (Settled (κ := κ) (τ := τ)) (emit host event) := by
  intro m hm h
  rw [halted_emit_of_neverHalts hhost] at h
  exact (congrArg Core.wait (core_emit host event m)).trans (hm h)

/-- A running machine that waits for no key settles, whatever its instruction comes to. -/
theorem Ran.settled {m : Machine κ τ s} (hhalted : m.halted = false) (hwait : m.wait = none)
    {out : Except Failure Unit × Machine κ τ s} (h : Ran host m out) : out.2.Settled := by
  have hready (w : Word) : (m.ready host w).halted = false ∧ (m.ready host w).wait = none := by
    obtain ⟨traces, hcore⟩ := m.fetched.core_traced host m.board.regs.pc w
    exact ⟨(halted_traced hhost _ w _).trans hhalted, (congrArg Core.wait hcore).trans hwait⟩
  have heffected (w : Word) : ((m.ready host w).effected host w).halted = false :=
    (halted_deliver hhost _ _).trans (hready w).1
  intro hout
  cases h with
  -- these end before the effect of the word, so no wait has begun
  | noWord past => exact hwait
  | untraced fetched fails => exact (hready _).2
  | fault fetched fault => exact (hready _).2
  -- these may have begun a wait, and are not halted
  | untold fetched fault fails =>
    rw [heffected] at hout
    cases hout
  | done fetched fault =>
    rw [halted_announceFrame hhost] at hout
    exact absurd ((heffected _).symm.trans hout) (by decide)

theorem settled_serviceTimers : Act.Keeps (Settled (κ := κ) (τ := τ)) (serviceTimers host) :=
  keeps_serviceTimers (fun _ => settled_emit hhost _) fun _ _ hm h => hm.of_change h

/-- A poll of the keys leaves the machine settled, whether it ends the wait or not. -/
theorem settled_pollKeys (x : Fin 16) :
    Act.Keeps (Settled (κ := κ) (τ := τ)) (pollKeys host x) := by
  refine .bind .get fun m => ?_
  split
  · exact .pure ()
  · -- the key ends the wait
    refine .bind (.modify fun t ht => ht) fun _ => ?_
    exact .bind (.modify fun t ht _ => rfl) fun _ => settled_emit hhost _

theorem settled_setTone (on : Bool) : Act.Keeps (Settled (κ := κ) (τ := τ)) (setTone host on) :=
  keeps_setTone (fun _ => settled_emit hhost _) (fun _ _ hm h => hm.of_change h) on

theorem settled_tick : Act.Keeps (Settled (κ := κ) (τ := τ)) (tick host) :=
  keeps_tick (fun _ => settled_emit hhost _) fun _ _ hm h => hm.of_change h

theorem halted_serviceTimers {halted : Bool} :
    Act.Keeps (fun m : Machine κ τ s => m.halted = halted) (serviceTimers host) := by
  refine keeps_serviceTimers (fun on m hm => ?_) fun m t hm h => h.halted_eq.trans hm
  exact (halted_emit_of_neverHalts hhost _ m).trans hm

theorem halted_tick {halted : Bool} :
    Act.Keeps (fun m : Machine κ τ s => m.halted = halted) (tick host) := by
  refine keeps_tick (fun on m hm => ?_) fun m t hm h => h.halted_eq.trans hm
  exact (halted_emit_of_neverHalts hhost _ m).trans hm

/-- A restart ends the wait, and it comes to that unless a listener fails before; then neither the wait nor the
    halt has changed. -/
theorem settled_reset : Act.Keeps (Settled (κ := κ) (τ := τ)) (reset host) := by
  refine keeps_reset ?_ (settled_setTone hhost false) ?_ ?_
  · intro m t _ hwait hhalted hm h
    rw [hwait]
    exact hm (hhalted.symm.trans h)
  · intro m t hm _ hwait hhalted h
    rw [hwait]
    exact hm (hhalted.symm.trans h)
  · intro m t _ _ hwait _ _
    exact hwait

/-- A step keeps a machine settled. The bounds are needed beside it, for only a machine within them runs an
    instruction in one of the ways of `Ran`. -/
theorem settled_step : Act.Keeps (fun m : Machine κ τ s => m.Bounded ∧ m.Settled) (step host) := by
  rintro m ⟨hb, hm⟩
  refine ⟨bounded_step host m hb, ?_⟩
  cases hhalted : m.halted with
  | true =>
    rw [exec_step_of_halted host hhalted]
    exact hm
  | false =>
    have hst := settled_serviceTimers hhost m hm
    have hht := halted_serviceTimers hhost m hhalted
    have h := stepped_step host hb hhalted
    -- the ways of a step: in the first the wait is as it was, in the second it may end, in the third there
    -- is none
    generalize (step host).exec m = out at h ⊢
    cases h with
    | unserviced service =>
      rw [service] at hst
      exact hst
    | polled service wait =>
      rw [service] at hst
      exact settled_pollKeys hhost _ _ hst
    | ran service wait ran =>
      rw [service] at hht
      exact ran.settled hhost hht wait

/-- No machine waits for a key while it is halted, as long as no listener halts it. The invariant is the bounds
    together with this, since a step needs both. -/
theorem Reachable.settled {m : Machine κ τ s} (h : Reachable host m) : m.Settled := by
  have hinv : m.Bounded ∧ m.Settled := by
    refine h.invariant (P := fun m => m.Bounded ∧ m.Settled) (fun settings clock noise => ⟨?_, ?_⟩)
      fun c => ?_
    · exact (Reachable.create settings clock noise : Reachable host _).bounded
    · exact settled_reset Host.inert_neverHalts _ fun _ => rfl
    · refine keeps_call ?_ (settled_step hhost) ?_ ?_ c fun _ => ?_
      · intro m t hregs hwait hhalted hm
        refine ⟨hm.1.of_regs hregs, fun h => ?_⟩
        rw [hwait]
        exact hm.2 (hhalted.symm.trans h)
      · exact .and (bounded_serviceTimers host) (settled_serviceTimers hhost)
      · exact .and (bounded_tick host) (settled_tick hhost)
      · exact .and (bounded_reset host) (settled_reset hhost)
  exact hinv.2

end NeverHalts

/-! ## Failures of a step

A step of a machine within its bounds fails with a halt or with a listener, as long as the periods that are
due have a number. -/

/-- A poll for a key fails only with the failure of a listener. -/
theorem pollKeys_fails (host : Host s) (x : Fin 16) :
    Act.FailsWith host.MayFail (pollKeys host x : Act (Machine κ τ s) Unit) := by
  refine .bind .get fun m => ?_
  split
  · exact .pure ()
  · exact .bind (.modify _) fun _ => .bind (.modify _) fun _ => emit_fails host _

/-- If the periods due have a number, a step has no failure but a halt and those of listeners. -/
theorem step_fails (host : Host s) {m : Machine κ τ s} (hm : m.Bounded) {due : Int}
    (hdue : (pollTimer.exec m).1 = .ok due) {e : Failure} (he : ((step host).exec m).1 = .error e) :
    (∃ halt, e = .halt halt) ∨ host.MayFail e := by
  cases hhalted : m.halted with
  | true =>
    rw [exec_step_of_halted host hhalted] at he
    cases he
  | false =>
    have h := stepped_step host hm hhalted
    generalize (step host).exec m = out at h he
    -- each way has its own failures; those of the clock are excluded by the hypothesis
    cases h with
    | unserviced service =>
      obtain rfl := Except.error.inj he
      exact Or.inr (serviceTimers_of_poll_ok host hdue (congrArg Prod.fst service))
    | polled service wait => exact Or.inr (pollKeys_fails host _ _ e he)
    | ran service wait ran => exact ran.fails he

/-! ## All bounds

The two invariants together, in terms of the ranges that are promised. -/

/-- The bounds of a machine. Those that its types give it are spelled out here as well, so that the list is
    complete. -/
structure WithinBounds (m : Machine κ τ s) : Prop where
  bytes : ∀ x : Fin 16, (m.board.regs.get x).toNat ≤ 255
  /-- The program counter, the index register, the stack pointer and the timers are within their ranges. -/
  registers : m.board.regs.Sound
  /-- Fetching and skipping do not start the program counter over. -/
  counter : ∀ d : Int, 0 ≤ d → d ≤ 4 → (m.board.regs.pc + d) % 65536 = m.board.regs.pc + d
  /-- A stack cell holds the return address of a call as it is. -/
  address : ((UInt16.ofNat (m.board.regs.pc + 2).toNat).toNat : Int) = m.board.regs.pc + 2
  memory : m.board.memory.cells.toList.length = 4096 ∧
    ∀ b ∈ m.board.memory.cells.toList, b.toNat ≤ 255
  pixels : m.board.display.grid.toList.length = s.height ∧
    ∀ row ∈ m.board.display.grid.toList, row.toList.length = s.width
  /-- The state is read off the register that waits. -/
  awaiting : m.status = "AwaitingKey" ↔ ∃ x, m.wait = some x ∧ x.val < 16
  halted : m.halted = true → m.status = "Running"

omit [Seconds τ] [Clock κ τ] in
/-- The bounds of a machine are those of its registers and what being settled says. -/
theorem withinBounds_of_settled {m : Machine κ τ s} (hb : m.Bounded) (hm : m.Settled) :
    m.WithinBounds := by
  -- adding up to four to the counter, or two for a return address, stays below the end of a word
  have hpc := hb.counter
  refine ⟨?_, hb, ?_, ?_, ⟨by simp, ?_⟩, ⟨by simp, ?_⟩, ?_, ?_⟩
  · intro x
    have := (m.board.regs.get x).toNat_lt
    omega
  · intro d h0 h4
    exact Int.emod_eq_of_lt (by omega) (by omega)
  · rw [UInt16.toNat_ofNat', Nat.mod_eq_of_lt (by omega)]
    omega
  · intro b _
    have := b.toNat_lt
    omega
  · intro row _
    simp
  · unfold status
    cases m.wait with
    | none => simp
    | some x => simp
  · intro h
    rw [status, hm h]
    rfl

/-- Whatever calls lead to a machine, it is within its bounds, and a step of it has no failure but a
    halt. Time is exact here: the periods due always have a number. -/
theorem Reachable.withinBounds [ExactTime τ] {host : Host s} (hfails : host.NeverFails)
    (hhalts : host.NeverHalts) {m : Machine κ τ s} (h : Reachable host m) :
    m.WithinBounds ∧ ∀ e, ((step host).exec m).1 = .error e → ∃ halt, e = .halt halt := by
  refine ⟨withinBounds_of_settled h.bounded (h.settled hhalts), ?_⟩
  intro e he
  obtain ⟨due, hdue⟩ := pollTimer_ok m
  rcases step_fails host h.bounded hdue he with hhalt | ⟨-, hmay⟩
  · exact hhalt
  · exact absurd hfails hmay

/-- A machine that stepped once in a program that jumps to itself. -/
theorem withinBounds_stepped :
    (Call.step.after Host.inert (loaded ⟨"", [0x12, 0x00], by decide⟩)).WithinBounds ∧
      ∀ e, ((step Host.inert).exec
        (Call.step.after Host.inert (loaded ⟨"", [0x12, 0x00], by decide⟩))).1 = .error e →
          ∃ halt, e = .halt halt :=
  Reachable.withinBounds Host.inert_neverFails Host.inert_neverHalts (.call _ (reachable_loaded _))

end Machine

end Chip8
