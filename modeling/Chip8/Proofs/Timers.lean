import Chip8.Machine.Step
import Chip8.Proofs.Executing
/-!
What servicing the timers does to a machine.

Servicing the timers polls the clock and makes as many timer periods as are due, each of which may tell
listeners of the tone; it may fail at any of these. Every step begins with it.

1. **Induction** — it is made of a few kinds of changes (`TimerChange`) and of events about the tone. Whatever
   they keep is kept by a timer period and by servicing the timers, also where a listener fails in between
   (`keeps_tick`, `keeps_serviceTimers`).

2. **Frame** — `Machine.Ticked m t` sums the changes up: `t` is `m` but for the two timers, the tone and the
   time (`ticked_serviceTimers`).

3. **Failures** — servicing fails over the number of the periods due or with the failure of a listener
   (`serviceTimers_fails`). In exact time the periods always have a number (`ExactTime`).
-/

namespace Chip8

variable {κ τ : Type} {s : Size}

/-- A poll changes no more of a cadence than the count of the periods that were given out. -/
theorem Cadence.eq_of_due [Seconds τ] [Clock κ τ] {c c' : Cadence τ} {clock : κ} {n : Int}
    (h : (c.due clock).1 = .ok (n, c')) : ∃ consumed, c' = { c with consumed } := by
  unfold due at h
  dsimp only at h
  split at h
  · cases h
  · cases h
    exact ⟨_, rfl⟩

namespace Machine

/-- The changes that servicing the timers is made of. A property that survives each of them, and events of the
    tone, survives any service of the timers, however far it got. -/
inductive TimerChange (m : Machine κ τ s) : Machine κ τ s → Prop
  | sound (pos : 0 < m.board.regs.sound) :
    TimerChange m (m.mapRegs fun r => { r with sound := r.sound - 1 })
  | delay (pos : 0 < m.board.regs.delay) :
    TimerChange m (m.mapRegs fun r => { r with delay := r.delay - 1 })
  | tone (on : Bool) : TimerChange m { m with board := { m.board with tone := on } }
  | period : TimerChange m { m with ticks := m.ticks + 1 }
  | clock (clock : κ) : TimerChange m { m with clock }
  | cadence (consumed : Int) :
    TimerChange m { m with timerCadence := { m.timerCadence with consumed } }

namespace TimerChange

variable {m t : Machine κ τ s}

theorem halted_eq (h : TimerChange m t) : t.halted = m.halted := by
  cases h <;> rfl

theorem wait_eq (h : TimerChange m t) : t.wait = m.wait := by
  cases h <;> rfl

end TimerChange

/-- A poll moves the clock on, and the cadence if the periods due have a number. -/
theorem exec_pollTimer [Seconds τ] [Clock κ τ] (m : Machine κ τ s) :
    pollTimer.exec m =
      match m.timerCadence.due m.clock with
      | (.error e, clock) => (.error (.time e), { m with clock })
      | (.ok (due, timerCadence), clock) => (.ok due, { m with timerCadence, clock }) := by
  rw [pollTimer, Act.exec_get_bind]
  dsimp only
  generalize m.timerCadence.due m.clock = out
  obtain ⟨answer, clock⟩ := out
  cases answer <;> rfl

section Keeps

variable [Seconds τ] [Clock κ τ] {host : Host s} {P : Machine κ τ s → Prop}
  (htone : ∀ on, Act.Keeps P (emit host (.tone on)))
  (hchange : ∀ m t, P m → TimerChange m t → P t)

include htone hchange

theorem keeps_setTone (on : Bool) : Act.Keeps P (setTone host on) := by
  intro m hm
  have hset := hchange m _ hm (.tone on)
  rw [exec_setTone]
  split
  · exact hset
  · exact htone on _ hset

/-- What the changes keep, a timer period keeps. -/
theorem keeps_tick : Act.Keeps P (tick host) := by
  have hperiod : Act.Keeps P (modify fun m : Machine κ τ s => { m with ticks := m.ticks + 1 }) :=
    .modify fun m hm => hchange m _ hm .period
  have hdelay : Act.Keeps P (modify (mapRegs fun r : Registers =>
      if 0 < r.delay then { r with delay := r.delay - 1 } else r) : Act (Machine κ τ s) PUnit) := by
    refine .modify fun m hm => ?_
    by_cases h : 0 < m.board.regs.delay
    · have hset := hchange m _ hm (.delay h)
      simp only [mapRegs, Board.mapRegs, h, if_true] at hset ⊢
      exact hset
    · simp only [mapRegs, Board.mapRegs, h, if_false]
      exact hm
  have hrest (on : Bool) : Act.Keeps P (do
      setTone host on
      modify (mapRegs fun r => if 0 < r.delay then { r with delay := r.delay - 1 } else r)
      modify fun m => { m with ticks := m.ticks + 1 }) :=
    .bind (keeps_setTone htone hchange on) fun _ => .bind hdelay fun _ => hperiod
  -- the sound timer may go down only where it was seen to run
  refine .get_bind fun m hm => ?_
  dsimp only
  split
  · next h => exact hrest _ _ (hchange m _ hm (.sound h))
  · exact hrest false m hm

theorem keeps_tickTimes (n : Nat) : Act.Keeps P (tickTimes host n) := by
  induction n with
  | zero => exact .pure ()
  | succ n ih => exact .bind (keeps_tick htone hchange) fun _ => ih

omit htone in
theorem keeps_pollTimer : Act.Keeps P pollTimer := by
  intro m hm
  have hclock := hchange m _ hm (.clock (m.timerCadence.due m.clock).2)
  rw [exec_pollTimer]
  generalize hdue : m.timerCadence.due m.clock = out at hclock ⊢
  obtain ⟨answer, clock⟩ := out
  cases answer with
  | error e => exact hclock
  | ok due =>
    obtain ⟨consumed, hcadence⟩ := Cadence.eq_of_due (congrArg Prod.fst hdue)
    dsimp only
    rw [hcadence]
    exact hchange _ _ hclock (.cadence consumed)

/-- What the changes keep, servicing the timers keeps. -/
theorem keeps_serviceTimers : Act.Keeps P (serviceTimers host) :=
  .bind (keeps_pollTimer hchange) fun due => keeps_tickTimes htone hchange due.toNat

end Keeps

/-! ## The state left by timer periods

What timer periods leave alone, as an equation of what remains when timers, tone and time are taken away. -/

end Machine

/-- Registers without the timers. -/
def Registers.untimed (r : Registers) : Registers := { r with delay := 0, sound := 0 }

/-- A core without what timer periods change. -/
def Core.untimed (c : Core s) : Core s :=
  { c with board := { c.board with regs := c.board.regs.untimed, tone := false }, ticks := 0 }

/-- Faults do not depend on the timers. -/
theorem Instruction.fault?_untimed (strict : Bool) (r : Registers) (ins : Instruction) :
    ins.fault? strict r.untimed = ins.fault? strict r := by
  cases ins <;> rfl

namespace Machine

/-- `t` is `m` but for the timers, the tone and the time, and events about the tone. -/
structure Ticked (m t : Machine κ τ s) : Prop where
  core : t.core.untimed = m.core.untimed
  heard : ∃ tones, (∀ e ∈ tones, ∃ on, e = .tone on) ∧ t.heard = tones ++ m.heard

namespace Ticked

variable {m t u : Machine κ τ s}

theorem refl (m : Machine κ τ s) : Ticked m m := by
  refine ⟨rfl, [], ?_, rfl⟩
  intro e he
  cases he

theorem wait_eq (h : Ticked m t) : t.wait = m.wait := congrArg Core.wait h.core

theorem of_change (h : Ticked m t) (hu : TimerChange t u) : Ticked m u := by
  have hcore : u.core.untimed = t.core.untimed := by cases hu <;> rfl
  have hheard : u.heard = t.heard := by cases hu <;> rfl
  obtain ⟨tones, htones, ht⟩ := h.heard
  exact ⟨hcore.trans h.core, tones, htones, hheard.trans ht⟩

theorem of_tone [Seconds τ] [Clock κ τ] (host : Host s) (on : Bool) :
    Act.Keeps (Ticked m) (emit host (.tone on)) := by
  intro t h
  obtain ⟨tones, htones, ht⟩ := h.heard
  refine ⟨?_, .tone on :: tones, ?_, ?_⟩
  · rw [core_emit]
    exact h.core
  · intro e he
    rcases List.mem_cons.mp he with rfl | he
    · exact ⟨on, rfl⟩
    · exact htones e he
  · rw [heard_emit, ht]
    rfl

end Ticked

variable [Seconds τ] [Clock κ τ]

/-- Servicing the timers changes at most the timers, the tone and the time, also where it fails. -/
theorem ticked_serviceTimers (host : Host s) (m : Machine κ τ s) :
    Ticked m ((serviceTimers host).exec m).2 :=
  keeps_serviceTimers (fun on => Ticked.of_tone host on) (fun _ _ h hu => h.of_change hu) m (.refl m)

/-! ## Failures

A service of the timers fails with a listener that fails at a change of the tone, or with a count of periods
that has no number. The two cases of the poll are stated apart for those who know which one they are in. -/

theorem setTone_fails (host : Host s) (on : Bool) :
    Act.FailsWith host.MayFail (setTone host on : Act (Machine κ τ s) Unit) := by
  intro m e he
  rw [exec_setTone] at he
  exact deliver_fails host _ _ _ he

/-- A timer period fails only with the failure of a listener. -/
theorem tick_fails (host : Host s) :
    Act.FailsWith host.MayFail (tick host : Act (Machine κ τ s) Unit) := by
  have htone (on : Bool) := setTone_fails (κ := κ) (τ := τ) host on
  refine .bind .get fun m => ?_
  dsimp only
  split
  · exact .bind (.modify _) fun _ => .bind (htone _) fun _ => .bind (.modify _) fun _ => .modify _
  · exact .bind (htone _) fun _ => .bind (.modify _) fun _ => .modify _

theorem tickTimes_fails (host : Host s) (n : Nat) :
    Act.FailsWith host.MayFail (tickTimes host n : Act (Machine κ τ s) Unit) := by
  induction n with
  | zero => exact .pure ()
  | succ n ih => exact .bind (tick_fails host) fun _ => ih

/-- A poll fails only over the number of the periods due. -/
theorem pollTimer_fails :
    Act.FailsWith (fun e => ∃ p, e = .time p) (pollTimer : Act (Machine κ τ s) Int) := by
  refine .bind .get fun m => .bind (.modify _) fun _ => ?_
  refine .bind (.ofExcept (fun p => ⟨p, rfl⟩) _) fun p => ?_
  exact .bind (.modify _) fun _ => .pure _

/-- Servicing the timers fails over that number or with the failure of a listener. -/
theorem serviceTimers_fails (host : Host s) :
    Act.FailsWith (fun e => (∃ p, e = .time p) ∨ host.MayFail e)
      (serviceTimers host : Act (Machine κ τ s) Unit) :=
  .bind (fun m e he => Or.inl (pollTimer_fails m e he)) fun due m e he =>
    Or.inr (tickTimes_fails host due.toNat m e he)

/-- Servicing the timers never halts the machine by itself. -/
theorem serviceTimers_ne_halt {host : Host s} {m t : Machine κ τ s} {e : Failure}
    (h : (serviceTimers host).exec m = (.error e, t)) (halt : Halt) : e ≠ .halt halt := by
  rintro rfl
  rcases serviceTimers_fails host m _ (congrArg Prod.fst h) with ⟨p, hp⟩ | ⟨⟨name, hname⟩, -⟩
  · cases hp
  · cases hname

/-- Servicing the timers fails if the poll does. -/
theorem serviceTimers_of_poll_error (host : Host s) {m : Machine κ τ s} {e : Failure}
    (h : (pollTimer.exec m).1 = .error e) : ((serviceTimers host).exec m).1 = .error e := by
  rw [serviceTimers, Act.exec_bind]
  generalize pollTimer.exec m = out at h
  obtain ⟨answer, t⟩ := out
  obtain rfl : answer = .error e := h
  rfl

/-- Servicing the timers after a poll that answers fails only if a listener does. -/
theorem serviceTimers_of_poll_ok (host : Host s) {m : Machine κ τ s} {due : Int}
    (h : (pollTimer.exec m).1 = .ok due) {e : Failure}
    (he : ((serviceTimers host).exec m).1 = .error e) : host.MayFail e := by
  rw [serviceTimers, Act.exec_bind] at he
  generalize pollTimer.exec m = out at h he
  obtain ⟨answer, t⟩ := out
  obtain rfl : answer = .ok due := h
  exact tickTimes_fails host due.toNat t e he

/-- Where no listener fails, the timers are serviced to the end if their periods have a number. -/
theorem serviceTimers_of_neverFails {host : Host s} (hfails : host.NeverFails) {m : Machine κ τ s} {due : Int}
    (hdue : (pollTimer.exec m).1 = .ok due) : ((serviceTimers host).exec m).1 = .ok () := by
  cases hout : ((serviceTimers host).exec m).1 with
  | ok a => rfl
  | error e => exact absurd hfails (serviceTimers_of_poll_ok host hdue hout).2

end Machine

/-! ## Exact time

In exact arithmetic the periods of a time always have a number, so the second failure cannot occur. -/

/-- Arithmetic of time in which the periods of a time always have a number. -/
class ExactTime (τ : Type) [Seconds τ] : Prop where
  periods_ok : ∀ (elapsed : τ) (rate : Rate τ), ∃ n, Seconds.periods elapsed rate = .ok n

variable [Seconds τ] [Clock κ τ]

theorem Cadence.due_ok [ExactTime τ] (c : Cadence τ) (clock : κ) :
    ∃ n c' clock', c.due clock = (.ok (n, c'), clock') := by
  obtain ⟨n, hn⟩ := ExactTime.periods_ok (c.watch.elapsed clock).1 c.rate
  rw [due]
  dsimp only
  rw [hn]
  exact ⟨_, _, _, rfl⟩

theorem Machine.pollTimer_ok [ExactTime τ] (m : Machine κ τ s) :
    ∃ due, (pollTimer.exec m).1 = .ok due := by
  obtain ⟨n, c, clock, h⟩ := m.timerCadence.due_ok m.clock
  rw [pollTimer, Act.exec_get_bind, h]
  exact ⟨n, rfl⟩

/-- Exact seconds. Their product with a rate is rounded toward zero. -/
instance : Seconds Rat where
  zero := 0
  add := (· + ·)
  sub := (· - ·)
  isPositive
    | .whole n => decide (0 < n)
    | .real x => decide (0 < x)
    | .flag b => b
  periods elapsed rate :=
    let product : Rat := elapsed * match rate with
      | .whole n => n
      | .real x => x
      | .flag b => if b then 1 else 0
    .ok (product.num.tdiv product.den)

instance : ExactTime Rat := ⟨fun _ _ => ⟨_, rfl⟩⟩

end Chip8
