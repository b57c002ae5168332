import Chip8.Proofs.Keypad
import Chip8.Proofs.News
/-!
The wait for a key.

An instruction may ask for a key. From then on steps look at the keys and execute nothing, until one is down;
it goes into the register that waits, and the next step executes again. Timers, keys, pauses, listeners and
restarts may come at any point of this, and a wait may last over any number of steps.

1. **Specification** — `KeyProtocol` says what listeners hear and what happens meanwhile. `Turn.keyHistory`
   keeps what they were told since the machine was restarted last, and `Alternating` says that waits and
   resumptions take turns there, each resumption for the register of the wait before it.

2. **Steps** — a step of a machine that waits does what `Machine.Waiting` says (`waiting_of_wait`). A step of
   one that does not tells of a wait exactly if it leaves one (`keyNews_step`), and it does so for a word that
   asks for a key and for no other (`asks_of_completed`).

3. **Invariant** — `Alternating history m.wait`: the history takes turns, and the wait that has not ended in
   it is the one that the machine holds. Every turn keeps it (`alternating_after`). Since steps compare with
   the register that the machine holds, this is what makes resumptions match.

4. **Runs** — by induction over the turns the protocol holds at every time of every run
   (`Turn.keyProtocol_afterAll`). `Turn.keyProtocol_pressing` is a run in which a wait begins and ends.
-/

namespace Chip8

variable {κ τ : Type} {s : Size}

/-! ## What listeners are told

The news of waits among all that listeners hear, and the shape that the whole of it has: beginnings and ends
take turns, and each end is for the register of the beginning before it. -/

/-- What listeners are told of a wait for a key. -/
inductive KeyNews where
  /-- A wait begins, for a register. -/
  | wait (x : Fin 16)
  /-- A wait ends, with a key for its register. -/
  | resume (x key : Fin 16)
  deriving DecidableEq

/-- What an event tells of a wait. -/
def Event.keyNews? : Event s → Option KeyNews
  | .keyWait x => some (.wait x)
  | .keyResume x key => some (.resume x key)
  | _ => none

theorem Event.keyNews?_of_not_shown (e : Event s) (h : e.isShown = false) : e.keyNews? = none := by
  cases e with
  | keyWait x | keyResume x key => cases h
  | _ => rfl

/-- Waits and resumptions take turns, the latest first, and the first of them was a wait. Each resumption
    is for the register of the wait before it. The register beside the history is that of a wait that has not
    ended, and is compared with the one that the machine holds. -/
inductive Alternating : List KeyNews → Option (Fin 16) → Prop
  | nil : Alternating [] none
  | wait {history : List KeyNews} (before : Alternating history none) (x : Fin 16) :
    Alternating (.wait x :: history) (some x)
  | resume {history : List KeyNews} {x : Fin 16} (before : Alternating history (some x))
    (key : Fin 16) : Alternating (.resume x key :: history) none

namespace Machine

/-- What an effect tells of a wait is that the wait begins that it asks for. -/
theorem keyNews_told (e : Effect) :
    (told e : List (Event s)).filterMap Event.keyNews? = (waitAfter e none).toList.map .wait := by
  cases e <;> rfl

/-- Pictures are no news of a wait. -/
theorem keyNews_picture (ready : Bool) (picture : Grid s) (events : List (Event s)) :
    ((if ready then [Event.frameComplete picture] else []) ++ events).filterMap Event.keyNews? =
      events.filterMap Event.keyNews? := by
  cases ready <;> rfl

/-- A word that asks for a key says for which register. -/
theorem awaitKey_of_effectOf {w : Word} {m : Machine κ τ s} {x : Fin 16}
    (h : m.effectOf w = .awaitKey x) : w.Misc 0x0A ∧ w.x = x := by
  by_cases hw : w.Misc 0x0A
  · rw [effectOf, (Instruction.ofWord_eq_iff w (.awaitKey w.x)).mpr ⟨hw, rfl⟩] at h
    exact ⟨hw, Effect.awaitKey.inj h⟩
  · exact absurd h (Board.effect_ne_awaitKey hw _ x)

end Machine

/-! ## What a wait leaves alone

Timers, keys and a host may do as they like while a machine waits. `Held` is what none of them touches, so
that it is the same at the end of a wait as at its beginning. -/

/-- A core without the byte registers, the timers, the keys, the switches, and what is told or traced. It is
    what neither timers nor keys nor a host can change, so that only an instruction or a restart does. -/
def Core.held (c : Core s) : Core s :=
  { c with
    board := { c.board with
      regs := { c.board.regs.untimed with v := Vector.replicate 16 0 }
      keypad := .released
      tone := false }
    strict := false
    tracing := false
    wait := none
    ticks := 0
    traces := [] }

/-- No instruction ran between the two machines: what instructions work on is the same, but for the byte
    registers. -/
structure Machine.Held (m u : Machine κ τ s) : Prop where
  pc : u.board.regs.pc = m.board.regs.pc
  i : u.board.regs.i = m.board.regs.i
  sp : u.board.regs.sp = m.board.regs.sp
  stack : u.board.regs.stack = m.board.regs.stack
  memory : u.board.memory = m.board.memory
  display : u.board.display = m.board.display
  /-- The next random byte, and all behind it, are the same. -/
  draws : u.board.draws = m.board.draws
  noise : u.noise = m.noise
  instructions : u.instructions = m.instructions

theorem Machine.Held.of_core {m u : Machine κ τ s} (h : u.core.held = m.core.held) : Held m u :=
  ⟨congrArg (·.board.regs.pc) h, congrArg (·.board.regs.i) h, congrArg (·.board.regs.sp) h,
    congrArg (·.board.regs.stack) h, congrArg (·.board.memory) h, congrArg (·.board.display) h,
    congrArg (·.board.draws) h, congrArg Core.noise h, congrArg Core.instructions h⟩

theorem Machine.Held.trans {m t u : Machine κ τ s} (h : Held m t) (hu : Held t u) : Held m u :=
  ⟨hu.pc.trans h.pc, hu.i.trans h.i, hu.sp.trans h.sp, hu.stack.trans h.stack, hu.memory.trans h.memory,
    hu.display.trans h.display, hu.draws.trans h.draws, hu.noise.trans h.noise,
    hu.instructions.trans h.instructions⟩

namespace Machine

theorem Ticked.held_eq {m t : Machine κ τ s} (h : Ticked m t) : t.core.held = m.core.held := by
  show t.core.untimed.held = m.core.untimed.held
  rw [h.core]

theorem Ticked.v_eq {m t : Machine κ τ s} (h : Ticked m t) : t.board.regs.v = m.board.regs.v :=
  congrArg (·.board.regs.v) h.core

theorem Aside.held_eq {m t : Machine κ τ s} (h : Aside m t) : t.core.held = m.core.held := by
  obtain ⟨keypad, strict, tracing, hcore⟩ := h.core
  rw [hcore]
  rfl

end Machine

variable [Seconds τ] [Clock κ τ]

namespace Turn

/-- What listeners are told of waits at a turn, the latest first. It is read off what they are told at all. -/
def keyNews (host : Host s) (x : Turn κ) (m : Machine κ τ s) : List KeyNews :=
  (x.news host m).filterMap Event.keyNews?

theorem keyNews_of_told {host : Host s} {x : Turn κ} {m : Machine κ τ s} {events : List (Event s)}
    (h : Machine.Told m (x.after host m) events) :
    x.keyNews host m = events.filterMap Event.keyNews? :=
  filterMap_news Event.keyNews?_of_not_shown h

theorem keyNews_of_ne (host : Host s) {x : Turn κ} (hx : x.kind ≠ .step) (m : Machine κ τ s) :
    x.keyNews host m = [] :=
  keyNews_of_told (told_of_ne host hx m)

/-- What listeners are told of waits at many turns. -/
def keysTold (host : Host s) : List (Turn κ) → Machine κ τ s → List KeyNews
  | [], _ => []
  | x :: xs, m => keysTold host xs (x.after host m) ++ x.keyNews host m

/-- The turn restarts the machine, and no listener fails over that. A listener that fails when the tone goes
    off leaves the wait as it is. -/
def Restarts (host : Host s) (x : Turn κ) (m : Machine κ τ s) : Prop :=
  x.kind = .restart ∧ ((x.act host).exec m).1.isOk = true

instance (host : Host s) (x : Turn κ) (m : Machine κ τ s) : Decidable (x.Restarts host m) :=
  inferInstanceAs (Decidable (_ ∧ _))

/-- What listeners were told of waits since the machine was restarted last. -/
def keyHistory (host : Host s) (x : Turn κ) (m : Machine κ τ s) (history : List KeyNews) :
    List KeyNews :=
  if x.Restarts host m then [] else x.keyNews host m ++ history

end Turn

namespace Machine

variable {host : Host s}

/-! ## Steps of a machine that waits

Such a step services the timers and looks at the keys. There are two outcomes only: no key is down and the
wait lasts, or the least key that is down ends it. -/

/-- A step of a running machine that waits for a key to put into register `x`. -/
structure Waiting (host : Host s) (m : Machine κ τ s) (x : Fin 16) : Prop where
  /-- No instruction is executed. -/
  held : Held m (Call.step.after host m)
  completed : m.completed host = none
  /-- The timers, the tone and the count of periods are left as servicing the timers leaves them. -/
  delay : (Call.step.after host m).board.regs.delay =
    ((serviceTimers host).exec m).2.board.regs.delay
  sound : (Call.step.after host m).board.regs.sound =
    ((serviceTimers host).exec m).2.board.regs.sound
  tone : (Call.step.after host m).board.tone = ((serviceTimers host).exec m).2.board.tone
  ticks : (Call.step.after host m).ticks = ((serviceTimers host).exec m).2.ticks
  /-- If they cannot be serviced to the end, or if no key is down, that is all of the step: the wait goes
      on. -/
  waits : ((∃ e, ((serviceTimers host).exec m).1 = .error e) ∨
      ∀ k : Fin 16, m.board.keypad.isDown k.val = .ok false) →
    (step host).exec m = (serviceTimers host).exec m ∧
      (Call.step.after host m).wait = some x ∧
      (Call.step.after host m).board.regs.v = m.board.regs.v ∧
      Turn.step.keyNews host m = []
  /-- When a key is down the least one goes into the register, no other register changes, and the wait is
      over: listeners are told so, once. -/
  resumes : ((serviceTimers host).exec m).1 = .ok () → ∀ key : Fin 16,
    m.board.keypad.isDown key.val = .ok true → (∀ k < key, m.board.keypad.isDown k.val = .ok false) →
    (Call.step.after host m).board.regs.get x = UInt8.ofNat key.val ∧
      (∀ y, y ≠ x → (Call.step.after host m).board.regs.get y = m.board.regs.get y) ∧
      (Call.step.after host m).wait = none ∧
      (Call.step.after host m).status = "Running" ∧
      Turn.step.keyNews host m = [.resume x key]
  /-- The step strikes no fault. -/
  fails : ∀ e, ((step host).exec m).1 = .error e → (∃ p, e = .time p) ∨ host.MayFail e

/-- A step of a machine that waits services the timers and looks for a key. -/
theorem exec_step_of_waiting (host : Host s) {m : Machine κ τ s} {x : Fin 16}
    (hhalted : m.halted = false) (hwait : m.wait = some x) :
    (step host).exec m =
      match (serviceTimers host).exec m with
      | (.error e, t) => (.error e, t)
      | (.ok _, t) => (pollKeys host x).exec t := by
  have hticked := ticked_serviceTimers host m
  rw [exec_step host hhalted]
  generalize (serviceTimers host).exec m = out at hticked ⊢
  obtain ⟨answer, t⟩ := out
  -- the wait is looked at after the timers are serviced, which does not change it
  have ht : t.wait = some x := hticked.wait_eq.trans hwait
  cases answer with
  | error e => rfl
  | ok a =>
    dsimp only
    rw [ht]

/-- The core after a key ended the wait. -/
theorem core_pollKeys_of_some (host : Host s) (x : Fin 16) {key : Fin 16} {m : Machine κ τ s}
    (hkey : m.board.keypad.first? = some key) :
    ((pollKeys host x).exec m).2.core =
      { m.core with board := m.board.mapRegs (·.put x (UInt8.ofNat key.val)), wait := none } := by
  rw [exec_pollKeys, hkey]
  exact core_emit host _ _

/-- A step of a machine that waits changes no more than servicing the timers does, but for the byte registers
    and the wait. -/
theorem core_step_of_waiting (host : Host s) {m : Machine κ τ s} {x : Fin 16} (hhalted : m.halted = false)
    (hwait : m.wait = some x) :
    ∃ v wait, (Call.step.after host m).core = { ((serviceTimers host).exec m).2.core with
      board := ((serviceTimers host).exec m).2.board.mapRegs fun r => { r with v }
      wait } := by
  rw [Call.after, Call.act, exec_step_of_waiting host hhalted hwait]
  generalize (serviceTimers host).exec m = out
  obtain ⟨answer, t⟩ := out
  cases answer with
  | error e => exact ⟨t.board.regs.v, t.wait, rfl⟩
  | ok a => exact core_pollKeys host x t

/-- Every step of a running machine that waits does what `Waiting` says. It services the timers and then looks
    at the keys, so the cases are whether servicing fails and whether a key is down. -/
theorem waiting_of_wait (host : Host s) {m : Machine κ τ s} {x : Fin 16} (hhalted : m.halted = false)
    (hwait : m.wait = some x) : Waiting host m x := by
  have hstep := exec_step_of_waiting host hhalted hwait
  have hticked := ticked_serviceTimers host m
  have hkeypad : ((serviceTimers host).exec m).2.board.keypad = m.board.keypad :=
    congrArg (·.board.keypad) hticked.core
  obtain ⟨v, wait, hcore⟩ := core_step_of_waiting host hhalted hwait
  have hheld : Held m (Call.step.after host m) := by
    refine .of_core ?_
    rw [hcore, ← hticked.held_eq]
    rfl
  refine ⟨hheld, completed_eq_none hheld.instructions, congrArg (·.board.regs.delay) hcore,
    congrArg (·.board.regs.sound) hcore, congrArg (·.board.tone) hcore, congrArg (·.ticks) hcore,
    ?_, ?_, ?_⟩
  · -- servicing fails, or there is no key: the step ends where servicing ended
    intro hidle
    have hserved : (step host).exec m = (serviceTimers host).exec m := by
      rw [hstep]
      generalize (serviceTimers host).exec m = out at hkeypad hidle ⊢
      obtain ⟨answer, t⟩ := out
      cases answer with
      | error e => rfl
      | ok a =>
        rcases hidle with ⟨e, he⟩ | hup
        · cases he
        · rw [← hkeypad] at hup
          dsimp only at hup ⊢
          rw [exec_pollKeys, Keypad.first?_eq_none_iff.mpr hup]
    have htold : Told m (Turn.step.after host m) [] := by
      have hafter : Turn.step.after host m = ((step host).exec m).2 := rfl
      rw [hafter, hserved]
      exact .of_ticked hticked
    rw [Call.after, Call.act, hserved]
    exact ⟨rfl, hticked.wait_eq.trans hwait, hticked.v_eq, Turn.keyNews_of_told htold⟩
  · -- servicing succeeds and leaves the keys, so the key is found on the pad as it was before
    intro hok key hdown hleast
    have hpolled : Call.step.after host m = ((pollKeys host x).exec ((serviceTimers host).exec m).2).2 := by
      rw [Call.after, Call.act, hstep]
      generalize (serviceTimers host).exec m = out at hok ⊢
      obtain ⟨answer, t⟩ := out
      obtain rfl : answer = .ok () := hok
      rfl
    have hkey : ((serviceTimers host).exec m).2.board.keypad.first? = some key := by
      rw [hkeypad]
      exact Keypad.first?_eq_some_iff.mpr ⟨hdown, hleast⟩
    have hv : ((serviceTimers host).exec m).2.board.regs.v = m.board.regs.v := hticked.v_eq
    have hput := core_pollKeys_of_some host x hkey
    have hpoll := told_pollKeys host x ((serviceTimers host).exec m).2
    rw [← hpolled] at hput hpoll
    rw [hkey] at hpoll
    have htold : Told m (Turn.step.after host m) [.keyResume x key] :=
      (Told.of_ticked hticked).trans hpoll
    have hregs : (Call.step.after host m).board.regs =
        ((serviceTimers host).exec m).2.board.regs.put x (UInt8.ofNat key.val) :=
      congrArg (·.board.regs) hput
    have hended : (Call.step.after host m).wait = none := congrArg Core.wait hput
    refine ⟨?_, fun y hy => ?_, hended, ?_, Turn.keyNews_of_told htold⟩
    · rw [hregs, Registers.get_put_self]
    · rw [hregs, Registers.get_put_ne _ (Ne.symm hy), Registers.get, hv]
      rfl
    · rw [status, hended]
      rfl
  · intro e he
    have hfails := serviceTimers_fails host m e
    rw [hstep] at he
    generalize (serviceTimers host).exec m = out at hfails he
    obtain ⟨answer, t⟩ := out
    cases answer with
    | error e' => exact hfails he
    | ok a => exact Or.inr (pollKeys_fails host x t e he)

/-- A step of a machine that waits leaves the wait and the registers, or a key that is down ends the wait. -/
theorem Waiting.lasts_or_ends {m : Machine κ τ s} {x : Fin 16} (h : Waiting host m x) :
    ((Call.step.after host m).wait = some x ∧ (Call.step.after host m).board.regs.v = m.board.regs.v ∧
        Turn.step.keyNews host m = []) ∨
      ∃ key : Fin 16, m.board.keypad.isDown key.val = .ok true ∧
        (Call.step.after host m).wait = none ∧ Turn.step.keyNews host m = [.resume x key] := by
  -- a service that fails ends the step before the keys are looked at, and then the wait lasts
  cases hok : ((serviceTimers host).exec m).1 with
  | error e =>
    obtain ⟨-, hwait, hv, hnews⟩ := h.waits (Or.inl ⟨e, hok⟩)
    exact Or.inl ⟨hwait, hv, hnews⟩
  | ok a =>
    cases hkey : m.board.keypad.first? with
    | none =>
      obtain ⟨-, hwait, hv, hnews⟩ := h.waits (Or.inr (Keypad.first?_eq_none_iff.mp hkey))
      exact Or.inl ⟨hwait, hv, hnews⟩
    | some key =>
      obtain ⟨hdown, hleast⟩ := Keypad.first?_eq_some_iff.mp hkey
      obtain ⟨-, -, hwait, -, hnews⟩ := h.resumes hok key hdown hleast
      exact Or.inr ⟨key, hdown, hwait, hnews⟩

/-! ## Steps of a machine that does not wait

An instruction begins a wait exactly if it is the one that asks for a key, and then it tells so. -/

/-- An instruction tells of a wait exactly if it leaves one, and then its word asked for it. -/
theorem Ran.keyNews {t : Machine κ τ s} {out : Except Failure Unit × Machine κ τ s}
    (h : Ran host t out) (hwait : t.wait = none) :
    (∃ events, Told t out.2 events ∧
        events.filterMap Event.keyNews? = out.2.wait.toList.map .wait) ∧
      ∀ x, out.2.wait = some x → ∃ w, t.word? = some w ∧ w.Misc 0x0A ∧ w.x = x := by
  have hready (w : Word) : (t.ready host w).wait = none := by
    obtain ⟨traces, hcore⟩ := t.fetched.core_traced host t.board.regs.pc w
    exact (congrArg Core.wait hcore).trans hwait
  -- if no wait is left, nothing has to be told of one
  have hnone {u : Machine κ τ s} (hu : u.wait = none) (htold : Told t u []) :
      (∃ events, Told t u events ∧ events.filterMap Event.keyNews? = u.wait.toList.map .wait) ∧
        ∀ x, u.wait = some x → ∃ w, t.word? = some w ∧ w.Misc 0x0A ∧ w.x = x := by
    rw [hu]
    exact ⟨⟨[], htold, rfl⟩, fun x hx => by cases hx⟩
  -- if an effect was passed on, it left the wait that it asked for
  have heffect {w : Word} (hw : t.board.memory.WordAt t.board.regs.pc w) {u : Machine κ τ s}
      (hu : u.wait = waitAfter (t.effectOf w) none) {events : List (Event s)} (htold : Told t u events)
      (hevents : events.filterMap Event.keyNews? =
        (told (t.effectOf w) : List (Event s)).filterMap Event.keyNews?) :
      (∃ events, Told t u events ∧ events.filterMap Event.keyNews? = u.wait.toList.map .wait) ∧
        ∀ x, u.wait = some x → ∃ w, t.word? = some w ∧ w.Misc 0x0A ∧ w.x = x := by
    refine ⟨⟨events, htold, by rw [hevents, keyNews_told, hu]⟩, fun x hx => ?_⟩
    rw [hu] at hx
    refine ⟨w, word?_eq_some_iff.mpr hw, ?_⟩
    have hask : t.effectOf w = .awaitKey x := by
      generalize t.effectOf w = e at hx
      cases e with
      | awaitKey y =>
        obtain rfl := Option.some.inj hx
        rfl
      | _ => cases hx
    exact awaitKey_of_effectOf hask
  cases h with
  | noWord past => exact hnone hwait (.of_heard rfl)
  | @untraced w fetched e fails => exact hnone (hready w) (told_ready host w t)
  | @fault w fetched f fault => exact hnone (hready w) ((told_ready host w t).of_eq rfl)
  | @untold w fetched fault e fails told =>
    refine heffect fetched ?_ (told_effected host w t) rfl
    have hboard : (t.ready host w).board = t.fetched.board := board_traced host _ w t.fetched
    have hcore : ((t.ready host w).effected host w).wait =
        waitAfter (((t.ready host w).board.mapRegs (·.noting w)).effect (Instruction.ofWord w))
          (t.ready host w).wait :=
      congrArg Core.wait (core_deliver host _ _)
    rw [hready, hboard] at hcore
    exact hcore
  | @done w fetched fault =>
    rw [counted_eq]
    obtain ⟨traces, hcore⟩ := core_announced host w t
    have hleft := congrArg Core.wait hcore
    dsimp only at hleft
    rw [hwait] at hleft
    exact heffect fetched hleft (told_announced host w t) (keyNews_picture _ _ _)

/-- A step of a machine that does not wait tells of a wait exactly if it leaves one, and then its word
    asked for it. -/
theorem keyNews_step (host : Host s) {m : Machine κ τ s} (hb : m.Bounded) (hwait : m.wait = none) :
    Turn.step.keyNews host m = (Call.step.after host m).wait.toList.map .wait ∧
      ∀ x, (Call.step.after host m).wait = some x →
        ∃ w, m.word? = some w ∧ w.Misc 0x0A ∧ w.x = x := by
  have hmoved := moved_step host hb
  have hafter : Turn.step.after host m = Call.step.after host m := rfl
  generalize Call.step.after host m = u at hmoved hafter ⊢
  -- a step that tells nothing and leaves no wait tells what it should
  have hnone (hu : u.wait = none) (htold : Told m u []) :
      Turn.step.keyNews host m = u.wait.toList.map .wait ∧
        ∀ x, u.wait = some x → ∃ w, m.word? = some w ∧ w.Misc 0x0A ∧ w.x = x := by
    rw [← hafter] at htold
    rw [Turn.keyNews_of_told htold, hu]
    exact ⟨rfl, fun x hx => by cases hx⟩
  cases hmoved with
  | halted => exact hnone hwait (.of_heard rfl)
  | unserviced service ticked => exact hnone (ticked.wait_eq.trans hwait) (.of_ticked ticked)
  | polled service ticked wait =>
    rw [ticked.wait_eq, hwait] at wait
    cases wait
  | @ran t service ticked bounded wait out ran =>
    obtain ⟨⟨events, htold, hevents⟩, hword⟩ := ran.keyNews wait
    have hall := (Told.of_ticked ticked).trans htold
    rw [← hafter] at hall
    refine ⟨(Turn.keyNews_of_told hall).trans hevents, ?_⟩
    rw [← ticked.word?_eq]
    exact hword

/-- A step that completes a word that asks for a key leaves a wait for the register of the word, and listeners
    are told so. Together with `keyNews_step` this says that waits begin at these words and at no others. -/
theorem asks_of_completed {m : Machine κ τ s} (hb : m.Bounded) {w : Word} (h : m.completed host = some w)
    (hw : w.Misc 0x0A) :
    (Call.step.after host m).wait = some w.x ∧ Turn.step.keyNews host m = [.wait w.x] := by
  obtain ⟨t, hcompleting⟩ := completing_of_completed hb h
  have hawake : m.wait = none := hcompleting.ticked.wait_eq.symm.trans hcompleting.awake
  obtain ⟨traces, hcore⟩ := core_announced host w t
  have hasks : (Call.step.after host m).wait = some w.x := by
    rw [hcompleting.after]
    refine (congrArg Core.wait hcore).trans ?_
    dsimp only
    rw [(Instruction.ofWord_eq_iff w (.awaitKey w.x)).mpr ⟨hw, rfl⟩]
    rfl
  refine ⟨hasks, ?_⟩
  rw [(keyNews_step host hb hawake).1, hasks]
  rfl

/-! ## Restarts

A restart ends a wait without news, and the history begins anew with it. If a listener fails while the tone
goes off, the restart breaks off before the wait is reached. -/

/-- A reset ends a wait, unless a listener fails when the tone goes off. -/
theorem wait_reset (host : Host s) (m : Machine κ τ s) :
    ((reset host).exec m).2.wait = if ((reset host).exec m).1.isOk then none else m.wait := by
  have hreset := afterReset_reset host m
  generalize (reset host).exec m = out at hreset ⊢
  cases hreset with
  | brokenOff tone core => exact congrArg Core.wait core
  | @done t tone core => exact congrArg Core.wait (restarted_frame t).1

/-- Loading a program ends a wait as a reset does. -/
theorem wait_load (host : Host s) (program : Program) (m : Machine κ τ s) :
    ((load host program).exec m).2.wait =
      if ((load host program).exec m).1.isOk then none else m.wait := by
  have hreset := wait_reset host { m with program }
  rw [load, Act.exec_modify_bind, Act.exec_bind]
  generalize (reset host).exec { m with program } = out at hreset ⊢
  obtain ⟨answer, t⟩ := out
  cases answer with
  | error e => exact hreset
  | ok a => exact hreset

end Machine

/-! ## Whole runs

The invariant is that the history alternates and ends as the machine is: with a beginning if it waits, and
with an end if it does not. The induction is on the turns. -/

namespace Turn

variable {host : Host s}

/-- At a step of a halted machine nothing is told and nothing changes. -/
theorem keyNews_of_halted (host : Host s) {m : Machine κ τ s} (h : m.halted = true) :
    step.keyNews host m = [] ∧ step.after host m = m := by
  have hafter : step.after host m = m := by
    show ((Machine.step host).exec m).2 = m
    rw [Machine.exec_step_of_halted host h]
  have htold : Machine.Told m (step.after host m) [] := by
    rw [hafter]
    exact .of_heard rfl
  exact ⟨keyNews_of_told htold, hafter⟩

/-- A turn that brings a machine to power-on ends a wait, unless a listener fails over it. -/
theorem wait_after_of_restart (host : Host s) {x : Turn κ} (hx : x.kind = .restart) (m : Machine κ τ s) :
    (x.after host m).wait = if x.Restarts host m then none else m.wait := by
  simp only [Restarts, hx, true_and]
  cases x with
  | call c single =>
    cases c with
    | load program => exact Machine.wait_load host program m
    | reset => exact Machine.wait_reset host m
    | _ => cases hx
  | _ => cases hx

/-- Turns that are neither steps nor restarts leave the wait as it is. -/
theorem wait_after_of_ne (host : Host s) {x : Turn κ} (hstep : x.kind ≠ .step)
    (hrestart : x.kind ≠ .restart) (m : Machine κ τ s) : (x.after host m).wait = m.wait := by
  cases hx : x.kind with
  | step => exact absurd hx hstep
  | restart => exact absurd hx hrestart
  | tick => exact (ticked_after host hx m).wait_eq
  | aside =>
    obtain ⟨keypad, strict, tracing, hcore⟩ := (aside_after host hx m).core
    exact congrArg Core.wait hcore

/-- Every turn keeps waits and resumptions in turn. A step adds what it tells, and the wait that it leaves is
    the one told of last; a restart begins anew; all else tells nothing and leaves the wait. -/
theorem alternating_after (host : Host s) (x : Turn κ) {m : Machine κ τ s} {history : List KeyNews}
    (hb : m.Bounded) (h : Alternating history m.wait) :
    Alternating (x.keyHistory host m history) (x.after host m).wait := by
  -- what tells of nothing and leaves the wait keeps the history
  have hkept (hx : ¬x.Restarts host m) (hnews : x.keyNews host m = [])
      (hwait : (x.after host m).wait = m.wait) :
      Alternating (x.keyHistory host m history) (x.after host m).wait := by
    rw [keyHistory, if_neg hx, hnews, hwait]
    exact h
  by_cases hx : x.kind = .step
  · have hno : ¬x.Restarts host m := fun hrestarts => by
      rw [hrestarts.1] at hx
      cases hx
    obtain rfl := eq_step_of_kind hx
    cases hhalted : m.halted with
    | true =>
      obtain ⟨hnews, hafter⟩ := keyNews_of_halted host hhalted
      exact hkept hno hnews (by rw [hafter])
    | false =>
      rw [keyHistory, if_neg hno]
      cases hwait : m.wait with
      | none =>
        have hnews := (Machine.keyNews_step host hb hwait).1
        rw [hwait] at h
        rw [hnews]
        show Alternating _ (Call.step.after host m).wait
        cases (Call.step.after host m).wait with
        | none => exact h
        | some y => exact .wait h y
      | some y =>
        rw [hwait] at h
        rcases (Machine.waiting_of_wait host hhalted hwait).lasts_or_ends with
          ⟨hlasts, -, hnews⟩ | ⟨key, -, hended, hnews⟩
        · rw [hnews]
          show Alternating _ (Call.step.after host m).wait
          rw [hlasts]
          exact h
        · rw [hnews]
          show Alternating _ (Call.step.after host m).wait
          rw [hended]
          exact .resume h key
  · by_cases hrestart : x.kind = .restart
    · have hwait := wait_after_of_restart host hrestart m
      by_cases hok : x.Restarts host m
      · rw [if_pos hok] at hwait
        rw [keyHistory, if_pos hok, hwait]
        exact .nil
      · rw [if_neg hok] at hwait
        exact hkept hok (keyNews_of_ne host hx m) hwait
    · exact hkept (fun hrestarts => hrestart hrestarts.1) (keyNews_of_ne host hx m)
        (wait_after_of_ne host hx hrestart m)

/-- Where no listener halts the machine, no turn leaves one that is halted and waits. -/
theorem settled_after (hhalts : host.NeverHalts) (x : Turn κ) {m : Machine κ τ s} (hb : m.Bounded)
    (h : m.Settled) : (x.after host m).Settled := by
  cases hx : x.kind with
  | step =>
    obtain rfl := eq_step_of_kind hx
    exact (Machine.settled_step hhalts m ⟨hb, h⟩).2
  | tick =>
    cases x with
    | call c single =>
      cases c with
      | tick => exact Machine.settled_tick hhalts m h
      | _ => cases hx
    | service => exact Machine.settled_serviceTimers hhalts m h
    | _ => cases hx
  | restart =>
    cases x with
    | call c single =>
      cases c with
      | load program =>
        -- loading is a reset and a record in the log
        obtain ⟨log, hload⟩ := Machine.after_load host program m
        have hreset := Machine.settled_reset hhalts { m with program } h
        show ((Machine.load host program).exec m).2.Settled
        rw [hload]
        exact hreset
      | reset => exact Machine.settled_reset hhalts m h
      | _ => cases hx
    | _ => cases hx
  | aside =>
    have haside := aside_after host hx m
    have hwait := wait_after_of_ne (x := x) host (by simp [hx]) (by simp [hx]) m
    intro hhalted
    rw [hwait]
    exact h (haside.halted.symm.trans hhalted)

/-- As long as nothing ends it a wait goes on, and with it the machine stands still. Nothing ended it if no
    turn restarted the machine and listeners were told nothing. -/
theorem wait_lasts {m : Machine κ τ s} {x : Fin 16} {ys : List (Turn κ)} (hwait : m.wait = some x)
    (hys : ∀ y ∈ ys, y.kind ≠ .restart) (hnews : keysTold host ys m = []) :
    completedWords host ys m = [] ∧ Machine.Held m (afterAll host ys m) ∧
      (afterAll host ys m).board.regs.v = m.board.regs.v ∧ (afterAll host ys m).wait = some x := by
  induction ys generalizing m with
  | nil => exact ⟨rfl, .of_core rfl, rfl, hwait⟩
  | cons y ys ih =>
    obtain ⟨hrest, hfirst⟩ := List.append_eq_nil_iff.mp hnews
    have hrestart := hys y List.mem_cons_self
    -- what the first turn leaves still waits, and nothing else has changed there
    have hturn : y.completed host m = none ∧ Machine.Held m (y.after host m) ∧
        (y.after host m).board.regs.v = m.board.regs.v ∧ (y.after host m).wait = some x := by
      cases hy : y.kind with
      | restart => exact absurd hy hrestart
      | step =>
        obtain rfl := eq_step_of_kind hy
        rw [completed_step]
        cases hhalted : m.halted with
        | true =>
          have hafter : step.after host m = m := (keyNews_of_halted host hhalted).2
          have hcount : (Call.step.after host m).instructions = m.instructions :=
            congrArg (·.instructions) hafter
          rw [hafter]
          exact ⟨Machine.completed_eq_none hcount, .of_core rfl, rfl, hwait⟩
        | false =>
          have hwaiting := Machine.waiting_of_wait host hhalted hwait
          rcases hwaiting.lasts_or_ends with ⟨hlasts, hv, -⟩ | ⟨key, -, -, hends⟩
          · exact ⟨hwaiting.completed, hwaiting.held, hv, hlasts⟩
          · rw [hfirst] at hends
            cases hends
      | tick =>
        have hticked := ticked_after host hy m
        exact ⟨completed_of_ne (by simp [hy]) host m, .of_core hticked.held_eq, hticked.v_eq,
          hticked.wait_eq.trans hwait⟩
      | aside =>
        have haside := aside_after host hy m
        have hsame := wait_after_of_ne host (by simp [hy]) hrestart m
        obtain ⟨keypad, strict, tracing, hcore⟩ := haside.core
        exact ⟨completed_of_ne (by simp [hy]) host m, .of_core haside.held_eq,
          congrArg (·.board.regs.v) hcore, hsame.trans hwait⟩
    obtain ⟨hcompleted, hheld, hv, hlasts⟩ := hturn
    obtain ⟨hwords, hheld', hv', hlasts'⟩ :=
      ih hlasts (fun z hz => hys z (List.mem_cons_of_mem _ hz)) hrest
    refine ⟨?_, hheld.trans hheld', hv'.trans hv, hlasts'⟩
    rw [completedWords, hcompleted, hwords]
    rfl

end Turn

/-- What listeners are told of waits, and what a wait is: `history` is what they were told since the machine
    was restarted last. -/
structure KeyProtocol (host : Host s) (m : Machine κ τ s) (history : List KeyNews) : Prop where
  alternating : Alternating history m.wait
  /-- A machine that waits looks at the keys with each step, and executes nothing. -/
  waiting : ∀ x, m.wait = some x → m.halted = false → Machine.Waiting host m x
  /-- A machine that waits is not halted, unless by a listener. -/
  running : host.NeverHalts → m.wait.isSome = true → m.halted = false
  /-- The timers are serviced to the end, unless a listener fails or the periods due have no number. -/
  serviced : host.NeverFails → ∀ due, (Machine.pollTimer.exec m).1 = .ok due →
    ((Machine.serviceTimers host).exec m).1 = .ok ()
  /-- At most one thing is told at a turn. -/
  once : ∀ y : Turn κ, (y.keyNews host m).length ≤ 1
  /-- A step of a running machine that does not wait completes the word at the counter, if it does not
      fail. -/
  completes : m.halted = false → m.wait = none → ((Machine.step host).exec m).1 = .ok () →
    ∃ w, m.completed host = some w ∧ m.board.memory.WordAt m.board.regs.pc w
  /-- If the word that is completed asks for a key, a wait begins for the register that it names. -/
  asks : ∀ w, m.completed host = some w → w.Misc 0x0A →
    (Call.step.after host m).wait = some w.x ∧ Turn.step.keyNews host m = [.wait w.x]
  /-- A wait begins when a word is executed that asks for a key. -/
  begins : ∀ (y : Turn κ) (x : Fin 16), .wait x ∈ y.keyNews host m →
    y.kind = .step ∧ m.wait = none ∧ ∃ w, m.word? = some w ∧ w.Misc 0x0A ∧ w.x = x
  /-- A wait ends at a step that finds a key down. -/
  ends : ∀ (y : Turn κ) (x key : Fin 16), .resume x key ∈ y.keyNews host m →
    y.kind = .step ∧ m.wait = some x ∧ m.board.keypad.isDown key.val = .ok true
  /-- As long as nothing ends a wait, no instruction is executed and no register changes. -/
  lasts : ∀ (x : Fin 16) (ys : List (Turn κ)), m.wait = some x → (∀ y ∈ ys, y.kind ≠ .restart) →
    Turn.keysTold host ys m = [] → Turn.completedWords host ys m = [] ∧
      Machine.Held m (Turn.afterAll host ys m) ∧
      (Turn.afterAll host ys m).board.regs.v = m.board.regs.v ∧
      (Turn.afterAll host ys m).wait = some x

namespace Turn

variable {host : Host s}

/-- What is told of waits at a turn: nothing, or that a wait begins, or that it ends. -/
inductive Tells (m : Machine κ τ s) (y : Turn κ) : List KeyNews → Prop
  | nothing : Tells m y []
  | wait (step : y.kind = .step) (wait : m.wait = none) {w : Word} (word : m.word? = some w)
    (misc : w.Misc 0x0A) : Tells m y [.wait w.x]
  | resume (step : y.kind = .step) {x key : Fin 16} (wait : m.wait = some x)
    (down : m.board.keypad.isDown key.val = .ok true) : Tells m y [.resume x key]

/-- Only a step tells of a wait, and it tells of the beginning of one or of its end. -/
theorem tells_keyNews (host : Host s) (y : Turn κ) {m : Machine κ τ s} (hb : m.Bounded) :
    Tells m y (y.keyNews host m) := by
  -- only a step tells anything: with no wait it may begin one, and with a wait it may end it
  by_cases hy : y.kind = .step
  · obtain rfl := eq_step_of_kind hy
    cases hhalted : m.halted with
    | true =>
      rw [(keyNews_of_halted host hhalted).1]
      exact .nothing
    | false =>
      cases hwait : m.wait with
      | none =>
        obtain ⟨hnews, hword⟩ := Machine.keyNews_step host hb hwait
        rw [hnews]
        cases hleft : (Call.step.after host m).wait with
        | none => exact .nothing
        | some x =>
          obtain ⟨w, hw, hmisc, rfl⟩ := hword x hleft
          exact .wait hy hwait hw hmisc
      | some x =>
        rcases (Machine.waiting_of_wait host hhalted hwait).lasts_or_ends with
          ⟨-, -, hnews⟩ | ⟨key, hdown, -, hnews⟩
        · rw [hnews]
          exact .nothing
        · rw [hnews]
          exact .resume hy hwait hdown
  · rw [keyNews_of_ne host hy]
    exact .nothing

/-- The three things that turns keep make the protocol: the registers are in their ranges, a machine that
    waits is not halted, and the history alternates and ends with the wait as it is. -/
theorem keyProtocol_of_alternating {m : Machine κ τ s} {history : List KeyNews}
    (h : m.Bounded ∧ (host.NeverHalts → m.Settled) ∧ Alternating history m.wait) :
    KeyProtocol host m history := by
  obtain ⟨hb, hsettled, halternating⟩ := h
  refine ⟨halternating, ?_, ?_, ?_, ?_, ?_, ?_, ?_, ?_, ?_⟩
  · -- the first clauses are about the machine at hand, and the last ones about the turns that it may take
    intro x hwait hhalted
    exact Machine.waiting_of_wait host hhalted hwait
  · intro hhalts hwait
    refine Bool.eq_false_iff.mpr fun hhalted => ?_
    rw [hsettled hhalts hhalted] at hwait
    cases hwait
  · intro hfails due hdue
    exact Machine.serviceTimers_of_neverFails hfails hdue
  · intro y
    have htells := tells_keyNews host y hb
    generalize y.keyNews host m = news at htells
    cases htells <;> simp
  · intro hhalted hwait hok
    exact Machine.completed_of_ok hb hhalted hwait hok
  · intro w hw hmisc
    exact Machine.asks_of_completed hb hw hmisc
  · intro y x hx
    have htells := tells_keyNews host y hb
    generalize y.keyNews host m = news at htells hx
    cases htells with
    | nothing => cases hx
    | @wait step wait w word misc =>
      obtain rfl := KeyNews.wait.inj (List.mem_singleton.mp hx)
      exact ⟨step, wait, w, word, misc, rfl⟩
    | resume step wait down => cases List.mem_singleton.mp hx
  · intro y x key hx
    have htells := tells_keyNews host y hb
    generalize y.keyNews host m = news at htells hx
    cases htells with
    | nothing => cases hx
    | wait step wait word misc => cases List.mem_singleton.mp hx
    | resume step wait down =>
      obtain ⟨rfl, rfl⟩ := KeyNews.resume.inj (List.mem_singleton.mp hx)
      exact ⟨step, wait, down⟩
  · intro x ys hwait hys hnews
    exact wait_lasts hwait hys hnews

/-- At every time of every run, since the machine was restarted last, waits for keys and resumptions were
    told in turn, each resumption with a key that was down and for the register of the wait before it; and
    nothing was executed between the two. -/
theorem keyProtocol_afterAll (host : Host s) (settings : Machine.Settings τ) (clock : κ)
    (noise : Nat → UInt8) (xs : List (Turn κ)) :
    KeyProtocol host (afterAll host xs (.create settings clock noise))
      (track host (keyHistory host) xs (.create settings clock noise) []) := by
  have hcreate : (Machine.create settings clock noise : Machine κ τ s).Bounded ∧
      (host.NeverHalts → (Machine.create settings clock noise : Machine κ τ s).Settled) ∧
      Alternating [] (Machine.create settings clock noise : Machine κ τ s).wait := by
    have hreachable : Machine.Reachable host (Machine.create settings clock noise) :=
      .create settings clock noise
    refine ⟨hreachable.bounded, fun hhalts => hreachable.settled hhalts, ?_⟩
    rw [show (Machine.create settings clock noise : Machine κ τ s).wait = none from
      congrArg Core.wait (Machine.core_create settings clock noise)]
    exact .nil
  have hxs : ∀ x ∈ xs, True := fun _ _ => trivial
  -- three invariants are kept together, since news of a step depend on bounds, and bounds do not depend on
  -- it
  have hrun := invariant_track
    (I := fun (m : Machine κ τ s) history =>
      m.Bounded ∧ (host.NeverHalts → m.Settled) ∧ Alternating history m.wait)
    (fun x _ _ _ h => ⟨x.bounded_after host h.1, fun hhalts => settled_after hhalts x h.1 (h.2.1 hhalts),
      alternating_after host x h.1 h.2.2⟩) hxs hcreate
  exact keyProtocol_of_alternating hrun

/-- A program that asks for a key. -/
def asking : Program := ⟨"", [0xF3, 0x0A], by decide⟩

/-- The program is loaded, and then two keys go down and stay down. -/
def pressing : List (Turn (ManualClock Rat)) :=
  [.call (.load asking) rfl, .call (.inputKeys [(7, true), (5, true)]) rfl]

theorem bounded_pressing : (afterAll Host.inert pressing Machine.still).Bounded :=
  bounded_after Host.inert _ (bounded_after Host.inert _ (Machine.bounded_create _ _ _))

theorem completed_pressing :
    (afterAll Host.inert pressing Machine.still).completed Host.inert = some 0xF30A := by
  have haside := aside_after Host.inert (x := .call (.inputKeys [(7, true), (5, true)]) rfl) rfl
    (Call.after Host.inert (.load asking) Machine.still)
  have hloaded := Machine.wordAt_load_pc Host.inert asking Machine.still (by decide)
  have hword : (afterAll Host.inert pressing Machine.still).word? = some 0xF30A :=
    haside.word?_eq.trans (Machine.word?_eq_some_iff.mpr hloaded)
  obtain ⟨due, hdue⟩ := (afterAll Host.inert pressing Machine.still).pollTimer_ok
  exact Machine.completed_of_word Host.inert_neverFails bounded_pressing rfl rfl hdue
    (Machine.word?_eq_some_iff.mp hword) rfl

/-- The first step begins a wait. The second step ends it, with the lower of the two keys, though neither
    was pressed anew. -/
theorem keyProtocol_pressing :
    keysTold Host.inert [step, step] (afterAll Host.inert pressing Machine.still) =
        [.resume 3 5, .wait 3] ∧
      (afterAll Host.inert (pressing ++ [step, step]) Machine.still).board.regs.get 3 = 5 := by
  have hprotocol (xs : List (Turn (ManualClock Rat))) :
      ∃ history, KeyProtocol Host.inert (afterAll Host.inert xs Machine.still) history :=
    ⟨_, keyProtocol_afterAll Host.inert ({} : Machine.Settings Rat) _ _ xs⟩
  obtain ⟨_, hstart⟩ := hprotocol pressing
  obtain ⟨_, hlater⟩ := hprotocol (pressing ++ [step])
  have hkey : (afterAll Host.inert pressing Machine.still).board.keypad.first? = some 5 := by
    decide +kernel
  have hb := bounded_pressing
  have hword := completed_pressing
  rw [afterAll_append, afterAll_cons, afterAll_nil, after_step] at hlater
  rw [afterAll_append, afterAll_cons, afterAll_cons, afterAll_nil, keysTold, keysTold, keysTold,
    after_step, after_step]
  generalize afterAll Host.inert pressing Machine.still = m at hstart hlater hword hkey hb ⊢
  -- the first step asks for a key
  obtain ⟨hwait, hasked⟩ := hstart.asks _ hword ⟨rfl, rfl⟩
  rw [show Word.x 0xF30A = 3 from rfl] at hwait hasked
  have hkeypad := Machine.keypad_step Host.inert hb
  -- and the second step finds one, for the keys are still down
  generalize Call.step.after Host.inert m = n at hlater hwait hkeypad ⊢
  have hhalted : n.halted = false := hlater.running Host.inert_neverHalts (by rw [hwait]; rfl)
  obtain ⟨due, hdue⟩ := n.pollTimer_ok
  have hserviced := hlater.serviced Host.inert_neverFails due hdue
  obtain ⟨hdown, hleast⟩ := Keypad.first?_eq_some_iff.mp hkey
  rw [← hkeypad] at hdown hleast
  obtain ⟨hget, -, -, -, hnews⟩ := (hlater.waiting 3 hwait hhalted).resumes hserviced 5 hdown hleast
  rw [hasked, hnews]
  exact ⟨rfl, hget⟩

end Turn

end Chip8
