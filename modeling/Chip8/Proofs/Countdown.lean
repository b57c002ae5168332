import Chip8.Proofs.Footprint
import Chip8.Proofs.Halting
import Chip8.Proofs.Turns
import Mathlib.Logic.Function.Iterate
/-!
The two timers and the tone.

Both timers lose one with each timer period, as long as they run, and the tone sounds while the sound timer
does. Periods come in three ways: one by one, by a call; all that are due, where the timers catch up with the
clock; and so at the begin of every step. Words set the timers in between, and a restart clears them.

1. **Program** — `Chime` is all that a machine has to do with the timers: their values, the tone, the count of
   periods, and what was heard of the tone. Periods and completed words act on it by themselves (`Chime.tick`,
   `Chime.complete`), and nothing else does but a restart; so a run of the machine is followed by a run of its
   chime (`chime_step`, `chime_serviceTimers`, `chime_reset`).

2. **Specification** — what the chime is compared with is a history written from the turns alone. `Presets`
   says what each timer was set to last and how many periods there were since. The periods are those of the
   turns (`Turn.periods`): one for a call that asks for one, and those that are due where the timers catch up
   with the clock. The machine's own count of periods is not looked at; that it agrees is one of the results.

3. **Invariant** — `Chime.Follows`: each timer shows what it was set to less the periods since, and stops at
   zero; the tone is on exactly while the sound timer runs; and what was heard of the tone alternates and ends
   with the tone as it is. Every turn keeps it (`Turn.follows_after`), so it holds of every run
   (`Turn.countdown_afterAll`).

4. **Backlogs** — `Chime.iterate_tick` is the closed form of several periods at once. It is where the
   arithmetic is: the tone goes off with the one period in which the sound timer runs out, and that is heard
   once however many periods there are.
-/

namespace Chip8

variable {κ τ : Type} {s : Size}

/-- What is heard of the tone. -/
def Event.tone? : Event s → Option Bool
  | tone on => some on
  | _ => none

/-- The timers and the tone. -/
structure Chime where
  delay : Int
  sound : Int
  tone : Bool
  /-- Timer periods. -/
  ticks : Nat
  /-- What was heard of the tone, the latest first. -/
  heard : List Bool

/-- The timers and the tone of a machine. -/
def Machine.chime (m : Machine κ τ s) : Chime :=
  ⟨m.board.regs.delay, m.board.regs.sound, m.board.tone, m.ticks, m.heard.filterMap Event.tone?⟩

namespace Chime

/-- Set the tone; a change is heard. -/
def setTone (on : Bool) (c : Chime) : Chime :=
  { c with tone := on, heard := if on = c.tone then c.heard else on :: c.heard }

theorem setTone_of_eq {on : Bool} {c : Chime} (h : on = c.tone) :
    c.setTone on = { c with tone := on } := by
  rw [setTone, if_pos h]

theorem setTone_of_ne {on : Bool} {c : Chime} (h : on ≠ c.tone) :
    c.setTone on = { c with tone := on, heard := on :: c.heard } := by
  rw [setTone, if_neg h]

/-- Count down by one, unless the count is over. -/
def countDown (n : Int) : Int := if 0 < n then n - 1 else n

/-- One timer period: the timers count down, and the tone follows the sound timer. -/
def tick (c : Chime) : Chime :=
  setTone (decide (0 < countDown c.sound)) { c with
    delay := countDown c.delay
    sound := countDown c.sound
    ticks := c.ticks + 1 }

/-- Complete a word whose register holds a value. -/
def complete (w : Word) (value : Int) (c : Chime) : Chime :=
  if w.Misc 0x15 then { c with delay := value }
  else if w.Misc 0x18 then setTone (decide (0 < value)) { c with sound := value }
  else c

/-- A restart. -/
def restart (c : Chime) : Chime :=
  setTone false { c with delay := 0, sound := 0, ticks := 0 }

/-- The tone agrees with the sound timer, and the timers have not gone below zero. -/
structure Agrees (c : Chime) : Prop where
  delay : 0 ≤ c.delay
  sound : 0 ≤ c.sound
  tone : c.tone = decide (0 < c.sound)

/-- Counting down once more, also where the count is over already. -/
theorem countDown_max (v : Int) (n : Nat) :
    countDown (max 0 (v - n)) = max 0 (v - (n + 1 : Nat)) := by
  unfold countDown
  split <;> omega

/-- A backlog of periods in closed form: each timer has lost as many, as far as it goes, and at most one
    change of the tone is heard, in the period in which the sound timer runs out. -/
theorem iterate_tick {c : Chime} (h : c.Agrees) (n : Nat) :
    tick^[n] c =
      { delay := max 0 (c.delay - n)
        sound := max 0 (c.sound - n)
        tone := decide (0 < max 0 (c.sound - n))
        ticks := c.ticks + n
        heard := if 0 < c.sound ∧ c.sound ≤ n then false :: c.heard else c.heard } := by
  obtain ⟨delay, sound, tone, ticks, heard⟩ := c
  obtain ⟨hdelay, hsound, htone⟩ := h
  dsimp only at hdelay hsound htone ⊢
  induction n with
  | zero =>
    have hd : max 0 (delay - (0 : Nat)) = delay := by omega
    have hs : max 0 (sound - (0 : Nat)) = sound := by omega
    rw [hd, hs, if_neg (by omega), ← htone]
    rfl
  | succ n ih =>
    rw [Function.iterate_succ_apply', ih, tick, setTone]
    simp only [countDown_max, mk.injEq, true_and, Nat.add_assoc]
    -- the tone goes off with the period in which the sound timer runs out
    rcases Int.lt_trichotomy sound (n + 1 : Nat) with hlt | heq | hgt
    · have hoff : decide (0 < max 0 (sound - n)) = false := by
        rw [decide_eq_false_iff_not]
        omega
      have hoff' : decide (0 < max 0 (sound - (n + 1 : Nat))) = false := by
        rw [decide_eq_false_iff_not]
        omega
      rw [hoff, hoff', if_pos rfl]
      exact if_congr (by omega) rfl rfl
    · have hon : decide (0 < max 0 (sound - n)) = true := by
        rw [decide_eq_true_eq]
        omega
      have hoff : decide (0 < max 0 (sound - (n + 1 : Nat))) = false := by
        rw [decide_eq_false_iff_not]
        omega
      rw [hon, hoff, if_neg (by decide), if_neg (by omega), if_pos (by omega)]
    · have hon : decide (0 < max 0 (sound - n)) = true := by
        rw [decide_eq_true_eq]
        omega
      have hon' : decide (0 < max 0 (sound - (n + 1 : Nat))) = true := by
        rw [decide_eq_true_eq]
        omega
      rw [hon, hon', if_pos rfl, if_neg (by omega), if_neg (by omega)]

/-- What was heard of a tone, the latest first, began with `true` and changed each time up to now. -/
def Alternates (heard : List Bool) (tone : Bool) : Prop :=
  heard.reverse = (List.range heard.length).map (fun k => decide (k % 2 = 0)) ∧
    tone = decide (heard.length % 2 = 1)

/-- The last that was heard is the tone; nothing was heard of a tone that never went on. -/
theorem Alternates.head?_eq {heard : List Bool} {tone : Bool} (h : Alternates heard tone) :
    heard.head?.getD false = tone := by
  obtain ⟨hlist, rfl⟩ := h
  rw [← List.getLast?_reverse, hlist]
  cases hn : heard.length with
  | zero => rfl
  | succ n =>
    rw [List.range_succ, List.map_append, List.map_singleton, List.getLast?_concat, Option.getD_some]
    exact decide_eq_decide.mpr (by omega)

/-- A change of the tone that is heard is the one that was missing. -/
theorem Alternates.setTone {c : Chime} (h : Alternates c.heard c.tone) (on : Bool) :
    Alternates (c.setTone on).heard on := by
  obtain ⟨hlist, htone⟩ := h
  unfold Chime.setTone
  by_cases hon : on = c.tone
  · rw [if_pos hon]
    exact ⟨hlist, hon.trans htone⟩
  · rw [if_neg hon]
    -- the tone that comes on is the one that the length asks for
    have hflip : on = !c.tone := by
      rw [Bool.eq_not]
      exact hon
    have hparity : on = decide (c.heard.length % 2 = 0) := by
      rw [hflip, htone, ← decide_not]
      exact decide_eq_decide.mpr (by omega)
    refine ⟨?_, ?_⟩
    · rw [List.reverse_cons, hlist, List.length_cons, List.range_succ, List.map_append,
        List.map_singleton, ← hparity]
    · rw [hparity, List.length_cons]
      exact decide_eq_decide.mpr (by omega)

end Chime

/-! ## Presets

The specification: a timer shows what it was last set to less the periods since, and never less than zero.
Nothing counts down in it, since the periods are counted beside it. -/

/-- What a timer was set to last, and how many timer periods there were since. -/
structure Preset where
  value : Int
  since : Nat

namespace Preset

/-- A timer that was never set. -/
def unset : Preset := ⟨0, 0⟩

/-- What the timer shows: the periods are taken off, but it stops at zero. -/
def shows (p : Preset) : Int := max 0 (p.value - p.since)

/-- Some periods later. -/
def elapse (n : Nat) (p : Preset) : Preset := { p with since := p.since + n }

/-- A word `Fxkk` sets the timer to the value of its register, and the periods are counted anew. -/
def complete (kk : UInt8) (w : Word) (value : Int) (p : Preset) : Preset :=
  if w.Misc kk then ⟨value, 0⟩ else p

theorem shows_self {value : Int} (h : 0 ≤ value) : shows ⟨value, 0⟩ = value := by
  dsimp only [shows]
  omega

theorem shows_elapse (p : Preset) (n : Nat) : (p.elapse n).shows = max 0 (p.shows - n) := by
  dsimp only [shows, elapse]
  omega

end Preset

/-- What both timers were set to, and how many timer periods there were since the last restart. -/
structure Presets where
  delay : Preset
  sound : Preset
  periods : Nat

namespace Presets

/-- After a restart neither timer was set, and there were no periods. -/
def fresh : Presets := ⟨.unset, .unset, 0⟩

/-- Some periods later. -/
def elapse (n : Nat) (p : Presets) : Presets :=
  ⟨p.delay.elapse n, p.sound.elapse n, p.periods + n⟩

/-- A completed word may set one of the timers to the value of its register. -/
def complete (w : Word) (value : Int) (p : Presets) : Presets :=
  { p with delay := p.delay.complete 0x15 w value, sound := p.sound.complete 0x18 w value }

end Presets

/-- The invariant: the timers show what they were set to, less the periods since, and the tone follows. -/
structure Chime.Follows (c : Chime) (p : Presets) : Prop where
  ticks : c.ticks = p.periods
  delay : c.delay = p.delay.shows
  sound : c.sound = p.sound.shows
  tone : c.tone = decide (0 < c.sound)
  heard : Chime.Alternates c.heard c.tone

namespace Chime.Follows

variable {c : Chime} {p : Presets}

theorem agrees (h : c.Follows p) : c.Agrees := by
  refine ⟨?_, ?_, h.tone⟩
  · rw [h.delay]
    exact Int.le_max_left ..
  · rw [h.sound]
    exact Int.le_max_left ..

/-- A backlog of periods leaves what the presets show so many periods later. -/
theorem iterate_tick (h : c.Follows p) (n : Nat) : (tick^[n] c).Follows (p.elapse n) := by
  have heard : Alternates (tick^[n] c).heard (tick^[n] c).tone := by
    induction n with
    | zero => exact h.heard
    | succ n ih =>
      rw [Function.iterate_succ_apply']
      exact ih.setTone (c := { tick^[n] c with
        delay := countDown (tick^[n] c).delay
        sound := countDown (tick^[n] c).sound
        ticks := (tick^[n] c).ticks + 1 }) _
  rw [Chime.iterate_tick h.agrees] at heard ⊢
  refine ⟨?_, ?_, ?_, rfl, heard⟩
  · exact congrArg (· + n) h.ticks
  · exact (congrArg (fun v => max 0 (v - (n : Int))) h.delay).trans (p.delay.shows_elapse n).symm
  · exact (congrArg (fun v => max 0 (v - (n : Int))) h.sound).trans (p.sound.shows_elapse n).symm

/-- A completed word sets the timer that it names, in the chime and in the presets, or neither. -/
theorem complete (h : c.Follows p) (w : Word) {value : Int} (hvalue : 0 ≤ value) :
    (c.complete w value).Follows (p.complete w value) := by
  unfold Chime.complete Presets.complete Preset.complete
  by_cases hdelay : w.Misc 0x15
  · have hsound : ¬w.Misc 0x18 := fun hw => absurd (hdelay.2.symm.trans hw.2) (by decide)
    rw [if_pos hdelay, if_pos hdelay, if_neg hsound]
    exact ⟨h.ticks, (Preset.shows_self hvalue).symm, h.sound, h.tone, h.heard⟩
  · rw [if_neg hdelay, if_neg hdelay]
    by_cases hsound : w.Misc 0x18
    · rw [if_pos hsound, if_pos hsound]
      exact ⟨h.ticks, h.delay, (Preset.shows_self hvalue).symm, rfl,
        h.heard.setTone (c := { c with sound := value }) _⟩
    · rw [if_neg hsound, if_neg hsound]
      exact h

/-- After a restart both begin anew, but what was heard before stays heard. -/
theorem restart (h : c.Follows p) : c.restart.Follows .fresh :=
  ⟨rfl, rfl, rfl, rfl, h.heard.setTone (c := { c with delay := 0, sound := 0, ticks := 0 }) false⟩

end Chime.Follows

/-! ## Timer periods

How many periods a turn serves: one for a call of the timers, and all that are due for a service. The number
is read off the turn and the cadence and does not depend on what the machine counts itself. -/

/-- The timer periods that are due: by as many a service of the timers is behind the clock. None are if
    they have no number. -/
def Machine.due [Seconds τ] [Clock κ τ] (m : Machine κ τ s) : Nat :=
  match (Machine.pollTimer.exec m).1 with
  | .ok due => due.toNat
  | .error _ => 0

/-- The timer periods of a turn. A call that asks for one is one period, whatever the clock says. Where the
    timers catch up with the clock there are as many as are due, and every step of a machine that is not
    halted begins with that. -/
def Turn.periods [Seconds τ] [Clock κ τ] : Turn κ → Machine κ τ s → Nat
  | .call .tick _, _ => 1
  | .call .step _, m => if m.halted then 0 else m.due
  | .service, m => m.due
  | _, _ => 0

theorem Turn.periods_step [Seconds τ] [Clock κ τ] (m : Machine κ τ s) :
    Turn.step.periods m = if m.halted then 0 else m.due := rfl

/-! ## The chime of a machine

What operations of a machine do to its two timers, to its tone and to the news of it, one lemma for each
operation. Only timer periods, the two instructions that set a timer, and restarts are left after this. -/

/-- The timers and the tone of a core. -/
def Core.chime (c : Core s) (heard : List Bool) : Chime :=
  ⟨c.board.regs.delay, c.board.regs.sound, c.board.tone, c.ticks, heard⟩

namespace Board

variable (strict : Bool) (noise : Nat → UInt8) {b : Board s} (hb : b.regs.Sound) (w : Word)

include hb

/-- One word sets the delay timer, to the byte in its register. -/
theorem delay_executed : (b.executed strict noise w).regs.delay =
    if w.Misc 0x15 then ((b.regs.get w.x).toNat : Int) else b.regs.delay := by
  by_cases hw : w.Misc 0x15
  · rw [if_pos hw, executed_eq, (Instruction.ofWord_eq_iff w (.setDelay w.x)).mpr ⟨hw, rfl⟩]
    rfl
  · rw [if_neg hw]
    exact Decidable.byContradiction fun hne => hw ((footprint_executed strict noise hb w).delay hne)

/-- One word sets the sound timer, to the byte in its register. -/
theorem sound_executed : (b.executed strict noise w).regs.sound =
    if w.Misc 0x18 then ((b.regs.get w.x).toNat : Int) else b.regs.sound := by
  by_cases hw : w.Misc 0x18
  · rw [if_pos hw, executed_eq, (Instruction.ofWord_eq_iff w (.setSound w.x)).mpr ⟨hw, rfl⟩, exec_setSound]
    rfl
  · rw [if_neg hw]
    exact Decidable.byContradiction fun hne => hw ((footprint_executed strict noise hb w).sound hne)

/-- The word that sets the sound timer also sets the tone: it is on if the timer runs then. -/
theorem tone_executed : (b.executed strict noise w).tone =
    if w.Misc 0x18 then decide (0 < ((b.regs.get w.x).toNat : Int)) else b.tone := by
  by_cases hw : w.Misc 0x18
  · rw [if_pos hw, executed_eq, (Instruction.ofWord_eq_iff w (.setSound w.x)).mpr ⟨hw, rfl⟩, exec_setSound]
    rfl
  · rw [if_neg hw]
    exact Decidable.byContradiction fun hne => hw ((footprint_executed strict noise hb w).tone hne)

omit hb in
/-- A word that changes the tone has that to tell, and no other word tells anything of the tone. -/
theorem heard_effect :
    (Machine.told ((b.mapRegs (·.noting w)).effect (Instruction.ofWord w)) : List (Event s)).filterMap
        Event.tone? =
      if w.Misc 0x18 ∧ decide (0 < ((b.regs.get w.x).toNat : Int)) ≠ b.tone then
        [decide (0 < ((b.regs.get w.x).toNat : Int))]
      else [] := by
  by_cases hw : w.Misc 0x18
  · have heffect : (b.mapRegs (·.noting w)).effect (.setSound w.x) =
        if decide (0 < ((b.regs.get w.x).toNat : Int)) = b.tone then .quiet
        else .tone (decide (0 < ((b.regs.get w.x).toNat : Int))) := rfl
    rw [(Instruction.ofWord_eq_iff w (.setSound w.x)).mpr ⟨hw, rfl⟩, heffect]
    by_cases hon : decide (0 < ((b.regs.get w.x).toNat : Int)) = b.tone
    · rw [if_pos hon, if_neg fun h => h.2 hon]
      rfl
    · rw [if_neg hon, if_pos ⟨hw, hon⟩]
      rfl
  · rw [if_neg fun h => hw h.1]
    -- of the other words it is known that their effect is no tone
    have htone := effect_ne_tone hw (b.mapRegs (·.noting w))
    generalize (b.mapRegs (·.noting w)).effect (Instruction.ofWord w) = e at htone ⊢
    cases e with
    | tone on => exact absurd rfl (htone on)
    | _ => rfl

end Board

namespace Machine

/-- What a machine has to do with the timers and the tone is in its core and in what was heard. -/
theorem chime_eq_of_core {m : Machine κ τ s} {c : Core s} {heard : List Bool} (hcore : m.core = c)
    (hheard : m.heard.filterMap Event.tone? = heard) : m.chime = c.chime heard := by
  rw [← hcore, ← hheard]
  rfl

variable [Seconds τ] [Clock κ τ] {host : Host s}

/-- To set the tone of a machine sets it in the chime, also if a listener fails to hear of it. -/
theorem chime_setTone (host : Host s) (on : Bool) (m : Machine κ τ s) :
    ((setTone host on).exec m).2.chime = m.chime.setTone on := by
  have hheard : ((setTone host on).exec m).2.heard.filterMap Event.tone? =
      if on = m.chime.tone then m.chime.heard else on :: m.chime.heard := by
    rw [exec_setTone, heard_deliver]
    by_cases hon : on = m.board.tone
    · rw [if_pos hon, if_pos (show on = m.chime.tone from hon)]
      rfl
    · rw [if_neg hon, if_neg (show ¬on = m.chime.tone from hon)]
      rfl
  exact chime_eq_of_core (core_setTone host on m) hheard

/-- A completed word acts on the chime by the value of its register. -/
theorem chime_counted (host : Host s) {m : Machine κ τ s} (hm : m.Bounded) {w : Word}
    (hw : m.board.memory.WordAt m.board.regs.pc w) :
    ((announceFrame host).exec (m.counted host w)).2.chime =
      m.chime.complete w (m.board.regs.get w.x).toNat := by
  have hsound : m.fetched.board.regs.Sound := sound_fetched hm (lt_of_wordAt hw)
  -- neither a trace nor a picture says anything of the tone
  have hheard : ((announceFrame host).exec (m.counted host w)).2.heard.filterMap Event.tone? =
      (Machine.told ((m.fetched.board.mapRegs (·.noting w)).effect (Instruction.ofWord w)) :
        List (Event s)).filterMap Event.tone? ++ m.chime.heard := by
    have hpicture : ((announceFrame host).exec (m.counted host w)).2.heard.filterMap Event.tone? =
        (m.counted host w).heard.filterMap Event.tone? := by
      rw [heard_announceFrame]
      split <;> rfl
    rw [hpicture, heard_counted, List.filterMap_append]
    split <;> rfl
  obtain ⟨traces, hcore⟩ := core_announced host w m
  refine (chime_eq_of_core hcore hheard).trans ?_
  rw [Board.heard_effect, Core.chime, Chime.complete]
  dsimp only
  rw [Board.delay_executed m.strict m.noise hsound, Board.sound_executed m.strict m.noise hsound,
    Board.tone_executed m.strict m.noise hsound]
  by_cases hdelay : w.Misc 0x15
  · have hno : ¬w.Misc 0x18 := fun hw => absurd (hdelay.2.symm.trans hw.2) (by decide)
    simp only [hdelay, hno, if_true, if_false, false_and]
    rfl
  · by_cases hsnd : w.Misc 0x18
    · simp only [hdelay, hsnd, if_true, if_false, true_and]
      by_cases hon : decide (0 < ((m.fetched.board.regs.get w.x).toNat : Int)) = m.fetched.board.tone
      · rw [if_neg (not_not_intro hon)]
        refine Eq.symm ((Chime.setTone_of_eq ?_).trans rfl)
        exact hon
      · rw [if_pos hon]
        refine Eq.symm ((Chime.setTone_of_ne ?_).trans rfl)
        exact hon
    · simp only [hdelay, hsnd, if_false, false_and]
      rfl

omit [Seconds τ] [Clock κ τ] in
/-- A halt leaves the chime alone. -/
theorem Stopped.chime_eq {t m' : Machine κ τ s} {halt : Halt} (h : Stopped t halt m') :
    m'.chime = t.chime := by
  have hheard : m'.heard.filterMap Event.tone? = t.heard.filterMap Event.tone? := by
    rcases h.heard with heq | ⟨entry, -, heq⟩
    · rw [heq]
    · rw [heq]
      rfl
  cases hword : halt.word with
  | none => rw [chime, chime, h.fetching hword, h.ticks, hheard]
  | some w =>
    have hinterrupted := h.executing w hword
    rw [chime, chime, hinterrupted.delay, hinterrupted.sound, hinterrupted.tone, h.ticks, hheard]

section NeverFails

variable (hfails : host.NeverFails)

include hfails

/-- A timer period of the machine is one of the chime. The machine counts the sound timer down and sets the tone
    before it counts the delay timer down; that a listener hears of the tone in between makes no difference. -/
theorem chime_tick (m : Machine κ τ s) : ((tick host).exec m).2.chime = m.chime.tick := by
  have hok (on : Bool) (m : Machine κ τ s) := Act.exec_of_neverFails hfails (setTone_fails host on) m
  -- what comes after the tone was set
  have hrest (t : Machine κ τ s) :
      Machine.chime { t.mapRegs fun r => if 0 < r.delay then { r with delay := r.delay - 1 } else r with
        ticks := t.ticks + 1 } =
      { t.chime with delay := Chime.countDown t.chime.delay, ticks := t.chime.ticks + 1 } := by
    by_cases hpos : 0 < t.board.regs.delay
    · simp [chime, mapRegs, Board.mapRegs, Chime.countDown, hpos]
    · simp [chime, mapRegs, Board.mapRegs, Chime.countDown, hpos]
  rw [tick, Act.exec_get_bind, Chime.tick, Chime.countDown]
  dsimp only
  split
  · next hpos =>
    rw [Act.exec_modify_bind, Act.exec_bind_of_ok (hok _ _), Act.exec_modify_bind, Act.exec_modify]
    refine (hrest _).trans ?_
    rw [chime_setTone, if_pos (show 0 < m.chime.sound from hpos)]
    rfl
  · next hpos =>
    have hoff : decide (0 < m.chime.sound) = false := decide_eq_false hpos
    rw [Act.exec_bind_of_ok (hok _ _), Act.exec_modify_bind, Act.exec_modify]
    refine (hrest _).trans ?_
    rw [chime_setTone, if_neg (show ¬0 < m.chime.sound from hpos), hoff]
    rfl

/-- Where no listener fails, several periods are one period several times. -/
theorem exec_tickTimes (n : Nat) (m : Machine κ τ s) :
    (tickTimes host n).exec m = (.ok (), (Call.tick.after host)^[n] m) := by
  induction n generalizing m with
  | zero => rfl
  | succ n ih =>
    rw [tickTimes, Act.exec_bind_of_ok (Act.exec_of_neverFails hfails (tick_fails host) m), ih]
    rfl

/-- Several periods, one after another. -/
theorem chime_iterate_tick (n : Nat) (m : Machine κ τ s) :
    ((Call.tick.after host)^[n] m).chime = Chime.tick^[n] m.chime :=
  Function.Semiconj.iterate_right (f := Machine.chime) (chime_tick hfails) n m

/-- Servicing the timers is a backlog: the periods that are due, one after another. -/
theorem chime_serviceTimers (m : Machine κ τ s) :
    ((serviceTimers host).exec m).2.chime = Chime.tick^[m.due] m.chime := by
  have hpoll : (pollTimer.exec m).2.chime = m.chime := by
    rw [exec_pollTimer]
    split <;> rfl
  rw [serviceTimers, Act.exec_bind, due]
  generalize pollTimer.exec m = out at hpoll ⊢
  obtain ⟨answer, t⟩ := out
  cases answer with
  | error e => exact hpoll
  | ok due =>
    dsimp only
    rw [exec_tickTimes hfails, chime_iterate_tick hfails]
    exact congrArg _ hpoll

/-- An instruction that does not come to its end leaves the chime alone. -/
theorem Ran.chime_kept {t : Machine κ τ s} (hb : t.Bounded)
    {out : Except Failure Unit × Machine κ τ s} (h : Ran host t out) :
    (out.2.instructions = t.instructions ∧ out.2.chime = t.chime) ∨
      ∃ w, t.board.memory.WordAt t.board.regs.pc w ∧
        out = (announceFrame host).exec (t.counted host w) := by
  have hstopped (halt : Halt) (hout : out.1 = .error (.halt halt)) : Stopped t halt out.2 :=
    h.stopped hb hout
  -- no listener fails, so the instruction halted or came to its end
  cases h with
  | noWord past => exact Or.inl ⟨rfl, rfl⟩
  | untraced fetched fails | untold fetched fault fails => exact absurd hfails fails.2
  | fault fetched fault =>
    have hstop := hstopped _ rfl
    exact Or.inl ⟨hstop.instructions, hstop.chime_eq⟩
  | @done w fetched fault =>
    rw [counted_eq]
    exact Or.inr ⟨w, fetched, rfl⟩

/-- A step is a backlog of the periods that are due, and then the word that it completes. -/
theorem chime_step {m : Machine κ τ s} (hb : m.Bounded) :
    (Call.step.after host m).chime =
      match m.completed host with
      | none => Chime.tick^[Turn.step.periods m] m.chime
      | some w => (Chime.tick^[Turn.step.periods m] m.chime).complete w (m.board.regs.get w.x).toNat := by
  -- a step that completes nothing is a backlog and no more
  have hidle (hcount : (Call.step.after host m).instructions = m.instructions)
      (hchime : (Call.step.after host m).chime = Chime.tick^[Turn.step.periods m] m.chime) :
      (Call.step.after host m).chime =
        match m.completed host with
        | none => Chime.tick^[Turn.step.periods m] m.chime
        | some w =>
          (Chime.tick^[Turn.step.periods m] m.chime).complete w (m.board.regs.get w.x).toNat := by
    rw [completed_eq_none hcount]
    exact hchime
  cases hhalted : m.halted with
  | true =>
    have hsame : Call.step.after host m = m := by
      rw [Call.after, Call.act, exec_step_of_halted host hhalted]
    refine hidle (by rw [hsame]) ?_
    rw [hsame, Turn.periods_step, if_pos hhalted]
    rfl
  | false =>
    have hperiods : Turn.step.periods m = m.due := by
      rw [Turn.periods_step, hhalted]
      rfl
    have hservice := chime_serviceTimers hfails m
    rw [← hperiods] at hservice
    have hmoved := moved_step host hb
    generalize hu : Call.step.after host m = u at hmoved hidle ⊢
    cases hmoved with
    | halted halted => exact absurd halted (by simp [hhalted])
    | unserviced service ticked =>
      rw [service] at hservice
      exact hidle (congrArg Core.instructions ticked.core) hservice
    | @polled t service ticked x wait =>
      rw [service] at hservice
      obtain ⟨v, wait, hcore⟩ := core_pollKeys host x t
      have hheard : ((pollKeys host x).exec t).2.heard.filterMap Event.tone? =
          t.heard.filterMap Event.tone? := by
        rw [heard_pollKeys]
        split <;> rfl
      exact hidle ((congrArg Core.instructions hcore).trans (congrArg Core.instructions ticked.core))
        ((chime_eq_of_core hcore hheard).trans hservice)
    | @ran t service ticked bounded wait out ran =>
      rw [service] at hservice
      have hbytes (x : Fin 16) : t.board.regs.get x = m.board.regs.get x :=
        congrArg (·.board.regs.get x) ticked.core
      rcases ran.chime_kept hfails bounded with ⟨hcount, hchime⟩ | ⟨w, fetched, rfl⟩
      · exact hidle (hcount.trans (congrArg Core.instructions ticked.core)) (hchime.trans hservice)
      · rw [completed_of_counted ticked fetched hu, chime_counted host bounded fetched, hbytes, hservice]

/-- A reset restarts the chime. -/
theorem chime_reset (m : Machine κ τ s) : ((reset host).exec m).2.chime = m.chime.restart := by
  have hrestarted (t : Machine κ τ s) : (restarted t).chime = { t.chime with ticks := 0 } := by
    obtain ⟨hcore, hheard, -⟩ := restarted_frame t
    exact chime_eq_of_core hcore (by rw [hheard]; rfl)
  rw [exec_reset_of_neverFails hfails, hrestarted, chime_setTone]
  rfl

/-- A load restarts the chime, for it ends in a reset. -/
theorem chime_load (program : Program) (m : Machine κ τ s) :
    ((load host program).exec m).2.chime = m.chime.restart := by
  obtain ⟨log, hload⟩ := after_load host program m
  rw [hload]
  exact chime_reset hfails { m with program }

end NeverFails

end Machine

/-! ## Whole runs

The invariant `Follows` from turn to turn, with the presets of the run beside the machine. -/

namespace Turn

variable [Seconds τ] [Clock κ τ] {host : Host s}

/-- The presets after a turn. A restart forgets them. At any other turn the timer periods of the turn
    elapse, and then a completed word may set a timer. -/
def preset (host : Host s) (x : Turn κ) (m : Machine κ τ s) (p : Presets) : Presets :=
  if x.kind = .restart then .fresh
  else match x.completed host m with
  | none => p.elapse (x.periods m)
  | some w => (p.elapse (x.periods m)).complete w (m.board.regs.get w.x).toNat

/-- The presets after turns that began with a fresh machine. -/
def presets (host : Host s) (xs : List (Turn κ)) (m : Machine κ τ s) : Presets :=
  track host (preset host) xs m .fresh

/-- A turn that is nothing but timer periods is as many periods of the chime. -/
theorem chime_after_of_tick (hfails : host.NeverFails) {x : Turn κ} (hx : x.kind = .tick)
    (m : Machine κ τ s) : (x.after host m).chime = Chime.tick^[x.periods m] m.chime := by
  cases x with
  | call c single =>
    cases c with
    | tick => exact Machine.chime_tick hfails m
    | _ => cases hx
  | service => exact Machine.chime_serviceTimers hfails m
  | _ => cases hx

/-- A restart is the one turn that sets the periods back. -/
theorem chime_after_of_restart (hfails : host.NeverFails) {x : Turn κ} (hx : x.kind = .restart)
    (m : Machine κ τ s) : (x.after host m).chime = m.chime.restart := by
  cases x with
  | call c single =>
    cases c with
    | load program => exact Machine.chime_load hfails program m
    | reset => exact Machine.chime_reset hfails m
    | _ => cases hx
  | _ => cases hx

/-- Keys, switches, time and the stop signal make no timer period. -/
theorem periods_of_aside {x : Turn κ} (hx : x.kind = .aside) (m : Machine κ τ s) : x.periods m = 0 := by
  cases x with
  | call c single =>
    cases c with
    | step | tick | load program | reset => cases hx
    | _ => rfl
  | service => cases hx
  | _ => rfl

/-- Every turn keeps the invariant. The four kinds of turns act on the chime and on the presets in the same
    order: first the periods, then the word. -/
theorem follows_after (hfails : host.NeverFails) (x : Turn κ) {m : Machine κ τ s} {p : Presets}
    (h : m.Bounded ∧ m.chime.Follows p) :
    (x.after host m).Bounded ∧ (x.after host m).chime.Follows (x.preset host m p) := by
  obtain ⟨hb, hfollows⟩ := h
  refine ⟨x.bounded_after host hb, ?_⟩
  have hticks := hfollows.iterate_tick (x.periods m)
  -- a turn that completes no word lets its periods elapse and does nothing else to the presets
  have hnone (hno : x.kind ≠ .step) (hrestart : x.kind ≠ .restart) :
      x.preset host m p = p.elapse (x.periods m) := by
    rw [preset, if_neg hrestart, completed_of_ne hno]
  cases hx : x.kind with
  | step =>
    obtain rfl := eq_step_of_kind hx
    have hstep := Machine.chime_step hfails hb
    have hafter : (step.after host m).chime = (Call.step.after host m).chime := rfl
    rw [preset, if_neg (by simp), hafter, hstep, completed_step]
    cases m.completed host with
    | none => exact hticks
    | some w => exact hticks.complete w (Int.natCast_nonneg _)
  | tick =>
    rw [hnone (by simp [hx]) (by simp [hx]), chime_after_of_tick hfails hx]
    exact hticks
  | restart =>
    rw [preset, if_pos hx, chime_after_of_restart hfails hx]
    exact hfollows.restart
  | aside =>
    obtain ⟨⟨keypad, strict, tracing, hcore⟩, hheard, -⟩ := aside_after host hx m
    have hchime : (x.after host m).chime = m.chime :=
      Machine.chime_eq_of_core hcore (by rw [hheard])
    rw [periods_of_aside hx] at hticks hnone
    rw [hnone (by simp [hx]) (by simp [hx]), hchime]
    exact hticks

end Turn

/-- The timers of a machine count down from their presets, and the tone follows the sound timer. -/
structure Countdown [Seconds τ] [Clock κ τ] (host : Host s) (m : Machine κ τ s) (p : Presets) : Prop where
  /-- Every timer period since the last restart was counted, and nothing else. -/
  ticks : m.ticks = p.periods
  delay : m.board.regs.delay = max 0 (p.delay.value - p.delay.since)
  sound : m.board.regs.sound = max 0 (p.sound.value - p.sound.since)
  tone : m.board.tone = true ↔ 0 < m.board.regs.sound
  /-- What was heard of the tone, in the order of time, begins with `true` and changes each time. -/
  heard : (m.heard.filterMap Event.tone?).reverse =
    (List.range (m.heard.filterMap Event.tone?).length).map fun k => decide (k % 2 = 0)
  /-- The last that was heard of the tone is what it is. -/
  last : (m.heard.filterMap Event.tone?).head?.getD false = m.board.tone
  /-- A step of a running machine completes the word at the counter, if it does not fail. So it completes
      the words that set the timers. -/
  completes : m.halted = false → m.wait = none → ((Machine.step host).exec m).1 = .ok () →
    ∃ w, m.completed host = some w ∧ m.board.memory.WordAt m.board.regs.pc w
  /-- A single period takes one off each timer that runs. -/
  period : (Call.tick.after host m).ticks = m.ticks + 1 ∧
    (Call.tick.after host m).board.regs.delay = max 0 (m.board.regs.delay - 1) ∧
    (Call.tick.after host m).board.regs.sound = max 0 (m.board.regs.sound - 1)
  /-- Servicing a backlog takes all of its periods off, leaves what as many single periods leave, and is
      heard at most once: when the sound timer runs out. -/
  backlog : ∀ due, (Machine.pollTimer.exec m).1 = .ok due →
    ((Machine.serviceTimers host).exec m).2.chime = ((Call.tick.after host)^[due.toNat] m).chime ∧
      ((Machine.serviceTimers host).exec m).2.chime =
        { delay := max 0 (m.board.regs.delay - due.toNat)
          sound := max 0 (m.board.regs.sound - due.toNat)
          tone := decide (0 < max 0 (m.board.regs.sound - due.toNat))
          ticks := m.ticks + due.toNat
          heard := (if 0 < m.board.regs.sound ∧ m.board.regs.sound ≤ due.toNat then [false] else []) ++
            m.heard.filterMap Event.tone? }

namespace Turn

variable [Seconds τ] [Clock κ τ] {host : Host s}

/-- All that is said of the countdown follows from the invariant: a single period and a backlog by the closed
    form, since the timers have not gone below zero and the tone agrees with them. -/
theorem countdown_of_follows (hfails : host.NeverFails) {m : Machine κ τ s} (hb : m.Bounded) {p : Presets}
    (h : m.chime.Follows p) : Countdown host m p := by
  -- several periods at once, in closed form
  have hclosed (n : Nat) := Chime.iterate_tick h.agrees n
  refine ⟨h.ticks, h.delay, h.sound, ?_, h.heard.1, h.heard.head?_eq, ?_, ?_, ?_⟩
  · have htone : m.board.tone = decide (0 < m.board.regs.sound) := h.tone
    rw [htone, decide_eq_true_eq]
  · intro hhalted hwait hok
    exact Machine.completed_of_ok hb hhalted hwait hok
  · have hone : (Call.tick.after host m).chime = Chime.tick^[1] m.chime := Machine.chime_tick hfails m
    rw [hclosed] at hone
    exact ⟨congrArg Chime.ticks hone, congrArg Chime.delay hone, congrArg Chime.sound hone⟩
  · intro due hdue
    have hservice := Machine.chime_serviceTimers hfails m
    have hcount : m.due = due.toNat := by rw [Machine.due, hdue]
    rw [hcount] at hservice
    refine ⟨hservice.trans (Machine.chime_iterate_tick hfails _ m).symm, ?_⟩
    rw [hservice, hclosed]
    refine congrArg _ ?_
    show (if 0 < m.board.regs.sound ∧ m.board.regs.sound ≤ due.toNat
      then false :: m.heard.filterMap Event.tone? else m.heard.filterMap Event.tone?) = _
    split <;> rfl

/-- At every time of every run the timers have counted down from what they were last set to, and the
    tone sounds as long as the sound timer runs, whoever listens without failing. -/
theorem countdown_afterAll (hfails : host.NeverFails) (settings : Machine.Settings τ) (clock : κ)
    (noise : Nat → UInt8) (xs : List (Turn κ)) :
    Countdown host (afterAll host xs (.create settings clock noise))
      (presets host xs (.create settings clock noise)) := by
  have hchime : (Machine.create settings clock noise : Machine κ τ s).chime = ⟨0, 0, false, 0, []⟩ := by
    rw [Machine.create, Machine.chime_reset Host.inert_neverFails]
    rfl
  have hcreate : (Machine.create settings clock noise : Machine κ τ s).chime.Follows .fresh := by
    rw [hchime]
    exact ⟨rfl, rfl, rfl, rfl, rfl, rfl⟩
  have hb : (Machine.create settings clock noise : Machine κ τ s).Bounded :=
    (Machine.Reachable.create settings clock noise : Machine.Reachable host _).bounded
  have hxs : ∀ x ∈ xs, True := fun _ _ => trivial
  -- the bounds are kept along with the agreement, since steps are analysed within bounds
  have hrun := invariant_track
    (I := fun (m : Machine κ τ s) (p : Presets) => m.Bounded ∧ m.chime.Follows p)
    (fun x _ _ _ h => follows_after hfails x h) hxs (g := .fresh) ⟨hb, hcreate⟩
  exact countdown_of_follows hfails hrun.1 hrun.2

/-- A program that sets the sound timer to five. -/
def beeping : Program := ⟨"", [0x60, 0x05, 0xF0, 0x18], by decide⟩

/-- The program is loaded and makes two steps. Then there is a single period, and a twentieth of a second
    later the timers catch up with the clock. -/
def beep : List (Turn (ManualClock Rat)) :=
  [.call (.load beeping) rfl, .step, .step, .call .tick rfl, .call (.elapse (·.advance (1 / 20))) rfl,
    .service]

/-- The timers and the tone agree with the presets after all of it. -/
theorem countdown_beep :
    Countdown Host.inert (afterAll Host.inert beep .still) (presets Host.inert beep .still) :=
  countdown_afterAll Host.inert_neverFails ({} : Machine.Settings Rat)
    (⟨0, 0, 0⟩ : ManualClock Rat) (fun _ => 0) beep

end Turn

end Chip8
