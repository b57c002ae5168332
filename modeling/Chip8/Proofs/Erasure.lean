import Chip8.Proofs.Alike
/-!
What a machine remembers when a program is installed.

A program is installed where it is loaded, and where the machine that holds it is reset. A player expects that
it then runs as on a new machine. That is a statement about all parts of the machine at once, and about all
that may have happened before: a part that was forgotten in the reset would carry something over.

1. **One installation** — `Installed` says by equations what is left: whatever an installation sets, and
   everything else as it was (`exec_installs`). It holds whatever the machine was, unless a listener fails or
   pauses the machine over the tone going off, which is the one event of an installation (`Spares`).

2. **Power-on** — from the equations every part is read off (`PoweredOn`): memory, registers, display, tone,
   the wait for a key, the halt, all counts and the traces are as they were when the machine was built, with
   the program in memory. The keys, the switches, the pause, the random bytes and the clock are not touched.

3. **Two installations** — two machines that were built with the same settings and agree in what is not
   touched (`Peers`) are alike from then on (`Installed.alike`), and so do the same whatever is done to both
   (`Chip8.Proofs.Alike`), however different their histories were (`erases_history`). Of the settings only the
   rates are left in a machine, and no call changes those (`BuiltWith.rates_eq`).
-/

namespace Chip8

variable {κ κ' τ : Type} {s : Size} [Seconds τ] [Clock κ τ] [Clock κ' τ]

/-- Does the call install the program? It loads it, or it resets a machine that holds it. -/
def Call.Installs (p : Program) (c : Call κ) (m : Machine κ τ s) : Prop :=
  c = .load p ∨ c = .reset ∧ m.program = p

/-! ## Tempos that restart

A restart begins with the rates alone, so tempos with the same rates and clocks that are alike are alike
after it. -/

/-- A cadence of which only the rate is known. -/
def Cadence.bare (rate : Rate τ) : Cadence τ := ⟨rate, .fresh, 0⟩

namespace Tempo

/-- A restart begins with the rates, whatever was counted and whether the watches ran. -/
theorem restart_eq (T : Tempo κ τ) :
    T.restart = restart ⟨.bare T.rates.1, T.rates.2.map .bare, T.paused, T.clock, 0⟩ := by
  obtain ⟨timerCadence, pace, paused, clock, ticks⟩ := T
  cases pace <;> cases paused <;> rfl

/-- After a restart no period has been given out, by either cadence. If the machine is paused they are
    started and stopped again, which gives out none. -/
theorem consumed_restart (T : Tempo κ τ) :
    T.restart.timerCadence.consumed = 0 ∧ ∀ c, T.restart.pace = some c → c.consumed = 0 := by
  have hstart (T : Tempo κ τ) : (T.both Cadence.start).timerCadence.consumed = 0 ∧
      ∀ c, (T.both Cadence.start).pace = some c → c.consumed = 0 := by
    -- pausing gives out no periods
    refine ⟨?_, fun c hc => ?_⟩
    · rw [timerCadence_both]
      rfl
    · obtain ⟨c₀, clock, -, rfl⟩ := pace_both hc
      rfl
  unfold restart
  split
  · refine ⟨?_, fun c hc => ?_⟩
    · rw [timerCadence_both]
      exact (hstart _).1
    · obtain ⟨c₀, clock, hc₀, rfl⟩ := pace_both hc
      exact (hstart _).2 c₀ hc₀
  · exact hstart _

/-- Tempos with the same rates restart alike, if both are paused or neither, and their clocks show the same. -/
theorem alike_restart {T : Tempo κ τ} {T' : Tempo κ' τ} (hrates : T.rates = T'.rates)
    (hpaused : T.paused = T'.paused) (hclock : Clock.Alike T.clock T'.clock) :
    T.restart.Alike T'.restart := by
  -- both restart from the same cadences, of which only the rates are known
  rw [restart_eq T, restart_eq T', hrates, hpaused]
  have hbare : Tempo.Alike ⟨.bare T'.rates.1, T'.rates.2.map .bare, T'.paused, T.clock, 0⟩
      ⟨.bare T'.rates.1, T'.rates.2.map .bare, T'.paused, T'.clock, 0⟩ :=
    ⟨rfl, rfl, rfl, hclock, rfl⟩
  have hstart := hbare.both fun c _ _ hk => c.agree_start hk
  unfold restart
  dsimp only
  split
  · exact hstart.both fun c _ _ hk => c.agree_pause hk
  · exact hstart

end Tempo

namespace Machine

/-! ## What a machine is built with

No call changes the rates that a machine was built with, whoever listens. -/

/-- The machines that were built with the settings, after whatever calls and listeners. -/
inductive BuiltWith (settings : Settings τ) : Machine κ τ s → Prop
  | create (clock : κ) (noise : Nat → UInt8) : BuiltWith settings (create settings clock noise)
  | call {m : Machine κ τ s} (host : Host s) (c : Call κ) (h : BuiltWith settings m) :
    BuiltWith settings (c.after host m)

/-- The rates are those that the machine was built with: no call changes them, whoever listens. -/
theorem BuiltWith.rates_eq {settings : Settings τ} {m : Machine κ τ s} (h : BuiltWith settings m) :
    m.tempo.rates = (.whole timerFrequency, (Cadence.create? settings.pace).map (·.rate)) := by
  induction h with
  | create clock noise => exact keeps_rates_reset Host.inert _ _ rfl
  | call host c _ ih => exact (c.rates_after host _).trans ih

/-! ## One installation

What is left after a program was loaded or the machine was reset, by equations, and from them what is
promised of a machine at power-on. -/

/-- No listener fails or pauses the machine over the tone going off. Of a tone that is off already none
    hears. -/
def Spares (host : Host s) (m : Machine κ τ s) : Prop :=
  m.board.tone = true →
    (host m.heard (.tone false)).fail = false ∧ (host m.heard (.tone false)).pause = false

/-- What is left after a program was installed. It is said by equations: whatever is not named here is as it was
    before. -/
structure Installed (p : Program) (m t : Machine κ τ s) : Prop where
  core : t.core = { m.core with
    board := powered p m.board, program := p, wait := none, instructions := 0, ticks := 0, traces := [] }
  halted : t.halted = false
  tempo : t.tempo = m.tempo.restart

/-- The tone goes off, and the tempo is as it was. -/
theorem exec_setTone_of_spares (host : Host s) {m : Machine κ τ s} (h : Spares host m) :
    ∃ t, (setTone host false).exec m = (.ok (), t) ∧ t.tempo = m.tempo := by
  rw [exec_setTone]
  cases htone : m.board.tone with
  | false => exact ⟨_, rfl, rfl⟩
  | true =>
    -- the one event of an installation
    obtain ⟨hfail, hpause⟩ := h htone
    refine ⟨_, ?_, tempo_emit_of (m := { m with board := { m.board with tone := false } }) hpause⟩
    show (emit host (.tone false)).exec { m with board := { m.board with tone := false } } = _
    rw [exec_emit, if_neg (by rw [hfail]; exact Bool.false_ne_true)]

/-- A reset answers, and what it leaves is installed. Memory, registers and display are put in place before the
    tone goes off, and the time restarts after it. -/
theorem exec_reset_of_spares (host : Host s) {m : Machine κ τ s} (h : Spares host m) :
    ∃ t, (reset host).exec m = (.ok (), t) ∧ Installed m.program m t := by
  obtain ⟨t, htone, htempo⟩ := exec_setTone_of_spares host (m := m.cleared) h
  have hcore := core_setTone host false m.cleared
  rw [htone] at hcore
  obtain ⟨hrestarted, -, hhalted⟩ := restarted_frame t
  refine ⟨restarted t, exec_reset_of_tone htone, ?_, hhalted, ?_⟩
  · rw [hrestarted, hcore]
    rfl
  · rw [tempo_restarted, htempo]
    rfl

/-- A program is installed by a load as by a reset, whatever the machine was. -/
theorem exec_installs {host : Host s} {p : Program} {c : Call κ} {m : Machine κ τ s}
    (hc : c.Installs p m) (h : Spares host m) :
    ∃ t, (c.act host).exec m = (.ok (), t) ∧ Installed p m t := by
  rcases hc with rfl | ⟨rfl, rfl⟩
  · obtain ⟨t, hreset, hinstalled⟩ := exec_reset_of_spares host (m := { m with program := p }) h
    refine ⟨t.note .info s!"Loaded {p.title} ({p.size} bytes)", ?_,
      hinstalled.core, hinstalled.halted, hinstalled.tempo⟩
    show (load host p).exec m = _
    rw [load, Act.exec_modify_bind, Act.exec_bind_of_ok hreset]
    rfl
  · exact exec_reset_of_spares host h

/-- `t` is at power-on, with an image in memory. What it was before, `m`, is to be seen in the keys, the
    pause and the random bytes only. -/
structure PoweredOn (bytes : List UInt8) (m t : Machine κ τ s) : Prop where
  font : ∀ (a : Nat) (h : a < 80), t.board.memory.cells[a]? = some font[a]
  image : ∀ (k : Nat) (h : k < bytes.length), t.board.memory.cells[0x200 + k]? = some bytes[k]
  zero : ∀ (a : Nat) (h : a < 4096), 80 ≤ a → a < 0x200 ∨ 0x200 + bytes.length ≤ a →
    t.board.memory.cells[a] = 0
  v : ∀ x, t.board.regs.get x = 0
  i : t.board.regs.i = 0
  pc : t.board.regs.pc = 0x200
  sp : t.board.regs.sp = 0
  stack : ∀ (k : Nat) (h : k < 16), t.board.regs.stack[k] = 0
  delay : t.board.regs.delay = 0
  sound : t.board.regs.sound = 0
  lastWord : t.board.regs.lastWord = 0
  pixels : ∀ r c, t.board.display.grid.pixel r c = false
  frameReady : t.board.display.frameReady = false
  tone : t.board.tone = false
  wait : t.wait = none
  status : t.status = "Running"
  halted : t.halted = false
  instructions : t.instructions = 0
  ticks : t.ticks = 0
  traces : t.traces = []
  timerConsumed : t.timerCadence.consumed = 0
  paceConsumed : ∀ c, t.pace = some c → c.consumed = 0
  keypad : t.board.keypad = m.board.keypad
  paused : t.paused = m.paused
  draws : t.board.draws = m.board.draws
  noise : t.noise = m.noise

/-- A machine in which a program was installed is at power-on. -/
theorem Installed.poweredOn {p : Program} {m t : Machine κ τ s} (h : Installed p m t) :
    PoweredOn p.bytes m t := by
  have hboard : t.board = powered p m.board := congrArg Core.board h.core
  have hmemory : t.board.memory = Memory.blank.overlay programStart p.bytes := congrArg (·.memory) hboard
  have hregs : t.board.regs = .initial := congrArg (·.regs) hboard
  have hdisplay : t.board.display = .blank := congrArg (·.display) hboard
  have hwait : t.wait = none := congrArg Core.wait h.core
  have htimer := congrArg Tempo.timerCadence h.tempo
  have hpace := congrArg Tempo.pace h.tempo
  obtain ⟨htimerConsumed, hpaceConsumed⟩ := m.tempo.consumed_restart
  -- memory is blank with the image laid over, and an image that fits ends within memory
  have hfits : p.bytes.length ≤ 0xE00 := p.fits
  have hfont (a : Nat) (ha : a < 80) : t.board.memory.cells[a]? = some font[a] := by
    have hlt : a < 4096 := by omega
    have hbefore : (a : Int) < programStart := by unfold programStart; omega
    rw [hmemory, Vector.getElem?_eq_getElem hlt, Memory.cells_overlay_of_lt _ _ hlt hbefore,
      Memory.cells_blank_of_lt ha]
  have himage (k : Nat) (hk : k < p.bytes.length) :
      t.board.memory.cells[0x200 + k]? = some p.bytes[k] := by
    have hlt : 0x200 + k < 4096 := by omega
    rw [hmemory, Vector.getElem?_eq_getElem hlt]
    exact congrArg some (Memory.cells_overlay_add _ hk hlt)
  have hzero (a : Nat) (ha : a < 4096) (hge : 80 ≤ a) (hout : a < 0x200 ∨ 0x200 + p.bytes.length ≤ a) :
      t.board.memory.cells[a] = 0 := by
    simp only [hmemory]
    rcases hout with hbefore | hbehind
    · rw [Memory.cells_overlay_of_lt _ _ _ (by unfold programStart; omega), Memory.cells_blank_of_ge ha hge]
    · rw [Memory.cells_overlay_of_ge _ _ _ (by unfold programStart; omega), Memory.cells_blank_of_ge ha hge]
  exact {
    font := hfont
    image := himage
    zero := hzero
    v := fun x => by simp [hregs, Registers.get, Registers.initial]
    i := congrArg (·.i) hregs
    pc := congrArg (·.pc) hregs
    sp := congrArg (·.sp) hregs
    stack := fun k hk => by simp [hregs, Registers.initial]
    delay := congrArg (·.delay) hregs
    sound := congrArg (·.sound) hregs
    lastWord := congrArg (·.lastWord) hregs
    pixels := fun r c => by simp [hdisplay, Display.blank, Grid.pixel, Grid.blank]
    frameReady := congrArg (·.frameReady) hdisplay
    tone := congrArg (·.tone) hboard
    wait := hwait
    status := by simp [status, hwait]
    halted := h.halted
    instructions := congrArg Core.instructions h.core
    ticks := congrArg Core.ticks h.core
    traces := congrArg Core.traces h.core
    timerConsumed := (congrArg (·.consumed) htimer).trans htimerConsumed
    paceConsumed := fun c hc => hpaceConsumed c (hpace.symm.trans hc)
    keypad := congrArg (·.keypad) hboard
    paused := (congrArg Tempo.paused h.tempo).trans m.tempo.paused_restart
    draws := congrArg (·.draws) hboard
    noise := congrArg Core.noise h.core }

/-! ## Two installations

Peers agree in what an installation leaves alone. Once the same program is installed in both they are alike,
and from then on all calls of them answer the same. -/

/-- What an installation does not touch is the same for both machines. -/
structure Peers (m : Machine κ τ s) (t : Machine κ' τ s) : Prop where
  strict : m.strict = t.strict
  tracing : m.tracing = t.tracing
  keypad : m.board.keypad = t.board.keypad
  paused : m.paused = t.paused
  /-- The same random bytes are still to come. -/
  ahead : ∀ k, m.noise (m.board.draws + k) = t.noise (t.board.draws + k)
  clock : Clock.Alike m.clock t.clock

/-- Two machines that are peers are alike once the same program was installed in both. -/
theorem Installed.alike {p : Program} {m u : Machine κ τ s} {t v : Machine κ' τ s}
    (hu : Installed p m u) (hv : Installed p t v) (h : Peers m t) (hrates : m.tempo.rates = t.tempo.rates) :
    Alike u v False u v := by
  have hboard : u.board = powered p m.board := congrArg Core.board hu.core
  have hboard' : v.board = powered p t.board := congrArg Core.board hv.core
  have hnoise : u.noise = m.noise := congrArg Core.noise hu.core
  have hnoise' : v.noise = t.noise := congrArg Core.noise hv.core
  -- the boards are at power-on but for the keys, which peers have in common
  have hfresh : u.board.fresh = v.board.fresh := by
    rw [hboard, hboard', powered, powered, Board.fresh, Board.fresh, h.keypad]
  have hahead : ∀ k, u.noise (u.board.draws + k) = v.noise (v.board.draws + k) := by
    rw [hboard, hboard', hnoise, hnoise']
    exact h.ahead
  have htempo : u.tempo.Alike v.tempo := by
    rw [hu.tempo, hv.tempo]
    exact Tempo.alike_restart hrates h.paused h.clock
  exact {
    board := ⟨hfresh, hahead⟩
    program := (congrArg Core.program hu.core).trans (congrArg Core.program hv.core).symm
    strict := (congrArg Core.strict hu.core).trans (h.strict.trans (congrArg Core.strict hv.core).symm)
    tracing := (congrArg Core.tracing hu.core).trans (h.tracing.trans (congrArg Core.tracing hv.core).symm)
    wait := (congrArg Core.wait hu.core).trans (congrArg Core.wait hv.core).symm
    halted := hu.halted.trans hv.halted.symm
    instructions := (congrArg Core.instructions hu.core).trans (congrArg Core.instructions hv.core).symm
    traces := (congrArg Core.traces hu.core).trans (congrArg Core.traces hv.core).symm
    tempo := htempo
    heard := ⟨[], rfl, rfl⟩
    log := ⟨[], rfl, rfl⟩
    signal := False.elim }

/-- An image can be installed if it has between one byte and as many as fit. Then the machine is at
    power-on, whatever it was, unless a listener fails or pauses it over the tone. And then two machines
    that were built alike and agree in what is not touched do the same, whatever they were: the same calls
    answer the same, tell the same, and leave the machines alike. -/
theorem erases_history {bytes : List UInt8} (hnonempty : bytes ≠ []) (hfits : bytes.length ≤ maxImageSize) :
    ∃ p, Program.ofBytes bytes = .ok p ∧
      (∀ (host : Host s) (c : Call κ) (m : Machine κ τ s), c.Installs p m → Spares host m →
        ((c.act host).exec m).1 = .ok () ∧ PoweredOn bytes m (c.after host m)) ∧
      ∀ (settings : Settings τ) (m : Machine κ τ s) (t : Machine κ' τ s), BuiltWith settings m →
        BuiltWith settings t → Peers m t →
        ∀ (host host' : Host s) (c : Call κ) (c' : Call κ'), c.Installs p m → c'.Installs p t →
          Spares host m → Spares host' t →
          HostsAlike host host' (c.after host m) (c'.after host' t) →
          ∀ (cs : List (Call κ)) (cs' : List (Call κ')), List.Forall₂ (Call.Alike τ) cs cs' →
            Call.answers host cs (c.after host m) = Call.answers host' cs' (c'.after host' t) ∧
              Alike (c.after host m) (c'.after host' t) False
                (Call.afterAll host cs (c.after host m)) (Call.afterAll host' cs' (c'.after host' t)) := by
  refine ⟨⟨"", bytes, hfits⟩, (Program.ofBytes_eq_ok_iff ..).mpr ⟨rfl, rfl, hnonempty, hfits⟩, ?_, ?_⟩
  · intro host c m hc hspares
    obtain ⟨t, hexec, hinstalled⟩ := exec_installs hc hspares
    rw [Call.after, hexec]
    exact ⟨rfl, hinstalled.poweredOn⟩
  · intro settings m t hm ht hpeers host host' c c' hc hc' hspares hspares' hhosts cs cs' hcs
    obtain ⟨u, hexec, hu⟩ := exec_installs hc hspares
    obtain ⟨v, hexec', hv⟩ := exec_installs hc' hspares'
    have hleft : c.after host m = u := congrArg Prod.snd hexec
    have hleft' : c'.after host' t = v := congrArg Prod.snd hexec'
    rw [hleft, hleft'] at hhosts ⊢
    -- from here on the two machines are alike, and that is kept by whatever is done with both
    have halike := hu.alike hv hpeers (hm.rates_eq.trans ht.rates_eq.symm)
    exact Call.together_acts hhosts hcs halike

/-- The new machine, after another program was loaded and the timers ran for a while. -/
def ticked : Machine (ManualClock Rat) Rat .standard :=
  Call.after Host.inert .tick (Call.after Host.inert (.load ⟨"", [0x60, 0x05], by decide⟩) still)

/-- The two differ in what was loaded, executed and counted, and agree in what an installation leaves alone. -/
theorem peers_ticked : Peers still ticked :=
  ⟨rfl, rfl, rfl, rfl, fun _ => rfl, ManualClock.alike_of_eq (by decide +kernel) rfl⟩

/-- The machine with a past is at power-on once a program is loaded, and does what the new machine does then. -/
theorem erases_history_ticked :
    ∃ p, Program.ofBytes [0x12, 0x00] = .ok p ∧
      PoweredOn [0x12, 0x00] ticked (Call.after Host.inert (.load p) ticked) ∧
      Call.answers Host.inert [.step] (Call.after Host.inert (.load p) still) =
        Call.answers Host.inert [.step] (Call.after Host.inert (.load p) ticked) := by
  obtain ⟨p, hp, hpowered, halike⟩ := @erases_history (ManualClock Rat) (ManualClock Rat) Rat .standard
    _ _ _ [0x12, 0x00] (by decide) (by decide)
  have hspares (m : Machine (ManualClock Rat) Rat .standard) : Spares Host.inert m := fun _ => ⟨rfl, rfl⟩
  have hload (m : Machine (ManualClock Rat) Rat .standard) : (Call.load p).Installs p m := .inl rfl
  -- a host that does nothing spares every machine and is like itself
  have hhosts (m t : Machine (ManualClock Rat) Rat .standard) : HostsAlike Host.inert Host.inert m t :=
    fun _ _ => rfl
  have hstill : BuiltWith {} still := .create _ _
  have hticked : BuiltWith {} ticked := .call _ _ (.call _ _ hstill)
  have hagree := halike {} still ticked hstill hticked peers_ticked Host.inert Host.inert _ _
    (hload _) (hload _) (hspares _) (hspares _) (hhosts _ _) [.step] [.step] (.cons .step .nil)
  exact ⟨p, hp, (hpowered Host.inert _ ticked (hload _) (hspares _)).2, hagree.1⟩

end Machine

end Chip8
