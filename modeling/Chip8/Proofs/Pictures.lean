import Chip8.Proofs.Halting
import Chip8.Proofs.News
/-!
The pictures that listeners are told of.

A word that clears the display or draws on it leaves a mark there, and the step that executed it takes the
mark away and tells listeners of the picture. A picture would be lost if a step left the mark behind, told
twice if two steps found it, and stale if something drew without leaving it.

1. **Words** — a word that draws leaves the mark and no other word touches the display (`display_executed`,
   `frameReady_executed`). No word that draws has anything else to tell, so a listener that fails over
   something else cannot come between.

2. **Steps** — a step either draws, and tells of the whole picture once and last, or leaves the display as it
   is and tells of none (`Machine.drew_or_undrawn`).

3. **Invariant** — the display is the picture told last, without a mark. `Turn.latestPicture` keeps that
   picture beside a run; a restart makes it blank. Every turn keeps the invariant (`Turn.latest_after`), and
   so `Turn.picturesTold_afterAll` holds at every time of every run.
-/

namespace Chip8

variable {κ τ : Type} {s : Size}

/-- The words that draw: one clears the display, the others draw a sprite. -/
def Word.Draws (w : Word) : Prop := w = 0x00E0 ∨ w.family = 0xD

instance (w : Word) : Decidable w.Draws := inferInstanceAs (Decidable (_ ∨ _))

/-- The picture that an event is about. -/
def Event.picture? : Event s → Option (Grid s)
  | .frameComplete picture => some picture
  | _ => none

theorem Event.picture?_of_not_shown (e : Event s) (h : e.isShown = false) : e.picture? = none := by
  cases e with
  | frameComplete picture => cases h
  | _ => rfl

/-- What a word has to tell is not about pictures. -/
theorem Machine.pictures_told (e : Effect) :
    (told e : List (Event s)).filterMap Event.picture? = [] := by
  cases e <;> rfl

/-- Where there is no mark to take away the display stays as it is. -/
theorem Display.takeFrameReady_of_false {d : Display s} (h : d.frameReady = false) :
    d.takeFrameReady.2 = d := by
  obtain ⟨grid, frameReady⟩ := d
  obtain rfl : frameReady = false := h
  rfl

namespace Board

/-! ## Drawing

The only two words that mark the display as changed are the one that clears it and the one that draws a
sprite. All other words leave the pixels and the mark as they are. -/

variable {strict : Bool} {noise : Nat → UInt8} {b : Board s} {w : Word}

/-- Words that do not draw leave the display as it is, the mark included. -/
theorem display_executed (hb : b.regs.Sound) (hw : ¬w.Draws) :
    (b.executed strict noise w).display = b.display := by
  have h := change_executed strict noise hb w
  generalize b.executed strict noise w = b' at h
  cases h with
  | clear word => exact absurd (Or.inl word) hw
  | draw word display flag => exact absurd (Or.inr word) hw
  | _ => rfl

/-- A word that draws and strikes no fault leaves the mark. -/
theorem frameReady_executed (strict : Bool) (noise : Nat → UInt8) (hb : b.regs.Sound) (hw : w.Draws)
    (hfault : (Instruction.ofWord w).fault? strict b.regs = none) :
    (b.executed strict noise w).display.frameReady = true := by
  rcases hw with rfl | hfamily
  · rfl
  · have hdraw : Instruction.ofWord w = .draw w.x w.y w.n :=
      (Instruction.ofWord_eq_iff w (.draw w.x w.y w.n)).mpr ⟨hfamily, rfl, rfl, rfl⟩
    rw [hdraw] at hfault
    have hrows := readBlock_eq strict (b.mapRegs (·.noting w)) hb.index.1 w.x w.y w.n
    rw [show (b.mapRegs (·.noting w)).regs = b.regs.noting w from rfl, Instruction.fault?_noting,
      hfault] at hrows
    obtain ⟨hit, g, -, hexec⟩ := exec_drawSprite_of_ok (x := w.x) (y := w.y) hrows
    rw [executed_eq, hdraw, perform, hexec]

/-- A word that has something to tell does not draw. -/
theorem not_draws_of_effect (h : b.effect (Instruction.ofWord w) ≠ .quiet) : ¬w.Draws := by
  rintro (rfl | hfamily)
  · exact h rfl
  · rw [(Instruction.ofWord_eq_iff w (.draw w.x w.y w.n)).mpr ⟨hfamily, rfl, rfl, rfl⟩] at h
    exact h rfl

end Board

variable [Seconds τ] [Clock κ τ]

namespace Turn

/-- The pictures that listeners are told of at a turn, the latest first. -/
def pictures (host : Host s) (x : Turn κ) (m : Machine κ τ s) : List (Grid s) :=
  (x.news host m).filterMap Event.picture?

theorem pictures_of_told {host : Host s} {x : Turn κ} {m : Machine κ τ s} {events : List (Event s)}
    (h : Machine.Told m (x.after host m) events) :
    x.pictures host m = events.filterMap Event.picture? :=
  filterMap_news Event.picture?_of_not_shown h

/-- The picture that was told last since the machine was restarted, blank if there was none. -/
def latestPicture (host : Host s) (x : Turn κ) (m : Machine κ τ s) (latest : Grid s) : Grid s :=
  if x.kind = .restart then .blank else (x.pictures host m).head?.getD latest

end Turn

namespace Machine

variable {host : Host s}

/-! ## One step

A step that completes a word that draws takes the mark away in telling of the picture. So no step leaves the
mark behind, and the next one finds none. -/

/-- An instruction that is not counted leaves the display alone and tells of no picture. -/
theorem Ran.display_kept {t : Machine κ τ s} (hb : t.Bounded)
    {out : Except Failure Unit × Machine κ τ s} (h : Ran host t out) :
    (out.2.instructions = t.instructions ∧ out.2.board.display = t.board.display ∧
        ∃ events, Told t out.2 events ∧ events.filterMap Event.picture? = []) ∨
      ∃ w, t.board.memory.WordAt t.board.regs.pc w ∧
        (Instruction.ofWord w).fault? t.strict t.fetched.board.regs = none ∧
        out = (announceFrame host).exec (t.counted host w) := by
  have hstopped (halt : Halt) (hout : out.1 = .error (.halt halt)) : Stopped t halt out.2 :=
    h.stopped hb hout
  cases h with
  | noWord past => exact Or.inl ⟨rfl, rfl, [], .of_heard rfl, rfl⟩
  | @untraced w fetched e fails =>
    obtain ⟨traces, hcore⟩ := t.fetched.core_traced host t.board.regs.pc w
    exact Or.inl ⟨congrArg Core.instructions hcore, congrArg (·.board.display) hcore, [],
      told_ready host w t, rfl⟩
  | @fault w fetched f fault =>
    have hstop := hstopped _ rfl
    have hinterrupted := hstop.executing _ rfl
    exact Or.inl ⟨hstop.instructions, hinterrupted.display, [], (told_ready host w t).of_eq rfl, rfl⟩
  | @untold w fetched fault e fails told =>
    -- listeners were told of something else, so the word did not draw
    have hboard := (board_effected host w _).trans (board_executed_ready host w t)
    have hsound : t.fetched.board.regs.Sound := sound_fetched hb (lt_of_wordAt fetched)
    refine Or.inl ⟨instructions_effected host w t, ?_, _, told_effected host w t, pictures_told _⟩
    dsimp only
    rw [hboard]
    exact Board.display_executed hsound (Board.not_draws_of_effect told)
  | @done w fetched fault =>
    rw [counted_eq]
    exact Or.inr ⟨w, fetched, fault, rfl⟩

/-- The step drew: listeners were told of the whole picture, once and last. -/
structure Drew (host : Host s) (m : Machine κ τ s) : Prop where
  word : ∃ w, m.completed host = some w ∧ w.Draws
  pictures : Turn.step.pictures host m = [(Call.step.after host m).board.display.grid]
  last : (Call.step.after host m).heard.head? =
    some (.frameComplete (Call.step.after host m).board.display.grid)
  mark : (Call.step.after host m).board.display.frameReady = false

/-- The step did not draw: the display is as it was, and nobody was told of it. -/
structure Undrawn (host : Host s) (m : Machine κ τ s) : Prop where
  word : ∀ w, m.completed host = some w → ¬w.Draws
  pictures : Turn.step.pictures host m = []
  display : (Call.step.after host m).board.display = m.board.display

/-- The display that a counted word leaves, after the mark was taken away. -/
theorem display_announced (host : Host s) (w : Word) (t : Machine κ τ s) :
    ((announceFrame host).exec (t.counted host w)).2.board.display =
      (t.fetched.board.executed t.strict t.noise w).display.takeFrameReady.2 := by
  obtain ⟨traces, hcore⟩ := core_announced host w t
  exact congrArg (·.board.display) hcore

theorem board_counted (host : Host s) (w : Word) (t : Machine κ τ s) :
    (t.counted host w).board = t.fetched.board.executed t.strict t.noise w := by
  obtain ⟨traces, hcore⟩ := core_counted host w t
  exact congrArg Core.board hcore

/-- A step either draws or does not, and completes a word accordingly. -/
theorem drew_or_undrawn (host : Host s) {m : Machine κ τ s} (hb : m.Bounded)
    (hmark : m.board.display.frameReady = false) : Drew host m ∨ Undrawn host m := by
  have hmoved := moved_step host hb
  generalize hu : Call.step.after host m = u at hmoved
  have hafter : Turn.step.after host m = u := hu
  -- a step that completes nothing only has to leave the display alone
  have hidle (hcount : u.instructions = m.instructions) (hdisplay : u.board.display = m.board.display)
      (events : List (Event s)) (htold : Told m u events)
      (hnone : events.filterMap Event.picture? = []) : Undrawn host m := by
    have hcompleted : m.completed host = none := completed_eq_none (by rw [hu, hcount])
    refine ⟨fun w hw => ?_, ?_, hu ▸ hdisplay⟩
    · rw [hcompleted] at hw
      cases hw
    · rw [← hafter] at htold
      rw [Turn.pictures_of_told htold, hnone]
  cases hmoved with
  | halted => exact Or.inr (hidle rfl rfl [] (.of_heard rfl) rfl)
  | unserviced service ticked =>
    exact Or.inr (hidle (congrArg Core.instructions ticked.core) (congrArg (·.board.display) ticked.core)
      [] (.of_ticked ticked) rfl)
  | @polled t service ticked x wait =>
    obtain ⟨v, wait, hcore⟩ := core_pollKeys host x t
    have htold := (Told.of_ticked ticked).trans (told_pollKeys host x t)
    refine Or.inr (hidle ((congrArg Core.instructions hcore).trans (congrArg Core.instructions ticked.core))
      ((congrArg (·.board.display) hcore).trans (congrArg (·.board.display) ticked.core)) _ htold ?_)
    split <;> rfl
  | @ran t service ticked bounded wait out ran =>
    have hdisplay : t.board.display = m.board.display := congrArg (·.board.display) ticked.core
    rcases ran.display_kept bounded with ⟨hcount, hkept, events, htold, hnone⟩ | ⟨w, fetched, fault, rfl⟩
    · exact Or.inr (hidle (hcount.trans (congrArg Core.instructions ticked.core)) (hkept.trans hdisplay)
        events ((Told.of_ticked ticked).trans htold) hnone)
    · have hcompleted := completed_of_counted ticked fetched hu
      have hsound : t.fetched.board.regs.Sound := sound_fetched bounded (lt_of_wordAt fetched)
      have htold := (Told.of_ticked ticked).trans (told_announced host w t)
      have hlast := heard_announceFrame host (t.counted host w)
      have hshown := display_announced host w t
      rw [board_counted] at htold hlast
      rw [← hafter] at htold
      have hpictures := Turn.pictures_of_told htold
      rw [List.filterMap_append, pictures_told, List.append_nil] at hpictures
      by_cases hdraws : w.Draws
      · have hready := Board.frameReady_executed t.strict t.noise hsound hdraws fault
        rw [if_pos hready] at hpictures hlast
        refine Or.inl ⟨⟨w, hcompleted, hdraws⟩, ?_, ?_, ?_⟩
        · rw [hpictures, hu, hshown]
          rfl
        · rw [hu, hlast, hshown]
          rfl
        · rw [hu, hshown]
          rfl
      · have hsame : (t.fetched.board.executed t.strict t.noise w).display = m.board.display :=
          (Board.display_executed hsound hdraws).trans hdisplay
        rw [hsame, hmark, if_neg (by decide)] at hpictures
        refine Or.inr ⟨fun v hv => ?_, hpictures, ?_⟩
        · rw [hcompleted] at hv
          obtain rfl := Option.some.inj hv
          exact hdraws
        · rw [hu, hshown, hsame]
          exact Display.takeFrameReady_of_false hmark

/-- A machine that is halted or waits for a key completes no word. -/
theorem completed_of_idle (host : Host s) {m : Machine κ τ s} (hb : m.Bounded)
    (h : m.halted = true ∨ m.wait.isSome = true) : m.completed host = none := by
  refine completed_eq_none ?_
  rcases h with hhalted | hwait
  · rw [Call.after, Call.act, exec_step_of_halted host hhalted]
  · have hmoved := moved_step host hb
    generalize Call.step.after host m = u at hmoved
    cases hmoved with
    | halted => rfl
    | unserviced service ticked => exact congrArg Core.instructions ticked.core
    | @polled t service ticked x wait =>
      obtain ⟨v, wait, hcore⟩ := core_pollKeys host x t
      exact (congrArg Core.instructions hcore).trans (congrArg Core.instructions ticked.core)
    | ran service ticked bounded wait ran =>
      -- it still waits after the timers were serviced
      rw [← ticked.wait_eq, wait] at hwait
      cases hwait

/-- A step that halts completes no word. -/
theorem completed_of_halt {host : Host s} {m : Machine κ τ s} (hb : m.Bounded) {halt : Halt}
    (h : ((step host).exec m).1 = .error (.halt halt)) : m.completed host = none := by
  cases hhalted : m.halted with
  | true => exact completed_of_idle host hb (Or.inl hhalted)
  | false =>
    cases hwait : m.wait with
    | some x => exact completed_of_idle host hb (Or.inr (by rw [hwait]; rfl))
    | none =>
      obtain ⟨t, -, hticked, hstopped⟩ := stopped_of_step hb hhalted hwait (Prod.ext h rfl)
      refine completed_eq_none ?_
      exact hstopped.instructions.trans (congrArg Core.instructions hticked.core)

end Machine

/-! ## Whole runs

The invariant has two parts: no picture is still to be told of, and the display shows the latest that was
told of. Every turn keeps both. -/

/-- Listeners are told of pictures when they are drawn, and of no others: `latest` is the one that they
    were told of last. -/
structure PicturesTold (host : Host s) (m : Machine κ τ s) (latest : Grid s) : Prop where
  /-- There is no picture that listeners are still to be told of. -/
  pending : m.board.display.frameReady = false
  /-- The picture that they were told of last is the one that is shown. -/
  latest : m.board.display.grid = latest
  /-- A step of a running machine that does not wait completes the word at the counter, if it does not
      fail. -/
  completes : m.halted = false → m.wait = none → ((Machine.step host).exec m).1 = .ok () →
    ∃ w, m.completed host = some w ∧ m.board.memory.WordAt m.board.regs.pc w
  /-- If a step completes a word that draws, listeners are told of one picture: all of the display after it. -/
  drawn : ∀ w, m.completed host = some w → w.Draws →
    Turn.step.pictures host m = [(Call.step.after host m).board.display.grid]
  /-- Of the picture that a step drew listeners hear last, after all else that the instruction tells. -/
  last : ∀ w, m.completed host = some w → w.Draws → (Call.step.after host m).heard.head? =
    some (.frameComplete (Call.step.after host m).board.display.grid)
  /-- A step that completes no word that draws tells of no picture. -/
  undrawn : (∀ w, m.completed host = some w → ¬w.Draws) → Turn.step.pictures host m = []
  /-- A step tells of no picture if the machine is halted, if it waits for a key, or if the step strikes a
      fault. -/
  idle : m.halted = true ∨ m.wait.isSome = true ∨
    (∃ halt, ((Machine.step host).exec m).1 = .error (.halt halt)) → Turn.step.pictures host m = []
  /-- Turns other than steps tell of no picture. -/
  aside : ∀ x : Turn κ, x.kind ≠ .step → x.pictures host m = []

namespace Turn

variable {host : Host s}

theorem pictures_of_ne (host : Host s) {x : Turn κ} (hx : x.kind ≠ .step) (m : Machine κ τ s) :
    x.pictures host m = [] :=
  pictures_of_told (told_of_ne host hx m)

/-- Every turn keeps the invariant: it takes the mark away that it leaves, and the picture told last is the one
    on the display. -/
theorem latest_after (host : Host s) (x : Turn κ) {m : Machine κ τ s} {latest : Grid s}
    (h : m.Bounded ∧ m.board.display = ⟨latest, false⟩) :
    (x.after host m).Bounded ∧
      (x.after host m).board.display = ⟨x.latestPicture host m latest, false⟩ := by
  obtain ⟨hb, hdisplay⟩ := h
  refine ⟨x.bounded_after host hb, ?_⟩
  -- turns that tell of no picture only have to keep the display
  have hkept (hx : x.kind ≠ .restart) (hpictures : x.pictures host m = [])
      (hsame : (x.after host m).board.display = m.board.display) :
      (x.after host m).board.display = ⟨x.latestPicture host m latest, false⟩ := by
    rw [latestPicture, if_neg hx, hpictures, hsame]
    exact hdisplay
  cases hx : x.kind with
  | step =>
    obtain rfl := eq_step_of_kind hx
    rcases Machine.drew_or_undrawn host hb (congrArg Display.frameReady hdisplay) with hdrew | hundrawn
    · rw [latestPicture, if_neg (by simp), hdrew.pictures]
      have hmark : (step.after host m).board.display.frameReady = false := hdrew.mark
      rw [← hmark]
      rfl
    · exact hkept (by simp) hundrawn.pictures hundrawn.display
  | tick =>
    have hticked := ticked_after host hx m
    exact hkept (by simp [hx]) (pictures_of_ne host (by simp [hx]) m)
      (congrArg (·.board.display) hticked.core)
  | restart =>
    obtain ⟨program, hboard⟩ := board_after_of_restart host hx m
    rw [latestPicture, if_pos hx, hboard]
    rfl
  | aside =>
    obtain ⟨keypad, strict, tracing, hcore⟩ := (aside_after host hx m).core
    exact hkept (by simp [hx]) (pictures_of_ne host (by simp [hx]) m)
      (congrArg (·.board.display) hcore)

/-- The invariant makes the protocol: every clause is read off whether the next step draws. -/
theorem picturesTold_of_display {m : Machine κ τ s} {latest : Grid s}
    (h : m.Bounded ∧ m.board.display = ⟨latest, false⟩) : PicturesTold host m latest := by
  obtain ⟨hb, hdisplay⟩ := h
  have hstep := Machine.drew_or_undrawn host hb (congrArg Display.frameReady hdisplay)
  -- the next step draws or it does not, and the words that it completes tell which
  have hundrawn (hwords : ∀ w, m.completed host = some w → ¬w.Draws) :
      step.pictures host m = [] := by
    rcases hstep with hdrew | hundrawn
    · obtain ⟨w, hw, hdraws⟩ := hdrew.word
      exact absurd hdraws (hwords w hw)
    · exact hundrawn.pictures
  have hdrew (w : Word) (hw : m.completed host = some w) (hdraws : w.Draws) : Machine.Drew host m := by
    rcases hstep with hdrew | hundrawn
    · exact hdrew
    · exact absurd hdraws (hundrawn.word w hw)
  refine ⟨congrArg Display.frameReady hdisplay, congrArg Display.grid hdisplay, ?_, ?_, ?_, hundrawn, ?_,
    ?_⟩
  · intro hhalted hwait hok
    exact Machine.completed_of_ok hb hhalted hwait hok
  · intro w hw hdraws
    exact (hdrew w hw hdraws).pictures
  · intro w hw hdraws
    exact (hdrew w hw hdraws).last
  · intro hidle
    have hnone : m.completed host = none := by
      rcases hidle with hhalted | hwait | ⟨halt, hhalt⟩
      · exact Machine.completed_of_idle host hb (Or.inl hhalted)
      · exact Machine.completed_of_idle host hb (Or.inr hwait)
      · exact Machine.completed_of_halt hb hhalt
    refine hundrawn fun w hw => ?_
    rw [hnone] at hw
    cases hw
  · intro x hx
    exact pictures_of_ne host hx m

/-- At every time of every run the picture that listeners were told of last is the one that is shown, and a
    step tells of a picture if and only if it drew one. -/
theorem picturesTold_afterAll (host : Host s) (settings : Machine.Settings τ) (clock : κ)
    (noise : Nat → UInt8) (xs : List (Turn κ)) :
    PicturesTold host (afterAll host xs (.create settings clock noise))
      (track host (latestPicture host) xs (.create settings clock noise) .blank) := by
  have hcreate : (Machine.create settings clock noise : Machine κ τ s).Bounded ∧
      (Machine.create settings clock noise : Machine κ τ s).board.display = ⟨.blank, false⟩ := by
    refine ⟨Machine.bounded_create settings clock noise, ?_⟩
    rw [Machine.board_create]
    rfl
  have hxs : ∀ x ∈ xs, True := fun _ _ => trivial
  have hrun := invariant_track
    (I := fun (m : Machine κ τ s) latest => m.Bounded ∧ m.board.display = ⟨latest, false⟩)
    (fun x _ _ _ h => latest_after host x h) hxs hcreate
  exact picturesTold_of_display hrun

/-- A program that draws one row of the first glyph. -/
def drawing : Program := ⟨"", [0xD0, 0x01], by decide⟩

theorem completed_drawing : (Machine.loaded drawing).completed Host.inert = some 0xD001 := by
  have hloaded := Machine.wordAt_loaded_pc drawing (by decide)
  have hword : (Machine.loaded drawing).word? = some 0xD001 := Machine.word?_eq_some_iff.mpr hloaded
  obtain ⟨due, hdue⟩ := (Machine.loaded drawing).pollTimer_ok
  exact Machine.completed_of_word Host.inert_neverFails (Machine.reachable_loaded drawing).bounded rfl rfl
    hdue (Machine.word?_eq_some_iff.mp hword) rfl

/-- The first step of this program tells of one picture, which is what the display shows from then on. -/
theorem picturesTold_drawing :
    step.pictures Host.inert (Machine.loaded drawing) =
      [(step.after Host.inert (Machine.loaded drawing)).board.display.grid] := by
  have hloaded : afterAll Host.inert [.call (.load drawing) rfl]
      (.create ({} : Machine.Settings Rat) (⟨0, 1, 0⟩ : ManualClock Rat) fun _ => 0) =
        Machine.loaded drawing := rfl
  have htold := picturesTold_afterAll (s := .standard) Host.inert ({} : Machine.Settings Rat)
    (⟨0, 1, 0⟩ : ManualClock Rat) (fun _ => 0) [.call (.load drawing) rfl]
  rw [hloaded] at htold
  rw [after_step]
  exact htold.drawn _ completed_drawing (Or.inr rfl)

end Turn

end Chip8
