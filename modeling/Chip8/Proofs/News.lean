import Chip8.Proofs.Timeless
/-!
What listeners are told at a turn.

A turn may tell listeners of the tone, of traces, of waits and of pictures, and results about one of these
have to get past the others. `Turn.news` is what is heard at a turn that was not heard before.

1. **What is left aside** — servicing the timers, tracing an instruction and restarting tell of the tone and
   of traces only. `Machine.Told m t events` says that from `m` to `t` the events were heard and besides them
   at most such. It composes (`Told.trans`, `Told.cons`), so it is followed through the parts of a step.

2. **What remains** — a key that ends a wait (`told_pollKeys`), or what an instruction has to tell and the
   picture that it finished (`told_announced`). Turns other than steps tell of nothing else (`told_of_ne`).

3. **Use** — what is looked for among events that are neither about the tone nor traces is found among the
   events of `Told` (`Turn.filterMap_news`).
-/

namespace Chip8

variable {κ τ : Type} {s : Size}

namespace Machine

/-- `t` has heard `events` after all that `m` had heard, and before them at most of the tone and of
    traces. -/
def Told (m t : Machine κ τ s) (events : List (Event s)) : Prop :=
  ∃ quiet : List (Event s), (∀ e ∈ quiet, e.isShown = false) ∧ t.heard = events ++ (quiet ++ m.heard)

namespace Told

variable {m t u : Machine κ τ s} {events : List (Event s)}

theorem of_heard (h : t.heard = events ++ m.heard) : Told m t events := by
  refine ⟨[], ?_, h⟩
  intro e he
  cases he

/-- What is heard besides the events may be anything that is not shown. -/
theorem of_quiet {quiet : List (Event s)} (hquiet : ∀ e ∈ quiet, e.isShown = false)
    (h : t.heard = quiet ++ m.heard) : Told m t [] :=
  ⟨quiet, hquiet, h⟩

theorem of_unshown {event : Event s} (hevent : event.isShown = false) (h : t.heard = event :: m.heard) :
    Told m t [] := by
  refine of_quiet (fun e he => ?_) (h.trans List.singleton_append.symm)
  obtain rfl := List.mem_singleton.mp he
  exact hevent

theorem of_ticked (h : Ticked m t) : Told m t [] := by
  obtain ⟨tones, htones, hheard⟩ := h.heard
  refine of_quiet (fun e he => ?_) hheard
  obtain ⟨on, rfl⟩ := htones e he
  rfl

/-- What is told after nothing was told is all that is told. -/
theorem trans (h : Told m t []) (hu : Told t u events) : Told m u events := by
  obtain ⟨quiet, hquiet, ht⟩ := h
  obtain ⟨quiet', hquiet', hu⟩ := hu
  refine ⟨quiet' ++ quiet, ?_, ?_⟩
  · intro e he
    rcases List.mem_append.mp he with he | he
    · exact hquiet' e he
    · exact hquiet e he
  · rw [hu, ht, List.nil_append, List.append_assoc]

/-- An event that is heard next comes in front. -/
theorem cons {event : Event s} (h : Told m t events) (hu : u.heard = event :: t.heard) :
    Told m u (event :: events) := by
  obtain ⟨quiet, hquiet, ht⟩ := h
  refine ⟨quiet, hquiet, ?_⟩
  rw [hu, ht]
  rfl

theorem of_eq (h : Told m t events) (hu : u.heard = t.heard) : Told m u events := by
  obtain ⟨quiet, hquiet, ht⟩ := h
  exact ⟨quiet, hquiet, hu.trans ht⟩

end Told

variable [Seconds τ] [Clock κ τ]

/-! ## Instructions

What an instruction tells, in the order in which it tells it: the effect of its word first, and a finished
picture last. -/

theorem told_ready (host : Host s) (w : Word) (m : Machine κ τ s) : Told m (m.ready host w) [] := by
  have hheard := m.fetched.heard_traced host m.board.regs.pc w
  split at hheard
  · exact .of_unshown rfl hheard
  · exact .of_heard hheard

/-- What a word has to tell, the machine being ready for it. -/
def effectOf (w : Word) (m : Machine κ τ s) : Effect :=
  (m.fetched.board.mapRegs (·.noting w)).effect (Instruction.ofWord w)

theorem told_effected (host : Host s) (w : Word) (m : Machine κ τ s) :
    Told m ((m.ready host w).effected host w) (told (m.effectOf w)) := by
  have hboard : (m.ready host w).board = m.fetched.board := board_traced host _ w m.fetched
  have hheard : ((m.ready host w).effected host w).heard =
      told (((m.ready host w).board.mapRegs (·.noting w)).effect (Instruction.ofWord w)) ++
        (m.ready host w).heard :=
    heard_deliver host _ _
  rw [hboard] at hheard
  exact (told_ready host w m).trans (.of_heard hheard)

/-- A counted word told what it had to tell, and then of the picture that it finished. -/
theorem told_announced (host : Host s) (w : Word) (m : Machine κ τ s) :
    Told m ((announceFrame host).exec (m.counted host w)).2
      ((if (m.counted host w).board.display.frameReady then
        [.frameComplete (m.counted host w).board.display.grid] else []) ++ told (m.effectOf w)) := by
  have hcounted : Told m (m.counted host w) (told (m.effectOf w)) :=
    (told_effected host w m).of_eq rfl
  have hheard := heard_announceFrame host (m.counted host w)
  split at hheard
  · next hready =>
    rw [if_pos hready]
    exact hcounted.cons hheard
  · next hready =>
    rw [if_neg hready]
    exact hcounted.of_eq hheard

/-! ## Turns

The news of a turn are what was heard at it. Of a turn that is no step they hold nothing that is shown. -/

theorem told_pollKeys (host : Host s) (x : Fin 16) (m : Machine κ τ s) :
    Told m ((pollKeys host x).exec m).2
      (match m.board.keypad.first? with
        | none => []
        | some key => [.keyResume x key]) := by
  have hheard := heard_pollKeys host x m
  cases hkey : m.board.keypad.first? with
  | none =>
    rw [hkey] at hheard
    exact .of_heard hheard
  | some key =>
    rw [hkey] at hheard
    exact .of_heard hheard

/-- Setting the tone tells at most of the tone. -/
theorem told_setTone (host : Host s) (on : Bool) (m : Machine κ τ s) :
    Told m ((setTone host on).exec m).2 [] := by
  have hheard := heard_deliver host (if on = m.board.tone then .quiet else .tone on)
    { m with board := { m.board with tone := on } }
  rw [← exec_setTone] at hheard
  split at hheard
  · exact .of_heard hheard
  · exact .of_unshown rfl hheard

/-- A reset tells at most of the tone, whether it fails or not. -/
theorem told_reset (host : Host s) (m : Machine κ τ s) : Told m ((reset host).exec m).2 [] := by
  have htold : Told m ((setTone host false).exec m.cleared).2 [] := told_setTone host false m.cleared
  have hreset := afterReset_reset host m
  generalize (reset host).exec m = out at hreset ⊢
  cases hreset with
  | brokenOff tone core =>
    rw [tone] at htold
    exact htold
  | @done t tone core =>
    rw [tone] at htold
    exact htold.of_eq (restarted_frame t).2.1

end Machine

namespace Turn

variable [Seconds τ] [Clock κ τ]

/-- The events that are heard at a turn, the latest first. -/
def news (host : Host s) (x : Turn κ) (m : Machine κ τ s) : List (Event s) :=
  (x.after host m).heard.take ((x.after host m).heard.length - m.heard.length)

/-- What is looked for among events that are neither about the tone nor traces is found among the events
    that a turn tells of. -/
theorem filterMap_news {α : Type} {f : Event s → Option α}
    (hf : ∀ e : Event s, e.isShown = false → f e = none) {host : Host s} {x : Turn κ} {m : Machine κ τ s}
    {events : List (Event s)} (h : Machine.Told m (x.after host m) events) :
    (x.news host m).filterMap f = events.filterMap f := by
  obtain ⟨quiet, hquiet, hheard⟩ := h
  have hnone : quiet.filterMap f = [] := by
    rw [List.filterMap_eq_nil_iff]
    intro e he
    exact hf e (hquiet e he)
  have hnews : x.news host m = events ++ quiet := by
    rw [news, hheard, ← List.append_assoc, List.length_append, Nat.add_sub_cancel]
    exact List.take_left
  rw [hnews, List.filterMap_append, hnone, List.append_nil]

/-- Only steps tell of more than the tone and traces. -/
theorem told_of_ne (host : Host s) {x : Turn κ} (hx : x.kind ≠ .step) (m : Machine κ τ s) :
    Machine.Told m (x.after host m) [] := by
  cases hkind : x.kind with
  | step => exact absurd hkind hx
  | tick => exact .of_ticked (ticked_after host hkind m)
  | aside => exact .of_heard (aside_after host hkind m).heard
  | restart =>
    cases x with
    | call c single =>
      cases c with
      | load program =>
        -- loading is a reset and a record in the log, and a record is no news
        obtain ⟨log, hload⟩ := Machine.after_load host program m
        have hreset : Machine.Told m ((Machine.reset host).exec { m with program }).2 [] :=
          Machine.told_reset host { m with program }
        exact hreset.of_eq (congrArg (·.heard) hload)
      | reset => exact Machine.told_reset host m
      | _ => cases hkind
    | _ => cases hkind

end Turn

end Chip8
