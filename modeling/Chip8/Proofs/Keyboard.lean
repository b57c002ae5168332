import Chip8.Host.Keyboard
import Chip8.Proofs.Keypad
import Chip8.Proofs.Timeless
/-!
The keyboard of the host, and the pad that follows it.

A table of names says which key of the keyboard plays which key of the pad, and names may be unknown or be
used twice. Events come in batches, and a machine is told of the state only when a batch changed it; in
between anything else may be done with the machine.

1. **Mapping** — `Keyboard.Owns` says which code plays which key of the pad. A table gives its codes to the
   keys in order, so a key owns the code of its name unless a higher key has a name with that code
   (`owns_createBy`). So no key owns two codes.

2. **State** — a key is down if and only if it owns a code and the latest event with that code was a press
   (`state_updateAll`), however the events came in batches.

3. **Invariant** — `Mirrors`: the pad of the machine has the state of the keyboard. A `Happening` is a batch
   or anything else that may be done with the machine meanwhile; nothing else touches the pad
   (`Call.keypad_after`), and a batch after which the machine is not told changed nothing. So the pad follows
   the keyboard through all that happens (`Mirrors.afterAll`, `keyboard_followed`).
-/

namespace Chip8

namespace Host

/-- What an event tells of a code: whether its key is down. -/
def KeyEvent.tells (code : Nat) : KeyEvent → Option Bool
  | down c => if c = code then some true else none
  | up c => if c = code then some false else none
  | other => none

namespace Keyboard

/-! ## Whose code it is

A code belongs to the last key in order whose name has it. The mapping is built up by assigning codes one
after the other, so a later assignment takes a code away from an earlier key. -/

/-- The code plays the key of the pad: events with it are events of the key. -/
def Owns (kb : Keyboard) (k : Fin 16) (code : Nat) : Prop := target? kb.mapping code = some k

variable {codeOf : String → Option Nat} {table : List (String × String)}

theorem target?_assign (mapping : List (Nat × Fin 16)) (code : Nat) (k : Fin 16) (c : Nat) :
    target? (assign mapping code k) c = if c = code then some k else target? mapping c := by
  rw [target?, assign, List.lookup_cons]
  split
  · next h =>
    have heq : c = code := by simpa using h
    rw [if_pos heq]
  · next h =>
    have hne : c ≠ code := by simpa using h
    rw [if_neg hne]
    exact lookup_filter_ne hne mapping

/-- The next key of the pad gets the code of its name, if the name has one. -/
def grant (codeOf : String → Option Nat) (table : List (String × String))
    (x : List (Nat × Fin 16) × List LogRecord) (k : Fin 16) : List (Nat × Fin 16) × List LogRecord :=
  match codeOf (chosenName table k) with
  | some code => (assign x.1 code k, x.2)
  | none => (x.1, x.2 ++ [unknownName (chosenName table k) k])

theorem buildMapping_eq : buildMapping codeOf table = (List.finRange 16).foldl (grant codeOf table) ([], []) :=
  rfl

/-- While the keys are taken in order, a code plays the last of them whose name has it. The induction adds keys
    at the end, since a new key takes its code from whatever key had it. -/
theorem target?_foldl_grant {ks : List (Fin 16)} (hks : ks.Pairwise (· < ·)) (k : Fin 16) (code : Nat) :
    target? (ks.foldl (grant codeOf table) ([], [])).1 code = some k ↔
      k ∈ ks ∧ codeOf (chosenName table k) = some code ∧
        ∀ j ∈ ks, k < j → codeOf (chosenName table j) ≠ some code := by
  induction ks using List.reverseRecOn with
  | nil => simp [target?]
  | append_singleton ks x ih =>
    obtain ⟨hbefore, -, hlast⟩ := List.pairwise_append.mp hks
    have hx : ∀ j ∈ ks, j < x := fun j hj => hlast j hj x (List.mem_singleton_self x)
    have hih := ih hbefore
    rw [List.foldl_append, List.foldl_cons, List.foldl_nil]
    generalize ks.foldl (grant codeOf table) ([], []) = state at hih ⊢
    by_cases hname : codeOf (chosenName table x) = some code
    · -- the name of the new key has the code, so the new key takes it from whatever key had it
      have hgrant : target? (grant codeOf table state x).1 code = some x := by
        rw [grant, hname]
        dsimp only
        rw [target?_assign, if_pos rfl]
      rw [hgrant, Option.some_inj]
      constructor
      · rintro rfl
        refine ⟨List.mem_concat_self, hname, fun j hj hlt => ?_⟩
        rcases List.mem_append.mp hj with hj | hj
        · exact absurd (hx j hj) (by omega)
        · exact absurd (List.mem_singleton.mp hj) (by omega)
      · rintro ⟨hk, -, hfree⟩
        rcases List.mem_append.mp hk with hk | hk
        · exact absurd hname (hfree x List.mem_concat_self (hx k hk))
        · exact (List.mem_singleton.mp hk).symm
    · -- it has not, so nothing changes for the code
      have hgrant : target? (grant codeOf table state x).1 code = target? state.1 code := by
        rw [grant]
        split
        · next c hc =>
          rw [target?_assign, if_neg]
          rintro rfl
          exact hname hc
        · rfl
      rw [hgrant, hih]
      constructor
      · rintro ⟨hk, hcode, hfree⟩
        refine ⟨List.mem_append_left _ hk, hcode, fun j hj hlt => ?_⟩
        rcases List.mem_append.mp hj with hj | hj
        · exact hfree j hj hlt
        · rw [List.mem_singleton.mp hj]
          exact hname
      · rintro ⟨hk, hcode, hfree⟩
        rcases List.mem_append.mp hk with hk | hk
        · exact ⟨hk, hcode, fun j hj hlt => hfree j (List.mem_append_left _ hj) hlt⟩
        · rw [List.mem_singleton.mp hk] at hcode
          exact absurd hcode hname

/-- A key owns the code of its name unless the name of a higher key has it, too. -/
theorem owns_createBy (k : Fin 16) (code : Nat) : (createBy codeOf table).1.Owns k code ↔
    codeOf (chosenName table k) = some code ∧ ∀ j, k < j → codeOf (chosenName table j) ≠ some code := by
  have hmapping := @target?_foldl_grant codeOf table _ (List.pairwise_lt_finRange 16) k code
  rw [← buildMapping_eq] at hmapping
  refine hmapping.trans ?_
  simp only [List.mem_finRange, true_and, forall_const]

/-! ## The state after events

A key is down if the last event of one of its codes was a press. Events of other codes make no difference. -/

/-- What the latest event with a code tells of it. -/
def latest (code : Nat) (events : List KeyEvent) : Option Bool :=
  events.reverse.findSome? (KeyEvent.tells code)

theorem latest_cons (code : Nat) (e : KeyEvent) (events : List KeyEvent) :
    latest code (e :: events) = (latest code events).or (e.tells code) := by
  rw [latest, List.reverse_cons, List.findSome?_append, List.findSome?_singleton]
  rfl

variable {kb : Keyboard} {k : Fin 16} {code : Nat}

/-- A press with a code puts the key down that the code plays, and leaves the others. -/
theorem get_apply_down (mapping : List (Nat × Fin 16)) (state : Vector Bool 16) (code : Nat) (k : Fin 16) :
    (apply mapping state (.down code)).get k =
      if target? mapping code = some k then true else state.get k := by
  rw [apply]
  cases target? mapping code with
  | none => rfl
  | some j =>
    simp only [Option.some_inj]
    exact Keypad.get_set state j k true

/-- A release with a code lets the key go up that the code plays, and leaves the others. -/
theorem get_apply_up (mapping : List (Nat × Fin 16)) (state : Vector Bool 16) (code : Nat) (k : Fin 16) :
    (apply mapping state (.up code)).get k =
      if target? mapping code = some k then false else state.get k := by
  rw [apply]
  cases target? mapping code with
  | none => rfl
  | some j =>
    simp only [Option.some_inj]
    exact Keypad.get_set state j k false

/-- A key that owns one code is as the latest event with that code tells. -/
theorem get_foldl_apply (howns : kb.Owns k code) (hone : ∀ c, kb.Owns k c → c = code)
    (events : List KeyEvent) (state : Vector Bool 16) :
    (events.foldl (apply kb.mapping) state).get k = (latest code events).getD (state.get k) := by
  induction events generalizing state with
  | nil => rfl
  | cons e events ih =>
    -- the key has one code, so an event moves it exactly if it has this code
    have hplays (c : Nat) : target? kb.mapping c = some k ↔ c = code :=
      ⟨hone c, fun h => h ▸ howns⟩
    have hstep : (apply kb.mapping state e).get k = (e.tells code).getD (state.get k) := by
      cases e with
      | other => rfl
      | down c =>
        simp only [get_apply_down, hplays, KeyEvent.tells]
        split <;> rfl
      | up c =>
        simp only [get_apply_up, hplays, KeyEvent.tells]
        split <;> rfl
    rw [List.foldl_cons, ih, hstep, latest_cons]
    cases latest code events <;> rfl

/-- A key without a code stays as it is. -/
theorem get_foldl_apply_of_unowned (hnone : ∀ c, ¬kb.Owns k c) (events : List KeyEvent)
    (state : Vector Bool 16) : (events.foldl (apply kb.mapping) state).get k = state.get k := by
  induction events generalizing state with
  | nil => rfl
  | cons e events ih =>
    rw [List.foldl_cons, ih]
    cases e with
    | other => rfl
    | down c => exact (get_apply_down _ _ c k).trans (if_neg (hnone c))
    | up c => exact (get_apply_up _ _ c k).trans (if_neg (hnone c))

/-- A keyboard after batches of events. -/
def updateAll (kb : Keyboard) (batches : List (List KeyEvent)) : Keyboard :=
  batches.foldl (fun kb batch => (kb.update batch).2) kb

/-- Batches are one sequence of events. -/
theorem updateAll_eq (kb : Keyboard) (batches : List (List KeyEvent)) :
    kb.updateAll batches = { kb with state := batches.flatten.foldl (apply kb.mapping) kb.state } := by
  induction batches generalizing kb with
  | nil => rfl
  | cons batch batches ih =>
    show (kb.update batch).2.updateAll batches = _
    rw [ih, List.flatten_cons, List.foldl_append]
    rfl

/-- A key is down exactly if it owns a code and the latest event with the code was a press. -/
theorem state_updateAll (batches : List (List KeyEvent)) (k : Fin 16) :
    ((createBy codeOf table).1.updateAll batches).state.get k = true ↔
      ∃ code, (createBy codeOf table).1.Owns k code ∧ latest code batches.flatten = some true := by
  have hstart : (createBy codeOf table).1.state.get k = false := Vector.getElem_replicate _
  rw [updateAll_eq]
  dsimp only
  by_cases howns : ∃ code, (createBy codeOf table).1.Owns k code
  · obtain ⟨code, hcode⟩ := howns
    -- the name of the key has one code only
    have hone (c : Nat) (hc : (createBy codeOf table).1.Owns k c) : c = code :=
      Option.some.inj (((owns_createBy k c).mp hc).1.symm.trans ((owns_createBy k code).mp hcode).1)
    rw [get_foldl_apply hcode hone, hstart]
    constructor
    · intro hdown
      refine ⟨code, hcode, ?_⟩
      cases hlatest : latest code batches.flatten with
      | none => rw [hlatest] at hdown; cases hdown
      | some down => rw [hlatest] at hdown; exact congrArg some hdown
    · rintro ⟨c, hc, hlatest⟩
      rw [hone c hc] at hlatest
      rw [hlatest]
      rfl
  · have hnone (c : Nat) : ¬(createBy codeOf table).1.Owns k c := fun hc => howns ⟨c, hc⟩
    rw [get_foldl_apply_of_unowned hnone, hstart]
    refine ⟨nofun, ?_⟩
    rintro ⟨c, hc, -⟩
    exact absurd hc (hnone c)

/-- The answer of an update is whether a key is different after it. A key that went down and up again within
    the batch is not. -/
theorem update_iff (kb : Keyboard) (batch : List KeyEvent) : (kb.update batch).1 = true ↔
    ∃ k : Fin 16, (kb.update batch).2.state.get k ≠ kb.state.get k := by
  show (((kb.update batch).2.state != kb.state) = true) ↔ _
  rw [bne_iff_ne, ← not_iff_not, not_not, not_exists]
  constructor
  · intro h k hk
    rw [h] at hk
    exact hk rfl
  · intro h
    exact Vector.ext fun i hi => not_not.mp (h ⟨i, hi⟩)

end Keyboard

end Host

/-! ## What leaves the keys alone

Two of the calls give keys to the machine. From one of them to the next it has the keys that it was given
last. -/

variable {κ τ : Type} {s : Size}

/-- Does the call give keys to the machine? -/
def Call.inputs : Call κ → Bool
  | inputKey _ _ | inputKeys _ => true
  | _ => false

variable [Seconds τ] [Clock κ τ]

/-- Does the turn give keys to the machine? -/
def Turn.inputs : Turn κ → Bool
  | call c _ => c.inputs
  | _ => false

/-- A turn without input leaves the keys alone: nothing that a machine does by itself touches its pad. -/
theorem Turn.keypad_after (host : Host s) {x : Turn κ} (hx : x.inputs = false) {m : Machine κ τ s}
    (hb : m.Bounded) : (x.after host m).board.keypad = m.board.keypad := by
  -- two calls give input and are excluded; a restart keeps the keys with the rest of the pad
  cases x with
  | service => exact congrArg (·.board.keypad) (Machine.ticked_serviceTimers host m).core
  | pollPace => exact congrArg (·.board.keypad) (Machine.pollPace_frame host m).1
  | signal change => rfl
  | call c single =>
    cases c with
    | step => exact Machine.keypad_step host hb
    | tick => exact congrArg (·.board.keypad) (Machine.ticked_tick host m).core
    | load program => exact congrArg (·.keypad) (Machine.board_load host program m)
    | reset => exact congrArg (·.keypad) (Machine.board_reset host m)
    | pause => exact congrArg (·.board.keypad) (Machine.pause_frame m).1
    | resume => exact congrArg (·.board.keypad) (Machine.resume_frame m).1
    | switch strict tracing | elapse move => rfl
    | inputKey key down | inputKeys changes => cases hx
    | run look looks => cases single

theorem Turn.keypad_afterAll (host : Host s) {xs : List (Turn κ)} (hxs : ∀ x ∈ xs, x.inputs = false)
    {m : Machine κ τ s} (hb : m.Bounded) : (Turn.afterAll host xs m).board.keypad = m.board.keypad := by
  induction xs generalizing m with
  | nil => rfl
  | cons x xs ih =>
    have hrest := ih (fun y hy => hxs y (List.mem_cons_of_mem _ hy)) (bounded_after host x hb)
    exact hrest.trans (keypad_after host (hxs x List.mem_cons_self) hb)

/-- A call without input leaves the keys alone. -/
theorem Call.keypad_after (host : Host s) {c : Call κ} (hc : c.inputs = false) {m : Machine κ τ s}
    (hb : m.Bounded) : (c.after host m).board.keypad = m.board.keypad := by
  obtain ⟨xs, hxs, hm⟩ := c.madeOf host m
  have hinputs : ∀ x ∈ xs, x.inputs = false := by
    intro x hx
    cases hxs x hx with
    | single single => exact hc
    | _ => rfl
  exact (congrArg (·.board.keypad) hm).trans (Turn.keypad_afterAll host hinputs hb)

/-! ## A machine that follows a keyboard

The machine is given the state of the keyboard after each batch of events that changed it. Between batches a
host may do anything else with the machine. -/

/-- The state of a keyboard is a valid input: the machine takes it as it is, and nothing else of it changes. -/
theorem Machine.exec_inputState {κ τ : Type} {s : Size} (state : Vector Bool 16) (m : Machine κ τ s) :
    (inputKeys (Keypad.numbered state.toList)).exec m =
      (.ok (), { m with board := { m.board with keypad := ⟨state⟩ } }) := by
  have hnamed : ∀ e ∈ Keypad.numbered state.toList, Keypad.Names e.1 :=
    Keypad.names_zipIdx (Nat.le_of_eq Vector.length_toList)
  obtain ⟨next, hnext, hkeys⟩ := Keypad.update_of_named hnamed m.board.keypad
  have hstate : next = ⟨state⟩ := by
    refine Keypad.ext_isDown fun k => ?_
    have hk : k.val < state.toList.length := by rw [Vector.length_toList]; exact k.isLt
    rw [hkeys k, Keypad.numbered, lookup_reverse_zipIdx, List.getElem?_eq_getElem hk]
    exact (Keypad.isDown_val ⟨state⟩ k).symm
  rw [inputKeys, Act.exec_get_bind, hnext, hstate]
  rfl

namespace Host.Keyboard

/-- What happens at a machine with a keyboard. -/
inductive Happening (κ : Type) where
  /-- Events of the keyboard. -/
  | batch (events : List KeyEvent)
  /-- Anything else that a host may do with the machine. -/
  | meanwhile (c : Call κ) (silent : c.inputs = false)

/-- The keyboard takes its events, and the machine gets the state of the keys if it changed. -/
def Happening.after (host : Host s) : Happening κ → Keyboard × Machine κ τ s → Keyboard × Machine κ τ s
  | batch events, (kb, m) =>
    let (changed, kb) := kb.update events
    (kb, if changed then (Call.inputKeys (Keypad.numbered kb.state.toList)).after host m else m)
  | meanwhile c _, (kb, m) => (kb, c.after host m)

/-- What is left after all that happens. -/
def Happening.afterAll (host : Host s) (happenings : List (Happening κ)) (x : Keyboard × Machine κ τ s) :
    Keyboard × Machine κ τ s :=
  happenings.foldl (fun x h => h.after host x) x

/-- The events that happen. -/
def Happening.batch? : Happening κ → Option (List KeyEvent)
  | batch events => some events
  | meanwhile _ _ => none

/-- The invariant: the machine has the keys down that the keyboard says. -/
structure Mirrors (m : Machine κ τ s) (kb : Keyboard) : Prop where
  bounded : m.Bounded
  keys : m.board.keypad.keys = kb.state

/-- All that happens keeps the pad and the keyboard together. After a batch that changed nothing the machine
    is not told, and need not be. -/
theorem Mirrors.after {host : Host s} {m : Machine κ τ s} {kb : Keyboard} (h : Mirrors m kb)
    (x : Happening κ) : Mirrors (x.after host (kb, m)).2 (x.after host (kb, m)).1 := by
  cases x with
  | meanwhile c silent =>
    refine ⟨Machine.bounded_call host c m h.bounded, ?_⟩
    exact (congrArg (·.keys) (c.keypad_after host silent h.bounded)).trans h.keys
  | batch events =>
    show Mirrors (if (kb.update events).1 then _ else m) (kb.update events).2
    split
    · next hchanged =>
      rw [Call.after, Call.act, Machine.exec_inputState]
      exact ⟨h.bounded, rfl⟩
    · -- the machine is not told, but then there is nothing to tell
      next hchanged =>
      have hsame : (kb.update events).2.state = kb.state := by
        refine Vector.ext fun i hi => not_not.mp fun hne => hchanged ?_
        exact (update_iff kb events).mpr ⟨⟨i, hi⟩, hne⟩
      exact ⟨h.bounded, h.keys.trans hsame.symm⟩

theorem Mirrors.afterAll {host : Host s} (happenings : List (Happening κ)) {m : Machine κ τ s}
    {kb : Keyboard} (h : Mirrors m kb) : Mirrors (Happening.afterAll host happenings (kb, m)).2
      (Happening.afterAll host happenings (kb, m)).1 := by
  induction happenings generalizing m kb with
  | nil => exact h
  | cons x rest ih => exact ih (h.after x)

/-- The keyboard takes all events, whatever becomes of the machine. -/
theorem fst_afterAll (host : Host s) (happenings : List (Happening κ)) (kb : Keyboard)
    (m : Machine κ τ s) : (Happening.afterAll host happenings (kb, m)).1 =
      kb.updateAll (happenings.filterMap Happening.batch?) := by
  induction happenings generalizing kb m with
  | nil => rfl
  | cons x rest ih =>
    cases x with
    | batch events => exact ih (kb.update events).2 _
    | meanwhile c silent => exact ih kb _

/-- Whatever codes the names of keys have, a keyboard shows which keys of the pad are held down, and a machine
    that is told of it after the batches that changed it has the same keys down all the time. -/
theorem keyboard_followed (host : Host s) (codeOf : String → Option Nat) (table : List (String × String)) :
    let kb := (createBy codeOf table).1
    (∀ k code, kb.Owns k code ↔
      codeOf (chosenName table k) = some code ∧ ∀ j, k < j → codeOf (chosenName table j) ≠ some code) ∧
    (∀ batches (k : Fin 16), (kb.updateAll batches).state.get k = true ↔
      ∃ code, kb.Owns k code ∧ latest code batches.flatten = some true) ∧
    (∀ batches batch, ((kb.updateAll batches).update batch).1 = true ↔
      ∃ k : Fin 16, ((kb.updateAll batches).update batch).2.state.get k ≠
        (kb.updateAll batches).state.get k) ∧
    ∀ m : Machine κ τ s, Machine.Reachable host m → m.board.keypad = .released →
      ∀ happenings : List (Happening κ),
        (Happening.afterAll host happenings (kb, m)).1 =
          kb.updateAll (happenings.filterMap Happening.batch?) ∧
        (Happening.afterAll host happenings (kb, m)).2.board.keypad.keys =
          (Happening.afterAll host happenings (kb, m)).1.state := by
  refine ⟨owns_createBy, state_updateAll, fun batches => update_iff _, ?_⟩
  intro m hreachable hreleased happenings
  -- the invariant of the last clause holds at the start because no key is down on either side
  have hstart : Mirrors m (createBy codeOf table).1 := ⟨hreachable.bounded, congrArg (·.keys) hreleased⟩
  exact ⟨fst_afterAll host happenings _ m, (hstart.afterAll happenings).keys⟩

/-- Two keys of the pad have names for one key of the keyboard: the higher of them gets its presses, and the
    machine has that key down though the last batch of events left it as it was. -/
theorem keyboard_followed_shared :
    let kb := (createBy keyCode? [("3", "w"), ("4", "W")]).1
    let happenings : List (Happening (ManualClock Rat)) :=
      [.batch [.down 119], .meanwhile .step rfl, .batch [.up 119, .down 119]]
    let x := Happening.afterAll Host.inert happenings (kb, Machine.loaded ⟨"", [0, 238], by decide⟩)
    (kb.Owns 4 119 ∧ ¬kb.Owns 3 119) ∧ x.1.state.get 4 = true ∧ x.2.board.keypad.keys = x.1.state := by
  intro kb happenings x
  obtain ⟨howns, hstate, -, hmachine⟩ :=
    @keyboard_followed (ManualClock Rat) Rat _ _ _ Host.inert keyCode? [("3", "w"), ("4", "W")]
  obtain ⟨hkeyboard, hkeys⟩ :=
    hmachine (Machine.loaded ⟨"", [0, 238], by decide⟩) (Machine.reachable_loaded _) rfl happenings
  -- both names are those of one key, and the last of the two that ask for it has it
  have hfour : kb.Owns 4 119 := (howns 4 119).mpr (by decide +kernel)
  refine ⟨⟨hfour, fun h => ((howns 3 119).mp h).2 4 (by decide) (by decide +kernel)⟩, ?_, hkeys⟩
  show (Happening.afterAll _ _ _).1.state.get 4 = true
  rw [hkeyboard]
  exact (hstate _ 4).mpr ⟨119, hfour, by decide⟩

end Host.Keyboard

end Chip8
