import Chip8.Inspect.Snapshot
import Chip8.Proofs.Footprint
import Chip8.Proofs.Halting
import Chip8.Proofs.Turns
/-!
The call stack as a list.

The registers keep return addresses in sixteen cells with a pointer. A return moves the pointer and leaves its
cell as it is, so the cells hold more than the calls that are pending, and nothing in the registers says where
the addresses came from.

1. **Specification** — the list of pending return addresses is kept beside a run (`Turn.pend`): a completed
   call appends the address behind it, a completed return removes the last one, and a restart empties the
   list.

2. **Invariant** — `Frames`: the cells below the pointer hold the list, whatever lies above. A call and a
   return keep it (`Frames.push`, `Frames.pop`), other words leave the stack alone (`Board.stack_executed`),
   and an instruction that does not come to its end leaves it alone too (`Ran.stack_kept`). So every step and
   every turn keep it (`frames_step`, `Turn.frames_after`), and every run by induction
   (`Turn.frames_afterAll`).

3. **Consequences** — calls and returns fault by the length of the list (`answer_of_frames`), returns go where
   the list says (`frames_ret`, and over whole runs `Turn.track_pend_of_no_call`), and the view of the stack
   shows the list (`Frames.stackLines_eq`).
-/

namespace Chip8

variable {κ τ : Type} {s : Size}

/-! ## Cells and list

The invariant between the sixteen cells with a pointer and a list of pending calls: the list lies in the
cells below the pointer, the deepest call first. Cells above the pointer may hold anything, and old
addresses do stay there. -/

/-- The cells below the stack pointer hold the list, whatever lies above. -/
structure Frames (r : Registers) (calls : List Int) : Prop where
  depth : r.sp = calls.length
  cells : ∀ (k : Fin 16) (h : k.val < calls.length), (r.stack[k.val].toNat : Int) = calls[k.val]

namespace Frames

variable {r r' : Registers} {calls : List Int}

theorem initial : Frames .initial [] := by
  refine ⟨rfl, ?_⟩
  intro k h
  cases h

/-- Only the pointer and the cells count. -/
theorem of_eq (h : Frames r calls) (hsp : r'.sp = r.sp) (hstack : r'.stack = r.stack) :
    Frames r' calls := by
  refine ⟨hsp.trans h.depth, ?_⟩
  rw [hstack]
  exact h.cells

/-- A call writes the cell behind the list, whatever an earlier return left there, and the list grows by
    what was written. -/
theorem push (h : Frames r calls) {k : Fin 16} (hk : r.sp = k.val) {a : Nat} (ha : a < 65536)
    (hsp : r'.sp = r.sp + 1) (hstack : r'.stack = r.stack.set k.val (UInt16.ofNat a)) :
    Frames r' (calls ++ [(a : Int)]) := by
  have hlen : calls.length = k.val := by
    have := h.depth
    omega
  refine ⟨?_, ?_⟩
  · rw [hsp, h.depth, List.length_append, List.length_singleton]
    rfl
  · intro j hj
    rw [hstack]
    rcases Nat.lt_or_ge j.val calls.length with hlt | hge
    · rw [Vector.getElem_set_ne _ _ (by omega), List.getElem_append_left hlt]
      exact h.cells j hlt
    · -- the new cell; sixteen bits hold the address
      have hjk : j.val = k.val := by
        rw [List.length_append, List.length_singleton] at hj
        omega
      have hcell : (r.stack.set k.val (UInt16.ofNat a))[j.val] = UInt16.ofNat a := by
        simp only [hjk, Vector.getElem_set_self]
      rw [hcell, List.getElem_append_right hge, List.getElem_singleton, UInt16.toNat_ofNat',
        Nat.mod_eq_of_lt ha]

/-- A return takes the last entry and writes no cell: its cell is above the pointer then. -/
theorem pop (h : Frames r calls) (hsp : r'.sp = r.sp - 1) (hstack : r'.stack = r.stack)
    (hne : calls ≠ []) : Frames r' calls.dropLast := by
  have hpos : 0 < calls.length := List.length_pos_iff.mpr hne
  refine ⟨?_, ?_⟩
  · rw [hsp, h.depth, List.length_dropLast]
    omega
  · intro k hk
    rw [List.length_dropLast] at hk
    rw [hstack, List.getElem_dropLast]
    exact h.cells k (by omega)

/-- The next return reads the cell of the last entry. -/
theorem getLast?_eq (h : Frames r calls) {k : Fin 16} (hk : r.sp = k.val + 1) :
    calls.getLast? = some ((getElem r.stack k.val (lt_sixteen k)).toNat : Int) := by
  have hlen : calls.length = k.val + 1 := by
    have := h.depth
    omega
  rw [List.getLast?_eq_getElem?, hlen, Nat.add_sub_cancel, List.getElem?_eq_getElem (by omega),
    h.cells k (by omega)]

end Frames

/-! ## The list of a run

The specification: a call puts an address at the end of the list, a return takes the last one away, and
nothing else changes it. It is computed from the completed instructions and does not look at any stack. -/

/-- The pending return addresses after a word that was fetched at `pc` is completed. -/
def Word.pending (w : Word) (pc : Int) (calls : List Int) : List Int :=
  if w.family = 0x2 then calls ++ [pc + 2] else if w = 0x00EE then calls.dropLast else calls

variable [Seconds τ] [Clock κ τ]

/-- The pending return addresses after a turn. They are told from the words that are completed, and the
    machine is asked for nothing but these and where they were fetched. -/
def Turn.pend (host : Host s) (x : Turn κ) (m : Machine κ τ s) (calls : List Int) : List Int :=
  if x.kind = .restart then []
  else match x.completed host m with
  | some w => w.pending m.board.regs.pc calls
  | none => calls

theorem Turn.pend_of_none {host : Host s} {x : Turn κ} {m : Machine κ τ s} {calls : List Int}
    (hx : x.kind ≠ .restart) (h : x.completed host m = none) : x.pend host m calls = calls := by
  rw [pend, if_neg hx, h]

theorem Turn.pend_of_some {host : Host s} {x : Turn κ} {m : Machine κ τ s} {calls : List Int}
    (hx : x.kind ≠ .restart) {w : Word} (h : x.completed host m = some w) :
    x.pend host m calls = w.pending m.board.regs.pc calls := by
  rw [pend, if_neg hx, h]

/-- The pending return addresses after turns that began without any. -/
def Turn.pendingCalls (host : Host s) (xs : List (Turn κ)) (m : Machine κ τ s) : List Int :=
  track host (pend host) xs m []

namespace Board

/-! ## Calls and returns on the board

One step keeps the invariant. Only two instructions touch the stack at all, and whether they fail can be
read off the list. -/

variable (strict : Bool) (noise : Nat → UInt8)

/-- Words that are neither calls nor returns leave the call stack alone, by the frame conditions of the two
    parts of it. -/
theorem stack_executed {b : Board s} (hb : b.regs.Sound) {w : Word} (hcall : w.family ≠ 0x2)
    (hret : w ≠ 0x00EE) : (b.executed strict noise w).regs.sp = b.regs.sp ∧
      (b.executed strict noise w).regs.stack = b.regs.stack := by
  have hfoot := footprint_executed strict noise hb w
  refine ⟨Decidable.byContradiction fun hne => ?_, Vector.ext fun k hk => ?_⟩
  · rcases hfoot.pointer hne with ⟨hf, -⟩ | ⟨hw, -⟩
    · exact hcall hf
    · exact hret hw
  · refine Decidable.byContradiction fun hne => ?_
    exact hcall (hfoot.stack ⟨k, hk⟩ hne).1

/-- A call that finds a free cell writes the program counter into it. -/
theorem executed_call {b : Board s} {w : Word} (hw : w.family = 0x2) {k : Fin 16}
    (hk : b.regs.sp = k.val) {a : Nat} (hpc : b.regs.pc = a) (ha : a < 65536) :
    (b.executed strict noise w).regs.sp = b.regs.sp + 1 ∧
      (b.executed strict noise w).regs.stack = b.regs.stack.set k.val (UInt16.ofNat a) := by
  rw [executed_eq, (Instruction.ofWord_eq_iff w (.call w.address)).mpr ⟨hw, rfl⟩,
    exec_call_of_free (b := b.mapRegs (·.noting w)) hk hpc ha]
  exact ⟨rfl, rfl⟩

/-- A return that finds an address goes there, and leaves it in its cell. -/
theorem executed_ret {b : Board s} {k : Fin 16} (hk : b.regs.sp = k.val + 1) :
    (b.executed strict noise 0x00EE).regs.sp = b.regs.sp - 1 ∧
      (b.executed strict noise 0x00EE).regs.stack = b.regs.stack ∧
      (b.executed strict noise 0x00EE).regs.pc =
        (getElem b.regs.stack k.val (lt_sixteen k)).toNat := by
  rw [executed_eq, (Instruction.ofWord_eq_iff 0x00EE .ret).mpr rfl,
    exec_ret_of_used (b := b.mapRegs (·.noting 0x00EE)) hk]
  exact ⟨rfl, rfl, rfl⟩

/-- A word that has something to tell is no call and no return. -/
theorem not_call_of_effect {b : Board s} {w : Word}
    (h : b.effect (Instruction.ofWord w) ≠ .quiet) : w.family ≠ 0x2 ∧ w ≠ 0x00EE := by
  refine ⟨fun hw => h ?_, fun hw => h ?_⟩
  · rw [(Instruction.ofWord_eq_iff w (.call w.address)).mpr ⟨hw, rfl⟩]
    rfl
  · rw [(Instruction.ofWord_eq_iff w .ret).mpr hw]
    rfl

end Board

namespace Machine

variable {host : Host s}

section Executed

variable {t : Machine κ τ s} (hb : t.Bounded) {calls : List Int} (h : Frames t.board.regs calls)

include hb h

omit [Seconds τ] [Clock κ τ] in
/-- A fetched call that strikes no fault appends the address behind it. -/
theorem frames_call {w : Word} (hw : t.board.memory.WordAt t.board.regs.pc w) (hcall : w.family = 0x2)
    (hfault : (Instruction.ofWord w).fault? t.strict t.fetched.board.regs = none) :
    Frames (t.fetched.board.executed t.strict t.noise w).regs (calls ++ [t.board.regs.pc + 2]) := by
  have hsound : t.fetched.board.regs.Sound := sound_fetched hb (lt_of_wordAt hw)
  have hfetched : Frames t.fetched.board.regs calls := h.of_eq rfl rfl
  obtain ⟨k, hk, hpc, -⟩ := hw
  -- the stack is not full, or the call would have struck its fault
  have hfree : t.fetched.board.regs.sp ≠ 16 := by
    intro hfull
    rw [(Instruction.ofWord_eq_iff w (.call w.address)).mpr ⟨hcall, rfl⟩, Instruction.fault?,
      if_pos hfull] at hfault
    cases hfault
  obtain ⟨j, hj⟩ := hsound.full_or_free.resolve_left hfree
  have hnext : t.fetched.board.regs.pc = (k + 2 : Nat) := by
    show t.board.regs.pc + 2 = _
    omega
  obtain ⟨hsp, hstack⟩ := Board.executed_call t.strict t.noise hcall hj hnext (by omega)
  have hpush : Frames _ (calls ++ [((k + 2 : Nat) : Int)]) := hfetched.push hj (by omega) hsp hstack
  rw [hpc]
  exact hpush

omit [Seconds τ] [Clock κ τ] in
/-- A fetched return that strikes no fault takes the last entry and goes there. -/
theorem frames_ret (hw : t.board.memory.WordAt t.board.regs.pc 0x00EE)
    (hfault : (Instruction.ofWord 0x00EE).fault? t.strict t.fetched.board.regs = none) :
    Frames (t.fetched.board.executed t.strict t.noise 0x00EE).regs calls.dropLast ∧
      calls.getLast? = some (t.fetched.board.executed t.strict t.noise 0x00EE).regs.pc := by
  have hsound : t.fetched.board.regs.Sound := sound_fetched hb (lt_of_wordAt hw)
  have hfetched : Frames t.fetched.board.regs calls := h.of_eq rfl rfl
  -- the stack is not empty, or the return would have struck its fault
  have hused : t.fetched.board.regs.sp ≠ 0 := by
    intro hempty
    rw [(Instruction.ofWord_eq_iff 0x00EE .ret).mpr rfl, Instruction.fault?, if_pos hempty] at hfault
    cases hfault
  obtain ⟨j, hj⟩ := hsound.empty_or_used.resolve_left hused
  obtain ⟨hsp, hstack, hjump⟩ := Board.executed_ret t.strict t.noise hj
  have hne : calls ≠ [] := by
    rintro rfl
    exact hused hfetched.depth
  rw [hjump]
  exact ⟨hfetched.pop hsp hstack hne, hfetched.getLast?_eq hj⟩

omit [Seconds τ] [Clock κ τ] in
/-- A fetched word that strikes no fault moves the list as it says. -/
theorem frames_executed {w : Word} (hw : t.board.memory.WordAt t.board.regs.pc w)
    (hfault : (Instruction.ofWord w).fault? t.strict t.fetched.board.regs = none) :
    Frames (t.fetched.board.executed t.strict t.noise w).regs (w.pending t.board.regs.pc calls) ∧
      (w = 0x00EE → calls.getLast? =
        some (t.fetched.board.executed t.strict t.noise w).regs.pc) := by
  unfold Word.pending
  -- a call adds to the list, a return takes from it, and other words leave the stack alone
  by_cases hcall : w.family = 0x2
  · rw [if_pos hcall]
    refine ⟨frames_call hb h hw hcall hfault, ?_⟩
    rintro rfl
    exact absurd hcall (by decide)
  · rw [if_neg hcall]
    by_cases hret : w = 0x00EE
    · subst hret
      obtain ⟨hframes, hlast⟩ := frames_ret hb h hw hfault
      rw [if_pos rfl]
      exact ⟨hframes, fun _ => hlast⟩
    · have hsound : t.fetched.board.regs.Sound := sound_fetched hb (lt_of_wordAt hw)
      obtain ⟨hsp, hstack⟩ := Board.stack_executed t.strict t.noise hsound hcall hret
      rw [if_neg hret]
      exact ⟨h.of_eq hsp hstack, fun hw => absurd hw hret⟩

end Executed

/-- An instruction that does not come to its end leaves the call stack alone. That is clear where it ends before
    the word is executed, and where it ends in a fault; it may also end because a listener fails to hear of the
    effect of the word, and then the word had an effect to tell of. -/
theorem Ran.stack_kept {t : Machine κ τ s} (hb : t.Bounded)
    {out : Except Failure Unit × Machine κ τ s} (h : Ran host t out) :
    (out.2.instructions = t.instructions ∧ out.2.board.regs.sp = t.board.regs.sp ∧
        out.2.board.regs.stack = t.board.regs.stack) ∨
      ∃ w, t.board.memory.WordAt t.board.regs.pc w ∧
        (Instruction.ofWord w).fault? t.strict t.fetched.board.regs = none ∧
        out = (announceFrame host).exec (t.counted host w) := by
  have hstopped (halt : Halt) (hout : out.1 = .error (.halt halt)) : Stopped t halt out.2 :=
    h.stopped hb hout
  cases h with
  | noWord past => exact Or.inl ⟨rfl, rfl, rfl⟩
  | @untraced w fetched e fails =>
    obtain ⟨traces, hcore⟩ := t.fetched.core_traced host t.board.regs.pc w
    exact Or.inl ⟨congrArg Core.instructions hcore, congrArg (·.board.regs.sp) hcore,
      congrArg (·.board.regs.stack) hcore⟩
  | fault fetched fault =>
    have hstop := hstopped _ rfl
    have hinterrupted := hstop.executing _ rfl
    exact Or.inl ⟨hstop.instructions, hinterrupted.pointer, hinterrupted.stack⟩
  | @untold w fetched fault e fails told =>
    -- listeners were told of something, so the word was neither a call nor a return
    obtain ⟨hcall, hret⟩ := Board.not_call_of_effect told
    have hsound : t.fetched.board.regs.Sound := sound_fetched hb (lt_of_wordAt fetched)
    have hboard := (board_effected host w _).trans (board_executed_ready host w t)
    refine Or.inl ⟨instructions_effected host w t, ?_⟩
    dsimp only
    rw [hboard]
    exact Board.stack_executed t.strict t.noise hsound hcall hret
  | @done w fetched fault =>
    rw [counted_eq]
    exact Or.inr ⟨w, fetched, fault, rfl⟩

/-- A step moves the list as the word says that it completes. -/
theorem frames_step (host : Host s) {m : Machine κ τ s} (hb : m.Bounded) {calls : List Int}
    (h : Frames m.board.regs calls) :
    Frames (Call.step.after host m).board.regs (Turn.step.pend host m calls) ∧
      (m.completed host = some 0x00EE →
        calls.getLast? = some (Call.step.after host m).board.regs.pc) := by
  have hmoved := moved_step host hb
  generalize hu : Call.step.after host m = u at hmoved ⊢
  -- a step that completes nothing only has to keep the stack
  have hidle (hcount : u.instructions = m.instructions) (hsp : u.board.regs.sp = m.board.regs.sp)
      (hstack : u.board.regs.stack = m.board.regs.stack) :
      Frames u.board.regs (Turn.step.pend host m calls) ∧
        (m.completed host = some 0x00EE → calls.getLast? = some u.board.regs.pc) := by
    have hnone : m.completed host = none := completed_eq_none (by rw [hu, hcount])
    have hpend : Turn.step.pend host m calls = calls := Turn.pend_of_none (by simp) hnone
    rw [hpend, hnone]
    exact ⟨h.of_eq hsp hstack, fun hw => by cases hw⟩
  cases hmoved with
  | halted => exact hidle rfl rfl rfl
  | unserviced service ticked =>
    exact hidle (congrArg Core.instructions ticked.core)
      (congrArg (·.board.regs.sp) ticked.core) (congrArg (·.board.regs.stack) ticked.core)
  | @polled t service ticked x wait =>
    obtain ⟨v, wait, hcore⟩ := core_pollKeys host x t
    exact hidle ((congrArg Core.instructions hcore).trans (congrArg Core.instructions ticked.core))
      ((congrArg (·.board.regs.sp) hcore).trans (congrArg (·.board.regs.sp) ticked.core))
      ((congrArg (·.board.regs.stack) hcore).trans (congrArg (·.board.regs.stack) ticked.core))
  | @ran t service ticked bounded wait out ran =>
    have hsp : t.board.regs.sp = m.board.regs.sp := congrArg (·.board.regs.sp) ticked.core
    have hstack : t.board.regs.stack = m.board.regs.stack :=
      congrArg (·.board.regs.stack) ticked.core
    have hpc : t.board.regs.pc = m.board.regs.pc := congrArg (·.board.regs.pc) ticked.core
    rcases ran.stack_kept bounded with ⟨hcount, hsp', hstack'⟩ | ⟨w, fetched, fault, rfl⟩
    · exact hidle (hcount.trans (congrArg Core.instructions ticked.core)) (hsp'.trans hsp)
        (hstack'.trans hstack)
    · have hcompleted := completed_of_counted ticked fetched hu
      have hpend : Turn.step.pend host m calls = w.pending t.board.regs.pc calls := by
        rw [hpc]
        exact Turn.pend_of_some (by simp) hcompleted
      obtain ⟨hframes, hret⟩ := frames_executed bounded (h.of_eq hsp hstack) fetched fault
      obtain ⟨traces, hcore⟩ := core_announced host w t
      have hregs : ((announceFrame host).exec (t.counted host w)).2.board.regs =
          (t.fetched.board.executed t.strict t.noise w).regs :=
        congrArg (·.board.regs) hcore
      rw [hpend, hregs, hcompleted]
      exact ⟨hframes, fun hw => hret (Option.some.inj hw)⟩

/-- A call faults exactly if the list is full, and a return exactly if it is empty. -/
theorem answer_of_frames {m : Machine κ τ s} (hb : m.Bounded) {calls : List Int}
    (h : Frames m.board.regs calls) (hhalted : m.halted = false) (hwait : m.wait = none) {w : Word}
    (hw : m.word? = some w) (hanswer : ∀ e, ((step host).exec m).1 = .error e → ∃ halt, e = .halt halt) :
    (w.family = 0x2 → ((step host).exec m).1 =
      if calls.length = 16 then .error (.halt ⟨.stackOverflow m.board.regs.pc, m.board.regs.pc, some w⟩)
      else .ok ()) ∧
    (w = 0x00EE → ((step host).exec m).1 =
      if calls = [] then .error (.halt ⟨.stackUnderflow, m.board.regs.pc, some w⟩) else .ok ()) := by
  -- the stack pointer is the length of the list, so the two faults are faults of the list
  have hdepth : m.fetched.board.regs.sp = calls.length := h.depth
  rw [Machine.answer_step hb hhalted hwait hw hanswer]
  constructor
  · intro hcall
    have hsp : m.fetched.board.regs.sp = 16 ↔ calls.length = 16 := by omega
    have hpc : m.fetched.board.regs.pc - 2 = m.board.regs.pc := Int.add_sub_cancel ..
    rw [(Instruction.ofWord_eq_iff w (.call w.address)).mpr ⟨hcall, rfl⟩, Instruction.fault?, hpc]
    by_cases hfull : calls.length = 16
    · rw [if_pos (hsp.mpr hfull), if_pos hfull]
    · rw [if_neg (mt hsp.mp hfull), if_neg hfull]
  · rintro rfl
    have hsp : m.fetched.board.regs.sp = 0 ↔ calls = [] := by
      rw [← List.length_eq_zero_iff]
      omega
    rw [(Instruction.ofWord_eq_iff 0x00EE .ret).mpr rfl, Instruction.fault?]
    by_cases hempty : calls = []
    · rw [if_pos (hsp.mpr hempty), if_pos hempty]
    · rw [if_neg (mt hsp.mp hempty), if_neg hempty]

end Machine

/-! ## The view of the stack

The lines that are shown of a stack are those of its list. -/

/-- One line for each position, if there is one for all of them. -/
theorem mapM_eq_ok {f : Nat → Except Misuse String} {g : Nat → String} {l : List Nat}
    (h : ∀ k ∈ l, f k = .ok (g k)) : l.mapM f = .ok (l.map g) := by
  induction l with
  | nil => rfl
  | cons k l ih =>
    rw [List.mapM_cons, h k List.mem_cons_self, ih fun j hj => h j (List.mem_cons_of_mem _ hj)]
    rfl

omit [Seconds τ] [Clock κ τ] in
/-- The view shows the list, the last entry first, each entry with its depth. -/
theorem Frames.stackLines_eq {m : Machine κ τ s} {calls : List Int} (h : Frames m.board.regs calls)
    (hfits : calls.length ≤ 16) :
    m.snapshot.stackLines = .ok ((List.range calls.length).reverse.map fun depth =>
      Text.padLeft 2 (toString depth) ++ ": " ++ Text.hex 4 (calls[depth]?.getD 0)) := by
  have hsp : m.snapshot.sp = calls.length := h.depth
  have hlen : m.snapshot.stack.length = 16 := by simp [Machine.snapshot]
  rw [Snapshot.stackLines, if_neg (by omega), if_neg (by omega), hsp, Int.toNat_natCast]
  refine mapM_eq_ok fun depth hdepth => ?_
  rw [List.mem_reverse, List.mem_range] at hdepth
  have hcell : m.snapshot.stack[depth]? = some calls[depth] := by
    rw [← h.cells ⟨depth, by omega⟩ hdepth]
    simp [Machine.snapshot, show depth < 16 by omega]
  rw [Snapshot.frameLine, hcell, List.getElem?_eq_getElem hdepth]
  rfl

/-! ## Whole runs

The invariant from turn to turn, by induction on the turns, and then what it says in the end. -/

namespace Turn

variable {host : Host s}

/-- Every turn keeps the list in the cells. A step moves both, a restart empties both, and nothing else touches
    the stack. -/
theorem frames_after (host : Host s) (x : Turn κ) {m : Machine κ τ s} {calls : List Int}
    (h : m.Bounded ∧ Frames m.board.regs calls) :
    (x.after host m).Bounded ∧ Frames (x.after host m).board.regs (x.pend host m calls) := by
  obtain ⟨hb, hframes⟩ := h
  refine ⟨x.bounded_after host hb, ?_⟩
  -- steps follow the word that they complete, restarts empty the stack, and other turns leave it alone
  cases hx : x.kind with
  | step =>
    obtain rfl := eq_step_of_kind hx
    exact (Machine.frames_step host hb hframes).1
  | tick =>
    have hticked := ticked_after host hx m
    rw [pend_of_none (by simp [hx]) (completed_of_ne (by simp [hx]) host m)]
    exact hframes.of_eq (congrArg (·.board.regs.sp) hticked.core)
      (congrArg (·.board.regs.stack) hticked.core)
  | restart =>
    obtain ⟨program, hboard⟩ := board_after_of_restart host hx m
    rw [pend, if_pos hx, hboard]
    exact .initial
  | aside =>
    obtain ⟨keypad, strict, tracing, hcore⟩ := (aside_after host hx m).core
    rw [pend_of_none (by simp [hx]) (completed_of_ne (by simp [hx]) host m)]
    exact hframes.of_eq (congrArg (·.board.regs.sp) hcore) (congrArg (·.board.regs.stack) hcore)

/-- Every run keeps the list in the cells. -/
theorem frames_afterAll (host : Host s) (xs : List (Turn κ)) {m : Machine κ τ s} {calls : List Int}
    (h : m.Bounded ∧ Frames m.board.regs calls) :
    (afterAll host xs m).Bounded ∧
      Frames (afterAll host xs m).board.regs (track host (pend host) xs m calls) := by
  have hxs : ∀ x ∈ xs, True := fun _ _ => trivial
  exact invariant_track (I := fun m calls => m.Bounded ∧ Frames m.board.regs calls)
    (fun x _ _ _ h => frames_after host x h) hxs h

/-- Returns take the list down from its end, as long as no call adds to it. -/
theorem track_pend_of_no_call {ys : List (Turn κ)} {m : Machine κ τ s} {calls : List Int}
    (hys : ∀ y ∈ ys, y.kind ≠ .restart) (hcalls : ∀ w ∈ completedWords host ys m, w.family ≠ 0x2) :
    (track host (pend host) ys m calls).reverse =
      calls.reverse.drop ((completedWords host ys m).count 0x00EE) := by
  induction ys generalizing m calls with
  | nil => rfl
  | cons y ys ih =>
    have hy := hys y List.mem_cons_self
    have hrest : ∀ x ∈ ys, x.kind ≠ .restart := fun x hx => hys x (List.mem_cons_of_mem _ hx)
    rw [track]
    -- a turn that completes no word, or one that is no return, leaves both sides as they are
    cases hword : y.completed host m with
    | none =>
      rw [completedWords, hword] at hcalls ⊢
      rw [ih hrest hcalls, pend_of_none hy hword]
      rfl
    | some w =>
      rw [completedWords, hword] at hcalls ⊢
      have hno : w.family ≠ 0x2 := hcalls w List.mem_cons_self
      rw [ih hrest fun v hv => hcalls v (List.mem_cons_of_mem _ hv), pend_of_some hy hword,
        Word.pending, if_neg hno, Option.toList_some, List.singleton_append]
      by_cases hret : w = 0x00EE
      · rw [if_pos hret, hret, List.count_cons_self, ← List.tail_reverse, List.drop_tail]
      · rw [if_neg hret, List.count_cons_of_ne hret]

end Turn

/-- The call stack of a machine is a list of pending return addresses. -/
structure CallStack (host : Host s) (m : Machine κ τ s) (calls : List Int) : Prop where
  frames : Frames m.board.regs calls
  fits : calls.length ≤ 16
  /-- A completed return goes to the last entry. -/
  ret : m.completed host = some 0x00EE → calls.getLast? = some (Call.step.after host m).board.regs.pc
  /-- Unless it fails over the time or a listener, a step answers to a call with a fault exactly if the
      list is full, and to a return exactly if it is empty. -/
  answer : m.halted = false → m.wait = none → ∀ w, m.word? = some w →
    (∀ e, ((Machine.step host).exec m).1 = .error e → ∃ halt, e = .halt halt) →
    (w.family = 0x2 → ((Machine.step host).exec m).1 =
      if calls.length = 16 then .error (.halt ⟨.stackOverflow m.board.regs.pc, m.board.regs.pc, some w⟩)
      else .ok ()) ∧
    (w = 0x00EE → ((Machine.step host).exec m).1 =
      if calls = [] then .error (.halt ⟨.stackUnderflow, m.board.regs.pc, some w⟩) else .ok ())
  /-- The view has one line for each entry, the last one first, with its depth and its address. -/
  view : ∃ lines, m.snapshot.stackLines = .ok lines ∧ lines.length = calls.length ∧
    ∀ k < calls.length, ∃ address, calls.reverse[k]? = some address ∧
      lines[k]? = some
        (Text.padLeft 2 (toString (calls.length - 1 - k)) ++ ": " ++ Text.hex 4 address)
  /-- If no call intervenes, the return behind `k` others goes to the address on line `k`. -/
  returns : ∀ ys : List (Turn κ), (∀ y ∈ ys, y.kind ≠ .restart) →
    (∀ w ∈ Turn.completedWords host ys m, w.family ≠ 0x2) →
    (Turn.afterAll host ys m).completed host = some 0x00EE →
    calls.reverse[(Turn.completedWords host ys m).count 0x00EE]? =
      some (Call.step.after host (Turn.afterAll host ys m)).board.regs.pc

namespace Turn

variable {host : Host s}

/-- All that is said of a call stack follows from the cells below the pointer. -/
theorem callStack_of_frames {m : Machine κ τ s} {calls : List Int}
    (h : m.Bounded ∧ Frames m.board.regs calls) : CallStack host m calls := by
  obtain ⟨hb, hframes⟩ := h
  have hfits : calls.length ≤ 16 := by
    have hpointer := hb.pointer.2
    have hdepth := hframes.depth
    omega
  refine ⟨hframes, hfits, (Machine.frames_step host hb hframes).2, ?_, ?_, ?_⟩
  · intro hhalted hwait w hw hanswer
    exact Machine.answer_of_frames hb hframes hhalted hwait hw hanswer
  · refine ⟨_, hframes.stackLines_eq hfits, by simp, ?_⟩
    intro k hk
    have hdepth : calls.length - 1 - k < calls.length := by omega
    refine ⟨calls[calls.length - 1 - k], ?_, ?_⟩
    · rw [List.getElem?_reverse hk, List.getElem?_eq_getElem hdepth]
    · rw [List.getElem?_map, List.getElem?_reverse (by simpa using hk), List.length_range,
        List.getElem?_range hdepth, Option.map_some, List.getElem?_eq_getElem hdepth]
      rfl
  · intro ys hys hcalls hret
    have hlater := frames_afterAll host ys ⟨hb, hframes⟩
    -- the later list is what the returns left of this one, so its last entry stands on line `k`
    have hlast := (Machine.frames_step host hlater.1 hlater.2).2 hret
    rw [← List.head?_reverse, track_pend_of_no_call hys hcalls, List.head?_drop] at hlast
    exact hlast

/-- At every time of every run the call stack is the list of the calls that were completed and not yet
    returned from. -/
theorem callStack_afterAll (host : Host s) (settings : Machine.Settings τ) (clock : κ)
    (noise : Nat → UInt8) (xs : List (Turn κ)) :
    CallStack host (afterAll host xs (.create settings clock noise))
      (pendingCalls host xs (.create settings clock noise)) := by
  refine callStack_of_frames (frames_afterAll host xs ⟨?_, ?_⟩)
  · exact (Machine.Reachable.create settings clock noise : Machine.Reachable host _).bounded
  · rw [Machine.board_create]
    exact .initial

end Turn

end Chip8
