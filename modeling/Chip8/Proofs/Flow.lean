import Chip8.Proofs.CallStack
import Chip8.Proofs.KeyWait
/-!
Where the program counter goes.

A fetch moves the counter behind the word before the word is executed, so jumps, calls, skips and waits
for a key each find it there, and most words leave it there. Steps that wait complete no word and must not
move it at all, however many of them there are.

1. **Specification** — `Board.Next` is the table: one row for returns, one for the jumps to an address, one
   for the jump with an offset, one for the skips whose condition holds, and one for all the rest. It is read
   from the word and from the board that the step finds. Its rows exclude each other (`Next.unique`), so it
   says where the counter goes and not only where it may go.

2. **Words** — `next_executed`: a word without a fault follows the table. A word that is none of those that
   move the counter is in the last row by its footprint, so only the ten kinds of jump are looked at.

3. **Waits** — a word that asks for a key leaves the counter behind itself (`pc_of_wait`), and no step moves
   it while the key is awaited or when it is found (`pc_of_waiting`). `Turn.awaitedFrom` keeps the place of
   the word beside the run, since the machine does not.

4. **Invariant** — `Turn.Behind`: the counter is two past the kept place. Every turn keeps it
   (`behind_after`), so `Flow` holds at every time of every run (`Turn.flow_afterAll`).
-/

namespace Chip8

variable {κ τ : Type} {s : Size}

/-- The words that jump to the address in them: `0nnn` but for two, `1nnn`, and the call `2nnn`. They are one
    row of the table, since it makes no difference to the counter that a call also pushes. -/
def Word.GoesTo (w : Word) : Prop :=
  (w.family = 0x0 ∧ w ≠ 0x00E0 ∧ w ≠ 0x00EE) ∨ w.family = 0x1 ∨ w.family = 0x2

theorem Word.GoesTo.jumps {w : Word} (h : w.GoesTo) : w.Jumps := by
  rcases h with ⟨family, clear, -⟩ | family | family
  · exact .sys family clear
  · exact .jump family
  · exact .call family

theorem Word.GoesTo.family_le {w : Word} (h : w.GoesTo) : w.family ≤ 0x2 := by
  rcases h with ⟨family, -⟩ | family | family <;> omega

theorem Word.GoesTo.family_ne {w : Word} (h : w.GoesTo) : w.family ≠ 0xB := by
  have := h.family_le
  omega

theorem Word.GoesTo.ne_ret {w : Word} (h : w.GoesTo) : w ≠ 0x00EE := by
  rintro rfl
  rcases h with ⟨-, -, ret⟩ | family | family
  · exact ret rfl
  · cases family
  · cases family

theorem Word.ne_ret_of_family {w : Word} (h : w.family = 0xB) : w ≠ 0x00EE := by
  rintro rfl
  cases h

namespace Board

/-- The condition of a word that skips the next one, if it is such a word. The words of the keys skip on an
    answer of the keypad; a register that names no key skips on neither. -/
def Skips (b : Board s) (w : Word) : Prop :=
  match w.family with
  | 0x3 => b.regs.get w.x = w.kk
  | 0x4 => b.regs.get w.x ≠ w.kk
  | 0x5 => w.n.val = 0 ∧ b.regs.get w.x = b.regs.get w.y
  | 0x9 => w.n.val = 0 ∧ b.regs.get w.x ≠ b.regs.get w.y
  | 0xE =>
    (w.kk = 0x9E ∧ b.keypad.isDown (b.regs.get w.x).toNat = .ok true) ∨
      (w.kk = 0xA1 ∧ b.keypad.isDown (b.regs.get w.x).toNat = .ok false)
  | _ => False

/-- Where the program counter goes from the place of a word that strikes no fault. The board is the one that
    the step finds, so the counter is at the word itself and the rows add 2 and 4 to it. -/
inductive Next (b : Board s) (w : Word) : Int → Prop
  /-- To the address that was put on the stack last. -/
  | ret (word : w = 0x00EE) {k : Fin 16} (top : b.regs.sp = k.val + 1) :
    Next b w (getElem b.regs.stack k.val (lt_sixteen k)).toNat
  | jump (word : w.GoesTo) : Next b w w.address.val
  /-- The sum is not cut off at the end of memory. -/
  | offset (family : w.family = 0xB) :
    Next b w (w.address.val + (b.regs.get Registers.offset).toNat)
  | skip (skips : b.Skips w) : Next b w (b.regs.pc + 4)
  /-- All other words, whatever they do: the counter stays where the fetch left it. -/
  | next (ret : w ≠ 0x00EE) (jump : ¬w.GoesTo) (offset : w.family ≠ 0xB) (skip : ¬b.Skips w) :
    Next b w (b.regs.pc + 2)

variable {b b' : Board s} {w : Word}

/-! ## The rows of the table exclude each other

A word belongs to one row at most, and whether it skips can be read off the board. So the table is a
function where it says anything. -/

theorem Skips.family (h : b.Skips w) :
    w.family = 0x3 ∨ w.family = 0x4 ∨ w.family = 0x5 ∨ w.family = 0x9 ∨ w.family = 0xE := by
  unfold Skips at h
  split at h
  case h_6 => exact h.elim
  all_goals omega

theorem Skips.jumps (h : b.Skips w) : w.Jumps := by
  unfold Skips at h
  split at h
  · next family => exact .skipEq family
  · next family => exact .skipNe family
  · next family => exact .skipEqReg family h.1
  · next family => exact .skipNeReg family h.1
  · next family =>
    rcases h with ⟨kk, -⟩ | ⟨kk, -⟩
    · exact .skipDown ⟨family, kk⟩
    · exact .skipUp ⟨family, kk⟩
  · exact h.elim

theorem skips_iff_of_down (key : w.Key 0x9E) :
    b.Skips w ↔ b.keypad.isDown (b.regs.get w.x).toNat = .ok true := by
  simp [Skips, key.1, key.2]

theorem skips_iff_of_up (key : w.Key 0xA1) :
    b.Skips w ↔ b.keypad.isDown (b.regs.get w.x).toNat = .ok false := by
  simp [Skips, key.1, key.2]

theorem Skips.ne_ret (h : b.Skips w) : w ≠ 0x00EE := by
  rintro rfl
  rcases h.family with family | family | family | family | family <;> cases family

theorem Skips.not_goesTo (h : b.Skips w) : ¬w.GoesTo := by
  intro word
  have := word.family_le
  have := h.family
  omega

theorem Skips.family_ne (h : b.Skips w) : w.family ≠ 0xB := by
  have := h.family
  omega

/-- The counter goes to one place only. Off the diagonal the two rows contradict each other about the word,
    except that a skip and the last row contradict each other about the board. -/
theorem Next.unique {p q : Int} (h : Next b w p) (h' : Next b w q) : p = q := by
  -- each row is set against each; all but the same row twice are excluded by what they say of the word
  cases h with
  | @ret word k top =>
    cases h' with
    | @ret word' j top' =>
      obtain rfl : k = j := Fin.ext (by omega)
      rfl
    | jump word' => exact absurd word word'.ne_ret
    | offset family => exact absurd word (Word.ne_ret_of_family family)
    | skip skips => exact absurd word skips.ne_ret
    | next ret => exact absurd word ret
  | jump word =>
    cases h' with
    | ret word' => exact absurd word' word.ne_ret
    | jump => rfl
    | offset family => exact absurd family word.family_ne
    | skip skips => exact absurd word skips.not_goesTo
    | next ret jump => exact absurd word jump
  | offset family =>
    cases h' with
    | ret word => exact absurd word (Word.ne_ret_of_family family)
    | jump word => exact absurd family word.family_ne
    | offset => rfl
    | skip skips => exact absurd family skips.family_ne
    | next ret jump offset => exact absurd family offset
  | skip skips =>
    cases h' with
    | ret word => exact absurd word skips.ne_ret
    | jump word => exact absurd word skips.not_goesTo
    | offset family => exact absurd family skips.family_ne
    | skip => rfl
    | next ret jump offset skip => exact absurd skips skip
  | next ret jump offset skip =>
    cases h' with
    | ret word => exact absurd word ret
    | jump word => exact absurd word jump
    | offset family => exact absurd family offset
    | skip skips => exact absurd skips skip
    | next => rfl

/-- A condition depends on byte registers and keys. -/
theorem skips_congr (hv : b'.regs.v = b.regs.v) (hkeypad : b'.keypad = b.keypad) (w : Word) :
    b'.Skips w ↔ b.Skips w := by
  have hget (x : Fin 16) : b'.regs.get x = b.regs.get x := by rw [Registers.get, hv]; rfl
  unfold Skips
  simp only [hget, hkeypad]

/-- The timers have no part in the flow. A step services them before it fetches, so a table that is read from
    the board the step finds must not depend on them. -/
theorem Next.of_untimed {p : Int} (h : Next b w p) (hregs : b'.regs.untimed = b.regs.untimed)
    (hkeypad : b'.keypad = b.keypad) : Next b' w p := by
  have hv : b'.regs.v = b.regs.v := congrArg (·.v) hregs
  have hpc : b'.regs.pc = b.regs.pc := congrArg (·.pc) hregs
  have hsp : b'.regs.sp = b.regs.sp := congrArg (·.sp) hregs
  have hstack : b'.regs.stack = b.regs.stack := congrArg (·.stack) hregs
  -- whether a word skips depends on byte registers and keys, which are the same
  have hskips := skips_congr hv hkeypad w
  cases h with
  | @ret word k top =>
    rw [← hstack]
    exact .ret word (hsp.trans top)
  | jump word => exact .jump word
  | offset family =>
    have hget : b.regs.get Registers.offset = b'.regs.get Registers.offset := by
      rw [Registers.get, ← hv]
      rfl
    rw [hget]
    exact .offset family
  | skip skips =>
    rw [← hpc]
    exact .skip (hskips.mpr skips)
  | next ret jump offset skip =>
    rw [← hpc]
    exact .next ret jump offset (mt hskips.mp skip)

/-! ## Executed words

The next place after an instruction on the board is the one in its row. -/

/-- The board after a fetch from it: the counter is behind the word. -/
def past (b : Board s) : Board s := b.mapRegs fun r => { r with pc := r.pc + 2 }

/-- A word that skips goes past the next one if its condition holds, and else stays where the fetch left
    the counter. -/
theorem next_skipIf (hb : b.regs.Sound) (hpc : b.regs.pc < 0xFFF) (hw : w.Jumps) (hfamily : 0x2 < w.family)
    (hoffset : w.family ≠ 0xB) {c : Bool} (hc : c = true ↔ b.Skips w) :
    Next b w ((b.past.regs.noting w).skipIf c).pc := by
  have h0 := hb.counter.1
  cases c with
  | true =>
    -- a skip wraps around at 16 bits, which a counter inside memory is far from
    have hskip : ((b.past.regs.noting w).skipIf true).pc = b.regs.pc + 4 := by
      show (b.regs.pc + 2 + 2) % 65536 = b.regs.pc + 4
      omega
    rw [hskip]
    exact .skip (hc.mp rfl)
  | false =>
    have hret : w ≠ 0x00EE := by
      rintro rfl
      exact absurd hfamily (by decide)
    have hjump : ¬w.GoesTo := fun h => by
      have := h.family_le
      omega
    exact .next hret hjump hoffset fun h => by cases hc.mpr h

/-- A register with which a word of the keys strikes no fault does name a key. -/
theorem lt_of_fault?_key {value : Nat}
    (h : (if 15 < value then some (Fault.invalidKey value) else none) = none) : value < 16 := by
  split at h
  · cases h
  · omega

/-- A word that strikes no fault takes the counter where the table says. The words that may move the counter
    are a case each, by their families; that no other word does is read off the footprint. -/
theorem next_executed (strict : Bool) (noise : Nat → UInt8) (hb : b.regs.Sound) (hpc : b.regs.pc < 0xFFF)
    (hfault : (Instruction.ofWord w).fault? strict b.past.regs = none) :
    Next b w (b.past.executed strict noise w).regs.pc := by
  have hpast : b.past.regs.Sound := hb.jump (by have := hb.counter.1; omega)
  by_cases hjumps : w.Jumps
  · cases hjumps with
    | sys family clear =>
      by_cases hret : w = 0x00EE
      · subst hret
        -- there is something to return to, or the word would have struck its fault
        have hused : b.past.regs.sp ≠ 0 := by
          intro hempty
          rw [(Instruction.ofWord_eq_iff 0x00EE .ret).mpr rfl, Instruction.fault?, if_pos hempty] at hfault
          cases hfault
        obtain ⟨k, hk⟩ := hpast.empty_or_used.resolve_left hused
        rw [(executed_ret strict noise hk).2.2]
        exact .ret rfl hk
      · rw [executed_eq, (Instruction.ofWord_eq_iff w (.sys w.address)).mpr ⟨⟨family, clear, hret⟩, rfl⟩]
        exact .jump (Or.inl ⟨family, clear, hret⟩)
    | jump family =>
      rw [executed_eq, (Instruction.ofWord_eq_iff w (.jump w.address)).mpr ⟨family, rfl⟩]
      exact .jump (Or.inr (Or.inl family))
    | call family =>
      have hins := (Instruction.ofWord_eq_iff w (.call w.address)).mpr ⟨family, rfl⟩
      have hfree : b.past.regs.sp ≠ 16 := by
        intro hfull
        rw [hins, Instruction.fault?, if_pos hfull] at hfault
        cases hfault
      -- the address that is pushed is a natural number, as a stack cell needs
      obtain ⟨k, hk⟩ := hpast.full_or_free.resolve_left hfree
      obtain ⟨a, ha⟩ := Int.eq_ofNat_of_zero_le hpast.counter.1
      have hbound := hpast.counter.2
      rw [executed_eq, hins, exec_call_of_free (b := b.past.mapRegs (·.noting w)) hk ha (by omega)]
      exact .jump (Or.inr (Or.inr family))
    | jumpOffset family =>
      rw [executed_eq, (Instruction.ofWord_eq_iff w (.jumpOffset w.address)).mpr ⟨family, rfl⟩]
      exact .offset family
    | skipEq family =>
      rw [executed_eq, (Instruction.ofWord_eq_iff w (.skipEq w.x w.kk)).mpr ⟨family, rfl, rfl⟩]
      refine next_skipIf hb hpc (.skipEq family) (by omega) (by omega) ?_
      simp only [Skips, family, beq_iff_eq]
      rfl
    | skipNe family =>
      rw [executed_eq, (Instruction.ofWord_eq_iff w (.skipNe w.x w.kk)).mpr ⟨family, rfl, rfl⟩]
      refine next_skipIf hb hpc (.skipNe family) (by omega) (by omega) ?_
      simp only [Skips, family, bne_iff_ne]
      rfl
    | skipEqReg family n =>
      rw [executed_eq, (Instruction.ofWord_eq_iff w (.skipEqReg w.x w.y)).mpr ⟨⟨family, n⟩, rfl, rfl⟩]
      refine next_skipIf hb hpc (.skipEqReg family n) (by omega) (by omega) ?_
      simp only [Skips, family, n, true_and, beq_iff_eq]
      rfl
    | skipNeReg family n =>
      rw [executed_eq, (Instruction.ofWord_eq_iff w (.skipNeReg w.x w.y)).mpr ⟨⟨family, n⟩, rfl, rfl⟩]
      refine next_skipIf hb hpc (.skipNeReg family n) (by omega) (by omega) ?_
      simp only [Skips, family, n, true_and, bne_iff_ne]
      rfl
    | skipDown key =>
      have hins := (Instruction.ofWord_eq_iff w (.skipDown w.x)).mpr ⟨key, rfl⟩
      have hbyte : (b.regs.get w.x).toNat < 16 := lt_of_fault?_key (by rwa [hins] at hfault)
      have hdown := Keypad.isDown_val b.keypad ⟨_, hbyte⟩
      rw [executed_eq, hins, exec_skipDown,
        dif_pos (show ((b.past.mapRegs (·.noting w)).regs.get w.x).toNat < 16 from hbyte)]
      refine next_skipIf hb hpc (.skipDown key) (by rw [key.1]; decide) (by rw [key.1]; decide) ?_
      rw [skips_iff_of_down key, hdown]
      exact ⟨congrArg Except.ok, Except.ok.inj⟩
    | skipUp key =>
      have hins := (Instruction.ofWord_eq_iff w (.skipUp w.x)).mpr ⟨key, rfl⟩
      have hbyte : (b.regs.get w.x).toNat < 16 := lt_of_fault?_key (by rwa [hins] at hfault)
      have hdown := Keypad.isDown_val b.keypad ⟨_, hbyte⟩
      rw [executed_eq, hins, exec_skipUp,
        dif_pos (show ((b.past.mapRegs (·.noting w)).regs.get w.x).toNat < 16 from hbyte)]
      refine next_skipIf hb hpc (.skipUp key) (by rw [key.1]; decide) (by rw [key.1]; decide) ?_
      rw [skips_iff_of_up key, hdown, Bool.not_eq_true']
      exact ⟨congrArg Except.ok, Except.ok.inj⟩
  · -- no other word moves the counter
    have hkept : (b.past.executed strict noise w).regs.pc = b.regs.pc + 2 :=
      Decidable.byContradiction fun hne => hjumps ((footprint_executed strict noise hpast w).counter hne)
    rw [hkept]
    refine .next ?_ (mt Word.GoesTo.jumps hjumps) (fun family => hjumps (.jumpOffset family))
      (mt Skips.jumps hjumps)
    rintro rfl
    exact hjumps (.sys rfl (by decide))

end Board

variable [Seconds τ] [Clock κ τ] {host : Host s}

namespace Machine

/-! ## Steps

The same for a step of a machine, timers and listeners included. -/

/-- A step that completes a word takes the counter where the table says. The word is executed on the board
    with its timers serviced and its trace made, and neither matters to the flow. -/
theorem next_step {m : Machine κ τ s} (hb : m.Bounded) {w : Word} (h : m.completed host = some w) :
    m.board.Next w (Call.step.after host m).board.regs.pc := by
  obtain ⟨t, hcompleting⟩ := completing_of_completed hb h
  have hticked := hcompleting.ticked
  obtain ⟨traces, hcore⟩ := core_announced host w t
  have hpc : ((announceFrame host).exec (t.counted host w)).2.board.regs.pc =
      (t.board.past.executed t.strict t.noise w).regs.pc :=
    congrArg (·.board.regs.pc) hcore
  have hnext := Board.next_executed t.strict t.noise hcompleting.bounded (lt_of_wordAt hcompleting.fetched)
    hcompleting.fault
  rw [hcompleting.after, hpc]
  exact hnext.of_untimed (congrArg (·.board.regs) hticked.core).symm
    (congrArg (·.board.keypad) hticked.core).symm

end Machine

/-! ## Waits for a key

A machine that waits stands behind the instruction that began the wait, and stays there until a key is down.
-/

namespace Turn

/-- The place of the word that asked for the key that is awaited, kept from turn to turn: it is noted when a
    wait begins, kept while the wait lasts, and forgotten by a restart. -/
def awaitedFrom (host : Host s) (x : Turn κ) (m : Machine κ τ s) (place : Option Int) : Option Int :=
  if x.kind = .restart ∨ (x.after host m).wait = none then none
  else if m.wait = none then some m.board.regs.pc
  else place

end Turn

namespace Machine

/-- A word `Fxkk` is none of those that move the counter. -/
theorem not_jumps_of_misc {w : Word} {kk : UInt8} (h : w.Misc kk) : ¬w.Jumps := by
  have hfamily := h.1
  intro hjumps
  cases hjumps with
  | skipDown key | skipUp key =>
    have := key.1
    omega
  | _ => omega

/-- An instruction that leaves a wait leaves the counter behind its word. -/
theorem Ran.pc_of_wait {t : Machine κ τ s} (hb : t.Bounded) {out : Except Failure Unit × Machine κ τ s}
    (h : Ran host t out) (hwait : t.wait = none) {x : Fin 16} (hx : out.2.wait = some x) :
    out.2.board.regs.pc = t.board.regs.pc + 2 := by
  obtain ⟨w, hw, hmisc, -⟩ := (h.keyNews hwait).2 x hx
  -- the word was executed, and is not one that moves the counter
  have hkept {v : Word} (hv : t.board.memory.WordAt t.board.regs.pc v) :
      (t.fetched.board.executed t.strict t.noise v).regs.pc = t.board.regs.pc + 2 := by
    obtain rfl : v = w := hv.unique (word?_eq_some_iff.mp hw)
    have hfoot := Board.footprint_executed t.strict t.noise (sound_fetched hb (lt_of_wordAt hv)) v
    exact Decidable.byContradiction fun hne => not_jumps_of_misc hmisc (hfoot.counter hne)
  have hnone {u : Machine κ τ s} (hu : u.wait = t.wait) (hux : u.wait = some x) : False := by
    rw [hu, hwait] at hux
    cases hux
  cases h with
  | noWord past => exact (hnone rfl hx).elim
  | @untraced v fetched e fails =>
    obtain ⟨traces, hcore⟩ := t.fetched.core_traced host t.board.regs.pc v
    exact (hnone (congrArg Core.wait hcore) hx).elim
  | @fault v fetched f fault =>
    obtain ⟨traces, hcore⟩ := core_executed_ready host v t
    exact (hnone (congrArg Core.wait hcore) hx).elim
  | @untold v fetched fault e fails told =>
    have hboard := (board_effected host v _).trans (board_executed_ready host v t)
    exact (congrArg (·.regs.pc) hboard).trans (hkept fetched)
  | @done v fetched fault =>
    rw [counted_eq]
    obtain ⟨traces, hcore⟩ := core_announced host v t
    have hpc : ((announceFrame host).exec (t.counted host v)).2.board.regs.pc =
        (t.fetched.board.executed t.strict t.noise v).regs.pc :=
      congrArg (·.board.regs.pc) hcore
    exact hpc.trans (hkept fetched)

/-- A step that begins a wait leaves the counter behind the word that asked for the key. -/
theorem pc_of_wait {m : Machine κ τ s} (hb : m.Bounded) (hwait : m.wait = none) {x : Fin 16}
    (hx : (Call.step.after host m).wait = some x) :
    (Call.step.after host m).board.regs.pc = m.board.regs.pc + 2 := by
  have hmoved := moved_step host hb
  generalize Call.step.after host m = u at hmoved hx ⊢
  -- only a step that ran an instruction can have begun the wait
  cases hmoved with
  | halted =>
    rw [hwait] at hx
    cases hx
  | unserviced service ticked =>
    rw [ticked.wait_eq, hwait] at hx
    cases hx
  | polled service ticked wait =>
    rw [ticked.wait_eq, hwait] at wait
    cases wait
  | @ran t service ticked bounded wait out ran =>
    have hpc : t.board.regs.pc = m.board.regs.pc := congrArg (·.board.regs.pc) ticked.core
    rw [← hpc]
    exact ran.pc_of_wait bounded wait hx

/-- A step of a machine that waits leaves the counter alone, whether it finds a key or not. -/
theorem pc_of_waiting (host : Host s) {m : Machine κ τ s} {x : Fin 16} (hwait : m.wait = some x) :
    (Call.step.after host m).board.regs.pc = m.board.regs.pc := by
  cases hhalted : m.halted with
  | true => rw [Call.after, Call.act, exec_step_of_halted host hhalted]
  | false => exact (waiting_of_wait host hhalted hwait).held.pc

end Machine

/-- Where the program counter goes: `place` is where the word stands that asked for the awaited key. -/
structure Flow (host : Host s) (m : Machine κ τ s) (place : Option Int) : Prop where
  /-- A step of a running machine that does not fail completes a word. -/
  completes : m.halted = false → m.wait = none → ((Machine.step host).exec m).1 = .ok () →
    ∃ w, m.completed host = some w
  /-- The word that is completed is the one at the counter. -/
  word : ∀ w, m.completed host = some w → m.board.memory.WordAt m.board.regs.pc w
  /-- A step that completes a word takes the counter where the table says for that word, and nowhere else. -/
  next : ∀ w, m.completed host = some w →
    ∀ p, (Call.step.after host m).board.regs.pc = p ↔ m.board.Next w p
  /-- A wait begins with a word that asks for a key, whose place is kept. -/
  begins : ∀ x, m.wait = none → (Call.step.after host m).wait = some x →
    (∃ w, m.board.memory.WordAt m.board.regs.pc w ∧ w.Misc 0x0A ∧ w.x = x) ∧
      Turn.step.awaitedFrom host m place = some m.board.regs.pc
  /-- While a key is awaited there is such a place. A listener that fails over a reset may leave the wait in
      a machine that was restarted, so this needs listeners that never fail. -/
  awaits : host.NeverFails → m.wait.isSome = true → place.isSome = true
  /-- While a key is awaited the counter is behind the word that asked for it, and a step leaves it there,
      also one that finds a key and ends the wait. -/
  behind : ∀ p, place = some p → m.wait.isSome = true →
    m.board.regs.pc = p + 2 ∧ (Call.step.after host m).board.regs.pc = p + 2

namespace Turn

/-- A turn that is neither a step nor a restart leaves the counter alone. -/
theorem pc_after_of_ne (host : Host s) {x : Turn κ} (hstep : x.kind ≠ .step) (hrestart : x.kind ≠ .restart)
    (m : Machine κ τ s) : (x.after host m).board.regs.pc = m.board.regs.pc := by
  cases hx : x.kind with
  | step => exact absurd hx hstep
  | restart => exact absurd hx hrestart
  | tick => exact congrArg (·.board.regs.pc) (ticked_after host hx m).core
  | aside =>
    obtain ⟨keypad, strict, tracing, hcore⟩ := (aside_after host hx m).core
    exact congrArg (·.board.regs.pc) hcore

/-- A restart over which no listener fails ends a wait. -/
theorem wait_after_of_neverFails (hfails : host.NeverFails) {x : Turn κ} (hx : x.kind = .restart)
    (m : Machine κ τ s) : (x.after host m).wait = none := by
  cases x with
  | call c single =>
    cases c with
    | load program => exact congrArg Core.wait (Machine.core_load hfails program m).1
    | reset => exact congrArg Core.wait (Machine.core_reset hfails m).1
    | _ => cases hx
  | _ => cases hx

/-- The invariant: if a place is kept, the counter is behind the word there. It is stated of every kept place
    and not only while a key is awaited, so that no turn needs to know how the last one left the wait. -/
structure Behind (host : Host s) (m : Machine κ τ s) (place : Option Int) : Prop where
  bounded : m.Bounded
  pc : ∀ p, place = some p → m.board.regs.pc = p + 2
  awaits : host.NeverFails → m.wait.isSome = true → place.isSome = true

/-- Every turn keeps the counter behind the word that asked for the awaited key: a step that begins a wait
    puts it there, a step that waits does not move it, and no turn but a restart moves it otherwise. -/
theorem behind_after (host : Host s) (x : Turn κ) {m : Machine κ τ s} {place : Option Int}
    (h : Behind host m place) : Behind host (x.after host m) (x.awaitedFrom host m place) := by
  refine ⟨x.bounded_after host h.bounded, ?_, ?_⟩
  · intro p hp
    obtain ⟨hcond, hplace⟩ := Option.ite_none_left_eq_some.mp hp
    obtain ⟨hrestart, hafter⟩ := not_or.mp hcond
    by_cases hstep : x.kind = .step
    · obtain rfl := eq_step_of_kind hstep
      split at hplace
      · next hwait =>
        -- the wait begins here
        obtain ⟨y, hy⟩ := Option.ne_none_iff_exists'.mp hafter
        obtain rfl := Option.some.inj hplace
        exact Machine.pc_of_wait h.bounded hwait hy
      · next hwait =>
        obtain ⟨y, hy⟩ := Option.ne_none_iff_exists'.mp hwait
        exact (Machine.pc_of_waiting host hy).trans (h.pc p hplace)
    · rw [wait_after_of_ne host hstep hrestart] at hafter
      rw [if_neg hafter] at hplace
      exact (pc_after_of_ne host hstep hrestart m).trans (h.pc p hplace)
  · intro hfails hsome
    have hrestart : x.kind ≠ .restart := by
      intro hx
      rw [wait_after_of_neverFails hfails hx] at hsome
      cases hsome
    have hafter : (x.after host m).wait ≠ none := Option.isSome_iff_ne_none.mp hsome
    rw [awaitedFrom, if_neg (not_or.mpr ⟨hrestart, hafter⟩)]
    split
    · rfl
    · next hwait => exact h.awaits hfails (Option.isSome_iff_ne_none.mpr hwait)

/-- Where the counter is behind the word that asked for a key, the counter goes where `Flow` says. All but the
    last clause need only that the registers are in their ranges. -/
theorem flow_of_behind {m : Machine κ τ s} {place : Option Int} (h : Behind host m place) :
    Flow host m place := by
  refine ⟨?_, ?_, ?_, ?_, h.awaits, ?_⟩
  · intro hhalted hwait hok
    obtain ⟨w, hw, -⟩ := Machine.completed_of_ok h.bounded hhalted hwait hok
    exact ⟨w, hw⟩
  · intro w hw
    exact Machine.wordAt_of_completed hw
  · intro w hw p
    have hnext := Machine.next_step h.bounded hw
    constructor
    · rintro rfl
      exact hnext
    · exact hnext.unique
  · intro x hwait hx
    obtain ⟨w, hw, hmisc⟩ := (Machine.keyNews_step host h.bounded hwait).2 x hx
    refine ⟨⟨w, Machine.word?_eq_some_iff.mp hw, hmisc⟩, ?_⟩
    -- the step began a wait, so it neither restarted nor left the machine without one
    have hafter : ¬((step : Turn κ).kind = .restart ∨ (step.after host m).wait = none) := by
      rintro (hrestart | hnone)
      · cases hrestart
      · cases hnone.symm.trans hx
    rw [awaitedFrom, if_neg hafter, if_pos hwait]
  · intro p hp hsome
    obtain ⟨x, hx⟩ := Option.isSome_iff_exists.mp hsome
    exact ⟨h.pc p hp, (Machine.pc_of_waiting host hx).trans (h.pc p hp)⟩

/-- At every time of every run the program counter goes where the table says, and a wait for a key leaves
    it behind the word that asked for the key. -/
theorem flow_afterAll (host : Host s) (settings : Machine.Settings τ) (clock : κ) (noise : Nat → UInt8)
    (xs : List (Turn κ)) :
    Flow host (afterAll host xs (.create settings clock noise))
      (track host (awaitedFrom host) xs (.create settings clock noise) none) := by
  have hcreate : Behind host (Machine.create settings clock noise : Machine κ τ s) none := by
    refine ⟨Machine.bounded_create settings clock noise, ?_, ?_⟩
    · intro p hp
      cases hp
    · intro _ hwait
      rw [show (Machine.create settings clock noise : Machine κ τ s).wait = none from
        congrArg Core.wait (Machine.core_create settings clock noise)] at hwait
      cases hwait
  have hxs : ∀ x ∈ xs, True := fun _ _ => trivial
  exact flow_of_behind (invariant_track (I := fun m place => Behind host m place)
    (fun x _ _ _ h => behind_after host x h) hxs hcreate)

end Turn

end Chip8
