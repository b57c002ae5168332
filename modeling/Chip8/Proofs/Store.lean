import Chip8.Proofs.Act
import Chip8.Proofs.Memory
import Mathlib.Data.List.Induction
/-!
Memory as a store.

Cells are changed by writes, by loads and by resets, in any order and number, some of which are refused. What
is read from a cell must depend on this history alone.

1. **Specification** — `Change.held` looks for the latest change since the last reset that tells anything of a
   cell; `Change.refusal` says which changes are refused and so tell nothing.

2. **Step** — a change that is refused leaves the memory as it was (`after_of_error`), and after any change a
   cell is as the change tells, or as before (`cells_after`).

3. **Histories** — a history is read from its end, and so is the induction over it (`cells_afterAll`,
   `stores_afterAll`).

4. **Blocks** — blocks are read through a slice whose end is not checked. `blockLength` tells how many bytes
   there are in it, and each of them is the one that a single read finds (`readBlock_reads`). A negative
   length is where the two notions of an end come apart.
-/

namespace Chip8.Memory

/-! ## Images

A list of numbers can be taken as bytes exactly if each of them is one. -/

/-- Numbers are an image if they are all bytes. -/
theorem bytesOfInts_eq (image : List Int) : bytesOfInts image =
    if ∃ v ∈ image, v < 0 ∨ 255 < v then .error .byteOutOfRange
    else .ok (image.map fun v => UInt8.ofNat v.toNat) := by
  induction image with
  | nil => simp [bytesOfInts]
  | cons v rest ih =>
    rw [bytesOfInts, ih]
    by_cases hv : 0 ≤ v ∧ v ≤ 255
    · have hiff : (∃ u ∈ v :: rest, u < 0 ∨ 255 < u) ↔ ∃ u ∈ rest, u < 0 ∨ 255 < u := by
        simp only [List.mem_cons, exists_eq_or_imp]
        exact or_iff_right (by omega)
      rw [if_pos hv]
      simp only [hiff]
      split <;> rfl
    · rw [if_neg hv, if_pos ⟨v, List.mem_cons_self, by omega⟩]

/-! ## Changes

The specification: a cell holds what the latest change since the last reset tells of it. A change that is
refused tells nothing. -/

/-- What may be done to the cells. -/
inductive Change where
  /-- Put the low eight bits of a number at an address. -/
  | write (address value : Int)
  /-- Copy an image, given as numbers, to the program area. -/
  | load (image : List Int)
  | reset
  deriving DecidableEq

namespace Change

/-- The memory that a change makes of a memory, if it is not refused. -/
def made : Change → Memory → Except Failure Memory
  | write address value, m => (m.write address value).mapError .fault
  | load image, m => m.loadInts image
  | reset, _ => .ok blank

/-- A change as an operation on a memory. -/
def act (c : Change) : Act Memory Unit := do
  let next ← Act.ofExcept id (c.made (← get))
  modify fun _ => next

/-- The memory that a change leaves, whether it is made or refused. -/
def after (c : Change) (m : Memory) : Memory := (c.act.exec m).2

/-- The memory that changes leave, one after another. -/
def afterAll (history : List Change) (m : Memory) : Memory := history.foldl (fun m c => c.after m) m

/-- Why a change is refused. -/
def refusal : Change → Option Failure
  | write address _ =>
    if address < 0 ∨ 0xFFF < address then some (.fault (.addressOutOfRange address)) else none
  | load image =>
    if ∃ v ∈ image, v < 0 ∨ 255 < v then some (.misuse .byteOutOfRange)
    else if maxImageSize < image.length then
      some (.fault (.programTooLarge image.length maxImageSize))
    else none
  | reset => none

/-- The number that a change is to put into a cell, if it reaches the cell. -/
def gives (a : Nat) : Change → Option Int
  | write address value => if address = a then some (value % 256) else none
  | load image => if programStart ≤ a then image[a - programStart]? else none
  | reset => none

/-- The number that a change puts into a cell: none if it is refused. -/
def tells (a : Nat) (c : Change) : Option Int := if c.refusal = none then c.gives a else none

/-- What a cell holds if nothing was told of it: the font, and zero above it. -/
def seed (a : Nat) : Int := (font[a]?.getD 0).toNat

/-- What a cell holds by the history: what the latest change since the last reset tells that tells anything
    of it. -/
def held (history : List Change) (a : Nat) : Int :=
  ((history.reverse.takeWhile (· != reset)).findSome? (tells a)).getD (seed a)

theorem exec_act (c : Change) (m : Memory) : c.act.exec m =
    match c.made m with
    | .ok next => (.ok (), next)
    | .error e => (.error e, m) := by
  rw [act, Act.exec_get_bind]
  cases c.made m <;> rfl

/-! ## One change

Each change either is refused, and then changes no cell, or makes what it tells of every cell. -/

theorem made_of_refusal {c : Change} {e : Failure} (h : c.refusal = some e) (m : Memory) :
    c.made m = .error e := by
  cases c with
  | write address value =>
    obtain ⟨hwrong, he⟩ := Option.ite_none_right_eq_some.mp h
    cases he
    rw [made, Memory.write, put, (locate_eq_error_iff address _).mpr ⟨hwrong, rfl⟩]
    rfl
  | load image =>
    rw [refusal] at h
    rw [made, loadInts, bytesOfInts_eq]
    -- an image with a number that is no byte is refused before its length is looked at
    split at h
    · next hwrong =>
      cases h
      rw [if_pos hwrong]
    · next hbytes =>
      obtain ⟨hlong, he⟩ := Option.ite_none_right_eq_some.mp h
      cases he
      rw [if_neg hbytes]
      dsimp only
      rw [Memory.load, List.length_map, if_pos hlong]
  | reset => cases h

theorem cells_reset {a : Nat} (ha : a < 4096) : (blank.cells[a].toNat : Int) = seed a := by
  unfold seed
  by_cases hfont : a < 80
  · rw [cells_blank_of_lt hfont, Vector.getElem?_eq_getElem hfont, Option.getD_some]
  · rw [cells_blank_of_ge ha (by omega), Vector.getElem?_eq_none (by omega), Option.getD_none]

/-- The low eight bits of a number are its remainder. -/
theorem toNat_lowByte (v : Int) : ((UInt8.ofNat (v % 256).toNat).toNat : Int) = v % 256 := by
  rw [UInt8.toNat_ofNat']
  omega

/-- A write to a cell is made, and only that cell is another. -/
theorem exists_made_write {address value : Int} (h : (write address value).refusal = none) (m : Memory) :
    ∃ next, (write address value).made m = .ok next ∧ ∀ (a : Nat) (ha : a < 4096),
      (next.cells[a].toNat : Int) = ((write address value).gives a).getD m.cells[a].toNat := by
  have haddress : ¬(address < 0 ∨ 0xFFF < address) := by simpa [refusal] using h
  obtain ⟨k, rfl⟩ := Int.eq_ofNat_of_zero_le (by omega : 0 ≤ address)
  have hk : k < 4096 := by omega
  refine ⟨⟨m.cells.set k (UInt8.ofNat (value % 256).toNat)⟩, ?_, fun a ha => ?_⟩
  · rw [made, Memory.write, put_of_lt m hk]
    rfl
  · rw [gives]
    -- the cell that was written, and the others
    by_cases hka : k = a
    · subst hka
      rw [if_pos rfl, Vector.getElem_set_self, toNat_lowByte]
      rfl
    · rw [if_neg (by omega), Vector.getElem_set_ne _ _ hka]
      rfl

theorem refusal_load_eq_none_iff {image : List Int} : (load image).refusal = none ↔
    (∀ v ∈ image, 0 ≤ v ∧ v ≤ 255) ∧ image.length ≤ maxImageSize := by
  have hbytes : (¬∃ v ∈ image, v < 0 ∨ 255 < v) ↔ ∀ v ∈ image, 0 ≤ v ∧ v ≤ 255 := by
    simp only [not_exists, not_and, not_or, Int.not_lt]
  rw [← hbytes, ← Nat.not_lt, refusal]
  split
  · next hwrong => simp [hwrong]
  · next hbytes => simp [hbytes]

/-- A load of bytes that fit is made, and only the cells of the image are others. -/
theorem exists_made_load {image : List Int} (h : (load image).refusal = none) (m : Memory) :
    ∃ next, (load image).made m = .ok next ∧ ∀ (a : Nat) (ha : a < 4096),
      (next.cells[a].toNat : Int) = ((load image).gives a).getD m.cells[a].toNat := by
  obtain ⟨hbytes, hlength⟩ := refusal_load_eq_none_iff.mp h
  refine ⟨m.overlay programStart (image.map fun v => UInt8.ofNat v.toNat), ?_, fun a ha => ?_⟩
  · have hwrong : ¬∃ v ∈ image, v < 0 ∨ 255 < v := by
      rintro ⟨v, hv, hout⟩
      have := hbytes v hv
      omega
    rw [made, loadInts, bytesOfInts_eq, if_neg hwrong]
    dsimp only
    rw [load_of_le m (by rwa [List.length_map])]
  · rw [gives, cells_overlay]
    by_cases hstart : programStart ≤ a
    · have hplace : ((a : Int) - programStart).toNat = a - programStart := by omega
      rw [if_pos hstart, if_pos (by omega), hplace, List.getElem?_map]
      cases hv : image[a - programStart]? with
      | none => rfl
      | some v =>
        -- a byte is the number that it was made of
        have := hbytes v (List.mem_of_getElem? hv)
        dsimp only [Option.map_some, Option.getD_some]
        rw [UInt8.toNat_ofNat']
        omega
    · rw [if_neg hstart, if_neg (by omega)]
      rfl

/-- A change that is not refused is made, and a cell is as it tells or as before. -/
theorem exists_made {c : Change} (h : c.refusal = none) (m : Memory) : ∃ next, c.made m = .ok next ∧
    ∀ (a : Nat) (ha : a < 4096), (next.cells[a].toNat : Int) =
      if c = reset then seed a else (c.gives a).getD m.cells[a].toNat := by
  cases c with
  | write address value =>
    obtain ⟨next, hnext, hcells⟩ := exists_made_write h m
    exact ⟨next, hnext, fun a ha => (hcells a ha).trans (if_neg (by simp)).symm⟩
  | load image =>
    obtain ⟨next, hnext, hcells⟩ := exists_made_load h m
    exact ⟨next, hnext, fun a ha => (hcells a ha).trans (if_neg (by simp)).symm⟩
  | reset => exact ⟨blank, rfl, fun a ha => cells_reset ha⟩

/-- A change answers with its refusal, if there is one. -/
theorem answer_act (c : Change) (m : Memory) : (c.act.exec m).1 =
    match c.refusal with
    | some e => .error e
    | none => .ok () := by
  rw [exec_act]
  cases hrefusal : c.refusal with
  | some e => rw [made_of_refusal hrefusal]
  | none =>
    obtain ⟨next, hnext, -⟩ := exists_made hrefusal m
    rw [hnext]

/-- A change that is refused leaves the memory as it was. -/
theorem after_of_error {c : Change} {m : Memory} {e : Failure} (h : (c.act.exec m).1 = .error e) :
    c.after m = m := by
  rw [exec_act] at h
  rw [after, exec_act]
  cases hmade : c.made m with
  | ok next =>
    rw [hmade] at h
    cases h
  | error e => rfl

/-- After any change, made or refused, a cell is as the change tells or as before; a reset brings it to what it
    was at first. -/
theorem cells_after (c : Change) (m : Memory) {a : Nat} (ha : a < 4096) :
    ((c.after m).cells[a].toNat : Int) =
      if c = reset then seed a else (c.tells a).getD m.cells[a].toNat := by
  cases hrefusal : c.refusal with
  | some e =>
    have hne : c ≠ reset := fun h => by simp [h, refusal] at hrefusal
    have htells : c.tells a = none := if_neg (by simp [hrefusal])
    -- a refused change leaves memory as it is
    have hafter : c.after m = m := after_of_error ((answer_act c m).trans (by rw [hrefusal]))
    rw [if_neg hne, htells, hafter]
    rfl
  | none =>
    have htells : c.tells a = c.gives a := if_pos hrefusal
    obtain ⟨next, hnext, hcells⟩ := exists_made hrefusal m
    have hafter : c.after m = next := by
      rw [after, exec_act, hnext]
    rw [htells, hafter]
    exact hcells a ha

/-! ## Histories

The value of a cell after one more change, and from it the values of all cells by induction on the changes. -/

/-- What a history with one more change tells: what the change tells, or else what the others do. -/
theorem held_append (history : List Change) (c : Change) (a : Nat) :
    held (history ++ [c]) a = if c = reset then seed a else (c.tells a).getD (held history a) := by
  rw [held, List.reverse_append, List.reverse_singleton, List.singleton_append, List.takeWhile_cons]
  by_cases hc : c = reset
  · rw [if_pos hc, hc]
    rfl
  · have hne : (c != reset) = true := bne_iff_ne.mpr hc
    rw [if_neg hc, hne, if_pos rfl, List.findSome?_cons, held]
    cases c.tells a <;> rfl

/-- A cell holds what the history tells of it. The history is read from its end, and so the induction adds
    changes there. -/
theorem cells_afterAll (history : List Change) {a : Nat} (ha : a < 4096) :
    ((afterAll history blank).cells[a].toNat : Int) = held history a := by
  induction history using List.reverseRecOn with
  | nil => exact cells_reset ha
  | append_singleton history c ih =>
    have hafter : afterAll (history ++ [c]) blank = c.after (afterAll history blank) := by
      rw [afterAll, List.foldl_append]
      rfl
    rw [hafter, cells_after c _ ha, ih, held_append]

/-- A shorter image leaves the tail of the one before it, and one with a number that is no byte leaves all. -/
example : held [.load [1, 2, 3], .load [9], .write 0x202 300, .load [7, 256]] 0x201 = 2 ∧
    held [.load [1, 2, 3], .load [9], .write 0x202 300, .load [7, 256]] 0x202 = 44 := by decide

end Change

/-- What a memory must be like after a history of changes. -/
structure Stores (history : List Change) (m : Memory) : Prop where
  /-- A write is refused exactly if there is no cell at its address. -/
  write : ∀ address value, ((Change.write address value).act.exec m).1 =
    if address < 0 ∨ 0xFFF < address then .error (.fault (.addressOutOfRange address)) else .ok ()
  /-- A load is refused exactly if one of its numbers is no byte or there are more than fit. -/
  load : ∀ image, ((Change.load image).act.exec m).1 =
    if ∃ v ∈ image, v < 0 ∨ 255 < v then .error (.misuse .byteOutOfRange)
    else if 3584 < image.length then .error (.fault (.programTooLarge image.length 3584))
    else .ok ()
  reset : (Change.reset.act.exec m).1 = .ok ()
  /-- A change that is refused changes no cell. -/
  refused : ∀ (c : Change) e, (c.act.exec m).1 = .error e → c.after m = m
  /-- What is read from a cell is what the history tells of it. -/
  read : ∀ a : Fin 4096, ∃ b, m.read a.val = .ok b ∧ (b.toNat : Int) = Change.held history a.val

namespace Change

/-- After any changes of a new memory, made or refused, each cell is read as the latest of them tells since the
    last reset; and exactly those are refused that name no cell, that are no bytes or that do not fit. -/
theorem stores_afterAll (history : List Change) : Stores history (afterAll history blank) := by
  -- what the next change answers holds of any memory; only what is read depends on the history
  generalize hm : afterAll history blank = m
  constructor
  case write =>
    intro address value
    rw [answer_act, refusal]
    by_cases hwrong : address < 0 ∨ 0xFFF < address
    · rw [if_pos hwrong, if_pos hwrong]
    · rw [if_neg hwrong, if_neg hwrong]
  case load =>
    intro image
    rw [answer_act, refusal]
    by_cases hwrong : ∃ v ∈ image, v < 0 ∨ 255 < v
    · rw [if_pos hwrong, if_pos hwrong]
    · rw [if_neg hwrong, if_neg hwrong, maxImageSize]
      by_cases hlong : 3584 < image.length
      · rw [if_pos hlong, if_pos hlong]
      · rw [if_neg hlong, if_neg hlong]
  case reset => exact answer_act reset m
  case refused =>
    intro c e he
    exact after_of_error he
  case read =>
    intro a
    subst hm
    exact ⟨_, read_of_lt _ a.isLt, cells_afterAll history a.isLt⟩

end Change

/-! ## Blocks

What a read of a block answers. The number of its bytes is the one that was asked for, but for the negative
lengths that the last theorem is about. -/

/-- A block must be refused if there is no cell at its first address, or at its last one if it has one. -/
def Beyond (start length : Int) : Prop :=
  (start < 0 ∨ 0xFFF < start) ∨ 0 < length ∧ 0xFFF < start + length - 1

instance (start length : Int) : Decidable (Beyond start length) :=
  inferInstanceAs (Decidable ((start < 0 ∨ 0xFFF < start) ∨ 0 < length ∧ 0xFFF < start + length - 1))

/-- How many bytes there are in a block. One of negative length is empty, unless it ends below zero: that end
    is counted from the top of memory, and the block goes up to there. -/
def blockLength (start length : Int) : Nat :=
  if 0 ≤ start + length then length.toNat else (4096 + length).toNat

variable {start length : Int}

theorem length_block (m : Memory) (h : ¬Beyond start length) :
    ((m.cells.toList.take (blockEnd start length)).drop start.toNat).length = blockLength start length := by
  unfold Beyond at h
  rw [List.length_drop, List.length_take, Vector.length_toList, blockEnd, blockLength]
  split <;> split <;> omega

/-- A block has as many bytes as were asked for, and none if fewer than none were, except where it ends below
    zero and the end that is meant then lies behind its start. -/
theorem blockLength_eq_toNat_iff (h : ¬Beyond start length) :
    blockLength start length = length.toNat ↔ 0 ≤ start + length ∨ length ≤ -4096 := by
  unfold Beyond at h
  rw [blockLength]
  split <;> omega

/-- The bytes of a block are those that single reads find. -/
theorem read_block (m : Memory) (h : ¬Beyond start length) {i : Nat} {bytes : List UInt8}
    (hbytes : (m.cells.toList.take (blockEnd start length)).drop start.toNat = bytes)
    (hi : i < bytes.length) : m.read (start + i) = .ok bytes[i] := by
  subst hbytes
  have hstart : ¬(start < 0 ∨ 0xFFF < start) := fun hs => h (Or.inl hs)
  have hend : start.toNat + i < 4096 := by
    rw [List.length_drop, List.length_take, Vector.length_toList] at hi
    omega
  have haddress : start + i = ((start.toNat + i : Nat) : Int) := by omega
  rw [haddress, read_of_lt m hend, List.getElem_drop, List.getElem_take, Vector.getElem_toList]

/-- A block is read exactly if its first address has a cell, and its last one too if its length is positive.
    Then each of its bytes is the one that a single read finds. There are as many as were asked for, or none if
    fewer than none were, but for blocks that end below zero: those go up to that end counted from the top. -/
theorem readBlock_reads (m : Memory) (start length : Int) :
    match m.readBlock start length with
    | .error f => Beyond start length ∧
        ∃ address, f = .addressOutOfRange address ∧ (address < 0 ∨ 0xFFF < address)
    | .ok bytes => ¬Beyond start length ∧ bytes.length = blockLength start length ∧
        (bytes.length = length.toNat ↔ 0 ≤ start + length ∨ length ≤ -4096) ∧
        ∀ (i : Nat) (h : i < bytes.length), m.read (start + i) = .ok bytes[i] := by
  rw [readBlock_eq]
  by_cases hstart : start < 0 ∨ 0xFFF < start
  · rw [if_pos hstart]
    exact ⟨Or.inl hstart, start, rfl, hstart⟩
  rw [if_neg hstart]
  by_cases hend : 0 < length ∧ 0xFFF < start + length - 1
  · rw [if_pos hend]
    exact ⟨Or.inr hend, _, rfl, Or.inr hend.2⟩
  rw [if_neg hend]
  -- here both ends are good, or the length is below one and the end was not looked at
  have hwithin : ¬Beyond start length := fun h => h.elim hstart hend
  have hlength := length_block m hwithin
  refine ⟨hwithin, hlength, ?_, fun i hi => read_block m hwithin rfl hi⟩
  rw [hlength]
  exact blockLength_eq_toNat_iff hwithin

/-- A block of length minus one from the first cell on has all bytes but the last. -/
theorem readBlock_reads_below : ∃ bytes, blank.readBlock 0 (-1) = .ok bytes ∧ bytes.length = 4095 ∧
    ∀ (i : Nat) (h : i < bytes.length), blank.read (0 + i) = .ok bytes[i] := by
  have hreads := readBlock_reads blank 0 (-1)
  generalize blank.readBlock 0 (-1) = out at hreads ⊢
  cases out with
  | error f => exact absurd hreads.1 (by decide)
  | ok bytes => exact ⟨bytes, rfl, hreads.2.1, hreads.2.2.2⟩

end Chip8.Memory
