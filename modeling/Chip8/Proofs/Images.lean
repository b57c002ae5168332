import Chip8.Proofs.Assembly
import Chip8.Proofs.Reach
/-!
Three readings of a program image.

An image is read as a listing, as words, and as memory, by three loops of their own. They must agree on where
words begin, also behind an odd byte, and on what a word is.

1. **Listing** — the lines of a listing stand for the bytes that it is of (`Listing.bytes`). This rests on a
   fact about the texts of words: none of them looks like the line of a last odd byte
   (`ListingLine.isData_ofWord`), so a line tells by itself how many bytes it stands for.

2. **Words** — the words of an image are the complete lines of its listing (`wordsAt_eq`), by one induction
   over both loops.

3. **Memory** — a word of a program is what a machine fetches at its address once the program is loaded
   (`Machine.fetch_load`). `Machine.readings_agree` puts the three together.
-/

namespace Chip8

/-! ## Lines

A line of a listing stands for two bytes or for one. -/

namespace ListingLine

/-- Is it the line of a last odd byte? The text tells, by the name that stands before a byte. -/
def isData (l : ListingLine) : Bool := l.text.toList.take 2 == ['D', 'B']

/-- The bytes that a line stands for: one if it is the line of a byte, and else the two of its word. -/
def bytes (l : ListingLine) : List UInt8 :=
  if l.isData then [UInt8.ofNat l.word] else [UInt8.ofNat (l.word / 256), UInt8.ofNat (l.word % 256)]

/-- The line of a word. -/
def ofWord (address : Int) (w : Word) : ListingLine := ⟨address, w.toNat, mnemonic w⟩

/-- The line of a byte. -/
def ofByte (address : Int) (b : UInt8) : ListingLine := ⟨address, b.toNat, "DB 0x" ++ Text.hex 2 b.toNat⟩

/-- No instruction has the name that stands before a byte, so the line of a word is never taken for that of a
    byte. The names are looked at one by one, and the operands not at all. -/
theorem isData_ofWord (address : Int) (w : Word) : (ofWord address w).isData = false := by
  -- a name has two letters, so the operands behind it have no part in the first two
  have hname : ∀ name ∈ Instruction.names, 2 ≤ name.toList.length ∧ name.toList.take 2 ≠ ['D', 'B'] := by
    decide
  obtain ⟨hlength, hne⟩ := hname _ (Instruction.ofWord w).name_mem_names
  obtain ⟨rest, hrest⟩ := exists_assemble_eq (Instruction.ofWord w).parts.1 (Instruction.ofWord w).parts.2
  rw [isData, ofWord, mnemonic_eq_text, Instruction.text_eq, hrest, List.take_append_of_le_length hlength]
  exact beq_eq_false_iff_ne.mpr hne

theorem isData_ofByte (address : Int) (b : UInt8) : (ofByte address b).isData = true := by
  rw [isData, ofByte, String.toList_append]
  rfl

/-- The line of a word stands for the two bytes that it was made of. -/
theorem bytes_ofWord (address : Int) (hi lo : UInt8) :
    (ofWord address (Word.ofBytes hi lo)).bytes = [hi, lo] := by
  have hhi := hi.toNat_lt
  have hlo := lo.toNat_lt
  have hword : (Word.ofBytes hi lo).toNat = hi.toNat * 256 + lo.toNat := by
    rw [Word.ofBytes, UInt16.toNat_ofNat']
    omega
  have hhigh : (hi.toNat * 256 + lo.toNat) / 256 = hi.toNat := by omega
  have hlow : (hi.toNat * 256 + lo.toNat) % 256 = lo.toNat := by omega
  rw [bytes, isData_ofWord, if_neg (by decide), ofWord, hword, hhigh, hlow, UInt8.ofNat_toNat,
    UInt8.ofNat_toNat]

theorem bytes_ofByte (address : Int) (b : UInt8) : (ofByte address b).bytes = [b] := by
  rw [bytes, isData_ofByte, if_pos rfl, ofByte, UInt8.ofNat_toNat]

end ListingLine

/-! ## Listings

The bytes that were listed are those that the lines stand for, and each line is at its address. The
induction is on the recursion of the listing, two bytes at a time. -/

/-- The lines are those of the bytes that lie at `address`: the lines are given one by one, and together they
    stand for the bytes. -/
structure Listing (address : Int) (bytes : List UInt8) (lines : List ListingLine) : Prop where
  /-- There are half as many lines as bytes, rounded up. -/
  length : lines.length = (bytes.length + 1) / 2
  /-- A line is two bytes behind the one before, and has the word that lies there and its text. -/
  word : ∀ (k : Nat) (h : 2 * k + 1 < bytes.length),
    lines[k]? = some (.ofWord (address + 2 * k) (Word.ofBytes bytes[2 * k] bytes[2 * k + 1]))
  /-- A last odd byte has a line, too. -/
  last : ∀ (k : Nat) (h : 2 * k + 1 = bytes.length),
    lines[k]? = some (.ofByte (address + 2 * k) bytes[2 * k])
  /-- The lines stand for the bytes. -/
  bytes : lines.flatMap ListingLine.bytes = bytes

/-- Line `k` is that of the word at twice `k` bytes from the start. -/
theorem getElem?_disassemble (address : Int) {bytes : List UInt8} {k : Nat}
    (h : 2 * k + 1 < bytes.length) :
    (disassemble address bytes)[k]? =
      some (.ofWord (address + 2 * k) (Word.ofBytes bytes[2 * k] bytes[2 * k + 1])) := by
  fun_induction disassemble address bytes generalizing k with
  | case1 address => exact absurd h (Nat.not_lt_zero _)
  | case2 address last =>
    rw [List.length_singleton] at h
    omega
  | case3 address hi lo rest ih =>
    cases k with
    | zero =>
      rw [List.getElem?_cons_zero, Int.natCast_zero, Int.mul_zero, Int.add_zero]
      rfl
    | succ k =>
      -- the lines of the rest begin two bytes further on
      have hrest : 2 * k + 1 < rest.length := by
        simp only [List.length_cons] at h
        omega
      have haddress : address + 2 * ((k + 1 : Nat) : Int) = address + 2 + 2 * (k : Int) := by omega
      rw [List.getElem?_cons_succ, ih hrest, haddress]
      rfl

/-- The last of an odd number of bytes has a line of its own. -/
theorem getElem?_disassemble_last (address : Int) {bytes : List UInt8} {k : Nat}
    (h : 2 * k + 1 = bytes.length) :
    (disassemble address bytes)[k]? = some (.ofByte (address + 2 * k) bytes[2 * k]) := by
  fun_induction disassemble address bytes generalizing k with
  | case1 address => exact absurd h (Nat.succ_ne_zero _)
  | case2 address last =>
    -- one byte is left, and it is the last
    obtain rfl : k = 0 := by
      rw [List.length_singleton] at h
      omega
    rw [List.getElem?_cons_zero, Int.natCast_zero, Int.mul_zero, Int.add_zero]
    rfl
  | case3 address hi lo rest ih =>
    cases k with
    | zero => simp at h
    | succ k =>
      have hrest : 2 * k + 1 = rest.length := by
        simp only [List.length_cons] at h
        omega
      have haddress : address + 2 * ((k + 1 : Nat) : Int) = address + 2 + 2 * (k : Int) := by omega
      rw [List.getElem?_cons_succ, ih hrest, haddress]
      rfl

/-- Nothing is lost in a listing: its lines stand for the bytes that it is of. The induction is on the
    recursion of the listing, which takes two bytes at a time. -/
theorem flatMap_bytes_disassemble (address : Int) (bytes : List UInt8) :
    (disassemble address bytes).flatMap ListingLine.bytes = bytes := by
  fun_induction disassemble address bytes with
  | case1 address => rfl
  | case2 address last =>
    rw [List.flatMap_singleton]
    exact ListingLine.bytes_ofByte address last
  | case3 address hi lo rest ih =>
    rw [List.flatMap_cons, ih]
    exact congrArg (· ++ rest) (ListingLine.bytes_ofWord address hi lo)

theorem listing_disassemble (address : Int) (bytes : List UInt8) :
    Listing address bytes (disassemble address bytes) :=
  ⟨length_disassemble address bytes, fun _ => getElem?_disassemble address,
    fun _ => getElem?_disassemble_last address, flatMap_bytes_disassemble address bytes⟩

/-! ## Words

The words at even places of an image are those of the complete lines of its listing. -/

/-- The complete lines of a listing are the words of the bytes. Both readings take two bytes at a time, but
    only the listing has a line for a last odd byte, which `isData` leaves out. -/
theorem wordsAt_eq (address : Nat) (bytes : List UInt8) :
    (wordsAt address bytes).map (fun e => ((e.1 : Int), e.2.toNat)) =
      ((disassemble address bytes).filter (!·.isData)).map fun l => (l.address, l.word) := by
  fun_induction wordsAt address bytes with
  | case1 address hi lo rest ih =>
    have hline := ListingLine.isData_ofWord address (Word.ofBytes hi lo)
    rw [disassemble, List.map_cons, ih, List.filter_cons_of_pos, List.map_cons]
    · rfl
    · show (!(ListingLine.ofWord address (Word.ofBytes hi lo)).isData) = true
      rw [hline]
      rfl
  | case2 bytes address hshort =>
    -- fewer than two bytes are left: no line, or the line of the odd byte, which is not among the words
    match bytes, hshort with
    | [], _ => rfl
    | [last], _ =>
      have hline := ListingLine.isData_ofByte address last
      rw [disassemble, List.filter_cons_of_neg]
      · rfl
      · show ¬(!(ListingLine.ofByte address last).isData) = true
        rw [hline]
        decide
    | hi :: lo :: rest, hshort => exact absurd rfl (hshort hi lo rest)

/-- A word of the bytes at `address` is two of them. -/
theorem exists_of_mem_wordsAt {address : Nat} {bytes : List UInt8} {e : Nat × Word}
    (h : e ∈ wordsAt address bytes) :
    ∃ (k : Nat) (hk : 2 * k + 1 < bytes.length),
      e = (address + 2 * k, Word.ofBytes bytes[2 * k] bytes[2 * k + 1]) := by
  fun_induction wordsAt address bytes with
  | case1 address hi lo rest ih =>
    rcases List.mem_cons.mp h with rfl | h
    · exact ⟨0, by simp, rfl⟩
    · -- places in the rest are two further on in the whole
      obtain ⟨k, hk, rfl⟩ := ih h
      refine ⟨k + 1, ?_, ?_⟩
      · simp only [List.length_cons]
        omega
      · have haddress : address + 2 + 2 * k = address + 2 * (k + 1) := by omega
        rw [haddress]
        rfl
  | case2 address bytes hshort => cases h

/-! ## The three readings

The listing, the words of the program and what a machine fetches after loading are the same words. -/

namespace Machine

variable {κ τ : Type} {s : Size} [Seconds τ] [Clock κ τ]

/-- A word of a program is what is fetched at its address, where the program was loaded. -/
theorem fetch_load (host : Host s) (p : Program) (m : Machine κ τ s) {e : Nat × Word} (he : e ∈ p.words) :
    (Board.fetch.exec (((load host p).exec m).2.board.mapRegs fun r => { r with pc := e.1 })).1 =
      .ok e.2 := by
  -- the word is two bytes of the image, and these are two cells of memory
  obtain ⟨k, hk, rfl⟩ := exists_of_mem_wordsAt he
  have hword := wordAt_load host p m hk
  rw [Board.exec_fetch_of_wordAt hword]

/-- A listing has a line for each two bytes and one for a last odd byte, and its lines stand for the
    bytes. The words of a program are the complete lines of its listing, and wherever it was loaded they
    are what is fetched. -/
theorem readings_agree (host : Host s) :
    (∀ (address : Int) (bytes : List UInt8), Listing address bytes (disassemble address bytes)) ∧
    ∀ p : Program,
      p.words.map (fun e => ((e.1 : Int), e.2.toNat)) =
        ((disassemble programStart p.bytes).filter (!·.isData)).map (fun l => (l.address, l.word)) ∧
      ∀ e ∈ p.words, ∀ m : Machine κ τ s,
        (Board.fetch.exec (((load host p).exec m).2.board.mapRegs fun r => { r with pc := e.1 })).1 =
          .ok e.2 :=
  ⟨listing_disassemble, fun p => ⟨wordsAt_eq programStart p.bytes, fun _ he m => fetch_load host p m he⟩⟩

/-- A program with a byte behind its only word. -/
def trailing : Program := ⟨"", [0x00, 0xE0, 0x12], by decide⟩

/-- The word of this program is fetched where it stands in the listing. -/
theorem readings_trailing :
    (0x200, 0x00E0) ∈ trailing.words ∧
      (Board.fetch.exec (((load Host.inert trailing).exec (loaded .empty)).2.board.mapRegs
        fun r => { r with pc := (0x200 : Nat) })).1 = .ok 0x00E0 := by
  have hword : ((0x200, 0x00E0) : Nat × Word) ∈ trailing.words := List.mem_cons_self
  exact ⟨hword, ((readings_agree Host.inert).2 trailing).2 _ hword (loaded .empty)⟩

end Machine

end Chip8
