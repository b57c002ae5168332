import Chip8.Proofs.Dispatch
import Chip8.Proofs.Hex
/-!
Assembly text read back.

Whoever reads a listing wants to know which word stands there. So the text of an instruction must not only be
readable, it must say all that decoding finds: which instruction it is and with which operands.

1. **Operands** — how an operand is written says what kind of operand it is and which one (`Operand.ofChars?`,
   `Operand.ofChars?_text`). None of them has a blank or a comma in it (`Operand.ne_of_mem_text`).

2. **Texts** — the text of an instruction is a name and operands (`Instruction.parts`), assembled with a blank
   and commas. So it can be taken to pieces again (`pieces_assemble`), and the pieces are read one by one.

3. **Instructions** — a text says which instruction it is of (`Instruction.ofText?_of_ne`): no two
   instructions look alike (`Instruction.eq_of_text_eq`), and none looks like a word that is no instruction
   (`Instruction.text_eq_unknownText_iff`). That the text of a word is the text of the instruction which the
   word encodes, and of no other, is the subject of `Chip8.Proofs.Dispatch`.
-/

namespace Chip8

/-! ## Operands

An operand is read back from its characters. A number tells by how many places it has which kind of operand
it is. No operand contains a blank or a comma, which is what lets the operands of an instruction be told
apart. -/

/-- What may stand behind the name of an instruction. -/
inductive Operand where
  | register (x : Fin 16)
  | address (nnn : Fin 4096)
  | byte (kk : UInt8)
  /-- The row count of a drawing. -/
  | rows (n : Fin 16)
  /-- The index register. -/
  | index
  /-- The memory from the index register on. -/
  | cells
  | delay
  | sound
  | key
  | glyph
  | digits
  deriving DecidableEq

namespace Operand

/-- An operand as it is written. Numbers differ in how many places they have: three in an address, two in a
    byte, and one in a row count. -/
def text : Operand → String
  | register x => Assembly.registerName x
  | address nnn => Assembly.addressText nnn
  | byte kk => Assembly.byteText kk
  | rows n => Text.hexLiteral n.val
  | index => "I"
  | cells => "[I]"
  | delay => "DT"
  | sound => "ST"
  | key => "K"
  | glyph => "F"
  | digits => "B"

/-- The last hexadecimal digit of a number. -/
def lastDigit (n : Nat) : Fin 16 := ⟨n % 16, Nat.mod_lt n (by decide)⟩

theorem lastDigit_val (x : Fin 16) : lastDigit x.val = x := Fin.ext (Nat.mod_eq_of_lt x.isLt)

/-- The operand that a number stands for, which depends on how many places it has. -/
def ofDigits? (cs : List Char) : Option Operand :=
  match cs.length with
  | 3 => some (.address (Fin.ofNat 4096 (Text.hexNumber cs)))
  | 2 => some (.byte (UInt8.ofNat (Text.hexNumber cs)))
  | 1 => some (.rows (lastDigit (Text.hexNumber cs)))
  | _ => none

/-- The operand that is written with these characters. -/
def ofChars? : List Char → Option Operand
  | 'V' :: cs => some (.register (lastDigit (Text.hexNumber cs)))
  | '0' :: 'x' :: cs => ofDigits? cs
  | ['I'] => some .index
  | ['[', 'I', ']'] => some .cells
  | ['D', 'T'] => some .delay
  | ['S', 'T'] => some .sound
  | ['K'] => some .key
  | ['F'] => some .glyph
  | ['B'] => some .digits
  | _ => none

theorem toList_register (x : Fin 16) : (register x).text.toList = 'V' :: Text.hexChars 1 x.val := by
  simp [text, Assembly.registerName, Text.hex]

theorem toList_address (nnn : Fin 4096) :
    (address nnn).text.toList = '0' :: 'x' :: Text.hexChars 3 nnn.val := by
  simp [text, Assembly.addressText, Text.hex]

theorem toList_byte (kk : UInt8) :
    (byte kk).text.toList = '0' :: 'x' :: Text.hexChars 2 kk.toNat := by
  simp [text, Assembly.byteText, Text.hex]

theorem toList_rows (n : Fin 16) : (rows n).text.toList = '0' :: 'x' :: Nat.toDigits 16 n.val := by
  simp [text, Text.hexLiteral]

/-- An operand is read back as it was written. For numbers this rests on the number of their places, which says
    of what kind they are. -/
theorem ofChars?_text (o : Operand) : ofChars? o.text.toList = some o := by
  cases o with
  | register x =>
    rw [toList_register, ofChars?, Text.hexNumber_hexChars, lastDigit_val]
  | address nnn =>
    -- the kinds of numbers are told apart by how many digits they have
    have hlength : (Text.hexChars 3 nnn.val).length = 3 := Text.length_hexChars (by decide) nnn.isLt
    rw [toList_address, ofChars?, ofDigits?, hlength]
    rw [Text.hexNumber_hexChars, Fin.ofNat_val_eq_self]
    rfl
  | byte kk =>
    have hlength : (Text.hexChars 2 kk.toNat).length = 2 := Text.length_hexChars (by decide) kk.toNat_lt
    rw [toList_byte, ofChars?, ofDigits?, hlength]
    rw [Text.hexNumber_hexChars, UInt8.ofNat_toNat]
    rfl
  | rows n =>
    have hlength : (Nat.toDigits 16 n.val).length = 1 := by
      rw [Nat.toDigits_of_lt_base n.isLt, List.length_singleton]
    rw [toList_rows, ofChars?, ofDigits?, hlength]
    rw [Text.hexNumber_toDigits, lastDigit_val]
    rfl
  | _ => rfl

/-- A hexadecimal digit is neither a blank nor a comma. -/
theorem ne_of_isDigit {c : Char} (h : (Text.hexValue? c).isSome) : c ≠ ' ' ∧ c ≠ ',' := by
  constructor
  · rintro rfl
    exact absurd h (by decide)
  · rintro rfl
    exact absurd h (by decide)

/-- Neither a blank nor a comma stands in a number. -/
theorem ne_of_mem_number {c : Char} {cs : List Char} (hcs : c ∈ cs → (Text.hexValue? c).isSome)
    (h : c ∈ '0' :: 'x' :: cs) : c ≠ ' ' ∧ c ≠ ',' := by
  rcases List.mem_cons.mp h with rfl | h
  · decide
  · rcases List.mem_cons.mp h with rfl | h
    · decide
    · exact ne_of_isDigit (hcs h)

/-- Neither a blank nor a comma stands in a text that was looked through. -/
theorem ne_of_all {c : Char} {cs : List Char} (hall : cs.all (fun c => c != ' ' && c != ',') = true)
    (h : c ∈ cs) : c ≠ ' ' ∧ c ≠ ',' := by
  have hc := List.all_eq_true.mp hall c h
  rw [Bool.and_eq_true, bne_iff_ne, bne_iff_ne] at hc
  exact hc

/-- Neither a blank nor a comma stands in any operand, so the text of an instruction can be split at them. -/
theorem ne_of_mem_text {o : Operand} {c : Char} (h : c ∈ o.text.toList) : c ≠ ' ' ∧ c ≠ ',' := by
  cases o with
  | register x =>
    rw [toList_register] at h
    rcases List.mem_cons.mp h with rfl | h
    · decide
    · exact ne_of_isDigit (Text.isSome_of_mem_hexChars h)
  | address nnn =>
    rw [toList_address] at h
    exact ne_of_mem_number Text.isSome_of_mem_hexChars h
  | byte kk =>
    rw [toList_byte] at h
    exact ne_of_mem_number Text.isSome_of_mem_hexChars h
  | rows n =>
    rw [toList_rows] at h
    -- the digit of a row count is written in lower case, so it is another table of digits
    refine ne_of_mem_number (fun hc => ?_) h
    obtain ⟨d, rfl⟩ := Text.exists_of_mem_toDigits hc
    rw [(Text.hexValue?_digitChar d).1]
    rfl
  | index | cells | delay | sound | key | glyph | digits => exact ne_of_all (by decide) h

end Operand

/-! ## Names and operands

An instruction is a name and a list of operands. To read its text back the text is cut at blanks and commas,
each piece is read as an operand, and the name and the operands are looked up among the instructions. -/

/-- A name with operands behind it, as they are written: a blank after the name, commas between. -/
def assemble (name : String) : List Operand → String
  | [] => name
  | o :: os => os.foldl (fun text o => text ++ ", " ++ o.text) (name ++ " " ++ o.text)

/-- The pieces of a text between blanks, without the commas. -/
def pieces (text : String) : List (List Char) := (text.toList.filter (· != ',')).splitOnP (· == ' ')

/-- If commas do not count, what stands in a text is the name and then, after a blank each, the operands. -/
theorem filter_assemble {name : String} (hname : ',' ∉ name.toList) (os : List Operand) :
    (assemble name os).toList.filter (· != ',') =
      name.toList ++ os.flatMap fun o => ' ' :: o.text.toList := by
  have hkeep {cs : List Char} (hcs : ',' ∉ cs) : cs.filter (· != ',') = cs := by
    rw [List.filter_eq_self]
    rintro c hc
    rw [bne_iff_ne]
    rintro rfl
    exact hcs hc
  have hkeepOperand (o : Operand) : o.text.toList.filter (· != ',') = o.text.toList :=
    hkeep fun hmem => (Operand.ne_of_mem_text hmem).2 rfl
  -- the commas are between the operands, so all but the first operand are one induction
  have hrest (os : List Operand) (text : String) :
      (os.foldl (fun text o => text ++ ", " ++ o.text) text).toList.filter (· != ',') =
        text.toList.filter (· != ',') ++ os.flatMap fun o => ' ' :: o.text.toList := by
    induction os generalizing text with
    | nil => simp
    | cons o os ih =>
      rw [List.foldl_cons, ih]
      simp [hkeepOperand]
  cases os with
  | nil => simpa [assemble] using hkeep hname
  | cons o os =>
    rw [assemble, hrest]
    simp [hkeepOperand, hkeep hname]

/-- A text begins with its name. -/
theorem exists_assemble_eq (name : String) (os : List Operand) :
    ∃ rest, (assemble name os).toList = name.toList ++ rest := by
  have hgrow (os : List Operand) (text : String) :
      ∃ rest, (os.foldl (fun text o => text ++ ", " ++ o.text) text).toList = text.toList ++ rest := by
    induction os generalizing text with
    | nil => exact ⟨[], (List.append_nil _).symm⟩
    | cons o os ih =>
      obtain ⟨rest, hrest⟩ := ih (text ++ ", " ++ o.text)
      exact ⟨", ".toList ++ o.text.toList ++ rest, by simp [hrest]⟩
  cases os with
  | nil => exact ⟨[], (List.append_nil _).symm⟩
  | cons o os =>
    obtain ⟨rest, hrest⟩ := hgrow os (name ++ " " ++ o.text)
    exact ⟨" ".toList ++ o.text.toList ++ rest, by simp [assemble, hrest]⟩

/-- The pieces of a text are its name and its operands. -/
theorem pieces_assemble {name : String} (hname : ∀ c ∈ name.toList, c ≠ ' ' ∧ c ≠ ',')
    (os : List Operand) :
    pieces (assemble name os) = name.toList :: os.map fun o => o.text.toList := by
  have hsplit (cs : List Char) (hcs : ∀ c ∈ cs, c ≠ ' ') :
      (cs ++ os.flatMap fun o => ' ' :: o.text.toList).splitOnP (· == ' ') =
        cs :: os.map fun o => o.text.toList := by
    induction os generalizing cs with
    | nil =>
      rw [List.flatMap_nil, List.append_nil, List.splitOnP_eq_singleton]
      · rfl
      · simpa using hcs
    | cons o os ih =>
      rw [List.flatMap_cons, List.cons_append, List.splitOnP_append_cons_of_forall_mem]
      · rw [ih _ fun c hc => (Operand.ne_of_mem_text hc).1]
        rfl
      · simpa using hcs
      · rfl
  -- without commas the text is made of pieces in which there are no blanks
  rw [pieces, filter_assemble fun hmem => (hname _ hmem).2 rfl]
  exact hsplit _ fun c hc => (hname c hc).1

namespace Instruction

open Operand

/-- The name of an instruction, and what stands behind it. -/
def parts : Instruction → String × List Operand
  | clear => ("CLS", [])
  | ret => ("RET", [])
  | sys nnn => ("SYS", [address nnn])
  | jump nnn => ("JMP", [address nnn])
  | call nnn => ("CALL", [address nnn])
  | skipEq x kk => ("SE", [register x, byte kk])
  | skipNe x kk => ("SNE", [register x, byte kk])
  | skipEqReg x y => ("SE", [register x, register y])
  | skipNeReg x y => ("SNE", [register x, register y])
  | load x kk => ("LD", [register x, byte kk])
  | add x kk => ("ADD", [register x, byte kk])
  | copy x y => ("LD", [register x, register y])
  | or x y => ("OR", [register x, register y])
  | and x y => ("AND", [register x, register y])
  | xor x y => ("XOR", [register x, register y])
  | addReg x y => ("ADD", [register x, register y])
  | sub x y => ("SUB", [register x, register y])
  | subFrom x y => ("SUBN", [register x, register y])
  | shiftRight x => ("SHR", [register x])
  | shiftLeft x => ("SHL", [register x])
  | setIndex nnn => ("LD", [index, address nnn])
  | jumpOffset nnn => ("JP", [register (lastDigit 0), address nnn])
  | random x kk => ("RND", [register x, byte kk])
  | draw x y n => ("DRW", [register x, register y, rows n])
  | skipDown x => ("SKP", [register x])
  | skipUp x => ("SKNP", [register x])
  | readDelay x => ("LD", [register x, delay])
  | awaitKey x => ("LD", [register x, key])
  | setDelay x => ("LD", [delay, register x])
  | setSound x => ("LD", [sound, register x])
  | addIndex x => ("ADD", [index, register x])
  | glyph x => ("LD", [.glyph, register x])
  | storeDigits x => ("LD", [digits, register x])
  | store x => ("LD", [cells, register x])
  | fill x => ("LD", [register x, cells])
  | unrecognized _ => (unknownText, [])

/-- The instruction with a name and operands. The kinds of the operands tell apart the instructions that share a
    name, of which there are eleven called `LD`. -/
def ofParts? : String → List (Option Operand) → Option Instruction
  | "CLS", [] => some clear
  | "RET", [] => some ret
  | "SYS", [some (.address nnn)] => some (sys nnn)
  | "JMP", [some (.address nnn)] => some (jump nnn)
  | "CALL", [some (.address nnn)] => some (call nnn)
  | "SE", [some (.register x), some (.byte kk)] => some (skipEq x kk)
  | "SE", [some (.register x), some (.register y)] => some (skipEqReg x y)
  | "SNE", [some (.register x), some (.byte kk)] => some (skipNe x kk)
  | "SNE", [some (.register x), some (.register y)] => some (skipNeReg x y)
  | "LD", [some (.register x), some (.byte kk)] => some (load x kk)
  | "LD", [some (.register x), some (.register y)] => some (copy x y)
  | "LD", [some .index, some (.address nnn)] => some (setIndex nnn)
  | "LD", [some (.register x), some .delay] => some (readDelay x)
  | "LD", [some (.register x), some .key] => some (awaitKey x)
  | "LD", [some .delay, some (.register x)] => some (setDelay x)
  | "LD", [some .sound, some (.register x)] => some (setSound x)
  | "LD", [some .glyph, some (.register x)] => some (glyph x)
  | "LD", [some .digits, some (.register x)] => some (storeDigits x)
  | "LD", [some .cells, some (.register x)] => some (store x)
  | "LD", [some (.register x), some .cells] => some (fill x)
  | "ADD", [some (.register x), some (.byte kk)] => some (add x kk)
  | "ADD", [some (.register x), some (.register y)] => some (addReg x y)
  | "ADD", [some .index, some (.register x)] => some (addIndex x)
  | "OR", [some (.register x), some (.register y)] => some (or x y)
  | "AND", [some (.register x), some (.register y)] => some (and x y)
  | "XOR", [some (.register x), some (.register y)] => some (xor x y)
  | "SUB", [some (.register x), some (.register y)] => some (sub x y)
  | "SUBN", [some (.register x), some (.register y)] => some (subFrom x y)
  | "SHR", [some (.register x)] => some (shiftRight x)
  | "SHL", [some (.register x)] => some (shiftLeft x)
  | "JP", [some (.register 0), some (.address nnn)] => some (jumpOffset nnn)
  | "RND", [some (.register x), some (.byte kk)] => some (random x kk)
  | "DRW", [some (.register x), some (.register y), some (.rows n)] => some (draw x y n)
  | "SKP", [some (.register x)] => some (skipDown x)
  | "SKNP", [some (.register x)] => some (skipUp x)
  | _, _ => none

/-- The texts are assembled from the parts. -/
theorem text_eq (ins : Instruction) : ins.text = assemble ins.parts.1 ins.parts.2 := by
  cases ins <;> rfl

/-- The names of instructions, and what stands for a word that is none. -/
def names : List String :=
  ["CLS", "RET", "SYS", "JMP", "CALL", "SE", "SNE", "LD", "ADD", "OR", "AND", "XOR", "SUB", "SUBN",
    "SHR", "SHL", "JP", "RND", "DRW", "SKP", "SKNP", unknownText]

theorem name_mem_names (ins : Instruction) : ins.parts.1 ∈ names := by
  cases ins <;> simp [parts, names]

theorem ne_of_mem_name {name : String} (h : name ∈ names) : ∀ c ∈ name.toList, c ≠ ' ' ∧ c ≠ ',' := by
  have hall : names.all (fun name => name.toList.all fun c => c != ' ' && c != ',') = true := by decide
  exact fun c hc => ne_of_all (List.all_eq_true.mp hall name h) hc

/-- The parts of an instruction say which one it is, so no two instructions have the same parts. -/
theorem ofParts?_parts {ins : Instruction} (h : ∀ w, ins ≠ unrecognized w) :
    ofParts? ins.parts.1 (ins.parts.2.map some) = some ins := by
  cases ins with
  | unrecognized w => exact absurd rfl (h w)
  | _ => rfl

/-- The instruction that a text is of. -/
def ofText? (text : String) : Option Instruction :=
  match pieces text with
  | [] => none
  | name :: operands => ofParts? (String.ofList name) (operands.map Operand.ofChars?)

/-- To read a text back is to read its parts back. -/
theorem ofText?_text (ins : Instruction) :
    ofText? ins.text = ofParts? ins.parts.1 (ins.parts.2.map some) := by
  have hread : (Operand.ofChars? ∘ fun o : Operand => o.text.toList) = some :=
    funext Operand.ofChars?_text
  rw [ofText?, text_eq, pieces_assemble (ne_of_mem_name ins.name_mem_names)]
  dsimp only
  rw [String.ofList_toList, List.map_map, hread]

/-- The text of an instruction says which one it is. -/
theorem ofText?_of_ne {ins : Instruction} (h : ∀ w, ins ≠ unrecognized w) :
    ofText? ins.text = some ins := by
  rw [ofText?_text, ofParts?_parts h]

/-- The text of a word that is no instruction is not the text of any instruction. -/
theorem ofText?_unknownText : ofText? unknownText = none := ofText?_text (unrecognized 0)

theorem text_eq_unknownText_iff (ins : Instruction) :
    ins.text = unknownText ↔ ∃ w, ins = unrecognized w := by
  constructor
  · intro htext
    refine Classical.byContradiction fun hnone => ?_
    have hread := ofText?_of_ne fun w hw => hnone ⟨w, hw⟩
    rw [htext, ofText?_unknownText] at hread
    cases hread
  · rintro ⟨w, rfl⟩
    rfl

/-- Instructions with the same text are the same, unless it is the text of words that are no instructions. -/
theorem eq_of_text_eq {a b : Instruction} (h : a.text = b.text) (hknown : a.text ≠ unknownText) :
    a = b := by
  have ha := ofText?_of_ne fun w hw => hknown ((text_eq_unknownText_iff a).mpr ⟨w, hw⟩)
  have hb := ofText?_of_ne fun w hw => hknown (h.trans ((text_eq_unknownText_iff b).mpr ⟨w, hw⟩))
  rw [h, hb] at ha
  exact (Option.some.inj ha).symm

end Instruction

/-! ## Words

From instructions to words: the text of a word is that of its instruction. -/

/-- A word has no text of its own exactly if it is no instruction. -/
theorem mnemonic_eq_unknownText_iff (w : Word) : mnemonic w = unknownText ↔ w.Unrecognized := by
  rw [mnemonic_eq_text, Instruction.text_eq_unknownText_iff]
  constructor
  · rintro ⟨w', hw'⟩
    exact ((Instruction.ofWord_eq_iff w _).mp hw').1
  · intro hw
    exact ⟨w, Instruction.ofWord_of_unrecognized hw⟩

end Chip8
