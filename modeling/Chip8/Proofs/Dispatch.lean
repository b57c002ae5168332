import Chip8.Proofs.Act
import Chip8.Proofs.Encoding
/-!
Two dispatches over the words, and the one instruction set behind them.

The program tells apart the words twice: where it writes a listing and where it executes. The two dispatches
were written independently, and nothing but care keeps them from disagreeing about a word.

1. **Programs** — `mnemonic` looks a word up in tables of texts, and `Board.dispatch` takes it through nested
   matches to an operation. Neither mentions the other, and they are cut differently: the tables have a text
   for what they do not list, the matches a last case.

2. **Specification** — what they have in common is the table of the instruction set, `Instruction.Encodes`
   (`Chip8.Proofs.Instruction`). Each word is in exactly one of its rows.

3. **Proof** — row by row, both do what the table says (`mnemonic_of_encodes`, `dispatch_of_encodes`), and
   since every word is in one row they agree on all words: the text of a word is the text of its instruction
   (`mnemonic_eq_text`), and its effect the effect of its instruction (`dispatch_eq_perform`).

The shifts `8xy6` and `8xyE` are where this could fail. Their row has no `y`, so both lemmas show at that row
that the third nibble is dropped: the text does not print it, and the operation does not read it.
-/

namespace Chip8

/-! ## The text of a word

A word with an encoding has the text of its instruction, and a word without one has the text of an unknown
word. The first is by cases on the encoding, so each branch of the text is met once. -/

namespace Assembly

variable (x y : Fin 16)

/-- The table of the arithmetic words has no text for the nibbles that are no operation. -/
theorem lookup_aluTexts {n : Nat} (h : 0x8 ≤ n ∧ n ≤ 0xD ∨ n = 0xF) :
    (aluTexts x y).lookup n = none := by
  rw [List.lookup_eq_none_iff]
  intro p hp
  simp only [aluTexts, List.mem_cons, List.not_mem_nil, or_false] at hp
  rw [bne_iff_ne]
  rcases hp with rfl | rfl | rfl | rfl | rfl | rfl | rfl | rfl | rfl <;> simp only <;> omega

/-- The table of the key words has two texts. -/
theorem lookup_keyTexts {kk : UInt8} (h : kk ≠ 0x9E ∧ kk ≠ 0xA1) : (keyTexts x).lookup kk = none := by
  rw [List.lookup_eq_none_iff]
  intro p hp
  simp only [keyTexts, List.mem_cons, List.not_mem_nil, or_false] at hp
  rw [bne_iff_ne]
  rcases hp with rfl | rfl
  · exact h.1
  · exact h.2

/-- The last table lists the bytes of the last family, and no other. -/
theorem lookup_miscTexts {kk : UInt8} (h : kk ∉ Word.miscBytes) : (miscTexts x).lookup kk = none := by
  rw [List.lookup_eq_none_iff]
  intro p hp
  rw [bne_iff_ne]
  rintro rfl
  exact h (List.mem_map_of_mem (f := Prod.fst) hp)

end Assembly

/-- A word that is no instruction has the text that says so. -/
theorem mnemonic_of_unrecognized {w : Word} (h : w.Unrecognized) : mnemonic w = unknownText := by
  cases h with
  | skipReg family n => rcases family with family | family <;> simp only [mnemonic, family, n, if_false]
  | alu family n => simp only [mnemonic, family, Assembly.lookup_aluTexts _ _ n, Option.getD_none]
  | key family kk => simp only [mnemonic, family, Assembly.lookup_keyTexts _ kk, Option.getD_none]
  | misc family kk => simp only [mnemonic, family, Assembly.lookup_miscTexts _ kk, Option.getD_none]

/-- A word has the text of the row that it is in. The cases are the rows of the instruction set; what a row says
    of the digits of the word decides each match and each table on the way to the text. -/
theorem mnemonic_of_encodes {w : Word} {ins : Instruction} (h : ins.Encodes w) :
    mnemonic w = ins.text := by
  cases ins with
  | clear | ret =>
    obtain rfl := h
    rfl
  | sys nnn =>
    obtain ⟨⟨family, clear, ret⟩, rfl⟩ := h
    simp only [mnemonic, family, clear, ret, if_false]
    rfl
  | jump nnn | call nnn | setIndex nnn | jumpOffset nnn =>
    obtain ⟨family, rfl⟩ := h
    simp only [mnemonic, family]
    rfl
  | skipEq x kk | skipNe x kk | load x kk | add x kk | random x kk =>
    obtain ⟨family, rfl, rfl⟩ := h
    simp only [mnemonic, family]
    rfl
  | skipEqReg x y | skipNeReg x y =>
    obtain ⟨⟨family, n⟩, rfl, rfl⟩ := h
    simp only [mnemonic, family, n, if_true]
    rfl
  | copy x y | or x y | and x y | xor x y | addReg x y | sub x y | subFrom x y =>
    obtain ⟨⟨family, n⟩, rfl, rfl⟩ := h
    simp only [mnemonic, family, n]
    rfl
  | shiftRight x | shiftLeft x =>
    -- the text does not name `w.y`
    obtain ⟨⟨family, n⟩, rfl⟩ := h
    simp only [mnemonic, family, n]
    rfl
  | draw x y n =>
    obtain ⟨family, rfl, rfl, rfl⟩ := h
    simp only [mnemonic, family]
    rfl
  | skipDown x | skipUp x =>
    obtain ⟨⟨family, kk⟩, rfl⟩ := h
    simp only [mnemonic, family, kk]
    rfl
  | readDelay x | awaitKey x | setDelay x | setSound x | addIndex x | glyph x | storeDigits x
  | store x | fill x =>
    obtain ⟨⟨family, kk⟩, rfl⟩ := h
    simp only [mnemonic, family, kk]
    rfl
  | unrecognized w' =>
    obtain ⟨hw, rfl⟩ := h
    exact mnemonic_of_unrecognized hw

/-- The text of a word is the text of its instruction, for every word: each is in one row. -/
theorem mnemonic_eq_text (w : Word) : mnemonic w = (Instruction.ofWord w).text :=
  mnemonic_of_encodes (Instruction.ofWord_encodes w)

/-! ## The effect of a word

The same two cases for what a board does with a word. -/

namespace Board

variable {s : Size} (strict : Bool) (noise : Nat → UInt8)

/-- A word that is no instruction is refused, whichever family it is of. -/
theorem dispatch_of_unrecognized {w : Word} (h : w.Unrecognized) :
    (dispatch strict noise w : Act (Board s) Effect) = refuse strict w := by
  cases h with
  | skipReg family n =>
    rcases family with family | family
    · simp only [dispatch, family, skipSame, if_pos n]
    · simp only [dispatch, family, skipOther, if_pos n]
  | alu family n =>
    simp only [dispatch, family, alu]
    split
    case h_10 => rfl
    -- none of the nine nibbles of the cases
    all_goals
      exfalso
      omega
  | key family kk =>
    simp only [dispatch, family, keys]
    split
    case h_3 => rfl
    · next hkk => exact absurd (UInt8.toNat.inj hkk) kk.1
    · next hkk => exact absurd (UInt8.toNat.inj hkk) kk.2
  | misc family kk =>
    simp only [dispatch, family, misc]
    split
    case h_10 => rfl
    -- none of the nine bytes of the cases
    all_goals
      next hkk =>
        exfalso
        have hmem : w.kk.toNat ∈ Word.miscBytes.map UInt8.toNat := by
          rw [hkk]
          decide
        obtain ⟨byte, hbyte, hsame⟩ := List.mem_map.mp hmem
        exact kk (UInt8.toNat.inj hsame ▸ hbyte)

/-- A word does what the row says that it is in. The cases are again the rows, and the matches are those of the
    other dispatch. -/
theorem dispatch_of_encodes {w : Word} {ins : Instruction} (h : ins.Encodes w) :
    (dispatch strict noise w : Act (Board s) Effect) = perform strict noise ins := by
  cases ins with
  | clear | ret =>
    obtain rfl := h
    rfl
  | sys nnn =>
    obtain ⟨⟨family, clear, ret⟩, rfl⟩ := h
    simp only [dispatch, family, system, if_neg clear, if_neg ret]
    rfl
  | jump nnn | call nnn | setIndex nnn | jumpOffset nnn =>
    obtain ⟨family, rfl⟩ := h
    simp only [dispatch, family]
    rfl
  | skipEq x kk | skipNe x kk | load x kk | add x kk | random x kk =>
    obtain ⟨family, rfl, rfl⟩ := h
    simp only [dispatch, family]
    rfl
  | skipEqReg x y =>
    obtain ⟨⟨family, n⟩, rfl, rfl⟩ := h
    simp only [dispatch, family, skipSame, if_neg (not_not_intro n)]
    rfl
  | skipNeReg x y =>
    obtain ⟨⟨family, n⟩, rfl, rfl⟩ := h
    simp only [dispatch, family, skipOther, if_neg (not_not_intro n)]
    rfl
  | copy x y | or x y | and x y | xor x y | addReg x y | sub x y | subFrom x y =>
    obtain ⟨⟨family, n⟩, rfl, rfl⟩ := h
    simp only [dispatch, family, alu, n]
    rfl
  | shiftRight x | shiftLeft x =>
    -- the operation does not read `w.y`
    obtain ⟨⟨family, n⟩, rfl⟩ := h
    simp only [dispatch, family, alu, n]
    rfl
  | draw x y n =>
    obtain ⟨family, rfl, rfl, rfl⟩ := h
    simp only [dispatch, family]
    rfl
  | skipDown x | skipUp x =>
    obtain ⟨⟨family, kk⟩, rfl⟩ := h
    simp only [dispatch, family, keys, kk]
    rfl
  | readDelay x | awaitKey x | setDelay x | setSound x | addIndex x | glyph x | storeDigits x
  | store x | fill x =>
    obtain ⟨⟨family, kk⟩, rfl⟩ := h
    simp only [dispatch, family, misc, kk]
    rfl
  | unrecognized w' =>
    obtain ⟨hw, rfl⟩ := h
    exact dispatch_of_unrecognized strict noise hw

/-- The effect of a word is the effect of its instruction, for every word: each is in one row. -/
theorem dispatch_eq_perform (w : Word) :
    (dispatch strict noise w : Act (Board s) Effect) = perform strict noise (Instruction.ofWord w) :=
  dispatch_of_encodes strict noise (Instruction.ofWord_encodes w)

/-- Executing a word: it is noted, and then its instruction is performed. -/
theorem exec_execute (w : Word) (b : Board s) :
    (execute strict noise w).exec b =
      (perform strict noise (Instruction.ofWord w)).exec
        (b.mapRegs fun r => { r with lastWord := w }) := by
  rw [execute, dispatch_eq_perform, Act.exec_modify_bind]

end Board

end Chip8
