import Chip8.Proofs.Instruction
/-!
Which words stand for which instruction.

A word is decoded in two levels: by its first nibble, its family, and in some families by its last nibble or
its low byte. What is true of an instruction does not depend on how it was found, so proofs should not have to
follow the dispatch.

1. **Table** — `Instruction.Encodes` is the table of the instruction set, read from the instruction to its
   words: what a word must look like, and which operands it has. `Word.Unrecognized` lists the words that are
   no instruction; they have a row as well.

2. **Decoding follows it** — what a word is decoded to has a row that the word fits (`ofWord_encodes`, along
   the branches of the decoder), and a word that fits a row is decoded to that (`ofWord_eq_iff`, along the
   rows). The second part says that the rows do not overlap.

The row of an instruction is all that the rest of the theory knows of the word it came from.
-/

namespace Chip8

namespace Word

theorem toNat_kk (w : Word) : w.kk.toNat = w.toNat % 256 := by
  rw [kk, UInt8.toNat_ofNat']
  omega

/-- A word has a certain low byte if its number has that remainder. Decoding compares numbers, the table
    bytes. -/
theorem kk_eq_iff (w : Word) {c : Nat} (hc : c < 256) : w.kk = UInt8.ofNat c ↔ w.toNat % 256 = c := by
  rw [← UInt8.toNat_inj, toNat_kk, UInt8.toNat_ofNat', Nat.mod_eq_of_lt (by omega : c < 2 ^ 8)]

theorem family_lt (w : Word) : w.family < 16 := by
  have := w.toNat_lt
  unfold family
  omega

/-- The words `8xyn` of the arithmetic family with this last nibble. -/
def Alu (w : Word) (n : Nat) : Prop := w.family = 0x8 ∧ w.n.val = n

/-- The words `Exkk` with this low byte, which look at a key. -/
def Key (w : Word) (kk : UInt8) : Prop := w.family = 0xE ∧ w.kk = kk

/-- The words `Fxkk` with this low byte. -/
def Misc (w : Word) (kk : UInt8) : Prop := w.family = 0xF ∧ w.kk = kk

instance (w : Word) (n : Nat) : Decidable (w.Alu n) := inferInstanceAs (Decidable (_ ∧ _))

instance (w : Word) (kk : UInt8) : Decidable (w.Key kk) := inferInstanceAs (Decidable (_ ∧ _))

instance (w : Word) (kk : UInt8) : Decidable (w.Misc kk) := inferInstanceAs (Decidable (_ ∧ _))

/-- The low bytes of the instructions `Fxkk`. -/
def miscBytes : List UInt8 := [0x07, 0x0A, 0x15, 0x18, 0x1E, 0x29, 0x33, 0x55, 0x65]

/-- The words that are no instruction, by the family in which they are missing. -/
inductive Unrecognized (w : Word) : Prop
  /-- `5xyn` and `9xyn` with something behind the two registers. -/
  | skipReg (family : w.family = 0x5 ∨ w.family = 0x9) (n : w.n.val ≠ 0)
  /-- `8xyn` with `n` from 8 to D, or F. -/
  | alu (family : w.family = 0x8) (n : 0x8 ≤ w.n.val ∧ w.n.val ≤ 0xD ∨ w.n.val = 0xF)
  | key (family : w.family = 0xE) (kk : w.kk ≠ 0x9E ∧ w.kk ≠ 0xA1)
  | misc (family : w.family = 0xF) (kk : w.kk ∉ miscBytes)

end Word

namespace Instruction

/-- The row of an instruction: what a word must look like to stand for it. -/
def Encodes (w : Word) : Instruction → Prop
  | clear => w = 0x00E0
  | ret => w = 0x00EE
  | sys nnn => (w.family = 0x0 ∧ w ≠ 0x00E0 ∧ w ≠ 0x00EE) ∧ nnn = w.address
  | jump nnn => w.family = 0x1 ∧ nnn = w.address
  | call nnn => w.family = 0x2 ∧ nnn = w.address
  | skipEq x kk => w.family = 0x3 ∧ x = w.x ∧ kk = w.kk
  | skipNe x kk => w.family = 0x4 ∧ x = w.x ∧ kk = w.kk
  | skipEqReg x y => (w.family = 0x5 ∧ w.n.val = 0) ∧ x = w.x ∧ y = w.y
  | skipNeReg x y => (w.family = 0x9 ∧ w.n.val = 0) ∧ x = w.x ∧ y = w.y
  | load x kk => w.family = 0x6 ∧ x = w.x ∧ kk = w.kk
  | add x kk => w.family = 0x7 ∧ x = w.x ∧ kk = w.kk
  | copy x y => w.Alu 0x0 ∧ x = w.x ∧ y = w.y
  | or x y => w.Alu 0x1 ∧ x = w.x ∧ y = w.y
  | and x y => w.Alu 0x2 ∧ x = w.x ∧ y = w.y
  | xor x y => w.Alu 0x3 ∧ x = w.x ∧ y = w.y
  | addReg x y => w.Alu 0x4 ∧ x = w.x ∧ y = w.y
  | sub x y => w.Alu 0x5 ∧ x = w.x ∧ y = w.y
  | shiftRight x => w.Alu 0x6 ∧ x = w.x
  | subFrom x y => w.Alu 0x7 ∧ x = w.x ∧ y = w.y
  | shiftLeft x => w.Alu 0xE ∧ x = w.x
  | setIndex nnn => w.family = 0xA ∧ nnn = w.address
  | jumpOffset nnn => w.family = 0xB ∧ nnn = w.address
  | random x kk => w.family = 0xC ∧ x = w.x ∧ kk = w.kk
  | draw x y n => w.family = 0xD ∧ x = w.x ∧ y = w.y ∧ n = w.n
  | skipDown x => w.Key 0x9E ∧ x = w.x
  | skipUp x => w.Key 0xA1 ∧ x = w.x
  | readDelay x => w.Misc 0x07 ∧ x = w.x
  | awaitKey x => w.Misc 0x0A ∧ x = w.x
  | setDelay x => w.Misc 0x15 ∧ x = w.x
  | setSound x => w.Misc 0x18 ∧ x = w.x
  | addIndex x => w.Misc 0x1E ∧ x = w.x
  | glyph x => w.Misc 0x29 ∧ x = w.x
  | storeDigits x => w.Misc 0x33 ∧ x = w.x
  | store x => w.Misc 0x55 ∧ x = w.x
  | fill x => w.Misc 0x65 ∧ x = w.x
  | unrecognized w' => w.Unrecognized ∧ w' = w

/-- The arithmetic words are told apart by their last nibble, nine of sixteen. -/
theorem arithmetic_encodes {w : Word} (hf : w.family = 0x8) : (arithmetic w).Encodes w := by
  have hn := w.n.isLt
  unfold arithmetic
  split
  case h_10 =>
    -- none of the nine nibbles above
    refine ⟨.alu hf ?_, rfl⟩
    simp only [imp_false] at *
    omega
  all_goals next hnibble => exact ⟨⟨hf, hnibble⟩, by simp⟩

/-- The words of the last family are told apart by their low byte, nine of two hundred and fifty-six. -/
theorem peripheral_encodes {w : Word} (hf : w.family = 0xF) : (peripheral w).Encodes w := by
  unfold peripheral
  split
  case h_10 =>
    -- none of the nine bytes above
    refine ⟨.misc hf ?_, rfl⟩
    intro hmem
    have hnum := List.mem_map_of_mem (f := UInt8.toNat) hmem
    simp only [imp_false] at *
    simp [Word.miscBytes, Word.toNat_kk] at hnum
    omega
  all_goals next hbyte => exact ⟨⟨hf, (w.kk_eq_iff (by decide)).mpr hbyte⟩, rfl⟩

/-- What a word is decoded to has a row that the word fits. -/
theorem ofWord_encodes (w : Word) : (ofWord w).Encodes w := by
  have hlt := w.family_lt
  unfold ofWord
  split
  case h_1 hf =>
    -- `00E0`, `00EE` and the rest of `0nnn`
    split
    · assumption
    · split
      · assumption
      · exact ⟨⟨hf, by assumption, by assumption⟩, rfl⟩
  case h_6 hf =>
    -- `5xy0`
    split
    · exact ⟨⟨hf, by assumption⟩, rfl, rfl⟩
    · exact ⟨.skipReg (Or.inl hf) (by assumption), rfl⟩
  case h_9 hf => exact arithmetic_encodes hf
  case h_10 hf =>
    -- `9xy0`
    split
    · exact ⟨⟨hf, by assumption⟩, rfl, rfl⟩
    · exact ⟨.skipReg (Or.inr hf) (by assumption), rfl⟩
  case h_15 hf =>
    -- `Ex9E` and `ExA1`
    split
    · exact ⟨⟨hf, (w.kk_eq_iff (by decide)).mpr (by assumption)⟩, rfl⟩
    · split
      · exact ⟨⟨hf, (w.kk_eq_iff (by decide)).mpr (by assumption)⟩, rfl⟩
      · next h9E hA1 =>
        refine ⟨.key hf ⟨?_, ?_⟩, rfl⟩
        · exact fun h => h9E ((w.kk_eq_iff (by decide)).mp h)
        · exact fun h => hA1 ((w.kk_eq_iff (by decide)).mp h)
  case h_16 =>
    -- the only family that is left
    apply peripheral_encodes
    simp only [imp_false] at *
    omega
  -- the families without a second dispatch
  all_goals next hf => exact ⟨hf, by simp⟩

/-- Words without a row are decoded as such. -/
theorem ofWord_of_unrecognized {w : Word} (h : w.Unrecognized) : ofWord w = .unrecognized w := by
  cases h with
  | skipReg hf hn => rcases hf with hf | hf <;> simp only [ofWord, hf, hn, if_false]
  | alu hf hn =>
    -- the rows of the table are missing for seven of the sixteen nibbles
    have hcases : w.n.val = 0x8 ∨ w.n.val = 0x9 ∨ w.n.val = 0xA ∨ w.n.val = 0xB ∨ w.n.val = 0xC ∨
        w.n.val = 0xD ∨ w.n.val = 0xF := by omega
    rcases hcases with h | h | h | h | h | h | h <;> simp only [ofWord, hf, arithmetic, h]
  | key hf hkk =>
    simp only [ofWord, hf]
    rw [if_neg (fun h => hkk.1 ((w.kk_eq_iff (by decide)).mpr h)),
      if_neg (fun h => hkk.2 ((w.kk_eq_iff (by decide)).mpr h))]
  | misc hf hkk =>
    simp only [ofWord, hf, peripheral]
    split
    case h_10 => rfl
    all_goals
      next hbyte =>
        exfalso
        exact hkk (by rw [(w.kk_eq_iff (by decide)).mpr hbyte]; decide)

/-- Decoding follows the table: a word is decoded as an instruction exactly if it fits the row. So each word
    fits one row, and it need not be said which way through the dispatch leads there. -/
theorem ofWord_eq_iff (w : Word) (ins : Instruction) : ofWord w = ins ↔ ins.Encodes w := by
  constructor
  · rintro rfl
    exact ofWord_encodes w
  · intro h
    -- each instruction says of its words what the way through the dispatch asks for
    cases ins with
    | clear | ret =>
      obtain rfl := h
      rfl
    | sys nnn =>
      obtain ⟨⟨hf, h0, hE⟩, rfl⟩ := h
      simp only [ofWord, hf, h0, hE, if_false]
    | jump nnn | call nnn | setIndex nnn | jumpOffset nnn =>
      obtain ⟨hf, rfl⟩ := h
      simp only [ofWord, hf]
    | skipEq x kk | skipNe x kk | load x kk | add x kk | random x kk =>
      obtain ⟨hf, rfl, rfl⟩ := h
      simp only [ofWord, hf]
    | skipEqReg x y | skipNeReg x y =>
      obtain ⟨⟨hf, hn⟩, rfl, rfl⟩ := h
      simp only [ofWord, hf, hn, if_true]
    | copy x y | or x y | and x y | xor x y | addReg x y | sub x y | subFrom x y =>
      obtain ⟨⟨hf, hn⟩, rfl, rfl⟩ := h
      simp only [ofWord, hf, arithmetic, hn]
    | shiftRight x | shiftLeft x =>
      obtain ⟨⟨hf, hn⟩, rfl⟩ := h
      simp only [ofWord, hf, arithmetic, hn]
    | draw x y n =>
      obtain ⟨hf, rfl, rfl, rfl⟩ := h
      simp only [ofWord, hf]
    | skipDown x =>
      obtain ⟨⟨hf, hkk⟩, rfl⟩ := h
      simp only [ofWord, hf, (w.kk_eq_iff (by decide)).mp hkk, if_true]
    | skipUp x =>
      obtain ⟨⟨hf, hkk⟩, rfl⟩ := h
      have hnum : w.toNat % 256 = 0xA1 := (w.kk_eq_iff (by decide)).mp hkk
      simp only [ofWord, hf]
      rw [if_neg (by omega), if_pos hnum]
    | readDelay x | awaitKey x | setDelay x | setSound x | addIndex x | glyph x | storeDigits x
    | store x | fill x =>
      obtain ⟨⟨hf, hkk⟩, rfl⟩ := h
      simp only [ofWord, hf, peripheral, (w.kk_eq_iff (by decide)).mp hkk]
    | unrecognized w' =>
      obtain ⟨hw, rfl⟩ := h
      exact ofWord_of_unrecognized hw

end Instruction

end Chip8
