import Chip8.Text.Hex
import Mathlib.Algebra.Group.Int.Defs
import Mathlib.Algebra.Group.Nat.Defs
/-!
Hexadecimal text read back.

Traces, listings and dumps are made of numbers in hexadecimal, and that nothing is lost in them comes down to
two facts about such a number: it can be read back, and it can be found.

1. **Read back** — `Text.hexNumber` is the number that digits stand for. The digits that are written for a
   number stand for it again, in either case and with any zeros in front (`hexNumber_toDigits`,
   `hexNumber_hexChars`), so no two numbers look alike.

2. **Found** — a number that fits its width is written in exactly that many places (`length_hexChars`), and
   nothing but digits is written (`isSome_of_mem_hexChars`). So numbers that fit can be read off a longer text
   one after the other (`eq_of_hexChars_append`).
-/

namespace Chip8.Text

/-- The number that hexadecimal digits stand for, the most significant first. Nothing in a program reads its
    own text back; this is the specification of the text. -/
def hexNumber (cs : List Char) : Nat := cs.foldl (fun n c => 16 * n + (hexValue? c).getD 0) 0

theorem hexNumber_concat (cs : List Char) (c : Char) :
    hexNumber (cs ++ [c]) = 16 * hexNumber cs + (hexValue? c).getD 0 := by
  rw [hexNumber, List.foldl_append]
  rfl

/-- Zeros in front make no difference. -/
theorem hexNumber_leftpad (width : Nat) (cs : List Char) :
    hexNumber (cs.leftpad width '0') = hexNumber cs := by
  have hzero (cs : List Char) : hexNumber ('0' :: cs) = hexNumber cs := rfl
  rw [List.leftpad]
  induction width - cs.length with
  | zero => rfl
  | succ n ih => rw [List.replicate_succ, List.cons_append, hzero, ih]

/-! ## Digits

A digit is read back by its value; a row of digits is read back by a sum, most significant digit first. -/

/-- A digit has its value, in small letters and in capitals. -/
theorem hexValue?_digitChar (d : Fin 16) :
    hexValue? (Nat.digitChar d.val) = some d.val ∧
      hexValue? (Nat.digitChar d.val).toUpper = some d.val := by
  revert d
  decide

/-- The digits of a number are digits below the base. -/
theorem exists_of_mem_toDigits {n : Nat} {c : Char} (h : c ∈ Nat.toDigits 16 n) :
    ∃ d : Fin 16, c = Nat.digitChar d.val := by
  induction n using Nat.strongRecOn with
  | ind n ih =>
    rw [Nat.toDigits_eq_if (by decide)] at h
    split at h
    · next hn => exact ⟨⟨n, hn⟩, List.mem_singleton.mp h⟩
    · rcases List.mem_append.mp h with hfront | hlast
      · exact ih (n / 16) (by omega) hfront
      · exact ⟨⟨n % 16, by omega⟩, List.mem_singleton.mp hlast⟩

/-- Digits that keep their value when they are rewritten stand for the number, too. This serves small letters
    and capitals at once; the induction is on the number, which loses its last digit. -/
theorem hexNumber_map_toDigits {f : Char → Char}
    (hf : ∀ d : Fin 16, hexValue? (f (Nat.digitChar d.val)) = some d.val) (n : Nat) :
    hexNumber ((Nat.toDigits 16 n).map f) = n := by
  induction n using Nat.strongRecOn with
  | ind n ih =>
    rw [Nat.toDigits_eq_if (by decide)]
    split
    · next hn =>
      have hdigit : hexValue? (f (Nat.digitChar n)) = some n := hf ⟨n, hn⟩
      simp [hexNumber, hdigit]
    · have hlast : hexValue? (f (Nat.digitChar (n % 16))) = some (n % 16) := hf ⟨n % 16, by omega⟩
      rw [List.map_append, List.map_singleton, hexNumber_concat, ih (n / 16) (by omega), hlast,
        Option.getD_some]
      omega

/-- The digits of a number in small letters stand for it. -/
theorem hexNumber_toDigits (n : Nat) : hexNumber (Nat.toDigits 16 n) = n := by
  have h := hexNumber_map_toDigits (f := id) (fun d => (hexValue?_digitChar d).1) n
  rwa [List.map_id] at h

/-- The digits of a number in capitals stand for it, however many places are filled. -/
theorem hexNumber_hexChars (width n : Nat) : hexNumber (hexChars width n) = n := by
  rw [hexChars, if_pos (by omega), hexNumber_leftpad, hexDigits, Int.toNat_natCast]
  exact hexNumber_map_toDigits (fun d => (hexValue?_digitChar d).2) n

/-! ## The shape of the text

A number that fits has exactly as many digits as places, and nothing but digits. So texts that begin with
numbers of one width can be compared behind them. -/

/-- A number that fits takes as many places as there are. -/
theorem length_hexChars {width n : Nat} (hwidth : 0 < width) (h : n < 16 ^ width) :
    (hexChars width n).length = width := by
  -- it has no more digits than there are places, so padding makes up the difference
  have hdigits : (Nat.toDigits 16 n).length ≤ width :=
    (Nat.length_toDigits_le_iff (by decide) hwidth).mpr h
  rw [hexChars, if_pos (by omega), List.length_leftpad, hexDigits, List.length_map, Int.toNat_natCast]
  omega

/-- Whatever stands in hexadecimal text is a digit. -/
theorem isSome_of_mem_hexChars {width n : Nat} {c : Char} (h : c ∈ hexChars width n) :
    (hexValue? c).isSome := by
  rw [hexChars, if_pos (by omega), List.leftpad, Int.toNat_natCast] at h
  rcases List.mem_append.mp h with hzero | hdigit
  · rw [List.eq_of_mem_replicate hzero]
    rfl
  · obtain ⟨c', hc', rfl⟩ := List.mem_map.mp hdigit
    obtain ⟨d, rfl⟩ := exists_of_mem_toDigits hc'
    rw [(hexValue?_digitChar d).2]
    rfl

/-- Numbers that fit are told apart by their text, whatever comes after it. -/
theorem eq_of_hexChars_append {width : Nat} (hwidth : 0 < width) {a b : Int} (ha : 0 ≤ a ∧ a < 16 ^ width)
    (hb : 0 ≤ b ∧ b < 16 ^ width) {as bs : List Char}
    (h : hexChars width a ++ as = hexChars width b ++ bs) : a = b ∧ as = bs := by
  obtain ⟨n, rfl⟩ := Int.eq_ofNat_of_zero_le ha.1
  obtain ⟨k, rfl⟩ := Int.eq_ofNat_of_zero_le hb.1
  have hn : (hexChars width n).length = width := length_hexChars hwidth (by exact_mod_cast ha.2)
  have hk : (hexChars width k).length = width := length_hexChars hwidth (by exact_mod_cast hb.2)
  -- both texts end at the same place
  obtain ⟨hdigits, hrest⟩ := List.append_inj h (hn.trans hk.symm)
  have hnumber := congrArg hexNumber hdigits
  rw [hexNumber_hexChars, hexNumber_hexChars] at hnumber
  exact ⟨congrArg Nat.cast hnumber, hrest⟩

end Chip8.Text
