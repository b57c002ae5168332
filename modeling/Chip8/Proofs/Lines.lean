import Chip8.Event
import Chip8.Proofs.Hex
import Chip8.Proofs.Registers
import Mathlib.Algebra.Group.Int.Defs
import Mathlib.Algebra.Group.Nat.Defs
/-!
The lines of a trace.

A trace shows an entry as one line of text. Two properties make the line useful: it can be read back, and the
mnemonic is always in the same column.

1. **Pieces** — a line is put together from the numbers of an entry, each in as many places as it can need,
   and the mnemonic of its word (`toList_text`). The registers of a machine fit these places (`sound_of`).

2. **Columns** — since the pieces before it have fixed widths, the mnemonic stands at a fixed place
   (`Sound.mnemonic_after_word`).

3. **Reading** — the pieces are taken off two equal lines one after the other, from left to right, and are
   found equal; so whoever sees the line knows the entry (`eq_of_text_eq`). The mnemonic is a function of the
   word, so it need not be read.
-/

namespace Chip8

namespace TraceEntry

/-- The bounds of what a trace shows: each number fits its column. -/
structure Sound (e : TraceEntry) : Prop where
  pc : 0 ≤ e.pc ∧ e.pc < 16 ^ 4
  i : 0 ≤ e.i ∧ e.i < 16 ^ 4
  sp : 0 ≤ e.sp ∧ e.sp < 16 ^ 2
  delay : 0 ≤ e.delay ∧ e.delay < 16 ^ 2
  sound : 0 ≤ e.sound ∧ e.sound < 16 ^ 2

/-- The line of an entry, piece by piece. -/
theorem toList_text (e : TraceEntry) :
    e.text.toList = Text.hexChars 4 e.pc ++ (": ".toList ++ (Text.hexChars 4 e.word.toNat ++ ("  ".toList ++
      ((Text.padRight 16 (mnemonic e.word)).toList ++ (" | I: ".toList ++ (Text.hexChars 4 e.i ++
      (" | SP: ".toList ++ (Text.hexChars 2 e.sp ++ (" | DT: ".toList ++ (Text.hexChars 2 e.delay ++
      (" | ST: ".toList ++ (Text.hexChars 2 e.sound ++ (" | V: ".toList ++
      [' '].intercalate (e.v.toList.map fun b => Text.hexChars 2 b.toNat)))))))))))))) := by
  simp [text, Text.hex, String.toList_intercalate, Function.comp_def]

/-- The mnemonic stands in a column of its own, behind the place and the word, whatever these are. -/
theorem Sound.mnemonic_after_word {e : TraceEntry} (he : e.Sound) :
    (mnemonic e.word).toList <+: e.text.toList.drop 12 := by
  obtain ⟨n, hn⟩ := Int.eq_ofNat_of_zero_le he.pc.1
  have hplace : (Text.hexChars 4 e.pc).length = 4 := by
    rw [hn]
    exact Text.length_hexChars (by decide) (by have := he.pc.2; omega)
  have hword : (Text.hexChars 4 e.word.toNat).length = 4 :=
    Text.length_hexChars (by decide) e.word.toNat_lt
  have hpad : (Text.padRight 16 (mnemonic e.word)).toList =
      (mnemonic e.word).toList ++ List.replicate (16 - (mnemonic e.word).toList.length) ' ' := by
    rw [Text.padRight, String.toList_ofList]
    rfl
  -- the columns before it have widths of their own, and are skipped one after the other
  have hskip {as bs : List Char} {k : Nat} (h : as.length = k) (n : Nat) :
      (as ++ bs).drop (k + n) = bs.drop n := by
    rw [← h, List.drop_append, List.drop_eq_nil_of_le (by omega), List.nil_append, Nat.add_sub_cancel_left]
  have hcolon : ": ".toList.length = 2 := rfl
  have hblanks : "  ".toList.length = 2 := rfl
  rw [toList_text, hskip hplace 8, hskip hcolon 6, hskip hword 2, hskip hblanks 0, List.drop_zero, hpad,
    List.append_assoc]
  exact List.prefix_append _ _

/-- A row of bytes can be read back: two rows of the same length that look alike are the same. -/
theorem eq_of_intercalate_bytes {bs bs' : List UInt8} (hlength : bs.length = bs'.length)
    (h : [' '].intercalate (bs.map fun b => Text.hexChars 2 b.toNat) =
      [' '].intercalate (bs'.map fun b => Text.hexChars 2 b.toNat)) : bs = bs' := by
  have hbyte (b : UInt8) : 0 ≤ (b.toNat : Int) ∧ (b.toNat : Int) < 16 ^ 2 := by
    have := b.toNat_lt
    omega
  have hfirst {b b' : UInt8} {cs cs' : List Char}
      (h : Text.hexChars 2 b.toNat ++ cs = Text.hexChars 2 b'.toNat ++ cs') : b = b' ∧ cs = cs' := by
    obtain ⟨hnumber, hrest⟩ := Text.eq_of_hexChars_append (by decide) (hbyte b) (hbyte b') h
    exact ⟨UInt8.toNat_inj.mp (by omega), hrest⟩
  induction bs generalizing bs' with
  | nil => exact (List.eq_nil_of_length_eq_zero hlength.symm).symm
  | cons b rest ih =>
    -- the bytes are of the same number, so both rows go on or both end; a blank follows all but the last
    match bs', hlength with
    | b' :: rest', hlength =>
    have hrest : rest.length = rest'.length := Nat.succ.inj hlength
    cases rest with
    | nil =>
      obtain rfl : rest' = [] := List.eq_nil_of_length_eq_zero hrest.symm
      have hlast : Text.hexChars 2 b.toNat ++ [] = Text.hexChars 2 b'.toNat ++ [] := by simpa using h
      rw [(hfirst hlast).1]
    | cons c rest =>
      match rest', hrest with
      | c' :: rest', hrest =>
      rw [List.map_cons, List.map_cons, List.map_cons, List.map_cons, List.intercalate_cons_cons,
        List.intercalate_cons_cons, List.append_assoc, List.append_assoc] at h
      obtain ⟨rfl, hmore⟩ := hfirst h
      rw [ih hrest (List.append_cancel_left hmore)]

/-- A line shows all of its entry: no two entries within bounds look alike. -/
theorem eq_of_text_eq {e e' : TraceEntry} (he : e.Sound) (he' : e'.Sound) (h : e.text = e'.text) : e = e' := by
  have hword (w : Word) : 0 ≤ (w.toNat : Int) ∧ (w.toNat : Int) < 16 ^ 4 := by
    have := w.toNat_lt
    omega
  have hlines := congrArg String.toList h
  rw [toList_text, toList_text] at hlines
  -- every piece ends where the next begins, since numbers have as many places as there are
  obtain ⟨hpc, hlines⟩ := Text.eq_of_hexChars_append (by decide) he.pc he'.pc hlines
  obtain ⟨hw, hlines⟩ := Text.eq_of_hexChars_append (by decide) (hword _) (hword _)
    (List.append_cancel_left hlines)
  have hsame : e.word = e'.word := UInt16.toNat_inj.mp (by omega)
  rw [hsame] at hlines
  have hlines := List.append_cancel_left (List.append_cancel_left (List.append_cancel_left hlines))
  obtain ⟨hi, hlines⟩ := Text.eq_of_hexChars_append (by decide) he.i he'.i hlines
  obtain ⟨hsp, hlines⟩ := Text.eq_of_hexChars_append (by decide) he.sp he'.sp
    (List.append_cancel_left hlines)
  obtain ⟨hdelay, hlines⟩ := Text.eq_of_hexChars_append (by decide) he.delay he'.delay
    (List.append_cancel_left hlines)
  obtain ⟨hsound, hlines⟩ := Text.eq_of_hexChars_append (by decide) he.sound he'.sound
    (List.append_cancel_left hlines)
  have hv : e.v.toList = e'.v.toList :=
    eq_of_intercalate_bytes (by simp) (List.append_cancel_left hlines)
  obtain ⟨pc, word, i, sp, delay, sound, v⟩ := e
  obtain ⟨pc', word', i', sp', delay', sound', v'⟩ := e'
  obtain rfl : v = v' := Vector.toList_inj.mp hv
  subst hpc hsame hi hsp hdelay hsound
  rfl

/-- An entry for registers within their bounds is within its bounds. -/
theorem sound_of {pc : Int} (hpc : 0 ≤ pc ∧ pc < 16 ^ 4) {r : Registers} (hr : r.Sound) (w : Word) :
    (of pc w r).Sound := by
  have hi := hr.index
  have hsp := hr.pointer
  have hdelay := hr.delay
  have hsound := hr.sound
  refine ⟨hpc, ?_, ?_, ?_, ?_⟩ <;> dsimp only [of] <;> omega

end TraceEntry

end Chip8
