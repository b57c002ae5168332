import Chip8.Inspect.MemoryDump
import Chip8.Proofs.Hex
import Mathlib.Data.Rat.Floor
/-!
Memory dumps, read back.

A dump is made for people, so it is not clear that it says everything: it is cut at the ends of memory, its
last row may be short, and beside the bytes it shows characters that do not tell all bytes apart. The
statement is that of a reader who knows the layout only: from the lines one gets back every byte and where it
lies.

1. **Reader** — `MemoryDump.read?` takes a line apart: the digits of its label, the bytes in the columns, and
   the characters, which begin 54 places behind the label. It is written without a look at the program that
   writes the lines.

2. **Columns** — they are read from the front. `Reads` says that a piece of text stands for some bytes
   whatever comes after it. Pieces in a row then stand for their bytes in a row (`Reads.append`), and by
   induction the columns of a row for the bytes of the row (`reads_columns`, `read?_render`).

3. **Rows** — they cover their bytes without a gap (`getElem?_rowsFrom`, `flatMap_zipIdx_rowsFrom`): sixteen
   each, and the rest in the last one. Both are inductions along the recursion that cuts the rows off.

4. **Dumps** — the start and the end are clamped first, whatever whole numbers were asked for. What is left is
   arithmetic on the clamped ones (`dump_lossless`).
-/

namespace Chip8.MemoryDump

/-! ## Reading

The specification: how a reader takes a line of a dump apart. The label ends at the first blank, and from
there on the places are counted. Nothing here knows how lines are made. -/

/-- The bytes that columns stand for: two digits each, with blanks anywhere before them. -/
def readBytes : List Char → Option (List UInt8)
  | [] => some []
  | ' ' :: rest => readBytes rest
  | [_] => none
  | a :: b :: rest => do
    let high ← Text.hexValue? a
    let low ← Text.hexValue? b
    return UInt8.ofNat (16 * high + low) :: (← readBytes rest)

/-- What is read off a line. -/
structure Reading where
  label : List Char
  bytes : List UInt8
  shown : List Char
  deriving DecidableEq

/-- The bytes with the addresses at which they lie: the first at the address on the label, and each other behind
    the one before. -/
def Reading.placed (r : Reading) : List (UInt8 × Nat) := r.bytes.zipIdx (Text.hexNumber r.label)

/-- Read a line. The label ends at the first blank; the columns take 48 places from the third behind it on, and
    the characters begin three places further on. -/
def read? (line : String) : Option Reading :=
  let label := (line.toList.drop 1).takeWhile (· != ' ')
  let behind := (line.toList.drop 1).dropWhile (· != ' ')
  (readBytes ((behind.drop 3).take 48)).map fun bytes => ⟨label, bytes, behind.drop 54⟩

/-! ## Columns

`Reads` says of a piece of text that the reader takes these bytes from it and goes on behind it. Pieces in a
row read as their bytes in a row, so a line is put together from its columns. -/

/-- The text stands for the bytes, whatever comes after it. What comes after is read on its own, so a piece of
    text can be dealt with before the line that it stands in is known. -/
def Reads (cs : List Char) (bytes : List UInt8) : Prop :=
  ∀ rest, readBytes (cs ++ rest) = (readBytes rest).map (bytes ++ ·)

/-- Where nothing stands, nothing is read. -/
theorem reads_nil : Reads [] [] := by
  intro rest
  exact Option.map_id'.symm

/-- Pieces in a row stand for their bytes in a row. -/
theorem Reads.append {cs ds : List Char} {xs ys : List UInt8} (hcs : Reads cs xs) (hds : Reads ds ys) :
    Reads (cs ++ ds) (xs ++ ys) := by
  intro rest
  rw [List.append_assoc, hcs, hds, Option.map_map]
  refine congrArg (Option.map · (readBytes rest)) (funext fun zs => ?_)
  exact (List.append_assoc xs ys zs).symm

/-- A blank between two columns, or in the place of a byte, stands for nothing. -/
theorem reads_blank : Reads [' '] [] := by
  intro rest
  rw [List.singleton_append, readBytes]
  exact Option.map_id'.symm

/-- All that was read stood there. -/
theorem Reads.readBytes_eq {cs : List Char} {bytes : List UInt8} (h : Reads cs bytes) :
    readBytes cs = some bytes := by
  have hcs := h []
  rw [List.append_nil] at hcs
  rw [hcs, readBytes, Option.map_some, List.append_nil]

/-- A byte is written in two digits, and their values make up the byte. -/
theorem exists_digits (b : UInt8) : ∃ c d high low, Text.hexChars 2 b.toNat = [c, d] ∧
    Text.hexValue? c = some high ∧ Text.hexValue? d = some low ∧ 16 * high + low = b.toNat := by
  have hlength : (Text.hexChars 2 b.toNat).length = 2 :=
    Text.length_hexChars (by decide) (UInt8.toNat_lt b)
  obtain ⟨c, d, hchars⟩ := List.length_eq_two.mp hlength
  have hdigit (x : Char) (hx : x ∈ [c, d]) : ∃ n, Text.hexValue? x = some n := by
    rw [← hchars] at hx
    exact Option.isSome_iff_exists.mp (Text.isSome_of_mem_hexChars hx)
  obtain ⟨high, hc⟩ := hdigit c (by simp)
  obtain ⟨low, hd⟩ := hdigit d (by simp)
  refine ⟨c, d, high, low, hchars, hc, hd, ?_⟩
  have hnumber := Text.hexNumber_hexChars 2 b.toNat
  rw [hchars, Text.hexNumber, List.foldl_cons, List.foldl_cons, List.foldl_nil, hc, hd] at hnumber
  simpa using hnumber

theorem ne_blank_of_hexValue? {c : Char} {n : Nat} (h : Text.hexValue? c = some n) : c ≠ ' ' := by
  rintro rfl
  cases h

/-- A column stands for its byte, and an empty one for none. -/
theorem reads_column (b : Option UInt8) : Reads (column b) b.toList := by
  cases b with
  | none => exact reads_blank.append reads_blank
  | some b =>
    obtain ⟨c, d, high, low, hchars, hc, hd, hvalue⟩ := exists_digits b
    intro rest
    rw [column, hchars]
    show readBytes (c :: d :: rest) = _
    rw [readBytes.eq_4 _ _ _ (ne_blank_of_hexValue? hc), hc, hd]
    simp only [Option.bind_eq_bind, Option.bind_some, hvalue, UInt8.ofNat_toNat]
    cases readBytes rest <;> rfl

theorem length_column (b : Option UInt8) : (column b).length = 2 := by
  cases b with
  | none => rfl
  | some b => exact Text.length_hexChars (by decide) (UInt8.toNat_lt b)

/-- Columns with a blank between any two stand for their bytes, as far as there are any: a row may be short, and
    the columns behind its end are blank. -/
theorem reads_columns (bytes : List UInt8) (ks : List Nat) :
    Reads ([' '].intercalate (ks.map fun k => column bytes[k]?)) (ks.filterMap (bytes[·]?)) := by
  have hcolumn (k : Nat) (ks : List Nat) :
      (k :: ks).filterMap (bytes[·]?) = bytes[k]?.toList ++ ks.filterMap (bytes[·]?) := by
    rw [List.filterMap_cons]
    cases bytes[k]? <;> rfl
  induction ks with
  | nil => exact reads_nil
  | cons k ks ih =>
    rw [hcolumn, List.map_cons]
    -- there is no blank behind the last column
    cases ks with
    | nil =>
      rw [List.map_nil, List.intercalate_singleton, List.filterMap_nil, List.append_nil]
      exact reads_column bytes[k]?
    | cons j js =>
      have hrest := ((reads_column bytes[k]?).append reads_blank).append ih
      rw [List.append_nil] at hrest
      rw [List.map_cons, List.intercalate_cons_cons]
      exact hrest

/-- The bytes of a list, looked up one by one. -/
theorem filterMap_getElem?_range (bytes : List UInt8) (n : Nat) :
    (List.range n).filterMap (bytes[·]?) = bytes.take n := by
  induction n with
  | zero => rfl
  | succ n ih =>
    rw [List.range_succ, List.filterMap_append, ih, List.take_add_one, List.filterMap_cons, List.filterMap_nil]
    cases bytes[n]? <;> rfl

/-! ## Lines

One row, from its bytes to its text and back. -/

/-- The columns of a row. -/
def Row.columns (r : Row) : List Char :=
  [' '].intercalate ((List.range' 0 8).map fun k => column r.bytes[k]?) ++ [' ', ' '] ++
    [' '].intercalate ((List.range' 8 8).map fun k => column r.bytes[k]?)

theorem Row.chars_eq (r : Row) : r.chars = '$' :: (Text.hexChars 4 r.address ++
    ([' ', '|', ' '] ++ (r.columns ++ ([' ', '|', ' '] ++ r.bytes.map asciiChar)))) := by
  simp only [Row.chars, Row.columns, List.cons_append, List.append_assoc]

/-- The columns take up as much room in a short row as in a full one. So the characters begin at the same place
    in every line. -/
theorem Row.length_columns (r : Row) : r.columns.length = 48 := by
  have hgroup (start : Nat) :
      ([' '].intercalate ((List.range' start 8).map fun k => column r.bytes[k]?)).length = 23 := by
    simp [List.range', List.intercalate_cons_cons, length_column]
  rw [Row.columns, List.length_append, List.length_append, hgroup, hgroup]
  rfl

/-- The columns of a row stand for its bytes. The eight in front and the eight behind are read as one. -/
theorem Row.reads_columns (r : Row) (h : r.bytes.length ≤ 16) : Reads r.columns r.bytes := by
  have hbytes : (List.range' 0 8).filterMap (r.bytes[·]?) ++ [] ++ (List.range' 8 8).filterMap (r.bytes[·]?) =
      r.bytes := by
    rw [List.append_nil, ← List.filterMap_append]
    exact (filterMap_getElem?_range r.bytes 16).trans (List.take_of_length_le h)
  have hcolumns := ((MemoryDump.reads_columns r.bytes (List.range' 0 8)).append
    (reads_blank.append reads_blank)).append (MemoryDump.reads_columns r.bytes (List.range' 8 8))
  rw [← hbytes]
  exact hcolumns

/-- What the line of a row ought to read as. -/
def Row.reading (r : Row) : Reading := ⟨Text.hexChars 4 r.address, r.bytes, r.bytes.map asciiChar⟩

theorem Row.placed_reading (r : Row) : r.reading.placed = r.bytes.zipIdx r.address := by
  rw [Row.reading, Reading.placed, Text.hexNumber_hexChars]

/-- The line of a row that is not too long reads as it ought to. Its parts are found by their lengths: the label
    ends at the first blank, and the columns are 48 characters. -/
theorem read?_render {r : Row} (h : r.bytes.length ≤ 16) : read? r.render = some r.reading := by
  have hlabel : ∀ c ∈ Text.hexChars 4 r.address, (c != ' ') = true := by
    intro c hc
    obtain ⟨n, hn⟩ := Option.isSome_iff_exists.mp (Text.isSome_of_mem_hexChars hc)
    exact bne_iff_ne.mpr (ne_blank_of_hexValue? hn)
  -- the parts of a row in order: label, separator, columns, separator, characters
  have hchars : r.render.toList.drop 1 = Text.hexChars 4 r.address ++
      ([' ', '|', ' '] ++ (r.columns ++ ([' ', '|', ' '] ++ r.bytes.map asciiChar))) := by
    rw [Row.render, String.toList_ofList, Row.chars_eq, List.drop_one, List.tail_cons]
  have hshown : (r.columns ++ ([' ', '|', ' '] ++ r.bytes.map asciiChar)).drop 51 = r.bytes.map asciiChar := by
    rw [← List.append_assoc]
    refine List.drop_left' ?_
    rw [List.length_append, r.length_columns]
    rfl
  unfold read?
  rw [hchars, List.takeWhile_append_of_pos hlabel, List.dropWhile_append_of_pos hlabel]
  show (readBytes ((r.columns ++ _).take 48)).map (fun bytes => (⟨_ ++ [], bytes, (r.columns ++ _).drop 51⟩ :
    Reading)) = _
  rw [List.take_left' r.length_columns, (r.reads_columns h).readBytes_eq, hshown, List.append_nil]
  rfl

/-! ## Rows

The rows of an area: how many there are, how long each is, and which bytes they hold together. -/

/-- The rows take sixteen bytes each, one row after the other. -/
theorem getElem?_rowsFrom (address : Nat) (bytes : List UInt8) (k : Nat) :
    (rowsFrom address bytes)[k]? =
      if 16 * k < bytes.length then some ⟨address + 16 * k, (bytes.drop (16 * k)).take 16⟩ else none := by
  fun_induction rowsFrom address bytes generalizing k with
  | case1 address => rw [List.getElem?_nil, List.length_nil, if_neg (by omega)]
  | case2 address b rest ih =>
    cases k with
    | zero => rw [List.length_cons, if_pos (by omega)]; rfl
    | succ k =>
      have hbehind : (b :: rest).drop (16 * (k + 1)) = (rest.drop 15).drop (16 * k) := by
        rw [List.drop_drop, show 16 * (k + 1) = 15 + 16 * k + 1 by omega, List.drop_succ_cons]
      rw [List.getElem?_cons_succ, ih, hbehind, List.length_drop, List.length_cons]
      by_cases h : 16 * k < rest.length - 15
      · rw [if_pos h, if_pos (by omega), Nat.mul_succ, Nat.add_assoc, Nat.add_comm 16]
      · rw [if_neg h, if_neg (by omega)]

/-- There are as many rows as it takes for all bytes. -/
theorem length_rowsFrom (address : Nat) (bytes : List UInt8) :
    (rowsFrom address bytes).length = (bytes.length + 15) / 16 := by
  fun_induction rowsFrom address bytes with
  | case1 address => rfl
  | case2 address b rest ih =>
    rw [List.length_cons, ih, List.length_drop, List.length_cons]
    omega

/-- No row has more than sixteen bytes. -/
theorem length_of_mem_rowsFrom {address : Nat} {bytes : List UInt8} {r : Row}
    (h : r ∈ rowsFrom address bytes) : r.bytes.length ≤ 16 := by
  obtain ⟨k, hk⟩ := List.mem_iff_getElem?.mp h
  rw [getElem?_rowsFrom] at hk
  split at hk
  · obtain rfl := Option.some.inj hk
    exact List.length_take_le 16 _
  · cases hk

/-- Together the rows have every byte once and at its address. -/
theorem flatMap_zipIdx_rowsFrom (address : Nat) (bytes : List UInt8) :
    (rowsFrom address bytes).flatMap (fun r => r.bytes.zipIdx r.address) = bytes.zipIdx address := by
  fun_induction rowsFrom address bytes with
  | case1 address => rfl
  | case2 address b rest ih =>
    rw [List.flatMap_cons, ih]
    show ((b :: rest).take 16).zipIdx address ++ ((b :: rest).drop 16).zipIdx (address + 16) = _
    conv_rhs => rw [← List.take_append_drop 16 (b :: rest)]
    rw [List.zipIdx_append]
    by_cases hfull : 16 ≤ (b :: rest).length
    · rw [List.length_take_of_le hfull]
    · -- a short row is the last one, so nothing is behind it
      rw [List.drop_of_length_le (by omega)]
      rfl

/-! ## Dumps

The area after its ends are put in order and cut to the memory, and the theorem. -/

section

variable (data : List UInt8) (start size : Int)

theorem first_eq : (first start : Int) = max 0 (min start 4095) := by
  unfold first
  omega

theorem last_le : last start size data.length ≤ data.length := by
  unfold last
  omega

theorem length_rows :
    (rows data start size).length = (last start size data.length - first start + 15) / 16 := by
  rw [rows, length_rowsFrom, List.length_drop, List.length_take_of_le (last_le data start size)]

/-- Row `k` has the bytes from sixteen times `k` behind the first one on, as far as the dump goes. -/
theorem getElem?_rows (k : Nat) : (rows data start size)[k]? =
    if first start + 16 * k < last start size data.length then
      some ⟨first start + 16 * k,
        (data.take (min (first start + 16 * k + 16) (last start size data.length))).drop
          (first start + 16 * k)⟩
    else none := by
  rw [rows, getElem?_rowsFrom, List.length_drop, List.length_take_of_le (last_le data start size),
    List.drop_drop, List.take_drop, List.take_take]
  by_cases h : first start + 16 * k < last start size data.length
  · rw [if_pos (by omega), if_pos h]
  · rw [if_neg (by omega), if_neg h]

/-- Every line of a dump can be read. -/
theorem mapM_read?_lines :
    (lines data start size).mapM read? = some ((rows data start size).map Row.reading) := by
  have hread : ∀ r ∈ rows data start size, read? r.render = some r.reading :=
    fun r hr => read?_render (length_of_mem_rowsFrom hr)
  unfold lines
  generalize rows data start size = shown at hread
  induction shown with
  | nil => rfl
  | cons r rest ih =>
    obtain ⟨hr, hrest⟩ := List.forall_mem_cons.mp hread
    rw [List.map_cons, List.mapM_cons, hr, ih hrest]
    rfl

/-- A line of a dump reads as the bytes at its place. -/
theorem read?_lines {k : Nat} {line : String} (h : (lines data start size)[k]? = some line) :
    let address := first start + 16 * k
    let bytes := (data.take (min (address + 16) (last start size data.length))).drop address
    read? line = some ⟨Text.hexChars 4 address, bytes, bytes.map asciiChar⟩ ∧
      bytes.length = min 16 (last start size data.length - address) := by
  intro address bytes
  have hcount : bytes.length = min 16 (last start size data.length - address) := by
    have hend := last_le data start size
    rw [List.length_drop, List.length_take]
    omega
  rw [lines, List.getElem?_map, getElem?_rows] at h
  split at h
  · obtain rfl := Option.some.inj h
    exact ⟨read?_render (show bytes.length ≤ 16 by omega), hcount⟩
  · cases h

/-- What is read off all lines is the data from the first address to the last one, each byte with its
    address. -/
theorem flatMap_placed_rows : ((rows data start size).map Row.reading).flatMap Reading.placed =
    (data.zipIdx.take (last start size data.length)).drop (first start) := by
  rw [List.flatMap_map]
  simp only [Row.placed_reading]
  rw [rows, flatMap_zipIdx_rowsFrom]
  refine List.ext_getElem? fun i => ?_
  rw [List.getElem?_zipIdx, List.getElem?_drop, List.getElem?_drop, List.getElem?_take, List.getElem?_take,
    List.getElem?_zipIdx]
  split
  · rw [Nat.zero_add]
  · rfl

end

/-- Whatever the data, the start and the size, a dump shows the bytes from the start to the end, sixteen to a
    line, and it can be read back. -/
theorem dump_lossless (data : List UInt8) (start size : Int) :
    let s : Int := max 0 (min start 4095)
    let e : Int := min (s + size) data.length
    ((lines data start size).length : Int) = ⌈((max 0 (e - s) : Int) : Rat) / 16⌉ ∧
    (∀ (k : Nat) line, (lines data start size)[k]? = some line →
      let bytes := (data.take (min (s + 16 * k + 16) e).toNat).drop (s + 16 * k).toNat
      read? line = some ⟨Text.hexChars 4 (s + 16 * k), bytes, bytes.map asciiChar⟩ ∧
        (k + 1 < (lines data start size).length → bytes.length = 16)) ∧
    ((lines data start size).mapM read?).map (List.flatMap Reading.placed) =
      some ((data.zipIdx.take e.toNat).drop s.toNat) := by
  intro s e
  have hs : (first start : Int) = s := first_eq start
  have he : last start size data.length = e.toNat := by rw [last, hs]
  -- the arithmetic below needs no more of the start and the end
  clear_value s e
  have hs' : s.toNat = first start := by omega
  have hlength : (lines data start size).length = (e.toNat - s.toNat + 15) / 16 := by
    rw [lines, List.length_map, length_rows, he, hs']
  refine ⟨?_, ?_, ?_⟩
  · have hceil : ⌈((max 0 (e - s) : Int) : Rat) / 16⌉ = -(-max 0 (e - s) / 16) := by
      exact_mod_cast Rat.ceil_intCast_div_natCast (max 0 (e - s)) 16
    rw [hceil, hlength]
    omega
  · intro k line hline bytes
    obtain ⟨hread, hcount⟩ := read?_lines data start size hline
    have hfull (hmore : k + 1 < (lines data start size).length) :
        16 ≤ last start size data.length - (first start + 16 * k) := by
      rw [hlength, hs', ← he] at hmore
      omega
    have hfrom : (s + 16 * k).toNat = first start + 16 * k := by omega
    have hto : (min (s + 16 * k + 16) e).toNat =
        min (first start + 16 * k + 16) (last start size data.length) := by omega
    have haddress : s + 16 * k = (first start + 16 * k : Nat) := by omega
    have hbytes : bytes = (data.take (min (first start + 16 * k + 16) (last start size data.length))).drop
        (first start + 16 * k) := by rw [← hto, ← hfrom]
    rw [← hbytes] at hread hcount
    exact ⟨haddress ▸ hread, fun hmore => hcount.trans (Nat.min_eq_left (hfull hmore))⟩
  · rw [mapM_read?_lines, Option.map_some, flatMap_placed_rows, he, hs']

/-- Two bytes are left for the second line. -/
theorem dump_lossless_short : ∃ line, (lines ((List.range 20).map UInt8.ofNat) (-3) 18)[1]? = some line ∧
    read? line = some ⟨['0', '0', '1', '0'], [16, 17], ['.', '.']⟩ := by
  obtain ⟨hlength, hlines, -⟩ := dump_lossless ((List.range 20).map UInt8.ofNat) (-3) 18
  have htwo : (lines ((List.range 20).map UInt8.ofNat) (-3) 18).length = 2 := by
    rw [← Int.natCast_inj, hlength]
    norm_num
  obtain ⟨line, hline⟩ : ∃ line, (lines ((List.range 20).map UInt8.ofNat) (-3) 18)[1]? = some line :=
    ⟨_, List.getElem?_eq_getElem (by rw [htwo]; decide)⟩
  exact ⟨line, hline, (hlines 1 line hline).1⟩

end Chip8.MemoryDump
