import Chip8.Machine.Basic
import Chip8.Proofs.Loading
import Chip8.Proofs.Nesting
import Mathlib.Data.List.Induction
/-!
Exactly which tables are configurations.

The check goes through the settings in an order, stops at the first that is bad, and rewrites the keyboard on
its way. Which tables pass, and what comes of them, should not be a matter of this order.

1. **Specification** — `Valid` says what the rules ask of a table, without the order: each section is a table,
   each setting has its kind and its bound, and on the keyboard the last entry for each key of the pad counts
   (`winner`).

2. **The check** — `validate_eq_ok_iff` says that it accepts these tables and no others, and what it makes of
   them: the keyboard gets the keys of the pad, and all else stays. It is put together from one such fact for
   each part (`checkSections_eq_ok_iff`, `checkKeyboard_eq_ok_iff`), and writing keys in upper case is an
   induction on the last entry (`get?_upperKeys`).

3. **Merged tables** — a keyboard that is laid over the defaults has the keys of the pad first and in order
   (`keyboard_begins`), so a second check finds nothing to do (`validate_of_build`).

4. **What is built** — a display and a cadence can be built from a configuration that was loaded, with one
   exception: no rule limits the size of the display, so that its pixels may be more than an array can count
   (`load_wide`), or than the host has room for. How much room that is, is a parameter: nothing here depends
   on it.
-/

namespace Chip8

/-- An answer of two steps is an answer of the first and then one of the second, and the other way round. -/
theorem bind_eq_ok_iff {α β ε : Type} {x : Except ε α} {f : α → Except ε β} {b : β} :
    (x >>= f) = .ok b ↔ ∃ a, x = .ok a ∧ f a = .ok b := by
  constructor
  · exact exists_of_bind_eq_ok
  · rintro ⟨a, rfl, h⟩
    exact h

/-- A check passes if its condition holds and the rest passes. -/
theorem throw_or_eq_ok_iff {β ε : Type} {c : Bool} {e : ε} {x : Except ε β} {b : β} :
    (if (!c) = true then throw e >>= fun _ : PUnit => x else x) = .ok b ↔ c = true ∧ x = .ok b := by
  cases c with
  | false =>
    constructor
    · intro h
      cases h
    · rintro ⟨h, -⟩
      cases h
  | true => simp

/-- Every size above zero can be had whose pixels an array can count, if there is room for them. -/
theorem Size.exists_ofInts_iff (room : Nat) {width height : Int} (hw : 0 < width) (hh : 0 < height) :
    (∃ s : Size, Size.ofInts room width height = .ok s) ↔
      width * height < 0x8000000000000000 ∧ width * height ≤ room := by
  have hwidth : (width.toNat : Int) = width := Int.toNat_of_nonneg (Int.le_of_lt hw)
  have hheight : (height.toNat : Int) = height := Int.toNat_of_nonneg (Int.le_of_lt hh)
  have hpixels : ((width.toNat * height.toNat : Nat) : Int) = width * height := by
    rw [Int.natCast_mul, hwidth, hheight]
  rw [← hpixels, Size.ofInts, dif_pos ⟨hw, hh⟩]
  constructor
  · rintro ⟨s, hs⟩
    split at hs
    · cases hs
    · split at hs
      · split at hs
        · cases hs
        · omega
      · cases hs
  · rintro ⟨hcount, hroom⟩
    -- neither side is longer than the pixels are many
    have hw_le : width.toNat ≤ width.toNat * height.toNat := Nat.le_mul_of_pos_right _ (by omega)
    have hh_le : height.toNat ≤ width.toNat * height.toNat := Nat.le_mul_of_pos_left _ (by omega)
    have hwords : (!isWord64 width || !isWord64 height) = false := by
      simp only [isWord64, Bool.or_eq_false_iff, Bool.not_eq_false', Bool.and_eq_true, decide_eq_true_eq]
      omega
    rw [hwords, if_neg Bool.false_ne_true, dif_pos (by omega), if_neg (by omega)]
    exact ⟨_, rfl⟩

namespace Config

open Value (Distinct)

variable {t o r : Table} {part key : String} {v : Value}

/-! ## The sections

The rules for the settings, each as a statement about the table, and the checks equal to them. -/

/-- A setting has a value: its section is a table, in which it stands. -/
def Has (t : Table) (part key : String) (v : Value) : Prop :=
  ∃ entries : Table, t.get? part = some (.table entries) ∧ entries.get? key = some v

theorem require_eq_ok_iff : require t key = .ok v ↔ t.get? key = some v := by
  unfold require
  cases t.get? key with
  | none => simp
  | some w => simp

/-- A setting is answered exactly if the table has it. -/
theorem setting_eq_ok_iff : setting t part key = .ok v ↔ Has t part key v := by
  -- there may be no section, one that is no table, or a table that has the key or not
  cases hpart : t.get? part with
  | none =>
    rw [setting, require, hpart, Has, hpart]
    constructor
    · intro h
      cases h
    · rintro ⟨entries, h, -⟩
      cases h
  | some found =>
    cases hfound : found.table? with
    | none =>
      rw [setting_of_not_table hpart hfound, Has, hpart]
      constructor
      · intro h
        cases h
      · rintro ⟨entries, h, -⟩
        obtain rfl := Option.some.inj h
        cases hfound
    | some entries =>
      obtain rfl := eq_table_of_table? hfound
      rw [setting_of_table hpart, require_eq_ok_iff, Has, hpart]
      constructor
      · intro h
        exact ⟨entries, rfl, h⟩
      · rintro ⟨entries', h, hv⟩
        obtain rfl := Value.table.inj (Option.some.inj h)
        exact hv

theorem isPositive_iff : isPositive v = true ↔ ∃ n : Int, 0 < n ∧ v = .int n := by
  cases v <;> simp [isPositive]

theorem isPace_iff : isPace v = true ↔ ∃ n : Int, 0 ≤ n ∧ v = .int n := by
  cases v <;> simp [isPace]

theorem isBool_iff : isBool v = true ↔ ∃ b, v = .bool b := by
  cases v <;> simp [isBool]

theorem isKeyName_iff : isKeyName v = true ↔ ∃ name, v = .text name ∧ name ≠ "" := by
  cases v <;> simp [isKeyName]

/-- A setting is a whole number above zero. -/
def Positive (t : Table) (part key : String) : Prop := ∃ n : Int, 0 < n ∧ Has t part key (.int n)

theorem checkPositive_eq_ok_iff {u : Unit} : checkPositive t part key = .ok u ↔ Positive t part key := by
  have hcheck (v : Value) : (if isPositive v then pure () else throw (.notPositive (part ++ "." ++ key)) :
      Except Error Unit) = .ok u ↔ isPositive v = true := by
    cases isPositive v with
    | true => exact ⟨fun _ => rfl, fun _ => rfl⟩
    | false =>
      constructor
      · intro h
        cases h
      · intro h
        cases h
  -- the setting has to be there before its kind and its bound are looked at
  rw [checkPositive, bind_eq_ok_iff]
  constructor
  · rintro ⟨v, hv, h⟩
    obtain ⟨n, hn, rfl⟩ := isPositive_iff.mp ((hcheck v).mp h)
    exact ⟨n, hn, setting_eq_ok_iff.mp hv⟩
  · rintro ⟨n, hn, hv⟩
    exact ⟨.int n, setting_eq_ok_iff.mpr hv, (hcheck _).mpr (isPositive_iff.mpr ⟨n, hn, rfl⟩)⟩

/-- The rules for all but the keyboard. -/
structure Sections (t : Table) : Prop where
  fps : Positive t "general" "fps"
  scale : Positive t "general" "scale"
  pace : ∃ n : Int, 0 ≤ n ∧ Has t "machine" "instructions_per_second" (.int n)
  strict : ∃ b, Has t "machine" "strict_opcodes" (.bool b)
  width : Positive t "machine" "width"
  height : Positive t "machine" "height"

/-- The checks of the sections, made one after the other, come to the rules all together. -/
theorem checkSections_eq_ok_iff {u : Unit} : checkSections t = .ok u ↔ Sections t := by
  simp only [checkSections, bind_eq_ok_iff, throw_or_eq_ok_iff, checkPositive_eq_ok_iff, setting_eq_ok_iff,
    isPace_iff, isBool_iff]
  constructor
  · rintro ⟨-, hfps, -, hscale, -, hpace, ⟨n, hn, rfl⟩, -, hstrict, ⟨b, rfl⟩, -, hwidth, hheight⟩
    exact ⟨hfps, hscale, ⟨n, hn, hpace⟩, ⟨b, hstrict⟩, hwidth, hheight⟩
  · rintro ⟨hfps, hscale, ⟨n, hn, hpace⟩, ⟨b, hstrict⟩, hwidth, hheight⟩
    exact ⟨(), hfps, (), hscale, _, hpace, ⟨n, hn, rfl⟩, _, hstrict, ⟨b, rfl⟩, (), hwidth, hheight⟩

/-! ## The keyboard

A keyboard may have letters in either case, and a key may stand in it twice in this sense. The last entry is
the one that counts. -/

section

variable {entries : Table}

/-- The value that counts for a key of the pad: that of the last entry whose key is this one in upper
    case. -/
def winner (entries : Table) (d : String) : Option Value :=
  (entries.reverse.find? fun e => upperKey e.1 == d).map (·.2)

/-- The rules for the keyboard. -/
structure Keyboard (entries : Table) : Prop where
  /-- Every entry is for a key of the pad. -/
  named : ∀ k ∈ entries.keys, upperKey k ∈ hexKeys
  /-- What counts for each key of the pad is the name of a key. -/
  given : ∀ d ∈ hexKeys, ∃ name, winner entries d = some (.text name) ∧ name ≠ ""

theorem upperKeys_concat (entries : Table) (e : String × Value) :
    upperKeys (entries ++ [e]) = (upperKeys entries).insert (upperKey e.1) e.2 := by
  rw [upperKeys, List.foldl_append]
  rfl

theorem winner_concat (entries : Table) (e : String × Value) (d : String) :
    winner (entries ++ [e]) d = if upperKey e.1 = d then some e.2 else winner entries d := by
  rw [winner, List.reverse_append, List.reverse_singleton, List.singleton_append]
  split
  · next h => simp [h]
  · next h => rw [List.find?_cons_of_neg (by simpa using h), winner]

/-- In upper case each key has the value that counts. A later entry is written over an earlier one, which is
    what `winner` finds from the end. -/
theorem get?_upperKeys (entries : Table) (d : String) : (upperKeys entries).get? d = winner entries d := by
  induction entries using List.reverseRecOn with
  | nil => rfl
  | append_singleton entries e ih =>
    rw [upperKeys_concat, winner_concat]
    split
    · next h => rw [h, Table.get?_insert_self]
    · next h => rw [Table.get?_insert_ne _ (Ne.symm h), ih]

theorem nodup_upperKeys (entries : Table) : (upperKeys entries).keys.Nodup := by
  induction entries using List.reverseRecOn with
  | nil => exact List.nodup_nil
  | append_singleton entries e ih =>
    rw [upperKeys_concat]
    exact Table.nodup_insert ih _ _

theorem mem_keys_upperKeys {d : String} :
    d ∈ (upperKeys entries).keys ↔ ∃ k ∈ entries.keys, upperKey k = d := by
  induction entries using List.reverseRecOn with
  | nil => simp [upperKeys, Table.keys]
  | append_singleton entries e ih =>
    have hkeys : Table.keys (entries ++ [e]) = Table.keys entries ++ [e.1] := List.map_append
    rw [upperKeys_concat, Table.keys_insert, hkeys]
    split
    · next h => grind
    · next h => grind

/-- Entries whose keys are distinct in upper case keep their order. The induction is on the last entry, since it
    is the last that is written. -/
theorem upperKeys_of_distinct (h : (entries.keys.map upperKey).Nodup) :
    upperKeys entries = entries.map fun e => (upperKey e.1, e.2) := by
  induction entries using List.reverseRecOn with
  | nil => rfl
  | append_singleton entries e ih =>
    have hkeys : Table.keys (entries ++ [e]) = Table.keys entries ++ [e.1] := List.map_append
    rw [hkeys, List.map_append] at h
    obtain ⟨hfirst, -, hnew⟩ := List.nodup_append.mp h
    rw [upperKeys_concat, Table.insert_of_not_mem, ih hfirst, List.map_append]
    · rfl
    · rw [mem_keys_upperKeys]
      rintro ⟨k, hk, heq⟩
      exact hnew _ (List.mem_map_of_mem hk) _ List.mem_cons_self heq

/-- Entries for keys that are there already add no key and leave the order of the keys. -/
theorem keys_upperKeys_append {more : Table}
    (h : ∀ k ∈ more.keys, upperKey k ∈ (upperKeys entries).keys) :
    (upperKeys (entries ++ more)).keys = (upperKeys entries).keys := by
  induction more using List.reverseRecOn with
  | nil => rw [List.append_nil]
  | append_singleton more e ih =>
    have hkeys : Table.keys (more ++ [e]) = Table.keys more ++ [e.1] := List.map_append
    rw [hkeys] at h
    have hmore := ih fun k hk => h k (List.mem_append_left _ hk)
    have he := h e.1 (List.mem_append_right _ List.mem_cons_self)
    rw [← List.append_assoc, upperKeys_concat, Table.keys_insert, hmore, if_pos he]

theorem named_iff : (upperKeys entries).keys.all hexKeys.contains = true ↔
    ∀ k ∈ entries.keys, upperKey k ∈ hexKeys := by
  simp only [List.all_eq_true, List.contains_iff_mem]
  constructor
  · intro h k hk
    exact h _ (mem_keys_upperKeys.mpr ⟨k, hk, rfl⟩)
  · intro h d hd
    obtain ⟨k, hk, rfl⟩ := mem_keys_upperKeys.mp hd
    exact h k hk

/-- What counts for a key of the pad is there in upper case, and is the name of a key. -/
theorem Keyboard.get? (h : Keyboard entries) {d : String} (hd : d ∈ hexKeys) :
    ∃ v, (upperKeys entries).get? d = some v ∧ isKeyName v = true := by
  obtain ⟨name, hname, hne⟩ := h.given d hd
  exact ⟨_, (get?_upperKeys entries d).trans hname, isKeyName_iff.mpr ⟨name, rfl, hne⟩⟩

/-- The rules, as they are checked: first the keys and then their values. -/
theorem keyboard_iff : Keyboard entries ↔
    ((upperKeys entries).keys.all hexKeys.contains && hexKeys.all (upperKeys entries).keys.contains) = true ∧
      ((upperKeys entries).all fun e => isKeyName e.2) = true := by
  rw [Bool.and_eq_true, named_iff]
  simp only [List.all_eq_true, List.contains_iff_mem]
  constructor
  · intro h
    -- the rules speak of the pad and the check of the entries, and each entry is for a key of the pad
    refine ⟨⟨h.named, fun d hd => ?_⟩, fun e he => ?_⟩
    · obtain ⟨v, hv, -⟩ := h.get? hd
      by_contra hnot
      rw [Table.get?_eq_none_iff.mpr hnot] at hv
      cases hv
    · obtain ⟨k, hk, hkey⟩ := mem_keys_upperKeys.mp (List.mem_map_of_mem he)
      obtain ⟨v, hv, hname⟩ := h.get? (hkey ▸ h.named k hk)
      rw [Table.get?_of_mem (nodup_upperKeys entries) he] at hv
      obtain rfl := Option.some.inj hv
      exact hname
  · rintro ⟨⟨hnamed, hall⟩, hnames⟩
    refine ⟨hnamed, fun d hd => ?_⟩
    cases hv : (upperKeys entries).get? d with
    | none => exact absurd (hall d hd) (Table.get?_eq_none_iff.mp hv)
    | some v =>
      obtain ⟨name, rfl, hne⟩ := isKeyName_iff.mp (hnames _ (Table.mem_of_get? hv))
      exact ⟨name, (get?_upperKeys entries d).symm.trans hv, hne⟩

/-- The check of the keyboard accepts what keeps the rules, and answers with the keys in upper case. -/
theorem checkKeyboard_eq_ok_iff {keyboard : Table} (h : t.get? "keyboard" = some (.table entries)) :
    checkKeyboard t = .ok keyboard ↔ Keyboard entries ∧ keyboard = upperKeys entries := by
  have hcheck : checkKeyboard t = if ((upperKeys entries).keys.all hexKeys.contains &&
      hexKeys.all (upperKeys entries).keys.contains) = true then
        if ((upperKeys entries).all fun e => isKeyName e.2) = true then .ok (upperKeys entries)
        else .error .badKeyValues
      else .error .badKeyNames := by
    rw [checkKeyboard, require, h]
    rfl
  -- each failed condition is one of the two that the rules were split into
  rw [hcheck, keyboard_iff]
  split
  · next hkeys =>
    split
    · next hvalues =>
      constructor
      · intro h
        exact ⟨⟨hkeys, hvalues⟩, (Except.ok.inj h).symm⟩
      · rintro ⟨-, rfl⟩
        rfl
    · next hvalues =>
      constructor
      · intro h
        cases h
      · rintro ⟨⟨-, h⟩, -⟩
        exact absurd h hvalues
  · next hkeys =>
    constructor
    · intro h
      cases h
    · rintro ⟨⟨h, -⟩, -⟩
      exact absurd h hkeys

end

/-! ## The whole table

The rules together, and what the check makes of a table that keeps them. Its answer keeps the rules too, and
to check it again changes nothing. -/

/-- The rules for a configuration. -/
structure Valid (t : Table) : Prop extends Sections t where
  keyboard : ∃ entries : Table, t.get? "keyboard" = some (.table entries) ∧ Keyboard entries

/-- The check accepts the tables that keep the rules, and writes the keys of the keyboard in upper case. -/
theorem validate_eq_ok_iff : validate t = .ok r ↔ Sections t ∧ ∃ entries : Table,
    t.get? "keyboard" = some (.table entries) ∧ Keyboard entries ∧
      r = t.insert "keyboard" (.table (upperKeys entries)) := by
  rw [validate_eq]
  simp only [bind_eq_ok_iff, checkSections_eq_ok_iff]
  constructor
  · rintro ⟨-, hsections, keyboard, hkeyboard, hr⟩
    refine ⟨hsections, ?_⟩
    -- the sections passed; a keyboard that is missing or no table would have failed
    cases hfound : t.get? "keyboard" with
    | none =>
      rw [checkKeyboard, require, hfound] at hkeyboard
      cases hkeyboard
    | some v =>
      cases htable : v.table? with
      | none =>
        rw [checkKeyboard_of_not_table hfound htable] at hkeyboard
        cases hkeyboard
      | some entries =>
        obtain rfl := eq_table_of_table? htable
        obtain ⟨hrules, rfl⟩ := (checkKeyboard_eq_ok_iff hfound).mp hkeyboard
        exact ⟨entries, rfl, hrules, (Except.ok.inj hr).symm⟩
  · rintro ⟨hsections, entries, hfound, hrules, rfl⟩
    exact ⟨(), hsections, _, (checkKeyboard_eq_ok_iff hfound).mpr ⟨hrules, rfl⟩, rfl⟩

/-- What the check makes of a table: the keyboard gets the keys of the pad with the values that count, and
    all else stays. -/
structure Checked (t r : Table) : Prop where
  keys : r.keys = t.keys
  rest : ∀ k, k ≠ "keyboard" → r.get? k = t.get? k
  keyboard : ∃ entries keyboard : Table, t.get? "keyboard" = some (.table entries) ∧
    r.get? "keyboard" = some (.table keyboard) ∧ keyboard.keys = hexKeys ∧
      ∀ d ∈ hexKeys, keyboard.get? d = winner entries d

theorem upperKey_of_mem {d : String} (h : d ∈ hexKeys) : upperKey d = d := by
  have hall : ∀ d ∈ hexKeys, upperKey d = d := by decide
  exact hall d h

theorem upperKeys_of_keys_eq {entries : Table} (h : entries.keys = hexKeys) : upperKeys entries = entries := by
  have hnodup : (entries.keys.map upperKey).Nodup := by
    rw [h]
    decide
  rw [upperKeys_of_distinct hnodup]
  refine (List.map_congr_left fun e he => ?_).trans (List.map_id entries)
  have hkey : e.1 ∈ hexKeys := h ▸ List.mem_map_of_mem he
  rw [upperKey_of_mem hkey]
  rfl

/-- The usual keyboard. -/
def usualKeyboard : Table := defaultKeyboard.map fun (k, name) => (k, .text name)

/-- A keyboard that begins with the keys of the pad, in order, has these keys when it is checked. -/
theorem keys_upperKeys_of_begins {first more : Table} (hfirst : first.keys = hexKeys)
    (h : Keyboard (first ++ more)) : (upperKeys (first ++ more)).keys = hexKeys := by
  have hbegin : (upperKeys first).keys = hexKeys := by rw [upperKeys_of_keys_eq hfirst, hfirst]
  rw [keys_upperKeys_append, hbegin]
  intro k hk
  rw [hbegin]
  refine h.named k ?_
  rw [Table.keys, List.map_append]
  exact List.mem_append_right _ hk

/-- The keyboard of a merged table, if it is a table, begins with the keys of the pad. -/
theorem keyboard_begins (ho : o.keys.Nodup) {entries : Table}
    (h : (merge defaults o).get? "keyboard" = some (.table entries)) :
    ∃ first more : Table, entries = first ++ more ∧ first.keys = hexKeys := by
  have hdefault : defaults.get? "keyboard" = some (.table usualKeyboard) := rfl
  have hprefix : hexKeys <+: entries.keys := by
    cases hv : o.get? "keyboard" with
    | none =>
      rw [get?_merge_of_none hv, hdefault] at h
      obtain rfl := Value.table.inj (Option.some.inj h)
      exact List.prefix_rfl
    | some v =>
      rw [get?_merge_of_some ho hv, hdefault] at h
      cases htable : v.table? with
      | none =>
        rw [laid_of_not_table htable] at h
        obtain rfl := Option.some.inj h
        cases htable
      | some new =>
        obtain rfl := eq_table_of_table? htable
        rw [laid_table] at h
        obtain rfl := Value.table.inj (Option.some.inj h)
        exact keys_prefix_merge usualKeyboard new
  -- a beginning of the keys is the keys of a beginning of the entries
  obtain ⟨rest, hrest⟩ := hprefix
  obtain ⟨first, more, hentries, hfirst, -⟩ := List.map_eq_append_iff.mp hrest.symm
  exact ⟨first, more, hentries, hfirst⟩

/-- What the check makes of a merged table. -/
theorem checked_of_build (ho : o.keys.Nodup) (h : build o = .ok r) : Checked (merge defaults o) r := by
  obtain ⟨-, entries, hentries, hrules, rfl⟩ := validate_eq_ok_iff.mp h
  obtain ⟨first, more, rfl, hfirst⟩ := keyboard_begins ho hentries
  refine ⟨?_, fun k hk => Table.get?_insert_ne _ hk _, first ++ more, upperKeys (first ++ more), hentries,
    Table.get?_insert_self _ _ _, keys_upperKeys_of_begins hfirst hrules, fun d _ => get?_upperKeys _ d⟩
  -- the keyboard is there already, so writing it adds no key
  have hmem : "keyboard" ∈ (merge defaults o).keys := by
    by_contra hnot
    rw [Table.get?_eq_none_iff.mpr hnot] at hentries
    cases hentries
  rw [Table.keys_insert, if_pos hmem]

/-- A configuration that was checked passes a second check, which changes nothing. -/
theorem validate_of_build (ho : o.keys.Nodup) (h : build o = .ok r) : validate r = .ok r := by
  obtain ⟨hsections, entries, hentries, hrules, rfl⟩ := validate_eq_ok_iff.mp h
  obtain ⟨first, more, rfl, hfirst⟩ := keyboard_begins ho hentries
  have hkeys := keys_upperKeys_of_begins hfirst hrules
  -- the keyboard that was written has the keys of the pad already, so it is written again as it is
  have hsame := upperKeys_of_keys_eq hkeys
  have hrest (k : String) (hk : k ≠ "keyboard") := Table.get?_insert_ne (merge defaults o) hk
    (.table (upperKeys (first ++ more)))
  refine validate_eq_ok_iff.mpr ⟨?_, upperKeys (first ++ more), Table.get?_insert_self _ _ _, ⟨?_, ?_⟩, ?_⟩
  · have hcheck : checkSections (merge defaults o) = .ok () := checkSections_eq_ok_iff.mpr hsections
    rw [← checkSections_congr (hrest _ (by decide)) (hrest _ (by decide))] at hcheck
    exact checkSections_eq_ok_iff.mp hcheck
  · intro k hk
    rw [hkeys] at hk
    rw [upperKey_of_mem hk]
    exact hk
  · intro d hd
    rw [← get?_upperKeys, hsame, get?_upperKeys]
    exact hrules.given d hd
  · rw [hsame, Table.insert_of_get? (Table.get?_insert_self _ _ _)]

/-- What comes of overrides that are laid over the defaults and checked. -/
structure Validation (o : Table) : Prop where
  /-- The check passes if the merged table keeps the rules. -/
  accepts : (∃ r, build o = .ok r) ↔ Valid (merge defaults o)
  /-- On its keyboard the keys of the pad come first, and then the new ones in their order. -/
  order : ∀ new : Table, o.get? "keyboard" = some (.table new) → ∃ entries : Table,
    (merge defaults o).get? "keyboard" = some (.table entries) ∧
      entries.keys = hexKeys ++ new.keys.filter (· ∉ hexKeys)
  /-- The answer is the merged table with the keyboard that counts. -/
  result : ∀ r, build o = .ok r → Checked (merge defaults o) r
  /-- Another check of the answer changes nothing. -/
  again : ∀ r, build o = .ok r → validate r = .ok r

theorem valid_of_validate (h : validate t = .ok r) : Valid t := by
  obtain ⟨hsections, entries, hentries, hrules, -⟩ := validate_eq_ok_iff.mp h
  exact ⟨hsections, entries, hentries, hrules⟩

/-- Overrides whose keys are distinct come to what the rules say. -/
theorem validation_of_distinct (ho : Distinct (.table o)) : Validation o := by
  refine ⟨⟨?_, ?_⟩, ?_, fun r => checked_of_build ho.keys, fun r => validate_of_build ho.keys⟩
  · rintro ⟨r, hr⟩
    exact valid_of_validate hr
  · rintro ⟨hsections, entries, hentries, hrules⟩
    exact ⟨_, validate_eq_ok_iff.mpr ⟨hsections, entries, hentries, hrules, rfl⟩⟩
  · intro new hnew
    have hmerged := get?_merge_of_some ho.keys hnew defaults
    have hdefault : defaults.get? "keyboard" = some (.table usualKeyboard) := rfl
    rw [hdefault, laid_table] at hmerged
    exact ⟨_, hmerged, keys_merge (ho.get? hnew).keys usualKeyboard⟩

/-! ## What is built from a configuration

What a host builds: a display, and two cadences. The cadences can always be built; for the display it takes
an array that can count its pixels, and room for them. -/

theorem intSetting_of_has {n : Int} (h : Has t part key (.int n)) : intSetting t part key = n := by
  rw [intSetting, setting_eq_ok_iff.mpr h]

/-- What can be built from a configuration by a host that has memory for `room` pixels. -/
structure Buildable (room : Nat) (t : Table) : Prop where
  /-- A display of this size can be built exactly if an array can count its pixels and there is room for
      them. -/
  display : (∃ s : Size, Size.ofInts room (width t) (height t) = .ok s) ↔
    width t * height t < 0x8000000000000000 ∧ width t * height t ≤ room
  /-- The cadence of the timers can be built. -/
  timers : (Cadence.create? (.whole timerFrequency) : Option (Cadence Float)).isSome = true
  /-- The cadence of the instructions can be built, if they are to have one. -/
  instructions : pace t = 0 ∨ (Cadence.create? (.whole (pace t)) : Option (Cadence Float)).isSome = true

theorem Valid.buildable (room : Nat) (h : Valid t) : Buildable room t := by
  obtain ⟨w, hw, hwidth⟩ := h.width
  obtain ⟨l, hl, hheight⟩ := h.height
  obtain ⟨n, hn, hpace⟩ := h.pace
  refine ⟨?_, by decide, ?_⟩
  · rw [width, height, intSetting_of_has hwidth, intSetting_of_has hheight]
    exact Size.exists_ofInts_iff room hw hl
  · rw [pace, intSetting_of_has hpace]
    rcases Int.lt_or_eq_of_le hn with hpos | hzero
    · right
      have hpositive : Seconds.isPositive (.whole n : Rate Float) = true := decide_eq_true hpos
      rw [Cadence.create?, if_pos hpositive]
      rfl
    · exact Or.inl hzero.symm

theorem validate_of_loadFile {disk : Disk} {path : String} {log : List LogRecord}
    (h : loadFile disk path = .ok (t, log)) : validate t = .ok t := by
  -- every file is one of three kinds; what is used in the end are the defaults or what the check answered
  rcases useless_or_holds disk path with ⟨message, hmessage⟩ | hdeep | ⟨o, ho⟩
  · rw [loadFile_of_useless hmessage] at h
    obtain ⟨rfl, -⟩ := Prod.mk.inj (Except.ok.inj h)
    exact validate_defaults
  · rw [loadFile_of_tooDeep hdeep] at h
    cases h
  · cases hbuild : build o with
    | ok r =>
      rw [loadFile_of_ok ho hbuild] at h
      obtain ⟨rfl, -⟩ := Prod.mk.inj (Except.ok.inj h)
      exact validate_of_build ho.nodup hbuild
    | error e =>
      rw [loadFile_of_error ho hbuild] at h
      split at h
      · obtain ⟨rfl, -⟩ := Prod.mk.inj (Except.ok.inj h)
        exact validate_defaults
      · cases h

/-- A configuration that was loaded passes the check unchanged. -/
theorem validate_of_load {disk : Disk} {path : Option String} {log : List LogRecord}
    (h : load disk path = .ok (t, log)) : validate t = .ok t := by
  rw [load_eq] at h
  split at h
  · cases h
  · obtain ⟨rfl, -⟩ := Prod.mk.inj (Except.ok.inj h)
    exact validate_defaults
  · exact validate_of_loadFile h

/-! ## A wide display

A table that keeps all rules and whose display no array can count. -/

/-- Overrides that give the display a quintillion columns. -/
def wide : Table := [("machine", .table [("width", .int 1000000000000000000)])]

/-- The file `machine.width = 1000000000000000000`. -/
def wideLine : List Char :=
  ['m', 'a', 'c', 'h', 'i', 'n', 'e', '.', 'w', 'i', 'd', 't', 'h', ' ', '=', ' '] ++
    '1' :: List.replicate 18 '0' ++ ['\n']

/-- A disk with this file and no other. -/
def wideDisk : Disk := .ofList "/" [("c.toml", .ok (wideLine.map fun c => UInt8.ofNat c.toNat))]

theorem keyValue_wideLine : Toml.keyValue Toml.maxRoom 76 wideLine =
    .ok ((["machine", "width"], .int 1000000000000000000), ['\n']) := by
  rw [Toml.keyValue]
  have hvalue : Toml.value Toml.maxRoom 75 ('1' :: List.replicate 18 '0' ++ ['\n']) =
      .ok (.int 1000000000000000000, ['\n']) := by
    rw [Toml.value]
    · rfl
    · intro rest h
      cases h
    · intro rest h
      cases h
  show (Toml.value Toml.maxRoom 75 ('1' :: List.replicate 18 '0' ++ ['\n']) >>= _) = _
  rw [hvalue]
  rfl

theorem parse_wideLine : Toml.parse wideLine = .ok wide := by
  have hstatement : Toml.statement {} wideLine =
      .ok ({ root := wide, pending := [(.declared, ["machine"])] }, ['\n']) := by
    show (Toml.keyValue Toml.maxRoom 76 wideLine >>= _) = _
    rw [keyValue_wideLine]
    rfl
  have hstatements : Toml.statements (wideLine.length + 1) {} wideLine =
      .ok { root := wide, pending := [(.declared, ["machine"])] } := by
    show (Toml.statement {} wideLine >>= _) = _
    rw [hstatement]
    rfl
  have hends : Toml.unifyLineEnds wideLine = wideLine := rfl
  simp only [Toml.parse, hends, hstatements]

theorem merge_wide : merge defaults wide = [
    ("general", .table [("fps", .int 60), ("scale", .int 10)]),
    ("machine", .table [
      ("instructions_per_second", .int 700),
      ("strict_opcodes", .bool false),
      ("width", .int 1000000000000000000),
      ("height", .int 32)]),
    ("keyboard", .table usualKeyboard)] := by
  have hmachine : defaults.get? "machine" = some (.table [
      ("instructions_per_second", .int 700),
      ("strict_opcodes", .bool false),
      ("width", .int 64),
      ("height", .int 32)]) := rfl
  rw [wide, merge_cons, merge_nil, hmachine, laid_table, merge_cons, merge_nil, laid_of_not_table rfl]
  rfl

theorem build_wide : build wide = .ok (merge defaults wide) := by
  rw [build, merge_wide]
  rfl

theorem load_wideDisk : load wideDisk (some "c.toml") = .ok (merge defaults wide, []) := by
  have hthere : wideDisk.isThere (pathOf wideDisk (some "c.toml")) = .ok true := rfl
  have hholds : Holds wideDisk (pathOf wideDisk (some "c.toml")) wide := ⟨_, _, rfl, rfl, parse_wideLine⟩
  rw [load_of_isThere hthere]
  exact loadFile_of_ok hholds build_wide

/-- The loader takes such a width, but no host can build such a display, whatever memory it has. -/
theorem load_wide : ∃ t, load wideDisk (some "c.toml") = .ok (t, []) ∧
    ∀ room, Size.ofInts room (width t) (height t) = .error .displayTooLarge := by
  refine ⟨_, load_wideDisk, fun room => ?_⟩
  rw [merge_wide]
  rfl

/-! ## All overrides

The theorem for the tables that overrides make of the defaults, and one with a small letter. -/

/-- Overrides give a configuration exactly if the merged table keeps the rules, and from a configuration
    that was loaded all can be built, except a display with more pixels than an array can count or than there
    is room for. -/
theorem merged_valid_and_loaded_buildable : (∀ o : Table, Distinct (.table o) → Validation o) ∧
    ∀ disk path t log, load disk path = .ok (t, log) →
      validate t = .ok t ∧ ∀ room, Buildable room t := by
  constructor
  · intro o ho
    exact validation_of_distinct ho
  · intro disk path t log h
    have hcheck := validate_of_load h
    exact ⟨hcheck, fun room => (valid_of_validate hcheck).buildable room⟩

/-- Overrides with two entries for one key, of which the first is bad. -/
def letters : Table := [("keyboard", .table [("A", .int 5), ("a", .text "p")])]

theorem merge_letters : merge defaults letters = [
    ("general", .table [("fps", .int 60), ("scale", .int 10)]),
    ("machine", .table [
      ("instructions_per_second", .int 700),
      ("strict_opcodes", .bool false),
      ("width", .int 64),
      ("height", .int 32)]),
    ("keyboard", .table ((usualKeyboard.insert "A" (.int 5)).insert "a" (.text "p")))] := by
  have hkeyboard : defaults.get? "keyboard" = some (.table usualKeyboard) := rfl
  rw [letters, merge_cons, merge_nil, hkeyboard, laid_table, merge_cons, merge_cons, merge_nil,
    laid_of_not_table rfl, laid_of_not_table rfl]
  rfl

/-- Of the two entries for one key the good one counts, since it is the later one. -/
theorem merged_valid_and_loaded_buildable_letters :
    (∃ r keyboard : Table, build letters = .ok r ∧ r.get? "keyboard" = some (.table keyboard) ∧
      keyboard.keys = hexKeys ∧ keyboard.get? "A" = some (.text "p") ∧ validate r = .ok r) ∧
    load wideDisk (some "c.toml") = .ok (merge defaults wide, []) ∧
      ∀ room, Buildable room (merge defaults wide) := by
  have hdistinct : Distinct (.table letters) := by
    refine .table (by decide) fun e he => ?_
    obtain rfl := List.mem_singleton.mp he
    refine .table (by decide) fun e he => .of_not_table ?_
    rcases List.mem_pair.mp he with rfl | rfl
    · rfl
    · rfl
  have hletters := merged_valid_and_loaded_buildable.1 letters hdistinct
  have hbuild : ∃ r, build letters = .ok r := by
    rw [build, merge_letters]
    exact ⟨_, rfl⟩
  obtain ⟨r, hr⟩ := hbuild
  obtain ⟨entries, keyboard, hentries, hkeyboard, hkeys, hwinner⟩ := (hletters.result r hr).keyboard
  refine ⟨⟨r, keyboard, hr, hkeyboard, hkeys, ?_, hletters.again r hr⟩, load_wideDisk, ?_⟩
  · -- the value that counts is found from the end of the merged keyboard
    rw [merge_letters] at hentries
    obtain rfl := Value.table.inj (Option.some.inj hentries)
    rw [hwinner "A" (by decide)]
    rfl
  · exact (merged_valid_and_loaded_buildable.2 _ _ _ _ load_wideDisk).2

end Config

end Chip8
