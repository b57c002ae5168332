import Chip8.Config.Load
import Chip8.Proofs.Merging
/-!
What loading a configuration file comes to.

A file that cannot be read, that is no text, no document or no configuration is refused: it is logged once and
the defaults hold. Two errors are not among those that the loader recovers from.

1. **Documents** — one of them cannot occur. No entry is `missing`, since a merged table has all that the
   defaults have, unless something that is no table was put in the place of a section, which is another error
   (`recovers_setting_merge`). This needs overrides without double keys, and `Toml.nodup_parse` says that the
   parser answers no others. Its invariant is that the root table has distinct keys; each statement keeps it.

2. **Rules** — the other one does occur: a keyboard that is no table gets through. It gets through only if all
   other sections are in order, since they are checked first (`build_fails_iff`).

3. **Files** — `load_used_refused_or_failed` says for every file which of three things comes of it, and that
   the keyboard is the only way to the third, apart from values that are nested too deep for the parser.
   `load_keyboard_text` is such a file.
-/

namespace Chip8

/-- If two steps, one after the other, have an answer, the first has one and the second has one from there. -/
theorem exists_of_bind_eq_ok {α β ε : Type} {x : Except ε α} {f : α → Except ε β} {b : β}
    (h : (x >>= f) = .ok b) : ∃ a, x = .ok a ∧ f a = .ok b := by
  cases x with
  | error e => cases h
  | ok a => exact ⟨a, rfl, h⟩

/-! ## Documents have no double keys

The parser refuses a key that is there already, so a table that comes out of a document has each key once.
The proof follows the parser, statement by statement. -/

namespace Toml

/-- A change along a path keeps the keys of a table distinct. If the path is not empty it is a change under one
    key, whatever becomes of the tables below. -/
theorem nodup_changeAt {throughLists : Bool} {change : Table → Option Table} {path : List String}
    {t t' : Table}
    (hchange : ∀ {t t'}, t.keys.Nodup → change t = some t' → t'.keys.Nodup)
    (ht : t.keys.Nodup) (h : changeAt throughLists change path t = some t') : t'.keys.Nodup := by
  cases path with
  | nil => exact hchange ht h
  | cons k ks =>
    -- whatever is found on the way, the table at hand gets its inner table written back under the same key
    unfold changeAt at h
    split at h
    · obtain ⟨inner, -, rfl⟩ := Option.map_eq_some_iff.mp h
      exact Table.nodup_insert ht _ _
    · obtain ⟨inner, -, rfl⟩ := Option.map_eq_some_iff.mp h
      exact Table.nodup_insert ht _ _
    · split at h
      · split at h
        · obtain ⟨inner, -, rfl⟩ := Option.map_eq_some_iff.mp h
          exact Table.nodup_insert ht _ _
        · cases h
      · cases h
    · cases h

theorem nodup_some {t t' : Table} (ht : t.keys.Nodup) (h : some t = some t') : t'.keys.Nodup := by
  obtain rfl := Option.some.inj h
  exact ht

/-- A key is added only where it is missing, so none comes to stand twice. -/
theorem nodup_addNew {k : String} {v : Value} {t t' : Table} (ht : t.keys.Nodup)
    (h : addNew k v t = some t') : t'.keys.Nodup := by
  unfold addNew at h
  split at h
  · cases h
  · obtain rfl := Option.some.inj h
    exact Table.nodup_insert ht _ _

theorem nodup_addItem {k : String} {t t' : Table} (ht : t.keys.Nodup) (h : addItem k t = some t') :
    t'.keys.Nodup := by
  unfold addItem at h
  split at h
  · obtain rfl := Option.some.inj h
    exact Table.nodup_insert ht _ _
  · obtain rfl := Option.some.inj h
    exact Table.nodup_insert ht _ _
  · cases h

variable {p q : Progress}

/-- A pair that the parser takes in keeps the keys of the document apart. -/
theorem nodup_addPair {path : List String} {v : Value} {rest : List Char} (hp : p.root.keys.Nodup)
    (h : addPair p path v rest = .ok q) : q.root.keys.Nodup := by
  unfold addPair at h
  simp only at h
  split at h
  · cases h
  · split at h
    · cases h
    · split at h
      · cases h
      · next hroot =>
        cases h
        exact nodup_changeAt nodup_addNew hp hroot

/-- The header of a table keeps the keys of the document apart. -/
theorem nodup_declareTable {cs rest : List Char} (hp : p.root.keys.Nodup)
    (h : declareTable p cs = .ok (q, rest)) : q.root.keys.Nodup := by
  obtain ⟨⟨path, rest⟩, -, h⟩ := exists_of_bind_eq_ok h
  simp only at h
  split at h
  · cases h
  · split at h
    · cases h
    · next hroot =>
      split at h
      · cases h
        exact nodup_changeAt nodup_some hp hroot
      · cases h

/-- The header of an item of an array of tables keeps the keys of the document apart. -/
theorem nodup_declareItem {cs rest : List Char} (hp : p.root.keys.Nodup)
    (h : declareItem p cs = .ok (q, rest)) : q.root.keys.Nodup := by
  obtain ⟨⟨path, rest⟩, -, h⟩ := exists_of_bind_eq_ok h
  simp only at h
  split at h
  · cases h
  · split at h
    · cases h
    · next hroot =>
      split at h
      · cases h
        exact nodup_changeAt nodup_addItem hp hroot
      · cases h

/-- Every statement of a document keeps its keys apart, of whichever kind it is. -/
theorem nodup_statement {cs rest : List Char} (hp : p.root.keys.Nodup) (h : statement p cs = .ok (q, rest)) :
    q.root.keys.Nodup := by
  -- a statement is a header of one of two kinds, a comment, or a pair
  unfold statement at h
  split at h
  · simp only at h
    split at h
    · refine nodup_declareItem ?_ h
      exact hp
    · refine nodup_declareTable ?_ h
      exact hp
  · cases h
    exact hp
  · split at h
    · obtain ⟨⟨⟨path, v⟩, rest⟩, -, h⟩ := exists_of_bind_eq_ok h
      obtain ⟨q, hq, h⟩ := exists_of_bind_eq_ok h
      cases h
      exact nodup_addPair hp hq
    · cases h
  · cases h
    exact hp

/-- The statements of a document keep its keys apart, however many there are. -/
theorem nodup_statements {fuel : Nat} {cs : List Char} (hp : p.root.keys.Nodup)
    (h : statements fuel p cs = .ok q) : q.root.keys.Nodup := by
  -- the induction is on the fuel, with the document general: each statement keeps the invariant and the
  -- rest begins from what it left
  induction fuel generalizing p cs with
  | zero =>
    cases h
    exact hp
  | succ fuel ih =>
    unfold statements at h
    split at h
    · cases h
      exact hp
    · exact ih hp h
    · obtain ⟨⟨r, rest⟩, hr, h⟩ := exists_of_bind_eq_ok h
      obtain ⟨rest, -, h⟩ := exists_of_bind_eq_ok h
      have hroot := nodup_statement hp hr
      split at h
      · cases h
        exact hroot
      · exact ih hroot h
      · cases h

/-- No key stands twice in the table of a document. -/
theorem nodup_parse {text : List Char} {t : Table} (h : parse text = .ok t) : t.keys.Nodup := by
  unfold parse at h
  simp only at h
  split at h
  · next hp =>
    cases h
    refine nodup_statements ?_ hp
    exact List.nodup_nil
  · cases h

end Toml

namespace Config

/-! ## The rules

Most of what is wrong in a configuration is recovered from. Each check is shown to recover from what it can
find wrong, given that the sections it looks into are tables, as they are after a merge with the defaults. -/

/-- The loader recovers from every failure of a check. It is closed under the steps that checks are made of. -/
def Recovers {α : Type} (x : Except Error α) : Prop := ∀ e, x = .error e → e.recovered = true

namespace Recovers

variable {α β : Type}

theorem ok (a : α) : Recovers (.ok a) := by
  intro e h
  cases h

theorem error {e : Error} (h : e.recovered = true) : Recovers (.error e : Except Error α) := by
  rintro _ ⟨⟩
  exact h

theorem bind {x : Except Error α} {f : α → Except Error β} (hx : Recovers x) (hf : ∀ a, Recovers (f a)) :
    Recovers (x >>= f) := by
  cases x with
  | error e => exact error (hx e rfl)
  | ok a => exact hf a

theorem ite {c : Prop} [Decidable c] {x y : Except Error α} (hx : Recovers x) (hy : Recovers y) :
    Recovers (if c then x else y) := by
  split
  · exact hx
  · exact hy

end Recovers

variable {t o : Table} {part key : String}

theorem setting_of_table {entries : Table} (h : t.get? part = some (.table entries)) (key : String) :
    setting t part key = require entries key := by
  rw [setting, require, h]
  rfl

theorem setting_of_not_table {v : Value} (h : t.get? part = some v) (hv : v.table? = none) (key : String) :
    setting t part key = .error (.notASection v) := by
  rw [setting, require, h]
  cases v with
  | table entries => cases hv
  | _ => rfl

theorem require_of_isSome (h : (t.get? key).isSome = true) : ∃ v, require t key = .ok v := by
  obtain ⟨v, hv⟩ := Option.isSome_iff_exists.mp h
  exact ⟨v, by rw [require, hv]⟩

theorem eq_table_of_table? {v : Value} {entries : Table} (h : v.table? = some entries) :
    v = .table entries := by
  cases v with
  | table entries => exact congrArg Value.table (Option.some.inj h)
  | _ => cases h

/-- A setting that the defaults have is there in a merged table, too, or else its section is no table. -/
theorem recovers_setting_merge (ho : o.keys.Nodup) {entries : Table}
    (hpart : t.get? part = some (.table entries)) (hkey : (entries.get? key).isSome = true) :
    Recovers (setting (merge t o) part key) := by
  -- the section comes from the defaults, or from overrides that are no table, or is laid over the default
  -- one
  cases h : o.get? part with
  | none =>
    obtain ⟨v, hv⟩ := require_of_isSome hkey
    rw [setting_of_table ((get?_merge_of_none h t).trans hpart), hv]
    exact .ok v
  | some v =>
    have hmerge := get?_merge_of_some ho h t
    cases htable : v.table? with
    | none =>
      rw [laid_of_not_table htable] at hmerge
      rw [setting_of_not_table hmerge htable]
      exact .error rfl
    | some new =>
      obtain rfl := eq_table_of_table? htable
      rw [hpart] at hmerge
      obtain ⟨w, hw⟩ := require_of_isSome (isSome_get?_merge hkey new)
      rw [setting_of_table hmerge, hw]
      exact .ok w

/-- The rules for all but the keyboard. They look at other sections than the rule for the keyboard does, so the
    two can be told apart when overrides change (`checkSections_congr`, `checkKeyboard_congr`). -/
def checkSections (t : Table) : Except Error Unit := do
  checkPositive t "general" "fps"
  checkPositive t "general" "scale"
  if !isPace (← setting t "machine" "instructions_per_second") then throw .badPace
  if !isBool (← setting t "machine" "strict_opcodes") then throw .badStrictness
  checkPositive t "machine" "width"
  checkPositive t "machine" "height"

/-- Validation checks the sections and then the keyboard, and puts the keyboard in place with its letters in
    upper case. -/
theorem validate_eq (t : Table) : validate t = (do
    checkSections t
    let keyboard ← checkKeyboard t
    return t.insert "keyboard" (.table keyboard)) := by
  simp only [validate, checkSections, bind_assoc]
  refine bind_congr fun _ => bind_congr fun _ => bind_congr fun pace => ?_
  split
  · rfl
  · rw [bind_assoc]
    refine bind_congr fun strict => ?_
    split
    · rfl
    · rw [bind_assoc]

theorem recovers_checkPositive (h : Recovers (setting t part key)) : Recovers (checkPositive t part key) := by
  refine h.bind fun v => ?_
  exact .ite (.ok ()) (.error rfl)

/-- The defaults have this setting. -/
def IsSetting (part key : String) : Prop :=
  ∃ entries : Table, defaults.get? part = some (.table entries) ∧ (entries.get? key).isSome = true

/-- The sections recover from whatever is wrong in them if each of their settings does. -/
theorem recovers_checkSections (h : ∀ part key, IsSetting part key → Recovers (setting t part key)) :
    Recovers (checkSections t) := by
  refine (recovers_checkPositive (h _ _ ⟨_, rfl, rfl⟩)).bind fun _ => ?_
  refine (recovers_checkPositive (h _ _ ⟨_, rfl, rfl⟩)).bind fun _ => ?_
  refine (h _ _ ⟨_, rfl, rfl⟩).bind fun pace => .ite (.error rfl) ?_
  refine (h _ _ ⟨_, rfl, rfl⟩).bind fun strict => .ite (.error rfl) ?_
  refine (recovers_checkPositive (h _ _ ⟨_, rfl, rfl⟩)).bind fun _ => ?_
  exact recovers_checkPositive (h _ _ ⟨_, rfl, rfl⟩)

theorem checkKeyboard_of_not_table {v : Value} (h : t.get? "keyboard" = some v) (hv : v.table? = none) :
    checkKeyboard t = .error (.keyboardNotATable v) := by
  rw [checkKeyboard, require, h]
  cases v with
  | table entries => cases hv
  | _ => rfl

/-- A keyboard that is a table recovers from whatever is wrong in it. -/
theorem recovers_checkKeyboard {entries : Table} (h : t.get? "keyboard" = some (.table entries)) :
    Recovers (checkKeyboard t) := by
  have hcheck : checkKeyboard t = (do
      let keyboard := upperKeys entries
      if keyboard.keys.all hexKeys.contains && hexKeys.all keyboard.keys.contains then
        if keyboard.all fun e => isKeyName e.2 then return keyboard
        else throw .badKeyValues
      else throw .badKeyNames) := by
    rw [checkKeyboard, require, h]
    rfl
  rw [hcheck]
  exact .ite (.ite (.ok _) (.error rfl)) (.error rfl)

/-! ## Checks look at their own part of a table

A check answers the same for two tables that agree in its section. So what is wrong with a keyboard can be
told apart from what is wrong elsewhere. -/

variable {t' : Table}

theorem setting_congr (h : t.get? part = t'.get? part) (key : String) :
    setting t part key = setting t' part key := by
  rw [setting, setting, require, require, h]

theorem checkSections_congr (hgeneral : t.get? "general" = t'.get? "general")
    (hmachine : t.get? "machine" = t'.get? "machine") : checkSections t = checkSections t' := by
  simp only [checkSections, checkPositive, setting_congr hgeneral, setting_congr hmachine]

theorem checkKeyboard_congr (h : t.get? "keyboard" = t'.get? "keyboard") :
    checkKeyboard t = checkKeyboard t' := by
  rw [checkKeyboard, checkKeyboard, require, require, h]

/-- An override has no part in other keys. -/
theorem get?_merge_without (ho : o.keys.Nodup) {k l : String} (h : l ≠ k) (t : Table) :
    (merge t (o.without k)).get? l = (merge t o).get? l := by
  have hwithout := Table.get?_without_ne h o
  cases hl : o.get? l with
  | none => rw [get?_merge_of_none (hwithout.trans hl), get?_merge_of_none hl]
  | some v =>
    rw [get?_merge_of_some (Table.nodup_without ho k) (hwithout.trans hl), get?_merge_of_some ho hl]

/-! ## Configurations

A configuration can fail to be built in one way that is not recovered from: its keyboard is no table and all
else in it is right. -/

theorem build_eq (o : Table) : build o = (do
    checkSections (merge defaults o)
    let keyboard ← checkKeyboard (merge defaults o)
    return (merge defaults o).insert "keyboard" (.table keyboard)) :=
  validate_eq _

/-- The defaults are a configuration. -/
theorem validate_defaults : validate defaults = .ok defaults := rfl

/-- A keyboard that is no table is no configuration, even if all the rest is. -/
theorem build_of_not_table (ho : o.keys.Nodup) {v : Value} (h : o.get? "keyboard" = some v)
    (hv : v.table? = none) (hsections : checkSections (merge defaults o) = .ok ()) :
    build o = .error (.keyboardNotATable v) := by
  have hkeyboard := get?_merge_of_some ho h defaults
  rw [laid_of_not_table hv] at hkeyboard
  rw [build_eq, hsections, checkKeyboard_of_not_table hkeyboard hv]
  rfl

/-- Without the keyboard it is one if the other sections are in order. -/
theorem build_without_keyboard (ho : o.keys.Nodup) :
    (∃ t, build (o.without "keyboard") = .ok t) ↔ checkSections (merge defaults o) = .ok () := by
  have hsections : checkSections (merge defaults (o.without "keyboard")) = checkSections (merge defaults o) :=
    checkSections_congr (get?_merge_without ho (by decide) _) (get?_merge_without ho (by decide) _)
  have hkeyboard : checkKeyboard (merge defaults (o.without "keyboard")) = checkKeyboard defaults :=
    checkKeyboard_congr (get?_merge_of_none (Table.get?_without_self o "keyboard") defaults)
  rw [build_eq, hsections, hkeyboard]
  constructor
  · rintro ⟨t, h⟩
    obtain ⟨_, h, -⟩ := exists_of_bind_eq_ok h
    exact h
  · intro h
    rw [h]
    exact ⟨_, rfl⟩

/-- The loader recovers from all that can be wrong with overrides, but for one thing: a keyboard that is no
    table, in overrides that are in order otherwise. If a section is wrong too, that is found first, and the
    loader recovers from it. -/
theorem build_fails_iff (ho : o.keys.Nodup) (e : Error) :
    (build o = .error e ∧ e.recovered = false) ↔
      ∃ v, o.get? "keyboard" = some v ∧ v.table? = none ∧ (∃ t, build (o.without "keyboard") = .ok t) ∧
        e = .keyboardNotATable v := by
  constructor
  · rintro ⟨h, hrecovered⟩
    have hsections : Recovers (checkSections (merge defaults o)) :=
      recovers_checkSections fun part key ⟨entries, hpart, hkey⟩ => recovers_setting_merge ho hpart hkey
    -- with a table for a keyboard no check fails for good
    have hnot {entries : Table} (hkeyboard : (merge defaults o).get? "keyboard" = some (.table entries)) :
        False := by
      have hbuild : Recovers (build o) := by
        rw [build_eq]
        exact hsections.bind fun _ => (recovers_checkKeyboard hkeyboard).bind fun keyboard => .ok _
      rw [hbuild e h] at hrecovered
      cases hrecovered
    cases hv : o.get? "keyboard" with
    | none => exact (hnot (get?_merge_of_none hv defaults)).elim
    | some v =>
      have hkeyboard := get?_merge_of_some ho hv defaults
      cases htable : v.table? with
      | some new =>
        obtain rfl := eq_table_of_table? htable
        exact (hnot hkeyboard).elim
      | none =>
        rw [laid_of_not_table htable] at hkeyboard
        rw [build_eq, checkKeyboard_of_not_table hkeyboard htable] at h
        cases hs : checkSections (merge defaults o) with
        | error e' =>
          rw [hs] at h
          obtain rfl : e' = e := Except.error.inj h
          rw [hsections e' hs] at hrecovered
          cases hrecovered
        | ok u =>
          rw [hs] at h
          exact ⟨v, rfl, htable, (build_without_keyboard ho).mpr hs, (Except.error.inj h).symm⟩
  · rintro ⟨v, hv, htable, hrest, rfl⟩
    exact ⟨build_of_not_table ho hv htable ((build_without_keyboard ho).mp hrest), rfl⟩

/-! ## Files

From the bytes of a file to its configuration: reading, decoding, parsing, merging and checking. For each
way in which this can end there is one lemma, and together they are all there are. -/

/-- The path that is loaded. -/
def pathOf (disk : Disk) (path : Option String) : String :=
  match path with
  | some p => Path.plain p
  | none => usualPath disk

/-- The file at a path holds the document of these overrides. -/
def Holds (disk : Disk) (path : String) (o : Table) : Prop :=
  ∃ bytes text, disk.read path = .ok bytes ∧ Text.decodeUtf8 bytes = .ok text ∧ Toml.parse text = .ok o

/-- The values of the file are nested too deep for the parser. -/
def TooDeep (disk : Disk) (path : String) : Prop :=
  ∃ bytes text, disk.read path = .ok bytes ∧ Text.decodeUtf8 bytes = .ok text ∧
    Toml.parse text = .error .tooDeep

/-- Why the file at a path holds no configuration, in a sentence. -/
inductive Useless (disk : Disk) (path : String) : String → Prop
  | unreadable {e : FileError} (read : disk.read path = .error e) : Useless disk path e.message
  | undecodable {bytes : List UInt8} {e : Text.Utf8Error} (read : disk.read path = .ok bytes)
    (decode : Text.decodeUtf8 bytes = .error e) : Useless disk path e.message
  | malformed {bytes : List UInt8} {text : List Char} {message : String} (read : disk.read path = .ok bytes)
    (decode : Text.decodeUtf8 bytes = .ok text) (parse : Toml.parse text = .error (.mistake message)) :
    Useless disk path message
  /-- The table in the file breaks a rule, but not by a keyboard that is no table. -/
  | invalid {o : Table} {e : Error} (holds : Holds disk path o) (broken : build o = .error e)
    (keyboard : ∀ v, e ≠ .keyboardNotATable v) : Useless disk path e.message

/-- What comes of loading from a path where there is something. -/
structure Loading (disk : Disk) (path : Option String) : Prop where
  /-- A configuration is used, and nothing is logged. -/
  used : ∀ o t, Holds disk (pathOf disk path) o → build o = .ok t → load disk path = .ok (t, [])
  /-- A useless file gives the defaults and is logged once. -/
  refused : ∀ message, Useless disk (pathOf disk path) message →
    load disk path = .ok (defaults, [refusal (pathOf disk path) message])
  /-- Nothing comes of values that are nested too deep, and nothing comes of a keyboard that is no table in
      a file that would be used without it. -/
  fails : ∀ e, load disk path = .error e ↔
    (TooDeep disk (pathOf disk path) ∧ e = .tooDeep) ∨
      ∃ o v, Holds disk (pathOf disk path) o ∧ o.get? "keyboard" = some v ∧ v.table? = none ∧
        (∃ t, build (o.without "keyboard") = .ok t) ∧ e = .rule (.keyboardNotATable v)
  /-- Every file is one of those of which the clauses above speak. -/
  ends : (∃ o t, Holds disk (pathOf disk path) o ∧ build o = .ok t) ∨
    (∃ message, Useless disk (pathOf disk path) message) ∨ ∃ e, load disk path = .error e

section

variable {disk : Disk} {path : String}

theorem Holds.nodup {o : Table} (h : Holds disk path o) : o.keys.Nodup := by
  obtain ⟨bytes, text, -, -, hparse⟩ := h
  exact Toml.nodup_parse hparse

theorem loadFile_of_tooDeep (h : TooDeep disk path) : loadFile disk path = .error .tooDeep := by
  obtain ⟨bytes, text, hread, hdecode, hparse⟩ := h
  simp only [loadFile, hread, ofBytes, hdecode, hparse]

theorem loadFile_of_ok {o t : Table} (h : Holds disk path o) (hbuild : build o = .ok t) :
    loadFile disk path = .ok (t, []) := by
  obtain ⟨bytes, text, hread, hdecode, hparse⟩ := h
  simp only [loadFile, hread, ofBytes, hdecode, hparse, hbuild]

/-- A file that is read but not valid gives the defaults and one line of the log, or the error if it is not
    among those that are recovered from. -/
theorem loadFile_of_error {o : Table} {e : Error} (h : Holds disk path o) (hbuild : build o = .error e) :
    loadFile disk path =
      if e.recovered then .ok (defaults, [refusal path e.message]) else .error (.rule e) := by
  obtain ⟨bytes, text, hread, hdecode, hparse⟩ := h
  simp only [loadFile, hread, ofBytes, hdecode, hparse, hbuild]
  cases e.recovered with
  | true => rfl
  | false => rfl

/-- A broken rule is one that the loader recovers from, or the keyboard is no table. -/
theorem recovered_of_ne {o : Table} (ho : o.keys.Nodup) {e : Error} (hbuild : build o = .error e)
    (hkeyboard : ∀ v, e ≠ .keyboardNotATable v) : e.recovered = true := by
  cases hrecovered : e.recovered with
  | true => rfl
  | false =>
    obtain ⟨v, -, -, -, he⟩ := (build_fails_iff ho e).mp ⟨hbuild, hrecovered⟩
    exact absurd he (hkeyboard v)

/-- A useless file gives the defaults and one line of the log, whether it cannot be read, is no document or
    breaks a rule. -/
theorem loadFile_of_useless {message : String} (h : Useless disk path message) :
    loadFile disk path = .ok (defaults, [refusal path message]) := by
  cases h with
  | unreadable read => simp only [loadFile, read]
  | undecodable read decode => simp only [loadFile, read, ofBytes, decode]
  | malformed read decode parse => simp only [loadFile, read, ofBytes, decode, parse]
  | invalid holds broken keyboard =>
    rw [loadFile_of_error holds broken, recovered_of_ne holds.nodup broken keyboard]
    rfl

/-- The file is useless, its values are nested too deep, or it holds overrides. -/
theorem useless_or_holds (disk : Disk) (path : String) :
    (∃ message, Useless disk path message) ∨ TooDeep disk path ∨ ∃ o, Holds disk path o := by
  cases hread : disk.read path with
  | error e => exact Or.inl ⟨_, .unreadable hread⟩
  | ok bytes =>
    cases hdecode : Text.decodeUtf8 bytes with
    | error e => exact Or.inl ⟨_, .undecodable hread hdecode⟩
    | ok text =>
      cases hparse : Toml.parse text with
      | error e =>
        cases e with
        | mistake message => exact Or.inl ⟨_, .malformed hread hdecode hparse⟩
        | tooDeep => exact Or.inr (Or.inl ⟨bytes, text, hread, hdecode, hparse⟩)
      | ok o => exact Or.inr (Or.inr ⟨o, bytes, text, hread, hdecode, hparse⟩)

/-- Loading a file fails for two reasons only: its values are nested too deep, or its keyboard is no table. -/
theorem loadFile_fails_iff (e : LoadError) :
    loadFile disk path = .error e ↔
      (TooDeep disk path ∧ e = .tooDeep) ∨
        ∃ o v, Holds disk path o ∧ o.get? "keyboard" = some v ∧ v.table? = none ∧
          (∃ t, build (o.without "keyboard") = .ok t) ∧ e = .rule (.keyboardNotATable v) := by
  constructor
  · intro h
    -- three kinds of files: only those that hold a table can break a rule that is not recovered from
    rcases useless_or_holds disk path with ⟨message, hmessage⟩ | hdeep | ⟨o, ho⟩
    · rw [loadFile_of_useless hmessage] at h
      cases h
    · rw [loadFile_of_tooDeep hdeep] at h
      exact Or.inl ⟨hdeep, (Except.error.inj h).symm⟩
    · cases hbuild : build o with
      | ok t =>
        rw [loadFile_of_ok ho hbuild] at h
        cases h
      | error broken =>
        rw [loadFile_of_error ho hbuild] at h
        cases hrecovered : broken.recovered with
        | true =>
          rw [hrecovered] at h
          cases h
        | false =>
          rw [hrecovered] at h
          obtain ⟨v, hv, htable, hrest, rfl⟩ := (build_fails_iff ho.nodup broken).mp ⟨hbuild, hrecovered⟩
          exact Or.inr ⟨o, v, ho, hv, htable, hrest, (Except.error.inj h).symm⟩
  · rintro (⟨hdeep, rfl⟩ | ⟨o, v, ho, hv, htable, hrest, rfl⟩)
    · exact loadFile_of_tooDeep hdeep
    · obtain ⟨hbuild, hrecovered⟩ := (build_fails_iff ho.nodup _).mpr ⟨v, hv, htable, hrest, rfl⟩
      rw [loadFile_of_error ho hbuild, hrecovered]
      rfl

end

/-- To load is to ask whether the file is there, and to read it if it is. -/
theorem load_eq (disk : Disk) (path : Option String) : load disk path =
    match disk.isThere (pathOf disk path) with
    | .error e => .error (.file e)
    | .ok false => .ok (defaults, [])
    | .ok true => loadFile disk (pathOf disk path) := by
  cases path with
  | none => rfl
  | some p => rfl

theorem load_of_isThere {disk : Disk} {path : Option String}
    (h : disk.isThere (pathOf disk path) = .ok true) : load disk path = loadFile disk (pathOf disk path) := by
  rw [load_eq, h]

/-- A file that is there is used or refused, unless its values are nested too deep or the keyboard in it is
    no table. -/
theorem load_used_refused_or_failed {disk : Disk} {path : Option String}
    (h : disk.isThere (pathOf disk path) = .ok true) : Loading disk path := by
  have hload := load_of_isThere h
  refine ⟨?_, ?_, ?_, ?_⟩
  · intro o t ho hbuild
    rw [hload]
    exact loadFile_of_ok ho hbuild
  · intro message hmessage
    rw [hload]
    exact loadFile_of_useless hmessage
  · intro e
    rw [hload]
    exact loadFile_fails_iff e
  · rw [hload]
    -- the kinds of files are those of the clauses, but that a broken rule is refused or fails
    rcases useless_or_holds disk (pathOf disk path) with hmessage | hdeep | ⟨o, ho⟩
    · exact Or.inr (Or.inl hmessage)
    · exact Or.inr (Or.inr ⟨_, loadFile_of_tooDeep hdeep⟩)
    · cases hbuild : build o with
      | ok t => exact Or.inl ⟨o, t, ho, hbuild⟩
      | error e =>
        cases hrecovered : e.recovered with
        | true =>
          refine Or.inr (Or.inl ⟨_, .invalid ho hbuild ?_⟩)
          rintro v rfl
          cases hrecovered
        | false => exact Or.inr (Or.inr ⟨_, by rw [loadFile_of_error ho hbuild, hrecovered]; rfl⟩)

/-! ## A text in the place of the keyboard

The one mistake that is not recovered from, in a file of one line. -/

/-- The file `keyboard = "abc"`. -/
def keyboardLine : List Char :=
  ['k', 'e', 'y', 'b', 'o', 'a', 'r', 'd', ' ', '=', ' ', '"', 'a', 'b', 'c', '"', '\n']

/-- A disk with this file and no other. -/
def keyboardDisk : Disk :=
  .ofList "/" [("c.toml", .ok (keyboardLine.map fun c => UInt8.ofNat c.toNat))]

theorem keyValue_keyboardLine :
    Toml.keyValue Toml.maxRoom 38 keyboardLine = .ok ((["keyboard"], .text "abc"), ['\n']) := by
  rw [Toml.keyValue]
  have hvalue : Toml.value Toml.maxRoom 37 ['"', 'a', 'b', 'c', '"', '\n'] = .ok (.text "abc", ['\n']) := by
    rw [Toml.value]
    · rfl
    · intro rest h
      cases h
    · intro rest h
      cases h
  show (Toml.value Toml.maxRoom 37 ['"', 'a', 'b', 'c', '"', '\n'] >>= _) = _
  rw [hvalue]
  rfl

theorem parse_keyboardLine : Toml.parse keyboardLine = .ok [("keyboard", .text "abc")] := by
  have hstatement : Toml.statement {} keyboardLine =
      .ok ({ root := [("keyboard", .text "abc")] }, ['\n']) := by
    show (Toml.keyValue Toml.maxRoom 38 keyboardLine >>= _) = _
    rw [keyValue_keyboardLine]
    rfl
  have hstatements : Toml.statements (keyboardLine.length + 1) {} keyboardLine =
      .ok { root := [("keyboard", .text "abc")] } := by
    show (Toml.statement {} keyboardLine >>= _) = _
    rw [hstatement]
    rfl
  have hends : Toml.unifyLineEnds keyboardLine = keyboardLine := rfl
  simp only [Toml.parse, hends, hstatements]

/-- For the file `keyboard = "abc"` the loader answers with neither the file nor the defaults, but fails. -/
theorem load_keyboard_text :
    load keyboardDisk (some "c.toml") = .error (.rule (.keyboardNotATable (.text "abc"))) := by
  have hthere : keyboardDisk.isThere (pathOf keyboardDisk (some "c.toml")) = .ok true := rfl
  have hholds : Holds keyboardDisk (pathOf keyboardDisk (some "c.toml")) [("keyboard", .text "abc")] :=
    ⟨_, _, rfl, rfl, parse_keyboardLine⟩
  refine ((load_used_refused_or_failed hthere).fails _).mpr (Or.inr ⟨_, _, hholds, rfl, rfl, ?_, rfl⟩)
  show ∃ t, validate (merge defaults []) = .ok t
  rw [merge_nil]
  exact ⟨_, validate_defaults⟩

end Config

end Chip8
