import Chip8.Machine.Control
import Chip8.Proofs.Act
import Chip8.Proofs.Lookup
/-!
What a host does to the keys.

Keys are given values one at a time or several at once, in a map from numbers or in a sequence, and the
numbers may name no key. An update of several keys must be made as a whole or not at all.

1. **Updates** — `Keypad.update_cons` reads an update from the front: each number must name a key, and then
   the rest is an update of the pad with that key set. So by induction over the changes a number that names no
   key refuses the whole update, wherever it stands (`update_of_wrong`), and without one each key takes the
   last value that is given for it (`update_of_named`).

2. **Actions** — `KeyAction` is all that may be done to a pad, and `KeyAction.tells` what an action says of
   one key. After any actions, refused ones among them, each key is as the last action tells that tells
   anything of it (`isDown_afterAll`), by induction from a single action (`isDown_after`).

3. **Lookup** — the key that a machine takes is the least one that is down (`first?_eq_some_iff`), whatever
   was done to the pad before.
-/

namespace Chip8

/-! ## The keys of a pad

A pad is known by which of its sixteen keys are down. -/

namespace Keypad

variable {pad : Keypad} {key : Fin 16}

theorem isDown_val (pad : Keypad) (k : Fin 16) :
    pad.isDown k.val = .ok (getElem pad.keys k.val (lt_sixteen k)) := by
  have hk := k.isLt
  rw [isDown, Keypad.key, dif_pos (by omega)]
  rfl

/-- The key that is looked up is the least one that is down. -/
theorem first?_eq_some_iff : pad.first? = some key ↔
    pad.isDown key.val = .ok true ∧ ∀ k < key, pad.isDown k.val = .ok false := by
  -- the search is by place in the list of keys, and each key stands at the place of its number
  rw [first?, List.find?_eq_some_iff_getElem, isDown_val]
  constructor
  · rintro ⟨hdown, i, hi, hkey, hbefore⟩
    rw [List.getElem_finRange] at hkey
    refine ⟨congrArg _ hdown, fun k hk => ?_⟩
    have hki : k.val < i := by
      rw [← hkey] at hk
      exact hk
    have hup := hbefore k.val hki
    rw [List.getElem_finRange] at hup
    rw [isDown_val]
    exact congrArg _ (Bool.not_eq_true' _ ▸ hup)
  · rintro ⟨hdown, hbefore⟩
    refine ⟨Except.ok.inj hdown, key.val, by simp, by simp, fun j hj => ?_⟩
    have hup := hbefore ⟨j, by omega⟩ hj
    rw [isDown_val] at hup
    rw [List.getElem_finRange]
    exact Bool.not_eq_true' _ ▸ Except.ok.inj hup

/-- No key is found exactly if all keys are up. -/
theorem first?_eq_none_iff : pad.first? = none ↔ ∀ k : Fin 16, pad.isDown k.val = .ok false := by
  rw [first?, List.find?_eq_none]
  constructor
  · intro h k
    rw [isDown_val]
    exact congrArg _ (Bool.eq_false_iff.mpr (h k (List.mem_finRange k)))
  · intro h k _
    have hup := h k
    rw [isDown_val] at hup
    exact Bool.eq_false_iff.mp (Except.ok.inj hup)

/-- Does the number name a key? -/
def Names (k : Int) : Prop := 0 ≤ k ∧ k ≤ 15

instance (k : Int) : Decidable (Names k) := inferInstanceAs (Decidable (0 ≤ k ∧ k ≤ 15))

theorem key_val (k : Fin 16) : Keypad.key k.val = .ok k := by
  have hk := k.isLt
  rw [Keypad.key, dif_pos (by omega)]
  rfl

theorem exists_of_names {k : Int} (h : Names k) : ∃ i : Fin 16, k = i.val :=
  ⟨⟨k.toNat, by unfold Names at h; omega⟩, by unfold Names at h; dsimp only; omega⟩

/-- Up to sixteen values in order are values for keys. -/
theorem names_zipIdx {α : Type} {values : List α} (h : values.length ≤ 16) :
    ∀ e ∈ values.zipIdx.map fun (v, k) => ((k : Int), v), Names e.1 := by
  intro e he
  obtain ⟨⟨v, k⟩, hk, rfl⟩ := List.mem_map.mp he
  have hlt := List.snd_lt_of_mem_zipIdx hk
  unfold Names
  dsimp only at hlt ⊢
  omega

theorem key_of_wrong {k : Int} (h : ¬Names k) : Keypad.key k = .error (.keyOutOfRange k) := by
  unfold Names at h
  rw [Keypad.key, dif_neg (by omega)]

theorem get_set (keys : Vector Bool 16) (k j : Fin 16) (down : Bool) :
    (keys.set k.val down k.isLt).get j = if k = j then down else keys.get j := by
  split
  · next h =>
    subst h
    exact Vector.getElem_set_self _
  · next h => exact Vector.getElem_set_ne k.isLt j.isLt fun hval => h (Fin.ext hval)

theorem isDown_put (pad : Keypad) (k j : Fin 16) (down : Bool) :
    (pad.put k down).isDown j.val = if k = j then .ok down else pad.isDown j.val := by
  rw [isDown_val, isDown_val]
  exact (congrArg Except.ok (get_set pad.keys k j down)).trans (apply_ite Except.ok _ _ _)

/-- Pads with the same keys down are the same. -/
theorem ext_isDown {pad pad' : Keypad} (h : ∀ k : Fin 16, pad.isDown k.val = pad'.isDown k.val) :
    pad = pad' := by
  obtain ⟨keys⟩ := pad
  obtain ⟨keys'⟩ := pad'
  refine congrArg Keypad.mk (Vector.ext fun i hi => ?_)
  have hkey := h ⟨i, hi⟩
  rw [isDown_val, isDown_val] at hkey
  exact Except.ok.inj hkey

theorem isDown_released (k : Fin 16) : released.isDown k.val = .ok false := by
  rw [isDown_val]
  exact congrArg _ (Vector.getElem_replicate _)

/-! ## Updates

Changes are made in order, so the first wrong number decides about the whole of an update and the last
change of a key about that key. -/

variable {changes : List (Int × Bool)}

/-- An update, one change after another. The program first checks all numbers and then changes the keys; that
    it comes to the same is what makes induction over the changes possible. -/
theorem update_cons (pad : Keypad) (k : Int) (down : Bool) (rest : List (Int × Bool)) :
    pad.update ((k, down) :: rest) =
      match Keypad.key k with
      | .ok i => (pad.put i down).update rest
      | .error e => .error e := by
  rw [update, resolve]
  cases Keypad.key k with
  | error e => rfl
  | ok i =>
    dsimp only
    rw [update]
    cases resolve rest <;> rfl

/-- The first number that names no key refuses an update, whatever stands before and behind it. -/
theorem update_of_wrong {before : List (Int × Bool)} (hbefore : ∀ e ∈ before, Names e.1) {k : Int}
    (hk : ¬Names k) (down : Bool) (after : List (Int × Bool)) (pad : Keypad) :
    pad.update (before ++ (k, down) :: after) = .error (.keyOutOfRange k) := by
  induction before generalizing pad with
  | nil => rw [List.nil_append, update_cons, key_of_wrong hk]
  | cons e before ih =>
    obtain ⟨i, hi⟩ := exists_of_names (hbefore e List.mem_cons_self)
    obtain ⟨k', down'⟩ := e
    obtain rfl : k' = i.val := hi
    rw [List.cons_append, update_cons, key_val]
    exact ih (fun e he => hbefore e (List.mem_cons_of_mem _ he)) _

/-- An update that names keys only is made, and the last change for each key counts. -/
theorem update_of_named (h : ∀ e ∈ changes, Names e.1) (pad : Keypad) :
    ∃ next, pad.update changes = .ok next ∧ ∀ k : Fin 16, next.isDown k.val =
      match changes.reverse.lookup (k.val : Int) with
      | some down => .ok down
      | none => pad.isDown k.val := by
  induction changes generalizing pad with
  | nil => exact ⟨pad, rfl, fun _ => rfl⟩
  | cons e rest ih =>
    obtain ⟨i, hi⟩ := exists_of_names (h e List.mem_cons_self)
    obtain ⟨k', down⟩ := e
    obtain rfl : k' = i.val := hi
    obtain ⟨next, hnext, hkeys⟩ := ih (fun e he => h e (List.mem_cons_of_mem _ he)) (pad.put i down)
    refine ⟨next, ?_, fun k => ?_⟩
    · rw [update_cons, key_val]
      exact hnext
    · rw [hkeys k, List.reverse_cons, List.lookup_append, List.lookup_cons, List.lookup_nil]
      cases rest.reverse.lookup (k.val : Int) with
      | some later => rfl
      | none =>
        -- nothing later is said of the key, so this change counts if it is for the key
        dsimp only [Option.none_or]
        rw [isDown_put]
        by_cases hk : i = k
        · subst hk
          rw [if_pos rfl, beq_self_eq_true]
        · have hne : ((k.val : Int) == i.val) = false := beq_eq_false_iff_ne.mpr fun heq => hk (by omega)
          rw [if_neg hk, hne]

/-- An update that does not name keys only has a first number that names none. -/
theorem exists_first_wrong {α : Type} {entries : List (Int × α)} (h : ¬∀ e ∈ entries, Names e.1) :
    ∃ before k v after, entries = before ++ (k, v) :: after ∧ (∀ e ∈ before, Names e.1) ∧ ¬Names k := by
  induction entries with
  | nil => exact absurd (List.forall_mem_nil _) h
  | cons e rest ih =>
    by_cases he : Names e.1
    · have hrest : ¬∀ e ∈ rest, Names e.1 := fun hrest => h (List.forall_mem_cons.mpr ⟨he, hrest⟩)
      obtain ⟨before, k, v, after, rfl, hbefore, hk⟩ := ih hrest
      exact ⟨e :: before, k, v, after, rfl, List.forall_mem_cons.mpr ⟨he, hbefore⟩, hk⟩
    · exact ⟨[], e.1, e.2, rest, rfl, List.forall_mem_nil _, he⟩

end Keypad

/-! ## Given values

What can be given for an update: a map from numbers to values, or values in order. In both forms each value
has a number. -/

namespace KeyStates

/-- The keys that are given values, each with its value, in order. -/
def entries : KeyStates → List (Int × Value)
  | byKey entries => entries
  | inOrder values => values.zipIdx.map fun (v, k) => ((k : Int), v)

/-- The value that is given for a key last. -/
def last? (given : KeyStates) (k : Fin 16) : Option Value := given.entries.reverse.lookup (k.val : Int)

theorem changes_eq (given : KeyStates) :
    given.changes = given.entries.map fun e => (e.1, e.2.truthy) := by
  cases given with
  | byKey entries => rfl
  | inOrder values =>
    rw [changes, entries, Keypad.numbered, List.zipIdx_map, List.map_map, List.map_map]
    rfl

theorem lookup_changes (given : KeyStates) (k : Fin 16) :
    given.changes.reverse.lookup (k.val : Int) = (given.last? k).map Value.truthy := by
  rw [changes_eq, ← List.map_reverse, lookup_map_snd, last?]

end KeyStates

/-! ## Actions

What is done with a pad, and what it shows of each key after any actions: what the last action that was made
tells of the key. -/

/-- What a host may do with a pad. -/
inductive KeyAction where
  /-- Change several keys. -/
  | update (given : KeyStates)
  | set (key : Int) (value : Value)
  | press (key : Int)
  | release (key : Int)
  /-- Let all keys go up. -/
  | reset

namespace KeyAction

/-- The pad that an action makes of a pad, if it does not refuse to. -/
def made : KeyAction → Keypad → Except Misuse Keypad
  | update given, pad => pad.update given.changes
  | set key value, pad => pad.set key value.truthy
  | press key, pad => pad.set key true
  | release key, pad => pad.set key false
  | reset, _ => .ok .released

/-- An action on the keys of a pad. -/
def act (a : KeyAction) : Act Keypad Unit := do
  let next ← Act.ofExcept .misuse (a.made (← get))
  modify fun _ => next

/-- The pad that an action leaves, whether it is done or refused. -/
def after (a : KeyAction) (pad : Keypad) : Keypad := (a.act.exec pad).2

/-- The pad that actions leave, one after another. -/
def afterAll (actions : List KeyAction) (pad : Keypad) : Keypad :=
  actions.foldl (fun pad a => a.after pad) pad

/-- What an action tells of a key: nothing if it is refused or is not about the key, else whether the key is
    down. -/
def tells (k : Fin 16) : KeyAction → Option Bool
  | update given =>
    if ∀ e ∈ given.entries, Keypad.Names e.1 then (given.last? k).map Value.truthy else none
  | set key value => if key = k.val then some value.truthy else none
  | press key => if key = k.val then some true else none
  | release key => if key = k.val then some false else none
  | reset => some false

theorem exec_act (a : KeyAction) (pad : Keypad) : a.act.exec pad =
    match a.made pad with
    | .ok next => (.ok (), next)
    | .error e => (.error (.misuse e), pad) := by
  rw [act, Act.exec_get_bind]
  cases a.made pad <;> rfl

end KeyAction

namespace KeyStates

variable {given : KeyStates} {pad : Keypad}

/-- What must come of an update: all of it or nothing. The conditions are written with plain bounds and not
    with `Names`, so that the two cases can be seen to be all there are. -/
structure Whole (given : KeyStates) (pad : Keypad) (out : Except Failure Unit × Keypad) : Prop where
  /-- If there is a number that names no key, the first such number is reported, and the keys are as before. -/
  refused : (∃ e ∈ given.entries, e.1 < 0 ∨ 15 < e.1) → ∃ before k v after,
    given.entries = before ++ (k, v) :: after ∧ (∀ e ∈ before, 0 ≤ e.1 ∧ e.1 ≤ 15) ∧ (k < 0 ∨ 15 < k) ∧
      out = (.error (.misuse (.keyOutOfRange k)), pad)
  /-- If not, each key is as the last value for it tells, and the others are as before. -/
  made : (∀ e ∈ given.entries, 0 ≤ e.1 ∧ e.1 ≤ 15) → out.1 = .ok () ∧ ∀ k : Fin 16,
    out.2.isDown k.val =
      match given.last? k with
      | some v => .ok v.truthy
      | none => pad.isDown k.val

/-- Values whose numbers all name keys are taken over, and the last one for a key counts. -/
theorem update_of_named (h : ∀ e ∈ given.entries, Keypad.Names e.1) (pad : Keypad) :
    ∃ next, pad.update given.changes = .ok next ∧ ∀ k : Fin 16, next.isDown k.val =
      match given.last? k with
      | some v => .ok v.truthy
      | none => pad.isDown k.val := by
  have hchanges : ∀ e ∈ given.changes, Keypad.Names e.1 := by
    rw [changes_eq]
    intro e he
    obtain ⟨e', he', rfl⟩ := List.mem_map.mp he
    exact h e' he'
  obtain ⟨next, hnext, hkeys⟩ := Keypad.update_of_named hchanges pad
  refine ⟨next, hnext, fun k => ?_⟩
  rw [hkeys k, lookup_changes]
  cases given.last? k <;> rfl

/-- The first number that names no key is what an update is refused for. -/
theorem update_of_wrong {before after : List (Int × Value)} {k : Int} {v : Value}
    (hgiven : given.entries = before ++ (k, v) :: after) (hbefore : ∀ e ∈ before, Keypad.Names e.1)
    (hk : ¬Keypad.Names k) (pad : Keypad) : pad.update given.changes = .error (.keyOutOfRange k) := by
  rw [changes_eq, hgiven, List.map_append, List.map_cons]
  refine Keypad.update_of_wrong ?_ hk _ _ pad
  intro e he
  obtain ⟨e', he', rfl⟩ := List.mem_map.mp he
  exact hbefore e' he'

/-- An update is made as a whole or not at all. -/
theorem whole_update (given : KeyStates) (pad : Keypad) :
    given.Whole pad ((KeyAction.update given).act.exec pad) := by
  rw [KeyAction.exec_act, KeyAction.made]
  constructor
  · rintro ⟨e, he, hwrong⟩
    -- the first wrong entry is what is answered, though any wrong one keeps the keys from changing
    have hnot : ¬∀ e ∈ given.entries, Keypad.Names e.1 := by
      intro hall
      have hnames := hall e he
      unfold Keypad.Names at hnames
      omega
    obtain ⟨before, k, v, after, hgiven, hbefore, hk⟩ := Keypad.exists_first_wrong hnot
    refine ⟨before, k, v, after, hgiven, hbefore, ?_, ?_⟩
    · unfold Keypad.Names at hk
      omega
    · rw [update_of_wrong hgiven hbefore hk]
  · intro hall
    obtain ⟨next, hnext, hkeys⟩ := update_of_named hall pad
    rw [hnext]
    exact ⟨rfl, hkeys⟩

/-- The seventeenth of values in order has no key, so more than sixteen are refused. -/
theorem update_of_long {values : List Value} (h : 16 < values.length) (pad : Keypad) :
    pad.update (inOrder values).changes = .error (.keyOutOfRange 16) := by
  have hfront : (values.take 16).length = 16 := by
    rw [List.length_take]
    omega
  have hentries : (inOrder values).entries =
      ((values.take 16).zipIdx.map fun (v, k) => ((k : Int), v)) ++ ((16 : Int), values[16]) ::
        (((values.drop 17).zipIdx 17).map fun (v, k) => ((k : Int), v)) := by
    have hvalues : values = values.take 16 ++ values[16] :: values.drop 17 := by
      rw [← List.drop_eq_getElem_cons h, List.take_append_drop]
    rw [entries]
    conv_lhs => rw [hvalues]
    rw [List.zipIdx_append, List.map_append, hfront]
    rfl
  exact update_of_wrong hentries (Keypad.names_zipIdx (Nat.le_of_eq hfront)) (by decide) pad

end KeyStates

namespace KeyAction

theorem after_eq (a : KeyAction) (pad : Keypad) : a.after pad =
    match a.made pad with
    | .ok next => next
    | .error _ => pad := by
  rw [after, exec_act]
  cases a.made pad <;> rfl

/-- Setting a single key leaves it as it was set and the others as before; where there is no such key all are
    as before. This is one statement for the set, press and release of a key. -/
theorem isDown_set (key : Int) (down : Bool) (pad : Keypad) (k : Fin 16) :
    (match pad.set key down with
      | .ok next => next
      | .error _ => pad).isDown k.val =
      match if key = k.val then some down else none with
      | some down => .ok down
      | none => pad.isDown k.val := by
  -- a number that names no key changes nothing, and is the number of none of the sixteen
  by_cases hkey : Keypad.Names key
  · obtain ⟨i, rfl⟩ := Keypad.exists_of_names hkey
    have hset : pad.set i.val down = .ok (pad.put i down) := by
      rw [Keypad.set, Keypad.key_val]
      rfl
    rw [hset]
    dsimp only
    rw [Keypad.isDown_put]
    by_cases hk : i = k
    · rw [if_pos hk, if_pos (by rw [hk])]
    · rw [if_neg hk, if_neg fun heq => hk (by omega)]
  · have hset : pad.set key down = .error (.keyOutOfRange key) := by
      rw [Keypad.set, Keypad.key_of_wrong hkey]
      rfl
    have hne : key ≠ k.val := by
      unfold Keypad.Names at hkey
      omega
    rw [hset, if_neg hne]

/-- After an action each key is as the action tells, or as before where the action tells nothing of it. -/
theorem isDown_after (a : KeyAction) (pad : Keypad) (k : Fin 16) : (a.after pad).isDown k.val =
    match a.tells k with
    | some down => .ok down
    | none => pad.isDown k.val := by
  rw [after_eq]
  cases a with
  | update given =>
    rw [made, tells]
    -- an update tells of its keys only if all its entries name keys
    by_cases h : ∀ e ∈ given.entries, Keypad.Names e.1
    · obtain ⟨next, hnext, hkeys⟩ := KeyStates.update_of_named h pad
      rw [hnext, if_pos h]
      dsimp only
      rw [hkeys]
      cases given.last? k <;> rfl
    · obtain ⟨before, key, v, after, hgiven, hbefore, hkey⟩ := Keypad.exists_first_wrong h
      rw [KeyStates.update_of_wrong hgiven hbefore hkey, if_neg h]
  | set key value => exact isDown_set key value.truthy pad k
  | press key => exact isDown_set key true pad k
  | release key => exact isDown_set key false pad k
  | reset => exact Keypad.isDown_released k

/-- After any actions each key is as the last one tells that tells anything of it. -/
theorem isDown_afterAll (actions : List KeyAction) (pad : Keypad) (k : Fin 16) :
    (afterAll actions pad).isDown k.val =
      match actions.reverse.findSome? (tells k) with
      | some down => .ok down
      | none => pad.isDown k.val := by
  induction actions generalizing pad with
  | nil => rfl
  | cons a rest ih =>
    show (afterAll rest (a.after pad)).isDown k.val = _
    rw [ih, List.reverse_cons, List.findSome?_append]
    cases rest.reverse.findSome? (tells k) with
    | some down => rfl
    | none =>
      rw [isDown_after, Option.none_or, List.findSome?_singleton]

end KeyAction

/-! ## Machines

A machine passes input on to its pad and changes nothing else. -/

/-- What a machine is given as input it passes on to its pad, and nothing else of it changes. -/
theorem Machine.exec_inputKeys {κ τ : Type} {s : Size} (given : KeyStates) (m : Machine κ τ s) :
    (inputKeys given.changes).exec m =
      let out := (KeyAction.update given).act.exec m.board.keypad
      (out.1, { m with board := { m.board with keypad := out.2 } }) := by
  rw [inputKeys, Act.exec_get_bind, KeyAction.exec_act, KeyAction.made]
  cases m.board.keypad.update given.changes <;> rfl

/-! ## All inputs

The theorem for pads and for machines, and an update that is refused in the middle. -/

namespace KeyAction

/-- An update is made as a whole or not at all, by a pad and by a machine; and whatever was done to a pad, the
    key that is looked up is the least one that is down. -/
theorem update_whole_or_not_at_all {κ τ : Type} {s : Size} :
    (∀ (given : KeyStates) (pad : Keypad), given.Whole pad ((update given).act.exec pad)) ∧
    (∀ (values : List Value) (pad : Keypad), 16 < values.length →
      (update (.inOrder values)).act.exec pad = (.error (.misuse (.keyOutOfRange 16)), pad)) ∧
    (∀ (given : KeyStates) (m : Machine κ τ s), (Machine.inputKeys given.changes).exec m =
      let out := (update given).act.exec m.board.keypad
      (out.1, { m with board := { m.board with keypad := out.2 } })) ∧
    ∀ (actions : List KeyAction) (pad : Keypad),
      (∀ k : Fin 16, (afterAll actions pad).isDown k.val =
        match actions.reverse.findSome? (tells k) with
        | some down => .ok down
        | none => pad.isDown k.val) ∧
      (∀ key : Fin 16, (afterAll actions pad).first? = some key ↔
        (afterAll actions pad).isDown key.val = .ok true ∧
          ∀ k < key, (afterAll actions pad).isDown k.val = .ok false) ∧
      ((afterAll actions pad).first? = none ↔
        ∀ k : Fin 16, (afterAll actions pad).isDown k.val = .ok false) := by
  refine ⟨KeyStates.whole_update, ?_, Machine.exec_inputKeys, ?_⟩
  · -- the entry behind the sixteenth is the first wrong one, whatever the values
    intro values pad hlong
    rw [exec_act, made, KeyStates.update_of_long hlong]
  · intro actions pad
    exact ⟨isDown_afterAll actions pad, fun _ => Keypad.first?_eq_some_iff, Keypad.first?_eq_none_iff⟩

/-- Seventeen values are refused, and a key that there is not is not pressed. -/
theorem update_whole_or_not_at_all_beyond :
    (update (.inOrder (List.replicate 17 .null))).act.exec .released =
        (.error (.misuse (.keyOutOfRange 16)), .released) ∧
      (afterAll [.press 9, .press 3, .press 16, .release (-1)] .released).first? = some 3 := by
  have hwhole := @update_whole_or_not_at_all Unit Unit .standard
  refine ⟨hwhole.2.1 _ _ (by decide), ?_⟩
  exact ((hwhole.2.2.2 [.press 9, .press 3, .press 16, .release (-1)] .released).2.1 3).mpr (by decide)

end KeyAction

end Chip8
