import Chip8.Config.Settings
import Chip8.Proofs.Merging
/-!
Tables within tables, and what merging does to them at any depth.

Overrides and defaults are tables of tables, and merging goes down where both sides have a table. A statement
about one level does not say what becomes of a value three levels down, so paths are looked at.

1. **Paths** — a path is a list of keys, and `Value.at?` is the value that it leads to. `Value.Distinct` says
   that no key stands twice in any table on the way.

2. **Along a path** — as long as a path leads through tables on both sides the merged table is the merge of
   the two (`at?_merge_of_tables`), by induction along the path. Where it first leads to something else, or to
   nothing, one side has all that follows (`at?_merge_of_some`, `at?_merge_of_missing`).

3. **A second time** — that merging the same overrides again changes nothing needs an induction over the
   overrides besides (`Value.Distinct.induction`): where a table was put in the place of something else, it is
   merged into itself the second time (`merge_self`).

`merge_replaces_joins_keeps` puts these together for every table and all overrides.
-/

namespace Chip8

namespace Table

variable {t : Table} {k : String} {v : Value}

/-- Writing what is there changes nothing. -/
theorem insert_of_get? (h : t.get? k = some v) : t.insert k v = t := by
  induction t with
  | nil => cases h
  | cons e t ih =>
    obtain ⟨l, w⟩ := e
    rcases eq_or_ne k l with rfl | hkl
    · rw [get?_cons_self] at h
      obtain rfl := Option.some.inj h
      simp [insert]
    · rw [get?_cons_ne hkl] at h
      simp [insert, hkl.symm, ih h]

/-- A new key is written at the end. -/
theorem insert_of_not_mem (h : k ∉ t.keys) (v : Value) : t.insert k v = t ++ [(k, v)] := by
  induction t with
  | nil => rfl
  | cons e t ih =>
    obtain ⟨l, w⟩ := e
    have hkl : l ≠ k := by
      rintro rfl
      exact h List.mem_cons_self
    simp [insert, hkl, ih fun hk => h (List.mem_cons_of_mem _ hk)]

theorem mem_of_get? (h : t.get? k = some v) : (k, v) ∈ t := by
  induction t with
  | nil => cases h
  | cons e t ih =>
    obtain ⟨l, w⟩ := e
    rcases eq_or_ne k l with rfl | hkl
    · rw [get?_cons_self] at h
      obtain rfl := Option.some.inj h
      exact List.mem_cons_self
    · rw [get?_cons_ne hkl] at h
      exact List.mem_cons_of_mem _ (ih h)

/-- Without double keys every entry is found. -/
theorem get?_of_mem (ht : t.keys.Nodup) (h : (k, v) ∈ t) : t.get? k = some v := by
  induction t with
  | nil => cases h
  | cons e t ih =>
    obtain ⟨l, w⟩ := e
    obtain ⟨hfirst, hrest⟩ := List.nodup_cons.mp ht
    rcases List.mem_cons.mp h with heq | hmem
    · obtain ⟨rfl, rfl⟩ := Prod.mk.inj heq
      exact get?_cons_self k v t
    · have hkl : k ≠ l := by
        rintro rfl
        exact hfirst (List.mem_map.mpr ⟨(k, v), hmem, rfl⟩)
      rw [get?_cons_ne hkl, ih hrest hmem]

end Table

/-! ## Paths

A path leads to a value through tables. All that a merge does is said in terms of what paths lead to. -/

namespace Value

/-- The value that a path leads to: from a table each key leads to what stands under it, and from other
    values there is no way on. -/
def at? : List String → Value → Option Value
  | [], v => some v
  | k :: p, v => v.table?.bind fun t => (t.get? k).bind (at? p)

theorem at?_table_cons (t : Table) (k : String) (p : List String) :
    at? (k :: p) (.table t) = (t.get? k).bind (at? p) := rfl

theorem at?_append (p q : List String) (v : Value) : at? (p ++ q) v = (at? p v).bind (at? q) := by
  induction p generalizing v with
  | nil => rfl
  | cons k p ih =>
    rw [List.cons_append, at?, at?, Option.bind_assoc]
    congr 1
    funext t
    rw [Option.bind_assoc]
    congr 1
    funext w
    exact ih w

/-- Only from a table there is a way on. -/
theorem exists_table_of_at? {p : List String} {v : Value} (hp : p ≠ []) (h : (at? p v).isSome = true) :
    ∃ t : Table, v = .table t := by
  cases p with
  | nil => exact absurd rfl hp
  | cons k p =>
    cases v with
    | table t => exact ⟨t, rfl⟩
    | _ => cases h

/-- A way to a table leads through tables. -/
theorem exists_table_of_at?_eq_table {p : List String} {v : Value} {u : Table}
    (h : at? p v = some (.table u)) : ∃ t : Table, v = .table t := by
  cases p with
  | nil => exact ⟨u, Option.some.inj h⟩
  | cons k p => exact exists_table_of_at? (List.cons_ne_nil k p) (h ▸ rfl)

/-- No key stands twice in a value that is a table, nor in the tables within it, at whatever depth. The program
    keeps tables in maps, where no key can stand twice; here it is a premise about overrides. -/
def Distinct (v : Value) : Prop := ∀ p (t : Table), at? p v = some (.table t) → t.keys.Nodup

namespace Distinct

variable {t : Table} {k : String} {v : Value}

theorem keys (h : Distinct (.table t)) : t.keys.Nodup := h [] t rfl

theorem get? (h : Distinct (.table t)) (hv : t.get? k = some v) : v.Distinct := by
  intro p u hu
  refine h (k :: p) u ?_
  rw [at?_table_cons, hv]
  exact hu

theorem of_not_table (h : v.table? = none) : v.Distinct := by
  intro p t ht
  cases p with
  | nil =>
    obtain rfl := Option.some.inj ht
    cases h
  | cons k p =>
    rw [at?, h] at ht
    cases ht

/-- A table is as it should be if its keys are distinct and its values are as they should be. -/
theorem table (hkeys : t.keys.Nodup) (hvalues : ∀ e ∈ t, e.2.Distinct) : Distinct (.table t) := by
  intro p u hu
  cases p with
  | nil =>
    obtain rfl := Value.table.inj (Option.some.inj hu)
    exact hkeys
  | cons k p =>
    rw [at?_table_cons] at hu
    obtain ⟨v, hv, hu⟩ := Option.bind_eq_some_iff.mp hu
    exact hvalues (k, v) (Table.mem_of_get? hv) p u hu

/-- What holds of a table whenever it holds of the tables in it holds of all tables: the induction that merging
    the same overrides again needs, since it goes on in the tables of the overrides. -/
theorem induction {P : Table → Prop}
    (step : ∀ t, Distinct (.table t) → (∀ k u, (k, .table u) ∈ t → P u) → P t) (t : Table)
    (ht : Distinct (.table t)) : P t := by
  refine step t ht fun k u hu => ?_
  have hsmaller : sizeOf u < sizeOf t := by
    have hentry := List.sizeOf_lt_of_mem hu
    simp only [Prod.mk.sizeOf_spec, Value.table.sizeOf_spec] at hentry
    omega
  exact induction step u (ht.get? (Table.get?_of_mem ht.keys hu))
termination_by sizeOf t

end Distinct

end Value

namespace Config

open Value (at? Distinct)

variable {t o : Table} {p : List String} {k : String} {v : Value}

/-! ## One level

A key of the merged table, from what the two tables have for it. -/

theorem laid_table (old new : Table) : laid (some (.table old)) (.table new) = .table (merge old new) := rfl

theorem laid_of_not_both {old : Option Value} {new : Value}
    (h : ¬ ∃ u x, old = some (.table u) ∧ new = .table x) : laid old new = new := by
  unfold laid
  split
  · next u x => exact absurd ⟨u, x, rfl, rfl⟩ h
  · rfl

/-- The keys that are there come first, and then those that are new. -/
theorem keys_merge (ho : o.keys.Nodup) (t : Table) :
    (merge t o).keys = t.keys ++ o.keys.filter (· ∉ t.keys) := by
  induction o generalizing t with
  | nil =>
    rw [merge_nil]
    exact (List.append_nil _).symm
  | cons e o ih =>
    obtain ⟨k, v⟩ := e
    obtain ⟨hfirst, hrest⟩ := List.nodup_cons.mp ho
    have hkeys : Table.keys ((k, v) :: o) = k :: Table.keys o := rfl
    rw [merge_cons, ih hrest, Table.keys_insert, hkeys]
    split
    · next hk => rw [List.filter_cons_of_neg (by simpa using hk)]
    · next hk =>
      -- the key is new, and does not come again
      have hsame : (Table.keys o).filter (· ∉ t.keys ++ [k]) = (Table.keys o).filter (· ∉ t.keys) := by
        refine List.filter_congr fun l hl => ?_
        have hlk : l ≠ k := by
          rintro rfl
          exact hfirst hl
        simp [hlk]
      rw [hsame, List.filter_cons_of_pos (by simpa using hk), List.append_assoc]
      rfl

/-- No key of the target loses its place. -/
theorem keys_prefix_merge (t o : Table) : t.keys <+: (merge t o).keys := by
  induction o generalizing t with
  | nil =>
    exact ⟨[], by rw [merge_nil, List.append_nil]⟩
  | cons e o ih =>
    rw [merge_cons]
    refine List.IsPrefix.trans ?_ (ih _)
    rw [Table.keys_insert]
    split
    · exact List.prefix_rfl
    · exact List.prefix_append _ _

/-! ## Along a path

The same for paths, by induction along the path: it leads to an override if there is one, and where tables
meet it goes on in the merge of both. -/

theorem at?_merge_cons_of_none (h : o.get? k = none) (p : List String) :
    at? (k :: p) (.table (merge t o)) = at? (k :: p) (.table t) := by
  rw [Value.at?_table_cons, Value.at?_table_cons, get?_merge_of_none h]

theorem at?_merge_cons_of_some (ho : o.keys.Nodup) (h : o.get? k = some v) (p : List String) :
    at? (k :: p) (.table (merge t o)) = at? p (laid (t.get? k) v) := by
  rw [Value.at?_table_cons, get?_merge_of_some ho h, Option.bind_some]

/-- Where both sides have a table the merged one is the merge of the two. -/
theorem at?_merge_of_tables (ho : Distinct (.table o)) {old new : Table}
    (ht : at? p (.table t) = some (.table old)) (hp : at? p (.table o) = some (.table new)) :
    at? p (.table (merge t o)) = some (.table (merge old new)) := by
  induction p generalizing t o with
  | nil =>
    obtain rfl := Value.table.inj (Option.some.inj ht)
    obtain rfl := Value.table.inj (Option.some.inj hp)
    rfl
  | cons k p ih =>
    rw [Value.at?_table_cons] at ht hp
    obtain ⟨v, hv, ht⟩ := Option.bind_eq_some_iff.mp ht
    obtain ⟨w, hw, hp⟩ := Option.bind_eq_some_iff.mp hp
    -- there are tables along the whole path on both sides, so merging goes down it
    obtain ⟨u, rfl⟩ := Value.exists_table_of_at?_eq_table ht
    obtain ⟨x, rfl⟩ := Value.exists_table_of_at?_eq_table hp
    rw [at?_merge_cons_of_some ho.keys hw, hv]
    exact ih (ho.get? hw) ht hp

/-- All that the overrides have is in the merged table, unless it is a table that meets another. -/
theorem at?_merge_of_some (ho : Distinct (.table o)) (hp : at? p (.table o) = some v)
    (hnot : v.table? = none ∨ ∀ old, at? p (.table t) ≠ some (.table old)) :
    at? p (.table (merge t o)) = some v := by
  induction p generalizing t o with
  | nil =>
    obtain rfl := Option.some.inj hp
    rcases hnot with hnot | hnot
    · cases hnot
    · exact absurd rfl (hnot t)
  | cons k p ih =>
    rw [Value.at?_table_cons] at hp
    obtain ⟨w, hw, hp⟩ := Option.bind_eq_some_iff.mp hp
    rw [at?_merge_cons_of_some ho.keys hw]
    -- where two tables meet the merge goes on below; elsewhere the override is laid over whole
    by_cases hboth : ∃ old new, t.get? k = some (.table old) ∧ w = .table new
    · obtain ⟨old, new, hold, rfl⟩ := hboth
      rw [hold, laid_table]
      refine ih (ho.get? hw) hp (hnot.imp_right fun hnot u hu => hnot u ?_)
      rw [Value.at?_table_cons, hold]
      exact hu
    · rw [laid_of_not_both hboth]
      exact hp

/-- What the overrides say nothing about stays as it is. -/
theorem at?_merge_of_missing (ho : Distinct (.table o)) {old new : Table}
    (ht : at? p (.table t) = some (.table old)) (hp : at? p (.table o) = some (.table new))
    (hk : k ∉ new.keys) (rest : List String) :
    at? (p ++ k :: rest) (.table (merge t o)) = at? (p ++ k :: rest) (.table t) := by
  rw [Value.at?_append, Value.at?_append, at?_merge_of_tables ho ht hp, ht, Option.bind_some,
    Option.bind_some]
  exact at?_merge_cons_of_none (Table.get?_eq_none_iff.mpr hk) rest

/-- A path that leads nowhere any more leads through a table that something else replaced. -/
theorem exists_of_at?_merge_eq_none (ho : Distinct (.table o)) (ht : (at? p (.table t)).isSome = true)
    (hp : at? p (.table (merge t o)) = none) :
    ∃ q v, q <+: p ∧ q ≠ p ∧ at? q (.table o) = some v ∧ v.table? = none := by
  induction p generalizing t o with
  | nil => cases hp
  | cons k p ih =>
    cases hv : o.get? k with
    | none =>
      rw [at?_merge_cons_of_none hv] at hp
      rw [hp] at ht
      cases ht
    | some v =>
      rw [at?_merge_cons_of_some ho.keys hv] at hp
      rw [Value.at?_table_cons] at ht
      by_cases hboth : ∃ old new, t.get? k = some (.table old) ∧ v = .table new
      · obtain ⟨old, new, hold, rfl⟩ := hboth
        rw [hold, laid_table] at hp
        rw [hold] at ht
        obtain ⟨q, v, hq, hne, hleads, hnot⟩ := ih (ho.get? hv) ht hp
        refine ⟨k :: q, v, List.cons_prefix_cons.mpr ⟨rfl, hq⟩, fun heq => hne (List.cons.inj heq).2, ?_, hnot⟩
        rw [Value.at?_table_cons, hv]
        exact hleads
      · -- the value of the overrides is there, and the way does not end at it
        rw [laid_of_not_both hboth] at hp
        have hlong : p ≠ [] := by
          rintro rfl
          cases hp
        have hleads : at? [k] (.table o) = some v := by
          rw [Value.at?_table_cons, hv]
          rfl
        refine ⟨[k], v, ⟨p, rfl⟩, fun heq => hlong (List.cons.inj heq).2.symm, hleads, ?_⟩
        obtain ⟨w, hw⟩ := Option.isSome_iff_exists.mp ht
        obtain ⟨u, hu, hw⟩ := Option.bind_eq_some_iff.mp hw
        obtain ⟨old, rfl⟩ := Value.exists_table_of_at? hlong (Option.isSome_of_eq_some hw)
        cases v with
        | table new => exact absurd ⟨old, new, hu, rfl⟩ hboth
        | _ => rfl

/-! ## A second time

A merge with the same overrides again changes nothing. The induction is on the nesting of the values. -/

/-- Overrides that come to what is there change nothing. -/
theorem merge_eq_self (h : ∀ k v, (k, v) ∈ o → ∃ w, t.get? k = some w ∧ laid (some w) v = w) :
    merge t o = t := by
  induction o with
  | nil => exact merge_nil t
  | cons e o ih =>
    obtain ⟨k, v⟩ := e
    obtain ⟨w, hw, hlaid⟩ := h k v List.mem_cons_self
    rw [merge_cons, hw, hlaid, Table.insert_of_get? hw]
    exact ih fun l x hx => h l x (List.mem_cons_of_mem _ hx)

/-- A table merged into itself is unchanged. -/
theorem merge_self (ho : Distinct (.table o)) : merge o o = o := by
  refine Distinct.induction (P := fun o => merge o o = o) (fun o ho ih => ?_) o ho
  refine merge_eq_self fun k v hv => ⟨v, Table.get?_of_mem ho.keys hv, ?_⟩
  cases v with
  | table u => rw [laid_table, ih k u hv]
  | _ => rfl

/-- Merging the same overrides again changes nothing. -/
theorem merge_merge (ho : Distinct (.table o)) (t : Table) : merge (merge t o) o = merge t o := by
  refine Distinct.induction (P := fun o => ∀ t, merge (merge t o) o = merge t o) (fun o ho ih t => ?_) o ho t
  refine merge_eq_self fun k v hv => ?_
  have hget := Table.get?_of_mem ho.keys hv
  refine ⟨_, get?_merge_of_some ho.keys hget t, ?_⟩
  cases v with
  | table new =>
    by_cases hold : ∃ old, t.get? k = some (.table old)
    · obtain ⟨old, hold⟩ := hold
      rw [hold, laid_table, laid_table, ih k new hv]
    · -- the table was put in the place of something else, and now meets itself
      have hput : laid (t.get? k) (.table new) = .table new :=
        laid_of_not_both fun ⟨u, _, hu, _⟩ => hold ⟨u, hu⟩
      rw [hput, laid_table, merge_self (ho.get? hget)]
  | _ => exact (laid_of_not_table rfl _).trans (laid_of_not_table rfl _).symm

/-! ## All of it

The clauses together, and overrides that bring a section of their own. -/

/-- What overrides do to a table, at the end of every path. The clauses are by what the path leads to on the two
    sides, so that every path falls under one of them. -/
structure Merging (t o : Table) : Prop where
  /-- What is no table replaces whatever is there. -/
  replaces : ∀ p v, at? p (.table o) = some v → v.table? = none → at? p (.table (merge t o)) = some v
  /-- A table replaces whatever is no table, and comes as it is where nothing is. -/
  comes : ∀ p new, at? p (.table o) = some (.table new) → (∀ old, at? p (.table t) ≠ some (.table old)) →
    at? p (.table (merge t o)) = some (.table new)
  /-- Of two tables the keys of the old one come first, in their order, and then the new keys in theirs. -/
  joins : ∀ p (old new : Table), at? p (.table t) = some (.table old) → at? p (.table o) = some (.table new) →
    ∃ both : Table, at? p (.table (merge t o)) = some (.table both) ∧
      both.keys = old.keys ++ new.keys.filter (· ∉ old.keys)
  /-- Where a key is missing from the overrides of a table, it and all below it stays. -/
  keeps : ∀ p k rest (old new : Table), at? p (.table t) = some (.table old) →
    at? p (.table o) = some (.table new) → k ∉ new.keys →
      at? (p ++ k :: rest) (.table (merge t o)) = at? (p ++ k :: rest) (.table t)
  /-- What is lost was below a table that something else replaced. -/
  loses : ∀ p, (at? p (.table t)).isSome = true → at? p (.table (merge t o)) = none →
    ∃ q v, q <+: p ∧ q ≠ p ∧ at? q (.table o) = some v ∧ v.table? = none
  /-- A second time changes nothing. -/
  again : merge (merge t o) o = merge t o

/-- Merging, for all tables whose keys are distinct. -/
theorem merge_replaces_joins_keeps (ho : Distinct (.table o)) (t : Table) : Merging t o where
  replaces _ _ hp hv := at?_merge_of_some ho hp (Or.inl hv)
  comes _ _ hp hnot := at?_merge_of_some ho hp (Or.inr hnot)
  joins p old new ht hp := by
    have hnew : new.keys.Nodup := ho p new hp
    exact ⟨_, at?_merge_of_tables ho ht hp, keys_merge hnew old⟩
  keeps _ _ rest _ _ ht hp hk := at?_merge_of_missing ho ht hp hk rest
  loses _ := exists_of_at?_merge_eq_none ho
  again := merge_merge ho t

/-- Overrides of each kind: a value that replaces, one that is new, and one that replaces a table. -/
def wider : Table := [("machine", .table [("width", .int 128), ("depth", .int 2)]), ("keyboard", .null)]

/-- These overrides have no double keys, so the theorem applies to them and the defaults. -/
theorem merge_replaces_joins_keeps_wider : Distinct (.table wider) ∧ Merging defaults wider := by
  have hdistinct : Distinct (.table wider) := by
    refine .table (by decide) fun e he => ?_
    simp only [wider, List.mem_cons, List.not_mem_nil, or_false] at he
    rcases he with rfl | rfl
    · refine .table (by decide) fun e he => ?_
      simp only [List.mem_cons, List.not_mem_nil, or_false] at he
      rcases he with rfl | rfl
      · exact .of_not_table rfl
      · exact .of_not_table rfl
    · exact .of_not_table rfl
  exact ⟨hdistinct, merge_replaces_joins_keeps hdistinct defaults⟩

end Config

end Chip8
