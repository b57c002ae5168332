import Chip8.Config.Merge
import Chip8.Proofs.Lookup
import Mathlib.Data.List.Nodup
/-!
Tables, key by key, and what merging does to them.

A table is a list of keys and values, so a key could stand in it twice, and the loop that merges overrides
would then lay one of them over the other. Writing under a key never makes a key stand twice
(`Table.nodup_insert`).

`Config.merge_cons` is the loop, one override at a time. For overrides without double keys a merged table has
at each key what `laid` says (`get?_merge_of_some`): the value that is laid over the old one, or a table
merged into a table. Where nothing is laid over it the old value stays (`get?_merge_of_none`). What this means
at any depth is in `Chip8.Proofs.Nesting`.
-/

namespace Chip8

namespace Table

variable {t : Table} {k l : String} {v : Value}

theorem keys_insert (t : Table) (k : String) (v : Value) :
    (t.insert k v).keys = if k ∈ t.keys then t.keys else t.keys ++ [k] := by
  induction t with
  | nil => rfl
  | cons e t ih =>
    obtain ⟨l, w⟩ := e
    rcases eq_or_ne l k with rfl | hlk
    · simp [insert, keys]
    · have hinsert : insert k v ((l, w) :: t) = (l, w) :: insert k v t := by simp [insert, hlk]
      have hmem : k ∈ keys ((l, w) :: t) ↔ k ∈ keys t := by simp [keys, hlk.symm]
      rw [hinsert, show keys ((l, w) :: insert k v t) = l :: keys (insert k v t) from rfl, ih]
      simp only [hmem]
      split
      · rfl
      · rfl

theorem nodup_insert (ht : t.keys.Nodup) (k : String) (v : Value) : (t.insert k v).keys.Nodup := by
  rw [keys_insert]
  split
  · exact ht
  · next hk => exact List.Nodup.append ht (List.nodup_singleton k) (by simpa using hk)

theorem get?_cons_self (k : String) (v : Value) (t : Table) : get? ((k, v) :: t) k = some v := by
  simp [get?]

theorem get?_cons_ne (h : k ≠ l) (v : Value) (t : Table) : get? ((l, v) :: t) k = get? t k := by
  rw [get?, List.lookup_cons, beq_eq_false_iff_ne.mpr h]
  rfl

theorem get?_eq_none_iff : t.get? k = none ↔ k ∉ t.keys := by
  simp only [get?, List.lookup_eq_none_iff, keys, List.mem_map, not_exists, not_and, bne_iff_ne]
  exact ⟨fun h e he hk => h e he hk.symm, fun h e he hk => h e he hk.symm⟩

/-- Writing under a key takes none away. -/
theorem isSome_get?_insert (h : (t.get? k).isSome = true) (l : String) (v : Value) :
    ((t.insert l v).get? k).isSome = true := by
  rcases eq_or_ne k l with rfl | hkl
  · rw [get?_insert_self]
    rfl
  · rwa [get?_insert_ne t hkl]

/-- A table without a key. -/
def without (k : String) (t : Table) : Table := t.filter fun e => e.1 != k

theorem nodup_without (ht : t.keys.Nodup) (k : String) : (t.without k).keys.Nodup :=
  List.Nodup.sublist (List.filter_sublist.map _) ht

theorem get?_without_self (t : Table) (k : String) : (t.without k).get? k = none := by
  rw [get?_eq_none_iff]
  simp [without, keys]

theorem get?_without_ne (h : l ≠ k) (t : Table) : (t.without k).get? l = t.get? l :=
  lookup_filter_ne h t

end Table

namespace Config

/-- What a value comes to where it is laid over what is there: tables are merged, and anything else replaces. -/
def laid (old : Option Value) (new : Value) : Value :=
  match old, new with
  | some (.table old), .table new => .table (merge old new)
  | _, new => new

theorem laid_of_not_table {new : Value} (h : new.table? = none) (old : Option Value) :
    laid old new = new := by
  unfold laid
  split
  · cases h
  · rfl

theorem merge_nil (t : Table) : merge t [] = t := by
  rw [merge]

/-- Overrides are laid over a table one after another. -/
theorem merge_cons (t : Table) (k : String) (v : Value) (o : Table) :
    merge t ((k, v) :: o) = merge (t.insert k (laid (t.get? k) v)) o := by
  unfold laid
  split
  · next old new hold =>
    rw [merge]
    exact hold
  · next hnot =>
    rw [merge]
    exact hnot

/-- Merging loses no key. -/
theorem isSome_get?_merge {t : Table} {k : String} (h : (t.get? k).isSome = true) (o : Table) :
    ((merge t o).get? k).isSome = true := by
  induction o generalizing t with
  | nil => rwa [merge_nil]
  | cons e o ih =>
    rw [merge_cons]
    exact ih (Table.isSome_get?_insert h _ _)

/-- Merging changes nothing at keys that have no override. -/
theorem get?_merge_of_none {o : Table} {k : String} (h : o.get? k = none) (t : Table) :
    (merge t o).get? k = t.get? k := by
  induction o generalizing t with
  | nil => rw [merge_nil]
  | cons e o ih =>
    obtain ⟨l, w⟩ := e
    rcases eq_or_ne k l with rfl | hkl
    · rw [Table.get?_cons_self] at h
      cases h
    · rw [Table.get?_cons_ne hkl] at h
      rw [merge_cons, ih h, Table.get?_insert_ne _ hkl]

/-- At a key with an override is what the override comes to over the old value. Without double keys no later
    override can lie over it. -/
theorem get?_merge_of_some {o : Table} (ho : o.keys.Nodup) {k : String} {v : Value} (h : o.get? k = some v)
    (t : Table) : (merge t o).get? k = some (laid (t.get? k) v) := by
  induction o generalizing t with
  | nil => cases h
  | cons e o ih =>
    obtain ⟨l, w⟩ := e
    obtain ⟨hfirst, hrest⟩ := List.nodup_cons.mp ho
    rw [merge_cons]
    rcases eq_or_ne k l with rfl | hkl
    · -- the override is here, and there is no other
      rw [Table.get?_cons_self] at h
      obtain rfl := Option.some.inj h
      rw [get?_merge_of_none (Table.get?_eq_none_iff.mpr hfirst), Table.get?_insert_self]
    · rw [Table.get?_cons_ne hkl] at h
      rw [ih hrest h, Table.get?_insert_ne _ hkl]

end Config

end Chip8
