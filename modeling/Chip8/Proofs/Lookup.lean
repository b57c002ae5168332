import Mathlib.Data.List.Induction
/-!
Lists of keys and values, looked up by key.

The first entry for a key counts. Entries for other keys can be left out (`lookup_filter_ne`), and values can
be changed before or after they are looked up (`lookup_map_snd`). In a list that is looked up from behind the
last entry counts; a list of values, each with its place for a key, has its own values there
(`lookup_reverse_zipIdx`).
-/

namespace Chip8

variable {κ α β : Type} [BEq κ]

/-- Leaving out the entries of a key makes no difference to the others. -/
theorem lookup_filter_ne [LawfulBEq κ] {k j : κ} (h : k ≠ j) (entries : List (κ × α)) :
    (entries.filter fun e => e.1 != j).lookup k = entries.lookup k := by
  induction entries with
  | nil => rfl
  | cons e entries ih =>
    rw [List.filter_cons]
    split
    · rw [List.lookup_cons, List.lookup_cons, ih]
    · next hgone =>
      have heq : e.1 = j := by simpa using hgone
      rw [List.lookup_cons, heq, beq_eq_false_iff_ne.mpr h, ih]

/-- Changing the values changes what is found, and not whether it is found. -/
theorem lookup_map_snd (f : α → β) (entries : List (κ × α)) (k : κ) :
    (entries.map fun e => (e.1, f e.2)).lookup k = (entries.lookup k).map f := by
  induction entries with
  | nil => rfl
  | cons e rest ih =>
    rw [List.map_cons, List.lookup_cons, List.lookup_cons, ih]
    cases k == e.1 <;> rfl

/-- Of values in order each place has its own, and there is no other for it. Since the list is looked up from
    behind, the induction adds values at the end. -/
theorem lookup_reverse_zipIdx (values : List α) (k : Nat) :
    (values.zipIdx.map fun (v, k) => ((k : Int), v)).reverse.lookup (k : Int) = values[k]? := by
  induction values using List.reverseRecOn with
  | nil => rfl
  | append_singleton values v ih =>
    have hlast : ((values ++ [v]).zipIdx.map fun (v, k) => ((k : Int), v)).reverse =
        ((values.length : Int), v) :: (values.zipIdx.map fun (v, k) => ((k : Int), v)).reverse := by
      rw [List.zipIdx_append, List.map_append, List.reverse_append, Nat.zero_add]
      rfl
    -- reversed, the value that was added last comes first, under the greatest number
    rw [hlast, List.lookup_cons, ih]
    by_cases hk : k = values.length
    · rw [hk, beq_self_eq_true, List.getElem?_concat_length]
    · have hne : ((k : Int) == (values.length : Int)) = false := beq_eq_false_iff_ne.mpr (by omega)
      rw [hne]
      rcases Nat.lt_or_ge k values.length with hlt | hge
      · exact (List.getElem?_append_left hlt).symm
      · rw [List.getElem?_eq_none hge, List.getElem?_eq_none]
        rw [List.length_append, List.length_singleton]
        omega

end Chip8
