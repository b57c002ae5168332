import Chip8.Files.Tree
import Chip8.Proofs.Lookup
import Mathlib.Data.List.Basic
/-!
A tree of files after one of its files was changed.

A way in a tree leads through directories only. So what is put at a place where there is no directory is on no
way to another place, nor on the one to this place (`follow_put`): the path leads there as before, and reading
it gives what was put there (`bytesAt_change`).
-/

namespace Chip8.FileTree

variable {t u : FileTree} {place q : List String} {node : FileNode} {path : String}

/-- What was put at a place is there. -/
theorem at?_put_self (h : place ≠ []) : (t.put place node).at? place = some node := by
  have hempty : place.isEmpty = false := List.isEmpty_eq_false_iff.mpr h
  rw [at?, hempty, put]
  exact List.lookup_cons_self

/-- All other places are as they were. -/
theorem at?_put_ne (h : q ≠ place) : (t.put place node).at? q = t.at? q := by
  unfold at?
  split
  · rfl
  · rw [put]
    dsimp only
    rw [List.lookup_cons, beq_eq_false_iff_ne.mpr h, lookup_filter_ne h]

/-- What is put where no directory is changes no way through the tree. The induction is on the names that
    are left of the path: whatever is passed on the way is a directory, and so is not the place of the
    change. -/
theorem follow_put {names : List String} (hq : t.at? q ≠ some .directory)
    (h : t.follow path place names = .ok q) : (t.put q node).follow path place names = .ok q := by
  induction names generalizing place with
  | nil => exact h
  | cons name rest ih =>
    rw [follow] at h ⊢
    cases hplace : t.at? place with
    | none =>
      rw [hplace] at h
      cases h
    | some found =>
      rw [hplace] at h
      cases found with
      | file bytes => cases h
      | directory =>
        -- the place on the way is a directory, and the place of the change is not
        have hne : place ≠ q := by
          rintro rfl
          exact hq hplace
        rw [at?_put_ne hne, hplace]
        dsimp only at h ⊢
        split at h
        · next hstay =>
          rw [if_pos hstay]
          exact ih h
        · next hstay =>
          rw [if_neg hstay]
          split at h
          · next hup =>
            rw [if_pos hup]
            exact ih h
          · next hup =>
            rw [if_neg hup]
            split at h
            · cases h
            · next hshort =>
              rw [if_neg hshort]
              exact ih h

/-- A path leads to the place of a change as it did before the change. -/
theorem locate_put (hq : t.at? q ≠ some .directory) (h : t.locate path = .ok q) :
    (t.put q node).locate path = .ok q := by
  rw [locate, locateBy] at h ⊢
  -- the path is refused for what it is before it is followed, and that does not depend on the tree
  split at h
  · cases h
  · next hnull =>
    rw [if_neg hnull]
    split at h
    · cases h
    · next hempty =>
      rw [if_neg hempty]
      split at h
      · cases h
      · next hlong =>
        rw [if_neg hlong]
        exact follow_put hq h

/-- The bytes at a path, none if there is no file. -/
def bytesAt (path : String) (t : FileTree) : List UInt8 :=
  match t.read path with
  | .ok bytes => bytes
  | .error _ => []

theorem bytesAt_of_locate (h : t.locate path = .ok q) : t.bytesAt path =
    match t.at? q with
    | some (.file bytes) => bytes
    | _ => [] := by
  rw [bytesAt, read, find, lookUp, h]
  dsimp only [Bind.bind, Except.bind]
  cases t.at? q with
  | none => rfl
  | some node => cases node <;> rfl

/-- Where a file was put, its bytes are read. -/
theorem bytesAt_put {bytes : List UInt8} (hq : t.at? q ≠ some .directory) (h : t.locate path = .ok q) :
    (t.put q (.file bytes)).bytesAt path = bytes := by
  have hne : q ≠ [] := by
    rintro rfl
    exact hq rfl
  rw [bytesAt_of_locate (locate_put hq h), at?_put_self hne]

/-- A change of a file puts a file with the new bytes where the path leads. -/
theorem exists_put_of_change {f : List UInt8 → List UInt8} (h : t.change path f = .ok u) :
    ∃ q, t.locate path = .ok q ∧ t.at? q ≠ some .directory ∧ u = t.put q (.file (f (t.bytesAt path))) := by
  rw [change] at h
  cases hlocate : t.locate path with
  | error e =>
    rw [hlocate] at h
    cases h
  | ok q =>
    -- what is at the place decides which bytes are changed: none, or those of the file
    have hbytes := bytesAt_of_locate hlocate
    rw [hlocate] at h
    dsimp only [Bind.bind, Except.bind] at h
    refine ⟨q, rfl, ?_⟩
    cases hfound : t.at? q with
    | none =>
      rw [hfound] at h hbytes
      rw [hbytes]
      dsimp only at h
      split at h
      · exact ⟨nofun, (Except.ok.inj h).symm⟩
      · cases h
      · cases h
    | some node =>
      rw [hfound] at h hbytes
      cases node with
      | directory => cases h
      | file old =>
        rw [hbytes]
        exact ⟨nofun, (Except.ok.inj h).symm⟩

/-- Reading a file that was changed gives the new bytes. -/
theorem bytesAt_change {f : List UInt8 → List UInt8} (h : t.change path f = .ok u) :
    u.bytesAt path = f (t.bytesAt path) := by
  obtain ⟨q, hlocate, hq, rfl⟩ := exists_put_of_change h
  exact bytesAt_put hq hlocate

end Chip8.FileTree
