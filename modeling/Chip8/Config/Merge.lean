import Chip8.Value
/-!
Merging of tables: an override replaces what it names, except that a table given for a table is
merged into it, key by key and to any depth.
-/

namespace Chip8.Config

/-- `overrides` laid over `target`. Keys of `target` keep their places; new ones follow in the order
    of `overrides`. -/
def merge (target : Table) : Table → Table
  | [] => target
  | (key, value) :: rest =>
    match target.get? key, value with
    -- both are tables: the key keeps its place, and its table is merged in turn
    | some (.table old), .table new => merge (target.insert key (.table (merge old new))) rest
    | _, _ => merge (target.insert key value) rest
termination_by overrides => sizeOf overrides

end Chip8.Config
