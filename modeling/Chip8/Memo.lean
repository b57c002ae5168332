import Chip8.Value
/-!
A cache for the results of a function, keyed on its arguments. It keeps the entries in the order in
which they would be dropped: by latest use or by age, as its policy says.

Arguments come to a cache in one of three ways (`Handle`). Most have a key. If one of them is of a type
without keys, which a list is, the call goes past the cache. There is a third way: all may be of types
with keys, and still have none, as a tuple that holds a list. The cache looks at the types only before
it asks for the key, so such a call fails there, and the function is not asked.
-/

namespace Chip8

/-- Which entry goes first when there are too many. -/
inductive Policy where
  /-- The one that was used longest ago. -/
  | leastRecent
  /-- The one that was stored longest ago. -/
  | oldest
  deriving DecidableEq, Repr

/-- The policy of a name. -/
def Policy.ofName? : String → Option Policy
  | "lru" => some leastRecent
  | "fifo" => some oldest
  | _ => none

/-- Why a value names no policy. -/
inductive PolicyError where
  /-- Nothing that a policy is called by. -/
  | unknown
  /-- A value that cannot be looked up, as it has no key. -/
  | keyless (typeName : String)
  deriving DecidableEq, Repr

/-- The sentence about it. -/
def PolicyError.message : PolicyError → String
  | unknown => "policy must be 'lru' or 'fifo'"
  | keyless typeName => s!"unhashable type: '{typeName}'"

/-- The policy that a value names. -/
def Policy.ofValue (v : Value) : Except PolicyError Policy :=
  match v with
  | .text name =>
    match ofName? name with
    | some policy => .ok policy
    | none => .error .unknown
  | v => .error (if v.key?.isSome then .unknown else .keyless v.typeName)

/-- Stored results, the first to be dropped at the head. -/
structure Memo (κ α : Type) where
  capacity : Option Int
  policy : Policy
  entries : List (κ × α)

namespace Memo

/-- How the arguments of a call can be looked up. -/
inductive Handle (ε κ : Type) where
  /-- The arguments have a key. -/
  | key (k : κ)
  /-- One of the arguments is of a type that has no keys. -/
  | keyless
  /-- All arguments are of types that have keys, but to take the key of one of them fails. -/
  | broken (e : ε)
  deriving DecidableEq, Repr

variable {κ α ε : Type} [BEq κ] {m : Type → Type} [Monad m]

/-- A cache without entries; no capacity means no limit. -/
def create (capacity : Option Int) (policy : Policy) : Memo κ α := ⟨capacity, policy, []⟩

/-- The result stored for a key. -/
def find? (memo : Memo κ α) (key : κ) : Option α := memo.entries.lookup key

/-- Note that the entry of a key was used. -/
def touch (memo : Memo κ α) (key : κ) (value : α) : Memo κ α :=
  match memo.policy with
  | .oldest => memo
  | .leastRecent =>
    -- taken out of its place and put to the end, the last to be dropped
    { memo with entries := memo.entries.filter (fun e => !(key == e.1)) ++ [(key, value)] }

/-- Store a result, dropping one entry if there are too many then. -/
def insert (memo : Memo κ α) (key : κ) (value : α) : Memo κ α :=
  let entries := memo.entries ++ [(key, value)]
  match memo.capacity with
  | none => { memo with entries }
  | some limit =>
    -- a limit of zero or less leaves nothing stored
    { memo with entries := if limit < entries.length then entries.drop 1 else entries }

/-- Forget everything. -/
def clear (memo : Memo κ α) : Memo κ α := { memo with entries := [] }

/-- Call the function through the cache. Arguments without a key go past it, unless it is only found out
    when the key is taken that they have none, and a run that fails is not stored. -/
def call (memo : Memo κ α) (handle : Handle ε κ) (run : m (Except ε α)) :
    m (Except ε α × Memo κ α) := do
  match handle with
  | .keyless => return (← run, memo)
  | .broken e => return (.error e, memo)
  | .key key =>
    match memo.find? key with
    | some value => return (.ok value, memo.touch key value)
    | none =>
      match ← run with
      | .ok value => return (.ok value, memo.insert key value)
      | .error e => return (.error e, memo)

end Memo

end Chip8
