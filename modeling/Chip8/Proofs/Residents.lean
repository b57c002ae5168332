import Chip8.Memo
import Mathlib.Data.List.Basic
/-!
Which results a cache holds.

The cache is a list that is changed in place: used entries go to its end, new ones are put there, and one
falls off its front. From outside a caller sees only which calls ran the function. Which will is determined by
the history.

1. **Specification** — `History` has what a caller can tell since the last clear: which calls returned and
   which runs of the function answered. From it `History.residents` says what has to be there: for the policy
   `leastRecent` the latest different keys that calls returned for, for `oldest` the keys of the latest runs,
   as many as there is room for.

2. **Calls** — `Called` lists what comes of a call. A call whose arguments have no key goes past the cache. A
   call for which it fails to take the key (`Handle.broken`) is nothing to the cache or to the function:
   neither is changed or run.

3. **Invariant** — `Tracks`: the entries, read from the end, are the residents, each with what the latest run
   for its key answered. That a history can be cut to size before a change or after it is one list fact for a
   hit (`fit_without_of_mem`) and one for a miss (`fit_without_of_not_mem`).

4. **Runs** — by induction over calls and clears the cache holds the residents, in their order, and the next
   call hits or misses accordingly (`residency_afterAll`).
-/

namespace Chip8.Memo

variable {A κ α β ε σ : Type}

/-! ## Room

What is left of a list when there is room for so many. Room is counted by a number that may be below zero,
as the capacity of a cache may. -/

/-- The first of a list, as many as a capacity has room for. -/
def fit (capacity : Option Int) (xs : List β) : List β :=
  match capacity with
  | none => xs
  | some limit => xs.take limit.toNat

/-- To fit twice is to fit once: what the first time leaves out the second time leaves out too. -/
theorem fit_cons_fit (capacity : Option Int) (x : β) (xs : List β) :
    fit capacity (x :: fit capacity xs) = fit capacity (x :: xs) := by
  cases capacity with
  | none => rfl
  | some limit =>
    simp only [fit]
    cases limit.toNat with
    | zero => rfl
    | succ n => simp only [List.take_succ_cons, List.take_take, Nat.min_eq_left (Nat.le_succ n)]

/-- At most as many are left as the capacity says; where it is below zero, none. -/
theorem length_fit_le {capacity : Option Int} {limit : Int} (h : capacity = some limit) (xs : List β) :
    ((fit capacity xs).length : Int) ≤ max limit 0 := by
  subst h
  have := List.length_take_le limit.toNat xs
  simp only [fit]
  omega

/-! ## Equal keys

Keys are compared by a test of their type, which need only be an equivalence. The lemmas of the library on
lists without duplicates are about equality, so those that are used here are stated for the test. -/

section Keys

variable [BEq κ]

/-- The elements that are not equal to a key. -/
def without (k : κ) (ks : List κ) : List κ := ks.filter fun j => !(k == j)

/-- No element is equal to an earlier one. -/
def Distinct (ks : List κ) : Prop := ks.Pairwise fun j k => (j == k) = false

theorem without_cons_of_eq {k j : κ} (h : (k == j) = true) (ks : List κ) :
    without k (j :: ks) = without k ks := by simp [without, h]

theorem without_cons_of_ne {k j : κ} (h : (k == j) = false) (ks : List κ) :
    without k (j :: ks) = j :: without k ks := by simp [without, h]

theorem without_eq_self {k : κ} {ks : List κ} (h : ∀ j ∈ ks, (k == j) = false) : without k ks = ks :=
  List.filter_eq_self.mpr fun j hj => by rw [h j hj]; rfl

variable [EquivBEq κ]

/-- If a key is equal to another, the same elements are equal to the two. -/
theorem beq_congr_left {k j : κ} (h : (k == j) = true) (i : κ) : (k == i) = (j == i) := by
  rw [Bool.eq_iff_iff]
  exact ⟨BEq.trans (BEq.symm h), BEq.trans h⟩

theorem lookup_congr {k j : κ} (h : (k == j) = true) (es : List (κ × α)) : es.lookup k = es.lookup j := by
  induction es with
  | nil => rfl
  | cons e es ih => rw [List.lookup_cons, List.lookup_cons, ih, beq_congr_left h]

theorem without_without_of_eq {k j : κ} (h : (k == j) = true) (ks : List κ) :
    without k (without j ks) = without j ks := by
  refine without_eq_self fun i hi => ?_
  rw [beq_congr_left h]
  simpa using (List.mem_filter.mp hi).2

omit [EquivBEq κ] in
theorem without_comm (k j : κ) (ks : List κ) : without k (without j ks) = without j (without k ks) := by
  simp only [without, List.filter_filter, Bool.and_comm]

/-- The different elements of a list from which a key is taken. By induction on the length, since the
    recursion of `eraseDups` is on a filtered list. -/
theorem eraseDups_without (k : κ) (ks : List κ) : (without k ks).eraseDups = without k ks.eraseDups := by
  induction hn : ks.length using Nat.strongRecOn generalizing ks with
  | ind n ih =>
    cases ks with
    | nil => rfl
    | cons j ks =>
      -- the library erases what equals the first from the rest, with the sides of the test the other way
      -- round
      have herase (is : List κ) : (j :: is).eraseDups = j :: (without j is).eraseDups := by
        rw [List.eraseDups_cons, without]
        simp only [BEq.comm]
      have hlength : (without j ks).length < n := by
        have := List.length_filter_le (fun i => !(j == i)) ks
        simp only [List.length_cons] at hn
        exact Nat.lt_of_le_of_lt this (by omega)
      have hrest := ih _ hlength (without j ks) rfl
      rw [herase]
      cases h : k == j with
      | true =>
        rw [without_cons_of_eq h, without_cons_of_eq h, ← hrest, without_without_of_eq h]
        rw [show without k ks = without j ks from List.filter_congr fun i _ => by rw [beq_congr_left h]]
      | false => rw [without_cons_of_ne h, without_cons_of_ne h, herase, without_comm, hrest]

/-- The latest different keys once there is one more key. -/
theorem eraseDups_cons (k : κ) (ks : List κ) : (k :: ks).eraseDups = k :: without k ks.eraseDups := by
  rw [← eraseDups_without, List.eraseDups_cons, without]
  simp only [BEq.comm]

/-- No two keys that are left are equal. -/
theorem distinct_eraseDups (ks : List κ) : Distinct ks.eraseDups := by
  induction ks with
  | nil => exact .nil
  | cons k ks ih =>
    rw [eraseDups_cons]
    refine .cons (fun j hj => ?_) (ih.filter _)
    simpa using (List.mem_filter.mp hj).2

/-- Moving a key to the front before a list is cut to size is moving it there afterwards, if it is not cut
    off. -/
theorem take_without_of_mem {k j : κ} {ks : List κ} (hks : Distinct ks) {n : Nat}
    (hj : j ∈ ks.take (n + 1)) (hkj : (k == j) = true) :
    (without k ks).take n = without k (ks.take (n + 1)) := by
  induction ks generalizing n with
  | nil => cases hj
  | cons i ks ih =>
    obtain ⟨hfirst, hrest⟩ := List.pairwise_cons.mp hks
    rw [List.take_succ_cons] at hj ⊢
    cases hki : k == i with
    | true =>
      -- the key is found, and is not found again
      have hnone : ∀ l ∈ ks, (k == l) = false := fun l hl => (beq_congr_left hki l).trans (hfirst l hl)
      rw [without_cons_of_eq hki, without_cons_of_eq hki, without_eq_self hnone,
        without_eq_self fun l hl => hnone l (List.mem_of_mem_take hl)]
    | false =>
      rcases List.mem_cons.mp hj with rfl | hj
      · rw [hkj] at hki
        cases hki
      · cases n with
        | zero => simp at hj
        | succ n =>
          rw [without_cons_of_ne hki, without_cons_of_ne hki, List.take_succ_cons, ih hrest hj]

omit [EquivBEq κ] in
/-- A key that was cut off can be left out before. -/
theorem take_without_of_not_mem {k : κ} {ks : List κ} {n : Nat} (h : ∀ j ∈ ks.take n, (k == j) = false) :
    (without k ks).take n = ks.take n := by
  induction ks generalizing n with
  | nil => rfl
  | cons j ks ih =>
    cases n with
    | zero => rfl
    | succ n =>
      rw [List.take_succ_cons] at h ⊢
      rw [without_cons_of_ne (h j List.mem_cons_self), List.take_succ_cons,
        ih fun i hi => h i (List.mem_cons_of_mem j hi)]

/-- A hit: the key that goes to the front of the history goes to the front of the residents. -/
theorem fit_without_of_mem {capacity : Option Int} {k j : κ} {ks : List κ} (hks : Distinct ks)
    (hj : j ∈ fit capacity ks) (hkj : (k == j) = true) :
    fit capacity (k :: without k ks) = k :: without k (fit capacity ks) := by
  cases capacity with
  | none => rfl
  | some limit =>
    simp only [fit] at hj ⊢
    cases hn : limit.toNat with
    | zero => simp [hn] at hj
    | succ n =>
      rw [hn] at hj
      rw [List.take_succ_cons, take_without_of_mem hks hj hkj]

omit [EquivBEq κ] in
/-- A miss: the key that goes to the front of the history comes before the residents. -/
theorem fit_without_of_not_mem {capacity : Option Int} {k : κ} {ks : List κ}
    (h : ∀ j ∈ fit capacity ks, (k == j) = false) :
    fit capacity (k :: without k ks) = fit capacity (k :: fit capacity ks) := by
  cases capacity with
  | none => exact congrArg (k :: ·) (without_eq_self h)
  | some limit =>
    simp only [fit] at h ⊢
    cases hn : limit.toNat with
    | zero => rfl
    | succ n =>
      rw [hn] at h
      have hshort : ∀ j ∈ ks.take n, (k == j) = false := fun j hj =>
        h j ((List.take_subset_take_left ks (Nat.le_succ n)) hj)
      rw [List.take_succ_cons, List.take_succ_cons, take_without_of_not_mem hshort, List.take_take,
        Nat.min_eq_left (Nat.le_succ n)]

end Keys

/-! ## What can be told from outside

The history of a cache: the keys for which a call came back with a result, and the results that were stored.
From these `residents` says which keys must be there, without a look into the cache. -/

/-- What was called since the last clear, the latest first. -/
structure History (κ α : Type) where
  /-- The keys of the calls that returned without failing. -/
  returned : List κ
  /-- The keys of the runs that did not fail, with what they answered. -/
  stored : List (κ × α)

namespace History

/-- Nothing was called. -/
def empty : History κ α := ⟨[], []⟩

/-- After a call of arguments that are looked up by `handle`, with its answer; `ran` says whether the
    function ran for it. -/
def called (past : History κ α) (handle : Handle ε κ) (answer : Except ε α) (ran : Bool) : History κ α :=
  match handle, answer with
  | .key k, .ok v => ⟨k :: past.returned, if ran then (k, v) :: past.stored else past.stored⟩
  | _, _ => past

variable [BEq κ]

/-- The keys that are to be found in a cache, the last to be dropped first. -/
def residents (policy : Policy) (capacity : Option Int) (past : History κ α) : List κ :=
  match policy with
  | .leastRecent => fit capacity past.returned.eraseDups
  | .oldest => fit capacity (past.stored.map (·.1))

/-- Is there a resident equal to a key? -/
def Resident (policy : Policy) (capacity : Option Int) (past : History κ α) (k : κ) : Prop :=
  ∃ j ∈ past.residents policy capacity, (k == j) = true

end History

/-- A function in use through a cache. -/
structure Session (A κ α σ : Type) where
  memo : Memo κ α
  /-- All that the function reads and changes. -/
  world : σ
  /-- The arguments of the runs, the latest first. -/
  runs : List A
  past : History κ α

/-- What is done to a function in use. -/
inductive Use (A σ : Type) where
  | call (args : A)
  | clear
  /-- Something else changes the world. -/
  | meanwhile (change : σ → σ)

/-- The function, with a note of each run. -/
def watched (f : A → StateM σ (Except ε α)) (a : A) : StateM (σ × List A) (Except ε α) := do
  let (world, runs) ← get
  let (answer, world) := Id.run ((f a).run world)
  set (world, a :: runs)
  return answer

namespace Session

/-- Before the first call. -/
def start (capacity : Option Int) (policy : Policy) (world : σ) : Session A κ α σ :=
  ⟨create capacity policy, world, [], .empty⟩

variable [BEq κ] (handle : A → Handle ε κ) (f : A → StateM σ (Except ε α))

/-- A call through the cache: its answer, and what it leaves. -/
def call (x : Session A κ α σ) (a : A) : Except ε α × Session A κ α σ :=
  let ((answer, memo), world, runs) := Id.run ((x.memo.call (handle a) (watched f a)).run (x.world, x.runs))
  (answer, ⟨memo, world, runs, x.past.called (handle a) answer (decide (x.runs.length < runs.length))⟩)

/-- One use. -/
def after (x : Session A κ α σ) : Use A σ → Session A κ α σ
  | .call a => (x.call handle f a).2
  | .clear => { x with memo := x.memo.clear, past := .empty }
  | .meanwhile change => { x with world := change x.world }

/-- Uses, one after the other. -/
def afterAll (x : Session A κ α σ) (us : List (Use A σ)) : Session A κ α σ := us.foldl (after handle f) x

end Session

/-- What comes of a call. The cases are by the key of the arguments, whether it is found, and whether the run of
    the function fails. -/
inductive Called [BEq κ] (handle : A → Handle ε κ) (f : A → StateM σ (Except ε α)) (x : Session A κ α σ)
    (a : A) : Except ε α × Session A κ α σ → Prop
  /-- The call goes past the cache. -/
  | keyless (none : handle a = .keyless) {answer : Except ε α} {world : σ}
    (run : Id.run ((f a).run x.world) = (answer, world)) :
    Called handle f x a (answer, { x with world, runs := a :: x.runs })
  /-- The call fails before the cache is looked at. -/
  | broken {e : ε} (fails : handle a = .broken e) : Called handle f x a (.error e, x)
  | hit {k : κ} (hkey : handle a = .key k) {v : α} (found : x.memo.find? k = some v) :
    Called handle f x a
      (.ok v, { x with memo := x.memo.touch k v, past := ⟨k :: x.past.returned, x.past.stored⟩ })
  | stored {k : κ} (hkey : handle a = .key k) (missing : x.memo.find? k = none) {v : α} {world : σ}
    (run : Id.run ((f a).run x.world) = (.ok v, world)) :
    Called handle f x a
      (.ok v, ⟨x.memo.insert k v, world, a :: x.runs, ⟨k :: x.past.returned, (k, v) :: x.past.stored⟩⟩)
  | failed {k : κ} (hkey : handle a = .key k) (missing : x.memo.find? k = none) {e : ε} {world : σ}
    (run : Id.run ((f a).run x.world) = (.error e, world)) :
    Called handle f x a (.error e, { x with world, runs := a :: x.runs })

section

variable [BEq κ] (handle : A → Handle ε κ) (f : A → StateM σ (Except ε α))

/-- Each call is one of the five, which the case of its key, what is found for that and the answer of the
    function decide. -/
theorem called_call (x : Session A κ α σ) (a : A) : Called handle f x a (x.call handle f a) := by
  -- the cases are those of the call itself
  cases hkey : handle a with
  | keyless =>
    have hcall : x.call handle f a = ((Id.run ((f a).run x.world)).1,
        { x with world := (Id.run ((f a).run x.world)).2, runs := a :: x.runs }) := by
      rw [Session.call, hkey]
      rfl
    rw [hcall]
    exact .keyless hkey rfl
  | broken e =>
    have hcall : x.call handle f a = (.error e, x) := by
      rw [Session.call, hkey]
      rfl
    rw [hcall]
    exact .broken hkey
  | key k =>
    cases hfind : x.memo.find? k with
    | some v =>
      have hcall : x.call handle f a =
          (.ok v, { x with memo := x.memo.touch k v, past := ⟨k :: x.past.returned, x.past.stored⟩ }) := by
        simp [Session.call, Memo.call, hkey, hfind, History.called]
      rw [hcall]
      exact .hit hkey hfind
    | none =>
      rcases hrun : Id.run ((f a).run x.world) with ⟨e | v, world⟩
      · have hcall : x.call handle f a = (.error e, { x with world, runs := a :: x.runs }) := by
          simp [Session.call, Memo.call, watched, hkey, hfind, hrun, History.called]
        rw [hcall]
        exact .failed hkey hfind hrun
      · have hcall : x.call handle f a = (.ok v, ⟨x.memo.insert k v, world, a :: x.runs,
            ⟨k :: x.past.returned, (k, v) :: x.past.stored⟩⟩) := by
          simp [Session.call, Memo.call, watched, hkey, hfind, hrun, History.called]
        rw [hcall]
        exact .stored hkey hfind hrun

end

/-! ## The cache holds the residents

The entries of the cache, read backwards, are the residents of the history. Both ways of dropping entries
are proved together, since they differ only in what a hit does to the order. -/

/-- The keys with an entry, the last to be dropped first. -/
def keys (memo : Memo κ α) : List κ := memo.entries.reverse.map (·.1)

section

variable [BEq κ]

/-- A value that is looked up stands in the list, with a key that is equal to the one asked for. -/
theorem exists_of_lookup {es : List (κ × α)} {k : κ} {v : α} (h : es.lookup k = some v) :
    ∃ e ∈ es, (k == e.1) = true ∧ e.2 = v := by
  induction es with
  | nil => cases h
  | cons e es ih =>
    rw [List.lookup_cons] at h
    cases hk : k == e.1 with
    | true =>
      rw [hk] at h
      exact ⟨e, List.mem_cons_self, hk, Option.some.inj h⟩
    | false =>
      rw [hk] at h
      obtain ⟨d, hd, hfound⟩ := ih h
      exact ⟨d, List.mem_cons_of_mem e hd, hfound⟩

omit [BEq κ] in
theorem mem_keys {memo : Memo κ α} {k : κ} : k ∈ memo.keys ↔ ∃ e ∈ memo.entries, e.1 = k := by
  simp [keys]

theorem ne_of_find?_eq_none {memo : Memo κ α} {k : κ} (h : memo.find? k = none) :
    ∀ j ∈ memo.keys, (k == j) = false := by
  intro j hj
  obtain ⟨e, he, rfl⟩ := mem_keys.mp hj
  exact (Bool.not_eq_true' _).mp (List.lookup_eq_none_iff.mp h e he)

/-- There is an entry to find if there is one with an equal key. -/
theorem find?_isSome_iff {memo : Memo κ α} {k : κ} :
    (memo.find? k).isSome = true ↔ ∃ j ∈ memo.keys, (k == j) = true := by
  constructor
  · intro h
    obtain ⟨v, hv⟩ := Option.isSome_iff_exists.mp h
    obtain ⟨e, he, hk, -⟩ := exists_of_lookup hv
    exact ⟨e.1, mem_keys.mpr ⟨e, he, rfl⟩, hk⟩
  · rintro ⟨j, hj, hk⟩
    by_contra hnone
    rw [Bool.not_eq_true, Option.isSome_eq_false_iff, Option.isNone_iff_eq_none] at hnone
    rw [ne_of_find?_eq_none hnone j hj] at hk
    cases hk

theorem touch_of_oldest {memo : Memo κ α} (h : memo.policy = .oldest) (k : κ) (v : α) :
    memo.touch k v = memo := by rw [touch, h]

theorem touch_of_leastRecent {memo : Memo κ α} (h : memo.policy = .leastRecent) (k : κ) (v : α) :
    memo.touch k v = { memo with entries := memo.entries.filter (fun e => !(k == e.1)) ++ [(k, v)] } := by
  rw [touch, h]

/-- An entry after a hit was there before or is that of the hit. -/
theorem mem_of_mem_touch {memo : Memo κ α} {k : κ} {v : α} {e : κ × α} (h : e ∈ (memo.touch k v).entries) :
    e ∈ memo.entries ∨ e = (k, v) := by
  cases hpolicy : memo.policy with
  | oldest =>
    rw [touch_of_oldest hpolicy] at h
    exact Or.inl h
  | leastRecent =>
    rw [touch_of_leastRecent hpolicy] at h
    rcases List.mem_append.mp h with h | h
    · exact Or.inl (List.mem_of_mem_filter h)
    · exact Or.inr (List.mem_singleton.mp h)

/-- A used key goes to the front. -/
theorem keys_touch {memo : Memo κ α} (h : memo.policy = .leastRecent) (k : κ) (v : α) :
    (memo.touch k v).keys = k :: without k memo.keys := by
  rw [touch_of_leastRecent h]
  simp only [keys, without, List.reverse_append, List.reverse_singleton, List.singleton_append, List.map_cons,
    List.filter_map, List.filter_reverse]
  rfl

omit [BEq κ] in
/-- An entry after a result is stored was there before or is that of the result. -/
theorem mem_of_mem_insert {memo : Memo κ α} {k : κ} {v : α} {e : κ × α}
    (h : e ∈ (memo.insert k v).entries) : e ∈ memo.entries ∨ e = (k, v) := by
  have hsub : (memo.insert k v).entries ⊆ memo.entries ++ [(k, v)] := by
    unfold insert
    split
    · exact List.Subset.refl _
    · simp only
      split
      · exact List.drop_subset 1 _
      · exact List.Subset.refl _
  simpa using hsub h

omit [BEq κ] in
/-- A new key comes first, and the last is dropped if there is no room for it. -/
theorem keys_insert {memo : Memo κ α} (k : κ) (v : α)
    (h : ∀ limit, memo.capacity = some limit → (memo.entries.length : Int) ≤ max limit 0) :
    (memo.insert k v).keys = fit memo.capacity (k :: memo.keys) := by
  have hall : (memo.entries ++ [(k, v)]).reverse.map (·.1) = k :: memo.keys := by simp [keys]
  have hlength : (memo.entries ++ [(k, v)]).length = memo.entries.length + 1 := List.length_append
  have hkeys : (k :: memo.keys).length = memo.entries.length + 1 := by simp [keys]
  cases hcapacity : memo.capacity with
  | none =>
    simp only [insert, hcapacity, fit]
    exact hall
  | some limit =>
    have hle := h limit hcapacity
    simp only [insert, hcapacity, fit]
    split
    · next hfull =>
      -- there was no room left, so one goes
      have hcount : (memo.entries ++ [(k, v)]).length - 1 = limit.toNat := by omega
      rw [← hall, ← hcount, ← List.map_take, ← List.reverse_drop]
      rfl
    · next hroom =>
      rw [List.take_of_length_le (by omega)]
      exact hall

omit [BEq κ] in
@[simp] theorem insert_policy (memo : Memo κ α) (k : κ) (v : α) : (memo.insert k v).policy = memo.policy := by
  unfold insert
  split <;> rfl

omit [BEq κ] in
@[simp] theorem insert_capacity (memo : Memo κ α) (k : κ) (v : α) :
    (memo.insert k v).capacity = memo.capacity := by
  unfold insert
  split
  · next h => exact h.symm ▸ rfl
  · next h => exact h.symm ▸ rfl

@[simp] theorem touch_policy (memo : Memo κ α) (k : κ) (v : α) : (memo.touch k v).policy = memo.policy := by
  unfold touch
  split <;> rfl

@[simp] theorem touch_capacity (memo : Memo κ α) (k : κ) (v : α) :
    (memo.touch k v).capacity = memo.capacity := by
  unfold touch
  split <;> rfl

end

/-- The invariant: the entries are the residents, each with the latest result for its key. -/
structure Tracks [BEq κ] (policy : Policy) (capacity : Option Int) (x : Session A κ α σ) : Prop where
  policy_eq : x.memo.policy = policy
  capacity_eq : x.memo.capacity = capacity
  keys_eq : x.memo.keys = x.past.residents policy capacity
  values : ∀ e ∈ x.memo.entries, x.past.stored.lookup e.1 = some e.2

section

variable [BEq κ] {policy : Policy} {capacity : Option Int} {x : Session A κ α σ}

/-- An empty cache holds the residents of the empty history, of which there are none. -/
theorem tracks_start (policy : Policy) (capacity : Option Int) (world : σ) :
    Tracks policy capacity (.start capacity policy world : Session A κ α σ) where
  policy_eq := rfl
  capacity_eq := rfl
  keys_eq := by
    cases policy <;> cases capacity <;>
      simp [Session.start, History.residents, History.empty, keys, create, fit]
  values := fun e he => by cases he

/-- A cache with a limit holds no more entries than that, and none if the limit is negative. -/
theorem Tracks.length_le (h : Tracks policy capacity x) {limit : Int} (hlimit : capacity = some limit) :
    (x.memo.entries.length : Int) ≤ max limit 0 := by
  have hlength : x.memo.entries.length = (x.past.residents policy capacity).length := by
    rw [← h.keys_eq, Memo.keys, List.length_map, List.length_reverse]
  rw [hlength]
  cases policy with
  | leastRecent => exact length_fit_le hlimit _
  | oldest => exact length_fit_le hlimit _

/-- A key is found if it is resident. -/
theorem Tracks.find?_isSome_iff (h : Tracks policy capacity x) (k : κ) :
    (x.memo.find? k).isSome = true ↔ x.past.Resident policy capacity k := by
  rw [Memo.find?_isSome_iff, h.keys_eq]
  rfl

variable [EquivBEq κ]

/-- What is found is the latest result. -/
theorem Tracks.lookup_of_find? (h : Tracks policy capacity x) {k : κ} {v : α} (hv : x.memo.find? k = some v) :
    x.past.stored.lookup k = some v := by
  obtain ⟨e, he, hk, rfl⟩ := exists_of_lookup hv
  rw [lookup_congr hk]
  exact h.values e he

/-- A hit leaves the residents in the cache. -/
theorem Tracks.keys_hit (h : Tracks policy capacity x) {k : κ} {v : α} (hv : x.memo.find? k = some v) :
    (x.memo.touch k v).keys =
      History.residents policy capacity ⟨k :: x.past.returned, x.past.stored⟩ := by
  cases policy with
  | oldest =>
    rw [touch_of_oldest h.policy_eq]
    exact h.keys_eq
  | leastRecent =>
    obtain ⟨j, hj, hk⟩ := (h.find?_isSome_iff k).mp (Option.isSome_of_eq_some hv)
    rw [keys_touch h.policy_eq, h.keys_eq]
    simp only [History.residents] at hj ⊢
    rw [eraseDups_cons, fit_without_of_mem (distinct_eraseDups _) hj hk]

/-- A result that is stored leaves the residents in the cache. -/
theorem Tracks.keys_stored (h : Tracks policy capacity x) {k : κ} (hk : x.memo.find? k = none) (v : α) :
    (x.memo.insert k v).keys =
      History.residents policy capacity ⟨k :: x.past.returned, (k, v) :: x.past.stored⟩ := by
  have hnone := ne_of_find?_eq_none hk
  rw [keys_insert k v fun limit hlimit => h.length_le (h.capacity_eq.symm.trans hlimit), h.capacity_eq]
  rw [h.keys_eq] at hnone ⊢
  cases policy with
  | oldest => exact fit_cons_fit capacity k _
  | leastRecent =>
    simp only [History.residents] at hnone ⊢
    rw [eraseDups_cons, fit_without_of_not_mem hnone]

variable (handle : A → Handle ε κ) (f : A → StateM σ (Except ε α))

/-- A call keeps the invariant. Only a hit and a stored result change the cache. -/
theorem tracks_call (h : Tracks policy capacity x) (a : A) : Tracks policy capacity (x.call handle f a).2 := by
  have hcalled := called_call handle f x a
  generalize x.call handle f a = out at hcalled ⊢
  cases hcalled with
  | keyless | broken | failed => exact ⟨h.policy_eq, h.capacity_eq, h.keys_eq, h.values⟩
  | @hit k hkey v found =>
    refine ⟨(touch_policy _ _ _).trans h.policy_eq, (touch_capacity _ _ _).trans h.capacity_eq,
      h.keys_hit found, ?_⟩
    intro e he
    rcases mem_of_mem_touch he with he | rfl
    · exact h.values e he
    · exact h.lookup_of_find? found
  | @stored k hkey missing v world run =>
    refine ⟨(insert_policy _ _ _).trans h.policy_eq, (insert_capacity _ _ _).trans h.capacity_eq,
      h.keys_stored missing v, ?_⟩
    intro e he
    rw [List.lookup_cons]
    rcases mem_of_mem_insert he with he | rfl
    · -- an older entry is for another key
      have hne := ne_of_find?_eq_none missing e.1 (mem_keys.mpr ⟨e, he, rfl⟩)
      rw [BEq.comm, hne]
      exact h.values e he
    · rw [show ((k, v).1 == k) = true from BEq.refl k]

/-- A use of the cache keeps the invariant, whether it is a call, a clear or something else that happens. -/
theorem tracks_after (h : Tracks policy capacity x) (u : Use A σ) :
    Tracks policy capacity (x.after handle f u) := by
  cases u with
  | call a => exact tracks_call handle f h a
  | clear =>
    have hstart := tracks_start (A := A) (κ := κ) (α := α) policy capacity x.world
    exact ⟨h.policy_eq, h.capacity_eq, hstart.keys_eq, hstart.values⟩
  | meanwhile change => exact ⟨h.policy_eq, h.capacity_eq, h.keys_eq, h.values⟩

theorem tracks_afterAll (h : Tracks policy capacity x) (us : List (Use A σ)) :
    Tracks policy capacity (x.afterAll handle f us) := by
  induction us generalizing x with
  | nil => exact h
  | cons u us ih => exact ih (tracks_after handle f h u)

end

/-- What is in a cache, and what the next call does with it. -/
structure Residency [BEq κ] (handle : A → Handle ε κ) (f : A → StateM σ (Except ε α)) (policy : Policy)
    (capacity : Option Int) (x : Session A κ α σ) : Prop where
  /-- The cache holds the residents, in their order. -/
  residents : x.memo.keys = x.past.residents policy capacity
  /-- The cache holds no more than there is room for. -/
  bound : ∀ limit, capacity = some limit → (x.memo.entries.length : Int) ≤ max limit 0
  /-- A call for a resident key does not run the function. It answers what the latest run for an equal key
      answered. -/
  hit : ∀ a k, handle a = .key k → x.past.Resident policy capacity k →
    ∃ v, x.past.stored.lookup k = some v ∧ (x.call handle f a).1 = .ok v ∧
      (x.call handle f a).2.runs = x.runs ∧ (x.call handle f a).2.world = x.world
  /-- A call for a key that is not resident runs the function, and so does a call that goes past the cache. -/
  miss : ∀ a, handle a = .keyless ∨ (∃ k, handle a = .key k ∧ ¬x.past.Resident policy capacity k) →
    ((x.call handle f a).1, (x.call handle f a).2.world) = Id.run ((f a).run x.world) ∧
      (x.call handle f a).2.runs = a :: x.runs
  /-- If to take the key fails, so does the call, and nothing else happens. -/
  broken : ∀ a e, handle a = .broken e → x.call handle f a = (.error e, x)
  /-- A call that fails and a call without a key leave the cache alone. -/
  kept : ∀ a, ((∀ k, handle a ≠ .key k) ∨ ∃ e, (x.call handle f a).1 = .error e) →
    (x.call handle f a).2.memo = x.memo ∧ (x.call handle f a).2.past = x.past

section

variable [BEq κ] [EquivBEq κ] (handle : A → Handle ε κ) (f : A → StateM σ (Except ε α))
  {policy : Policy} {capacity : Option Int} {x : Session A κ α σ}

/-- The clauses of a residency follow from the invariant, each by the cases of the call. -/
theorem residency_of_tracks (h : Tracks policy capacity x) : Residency handle f policy capacity x where
  residents := h.keys_eq
  bound := fun _ hlimit => h.length_le hlimit
  hit := by
    intro a k hk hresident
    -- a key that is resident is found, which leaves only a hit of all that comes of calls
    have hsome := (h.find?_isSome_iff k).mpr hresident
    have hcalled := called_call handle f x a
    generalize x.call handle f a = out at hcalled ⊢
    cases hcalled with
    | keyless hkey | broken hkey => cases hk.symm.trans hkey
    | @hit j hkey v found =>
      obtain rfl := Handle.key.inj (hk.symm.trans hkey)
      exact ⟨v, h.lookup_of_find? found, rfl, rfl, rfl⟩
    | stored hkey missing | failed hkey missing =>
      obtain rfl := Handle.key.inj (hk.symm.trans hkey)
      rw [missing] at hsome
      cases hsome
  miss := by
    intro a ha
    have hcalled := called_call handle f x a
    generalize x.call handle f a = out at hcalled ⊢
    cases hcalled with
    | @hit k hkey v found =>
      have hresident := (h.find?_isSome_iff k).mp (Option.isSome_of_eq_some found)
      rcases ha with hnone | ⟨j, hj, habsent⟩
      · cases hnone.symm.trans hkey
      · obtain rfl := Handle.key.inj (hj.symm.trans hkey)
        exact absurd hresident habsent
    | broken hkey =>
      rcases ha with hnone | ⟨j, hj, -⟩
      · cases hnone.symm.trans hkey
      · cases hj.symm.trans hkey
    | keyless hkey run | stored hkey missing run | failed hkey missing run => exact ⟨run.symm, rfl⟩
  broken := by
    intro a e ha
    have hcalled := called_call handle f x a
    generalize x.call handle f a = out at hcalled ⊢
    cases hcalled with
    | broken hkey => rw [Handle.broken.inj (ha.symm.trans hkey)]
    | keyless hkey | hit hkey | stored hkey | failed hkey => cases ha.symm.trans hkey
  kept := by
    intro a ha
    have hcalled := called_call handle f x a
    generalize x.call handle f a = out at hcalled ha ⊢
    cases hcalled with
    | keyless | broken | failed => exact ⟨rfl, rfl⟩
    | hit hkey | stored hkey =>
      rcases ha with hnone | ⟨e, he⟩
      · exact absurd hkey (hnone _)
      · cases he

/-- After any calls and clears the cache holds what the history says, whatever function, capacity and policy
    it is for. -/
theorem residency_afterAll (policy : Policy) (capacity : Option Int) (world : σ) (us : List (Use A σ)) :
    Residency handle f policy capacity (Session.afterAll handle f (.start capacity policy world) us) :=
  residency_of_tracks handle f (tracks_afterAll handle f (tracks_start policy capacity world) us)

end

/-- A number or a list of numbers. -/
inductive Item where
  | number (n : Int)
  | list (ns : List Int)
  deriving DecidableEq

/-- An item, or a tuple of items. -/
inductive Argument where
  | item (i : Item)
  | tuple (is : List Item)
  deriving DecidableEq

namespace Argument

/-- A list has no key. A tuple is of a type with keys, but it has one only if all its items do. -/
def handle (a : Argument) : Handle String Argument :=
  match a with
  | item (.number _) => .key a
  | item (.list _) => .keyless
  | tuple is => if is.all (· matches .number _) then .key a else .broken "unhashable type: 'list'"

/-- An argument is its own key. -/
theorem eq_of_handle {a k : Argument} (h : a.handle = .key k) : a = k := by
  unfold handle at h
  split at h
  · exact Handle.key.inj h
  · cases h
  · split at h
    · exact Handle.key.inj h
    · cases h

/-- How many items there are. -/
def size (a : Argument) : Except String Int :=
  match a with
  | item (.number _) => .error "object of type 'int' has no len()"
  | item (.list ns) => .ok ns.length
  | tuple is => .ok is.length

end Argument

/-- One size is kept. The empty tuple is asked for twice and measured once. The list is measured each time,
    a number cannot be measured, and the tuple that holds a list is not even given to the function. -/
theorem residency_sizes :
    let measure : Argument → StateM Unit (Except String Int) := fun a => pure a.size
    let x := Session.afterAll Argument.handle measure (.start (some 1) .leastRecent ())
      [.call (.tuple []), .call (.tuple []), .call (.item (.list [2])), .call (.item (.number 1)),
        .call (.item (.list [2])), .call (.tuple [.number 1, .list [2]])]
    Residency Argument.handle measure .leastRecent (some 1) x ∧
      x.runs = [.item (.list [2]), .item (.number 1), .item (.list [2]), .tuple []] ∧
      x.past.residents .leastRecent (some 1) = [.tuple []] :=
  ⟨residency_afterAll Argument.handle _ .leastRecent (some 1) () _, by decide, by decide⟩

end Chip8.Memo
