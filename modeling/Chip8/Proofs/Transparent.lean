import Chip8.Proofs.Residents
import Chip8.Proofs.Turns
/-!
A cache cannot be told from the function behind it, except where it fails to look arguments up.

1. **Invariant** — `Faithful`: each entry is what the function answers for some arguments with the key of the
   entry. For a pure function it is kept whatever is stored, moved, dropped or forgotten (`faithful_call`,
   `faithful_after`, and `faithful_afterAll` by induction on the uses): an entry comes into the cache with an
   answer of the function, and no operation changes the value of an entry. How many entries there are, and
   which of them were dropped, does not matter here; `Chip8.Proofs.Residents` is about that.

2. **Answers** — what is found for a key was answered for arguments with that key, though maybe not for those
   of the call. So the function must not tell equal arguments apart (`Respects`); then a call answers what the
   function answers, with one exception: if to take the key of the arguments fails, the call fails with that,
   whatever the function would have answered (`cached_eq`). A tuple that holds a list is such a case, though a
   list by itself goes past the cache.

3. **The decoder** — it is a function of numbers, which all have keys. Whatever numbers went through its cache
   before, in range or not, what it answers for a number is the word with the fields of this number
   (`decoded_eq`, `Decoding`). So a program that writes over its own words is executed as it stands.
-/

namespace Chip8

namespace Memo

variable {A κ α ε σ : Type} [BEq κ] {handle : A → Handle ε κ} {g : A → Except ε α}

/-- Every entry is what the function answers for arguments with its key. -/
def Faithful (handle : A → Handle ε κ) (g : A → Except ε α) (memo : Memo κ α) : Prop :=
  ∀ e ∈ memo.entries, ∃ a, handle a = .key e.1 ∧ g a = .ok e.2

/-- The function does not tell arguments with equal keys apart. -/
def Respects (handle : A → Handle ε κ) (g : A → Except ε α) : Prop :=
  ∀ a b j k, handle a = .key j → handle b = .key k → (j == k) = true → g a = g b

/-- What a call answers whose arguments are looked up by `handle`, if the function answers `answer`. -/
def Handle.answer (handle : Handle ε κ) (answer : Except ε α) : Except ε α :=
  match handle with
  | .broken e => .error e
  | .key _ | .keyless => answer

/-- What is found for the key of arguments is what the function answers for them. -/
theorem Faithful.eq_of_find? {memo : Memo κ α} (h : Faithful handle g memo) (hg : Respects handle g) {a : A}
    {k : κ} (hk : handle a = .key k) {v : α} (hv : memo.find? k = some v) : g a = .ok v := by
  obtain ⟨e, he, heq, rfl⟩ := exists_of_lookup hv
  obtain ⟨b, hb, hanswer⟩ := h e he
  exact (hg a b k e.1 hk hb heq).trans hanswer

variable {x : Session A κ α σ}

/-- A call answers what the function answers, unless it fails to take the key, and leaves no other entries
    behind. -/
theorem faithful_call (hg : Respects handle g) (h : Faithful handle g x.memo) (a : A) :
    (x.call handle (fun a => pure (g a)) a).1 = (handle a).answer (g a) ∧
      Faithful handle g (x.call handle (fun a => pure (g a)) a).2.memo := by
  have hcalled := called_call handle (fun a => pure (g a)) x a
  generalize x.call handle (fun a => pure (g a)) a = out at hcalled ⊢
  cases hcalled with
  | keyless hkey run | failed hkey missing run =>
    rw [hkey]
    exact ⟨(congrArg Prod.fst run).symm, h⟩
  | broken fails =>
    rw [fails]
    exact ⟨rfl, h⟩
  | @hit k hkey v found =>
    have hv := h.eq_of_find? hg hkey found
    rw [hkey]
    -- the entry may have moved and may have taken over the key of these arguments, but not its value
    refine ⟨hv.symm, fun e he => ?_⟩
    rcases mem_of_mem_touch he with he | rfl
    · exact h e he
    · exact ⟨a, hkey, hv⟩
  | @stored k hkey missing v world run =>
    have hv : g a = .ok v := congrArg Prod.fst run
    rw [hkey]
    -- what makes room for the new entry only drops others
    refine ⟨hv.symm, fun e he => ?_⟩
    rcases mem_of_mem_insert he with he | rfl
    · exact h e he
    · exact ⟨a, hkey, hv⟩

theorem faithful_after (hg : Respects handle g) (h : Faithful handle g x.memo) (u : Use A σ) :
    Faithful handle g (x.after handle (fun a => pure (g a)) u).memo := by
  cases u with
  | call a => exact (faithful_call hg h a).2
  | clear => exact fun e he => by cases he
  | meanwhile change => exact h

/-- The entries stay right through all uses of a cache. -/
theorem faithful_afterAll (hg : Respects handle g) (h : Faithful handle g x.memo) (us : List (Use A σ)) :
    Faithful handle g (x.afterAll handle (fun a => pure (g a)) us).memo := by
  induction us generalizing x with
  | nil => exact h
  | cons u us ih => exact ih (faithful_after hg h u)

/-- What a call through a cache answers after uses of it. -/
def cached (handle : A → Handle ε κ) (g : A → Except ε α) (policy : Policy) (capacity : Option Int)
    (world : σ) (us : List (Use A σ)) (a : A) : Except ε α :=
  ((Session.afterAll handle (fun a => pure (g a)) (.start capacity policy world) us).call handle
    (fun a => pure (g a)) a).1

/-- A cache answers what the function answers, whatever it was used for before, except where the key of the
    arguments fails. -/
theorem cached_eq (hg : Respects handle g) (policy : Policy) (capacity : Option Int) (world : σ)
    (us : List (Use A σ)) (a : A) :
    cached handle g policy capacity world us a = (handle a).answer (g a) := by
  have hstart : Faithful handle g (Session.start capacity policy world : Session A κ α σ).memo := by
    intro e he
    cases he
  exact (faithful_call hg (faithful_afterAll hg hstart us) a).1

end Memo

/-! ## The decoder

The decoder has a cache of its own. It is shown to answer as without one, so the other parts of this library
need not mention it. -/

/-- A word that a number is decoded as: its fields are the digits of the number. -/
structure Word.Decodes (number : Int) (w : Word) : Prop where
  word : (w.toNat : Int) = number
  family : (w.family : Int) = number / 4096
  x : (w.x.val : Int) = number / 256 % 16
  y : (w.y.val : Int) = number / 16 % 16
  n : (w.n.val : Int) = number % 16
  kk : (w.kk.toNat : Int) = number % 256
  address : (w.address.val : Int) = number % 4096

/-- The fields of a word are the digits of its number. -/
theorem Word.decodes_toNat (w : Word) : Decodes w.toNat w where
  word := rfl
  family := by simp [Word.family]
  x := by simp [Word.x]
  y := by simp [Word.y]
  n := by simp [Word.n]
  kk := by simp [Word.kk, UInt8.toNat_ofNat']
  address := by simp [Word.address]

/-- The number of a word is decoded as the word. -/
theorem Word.ofInt?_toNat (w : Word) : Word.ofInt? w.toNat = .ok w := by
  have := w.toNat_lt
  rw [Word.ofInt?, if_pos (by omega), Int.toNat_natCast, UInt16.ofNat_toNat]

theorem Word.exists_of_le {n : Int} (h0 : 0 ≤ n) (h : n ≤ 0xFFFF) : ∃ w : Word, (w.toNat : Int) = n := by
  refine ⟨UInt16.ofNat n.toNat, ?_⟩
  rw [UInt16.toNat_ofNat']
  omega

/-- What the decoder answers for a number after uses of its cache, which has room for every word. -/
def decoded (us : List (Memo.Use Int Unit)) (n : Int) : Except Misuse Word :=
  Memo.cached .key Word.ofInt? .leastRecent (some 0x10000) () us n

/-- The cache of the decoder makes no difference, since no two numbers are equal keys. -/
theorem decoded_eq (us : List (Memo.Use Int Unit)) (n : Int) : decoded us n = Word.ofInt? n := by
  have hrespects : Memo.Respects .key Word.ofInt? := by
    intro a b j k hj hk heq
    cases hj
    cases hk
    rw [beq_iff_eq.mp heq]
  exact Memo.cached_eq hrespects _ _ _ us n

variable {κ τ : Type} {s : Size} [Seconds τ] [Clock κ τ]

/-- Execute a number that is decoded through the cache. -/
def Machine.executeDecoded (host : Host s) (us : List (Memo.Use Int Unit)) (n : Int) :
    Act (Machine κ τ s) Unit := do
  executeWord host (← Act.ofExcept .misuse (decoded us n))

/-- What a machine that decodes through the cache can rely on, whatever was decoded before. -/
structure Decoding (κ τ : Type) (s : Size) [Seconds τ] [Clock κ τ] (us : List (Memo.Use Int Unit)) :
    Prop where
  /-- A number in range is decoded as its word. -/
  ok : ∀ n, 0 ≤ n → n ≤ 0xFFFF → ∃ w, decoded us n = .ok w ∧ Word.Decodes n w
  /-- A number out of range is refused, and the refusal names it. -/
  error : ∀ n, n < 0 ∨ 0xFFFF < n → decoded us n = .error (.wordOutOfRange n)
  /-- A number is executed as it would be without the cache. -/
  execute : ∀ (host : Host s) n,
    (Machine.executeDecoded host us n : Act (Machine κ τ s) Unit) = Machine.execute host n
  /-- A word that was fetched is executed as it is. -/
  fetched : ∀ (host : Host s) (w : Word),
    (Machine.executeDecoded host us w.toNat : Act (Machine κ τ s) Unit) = Machine.executeWord host w
  /-- The word that a step executes is decoded as what the memory holds at the time of the step. -/
  step : ∀ (host : Host s) (m : Machine κ τ s) w, m.completed host = some w →
    m.board.memory.WordAt m.board.regs.pc w ∧ decoded us w.toNat = .ok w

/-- A machine can rely on the decoder whatever was decoded before. -/
theorem decoding (us : List (Memo.Use Int Unit)) : Decoding κ τ s us where
  ok := by
    intro n h0 h
    -- the cache answers what the decoder answers, so each clause is one about the decoder
    obtain ⟨w, rfl⟩ := Word.exists_of_le h0 h
    exact ⟨w, (decoded_eq us _).trans w.ofInt?_toNat, w.decodes_toNat⟩
  error := by
    intro n hn
    rw [decoded_eq, Word.ofInt?, if_neg (by omega)]
  execute := by
    intro host n
    rw [Machine.executeDecoded, decoded_eq, Machine.execute]
  fetched := by
    intro host w
    rw [Machine.executeDecoded, decoded_eq, Word.ofInt?_toNat, Act.ofExcept, pure_bind]
  step := by
    intro host m w hw
    constructor
    · exact Machine.wordAt_of_completed hw
    · rw [decoded_eq, Word.ofInt?_toNat]

/-- For a function that does not tell equal arguments apart a cache answers what the function answers, except
    that it fails, whatever the function answers, if it fails to take the key of the arguments. So it cannot be
    told from the function exactly where the key is taken, or where the function fails in the same way. The
    cache of the decoder, which takes numbers, answers what the decoder answers. -/
theorem caches_transparent_unless_broken {A κ α ε σ : Type} [BEq κ] {handle : A → Memo.Handle ε κ}
    {g : A → Except ε α} (hg : Memo.Respects handle g) (policy : Policy) (capacity : Option Int) (world : σ)
    (us : List (Memo.Use A σ)) (a : A) :
    (Memo.cached handle g policy capacity world us a =
      match handle a with
      | .broken e => .error e
      | .key _ | .keyless => g a) ∧
    (Memo.cached handle g policy capacity world us a = g a ↔ ∀ e, handle a = .broken e → g a = .error e) ∧
    ∀ (κ τ : Type) (s : Size) [Seconds τ] [Clock κ τ] (us : List (Memo.Use Int Unit)), Decoding κ τ s us := by
  have hanswer := Memo.cached_eq hg policy capacity world us a
  refine ⟨hanswer, ?_, ?_⟩
  · rw [hanswer]
    -- only the third kind of arguments can make a difference
    cases handle a with
    | broken e =>
      constructor
      · intro hsame _ heq
        cases heq
        exact hsame.symm
      · intro hfails
        exact (hfails e rfl).symm
    | key k =>
      constructor
      · intro _ _ heq
        cases heq
      · intro _
        rfl
    | keyless =>
      constructor
      · intro _ _ heq
        cases heq
      · intro _
        rfl
  · intro κ τ s _ _ us
    exact decoding us

/-- The tuple `(1, [2])` has size two, and a cache that was never used fails to answer that. -/
theorem cached_tuple :
    Memo.cached Memo.Argument.handle Memo.Argument.size .leastRecent none () []
        (.tuple [.number 1, .list [2]]) = .error "unhashable type: 'list'" ∧
      Memo.Argument.size (.tuple [.number 1, .list [2]]) = .ok 2 := by
  have hrespects : Memo.Respects Memo.Argument.handle Memo.Argument.size := by
    intro a b j k hj hk heq
    rw [Memo.Argument.eq_of_handle hj, Memo.Argument.eq_of_handle hk, beq_iff_eq.mp heq]
  refine ⟨?_, rfl⟩
  exact (caches_transparent_unless_broken hrespects .leastRecent none () [] (.tuple [.number 1, .list [2]])).1

end Chip8
