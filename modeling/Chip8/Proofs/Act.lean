import Chip8.Failure
/-!
What every run of an operation does, whether it succeeds or fails.

An operation of the machine is a function of the state that answers or fails, and a failure leaves the state
as it was changed till then. So nothing can be said of an operation by looking at its successful runs only,
and the three predicates of this module are about all runs:

* `Act.Keeps P act` says that `act` never leaves a state without `P` if it began in one with `P`. With
  `P` saying that a part of the state has a certain value, this is a frame condition.
* `Act.FailsWith P act` says that each failure of `act` is one of `P`, from any state.
* `Act.Together R x y` says that `x` and `y` answer the same and keep `R` between their states, from
  any two states with `R`. This is what simulations are made of: of two machines, or of one machine and a
  specification of it.

Each has a rule for everything that operations are made of: sequencing, reading and changing the state, taking
up an error, handling a fault, and choice. An operation that is built from smaller ones is dealt with by
naming the smaller ones in the order in which they run, as in a Hoare proof, and the equations of `exec` are
used for the rules only. The rule for reading the state (`get_bind`) differs from the one for sequencing: what
comes after may depend on the state that was read, and then only that state counts.
-/

namespace Chip8.Act

variable {σ α β : Type}

/-! ## Sequencing

The equation of `>>=` with its first operation already run. -/

theorem exec_bind_of_ok {x : Act σ α} {f : α → Act σ β} {s t : σ} {a : α}
    (h : x.exec s = (.ok a, t)) : (x >>= f).exec s = (f a).exec t := by
  rw [exec_bind, h]

theorem exec_bind_of_error {x : Act σ α} {f : α → Act σ β} {s t : σ} {e : Failure}
    (h : x.exec s = (.error e, t)) : (x >>= f).exec s = (.error e, t) := by
  rw [exec_bind, h]

theorem exec_get_bind (f : σ → Act σ β) (s : σ) : (get >>= f).exec s = (f s).exec s :=
  exec_bind_of_ok (exec_get s)

theorem exec_modify_bind (g : σ → σ) (f : PUnit → Act σ β) (s : σ) :
    (modify g >>= f).exec s = (f ⟨⟩).exec (g s) :=
  exec_bind_of_ok (exec_modify g s)

/-- What comes after an operation may do no more than answer something else. Then the whole leaves the state
    that the operation leaves, whether it fails or not. -/
theorem exec_bind_pure (x : Act σ α) (b : β) (s : σ) :
    ((x >>= fun _ => pure b).exec s).2 = (x.exec s).2 := by
  rw [exec_bind]
  generalize x.exec s = out
  obtain ⟨answer, t⟩ := out
  cases answer <;> rfl

/-- What comes after a handled operation runs after its handler, too. -/
theorem exec_onFault_bind (x : Act σ α) (handler : Fault → Act σ α) (f : α → Act σ β) (s : σ) :
    (x.onFault handler >>= f).exec s =
      match x.exec s with
      | (.error (.fault e), t) => (handler e >>= f).exec t
      | (.error e, t) => (.error e, t)
      | (.ok a, t) => (f a).exec t := by
  rw [exec_bind, exec_onFault]
  generalize x.exec s = out
  obtain ⟨answer, t⟩ := out
  cases answer with
  | ok a => rfl
  | error e =>
    cases e with
    -- the handler answers in the place of `x`, and what comes after is the same
    | fault e => exact (exec_bind (handler e) f t).symm
    | _ => rfl

/-! ## Properties of the state that are kept

An operation keeps a property of the state if it leads from states with the property to states with it,
whatever it answers. Each way of building an operation has a rule here, so a proof about an operation
follows the text of it and no state is ever written out. -/

/-- Every run of the operation, failing or not, keeps `P`. A failure does not undo what was done before it, so
    the state that a failed run leaves counts as much as any other. -/
def Keeps (P : σ → Prop) (act : Act σ α) : Prop := ∀ s, P s → P (act.exec s).2

namespace Keeps

variable {P : σ → Prop}

theorem pure (a : α) : Keeps P (Pure.pure a : Act σ α) := by
  intro s hs
  exact hs

theorem throw (e : Failure) : Keeps P (MonadExcept.throw e : Act σ α) := by
  intro s hs
  exact hs

theorem get : Keeps P (MonadState.get : Act σ σ) := by
  intro s hs
  exact hs

theorem modify {f : σ → σ} (h : ∀ s, P s → P (f s)) :
    Keeps P (modify f : Act σ PUnit) := by
  intro s hs
  exact h s hs

theorem ofExcept {ε : Type} (wrap : ε → Failure) (r : Except ε α) :
    Keeps P (Act.ofExcept wrap r : Act σ α) := by
  intro s hs
  rw [exec_ofExcept]
  exact hs

/-- The second operation may be chosen by the answer of the first, so each choice must keep `P`. -/
theorem bind {x : Act σ α} {f : α → Act σ β} (hx : Keeps P x) (hf : ∀ a, Keeps P (f a)) :
    Keeps P (x >>= f) := by
  intro s hs
  have ht := hx s hs
  rw [exec_bind]
  generalize x.exec s = out at ht ⊢
  obtain ⟨e | a, t⟩ := out
  · -- a failure ends the run here
    exact ht
  · exact hf a t ht

/-- What comes after reading the state may use what was read: only that state counts. -/
theorem get_bind {f : σ → Act σ β} (h : ∀ s, P s → P ((f s).exec s).2) :
    Keeps P (MonadState.get >>= f) := by
  intro s hs
  rw [exec_get_bind]
  exact h s hs

/-- A handler goes on from the state that the fault left. -/
theorem onFault {act : Act σ α} {handler : Fault → Act σ α} (hact : Keeps P act)
    (hhandler : ∀ f, Keeps P (handler f)) : Keeps P (act.onFault handler) := by
  intro s hs
  have ht := hact s hs
  rw [exec_onFault]
  generalize act.exec s = out at ht ⊢
  obtain ⟨answer, t⟩ := out
  cases answer with
  | ok a => exact ht
  | error e =>
    cases e with
    | fault f => exact hhandler f t ht
    | _ => exact ht

/-- The condition was evaluated before either operation runs. -/
theorem ite {c : Prop} [Decidable c] {x y : Act σ α} (hx : Keeps P x) (hy : Keeps P y) :
    Keeps P (if c then x else y) := by
  split
  · exact hx
  · exact hy

/-- Two properties that are kept apart are kept together. -/
theorem and {Q : σ → Prop} {act : Act σ α} (hP : Keeps P act) (hQ : Keeps Q act) :
    Keeps (fun s => P s ∧ Q s) act := by
  intro s hs
  exact ⟨hP s hs.1, hQ s hs.2⟩

end Keeps

/-! ## Failures

The same rules for the errors of an operation: which of them it can fail with, given that its parts fail
with no others. -/

/-- Every failure of the operation is one of `P`. Nothing is said of the state that it leaves, and an operation
    that never fails has every `P`. -/
def FailsWith (P : Failure → Prop) (act : Act σ α) : Prop := ∀ s e, (act.exec s).1 = .error e → P e

namespace FailsWith

variable {P : Failure → Prop}

theorem pure (a : α) : FailsWith P (Pure.pure a : Act σ α) := by
  intro s e he
  cases he

theorem get : FailsWith P (MonadState.get : Act σ σ) := by
  intro s e he
  cases he

theorem modify (f : σ → σ) : FailsWith P (modify f : Act σ PUnit) := by
  intro s e he
  cases he

/-- The failure is that of the error, if there is one. -/
theorem ofExcept_of {ε : Type} {wrap : ε → Failure} {r : Except ε α}
    (h : ∀ e, r = .error e → P (wrap e)) : FailsWith P (Act.ofExcept wrap r : Act σ α) := by
  intro s e he
  rw [exec_ofExcept] at he
  cases r with
  | ok a => cases he
  | error e' =>
    cases he
    exact h e' rfl

/-- Whichever error it is, its failure is one of `P`. -/
theorem ofExcept {ε : Type} {wrap : ε → Failure} (h : ∀ e, P (wrap e)) (r : Except ε α) :
    FailsWith P (Act.ofExcept wrap r : Act σ α) :=
  ofExcept_of fun e _ => h e

/-- The second operation may be chosen by the answer of the first. -/
theorem bind {x : Act σ α} {f : α → Act σ β} (hx : FailsWith P x) (hf : ∀ a, FailsWith P (f a)) :
    FailsWith P (x >>= f) := by
  intro s e he
  have hx := hx s
  rw [exec_bind] at he
  generalize x.exec s = out at hx he
  obtain ⟨answer, t⟩ := out
  cases answer with
  | error e' =>
    -- the failure of the whole is that of the first operation
    cases he
    exact hx _ rfl
  | ok a => exact hf a t e he

theorem throw {e : Failure} (h : P e) : FailsWith P (MonadExcept.throw e : Act σ α) := by
  intro s e' he
  cases he
  exact h

end FailsWith

/-! ## Two runs

Two operations on two kinds of state go in step if they lead from related states to related ones with the
same answer. All comparisons of machines in this library are instances of this, with one relation or
another. -/

variable {σ' : Type}

/-- Two runs come to the same answer, and to states with `R`. Failures are answers, too: the runs fail alike or
    not at all. -/
def Paired (R : σ → σ' → Prop) (out : Except Failure α × σ) (out' : Except Failure α × σ') : Prop :=
  out.1 = out'.1 ∧ R out.2 out'.2

/-- The first operations answered the same, so the second ones are chosen by the same answer. -/
theorem Paired.bind {R : σ → σ' → Prop} {x : Act σ α} {y : Act σ' α} {f : α → Act σ β}
    {g : α → Act σ' β} {s : σ} {t : σ'} (hout : Paired R (x.exec s) (y.exec t))
    (hf : ∀ a s t, R s t → Paired R ((f a).exec s) ((g a).exec t)) :
    Paired R ((x >>= f).exec s) ((y >>= g).exec t) := by
  rw [exec_bind, exec_bind]
  generalize x.exec s = out at hout ⊢
  generalize y.exec t = out' at hout ⊢
  obtain ⟨answer, s'⟩ := out
  obtain ⟨answer', t'⟩ := out'
  obtain ⟨hanswer, hR⟩ := hout
  obtain rfl : answer = answer' := hanswer
  -- both go on or both stop here, since they answered the same
  cases answer with
  | error e => exact ⟨rfl, hR⟩
  | ok a => exact hf a s' t' hR

/-- From any two states with `R`, two operations come to the same answer, and to states with `R`. The states may
    be of different types, so this also relates a system to one with more in it. -/
def Together (R : σ → σ' → Prop) (x : Act σ α) (y : Act σ' α) : Prop :=
  ∀ s t, R s t → Paired R (x.exec s) (y.exec t)

namespace Together

variable {R : σ → σ' → Prop}

theorem pure (a : α) : Together R (Pure.pure a : Act σ α) (Pure.pure a) := by
  intro s t h
  exact ⟨rfl, h⟩

theorem throw (e : Failure) : Together R (MonadExcept.throw e : Act σ α) (MonadExcept.throw e) := by
  intro s t h
  exact ⟨rfl, h⟩

theorem modify {f : σ → σ} {g : σ' → σ'} (h : ∀ s t, R s t → R (f s) (g t)) :
    Together R (modify f : Act σ PUnit) (modify g) := by
  intro s t hst
  exact ⟨rfl, h s t hst⟩

theorem ofExcept {ε : Type} (wrap : ε → Failure) (r : Except ε α) :
    Together R (Act.ofExcept wrap r : Act σ α) (Act.ofExcept wrap r) := by
  intro s t h
  rw [exec_ofExcept, exec_ofExcept]
  exact ⟨rfl, h⟩

/-- The second operations only have to go together after the same answer. -/
theorem bind {x : Act σ α} {y : Act σ' α} {f : α → Act σ β} {g : α → Act σ' β} (hx : Together R x y)
    (hf : ∀ a, Together R (f a) (g a)) : Together R (x >>= f) (y >>= g) := by
  intro s t h
  exact (hx s t h).bind hf

/-- What comes after reading the states may use what was read: only those states count. -/
theorem get_bind {f : σ → Act σ β} {g : σ' → Act σ' β}
    (h : ∀ s t, R s t → Paired R ((f s).exec s) ((g t).exec t)) :
    Together R (MonadState.get >>= f) (MonadState.get >>= g) := by
  intro s t hst
  rw [exec_get_bind, exec_get_bind]
  exact h s t hst

/-- If both end in a fault it is the same one, and their handlers go on from states with `R`. -/
theorem onFault {x : Act σ α} {y : Act σ' α} {f : Fault → Act σ α} {g : Fault → Act σ' α}
    (hx : Together R x y) (hf : ∀ e, Together R (f e) (g e)) :
    Together R (x.onFault f) (y.onFault g) := by
  intro s t h
  have hout := hx s t h
  rw [exec_onFault, exec_onFault]
  -- the answers agree, so both handlers run or neither does
  generalize x.exec s = out at hout ⊢
  generalize y.exec t = out' at hout ⊢
  obtain ⟨answer, s'⟩ := out
  obtain ⟨answer', t'⟩ := out'
  obtain ⟨hanswer, hR⟩ := hout
  obtain rfl : answer = answer' := hanswer
  cases answer with
  | ok a => exact ⟨rfl, hR⟩
  | error e =>
    cases e with
    | fault f' => exact hf f' s' t' hR
    | _ => exact ⟨rfl, hR⟩

/-- A condition that is the same on both sides has been evaluated before. -/
theorem ite {c : Prop} [Decidable c] {x x' : Act σ α} {y y' : Act σ' α} (hx : Together R x y)
    (hx' : Together R x' y') : Together R (if c then x else x') (if c then y else y') := by
  split
  · exact hx
  · exact hx'

end Together

end Chip8.Act
