/-!
# Support — Transaction

Computations on a state that may raise, as `EStateM`: what a computation wrote before it raised
stands, unless it ran in a transaction.

* `scope` is the transaction: it keeps what its body wrote when the body returns, and undoes it
  when the body raises.
* `exec` is the state a computation leaves, whichever way it ends.
* The lemmas after them say what it means that a computation returned or raised, form by form.
* `Atomic` computations leave the state alone when they raise.
* `Keeps R` computations relate the state before to the state they leave.
-/

namespace RebooterHub.Transaction

universe u

variable {ε σ α β : Type u} {s t : σ} {e : ε}

/-- A transaction. -/
def scope (body : EStateM ε σ α) : EStateM ε σ α := fun s =>
  match body s with
  | .ok a t => .ok a t
  | .error e _ => .error e s

/-- A check that raises. -/
def require (p : Prop) [Decidable p] (e : ε) : EStateM ε σ PUnit :=
  if p then pure ⟨⟩ else throw e

/-- The state a computation leaves. -/
def exec (x : EStateM ε σ α) (s : σ) : σ :=
  match x s with
  | .ok _ t => t
  | .error _ t => t

/-- What a computation returns, if it does. -/
def returned (x : EStateM ε σ α) (s : σ) : Option α :=
  match x s with
  | .ok a _ => some a
  | .error _ _ => none

/-! ### What success says -/

/-- A sequence returns when both parts do. -/
theorem bind_eq_ok {x : EStateM ε σ α} {f : α → EStateM ε σ β} {b : β}
    (h : (x >>= f) s = .ok b t) : ∃ a u, x s = .ok a u ∧ f a u = .ok b t := by
  change EStateM.bind x f s = _ at h
  rw [EStateM.bind] at h
  split at h
  · next a u hx => exact ⟨a, u, hx, h⟩
  · cases h

theorem bind_of_ok {x : EStateM ε σ α} {a : α} {u : σ} (h : x s = .ok a u)
    (f : α → EStateM ε σ β) : (x >>= f) s = f a u := by
  change EStateM.bind x f s = _
  rw [EStateM.bind, h]

theorem bind_of_error {x : EStateM ε σ α} (h : x s = .error e t) (f : α → EStateM ε σ β) :
    (x >>= f) s = .error e t := by
  change EStateM.bind x f s = _
  rw [EStateM.bind, h]

theorem require_bind_eq_ok {p : Prop} [Decidable p] {f : PUnit → EStateM ε σ α} {a : α}
    (h : (require p e >>= f) s = .ok a t) : p ∧ f ⟨⟩ s = .ok a t := by
  rw [require] at h
  split at h
  · next hp => exact ⟨hp, h⟩
  · cases h

theorem require_bind {p : Prop} [Decidable p] (hp : p) (f : PUnit → EStateM ε σ α) :
    (require p e >>= f) s = f ⟨⟩ s := by
  rw [require, if_pos hp]
  rfl

/-- A sequence raises when one of its parts does. -/
theorem bind_eq_error {x : EStateM ε σ α} {f : α → EStateM ε σ β}
    (h : (x >>= f) s = .error e t) : x s = .error e t ∨ ∃ a u, x s = .ok a u ∧ f a u = .error e t := by
  change EStateM.bind x f s = _ at h
  rw [EStateM.bind] at h
  split at h
  · next a u hx => exact .inr ⟨a, u, hx, h⟩
  · next e' u hx =>
      cases h
      exact .inl hx

theorem require_bind_eq_error {p : Prop} [Decidable p] {e' : ε} {f : PUnit → EStateM ε σ α}
    (h : (require p e' >>= f) s = .error e t) : (¬p ∧ e = e') ∨ (p ∧ f ⟨⟩ s = .error e t) := by
  rw [require] at h
  split at h
  · next hp => exact .inr ⟨hp, h⟩
  · next hp =>
      cases h
      exact .inl ⟨hp, rfl⟩

theorem require_bind_of_not {p : Prop} [Decidable p] (hp : ¬p) (f : PUnit → EStateM ε σ α) :
    (require p e >>= f) s = .error e s := by
  rw [require, if_neg hp]
  rfl

theorem get_bind (f : σ → EStateM ε σ α) : (get >>= f) s = f s s := rfl

theorem modify_bind (g : σ → σ) (f : PUnit → EStateM ε σ α) : (modify g >>= f) s = f ⟨⟩ (g s) := rfl

theorem scope_eq_ok {body : EStateM ε σ α} {a : α} (h : scope body s = .ok a t) :
    body s = .ok a t := by
  rw [scope] at h
  split at h
  · next hbody => rw [hbody, h]
  · cases h

theorem scope_of_ok {body : EStateM ε σ α} {a : α} (h : body s = .ok a t) :
    scope body s = .ok a t := by
  rw [scope, h]

theorem scope_of_error {body : EStateM ε σ α} (h : body s = .error e t) :
    scope body s = .error e s := by
  rw [scope, h]

theorem scope_raised {body : EStateM ε σ α} (h : scope body s = .error e t) :
    ∃ u, body s = .error e u := by
  rw [scope] at h
  split at h
  · cases h
  · next e' u hbody =>
      cases h
      exact ⟨u, hbody⟩

/-- **Rollback.**  A transaction that raises leaves the state as it found it. -/
theorem scope_eq_error {body : EStateM ε σ α} (h : scope body s = .error e t) : t = s := by
  rw [scope] at h
  split at h
  · cases h
  · cases h
    rfl

theorem exec_of_ok {x : EStateM ε σ α} {a : α} (h : x s = .ok a t) : exec x s = t := by
  rw [exec, h]

/-! ### Atomic computations -/

/-- A computation that leaves the state alone when it raises. -/
def Atomic (x : EStateM ε σ α) : Prop := ∀ s e t, x s = .error e t → t = s

theorem atomic_scope (body : EStateM ε σ α) : Atomic (scope body) := fun _ _ _ => scope_eq_error

/-- An atomic computation either raised or returned. -/
theorem Atomic.exec_cases {x : EStateM ε σ α} (hx : Atomic x) (s : σ) :
    exec x s = s ∨ ∃ a, x s = .ok a (exec x s) := by
  rw [exec]
  cases hxs : x s with
  | ok a t => exact .inr ⟨a, rfl⟩
  | error e t => exact .inl (hx s e t hxs)

/-- What follows an atomic computation does not raise. -/
theorem Atomic.bind {x : EStateM ε σ α} {f : α → EStateM ε σ β} (hx : Atomic x)
    (hf : ∀ a s, ∃ b t, f a s = .ok b t) : Atomic (x >>= f) := by
  intro s e t h
  change EStateM.bind x f s = _ at h
  rw [EStateM.bind] at h
  split at h
  · next a u hxs =>
      obtain ⟨b, v, hfu⟩ := hf a u
      rw [hfu] at h
      cases h
  · next e' u hxs =>
      cases h
      exact hx s _ _ hxs

/-! ### What a computation keeps -/

/-- Whichever way the computation ends, the states before and after are related. -/
def Keeps (R : σ → σ → Prop) (x : EStateM ε σ α) : Prop := ∀ s, R s (exec x s)

variable {R : σ → σ → Prop}

theorem exec_bind_of_ok {x : EStateM ε σ α} {f : α → EStateM ε σ β} {a : α} (h : x s = .ok a t) :
    exec (x >>= f) s = exec (f a) t := by
  rw [exec, bind_of_ok h, ← exec]

theorem exec_bind_of_error {x : EStateM ε σ α} {f : α → EStateM ε σ β} (h : x s = .error e t) :
    exec (x >>= f) s = t := by
  rw [exec, bind_of_error h]

theorem exec_of_error {x : EStateM ε σ α} (h : x s = .error e t) : exec x s = t := by
  rw [exec, h]

theorem Keeps.of_ok {x : EStateM ε σ α} {a : α} (hx : Keeps R x) (h : x s = .ok a t) : R s t :=
  exec_of_ok h ▸ hx s

theorem Keeps.of_error {x : EStateM ε σ α} (hx : Keeps R x) (h : x s = .error e t) : R s t :=
  exec_of_error h ▸ hx s

theorem keeps_pure (hrefl : ∀ s, R s s) (a : α) : Keeps R (pure a : EStateM ε σ α) := hrefl

theorem keeps_throw (hrefl : ∀ s, R s s) (e : ε) : Keeps R (throw e : EStateM ε σ α) := hrefl

theorem keeps_get (hrefl : ∀ s, R s s) : Keeps R (get : EStateM ε σ σ) := hrefl

theorem keeps_modify {g : σ → σ} (hg : ∀ s, R s (g s)) : Keeps R (modify g : EStateM ε σ PUnit) :=
  hg

/-- A sequence keeps what its parts keep. -/
theorem Keeps.bind (htrans : ∀ s t u, R s t → R t u → R s u) {x : EStateM ε σ α}
    {f : α → EStateM ε σ β} (hx : Keeps R x) (hf : ∀ a, Keeps R (f a)) : Keeps R (x >>= f) := by
  intro s
  cases hxs : x s with
  | ok a t =>
      rw [exec_bind_of_ok hxs]
      exact htrans s t _ (hx.of_ok hxs) (hf a t)
  | error e t =>
      rw [exec_bind_of_error hxs]
      exact hx.of_error hxs

end RebooterHub.Transaction
