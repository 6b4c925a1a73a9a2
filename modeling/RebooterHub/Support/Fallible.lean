/-!
# Support — Fallible

What the success of a computation that may fail says of its parts, and which failures it has.
-/

namespace RebooterHub.Fallible

universe u v

variable {ε : Type u} {α β : Type v}

/-- A sequence succeeds when both parts do. -/
theorem bind_eq_ok {x : Except ε α} {f : α → Except ε β} {b : β}
    (h : (x >>= f) = .ok b) : ∃ a, x = .ok a ∧ f a = .ok b := by
  cases x with
  | error e => cases h
  | ok a => exact ⟨a, rfl, h⟩

/-- What is said of the result of a sequence. -/
theorem exists_bind_and {x : Except ε α} {f : α → Except ε β} {P : β → Prop} :
    (∃ b, (x >>= f) = .ok b ∧ P b) ↔ ∃ a, x = .ok a ∧ ∃ b, f a = .ok b ∧ P b := by
  constructor
  · rintro ⟨b, h, hb⟩
    obtain ⟨a, ha, h⟩ := bind_eq_ok h
    exact ⟨a, ha, b, h, hb⟩
  · rintro ⟨a, rfl, b, h, hb⟩
    exact ⟨b, h, hb⟩

theorem exists_bind {x : Except ε α} {f : α → Except ε β} :
    (∃ b, (x >>= f) = .ok b) ↔ ∃ a, x = .ok a ∧ ∃ b, f a = .ok b := by
  simpa only [and_true] using exists_bind_and (P := fun _ => True)

/-- A result that is converted is there when the result is. -/
theorem map_eq_ok {x : Except ε α} {f : α → β} {b : β} (h : x.map f = .ok b) :
    ∃ a, x = .ok a ∧ f a = b := by
  cases x with
  | error e => cases h
  | ok a => exact ⟨a, rfl, Except.ok.inj h⟩

@[simp] theorem ok_bind (a : α) (f : α → Except ε β) : (Except.ok a >>= f) = f a := rfl

/-- A traversal that succeeds has an answer for each element. -/
theorem mapM_length {f : α → Except ε β} {xs : List α} {ys : List β}
    (h : xs.mapM f = .ok ys) : ys.length = xs.length := by
  induction xs generalizing ys with
  | nil =>
      obtain rfl := Except.ok.inj h
      rfl
  | cons x xs ih =>
      rw [List.mapM_cons] at h
      obtain ⟨y, -, h⟩ := bind_eq_ok h
      obtain ⟨zs, hzs, h⟩ := bind_eq_ok h
      obtain rfl := Except.ok.inj h
      simp [ih hzs]

/-- A traversal succeeds when each step does. -/
theorem mapM_eq_ok {f : α → Except ε β} {g : α → β} {xs : List α}
    (h : ∀ x ∈ xs, f x = .ok (g x)) : xs.mapM f = .ok (xs.map g) := by
  induction xs with
  | nil => rfl
  | cons x xs ih =>
      rw [List.mapM_cons, h x List.mem_cons_self, ih fun y hy => h y (List.mem_cons_of_mem x hy)]
      rfl

theorem exists_mapM {f : α → Except ε β} {xs : List α} (h : ∀ x ∈ xs, ∃ y, f x = .ok y) :
    ∃ ys, xs.mapM f = .ok ys := by
  induction xs with
  | nil => exact ⟨[], rfl⟩
  | cons x xs ih =>
      obtain ⟨y, hy⟩ := h x List.mem_cons_self
      obtain ⟨ys, hys⟩ := ih fun a ha => h a (List.mem_cons_of_mem x ha)
      refine ⟨y :: ys, ?_⟩
      rw [List.mapM_cons, hy, hys]
      rfl

/-- An answer of a traversal is that to some element. -/
theorem mem_of_mapM {f : α → Except ε β} {xs : List α} {ys : List β} (h : xs.mapM f = .ok ys)
    {y : β} (hy : y ∈ ys) : ∃ x ∈ xs, f x = .ok y := by
  induction xs generalizing ys with
  | nil =>
      obtain rfl := Except.ok.inj h
      cases hy
  | cons a xs ih =>
      rw [List.mapM_cons] at h
      obtain ⟨b, hb, h⟩ := bind_eq_ok h
      obtain ⟨bs, hbs, h⟩ := bind_eq_ok h
      obtain rfl := Except.ok.inj h
      rcases List.mem_cons.mp hy with rfl | hy
      · exact ⟨a, List.mem_cons_self, hb⟩
      · obtain ⟨x, hx, hf⟩ := ih hbs hy
        exact ⟨x, List.mem_cons_of_mem a hx, hf⟩

/-- Each element of a traversal that succeeds has its answer among the answers. -/
theorem exists_mem_of_mapM {f : α → Except ε β} {xs : List α} {ys : List β}
    (h : xs.mapM f = .ok ys) {x : α} (hx : x ∈ xs) : ∃ y ∈ ys, f x = .ok y := by
  induction xs generalizing ys with
  | nil => cases hx
  | cons a xs ih =>
      rw [List.mapM_cons] at h
      obtain ⟨b, hb, h⟩ := bind_eq_ok h
      obtain ⟨bs, hbs, h⟩ := bind_eq_ok h
      obtain rfl := Except.ok.inj h
      rcases List.mem_cons.mp hx with rfl | hx
      · exact ⟨b, List.mem_cons_self, hb⟩
      · obtain ⟨y, hy, hf⟩ := ih hbs hx
        exact ⟨y, List.mem_cons_of_mem b hy, hf⟩

/-- A step that fails makes the traversal fail. -/
theorem mapM_error_of_mem {f : α → Except ε β} {xs : List α} {x : α} {e : ε} (hx : x ∈ xs)
    (h : f x = .error e) : ∃ e', xs.mapM f = .error e' := by
  induction xs with
  | nil => cases hx
  | cons y ys ih =>
      rw [List.mapM_cons]
      cases hy : f y with
      | error e' => exact ⟨e', rfl⟩
      | ok b =>
          rcases List.mem_cons.mp hx with rfl | hx
          · rw [h] at hy
            cases hy
          · obtain ⟨e', he'⟩ := ih hx
            exact ⟨e', by rw [he']; rfl⟩

/-- The answers of a traversal, by a key that tells them apart. -/
theorem map_mapM {f : α → Except ε β} {key : β → α} (hkey : ∀ a b, f a = .ok b → key b = a)
    {xs : List α} {ys : List β} (h : xs.mapM f = .ok ys) : ys.map key = xs := by
  induction xs generalizing ys with
  | nil =>
      obtain rfl := Except.ok.inj h
      rfl
  | cons a xs ih =>
      rw [List.mapM_cons] at h
      obtain ⟨b, hb, h⟩ := bind_eq_ok h
      obtain ⟨bs, hbs, h⟩ := bind_eq_ok h
      obtain rfl := Except.ok.inj h
      rw [List.map_cons, hkey a b hb, ih hbs]

/-- A traversal gives each element its answer; `key` tells which. -/
theorem find?_of_mapM [DecidableEq α] {f : α → Except ε β} {key : β → α}
    (hkey : ∀ a b, f a = .ok b → key b = a) {xs : List α} {ys : List β}
    (h : xs.mapM f = .ok ys) {x : α} (hx : x ∈ xs) :
    ∃ y, ys.find? (key · = x) = some y ∧ f x = .ok y := by
  induction xs generalizing ys with
  | nil => cases hx
  | cons a xs ih =>
      rw [List.mapM_cons] at h
      obtain ⟨b, hb, h⟩ := bind_eq_ok h
      obtain ⟨bs, hbs, h⟩ := bind_eq_ok h
      obtain rfl := Except.ok.inj h
      by_cases ha : a = x
      · subst ha
        exact ⟨b, List.find?_cons_of_pos (by simpa using hkey a b hb), hb⟩
      · obtain ⟨y, hy, hf⟩ := ih hbs ((List.mem_cons.mp hx).resolve_left (Ne.symm ha))
        refine ⟨y, ?_, hf⟩
        rw [List.find?_cons_of_neg (by simpa [hkey a b hb] using ha), hy]

/-- A loop whose steps succeed under a condition on their elements alone. -/
theorem foldlM_eq_ok_iff {σ : Type v} {f : σ → α → Except ε σ} {g : σ → α → σ} {C : α → Prop}
    (h : ∀ s a t, f s a = .ok t ↔ C a ∧ t = g s a) {xs : List α} {s t : σ} :
    xs.foldlM f s = .ok t ↔ (∀ x ∈ xs, C x) ∧ t = xs.foldl g s := by
  induction xs generalizing s with
  | nil => simp [pure, Except.pure, eq_comm]
  | cons a xs ih =>
      rw [List.foldlM_cons, List.foldl_cons, List.forall_mem_cons]
      constructor
      · intro hloop
        obtain ⟨u, hu, hloop⟩ := bind_eq_ok hloop
        obtain ⟨ha, rfl⟩ := (h s a u).mp hu
        obtain ⟨hall, rfl⟩ := ih.mp hloop
        exact ⟨⟨ha, hall⟩, rfl⟩
      · rintro ⟨⟨ha, hall⟩, rfl⟩
        rw [(h s a _).mpr ⟨ha, rfl⟩, ok_bind]
        exact ih.mpr ⟨hall, rfl⟩

/-! ### Failures -/

variable {P : ε → Prop}

/-- The failures of a computation are of one kind. -/
def FailsWith (P : ε → Prop) (x : Except ε α) : Prop := ∀ e, x = .error e → P e

theorem FailsWith.ok (a : α) : FailsWith P (.ok a) := nofun

theorem FailsWith.error {e : ε} (h : P e) : FailsWith P (.error e : Except ε α) := by
  intro e' he
  cases he
  exact h

/-- The failures of a sequence are those of its parts. -/
theorem FailsWith.bind {x : Except ε α} {f : α → Except ε β} (hx : FailsWith P x)
    (hf : ∀ a, FailsWith P (f a)) : FailsWith P (x >>= f) := by
  cases x with
  | error e => exact .error (hx e rfl)
  | ok a => exact hf a

theorem FailsWith.ite {c : Prop} [Decidable c] {x y : Except ε α} (hx : FailsWith P x)
    (hy : FailsWith P y) : FailsWith P (if c then x else y) := by
  split
  · exact hx
  · exact hy

/-- How a computation may end: in such a failure, or with such a result. -/
def Ends (P : ε → Prop) (Q : α → Prop) : Except ε α → Prop
  | .error e => P e
  | .ok a => Q a

variable {Q : α → Prop}

theorem ends_error {e : ε} : Ends P Q (.error e : Except ε α) ↔ P e := Iff.rfl

theorem ends_ok {a : α} : Ends P Q (.ok a : Except ε α) ↔ Q a := Iff.rfl

/-- A sequence ends as the second part does on what the first part gives. -/
theorem ends_bind {x : Except ε α} {f : α → Except ε β} {R : β → Prop} :
    Ends P R (x >>= f) ↔ Ends P (fun a => Ends P R (f a)) x := by
  cases x with
  | error e => exact Iff.rfl
  | ok a => exact Iff.rfl

theorem ends_iff {x : Except ε α} : Ends P Q x ↔ FailsWith P x ∧ ∀ a, x = .ok a → Q a := by
  cases x with
  | error e => exact ⟨fun h => ⟨.error h, nofun⟩, fun h => h.1 e rfl⟩
  | ok a =>
      refine ⟨fun h => ⟨.ok a, fun b hb => ?_⟩, fun h => h.2 a rfl⟩
      obtain rfl := Except.ok.inj hb
      exact h

theorem failsWith_iff_ends {x : Except ε α} : FailsWith P x ↔ Ends P (fun _ => True) x := by
  rw [ends_iff, and_iff_left fun _ _ => trivial]

/-- A computation with no such failure ends well when it succeeds. -/
theorem ends_of_failsWith_not {x : Except ε α} (h : FailsWith (¬ P ·) x) :
    Ends P Q x ↔ ∃ a, x = .ok a ∧ Q a := by
  cases x with
  | error e => exact iff_of_false (h e rfl) nofun
  | ok a =>
      refine ⟨fun ha => ⟨a, rfl, ha⟩, fun ⟨b, hb, hQ⟩ => ?_⟩
      obtain rfl := Except.ok.inj hb
      exact hQ

/-- The failures of a sequence are those of the first part, and of the second where it is reached. -/
theorem failsWith_bind_iff {x : Except ε α} {f : α → Except ε β} :
    FailsWith P (x >>= f) ↔ FailsWith P x ∧ ∀ a, x = .ok a → FailsWith P (f a) := by
  rw [failsWith_iff_ends, ends_bind, ends_iff]
  simp only [failsWith_iff_ends]

/-! ### Results -/

/-- The computation gives such a result. -/
def Yields (Q : α → Prop) (x : Except ε α) : Prop := ∃ a, x = .ok a ∧ Q a

theorem yields_ok {a : α} : Yields Q (.ok a : Except ε α) ↔ Q a := by
  refine ⟨fun ⟨b, hb, h⟩ => ?_, fun h => ⟨a, rfl, h⟩⟩
  obtain rfl := Except.ok.inj hb
  exact h

theorem yields_bind {x : Except ε α} {f : α → Except ε β} {R : β → Prop} :
    Yields R (x >>= f) ↔ ∃ a, x = .ok a ∧ Yields R (f a) := exists_bind_and

theorem yields_of_ok {x : Except ε α} {a : α} {f : α → Except ε β} {R : β → Prop}
    (h : x = .ok a) : Yields R (x >>= f) ↔ Yields R (f a) := by
  rw [h]
  exact Iff.rfl

/-- A check that gives an unwanted result. -/
theorem yields_guard {c : Prop} [Decidable c] {a : α} {rest : Except ε α} (h : ¬ Q a) :
    Yields Q (if c then pure a else rest) ↔ ¬ c ∧ Yields Q rest := by
  split
  · next hc => exact iff_of_false (fun hyields => h (yields_ok.mp hyields)) fun hn => hn.1 hc
  · next hc => exact (and_iff_right hc).symm

/-- A traversal succeeds only when each step does. -/
theorem exists_mapM_iff {f : α → Except ε β} {xs : List α} :
    (∃ ys, xs.mapM f = .ok ys) ↔ ∀ x ∈ xs, ∃ y, f x = .ok y := by
  refine ⟨fun ⟨ys, hys⟩ x hx => ?_, exists_mapM⟩
  obtain ⟨y, -, hy⟩ := exists_mem_of_mapM hys hx
  exact ⟨y, hy⟩

end RebooterHub.Fallible
