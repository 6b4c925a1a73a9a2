import Mathlib.Data.Option.Basic
import Mathlib.Logic.Function.Basic
import Mathlib.Logic.Relation

/-!
# Support — Pointers

Things that each point at one other, or at none.

* `Leads next a b`: the pointers from `a` on come to `b`.
* `Path next a path`: the pointers from `a` on go through `path`, and end.
* `Acyclic next`: no pointer comes back.
* `acyclic_update_iff`: pointing `a` at `b` keeps them so just when `b` does not lead to `a`.
-/

namespace RebooterHub.Pointers
open Relation (ReflTransGen TransGen)

variable {α : Type*} {next next' : α → Option α} {a b c : α}

/-- `a` points at `b`. -/
def Points (next : α → Option α) (a b : α) : Prop := next a = some b

instance [DecidableEq α] : Decidable (Points next a b) :=
  inferInstanceAs (Decidable (next a = some b))

/-- The pointers from `a` on come to `b`, which may be `a`. -/
def Leads (next : α → Option α) : α → α → Prop := ReflTransGen (Points next)

/-- The pointers from `a` on go through `path`, and end there. -/
inductive Path (next : α → Option α) : α → List α → Prop where
  | last {a : α} (hnext : next a = none) : Path next a []
  | step {a b : α} {path : List α} (hnext : next a = some b) (rest : Path next b path) :
      Path next a (b :: path)

/-- The pointers from nothing come back to it. -/
def Acyclic (next : α → Option α) : Prop := ∀ a, ¬ TransGen (Points next) a a

/-- Pointers that are taken away make no cycle. -/
theorem Acyclic.mono (h : Acyclic next) (hle : ∀ a b, next' a = some b → next a = some b) :
    Acyclic next' :=
  fun a hcycle => h a (TransGen.mono (fun a b => hle a b) a a hcycle)

/-- What points at nothing leads nowhere else. -/
theorem leads_of_none (hnone : next a = none) : Leads next a b ↔ a = b := by
  constructor
  · intro h
    rcases h.cases_head with rfl | ⟨c, hpoints, -⟩
    · rfl
    · rw [Points, hnone] at hpoints
      cases hpoints
  · rintro rfl
    exact .refl

theorem leads_of_some (hnext : next a = some c) (hne : a ≠ b) :
    Leads next a b ↔ Leads next c b := by
  constructor
  · intro h
    rcases h.cases_head with rfl | ⟨c', hpoints, hleads⟩
    · exact absurd rfl hne
    · obtain rfl := Option.some.inj (hnext.symm.trans hpoints)
      exact hleads
  · exact .head hnext

theorem path_of_some (hsome : next a = some b) {path : List α} :
    Path next a path ↔ ∃ rest, path = b :: rest ∧ Path next b rest := by
  constructor
  · intro h
    cases h with
    | last hnext =>
        rw [hsome] at hnext
        cases hnext
    | step hnext rest =>
        obtain rfl := Option.some.inj (hsome.symm.trans hnext)
        exact ⟨_, rfl, rest⟩
  · rintro ⟨rest, rfl, hrest⟩
    exact .step hsome hrest

/-- A path that ends is no longer than the path from what it points at, and one more. -/
theorem path_lt_of_some (hsome : next a = some b) {n : Nat} :
    (∃ path, Path next a path ∧ path.length < n + 1) ↔
      ∃ path, Path next b path ∧ path.length < n := by
  constructor
  · rintro ⟨path, hpath, hlength⟩
    obtain ⟨rest, rfl, hrest⟩ := (path_of_some hsome).1 hpath
    exact ⟨rest, hrest, Nat.lt_of_succ_lt_succ hlength⟩
  · rintro ⟨rest, hrest, hlength⟩
    exact ⟨b :: rest, .step hsome hrest, Nat.succ_lt_succ hlength⟩

/-- `a` leads to another thing by way of what it points at. -/
theorem leads_iff_eq_or_transGen : Leads next a b ↔ b = a ∨ TransGen (Points next) a b :=
  Relation.reflTransGen_iff_eq_or_transGen

/-- What `a` points at does not lead to it. -/
theorem Acyclic.not_leads (h : Acyclic next) (hnext : next a = some b) : ¬ Leads next b a :=
  fun hleads => h a (.head' hnext hleads)

variable [DecidableEq α]

/-- A way to `a` does not need the pointer of `a`. -/
theorem leads_update (v : Option α) (h : Leads next c a) :
    Leads (Function.update next a v) c a := by
  induction h using ReflTransGen.head_induction_on with
  | refl => exact .refl
  | @head x y hpoints _ ih =>
      by_cases hx : x = a
      · rw [hx]
        exact .refl
      · exact .head ((Function.update_of_ne hx ..).trans hpoints) ih

/-- A way there is after `a` is pointed at `b` was there, or goes through `a`. -/
theorem transGen_of_update {x y : α} (hb : ¬ Leads next b a)
    (h : TransGen (Points (Function.update next a (some b))) x y) :
    TransGen (Points next) x y ∨ Leads next x a ∧ Leads next b y := by
  have hstep : ∀ u v, Function.update next a (some b) u = some v →
      next u = some v ∨ u = a ∧ v = b := by
    intro u v hpoints
    by_cases hu : u = a
    · rw [hu, Function.update_self] at hpoints
      exact .inr ⟨hu, (Option.some.inj hpoints).symm⟩
    · rw [Function.update_of_ne hu] at hpoints
      exact .inl hpoints
  induction h with
  | single hpoints =>
      rcases hstep _ _ hpoints with hpoints | ⟨rfl, rfl⟩
      · exact .inl (.single hpoints)
      · exact .inr ⟨.refl, .refl⟩
  | @tail y z _ hpoints ih =>
      rcases hstep _ _ hpoints with hpoints | ⟨rfl, rfl⟩
      · exact ih.imp (·.tail hpoints) fun ⟨hx, hby⟩ => ⟨hx, hby.tail hpoints⟩
      · rcases ih with hxy | ⟨-, hby⟩
        · exact .inr ⟨hxy.to_reflTransGen, .refl⟩
        · exact absurd hby hb

/-- **One pointer set.** -/
theorem acyclic_update_iff (h : Acyclic next) :
    Acyclic (Function.update next a (some b)) ↔ ¬ Leads next b a := by
  constructor
  · intro hacyclic hleads
    exact hacyclic a (.head' (Function.update_self ..) (leads_update (some b) hleads))
  · intro hb x hcycle
    rcases transGen_of_update hb hcycle with hcycle | ⟨hxa, hbx⟩
    · exact h x hcycle
    · exact hb (hbx.trans hxa)

/-- A pointer set, or taken away. -/
theorem Acyclic.update (h : Acyclic next) {v : Option α} (hv : ∀ b ∈ v, ¬ Leads next b a) :
    Acyclic (Function.update next a v) := by
  cases v with
  | some b => exact (acyclic_update_iff h).mpr (hv b rfl)
  | none =>
      refine h.mono fun x y hpoints => ?_
      by_cases hx : x = a
      · rw [hx, Function.update_self] at hpoints
        cases hpoints
      · rwa [Function.update_of_ne hx] at hpoints

end RebooterHub.Pointers
