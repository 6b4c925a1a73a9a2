import Mathlib.Data.List.Induction
import RebooterHub.Support.Runs

/-!
# Support — Rotation

A log in two generations.  What is written goes to the current one; one that has reached its limit
first becomes the old one, in place of the one before.

* `ordered_run`: whatever goes wrong, the generations hold some of the chunks that were written, in
  their order.
* `rotated_run`: when nothing does, they hold the last ones, an old generation of the limit at least
  stands for what is lost, and only the last chunk of a generation goes past the limit.
-/

namespace RebooterHub.Rotation
open Runs

variable {γ : Type*} {limit : ℕ} {chunks xs : List (List γ)} {chunk : List γ}

/-- The old and the current generation. -/
structure Generations (γ : Type*) where
  old : List γ
  current : List γ

/-- What goes wrong when the generations change: nothing, all of it, or that the current one is
moved when the old one has been removed. -/
inductive Fault where
  | none
  | early
  | late
deriving DecidableEq

namespace Generations

variable {g : Generations γ}

/-- Nothing yet. -/
def empty : Generations γ := ⟨[], []⟩

/-- The change of the generations. -/
def rotate (limit : ℕ) (fault : Fault) (g : Generations γ) : Generations γ :=
  if g.current.length < limit then g
  else match fault with
    | .none => ⟨g.current, []⟩
    | .early => g
    | .late => { g with old := [] }

/-- A chunk is written. -/
def append (chunk : List γ) (g : Generations γ) : Generations γ :=
  { g with current := g.current ++ chunk }

/-- One write, after a change if there is to be one. -/
def write (limit : ℕ) (g : Generations γ) (a : Fault × List γ) : Generations γ :=
  (g.rotate limit a.1).append a.2

/-- The generations hold chunks of those that were written, in their order. -/
def Ordered (chunks : List (List γ)) (g : Generations γ) : Prop :=
  ∃ old current : List (List γ), (old ++ current).Sublist chunks ∧ g.old = old.flatten ∧
    g.current = current.flatten

/-- Only the last of some chunks goes past the limit. -/
def Within (limit : ℕ) (xs : List (List γ)) : Prop :=
  ∀ before last, xs = before ++ [last] → before.flatten.length < limit

/-- The generations hold the last of the chunks, and what is lost came before an old one that had
reached the limit. -/
def Rotated (limit : ℕ) (chunks : List (List γ)) (g : Generations γ) : Prop :=
  ∃ lost old current : List (List γ), chunks = lost ++ (old ++ current) ∧ g.old = old.flatten ∧
    g.current = current.flatten ∧ (lost ≠ [] → limit ≤ g.old.length) ∧ Within limit old ∧
    Within limit current

/-! ### One write -/

theorem Within.snoc (h : xs.flatten.length < limit) : Within limit (xs ++ [chunk]) := by
  intro before last heq
  obtain ⟨rfl, -⟩ := List.append_inj' heq rfl
  exact h

theorem Ordered.rotate (h : g.Ordered chunks) (fault : Fault) :
    (g.rotate limit fault).Ordered chunks := by
  unfold Generations.rotate
  split
  · exact h
  · obtain ⟨old, current, hsub, hold, hcurrent⟩ := h
    cases fault with
    | none =>
        -- The current chunks become the old ones, and the old ones are lost.
        refine ⟨current, [], ?_, hcurrent, rfl⟩
        rw [List.append_nil]
        exact (List.sublist_append_right old current).trans hsub
    | early => exact ⟨old, current, hsub, hold, hcurrent⟩
    | late => exact ⟨[], current, (List.sublist_append_right old current).trans hsub, rfl, hcurrent⟩

theorem Ordered.append (h : g.Ordered chunks) (chunk : List γ) :
    (g.append chunk).Ordered (chunks ++ [chunk]) := by
  obtain ⟨old, current, hsub, hold, hcurrent⟩ := h
  refine ⟨old, current ++ [chunk], ?_, hold, ?_⟩
  · rw [← List.append_assoc]
    exact hsub.append (List.Sublist.refl _)
  · rw [Generations.append, hcurrent, List.flatten_concat]

theorem Ordered.write (h : g.Ordered chunks) (a : Fault × List γ) :
    (g.write limit a).Ordered (chunks ++ [a.2]) :=
  (h.rotate a.1).append a.2

theorem Rotated.write (hlimit : 0 < limit) (h : g.Rotated limit chunks) (chunk : List γ) :
    (g.write limit (.none, chunk)).Rotated limit (chunks ++ [chunk]) := by
  obtain ⟨lost, old, current, rfl, hold, hcurrent, hlost, holdWithin, hwithin⟩ := h
  rw [Generations.write, Generations.rotate]
  split
  · next hroom =>
      refine ⟨lost, old, current ++ [chunk], by simp, hold, ?_, hlost, holdWithin, ?_⟩
      · rw [Generations.append, hcurrent, List.flatten_concat]
      · exact Within.snoc (hcurrent ▸ hroom)
  · next hfull =>
      -- The full generation is the old one now: it is what `lost` answers for.
      refine ⟨lost ++ old, current, [chunk], by simp, hcurrent, by simp [Generations.append],
        fun _ => Nat.not_lt.mp hfull, hwithin, ?_⟩
      have hfirst : Within limit ([] ++ [chunk]) := Within.snoc hlimit
      exact hfirst

/-! ### Runs -/

/-- Whatever goes wrong. -/
theorem ordered_run (limit : ℕ) (as : List (Fault × List γ)) :
    (run (write limit) empty as).Ordered (as.map Prod.snd) := by
  induction as using List.reverseRecOn with
  | nil => exact ⟨[], [], List.Sublist.refl _, rfl, rfl⟩
  | append_singleton as a ih =>
      rw [run_append, List.map_append]
      exact ih.write a

/-- When nothing does. -/
theorem rotated_run (hlimit : 0 < limit) {as : List (Fault × List γ)} (has : ∀ a ∈ as, a.1 = .none) :
    (run (write limit) empty as).Rotated limit (as.map Prod.snd) := by
  induction as using List.reverseRecOn with
  | nil => exact ⟨[], [], [], rfl, rfl, rfl, fun h => absurd rfl h, by simp [Within], by simp [Within]⟩
  | append_singleton as a ih =>
      obtain ⟨fault, chunk⟩ := a
      obtain rfl : fault = .none := has (fault, chunk) (by simp)
      rw [run_append, List.map_append]
      exact (ih fun a ha => has a (List.mem_append_left _ ha)).write hlimit chunk

end Generations

end RebooterHub.Rotation
