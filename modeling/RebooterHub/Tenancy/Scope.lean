import Mathlib.Tactic.TypeStar

/-!
# Tenancy — Scope

The tenant a piece of code runs for: a bound organization, the bypass of system code, and whether
isolation is enforced.

A read of a tenant-scoped table is filtered to the bound organization, in enforce mode and outside
the bypass only.
-/

namespace RebooterHub.Tenancy

/-- `_current_org`, `_bypass` and `is_enforcing()`. -/
structure Scope where
  currentOrg : Option String
  bypass : Bool
  enforcing : Bool
deriving DecidableEq, Repr

/-- `system()`. -/
def Scope.system (s : Scope) : Scope := { s with currentOrg := none, bypass := true }

/-- `org_context(org_id)`. -/
def Scope.orgContext (s : Scope) (orgId : String) : Scope :=
  { s with currentOrg := some orgId, bypass := false }

/-- The criterion the read filter puts on a tenant-scoped table. -/
def Scope.sees (s : Scope) (organizationId : Option String) : Bool :=
  match s.bypass, s.currentOrg, s.enforcing with
  | false, some org, true => organizationId = some org
  | _, _, _ => true

/-- The reads of the scope are those of one organization. -/
def Scope.FiltersTo (s : Scope) (org : String) : Prop :=
  s.bypass = false ∧ s.currentOrg = some org ∧ s.enforcing = true

theorem Scope.FiltersTo.sees {s : Scope} {org : String} (h : s.FiltersTo org)
    (organizationId : Option String) : s.sees organizationId = decide (organizationId = some org) := by
  obtain ⟨hbypass, horg, henforcing⟩ := h
  simp only [Scope.sees, hbypass, horg, henforcing]

/-- A scope that does not filter to an organization shows another one's rows. -/
theorem Scope.sees_other {s : Scope} {org : String} (h : ¬s.FiltersTo org) :
    ∃ other, other ≠ org ∧ s.sees (some other) := by
  by_cases hfilters : ∃ bound, s.FiltersTo bound
  · obtain ⟨bound, hbound⟩ := hfilters
    refine ⟨bound, ?_, by simp [hbound.sees]⟩
    rintro rfl
    exact h hbound
  · refine ⟨org ++ "'", fun heq => ?_, ?_⟩
    · have hlength := congrArg String.length heq
      simp at hlength
    · rw [Scope.sees]
      split
      · next bound hbypass horg henforcing => exact absurd ⟨bound, hbypass, horg, henforcing⟩ hfilters
      · rfl

end RebooterHub.Tenancy
