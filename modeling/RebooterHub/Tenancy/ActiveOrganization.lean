import Mathlib.Data.Prod.Lex
import Mathlib.Data.String.Basic
import RebooterHub.Support.Rows
import RebooterHub.Support.StableSort

/-!
# Tenancy — The active organization

The organization a request runs under: the one chosen in the session, if the user is still a member
of it and it is not closed, and otherwise the user's primary one.

* `primary_first`: the primary membership is the first of the least, owners before others and then
  by name.
* `resolveActiveOrg_legitimate_iff`: what is resolved is an open organization of the user, and
  nothing only where there is none, exactly when the choice stands, there is no membership, or the
  primary one is of an organization that is not closed.  The fallback does not ask.
-/

namespace RebooterHub.Tenancy
open RebooterHub.Rows RebooterHub.StableSort

/-- The id of a row, generated and never empty. -/
abbrev RowId := {id : String // id ≠ ""}

/-- `ORG_ROLE_OWNER`. -/
def orgRoleOwner : String := "owner"

/-- `ORG_STATUS_CLOSED`. -/
def orgStatusClosed : String := "closed"

/-- A row of `organizations`. -/
structure Organization where
  id : String
  name : String
  slug : String
  status : String
deriving DecidableEq, Repr

/-- A row of `organization_memberships`. -/
structure OrganizationMembership where
  id : String
  organizationId : String
  userId : String
  orgRole : String
deriving DecidableEq, Repr

/-- The two tables, with the primary key of the organizations. -/
structure Directory where
  organizations : List Organization
  memberships : List OrganizationMembership
  keyed : Keyed Organization.id organizations

/-- A membership with its organization. -/
structure Membership where
  membershipId : String
  organizationId : String
  orgRole : String
  slug : String
  name : String
  status : String
deriving DecidableEq, Repr

/-- Owner memberships first, then by name. -/
def Membership.key (m : Membership) : Bool ×ₗ String := toLex (m.orgRole ≠ orgRoleOwner, m.name)

/-- The order of a user's memberships. -/
def Membership.before (m m' : Membership) : Prop := m.key ≤ m'.key

instance : DecidableRel Membership.before := fun m m' => inferInstanceAs (Decidable (m.key ≤ m'.key))
instance : Std.Total Membership.before := ⟨fun m m' => le_total m.key m'.key⟩
instance : IsTrans Membership Membership.before := ⟨fun _ _ _ => le_trans⟩

/-- The join of the user's memberships with their organizations. -/
def Directory.joined (t : Directory) (userId : String) : List Membership :=
  (t.memberships.filter (·.userId = userId)).flatMap fun m =>
    (t.organizations.filter (·.id = m.organizationId)).map fun o =>
      ⟨m.id, m.organizationId, m.orgRole, o.slug, o.name, o.status⟩

/-- `memberships_for_user`. -/
def membershipsForUser (t : Directory) (userId : String) : List Membership :=
  if userId = "" then [] else (t.joined userId).insertionSort Membership.before

/-- The choice in the session, honoured if the user is a member of it and it is not closed. -/
def honoured (memberships : List Membership) (sessionOrgId : Option String) : Option String :=
  (sessionOrgId.filter (· ≠ "")).filter fun chosen =>
    (memberships.find? (·.organizationId = chosen)).any (·.status ≠ orgStatusClosed)

/-- `resolve_active_org`. -/
def resolveActiveOrg (t : Directory) (user : Option RowId) (sessionOrgId : Option String) :
    Option String :=
  match user with
  | none => none
  | some userId =>
    match membershipsForUser t userId with
    | [] => none
    | primary :: others =>
      some ((honoured (primary :: others) sessionOrgId).getD primary.organizationId)

/-! ### What may be resolved -/

/-- The organization is open and the user is a member of it. -/
def Directory.Legitimate (t : Directory) (user : Option RowId) (orgId : String) : Prop :=
  ∃ userId, user = some userId ∧
    (∃ m ∈ t.memberships, m.userId = userId ∧ m.organizationId = orgId) ∧
    ∃ o ∈ t.organizations, o.id = orgId ∧ o.status ≠ orgStatusClosed

/-- The choice in the session is one the user may make. -/
def Directory.ChoiceStands (t : Directory) (user : Option RowId) (sessionOrgId : Option String) :
    Prop :=
  ∃ chosen, sessionOrgId = some chosen ∧ chosen ≠ "" ∧ t.Legitimate user chosen

/-- What is resolved is legitimate, and nothing only where nothing is. -/
def Directory.ResolvesLegitimately (t : Directory) (user : Option RowId)
    (sessionOrgId : Option String) : Prop :=
  (∀ orgId, resolveActiveOrg t user sessionOrgId = some orgId → t.Legitimate user orgId) ∧
    (resolveActiveOrg t user sessionOrgId = none ↔ ¬∃ orgId, t.Legitimate user orgId)

/-- The user's memberships, in the order of the table. -/
def Directory.joinedOf (t : Directory) (user : Option RowId) : List Membership :=
  (user.map fun userId => t.joined userId).getD []

section
variable {t : Directory} {userId : RowId} {m : Membership} {orgId : String}

theorem mem_joined : m ∈ t.joined userId ↔
    ∃ row ∈ t.memberships, row.userId = userId ∧ ∃ o ∈ t.organizations, o.id = row.organizationId ∧
      m = ⟨row.id, row.organizationId, row.orgRole, o.slug, o.name, o.status⟩ := by
  simp only [Directory.joined, List.mem_flatMap, List.mem_filter, List.mem_map, decide_eq_true_eq]
  constructor
  · rintro ⟨row, ⟨hrow, huser⟩, o, ⟨ho, hid⟩, rfl⟩
    exact ⟨row, hrow, huser, o, ho, hid, rfl⟩
  · rintro ⟨row, hrow, huser, o, ho, hid, rfl⟩
    exact ⟨row, ⟨hrow, huser⟩, o, ⟨ho, hid⟩, rfl⟩

/-- An organization is legitimate when a membership with it is of one that is not closed. -/
theorem legitimate_iff : t.Legitimate (some userId) orgId ↔
    ∃ m ∈ t.joined userId, m.organizationId = orgId ∧ m.status ≠ orgStatusClosed := by
  simp only [mem_joined]
  constructor
  · rintro ⟨_, huserId, ⟨row, hrow, huser, hrowOrg⟩, o, ho, hid, hopen⟩
    obtain rfl := Option.some_inj.mp huserId
    exact ⟨_, ⟨row, hrow, huser, o, ho, hid.trans hrowOrg.symm, rfl⟩, hrowOrg, hopen⟩
  · rintro ⟨_, ⟨row, hrow, huser, o, ho, hid, rfl⟩, hrowOrg, hopen⟩
    exact ⟨userId, rfl, ⟨row, hrow, huser, hrowOrg⟩, o, ho, hid.trans hrowOrg, hopen⟩

/-- The memberships of one organization tell one status. -/
theorem joined_status_eq {m' : Membership} (hm : m ∈ t.joined userId) (hm' : m' ∈ t.joined userId)
    (horg : m.organizationId = m'.organizationId) : m.status = m'.status := by
  obtain ⟨row, -, -, o, ho, hid, rfl⟩ := mem_joined.mp hm
  obtain ⟨row', -, -, o', ho', hid', rfl⟩ := mem_joined.mp hm'
  have : o = o' := t.keyed.eq ho ho' (by rw [hid, hid']; exact horg)
  rw [this]

theorem membershipsForUser_eq (t : Directory) (userId : RowId) :
    membershipsForUser t userId = (t.joined userId).insertionSort Membership.before := by
  rw [membershipsForUser, if_neg userId.2]

@[simp] theorem mem_membershipsForUser : m ∈ membershipsForUser t userId ↔ m ∈ t.joined userId := by
  rw [membershipsForUser_eq, List.mem_insertionSort]

/-- **The primary membership.**  The first of the least, owners before others and then by name. -/
theorem primary_first {rest : List Membership} (h : membershipsForUser t userId = m :: rest) :
    First Membership.before (t.joined userId) m :=
  first_of_insertionSort (by rwa [membershipsForUser_eq] at h)

/-- A choice is honoured when it stands. -/
theorem honoured_eq_some {sessionOrgId : Option String} :
    honoured (membershipsForUser t userId) sessionOrgId = some orgId ↔
      sessionOrgId = some orgId ∧ orgId ≠ "" ∧ t.Legitimate (some userId) orgId := by
  simp only [honoured, Option.filter_eq_some_iff, Option.any_eq_true_iff_get, and_assoc,
    decide_eq_true_eq, legitimate_iff]
  refine and_congr_right fun _ => and_congr_right fun _ => ?_
  constructor
  · rintro ⟨hsome, hopen⟩
    obtain ⟨m, hfind⟩ := Option.isSome_iff_exists.mp hsome
    have hm := mem_membershipsForUser.mp (List.mem_of_find?_eq_some hfind)
    simp only [hfind, Option.get_some] at hopen
    exact ⟨m, hm, by simpa using List.find?_some hfind, hopen⟩
  · rintro ⟨m, hm, horg, hopen⟩
    have hsome : ((membershipsForUser t userId).find? (·.organizationId = orgId)).isSome :=
      List.find?_isSome.mpr ⟨m, mem_membershipsForUser.mpr hm, by simpa using horg⟩
    obtain ⟨m', hfind⟩ := Option.isSome_iff_exists.mp hsome
    have hm' := mem_membershipsForUser.mp (List.mem_of_find?_eq_some hfind)
    have horg' : m'.organizationId = orgId := by simpa using List.find?_some hfind
    refine ⟨hsome, ?_⟩
    simp only [hfind, Option.get_some]
    rwa [joined_status_eq hm' hm (horg'.trans horg.symm)]

/-- A choice that stands is what is resolved. -/
theorem resolveActiveOrg_of_stands {user : Option RowId} {sessionOrgId : Option String}
    (h : t.ChoiceStands user sessionOrgId) : resolveActiveOrg t user sessionOrgId = sessionOrgId := by
  obtain ⟨chosen, rfl, hne, hlegit⟩ := h
  obtain ⟨userId, rfl, -⟩ := id hlegit
  obtain ⟨m, hm, -⟩ := legitimate_iff.mp hlegit
  have hhonoured := honoured_eq_some.mpr ⟨rfl, hne, hlegit⟩
  rw [← mem_membershipsForUser] at hm
  unfold resolveActiveOrg
  cases hall : membershipsForUser t userId with
  | nil => rw [hall] at hm; cases hm
  | cons primary rest =>
      rw [hall] at hhonoured
      simp only [hall, hhonoured, Option.getD_some]

/-- Any other choice falls back to the primary membership. -/
theorem resolveActiveOrg_of_not_stands {sessionOrgId : Option String}
    (h : ¬t.ChoiceStands (some userId) sessionOrgId) :
    resolveActiveOrg t (some userId) sessionOrgId =
      ((membershipsForUser t userId).head?).map (·.organizationId) := by
  have hnone : honoured (membershipsForUser t userId) sessionOrgId = none := by
    rw [Option.eq_none_iff_forall_ne_some]
    intro chosen hchosen
    exact h ⟨chosen, honoured_eq_some.mp hchosen⟩
  unfold resolveActiveOrg
  cases hall : membershipsForUser t userId with
  | nil => simp only [hall, List.head?_nil, Option.map_none]
  | cons primary rest =>
      rw [hall] at hnone
      simp only [hall, hnone, Option.getD_none, List.head?_cons, Option.map_some]

theorem resolvesLegitimately_of_some {user : Option RowId} {sessionOrgId : Option String}
    (h : resolveActiveOrg t user sessionOrgId = some orgId) :
    t.ResolvesLegitimately user sessionOrgId ↔ t.Legitimate user orgId := by
  constructor
  · rintro ⟨hlegit, -⟩
    exact hlegit orgId h
  · intro hlegit
    refine ⟨fun orgId' h' => ?_, iff_of_false (by rw [h]; exact Option.some_ne_none _) ?_⟩
    · obtain rfl := Option.some_inj.mp (h.symm.trans h')
      exact hlegit
    · exact fun hno => hno ⟨orgId, hlegit⟩

theorem resolvesLegitimately_of_none {user : Option RowId} {sessionOrgId : Option String}
    (h : resolveActiveOrg t user sessionOrgId = none) (hno : ∀ orgId, ¬t.Legitimate user orgId) :
    t.ResolvesLegitimately user sessionOrgId := by
  refine ⟨fun orgId h' => ?_, iff_of_true h (not_exists.mpr hno)⟩
  rw [h] at h'
  cases h'

/-- Without a membership nothing is legitimate. -/
theorem not_legitimate_of_joined_nil (h : t.joined userId = []) :
    ¬t.Legitimate (some userId) orgId := by
  rw [legitimate_iff, h]
  rintro ⟨m, hm, -⟩
  cases hm

/-- A membership's organization is legitimate when it is not closed. -/
theorem legitimate_of_mem (hm : m ∈ t.joined userId) :
    t.Legitimate (some userId) m.organizationId ↔ m.status ≠ orgStatusClosed := by
  rw [legitimate_iff]
  constructor
  · rintro ⟨m', hm', horg, hopen⟩
    rwa [joined_status_eq hm hm' horg.symm]
  · intro hopen
    exact ⟨m, hm, rfl, hopen⟩

end

/-- **The active organization.**  What is resolved is legitimate, and nothing only where nothing is,
exactly when the choice stands, the user has no membership, or the primary one is of an organization
that is not closed. -/
theorem resolveActiveOrg_legitimate_iff (t : Directory) (user : Option RowId)
    (sessionOrgId : Option String) :
    t.ResolvesLegitimately user sessionOrgId ↔
      t.ChoiceStands user sessionOrgId ∨ t.joinedOf user = [] ∨
        ∃ m, First Membership.before (t.joinedOf user) m ∧ m.status ≠ orgStatusClosed := by
  by_cases hstands : t.ChoiceStands user sessionOrgId
  · obtain ⟨chosen, rfl, -, hlegit⟩ := id hstands
    rw [resolvesLegitimately_of_some (resolveActiveOrg_of_stands hstands)]
    exact iff_of_true hlegit (.inl hstands)
  cases user with
  | none =>
      have hno : ∀ orgId, ¬t.Legitimate none orgId := by
        rintro orgId ⟨userId, h, -⟩
        cases h
      exact iff_of_true (resolvesLegitimately_of_none rfl hno) (.inr (.inl rfl))
  | some userId =>
      have hresolved := resolveActiveOrg_of_not_stands hstands
      change _ ↔ _ ∨ t.joined userId = [] ∨ ∃ m, First Membership.before (t.joined userId) m ∧ _
      cases hall : membershipsForUser t userId with
      | nil =>
          have hnil : t.joined userId = [] := by
            rw [List.eq_nil_iff_forall_not_mem]
            intro m hm
            rw [← mem_membershipsForUser, hall] at hm
            cases hm
          rw [hall] at hresolved
          have hno : ∀ orgId, ¬t.Legitimate (some userId) orgId :=
            fun _ => not_legitimate_of_joined_nil hnil
          exact iff_of_true (resolvesLegitimately_of_none hresolved hno) (.inr (.inl hnil))
      | cons primary others =>
          have hfirst := primary_first hall
          rw [hall] at hresolved
          rw [resolvesLegitimately_of_some hresolved, legitimate_of_mem hfirst.mem]
          constructor
          · intro hopen
            exact .inr (.inr ⟨primary, hfirst, hopen⟩)
          · rintro (h | hnil | ⟨m, hm, hopen⟩)
            · exact absurd h hstands
            · exact absurd hfirst.mem (by simp [hnil])
            · rwa [hfirst.unique hm]

/-- One closed organization and its owner. -/
def closedDown : Directory where
  organizations := [⟨"org", "Acme", "acme", orgStatusClosed⟩]
  memberships := [⟨"om", "org", "u", orgRoleOwner⟩]
  keyed := by simp [Keyed]

/-- The owner is put into the closed organization. -/
theorem closed_resolved : ¬closedDown.ResolvesLegitimately (some ⟨"u", by decide⟩) none := by
  rintro ⟨hlegit, -⟩
  obtain ⟨_, -, -, o, ho, -, hopen⟩ := hlegit "org" rfl
  obtain rfl := List.mem_singleton.mp ho
  exact hopen rfl

end RebooterHub.Tenancy
