import RebooterHub.Enrollment.Operations
import RebooterHub.Support.Runs

/-!
# Enrollment — Tenancy

A device belongs to the organization of its site, a token to the organization it was issued for.

* `homeOrganization` is the organization a redemption enrols into: that of the target's site, of
  the token's own site, or of the default site.  None of the three is asked for by organization.
* `enrolled_in_tenant_iff`: the device of a redemption belongs to the token's organization exactly
  when that is its home organization.
-/

namespace RebooterHub.Enrollment
open RebooterHub.Transaction RebooterHub.Runs

/-- The organization of a device: that of its site. -/
def Hub.organizationOf (h : Hub) (d : Device) : Option String :=
  (d.siteId.bind h.site).map (·.organizationId)

/-- The organization of the site a device without one is given. -/
def defaultOrganization (h : Hub) : Option String :=
  match defaultSite h.sites with
  | some site => (h.site site.id).map (·.organizationId)
  | none => resolveDefaultOrgId h.orgs

/-- The organization a redemption of this token enrols into. -/
def homeOrganization (h : Hub) (et : EnrollmentToken) : Option String :=
  match nonEmpty et.targetDeviceId with
  | some target => (h.device target).bind h.organizationOf
  | none => match nonEmpty et.siteId with
    | some s => (h.site s).map (·.organizationId)
    | none => defaultOrganization h

section
variable {hash : String → String} {ctx : Context} {et : EnrollmentToken} {h h' : Hub}

/-- The site a new device is given has the home organization. -/
theorem SiteChoice.organization {siteId : String} {sites : List Site}
    (ht : nonEmpty et.targetDeviceId = none) (hc : SiteChoice ctx et h siteId sites) :
    (sites.find? (·.id = siteId)).map (·.organizationId) = homeOrganization h et := by
  rw [homeOrganization, ht]
  cases hc with
  | own hs => simp only [hs, Hub.site]
  | default hs hsite => simp only [hs, defaultOrganization, hsite, Hub.site]
  | created hs hnone horg hnew =>
      simp only [hs, defaultOrganization, hnone, horg]
      rw [Hub.site] at hnew
      rw [List.find?_append, hnew, Option.none_or, List.find?_cons_of_pos (by simp)]
      rfl

theorem Redeems.organization {p : Registration} {d : Device} (hd : Redeems hash ctx p et h d h') :
    h'.organizationOf d = homeOrganization h et := by
  cases hd with
  | restore ht hd hlive hmac hcred =>
      rw [homeOrganization, ht]
      simp only [hd, Option.bind_some]
      rfl
  | fresh ht hmac hsite hthere hnew hcred => exact hsite.organization ht

/-- **The tenant of a redemption.**  A redemption that succeeds enrols a device of the token's
organization exactly when the organization it enrols into is that one. -/
theorem enrolled_in_tenant_iff {token : String} {body : List (String × Json)} {r : Redeemed}
    (hr : consumeEnrollmentToken hash ctx token body h = .ok r h') :
    h'.organizationOf r.device = some r.token.organizationId ↔
      ∃ et, h.tokenWithHash (hash token) = some et ∧
        homeOrganization h et = some et.organizationId := by
  obtain ⟨p, g, -, hredeem, rfl⟩ := consumeEnrollmentToken_eq_ok hr
  obtain ⟨het, -, -, hd, -⟩ := redeem_eq_ok hredeem
  have hkept : (markConsumed ctx.now (r.device.macAddress.getD "") g).organizationOf r.device =
      g.organizationOf r.device := by
    obtain ⟨rows, heq⟩ := markConsumed_tables ctx.now (r.device.macAddress.getD "") g
    rw [heq]
    rfl
  rw [hkept, hd.organization]
  constructor
  · intro horg
    exact ⟨r.token, het, horg⟩
  · rintro ⟨et, het', horg⟩
    obtain rfl := Option.some_inj.mp (het.symm.trans het')
    exact horg

end

/-- Two organizations; only the first has a site, the default one. -/
def twoTenants : Hub :=
  .start [⟨"org", "default"⟩, ⟨"guest", "guest"⟩] [⟨"site", "Default", "org"⟩]

/-- An organization mints a token without a site. -/
def enrolInto (org : String) : List Operation :=
  [.mint (request 0 (some org) "a") (mintFor none none)]

theorem enrolled_in_tenant_iff_org :
    ∃ r h', consumeEnrollmentToken id (request 1 none "b") "et_a" (bodyOf "AA:BB:CC:DD:EE:FF")
        (run (step id) twoTenants (enrolInto "org")) = .ok r h' ∧
      h'.organizationOf r.device = some r.token.organizationId := by
  have hr : consumeEnrollmentToken id (request 1 none "b") "et_a" (bodyOf "AA:BB:CC:DD:EE:FF")
      (run (step id) twoTenants (enrolInto "org")) = .ok _ _ := rfl
  exact ⟨_, _, hr, (enrolled_in_tenant_iff hr).mpr ⟨_, rfl, by decide⟩⟩

theorem enrolled_elsewhere :
    ¬∀ r h', consumeEnrollmentToken id (request 1 none "b") "et_a" (bodyOf "AA:BB:CC:DD:EE:FF")
        (run (step id) twoTenants (enrolInto "guest")) = .ok r h' →
      h'.organizationOf r.device = some r.token.organizationId := by
  intro h
  exact absurd (h _ _ rfl) (by decide)

end RebooterHub.Enrollment
