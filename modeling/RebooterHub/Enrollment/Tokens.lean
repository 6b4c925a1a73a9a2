import RebooterHub.Enrollment.Tables

/-!
# Enrollment — Tokens

`services/enrollment`: minting and revoking enrolment tokens.

A token is stored under the hash of its secret.  Its organization is that of its site or, when it
has no site the request can see, the one bound to the request; there is no token without one.
-/

namespace RebooterHub.Enrollment
open RebooterHub.Transaction

/-- The arguments of `mint_enrollment_token`. -/
structure MintArgs where
  issuedByUserId : Option String
  siteId : Option String
  displayNameHint : Option String
  note : Option String
  ttlSeconds : Option Int
  targetDeviceId : Option String

/-- The seconds a token is valid for. -/
def mintTtl (defaultTtl : Int) : Option Int → Int
  | some n => if n ≤ 0 then defaultTtl else min n (60 * 60 * 24 * 30)
  | none => defaultTtl

/-- The organization of a token's site, when the request can see the site. -/
def siteOrganization (h : Hub) (sc : Scope) (siteId : Option String) : Option String := do
  let site ← h.site (← nonEmpty siteId)
  if sc.sees (some site.organizationId) then return site.organizationId else none

/-- The row a mint stores for an organization. -/
def newToken (hash : String → String) (ctx : Context) (org : String) (a : MintArgs) :
    EnrollmentToken where
  id := ctx.tokenId
  organizationId := org
  tokenHash := hash ctx.enrollmentSecret
  issuedByUserId := a.issuedByUserId
  siteId := a.siteId
  displayNameHint := a.displayNameHint
  note := a.note
  consumedAt := none
  consumedByDeviceId := none
  expiresAt := ctx.now + seconds (mintTtl ctx.enrollmentTokenTtlSeconds a.ttlSeconds)
  targetDeviceId := a.targetDeviceId

/-- The constraints a new token meets: the keys are new and the references are there. -/
structure Storable (h : Hub) (t : EnrollmentToken) : Prop where
  id : h.token t.id = none
  hash : h.tokenWithHash t.tokenHash = none
  site : ∀ s, t.siteId = some s → (h.site s).isSome
  target : ∀ d, t.targetDeviceId = some d → (h.device d).isSome

instance (h : Hub) (t : EnrollmentToken) : Decidable (Storable h t) :=
  decidable_of_iff (h.token t.id = none ∧ h.tokenWithHash t.tokenHash = none ∧
      (∀ s ∈ t.siteId, (h.site s).isSome) ∧ ∀ d ∈ t.targetDeviceId, (h.device d).isSome)
    ⟨fun ⟨a, b, c, d⟩ => ⟨a, b, c, d⟩, fun ⟨a, b, c, d⟩ => ⟨a, b, c, d⟩⟩

/-- The hint fits its column. -/
def hintFits (hint : Option String) : Prop := ∀ s ∈ hint, s.length ≤ 120

instance (hint : Option String) : Decidable (hintFits hint) := by
  unfold hintFits
  infer_instance

/-- `_mint_enrollment_token_in_session`: the row and its secret. -/
def mintInSession (hash : String → String) (ctx : Context) (a : MintArgs) :
    Op (EnrollmentToken × String) := do
  let h ← get
  match siteOrganization h ctx.scope a.siteId <|> ctx.scope.org with
  -- the column is not nullable
  | none => throw .integrity
  | some org => do
    require (hintFits a.displayNameHint) .data
    require (Storable h (newToken hash ctx org a)) .integrity
    modify fun h => { h with tokens := h.tokens ++ [newToken hash ctx org a] }
    return (newToken hash ctx org a, ctx.enrollmentSecret)

/-- `mint_enrollment_token`. -/
def mintEnrollmentToken (hash : String → String) (ctx : Context) (a : MintArgs) :
    Op (EnrollmentToken × String) := scope (mintInSession hash ctx a)

/-- The token is deleted; the announcements that refer to it forget it. -/
def Hub.deleteToken (h : Hub) (id : String) : Hub :=
  { h with
    tokens := h.tokens.filter (·.id ≠ id)
    announcements := h.announcements.map fun a =>
      if a.enrollmentTokenId = some id then { a with enrollmentTokenId := none } else a }

/-- The token with this id, when the request can see it. -/
def visibleToken (h : Hub) (sc : Scope) (id : String) : Option EnrollmentToken :=
  (h.token id).filter fun t => sc.sees (some t.organizationId)

/-- `revoke_enrollment_token`. -/
def revokeEnrollmentToken (sc : Scope) (id : String) (h : Hub) : Hub × Bool :=
  match visibleToken h sc id with
  | none => (h, false)
  | some t => if t.consumedAt.isSome then (h, false) else (h.deleteToken id, true)

/-- `revoke_enrollment_tokens_bulk`: the tables it leaves. -/
def revokeEnrollmentTokensBulk (sc : Scope) (ids : List String) (h : Hub) : Hub :=
  ids.foldl (fun h id => (revokeEnrollmentToken sc id h).1) h

/-- Everything a mint asks for is there: the organization `org` is the token's. -/
structure Mintable (hash : String → String) (ctx : Context) (a : MintArgs) (h : Hub) (org : String) :
    Prop where
  organization : (siteOrganization h ctx.scope a.siteId <|> ctx.scope.org) = some org
  hint : hintFits a.displayNameHint
  stored : Storable h (newToken hash ctx org a)

/-- A mint with these arguments goes through. -/
def CanMint (hash : String → String) (ctx : Context) (a : MintArgs) (h : Hub) : Prop :=
  ∃ org, Mintable hash ctx a h org

instance (hash : String → String) (ctx : Context) (a : MintArgs) (h : Hub) :
    Decidable (CanMint hash ctx a h) :=
  decidable_of_iff
    (∃ org ∈ (siteOrganization h ctx.scope a.siteId <|> ctx.scope.org),
      hintFits a.displayNameHint ∧ Storable h (newToken hash ctx org a))
    ⟨fun ⟨org, horg, hhint, hstored⟩ => ⟨org, horg, hhint, hstored⟩,
      fun ⟨org, hm⟩ => ⟨org, hm.organization, hm.hint, hm.stored⟩⟩

/-- A token is valid when it is minted, for a positive time. -/
theorem newToken_valid (hash : String → String) (ctx : Context) (org : String) {a : MintArgs}
    {n : Int} (ht : a.ttlSeconds = some n) (hn : 0 < n) :
    ctx.now < (newToken hash ctx org a).expiresAt := by
  have httl : 0 < mintTtl ctx.enrollmentTokenTtlSeconds (some n) := by
    rw [mintTtl, if_neg (Int.not_le.mpr hn)]
    exact Int.lt_min.mpr ⟨hn, by decide⟩
  rw [newToken, ht, seconds]
  exact Int.lt_add_of_pos_right _ (Int.mul_pos httl (by decide))

/-- Deleting a token keeps what holds of the announcements whichever token they refer to. -/
theorem forall_deleteToken {P : Announcement → Prop} {h : Hub} (hp : ∀ row ∈ h.announcements, P row)
    (hforget : ∀ row, P row → P { row with enrollmentTokenId := none }) (id : String) :
    ∀ row ∈ (h.deleteToken id).announcements, P row := by
  intro row hrow
  obtain ⟨row₀, hrow₀, rfl⟩ := List.mem_map.mp hrow
  split
  · exact hforget row₀ (hp row₀ hrow₀)
  · exact hp row₀ hrow₀

/-- What a mint that succeeds did. -/
theorem mintInSession_eq_ok {hash : String → String} {ctx : Context} {a : MintArgs} {h h' : Hub}
    {r : EnrollmentToken × String} (hr : mintInSession hash ctx a h = .ok r h') :
    ∃ org, Mintable hash ctx a h org ∧ r = (newToken hash ctx org a, ctx.enrollmentSecret) ∧
      h' = { h with tokens := h.tokens ++ [newToken hash ctx org a] } := by
  rw [mintInSession, get_bind] at hr
  cases horg : (siteOrganization h ctx.scope a.siteId <|> ctx.scope.org) with
  | none =>
      simp only [horg] at hr
      cases hr
  | some org =>
      simp only [horg] at hr
      obtain ⟨hhint, hr⟩ := require_bind_eq_ok hr
      obtain ⟨hstored, hr⟩ := require_bind_eq_ok hr
      cases hr
      exact ⟨org, ⟨horg, hhint, hstored⟩, rfl, rfl⟩

/-- A mint that has everything it asks for succeeds. -/
theorem mintInSession_of_mintable {hash : String → String} {ctx : Context} {a : MintArgs} {h : Hub}
    {org : String} (hm : Mintable hash ctx a h org) :
    mintInSession hash ctx a h = .ok (newToken hash ctx org a, ctx.enrollmentSecret)
      { h with tokens := h.tokens ++ [newToken hash ctx org a] } := by
  rw [mintInSession, get_bind]
  simp only [hm.organization]
  rw [require_bind hm.hint, require_bind hm.stored, modify_bind]
  rfl

end RebooterHub.Enrollment
