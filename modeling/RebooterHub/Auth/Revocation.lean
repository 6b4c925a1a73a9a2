import Mathlib.Logic.Function.Basic
import Mathlib.Data.Option.Basic
import Mathlib.Data.Int.Order.Basic
import Mathlib.Order.Nat
import RebooterHub.Auth.Accounts
import RebooterHub.Support.Runs

/-!
# Auth — Revocation

Runs of logins, refreshes, requests and revocations.

Only the hub signs credentials, so what a client presents is one of those issued so far, or a
forgery.  A `History` keeps them with the `generation` of the login each derives from: how many
revocations of its user came before that login.  A revocation is final when a credential is
accepted exactly as long as no revocation of its user has come since.

`POST /refresh` looks at neither the cut-off nor the session row, and the cut-off is compared in
whole seconds; `Steady` names the steps that meet neither, and `revocation_final` is what runs of
such steps keep.
-/

namespace RebooterHub.Auth
open RebooterHub.Runs

/-- The check `_resolve_user` makes of a credential beside its time: its session row is revoked,
or it was issued before the cut-off of its user. -/
def Accounts.Revoked (a : Accounts) (c : Credential) : Prop :=
  a.isJtiRevoked c.jti = true ∨
    ∃ u ∈ a.loadUser c.userId, c.iat < epochSeconds u.tokensValidAfter

instance (a : Accounts) (c : Credential) : Decidable (a.Revoked c) :=
  inferInstanceAs (Decidable (_ ∨ ∃ u ∈ a.loadUser c.userId, _))

/-- The credential has a session row. -/
def Accounts.HasRow (a : Accounts) (c : Credential) : Prop :=
  ∃ r ∈ a.sessions, c.jti = some r.jti

instance (a : Accounts) (c : Credential) : Decidable (a.HasRow c) :=
  inferInstanceAs (Decidable (∃ r ∈ a.sessions, c.jti = some r.jti))

/-! ### Histories -/

/-- A credential the hub has issued. -/
structure Issued where
  credential : Credential
  /-- How many revocations of its user came before the login it derives from. -/
  generation : Nat
deriving DecidableEq

/-- The hub, with what it has issued and revoked so far. -/
structure History where
  accounts : Accounts
  clock : Time
  issued : List Issued
  revocations : String → Nat

/-- What a client or an operator does.  A credential is given by its place among those issued;
`none` is no credential, or a forged one. -/
inductive AuthOp where
  | login (stored : Bool) (identifier password : String)
  | loginSubmit (stored : Bool) (identifier password : String)
  | refresh (stored : Bool) (token : Option Nat)
  | request (cookie bearer : Option Nat)
  | requestReset (email : String)
  | consumeReset (token newPassword : String)
  | changeOwnPassword (userId currentPassword newPassword : String)
  | revokeAllTokens (stored : Bool) (userId : String)
  | logout (stored : Bool) (cookie : Option Nat)
  | deactivateUser (userId : String)

/-- The credential at a place. -/
def History.nth (h : History) (n : Option Nat) : Option Issued :=
  n.bind (h.issued[·]?)

/-- The request that carries two of the issued credentials. -/
def History.request (h : History) (cookie bearer : Option Nat) : Request :=
  ⟨(h.nth cookie).map (·.credential), (h.nth bearer).map (·.credential)⟩

/-- The credential that decides about a request: its cookie where Flask opens a session from it,
else its access token. -/
def History.presented (cfg : Settings) (h : History) (now : Time) (cookie bearer : Option Nat) :
    Option Issued :=
  match (h.nth cookie).filter fun i =>
      i.credential.kind = .cookie ∧ i.credential.isLive cfg now with
  | some i => some i
  | none => (h.nth bearer).filter fun i => i.credential.isLive cfg now ∧ i.credential.kind = .access

/-- Credentials of one generation are issued. -/
def History.issue (h : History) (a : Accounts) (generation : Nat) (cs : List Credential) :
    History :=
  { h with accounts := a, issued := h.issued ++ cs.map fun c => ⟨c, generation⟩ }

/-- A user's credentials are revoked. -/
def History.revoke (h : History) (a : Accounts) (userId : String) : History :=
  { h with
    accounts := a
    revocations := Function.update h.revocations userId (h.revocations userId + 1) }

/-- The cookie session an authenticated request answers with: the same content, signed anew. -/
def resign (cfg : Settings) (now : Time) (c : Credential) : Credential :=
  { c with exp := epochSeconds now + cfg.sessionIdleTimeoutSeconds }

/-- What a step does at an instant. -/
def History.act (cfg : Settings) (h : History) (now : Time) : AuthOp → History
  | .login stored identifier password =>
    match Auth.login cfg h.accounts stored now identifier password with
    | (a, .ok ans) => h.issue a (h.revocations ans.user.id)
        [ans.cookie, ans.accessToken, ans.refreshToken]
    | (a, .error _) => { h with accounts := a }
  | .loginSubmit stored identifier password =>
    match Auth.loginSubmit cfg h.accounts stored now identifier password with
    | (a, some cookie) => h.issue a (h.revocations cookie.userId) [cookie]
    | (a, none) => { h with accounts := a }
  | .refresh stored token =>
    match h.nth token with
    | none => { h with accounts := (Auth.refresh cfg h.accounts stored now .forged).1 }
    | some i => match Auth.refresh cfg h.accounts stored now (.signed i.credential) with
      | (a, .ok (access, refresh)) => h.issue a i.generation [access, refresh]
      | (a, .error _) => { h with accounts := a }
  | .request cookie bearer =>
    match resolveUser cfg h.accounts now (h.request cookie bearer),
        h.presented cfg now cookie bearer with
    | some _, some i =>
      if i.credential.kind = .cookie then
        h.issue h.accounts i.generation [resign cfg now i.credential]
      else h
    | _, _ => h
  | .requestReset email => { h with accounts := (Auth.requestReset cfg h.accounts now email).1 }
  | .consumeReset token newPassword =>
    match Auth.consumeReset cfg h.accounts now token newPassword with
    | (a, some u) => h.revoke a u.id
    | (a, none) => { h with accounts := a }
  | .changeOwnPassword userId currentPassword newPassword =>
    match Auth.changeOwnPassword cfg h.accounts now userId currentPassword newPassword with
    | .ok a => h.revoke a userId
    | .error _ => h
  | .revokeAllTokens stored userId =>
    match Auth.revokeAllTokens h.accounts stored now userId with
    | (a, true) => h.revoke a userId
    | (a, false) => { h with accounts := a }
  | .logout stored cookie =>
    let r : Request := h.request cookie none
    match r.session cfg now with
    | some session => h.revoke (Auth.logout cfg h.accounts stored now r) session.userId
    | none => { h with accounts := Auth.logout cfg h.accounts stored now r }
  | .deactivateUser userId =>
    match Auth.deactivateUser h.accounts now userId with
    | (a, true) => h.revoke a userId
    | (a, false) => { h with accounts := a }

/-- A step. -/
def History.step (cfg : Settings) (h : History) (l : Time × AuthOp) : History :=
  { h.act cfg l.1 l.2 with clock := l.1 }

/-! ### Steady runs -/

/-- A revocation of a user at `now` reaches each credential of his that is still accepted: it was
issued in an earlier second, or the revocation marks its session row. -/
def History.Reaches (h : History) (now : Time) (userId : String) (marksRows : Bool) : Prop :=
  ∀ u ∈ h.accounts.loadUser userId, u.isActive = true →
    ∀ i ∈ h.issued, i.credential.userId = userId → ¬ h.accounts.Revoked i.credential →
      i.credential.iat < epochSeconds now ∨ marksRows = true ∧ h.accounts.HasRow i.credential

instance (h : History) (now : Time) (userId : String) (marksRows : Bool) :
    Decidable (h.Reaches now userId marksRows) :=
  inferInstanceAs (Decidable (∀ u ∈ h.accounts.loadUser userId, _))

/-- A step with which a revocation stays final: the clock does not run backwards, no revoked
refresh token of an active user is redeemed, and a revocation reaches what it has to revoke. -/
def History.Steady (cfg : Settings) (h : History) (l : Time × AuthOp) : Prop :=
  h.clock ≤ l.1 ∧ match l.2 with
  | .refresh _ token => ∀ i ∈ h.nth token, (decodeToken cfg l.1 .refresh i.credential).isSome →
      ∀ u ∈ h.accounts.loadUser i.credential.userId, u.isActive = true →
        ¬ h.accounts.Revoked i.credential
  | .consumeReset token newPassword => token ≠ "" → 8 ≤ newPassword.length →
      ∀ rec ∈ h.accounts.pendingReset cfg l.1 token, h.Reaches l.1 rec.userId false
  | .changeOwnPassword userId currentPassword newPassword =>
      8 ≤ newPassword.length → currentPassword ≠ newPassword →
      (∀ u ∈ h.accounts.loadUser userId,
        cfg.verifyPassword u.passwordHash currentPassword = true) →
      h.Reaches l.1 userId false
  | .revokeAllTokens stored userId => h.Reaches l.1 userId stored
  | .logout stored cookie => ∀ session ∈ (h.request cookie none).session cfg l.1,
      h.Reaches l.1 session.userId stored
  | .login .. | .loginSubmit .. | .request .. | .requestReset _ | .deactivateUser _ => True

/-- A hub before its first credential. -/
structure History.Start (h : History) : Prop where
  cutoff_le : ∀ u ∈ h.accounts.users, u.tokensValidAfter ≤ h.clock
  row_lt : ∀ r ∈ h.accounts.sessions, r.jti < h.accounts.drawn
  issued : h.issued = []

/-! ### What the operations do to the tables -/

/-- Whether a user is active, and his cut-off. -/
def Accounts.standing (a : Accounts) (userId : String) : Option (Bool × Time) :=
  (a.loadUser userId).map fun u => (u.isActive, u.tokensValidAfter)

variable {a a' a'' : Accounts} {c : Credential} {cfg : Settings} {now : Time} {userId : String}
  {stored : Bool} {h : History} {i : Issued}

theorem Accounts.standing_eq_some {b : Bool} {t : Time} :
    a.standing userId = some (b, t) ↔
      ∃ u ∈ a.loadUser userId, u.isActive = b ∧ u.tokensValidAfter = t := by
  simp [standing, Option.mem_def]

theorem Accounts.revoked_iff : a.Revoked c ↔ a.isJtiRevoked c.jti = true ∨
    ∃ b t, a.standing c.userId = some (b, t) ∧ c.iat < epochSeconds t := by
  unfold Revoked
  refine or_congr Iff.rfl ⟨?_, ?_⟩
  · rintro ⟨u, hu, hlt⟩
    exact ⟨u.isActive, u.tokensValidAfter, standing_eq_some.2 ⟨u, hu, rfl, rfl⟩, hlt⟩
  · rintro ⟨b, t, hs, hlt⟩
    obtain ⟨u, hu, -, rfl⟩ := standing_eq_some.1 hs
    exact ⟨u, hu, hlt⟩

theorem Accounts.loadUser_id {u : User} (hu : u ∈ a.loadUser userId) : u.id = userId := by
  simpa using List.find?_some hu

theorem Accounts.loadUser_updateUser {f : User → User} (hf : ∀ u, (f u).id = u.id) (id : String) :
    (a.updateUser userId f).loadUser id =
      (a.loadUser id).map fun u => if u.id = userId then f u else u := by
  have hid : ((fun u : User => decide (u.id = id)) ∘ fun u => if u.id = userId then f u else u) =
      fun u => decide (u.id = id) := by
    funext u
    by_cases hu : u.id = userId
    · simp [hu, hf u]
    · simp [hu]
  unfold updateUser loadUser
  rw [List.find?_map, hid]

/-- Another user's row is as it was. -/
theorem Accounts.standing_updateUser_of_ne {f : User → User} (hf : ∀ u, (f u).id = u.id)
    {id : String} (hne : id ≠ userId) :
    (a.updateUser userId f).standing id = a.standing id := by
  unfold standing
  rw [loadUser_updateUser hf]
  cases hu : a.loadUser id with
  | none => rfl
  | some u =>
    have hid : u.id ≠ userId := loadUser_id hu ▸ hne
    simp [hid]

theorem Accounts.standing_updateUser {f : User → User} (hf : ∀ u, (f u).id = u.id) :
    (a.updateUser userId f).standing userId =
      (a.loadUser userId).map fun u => ((f u).isActive, (f u).tokensValidAfter) := by
  unfold standing
  rw [loadUser_updateUser hf]
  cases hu : a.loadUser userId with
  | none => rfl
  | some u => simp [loadUser_id hu]

/-- Columns beside the two are written. -/
theorem Accounts.standing_updateUser_of_same {f : User → User} (hf : ∀ u, (f u).id = u.id)
    (hs : ∀ u, (f u).isActive = u.isActive ∧ (f u).tokensValidAfter = u.tokensValidAfter)
    (id : String) : (a.updateUser userId f).standing id = a.standing id := by
  unfold standing
  rw [loadUser_updateUser hf, Option.map_map]
  congr 1
  funext u
  by_cases hu : u.id = userId
  · simp [hu, hs u]
  · simp [hu]

/-- What a login or a refresh does: it draws identifiers, stores rows for them, and leaves every
user's standing. -/
structure Grows (a a' : Accounts) (userId : String) : Prop where
  standing : ∀ id, a'.standing id = a.standing id
  drawn_le : a.drawn ≤ a'.drawn
  rows : ∃ new, a'.sessions = a.sessions ++ new ∧
    ∀ r ∈ new, (a.drawn ≤ r.jti ∧ r.jti < a'.drawn) ∧ r.userId = userId ∧ r.revokedAt = none

theorem Grows.refl (a : Accounts) (userId : String) : Grows a a userId :=
  ⟨fun _ => rfl, le_rfl, [], by simp, by simp⟩

theorem Grows.trans (h₁ : Grows a a' userId) (h₂ : Grows a' a'' userId) : Grows a a'' userId := by
  obtain ⟨new₁, e₁, hn₁⟩ := h₁.rows
  obtain ⟨new₂, e₂, hn₂⟩ := h₂.rows
  have hle₁ := h₁.drawn_le
  have hle₂ := h₂.drawn_le
  refine ⟨fun id => (h₂.standing id).trans (h₁.standing id), hle₁.trans hle₂,
    new₁ ++ new₂, by rw [e₂, e₁, List.append_assoc], ?_⟩
  intro r hr
  rcases List.mem_append.1 hr with hr | hr
  · obtain ⟨⟨hge, hlt⟩, huser, hopen⟩ := hn₁ r hr
    exact ⟨⟨hge, hlt.trans_le hle₂⟩, huser, hopen⟩
  · obtain ⟨⟨hge, hlt⟩, huser, hopen⟩ := hn₂ r hr
    exact ⟨⟨hle₁.trans hge, hlt⟩, huser, hopen⟩

theorem Grows.isJtiRevoked (hg : Grows a a' userId) (jti : Option Nat) :
    a'.isJtiRevoked jti = a.isJtiRevoked jti := by
  obtain ⟨new, e, hn⟩ := hg.rows
  cases jti with
  | none => rfl
  | some j =>
    unfold Accounts.isJtiRevoked
    simp only [e, List.find?_append]
    cases hold : a.sessions.find? (·.jti = j) with
    | some r => rfl
    | none =>
      cases hnew : new.find? (·.jti = j) with
      | none => rfl
      | some r => simp [(hn r (List.mem_of_find?_eq_some hnew)).2.2]

theorem Grows.revoked_iff (hg : Grows a a' userId) : a'.Revoked c ↔ a.Revoked c := by
  rw [Accounts.revoked_iff, Accounts.revoked_iff, hg.isJtiRevoked, hg.standing]

/-- A credential is issued now, under an identifier drawn now. -/
structure Minted (a a' : Accounts) (now : Time) (userId : String) (c : Credential) : Prop where
  userId_eq : c.userId = userId
  iat_eq : c.iat = epochSeconds now
  jti_drawn : ∃ j, c.jti = some j ∧ a.drawn ≤ j ∧ j < a'.drawn

theorem Minted.mono {b b' : Accounts} (hm : Minted a a' now userId c) (hb : b.drawn ≤ a.drawn)
    (hb' : a'.drawn ≤ b'.drawn) : Minted b b' now userId c := by
  obtain ⟨j, hj, hge, hlt⟩ := hm.jti_drawn
  exact ⟨hm.userId_eq, hm.iat_eq, j, hj, hb.trans hge, hlt.trans_le hb'⟩

/-- `record` under the identifier just drawn. -/
theorem grows_record (kind : Kind) (ttl : Int) :
    Grows a (Accounts.record { a with drawn := a.drawn + 1 } stored now userId kind a.drawn ttl)
      userId := by
  cases stored with
  | false => exact ⟨fun _ => rfl, Nat.le_succ _, [], by simp [Accounts.record], by simp⟩
  | true =>
    refine ⟨fun _ => rfl, Nat.le_succ _, _, rfl, ?_⟩
    intro r hr
    obtain rfl := List.mem_singleton.1 hr
    exact ⟨⟨le_rfl, Nat.lt_succ_self _⟩, rfl, rfl⟩

theorem drawn_record (kind : Kind) (jti : Nat) (ttl : Int) :
    (a.record stored now userId kind jti ttl).drawn = a.drawn := by
  cases stored <;> rfl

theorem issueToken_spec (a : Accounts) (stored : Bool) (now : Time) (userId : String) (kind : Kind)
    (ttl : Int) :
    Grows a (issueToken a stored now userId kind ttl).1 userId ∧
      Minted a (issueToken a stored now userId kind ttl).1 now userId
        (issueToken a stored now userId kind ttl).2 :=
  ⟨grows_record kind ttl, rfl, rfl, a.drawn, rfl, le_rfl, by
    rw [issueToken, drawn_record]; exact Nat.lt_succ_self _⟩

theorem issueCookie_spec (cfg : Settings) (a : Accounts) (stored : Bool) (now : Time)
    (userId : String) :
    Grows a (issueCookie cfg a stored now userId).1 userId ∧
      Minted a (issueCookie cfg a stored now userId).1 now userId
        (issueCookie cfg a stored now userId).2 :=
  ⟨grows_record .cookie _, rfl, rfl, a.drawn, rfl, le_rfl, by
    rw [issueCookie, drawn_record]; exact Nat.lt_succ_self _⟩

theorem authenticate_grows (cfg : Settings) (a : Accounts) (now : Time)
    (identifier password userId : String) :
    Grows a (authenticate cfg a now identifier password).1 userId := by
  unfold authenticate
  cases a.identify identifier with
  | none => exact Grows.refl a userId
  | some u =>
    dsimp only
    split
    · exact Grows.refl a userId
    split
    · exact Grows.refl a userId
    refine ⟨fun id => ?_, le_rfl, [], by simp [Accounts.updateUser], by simp⟩
    exact Accounts.standing_updateUser_of_same (f := fun u => { u with lastLoginAt := some now })
      (fun _ => rfl) (fun _ => ⟨rfl, rfl⟩) id

/-- The tokens a login or a refresh answers with. -/
theorem tokens_spec (a : Accounts) (stored : Bool) (now : Time) (userId : String) :
    let (a₁, access) := issueAccessToken a stored now userId
    let (a₂, refresh) := issueRefreshToken a₁ stored now userId
    Grows a a₂ userId ∧ Minted a a₂ now userId access ∧ Minted a a₂ now userId refresh := by
  have h₁ := issueToken_spec a stored now userId .access accessTokenTtlSeconds
  have h₂ := issueToken_spec (issueAccessToken a stored now userId).1 stored now userId .refresh
    refreshTokenTtlSeconds
  exact ⟨h₁.1.trans h₂.1, h₁.2.mono le_rfl h₂.1.drawn_le, h₂.2.mono h₁.1.drawn_le le_rfl⟩

theorem login_spec {identifier password : String} {ans : LoginAnswer}
    (hl : login cfg a stored now identifier password = (a', .ok ans)) :
    Grows a a' ans.user.id ∧ ∀ c ∈ [ans.cookie, ans.accessToken, ans.refreshToken],
      Minted a a' now ans.user.id c := by
  unfold login at hl
  split at hl
  · cases hl
  have h₁ := authenticate_grows cfg a now identifier password
  split at hl
  · cases hl
  case _ a₁ user heq =>
    rw [heq] at h₁
    obtain ⟨hg₂, hm₂⟩ := issueCookie_spec cfg a₁ stored now user.id
    obtain ⟨hg₃, hm₃, hm₄⟩ :=
      tokens_spec (issueCookie cfg a₁ stored now user.id).1 stored now user.id
    obtain ⟨rfl, rfl⟩ : _ = a' ∧ _ = ans := by simpa using hl
    have hg₁₂ := (h₁ user.id).trans hg₂
    refine ⟨hg₁₂.trans hg₃, ?_⟩
    intro c hc
    simp only [List.mem_cons, List.not_mem_nil, or_false] at hc
    rcases hc with rfl | rfl | rfl
    · exact hm₂.mono (h₁ user.id).drawn_le hg₃.drawn_le
    · exact hm₃.mono hg₁₂.drawn_le le_rfl
    · exact hm₄.mono hg₁₂.drawn_le le_rfl

theorem login_error {identifier password : String} {e : ApiError}
    (hl : login cfg a stored now identifier password = (a', .error e)) (userId : String) :
    Grows a a' userId := by
  unfold login at hl
  split at hl
  · cases hl
    exact Grows.refl a userId
  have h₁ := authenticate_grows cfg a now identifier password userId
  split at hl
  · case _ heq =>
    cases hl
    rwa [heq] at h₁
  · cases hl

theorem loginSubmit_spec {identifier password : String} {o : Option Credential}
    (hl : loginSubmit cfg a stored now identifier password = (a', o)) :
    (o = none ∧ Grows a a' "") ∨
      ∃ c, o = some c ∧ Grows a a' c.userId ∧ Minted a a' now c.userId c := by
  unfold loginSubmit at hl
  have h₁ := authenticate_grows cfg a now identifier password
  split at hl
  · case _ heq =>
    cases hl
    rw [heq] at h₁
    exact .inl ⟨rfl, h₁ ""⟩
  · case _ a₁ user heq =>
    rw [heq] at h₁
    obtain ⟨hg₂, hm₂⟩ := issueCookie_spec cfg a₁ stored now user.id
    cases hl
    exact .inr ⟨_, rfl, (h₁ user.id).trans hg₂, hm₂.mono (h₁ user.id).drawn_le le_rfl⟩

/-- What `POST /refresh` asks of a token, and what it answers with. -/
theorem refresh_spec {access refresh : Credential}
    (hr : Auth.refresh cfg a stored now (.signed c) = (a', .ok (access, refresh))) :
    (decodeToken cfg now .refresh c).isSome ∧ (∃ u ∈ a.loadUser c.userId, u.isActive = true) ∧
      Grows a a' c.userId ∧ ∀ c' ∈ [access, refresh], Minted a a' now c.userId c' := by
  unfold Auth.refresh at hr
  dsimp only at hr
  split at hr
  · cases hr
  case _ payload hdecoded =>
  obtain rfl : c = payload := by
    unfold decodeToken at hdecoded
    split at hdecoded
    · exact Option.some.inj hdecoded
    · cases hdecoded
  split at hr
  · cases hr
  case _ user huser =>
  split at hr
  · cases hr
  case _ hactive =>
  obtain ⟨hg, hm, hm'⟩ := tokens_spec a stored now user.id
  rw [Accounts.loadUser_id huser] at hg hm hm'
  rw [Accounts.loadUser_id huser] at hr
  obtain ⟨rfl, rfl, rfl⟩ : _ = a' ∧ _ = access ∧ _ = refresh := by simpa using hr
  refine ⟨by simp [hdecoded], ⟨user, huser, by simpa using hactive⟩, hg, ?_⟩
  intro c' hc'
  simp only [List.mem_cons, List.not_mem_nil, or_false] at hc'
  rcases hc' with rfl | rfl
  · exact hm
  · exact hm'

theorem refresh_error {p : Presented} {e : ApiError}
    (hr : Auth.refresh cfg a stored now p = (a', .error e)) : a' = a := by
  unfold Auth.refresh at hr
  repeat' split at hr
  all_goals cases hr
  all_goals rfl

/-! ### Requests -/

/-- The credential that decides about a request. -/
def Request.credential (cfg : Settings) (r : Request) (now : Time) : Option Credential :=
  match r.session cfg now with
  | some session => some session
  | none => r.bearer.bind (decodeToken cfg now .access)

/-- The credential is accepted, its time apart. -/
def Accounts.Accepts (a : Accounts) (c : Credential) : Prop :=
  (∃ u ∈ a.loadUser c.userId, u.isActive = true) ∧ ¬ a.Revoked c

theorem Accounts.accepts_iff : a.Accepts c ↔ ∃ u, a.userAndIat c = some (u, c.iat) ∧
    u.isActive = true ∧ epochSeconds u.tokensValidAfter ≤ c.iat := by
  unfold Accepts Revoked userAndIat
  cases hu : a.loadUser c.userId with
  | none => simp
  | some u =>
    cases hj : a.isJtiRevoked c.jti with
    | true => simp
    | false => simp

theorem resolveUserAndIat_eq {r : Request} :
    resolveUserAndIat cfg a now r = (r.credential cfg now).bind a.userAndIat := by
  unfold resolveUserAndIat Request.credential
  cases r.session cfg now <;> rfl

theorem Accounts.userAndIat_snd {p : User × Int} (hp : a.userAndIat c = some p) : p.2 = c.iat := by
  unfold userAndIat at hp
  split at hp
  · cases hp
  split at hp
  · cases hp
  · cases hp
    rfl

theorem resolveUser_isSome_iff {r : Request} :
    (resolveUser cfg a now r).isSome = true ↔ ∃ c ∈ r.credential cfg now, a.Accepts c := by
  unfold resolveUser
  rw [resolveUserAndIat_eq]
  cases hc : r.credential cfg now with
  | none => simp
  | some c =>
    simp only [Option.bind_some, Option.mem_def, Option.some.injEq, exists_eq_left',
      Accounts.accepts_iff]
    cases hp : a.userAndIat c with
    | none => simp
    | some p =>
      obtain ⟨u, iat⟩ := p
      obtain rfl : iat = c.iat := Accounts.userAndIat_snd hp
      cases ha : u.isActive with
      | false => simp [ha]
      | true =>
        by_cases hlt : c.iat < epochSeconds u.tokensValidAfter
        · simp [ha, hlt]
        · simp [ha, hlt, Int.not_lt.1 hlt]

theorem History.request_credential (cookie bearer : Option Nat) :
    (h.request cookie bearer).credential cfg now =
      (h.presented cfg now cookie bearer).map (·.credential) := by
  have hsession : (h.request cookie bearer).session cfg now =
      ((h.nth cookie).filter fun i =>
        i.credential.kind = .cookie ∧ i.credential.isLive cfg now).map (·.credential) := by
    unfold request Request.session
    cases h.nth cookie with
    | none => rfl
    | some i => simp only [Option.map_some, Option.filter_some]; split <;> rfl
  have hbearer : (h.request cookie bearer).bearer.bind (decodeToken cfg now .access) =
      ((h.nth bearer).filter fun i =>
        i.credential.isLive cfg now ∧ i.credential.kind = .access).map (·.credential) := by
    unfold request
    cases h.nth bearer with
    | none => rfl
    | some i =>
      simp only [Option.map_some, Option.bind_some, Option.filter_some, decodeToken,
        decide_eq_true_eq]
      split <;> rfl
  unfold Request.credential presented
  rw [hsession, hbearer]
  cases (h.nth cookie).filter fun i =>
      i.credential.kind = .cookie ∧ i.credential.isLive cfg now with
  | none => rfl
  | some i => rfl

theorem History.mem_of_nth {n : Option Nat} (hn : h.nth n = some i) : i ∈ h.issued := by
  obtain ⟨k, -, hk⟩ := Option.bind_eq_some_iff.1 hn
  exact List.mem_of_getElem? hk

theorem History.mem_of_presented {cookie bearer : Option Nat}
    (hp : h.presented cfg now cookie bearer = some i) : i ∈ h.issued := by
  unfold presented at hp
  split at hp
  · case _ hc =>
    cases hp
    exact mem_of_nth (Option.filter_eq_some_iff.1 hc).1
  · exact mem_of_nth (Option.filter_eq_some_iff.1 hp).1

/-! ### Revocations -/

/-- What a revocation does: the user's cut-off becomes `now`, and at most rows of his are marked. -/
structure Curtails (a a' : Accounts) (userId : String) (now : Time) : Prop where
  standing_of_ne : ∀ id, id ≠ userId → a'.standing id = a.standing id
  standing_self : ∀ b t, a'.standing userId = some (b, t) →
    t = now ∧ (b = true → ∃ t', a.standing userId = some (true, t'))
  drawn_le : a.drawn ≤ a'.drawn
  rows : ∀ r ∈ a'.sessions, ∃ r₀ ∈ a.sessions, r₀.jti = r.jti ∧ r₀.userId = r.userId
  marked_mono : ∀ jti, a.isJtiRevoked jti = true → a'.isJtiRevoked jti = true
  marked : ∀ j, a'.isJtiRevoked (some j) = true → a.isJtiRevoked (some j) = true ∨
    ∃ r ∈ a.sessions, r.jti = j ∧ r.userId = userId

theorem curtails_update {a₀ : Accounts} {f : User → User} (hf : ∀ u, (f u).id = u.id)
    (hcutoff : ∀ u, (f u).tokensValidAfter = now)
    (hactive : ∀ u, (f u).isActive = true → u.isActive = true) (husers : a₀.users = a.users)
    (hsessions : a₀.sessions = a.sessions) (hdrawn : a.drawn ≤ a₀.drawn) :
    Curtails a (a₀.updateUser userId f) userId now := by
  have hload : ∀ id, a₀.loadUser id = a.loadUser id := fun id => by
    unfold Accounts.loadUser
    rw [husers]
  have hmarked : ∀ jti, (a₀.updateUser userId f).isJtiRevoked jti = a.isJtiRevoked jti := by
    intro jti
    unfold Accounts.isJtiRevoked Accounts.updateUser
    rw [hsessions]
  refine ⟨?_, ?_, hdrawn, ?_, fun jti hj => (hmarked jti).trans hj,
    fun j hj => .inl ((hmarked (some j)).symm.trans hj)⟩
  · intro id hne
    rw [Accounts.standing_updateUser_of_ne hf hne, Accounts.standing, Accounts.standing, hload]
  · intro b t hs
    rw [Accounts.standing_updateUser hf, hload, Option.map_eq_some_iff] at hs
    obtain ⟨u, hu, heq⟩ := hs
    obtain ⟨hb, ht⟩ := Prod.mk.inj heq
    refine ⟨ht.symm.trans (hcutoff u), fun hb' => ⟨u.tokensValidAfter, ?_⟩⟩
    rw [hb'] at hb
    exact Accounts.standing_eq_some.2 ⟨u, hu, hactive u hb, rfl⟩
  · intro r hr
    exact ⟨r, hsessions ▸ hr, rfl, rfl⟩

theorem Accounts.isJtiRevoked_revokeSessions {p : SessionRow → Bool} {j : Nat} :
    (a.revokeSessions now p).isJtiRevoked (some j) = true ↔
      a.isJtiRevoked (some j) = true ∨ ∃ r ∈ a.sessions.find? (·.jti = j), p r = true := by
  have hjti : ∀ f : SessionRow → SessionRow, (∀ r, (f r).jti = r.jti) →
      ((fun r : SessionRow => decide (r.jti = j)) ∘ f) = fun r => decide (r.jti = j) := by
    intro f hf
    funext r
    simp [hf r]
  unfold isJtiRevoked revokeSessions
  simp only [List.find?_map]
  rw [hjti]
  · cases a.sessions.find? (·.jti = j) with
    | none => simp
    | some r =>
      cases hr : r.revokedAt with
      | none => by_cases hp : p r = true <;> simp [hr, hp]
      | some t => simp [hr]
  · intro r
    split <;> rfl

/-- Rows of the user are marked as well. -/
theorem Curtails.mark (hc : Curtails a a' userId now) {p : SessionRow → Bool}
    (hp : ∀ r ∈ a'.sessions, p r = true → r.userId = userId) :
    Curtails a (a'.revokeSessions now p) userId now := by
  refine ⟨hc.standing_of_ne, hc.standing_self, hc.drawn_le, ?_, ?_, ?_⟩
  · intro r hr
    obtain ⟨r₁, hr₁, rfl⟩ := List.mem_map.1 hr
    obtain ⟨r₀, hr₀, hj, hu⟩ := hc.rows r₁ hr₁
    refine ⟨r₀, hr₀, ?_⟩
    split
    · exact ⟨hj, hu⟩
    · exact ⟨hj, hu⟩
  · intro jti hj
    cases jti with
    | none => cases hj
    | some j => exact Accounts.isJtiRevoked_revokeSessions.2 (.inl (hc.marked_mono _ hj))
  · intro j hj
    rcases Accounts.isJtiRevoked_revokeSessions.1 hj with hj | ⟨r, hr, hpr⟩
    · exact hc.marked j hj
    · have hmem := List.mem_of_find?_eq_some hr
      have hrj : r.jti = j := by simpa using List.find?_some hr
      obtain ⟨r₀, hr₀, hj₀, hu₀⟩ := hc.rows r hmem
      exact .inr ⟨r₀, hr₀, hj₀.trans hrj, hu₀.trans (hp r hmem hpr)⟩

/-! ### The invariant -/

/-- What holds of each credential issued: it is revoked from the next revocation of its user on,
and not before. -/
structure Issued.Ok (h : History) (i : Issued) : Prop where
  jti_lt : ∀ j, i.credential.jti = some j → j < h.accounts.drawn
  row_user : ∀ r ∈ h.accounts.sessions,
    i.credential.jti = some r.jti → r.userId = i.credential.userId
  generation_le : i.generation ≤ h.revocations i.credential.userId
  current : i.generation = h.revocations i.credential.userId → ¬ h.accounts.Revoked i.credential
  former : i.generation < h.revocations i.credential.userId →
    ∀ t, h.accounts.standing i.credential.userId = some (true, t) → h.accounts.Revoked i.credential

structure History.Inv (h : History) : Prop where
  cutoff_le : ∀ id b t, h.accounts.standing id = some (b, t) → t ≤ h.clock
  row_lt : ∀ r ∈ h.accounts.sessions, r.jti < h.accounts.drawn
  issued : ∀ i ∈ h.issued, i.Ok h

theorem History.Start.inv (hs : h.Start) : h.Inv := by
  refine ⟨?_, hs.row_lt, by simp [hs.issued]⟩
  intro id b t ht
  obtain ⟨u, hu, -, rfl⟩ := Accounts.standing_eq_some.1 ht
  exact hs.cutoff_le u (List.mem_of_find?_eq_some hu)

/-- A credential is accepted exactly as long as no revocation has come since its login. -/
theorem Issued.Ok.accepts_iff (hi : i.Ok h) : h.accounts.Accepts i.credential ↔
    i.generation = h.revocations i.credential.userId ∧
      ∃ u ∈ h.accounts.loadUser i.credential.userId, u.isActive = true := by
  constructor
  · rintro ⟨⟨u, hu, hactive⟩, hnot⟩
    refine ⟨?_, u, hu, hactive⟩
    by_contra hne
    have hlt := lt_of_le_of_ne hi.generation_le hne
    exact hnot (hi.former hlt _ (Accounts.standing_eq_some.2 ⟨u, hu, hactive, rfl⟩))
  · rintro ⟨heq, huser⟩
    exact ⟨huser, hi.current heq⟩

/-- Rows under identifiers not drawn yet do not exist. -/
theorem History.Inv.not_marked (hI : h.Inv) {j : Nat} (hj : h.accounts.drawn ≤ j) :
    h.accounts.isJtiRevoked (some j) = false := by
  have hnone : h.accounts.sessions.find? (·.jti = j) = none := by
    rw [List.find?_eq_none]
    intro r hr
    have := hI.row_lt r hr
    simp only [decide_eq_true_eq]
    omega
  simp only [Accounts.isJtiRevoked, hnone]

/-- Time passes, and rows are stored for fresh identifiers. -/
theorem Issued.Ok.grow (hi : i.Ok h) (hg : Grows h.accounts a userId) {h' : History}
    (ha : h'.accounts = a) (hr : h'.revocations = h.revocations) : i.Ok h' := by
  obtain ⟨new, e, hn⟩ := hg.rows
  refine ⟨?_, ?_, ?_, ?_, ?_⟩
  · intro j hj
    rw [ha]
    exact (hi.jti_lt j hj).trans_le hg.drawn_le
  · intro r hr' hj
    rw [ha, e] at hr'
    rcases List.mem_append.1 hr' with hr' | hr'
    · exact hi.row_user r hr' hj
    · have := hi.jti_lt _ hj
      have := (hn r hr').1
      omega
  · rw [hr]
    exact hi.generation_le
  · rw [hr, ha, hg.revoked_iff]
    exact hi.current
  · rw [hr, ha, hg.revoked_iff, hg.standing]
    exact hi.former

/-- A login or a refresh issues credentials of the generation that is current. -/
theorem History.Inv.issue (hI : h.Inv) (hclock : h.clock ≤ now) (hg : Grows h.accounts a userId)
    {cs : List Credential} (hm : ∀ c ∈ cs, Minted h.accounts a now userId c) :
    History.Inv { h.issue a (h.revocations userId) cs with clock := now } := by
  obtain ⟨new, e, hn⟩ := hg.rows
  refine ⟨?_, ?_, ?_⟩
  · intro id b t ht
    exact (hI.cutoff_le id b t ((hg.standing id).symm.trans ht)).trans hclock
  · intro r hr
    rcases List.mem_append.1 (e ▸ hr : r ∈ h.accounts.sessions ++ new) with hr | hr
    · exact (hI.row_lt r hr).trans_le hg.drawn_le
    · exact (hn r hr).1.2
  · intro i hi
    rcases List.mem_append.1 hi with hi | hi
    · exact (hI.issued i hi).grow hg rfl rfl
    obtain ⟨c, hc, rfl⟩ := List.mem_map.1 hi
    obtain ⟨j, hj, hge, hlt⟩ := (hm c hc).jti_drawn
    obtain rfl := (hm c hc).userId_eq
    refine ⟨?_, ?_, le_rfl, fun _ => ?_, fun hlt' => absurd hlt' (lt_irrefl _)⟩
    · intro j' hj'
      obtain rfl : j = j' := Option.some.inj (hj.symm.trans hj')
      exact hlt
    · intro r hr hjr
      have hjr' : j = r.jti := Option.some.inj (hj.symm.trans hjr)
      rcases List.mem_append.1 (e ▸ hr : r ∈ h.accounts.sessions ++ new) with hr | hr
      · have := hI.row_lt r hr
        omega
      · exact (hn r hr).2.1
    · -- the cut-off is not later than the clock, hence not than the second of issue
      change ¬ a.Revoked c
      rw [hg.revoked_iff, Accounts.revoked_iff, hj, hI.not_marked hge]
      rintro (hfalse | ⟨b, t, ht, hiat⟩)
      · cases hfalse
      · have := epochSeconds_mono ((hI.cutoff_le _ b t ht).trans hclock)
        rw [(hm c hc).iat_eq] at hiat
        omega

/-- Nothing is issued and no user's standing changes. -/
theorem History.Inv.idle (hI : h.Inv) (hclock : h.clock ≤ now)
    (hg : Grows h.accounts a userId) : History.Inv { h with accounts := a, clock := now } := by
  have hnone : ∀ c ∈ ([] : List Credential), Minted h.accounts a now userId c := by simp
  simpa [History.issue] using hI.issue hclock hg hnone

/-- A cookie is signed anew. -/
theorem History.Inv.resign (hI : h.Inv) (hclock : h.clock ≤ now) (hi : i ∈ h.issued) :
    History.Inv
      { h.issue h.accounts i.generation [resign cfg now i.credential] with clock := now } := by
  refine ⟨fun id b t ht => (hI.cutoff_le id b t ht).trans hclock, hI.row_lt, ?_⟩
  intro i' hi'
  rcases List.mem_append.1 hi' with hi' | hi'
  · exact (hI.issued i' hi').grow (Grows.refl _ "") rfl rfl
  · obtain rfl := List.mem_singleton.1 hi'
    obtain ⟨h₁, h₂, h₃, h₄, h₅⟩ := hI.issued i hi
    exact ⟨h₁, h₂, h₃, h₄, h₅⟩

/-- A revocation that reaches what it has to revoke, or leaves the user inactive. -/
theorem History.Inv.revoke (hI : h.Inv) (hclock : h.clock ≤ now)
    (hc : Curtails h.accounts a userId now) {marksRows : Bool}
    (hreach : ∀ t, a.standing userId = some (true, t) → h.Reaches now userId marksRows)
    (hmarks : marksRows = true → ∀ u ∈ h.accounts.loadUser userId, ∀ i ∈ h.issued,
      i.credential.userId = userId → h.accounts.HasRow i.credential →
        a.isJtiRevoked i.credential.jti = true) :
    History.Inv { h.revoke a userId with clock := now } := by
  refine ⟨?_, ?_, ?_⟩
  · intro id b t ht
    by_cases hid : id = userId
    · subst hid
      exact (hc.standing_self b t ht).1.le
    · exact (hI.cutoff_le id b t ((hc.standing_of_ne id hid).symm.trans ht)).trans hclock
  · intro r hr
    obtain ⟨r₀, hr₀, hj, -⟩ := hc.rows r hr
    exact hj ▸ (hI.row_lt r₀ hr₀).trans_le hc.drawn_le
  intro i hi
  have hok := hI.issued i hi
  have hjti : ∀ j, i.credential.jti = some j → j < a.drawn :=
    fun j hj => (hok.jti_lt j hj).trans_le hc.drawn_le
  have hrow : ∀ r ∈ a.sessions, i.credential.jti = some r.jti → r.userId = i.credential.userId := by
    intro r hr hj
    obtain ⟨r₀, hr₀, hj₀, hu₀⟩ := hc.rows r hr
    exact hu₀ ▸ hok.row_user r₀ hr₀ (hj₀ ▸ hj)
  by_cases hid : i.credential.userId = userId
  · -- a credential of the user: its generation is a former one now
    have hrev : Function.update h.revocations userId (h.revocations userId + 1)
        i.credential.userId = h.revocations i.credential.userId + 1 := by
      rw [hid, Function.update_self]
    have hle := hok.generation_le
    refine ⟨hjti, hrow, (Nat.le_succ_of_le hle).trans_eq hrev.symm, fun heq => ?_,
      fun _ t ht => ?_⟩
    · have : i.generation = h.revocations i.credential.userId + 1 := heq.trans hrev
      omega
    change a.standing i.credential.userId = some (true, t) at ht
    obtain ⟨rfl, hbefore⟩ := hc.standing_self true t (hid ▸ ht)
    obtain ⟨t₀, ht₀⟩ := hbefore rfl
    have hcut : i.credential.iat < epochSeconds t → a.Revoked i.credential :=
      fun hlt => Accounts.revoked_iff.2 (.inr ⟨true, t, ht, hlt⟩)
    by_cases hrevoked : h.accounts.Revoked i.credential
    · rcases Accounts.revoked_iff.1 hrevoked with hj | ⟨b, t', ht', hlt⟩
      · exact .inl (hc.marked_mono _ hj)
      · exact hcut (hlt.trans_le (epochSeconds_mono ((hI.cutoff_le _ b t' ht').trans hclock)))
    · obtain ⟨u, hu, hactive, -⟩ := Accounts.standing_eq_some.1 ht₀
      rcases hreach t (hid ▸ ht) u hu hactive i hi hid hrevoked with hlt | ⟨hmark, hhas⟩
      · exact hcut hlt
      · exact .inl (hmarks hmark u hu i hi hid hhas)
  · -- another user's: nothing it is judged by has changed
    have hrev : Function.update h.revocations userId (h.revocations userId + 1)
        i.credential.userId = h.revocations i.credential.userId :=
      Function.update_of_ne hid _ _
    have hsame : a.Revoked i.credential ↔ h.accounts.Revoked i.credential := by
      rw [Accounts.revoked_iff, Accounts.revoked_iff, hc.standing_of_ne _ hid]
      refine or_congr ⟨fun hj => ?_, hc.marked_mono _⟩ Iff.rfl
      cases hjti' : i.credential.jti with
      | none => simp [hjti', Accounts.isJtiRevoked] at hj
      | some j =>
        rcases hc.marked j (hjti' ▸ hj) with hj' | ⟨r, hr, rfl, huser⟩
        · exact hj'
        · exact absurd ((hok.row_user r hr hjti').symm.trans huser) hid
    refine ⟨hjti, hrow, hok.generation_le.trans_eq hrev.symm, fun heq => ?_, fun hlt t ht => ?_⟩
    · exact fun hr => hok.current (heq.trans hrev) (hsame.1 hr)
    · exact hsame.2 (hok.former (hrev ▸ hlt) t ((hc.standing_of_ne _ hid).symm.trans ht))

/-! ### Steps -/

theorem consumeReset_spec {token newPassword : String} {o : Option User}
    (hr : consumeReset cfg a now token newPassword = (a', o)) :
    (o = none ∧ a' = a) ∨ ∃ u, o = some u ∧ Curtails a a' u.id now ∧ token ≠ "" ∧
      8 ≤ newPassword.length ∧ ∃ rec ∈ a.pendingReset cfg now token, rec.userId = u.id := by
  unfold consumeReset at hr
  split at hr
  · cases hr
    exact .inl ⟨rfl, rfl⟩
  case _ hvalid =>
  split at hr
  · cases hr
    exact .inl ⟨rfl, rfl⟩
  case _ rec hrec =>
  split at hr
  · cases hr
    exact .inl ⟨rfl, rfl⟩
  case _ u hu =>
  split at hr
  · cases hr
    exact .inl ⟨rfl, rfl⟩
  · cases hr
    rw [not_or, Nat.not_lt] at hvalid
    refine .inr ⟨_, rfl, ?_, hvalid.1, hvalid.2, rec, hrec, (Accounts.loadUser_id hu).symm⟩
    exact curtails_update (fun _ => rfl) (fun _ => rfl) (fun _ => id) rfl rfl (Nat.le_succ _)

theorem changeOwnPassword_spec {currentPassword newPassword : String}
    (hr : changeOwnPassword cfg a now userId currentPassword newPassword = .ok a') :
    Curtails a a' userId now ∧ 8 ≤ newPassword.length ∧ currentPassword ≠ newPassword ∧
      ∀ u ∈ a.loadUser userId, cfg.verifyPassword u.passwordHash currentPassword = true := by
  unfold changeOwnPassword at hr
  split at hr
  · cases hr
  case _ hlength =>
  split at hr
  · cases hr
  case _ hdiffers =>
  split at hr
  · cases hr
  case _ u hu =>
  split at hr
  · cases hr
  case _ hverify =>
  cases hr
  refine ⟨?_, Nat.not_lt.1 hlength, hdiffers, ?_⟩
  · exact curtails_update (fun _ => rfl) (fun _ => rfl) (fun _ => id) rfl rfl (Nat.le_succ _)
  · intro u' hu'
    obtain rfl : u = u' := Option.some.inj (hu.symm.trans hu')
    simpa using hverify

theorem deactivateUser_spec {b : Bool} (hr : deactivateUser a now userId = (a', b)) :
    (b = false ∧ a' = a) ∨
      (b = true ∧ Curtails a a' userId now ∧ ∀ t, a'.standing userId ≠ some (true, t)) := by
  unfold deactivateUser at hr
  split at hr
  · cases hr
    exact .inl ⟨rfl, rfl⟩
  · cases hr
    refine .inr ⟨rfl, ?_, fun t ht => ?_⟩
    · exact curtails_update (fun _ => rfl) (fun _ => rfl) (fun _ hfalse => by cases hfalse) rfl rfl
        le_rfl
    · rw [Accounts.standing_updateUser (f := fun u =>
        { u with isActive := false, tokensValidAfter := now, updatedAt := now }) fun _ => rfl,
        Option.map_eq_some_iff] at ht
      obtain ⟨u, -, heq⟩ := ht
      cases heq

theorem revokeAllTokens_none (hu : a.loadUser userId = none) :
    revokeAllTokens a stored now userId = (a, false) := by
  unfold revokeAllTokens
  rw [hu]

theorem revokeAllTokens_some (stored : Bool) (now : Time) {u : User}
    (hu : a.loadUser userId = some u) :
    (revokeAllTokens a stored now userId).2 = true ∧
      (stored = true → ∀ j, ∀ r ∈ a.sessions.find? (·.jti = j), r.userId = userId →
        (revokeAllTokens a stored now userId).1.isJtiRevoked (some j) = true) := by
  unfold revokeAllTokens
  rw [hu]
  refine ⟨rfl, ?_⟩
  rintro rfl j r hr huser
  exact Accounts.isJtiRevoked_revokeSessions.2 (.inr ⟨r, hr, by simpa using huser⟩)

theorem revokeAllTokens_curtails (a : Accounts) (stored : Bool) (now : Time) (userId : String) :
    Curtails a (revokeAllTokens a stored now userId).1 userId now := by
  cases hu : a.loadUser userId with
  | none =>
    rw [revokeAllTokens_none hu]
    refine ⟨fun _ _ => rfl, ?_, le_rfl, fun r hr => ⟨r, hr, rfl, rfl⟩, fun _ => id, fun _ => .inl⟩
    intro b t ht
    simp [Accounts.standing, hu] at ht
  | some u =>
    have hc : Curtails a (a.updateUser userId fun u =>
        { u with tokensValidAfter := now, updatedAt := now }) userId now :=
      curtails_update (fun _ => rfl) (fun _ => rfl) (fun _ => id) rfl rfl le_rfl
    unfold revokeAllTokens
    rw [hu]
    cases stored with
    | false => exact hc
    | true => exact hc.mark fun r _ hr => by simpa using hr

/-- The first row under the identifier of a user's credential is that user's. -/
theorem Issued.Ok.find_row (hi : i.Ok h) (hrow : h.accounts.HasRow i.credential) :
    ∃ j, i.credential.jti = some j ∧ ∃ r ∈ h.accounts.sessions.find? (·.jti = j),
      r.userId = i.credential.userId := by
  obtain ⟨r, hr, hj⟩ := hrow
  refine ⟨r.jti, hj, ?_⟩
  cases hf : h.accounts.sessions.find? (·.jti = r.jti) with
  | none => exact absurd (List.find?_eq_none.1 hf r hr) (by simp)
  | some r' =>
    have hj' : r'.jti = r.jti := by simpa using List.find?_some hf
    exact ⟨r', rfl, hi.row_user r' (List.mem_of_find?_eq_some hf) (hj'.symm ▸ hj)⟩

/-- The rows `revoke_all_tokens` marks. -/
theorem History.Inv.marks (hI : h.Inv) (stored : Bool) (now : Time) (userId : String)
    {marked : Accounts}
    (hmono : ∀ jti, (revokeAllTokens h.accounts stored now userId).1.isJtiRevoked jti = true →
      marked.isJtiRevoked jti = true) (hs : stored = true) :
    ∀ u ∈ h.accounts.loadUser userId, ∀ i ∈ h.issued, i.credential.userId = userId →
      h.accounts.HasRow i.credential → marked.isJtiRevoked i.credential.jti = true := by
  intro u hu i hi hid hrow
  obtain ⟨j, hj, r, hr, huser⟩ := (hI.issued i hi).find_row hrow
  rw [hj]
  exact hmono _ ((revokeAllTokens_some stored now hu).2 hs j r hr (huser.trans hid))

/-- `logout`, of a user's cookie: what `revoke_all_tokens` does, and the cookie's own row. -/
theorem logout_curtails (stored : Bool) {r : Request} {session : Credential}
    (hs : r.session cfg now = some session)
    (hrow : ∀ row ∈ a.sessions, session.jti = some row.jti → row.userId = session.userId) :
    Curtails a (logout cfg a stored now r) session.userId now ∧
      ∀ jti, (revokeAllTokens a stored now session.userId).1.isJtiRevoked jti = true →
        (logout cfg a stored now r).isJtiRevoked jti = true := by
  have hc := revokeAllTokens_curtails a stored now session.userId
  unfold logout
  rw [hs]
  dsimp only
  cases hsid : session.jti with
  | none => exact ⟨hc, fun _ => id⟩
  | some sid =>
    cases stored with
    | false => exact ⟨hc, fun _ => id⟩
    | true =>
      refine ⟨hc.mark ?_, ?_⟩
      · intro row hrow' hj
        obtain ⟨row₀, hrow₀, hj₀, hu₀⟩ := hc.rows row hrow'
        have hj : row.jti = sid := by simpa using hj
        exact hu₀ ▸ hrow row₀ hrow₀ (by rw [hsid, hj₀, hj])
      · intro jti hj
        cases jti with
        | none => cases hj
        | some j => exact Accounts.isJtiRevoked_revokeSessions.2 (.inl hj)

theorem History.mem_of_session {cookie : Option Nat} {session : Credential}
    (hs : (h.request cookie none).session cfg now = some session) :
    ∃ i ∈ h.issued, i.credential = session := by
  unfold Request.session at hs
  obtain ⟨i, hi, hc⟩ := Option.map_eq_some_iff.1 (Option.filter_eq_some_iff.1 hs).1
  exact ⟨i, mem_of_nth hi, hc⟩

theorem requestReset_grows (cfg : Settings) (a : Accounts) (now : Time) (email : String) :
    Grows a (requestReset cfg a now email).1 "" := by
  unfold requestReset
  split
  · exact Grows.refl a ""
  split
  · exact Grows.refl a ""
  split
  · exact Grows.refl a ""
  · exact ⟨fun _ => rfl, Nat.le_succ _, [], by simp, by simp⟩

/-- Each steady step keeps the invariant. -/
theorem inv_step (cfg : Settings) (h : History) (l : Time × AuthOp) (hI : h.Inv)
    (hl : h.Steady cfg l) : (h.step cfg l).Inv := by
  obtain ⟨now, op⟩ := l
  obtain ⟨hclock, hop⟩ := hl
  unfold History.step History.act
  cases op with
  | login stored identifier password =>
    dsimp only
    split
    · case _ a ans heq =>
      obtain ⟨hg, hm⟩ := login_spec heq
      exact hI.issue hclock hg hm
    · case _ a e heq => exact hI.idle hclock (login_error heq "")
  | loginSubmit stored identifier password =>
    dsimp only
    split
    · case _ a cookie heq =>
      obtain ⟨hnone, -⟩ | ⟨c, hc, hg, hm⟩ := loginSubmit_spec heq
      · cases hnone
      · obtain rfl : cookie = c := Option.some.inj hc
        exact hI.issue hclock hg (by simpa using hm)
    · case _ a heq =>
      obtain ⟨-, hg⟩ | ⟨c, hc, -⟩ := loginSubmit_spec heq
      · exact hI.idle hclock hg
      · cases hc
  | refresh stored token =>
    dsimp only
    split
    · exact hI.idle hclock (Grows.refl h.accounts "")
    case _ i hi =>
    split
    · case _ a access refresh heq =>
      -- a token that is redeemed is not revoked, so its generation is the current one
      obtain ⟨hdecoded, ⟨u, hu, hactive⟩, hg, hm⟩ := refresh_spec heq
      have hnot := hop i hi hdecoded u hu hactive
      have haccepts := (hI.issued i (History.mem_of_nth hi)).accepts_iff.1 ⟨⟨u, hu, hactive⟩, hnot⟩
      rw [haccepts.1]
      exact hI.issue hclock hg hm
    · case _ a e heq =>
      rw [refresh_error heq]
      exact hI.idle hclock (Grows.refl h.accounts "")
  | request cookie bearer =>
    have hidle := hI.idle hclock (Grows.refl h.accounts "")
    dsimp only
    split
    · case _ u i _ hi =>
      split
      · exact hI.resign hclock (History.mem_of_presented hi)
      · exact hidle
    · exact hidle
  | requestReset email => exact hI.idle hclock (requestReset_grows cfg h.accounts now email)
  | consumeReset token newPassword =>
    dsimp only
    split
    · case _ a u heq =>
      obtain ⟨hnone, -⟩ | ⟨u', hu', hc, htoken, hlength, rec, hrec, hrid⟩ := consumeReset_spec heq
      · cases hnone
      · obtain rfl : u = u' := Option.some.inj hu'
        exact hI.revoke hclock hc (fun _ _ => hrid ▸ hop htoken hlength rec hrec) (by simp)
    · case _ a heq =>
      obtain ⟨-, rfl⟩ | ⟨u', hu', -⟩ := consumeReset_spec heq
      · exact hI.idle hclock (Grows.refl h.accounts "")
      · cases hu'
  | changeOwnPassword userId currentPassword newPassword =>
    dsimp only
    split
    · case _ a heq =>
      obtain ⟨hc, hlength, hdiffers, hverify⟩ := changeOwnPassword_spec heq
      exact hI.revoke hclock hc (fun _ _ => hop hlength hdiffers hverify) (by simp)
    · exact hI.idle hclock (Grows.refl h.accounts "")
  | revokeAllTokens stored userId =>
    have hc := revokeAllTokens_curtails h.accounts stored now userId
    have hmarks := hI.marks stored now userId fun _ => id
    dsimp only
    split
    · case _ a heq =>
      rw [heq] at hc hmarks
      exact hI.revoke hclock hc (fun _ _ => hop) hmarks
    · case _ a heq =>
      cases hu : h.accounts.loadUser userId with
      | none =>
        rw [revokeAllTokens_none hu] at heq
        cases heq
        exact hI.idle hclock (Grows.refl h.accounts "")
      | some u =>
        have htrue := (revokeAllTokens_some stored now hu).1
        rw [heq] at htrue
        cases htrue
  | logout stored cookie =>
    dsimp only
    split
    · case _ session hs =>
      obtain ⟨i, hi, rfl⟩ := History.mem_of_session hs
      obtain ⟨hc, hmono⟩ := logout_curtails stored hs (hI.issued i hi).row_user
      exact hI.revoke hclock hc (fun _ _ => hop _ hs) (hI.marks stored now _ hmono)
    · case _ hs =>
      rw [logout, hs]
      exact hI.idle hclock (Grows.refl h.accounts "")
  | deactivateUser userId =>
    dsimp only
    split
    · case _ a heq =>
      obtain ⟨hfalse, -⟩ | ⟨-, hc, hinactive⟩ := deactivateUser_spec heq
      · cases hfalse
      · refine hI.revoke hclock hc (fun t ht => absurd ht (hinactive t)) (?_ : false = true → _)
        rintro ⟨⟩
    · case _ a heq =>
      obtain ⟨-, rfl⟩ | ⟨htrue, -⟩ := deactivateUser_spec heq
      · exact hI.idle hclock (Grows.refl h.accounts "")
      · cases htrue

/-- **Revocation is final.**  After a steady run, a request is authenticated exactly when the
credential that decides about it derives from a login that no revocation of its user has
followed, and the user is active. -/
theorem revocation_final (cfg : Settings) {h₀ : History} (hstart : h₀.Start)
    {ls : List (Time × AuthOp)} (hsteady : Admits (History.step cfg) (History.Steady cfg) h₀ ls)
    (now : Time) (cookie bearer : Option Nat) :
    let h := run (History.step cfg) h₀ ls
    (resolveUser cfg h.accounts now (h.request cookie bearer)).isSome = true ↔
      ∃ i ∈ h.presented cfg now cookie bearer,
        i.generation = h.revocations i.credential.userId ∧
          ∃ u ∈ h.accounts.loadUser i.credential.userId, u.isActive = true := by
  intro h
  have hI : h.Inv := run_invariant (inv_step cfg) hstart.inv hsteady
  rw [resolveUser_isSome_iff, History.request_credential]
  constructor
  · rintro ⟨c, hc, haccepts⟩
    obtain ⟨i, hi, rfl⟩ := Option.map_eq_some_iff.1 hc
    exact ⟨i, hi, (hI.issued i (History.mem_of_presented hi)).accepts_iff.1 haccepts⟩
  · rintro ⟨i, hi, hcurrent⟩
    refine ⟨i.credential, Option.map_eq_some_iff.2 ⟨i, hi, rfl⟩, ?_⟩
    exact (hI.issued i (History.mem_of_presented hi)).accepts_iff.2 hcurrent

/-- Settings with passwords in clear. -/
def plainSettings : Settings where
  hashPassword _ password := password
  verifyPassword stored candidate := stored = candidate
  hashToken token := token
  sessionIdleTimeoutSeconds := 172800
  passwordResetTtlSeconds := 3600

/-- A hub with one user. -/
def oneUser : History where
  accounts :=
    { users := [⟨"usr-1", "ann@example", "pass-word", "Ann", true, "admin", 0, 0, none⟩]
      sessions := []
      resets := []
      drawn := 0 }
  clock := 0
  issued := []
  revocations _ := 0

/-- A login, a refresh, a revocation and another login. -/
def loginAgain : List (Time × AuthOp) :=
  [(seconds 1, .login true "ann@example" "pass-word"), (seconds 50, .refresh true (some 2)),
    (seconds 100, .revokeAllTokens true "usr-1"),
    (seconds 100, .login true "ann@example" "pass-word")]

theorem revocation_final_two_logins :
    let h := run (History.step plainSettings) oneUser loginAgain
    (resolveUser plainSettings h.accounts (seconds 101) (h.request none (some 3))).isSome = false ∧
      (resolveUser plainSettings h.accounts (seconds 101) (h.request none (some 6))).isSome =
        true := by
  have hstart : oneUser.Start := ⟨by decide, by decide, rfl⟩
  have hsteady : Admits (History.step plainSettings) (History.Steady plainSettings) oneUser
      loginAgain :=
    ⟨⟨by decide, trivial⟩, ⟨by decide, by decide⟩, ⟨by decide, by decide⟩, ⟨by decide, trivial⟩,
      trivial⟩
  have hfinal := revocation_final plainSettings hstart hsteady (seconds 101) none
  refine ⟨?_, (hfinal (some 6)).2 (by decide)⟩
  rw [Bool.eq_false_iff]
  intro htrue
  exact absurd ((hfinal (some 3)).1 htrue) (by decide)

/-- A login, a revocation, and a refresh with the token of the login. -/
def refreshAfterRevocation : List (Time × AuthOp) :=
  [(seconds 1, .login true "ann@example" "pass-word"),
    (seconds 100, .revokeAllTokens true "usr-1"), (seconds 200, .refresh true (some 2))]

/-- `POST /refresh` gives a revoked login a new access token, and it is accepted. -/
theorem revoked_login_refreshed :
    let h := run (History.step plainSettings) oneUser refreshAfterRevocation
    (resolveUser plainSettings h.accounts (seconds 201) (h.request none (some 3))).isSome = true ∧
      ∃ i ∈ h.presented plainSettings (seconds 201) none (some 3),
        i.generation < h.revocations i.credential.userId := by
  decide

end RebooterHub.Auth
