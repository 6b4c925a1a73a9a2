import RebooterHub.Data.Time

/-!
# Auth — Accounts

Users, their server-side session rows and password resets, and the functions of `services/auth.py`,
`services/sessions.py`, `services/users.py` and `services/password_resets.py` that log in, issue
credentials and take them back.

A credential is a signed cookie session or a JWT; that only the hub can sign one is the runs' part
(`Auth.Revocation`).  Session bookkeeping is best-effort in the source, so whether it succeeds is
an argument, `stored`.  A request reads the clock once.
-/

namespace RebooterHub.Auth

/-- `int(t.timestamp())`, of an instant from 1970 on. -/
def epochSeconds (t : Time) : Int := t / 1000000

theorem epochSeconds_mono {t t' : Time} (h : t ≤ t') : epochSeconds t ≤ epochSeconds t' :=
  Int.ediv_le_ediv (by decide) h

/-- A row of `users`. -/
structure User where
  id : String
  email : String
  passwordHash : String
  displayName : String
  isActive : Bool
  role : String
  tokensValidAfter : Time
  updatedAt : Time
  lastLoginAt : Option Time
deriving DecidableEq, Repr

/-- What a credential is for: `SESSION_KIND_COOKIE`, `SESSION_KIND_ACCESS`, `SESSION_KIND_REFRESH`. -/
inductive Kind where
  | cookie
  | access
  | refresh
deriving DecidableEq, Repr

/-- A row of `user_sessions`. -/
structure SessionRow where
  userId : String
  kind : Kind
  /-- The number of the random value among those `new_jti` has drawn. -/
  jti : Nat
  issuedAt : Time
  lastSeenAt : Time
  expiresAt : Time
  revokedAt : Option Time
deriving DecidableEq, Repr

/-- A row of `password_resets`. -/
structure PasswordReset where
  userId : String
  emailSnapshot : String
  tokenHash : String
  expiresAt : Time
  consumedAt : Option Time
deriving DecidableEq, Repr

/-- A cookie session or a JWT. -/
structure Credential where
  kind : Kind
  userId : String
  /-- The second it was issued in; for a cookie, that of the login. -/
  iat : Int
  /-- The second a JWT expires in; for a cookie, the last in which its signature is accepted. -/
  exp : Int
  /-- A JWT's `jti`, a cookie's `sid`. -/
  jti : Option Nat
deriving DecidableEq, Repr

/-- What the functions take from the configuration and from the password and hash libraries. -/
structure Settings where
  /-- `hash_password`, with its salt. -/
  hashPassword : Nat → String → String
  /-- `verify_password(stored_hash, candidate)`. -/
  verifyPassword : String → String → Bool
  /-- `password_resets._hash`. -/
  hashToken : String → String
  sessionIdleTimeoutSeconds : Int
  passwordResetTtlSeconds : Int

/-- The tables. -/
structure Accounts where
  users : List User
  sessions : List SessionRow
  resets : List PasswordReset
  /-- How many values `secrets` has given out. -/
  drawn : Nat
deriving DecidableEq, Repr

/-- `ACCESS_TOKEN_TTL_SECONDS`. -/
def accessTokenTtlSeconds : Int := 60 * 60 * 8

/-- `REFRESH_TOKEN_TTL_SECONDS`. -/
def refreshTokenTtlSeconds : Int := 60 * 60 * 24 * 14

/-- The time to live the login handlers give a cookie's session row. -/
def cookieTtlSeconds : Int := 60 * 60 * 24 * 31

/-! ### Tables -/

/-- `load_user`. -/
def Accounts.loadUser (a : Accounts) (userId : String) : Option User :=
  a.users.find? (·.id = userId)

/-- The columns of a user are written. -/
def Accounts.updateUser (a : Accounts) (userId : String) (f : User → User) : Accounts :=
  { a with users := a.users.map fun u => if u.id = userId then f u else u }

/-- `_is_jti_revoked`. -/
def Accounts.isJtiRevoked (a : Accounts) : Option Nat → Bool
  | none => false
  | some jti => match a.sessions.find? (·.jti = jti) with
    | none => false
    | some row => row.revokedAt.isSome

/-- `sessions.record`. -/
def Accounts.record (a : Accounts) (stored : Bool) (now : Time) (userId : String) (kind : Kind)
    (jti : Nat) (ttlSeconds : Int) : Accounts :=
  if stored then
    { a with sessions := a.sessions ++ [⟨userId, kind, jti, now, now, now + seconds ttlSeconds, none⟩] }
  else a

/-- The open session rows with a property are marked revoked. -/
def Accounts.revokeSessions (a : Accounts) (now : Time) (p : SessionRow → Bool) : Accounts :=
  let revoke (r : SessionRow) : SessionRow :=
    if p r ∧ r.revokedAt = none then { r with revokedAt := some now } else r
  { a with sessions := a.sessions.map revoke }

/-- `sessions.revoke_one`. -/
def Accounts.revokeOne (a : Accounts) (stored : Bool) (now : Time) (jti : Nat) : Accounts :=
  if stored then a.revokeSessions now (·.jti = jti) else a

/-- `sessions.revoke_all_for_user`. -/
def Accounts.revokeAllForUser (a : Accounts) (stored : Bool) (now : Time) (userId : String) :
    Accounts :=
  if stored then a.revokeSessions now (·.userId = userId) else a

/-! ### Logins -/

/-- SQL's `LIKE`. -/
def like : List Char → List Char → Bool
  | [], s => s.isEmpty
  | '%' :: p, s => (List.range (s.length + 1)).any fun n => like p (s.drop n)
  | '_' :: p, s => match s with
    | [] => false
    | _ :: s => like p s
  | q :: p, s => match s with
    | [] => false
    | c :: s => q == c && like p s

/-- The user `authenticate` looks up for an identifier, already stripped and in lower case: by the
e-mail address, or by its local part where only one user has it. -/
def Accounts.identify (a : Accounts) (identifier : String) : Option User :=
  match a.users.find? (·.email = identifier) with
  | some u => some u
  | none =>
    if '@' ∈ identifier.toList then none
    else match a.users.filter fun u => like (identifier ++ "@%").toList u.email.toList with
      | [u] => some u
      | _ => none

/-- `authenticate`. -/
def authenticate (cfg : Settings) (a : Accounts) (now : Time) (identifier password : String) :
    Accounts × Option User :=
  match a.identify identifier with
  | none => (a, none)
  | some u =>
    if !u.isActive then (a, none)
    else if !cfg.verifyPassword u.passwordHash password then (a, none)
    else
      (a.updateUser u.id fun u => { u with lastLoginAt := some now },
        some { u with lastLoginAt := some now })

/-- `_issue_token`. -/
def issueToken (a : Accounts) (stored : Bool) (now : Time) (userId : String) (kind : Kind)
    (ttlSeconds : Int) : Accounts × Credential :=
  let jti := a.drawn
  (Accounts.record { a with drawn := jti + 1 } stored now userId kind jti ttlSeconds,
    ⟨kind, userId, epochSeconds now, epochSeconds (now + seconds ttlSeconds), some jti⟩)

/-- `issue_access_token`. -/
def issueAccessToken (a : Accounts) (stored : Bool) (now : Time) (userId : String) :
    Accounts × Credential :=
  issueToken a stored now userId .access accessTokenTtlSeconds

/-- `issue_refresh_token`. -/
def issueRefreshToken (a : Accounts) (stored : Bool) (now : Time) (userId : String) :
    Accounts × Credential :=
  issueToken a stored now userId .refresh refreshTokenTtlSeconds

/-- The cookie session the login handlers set up, and its row. -/
def issueCookie (cfg : Settings) (a : Accounts) (stored : Bool) (now : Time) (userId : String) :
    Accounts × Credential :=
  let jti := a.drawn
  (Accounts.record { a with drawn := jti + 1 } stored now userId .cookie jti cookieTtlSeconds,
    ⟨.cookie, userId, epochSeconds now, epochSeconds now + cfg.sessionIdleTimeoutSeconds, some jti⟩)

/-- A refusal of an API endpoint. -/
structure ApiError where
  code : String
  message : String
  status : Nat
deriving DecidableEq, Repr

/-- What a login answers with. -/
structure LoginAnswer where
  user : User
  cookie : Credential
  accessToken : Credential
  refreshToken : Credential
deriving DecidableEq, Repr

/-- `POST /login` of the API. -/
def login (cfg : Settings) (a : Accounts) (stored : Bool) (now : Time)
    (identifier password : String) : Accounts × Except ApiError LoginAnswer :=
  if identifier = "" ∨ password = "" then
    (a, .error ⟨"validation_failed", "email and password are required", 400⟩)
  else match authenticate cfg a now identifier password with
    | (a, none) => (a, .error ⟨"auth_invalid", "Invalid email or password.", 401⟩)
    | (a, some user) =>
      let (a, cookie) := issueCookie cfg a stored now user.id
      let (a, access) := issueAccessToken a stored now user.id
      let (a, refresh) := issueRefreshToken a stored now user.id
      (a, .ok ⟨user, cookie, access, refresh⟩)

/-- `POST /login` of the web pages; `none` is the login page with its error. -/
def loginSubmit (cfg : Settings) (a : Accounts) (stored : Bool) (now : Time)
    (identifier password : String) : Accounts × Option Credential :=
  match authenticate cfg a now identifier password with
  | (a, none) => (a, none)
  | (a, some user) =>
    let (a, cookie) := issueCookie cfg a stored now user.id
    (a, some cookie)

/-! ### Presenting a credential -/

/-- The time checks on a credential: PyJWT's of `iat` and `exp`, and those of a cookie's signature,
which Flask accepts for the idle timeout. -/
def Credential.isLive (cfg : Settings) (c : Credential) (now : Time) : Bool :=
  match c.kind with
  | .cookie => decide (c.exp - cfg.sessionIdleTimeoutSeconds ≤ epochSeconds now
      ∧ epochSeconds now ≤ c.exp)
  | .access | .refresh => decide (seconds c.iat ≤ now ∧ now < seconds c.exp)

/-- `decode_token`, of a token whose signature is right. -/
def decodeToken (cfg : Settings) (now : Time) (expectedKind : Kind) (token : Credential) :
    Option Credential :=
  if token.isLive cfg now ∧ token.kind = expectedKind then some token else none

/-- A token in a request body. -/
inductive Presented where
  | absent
  /-- Text the hub has not signed. -/
  | forged
  | signed (token : Credential)
deriving DecidableEq, Repr

/-- `POST /refresh`. -/
def refresh (cfg : Settings) (a : Accounts) (stored : Bool) (now : Time) :
    Presented → Accounts × Except ApiError (Credential × Credential)
  | .absent => (a, .error ⟨"validation_failed", "refresh_token is required", 400⟩)
  | .forged => (a, .error ⟨"auth_invalid", "Invalid or expired refresh token.", 401⟩)
  | .signed token => match decodeToken cfg now .refresh token with
    | none => (a, .error ⟨"auth_invalid", "Invalid or expired refresh token.", 401⟩)
    | some payload => match a.loadUser payload.userId with
      | none => (a, .error ⟨"auth_invalid", "User no longer active.", 401⟩)
      | some user =>
        if !user.isActive then (a, .error ⟨"auth_invalid", "User no longer active.", 401⟩)
        else
          let (a, access) := issueAccessToken a stored now user.id
          let (a, refresh) := issueRefreshToken a stored now user.id
          (a, .ok (access, refresh))

/-- The signed credentials a request carries: its cookie session, its bearer token. -/
structure Request where
  cookie : Option Credential
  bearer : Option Credential

/-- The cookie session Flask opens. -/
def Request.session (cfg : Settings) (r : Request) (now : Time) : Option Credential :=
  r.cookie.filter fun c => c.kind = .cookie ∧ c.isLive cfg now

/-- The user of a credential and its time of issue, unless its session row is revoked: what
`_resolve_user_and_iat` returns for a cookie session and for a bearer token alike. -/
def Accounts.userAndIat (a : Accounts) (c : Credential) : Option (User × Int) :=
  match a.loadUser c.userId with
  | none => none
  | some user => if a.isJtiRevoked c.jti then none else some (user, c.iat)

/-- `_resolve_user_and_iat`. -/
def resolveUserAndIat (cfg : Settings) (a : Accounts) (now : Time) (r : Request) :
    Option (User × Int) :=
  match r.session cfg now with
  | some session => a.userAndIat session
  | none => (r.bearer.bind (decodeToken cfg now .access)).bind a.userAndIat

/-- `_resolve_user`. -/
def resolveUser (cfg : Settings) (a : Accounts) (now : Time) (r : Request) : Option User :=
  match resolveUserAndIat cfg a now r with
  | none => none
  | some (user, iat) =>
    if !user.isActive then none
    else if iat < epochSeconds user.tokensValidAfter then none
    else some user

/-! ### Taking credentials back -/

/-- `deactivate_user`. -/
def deactivateUser (a : Accounts) (now : Time) (userId : String) : Accounts × Bool :=
  match a.loadUser userId with
  | none => (a, false)
  | some _ =>
    (a.updateUser userId fun u =>
      { u with isActive := false, tokensValidAfter := now, updatedAt := now }, true)

/-- `revoke_all_tokens`. -/
def revokeAllTokens (a : Accounts) (stored : Bool) (now : Time) (userId : String) :
    Accounts × Bool :=
  match a.loadUser userId with
  | none => (a, false)
  | some _ =>
    let a := a.updateUser userId fun u => { u with tokensValidAfter := now, updatedAt := now }
    (a.revokeAllForUser stored now userId, true)

/-- `POST /logout` of the API: the cookie session is not checked against anything. -/
def logout (cfg : Settings) (a : Accounts) (stored : Bool) (now : Time) (r : Request) : Accounts :=
  match r.session cfg now with
  | none => a
  | some session =>
    let a := (revokeAllTokens a stored now session.userId).1
    match session.jti with
    | none => a
    | some sid => a.revokeOne stored now sid

/-- `change_own_password`. -/
def changeOwnPassword (cfg : Settings) (a : Accounts) (now : Time)
    (userId currentPassword newPassword : String) : Except String Accounts :=
  if newPassword.length < 8 then .error "new password must be at least 8 characters"
  else if currentPassword = newPassword then
    .error "new password must differ from current password"
  else match a.loadUser userId with
    | none => .error "user not found"
    | some u =>
      if !cfg.verifyPassword u.passwordHash currentPassword then
        .error "current password is incorrect"
      else
        let salt := a.drawn
        .ok (Accounts.updateUser { a with drawn := salt + 1 } userId fun u =>
          { u with
            passwordHash := cfg.hashPassword salt newPassword
            updatedAt := now
            tokensValidAfter := now })

/-- `request_reset`, of an e-mail address already stripped and in lower case: the token, which goes
out by mail. -/
def requestReset (cfg : Settings) (a : Accounts) (now : Time) (email : String) :
    Accounts × Option String :=
  if '@' ∉ email.toList then (a, none)
  else match a.users.find? (·.email = email) with
    | none => (a, none)
    | some u =>
      if !u.isActive then (a, none)
      else
        let secret := "pwr_" ++ toString a.drawn
        ({ a with
          drawn := a.drawn + 1
          resets := a.resets ++ [⟨u.id, email, cfg.hashToken secret,
            now + seconds cfg.passwordResetTtlSeconds, none⟩] }, some secret)

/-- The reset `consume_reset` finds for a token: neither used up nor expired. -/
def Accounts.pendingReset (cfg : Settings) (a : Accounts) (now : Time) (token : String) :
    Option PasswordReset :=
  (a.resets.find? (·.tokenHash = cfg.hashToken token)).filter fun rec =>
    rec.consumedAt = none ∧ now < rec.expiresAt

/-- `consume_reset`. -/
def consumeReset (cfg : Settings) (a : Accounts) (now : Time) (token newPassword : String) :
    Accounts × Option User :=
  if token = "" ∨ newPassword.length < 8 then (a, none)
  else match a.pendingReset cfg now token with
    | none => (a, none)
    | some rec => match a.loadUser rec.userId with
      | none => (a, none)
      | some u =>
        if !u.isActive then (a, none)
        else
          let salt := a.drawn
          let reset (u : User) : User :=
            { u with
              passwordHash := cfg.hashPassword salt newPassword
              updatedAt := now
              tokensValidAfter := now }
          (Accounts.updateUser
            { a with
              drawn := salt + 1
              resets := a.resets.map fun r =>
                if r.tokenHash = rec.tokenHash then { r with consumedAt := some now } else r }
            u.id reset, some (reset u))

end RebooterHub.Auth
