import Desktop2Stereo.Model.Sessions

/-!
# Desktop2Stereo: logging in

The service layer over the session rows: a login creates a session under the limits of its user, a request is
validated against the session and the user, and a refresh token is exchanged for its successor.
-/

namespace Desktop2Stereo

open Relational Concurrent Expiring GoText

variable {ρ : Type}

/-! ## Tokens -/

/-- The keyed digests of the deployment and the identifier parser. -/
class Tokens where
  /-- `common.GenerateHMACWithKey(authSigningKey(purpose), text)` -/
  hmac : (purpose text : String) → String
  /-- whether `uuid.Parse` accepts the text -/
  uuidParses : String → Bool

structure AuthIdentity where
  userID : ℤ
  sessionID : String
  userAuthVersion : ℤ
  sessionVersion : ℤ
  deriving DecidableEq

structure LoginSessionView where
  sid : String
  current : Bool
  loginMethod : String
  ip : String
  userAgent : String
  createdAt : ℤ
  lastActiveAt : ℤ
  expiresAt : ℤ
  deriving DecidableEq

/-- `AuthBundle`; the access token is the identity that it is signed for. -/
structure AuthBundle where
  accessToken : AuthIdentity
  accessExpiresAt : ℤ
  session : LoginSessionView
  refreshToken : String
  deriving DecidableEq

def accessTokenTTL : ℤ := 15 * 60

def loginSessionTTL : ℤ := 30 * 24 * 3600

def refreshReplayWindow : ℤ := 30

def sessionView (session : UserSession) (current : Bool) : LoginSessionView :=
  { sid := session.sid, current, loginMethod := session.loginMethod, ip := session.ip
    userAgent := session.userAgent, createdAt := session.createdAt, lastActiveAt := session.lastActiveAt
    expiresAt := session.expiresAt }

/-- `issueAuthBundle` with `IssueAccessToken`. -/
def issueAuthBundle (session : UserSession) (rawRefreshToken : String) (current : Bool) :
    Action ρ (Except AuthErr AuthBundle) := do
  let identity : AuthIdentity := ⟨session.userID, session.sid, session.userAuthVersion, session.version⟩
  if identity.userID ≤ 0 ∨ identity.sessionID = "" ∨ identity.userAuthVersion ≤ 0 ∨ identity.sessionVersion ≤ 0 then
    return .error .authTokenInvalid
  let now ← look Store.unix
  return .ok ⟨identity, now + accessTokenTTL, sessionView session current, rawRefreshToken⟩

/-- `strings.Cut(s, ".")` -/
def cutDot : List Char → Option (List Char × List Char)
  | [] => none
  | c :: cs => if c = '.' then some ([], cs) else (cutDot cs).map fun p => (c :: p.1, p.2)

/-- `truncateAuthMetadata`, where the limit falls between two runes. -/
def truncateAuthMetadata (value : String) (max : ℕ) : String :=
  String.ofList (shrink max (trimSpace value).toList.reverse).reverse

section Tokens

variable [Tokens]

def splitRefreshToken (raw : String) : Option (String × String) :=
  match cutDot (trimSpace raw).toList with
  | none => none
  | some (sid, secret) =>
    if sid = [] ∨ secret = [] ∨ '.' ∈ secret then none
    else if Tokens.uuidParses (String.ofList sid) then some (String.ofList sid, String.ofList secret)
    else none

def hashRefreshSecret (secret : String) : String := Tokens.hmac "refresh" secret

def deriveNextRefreshSecret (sid currentSecret : String) : String :=
  Tokens.hmac "refresh-rotate" (sid ++ "." ++ currentSecret)

end Tokens

/-! ## Logging in -/

section Calls

variable [Settings]

omit [Settings] in
def countActiveUserSessions (userID now : ℤ) : Action ρ (Except AuthErr ℤ) := do
  if userID ≤ 0 then return .error .userSessionInvalid
  let count ← look fun s => s.db.sessions.count fun r => r.userID = userID ∧ r.status = .active ∧ now < r.expiresAt
  return .ok count

omit [Settings] in
def countUserSessionsCreatedSince (userID createdAfter : ℤ) : Action ρ (Except AuthErr ℤ) := do
  if userID < 0 ∨ createdAfter ≤ 0 then return .error .userSessionInvalid
  let count ← look fun s => s.db.sessions.count fun r => createdAfter < r.createdAt ∧ (0 < userID → r.userID = userID)
  return .ok count

variable [Tokens]

def newLoginSession (user : UserBase) (userID : ℤ) (sid refreshSecret loginMethod ip userAgent : String) (now : ℤ) :
    UserSession :=
  { sid, userID, version := 1, userAuthVersion := user.authVersion, status := .active
    refreshHash := hashRefreshSecret refreshSecret
    loginMethod := if trimSpace loginMethod = "" then "unknown" else trimSpace loginMethod
    ip := truncateAuthMetadata ip 64, userAgent := truncateAuthMetadata userAgent 512
    createdAt := now, lastActiveAt := now, expiresAt := now + loginSessionTTL }

/-- `createLoginSession`, with the drawn identifier and secret. -/
def createLoginSession (userID expectedAuthVersion : ℤ) (loginMethod ip userAgent sid refreshSecret : String) :
    Action ρ (Except AuthErr AuthBundle) := do
  match ← getUserCache userID with
  | .error e => return .error e
  | .ok user =>
    if user.status ≠ userStatusEnabled ∨ user.authVersion ≤ 0 then return .error .loginSessionInvalid
    if 0 < expectedAuthVersion ∧ user.authVersion ≠ expectedAuthVersion then return .error .loginSessionRevoked
    let now ← look Store.unix
    match ← countActiveUserSessions userID now with
    | .error e => return .error e
    | .ok activeCount =>
      if Settings.userSessionActiveLimit ≤ activeCount then return .error .sessionLimit
      match ← countUserSessionsCreatedSince userID (now - Settings.userSessionIssuanceWindowSeconds) with
      | .error e => return .error e
      | .ok issuanceCount =>
        if Settings.userSessionIssuanceLimit ≤ issuanceCount then return .error .issuanceLimit
        let session := newLoginSession user userID sid refreshSecret loginMethod ip userAgent now
        match ← createUserSession session with
        | .error e => return .error e
        | .ok _ =>
          match ← issueAuthBundle session (sid ++ "." ++ refreshSecret) true with
          | .error e =>
            let _ ← revokeUserSession userID sid "token_issue_failed"
            return .error e
          | .ok bundle => return .ok bundle

/-! ## Using a session -/

omit [Tokens] in
def validateLoginSession (identity : AuthIdentity) : Action ρ (Except AuthErr (UserSession × UserBase)) := do
  match ← getUserSessionCached identity.sessionID with
  | .error .userSessionInactive => return .error .loginSessionRevoked
  | .error e => return .error e
  | .ok session =>
    let now ← look Store.unix
    if session.userID ≠ identity.userID ∨ ¬ session.Live now ∨ session.version ≠ identity.sessionVersion ∨
        session.userAuthVersion ≠ identity.userAuthVersion then
      return .error .loginSessionRevoked
    match ← getUserCache identity.userID with
    | .error e => return .error e
    | .ok user =>
      if user.status ≠ userStatusEnabled ∨ user.authVersion ≠ identity.userAuthVersion then
        return .error .loginSessionRevoked
      return .ok (session, user)

omit [Settings] [Tokens] in
def isD2SUserLoginBlocked (userID : ℤ) : Action ρ Bool :=
  look fun s => ((s.db.controls.get? userID).map D2SUserSecurityControl.loginBlocked).getD false

def refreshLoginSession (rawRefreshToken expectedSID ip userAgent : String) :
    Action ρ (Except AuthErr (AuthBundle × User)) := do
  match splitRefreshToken rawRefreshToken with
  | none => return .error .refreshTokenInvalid
  | some (sid, secret) =>
    if trimSpace expectedSID ≠ "" ∧ trimSpace expectedSID ≠ sid then return .error .loginSessionMismatch
    match ← getUserSessionCached sid with
    | .error .userSessionInactive => return .error .loginSessionRevoked
    | .error _ => return .error .refreshTokenInvalid
    | .ok session =>
      let now ← look Store.unix
      if ¬ session.Live now then return .error .loginSessionRevoked
      match ← getUserCache session.userID with
      | .error e => return .error e
      | .ok userCache =>
        match ← getUserById session.userID with
        | .error e => return .error e
        | .ok currentUser =>
          if userCache.status ≠ userStatusEnabled ∨ userCache.authVersion ≠ session.userAuthVersion ∨
              currentUser.status ≠ userStatusEnabled ∨ currentUser.authVersion ≠ session.userAuthVersion then
            let _ ← revokeUserSession session.userID session.sid "user_security_changed"
            return .error .loginSessionRevoked
          if ← isD2SUserLoginBlocked session.userID then return .error .accountLoginBlocked
          let nextSecret := deriveNextRefreshSecret sid secret
          let now ← look Store.unix
          match ← rotateUserSessionRefresh session.userID sid (hashRefreshSecret secret)
              (hashRefreshSecret nextSecret) now refreshReplayWindow with
          | .race rotated =>
            if hashRefreshSecret nextSecret = rotated.refreshHash then
              match ← issueAuthBundle rotated (sid ++ "." ++ nextSecret) true with
              | .error e => return .error e
              | .ok bundle => return .ok (bundle, currentUser)
            else return .error .refreshRotated
          | .failed .refreshReuse => return .error .loginSessionRevoked
          | .failed .refreshInvalid => return .error .refreshTokenInvalid
          | .failed e => return .error e
          | .rotated rotated =>
            let rotated := { rotated with
              ip := truncateAuthMetadata ip 64, userAgent := truncateAuthMetadata userAgent 512 }
            match ← issueAuthBundle rotated (sid ++ "." ++ nextSecret) true with
            | .error e => return .error e
            | .ok bundle => return .ok (bundle, currentUser)

end Calls

end Desktop2Stereo
