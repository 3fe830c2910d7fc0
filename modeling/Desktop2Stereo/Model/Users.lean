import Desktop2Stereo.Lib.Expiring
import Desktop2Stereo.Lib.Process
import Desktop2Stereo.Model.Rows

/-!
# Desktop2Stereo: users and their cache

The account server keeps a hash of each user in Redis, under the protection of two version keys. A call is a
program of accesses: one statement or transaction of the database, one Redis command or script, one look at the
clock. Redis is enabled, and its commands succeed.
-/

namespace Desktop2Stereo

open Relational Concurrent Expiring

/-! ## The store -/

class Settings where
  /-- `common.SyncFrequency`, in seconds -/
  syncFrequency : ℤ
  userSessionActiveLimit : ℤ
  userSessionIssuanceLimit : ℤ
  userSessionIssuanceWindowSeconds : ℤ
  window_pos : 0 < userSessionIssuanceWindowSeconds

/-- `UserBase` as the Redis hash of a user holds it; the quota is a field of its own. -/
structure UserHash where
  id : ℤ
  group : String
  email : String
  status : ℤ
  role : ℤ
  username : String
  setting : String
  authVersion : ℤ
  cacheSchema : ℤ
  quota : Option ℤ
  deriving DecidableEq

structure UserBase where
  id : ℤ
  group : String
  email : String
  quota : ℤ
  status : ℤ
  role : ℤ
  username : String
  setting : String
  authVersion : ℤ
  cacheSchema : ℤ
  deriving DecidableEq

/-- `userSessionCacheEntry` -/
structure SessionEntry where
  sid : String
  userID : ℤ
  version : ℤ
  userAuthVersion : ℤ
  status : SessionStatus
  loginMethod : String
  ip : String
  userAgent : String
  createdAt : ℤ
  lastActiveAt : ℤ
  expiresAt : ℤ
  revokedAt : ℤ
  revokedReason : String
  cacheSchema : ℤ
  deriving DecidableEq

/-- What the calls of the account server share: the clock in nanoseconds, the database, the keys of Redis. The
last fields are histories that no call reads: the instant at which a session stopped being active; of each wallet,
what has been reserved in the cache and not yet in the database, what has been credited in the database and not
yet in the cache, and what has been reserved and credited in all. -/
structure Store where
  clock : ℕ
  db : DB
  userHashes : ℤ → Cell UserHash := fun _ => .absent
  authFences : ℤ → Cell ℤ := fun _ => .absent
  authVersions : ℤ → Cell ℤ := fun _ => .absent
  sessionHashes : String → Cell SessionEntry := fun _ => .absent
  endedAt : String → Option ℕ := fun _ => none
  inFlight : ℤ → ℤ := fun _ => 0
  uncredited : ℤ → ℤ := fun _ => 0
  reserved : ℤ → ℤ := fun _ => 0
  credited : ℤ → ℤ := fun _ => 0

/-- The clock of Redis, in milliseconds. -/
def Store.ms (s : Store) : ℕ := s.clock / 1000000

/-- `time.Now().Unix()` -/
def Store.unix (s : Store) : ℤ := (s.clock / 1000000000 : ℕ)

def Store.setUserHash (s : Store) (userId : ℤ) (c : Cell UserHash) : Store :=
  { s with userHashes := Function.update s.userHashes userId c }

def Store.setFence (s : Store) (userId : ℤ) (c : Cell ℤ) : Store :=
  { s with authFences := Function.update s.authFences userId c }

def Store.setFloor (s : Store) (userId : ℤ) (c : Cell ℤ) : Store :=
  { s with authVersions := Function.update s.authVersions userId c }

/-- What happens outside the calls: time passes, or a user's hash is deleted. -/
inductive Outside
  | pass (nanoseconds : ℕ)
  | invalidateUserCache (userId : ℤ)

def Outside.apply : Outside → Store → Store
  | .pass n, s => { s with clock := s.clock + n }
  | .invalidateUserCache userId, s => s.setUserHash userId .absent

/-! ## Errors and accesses -/

inductive AuthErr
  | userSessionInvalid | userSessionInactive | refreshInvalid | refreshRace | refreshReuse
  | sessionLimit | issuanceLimit | cacheObservationStale
  | authCachePending | authVersionConflict | authVersionInvalid | authFenceInvalid | committedVersionInvalid
  | authUpdateInvalid
  | cacheMiss | cacheStale | idEmpty | recordNotFound | duplicateKey | rolledBack
  | quotaNegative | walletQuotaLimit | walletQuotaExceeded
  | loginSessionInvalid | loginSessionRevoked | loginSessionMismatch | refreshTokenInvalid | refreshRotated
  | authTokenInvalid | accountLoginBlocked
  deriving DecidableEq, Repr

def AuthErr.text : AuthErr → String
  | .userSessionInvalid => "user session is invalid"
  | .userSessionInactive => "user session is inactive"
  | .refreshInvalid => "user session refresh token is invalid"
  | .refreshRace => "user session refresh is already in progress"
  | .refreshReuse => "user session refresh token was reused"
  | .sessionLimit => "active user session limit reached"
  | .issuanceLimit => "user session issuance limit reached"
  | .cacheObservationStale => "user session cache observation is stale"
  | .authCachePending => "user authentication state update is pending"
  | .authVersionConflict => "user authentication version update conflicted"
  | .authVersionInvalid => "invalid user auth version"
  | .authFenceInvalid => "invalid user auth fence"
  | .committedVersionInvalid => "invalid committed user auth version"
  | .authUpdateInvalid => "invalid user auth version update"
  | .cacheMiss => "key not found in Redis"
  | .cacheStale => "user cache schema is stale"
  | .idEmpty => "id 为空！"
  | .recordNotFound => "record not found"
  | .duplicateKey => "duplicated key not allowed"
  | .rolledBack => "transaction has been rolled back"
  | .quotaNegative => "quota 不能为负数！"
  | .walletQuotaLimit => "wallet quota exceeds 9007199254740991"
  | .walletQuotaExceeded => "wallet quota limit exceeded"
  | .loginSessionInvalid => "login session is invalid"
  | .loginSessionRevoked => "login session is revoked"
  | .loginSessionMismatch => "login session does not match the expected session"
  | .refreshTokenInvalid => "refresh token is invalid"
  | .refreshRotated => "refresh token was already rotated"
  | .authTokenInvalid => "authentication token is invalid"
  | .accountLoginBlocked => "account login is blocked"

/-- What an access is about, where a condition on a run speaks of it. -/
inductive Label
  | plain
  /-- a user's hash is filled from a row that was read with this quota -/
  | hydrate (userId quota : ℤ)
  /-- a reservation falls back to the database -/
  | reserveDB (userId amount : ℤ)
  | locked (session : UserSession)
  /-- a revocation writes the row of a session that it has read without a lock -/
  | revoke (candidate : UserSession)

/-- A piece of a call of the account server. -/
abbrev Action (ρ α : Type) := Program Store Label ρ α

variable {ρ : Type}

def look {α : Type} (f : Store → α) : Action ρ α := observe .plain f

def touch {α : Type} (f : Store → α × Store) : Action ρ α := access .plain f

/-! ## Reading -/

def userCacheSchemaVersion : ℤ := 2

def userStatusEnabled : ℤ := 1

def userCacheTTLSeconds [Settings] : ℕ := if Settings.syncFrequency ≤ 0 then 60 else Settings.syncFrequency.toNat

def userAuthFenceTTLSeconds [Settings] : ℕ := userCacheTTLSeconds + max userCacheTTLSeconds 60

def User.toBaseUser (u : User) : UserBase :=
  { id := u.id, group := u.group, quota := u.quota, status := u.status, role := u.role, username := u.username
    setting := u.setting, email := u.email, authVersion := u.authVersion, cacheSchema := userCacheSchemaVersion }

/-- `RedisHGetObj`: a field that the hash lacks keeps its zero value. -/
def UserHash.base (h : UserHash) : UserBase :=
  { id := h.id, group := h.group, email := h.email, quota := h.quota.getD 0, status := h.status, role := h.role
    username := h.username, setting := h.setting, authVersion := h.authVersion, cacheSchema := h.cacheSchema }

def Store.userHash (s : Store) (userId : ℤ) : Option UserHash := (s.userHashes userId).get s.ms

/-- The pending fence and the committed floor of a user; a key that is absent reads as 0. -/
def Store.fence (s : Store) (userId : ℤ) : ℤ := ((s.authFences userId).get s.ms).getD 0

def Store.floor (s : Store) (userId : ℤ) : ℤ := ((s.authVersions userId).get s.ms).getD 0

def getUserAuthVersionFloor (userId : ℤ) : Action ρ ℤ := look fun s => max 0 (max (s.fence userId) (s.floor userId))

def cacheGetUserBase (userId : ℤ) : Action ρ (Except AuthErr UserBase) := do
  match ← look (·.userHash userId) with
  | none => return .error .cacheMiss
  | some h =>
    if h.id ≠ userId ∨ h.cacheSchema ≠ userCacheSchemaVersion ∨ h.authVersion ≤ 0 then
      return .error .cacheStale
    let floor ← getUserAuthVersionFloor userId
    if h.authVersion < floor then return .error .authCachePending
    return .ok h.base

def getUserById (userId : ℤ) : Action ρ (Except AuthErr User) := do
  if userId = 0 then return .error .idEmpty
  match ← look (·.db.users.get? userId) with
  | none => return .error .recordNotFound
  | some user => return .ok user

/-! ## The scripts -/

/-- The script of `publishCommittedUserAuthVersion`. -/
def evalPublishCommitted (userId incoming : ℤ) (s : Store) : Store :=
  let s₁ := if s.floor userId < incoming then s.setFloor userId (.forever incoming) else s
  if 0 < s.fence userId ∧ s.fence userId ≤ incoming then s₁.setFence userId .absent else s₁

/-- The common head of the scripts that write at a version: nothing is written below a fence, the floor or the
cached version; else the floor rises to the version and a fence that it meets is removed. -/
def admitVersion (userId incoming : ℤ) (s : Store) : Option Store :=
  let current := ((s.userHash userId).map UserHash.authVersion).getD 0
  if incoming < s.fence userId ∨ incoming < s.floor userId ∨ incoming < current then none
  else
    some (evalPublishCommitted userId incoming s)

/-- The script of `writeUserCache`. -/
def evalWriteUserCache [Settings] (user : UserBase) (includeQuota : Bool) (s : Store) : Bool × Store :=
  match admitVersion user.id user.authVersion s with
  | none => (false, s)
  | some s' =>
    if !includeQuota && (s.userHash user.id).isNone then (true, s')
    else
      let quota := (s.userHash user.id).bind UserHash.quota
      let hash : UserHash :=
        { id := user.id, group := user.group, email := user.email, status := user.status, role := user.role
          username := user.username, setting := user.setting, authVersion := user.authVersion
          cacheSchema := userCacheSchemaVersion
          quota := if includeQuota && quota.isNone then some user.quota else quota }
      (true, s'.setUserHash user.id (.expireAt s.ms hash (s.ms + userCacheTTLSeconds * 1000)))

/-- The script of `SetUserAuthVersionFence`. Every fence carries an expiry. -/
def evalSetFence [Settings] (userId incoming : ℤ) (s : Store) : Store :=
  if s.fence userId ≤ incoming then
    s.setFence userId (.expireAt s.ms incoming (s.ms + userAuthFenceTTLSeconds * 1000))
  else s

/-- The field that `updateUserCacheField` writes. -/
inductive UserField
  | group (value : String)
  | email (value : String)
  | username (value : String)
  | setting (value : String)

def UserField.write : UserField → UserHash → UserHash
  | .group v, h => { h with group := v, cacheSchema := userCacheSchemaVersion }
  | .email v, h => { h with email := v, cacheSchema := userCacheSchemaVersion }
  | .username v, h => { h with username := v, cacheSchema := userCacheSchemaVersion }
  | .setting v, h => { h with setting := v, cacheSchema := userCacheSchemaVersion }

/-- The script of `updateUserCacheFieldAtVersion`. -/
def evalUpdateField (userId : ℤ) (field : UserField) (authVersion : ℤ) (s : Store) : Bool × Store :=
  match admitVersion userId authVersion s with
  | none => (false, s)
  | some s' => match s.userHash userId with
    | none => (true, s')
    | some h =>
      if h.authVersion ≠ authVersion then (true, s')
      else (true, s'.setUserHash userId ((s.userHashes userId).put s.ms (field.write h)))

/-! ## Writing -/

section Calls

variable [Settings]

def writeUserCache (user : UserBase) (includeQuota : Bool) : Action ρ (Except AuthErr Unit) := do
  if user.id ≤ 0 then return .ok ()
  if user.authVersion ≤ 0 then return .error .authVersionInvalid
  if ← access (if includeQuota then .hydrate user.id user.quota else .plain) (evalWriteUserCache user includeQuota) then
    return .ok ()
  else return .error .authCachePending

def populateUserCache (user : User) : Action ρ (Except AuthErr Unit) := writeUserCache user.toBaseUser true

def updateUserCache (user : User) : Action ρ (Except AuthErr Unit) := writeUserCache user.toBaseUser false

def getUserCache (userId : ℤ) : Action ρ (Except AuthErr UserBase) := do
  match ← cacheGetUserBase userId with
  | .ok userCache => return .ok userCache
  | .error _ =>
    match ← getUserById userId with
    | .error e => return .error e
    | .ok user =>
      let floor ← getUserAuthVersionFloor userId
      if user.authVersion < floor then return .error .authCachePending
      match ← populateUserCache user with
      | .error .authCachePending => return .error .authCachePending
      | _ => return .ok user.toBaseUser

def publishUserAuthCache (userId : ℤ) : Action ρ (Except AuthErr Unit) := do
  match ← getUserById userId with
  | .error e => return .error e
  | .ok user => updateUserCache user

omit [Settings] in
def updateUserCacheField (userId : ℤ) (field : UserField) : Action ρ (Except AuthErr Unit) := do
  match ← look (·.db.users.get? userId) with
  | none => return .error .recordNotFound
  | some user =>
    if user.authVersion ≤ 0 then return .error .authVersionInvalid
    if userId ≤ 0 then return .error .authVersionInvalid
    if ← touch (evalUpdateField userId field user.authVersion) then return .ok ()
    else return .error .authCachePending

def setUserAuthVersionFence (userId authVersion : ℤ) : Action ρ (Except AuthErr Unit) := do
  if userId ≤ 0 ∨ authVersion ≤ 0 then return .error .authFenceInvalid
  let _ ← touch fun s => ((), evalSetFence userId authVersion s)
  return .ok ()

omit [Settings] in
def publishCommittedUserAuthVersion (userId authVersion : ℤ) : Action ρ (Except AuthErr Unit) := do
  if userId ≤ 0 ∨ authVersion ≤ 0 then return .error .committedVersionInvalid
  let _ ← touch fun s => ((), evalPublishCommitted userId authVersion s)
  return .ok ()

/-- The conditional update of the version; the transaction commits with it. -/
def casAuthVersion (userId expected next : ℤ) (s : Store) : Bool × Store :=
  match s.db.users.get? userId with
  | none => (false, s)
  | some user =>
    if user.authVersion = expected then
      let users := s.db.users.modify (·.id = userId) ({ · with authVersion := next }) fun _ => rfl
      (true, { s with db := { s.db with users } })
    else (false, s)

/-- `IncrementUserAuthVersionWithTx` in a transaction that commits or is rolled back. The row lock only removes
interleavings: the update is conditional on the version that was read. -/
def incrementUserAuthVersion (userId : ℤ) (commits : Bool) : ℕ → Action ρ (Except AuthErr ℤ)
  | 0 => return .error .authVersionConflict
  | n + 1 => do
    match ← look (·.db.users.get? userId) with
    | none => return .error .recordNotFound
    | some user =>
      let next := max user.authVersion 1 + 1
      match ← setUserAuthVersionFence userId next with
      | .error e => return .error e
      | .ok _ =>
        if !commits then return .error .rolledBack
        if ← touch (casAuthVersion userId user.authVersion next) then return .ok next
        else incrementUserAuthVersion userId commits n

def bumpUserAuthVersion (userId : ℤ) (commits : Bool) : Action ρ (Except AuthErr ℤ) := do
  if userId ≤ 0 then return .error .authUpdateInvalid
  match ← incrementUserAuthVersion userId commits 3 with
  | .error e => return .error e
  | .ok next =>
    match ← publishUserAuthCache userId with
    | .error e => return .error e
    | .ok _ => return .ok next

end Calls

end Desktop2Stereo
