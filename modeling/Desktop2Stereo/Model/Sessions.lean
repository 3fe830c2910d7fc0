import Desktop2Stereo.Model.Users

/-!
# Desktop2Stereo: login sessions and their cache

The rows of `user_sessions` and the snapshots that Redis keeps of them. A transaction that holds no Redis
command is one access. The one that does is cut where the command stands, and its last access says which row
it holds the lock of. The deadline of a snapshot is taken before the row is read.
-/

namespace Desktop2Stereo

open Relational Concurrent Expiring

variable {ρ : Type}

/-! ## Entries -/

def userSessionCacheSchema : ℤ := 1

def userSessionRevokeBatchSize : ℕ := 500

def UserSession.cacheEntry (r : UserSession) : SessionEntry :=
  { sid := r.sid, userID := r.userID, version := r.version, userAuthVersion := r.userAuthVersion, status := r.status
    loginMethod := r.loginMethod, ip := r.ip, userAgent := r.userAgent, createdAt := r.createdAt
    lastActiveAt := r.lastActiveAt, expiresAt := r.expiresAt, revokedAt := r.revokedAt
    revokedReason := r.revokedReason, cacheSchema := userSessionCacheSchema }

def SessionEntry.session (e : SessionEntry) : UserSession :=
  { sid := e.sid, userID := e.userID, version := e.version, userAuthVersion := e.userAuthVersion, status := e.status
    refreshHash := "", loginMethod := e.loginMethod, ip := e.ip, userAgent := e.userAgent, createdAt := e.createdAt
    lastActiveAt := e.lastActiveAt, expiresAt := e.expiresAt, revokedAt := e.revokedAt
    revokedReason := e.revokedReason }

def UserSession.Live (r : UserSession) (now : ℤ) : Prop := r.status = .active ∧ r.revokedAt = 0 ∧ now < r.expiresAt

instance (r : UserSession) (now : ℤ) : Decidable (r.Live now) := by unfold UserSession.Live; infer_instance

def Store.session (s : Store) (sid : String) : Option UserSession := s.db.sessions.get? sid

def Store.sessionHash (s : Store) (sid : String) : Option SessionEntry := (s.sessionHashes sid).get s.ms

def Store.setSessionHash (s : Store) (sid : String) (c : Cell SessionEntry) : Store :=
  { s with sessionHashes := Function.update s.sessionHashes sid c }

/-- Rewrite the row of a session. -/
def Store.setSession (s : Store) (sid : String) (f : UserSession → UserSession)
    (h : ∀ r, Indexed.keys (f r) = Indexed.keys r) : Store :=
  { s with db := { s.db with sessions := s.db.sessions.modify (·.sid = sid) f h } }

def UserSession.revoked (r : UserSession) (now : ℤ) (reason : String) : UserSession :=
  { r with status := .revoked, revokedAt := now, revokedReason := reason }

/-- Mark the rows that satisfy `p` as revoked, and note when that happened. -/
def Store.endSessions (s : Store) (p : UserSession → Bool) (now : ℤ) (reason : String) : Store :=
  { s with
    db := { s.db with sessions := s.db.sessions.modify p (·.revoked now reason) fun _ => rfl }
    endedAt := fun sid => if (s.session sid).any p then some s.clock else s.endedAt sid }

/-! ## Writing a snapshot -/

/-- `time.Unix(t, 0)` in nanoseconds. -/
def unixNano (t : ℤ) : ℤ := t * 1000000000

/-- The script of `writeUserSessionCache`. -/
def evalWriteSession (entry : SessionEntry) (redisExpiration : ℕ) (s : Store) : Bool × Store :=
  let current := s.sessionHash entry.sid
  if entry.status = .active ∧ ∃ c ∈ current, c.status = .revoking ∨ c.status = .revoked then (false, s)
  else if entry.version < (current.map SessionEntry.version).getD 0 then (false, s)
  else
    let last := if entry.status = .active then redisExpiration else s.ms + redisExpiration
    (true, s.setSessionHash entry.sid (.expireAt s.ms entry last))

section Calls

variable [Settings]

/-- `userCacheTTLSeconds` in nanoseconds. -/
def sessionCacheTTL : ℕ := userCacheTTLSeconds * 1000000000

def userSessionCacheDeadline : Action ρ ℕ := look fun s => s.clock + sessionCacheTTL

/-- The expiry of an active snapshot in milliseconds, or why it cannot be written. -/
def activeExpiration (entry : SessionEntry) (cacheDeadline now : ℕ) : Except AuthErr ℕ :=
  if cacheDeadline ≤ now then .error .cacheObservationStale
  else if unixNano entry.expiresAt ≤ now then .error .userSessionInactive
  else
    let cacheExpiresAt := min (cacheDeadline : ℤ) (unixNano entry.expiresAt)
    if cacheExpiresAt - now < 1000000 then .error .cacheObservationStale
    else .ok (cacheExpiresAt / 1000000).toNat

/-- The time to live of a deny entry in milliseconds. -/
def denyExpiration (entry : SessionEntry) (now : ℕ) : ℕ :=
  let ttl := min (unixNano entry.expiresAt - now) sessionCacheTTL
  let ttl := if ttl ≤ 0 then 1000000000 else ttl
  max 1 (ttl / 1000000).toNat

def writeUserSessionCache (entry : SessionEntry) (cacheDeadline : Option ℕ) : Action ρ (Except AuthErr Unit) := do
  let now ← look Store.clock
  if entry.status = .active then
    match cacheDeadline with
    | none => return .error .userSessionInvalid
    | some deadline =>
      match activeExpiration entry deadline now with
      | .error e => return .error e
      | .ok redisExpiration =>
        if ← touch (evalWriteSession entry redisExpiration) then
          let completedAt ← look Store.clock
          if deadline ≤ completedAt then return .error .cacheObservationStale
          if unixNano entry.expiresAt ≤ completedAt then return .error .userSessionInactive
          return .ok ()
        else return .error .userSessionInactive
  else
    if ← touch (evalWriteSession entry (denyExpiration entry now)) then return .ok ()
    else return .error .userSessionInactive

omit [Settings] in
def confirmUserSessionActiveSnapshot (session : UserSession) : Action ρ (Except AuthErr Unit) := do
  if session.sid = "" ∨ session.userID ≤ 0 ∨ session.version ≤ 0 ∨ session.userAuthVersion ≤ 0 then
    return .error .userSessionInvalid
  let now ← look Store.unix
  let count ← look fun s => s.db.sessions.count fun r => r.sid = session.sid ∧ r.userID = session.userID ∧
    r.Live now ∧ r.version = session.version ∧ r.userAuthVersion = session.userAuthVersion
  if count ≠ 1 then return .error .userSessionInactive
  return .ok ()

def writeUserSessionDenyFence (session : UserSession) (status : SessionStatus) (now : ℤ) (reason : String) :
    Action ρ (Except AuthErr Unit) :=
  writeUserSessionCache { session.cacheEntry with status, revokedAt := now, revokedReason := reason } none

/-! ## Reading -/

omit [Settings] in
def getUserSessionCache (sid : String) : Action ρ (Except AuthErr SessionEntry) := do
  match ← look (·.sessionHash sid) with
  | none => return .error .cacheMiss
  | some entry =>
    if entry.cacheSchema ≠ userSessionCacheSchema ∨ entry.sid ≠ sid ∨ entry.userID ≤ 0 ∨ entry.version ≤ 0 ∨
        entry.userAuthVersion ≤ 0 then
      return .error .cacheStale
    let now ← look Store.unix
    if entry.status ≠ .active ∨ entry.revokedAt ≠ 0 ∨ entry.expiresAt ≤ now then return .error .userSessionInactive
    return .ok entry

def getUserSessionCached (sid : String) : Action ρ (Except AuthErr UserSession) := do
  if sid = "" then return .error .userSessionInvalid
  match ← getUserSessionCache sid with
  | .ok entry => return .ok entry.session
  | .error .userSessionInactive => return .error .userSessionInactive
  | .error _ =>
    let cacheDeadline ← userSessionCacheDeadline
    match ← look (·.session sid) with
    | none => return .error .recordNotFound
    | some session =>
      let now ← look Store.unix
      if ¬ session.Live now then
        let _ ← writeUserSessionCache { session.cacheEntry with status := .revoked } none
        return .error .userSessionInactive
      match ← writeUserSessionCache session.cacheEntry (some cacheDeadline) with
      | .error .cacheObservationStale =>
        match ← confirmUserSessionActiveSnapshot session with
        | .error e => return .error e
        | .ok _ => return .ok session
      | .error .userSessionInactive => return .error .userSessionInactive
      | _ => return .ok session

/-! ## Creating -/

/-- The columns that `CreateUserSession` fills in. -/
def UserSession.completed (r : UserSession) (now : ℤ) : UserSession :=
  { r with
    version := if r.version ≤ 0 then 1 else r.version
    lastActiveAt := if r.lastActiveAt = 0 then now else r.lastActiveAt
    createdAt := if r.createdAt = 0 then now else r.createdAt }

omit [Settings] in
def insertSession (session : UserSession) (s : Store) : Bool × Store :=
  match s.db.sessions.insert session with
  | none => (false, s)
  | some sessions => (true, { s with db := { s.db with sessions } })

def createUserSession (session : UserSession) : Action ρ (Except AuthErr Unit) := do
  let now ← look Store.unix
  if session.sid = "" ∨ session.userID ≤ 0 ∨ session.userAuthVersion ≤ 0 ∨ session.refreshHash = "" ∨
      session.expiresAt ≤ now then
    return .error .userSessionInvalid
  if session.status ≠ .active ∨ session.revokedAt ≠ 0 then return .error .userSessionInvalid
  let session := session.completed now
  let cacheDeadline ← userSessionCacheDeadline
  if !(← touch (insertSession session)) then return .error .duplicateKey
  match ← writeUserSessionCache session.cacheEntry (some cacheDeadline) with
  | .error .cacheObservationStale => confirmUserSessionActiveSnapshot session
  | .error .userSessionInactive => return .error .userSessionInactive
  | _ => return .ok ()

/-! ## Rotating -/

/-- The compare-and-swap of a rotation. -/
def casRefresh (userID : ℤ) (sid presentedHash nextHash : String) (now graceSeconds : ℤ) (s : Store) : Bool × Store :=
  match s.session sid with
  | none => (false, s)
  | some r =>
    if r.userID = userID ∧ r.Live now ∧ r.refreshHash = presentedHash then
      (true, s.setSession sid ({ · with
        previousRefreshHash := presentedHash, previousValidUntil := now + graceSeconds, refreshHash := nextHash
        lastActiveAt := now }) fun _ => rfl)
    else (false, s)

/-- The update that ends a session whose old token was replayed. -/
def endReused (userID : ℤ) (sid : String) (now : ℤ) (s : Store) : Bool × Store :=
  let p (r : UserSession) : Bool := r.sid = sid ∧ r.userID = userID ∧ r.Live now
  ((s.session sid).any p, s.endSessions p now "refresh_reuse")

/-- What `RotateUserSessionRefresh` returns: a rotated session, the race with the session that is current, or an
error. -/
inductive Rotation
  | rotated (session : UserSession)
  | race (session : UserSession)
  | failed (e : AuthErr)

def rotateLoop (userID : ℤ) (sid presentedHash nextHash : String) (now graceSeconds : ℤ) : ℕ → Action ρ Rotation
  | 0 => return .failed .refreshInvalid
  | n + 1 => do
    let cacheDeadline ← userSessionCacheDeadline
    match (← look (·.session sid)).filter (·.userID = userID) with
    | none => return .failed .recordNotFound
    | some session =>
      if ¬ session.Live now then return .failed .userSessionInactive
      if session.refreshHash = presentedHash then
        if ← touch (casRefresh userID sid presentedHash nextHash now graceSeconds) then
          let session := { session with
            previousRefreshHash := session.refreshHash, previousValidUntil := now + graceSeconds
            refreshHash := nextHash, lastActiveAt := now }
          match ← writeUserSessionCache session.cacheEntry (some cacheDeadline) with
          | .error .cacheObservationStale =>
            match ← confirmUserSessionActiveSnapshot session with
            | .error e => return .failed e
            | .ok _ => return .rotated session
          | .error .userSessionInactive => return .failed .userSessionInactive
          | _ => return .rotated session
        else rotateLoop userID sid presentedHash nextHash now graceSeconds n
      else
        if session.previousRefreshHash = "" ∨ session.previousRefreshHash ≠ presentedHash then
          return .failed .refreshInvalid
        if now ≤ session.previousValidUntil then return .race session
        -- a previous token outside its grace window: the fence goes first, then the row
        match ← writeUserSessionDenyFence session .revoking now "refresh_reuse" with
        | .error e => return .failed e
        | .ok _ =>
          if ← touch (endReused userID sid now) then
            let _ ← writeUserSessionCache (session.revoked now "refresh_reuse").cacheEntry none
            return .failed .refreshReuse
          else return .failed .userSessionInactive

/-- `RotateUserSessionRefresh`, at a time that the caller has resolved and with a grace that is not negative. -/
def rotateUserSessionRefresh (userID : ℤ) (sid presentedHash nextHash : String) (now graceSeconds : ℤ) :
    Action ρ Rotation :=
  if userID ≤ 0 ∨ sid = "" ∨ presentedHash = "" ∨ nextHash = "" ∨ presentedHash = nextHash then
    return .failed .userSessionInvalid
  else rotateLoop userID sid presentedHash nextHash now graceSeconds 3

/-! ## Advancing -/

/-- The transaction of `AdvanceUserSessionAuthVersion`. -/
def advanceTx (userID : ℤ) (sid : String) (expectedSessionVersion expectedUserAuthVersion nextUserAuthVersion now : ℤ)
    (s : Store) : Except AuthErr UserSession × Store :=
  match (s.session sid).filter (·.userID = userID) with
  | none => (.error .recordNotFound, s)
  | some r =>
    if r.status ≠ .active ∨ r.expiresAt ≤ now ∨ r.version ≠ expectedSessionVersion ∨
        r.userAuthVersion ≠ expectedUserAuthVersion then
      (.error .userSessionInactive, s)
    else
      let next (r : UserSession) := { r with
        version := expectedSessionVersion + 1, userAuthVersion := nextUserAuthVersion, lastActiveAt := now }
      (.ok (next r), s.setSession sid next fun _ => rfl)

def advanceUserSessionAuthVersion (userID : ℤ) (sid : String)
    (expectedSessionVersion expectedUserAuthVersion nextUserAuthVersion : ℤ) : Action ρ (Except AuthErr UserSession) := do
  if userID ≤ 0 ∨ sid = "" ∨ expectedSessionVersion ≤ 0 ∨ expectedUserAuthVersion ≤ 0 ∨
      nextUserAuthVersion ≤ expectedUserAuthVersion then
    return .error .userSessionInvalid
  let cacheDeadline ← userSessionCacheDeadline
  let now ← look Store.unix
  match ← touch
      (advanceTx userID sid expectedSessionVersion expectedUserAuthVersion nextUserAuthVersion now) with
  | .error e => return .error e
  | .ok session =>
    match ← writeUserSessionCache session.cacheEntry (some cacheDeadline) with
    | .error .cacheObservationStale =>
      match ← confirmUserSessionActiveSnapshot session with
      | .error e => return .error e
      | .ok _ => return .ok session
    | .error e => return .error e
    | .ok _ => return .ok session

/-! ## Revoking -/

/-- The transaction of `RevokeUserSession`. -/
def revokeTx (userID : ℤ) (sid reason : String) (now : ℤ) (s : Store) : Except AuthErr Bool × Store :=
  match (s.session sid).filter (·.userID = userID) with
  | none => (.error .recordNotFound, s)
  | some r =>
    if r.Live now then (.ok true, s.endSessions (fun r => r.sid = sid ∧ r.status = .active) now reason)
    else (.ok false, s)

def revokeUserSession (userID : ℤ) (sid reason : String) : Action ρ (Except AuthErr Bool) := do
  if userID ≤ 0 ∨ sid = "" then return .error .userSessionInvalid
  let now ← look Store.unix
  match (← look (·.session sid)).filter (·.userID = userID) with
  | none => return .ok false
  | some candidate =>
    if ¬ candidate.Live now then return .ok false
    match ← writeUserSessionDenyFence candidate .revoking now reason with
    | .error e => return .error e
    | .ok _ =>
      match ← access (.revoke candidate) (revokeTx userID sid reason now) with
      | .error e => return .error e
      | .ok false => return .ok false
      | .ok true =>
        let _ ← writeUserSessionCache (candidate.revoked now reason).cacheEntry none
        return .ok true

/-- The update of a transaction that holds the lock of a row, and its commit. -/
def revokeLocked (sid reason : String) (now : ℤ) (s : Store) : Bool × Store :=
  let p (r : UserSession) : Bool := r.sid = sid ∧ r.status = .active
  ((s.session sid).any p, s.endSessions p now reason)

def revokeUserSessionByRefreshHash (sid presentedHash reason : String) : Action ρ (Except AuthErr Bool) := do
  if sid = "" ∨ presentedHash = "" then return .error .userSessionInvalid
  let now ← look Store.unix
  match ← look (·.session sid) with
  | none => return .ok false
  | some session =>
    if ¬ session.Live now then return .ok false
    let validCurrent := session.refreshHash = presentedHash
    let validPrevious := session.previousRefreshHash ≠ "" ∧ now ≤ session.previousValidUntil ∧
      session.previousRefreshHash = presentedHash
    if ¬ validCurrent ∧ ¬ validPrevious then return .ok false
    match ← writeUserSessionDenyFence session .revoking now reason with
    | .error e => return .error e
    | .ok _ =>
      if ← access (.locked session) (revokeLocked sid reason now) then
        let _ ← writeUserSessionCache (session.revoked now reason).cacheEntry none
        return .ok true
      else return .ok false

/-- One batch of the sessions that a bulk revocation finds. -/
def revokeCandidates (userID : ℤ) (excludedSID : String) (now : ℤ) (s : Store) : List UserSession :=
  let found := s.db.sessions.rows.filter fun r =>
    r.userID = userID ∧ r.status = .active ∧ now < r.expiresAt ∧ (excludedSID = "" ∨ r.sid ≠ excludedSID)
  (found.mergeSort fun a b => a.sid ≤ b.sid).take userSessionRevokeBatchSize

/-- Publish the fences of a batch. -/
def fenceAll (now : ℤ) (reason : String) : List UserSession → Action ρ (Except AuthErr Unit)
  | [] => return .ok ()
  | c :: rest => do
    match ← writeUserSessionDenyFence c .revoking now reason with
    | .error e => return .error e
    | .ok _ => fenceAll now reason rest

/-- The transaction of a batch: the rows that are still active are revoked. -/
def revokeBatch (sids : List String) (reason : String) (now : ℤ) (s : Store) : List UserSession × Store :=
  let p (r : UserSession) : Bool := r.sid ∈ sids ∧ r.status = .active
  (s.db.sessions.rows.filter p, s.endSessions p now reason)

/-- Write the tombstones of a batch. -/
def buryAll (now : ℤ) (reason : String) : List UserSession → Action ρ Unit
  | [] => return ()
  | r :: rest => do
    let _ ← writeUserSessionCache (r.revoked now reason).cacheEntry none
    buryAll now reason rest

/-- The rounds of `revokeUserSessions`, with the sessions that were revoked so far. -/
def revokeRounds (userID : ℤ) (excludedSID reason : String) (now : ℤ) :
    ℕ → List String → Action ρ (Except AuthErr (List String))
  | 0, _ => return .error .rolledBack
  | n + 1, done => do
    let candidates ← look (revokeCandidates userID excludedSID now)
    if candidates = [] then return .ok done
    match ← fenceAll now reason candidates with
    | .error e => return .error e
    | .ok _ =>
      let sids := candidates.map UserSession.sid
      let revoked ← touch (revokeBatch sids reason now)
      buryAll now reason revoked
      revokeRounds userID excludedSID reason now n (done ++ revoked.map UserSession.sid)

/-- `revokeUserSessions`, for at most `rounds` rounds of its loop; it answers which sessions it revoked, where the
source counts them. A run that needs more rounds has not returned. -/
def revokeUserSessions (userID : ℤ) (excludedSID reason : String) (rounds : ℕ) :
    Action ρ (Except AuthErr (List String)) := do
  if userID ≤ 0 then return .error .userSessionInvalid
  let now ← look Store.unix
  revokeRounds userID excludedSID reason now rounds []

end Calls

end Desktop2Stereo
