import Desktop2Stereo.Model.Rows

/-!
# Desktop2Stereo: licence operations

The operations of `model/d2s_licensing.go` on profiles, licences, device bindings, online leases
and device codes, each as the transaction that the source runs. A check that the source makes
before it opens the transaction is the transaction's first statement: it fails before anything
is written.
-/

namespace Desktop2Stereo

open Relational GoText

def d2sProductDesktop2Stereo : String := "desktop2stereo"

abbrev day : ℤ := 86400

/-- `newD2SLicenseCode`, from the drawn secret. -/
def newD2SLicenseCode (raw : String) : String :=
  let part (i : ℕ) := toUpper (String.ofList ((raw.toList.drop i).take 4))
  "D2S-" ++ part 0 ++ "-" ++ part 4 ++ "-" ++ part 8

/-! ## Profile and trial -/

def fetchD2SProfile (user : User) (userID now : ℤ) : Tx D2SUserProfile := do
  match ← lookup Tbl.profiles (·.userID = userID) with
  | some result => pure result
  | none => do
    let _ ← createIgnore Tbl.profiles (·.userID = userID)
      { userID, emailVerified := 0 < user.emailVerifiedAt, createdAt := now, updatedAt := now }
    first Tbl.profiles (·.userID = userID) .recordNotFound

/-- Bring the profile's flag in line with the user row. The update of a single column also stamps
the row with the wall clock. -/
def syncD2SEmailVerified (e : Env) (userID : ℤ) (profile : D2SUserProfile) (expected : Bool) : Tx Unit :=
  whenever (profile.emailVerified ≠ expected) <|
    updates Tbl.profiles (·.userID = userID) fun p => { p with emailVerified := expected, updatedAt := e.wall }

/-- The trial licence that a first visit creates. -/
def d2sTrial (e : Env) (userID now : ℤ) : D2SLicense :=
  { id := e.licenseID.val, licenseCode := newD2SLicenseCode e.codeSecret, userID
    product := d2sProductDesktop2Stereo, kind := .trial, status := .active, mode := .unbound
    offlinePeriodDays := 7, createdAt := now, updatedAt := now }

def createD2STrial (e : Env) (userID now : ℤ) : Tx Unit := do
  let trials ← count Tbl.licenses fun l => l.userID = userID ∧ l.kind = .trial
  whenever (trials = 0) do
    let trial := d2sTrial e userID now
    let created ← createIgnore Tbl.licenses
      (fun l => l.userID = trial.userID ∧ l.kind = trial.kind ∧ l.sourceOrderID = trial.sourceOrderID) trial
    whenever (created = true) <|
      create Tbl.licenseEvents
        { id := e.licenseEventID.val, licenseID := trial.id, userID, eventType := .trialCreated, createdAt := now }

def ensureD2SProfileAndTrial (e : Env) (userID now : ℤ) : Tx D2SUserProfile := do
  require (0 < userID) .emailVerificationRequired
  let now := e.resolve now
  let user ← first Tbl.users (·.id = userID) .recordNotFound
  require (trimSpace user.email ≠ "" ∧ 0 < user.emailVerifiedAt) .emailVerificationRequired
  let result ← fetchD2SProfile user userID now
  let expectedEmailVerified := decide (0 < user.emailVerifiedAt)
  syncD2SEmailVerified e userID result expectedEmailVerified
  createD2STrial e userID now
  return { result with emailVerified := expectedEmailVerified }

/-! ## Binding and modes -/

def getD2SLicense (userID : ℤ) (licenseID : String) : Tx D2SLicense :=
  first Tbl.licenses (fun l => l.id = licenseID ∧ l.userID = userID) .licenseNotFound

def validateD2SDeviceHash (deviceHash : String) : Bool :=
  byteLen deviceHash = 64 && (hexDecode deviceHash).isSome

def validateD2SOfflinePeriod (days : ℤ) : Bool := days = 7 ∨ days = 14 ∨ days = 30

def D2SLicense.usable (l : D2SLicense) (now : ℤ) : Bool :=
  l.status = .active ∧ ¬ (0 < l.expiresAt ∧ l.expiresAt ≤ now)

/-- The columns of a licence that a bind writes. -/
def D2SLicense.bound (l : D2SLicense) (deviceHash : String) (fingerprintVersion now : ℤ) : D2SLicense :=
  { l with
    deviceHash, fingerprintVersion
    mode := if l.mode = .unbound then .online else l.mode
    activatedAt := if l.activatedAt = 0 then now else l.activatedAt
    expiresAt :=
      if l.kind = .trial ∧ l.activatedAt = 0 ∧ l.expiresAt = 0 then now + 30 * day else l.expiresAt
    updatedAt := now }

def bindD2SLicense (e : Env) (userID : ℤ) (licenseID deviceHash : String) (fingerprintVersion now : ℤ) :
    Tx D2SLicense := do
  let deviceHash := toLower (trimSpace deviceHash)
  require (validateD2SDeviceHash deviceHash ∧ 0 < fingerprintVersion) .deviceMismatch
  let now := e.resolve now
  let license ← getD2SLicense userID licenseID
  require (license.usable now) .licenseUnavailable
  require (license.deviceHash = "" ∨ license.deviceHash = deviceHash) .licenseAlreadyBound
  let existing ← lookup Tbl.bindings (·.deviceHash = deviceHash)
  require (∀ b ∈ existing, b.licenseID = license.id) .deviceAlreadyBound
  let binding : D2SDeviceBinding :=
    { licenseID := license.id, userID, deviceHash, fingerprintVersion, boundAt := now, updatedAt := now }
  upsert Tbl.bindings (·.licenseID = license.id) (fun _ => binding) binding
  updates Tbl.licenses (·.id = license.id) (·.bound deviceHash fingerprintVersion now)
  let trialStarted := license.kind = .trial ∧ license.activatedAt = 0 ∧ license.expiresAt = 0
  whenever trialStarted <|
    create Tbl.licenseEvents
      { id := e.licenseEventID.val, licenseID := license.id, userID, eventType := .trialStarted, deviceHash
        createdAt := now }
  create Tbl.licenseEvents
    { id := e.boundEventID.val, licenseID := license.id, userID, eventType := .deviceBound, deviceHash
      createdAt := now }
  return license.bound deviceHash fingerprintVersion now

def createD2SManualUnbind (e : Env) (userID : ℤ) (licenseID reason proofRef : String) (now : ℤ) :
    Tx D2SManualUnbindRequest := do
  require (trimSpace reason ≠ "") .orderInvalid
  let now := e.resolve now
  let _ ← first Tbl.profiles (·.userID = userID) .recordNotFound
  let license ← getD2SLicense userID licenseID
  require (license.mode = .permanent) .licenseUnavailable
  let approved ← count Tbl.unbinds fun r => r.userID = userID ∧ r.status = .approved
  require (approved = 0) .permanentLocked
  let pending ← count Tbl.unbinds fun r => r.licenseID = licenseID ∧ r.status = .pending
  require (pending = 0) .manualUnbindPending
  let result : D2SManualUnbindRequest :=
    { id := e.requestID.val, licenseID, userID, reason := trimSpace reason, proofRef := trimSpace proofRef
      status := .pending, createdAt := now, updatedAt := now }
  create Tbl.unbinds result
  return result

/-- The offline period that a change to `nextMode` stores. -/
def d2sNextPeriodDays (license : D2SLicense) (nextMode : LicenseMode) (offlineDays : ℤ) : ℤ :=
  match nextMode with
  | .offline => offlineDays
  | .online => if validateD2SOfflinePeriod license.offlinePeriodDays then license.offlinePeriodDays else 7
  | .permanent => 0
  | .unbound => offlineDays

/-- The columns of a licence that a mode change writes. -/
def D2SLicense.moded (l : D2SLicense) (nextMode : LicenseMode) (offlineDays now : ℤ) : D2SLicense :=
  { l with
    mode := nextMode
    offlinePeriodDays := d2sNextPeriodDays l nextMode offlineDays
    permanentBoundAt := if nextMode = .permanent then now else l.permanentBoundAt
    updatedAt := now }

def changeD2SLicenseMode (e : Env) (userID : ℤ) (licenseID deviceHash nextMode confirmation : String)
    (offlineDays now : ℤ) : Tx D2SLicense := do
  let nextMode ← attempt ((LicenseMode.ofName nextMode).filter (· ≠ .unbound)) .licenseUnavailable
  let now := e.resolve now
  let license ← getD2SLicense userID licenseID
  require (license.usable now) .licenseUnavailable
  require (license.mode = .permanent → nextMode = .permanent) .permanentLocked
  require (license.deviceHash ≠ "" ∧ license.deviceHash = toLower (trimSpace deviceHash)) .deviceMismatch
  require (nextMode = .offline → validateD2SOfflinePeriod offlineDays) .offlinePeriodInvalid
  require (nextMode = .permanent → confirmation = "PERMANENT") .permanentLocked
  updates Tbl.licenses (·.id = license.id) (·.moded nextMode offlineDays now)
  whenever (nextMode ≠ .online) <| delete Tbl.leases (·.licenseID = license.id)
  create Tbl.licenseEvents
    { id := e.licenseEventID.val, licenseID := license.id, userID, eventType := .modeChanged
      deviceHash := license.deviceHash, detail := nextMode.code, createdAt := now }
  return license.moded nextMode offlineDays now

/-- The columns of a licence that a free or paid revoke writes. -/
def D2SLicense.unbound (l : D2SLicense) (now : ℤ) : D2SLicense :=
  { l with deviceHash := "", fingerprintVersion := 0, mode := .unbound, updatedAt := now }

theorem D2SLicense.keys_unbound (now : ℤ) (l : D2SLicense) : Indexed.keys (l.unbound now) = Indexed.keys l := rfl

/-- Returns the time from which the next free revoke is available. -/
def freeRevokeD2SLicense (e : Env) (userID : ℤ) (licenseID deviceHash : String) (now : ℤ) : Tx ℤ := do
  let now := e.resolve now
  let license ← getD2SLicense userID licenseID
  require (license.mode ≠ .permanent) .permanentLocked
  require (license.status = .active ∧ license.deviceHash ≠ "" ∧
    license.deviceHash = toLower (trimSpace deviceHash)) .deviceMismatch
  let cooldown ← lookup Tbl.cooldowns (·.licenseID = license.id)
  require (∀ c ∈ cooldown, c.nextAvailableAt ≤ now) .revokeCooldown
  let periodDays := if validateD2SOfflinePeriod license.offlinePeriodDays then license.offlinePeriodDays else 7
  let nextAvailableAt := now + periodDays * day
  let cooldown : D2SFreeRevokeCooldown :=
    { licenseID := license.id, lastRevokedAt := now, nextAvailableAt, periodDays }
  upsert Tbl.cooldowns (·.licenseID = license.id) (fun _ => cooldown) cooldown
  delete Tbl.bindings (·.licenseID = license.id)
  delete Tbl.leases (·.licenseID = license.id)
  updates Tbl.licenses (·.id = license.id) (·.unbound now) (D2SLicense.keys_unbound now)
  create Tbl.licenseEvents
    { id := e.licenseEventID.val, licenseID := license.id, userID, eventType := .freeRevoke, deviceHash
      createdAt := now }
  return nextAvailableAt

/-! ## Online leases -/

/-- `D2SOnlineLeaseTTL`, in seconds. -/
def d2sOnlineLeaseTTL : ℤ := 7200

def d2sIssuedLease [Digest] (license : D2SLicense) (userID : ℤ) (token : String) (now : ℤ) : D2SOnlineLease :=
  { licenseID := license.id, userID, deviceHash := license.deviceHash, leaseTokenHash := hashD2SSecret token
    createdAt := now, expiresAt := now + d2sOnlineLeaseTTL, lastHeartbeatAt := now }

def issueD2SOnlineLease [Digest] (e : Env) (license : D2SLicense) (userID : ℤ) (rawLeaseToken : String)
    (now : ℤ) : Tx (String × ℤ) := do
  let issuedToken := if rawLeaseToken = "" then e.leaseSecret else rawLeaseToken
  let lease := d2sIssuedLease license userID issuedToken now
  upsert Tbl.leases (·.licenseID = license.id) (fun _ => lease) lease
  return (issuedToken, now + d2sOnlineLeaseTTL)

/-- Renew a lease that has not expired, for the token that holds it. -/
def renewD2SOnlineLease [Digest] (license : D2SLicense) (lease : D2SOnlineLease) (rawLeaseToken : String)
    (now : ℤ) : Tx (String × ℤ) := do
  require (rawLeaseToken ≠ "" ∧ lease.leaseTokenHash = hashD2SSecret rawLeaseToken ∧
    lease.deviceHash = license.deviceHash) .leaseConflict
  updates Tbl.leases (·.licenseID = license.id) fun l =>
    { l with expiresAt := now + d2sOnlineLeaseTTL, lastHeartbeatAt := now }
  return (rawLeaseToken, now + d2sOnlineLeaseTTL)

/-- Renew the lease that is there, or issue a new one. Returns the token and its expiry. -/
def startOrRenewD2SOnlineLease [Digest] (e : Env) (userID : ℤ) (licenseID deviceHash rawLeaseToken : String)
    (now : ℤ) : Tx (String × ℤ) := do
  let now := e.resolve now
  let license ← getD2SLicense userID licenseID
  require (license.usable now ∧ license.mode = .online ∧ license.deviceHash = toLower (trimSpace deviceHash))
    .licenseUnavailable
  match ← lookup Tbl.leases (·.licenseID = license.id) with
  | some lease =>
    if now < lease.expiresAt then renewD2SOnlineLease license lease rawLeaseToken now
    else issueD2SOnlineLease e license userID rawLeaseToken now
  | none => issueD2SOnlineLease e license userID rawLeaseToken now

def releaseD2SOnlineLease [Digest] (userID : ℤ) (licenseID rawLeaseToken : String) : Tx Unit := do
  let held (l : D2SOnlineLease) : Bool :=
    l.licenseID = licenseID ∧ l.userID = userID ∧ l.leaseTokenHash = hashD2SSecret rawLeaseToken
  let rowsAffected ← count Tbl.leases held
  delete Tbl.leases held
  require (rowsAffected = 1) .leaseInvalid

def releaseAllD2SOnlineLeases (userID : ℤ) : Tx Unit :=
  whenever (0 < userID) <| delete Tbl.leases (·.userID = userID)

def deleteExpiredD2SRuntimeArtifacts (e : Env) (now : ℤ) : Tx Unit := do
  let now := e.resolve now
  delete Tbl.leases (·.expiresAt ≤ now)
  delete Tbl.deviceCodes (·.expiresAt ≤ now)

end Desktop2Stereo
