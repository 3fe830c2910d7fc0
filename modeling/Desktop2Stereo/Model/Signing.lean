import Desktop2Stereo.Model.Orders

/-!
# Desktop2Stereo: offline entitlements and core grants

`IssueD2SOfflineEntitlement` and `IssueD2SCoreGrant` of `service/d2s_signing.go`. What the
cryptographic library computes is an argument (`Crypto`), with everything the source passes to it.
-/

namespace Desktop2Stereo

open Relational GoText

def d2sParallaxCoreID : String := "parallax-core"

def d2sParallaxCoreVersion : ℤ := 1

/-- The deadline of a permanent entitlement: the last second of the year 9999. -/
def d2sPermanentDeadline : ℤ := 253402300799

structure D2SOfflineClaims where
  version : ℤ := 1
  keyID : String
  entitlementID : String
  licenseID : String
  product : String
  deviceHash : String
  mode : LicenseMode
  features : List String
  issuedAt : ℤ
  notBefore : ℤ
  expiresAt : ℤ
  trial : Bool
  offlinePeriodDays : ℤ
  coreID : String
  coreVersion : ℤ
  resourceSHA256 : String
  wrappedCoreKey : String
  keyWrapEphemeralPublicKey : String
  keyWrapNonce : String

structure D2SCoreGrantClaims where
  version : ℤ := 1
  keyID : String
  grantID : String
  licenseID : String
  product : String
  deviceHash : String
  coreID : String
  coreVersion : ℤ
  resourceSHA256 : String
  wrappedCoreKey : String
  keyWrapEphemeralPublicKey : String
  keyWrapNonce : String
  issuedAt : ℤ
  notBefore : ℤ
  expiresAt : ℤ

/-- The arguments of `wrapD2SCoreKey`. -/
structure WrapRequest where
  coreKeyHex : String
  devicePublicKey : String
  grantID : String
  licenseID : String
  deviceHash : String
  coreID : String
  coreVersion : ℤ
  resourceHash : String

/-- The result of `wrapD2SCoreKey`. -/
structure WrappedKey where
  ephemeral : String
  nonce : String
  wrapped : String

/-- The cryptographic library during one call; a failure is the text of its error. -/
structure Crypto where
  /-- `d2sSigningKey` with `d2sPublicJWK`: the key id and the public key as JSON -/
  signingKey : Except String (String × String)
  /-- `wrapD2SCoreKey` -/
  wrap : WrapRequest → Except String WrappedKey
  /-- `signD2SClaims` -/
  signOffline : D2SOfflineClaims → Except String String
  /-- `signD2SPayload` on a core grant -/
  signGrant : D2SCoreGrantClaims → Except String String

/-- A result of the cryptographic library inside a transaction. -/
def external {α : Type} (x : Except String α) : Tx α := lifted (x.mapError Err.external)

def d2sParallaxCoreConfig (e : Env) : Except Err (String × String) :=
  let resourceHash := toLower (trimSpace e.parallaxCoreSHA256)
  let coreKey := toLower (trimSpace e.parallaxCoreKeyHex)
  if byteLen resourceHash ≠ 64 then .error .coreHashMissing
  else if hexDecode resourceHash = none then .error .coreHashInvalid
  else if hexDecode coreKey ≠ some 32 then .error .coreKeyInvalid
  else .ok (resourceHash, coreKey)

/-! ## Offline entitlements -/

/-- The deadline of an entitlement. The licence's own expiry caps the requested period, and an
offline deadline that the licence already has is kept. -/
def D2SLicense.offlineDeadline (l : D2SLicense) (requestedDays now : ℤ) : ℤ :=
  let period := if l.mode = .permanent then d2sPermanentDeadline else now + requestedDays * day
  let capped := if 0 < l.expiresAt ∧ l.expiresAt < period then l.expiresAt else period
  max l.offlineValidUntil capped

/-- The licence may be used offline for the requested period. -/
def D2SLicense.offlineReady (l : D2SLicense) (deviceHash : String) (requestedDays now : ℤ) : Prop :=
  l.usable now ∧ l.deviceHash = toLower (trimSpace deviceHash) ∧ (l.mode = .offline ∨ l.mode = .permanent) ∧
    (l.mode = .offline → validateD2SOfflinePeriod requestedDays ∧ requestedDays = l.offlinePeriodDays)

instance (l : D2SLicense) (deviceHash : String) (requestedDays now : ℤ) :
    Decidable (l.offlineReady deviceHash requestedDays now) := by
  unfold D2SLicense.offlineReady; infer_instance

def D2SLicense.offlineClaims (l : D2SLicense) (e : Env) (keyID resourceHash : String) (key : WrappedKey)
    (requestedDays now : ℤ) : D2SOfflineClaims :=
  { keyID, entitlementID := e.entitlementID.val, licenseID := l.id, product := d2sProductDesktop2Stereo
    deviceHash := l.deviceHash, mode := l.mode, features := ["runtime"]
    issuedAt := now, notBefore := now - 60, expiresAt := l.offlineDeadline requestedDays now
    trial := l.kind = .trial
    offlinePeriodDays := if l.mode = .permanent then 0 else requestedDays
    coreID := d2sParallaxCoreID, coreVersion := d2sParallaxCoreVersion, resourceSHA256 := resourceHash
    wrappedCoreKey := key.wrapped, keyWrapEphemeralPublicKey := key.ephemeral, keyWrapNonce := key.nonce }

/-- Returns the signed text and the claims it signs. -/
def issueD2SOfflineEntitlement [Digest] (e : Env) (c : Crypto) (userID : ℤ)
    (licenseID deviceHash devicePublicKey : String) (requestedDays now : ℤ) :
    Tx (String × D2SOfflineClaims) := do
  let now := e.resolve now
  let (resourceHash, coreKey) ← lifted (d2sParallaxCoreConfig e)
  let (keyID, publicJWK) ← external c.signingKey
  let license ← getD2SLicense userID licenseID
  require (license.offlineReady deviceHash requestedDays now) .licenseUnavailable
  let expiresAt := license.offlineDeadline requestedDays now
  let key ← external <| c.wrap
    { coreKeyHex := coreKey, devicePublicKey, grantID := e.entitlementID.val, licenseID := license.id
      deviceHash := license.deviceHash, coreID := d2sParallaxCoreID, coreVersion := d2sParallaxCoreVersion
      resourceHash }
  let claims := license.offlineClaims e keyID resourceHash key requestedDays now
  let jws ← external (c.signOffline claims)
  upsert Tbl.signingKeys (·.keyID = keyID) (fun k => { k with publicJWK, status := .active })
    { keyID, algorithm := "ES256", publicJWK, status := .active, createdAt := now }
  create Tbl.entitlements
    { id := claims.entitlementID, licenseID := license.id, userID, deviceHash := license.deviceHash, keyID
      issuedAt := now, expiresAt, jwsHash := Digest.sha256Hex jws }
  updates Tbl.licenses (·.id = license.id) fun l => { l with offlineValidUntil := expiresAt, updatedAt := now }
  return (jws, claims)

/-! ## Core grants -/

/-- The deadline of a core grant: two hours online, half an hour otherwise, within the licence. -/
def D2SLicense.grantDeadline (l : D2SLicense) (now : ℤ) : ℤ :=
  let period := if l.mode = .online then now + d2sOnlineLeaseTTL else now + 1800
  if 0 < l.expiresAt ∧ l.expiresAt < period then l.expiresAt else period

/-- Returns the signed text and the claims it signs; nothing is stored. -/
def issueD2SCoreGrant (e : Env) (c : Crypto) (userID : ℤ)
    (licenseID deviceHash devicePublicKey coreID : String) (coreVersion now : ℤ) :
    Tx (String × D2SCoreGrantClaims) := do
  let now := e.resolve now
  require (coreID = d2sParallaxCoreID ∧ coreVersion = d2sParallaxCoreVersion) .licenseUnavailable
  let (resourceHash, coreKey) ← lifted (d2sParallaxCoreConfig e)
  let (keyID, _) ← external c.signingKey
  let license ← getD2SLicense userID licenseID
  require (license.product = d2sProductDesktop2Stereo ∧ license.usable now ∧
    license.deviceHash = toLower (trimSpace deviceHash)) .licenseUnavailable
  let key ← external <| c.wrap
    { coreKeyHex := coreKey, devicePublicKey, grantID := e.entitlementID.val, licenseID := license.id
      deviceHash := license.deviceHash, coreID, coreVersion, resourceHash }
  let grant : D2SCoreGrantClaims :=
    { keyID, grantID := e.entitlementID.val, licenseID := license.id, product := license.product
      deviceHash := license.deviceHash, coreID, coreVersion, resourceSHA256 := resourceHash
      wrappedCoreKey := key.wrapped, keyWrapEphemeralPublicKey := key.ephemeral, keyWrapNonce := key.nonce
      issuedAt := now, notBefore := now - 60, expiresAt := license.grantDeadline now }
  let jws ← external (c.signGrant grant)
  return (jws, grant)

end Desktop2Stereo
