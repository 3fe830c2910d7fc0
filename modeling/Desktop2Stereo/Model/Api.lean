import Desktop2Stereo.Model.System

/-!
# Desktop2Stereo: the order endpoints

The handlers of `controller/d2s_billing.go` that create an order, with the gates in front of them.
-/

namespace Desktop2Stereo

open Relational GoText

/-! ## Refusals -/

/-- A refused request: the error object of `d2sError`, or the bare code of a gate. -/
inductive Refusal
  | error (status : ℕ) (code message : String)
  | gate (status : ℕ) (code : String) (action : Option String)
  deriving DecidableEq

/-- The status and the code of an error; what the order endpoints do not name is internal. -/
def d2sErrorCode : Err → ℕ × String
  | .emailVerificationRequired => (403, "email_verification_required")
  | .licenseNotFound | .recordNotFound => (404, "license_not_found")
  | .licenseUnavailable => (403, "license_unavailable")
  | .deviceMismatch => (409, "device_mismatch")
  | .offlinePeriodInvalid => (400, "invalid_offline_period")
  | .deviceAlreadyBound => (409, "device_already_bound")
  | .licenseAlreadyBound => (409, "license_already_bound")
  | .permanentLocked | .lifetimeUnbindUsed => (409, "permanent_locked")
  | .revokeCooldown => (429, "revoke_cooldown")
  | .leaseConflict => (409, "license_in_use")
  | .leaseInvalid => (401, "lease_invalid")
  | .regionMismatch => (409, "region_mismatch")
  | .priceNotConfigured => (503, "price_not_configured")
  | .orderInvalid => (400, "order_invalid")
  | .quoteChanged => (409, "quote_changed")
  | .orderNotFound => (404, "order_not_found")
  | .orderState | .reservedShort => (409, "order_state_invalid")
  | .paidRevokeLimit => (429, "paid_revoke_limit")
  | .paidRevokePending => (409, "paid_revoke_pending")
  | .manualUnbindPending => (409, "manual_unbind_pending")
  | .insufficientBalance => (402, "insufficient_balance")
  | .withdrawalNotAllowed => (403, "withdrawal_not_allowed")
  | .paymentMismatch => (400, "payment_mismatch")
  | .purchasesDisabled => (503, "purchases_disabled")
  | _ => (500, "internal_error")

def d2sError (err : Err) : Refusal := .error (d2sErrorCode err).1 (d2sErrorCode err).2 err.text

def d2sInvalidInput (message : String) : Refusal := .error 400 "invalid_input" message

/-- Handlers: programs over the database that answer with a status and a value, or refuse. -/
abbrev Handler (α : Type) := Prog DB Refusal α

/-! ## Gates -/

/-- A saved setting overrides the default of the environment. -/
def d2sPurchasesEnabled (e : Env) : Tx Bool := do
  match ← lookup Tbl.options (·.key = d2sPurchasesEnabledOption) with
  | none => return e.purchasesEnabledDefault
  | some option =>
    require (option.value = "true" ∨ option.value = "false") (.external "invalid purchase setting")
    return option.value = "true"

def isD2SUserPurchaseBlocked (userID : ℤ) : Tx Bool := do
  require (0 < userID) (.external "invalid user id")
  let control ← lookup Tbl.controls (·.userID = userID)
  return (control.map D2SUserSecurityControl.purchaseBlocked).getD false

def d2sRejectPurchasesDisabled (e : Env) : Handler Unit := do
  match ← Prog.outcome (Prog.atomic (d2sPurchasesEnabled e)) with
  | .error _ => throw (.gate 503 "PURCHASE_SETTINGS_UNAVAILABLE" none)
  | .ok true => pure ()
  | .ok false => throw (d2sError .purchasesDisabled)

def d2sRejectBlockedPurchase (userID : ℤ) (action : String) : Handler Unit := do
  match ← Prog.outcome (Prog.atomic (isD2SUserPurchaseBlocked userID)) with
  | .error _ => throw (.gate 500 "ACCOUNT_CONTROL_CHECK_FAILED" none)
  | .ok false => pure ()
  | .ok true => throw (.gate 423 "ACCOUNT_PURCHASE_BLOCKED" (some action))

/-! ## Order creation -/

structure D2SOrderRequest where
  product : String
  licenseID : String
  provider : String
  balanceMinor : ℤ
  idempotencyKey : String
  expectedAmountMinor : Option ℤ
  expectedCurrency : String
  expectedRegion : String

def D2SOrder.replays (o : D2SOrder) (request : D2SOrderRequest) : Prop :=
  o.product.code = request.product ∧ o.licenseID = request.licenseID ∧
    o.provider.code = toLower (trimSpace request.provider) ∧ request.expectedAmountMinor = some o.amountMinor ∧
    o.currency.code = request.expectedCurrency ∧ o.region.code = request.expectedRegion ∧
    o.balanceMinor = request.balanceMinor

instance (o : D2SOrder) (request : D2SOrderRequest) : Decidable (o.replays request) := by
  unfold D2SOrder.replays; infer_instance

/-- Answer a request whose key is already in use; `none` where it is not. -/
def replayD2SOrder (userID : ℤ) (request : D2SOrderRequest) : Handler (Option (ℕ × D2SOrder)) := do
  match ← Prog.outcome (Prog.atomic (getD2SOrderByIdempotencyKey userID request.idempotencyKey)) with
  | .error err => throw (d2sError err)
  | .ok none => return none
  | .ok (some order) => if order.replays request then return some (200, order) else throw (d2sError .orderInvalid)

/-- A failed creation is still answered if its key is in use by now. -/
def refuseOrReplay (userID : ℤ) (request : D2SOrderRequest) (refusal : Refusal) : Handler (ℕ × D2SOrder) := do
  match ← replayD2SOrder userID request with
  | some answer => return answer
  | none => throw refusal

/-- What the action log takes from a connection. -/
structure Connection where
  clientIP : String
  sourcePort : Option ℤ
  destinationIP : Option String
  destinationPort : Option ℤ
  userAgent : String
  requestPath : String

def d2sUserActionLogInput (e : Env) (c : Connection) (userID : ℤ) (email : String) (actionType : ActionType)
    (result : ActionResult) : D2SActionLogInput :=
  { userID := some userID, email, actionType := actionType.code, eventTime := e.wall, sourceIP := c.clientIP
    sourcePort := c.sourcePort, destinationIP := c.destinationIP, destinationPort := c.destinationPort
    userAgent := c.userAgent, deviceFingerprint := none, requestPath := c.requestPath, resultStatus := result.code }

namespace Controller

/-- The order of a request with a new key: quote it, compare the quote with the one that the client
has confirmed, and create it. -/
def placeD2SOrder [Digest] (e : Env) (c : Connection) (userID : ℤ) (request : D2SOrderRequest) :
    Handler (ℕ × D2SOrder) := do
  match ← Prog.outcome (quoteD2SOrder e userID request.product request.licenseID request.provider e.wall) with
  | .error err => refuseOrReplay userID request (d2sError err)
  | .ok quote =>
    if request.expectedAmountMinor = some quote.amountMinor ∧ request.expectedCurrency = quote.currency.code ∧
        request.expectedRegion = quote.region.code then do
      match ← Prog.outcome (Prog.atomic (first Tbl.users (·.id = userID) Err.recordNotFound)) with
      | .error _ => throw (d2sError .orderInvalid)
      | .ok user =>
        let purchaseAudit := d2sUserActionLogInput e c userID user.email .purchase .success
        match ← Prog.outcome (createD2SOrder e userID quote request.balanceMinor request.idempotencyKey user.email
            c.clientIP e.wall (some purchaseAudit)) with
        | .error err => refuseOrReplay userID request (d2sError err)
        | .ok order => return (201, order)
    else refuseOrReplay userID request (d2sError .quoteChanged)

/-- `createD2SOrder` of the controller; the body of a request that is not JSON reads as `none`. -/
def createD2SOrder [Digest] (e : Env) (c : Connection) (userID : ℤ) (requiredProduct : String)
    (body : Option D2SOrderRequest) : Handler (ℕ × D2SOrder) := do
  d2sRejectPurchasesDisabled e
  d2sRejectBlockedPurchase userID "create"
  let request ← Prog.atomic <| attempt (body.filter fun request => trimSpace request.idempotencyKey ≠ "")
    (d2sInvalidInput "product, provider and idempotency_key are required")
  Prog.atomic <| require (requiredProduct = "" ∨ request.product = requiredProduct)
    (d2sInvalidInput ("product must be " ++ requiredProduct))
  Prog.atomic <| require (request.expectedAmountMinor ≠ none) (d2sError .quoteChanged)
  match ← replayD2SOrder userID request with
  | some answer => return answer
  | none => placeD2SOrder e c userID request

def D2SOrderCreate [Digest] (e : Env) (c : Connection) (userID : ℤ) (body : Option D2SOrderRequest) :
    Handler (ℕ × D2SOrder) :=
  createD2SOrder e c userID "" body

def D2SLicensePaidRevoke [Digest] (e : Env) (c : Connection) (userID : ℤ) (body : Option D2SOrderRequest) :
    Handler (ℕ × D2SOrder) :=
  createD2SOrder e c userID Product.paidRevoke.code body

def D2SLicenseOfflineExtend [Digest] (e : Env) (c : Connection) (userID : ℤ) (body : Option D2SOrderRequest) :
    Handler (ℕ × D2SOrder) :=
  createD2SOrder e c userID Product.offlineExtension.code body

end Controller

end Desktop2Stereo
