import Desktop2Stereo.Model.Balance

/-!
# Desktop2Stereo: quotes, orders, payment events and reviews

The half of `model/d2s_billing.go` that drives the life of an order.
-/

namespace Desktop2Stereo

open Relational GoText

/-! ## Quotes -/

structure D2SOrderQuote where
  product : Product
  licenseID : String
  provider : Provider
  region : Region
  currency : Currency
  amountMinor : ℤ
  revokeNumber : ℤ := 0
  deriving DecidableEq

def d2sProviderRegion : Provider → Option Region
  | .epay | .paymentfm | .alipay | .alipayPC | .wechat | .waffo => some .CN
  | .stripe | .creem | .waffoPancake => some .INTL
  | .balance => none

def d2sCurrencyForRegion (region : Region) : Currency := if region = .CN then .CNY else .USD

/-- A price of the configuration: a positive number. -/
def d2sConfiguredPrice (raw : String) : Tx ℤ :=
  attempt ((parseInt (trimSpace raw)).filter (0 < ·)) .priceNotConfigured

def d2sProductPrice (e : Env) (product : Product) (currency : Currency) (revokeNumber : ℤ) : Tx ℤ :=
  match product, currency with
  | .license, .CNY => pure 9900
  | .license, .USD => pure 2990
  | .paidRevoke, .CNY => attempt (if 1 ≤ revokeNumber ∧ revokeNumber ≤ 3 then
      [1990, 3490, 6990][(revokeNumber - 1).toNat]? else none) .paidRevokeLimit
  | .paidRevoke, .USD => attempt (if 1 ≤ revokeNumber ∧ revokeNumber ≤ 3 then
      [299, 499, 999][(revokeNumber - 1).toNat]? else none) .paidRevokeLimit
  | .offlineExtension, .CNY => d2sConfiguredPrice e.extensionPriceCNY
  | .offlineExtension, .USD => d2sConfiguredPrice e.extensionPriceUSD

/-- How many paid revokes a licence has used in a month. -/
def d2sUsedCount (licenseID : String) (month : Month) : Tx ℤ := do
  let quota ← lookup Tbl.quotas fun q => q.licenseID = licenseID ∧ q.periodMonth = month
  return (quota.map D2SPaidRevokeQuota.usedCount).getD 0

/-- What the product asks of the licence at quote time; returns the number of the paid revoke. -/
def quoteD2SProduct (userID : ℤ) (product : Product) (licenseID : String) (now : ℤ) : Tx ℤ :=
  match product with
  | .license => do
    require (licenseID = "") .orderInvalid
    return 0
  | .paidRevoke => do
    let license ← getD2SLicense userID licenseID
    require (license.usable now) .licenseUnavailable
    require (license.mode ≠ .permanent ∧ license.deviceHash ≠ "") .permanentLocked
    let revokeNumber := (← d2sUsedCount license.id (utcMonth now)) + 1
    require (revokeNumber ≤ 3) .paidRevokeLimit
    return revokeNumber
  | .offlineExtension => do
    let license ← getD2SLicense userID licenseID
    require (license.usable now ∧ license.mode ≠ .permanent) .licenseUnavailable
    return 0

/-- The region that a provider sells in; a balance payment stays in the account's region. -/
def quoteD2SRegion (profile : D2SUserProfile) (provider : Provider) : Tx Region :=
  match d2sProviderRegion provider with
  | none => attempt profile.region .regionMismatch
  | some region => do
    require (profile.region = none ∨ profile.region = some region) .regionMismatch
    return region

/-- `QuoteD2SOrder` after the profile is there. -/
def quoteD2SOrderTx (e : Env) (profile : D2SUserProfile) (userID : ℤ)
    (product licenseID provider : String) (now : ℤ) : Tx D2SOrderQuote := do
  let provider ← attempt (Provider.parse provider) .orderInvalid
  let region ← quoteD2SRegion profile provider
  let product ← attempt (Product.ofName product) .orderInvalid
  let revokeNumber ← quoteD2SProduct userID product licenseID now
  let currency := d2sCurrencyForRegion region
  let amountMinor ← d2sProductPrice e product currency revokeNumber
  return { product, licenseID, provider, region, currency, amountMinor, revokeNumber }

def quoteD2SOrder (e : Env) (userID : ℤ) (product licenseID provider : String) (now : ℤ) :
    Call D2SOrderQuote := do
  let now := e.resolve now
  let profile ← Prog.atomic (ensureD2SProfileAndTrial e userID now)
  Prog.atomic (quoteD2SOrderTx e profile userID product licenseID provider now)

/-! ## Fulfilment -/

def d2sPaidLicense (e : Env) (order : D2SOrder) (now : ℤ) : D2SLicense :=
  { id := e.licenseID.val, licenseCode := newD2SLicenseCode e.codeSecret, userID := order.userID
    product := d2sProductDesktop2Stereo, kind := .paid, status := .active, mode := .unbound
    offlinePeriodDays := 7, sourceOrderID := order.id, createdAt := now, updatedAt := now }

def fulfillLicense (e : Env) (order : D2SOrder) (now : ℤ) : Tx D2SOrder := do
  let license := d2sPaidLicense e order now
  create Tbl.licenses license
  create Tbl.licenseEvents
    { id := e.licenseEventID.val, licenseID := license.id, userID := order.userID
      eventType := .licensePurchased, orderID := order.id, createdAt := now }
  updates Tbl.orders (·.id = order.id) fun o => { o with licenseID := license.id }
  let order := { order with licenseID := license.id }
  awardD2SInviteTx e order now
  return order

def fulfillPaidRevoke (e : Env) (order : D2SOrder) (now : ℤ) : Tx D2SOrder := do
  let license ← getD2SLicense order.userID order.licenseID
  require (license.mode ≠ .permanent) .permanentLocked
  let periodMonth := utcMonth now
  let usedCount ← d2sUsedCount license.id periodMonth
  require (usedCount + 1 = order.revokeNumber ∧ order.revokeNumber ≤ 3) .paidRevokeLimit
  let quota : D2SPaidRevokeQuota :=
    { licenseID := license.id, periodMonth, usedCount := order.revokeNumber, updatedAt := now }
  upsert Tbl.quotas (fun q => q.licenseID = license.id ∧ q.periodMonth = periodMonth) (fun _ => quota) quota
  delete Tbl.bindings (·.licenseID = license.id)
  delete Tbl.leases (·.licenseID = license.id)
  updates Tbl.licenses (·.id = license.id) (·.unbound now) (D2SLicense.keys_unbound now)
  create Tbl.licenseEvents
    { id := e.licenseEventID.val, licenseID := license.id, userID := order.userID, eventType := .paidRevoke
      deviceHash := license.deviceHash, orderID := order.id, createdAt := now }
  return order

/-- The offline deadline after a paid extension: 30 days on, within the licence's own life. -/
def D2SLicense.extended (l : D2SLicense) (now : ℤ) : D2SLicense :=
  let next := max l.offlineValidUntil now + 30 * day
  { l with
    offlineValidUntil := if 0 < l.expiresAt ∧ l.expiresAt < next then l.expiresAt else next
    updatedAt := now }

def fulfillOfflineExtension (e : Env) (order : D2SOrder) (now : ℤ) : Tx D2SOrder := do
  let license ← getD2SLicense order.userID order.licenseID
  updates Tbl.licenses (·.id = license.id) (·.extended now)
  create Tbl.licenseEvents
    { id := e.licenseEventID.val, licenseID := license.id, userID := order.userID
      eventType := .offlineExtensionPaid, orderID := order.id, createdAt := now }
  return order

def deliverD2SOrder (e : Env) (order : D2SOrder) (now : ℤ) : Tx D2SOrder :=
  match order.product with
  | .license => fulfillLicense e order now
  | .paidRevoke => fulfillPaidRevoke e order now
  | .offlineExtension => fulfillOfflineExtension e order now

def fulfillD2SOrderTx (e : Env) (order : D2SOrder) (now : ℤ) : Tx D2SOrder := do
  let order ← deliverD2SOrder e order now
  assign Tbl.orders (fun o => o.id = order.id ∧ o.status = .pending) fun o =>
    { o with status := .paid, completedAt := now, pendingKey := none }
  return { order with status := .paid, completedAt := now }

/-! ## Creation -/

def D2SOrder.placedFor (o : D2SOrder) (quote : D2SOrderQuote) (balanceMinor : ℤ) : Prop :=
  o.product = quote.product ∧ o.licenseID = quote.licenseID ∧ o.provider = quote.provider ∧
    o.region = quote.region ∧ o.currency = quote.currency ∧ o.amountMinor = quote.amountMinor ∧
    o.balanceMinor = balanceMinor ∧ o.revokeNumber = quote.revokeNumber

instance (o : D2SOrder) (quote : D2SOrderQuote) (balanceMinor : ℤ) :
    Decidable (o.placedFor quote balanceMinor) := by
  unfold D2SOrder.placedFor; infer_instance

/-- The share of the balance that an order may use: all of it with the provider `balance`, none
with `alipay_pc`, less than all with any other. -/
def D2SOrderQuote.admits (quote : D2SOrderQuote) (balanceMinor : ℤ) : Prop :=
  (0 ≤ balanceMinor ∧ balanceMinor ≤ quote.amountMinor) ∧
    (quote.provider = .balance → balanceMinor = quote.amountMinor) ∧
    (quote.provider = .alipayPC → balanceMinor = 0) ∧
    (quote.provider ≠ .balance → balanceMinor ≠ quote.amountMinor)

instance (quote : D2SOrderQuote) (balanceMinor : ℤ) : Decidable (quote.admits balanceMinor) := by
  unfold D2SOrderQuote.admits; infer_instance

/-- An order whose checks have passed and whose transaction has not run yet. -/
structure PreparedOrder where
  userID : ℤ
  quote : D2SOrderQuote
  balanceMinor : ℤ
  idempotencyKey : String
  email : String
  sourceIP : String
  now : ℤ
  purchaseAudit : Option D2SActionLogInput
  admitted : quote.admits balanceMinor
  now_pos : 0 < now

def PreparedOrder.order (p : PreparedOrder) (id : Uuid) : D2SOrder :=
  { id := id.val, userID := p.userID, emailSnapshot := truncateD2SText (normalizeEmail p.email) 254
    product := p.quote.product, productID := p.quote.product, licenseID := p.quote.licenseID
    provider := p.quote.provider, paymentMethod := p.quote.provider
    sourceIP := truncateD2SText (trimSpace p.sourceIP) 64
    region := p.quote.region, currency := p.quote.currency, amountMinor := p.quote.amountMinor
    balanceMinor := p.balanceMinor, gatewayMinor := p.quote.amountMinor - p.balanceMinor
    revokeNumber := p.quote.revokeNumber, status := .pending, resultStatus := .success
    idempotencyKey := p.idempotencyKey
    purchaseTime := p.now, createdAt := p.now, expiresAt := p.now + 1800 }

def auditPurchase [Digest] (e : Env) (purchaseAudit : Option D2SActionLogInput) : Tx Unit :=
  match purchaseAudit with
  | none => pure ()
  | some input => recordD2SUserAction e input

def getD2SOrderByIdempotencyKey (userID : ℤ) (idempotencyKey : String) : Tx (Option D2SOrder) := do
  let idempotencyKey := trimSpace idempotencyKey
  require (idempotencyKey ≠ "" ∧ byteLen idempotencyKey ≤ 128) .orderInvalid
  lookup Tbl.orders fun o => o.userID = userID ∧ o.idempotencyKey = idempotencyKey

/-- A repeated request: the earlier order under its key is returned if it was placed for it. -/
def repeatD2SOrder [Digest] (e : Env) (existing : D2SOrder) (quote : D2SOrderQuote) (balanceMinor : ℤ)
    (purchaseAudit : Option D2SActionLogInput) : Tx D2SOrder := do
  require (existing.placedFor quote balanceMinor) .orderInvalid
  auditPurchase e purchaseAudit
  return existing

/-- `CreateD2SOrderWithMetadataAndAudit` up to its transaction: an earlier order under the same
key is returned, a new one is checked against a fresh quote. -/
def prepareD2SOrder [Digest] (e : Env) (userID : ℤ) (quote : D2SOrderQuote) (balanceMinor : ℤ)
    (idempotencyKey email sourceIP : String) (now : ℤ) (purchaseAudit : Option D2SActionLogInput) :
    Call (D2SOrder ⊕ PreparedOrder) := do
  match ← Prog.atomic (getD2SOrderByIdempotencyKey userID idempotencyKey) with
  | some existing => return .inl (← Prog.atomic (repeatD2SOrder e existing quote balanceMinor purchaseAudit))
  | none => do
    let ⟨h⟩ ← Prog.atomic (verify (quote.admits balanceMinor) .orderInvalid)
    let verified ← quoteD2SOrder e userID quote.product.code quote.licenseID quote.provider.code (e.resolve now)
    Prog.atomic (require (verified = quote) .orderInvalid)
    return .inr { userID, quote, balanceMinor, idempotencyKey := trimSpace idempotencyKey, email, sourceIP
                  now := e.resolve now, purchaseAudit, admitted := h, now_pos := e.resolve_pos now }

/-- A paid revoke claims its licence: no other one may be pending. -/
def claimD2SPendingKey (order : D2SOrder) : Tx D2SOrder := do
  let _ ← getD2SLicense order.userID order.licenseID
  let pending ← count Tbl.orders fun o =>
    o.licenseID = order.licenseID ∧ o.product = .paidRevoke ∧ o.status = .pending ∧ o.id ≠ order.id
  require (pending = 0) .paidRevokePending
  assign Tbl.orders (fun o => o.id = order.id ∧ o.status = .pending) fun o =>
    { o with pendingKey := some order.licenseID }
  return { order with pendingKey := some order.licenseID }

def claimD2SOrder (order : D2SOrder) : Tx D2SOrder :=
  if order.product = .paidRevoke then claimD2SPendingKey order else pure order

/-- An order with nothing left to pay is fulfilled at once. -/
def closeD2SOrder (e : Env) (order : D2SOrder) (now : ℤ) : Tx D2SOrder :=
  if order.gatewayMinor = 0 then do
    let order ← fulfillD2SOrderTx e order now
    settleD2SReservedBalanceTx e order true now
    return order
  else pure order

/-- A new order: claim its licence, reserve its share of the balance, fulfil it if nothing is left
to pay. -/
def placeD2SOrder [Digest] (e : Env) (p : PreparedOrder) : Tx D2SOrder := do
  let order ← claimD2SOrder (p.order e.orderID)
  whenever (0 < p.balanceMinor) <|
    reserveD2SBalance e p.userID p.quote.currency p.balanceMinor .reserve p.idempotencyKey p.now
  let order ← closeD2SOrder e order p.now
  auditPurchase e p.purchaseAudit
  return order

/-- A balance payment stays in the region of the account. -/
def checkD2SBalanceRegion (p : PreparedOrder) : Tx Unit :=
  whenever (p.balanceMinor = p.quote.amountMinor) do
    let profile ← first Tbl.profiles (·.userID = p.userID) .recordNotFound
    require (profile.region = some p.quote.region) .regionMismatch

/-- The transaction of `CreateD2SOrderWithMetadataAndAudit`. -/
def commitD2SOrder [Digest] (e : Env) (p : PreparedOrder) : Tx D2SOrder := do
  checkD2SBalanceRegion p
  let sameKey (o : D2SOrder) : Bool := o.userID = p.userID ∧ o.idempotencyKey = p.idempotencyKey
  let created ← createIgnore Tbl.orders sameKey (p.order e.orderID)
  if created = true then placeD2SOrder e p
  else do
    let existing ← first Tbl.orders sameKey .recordNotFound
    repeatD2SOrder e existing p.quote p.balanceMinor p.purchaseAudit

/-- `CreateD2SOrderWithMetadataAndAudit` -/
def createD2SOrder [Digest] (e : Env) (userID : ℤ) (quote : D2SOrderQuote) (balanceMinor : ℤ)
    (idempotencyKey email sourceIP : String) (now : ℤ) (purchaseAudit : Option D2SActionLogInput) :
    Call D2SOrder := do
  match ← prepareD2SOrder e userID quote balanceMinor idempotencyKey email sourceIP now purchaseAudit with
  | .inl existing => return existing
  | .inr p => Prog.atomic (commitD2SOrder e p)

/-! ## Payment events -/

/-- A payment provider's verified notification: the arguments of `ProcessD2SPaymentEvent`. -/
structure PaymentNotice where
  provider : String
  eventID : String
  orderID : String
  eventType : String
  amountMinor : ℤ
  currency : String
  payloadHash : String
  now : ℤ
  paymentAccountIdentifierHash : Option String := none

/-- The payer's account hash in a notice: 32 bytes from a provider that reports one. -/
def payerHashAdmitted (provider : Provider) (accountHash : String) : Prop :=
  accountHash ≠ "" → (provider = .stripe ∨ provider = .creem ∨ provider = .waffo ∨ provider = .waffoPancake) ∧
    hexDecode accountHash = some 32

instance (provider : Provider) (accountHash : String) : Decidable (payerHashAdmitted provider accountHash) := by
  unfold payerHashAdmitted; infer_instance

/-- The order with the payer's account hash, if the event is the first to report one. -/
def D2SOrder.withPayer (o : D2SOrder) (eventType : EventType) (accountHash : String) : D2SOrder :=
  if eventType = .paid ∧ accountHash ≠ "" ∧ o.paymentAccountIdentifierHash = none then
    { o with paymentAccountIdentifierHash := some accountHash } else o

def recordPayer (order : D2SOrder) (eventType : EventType) (accountHash : String) : Tx Unit :=
  whenever (eventType = .paid ∧ accountHash ≠ "" ∧ order.paymentAccountIdentifierHash = none) <|
    updates Tbl.orders (·.id = order.id) fun o => { o with paymentAccountIdentifierHash := some accountHash }

/-- The columns of a profile that a change of its region writes. -/
def D2SUserProfile.moved (p : D2SUserProfile) (region : Region) (now : ℤ) : D2SUserProfile :=
  { p with region := some region, regionLockedAt := now, updatedAt := now }

def lockD2SRegion (order : D2SOrder) (now : ℤ) : Tx Unit := do
  let profile ← first Tbl.profiles (·.userID = order.userID) .recordNotFound
  require (profile.region = none ∨ profile.region = some order.region) .regionMismatch
  whenever (profile.region = none) <|
    updates Tbl.profiles (fun p => p.userID = order.userID ∧ p.region = none) (·.moved order.region now)

def applyPaid (e : Env) (order : D2SOrder) (now : ℤ) : Tx D2SOrder := do
  require (order.status = .pending ∧ (now < order.expiresAt ∨ order.provider = .alipayPC)) .orderState
  lockD2SRegion order now
  let order ← fulfillD2SOrderTx e order now
  settleD2SReservedBalanceTx e order true now
  return order

def cancelD2SOrder (e : Env) (order : D2SOrder) (now : ℤ) : Tx D2SOrder := do
  assign Tbl.orders (·.id = order.id) fun o => { o with status := .canceled, pendingKey := none }
  let order := { order with status := .canceled }
  settleD2SReservedBalanceTx e order false now
  return order

def applyCanceled (e : Env) (order : D2SOrder) (now : ℤ) : Tx D2SOrder :=
  if order.status = .canceled then pure order
  else do
    require (order.status = .pending) .orderState
    cancelD2SOrder e order now

/-- Suspend the licence of a refunded order. -/
def suspendD2SLicense (licenseID : String) (now : ℤ) : Tx Unit :=
  whenever (licenseID ≠ "") <|
    updates Tbl.licenses (·.id = licenseID) fun l => { l with status := .suspended, updatedAt := now }

def applyChargeback (e : Env) (order : D2SOrder) (now : ℤ) : Tx D2SOrder :=
  if order.status = .chargeback then pure order
  else do
    require (order.status = .paid) .orderState
    let paidEvents ← count Tbl.paymentEvents fun v =>
      v.provider = order.provider ∧ v.orderID = order.id ∧ v.eventType = .paid
    require (paidEvents ≠ 0) .orderState
    suspendD2SLicense order.licenseID now
    reverseD2SInviteRewardTx e order now
    updates Tbl.orders (·.id = order.id) fun o => { o with status := .chargeback }
    return { order with status := .chargeback }

def applyD2SEvent (e : Env) (eventType : EventType) (order : D2SOrder) (now : ℤ) : Tx D2SOrder :=
  match eventType with
  | .paid => applyPaid e order now
  | .canceled | .failed => applyCanceled e order now
  | .chargeback | .reversed => applyChargeback e order now
  | .other _ => throw .orderInvalid

/-- A payment event that was stored now: check it against its order and apply it. -/
def acceptD2SPaymentEvent (e : Env) (event : D2SPaymentEvent) (region : Region) (accountHash : String) :
    Tx D2SOrder := do
  let order ← first Tbl.orders (·.id = event.orderID) .orderNotFound
  require (order.provider = event.provider ∧ order.currency.code = event.currency ∧
    order.gatewayMinor = event.amountMinor) .paymentMismatch
  require (order.region = region) .regionMismatch
  recordPayer order event.eventType accountHash
  applyD2SEvent e event.eventType (order.withPayer event.eventType accountHash) event.processedAt

/-- The same notification in everything but the draws and the time of its processing. -/
def D2SPaymentEvent.sameAs (v w : D2SPaymentEvent) : Prop :=
  v.orderID = w.orderID ∧ v.eventType = w.eventType ∧ v.amountMinor = w.amountMinor ∧
    v.currency = w.currency ∧ v.payloadHash = w.payloadHash

instance (v w : D2SPaymentEvent) : Decidable (v.sameAs w) := by
  unfold D2SPaymentEvent.sameAs; infer_instance

/-- A payment event that is already stored: return its order if the notification is the same. -/
def repeatD2SPaymentEvent (event : D2SPaymentEvent) : Tx D2SOrder := do
  let existing ← first Tbl.paymentEvents
    (fun v => v.provider = event.provider ∧ v.providerEventID = event.providerEventID) .recordNotFound
  require (existing.sameAs event) .paymentMismatch
  first Tbl.orders (·.id = existing.orderID) .recordNotFound

def PaymentNotice.event (n : PaymentNotice) (e : Env) (provider : Provider) : D2SPaymentEvent :=
  { id := e.paymentEventID.val, provider, providerEventID := n.eventID, orderID := n.orderID
    eventType := EventType.parse n.eventType, amountMinor := n.amountMinor, currency := toUpper n.currency
    payloadHash := n.payloadHash, processedAt := e.resolve n.now }

def processD2SPaymentEvent (e : Env) (n : PaymentNotice) : Tx D2SOrder := do
  let provider ← attempt (Provider.parse n.provider) .orderInvalid
  let region ← attempt (d2sProviderRegion provider) .orderInvalid
  require (trimSpace n.eventID ≠ "" ∧ trimSpace n.orderID ≠ "") .orderInvalid
  let accountHash := toLower (trimSpace (n.paymentAccountIdentifierHash.getD ""))
  require (payerHashAdmitted provider accountHash) .orderInvalid
  let event := n.event e provider
  let created ← createIgnore Tbl.paymentEvents
    (fun v => v.provider = event.provider ∧ v.providerEventID = event.providerEventID) event
  if created = true then acceptD2SPaymentEvent e event region accountHash else repeatD2SPaymentEvent event

/-! ## Expiry and refunds -/

/-- One transaction of `ExpireD2SPendingOrders`: cancel the order if it is still pending and past
its deadline. -/
def expireD2SOrder (e : Env) (orderID : String) (now : ℤ) : Tx Unit := do
  match ← lookup Tbl.orders (·.id = orderID) with
  | none => pure ()
  | some order =>
    whenever (order.status = .pending ∧ order.expiresAt ≤ now ∧ order.provider ≠ .alipayPC) do
      let _ ← cancelD2SOrder e order now

def expiredD2SOrderIDs (db : DB) (now : ℤ) : List String :=
  (db.orders.rows.filter fun o =>
    o.status = .pending ∧ o.expiresAt ≤ now ∧ o.provider ≠ .alipayPC).map D2SOrder.id

/-- Cancel the orders one transaction after another. -/
def expireD2SOrders (now : ℤ) : List (Env × String) → Call Unit
  | [] => pure ()
  | (e, orderID) :: rest => do
    Prog.atomic (expireD2SOrder e orderID now)
    expireD2SOrders now rest

/-- `ExpireD2SPendingOrders`; `draws` gives each transaction its own draws. -/
def expireD2SPendingOrders (e : Env) (draws : String → Env) (now : ℤ) : Call Unit := do
  let now := e.resolve now
  let orderIDs ← Prog.atomic do return expiredD2SOrderIDs (← get) now
  expireD2SOrders now (orderIDs.map fun id => (draws id, id))

def createD2SAlipayRefund (refund : D2SAlipayRefund) : Tx Unit := do
  require (refund.orderID ≠ "" ∧ refund.outRequestNo ≠ "" ∧ 0 < refund.amountMinor ∧ 0 < refund.operatorID)
    .orderInvalid
  let order ← first Tbl.orders (fun o => o.id = refund.orderID ∧ o.provider = .alipayPC) .orderNotFound
  let pendingRefundMinor ← total Tbl.refunds (fun r => r.orderID = order.id ∧ r.status = .pending)
    D2SAlipayRefund.amountMinor
  require (order.status = .paid ∧
    refund.amountMinor ≤ order.gatewayMinor - order.refundedMinor - pendingRefundMinor) .orderState
  create Tbl.refunds refund

/-- A fully refunded order is charged back. -/
def refundD2SOrder (e : Env) (order : D2SOrder) (refunded now : ℤ) : Tx Unit :=
  if refunded = order.gatewayMinor then do
    suspendD2SLicense order.licenseID now
    reverseD2SInviteRewardTx e order now
    updates Tbl.orders (·.id = order.id) fun o => { o with refundedMinor := refunded, status := .chargeback }
  else updates Tbl.orders (·.id = order.id) fun o => { o with refundedMinor := refunded }

def completeD2SAlipayRefund (e : Env) (outRequestNo providerTradeNo : String) (now : ℤ) : Tx Unit := do
  let now := e.resolve now
  let refund ← first Tbl.refunds (·.outRequestNo = outRequestNo) .recordNotFound
  whenever (refund.status ≠ .completed) do
    let order ← first Tbl.orders (·.id = refund.orderID) .recordNotFound
    require (order.provider = .alipayPC ∧ order.status = .paid ∧
      refund.amountMinor ≤ order.gatewayMinor - order.refundedMinor) .orderState
    refundD2SOrder e order (order.refundedMinor + refund.amountMinor) now
    updates Tbl.refunds (·.id = refund.id) fun r =>
      { r with status := .completed, providerTrade := providerTradeNo, updatedAt := now }

/-! ## Reviews by administrators -/

/-- The columns of a licence that an approved manual unbind writes. -/
def D2SLicense.released (l : D2SLicense) (now : ℤ) : D2SLicense :=
  { l with deviceHash := "", fingerprintVersion := 0, mode := .unbound, permanentBoundAt := 0, updatedAt := now }

/-- Approve a manual unbind: once in a lifetime, of a permanent licence. -/
def approveD2SManualUnbind (e : Env) (request : D2SManualUnbindRequest) (now : ℤ) : Tx Unit := do
  let _ ← first Tbl.profiles (·.userID = request.userID) .recordNotFound
  let approved ← count Tbl.unbinds fun r => r.userID = request.userID ∧ r.status = .approved
  require (approved = 0) .lifetimeUnbindUsed
  let license ← getD2SLicense request.userID request.licenseID
  require (license.mode = .permanent) .permanentLocked
  delete Tbl.bindings (·.licenseID = license.id)
  updates Tbl.licenses (·.id = license.id) (·.released now)
  create Tbl.licenseEvents
    { id := e.licenseEventID.val, licenseID := license.id, userID := request.userID
      eventType := .manualUnbindApproved, deviceHash := license.deviceHash, createdAt := now }

def D2SManualUnbindRequest.reviewed (r : D2SManualUnbindRequest) (status : UnbindStatus) (adminID : ℤ)
    (note : String) (now : ℤ) : D2SManualUnbindRequest :=
  { r with status, reviewedBy := adminID, reviewNote := note, updatedAt := now }

/-- `ReviewD2SManualUnbindWithAudit`; the time is the caller's, as it is. -/
def reviewD2SManualUnbind (e : Env) (adminID : ℤ) (requestID status note : String) (now : ℤ)
    (audit : Option D2SAdminOperationAudit) : Tx D2SManualUnbindRequest := do
  let status ← attempt (UnbindStatus.ofReview status) .orderInvalid
  require (auditMatches adminID audit) .adminInvalid
  let request ← first Tbl.unbinds (·.id = requestID) .recordNotFound
  require (request.status = .pending) .orderState
  whenever (status = .approved) (approveD2SManualUnbind e request now)
  updates Tbl.unbinds (·.id = request.id) (·.reviewed status adminID note now)
  auditD2SReview e audit now
  return request.reviewed status adminID note now

/-- `SetD2SUserRegionWithAudit`: only for an account without money, pending orders or pending
withdrawals; the time is the caller's, as it is. -/
def setD2SUserRegion (e : Env) (adminID userID : ℤ) (region : String) (now : ℤ)
    (audit : Option D2SAdminOperationAudit) : Tx D2SUserProfile := do
  let region ← attempt (Region.ofName (toUpper (trimSpace region))) .regionMismatch
  require (auditMatches adminID audit) .adminInvalid
  let profile ← first Tbl.profiles (·.userID = userID) .recordNotFound
  let funded ← count Tbl.accounts fun a =>
    a.userID = userID ∧ (a.availableMinor ≠ 0 ∨ a.reservedMinor ≠ 0)
  require (funded = 0) .regionMismatch
  let pendingOrders ← count Tbl.orders fun o => o.userID = userID ∧ o.status = .pending
  require (pendingOrders = 0) .regionMismatch
  let pendingWithdrawals ← count Tbl.withdrawals fun w => w.userID = userID ∧ w.status = .pending
  require (pendingWithdrawals = 0) .regionMismatch
  updates Tbl.profiles (·.userID = userID) (·.moved region now)
  auditD2SReview e audit now
  return profile.moved region now

end Desktop2Stereo
