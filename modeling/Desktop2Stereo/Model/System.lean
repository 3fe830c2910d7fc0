import Desktop2Stereo.Lib.Runs
import Desktop2Stereo.Model.Signing

/-!
# Desktop2Stereo: the system

The calls of all users, administrators, payment providers and timers, in any order. Each
transaction is atomic; a call that runs several of them may be interrupted between any two, so
the prepared orders and withdrawals that wait for their transaction are part of the state.
-/

namespace Desktop2Stereo

open Relational GoText

/-! ## Transactions -/

/-- The calls that are one transaction. -/
inductive Request
  /-- the account system stores a user -/
  | setUser (user : User)
  | setPurchasesEnabled (enabled : Bool)
  | setUserSecurityControl (control : D2SUserSecurityControl)
  | ensureProfileAndTrial (e : Env) (userID now : ℤ)
  | bind (e : Env) (userID : ℤ) (licenseID deviceHash : String) (fingerprintVersion now : ℤ)
  | changeMode (e : Env) (userID : ℤ) (licenseID deviceHash nextMode confirmation : String) (offlineDays now : ℤ)
  | freeRevoke (e : Env) (userID : ℤ) (licenseID deviceHash : String) (now : ℤ)
  | startOrRenewLease (e : Env) (userID : ℤ) (licenseID deviceHash rawLeaseToken : String) (now : ℤ)
  | releaseLease (userID : ℤ) (licenseID rawLeaseToken : String)
  | releaseAllLeases (userID : ℤ)
  | deleteExpired (e : Env) (now : ℤ)
  | issueOffline (e : Env) (c : Crypto) (userID : ℤ) (licenseID deviceHash devicePublicKey : String)
      (requestedDays now : ℤ)
  | coreGrant (e : Env) (c : Crypto) (userID : ℤ) (licenseID deviceHash devicePublicKey coreID : String)
      (coreVersion now : ℤ)
  | createManualUnbind (e : Env) (userID : ℤ) (licenseID reason proofRef : String) (now : ℤ)
  | reviewManualUnbind (e : Env) (adminID : ℤ) (requestID status note : String) (now : ℤ)
      (audit : Option D2SAdminOperationAudit)
  | paymentEvent (e : Env) (notice : PaymentNotice)
  /-- one transaction of the expiry sweep -/
  | expireOrder (e : Env) (orderID : String) (now : ℤ)
  | createRefund (refund : D2SAlipayRefund)
  | completeRefund (e : Env) (outRequestNo providerTradeNo : String) (now : ℤ)
  | reviewWithdrawal (e : Env) (adminID : ℤ) (requestID status note : String) (now : ℤ)
      (audit : Option D2SAdminOperationAudit)
  | setUserRegion (e : Env) (adminID userID : ℤ) (region : String) (now : ℤ)
      (audit : Option D2SAdminOperationAudit)

def storeUser (user : User) : Tx Unit := upsert Tbl.users (·.id = user.id) (fun _ => user) user

def d2sPurchasesEnabledOption : String := "D2SPurchasesEnabled"

def setD2SPurchasesEnabled (enabled : Bool) : Tx Unit :=
  let option : OptionRow := { key := d2sPurchasesEnabledOption, value := if enabled then "true" else "false" }
  upsert Tbl.options (·.key = option.key) (fun _ => option) option

def setD2SUserSecurityControl (control : D2SUserSecurityControl) : Tx Unit := do
  require (0 < control.userID) .adminInvalid
  upsert Tbl.controls (·.userID = control.userID) (fun _ => control) control

/-- A transaction without its result. -/
def forget {α : Type} (t : Tx α) : Tx Unit := do
  let _ ← t
  return ()

def Request.tx [Digest] : Request → Tx Unit
  | .setUser user => storeUser user
  | .setPurchasesEnabled enabled => setD2SPurchasesEnabled enabled
  | .setUserSecurityControl control => setD2SUserSecurityControl control
  | .ensureProfileAndTrial e userID now => forget (ensureD2SProfileAndTrial e userID now)
  | .bind e userID licenseID deviceHash fingerprintVersion now =>
    forget (bindD2SLicense e userID licenseID deviceHash fingerprintVersion now)
  | .changeMode e userID licenseID deviceHash nextMode confirmation offlineDays now =>
    forget (changeD2SLicenseMode e userID licenseID deviceHash nextMode confirmation offlineDays now)
  | .freeRevoke e userID licenseID deviceHash now => forget (freeRevokeD2SLicense e userID licenseID deviceHash now)
  | .startOrRenewLease e userID licenseID deviceHash rawLeaseToken now =>
    forget (startOrRenewD2SOnlineLease e userID licenseID deviceHash rawLeaseToken now)
  | .releaseLease userID licenseID rawLeaseToken => releaseD2SOnlineLease userID licenseID rawLeaseToken
  | .releaseAllLeases userID => releaseAllD2SOnlineLeases userID
  | .deleteExpired e now => deleteExpiredD2SRuntimeArtifacts e now
  | .issueOffline e c userID licenseID deviceHash devicePublicKey requestedDays now =>
    forget (issueD2SOfflineEntitlement e c userID licenseID deviceHash devicePublicKey requestedDays now)
  | .coreGrant e c userID licenseID deviceHash devicePublicKey coreID coreVersion now =>
    forget (issueD2SCoreGrant e c userID licenseID deviceHash devicePublicKey coreID coreVersion now)
  | .createManualUnbind e userID licenseID reason proofRef now =>
    forget (createD2SManualUnbind e userID licenseID reason proofRef now)
  | .reviewManualUnbind e adminID requestID status note now audit =>
    forget (reviewD2SManualUnbind e adminID requestID status note now audit)
  | .paymentEvent e notice => forget (processD2SPaymentEvent e notice)
  | .expireOrder e orderID now => expireD2SOrder e orderID now
  | .createRefund refund => createD2SAlipayRefund refund
  | .completeRefund e outRequestNo providerTradeNo now =>
    completeD2SAlipayRefund e outRequestNo providerTradeNo now
  | .reviewWithdrawal e adminID requestID status note now audit =>
    forget (reviewD2SWithdrawal e adminID requestID status note now audit)
  | .setUserRegion e adminID userID region now audit => forget (setD2SUserRegion e adminID userID region now audit)

/-- The transactions of the system. -/
inductive Trans
  | request (r : Request)
  | auditPurchase (e : Env) (purchaseAudit : Option D2SActionLogInput)
  | commitOrder (e : Env) (p : PreparedOrder)
  | commitWithdrawal (e : Env) (p : PreparedWithdrawal)

def Trans.tx [Digest] : Trans → Tx Unit
  | .request r => r.tx
  | .auditPurchase e purchaseAudit => Desktop2Stereo.auditPurchase e purchaseAudit
  | .commitOrder e p => forget (commitD2SOrder e p)
  | .commitWithdrawal e p => forget (commitD2SWithdrawal e p)

/-! ## States and operations -/

structure State where
  db : DB
  preparedOrders : List PreparedOrder := []
  preparedWithdrawals : List PreparedWithdrawal := []

/-- The state of a deployment that no one has used: users, settings and security controls only. -/
def State.init (users : Table User) (options : Table OptionRow) (controls : Table D2SUserSecurityControl) :
    State :=
  { db := { users, options, controls } }

inductive Op
  | request (r : Request)
  /-- `CreateD2SOrderWithMetadataAndAudit` up to its transaction -/
  | prepareOrder (e : Env) (userID : ℤ) (quote : D2SOrderQuote) (balanceMinor : ℤ)
      (idempotencyKey email sourceIP : String) (now : ℤ) (purchaseAudit : Option D2SActionLogInput)
  /-- the transaction of the `i`-th prepared order -/
  | commitOrder (e : Env) (i : ℕ)
  /-- `CreateD2SWithdrawal` up to its transaction -/
  | prepareWithdrawal (e : Env) (userID amountMinor : ℤ) (alipayAccount realName : String) (now : ℤ)
  /-- the transaction of the `i`-th prepared withdrawal -/
  | commitWithdrawal (e : Env) (i : ℕ)

/-- An order that waits for its transaction, if the call has prepared one. -/
def preparedOrder : Except Err (D2SOrder ⊕ PreparedOrder) → List PreparedOrder
  | .ok (.inr p) => [p]
  | _ => []

/-- A withdrawal that waits for its transaction, if the call has prepared one. -/
def preparedWithdrawal : Except Err PreparedWithdrawal → List PreparedWithdrawal
  | .ok p => [p]
  | .error _ => []

/-- What an operation answers, and the state after it. -/
def perform [Digest] (s : State) : Op → Except Err Unit × State
  | .request r =>
    let out := (Prog.atomic r.tx).exec s.db
    (out.1, { s with db := out.2 })
  | .prepareOrder e userID quote balanceMinor idempotencyKey email sourceIP now purchaseAudit =>
    let out := Prog.exec
      (prepareD2SOrder e userID quote balanceMinor idempotencyKey email sourceIP now purchaseAudit) s.db
    (out.1.map fun _ => (), { s with db := out.2, preparedOrders := s.preparedOrders ++ preparedOrder out.1 })
  | .commitOrder e i =>
    match s.preparedOrders[i]? with
    | none => (.ok (), s)
    | some p =>
      let out := (Prog.atomic (forget (commitD2SOrder e p))).exec s.db
      (out.1, { s with db := out.2, preparedOrders := s.preparedOrders.eraseIdx i })
  | .prepareWithdrawal e userID amountMinor alipayAccount realName now =>
    let out := (prepareD2SWithdrawal e userID amountMinor alipayAccount realName now).exec s.db
    (out.1.map fun _ => (),
      { s with db := out.2, preparedWithdrawals := s.preparedWithdrawals ++ preparedWithdrawal out.1 })
  | .commitWithdrawal e i =>
    match s.preparedWithdrawals[i]? with
    | none => (.ok (), s)
    | some p =>
      let out := (Prog.atomic (forget (commitD2SWithdrawal e p))).exec s.db
      (out.1, { s with db := out.2, preparedWithdrawals := s.preparedWithdrawals.eraseIdx i })

def step [Digest] (s : State) (op : Op) : State := (perform s op).2

abbrev run [Digest] : State → List Op → State := Runs.run step

/-! ## Operations are transactions -/

def Op.runs (s : State) : Op → Trans → Prop
  | .request r, t => t = .request r
  | .prepareOrder e userID _ _ _ _ _ now purchaseAudit, t =>
    t = .auditPurchase e purchaseAudit ∨ t = .request (.ensureProfileAndTrial e userID (e.resolve now))
  | .commitOrder e i, t => ∃ p, s.preparedOrders[i]? = some p ∧ t = .commitOrder e p
  | .prepareWithdrawal e userID _ _ _ now, t => t = .request (.ensureProfileAndTrial e userID now)
  | .commitWithdrawal e i, t => ∃ p, s.preparedWithdrawals[i]? = some p ∧ t = .commitWithdrawal e p

theorem run_forget_ok {α : Type} {t : Tx α} {db db' : DB} {u : Unit} :
    (forget t).run db = .ok (u, db') ↔ ∃ a, t.run db = .ok (a, db') := by
  simp only [forget, run_bind_ok, run_pure_ok]
  constructor
  · rintro ⟨a, _, h, _, rfl⟩
    exact ⟨a, h⟩
  · rintro ⟨a, h⟩
    exact ⟨a, db', h, trivial, rfl⟩

/-! ## A sample deployment

One verified user, and environments whose draws are their own: what concrete runs start from. -/

def Uuid.sample (kind : String) (n : ℕ) : Uuid where
  val := kind ++ "-" ++ toString n
  nonempty h := by
    have hlen := congrArg String.length h
    simp at hlen

/-- 32 bytes in hexadecimal digits. -/
def sampleHex : String := String.ofList (List.replicate 64 'a')

def Env.sample (n : ℕ) : Env where
  wall := 1
  wall_pos := by decide
  orderID := .sample "order" n
  paymentEventID := .sample "payment" n
  licenseID := .sample "license" n
  licenseEventID := .sample "event" n
  boundEventID := .sample "bound" n
  accountID := .sample "account" n
  inviterAccountID := .sample "inviter" n
  settleAccountID := .sample "settle" n
  reserveTxID := .sample "reserve" n
  settleTxID := .sample "settled" n
  rewardID := .sample "reward" n
  rewardTxID := .sample "rewarded" n
  requestID := .sample "request" n
  entitlementID := .sample "entitlement" n
  auditID := .sample "audit" n
  codeSecret := toString n
  leaseSecret := (Uuid.sample "lease" n).val
  leaseSecret_nonempty := (Uuid.sample "lease" n).nonempty
  extensionPriceCNY := "100"
  extensionPriceUSD := "100"
  minWithdrawalMinor := 1
  minWithdrawal_nonneg := by decide
  purchasesEnabledDefault := true
  parallaxCoreSHA256 := sampleHex
  parallaxCoreKeyHex := sampleHex

def Crypto.sample : Crypto where
  signingKey := .ok ("key", "jwk")
  wrap _ := .ok ⟨"ephemeral", "nonce", "wrapped"⟩
  signOffline claims := .ok claims.entitlementID
  signGrant grant := .ok grant.grantID

@[reducible] def Digest.plain : Digest := ⟨id⟩

def State.sample : State :=
  .init ⟨[{ id := 1, email := "user@d2s", emailVerifiedAt := 1, inviterId := 0 }], List.pairwise_singleton _ _⟩
    .empty .empty

def D2SOrderQuote.sample (product : Product) (licenseID : String) (amountMinor revokeNumber : ℤ) : D2SOrderQuote :=
  { product, licenseID, provider := .stripe, region := .INTL, currency := .USD, amountMinor, revokeNumber }

def PaymentNotice.sample (n : ℕ) (amountMinor now : ℤ) : PaymentNotice :=
  { provider := "stripe", eventID := (Uuid.sample "notice" n).val, orderID := (Uuid.sample "order" n).val
    eventType := "paid", amountMinor, currency := "USD", payloadHash := "", now }

/-- The user orders and pays. -/
def sampleOrder (n : ℕ) (quote : D2SOrderQuote) (now : ℤ) : List Op :=
  [.prepareOrder (.sample n) 1 quote 0 (Uuid.sample "key" n).val "" "" now none, .commitOrder (.sample n) 0,
    .request (.paymentEvent (.sample n) (.sample n quote.amountMinor now))]

/-- A user visits and buys a licence with Alipay. -/
def sampleAlipay (n : ℕ) (userID : ℤ) : List Op :=
  let quote : D2SOrderQuote :=
    { product := .license, licenseID := "", provider := .alipayPC, region := .CN, currency := .CNY, amountMinor := 9900 }
  [.request (.ensureProfileAndTrial (.sample (10 * n)) userID 1000),
    .prepareOrder (.sample n) userID quote 0 (Uuid.sample "key" n).val "" "" 1000 none, .commitOrder (.sample n) 0,
    .request (.paymentEvent (.sample n)
      { PaymentNotice.sample n 9900 1000 with provider := "alipay_pc", currency := "CNY" })]

end Desktop2Stereo
