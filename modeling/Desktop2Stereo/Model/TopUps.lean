import Desktop2Stereo.Model.Wallet

/-!
# Desktop2Stereo: top-up orders and redemption codes

An order is completed by the callback of its payment provider or by an administrator, and a code is redeemed by a
user. Each is one transaction on locked rows: it changes the status and credits the wallet, or it does nothing. The
caches and logs that are written afterwards are left out, and so is `stripe_customer`, which no operation reads.
-/

namespace Desktop2Stereo

open Relational

/-! ## Rows -/

/-- `common.QuotaPerUnit` -/
class TopUpSettings where
  quotaPerUnit : ℚ

inductive TopUpStatus
  | pending | success | failed | expired
  deriving DecidableEq

inductive TopUpProvider
  | epay | stripe | creem | waffo | waffoPancake | balance
  deriving DecidableEq

/-- `top_ups`; an empty payment provider is `none`. -/
structure TopUp where
  id : ℤ
  userId : ℤ
  amount : ℤ
  money : ℚ
  tradeNo : String
  paymentMethod : String := ""
  paymentProvider : Option TopUpProvider := none
  completeTime : ℤ := 0
  status : TopUpStatus := .pending
  deriving DecidableEq

/-- The trade number is unique, too; orders are looked up by it. -/
instance : Indexed TopUp String := .ofKeys TopUp.tradeNo TopUp.id

inductive RedemptionStatus
  | enabled | disabled | used
  deriving DecidableEq

structure Redemption where
  id : ℤ
  key : String
  status : RedemptionStatus := .enabled
  quota : ℤ := 100
  redeemedTime : ℤ := 0
  usedUserId : ℤ := 0
  expiredTime : ℤ := 0
  deriving DecidableEq

instance : Indexed Redemption String := .ofKeys Redemption.key Redemption.id

inductive CreditSource
  | topUp (tradeNo : String)
  | redemption (key : String)
  deriving DecidableEq

structure Credit where
  source : CreditSource
  userId : ℤ
  quota : ℤ
  deriving DecidableEq

/-- The tables, with the credits that have been committed as a history that no operation reads. -/
structure TopUpDB where
  clock : ℤ
  users : Table User
  topUps : Table TopUp
  redemptions : Table Redemption
  credits : List Credit := []

namespace TopUpDB

def usersRef : TableRef TopUpDB User := ⟨users, fun db t => { db with users := t }⟩
def topUpsRef : TableRef TopUpDB TopUp := ⟨topUps, fun db t => { db with topUps := t }⟩
def redemptionsRef : TableRef TopUpDB Redemption := ⟨redemptions, fun db t => { db with redemptions := t }⟩

end TopUpDB

inductive TopUpErr
  | noTradeNo | noOrderNo | topUpNotFound | orderMissing | paymentMethodMismatch | topUpStatusInvalid
  | orderStatus | notPending | invalidTopUpQuota | topUpQuotaLimitExceeded | recordNotFound
  | noKey | invalidUserId | invalidCode | codeUsed | codeExpired
  deriving DecidableEq

def TopUpErr.text : TopUpErr → String
  | .noTradeNo => "未提供支付单号"
  | .noOrderNo => "未提供订单号"
  | .topUpNotFound => "topup not found"
  | .orderMissing => "充值订单不存在"
  | .paymentMethodMismatch => "payment method mismatch"
  | .topUpStatusInvalid => "topup status invalid"
  | .orderStatus => "充值订单状态错误"
  | .notPending => "订单状态不是待支付，无法补单"
  | .invalidTopUpQuota => "invalid top-up quota"
  | .topUpQuotaLimitExceeded => "top-up quota limit exceeded"
  | .recordNotFound => "record not found"
  | .noKey => "未提供兑换码"
  | .invalidUserId => "无效的 user id"
  | .invalidCode => "无效的兑换码"
  | .codeUsed => "该兑换码已被使用"
  | .codeExpired => "该兑换码已过期"

/-! ## Quotas -/

/-- `Round(0)`, half away from zero. -/
def roundDecimal (d : ℚ) : ℤ := if 0 ≤ d then (d + 1 / 2).floor else (d - 1 / 2).ceil

/-- `WalletQuotaFromDecimalStrict`: integers beyond the bounds stay beyond them as a `float64`. -/
def walletQuotaFromDecimalStrict (d : ℚ) : Option ℤ :=
  if maxWalletQuota < roundDecimal d ∨ roundDecimal d < -maxWalletQuota then none else some (roundDecimal d)

def topUpQuotaMaxCurrent (creditedQuota : ℤ) : Except TopUpErr ℤ :=
  if creditedQuota ≤ 0 ∨ maxWalletQuota < creditedQuota then .error .invalidTopUpQuota
  else .ok (maxWalletQuota - creditedQuota)

theorem keys_credited (touch : User → User) (creditedQuota : ℤ) (u : User) :
    Indexed.keys { touch u with id := u.id, quota := u.quota + creditedQuota } = Indexed.keys u := rfl

/-- `creditTopUpQuota`, with the other columns that are updated and the history. -/
def creditTopUpQuota (source : CreditSource) (userId creditedQuota : ℤ) (touch : User → User) :
    Txn TopUpDB TopUpErr Unit := do
  let maxCurrentQuota ← lifted (topUpQuotaMaxCurrent creditedQuota)
  match ← lookup TopUpDB.usersRef (·.id = userId) with
  | none => throw .recordNotFound
  | some user =>
    require (user.quota ≤ maxCurrentQuota) .topUpQuotaLimitExceeded
    updates TopUpDB.usersRef (·.id = userId) (fun u => { touch u with id := u.id, quota := u.quota + creditedQuota })
      (keys_credited touch creditedQuota)
    modify fun db => { db with credits := db.credits ++ [⟨source, userId, creditedQuota⟩] }

/-! ## Orders -/

/-- `tx.Save` of an order that was read from its locked row. -/
def saveTopUp (topUp : TopUp) : Txn TopUpDB TopUpErr Unit :=
  updates TopUpDB.topUpsRef (·.tradeNo = topUp.tradeNo) fun r => { topUp with tradeNo := r.tradeNo, id := r.id }

/-- What the ways to complete an order differ in: the provider that is checked, the errors for an order that is not
there or not pending, whether a second call is accepted, and the quota. -/
structure Completion where
  provider : Option TopUpProvider
  missing : TopUpErr
  invalid : TopUpErr
  idempotent : Bool
  quota : TopUp → Option ℤ

/-- The transaction that completes an order, with the quota that was credited. -/
def completeTopUp (c : Completion) (tradeNo actualPaymentMethod : String) (touch : User → User) :
    Txn TopUpDB TopUpErr (Option ℤ) := do
  let topUp ← first TopUpDB.topUpsRef (·.tradeNo = tradeNo) c.missing
  require (∀ p ∈ c.provider, topUp.paymentProvider = some p) .paymentMethodMismatch
  if c.idempotent = true ∧ topUp.status = .success then pure none
  else
    require (topUp.status = .pending) c.invalid
    let quota ← attempt (c.quota topUp) .invalidTopUpQuota
    require (0 < quota) .invalidTopUpQuota
    let db ← get
    saveTopUp { topUp with
      paymentMethod := if actualPaymentMethod ≠ "" then actualPaymentMethod else topUp.paymentMethod
      completeTime := db.clock, status := .success }
    creditTopUpQuota (.topUp tradeNo) topUp.userId quota touch
    pure (some quota)

section Orders

variable [TopUpSettings]

/-- `Amount` units. -/
def TopUp.amountQuota (topUp : TopUp) : Option ℤ :=
  walletQuotaFromDecimalStrict (topUp.amount * TopUpSettings.quotaPerUnit)

/-- `Money` units. -/
def TopUp.moneyQuota (topUp : TopUp) : Option ℤ :=
  walletQuotaFromDecimalStrict (topUp.money * TopUpSettings.quotaPerUnit)

def rechargeEpay (tradeNo actualPaymentMethod : String) : Txn TopUpDB TopUpErr (Option ℤ) := do
  require (tradeNo ≠ "") .noTradeNo
  completeTopUp ⟨some .epay, .topUpNotFound, .topUpStatusInvalid, true, TopUp.amountQuota⟩ tradeNo actualPaymentMethod id

/-- `Recharge`, of Stripe. -/
def recharge (referenceId : String) : Txn TopUpDB TopUpErr (Option ℤ) := do
  require (referenceId ≠ "") .noTradeNo
  completeTopUp ⟨some .stripe, .orderMissing, .orderStatus, false, TopUp.moneyQuota⟩ referenceId "" id

omit [TopUpSettings] in
/-- `RechargeCreem`: the amount is the quota, and a user without an email gets that of the customer. -/
def rechargeCreem (referenceId customerEmail : String) : Txn TopUpDB TopUpErr (Option ℤ) := do
  require (referenceId ≠ "") .noTradeNo
  completeTopUp ⟨some .creem, .orderMissing, .orderStatus, false, fun t => walletQuotaFromDecimalStrict t.amount⟩
    referenceId "" fun u => if customerEmail ≠ "" ∧ u.email = "" then { u with email := customerEmail } else u

def rechargeWaffo (tradeNo : String) : Txn TopUpDB TopUpErr (Option ℤ) := do
  require (tradeNo ≠ "") .noTradeNo
  completeTopUp ⟨some .waffo, .orderMissing, .orderStatus, true, TopUp.amountQuota⟩ tradeNo "" id

def rechargeWaffoPancake (tradeNo : String) : Txn TopUpDB TopUpErr (Option ℤ) := do
  require (tradeNo ≠ "") .noTradeNo
  completeTopUp ⟨some .waffoPancake, .orderMissing, .orderStatus, true, TopUp.amountQuota⟩ tradeNo "" id

/-- The quota that an administrator's completion computes. -/
def TopUp.manualQuota (topUp : TopUp) : Option ℤ :=
  if topUp.paymentProvider = some .stripe then topUp.moneyQuota else topUp.amountQuota

def manualCompleteTopUp (tradeNo : String) : Txn TopUpDB TopUpErr (Option ℤ) := do
  require (tradeNo ≠ "") .noOrderNo
  completeTopUp ⟨none, .orderMissing, .notPending, true, TopUp.manualQuota⟩ tradeNo "" id

end Orders

def updatePendingTopUpStatus (tradeNo : String) (expectedPaymentProvider : Option TopUpProvider)
    (targetStatus : TopUpStatus) : Txn TopUpDB TopUpErr Unit := do
  require (tradeNo ≠ "") .noTradeNo
  let topUp ← first TopUpDB.topUpsRef (·.tradeNo = tradeNo) .topUpNotFound
  require (∀ p ∈ expectedPaymentProvider, topUp.paymentProvider = some p) .paymentMethodMismatch
  require (topUp.status = .pending) .topUpStatusInvalid
  saveTopUp { topUp with status := targetStatus }

/-! ## Codes -/

def redeem (key : String) (userId : ℤ) : Txn TopUpDB TopUpErr ℤ := do
  require (key ≠ "") .noKey
  require (userId ≠ 0) .invalidUserId
  let redemption ← first TopUpDB.redemptionsRef (·.key = key) .invalidCode
  require (redemption.status = .enabled) .codeUsed
  let db ← get
  require (¬ (redemption.expiredTime ≠ 0 ∧ redemption.expiredTime < db.clock)) .codeExpired
  -- the row is locked, so that the update finds it enabled
  updates TopUpDB.redemptionsRef (·.key = key) fun r =>
    { r with redeemedTime := db.clock, status := .used, usedUserId := userId }
  creditTopUpQuota (.redemption key) userId redemption.quota id
  pure redemption.quota

end Desktop2Stereo
