import Desktop2Stereo.Lib.GoText
import Desktop2Stereo.Lib.Txn

/-!
# Desktop2Stereo: enumerations, errors and the world outside

* the enumerated columns (`Region`, `Product`, `Provider`, `LicenseMode`, …) with the names the
  source stores and accepts for them;
* `Err` and `Err.text`: the errors and their messages.
-/

namespace Desktop2Stereo

open GoText

/-! ## Enumerations -/

inductive Region | CN | INTL
  deriving DecidableEq, Repr

def Region.code : Region → String
  | .CN => "CN"
  | .INTL => "INTL"

def Region.ofName : String → Option Region
  | "CN" => some .CN
  | "INTL" => some .INTL
  | _ => none

inductive Currency | CNY | USD
  deriving DecidableEq, Repr

def Currency.code : Currency → String
  | .CNY => "CNY"
  | .USD => "USD"

inductive Product | license | paidRevoke | offlineExtension
  deriving DecidableEq, Repr

def Product.code : Product → String
  | .license => "license"
  | .paidRevoke => "paid_revoke"
  | .offlineExtension => "offline_extension"

def Product.ofName : String → Option Product
  | "license" => some .license
  | "paid_revoke" => some .paidRevoke
  | "offline_extension" => some .offlineExtension
  | _ => none

/-- Payment providers; `balance` pays from the account's own balance. -/
inductive Provider
  | epay | paymentfm | alipay | alipayPC | wechat | waffo | stripe | creem | waffoPancake | balance
  deriving DecidableEq, Repr

def Provider.code : Provider → String
  | .epay => "epay"
  | .paymentfm => "paymentfm"
  | .alipay => "alipay"
  | .alipayPC => "alipay_pc"
  | .wechat => "wechat"
  | .waffo => "waffo"
  | .stripe => "stripe"
  | .creem => "creem"
  | .waffoPancake => "waffo_pancake"
  | .balance => "balance"

def Provider.ofName : String → Option Provider
  | "epay" => some .epay
  | "paymentfm" => some .paymentfm
  | "alipay" => some .alipay
  | "alipay_pc" => some .alipayPC
  | "wechat" => some .wechat
  | "waffo" => some .waffo
  | "stripe" => some .stripe
  | "creem" => some .creem
  | "waffo_pancake" => some .waffoPancake
  | "balance" => some .balance
  | _ => none

def Provider.parse (s : String) : Option Provider := Provider.ofName (toLower (trimSpace s))

inductive OrderStatus | pending | paid | canceled | chargeback
  deriving DecidableEq, Repr

inductive LicenseKind | trial | paid
  deriving DecidableEq, Repr

inductive LicenseStatus | active | suspended | revoked
  deriving DecidableEq, Repr

inductive LicenseMode | unbound | online | offline | permanent
  deriving DecidableEq, Repr

def LicenseMode.code : LicenseMode → String
  | .unbound => "unbound"
  | .online => "online"
  | .offline => "offline"
  | .permanent => "permanent"

def LicenseMode.ofName : String → Option LicenseMode
  | "unbound" => some .unbound
  | "online" => some .online
  | "offline" => some .offline
  | "permanent" => some .permanent
  | _ => none

/-- Payment event types; an event of another type is stored and rolled back. -/
inductive EventType
  | paid | canceled | failed | chargeback | reversed
  | other (name : String)
  deriving DecidableEq, Repr

def EventType.parse (s : String) : EventType :=
  match toLower (trimSpace s) with
  | "paid" => .paid
  | "canceled" => .canceled
  | "failed" => .failed
  | "chargeback" => .chargeback
  | "reversed" => .reversed
  | name => .other name

inductive TxKind
  | reserve | consume | release | inviteReward | inviteReversal
  | withdrawalReserve | withdrawalPaid | withdrawalRelease
  deriving DecidableEq, Repr

inductive RewardStatus | credited | reversed
  deriving DecidableEq, Repr

inductive WithdrawalStatus | pending | paid | rejected
  deriving DecidableEq, Repr

def WithdrawalStatus.ofReview : String → Option WithdrawalStatus
  | "paid" => some .paid
  | "rejected" => some .rejected
  | _ => none

inductive UnbindStatus | pending | approved | rejected
  deriving DecidableEq, Repr

/-- The outcomes that a review of a manual unbind may set. -/
def UnbindStatus.ofReview : String → Option UnbindStatus
  | "approved" => some .approved
  | "rejected" => some .rejected
  | _ => none

inductive RefundStatus | pending | completed
  deriving DecidableEq, Repr

inductive SigningKeyStatus | active | retired
  deriving DecidableEq, Repr

inductive ActionType
  | register | login | logout | purchase | download | passwordReset | profileUpdate
  deriving DecidableEq, Repr

def ActionType.code : ActionType → String
  | .register => "REGISTER"
  | .login => "LOGIN"
  | .logout => "LOGOUT"
  | .purchase => "PURCHASE"
  | .download => "DOWNLOAD"
  | .passwordReset => "PASSWORD_RESET"
  | .profileUpdate => "PROFILE_UPDATE"

def ActionType.ofName : String → Option ActionType
  | "REGISTER" => some .register
  | "LOGIN" => some .login
  | "LOGOUT" => some .logout
  | "PURCHASE" => some .purchase
  | "DOWNLOAD" => some .download
  | "PASSWORD_RESET" => some .passwordReset
  | "PROFILE_UPDATE" => some .profileUpdate
  | _ => none

inductive ActionResult | success | failure | blocked
  deriving DecidableEq, Repr

def ActionResult.code : ActionResult → String
  | .success => "SUCCESS"
  | .failure => "FAILURE"
  | .blocked => "BLOCKED"

def ActionResult.ofName : String → Option ActionResult
  | "SUCCESS" => some .success
  | "FAILURE" => some .failure
  | "BLOCKED" => some .blocked
  | _ => none

inductive SessionStatus | active | revoking | revoked
  deriving DecidableEq, Repr

inductive ExportApprovalStatus | pending | approved | rejected | consumed
  deriving DecidableEq, Repr

inductive DeviceCodeStatus | pending | approved | claiming | consumed | canceled
  deriving DecidableEq, Repr

inductive LicenseEventType
  | trialCreated | trialStarted | deviceBound | modeChanged | freeRevoke
  | licensePurchased | paidRevoke | offlineExtensionPaid | manualUnbindApproved
  deriving DecidableEq, Repr

/-! ## Errors -/

/-- The errors of the operations. `reservedShort` is `ErrD2SOrderState` as it is raised by the
guard `reserved_minor >= ?` of a balance update; `orderState` is the same error raised elsewhere. -/
inductive Err
  | emailVerificationRequired | licenseNotFound | licenseUnavailable | deviceMismatch
  | deviceAlreadyBound | licenseAlreadyBound | permanentLocked | lifetimeUnbindUsed
  | revokeCooldown | leaseConflict | leaseInvalid | manualUnbindPending | offlinePeriodInvalid
  | regionMismatch | priceNotConfigured | orderInvalid | quoteChanged | orderNotFound
  | orderState | reservedShort | purchasesDisabled | paidRevokeLimit | paidRevokePending
  | insufficientBalance | withdrawalNotAllowed | paymentMismatch
  | adminInvalid | auditInvalid | actionTypeInvalid | actionResultInvalid
  | recordNotFound | duplicateKey
  | coreHashMissing | coreHashInvalid | coreKeyInvalid | reconciliationWindow
  | external (text : String)
  deriving DecidableEq, Repr

def Err.text : Err → String
  | .emailVerificationRequired => "verified email is required"
  | .licenseNotFound => "license not found"
  | .licenseUnavailable => "license is unavailable"
  | .deviceMismatch => "device does not match the license binding"
  | .deviceAlreadyBound => "device is already bound to another license"
  | .licenseAlreadyBound => "license is already bound to another device"
  | .permanentLocked => "permanent license cannot be changed or revoked"
  | .lifetimeUnbindUsed =>
    "permanent license cannot be changed or revoked: lifetime manual unbind already used"
  | .revokeCooldown => "free revoke cooldown is active"
  | .leaseConflict => "license already has an active runtime lease"
  | .leaseInvalid => "runtime lease is invalid"
  | .manualUnbindPending => "manual unbind request is already pending"
  | .offlinePeriodInvalid => "offline authorization period is invalid"
  | .regionMismatch => "payment provider does not match the account region"
  | .priceNotConfigured => "product price is not configured"
  | .orderInvalid => "order is invalid"
  | .quoteChanged => "order quote has changed"
  | .orderNotFound => "order not found"
  | .orderState => "order state does not allow this operation"
  | .reservedShort => "order state does not allow this operation"
  | .purchasesDisabled => "D2S purchases are currently disabled"
  | .paidRevokeLimit => "monthly paid revoke limit reached"
  | .paidRevokePending => "another paid revoke order is pending"
  | .insufficientBalance => "insufficient balance"
  | .withdrawalNotAllowed => "withdrawal is not allowed"
  | .paymentMismatch => "payment amount, currency, or provider mismatch"
  | .adminInvalid => "admin credentials are invalid"
  | .auditInvalid => "invalid export approval request"
  | .actionTypeInvalid => "invalid user action type"
  | .actionResultInvalid => "invalid user action result"
  | .recordNotFound => "record not found"
  | .duplicateKey => "duplicated key not allowed"
  | .coreHashMissing => "Desktop2Stereo parallax resource hash is not configured"
  | .coreHashInvalid => "Desktop2Stereo parallax resource hash is invalid"
  | .coreKeyInvalid => "Desktop2Stereo parallax core key is invalid"
  | .reconciliationWindow => "invalid reconciliation window"
  | .external text => text

instance : Relational.StoreError Err := ⟨.duplicateKey⟩

/-! ## The world outside the database -/

/-- The digest of the deployment: the hexadecimal text of the SHA-256 of a string. -/
class Digest where
  sha256Hex : String → String

def hashD2SSecret [Digest] (secret : String) : String := Digest.sha256Hex secret

/-- A drawn identifier (`uuid.NewString`); it is never the empty string. -/
structure Uuid where
  val : String
  nonempty : val ≠ ""
  deriving DecidableEq

/-- What one call reads from outside the database. The identifiers and secrets are arbitrary
draws: a draw that is already a key of its table makes the insertion fail. -/
structure Env where
  /-- `time.Now().Unix()` -/
  wall : ℤ
  wall_pos : 0 < wall
  orderID : Uuid
  paymentEventID : Uuid
  licenseID : Uuid
  licenseEventID : Uuid
  boundEventID : Uuid
  accountID : Uuid
  inviterAccountID : Uuid
  settleAccountID : Uuid
  reserveTxID : Uuid
  settleTxID : Uuid
  rewardID : Uuid
  rewardTxID : Uuid
  requestID : Uuid
  entitlementID : Uuid
  auditID : Uuid
  /-- `randomD2SSecret(8)`, from which a licence code is made -/
  codeSecret : String
  /-- `randomD2SSecret(32)`, a lease token; 64 hexadecimal digits -/
  leaseSecret : String
  leaseSecret_nonempty : leaseSecret ≠ ""
  extensionPriceCNY : String
  /-- `D2S_OFFLINE_EXTENSION_USD_MINOR` -/
  extensionPriceUSD : String
  /-- `common.D2SMinWithdrawalMinor`; the settings form admits integers from 1 on, and a text
  that is not a number reads as 0. -/
  minWithdrawalMinor : ℤ
  minWithdrawal_nonneg : 0 ≤ minWithdrawalMinor
  /-- `D2S_PURCHASES_ENABLED` -/
  purchasesEnabledDefault : Bool
  /-- `D2S_PARALLAX_CORE_SHA256` -/
  parallaxCoreSHA256 : String
  /-- `D2S_PARALLAX_CORE_KEY_HEX` -/
  parallaxCoreKeyHex : String

/-- `if now <= 0 { now = time.Now().Unix() }`. -/
def Env.resolve (e : Env) (now : ℤ) : ℤ := if now ≤ 0 then e.wall else now

theorem Env.resolve_pos (e : Env) (now : ℤ) : 0 < e.resolve now := by
  unfold Env.resolve
  have := e.wall_pos
  split_ifs <;> omega

theorem Env.resolve_of_pos (e : Env) {now : ℤ} (h : 0 < now) : e.resolve now = now := by
  unfold Env.resolve
  rw [if_neg (by omega)]

end Desktop2Stereo
