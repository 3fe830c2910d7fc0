import Desktop2Stereo.Model.Basic

/-!
# Desktop2Stereo: rows, indexes and the database

One structure per table of the licensing and billing schema, with the columns of the source and
its unique indexes; the database `DB` that holds the tables, and the tables as the statements
address them (`Tbl`). An empty string or a zero stands where the source stores one.
-/

namespace Desktop2Stereo

open Relational GoText

/-! ## Accounts -/

/-- The columns of `users` that the modelled operations read. -/
structure User where
  id : ℤ
  email : String
  emailVerifiedAt : ℤ
  inviterId : ℤ
  username : String := ""
  role : ℤ := 1
  status : ℤ := 1
  quota : ℤ := 0
  group : String := "default"
  setting : String := ""
  authVersion : ℤ := 1

instance : Indexed User ℤ := .ofKey User.id

/-- `options` -/
structure OptionRow where
  key : String
  value : String

instance : Indexed OptionRow String := .ofKey OptionRow.key

structure D2SUserSecurityControl where
  userID : ℤ
  loginBlocked : Bool := false
  purchaseBlocked : Bool := false
  reason : String := ""
  updatedAt : ℤ := 0
  updatedBy : ℤ := 0

instance : Indexed D2SUserSecurityControl ℤ := .ofKey D2SUserSecurityControl.userID

/-- `d2s_user_profiles`; the region is empty until it is locked. -/
structure D2SUserProfile where
  userID : ℤ
  region : Option Region := none
  regionLockedAt : ℤ := 0
  emailVerified : Bool
  createdAt : ℤ
  updatedAt : ℤ

instance : Indexed D2SUserProfile ℤ := .ofKey D2SUserProfile.userID

structure UserSession where
  sid : String
  userID : ℤ
  version : ℤ := 1
  userAuthVersion : ℤ
  status : SessionStatus := .active
  refreshHash : String
  previousRefreshHash : String := ""
  previousValidUntil : ℤ := 0
  loginMethod : String
  ip : String := ""
  userAgent : String := ""
  createdAt : ℤ
  lastActiveAt : ℤ
  expiresAt : ℤ
  revokedAt : ℤ := 0
  revokedReason : String := ""
  deriving DecidableEq

instance : Indexed UserSession String := .ofKey UserSession.sid

/-! ## Licences -/

/-- `d2s_licenses` -/
structure D2SLicense where
  id : String
  licenseCode : String
  userID : ℤ
  product : String
  kind : LicenseKind
  status : LicenseStatus
  mode : LicenseMode
  deviceHash : String := ""
  fingerprintVersion : ℤ := 0
  offlinePeriodDays : ℤ
  offlineValidUntil : ℤ := 0
  activatedAt : ℤ := 0
  expiresAt : ℤ := 0
  permanentBoundAt : ℤ := 0
  sourceOrderID : String := ""
  createdAt : ℤ
  updatedAt : ℤ

instance : Indexed D2SLicense String :=
  .ofKeys₃ D2SLicense.id D2SLicense.licenseCode fun l => (l.userID, l.kind, l.sourceOrderID)

/-- `d2s_device_bindings` -/
structure D2SDeviceBinding where
  licenseID : String
  userID : ℤ
  deviceHash : String
  fingerprintVersion : ℤ
  boundAt : ℤ
  updatedAt : ℤ

instance : Indexed D2SDeviceBinding String := .ofKeys D2SDeviceBinding.licenseID D2SDeviceBinding.deviceHash

structure D2SLicenseEvent where
  id : String
  licenseID : String
  userID : ℤ
  eventType : LicenseEventType
  deviceHash : String := ""
  orderID : String := ""
  detail : String := ""
  createdAt : ℤ

instance : Indexed D2SLicenseEvent String := .ofKey D2SLicenseEvent.id

/-- `d2s_device_codes` -/
structure D2SDeviceCode where
  id : String
  deviceCodeHash : String
  userCode : String
  userID : ℤ := 0
  deviceHash : String
  fingerprintVersion : ℤ
  clientName : String
  platform : String
  status : DeviceCodeStatus
  createdAt : ℤ
  expiresAt : ℤ
  approvedAt : ℤ := 0
  consumedAt : ℤ := 0

instance : Indexed D2SDeviceCode String :=
  .ofKeys₃ D2SDeviceCode.id D2SDeviceCode.deviceCodeHash D2SDeviceCode.userCode

structure D2SOfflineEntitlement where
  id : String
  licenseID : String
  userID : ℤ
  deviceHash : String
  keyID : String
  issuedAt : ℤ
  expiresAt : ℤ
  jwsHash : String

instance : Indexed D2SOfflineEntitlement String := .ofKeys D2SOfflineEntitlement.id D2SOfflineEntitlement.jwsHash

/-- `d2s_online_leases` -/
structure D2SOnlineLease where
  licenseID : String
  userID : ℤ
  deviceHash : String
  leaseTokenHash : String
  createdAt : ℤ
  expiresAt : ℤ
  lastHeartbeatAt : ℤ

instance : Indexed D2SOnlineLease String := .ofKeys D2SOnlineLease.licenseID D2SOnlineLease.leaseTokenHash

structure D2SFreeRevokeCooldown where
  licenseID : String
  lastRevokedAt : ℤ
  nextAvailableAt : ℤ
  periodDays : ℤ

instance : Indexed D2SFreeRevokeCooldown String := .ofKey D2SFreeRevokeCooldown.licenseID

/-- `d2s_paid_revoke_quotas`. The source joins the two parts of the key to the text
`licenseID:month`; a month has no colon, so the text determines both. -/
structure D2SPaidRevokeQuota where
  licenseID : String
  periodMonth : Month
  usedCount : ℤ
  updatedAt : ℤ

instance : Indexed D2SPaidRevokeQuota (String × Month) := .ofKey fun q => (q.licenseID, q.periodMonth)

structure D2SManualUnbindRequest where
  id : String
  licenseID : String
  userID : ℤ
  reason : String
  proofRef : String
  status : UnbindStatus
  reviewedBy : ℤ := 0
  reviewNote : String := ""
  createdAt : ℤ
  updatedAt : ℤ

instance : Indexed D2SManualUnbindRequest String := .ofKey D2SManualUnbindRequest.id

structure D2SSigningKey where
  keyID : String
  algorithm : String
  publicJWK : String
  status : SigningKeyStatus
  createdAt : ℤ
  retiredAt : ℤ := 0

instance : Indexed D2SSigningKey String := .ofKey D2SSigningKey.keyID

/-! ## Orders and payments -/

structure D2SOrder where
  id : String
  userID : ℤ
  emailSnapshot : String
  product : Product
  productID : Product
  licenseID : String
  provider : Provider
  paymentMethod : Provider
  paymentAccountIdentifierHash : Option String := none
  sourceIP : String
  region : Region
  currency : Currency
  amountMinor : ℤ
  balanceMinor : ℤ
  gatewayMinor : ℤ
  refundedMinor : ℤ := 0
  revokeNumber : ℤ
  status : OrderStatus
  resultStatus : ActionResult
  idempotencyKey : String
  pendingKey : Option String := none
  purchaseTime : ℤ
  createdAt : ℤ
  expiresAt : ℤ
  completedAt : ℤ := 0

/-- The indexed columns of an order. A unique index admits any number of null pending keys. -/
instance : Indexed D2SOrder String where
  Keys := String × (ℤ × String) × Option String
  keys o := (o.id, (o.userID, o.idempotencyKey), o.pendingKey)
  Clash a b := a.1 = b.1 ∨ a.2.1 = b.2.1 ∨ (a.2.2 ≠ none ∧ a.2.2 = b.2.2)
  decClash := fun _ _ => inferInstance
  clash_symm _ _ h := h.imp Eq.symm (Or.imp Eq.symm fun ⟨hn, he⟩ => ⟨he ▸ hn, he.symm⟩)
  pkey := Prod.fst
  clash_of_pkey _ _ h := .inl h

structure D2SPaymentEvent where
  id : String
  provider : Provider
  providerEventID : String
  orderID : String
  eventType : EventType
  amountMinor : ℤ
  currency : String
  payloadHash : String
  processedAt : ℤ

instance : Indexed D2SPaymentEvent String :=
  .ofKeys D2SPaymentEvent.id fun e => (e.provider, e.providerEventID)

structure D2SAlipayRefund where
  id : String
  orderID : String
  outRequestNo : String
  amountMinor : ℤ
  reason : String
  status : RefundStatus
  providerTrade : String := ""
  operatorID : ℤ
  createdAt : ℤ
  updatedAt : ℤ

instance : Indexed D2SAlipayRefund String := .ofKeys D2SAlipayRefund.id D2SAlipayRefund.outRequestNo

/-! ## Balances -/

structure D2SBalanceAccount where
  id : String
  userID : ℤ
  currency : Currency
  availableMinor : ℤ := 0
  reservedMinor : ℤ := 0
  updatedAt : ℤ

instance : Indexed D2SBalanceAccount String :=
  .ofKeys D2SBalanceAccount.id fun a => (a.userID, a.currency)

structure D2SBalanceTransaction where
  id : String
  accountID : String
  userID : ℤ
  currency : Currency
  kind : TxKind
  amountMinor : ℤ
  orderID : String := ""
  referenceID : String := ""
  createdAt : ℤ

instance : Indexed D2SBalanceTransaction String := .ofKey D2SBalanceTransaction.id

structure D2SInviteReward where
  id : String
  inviterUserID : ℤ
  inviteeUserID : ℤ
  orderID : String
  currency : Currency
  amountMinor : ℤ
  status : RewardStatus
  createdAt : ℤ

instance : Indexed D2SInviteReward String :=
  .ofKeys₃ D2SInviteReward.id D2SInviteReward.inviteeUserID D2SInviteReward.orderID

structure D2SWithdrawalRequest where
  id : String
  userID : ℤ
  currency : Currency
  amountMinor : ℤ
  alipayAccount : String
  realName : String
  status : WithdrawalStatus
  reviewedBy : ℤ := 0
  reviewNote : String := ""
  createdAt : ℤ
  updatedAt : ℤ
  paidAt : ℤ := 0

instance : Indexed D2SWithdrawalRequest String := .ofKey D2SWithdrawalRequest.id

/-! ## Audit trails -/

structure D2SUserActionLog where
  id : String
  userID : Option ℤ
  email : String
  actionType : ActionType
  eventTime : ℤ
  sourceIP : String
  sourcePort : Option ℤ
  destinationIP : Option String
  destinationPort : Option ℤ
  userAgent : String
  deviceFingerprint : Option String
  requestPath : String
  resultStatus : ActionResult
  recordHash : String

instance : Indexed D2SUserActionLog String := .ofKey D2SUserActionLog.id

structure D2SAdminOperationAudit where
  id : String
  operatorID : ℤ
  operatorEmail : String
  operationType : String
  operationTime : ℤ
  targetResource : String
  sourceIP : String
  result : String
  detailsJSON : String

instance : Indexed D2SAdminOperationAudit String := .ofKey D2SAdminOperationAudit.id

structure D2SAdminExportApproval where
  id : String
  exportType : String
  filterHash : String
  filterSnapshot : String
  requestReason : String
  requestedByID : ℤ
  requestedByEmail : String
  requestedAt : ℤ
  expiresAt : ℤ
  status : ExportApprovalStatus := .pending
  reviewedByID : ℤ := 0
  reviewedByEmail : String := ""
  reviewedAt : ℤ := 0
  reviewReason : String := ""
  consumedByID : ℤ := 0
  consumedAt : ℤ := 0

instance : Indexed D2SAdminExportApproval String := .ofKey D2SAdminExportApproval.id

/-! ## Primary keys -/

@[simp] theorem D2SLicense.pk_eq (r : D2SLicense) : pk r = r.id := rfl
@[simp] theorem D2SDeviceBinding.pk_eq (r : D2SDeviceBinding) : pk r = r.licenseID := rfl
@[simp] theorem D2SOnlineLease.pk_eq (r : D2SOnlineLease) : pk r = r.licenseID := rfl
@[simp] theorem D2SOrder.pk_eq (r : D2SOrder) : pk r = r.id := rfl
@[simp] theorem D2SBalanceAccount.pk_eq (r : D2SBalanceAccount) : pk r = r.id := rfl

@[simp] theorem D2SOnlineLease.find?_pk (t : Table D2SOnlineLease) (k : String) :
    t.find? (fun r => decide (r.licenseID = k)) = t.get? k := rfl
@[simp] theorem D2SOrder.find?_pk (t : Table D2SOrder) (k : String) :
    t.find? (fun r => decide (r.id = k)) = t.get? k := rfl

/-! ## The database -/

/-- The database. -/
structure DB where
  users : Table User := .empty
  options : Table OptionRow := .empty
  controls : Table D2SUserSecurityControl := .empty
  profiles : Table D2SUserProfile := .empty
  licenses : Table D2SLicense := .empty
  bindings : Table D2SDeviceBinding := .empty
  licenseEvents : Table D2SLicenseEvent := .empty
  deviceCodes : Table D2SDeviceCode := .empty
  entitlements : Table D2SOfflineEntitlement := .empty
  leases : Table D2SOnlineLease := .empty
  cooldowns : Table D2SFreeRevokeCooldown := .empty
  quotas : Table D2SPaidRevokeQuota := .empty
  unbinds : Table D2SManualUnbindRequest := .empty
  signingKeys : Table D2SSigningKey := .empty
  orders : Table D2SOrder := .empty
  paymentEvents : Table D2SPaymentEvent := .empty
  refunds : Table D2SAlipayRefund := .empty
  accounts : Table D2SBalanceAccount := .empty
  transactions : Table D2SBalanceTransaction := .empty
  rewards : Table D2SInviteReward := .empty
  withdrawals : Table D2SWithdrawalRequest := .empty
  actionLogs : Table D2SUserActionLog := .empty
  adminAudits : Table D2SAdminOperationAudit := .empty
  exportApprovals : Table D2SAdminExportApproval := .empty
  sessions : Table UserSession := .empty

/-- Transactions over the database. -/
abbrev Tx := Txn DB Err

/-- Programs of transactions over the database. -/
abbrev Call := Prog DB Err

namespace Tbl

abbrev users : TableRef DB User := ⟨DB.users, fun db t => { db with users := t }⟩
abbrev options : TableRef DB OptionRow := ⟨DB.options, fun db t => { db with options := t }⟩
abbrev controls : TableRef DB D2SUserSecurityControl := ⟨DB.controls, fun db t => { db with controls := t }⟩
abbrev profiles : TableRef DB D2SUserProfile := ⟨DB.profiles, fun db t => { db with profiles := t }⟩
abbrev licenses : TableRef DB D2SLicense := ⟨DB.licenses, fun db t => { db with licenses := t }⟩
abbrev bindings : TableRef DB D2SDeviceBinding := ⟨DB.bindings, fun db t => { db with bindings := t }⟩
abbrev licenseEvents : TableRef DB D2SLicenseEvent :=
  ⟨DB.licenseEvents, fun db t => { db with licenseEvents := t }⟩
abbrev deviceCodes : TableRef DB D2SDeviceCode := ⟨DB.deviceCodes, fun db t => { db with deviceCodes := t }⟩
abbrev entitlements : TableRef DB D2SOfflineEntitlement :=
  ⟨DB.entitlements, fun db t => { db with entitlements := t }⟩
abbrev leases : TableRef DB D2SOnlineLease := ⟨DB.leases, fun db t => { db with leases := t }⟩
abbrev cooldowns : TableRef DB D2SFreeRevokeCooldown := ⟨DB.cooldowns, fun db t => { db with cooldowns := t }⟩
abbrev quotas : TableRef DB D2SPaidRevokeQuota := ⟨DB.quotas, fun db t => { db with quotas := t }⟩
abbrev unbinds : TableRef DB D2SManualUnbindRequest := ⟨DB.unbinds, fun db t => { db with unbinds := t }⟩
abbrev signingKeys : TableRef DB D2SSigningKey := ⟨DB.signingKeys, fun db t => { db with signingKeys := t }⟩
abbrev orders : TableRef DB D2SOrder := ⟨DB.orders, fun db t => { db with orders := t }⟩
abbrev paymentEvents : TableRef DB D2SPaymentEvent :=
  ⟨DB.paymentEvents, fun db t => { db with paymentEvents := t }⟩
abbrev refunds : TableRef DB D2SAlipayRefund := ⟨DB.refunds, fun db t => { db with refunds := t }⟩
abbrev accounts : TableRef DB D2SBalanceAccount := ⟨DB.accounts, fun db t => { db with accounts := t }⟩
abbrev transactions : TableRef DB D2SBalanceTransaction :=
  ⟨DB.transactions, fun db t => { db with transactions := t }⟩
abbrev rewards : TableRef DB D2SInviteReward := ⟨DB.rewards, fun db t => { db with rewards := t }⟩
abbrev withdrawals : TableRef DB D2SWithdrawalRequest :=
  ⟨DB.withdrawals, fun db t => { db with withdrawals := t }⟩
abbrev actionLogs : TableRef DB D2SUserActionLog := ⟨DB.actionLogs, fun db t => { db with actionLogs := t }⟩
abbrev adminAudits : TableRef DB D2SAdminOperationAudit :=
  ⟨DB.adminAudits, fun db t => { db with adminAudits := t }⟩
abbrev exportApprovals : TableRef DB D2SAdminExportApproval :=
  ⟨DB.exportApprovals, fun db t => { db with exportApprovals := t }⟩
abbrev sessions : TableRef DB UserSession := ⟨DB.sessions, fun db t => { db with sessions := t }⟩

end Tbl

end Desktop2Stereo
