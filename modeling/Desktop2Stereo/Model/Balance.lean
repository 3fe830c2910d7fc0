import Desktop2Stereo.Model.Audit
import Desktop2Stereo.Model.Licensing

/-!
# Desktop2Stereo: balances, invite rewards and withdrawals

The half of `model/d2s_billing.go` that moves money between the columns of an account.
-/

namespace Desktop2Stereo

open Relational GoText

/-- The account of a user in a currency; `id` is the drawn id of a new one. -/
def d2sBalanceAccountTx (id : Uuid) (userID : ℤ) (currency : Currency) (now : ℤ) : Tx D2SBalanceAccount := do
  match ← lookup Tbl.accounts fun a => a.userID = userID ∧ a.currency = currency with
  | some account => pure account
  | none => do
    let account : D2SBalanceAccount := { id := id.val, userID, currency, updatedAt := now }
    create Tbl.accounts account
    pure account

/-- Move `amount` from the available to the reserved column, and log it as `kind`. -/
def reserveD2SBalance (e : Env) (userID : ℤ) (currency : Currency) (amount : ℤ) (kind : TxKind)
    (referenceID : String) (now : ℤ) : Tx Unit := do
  let account ← d2sBalanceAccountTx e.accountID userID currency now
  require (amount ≤ account.availableMinor) .insufficientBalance
  updates Tbl.accounts (·.id = account.id) fun a =>
    { a with availableMinor := a.availableMinor - amount, reservedMinor := a.reservedMinor + amount
             updatedAt := now }
  create Tbl.transactions
    { id := e.reserveTxID.val, accountID := account.id, userID, currency, kind, amountMinor := -amount
      referenceID, createdAt := now }

/-- Take `amount` out of the reserved column, returning `credit` of it to the available one; fails
where less than `amount` is reserved. -/
def takeD2SReserved (accountID : String) (amount credit now : ℤ) : Tx Unit := do
  let covered (a : D2SBalanceAccount) : Bool := a.id = accountID ∧ amount ≤ a.reservedMinor
  let rowsAffected ← count Tbl.accounts covered
  updates Tbl.accounts covered fun a =>
    { a with availableMinor := a.availableMinor + credit, reservedMinor := a.reservedMinor - amount
             updatedAt := now }
  require (rowsAffected = 1) .reservedShort

def settleD2SReservedBalanceTx (e : Env) (order : D2SOrder) (consume : Bool) (now : ℤ) : Tx Unit :=
  whenever (0 < order.balanceMinor) do
    let account ← d2sBalanceAccountTx e.settleAccountID order.userID order.currency now
    let amount := if consume then 0 else order.balanceMinor
    takeD2SReserved account.id order.balanceMinor amount now
    create Tbl.transactions
      { id := e.settleTxID.val, accountID := account.id, userID := order.userID, currency := order.currency
        kind := if consume then .consume else .release, amountMinor := amount, orderID := order.id
        createdAt := now }

/-! ## Invite rewards -/

/-- The reward for an invited buyer's first licence. -/
def d2sInviteAmount (region : Region) : ℤ := if region = .CN then 1000 else 140

def creditD2SInvite (e : Env) (inviterID inviteeID : ℤ) (order : D2SOrder) (now : ℤ) : Tx Unit := do
  let amount := d2sInviteAmount order.region
  let account ← d2sBalanceAccountTx e.inviterAccountID inviterID order.currency now
  updates Tbl.accounts (·.id = account.id) fun a =>
    { a with availableMinor := a.availableMinor + amount, updatedAt := now }
  create Tbl.rewards
    { id := e.rewardID.val, inviterUserID := inviterID, inviteeUserID := inviteeID, orderID := order.id
      currency := order.currency, amountMinor := amount, status := .credited, createdAt := now }
  create Tbl.transactions
    { id := e.rewardTxID.val, accountID := account.id, userID := inviterID, currency := order.currency
      kind := .inviteReward, amountMinor := amount, orderID := order.id, referenceID := e.rewardID.val
      createdAt := now }

/-- The inviter may earn a reward: their account is in the order's region and holds a paid licence
that is active. -/
def d2sInviterEligible (inviterID : ℤ) (region : Region) (now : ℤ) : Tx Bool := do
  let inviterProfile ← lookup Tbl.profiles fun p => p.userID = inviterID ∧ p.region = some region
  let paidLicenses ← count Tbl.licenses fun l =>
    l.userID = inviterID ∧ l.kind = .paid ∧ l.status = .active ∧ (l.expiresAt = 0 ∨ now < l.expiresAt)
  return inviterProfile.isSome && paidLicenses ≠ 0

def awardD2SInviteTx (e : Env) (order : D2SOrder) (now : ℤ) : Tx Unit := do
  let invitee ← first Tbl.users (·.id = order.userID) .recordNotFound
  let existing ← count Tbl.rewards (·.inviteeUserID = invitee.id)
  let eligible ← d2sInviterEligible invitee.inviterId order.region now
  whenever (0 < invitee.inviterId ∧ invitee.inviterId ≠ invitee.id ∧ existing = 0 ∧ eligible = true) <|
    creditD2SInvite e invitee.inviterId invitee.id order now

def revokeD2SInviteReward (e : Env) (reward : D2SInviteReward) (orderID : String) (now : ℤ) : Tx Unit := do
  let account ← d2sBalanceAccountTx e.inviterAccountID reward.inviterUserID reward.currency now
  updates Tbl.accounts (·.id = account.id) fun a =>
    { a with availableMinor := a.availableMinor - reward.amountMinor, updatedAt := now }
  updates Tbl.rewards (·.id = reward.id) fun r => { r with status := .reversed }
  create Tbl.transactions
    { id := e.rewardTxID.val, accountID := account.id, userID := reward.inviterUserID
      currency := reward.currency, kind := .inviteReversal, amountMinor := -reward.amountMinor, orderID
      referenceID := reward.id, createdAt := now }

def reverseD2SInviteRewardTx (e : Env) (order : D2SOrder) (now : ℤ) : Tx Unit := do
  match ← lookup Tbl.rewards fun r => r.orderID = order.id ∧ r.status = .credited with
  | none => pure ()
  | some reward => revokeD2SInviteReward e reward order.id now

/-! ## Withdrawals -/

/-- A withdrawal whose checks have passed and whose transaction has not run yet. -/
structure PreparedWithdrawal where
  userID : ℤ
  amountMinor : ℤ
  alipayAccount : String
  realName : String
  now : ℤ
  amount_nonneg : 0 ≤ amountMinor
  now_pos : 0 < now

/-- `CreateD2SWithdrawal` up to its transaction. -/
def prepareD2SWithdrawal (e : Env) (userID amountMinor : ℤ) (alipayAccount realName : String) (now : ℤ) :
    Call PreparedWithdrawal := do
  let ⟨h⟩ ← Prog.atomic <| verify (e.minWithdrawalMinor ≤ amountMinor ∧ trimSpace alipayAccount ≠ "" ∧
    trimSpace realName ≠ "") .withdrawalNotAllowed
  let profile ← Prog.atomic (ensureD2SProfileAndTrial e userID now)
  Prog.atomic <| require (profile.region = some .CN) .withdrawalNotAllowed
  return { userID, amountMinor, alipayAccount := trimSpace alipayAccount, realName := trimSpace realName
           now := e.resolve now, amount_nonneg := e.minWithdrawal_nonneg.trans h.1
           now_pos := e.resolve_pos now }

/-- The transaction of `CreateD2SWithdrawal`. -/
def commitD2SWithdrawal (e : Env) (p : PreparedWithdrawal) : Tx D2SWithdrawalRequest := do
  let row : D2SWithdrawalRequest :=
    { id := e.requestID.val, userID := p.userID, currency := .CNY, amountMinor := p.amountMinor
      alipayAccount := p.alipayAccount, realName := p.realName, status := .pending
      createdAt := p.now, updatedAt := p.now }
  reserveD2SBalance e p.userID .CNY p.amountMinor .withdrawalReserve row.id p.now
  create Tbl.withdrawals row
  return row

def createD2SWithdrawal (e : Env) (userID amountMinor : ℤ) (alipayAccount realName : String) (now : ℤ) :
    Call D2SWithdrawalRequest := do
  let p ← prepareD2SWithdrawal e userID amountMinor alipayAccount realName now
  Prog.atomic (commitD2SWithdrawal e p)

def D2SWithdrawalRequest.reviewed (r : D2SWithdrawalRequest) (status : WithdrawalStatus) (adminID : ℤ)
    (note : String) (now : ℤ) : D2SWithdrawalRequest :=
  { r with
    status, reviewedBy := adminID, reviewNote := note, updatedAt := now
    paidAt := if status = .rejected then 0 else now }

/-- `ReviewD2SWithdrawalWithAudit`; the time is the caller's, as it is. -/
def reviewD2SWithdrawal (e : Env) (adminID : ℤ) (requestID status note : String) (now : ℤ)
    (audit : Option D2SAdminOperationAudit) : Tx D2SWithdrawalRequest := do
  let status ← attempt (WithdrawalStatus.ofReview status) .withdrawalNotAllowed
  require (auditMatches adminID audit) .adminInvalid
  let row ← first Tbl.withdrawals (·.id = requestID) .recordNotFound
  require (row.status = .pending) .orderState
  let account ← d2sBalanceAccountTx e.accountID row.userID row.currency now
  let amount := if status = .rejected then row.amountMinor else 0
  takeD2SReserved account.id row.amountMinor amount now
  updates Tbl.withdrawals (·.id = row.id) (·.reviewed status adminID note now)
  create Tbl.transactions
    { id := e.settleTxID.val, accountID := account.id, userID := row.userID, currency := row.currency
      kind := if status = .rejected then .withdrawalRelease else .withdrawalPaid, amountMinor := amount
      referenceID := row.id, createdAt := now }
  auditD2SReview e audit now
  return row.reviewed status adminID note now

end Desktop2Stereo
