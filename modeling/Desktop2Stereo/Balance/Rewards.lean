import Desktop2Stereo.Order.ExactlyOnce

/-!
# Invite rewards

A reward is credited with the payment of its order and taken back when the order is charged back.
The ledger rows of a reward all stand on one account of the inviter.

* `RewardMove`: what a transaction does to the rewards, their ledger rows and the paid orders;
  **`rewardMove`**: every committed transaction makes one such move;
* `Rewards`: each reward agrees with its order and with the ledger; `rewards_run`;
* **`invite_rewards_settled`**.
-/

namespace Desktop2Stereo

open Relational GoText Table

/-! ## Accounts and ledger rows of rewards -/

/-- The ledger rows that credit or reverse a reward. -/
def TxKind.ofReward : TxKind → Bool
  | .inviteReward | .inviteReversal => true
  | _ => false

/-- Rows that concern no reward. -/
def OffRewards (v : D2SBalanceTransaction) : Prop := v.kind.ofReward = false

def rewardNet (t : Table D2SBalanceTransaction) (rewardID : String) : ℤ :=
  t.sum (fun v => v.kind.ofReward = true ∧ v.referenceID = rewardID) D2SBalanceTransaction.amountMinor

def netCredited (t : Table D2SBalanceTransaction) (accountID rewardID : String) : ℤ :=
  t.sum (fun v => v.accountID = accountID ∧ v.kind.ofReward = true ∧ v.referenceID = rewardID)
    D2SBalanceTransaction.amountMinor

theorem HasAccount.unique {t : Table D2SBalanceAccount} {i j : String} {u : ℤ} {c : Currency} (h : HasAccount t i u c)
    (h' : HasAccount t j u c) : i = j := by
  obtain ⟨a, ha, hu, hc⟩ := h
  obtain ⟨b, hb, hu', hc'⟩ := h'
  obtain ⟨hma, hia⟩ := Table.get?_eq_some.mp ha
  obtain ⟨hmb, hib⟩ := Table.get?_eq_some.mp hb
  have hclash : (a.userID, a.currency) = (b.userID, b.currency) := by rw [hu, hc, hu', hc']
  have hab : a = b := t.eq_of_clash hma hmb (.inr hclash)
  rw [← hia, ← hib, hab]

/-- Accounts stay with their owners. -/
def AccountsKept (db db' : DB) : Prop := ∀ i u c, HasAccount db.accounts i u c → HasAccount db'.accounts i u c

variable {e : Env} {order : D2SOrder} {now : ℤ} {db db' db'' : DB}

theorem AccountsKept.refl (h : db'.accounts = db.accounts) : AccountsKept db db' := fun _ _ _ hi => h ▸ hi

theorem AccountsKept.trans (h : AccountsKept db db') (h' : AccountsKept db' db'') : AccountsKept db db'' :=
  fun i u c hi => h' i u c (h i u c hi)

/-- The ledger grows by rows that concern no reward. -/
def LedgerOff (db db' : DB) : Prop := Table.Extends OffRewards db.transactions db'.transactions

variable {t t' : Table D2SBalanceTransaction}

theorem rewardNet_extends (h : Table.Extends OffRewards t t') (id : String) : rewardNet t' id = rewardNet t id := by
  refine h.sum fun v hv => decide_eq_false fun hk => ?_
  exact Bool.false_ne_true (hv.symm.trans hk.1)

variable {v : D2SBalanceTransaction}

theorem mem_extends (h : Table.Extends OffRewards t t') (hv : v ∈ t'.rows) (hk : v.kind.ofReward = true) :
    v ∈ t.rows :=
  h.mem hv fun hoff => Bool.false_ne_true (hoff.symm.trans hk)

/-! ## Moves -/

/-- The orders that are paid stay so, but those with `P`. -/
def PaidKept (P : String → Prop) (db db' : DB) : Prop :=
  ∀ oid o, ¬ P oid → db.orders.get? oid = some o → o.status = .paid →
    ∃ o', db'.orders.get? oid = some o' ∧ o'.status = .paid

variable {P : String → Prop}

theorem PaidKept.refl (h : db'.orders = db.orders) : PaidKept P db db' :=
  fun _ o _ ho hs => ⟨o, h ▸ ho, hs⟩

variable {o : D2SOrder}

theorem paidKept_sets (hset : Table.Sets o db.orders db'.orders)
    (h : ∀ o0, db.orders.get? o.id = some o0 → o0.status = .paid → ¬ P o.id → o.status = .paid) :
    PaidKept P db db' := by
  intro oid o0 hP ho hs
  rw [hset oid]
  split_ifs with hid
  · subst hid
    exact ⟨o, rfl, h o0 ho hs hP⟩
  · exact ⟨o0, ho, hs⟩

structure RewardPosted (r : D2SInviteReward) (amountMinor : ℤ) (db db' : DB) : Prop where
  net : ∀ id, rewardNet db'.transactions id = rewardNet db.transactions id + if r.id = id then amountMinor else 0
  rows : ∀ v ∈ db'.transactions.rows, v.kind.ofReward = true → v ∈ db.transactions.rows ∨
    (v.referenceID = r.id ∧ HasAccount db'.accounts v.accountID r.inviterUserID r.currency)
  account : ∃ i, HasAccount db'.accounts i r.inviterUserID r.currency

/-- What a transaction does to rewards: nothing, and then it charges back no order with a credited
one; or it credits one with the payment of its order; or it reverses one as it charges its order
back. -/
inductive RewardMove (db db' : DB) : Prop
  | same {P : String → Prop} : db'.rewards = db.rewards → LedgerOff db db' → PaidKept P db db' →
      (∀ r ∈ db.rewards.rows, r.status = .credited → ¬ P r.orderID) → RewardMove db db'
  | credited {r : D2SInviteReward} {o : D2SOrder} : db.rewards.insert r = some db'.rewards → r.status = .credited →
      RewardPosted r r.amountMinor db db' → PaidKept (fun _ => False) db db' →
      db'.orders.get? r.orderID = some o → o.status = .paid → RewardMove db db'
  | reversed {r : D2SInviteReward} {o : D2SOrder} : r ∈ db.rewards.rows → r.status = .credited →
      Table.Sets r.revoked db.rewards db'.rewards → RewardPosted r (-r.amountMinor) db db' →
      PaidKept (· = r.orderID) db db' → db'.orders.get? r.orderID = some o → o.status = .chargeback → RewardMove db db'

/-- Accounts stay with their owners, and the rewards make a move. -/
def RewardStep (db db' : DB) : Prop := AccountsKept db db' ∧ RewardMove db db'

/-- Nothing happens to rewards, and every paid order stays so. -/
structure RewardSilent (db db' : DB) : Prop where
  accounts : AccountsKept db db'
  ledger : LedgerOff db db'
  rewards : db'.rewards = db.rewards
  paid : PaidKept (fun _ => False) db db'

theorem RewardSilent.refl (ha : db'.accounts = db.accounts) (ht : db'.transactions = db.transactions)
    (hr : db'.rewards = db.rewards) (ho : db'.orders = db.orders) : RewardSilent db db' :=
  ⟨.refl ha, by rw [LedgerOff, ht]; exact .refl _ _, hr, .refl ho⟩

theorem RewardSilent.step (h : RewardSilent db db') : RewardStep db db' :=
  ⟨h.accounts, .same h.rewards h.ledger h.paid fun _ _ _ => id⟩

variable {r : D2SInviteReward}

theorem RewardPosted.before {amountMinor : ℤ} (h : LedgerOff db db') (hp : RewardPosted r amountMinor db' db'') :
    RewardPosted r amountMinor db db'' := by
  refine ⟨fun id => ?_, fun v hv hk => ?_, hp.account⟩
  · rw [hp.net, rewardNet_extends h]
  · rcases hp.rows v hv hk with hold | hnew
    · exact .inl (mem_extends h hold hk)
    · exact .inr hnew

theorem RewardSilent.trans (h : RewardSilent db db') (h' : RewardStep db' db'') : RewardStep db db'' := by
  obtain ⟨hacc, hmove⟩ := h'
  refine ⟨h.accounts.trans hacc, ?_⟩
  have hpaid : ∀ P, PaidKept P db' db'' → PaidKept P db db'' := by
    intro P hP oid o0 hne ho0 hs
    obtain ⟨o1, ho1, hs1⟩ := h.paid oid o0 id ho0 hs
    exact hP oid o1 hne ho1 hs1
  cases hmove with
  | same hr ht hP hne => exact .same (hr.trans h.rewards) (h.ledger.trans ht) (hpaid _ hP) (h.rewards ▸ hne)
  | credited hins hs hpost hP ho hst =>
    exact .credited (h.rewards ▸ hins) hs (hpost.before h.ledger) (hpaid _ hP) ho hst
  | reversed hm hs hset hpost hP ho hst =>
    exact .reversed (h.rewards ▸ hm) hs (h.rewards ▸ hset) (hpost.before h.ledger) (hpaid _ hP) ho hst

theorem rewardStep_same (ha : db'.accounts = db.accounts) (ht : db'.transactions = db.transactions)
    (hr : db'.rewards = db.rewards) (ho : db'.orders = db.orders) : RewardStep db db' :=
  (RewardSilent.refl ha ht hr ho).step

theorem rewardPosted_insert (hins : db.transactions.insert v = some t)
    (hoff : Table.Extends OffRewards t db'.transactions) (hk : v.kind.ofReward = true) (href : v.referenceID = r.id)
    (hacc : HasAccount db'.accounts v.accountID r.inviterUserID r.currency) :
    RewardPosted r v.amountMinor db db' := by
  refine ⟨fun id => ?_, fun w hw hwk => ?_, _, hacc⟩
  · rw [rewardNet_extends hoff, rewardNet, sum_insert hins, hk, href, rewardNet]
    simp
  · rcases (mem_insert hins).mp (mem_extends hoff hw hwk) with hold | rfl
    · exact .inl hold
    · exact .inr ⟨href, hacc⟩

/-! ## The moves of each transaction -/

variable {u : Unit}

theorem ShareSettled.offRewards {accounts : Table D2SBalanceAccount} {consume : Bool}
    (h : ShareSettled e order consume now db accounts t) :
    AccountsKept db { db with accounts, transactions := t } ∧ LedgerOff db { db with accounts, transactions := t } := by
  cases h with
  | none hz ha ht => exact ⟨.refl ha, by rw [LedgerOff, ht]; exact .refl _ _⟩
  | posted hpos hle hm hins =>
    refine ⟨hm.kept, extends_insert hins ?_⟩
    cases consume <;> rfl

theorem ShareReserved.offRewards {accounts : Table D2SBalanceAccount} {p : PreparedOrder}
    (h : ShareReserved e p db accounts t) :
    AccountsKept db { db with accounts, transactions := t } ∧ LedgerOff db { db with accounts, transactions := t } := by
  cases h with
  | none hz ha ht => exact ⟨.refl ha, by rw [LedgerOff, ht]; exact .refl _ _⟩
  | posted hpos hle hm hins => exact ⟨hm.kept, extends_insert hins rfl⟩

theorem Delivery.rewards (h : Delivery e order now db o db') :
    AccountsKept db db' ∧ ((db'.rewards = db.rewards ∧ db'.transactions = db.transactions) ∨
      ∃ (r : D2SInviteReward) (accountID : String), db.rewards.insert r = some db'.rewards ∧ r.status = .credited ∧
        r.orderID = order.id ∧ HasAccount db'.accounts accountID r.inviterUserID r.currency ∧
        db.transactions.insert (r.ledgerRow e accountID .inviteReward r.amountMinor now) = some db'.transactions) := by
  cases h with
  | license hp hl hev hv haw =>
    cases haw with
    | none ha ht hr => exact ⟨.refl ha, .inl ⟨hr, ht⟩⟩
    | credited ho hi hc ham hs hpm hpu hpr hacc hmoved htx hr =>
      exact ⟨hmoved.kept, .inr ⟨_, _, hr, hs, ho, hacc, htx⟩⟩
  | paidRevoke | offlineExtension => exact ⟨.refl rfl, .inl ⟨rfl, rfl⟩⟩

theorem OrderPaid.rewards (h : OrderPaid e order now db db') (actionLogs : Table D2SUserActionLog) :
    RewardStep db { db' with actionLogs } := by
  have hpaid : PaidKept (fun _ => False) db { db' with actionLogs } := paidKept_sets h.sets fun _ _ _ _ => rfl
  have hget : db'.orders.get? order.id = some ((order.assigned e.licenseID.val).paidAt now) := by
    rw [← order.assigned_id e.licenseID.val]
    exact h.sets.get?_self
  cases h with
  | intro hpend hrow hdel hsets hshare =>
    obtain ⟨hkept, hoff⟩ := hshare.offRewards
    obtain ⟨hacc, ⟨hr, ht⟩ | ⟨r, _, hins, hs, hoid, hown, htx⟩⟩ := hdel.rewards
    · refine ⟨hacc.trans hkept, .same hr ?_ hpaid fun _ _ _ => id⟩
      rw [LedgerOff, ← ht]
      exact hoff
    · exact ⟨hacc.trans hkept,
        .credited hins hs (rewardPosted_insert htx hoff rfl rfl (hkept _ _ _ hown)) hpaid (hoid ▸ hget) rfl⟩

theorem chargeBack_rewards (hrev : Reversed e order now db db'.accounts db'.transactions db'.rewards)
    (hsets : Table.Sets o db.orders db'.orders) (hid : o.id = order.id) (hstatus : o.status = .chargeback) :
    RewardStep db db' := by
  have hpaid : PaidKept (· = order.id) db db' := paidKept_sets hsets fun _ _ _ hne => absurd hid hne
  have hget : db'.orders.get? order.id = some o := hid ▸ hsets.get?_self
  cases hrev with
  | none hn ha ht hr =>
    refine ⟨.refl ha, .same hr ?_ hpaid fun r hm hs hoid => hn r hm ⟨hoid, hs⟩⟩
    rw [LedgerOff, ht]
    exact .refl _ _
  | reversed hm ho hs hacc hmoved htx hset =>
    have hpost : RewardPosted _ _ db db' := rewardPosted_insert htx (.refl _ _) rfl rfl hacc
    exact ⟨hmoved.kept, .reversed hm hs hset hpost (ho ▸ hpaid) (ho ▸ hget) hstatus⟩

theorem placed_silent {p : PreparedOrder} {orders : Table D2SOrder} {accounts : Table D2SBalanceAccount}
    (hnone : db.orders.get? o.id = none) (hsets : Table.Sets o db.orders orders)
    (hshare : ShareReserved e p db accounts t) (actionLogs : Table D2SUserActionLog) :
    RewardSilent db { db with orders, accounts, transactions := t, actionLogs } := by
  obtain ⟨hkept, hoff⟩ := hshare.offRewards
  refine ⟨hkept, hoff, rfl, paidKept_sets hsets fun o0 ho0 _ _ => ?_⟩
  cases hnone.symm.trans ho0

theorem OrderTx.rewards {t : Trans} (h : OrderTx t db db') : RewardStep db db' := by
  cases h with
  | idle => exact rewardStep_same rfl rfl rfl rfl
  | placed ht hk hnone hsets hshare => exact (placed_silent hnone hsets hshare _).step
  | placedPaid ht hk hnone hsets hshare hpaid =>
    have hplaced := placed_silent hnone hsets hshare db.actionLogs
    exact hplaced.trans (hpaid.rewards _)
  | @paid _ _ _ _ profiles orders paymentEvents _ ht hrow hsets hlock hpaid =>
    -- the payer's hash changes no status
    have hsilent : RewardSilent db { db with orders, profiles, paymentEvents } := by
      refine ⟨.refl rfl, .refl _ _, rfl, paidKept_sets hsets fun o0 ho0 hs _ => ?_⟩
      cases hrow.symm.trans ho0
      exact hs
    have hstep := hsilent.trans (hpaid.rewards db'.actionLogs)
    exact hstep
  | canceled hrow hpend hsets hshare =>
    obtain ⟨hkept, hoff⟩ := hshare.offRewards
    refine RewardSilent.step ⟨hkept, hoff, rfl, paidKept_sets hsets fun o0 ho0 hs _ => ?_⟩
    cases hrow.symm.trans ho0
    cases hpend.symm.trans hs
  | chargedBack hrow hpaid hcase hsets hrev => exact chargeBack_rewards hrev hsets rfl rfl
  | refunded hrow hpaid hdone hpart hsets =>
    exact RewardSilent.step ⟨.refl rfl, .refl _ _, rfl, paidKept_sets hsets fun _ _ _ _ => hpaid⟩

/-- **Every committed transaction makes one move of the rewards.** -/
theorem rewardMove [Digest] {t : Trans} (h : t.tx.run db = .ok ((), db')) : RewardStep db db' := by
  cases moneyTx h with
  | quiet hq => exact rewardStep_same hq.accounts hq.transactions hq.rewards hq.orders
  | createRefund hr =>
    obtain ⟨_, -, rfl⟩ := createD2SAlipayRefund_ok hr
    exact rewardStep_same rfl rfl rfl rfl
  | setUserRegion hr =>
    obtain ⟨_, _, -, rfl⟩ := setD2SUserRegion_ok hr
    exact rewardStep_same rfl rfl rfl rfl
  | commitOrder hr => exact (commitOrder_orderTx hr).rewards
  | paymentEvent hr => exact (paymentEvent_orderTx hr).rewards
  | expireOrder hr => exact (expireOrder_orderTx hr).rewards
  | completeRefund hr => exact (completeRefund_orderTx hr).rewards
  | commitWithdrawal hr =>
    obtain ⟨_, _, _, _, -, hm, hins, -, -, -, -, -, rfl⟩ := commitD2SWithdrawal_ok hr
    exact RewardSilent.step ⟨hm.kept, extends_insert hins rfl, rfl, .refl rfl⟩
  | reviewWithdrawal hr =>
    obtain ⟨_, _, _, _, _, _, -, -, -, -, hm, hins, rfl⟩ := reviewD2SWithdrawal_ok hr
    refine RewardSilent.step ⟨hm.kept, extends_insert hins ?_, rfl, .refl rfl⟩
    unfold OffRewards d2sReviewRow
    split_ifs <;> rfl

/-! ## Rewards agree with their orders and the ledger -/

def RewardStatus.orderStatus : RewardStatus → OrderStatus
  | .credited => .paid
  | .reversed => .chargeback

/-- What a reward is worth to the inviter. -/
def D2SInviteReward.net (r : D2SInviteReward) : ℤ := if r.status = .credited then r.amountMinor else 0

/-- Each reward agrees with its order, and its ledger rows stand on the inviter's account. -/
structure Rewards (db : DB) : Prop where
  settled : ∀ r ∈ db.rewards.rows, ∃ o, db.orders.get? r.orderID = some o ∧ o.status = r.status.orderStatus
  net : ∀ r ∈ db.rewards.rows, rewardNet db.transactions r.id = r.net
  account : ∀ r ∈ db.rewards.rows, ∃ i, HasAccount db.accounts i r.inviterUserID r.currency
  owner : ∀ v ∈ db.transactions.rows, v.kind.ofReward = true → ∃ r ∈ db.rewards.rows, r.id = v.referenceID ∧
    HasAccount db.accounts v.accountID r.inviterUserID r.currency

theorem Rewards.net_of_not_mem (hI : Rewards db) {id : String} (h : ∀ r ∈ db.rewards.rows, r.id ≠ id) :
    rewardNet db.transactions id = 0 := by
  refine sum_eq_zero fun v hv => decide_eq_false fun ⟨hk, href⟩ => ?_
  obtain ⟨r, hr, hid, -⟩ := hI.owner v hv hk
  exact h r hr (hid.trans href)

section Kept

variable [Digest] {t : Trans} {r : D2SInviteReward} {P : String → Prop}

theorem Rewards.order_kept (hI : Rewards db) (h : t.tx.run db = .ok ((), db')) (hP : PaidKept P db db')
    (hr : r ∈ db.rewards.rows) (hne : r.status = .credited → ¬ P r.orderID) :
    ∃ o, db'.orders.get? r.orderID = some o ∧ o.status = r.status.orderStatus := by
  obtain ⟨o, ho, hs⟩ := hI.settled r hr
  cases hst : r.status with
  | credited =>
    rw [hst] at hs
    exact hP r.orderID o (hne hst) ho hs
  | reversed =>
    rw [hst] at hs
    obtain ⟨δ, hmove, -⟩ := orderMove h _
    rw [ho] at hmove
    obtain ⟨o', ho', hkept⟩ := hmove.status
    refine ⟨o', ho', ?_⟩
    rw [hs] at hkept
    generalize o'.status = st at hkept
    cases hkept
    rfl

theorem Rewards.same (hI : Rewards db) (h : t.tx.run db = .ok ((), db')) (hacc : AccountsKept db db')
    (hrew : db'.rewards = db.rewards) (hoff : LedgerOff db db') (hP : PaidKept P db db')
    (hne : ∀ r ∈ db.rewards.rows, r.status = .credited → ¬ P r.orderID) : Rewards db' := by
  refine ⟨?_, ?_, ?_, fun v hv hk => ?_⟩
  · rw [hrew]
    exact fun r hr => hI.order_kept h hP hr (hne r hr)
  · rw [hrew]
    intro r hr
    rw [rewardNet_extends hoff, hI.net r hr]
  · rw [hrew]
    intro r hr
    obtain ⟨i, hi⟩ := hI.account r hr
    exact ⟨i, hacc _ _ _ hi⟩
  · obtain ⟨r, hr, hid, hown⟩ := hI.owner v (mem_extends hoff hv hk) hk
    exact ⟨r, hrew ▸ hr, hid, hacc _ _ _ hown⟩

theorem Rewards.credited (hI : Rewards db) (h : t.tx.run db = .ok ((), db')) (hacc : AccountsKept db db')
    {o : D2SOrder} (hins : db.rewards.insert r = some db'.rewards) (hs : r.status = .credited)
    (hpost : RewardPosted r r.amountMinor db db') (hP : PaidKept (fun _ => False) db db')
    (ho : db'.orders.get? r.orderID = some o) (hst : o.status = .paid) : Rewards db' := by
  have hmem := fun s => mem_insert (s := s) hins
  have hfresh : ∀ s ∈ db.rewards.rows, s.id ≠ r.id := Table.get?_eq_none.mp (Table.get?_of_insert hins)
  refine ⟨fun s hm => ?_, fun s hm => ?_, fun s hm => ?_, fun v hv hk => ?_⟩
  · rcases (hmem s).mp hm with hm | rfl
    · exact hI.order_kept h hP hm fun _ => id
    · exact ⟨o, ho, by rw [hst, hs]; rfl⟩
  · rw [hpost.net]
    rcases (hmem s).mp hm with hm | rfl
    · rw [if_neg (hfresh s hm).symm, hI.net s hm, add_zero]
    · rw [if_pos rfl, hI.net_of_not_mem hfresh, D2SInviteReward.net, if_pos hs, zero_add]
  · rcases (hmem s).mp hm with hm | rfl
    · obtain ⟨i, hi⟩ := hI.account s hm
      exact ⟨i, hacc _ _ _ hi⟩
    · exact hpost.account
  · rcases hpost.rows v hv hk with hold | ⟨href, hown⟩
    · obtain ⟨s, hm, hid, hown⟩ := hI.owner v hold hk
      exact ⟨s, (hmem s).mpr (.inl hm), hid, hacc _ _ _ hown⟩
    · exact ⟨r, (hmem r).mpr (.inr rfl), href.symm, hown⟩

theorem Rewards.reversed (hI : Rewards db) (h : t.tx.run db = .ok ((), db')) (hacc : AccountsKept db db')
    {o : D2SOrder} (hr : r ∈ db.rewards.rows) (hs : r.status = .credited)
    (hset : Table.Sets r.revoked db.rewards db'.rewards) (hpost : RewardPosted r (-r.amountMinor) db db')
    (hP : PaidKept (· = r.orderID) db db') (ho : db'.orders.get? r.orderID = some o) (hst : o.status = .chargeback) :
    Rewards db' := by
  refine ⟨fun s hm => ?_, fun s hm => ?_, fun s hm => ?_, fun v hv hk => ?_⟩
  · rcases hset.mem.mp hm with rfl | ⟨hm, hne⟩
    · exact ⟨o, ho, hst⟩
    · -- an order has one reward
      refine hI.order_kept h hP hm fun _ hoid => hne ?_
      rw [db.rewards.eq_of_clash hm hr (.inr (.inr hoid))]
      rfl
  · rw [hpost.net]
    rcases hset.mem.mp hm with rfl | ⟨hm, hne⟩
    · rw [show r.revoked.id = r.id from rfl, if_pos rfl, hI.net r hr, D2SInviteReward.net, if_pos hs,
        D2SInviteReward.net, if_neg (by simp [D2SInviteReward.revoked]), add_neg_cancel]
    · rw [if_neg fun hid => hne hid.symm, hI.net s hm, add_zero]
  · rcases hset.mem.mp hm with rfl | ⟨hm, -⟩
    · exact hpost.account
    · obtain ⟨i, hi⟩ := hI.account s hm
      exact ⟨i, hacc _ _ _ hi⟩
  · -- the row belongs to a reward that is there, possibly reversed now
    have hrow : r.revoked ∈ db'.rewards.rows := hset.mem.mpr (.inl rfl)
    rcases hpost.rows v hv hk with hold | ⟨href, hown⟩
    · obtain ⟨s, hm, hid, hown⟩ := hI.owner v hold hk
      by_cases hsr : s.id = r.id
      · have heq : s = r := db.rewards.eq_of_pk hm hr hsr
        subst heq
        exact ⟨s.revoked, hrow, hid, hacc _ _ _ hown⟩
      · exact ⟨s, hset.mem.mpr (.inr ⟨hm, hsr⟩), hid, hacc _ _ _ hown⟩
    · exact ⟨r.revoked, hrow, href.symm, hown⟩

theorem rewards_tx (hI : Rewards db) (h : t.tx.run db = .ok ((), db')) : Rewards db' := by
  obtain ⟨hacc, hmove⟩ := rewardMove h
  cases hmove with
  | same hr ht hP hne => exact hI.same h hacc hr ht hP hne
  | credited hins hs hpost hP ho hst => exact hI.credited h hacc hins hs hpost hP ho hst
  | reversed hr hs hset hpost hP ho hst => exact hI.reversed h hacc hr hs hset hpost hP ho hst

theorem reward_kept (h : t.tx.run db = .ok ((), db')) (hr : r ∈ db.rewards.rows) :
    r ∈ db'.rewards.rows ∨ r.revoked ∈ db'.rewards.rows := by
  cases (rewardMove h).2 with
  | same hrew => exact .inl (hrew ▸ hr)
  | credited hins => exact .inl ((mem_insert hins).mpr (.inl hr))
  | @reversed r0 _ hm hs hset =>
    by_cases hid : r.id = r0.id
    · rw [db.rewards.eq_of_pk hr hm hid]
      exact .inr (hset.mem.mpr (.inl rfl))
    · exact .inl (hset.mem.mpr (.inr ⟨hr, hid⟩))

end Kept

theorem rewards_run [Digest] (users : Table User) (options : Table OptionRow) (controls : Table D2SUserSecurityControl)
    (ops : List Op) : Rewards (run (.init users options controls) ops).db := by
  refine run_db (fun _ _ _ => rewards_tx) ⟨?_, ?_, ?_, ?_⟩ ops
  all_goals exact fun _ hr => absurd hr List.not_mem_nil

theorem Rewards.netCredited (hI : Rewards db) (hr : r ∈ db.rewards.rows) {a : D2SBalanceAccount}
    (ha : HasAccount db.accounts a.id r.inviterUserID r.currency) :
    netCredited db.transactions a.id r.id = r.net := by
  rw [← hI.net r hr, Desktop2Stereo.netCredited, rewardNet]
  refine sum_congr fun v hv => ?_
  by_cases hk : v.kind.ofReward = true ∧ v.referenceID = r.id
  · obtain ⟨s, hs, hid, hown⟩ := hI.owner v hv hk.1
    have heq : s = r := db.rewards.eq_of_pk hs hr (hid.trans hk.2)
    rw [heq] at hown
    simp [hk, hown.unique ha]
  · simp [hk]

/-- **Invite rewards are paid at most once and reversed exactly when their order is.** In every
reachable state a buyer has at most one reward, which is never deleted; a reward is reversed exactly
if its order is charged back; and what the ledger holds for it on the inviter's account is its
amount while it is credited and nothing once it is reversed. -/
theorem invite_rewards_settled [Digest] (users : Table User) (options : Table OptionRow)
    (controls : Table D2SUserSecurityControl) (ops : List Op) :
    let s := run (.init users options controls) ops
    (∀ r ∈ s.db.rewards.rows, ∀ r' ∈ s.db.rewards.rows, r.inviteeUserID = r'.inviteeUserID → r = r') ∧
    (∀ r ∈ s.db.rewards.rows, ∀ ops', ∃ r' ∈ (run s ops').db.rewards.rows,
      r'.id = r.id ∧ r'.inviteeUserID = r.inviteeUserID ∧ r'.inviterUserID = r.inviterUserID ∧ r'.orderID = r.orderID ∧
        r'.amountMinor = r.amountMinor) ∧
    ∀ r ∈ s.db.rewards.rows, ∃ o a, s.db.orders.get? r.orderID = some o ∧
      (r.status = .reversed ↔ o.status = .chargeback) ∧
      s.db.accounts.get? a.id = some a ∧ a.userID = r.inviterUserID ∧ a.currency = r.currency ∧
      netCredited s.db.transactions a.id r.id = if r.status = .credited then r.amountMinor else 0 := by
  intro s
  have hI : Rewards s.db := rewards_run users options controls ops
  refine ⟨fun r hr r' hr' heq => s.db.rewards.eq_of_clash hr hr' (.inr (.inl heq)), fun r hr ops' => ?_, fun r hr => ?_⟩
  · have hkept := run_db (I := fun db => r ∈ db.rewards.rows ∨ r.revoked ∈ db.rewards.rows) (fun t db db' hI h =>
      hI.elim (reward_kept h) fun hI => .inr ((reward_kept h hI).elim id id)) (.inl hr) ops'
    rcases hkept with h | h
    · exact ⟨r, h, rfl, rfl, rfl, rfl, rfl⟩
    · exact ⟨r.revoked, h, rfl, rfl, rfl, rfl, rfl⟩
  · obtain ⟨o, ho, hs⟩ := hI.settled r hr
    obtain ⟨i, a, ha, hu, hc⟩ := hI.account r hr
    have hid : a.id = i := (Table.get?_eq_some.mp ha).2
    subst hid
    refine ⟨o, a, ho, ?_, ha, hu, hc, hI.netCredited hr ⟨a, ha, hu, hc⟩⟩
    rw [hs]
    cases r.status <;> simp [RewardStatus.orderStatus]

end Desktop2Stereo
