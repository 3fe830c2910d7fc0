import Desktop2Stereo.Order.Moves

/-!
# The books of the balances

Every account's available column is the sum of its ledger rows, and its reserved column is what
its pending orders and withdrawals hold. In the middle of a transaction the reserved columns are
off by an excess, which the last statement brings back to zero.

* `Books db x`: the books are right up to the excess `x`.
-/

namespace Desktop2Stereo

open Relational GoText D2SOrder Table

/-! ## What is held -/

def pendingOrders (t : Table D2SOrder) (userID : ℤ) (currency : Currency) : ℤ :=
  t.sum (fun o => o.userID = userID ∧ o.currency = currency ∧ o.status = .pending) D2SOrder.balanceMinor

def pendingWithdrawals (t : Table D2SWithdrawalRequest) (userID : ℤ) (currency : Currency) : ℤ :=
  t.sum (fun w => w.userID = userID ∧ w.currency = currency ∧ w.status = .pending) D2SWithdrawalRequest.amountMinor

def ledgerOf (t : Table D2SBalanceTransaction) (id : String) : ℤ :=
  t.sum (fun v => v.accountID = id) D2SBalanceTransaction.amountMinor

def share (userID : ℤ) (currency : Currency) (amount : ℤ) : ℤ → Currency → ℤ :=
  fun u c => if u = userID ∧ c = currency then amount else 0

theorem share_add (userID : ℤ) (currency : Currency) (a b : ℤ) :
    share userID currency a + share userID currency b = share userID currency (a + b) := by
  funext u c
  simp only [Pi.add_apply, share]
  split_ifs <;> rfl

theorem share_zero (userID : ℤ) (currency : Currency) : share userID currency 0 = 0 := by
  funext u c
  simp [share]

theorem share_neg (userID : ℤ) (currency : Currency) (a : ℤ) :
    -share userID currency a = share userID currency (-a) := by
  funext u c
  simp only [Pi.neg_apply, share]
  split_ifs <;> simp

/-- What an order holds: its share of the balance while it is pending. -/
def D2SOrder.held (o : D2SOrder) : ℤ → Currency → ℤ :=
  share o.userID o.currency (if o.status = .pending then o.balanceMinor else 0)

variable {o : D2SOrder}

theorem D2SOrder.held_of_pending (h : o.status = .pending) : o.held = share o.userID o.currency o.balanceMinor := by
  rw [held, if_pos h]

theorem D2SOrder.held_of_ne (h : o.status ≠ .pending) : o.held = 0 := by
  rw [held, if_neg h, share_zero]

theorem held_apply (o : D2SOrder) (u : ℤ) (c : Currency) :
    o.held u c = if decide (o.userID = u ∧ o.currency = c ∧ o.status = .pending) then o.balanceMinor else 0 := by
  simp only [D2SOrder.held, share, decide_eq_true_eq]
  by_cases hs : o.status = .pending
  · simp only [hs, if_true, and_true, eq_comm]
  · simp [hs]

theorem pendingOrders_set {t t' : Table D2SOrder} (h : Sets o t t') (u : ℤ) (c : Currency) :
    pendingOrders t' u c = pendingOrders t u c - ((t.get? o.id).elim 0 fun r => r.held u c) + o.held u c := by
  rw [pendingOrders, h.sum, pk_eq, held_apply, pendingOrders]
  simp [held_apply]

/-! ## Books -/

/-- The books are right up to an excess in the reserved columns. -/
structure Books (db : DB) (excess : ℤ → Currency → ℤ) : Prop where
  available : ∀ id, availableOf db.accounts id = ledgerOf db.transactions id
  reserved : ∀ u c, reservedOf db.accounts u c =
    pendingOrders db.orders u c + pendingWithdrawals db.withdrawals u c + excess u c
  order_nonneg : ∀ oid o, db.orders.get? oid = some o → 0 ≤ o.balanceMinor
  withdrawal_nonneg : ∀ w ∈ db.withdrawals.rows, 0 ≤ w.amountMinor

variable {e : Env} {order : D2SOrder} {now : ℤ} {db db' : DB} {x : ℤ → Currency → ℤ}

theorem Books.congr (h : Books db x) (ha : db'.accounts = db.accounts) (ht : db'.transactions = db.transactions)
    (ho : db'.orders = db.orders) (hw : db'.withdrawals = db.withdrawals) : Books db' x := by
  refine ⟨?_, ?_, ?_, ?_⟩
  · rw [ha, ht]; exact h.available
  · rw [ha, ho, hw]; exact h.reserved
  · rw [ho]; exact h.order_nonneg
  · rw [hw]; exact h.withdrawal_nonneg

theorem Books.posted (h : Books db x) {v : D2SBalanceTransaction} {r : ℤ}
    (hm : AccountsMoved db.accounts db'.accounts v.accountID v.userID v.currency v.amountMinor r)
    (hins : db.transactions.insert v = some db'.transactions) (ho : db'.orders = db.orders)
    (hw : db'.withdrawals = db.withdrawals) : Books db' (x + share v.userID v.currency r) := by
  refine ⟨fun id => ?_, fun u c => ?_, ho ▸ h.order_nonneg, hw ▸ h.withdrawal_nonneg⟩
  · rw [hm.available_eq, h.available, ledgerOf, ledgerOf, sum_insert hins]
    by_cases hid : id = v.accountID
    · simp [hid]
    · simp [hid, Ne.symm hid]
  · rw [hm.reserved_eq, h.reserved, ho, hw, Pi.add_apply, Pi.add_apply, share]
    omega

theorem Books.set (h : Books db x) (hs : Sets o db.orders db'.orders) (hb : 0 ≤ o.balanceMinor)
    (ha : db'.accounts = db.accounts) (ht : db'.transactions = db.transactions)
    (hw : db'.withdrawals = db.withdrawals) :
    Books db' (x + (db.orders.get? o.id).elim 0 D2SOrder.held - o.held) := by
  refine ⟨by rw [ha, ht]; exact h.available, fun u c => ?_, fun oid o' ho' => ?_, by rw [hw]; exact h.withdrawal_nonneg⟩
  · have helim : ((db.orders.get? o.id).elim 0 D2SOrder.held) u c = (db.orders.get? o.id).elim 0 fun r => r.held u c := by
      cases db.orders.get? o.id <;> rfl
    rw [ha, h.reserved, hw, pendingOrders_set hs, Pi.sub_apply, Pi.sub_apply, Pi.add_apply, Pi.add_apply, helim]
    omega
  · rw [hs oid] at ho'
    split_ifs at ho' with hid
    · cases ho'; exact hb
    · exact h.order_nonneg oid o' ho'

section Row

variable {o' : D2SOrder} (h : Books db x) (hs : Sets o' db.orders db'.orders) (hrow : db.orders.get? o'.id = some o)
  (hb : o'.balanceMinor = o.balanceMinor) (ha : db'.accounts = db.accounts)
  (ht : db'.transactions = db.transactions) (hw : db'.withdrawals = db.withdrawals)
include h hs hrow hb ha ht hw

theorem Books.changed : Books db' (x + o.held - o'.held) := by
  have hset := h.set hs (hb ▸ h.order_nonneg _ o hrow) ha ht hw
  rwa [hrow, Option.elim_some] at hset

theorem Books.kept (hheld : o'.held = o.held) : Books db' x := by
  have hset := h.changed hs hrow hb ha ht hw
  rwa [hheld, add_sub_cancel_right] at hset

theorem Books.closed (hstatus : o'.status ≠ .pending) : Books db' (x + o.held) := by
  have hset := h.changed hs hrow hb ha ht hw
  rwa [held_of_ne hstatus, sub_zero] at hset

end Row

theorem Books.placed (h : Books db x) (hs : Sets o db.orders db'.orders) (hnone : db.orders.get? o.id = none)
    (hb : 0 ≤ o.balanceMinor) (ha : db'.accounts = db.accounts) (ht : db'.transactions = db.transactions)
    (hw : db'.withdrawals = db.withdrawals) : Books db' (x - o.held) := by
  have hset := h.set hs hb ha ht hw
  rwa [hnone, Option.elim_none, add_zero] at hset

theorem Books.rewarded (h : Books db x) {kind : TxKind} (hr : Rewarded db kind db'.accounts db'.transactions)
    (ho : db'.orders = db.orders) (hw : db'.withdrawals = db.withdrawals) : Books db' x := by
  rcases hr with ⟨ha, ht⟩ | ⟨v, -, hm, hins⟩
  · exact h.congr ha ht ho hw
  · have hp := h.posted hm hins ho hw
    rwa [share_zero, add_zero] at hp

/-! ## Settling -/

variable {accounts : Table D2SBalanceAccount} {transactions : Table D2SBalanceTransaction} {orders : Table D2SOrder}

theorem Books.settled (h : Books db (x + share order.userID order.currency order.balanceMinor)) {consume : Bool}
    (hb : 0 ≤ order.balanceMinor) (hset : ShareSettled e order consume now db accounts transactions) :
    Books { db with accounts, transactions } x := by
  cases hset with
  | none hz ha ht =>
    rw [le_antisymm hz hb, share_zero, add_zero] at h
    exact h.congr ha ht rfl rfl
  | @posted id hpos hle hm hins =>
    have hp : Books { db with accounts, transactions } _ := h.posted (v := d2sSettleRow e id order consume now) hm hins rfl rfl
    rwa [add_assoc, show (d2sSettleRow e id order consume now).userID = order.userID from rfl,
      show (d2sSettleRow e id order consume now).currency = order.currency from rfl, share_add, add_neg_cancel,
      share_zero, add_zero] at hp

theorem Delivery.rewarded (h : Delivery e order now db o db') :
    Rewarded db .inviteReward db'.accounts db'.transactions ∧ db'.withdrawals = db.withdrawals := by
  cases h with
  | license hp hl hev hv hrew => exact ⟨hrew.rewarded, rfl⟩
  | paidRevoke | offlineExtension => exact ⟨.inl ⟨rfl, rfl⟩, rfl⟩

theorem Books.delivered (h : Books db x) {db1 : DB} (hrow : db.orders.get? order.id = some order)
    (hpend : order.status = .pending) (hdel : Delivery e order now db o db1)
    (hsets : Sets ((order.assigned e.licenseID.val).paidAt now) db.orders orders) :
    Books { db1 with orders } (x + share order.userID order.currency order.balanceMinor) := by
  obtain ⟨_, heq⟩ := order.assigned_eq e.licenseID.val
  rw [heq] at hsets
  have hclosed : Books { db with orders } _ := h.closed hsets hrow rfl rfl rfl rfl (by simp [D2SOrder.paidAt])
  rw [held_of_pending hpend] at hclosed
  exact hclosed.rewarded hdel.rewarded.1 rfl hdel.rewarded.2

theorem fulfill_books (h : Books db x) (hrow : db.orders.get? order.id = some order) (hpend : order.status = .pending)
    (hful : (fulfillD2SOrderTx e order now).run db = .ok (o, db')) :
    Books db' (x + share o.userID o.currency o.balanceMinor) := by
  obtain ⟨_, _, hdel, hsets, rfl, rfl⟩ := fulfill_sets hful hrow hpend
  have hbooks := h.delivered hrow hpend hdel hsets
  obtain ⟨_, heq⟩ := order.assigned_eq e.licenseID.val
  rw [heq]
  exact hbooks

theorem cancel_books (h : Books db x) (hrow : db.orders.get? order.id = some order) (hpend : order.status = .pending)
    (hsets : Sets order.canceled db.orders orders) :
    Books { db with orders } (x + share order.userID order.currency order.balanceMinor) := by
  have hclosed : Books { db with orders } _ := h.closed hsets hrow rfl rfl rfl rfl (by simp [D2SOrder.canceled])
  rwa [held_of_pending hpend] at hclosed

/-! ## Orders -/

theorem OrderPaid.books (hpaid : OrderPaid e order now db db') (h : Books db x) : Books db' x := by
  cases hpaid with
  | intro hpend hrow hdel hsets hshare =>
    have hset := (h.delivered hrow hpend hdel hsets).settled (h.order_nonneg _ _ hrow)
      (hshare.congr rfl rfl rfl rfl rfl rfl)
    exact hset

theorem place_books {p : PreparedOrder} {pendingKey : Option String} (h : Books db 0)
    (hnone : db.orders.get? e.orderID.val = none)
    (hsets : Sets { p.order e.orderID with pendingKey } db.orders orders)
    (hshare : ShareReserved e p db accounts transactions) : Books { db with orders, accounts, transactions } 0 := by
  have hplaced : Books { db with orders } _ := h.placed hsets hnone p.admitted.1.1 rfl rfl rfl
  have hheld : ({ p.order e.orderID with pendingKey } : D2SOrder).held = share p.userID p.quote.currency p.balanceMinor :=
    held_of_pending rfl
  rw [hheld, zero_sub, share_neg] at hplaced
  cases hshare with
  | none hz ha ht =>
    rw [hz, neg_zero, share_zero] at hplaced
    exact hplaced.congr ha ht rfl rfl
  | @posted id hpos hle hm htx =>
    have hp : Books { db with orders, accounts, transactions } _ := hplaced.posted
      (v := d2sReserveRow e id p.userID p.quote.currency p.balanceMinor .reserve p.idempotencyKey p.now) hm htx rfl rfl
    have hsum := share_add p.userID p.quote.currency (-p.balanceMinor) p.balanceMinor
    rw [neg_add_cancel, share_zero] at hsum
    rw [← hsum]
    exact hp

theorem OrderTx.books {t : Trans} (htx : OrderTx t db db') (h : Books db 0) : Books db' 0 := by
  cases htx with
  | idle => exact h.congr rfl rfl rfl rfl
  | placed ht hk hnone hsets hshare => exact (place_books h hnone hsets hshare).congr rfl rfl rfl rfl
  | placedPaid ht hk hnone hsets hshare hpaid =>
    exact (hpaid.books (place_books h hnone hsets hshare)).congr rfl rfl rfl rfl
  | @paid _ _ _ _ profiles orders paymentEvents _ ht hrow hsets hlock hpaid =>
    have hpayer : Books { db with orders, profiles, paymentEvents } 0 := h.kept hsets hrow rfl rfl rfl rfl rfl
    exact hpaid.books hpayer
  | canceled hrow hpend hsets hshare =>
    have hset := (cancel_books h hrow hpend hsets).settled (h.order_nonneg _ _ hrow)
      (hshare.congr rfl rfl rfl rfl rfl rfl)
    exact hset.congr rfl rfl rfl rfl
  | chargedBack hrow hpaid hcase hsets hrev =>
    have hkept : Books { db with orders := _ } 0 :=
      h.kept hsets hrow rfl rfl rfl rfl (by rw [held_of_ne (by simp), held_of_ne (by simp [hpaid])])
    exact hkept.rewarded hrev.rewarded rfl rfl
  | refunded hrow hpaid hdone hpart hsets => exact h.kept hsets hrow rfl rfl rfl rfl rfl

/-! ## Withdrawals -/

variable {w : D2SWithdrawalRequest} {withdrawals : Table D2SWithdrawalRequest}

theorem Books.requested (h : Books db x) (hins : db.withdrawals.insert w = some withdrawals)
    (hpend : w.status = .pending) (hw : 0 ≤ w.amountMinor) :
    Books { db with withdrawals } (x - share w.userID w.currency w.amountMinor) := by
  refine ⟨h.available, fun u c => ?_, h.order_nonneg, fun w' hw' => ?_⟩
  · show reservedOf db.accounts u c = pendingOrders db.orders u c + pendingWithdrawals withdrawals u c + _
    rw [h.reserved, pendingWithdrawals, pendingWithdrawals, sum_insert hins, Pi.sub_apply, Pi.sub_apply, share]
    by_cases huc : u = w.userID ∧ c = w.currency
    · rw [if_pos huc, if_pos (decide_eq_true ⟨huc.1.symm, huc.2.symm, hpend⟩)]
      omega
    · have hne : ¬ (w.userID = u ∧ w.currency = c ∧ w.status = .pending) := fun hh => huc ⟨hh.1.symm, hh.2.1.symm⟩
      simp [huc, hne]
  · rcases (mem_insert hins).mp hw' with hw' | rfl
    · exact h.withdrawal_nonneg w' hw'
    · exact hw

theorem commitWithdrawal_books {p : PreparedWithdrawal} (h : Books db 0)
    (hr : (commitD2SWithdrawal e p).run db = .ok (w, db')) : Books db' 0 := by
  obtain ⟨accounts, transactions, _, id, -, hm, htx, hins, hu, hc, ha, hpend, rfl⟩ := commitD2SWithdrawal_ok hr
  have hp : Books { db with accounts, transactions } _ := h.posted
    (v := d2sReserveRow e id p.userID .CNY p.amountMinor .withdrawalReserve w.id p.now) hm htx rfl rfl
  have hreq := hp.requested hins hpend (ha ▸ p.amount_nonneg)
  rw [hu, hc, ha] at hreq
  change Books _ (0 + share p.userID .CNY p.amountMinor - share p.userID .CNY p.amountMinor) at hreq
  rwa [add_sub_cancel_right] at hreq

theorem Books.reviewed (h : Books db x) {row row' : D2SWithdrawalRequest}
    (hs : Sets row' db.withdrawals withdrawals) (hrow : db.withdrawals.get? row'.id = some row)
    (hpend : row.status = .pending) (hst : row'.status ≠ .pending) (ha : row'.amountMinor = row.amountMinor) :
    Books { db with withdrawals } (x + share row.userID row.currency row.amountMinor) := by
  refine ⟨h.available, fun u c => ?_, h.order_nonneg, fun w hw => ?_⟩
  · show reservedOf db.accounts u c = pendingOrders db.orders u c + pendingWithdrawals withdrawals u c + _
    rw [h.reserved, pendingWithdrawals, pendingWithdrawals, hs.sum, pk_ofKey, hrow, Option.elim_some,
      Pi.add_apply, Pi.add_apply, share]
    by_cases huc : u = row.userID ∧ c = row.currency
    · rw [if_pos huc, if_pos (decide_eq_true ⟨huc.1.symm, huc.2.symm, hpend⟩),
        if_neg fun hd => hst (of_decide_eq_true hd).2.2]
      omega
    · have hne : ¬ (row.userID = u ∧ row.currency = c ∧ row.status = .pending) := fun hh => huc ⟨hh.1.symm, hh.2.1.symm⟩
      simp [huc, hne, hst]
  · have hg := get?_pk hw
    rw [hs] at hg
    split_ifs at hg with hk
    · cases hg
      rw [ha]
      exact h.withdrawal_nonneg row (get?_eq_some.mp hrow).1
    · exact h.withdrawal_nonneg w (get?_eq_some.mp hg).1

theorem reviewWithdrawal_books {adminID : ℤ} {requestID status note : String} {audit : Option D2SAdminOperationAudit}
    (h : Books db 0) (hr : (reviewD2SWithdrawal e adminID requestID status note now audit).run db = .ok (w, db')) :
    Books db' 0 := by
  obtain ⟨row, st, accounts, transactions, _, id, hrow, hpend, hst, -, hm, hins, rfl⟩ :=
    reviewD2SWithdrawal_ok hr
  have hp : Books { db with accounts, transactions } _ := h.posted (v := d2sReviewRow e id row st now) hm hins rfl rfl
  have hid : row.id = requestID := (get?_eq_some.mp hrow).2
  have hget : db.withdrawals.get? row.id = some row := by rw [hid, hrow]
  have hsets : Sets (row.reviewed st adminID note now) db.withdrawals
      (db.withdrawals.modify (·.id = requestID) (·.reviewed st adminID note now) (fun _ => rfl)) :=
    sets_modify hget (fun r hr => (of_decide_eq_true hr).trans hid.symm) (decide_eq_true hid)
  have hrev := hp.reviewed hsets hget hpend hst rfl
  change Books _ (0 + share row.userID row.currency (-row.amountMinor) + share row.userID row.currency row.amountMinor)
    at hrev
  rw [zero_add, share_add, neg_add_cancel, share_zero] at hrev
  exact hrev.congr rfl rfl rfl rfl

/-- **A committed transaction keeps the books.** -/
theorem books_tx [Digest] {t : Trans} (h : Books db 0) (htx : t.tx.run db = .ok ((), db')) : Books db' 0 := by
  cases moneyTx htx with
  | quiet hq => exact h.congr hq.accounts hq.transactions hq.orders hq.withdrawals
  | createRefund hr =>
    obtain ⟨_, -, rfl⟩ := createD2SAlipayRefund_ok hr
    exact h.congr rfl rfl rfl rfl
  | setUserRegion hr =>
    obtain ⟨_, _, -, rfl⟩ := setD2SUserRegion_ok hr
    exact h.congr rfl rfl rfl rfl
  | commitOrder hr => exact (commitOrder_orderTx hr).books h
  | paymentEvent hr => exact (paymentEvent_orderTx hr).books h
  | expireOrder hr => exact (expireOrder_orderTx hr).books h
  | completeRefund hr => exact (completeRefund_orderTx hr).books h
  | commitWithdrawal hr => exact commitWithdrawal_books h hr
  | reviewWithdrawal hr => exact reviewWithdrawal_books h hr

end Desktop2Stereo
