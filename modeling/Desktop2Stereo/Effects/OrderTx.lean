import Desktop2Stereo.Effects.Money

/-!
# What a transaction does to an order

Four transactions write orders: the commit of a new one, a payment event, an expiry and a completed refund. Each
does one of seven things, and each of these is a change of a few named tables.

* `OrderTx`: the seven cases; **`commitOrder_orderTx`**, **`paymentEvent_orderTx`**, `expireOrder_orderTx`,
  `completeRefund_orderTx`.
-/

namespace Desktop2Stereo

open Relational GoText Table

variable {e : Env} {order o : D2SOrder} {now : ℤ} {db db' : DB}

/-! ## The row of an order -/

theorem sets_row {orders : Table D2SOrder} {f : D2SOrder → D2SOrder} (h : ∀ o, Indexed.keys (f o) = Indexed.keys o)
    (hrow : orders.get? order.id = some order) : Table.Sets (f order) orders (orders.modify (·.id = order.id) f h) :=
  sets_modify hrow (fun _ hr => of_decide_eq_true hr) (decide_eq_true rfl)

/-- The row with the licence that its delivery assigns to it. -/
def D2SOrder.assigned (o : D2SOrder) (licenseID : String) : D2SOrder :=
  if o.product = .license then { o with licenseID } else o

theorem D2SOrder.assigned_eq (o : D2SOrder) (licenseID : String) :
    ∃ id, o.assigned licenseID = { o with licenseID := id } := by
  unfold assigned
  split_ifs
  · exact ⟨_, rfl⟩
  · exact ⟨o.licenseID, rfl⟩

theorem D2SOrder.assigned_id (o : D2SOrder) (licenseID : String) : (o.assigned licenseID).id = o.id := by
  obtain ⟨_, h⟩ := o.assigned_eq licenseID
  rw [h]

theorem D2SOrder.assigned_product (o : D2SOrder) (licenseID : String) : (o.assigned licenseID).product = o.product := by
  obtain ⟨_, h⟩ := o.assigned_eq licenseID
  rw [h]

theorem D2SOrder.assigned_licenseID {o : D2SOrder} (h : o.product = .license) (licenseID : String) :
    (o.assigned licenseID).licenseID = licenseID := by
  unfold assigned
  rw [if_pos h]

theorem Delivery.sets (h : Delivery e order now db o db') (hrow : db.orders.get? order.id = some order) :
    o = order.assigned e.licenseID.val ∧ Table.Sets o db.orders db'.orders := by
  unfold D2SOrder.assigned
  cases h with
  | license hp =>
    rw [if_pos hp]
    exact ⟨rfl, sets_row (fun _ => by rfl) hrow⟩
  | paidRevoke hp | offlineExtension hp =>
    rw [if_neg (by rw [hp]; decide)]
    exact ⟨rfl, sets_self hrow⟩

theorem recordedPayer_sets {orders : Table D2SOrder} (accountHash : String)
    (hrow : orders.get? order.id = some order) :
    ∃ hash, order.withPayer .paid accountHash = { order with paymentAccountIdentifierHash := hash } ∧
      Table.Sets (order.withPayer .paid accountHash) orders (recordedPayer orders order .paid accountHash) := by
  unfold D2SOrder.withPayer recordedPayer
  split_ifs
  · exact ⟨_, rfl, sets_row (fun _ => by rfl) hrow⟩
  · exact ⟨order.paymentAccountIdentifierHash, rfl, sets_self hrow⟩

theorem claim_sets (h : (claimD2SOrder order).run db = .ok (o, db')) (hrow : db.orders.get? order.id = some order)
    (hpend : order.status = .pending) :
    ∃ orders k, o = { order with pendingKey := k } ∧ (order.product = .paidRevoke → k = some order.licenseID) ∧
      db' = { db with orders } ∧ Table.Sets o db.orders orders := by
  unfold claimD2SOrder at h
  split_ifs at h with hp
  · simp only [claimD2SPendingKey, run_bind_ok, getD2SLicense_ok, run_count_ok, run_require_ok, run_assign_ok,
      run_pure_ok, and_assoc, exists_and_left, exists_eq_left, exists_const] at h
    obtain ⟨l, -, -, -, _, ⟨orders, halt, rfl⟩, rfl, rfl⟩ := h
    refine ⟨orders, _, rfl, fun _ => rfl, rfl, sets_alter halt (fun _ => rfl) hrow (fun r hr => ?_) ?_⟩
    · exact (of_decide_eq_true hr).1
    · exact decide_eq_true ⟨rfl, hpend⟩
  · obtain ⟨rfl, rfl⟩ := run_pure_ok.mp h
    exact ⟨_, o.pendingKey, rfl, fun hp' => absurd hp' hp, rfl, sets_self hrow⟩

/-! ## Reservation and payment -/

inductive ShareReserved (e : Env) (p : PreparedOrder) (db : DB) (accounts : Table D2SBalanceAccount)
    (transactions : Table D2SBalanceTransaction) : Prop
  | none : p.balanceMinor = 0 → accounts = db.accounts → transactions = db.transactions →
      ShareReserved e p db accounts transactions
  | posted {accountID : String} : 0 < p.balanceMinor → p.balanceMinor ≤ fundsOf db.accounts p.userID p.quote.currency →
      AccountsMoved db.accounts accounts accountID p.userID p.quote.currency (-p.balanceMinor) p.balanceMinor →
      db.transactions.insert (d2sReserveRow e accountID p.userID p.quote.currency p.balanceMinor .reserve
        p.idempotencyKey p.now) = some transactions →
      ShareReserved e p db accounts transactions

/-- A pending order is delivered, its row is marked as paid and its share of the balance is consumed. -/
inductive OrderPaid (e : Env) (order : D2SOrder) (now : ℤ) (db : DB) : DB → Prop
  | intro {o₁ db₁ orders accounts transactions} : order.status = .pending → db.orders.get? order.id = some order →
      Delivery e order now db o₁ db₁ →
      Table.Sets ((order.assigned e.licenseID.val).paidAt now) db.orders orders →
      ShareSettled e order true now db₁ accounts transactions →
      OrderPaid e order now db { db₁ with orders, accounts, transactions }

theorem fulfill_sets {db1 : DB} (hful : (fulfillD2SOrderTx e order now).run db = .ok (o, db1))
    (hrow : db.orders.get? order.id = some order) (hpend : order.status = .pending) :
    ∃ db2 orders, Delivery e order now db (order.assigned e.licenseID.val) db2 ∧
      Table.Sets ((order.assigned e.licenseID.val).paidAt now) db.orders orders ∧
      o = { order.assigned e.licenseID.val with status := .paid, completedAt := now } ∧ db1 = { db2 with orders } := by
  obtain ⟨_, db2, orders, hdel, halt, rfl, rfl⟩ := fulfillD2SOrderTx_ok hful
  obtain ⟨rfl, hrow1⟩ := hdel.sets hrow
  obtain ⟨_, heq⟩ := order.assigned_eq e.licenseID.val
  refine ⟨db2, orders, hdel, hrow1.trans ?_ rfl, rfl, rfl⟩
  refine sets_alter halt (fun _ => rfl) hrow1.get?_self (fun r hr => ?_) ?_
  · exact (of_decide_eq_true hr).1.trans (order.assigned_id _).symm
  · rw [heq]
    exact decide_eq_true ⟨rfl, hpend⟩

theorem orderPaid {db1 : DB} {u : Unit} (hful : (fulfillD2SOrderTx e order now).run db = .ok (o, db1))
    (hset : (settleD2SReservedBalanceTx e o true now).run db1 = .ok (u, db'))
    (hrow : db.orders.get? order.id = some order) (hpend : order.status = .pending) : OrderPaid e order now db db' := by
  obtain ⟨db2, orders, hdel, hsets, rfl, rfl⟩ := fulfill_sets hful hrow hpend
  obtain ⟨accounts, transactions, hsettled, rfl⟩ := settleD2SReservedBalanceTx_ok hset
  obtain ⟨_, heq⟩ := order.assigned_eq e.licenseID.val
  rw [heq] at hsettled
  have hpaid := OrderPaid.intro hpend hrow hdel hsets (hsettled.congr rfl rfl rfl rfl rfl rfl)
  exact hpaid

/-- The tables that the payment of an order writes. -/
theorem OrderPaid.frame (h : OrderPaid e order now db db') :
    ∃ licenses bindings leases licenseEvents quotas orders accounts transactions rewards, db' = { db with
      licenses, bindings, leases, licenseEvents, quotas, orders, accounts, transactions, rewards } := by
  cases h with
  | intro hpend hrow hdel => cases hdel <;> exact ⟨_, _, _, _, _, _, _, _, _, rfl⟩

/-! ## Transactions -/

def EventsKept (t : Trans) (db : DB) (paymentEvents : Table D2SPaymentEvent) : Prop :=
  paymentEvents = db.paymentEvents ∨ ∃ e n, t = .request (.paymentEvent e n)

/-- What a transaction does to an order, and to the other tables with it. -/
inductive OrderTx (t : Trans) (db : DB) : DB → Prop
  /-- a request that is repeated, or an event that finds its order as it would leave it -/
  | idle {paymentEvents actionLogs} : EventsKept t db paymentEvents → OrderTx t db { db with paymentEvents, actionLogs }
  | placed {e p pendingKey orders accounts transactions actionLogs} : t = .commitOrder e p →
      (p.quote.product = .paidRevoke → pendingKey = some p.quote.licenseID) → db.orders.get? e.orderID.val = none →
      Table.Sets { p.order e.orderID with pendingKey } db.orders orders →
      ShareReserved e p db accounts transactions → OrderTx t db { db with orders, accounts, transactions, actionLogs }
  | placedPaid {e p pendingKey orders accounts transactions actionLogs db₁} : t = .commitOrder e p →
      (p.quote.product = .paidRevoke → pendingKey = some p.quote.licenseID) → db.orders.get? e.orderID.val = none →
      Table.Sets { p.order e.orderID with pendingKey } db.orders orders →
      ShareReserved e p db accounts transactions →
      OrderPaid e { p.order e.orderID with pendingKey } p.now { db with orders, accounts, transactions } db₁ →
      OrderTx t db { db₁ with actionLogs }
  | paid {e n order paymentAccountIdentifierHash profiles orders paymentEvents db'} :
      t = .request (.paymentEvent e n) → db.orders.get? order.id = some order →
      Table.Sets { order with paymentAccountIdentifierHash } db.orders orders →
      RegionLocked order db.profiles profiles →
      OrderPaid e { order with paymentAccountIdentifierHash } (e.resolve n.now)
        { db with orders, profiles, paymentEvents } db' →
      OrderTx t db db'
  | canceled {e order now orders accounts transactions paymentEvents} : db.orders.get? order.id = some order →
      order.status = .pending → Table.Sets order.canceled db.orders orders →
      ShareSettled e order false now db accounts transactions → EventsKept t db paymentEvents →
      OrderTx t db { db with orders, accounts, transactions, paymentEvents }
  /-- a chargeback is reported, or a refund completes the order's refunds -/
  | chargedBack {e order refunded now orders accounts transactions rewards refunds paymentEvents} :
      db.orders.get? order.id = some order → order.status = .paid →
      ((refunded = order.refundedMinor ∧ refunds = db.refunds) ∨
        (refunded = order.gatewayMinor ∧ RefundDone db order refunded refunds)) →
      Table.Sets { order with refundedMinor := refunded, status := .chargeback } db.orders orders →
      Reversed e order now db accounts transactions rewards → EventsKept t db paymentEvents →
      OrderTx t db { db with
        orders, accounts, transactions, rewards, refunds, paymentEvents
        licenses := suspended db.licenses order.licenseID now }
  | refunded {order refunded orders refunds} : db.orders.get? order.id = some order → order.status = .paid →
      RefundDone db order refunded refunds → refunded ≠ order.gatewayMinor →
      Table.Sets { order with refundedMinor := refunded } db.orders orders → OrderTx t db { db with orders, refunds }

theorem place_ok {p : PreparedOrder} {orders : Table D2SOrder} {db1 : DB}
    (hins : db.orders.insert (p.order e.orderID) = some orders)
    (hclaim : (claimD2SOrder (p.order e.orderID)).run { db with orders } = .ok (o, db1))
    (hres : (0 < p.balanceMinor ∧ (reserveD2SBalance e p.userID p.quote.currency p.balanceMinor .reserve
        p.idempotencyKey p.now).run db1 = .ok ((), db')) ∨ (¬ 0 < p.balanceMinor ∧ db' = db1)) :
    ∃ pendingKey orders accounts transactions, o = { p.order e.orderID with pendingKey } ∧
      (p.quote.product = .paidRevoke → pendingKey = some p.quote.licenseID) ∧ Table.Sets o db.orders orders ∧
      ShareReserved e p db accounts transactions ∧ db' = { db with orders, accounts, transactions } := by
  have hrow0 := sets_insert hins
  obtain ⟨orders1, k, rfl, hk, rfl, hrow1⟩ := claim_sets hclaim hrow0.get?_self rfl
  have hsets := hrow0.trans hrow1 rfl
  rcases hres with ⟨hpos, hres⟩ | ⟨hz, rfl⟩
  · obtain ⟨accounts, transactions, _, hle, hm, htx, rfl⟩ := reserveD2SBalance_ok hres
    exact ⟨k, orders1, accounts, transactions, rfl, hk, hsets, .posted hpos hle hm htx, rfl⟩
  · have hzero := le_antisymm (not_lt.mp hz) p.admitted.1.1
    exact ⟨k, orders1, _, _, rfl, hk, hsets, .none hzero rfl rfl, rfl⟩

theorem commitD2SOrder_placed [Digest] {p : PreparedOrder} (h : (commitD2SOrder e p).run db = .ok (o, db')) :
    (∃ actionLogs, o ∈ db.orders.rows ∧ o.userID = p.userID ∧ o.idempotencyKey = p.idempotencyKey ∧
      o.placedFor p.quote p.balanceMinor ∧ db' = { db with actionLogs }) ∨
    ∃ o1 pendingKey orders accounts transactions actionLogs, o1 = { p.order e.orderID with pendingKey } ∧
      (p.quote.product = .paidRevoke → pendingKey = some p.quote.licenseID) ∧ db.orders.get? e.orderID.val = none ∧
      Table.Sets o1 db.orders orders ∧ ShareReserved e p db accounts transactions ∧
      ((o = o1 ∧ db' = { db with orders, accounts, transactions, actionLogs }) ∨
        (o.id = o1.id ∧ ∃ db1, OrderPaid e o1 p.now { db with orders, accounts, transactions } db1 ∧
          db' = { db1 with actionLogs })) := by
  rcases commitD2SOrder_ok h with hrep | ⟨_, _, _, _, db3, actionLogs, -, hins, hclaim, hres, hclose, rfl⟩
  · exact .inl hrep
  · obtain ⟨k, orders, accounts, transactions, rfl, hk, hsets, hshare, rfl⟩ := place_ok hins hclaim hres
    refine .inr ⟨_, k, orders, accounts, transactions, actionLogs, rfl, hk, Table.get?_of_insert hins, hsets, hshare, ?_⟩
    unfold closeD2SOrder at hclose
    split_ifs at hclose
    · simp only [run_bind_ok, run_pure_ok] at hclose
      obtain ⟨_, _, hful, _, _, hset, rfl, rfl⟩ := hclose
      have hpaid := orderPaid hful hset hsets.get?_self rfl
      obtain ⟨_, _, _, hdel, -, rfl, -⟩ := fulfillD2SOrderTx_ok hful
      exact .inr ⟨hdel.id, _, hpaid, rfl⟩
    · obtain ⟨rfl, rfl⟩ := run_pure_ok.mp hclose
      exact .inl ⟨rfl, rfl⟩

/-- **A commit of an order** repeats one, or places it, or places and pays it. -/
theorem commitOrder_orderTx [Digest] {p : PreparedOrder} (h : (commitD2SOrder e p).run db = .ok (o, db')) :
    OrderTx (.commitOrder e p) db db' := by
  rcases commitD2SOrder_placed h with ⟨_, -, -, -, -, rfl⟩ | ⟨_, k, _, _, _, _, rfl, hk, hnone, hsets, hshare, hcase⟩
  · exact .idle (.inl rfl)
  · rcases hcase with ⟨-, rfl⟩ | ⟨-, _, hpaid, rfl⟩
    · exact .placed rfl hk hnone hsets hshare
    · exact .placedPaid rfl hk hnone hsets hshare hpaid

theorem cancel_orderTx (h : (cancelD2SOrder e order now).run db = .ok (o, db'))
    (hrow : db.orders.get? order.id = some order) :
    ∃ orders accounts transactions, Table.Sets order.canceled db.orders orders ∧
      ShareSettled e order false now db accounts transactions ∧ db' = { db with orders, accounts, transactions } := by
  simp only [cancelD2SOrder, run_bind_ok, run_assign_ok, run_pure_ok] at h
  obtain ⟨_, _, ⟨orders, halt, rfl⟩, _, _, hset, rfl, rfl⟩ := h
  obtain ⟨accounts, transactions, hsettled, rfl⟩ := settleD2SReservedBalanceTx_ok hset
  refine ⟨orders, accounts, transactions, ?_, ?_, rfl⟩
  · exact sets_alter halt (fun _ => rfl) hrow (fun r hr => of_decide_eq_true hr) (decide_eq_true rfl)
  · exact hsettled.congr rfl rfl rfl rfl rfl rfl

/-- **A payment event** is a repetition, or pays, cancels or charges back its order. -/
theorem paymentEvent_orderTx {n : PaymentNotice} (h : (processD2SPaymentEvent e n).run db = .ok (o, db')) :
    OrderTx (.request (.paymentEvent e n)) db db' := by
  obtain ⟨_, ⟨_, -, rfl⟩, ⟨_, -, -, -, -, -, rfl⟩ | ⟨order, paymentEvents, -, -, -, hrow, -, happly⟩⟩ :=
    processD2SPaymentEvent_ok h
  · exact .idle (.inl rfl)
  · have hkept : EventsKept (.request (.paymentEvent e n)) db paymentEvents := .inr ⟨e, n, rfl⟩
    cases happly with
    | paid accountHash hv happly =>
      obtain ⟨hash, heq, hpayer⟩ := recordedPayer_sets accountHash hrow
      obtain ⟨_, _, hpend, -, hlock, hful, hset⟩ := applyPaid_ok happly
      rw [heq] at hpayer hpend hlock hful
      exact .paid rfl hrow hpayer ⟨hlock.before, hlock.regions⟩ (orderPaid hful hset hpayer.get?_self hpend)
    | canceled hv happly =>
      rcases applyCanceled_ok happly with ⟨-, -, rfl⟩ | ⟨hpend, hcancel⟩
      · exact .idle hkept
      · obtain ⟨_, _, _, hsets, hshare, rfl⟩ := cancel_orderTx hcancel hrow
        exact .canceled hrow hpend hsets (hshare.congr rfl rfl rfl rfl rfl rfl) hkept
    | chargeback hv happly =>
      rcases applyChargeback_ok happly with ⟨-, -, rfl⟩ | ⟨hpaid, _, _, _, hrev, -, rfl⟩
      · exact .idle hkept
      · exact .chargedBack hrow hpaid (.inl ⟨rfl, rfl⟩) (sets_row (fun _ => by rfl) hrow) (hrev.congr rfl rfl rfl) hkept

theorem expireOrder_orderTx {orderID : String} {u : Unit} (h : (expireD2SOrder e orderID now).run db = .ok (u, db')) :
    OrderTx (.request (.expireOrder e orderID now)) db db' := by
  rcases expireD2SOrder_ok h with rfl | ⟨_, o, hrow, hpend, -, -, hcancel⟩
  · exact .idle (.inl rfl)
  · obtain ⟨_, _, _, hsets, hshare, rfl⟩ := cancel_orderTx hcancel hrow
    exact .canceled hrow hpend hsets hshare (.inl rfl)

theorem completeRefund_orderTx {outRequestNo providerTradeNo : String} {u : Unit}
    (h : (completeD2SAlipayRefund e outRequestNo providerTradeNo now).run db = .ok (u, db')) :
    OrderTx (.request (.completeRefund e outRequestNo providerTradeNo now)) db db' := by
  rcases completeD2SAlipayRefund_ok h with rfl | ⟨_, _, _, hdone, hrow, hpaid, hcase⟩
  · exact .idle (.inl rfl)
  · rcases hcase with ⟨hfull, _, _, _, hrev, rfl⟩ | ⟨hpart, rfl⟩
    · exact .chargedBack hrow hpaid (.inr ⟨hfull, hdone⟩) (sets_row (fun _ => by rfl) hrow) hrev (.inl rfl)
    · exact .refunded hrow hpaid hdone hpart (sets_row (fun _ => by rfl) hrow)

end Desktop2Stereo
