import Desktop2Stereo.Effects.OrderTx

/-!
# The life of an order

What a transaction can do to one order, and what it records under the order's id in the other
tables.

* **`orderMove`**: a committed transaction makes one move of each order.
-/

namespace Desktop2Stereo

open Relational GoText D2SOrder

/-! ## Traces -/

/-- What the other tables record under an order id: licence events, licences, and the ledger rows
that consume or release the order's share of the balance. -/
@[ext] structure Trace where
  events : ℕ := 0
  licenses : ℕ := 0
  consumed : ℕ := 0
  released : ℕ := 0
  deriving DecidableEq

namespace Trace

instance : Zero Trace := ⟨{}⟩

instance : Add Trace :=
  ⟨fun a b => ⟨a.events + b.events, a.licenses + b.licenses, a.consumed + b.consumed, a.released + b.released⟩⟩

@[simp] theorem zero_events : (0 : Trace).events = 0 := rfl
@[simp] theorem zero_licenses : (0 : Trace).licenses = 0 := rfl
@[simp] theorem zero_consumed : (0 : Trace).consumed = 0 := rfl
@[simp] theorem zero_released : (0 : Trace).released = 0 := rfl
@[simp] theorem add_events (a b : Trace) : (a + b).events = a.events + b.events := rfl
@[simp] theorem add_licenses (a b : Trace) : (a + b).licenses = a.licenses + b.licenses := rfl
@[simp] theorem add_consumed (a b : Trace) : (a + b).consumed = a.consumed + b.consumed := rfl
@[simp] theorem add_released (a b : Trace) : (a + b).released = a.released + b.released := rfl

@[simp] theorem add_zero (a : Trace) : a + 0 = a := rfl

@[simp] theorem zero_add (a : Trace) : 0 + a = a := by
  ext <;> simp

theorem add_assoc (a b c : Trace) : a + b + c = a + (b + c) := by
  ext <;> simp [Nat.add_assoc]

end Trace

def DB.trace (db : DB) (oid : String) : Trace where
  events := db.licenseEvents.count fun v => v.orderID = oid
  licenses := db.licenses.count fun l => l.sourceOrderID = oid
  consumed := db.transactions.count fun v => v.kind = .consume ∧ v.orderID = oid
  released := db.transactions.count fun v => v.kind = .release ∧ v.orderID = oid

/-- The trace of a delivery: one licence event, and the licence that was bought. -/
def D2SOrder.deliveredTrace (o : D2SOrder) : Trace :=
  { events := 1, licenses := if o.product = .license then 1 else 0 }

def D2SOrder.settledTrace (o : D2SOrder) (consume : Bool) : Trace :=
  if o.balanceMinor ≤ 0 then 0 else if consume then { consumed := 1 } else { released := 1 }

variable {e : Env} {order : D2SOrder} {now : ℤ} {db db' : DB} {oid : String}

theorem Quiet.trace (h : Quiet db db') (hoid : oid ≠ "") : db'.trace oid = db.trace oid := by
  have hev : db'.licenseEvents.count (fun v => v.orderID = oid) = db.licenseEvents.count fun v => v.orderID = oid :=
    h.events.count fun v hv => decide_eq_false fun hv' => hoid (hv'.symm.trans hv)
  ext
  · exact hev
  · exact h.sources oid hoid
  · rw [DB.trace, h.transactions]; rfl
  · rw [DB.trace, h.transactions]; rfl

theorem count_settlements {transactions : Table D2SBalanceTransaction} {v : D2SBalanceTransaction} {kind : TxKind}
    (h : db.transactions.insert v = some transactions) (hk : v.kind ≠ kind) :
    transactions.count (fun v => v.kind = kind ∧ v.orderID = oid) =
      db.transactions.count fun v => v.kind = kind ∧ v.orderID = oid := by
  rw [Table.count_insert h, if_neg fun h => hk (of_decide_eq_true h).1]
  rfl

theorem Rewarded.settlements {kind k : TxKind} {accounts : Table D2SBalanceAccount}
    {transactions : Table D2SBalanceTransaction} (h : Rewarded db kind accounts transactions) (hk : kind ≠ k) :
    transactions.count (fun v => v.kind = k ∧ v.orderID = oid) =
      db.transactions.count fun v => v.kind = k ∧ v.orderID = oid := by
  rcases h with ⟨-, rfl⟩ | ⟨v, rfl, -, hins⟩
  · rfl
  · exact count_settlements hins hk

theorem count_events {events : Table D2SLicenseEvent} {v : D2SLicenseEvent}
    (h : db.licenseEvents.insert v = some events) (hv : v.orderID = order.id) :
    events.count (fun v => v.orderID = oid) =
      db.licenseEvents.count (fun v => v.orderID = oid) + if order.id = oid then 1 else 0 := by
  rw [Table.count_insert h, hv]
  by_cases ho : order.id = oid <;> simp [ho]

theorem DB.trace_eq {c : Prop} [Decidable c] {δ : Trace}
    (he : db'.licenseEvents.count (fun v => v.orderID = oid) =
      db.licenseEvents.count (fun v => v.orderID = oid) + if c then δ.events else 0)
    (hl : db'.licenses.count (fun l => l.sourceOrderID = oid) =
      db.licenses.count (fun l => l.sourceOrderID = oid) + if c then δ.licenses else 0)
    (hc : db'.transactions.count (fun v => v.kind = .consume ∧ v.orderID = oid) =
      db.transactions.count (fun v => v.kind = .consume ∧ v.orderID = oid) + if c then δ.consumed else 0)
    (hr : db'.transactions.count (fun v => v.kind = .release ∧ v.orderID = oid) =
      db.transactions.count (fun v => v.kind = .release ∧ v.orderID = oid) + if c then δ.released else 0) :
    db'.trace oid = db.trace oid + if c then δ else 0 := by
  by_cases h : c
  · rw [if_pos h] at he hl hc hr ⊢
    exact Trace.ext he hl hc hr
  · rw [if_neg h] at he hl hc hr ⊢
    exact Trace.ext he hl hc hr

theorem Delivery.trace {o : D2SOrder} (h : Delivery e order now db o db') (hoid : oid ≠ "") :
    db'.trace oid = db.trace oid + if order.id = oid then order.deliveredTrace else 0 := by
  cases h with
  | license hp hl hev hv hrew =>
    refine DB.trace_eq (count_events hev hv.1) ?_ ?_ ?_
    · rw [Table.count_insert hl]
      by_cases ho : order.id = oid <;> simp [ho, d2sPaidLicense, deliveredTrace, hp]
    · rw [hrew.rewarded.settlements (by decide)]
      simp [deliveredTrace]
    · rw [hrew.rewarded.settlements (by decide)]
      simp [deliveredTrace]
  | paidRevoke hp hl hu hm hq hev hv | offlineExtension hp hl hu hev hv =>
    refine DB.trace_eq (count_events hev hv.1) ?_ (by simp [deliveredTrace]) (by simp [deliveredTrace])
    refine (sourcesKept_modify (fun _ => by rfl) oid hoid).trans ?_
    simp [deliveredTrace, hp]

variable {accounts : Table D2SBalanceAccount} {transactions : Table D2SBalanceTransaction}

theorem ShareSettled.trace {consume : Bool} (h : ShareSettled e order consume now db accounts transactions)
    (oid : String) : ({ db with accounts, transactions } : DB).trace oid =
      db.trace oid + if order.id = oid then order.settledTrace consume else 0 := by
  cases h with
  | none hb ha ht =>
    have hz : order.settledTrace consume = 0 := if_pos hb
    rw [hz, ite_self, ha, ht]
    rfl
  | posted hb hle hm hins =>
    have htrace : order.settledTrace consume = if consume then { consumed := 1 } else { released := 1 } :=
      if_neg (not_le.mpr hb)
    rw [htrace]
    cases consume with
    | true =>
      refine DB.trace_eq (by simp) (by simp) ?_ ?_
      · rw [Table.count_insert hins]
        simp [d2sSettleRow]
      · rw [count_settlements hins (by simp [d2sSettleRow])]
        simp
    | false =>
      refine DB.trace_eq (by simp) (by simp) ?_ ?_
      · rw [count_settlements hins (by simp [d2sSettleRow])]
        simp
      · rw [Table.count_insert hins]
        simp [d2sSettleRow]

theorem ShareReserved.trace {p : PreparedOrder} (h : ShareReserved e p db accounts transactions) (oid : String) :
    ({ db with accounts, transactions } : DB).trace oid = db.trace oid := by
  cases h with
  | none hz ha ht => rw [ha, ht]
  | posted hpos hle hm hins =>
    exact Trace.ext rfl rfl (count_settlements hins (by simp [d2sReserveRow]))
      (count_settlements hins (by simp [d2sReserveRow]))

/-! ## Paid orders -/

def D2SOrder.fulfilled (o : D2SOrder) : Prop := o.status = .paid ∨ o.status = .chargeback

instance (o : D2SOrder) : Decidable o.fulfilled := by
  unfold fulfilled; infer_instance

def D2SOrder.paidTrace (o : D2SOrder) : Trace := o.deliveredTrace + o.settledTrace true

theorem D2SOrder.paidTrace_paid (o : D2SOrder) (licenseID : String) (now : ℤ) :
    ((o.assigned licenseID).paidAt now).paidTrace = o.paidTrace := by
  obtain ⟨_, h⟩ := o.assigned_eq licenseID
  rw [h]
  rfl

theorem OrderPaid.sets (h : OrderPaid e order now db db') :
    Table.Sets ((order.assigned e.licenseID.val).paidAt now) db.orders db'.orders := by
  cases h with
  | intro hpend hrow hdel hsets => exact hsets

/-- **Paying an order** leaves the trace of its delivery and its settlement. -/
theorem OrderPaid.trace (h : OrderPaid e order now db db') (hoid : oid ≠ "") :
    db'.trace oid = db.trace oid + if order.id = oid then order.paidTrace else 0 := by
  cases h with
  | intro hpend hrow hdel hsets hshare =>
    refine (hshare.trace oid).trans ?_
    rw [hdel.trace hoid, Trace.add_assoc, paidTrace]
    split_ifs <;> rfl

/-! ## Moves -/

/-- The moves of an order in a transaction, with the trace that each leaves. -/
inductive OrderMove (t : Trans) : Option D2SOrder → Trace → Option D2SOrder → Prop
  | same {o} : OrderMove t o 0 o
  /-- a paid revoke claims its licence -/
  | placed {e p pendingKey} : t = .commitOrder e p → (p.quote.product = .paidRevoke → pendingKey = some p.quote.licenseID) →
      OrderMove t none 0 (some { p.order e.orderID with pendingKey })
  | placedPaid {e p pendingKey o} : t = .commitOrder e p →
      o = (assigned { p.order e.orderID with pendingKey } e.licenseID.val).paidAt p.now →
      OrderMove t none o.paidTrace (some o)
  | paid {o accountHash licenseID now} : o.status = .pending → (o.product ≠ .license → licenseID = o.licenseID) →
      (o.product = .license → licenseID ≠ "") →
      OrderMove t (some o) o.paidTrace
        (some ({ o with paymentAccountIdentifierHash := accountHash, licenseID }.paidAt now))
  | canceled {o} : o.status = .pending → OrderMove t (some o) (o.settledTrace false) (some o.canceled)
  | chargedBack {o refunded} : o.status = .paid →
      OrderMove t (some o) 0 (some { o with refundedMinor := refunded, status := .chargeback })
  | refunded {o refunded} : o.status = .paid → OrderMove t (some o) 0 (some { o with refundedMinor := refunded })

theorem OrderMove.fulfilled {t : Trans} {o : D2SOrder} {o' : Option D2SOrder} {δ : Trace}
    (h : OrderMove t (some o) δ o') (hs : o.status = .paid ∨ o.status = .chargeback) :
    ∃ refunded status, o' = some { o with refundedMinor := refunded, status } ∧
      (status = .paid ∨ status = .chargeback) := by
  cases h with
  | same => exact ⟨o.refundedMinor, o.status, rfl, hs⟩
  | paid hp | canceled hp => rw [hp] at hs; rcases hs with hs | hs <;> cases hs
  | chargedBack => exact ⟨_, .chargeback, rfl, .inr rfl⟩
  | refunded => exact ⟨_, o.status, rfl, hs⟩

theorem OrderMove.newlyPaid {t : Trans} {o : Option D2SOrder} {o' : D2SOrder} {δ : Trace}
    (h : OrderMove t o δ (some o')) (hs : o'.status = .paid ∨ o'.status = .chargeback)
    (hb : ∀ o0, o = some o0 → ¬ (o0.status = .paid ∨ o0.status = .chargeback)) : o'.status = .paid := by
  cases h with
  | same => exact absurd hs (hb _ rfl)
  | placed | canceled => rcases hs with hs | hs <;> cases hs
  | placedPaid ht ho => rw [ho]; rfl
  | paid => rfl
  | chargedBack hp => exact absurd (.inl hp) (hb _ rfl)
  | refunded hp => exact hp

/-- The transaction makes a move of the order and leaves its trace. -/
def Moves (t : Trans) (db db' : DB) (oid : String) : Prop :=
  ∃ δ, OrderMove t (db.orders.get? oid) δ (db'.orders.get? oid) ∧ (oid ≠ "" → db'.trace oid = db.trace oid + δ)

variable {t : Trans}

theorem moves_same (ho : db'.orders = db.orders) (ht : oid ≠ "" → db'.trace oid = db.trace oid) :
    Moves t db db' oid :=
  ⟨0, ho ▸ .same, fun hoid => (ht hoid).trans (Trace.add_zero _).symm⟩

theorem moves_sets {o : D2SOrder} {δ : Trace} (hrow : Table.Sets o db.orders db'.orders)
    (hmove : OrderMove t (db.orders.get? o.id) δ (some o))
    (ht : ∀ oid : String, oid ≠ "" → db'.trace oid = db.trace oid + if o.id = oid then δ else 0) :
    Moves t db db' oid := by
  unfold Moves
  rw [hrow oid, pk_eq]
  by_cases ho : o.id = oid
  · subst ho
    refine ⟨δ, by rwa [if_pos rfl], fun hoid => ?_⟩
    rw [ht _ hoid, if_pos rfl]
  · refine ⟨0, by rw [if_neg ho]; exact .same, fun hoid => ?_⟩
    rw [ht _ hoid, if_neg ho]

/-! ## The moves of each transaction -/

theorem OrderTx.moves (h : OrderTx t db db') : Moves t db db' oid := by
  cases h with
  | idle => exact moves_same rfl fun _ => rfl
  | @placed e p pendingKey _ _ _ _ ht hk hnone hsets hshare =>
    refine moves_sets hsets ?_ (δ := 0) fun oid _ => ?_
    · rw [show ({ p.order e.orderID with pendingKey } : D2SOrder).id = e.orderID.val from rfl, hnone]
      exact .placed ht hk
    · rw [ite_self, Trace.add_zero]
      exact hshare.trace oid
  | @placedPaid e p pendingKey _ _ _ _ _ ht hk hnone hsets hshare hpaid =>
    have hid := assigned_id { p.order e.orderID with pendingKey } e.licenseID.val
    have hmove : OrderMove t none _ (some ((assigned { p.order e.orderID with pendingKey }
      e.licenseID.val).paidAt p.now)) := .placedPaid ht rfl
    rw [paidTrace_paid] at hmove
    refine moves_sets (hsets.trans hpaid.sets hid) (δ := paidTrace { p.order e.orderID with pendingKey }) ?_
      fun oid hoid => ?_
    · rw [show (paidAt _ p.now).id = e.orderID.val from hid, hnone]
      exact hmove
    · rw [show (paidAt _ p.now).id = e.orderID.val from hid, ← hshare.trace oid]
      exact hpaid.trace hoid
  | @paid e n order hash _ _ _ _ ht hrow hsets hlock hpaid =>
    have hid := assigned_id { order with paymentAccountIdentifierHash := hash } e.licenseID.val
    have hpend : order.status = .pending := by
      cases hpaid with
      | intro hpend => exact hpend
    refine moves_sets (hsets.trans hpaid.sets hid) ?_ (δ := order.paidTrace) fun oid hoid => ?_
    · rw [show (paidAt _ (e.resolve n.now)).id = order.id from hid, hrow]
      unfold assigned
      split_ifs with hp
      · exact .paid hpend (fun hne => absurd hp hne) fun _ => e.licenseID.nonempty
      · exact .paid hpend (fun _ => rfl) fun hp' => absurd hp' hp
    · rw [show (paidAt _ (e.resolve n.now)).id = order.id from hid]
      exact hpaid.trace hoid
  | @canceled e order _ _ _ _ _ hrow hpend hsets hshare =>
    refine moves_sets hsets ?_ fun oid _ => hshare.trace oid
    rw [show order.canceled.id = order.id from rfl, hrow]
    exact .canceled hpend
  | chargedBack hrow hpaid hcase hsets hrev =>
    refine moves_sets hsets ?_ (δ := 0) fun oid hoid => ?_
    · rw [hrow]
      exact .chargedBack hpaid
    · rw [ite_self, Trace.add_zero]
      exact Trace.ext rfl (sourcesKept_suspended oid hoid) (hrev.rewarded.settlements (by decide))
        (hrev.rewarded.settlements (by decide))
  | refunded hrow hpaid hdone hpart hsets =>
    refine moves_sets hsets ?_ (δ := 0) fun oid _ => ?_
    · rw [hrow]
      exact .refunded hpaid
    · rw [ite_self, Trace.add_zero]
      rfl

/-- **A committed transaction makes one move of each order.** -/
theorem orderMove [Digest] (h : t.tx.run db = .ok ((), db')) (oid : String) : Moves t db db' oid := by
  cases moneyTx h with
  | quiet hq => exact moves_same hq.orders hq.trace
  | createRefund hr =>
    obtain ⟨_, -, rfl⟩ := createD2SAlipayRefund_ok hr
    exact moves_same rfl fun _ => rfl
  | setUserRegion hr =>
    obtain ⟨_, _, -, rfl⟩ := setD2SUserRegion_ok hr
    exact moves_same rfl fun _ => rfl
  | commitOrder hr => exact (commitOrder_orderTx hr).moves
  | paymentEvent hr => exact (paymentEvent_orderTx hr).moves
  | expireOrder hr => exact (expireOrder_orderTx hr).moves
  | completeRefund hr => exact (completeRefund_orderTx hr).moves
  | commitWithdrawal hr =>
    obtain ⟨_, _, _, _, -, -, hins, -, -, -, -, -, rfl⟩ := commitD2SWithdrawal_ok hr
    exact moves_same rfl fun _ => Trace.ext rfl rfl (count_settlements hins (by simp [d2sReserveRow]))
      (count_settlements hins (by simp [d2sReserveRow]))
  | reviewWithdrawal hr =>
    obtain ⟨row, st, _, _, _, id, -, -, -, -, -, hins, rfl⟩ := reviewD2SWithdrawal_ok hr
    have hkind : ∀ e now kind, kind = .consume ∨ kind = .release → (d2sReviewRow e id row st now).kind ≠ kind := by
      rintro _ _ _ (rfl | rfl) <;> unfold d2sReviewRow <;> split_ifs <;> simp
    exact moves_same rfl fun _ => Trace.ext rfl rfl (count_settlements hins (hkind _ _ _ (.inl rfl)))
      (count_settlements hins (hkind _ _ _ (.inr rfl)))

end Desktop2Stereo
