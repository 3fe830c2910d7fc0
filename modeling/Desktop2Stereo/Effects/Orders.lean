import Desktop2Stereo.Effects.Balance

/-!
# What the order operations do

The transactions of `Model.Orders` taken apart. Where an operation runs another one, its lemma
gives the runs of the parts, so that each part is described once.

* `Delivery`: the effect of delivering each product; `deliverD2SOrder_ok`, `fulfillD2SOrderTx_ok`.
-/

namespace Desktop2Stereo

open Relational GoText Table

variable {e : Env} {now : ℤ} {db db' : DB} {order : D2SOrder} {licenseID : String}

theorem d2sUsedCount_ok {month : Month} {n : ℤ} :
    (d2sUsedCount licenseID month).run db = .ok (n, db') ↔
      n = ((db.quotas.get? (licenseID, month)).map D2SPaidRevokeQuota.usedCount).getD 0 ∧ db' = db := by
  have hp : ∀ q : D2SPaidRevokeQuota, decide (q.licenseID = licenseID ∧ q.periodMonth = month) = true ↔
      pk q = (licenseID, month) := by
    intro q
    rw [decide_eq_true_eq, pk_ofKey, Prod.mk.injEq]
  have hfind : db.quotas.find? (fun q => decide (q.licenseID = licenseID ∧ q.periodMonth = month)) =
      db.quotas.get? (licenseID, month) := by
    rw [find?_of_pk fun q hq => (hp q).mp hq]
    cases hg : db.quotas.get? (licenseID, month) with
    | none => rfl
    | some q => simp [Option.filter, (hp q).mpr (get?_eq_some.mp hg).2]
  simp only [d2sUsedCount, run_bind_ok, run_lookup_ok, run_pure_ok, hfind]
  constructor
  · rintro ⟨_, _, ⟨rfl, rfl⟩, hn, rfl⟩
    exact ⟨hn, rfl⟩
  · rintro ⟨hn, rfl⟩
    exact ⟨_, _, ⟨rfl, rfl⟩, hn, rfl⟩

/-! ## Delivery -/

/-- The stored number of paid revokes of a licence in a month. -/
def DB.usedCount (db : DB) (licenseID : String) (month : Month) : ℤ :=
  ((db.quotas.get? (licenseID, month)).map D2SPaidRevokeQuota.usedCount).getD 0

/-- A paid revoke takes the next number of its licence in the month. -/
structure QuotaSpent (order : D2SOrder) (now : ℤ) (db : DB) (quotas : Table D2SPaidRevokeQuota) : Prop where
  number : db.usedCount order.licenseID (utcMonth now) + 1 = order.revokeNumber
  le : order.revokeNumber ≤ 3
  quota : ∀ k, quotas.get? k = if (order.licenseID, utcMonth now) = k then
    some { licenseID := order.licenseID, periodMonth := utcMonth now, usedCount := order.revokeNumber, updatedAt := now }
    else db.quotas.get? k

/-- The effect of delivering an order, by product. Each delivery logs one licence event of its
licence under the order's id. -/
inductive Delivery (e : Env) (order : D2SOrder) (now : ℤ) (db : DB) : D2SOrder → DB → Prop
  | license {licenses events accounts transactions rewards} {v : D2SLicenseEvent} :
      order.product = .license → db.licenses.insert (d2sPaidLicense e order now) = some licenses →
      db.licenseEvents.insert v = some events → v.orderID = order.id ∧ v.licenseID = e.licenseID.val →
      Awarded e { order with licenseID := e.licenseID.val } now db accounts transactions rewards →
      Delivery e order now db { order with licenseID := e.licenseID.val }
        { db with
          licenses, licenseEvents := events, accounts, transactions, rewards
          orders := db.orders.modify (·.id = order.id) (fun o => { o with licenseID := e.licenseID.val })
            (fun _ => rfl) }
  | paidRevoke {l quotas events} {v : D2SLicenseEvent} :
      order.product = .paidRevoke → db.licenses.get? order.licenseID = some l → l.userID = order.userID →
      l.mode ≠ .permanent → QuotaSpent order now db quotas → db.licenseEvents.insert v = some events →
      v.orderID = order.id ∧ v.licenseID = order.licenseID →
      Delivery e order now db order
        { db with
          quotas, licenseEvents := events
          bindings := db.bindings.delete (·.licenseID = order.licenseID)
          leases := db.leases.delete (·.licenseID = order.licenseID)
          licenses := db.licenses.modify (·.id = order.licenseID) (·.unbound now) (fun _ => rfl) }
  | offlineExtension {l events} {v : D2SLicenseEvent} :
      order.product = .offlineExtension → db.licenses.get? order.licenseID = some l → l.userID = order.userID →
      db.licenseEvents.insert v = some events → v.orderID = order.id ∧ v.licenseID = order.licenseID →
      Delivery e order now db order
        { db with
          licenseEvents := events
          licenses := db.licenses.modify (·.id = order.licenseID) (·.extended now) (fun _ => rfl) }

variable {o : D2SOrder}

theorem deliverD2SOrder_ok (h : (deliverD2SOrder e order now).run db = .ok (o, db')) :
    Delivery e order now db o db' := by
  unfold deliverD2SOrder at h
  split at h
  · next hp =>
    simp only [fulfillLicense, run_bind_ok, run_create_ok, run_updates_ok, run_pure_ok, exists_eq_left,
      exists_const] at h
    obtain ⟨_, ⟨_, hl, rfl⟩, _, ⟨events, hev, rfl⟩, _, _, haward, rfl, rfl⟩ := h
    obtain ⟨_, _, _, haw, rfl⟩ := awardD2SInviteTx_ok haward
    exact .license hp hl hev ⟨rfl, rfl⟩ (haw.congr rfl rfl rfl rfl)
  · next hp =>
    simp only [fulfillPaidRevoke, run_bind_ok, getD2SLicense_ok, run_require_ok, d2sUsedCount_ok,
      run_delete_ok, run_updates_ok, run_create_ok, run_pure_ok, and_assoc, exists_and_left, exists_eq_left,
      exists_const] at h
    obtain ⟨l, hl, hu, hmode, hnum, hle, _, _, hup, _, ⟨events, hev, rfl⟩, rfl, rfl⟩ := h
    have hid := license_id hl
    simp only [hid] at hnum hup hev ⊢
    obtain ⟨_, rfl, hquota⟩ := run_upsert_row (fun c => by simp) hup
    exact .paidRevoke hp hl hu hmode ⟨hnum, hle, hquota⟩ hev ⟨rfl, rfl⟩
  · next hp =>
    simp only [fulfillOfflineExtension, run_bind_ok, getD2SLicense_ok, run_updates_ok, run_create_ok,
      run_pure_ok, and_assoc, exists_and_left, exists_eq_left, exists_const] at h
    obtain ⟨l, hl, hu, _, ⟨_, hev, rfl⟩, rfl, rfl⟩ := h
    have hid := license_id hl
    simp only [hid] at hev ⊢
    exact .offlineExtension hp hl hu hev ⟨rfl, rfl⟩

/-- What paying an order writes into its row. -/
def D2SOrder.paidAt (o : D2SOrder) (now : ℤ) : D2SOrder :=
  { o with status := .paid, completedAt := now, pendingKey := none }

theorem Delivery.id (h : Delivery e order now db o db') : o.id = order.id := by
  cases h <;> rfl

theorem fulfillD2SOrderTx_ok (h : (fulfillD2SOrderTx e order now).run db = .ok (o, db')) :
    ∃ o1 db1 orders, Delivery e order now db o1 db1 ∧
      db1.orders.alter (fun o => o.id = order.id ∧ o.status = .pending) (·.paidAt now) = some orders ∧
      o = { o1 with status := .paid, completedAt := now } ∧ db' = { db1 with orders } := by
  simp only [fulfillD2SOrderTx, run_bind_ok, run_assign_ok, run_pure_ok] at h
  obtain ⟨o1, db1, hdel, _, _, ⟨orders, halt, rfl⟩, rfl, rfl⟩ := h
  have hd := deliverD2SOrder_ok hdel
  rw [hd.id] at halt
  exact ⟨o1, db1, orders, hd, halt, rfl, rfl⟩

/-! ## Creation -/

variable {u : Unit} {purchaseAudit : Option D2SActionLogInput}

theorem auditPurchase_ok [Digest] (h : (auditPurchase e purchaseAudit).run db = .ok (u, db')) :
    ∃ actionLogs, db' = { db with actionLogs } := by
  cases purchaseAudit with
  | none =>
    simp only [auditPurchase, run_pure_ok] at h
    exact ⟨_, h.2⟩
  | some =>
    simp only [auditPurchase, recordD2SUserAction, run_bind_ok, run_attempt_ok, run_create_ok, and_assoc,
      exists_and_left, exists_eq_left] at h
    obtain ⟨_, -, _, -, actionLogs, -, rfl⟩ := h
    exact ⟨actionLogs, rfl⟩

theorem repeatD2SOrder_ok [Digest] {existing : D2SOrder} {quote : D2SOrderQuote} {balanceMinor : ℤ}
    (h : (repeatD2SOrder e existing quote balanceMinor purchaseAudit).run db = .ok (o, db')) :
    existing.placedFor quote balanceMinor ∧ o = existing ∧ ∃ actionLogs, db' = { db with actionLogs } := by
  simp only [repeatD2SOrder, run_bind_ok, run_require_ok, run_pure_ok, and_assoc, exists_and_left, exists_eq_left,
    exists_const] at h
  obtain ⟨hpl, _, _, haudit, rfl, rfl⟩ := h
  exact ⟨hpl, rfl, auditPurchase_ok haudit⟩

/-- The transaction of an order creation: a repeated key changes nothing but the audit trail; a
new order is inserted, claimed, reserved and closed, in this sequence. -/
theorem commitD2SOrder_ok [Digest] {p : PreparedOrder} (h : (commitD2SOrder e p).run db = .ok (o, db')) :
    (∃ actionLogs, o ∈ db.orders.rows ∧ o.userID = p.userID ∧ o.idempotencyKey = p.idempotencyKey ∧
      o.placedFor p.quote p.balanceMinor ∧ db' = { db with actionLogs }) ∨
    (∃ orders o1 db1 db2 db3 actionLogs,
      (∀ o ∈ db.orders.rows, ¬ (o.userID = p.userID ∧ o.idempotencyKey = p.idempotencyKey)) ∧
      db.orders.insert (p.order e.orderID) = some orders ∧
      (claimD2SOrder (p.order e.orderID)).run { db with orders } = .ok (o1, db1) ∧
      ((0 < p.balanceMinor ∧ (reserveD2SBalance e p.userID p.quote.currency p.balanceMinor .reserve
          p.idempotencyKey p.now).run db1 = .ok ((), db2)) ∨ (¬ 0 < p.balanceMinor ∧ db2 = db1)) ∧
      (closeD2SOrder e o1 p.now).run db2 = .ok (o, db3) ∧ db' = { db3 with actionLogs }) := by
  simp only [commitD2SOrder, run_bind_ok, checkD2SBalanceRegion, run_whenever_ok, run_first_ok, run_require_ok,
    run_createIgnore_ok] at h
  obtain ⟨_, db0, hregion, _, _, hcreate, h⟩ := h
  have hdb : db0 = db := by
    rcases hregion with ⟨-, _, _, ⟨-, rfl⟩, -, rfl⟩ | ⟨-, rfl⟩ <;> rfl
  subst hdb
  rcases hcreate with ⟨rfl, rfl, _⟩ | ⟨rfl, hnone, orders, hins, rfl⟩
  · simp only [Bool.false_eq_true, if_false, run_bind_ok, run_first_ok, and_assoc, exists_and_left,
      exists_eq_left] at h
    obtain ⟨_, hex, hrep⟩ := h
    obtain ⟨hpl, rfl, actionLogs, rfl⟩ := repeatD2SOrder_ok hrep
    obtain ⟨hm, hk⟩ := find?_eq_some hex
    exact .inl ⟨actionLogs, hm, (of_decide_eq_true hk).1, (of_decide_eq_true hk).2, hpl, rfl⟩
  · simp only [if_true, placeD2SOrder, run_bind_ok, run_whenever_ok, run_pure_ok] at h
    obtain ⟨o1, db1, hclaim, _, db2, hres, o, db3, hclose, _, _, haudit, rfl, rfl⟩ := h
    obtain ⟨actionLogs, rfl⟩ := auditPurchase_ok haudit
    have hfresh := find?_eq_none.mp hnone
    exact .inr ⟨orders, o1, db1, db2, db3, actionLogs, fun o ho => of_decide_eq_false (hfresh o ho), hins, hclaim,
      hres, hclose, rfl⟩

/-! ## Payment events -/

def D2SOrder.canceled (o : D2SOrder) : D2SOrder := { o with status := .canceled, pendingKey := none }

/-- The buyer is in the region of the order from now on, and was in no other. -/
structure RegionLocked (order : D2SOrder) (t t' : Table D2SUserProfile) : Prop where
  before : regionOf t order.userID = none ∨ regionOf t order.userID = some order.region
  regions : ∀ u, regionOf t' u = if u = order.userID then some order.region else regionOf t u

theorem lockD2SRegion_ok (h : (lockD2SRegion order now).run db = .ok (u, db')) :
    ∃ profiles, RegionLocked order db.profiles profiles ∧ db' = { db with profiles } := by
  simp only [lockD2SRegion, run_bind_ok, run_first_ok, run_require_ok, run_whenever_ok, run_updates_ok,
    find?_ofKey, and_assoc, exists_and_left, exists_eq_left, exists_const] at h
  obtain ⟨p, hp, hreg, hlock⟩ := h
  have hregion : regionOf db.profiles order.userID = p.region := by rw [regionOf, hp, Option.bind_some]
  have hid : p.userID = order.userID := (get?_eq_some.mp hp).2
  rcases hlock with ⟨hnone, rfl⟩ | ⟨hsome, hdb⟩
  · refine ⟨_, ⟨.inl (hregion.trans hnone), fun u => ?_⟩, rfl⟩
    rw [regionOf, get?_modify]
    split_ifs with hu
    · rw [hu, hp, Option.map_some, Option.bind_some, if_pos (decide_eq_true ⟨hid, hnone⟩)]
      rfl
    · cases hq : db.profiles.get? u with
      | none => rw [regionOf, hq]; rfl
      | some q =>
        have hqu : q.userID = u := (get?_eq_some.mp hq).2
        rw [regionOf, hq, Option.map_some, if_neg fun hd => hu (hqu.symm.trans (of_decide_eq_true hd).1)]
  · have hsame : regionOf db.profiles order.userID = some order.region := hregion.trans (hreg.resolve_left hsome)
    refine ⟨db.profiles, ⟨.inr hsame, fun u => ?_⟩, hdb⟩
    split_ifs with hu
    · rw [hu, hsame]
    · rfl

theorem applyPaid_ok (h : (applyPaid e order now).run db = .ok (o, db')) :
    ∃ profiles db1, order.status = .pending ∧ (now < order.expiresAt ∨ order.provider = .alipayPC) ∧
      RegionLocked order db.profiles profiles ∧ (fulfillD2SOrderTx e order now).run { db with profiles } = .ok (o, db1) ∧
      (settleD2SReservedBalanceTx e o true now).run db1 = .ok ((), db') := by
  simp only [applyPaid, run_bind_ok, run_require_ok, run_pure_ok, and_assoc, exists_and_left, exists_eq_left,
    exists_const] at h
  obtain ⟨hpend, hdue, _, _, hlock, o, db1, hful, _, _, hset, rfl, rfl⟩ := h
  obtain ⟨profiles, hregion, rfl⟩ := lockD2SRegion_ok hlock
  exact ⟨profiles, db1, hpend, hdue, hregion, hful, hset⟩

theorem applyCanceled_ok (h : (applyCanceled e order now).run db = .ok (o, db')) :
    (order.status = .canceled ∧ o = order ∧ db' = db) ∨
    (order.status = .pending ∧ (cancelD2SOrder e order now).run db = .ok (o, db')) := by
  unfold applyCanceled at h
  split_ifs at h with hc
  · obtain ⟨rfl, rfl⟩ := run_pure_ok.mp h
    exact .inl ⟨hc, rfl, rfl⟩
  · simp only [run_bind_ok, run_require_ok, and_assoc, exists_and_left, exists_eq_left, exists_const] at h
    exact .inr h

/-- The licences after an order's licence is suspended, if it has one. -/
def suspended (licenses : Table D2SLicense) (licenseID : String) (now : ℤ) : Table D2SLicense :=
  if licenseID = "" then licenses
  else licenses.modify (·.id = licenseID) (fun l => { l with status := .suspended, updatedAt := now }) (fun _ => rfl)

theorem suspendD2SLicense_ok (h : (suspendD2SLicense licenseID now).run db = .ok (u, db')) :
    db' = { db with licenses := suspended db.licenses licenseID now } := by
  simp only [suspendD2SLicense, run_whenever_ok, run_updates_ok] at h
  unfold suspended
  rcases h with ⟨hne, rfl⟩ | ⟨heq, rfl⟩
  · rw [if_neg hne]
  · rw [if_pos (not_not.mp heq)]

theorem applyChargeback_ok (h : (applyChargeback e order now).run db = .ok (o, db')) :
    (order.status = .chargeback ∧ o = order ∧ db' = db) ∨
    (order.status = .paid ∧ ∃ accounts transactions rewards, Reversed e order now db accounts transactions rewards ∧
      o = { order with status := .chargeback } ∧
      db' = { db with
        licenses := suspended db.licenses order.licenseID now
        accounts, transactions, rewards
        orders := db.orders.modify (·.id = order.id) (fun o => { o with status := .chargeback }) (fun _ => rfl) }) := by
  unfold applyChargeback at h
  split_ifs at h with hc
  · obtain ⟨rfl, rfl⟩ := run_pure_ok.mp h
    exact .inl ⟨hc, rfl, rfl⟩
  · simp only [run_bind_ok, run_require_ok, run_count_ok, run_updates_ok, run_pure_ok, and_assoc, exists_and_left,
      exists_eq_left, exists_const] at h
    obtain ⟨hpaid, -, _, _, hsus, _, _, hrev, rfl, rfl⟩ := h
    obtain rfl := suspendD2SLicense_ok hsus
    obtain ⟨accounts, transactions, rewards, hrew, rfl⟩ := reverseD2SInviteRewardTx_ok hrev
    exact .inr ⟨hpaid, accounts, transactions, rewards, hrew.congr rfl rfl rfl, rfl, rfl⟩

/-- The orders as a payment event leaves them before it is applied. -/
def recordedPayer (orders : Table D2SOrder) (o : D2SOrder) (eventType : EventType) (accountHash : String) :
    Table D2SOrder :=
  if eventType = .paid ∧ accountHash ≠ "" ∧ o.paymentAccountIdentifierHash = none then
    orders.modify (·.id = o.id) (fun o => { o with paymentAccountIdentifierHash := some accountHash }) (fun _ => rfl)
  else orders

variable {accountHash : String} {eventType : EventType}

theorem recordPayer_ok (h : (recordPayer order eventType accountHash).run db = .ok (u, db')) :
    db' = { db with orders := recordedPayer db.orders order eventType accountHash } := by
  simp only [recordPayer, run_whenever_ok, run_updates_ok] at h
  unfold recordedPayer
  rcases h with ⟨hc, rfl⟩ | ⟨hc, rfl⟩
  · rw [if_pos hc]
  · rw [if_neg hc]

theorem withPayer_of_ne_paid (order : D2SOrder) (db : DB) (h : eventType ≠ .paid) (accountHash : String) :
    order.withPayer eventType accountHash = order ∧ recordedPayer db.orders order eventType accountHash = db.orders := by
  unfold D2SOrder.withPayer recordedPayer
  rw [if_neg fun hp => h hp.1, if_neg fun hp => h hp.1]
  exact ⟨rfl, rfl⟩

inductive Applied (e : Env) (v : D2SPaymentEvent) (order : D2SOrder) (db : DB) (o : D2SOrder) (db' : DB) : Prop
  | paid (accountHash : String) : v.eventType = .paid →
      (applyPaid e (order.withPayer .paid accountHash) v.processedAt).run
        { db with orders := recordedPayer db.orders order .paid accountHash } = .ok (o, db') → Applied e v order db o db'
  | canceled : (v.eventType = .canceled ∨ v.eventType = .failed) →
      (applyCanceled e order v.processedAt).run db = .ok (o, db') → Applied e v order db o db'
  | chargeback : (v.eventType = .chargeback ∨ v.eventType = .reversed) →
      (applyChargeback e order v.processedAt).run db = .ok (o, db') → Applied e v order db o db'

theorem applyD2SEvent_ok {v : D2SPaymentEvent}
    (h : (applyD2SEvent e v.eventType (order.withPayer v.eventType accountHash) v.processedAt).run
      { db with orders := recordedPayer db.orders order v.eventType accountHash } = .ok (o, db')) :
    Applied e v order db o db' := by
  by_cases hp : v.eventType = .paid
  · rw [hp] at h
    exact .paid accountHash hp h
  · obtain ⟨hpayer, horders⟩ := withPayer_of_ne_paid order db hp accountHash
    rw [hpayer, horders] at h
    unfold applyD2SEvent at h
    split at h
    · next heq => exact absurd heq hp
    · next heq => exact .canceled (.inl heq) h
    · next heq => exact .canceled (.inr heq) h
    · next heq => exact .chargeback (.inl heq) h
    · next heq => exact .chargeback (.inr heq) h
    · exact (run_throw_ok.mp h).elim

/-- A payment event is a repetition, which changes nothing, or is stored and applied to its order. -/
theorem processD2SPaymentEvent_ok {n : PaymentNotice} (h : (processD2SPaymentEvent e n).run db = .ok (o, db')) :
    ∃ v : D2SPaymentEvent, (∃ provider, Provider.parse n.provider = some provider ∧ v = n.event e provider) ∧
      ((∃ existing ∈ db.paymentEvents.rows, existing.provider = v.provider ∧
          existing.providerEventID = v.providerEventID ∧ existing.sameAs v ∧
          db.orders.get? existing.orderID = some o ∧ db' = db) ∨
        (∃ order paymentEvents,
          (∀ w ∈ db.paymentEvents.rows, ¬ (w.provider = v.provider ∧ w.providerEventID = v.providerEventID)) ∧
          db.paymentEvents.insert v = some paymentEvents ∧
          v.orderID = order.id ∧ db.orders.get? order.id = some order ∧
          (order.provider = v.provider ∧ order.currency.code = v.currency ∧ order.gatewayMinor = v.amountMinor) ∧
          Applied e v order { db with paymentEvents } o db')) := by
  simp only [processD2SPaymentEvent, run_bind_ok, run_attempt_ok, run_require_ok, run_createIgnore_ok, and_assoc,
    exists_and_left, exists_eq_left, exists_const] at h
  obtain ⟨provider, hprov, _, -, -, -, -, _, _, hcreate, h⟩ := h
  refine ⟨n.event e provider, ⟨provider, hprov, rfl⟩, ?_⟩
  rcases hcreate with ⟨rfl, rfl, _⟩ | ⟨rfl, hnone, paymentEvents, hins, rfl⟩
  · simp only [Bool.false_eq_true, if_false, repeatD2SPaymentEvent, run_bind_ok, run_first_ok, run_require_ok,
      D2SOrder.find?_pk, and_assoc, exists_and_left, exists_eq_left, exists_const] at h
    obtain ⟨existing, hex, hsame, ho, rfl⟩ := h
    obtain ⟨hm, hk⟩ := find?_eq_some hex
    exact .inl ⟨existing, hm, (of_decide_eq_true hk).1, (of_decide_eq_true hk).2, hsame, ho, rfl⟩
  · simp only [if_true, acceptD2SPaymentEvent, run_bind_ok, run_first_ok, run_require_ok, D2SOrder.find?_pk,
      and_assoc, exists_and_left, exists_eq_left, exists_const] at h
    obtain ⟨order, ho, hp, hcur, hamount, -, _, _, hpayer, happly⟩ := h
    obtain rfl := recordPayer_ok hpayer
    have hfresh := find?_eq_none.mp hnone
    have hid : order.id = (n.event e provider).orderID := (get?_eq_some.mp ho).2
    exact .inr ⟨order, paymentEvents, fun v hv => of_decide_eq_false (hfresh v hv), hins, hid.symm, hid ▸ ho,
      ⟨hp, hcur, hamount⟩, applyD2SEvent_ok happly⟩

/-! ## Expiry and refunds -/

theorem expireD2SOrder_ok {orderID : String} (h : (expireD2SOrder e orderID now).run db = .ok (u, db')) :
    db' = db ∨ ∃ order o, db.orders.get? order.id = some order ∧ order.status = .pending ∧ order.expiresAt ≤ now ∧
      order.provider ≠ .alipayPC ∧ (cancelD2SOrder e order now).run db = .ok (o, db') := by
  simp only [expireD2SOrder, run_bind_ok, run_lookup_ok, D2SOrder.find?_pk, and_assoc, exists_and_left,
    exists_eq_left] at h
  cases hg : db.orders.get? orderID with
  | none =>
    simp only [hg, run_pure_ok] at h
    exact .inl h.2
  | some order =>
    simp only [hg, run_whenever_ok, run_bind_ok, run_pure_ok] at h
    rcases h with ⟨⟨hpend, hdue, hprov⟩, o, _, hcancel, -, rfl⟩ | ⟨-, rfl⟩
    · have hid : order.id = orderID := (get?_eq_some.mp hg).2
      exact .inr ⟨order, o, hid ▸ hg, hpend, hdue, hprov, hcancel⟩
    · exact .inl rfl

def refundsOf (t : Table D2SAlipayRefund) (orderID : String) (status : RefundStatus) : ℤ :=
  t.sum (fun r => r.orderID = orderID ∧ r.status = status) D2SAlipayRefund.amountMinor

/-- A refund is filed: it fits into what is left of a paid order. -/
structure RefundFiled (db : DB) (refund : D2SAlipayRefund) (refunds : Table D2SAlipayRefund) : Prop where
  pos : 0 < refund.amountMinor
  insert : db.refunds.insert refund = some refunds
  fits : ∃ order, db.orders.get? refund.orderID = some order ∧ order.provider = .alipayPC ∧ order.status = .paid ∧
    refund.amountMinor ≤ order.gatewayMinor - order.refundedMinor - refundsOf db.refunds refund.orderID .pending

theorem createD2SAlipayRefund_ok {refund : D2SAlipayRefund} (h : (createD2SAlipayRefund refund).run db = .ok (u, db')) :
    ∃ refunds, RefundFiled db refund refunds ∧ db' = { db with refunds } := by
  simp only [createD2SAlipayRefund, run_bind_ok, run_require_ok, run_first_ok, run_total_ok, run_create_ok, and_assoc,
    exists_and_left, exists_eq_left, exists_const] at h
  obtain ⟨-, -, hpos, -, order, ho, hpaid, hle, refunds, hins, rfl⟩ := h
  have hp : ∀ o : D2SOrder, decide (o.id = refund.orderID ∧ o.provider = .alipayPC) = true → pk o = refund.orderID :=
    fun o h => (of_decide_eq_true h).1
  obtain ⟨hget, hprov⟩ := (find?_eq_some_of_pk hp).mp ho
  obtain ⟨hid, hprov⟩ := of_decide_eq_true hprov
  rw [hid] at hle
  exact ⟨refunds, ⟨hpos, hins, order, hget, hprov, hpaid, hle⟩, rfl⟩

structure RefundDone (db : DB) (order : D2SOrder) (refunded : ℤ) (refunds : Table D2SAlipayRefund) : Prop where
  provider : order.provider = .alipayPC
  le : refunded ≤ order.gatewayMinor
  sets : ∃ r r' : D2SAlipayRefund, db.refunds.get? r.id = some r ∧ r.orderID = order.id ∧ r.status ≠ .completed ∧
    refunded = order.refundedMinor + r.amountMinor ∧ r'.id = r.id ∧ r'.orderID = r.orderID ∧
    r'.amountMinor = r.amountMinor ∧ r'.status = .completed ∧ Sets r' db.refunds refunds

/-- A completed refund leaves its paid order paid, or charges it back where all of it is refunded. -/
theorem completeD2SAlipayRefund_ok {outRequestNo providerTradeNo : String}
    (h : (completeD2SAlipayRefund e outRequestNo providerTradeNo now).run db = .ok (u, db')) :
    db' = db ∨ ∃ order refunded refunds, RefundDone db order refunded refunds ∧
      db.orders.get? order.id = some order ∧ order.status = .paid ∧
      ((refunded = order.gatewayMinor ∧ ∃ accounts transactions rewards,
          Reversed e order (e.resolve now) db accounts transactions rewards ∧
          db' = { db with
            licenses := suspended db.licenses order.licenseID (e.resolve now)
            accounts, transactions, rewards, refunds
            orders := db.orders.modify (·.id = order.id)
              (fun o => { o with refundedMinor := refunded, status := .chargeback }) (fun _ => rfl) }) ∨
        (refunded ≠ order.gatewayMinor ∧ db' = { db with
          refunds
          orders := db.orders.modify (·.id = order.id) (fun o => { o with refundedMinor := refunded })
            (fun _ => rfl) })) := by
  simp only [completeD2SAlipayRefund, run_bind_ok, run_first_ok, run_whenever_ok, run_require_ok, run_updates_ok,
    D2SOrder.find?_pk, and_assoc, exists_and_left, exists_eq_left, exists_const] at h
  obtain ⟨refund, hrefund, ⟨hne, order, ho, hprov, hpaid, _, _, _, href, rfl⟩ | ⟨-, rfl⟩⟩ := h
  · have hid : order.id = refund.orderID := (get?_eq_some.mp ho).2
    have hget : db.refunds.get? refund.id = some refund := get?_pk (find?_eq_some hrefund).1
    have hdone : RefundDone db order (order.refundedMinor + refund.amountMinor)
        (db.refunds.modify (·.id = refund.id) (fun r =>
          { r with status := .completed, providerTrade := providerTradeNo, updatedAt := e.resolve now }) fun _ => rfl) := by
      refine ⟨hprov, by omega, refund,
        { refund with status := .completed, providerTrade := providerTradeNo, updatedAt := e.resolve now },
        hget, hid.symm, hne, rfl, rfl, rfl, rfl, rfl, ?_⟩
      exact sets_modify hget (fun r hr => of_decide_eq_true hr) (decide_eq_true rfl)
    refine .inr ⟨order, order.refundedMinor + refund.amountMinor, ?_⟩
    unfold refundD2SOrder at href
    split_ifs at href with hfull
    · simp only [run_bind_ok, run_updates_ok] at href
      obtain ⟨_, _, hsus, _, _, hrev, rfl⟩ := href
      obtain rfl := suspendD2SLicense_ok hsus
      obtain ⟨accounts, transactions, rewards, hrew, rfl⟩ := reverseD2SInviteRewardTx_ok hrev
      exact ⟨_, hdone, hid ▸ ho, hpaid, .inl ⟨hfull, accounts, transactions, rewards, hrew.congr rfl rfl rfl, rfl⟩⟩
    · obtain rfl := run_updates_ok.mp href
      exact ⟨_, hdone, hid ▸ ho, hpaid, .inr ⟨hfull, rfl⟩⟩
  · exact .inl rfl

end Desktop2Stereo
