import Desktop2Stereo.Licence.Slots
import Desktop2Stereo.Order.ExactlyOnce

/-!
# Fulfilment

What a committed transaction does to the orders and to the tables of the licences they are for.

* `DB.licensing`: the tables of the licences; `Fulfils`: the transaction fulfils an order;
* `OrderStep`, **`orderStep`**: a transaction moves no order, or it places, cancels, refunds, charges back or
  fulfils one;
* `Delivered`: the licence of a fulfilled order is there (**`delivered_run`**), and a licence that was bought is
  the one of its order (`Delivered.purchase`).
-/

namespace Desktop2Stereo

open Relational GoText List D2SOrder Table

/-! ## What a transaction does to orders and licences -/

structure Licensing where
  licenses : Table D2SLicense
  bindings : Table D2SDeviceBinding
  leases : Table D2SOnlineLease
  licenseEvents : Table D2SLicenseEvent
  entitlements : Table D2SOfflineEntitlement
  cooldowns : Table D2SFreeRevokeCooldown
  quotas : Table D2SPaidRevokeQuota

def DB.licensing (db : DB) : Licensing :=
  ⟨db.licenses, db.bindings, db.leases, db.licenseEvents, db.entitlements, db.cooldowns, db.quotas⟩

/-- The transaction fulfils a pending order: it delivers the product and marks the row as paid. -/
structure Fulfils (t : Trans) (e : Env) (order : D2SOrder) (now : ℤ) (db db' : DB) : Prop where
  pays : t.paysAt now
  pending : order.status = .pending
  before : ∀ o, db.orders.get? order.id = some o → ∃ hash, order = { o with paymentAccountIdentifierHash := hash }
  fresh : db.orders.get? order.id = none → order.refundedMinor = 0 ∧ 0 ≤ order.gatewayMinor
  sets : Sets ((order.assigned e.licenseID.val).paidAt now) db.orders db'.orders
  delivery : ∃ db₀ o db₁, Delivery e order now db₀ o db₁ ∧ db₀.licensing = db.licensing ∧ db'.licensing = db₁.licensing

/-- What a committed transaction does to the orders and their refunds, and to the licences they are for. -/
inductive OrderStep (t : Trans) (db db' : DB) : Prop
  | quiet : db'.orders = db.orders → db'.quotas = db.quotas → db'.refunds = db.refunds → OrderStep t db db'
  | filed {refund : D2SAlipayRefund} : t = .request (.createRefund refund) → RefundFiled db refund db'.refunds →
      db'.orders = db.orders → db'.quotas = db.quotas → OrderStep t db db'
  | placed {order : D2SOrder} : db.orders.get? order.id = none → order.status = .pending → order.refundedMinor = 0 →
      0 ≤ order.gatewayMinor → Sets order db.orders db'.orders → db'.licensing = db.licensing →
      db'.refunds = db.refunds → OrderStep t db db'
  | canceled {order : D2SOrder} : db.orders.get? order.id = some order → order.status = .pending →
      Sets order.canceled db.orders db'.orders → db'.licensing = db.licensing → db'.refunds = db.refunds →
      OrderStep t db db'
  | refunded {order : D2SOrder} {refunded : ℤ} : db.orders.get? order.id = some order → order.status = .paid →
      RefundDone db order refunded db'.refunds → refunded ≠ order.gatewayMinor →
      Sets { order with refundedMinor := refunded } db.orders db'.orders → db'.licensing = db.licensing →
      OrderStep t db db'
  /-- a chargeback is reported, or a refund completes the order's refunds -/
  | chargedBack {order : D2SOrder} {refunded now : ℤ} : db.orders.get? order.id = some order → order.status = .paid →
      ((refunded = order.refundedMinor ∧ db'.refunds = db.refunds) ∨
        (refunded = order.gatewayMinor ∧ RefundDone db order refunded db'.refunds)) →
      Sets { order with refundedMinor := refunded, status := .chargeback } db.orders db'.orders →
      db'.licensing = { db.licensing with licenses := suspended db.licenses order.licenseID now } → OrderStep t db db'
  | fulfilled {e : Env} {order : D2SOrder} {now : ℤ} : Fulfils t e order now db db' → db'.refunds = db.refunds →
      OrderStep t db db'

section Transactions

variable {t : Trans} {e : Env} {order : D2SOrder} {now : ℤ} {db db' : DB}

theorem OrderTx.orderStep (h : OrderTx t db db') : OrderStep t db db' := by
  cases h with
  | idle => exact .quiet rfl rfl rfl
  | @placed e p pendingKey _ _ _ _ ht hk hnone hsets =>
    refine .placed ?_ ?_ ?_ ?_ hsets rfl rfl
    · exact hnone
    · rfl
    · rfl
    · exact Int.sub_nonneg_of_le p.admitted.1.2
  | @placedPaid e p _ _ _ _ _ db1 ht hk hnone hsets hshare hpaid =>
    have hrefunds : db1.refunds = db.refunds := by
      obtain ⟨_, _, _, _, _, _, _, _, _, rfl⟩ := hpaid.frame
      rfl
    refine .fulfilled ⟨by rw [ht]; rfl, rfl, fun o ho => ?_, fun _ => ⟨rfl, Int.sub_nonneg_of_le p.admitted.1.2⟩,
      hsets.trans hpaid.sets (assigned_id _ _), ?_⟩ hrefunds
    · cases hnone.symm.trans ho
    · cases hpaid with
      | intro hpend hrow hdel => exact ⟨_, _, _, hdel, rfl, rfl⟩
  | @paid _ _ _ hash _ _ _ _ ht hrow hsets hlock hpaid =>
    have hrefunds : db'.refunds = db.refunds := by
      obtain ⟨_, _, _, _, _, _, _, _, _, rfl⟩ := hpaid.frame
      rfl
    have hpaid' := hsets.trans hpaid.sets (assigned_id _ _)
    cases hpaid with
    | intro hpend hrow' hdel =>
      refine .fulfilled ⟨by rw [ht]; rfl, hpend, fun o ho => ⟨hash, ?_⟩, fun hnone => ?_, hpaid',
        ⟨_, _, _, hdel, rfl, rfl⟩⟩ hrefunds
      · cases hrow.symm.trans ho
        rfl
      · cases hrow.symm.trans hnone
  | canceled hrow hpend hsets => exact .canceled hrow hpend hsets rfl rfl
  | chargedBack hrow hpaid hcase hsets => exact .chargedBack hrow hpaid hcase hsets rfl
  | refunded hrow hpaid hdone hpart hsets => exact .refunded hrow hpaid hdone hpart hsets rfl

/-- **What a committed transaction does to the orders, their refunds and the licences they are for.** -/
theorem orderStep [Digest] (h : t.tx.run db = .ok ((), db')) : OrderStep t db db' := by
  cases moneyTx h with
  | quiet hq => exact .quiet hq.orders hq.quotas hq.refunds
  | createRefund hr =>
    obtain ⟨_, hfiled, rfl⟩ := createD2SAlipayRefund_ok hr
    exact .filed rfl hfiled rfl rfl
  | setUserRegion hr =>
    obtain ⟨_, _, -, rfl⟩ := setD2SUserRegion_ok hr
    exact .quiet rfl rfl rfl
  | commitOrder hr => exact (commitOrder_orderTx hr).orderStep
  | paymentEvent hr => exact (paymentEvent_orderTx hr).orderStep
  | expireOrder hr => exact (expireOrder_orderTx hr).orderStep
  | completeRefund hr => exact (completeRefund_orderTx hr).orderStep
  | commitWithdrawal hr =>
    obtain ⟨_, _, _, _, -, -, -, -, -, -, -, -, rfl⟩ := commitD2SWithdrawal_ok hr
    exact .quiet rfl rfl rfl
  | reviewWithdrawal hr =>
    obtain ⟨_, _, _, _, _, _, -, -, -, -, -, -, rfl⟩ := reviewD2SWithdrawal_ok hr
    exact .quiet rfl rfl rfl

end Transactions

/-! ## The orders that a run fulfils -/

def newlyPaid (db db' : DB) : List D2SOrder :=
  db'.orders.rows.filter fun o => o.status = .paid ∧ ∀ o₀ ∈ db.orders.get? o.id, o₀.status ≠ .paid

def fulfilments [Digest] : State → List Op → List D2SOrder := Runs.history step fun s s' => newlyPaid s.db s'.db

section NewlyPaid

variable {t : Trans} {e : Env} {order : D2SOrder} {now : ℤ} {db db' : DB}

theorem mem_newlyPaid {o : D2SOrder} :
    o ∈ newlyPaid db db' ↔ o ∈ db'.orders.rows ∧ o.status = .paid ∧ ∀ o0, db.orders.get? o.id = some o0 → o0.status ≠ .paid := by
  simp [newlyPaid]

theorem newlyPaid_sets {r : D2SOrder} (hs : Sets r db.orders db'.orders)
    (hp : r.status = .paid → ∃ o, db.orders.get? r.id = some o ∧ o.status = .paid) : newlyPaid db db' = [] := by
  refine eq_nil_iff_forall_not_mem.mpr fun o ho => ?_
  obtain ⟨hm, hpaid, hbefore⟩ := mem_newlyPaid.mp ho
  rcases hs.mem.mp hm with rfl | ⟨hm, -⟩
  · obtain ⟨o0, ho0, hs0⟩ := hp hpaid
    exact hbefore o0 ho0 hs0
  · exact hbefore o (get?_pk hm) hpaid

theorem newlyPaid_same (h : db'.orders = db.orders) : newlyPaid db db' = [] := by
  refine eq_nil_iff_forall_not_mem.mpr fun o ho => ?_
  obtain ⟨hm, hpaid, hbefore⟩ := mem_newlyPaid.mp ho
  rw [h] at hm
  exact hbefore o (get?_pk hm) hpaid

theorem Fulfils.newlyPaid (h : Fulfils t e order now db db') :
    newlyPaid db db' = [(order.assigned e.licenseID.val).paidAt now] := by
  have hid : ((order.assigned e.licenseID.val).paidAt now).id = order.id := assigned_id _ _
  refine perm_singleton.mp ((h.sets.perm.filter _).trans (List.Perm.of_eq ?_))
  rw [filter_cons_of_pos]
  · refine congrArg _ (filter_eq_nil_iff.mpr fun o ho hp => ?_)
    obtain ⟨hpaid, hbefore⟩ := of_decide_eq_true hp
    exact hbefore o (get?_pk (mem_filter.mp ho).1) hpaid
  · refine decide_eq_true ⟨rfl, fun o ho => ?_⟩
    obtain ⟨_, heq⟩ := h.before o (hid ▸ ho)
    have hpend : o.status = .pending := by
      rw [← h.pending, heq]
    rw [hpend]
    decide

/-- **A transaction fulfils at most one order.** -/
theorem newlyPaid_tx [Digest] (h : t.tx.run db = .ok ((), db')) :
    (newlyPaid db db' = [] ∧ db'.quotas = db.quotas) ∨
      ∃ e order now, Fulfils t e order now db db' ∧ newlyPaid db db' = [(order.assigned e.licenseID.val).paidAt now] := by
  cases orderStep h with
  | quiet ho hq | filed ht hfiled ho hq => exact .inl ⟨newlyPaid_same ho, hq⟩
  | placed hnone hpend hr hg hs hl =>
    exact .inl ⟨newlyPaid_sets hs fun h => (by cases hpend.symm.trans h), congrArg Licensing.quotas hl⟩
  | canceled hrow hpend hs hl | chargedBack hrow hpaid hcase hs hl =>
    exact .inl ⟨newlyPaid_sets hs fun h => (by cases h), congrArg Licensing.quotas hl⟩
  | refunded hrow hpaid hdone hpart hs hl => exact .inl ⟨newlyPaid_sets hs fun _ => ⟨_, hrow, hpaid⟩, congrArg Licensing.quotas hl⟩
  | fulfilled hf => exact .inr ⟨_, _, _, hf, hf.newlyPaid⟩

theorem fulfilled_before [Digest] (h : t.tx.run db = .ok ((), db')) {oid : String} {o : D2SOrder}
    (ho : db'.orders.get? oid = some o) (hs : o.status = .paid ∨ o.status = .chargeback) :
    (∃ o0 refunded status, db.orders.get? oid = some o0 ∧ (o0.status = .paid ∨ o0.status = .chargeback) ∧
      o = { o0 with refundedMinor := refunded, status }) ∨
    ∃ e order now, Fulfils t e order now db db' ∧ o = (order.assigned e.licenseID.val).paidAt now := by
  obtain ⟨δ, hmove, -⟩ := orderMove h oid
  rw [ho] at hmove
  by_cases hb : ∃ o0, db.orders.get? oid = some o0 ∧ (o0.status = .paid ∨ o0.status = .chargeback)
  · obtain ⟨o0, ho0, hs0⟩ := hb
    rw [ho0] at hmove
    obtain ⟨refunded, status, heq, -⟩ := hmove.fulfilled hs0
    exact .inl ⟨o0, refunded, status, ho0, hs0, Option.some.inj heq⟩
  · have hb' : ∀ o0, db.orders.get? oid = some o0 → ¬ (o0.status = .paid ∨ o0.status = .chargeback) :=
      fun o0 ho0 hs0 => hb ⟨o0, ho0, hs0⟩
    obtain ⟨hm, hid⟩ := get?_eq_some.mp ho
    have hnew : o ∈ Desktop2Stereo.newlyPaid db db' :=
      mem_newlyPaid.mpr ⟨hm, hmove.newlyPaid hs hb', fun o0 ho0 hp => hb' o0 (hid ▸ ho0) (.inl hp)⟩
    rcases newlyPaid_tx h with ⟨hnil, -⟩ | ⟨e, order, now, hf, heq⟩
    · rw [hnil] at hnew
      cases hnew
    · rw [heq] at hnew
      exact .inr ⟨e, order, now, hf, mem_singleton.mp hnew⟩

end NewlyPaid

/-! ## The history of fulfilments -/

def D2SOrder.asPaid (o : D2SOrder) : D2SOrder := { o with refundedMinor := 0, status := .paid }

structure Recorded (db : DB) (h : List D2SOrder) : Prop where
  stored : ∀ o ∈ h, ∃ r, db.orders.get? o.id = some r ∧ r.fulfilled ∧ r.asPaid = o.asPaid
  listed : ∀ oid r, db.orders.get? oid = some r → r.fulfilled → ∃ o ∈ h, r.asPaid = o.asPaid

section Recorded

variable [Digest] {t : Trans} {db db' : DB} {h : List D2SOrder}

theorem recorded_tx (hI : Recorded db h) (hr : t.tx.run db = .ok ((), db')) : Recorded db' (h ++ newlyPaid db db') := by
  refine ⟨fun o ho => ?_, fun oid r hget hful => ?_⟩
  · rcases mem_append.mp ho with ho | ho
    · obtain ⟨r, hget, hful, heq⟩ := hI.stored o ho
      obtain ⟨δ, hmove, -⟩ := orderMove hr o.id
      rw [hget] at hmove
      obtain ⟨refunded, status, hget', hful'⟩ := hmove.fulfilled hful
      exact ⟨_, hget', hful', heq⟩
    · obtain ⟨hm, hpaid, -⟩ := mem_newlyPaid.mp ho
      exact ⟨o, get?_pk hm, .inl hpaid, rfl⟩
  · rcases fulfilled_before hr hget hful with ⟨o0, _, _, ho0, hful0, rfl⟩ | ⟨e, _, _, hf, rfl⟩
    · obtain ⟨o, ho, heq⟩ := hI.listed oid o0 ho0 hful0
      exact ⟨o, mem_append_left _ ho, heq⟩
    · rw [hf.newlyPaid]
      exact ⟨_, mem_append_right _ mem_cons_self, rfl⟩

theorem fulfilments_run {J : DB → List D2SOrder → Prop}
    (hstep : ∀ (t : Trans) db db' h, J db h → t.tx.run db = .ok ((), db') → J db' (h ++ newlyPaid db db')) {s : State}
    (h0 : J s.db []) (ops : List Op) : J (run s ops).db (fulfilments s ops) := by
  refine Runs.history_invariant (J := fun (s : State) h => J s.db h) (fun s h op hJ => ?_) h0 ops
  rcases step_trans s op with heq | ⟨t, -, hr⟩
  · rw [heq, newlyPaid_same rfl, append_nil]
    exact hJ
  · exact hstep t _ _ h hJ hr

end Recorded

/-! ## The licence of a fulfilled order -/

/-- The licence of a fulfilled order is there; one that the order has bought names it as its source. -/
def Delivered (db : DB) : Prop :=
  ∀ oid o, db.orders.get? oid = some o → (o.status = .paid ∨ o.status = .chargeback) →
    ∃ l, db.licenses.get? o.licenseID = some l ∧
      (o.product = .license → o.licenseID ≠ "" ∧ l.sourceOrderID = o.id)

section Delivered

variable {t : Trans} {e : Env} {order : D2SOrder} {now : ℤ} {db db' : DB}

theorem Fulfils.delivered (h : Fulfils t e order now db db') :
    ∃ l, db'.licenses.get? (order.assigned e.licenseID.val).licenseID = some l ∧
      (order.product = .license → (order.assigned e.licenseID.val).licenseID ≠ "" ∧ l.sourceOrderID = order.id) := by
  obtain ⟨_, o, db1, hdel, -, hkept⟩ := h.delivery
  rw [show db'.licenses = db1.licenses from congrArg Licensing.licenses hkept]
  cases hdel with
  | license hp hins =>
    rw [assigned_licenseID hp]
    exact ⟨_, (sets_insert hins).get?_self, fun _ => ⟨e.licenseID.nonempty, rfl⟩⟩
  | paidRevoke hp hl | offlineExtension hp hl =>
    have hne : order.product ≠ .license := by rw [hp]; decide
    rw [D2SOrder.assigned, if_neg hne]
    exact ⟨_, (get?_license_modify (fun _ => by rfl) hl _).trans (if_pos rfl), fun h => absurd h hne⟩

variable [Digest]

theorem delivered_tx (hI : Delivered db) (h : t.tx.run db = .ok ((), db')) : Delivered db' := by
  intro oid o ho hs
  rcases fulfilled_before h ho hs with ⟨o0, _, _, ho0, hs0, rfl⟩ | ⟨e, order, now, hf, rfl⟩
  · obtain ⟨l, hl, hsrc⟩ := hI oid o0 ho0 hs0
    obtain ⟨l', hl', hkeys, -⟩ := (slotMove h o0.licenseID).kept hl
    exact ⟨l', hl', fun hp => ⟨(hsrc hp).1, (D2SLicense.kind_of_keys hkeys).2.2.2.trans (hsrc hp).2⟩⟩
  · obtain ⟨l, hl, hsrc⟩ := hf.delivered
    refine ⟨l, hl, fun hp => ?_⟩
    rw [show ((order.assigned e.licenseID.val).paidAt now).id = order.id from assigned_id _ _]
    exact hsrc ((assigned_product _ _).symm.trans hp)

theorem delivered_run (users : Table User) (options : Table OptionRow) (controls : Table D2SUserSecurityControl)
    (ops : List Op) : Delivered (run (.init users options controls) ops).db := by
  refine run_db (fun _ _ _ => delivered_tx) (fun oid o ho => ?_) ops
  cases ho

/-- **No licence is sold twice.** -/
theorem licenses_sold_once (users : Table User) (options : Table OptionRow) (controls : Table D2SUserSecurityControl)
    (ops : List Op) : Set.InjOn D2SOrder.licenseID
      {o | (run (.init users options controls) ops).db.orders.get? o.id = some o ∧ o.product = .license ∧ o.fulfilled} := by
  intro o ⟨ho, hp, hs⟩ o' ⟨ho', hp', hs'⟩ heq
  obtain ⟨l, hl, hsrc⟩ := delivered_run users options controls ops _ o ho hs
  obtain ⟨l', hl', hsrc'⟩ := delivered_run users options controls ops _ o' ho' hs'
  obtain rfl : l = l' := Option.some.inj (hl.symm.trans (heq ▸ hl'))
  have hid : o.id = o'.id := (hsrc hp).2.symm.trans (hsrc' hp').2
  exact Option.some.inj (ho.symm.trans (hid ▸ ho'))

omit [Digest] in
/-- **A licence that was bought is the licence of its order**, and the order is fulfilled. -/
theorem Delivered.purchase (hD : Delivered db) (hT : Traced db) {l : D2SLicense} (hl : l ∈ db.licenses.rows)
    (hsrc : l.sourceOrderID ≠ "") :
    ∃ o, db.orders.get? l.sourceOrderID = some o ∧ o.product = .license ∧ o.licenseID = l.id ∧
      (o.status = .paid ∨ o.status = .chargeback) := by
  have hcount : db.licenses.count (fun r => r.sourceOrderID = l.sourceOrderID) =
      (expectedTrace (db.orders.get? l.sourceOrderID)).licenses := congrArg Trace.licenses (hT _ hsrc)
  have hpos : 0 < db.licenses.count fun r => r.sourceOrderID = l.sourceOrderID :=
    countP_pos_iff.mpr ⟨l, hl, decide_eq_true rfl⟩
  have hone := (expectedTrace_le_one (db.orders.get? l.sourceOrderID)).2.1
  rw [hcount] at hpos
  obtain ⟨o, ho, hfulfilled, hproduct⟩ := expectedTrace_licenses_pos hpos
  obtain ⟨l', hl', hsrc'⟩ := hD _ o ho hfulfilled
  obtain ⟨hm', hid'⟩ := get?_eq_some.mp hl'
  have hoid : o.id = l.sourceOrderID := (get?_eq_some.mp ho).2
  have heq : l' = l := eq_of_count_le_one (hcount.le.trans hone) hm' hl
    (decide_eq_true ((hsrc' hproduct).2.trans hoid)) (decide_eq_true rfl)
  exact ⟨o, ho, hproduct, by rw [← heq]; exact hid'.symm, hfulfilled⟩

end Delivered

end Desktop2Stereo
