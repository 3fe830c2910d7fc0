import Desktop2Stereo.Model.Reconciliation
import Desktop2Stereo.Order.Fulfilment
import Desktop2Stereo.Order.Terms

/-!
# What the reconciliation report finds

In every reachable state each payment event fits its order, so the report has nothing to say about it. An order of
the window that was paid through a provider is another matter: the report looks for its paid event in the same
window.

* `D2SPaymentEvent.Fits`, **`reconciled_run`**: every event fits its order;
* **`reconciliation_false_alarms`**: when the report is free of mismatches other than expired pending orders.
-/

namespace Desktop2Stereo

open Relational GoText List

/-! ## Events fit their orders -/

def EventType.Settled : EventType → OrderStatus → Prop
  | .paid, s => s = .paid ∨ s = .chargeback
  | .canceled, s | .failed, s => s = .canceled
  | .chargeback, s | .reversed, s => s = .chargeback
  | .other _, _ => True

theorem EventType.Settled.step {v : EventType} {s s' : OrderStatus} (h : v.Settled s) (hs : StatusStep s s') :
    v.Settled s' := by
  cases hs with
  | stay => exact h
  | pay | cancel | chargeBack => cases v <;> simp_all [EventType.Settled]

/-- The event has the order's terms, and the order is settled accordingly. -/
structure D2SPaymentEvent.Fits (v : D2SPaymentEvent) (o : D2SOrder) : Prop where
  amount : v.amountMinor = o.gatewayMinor
  currency : v.currency = o.currency.code
  provider : v.provider = o.provider
  settled : v.eventType.Settled o.status

def Reconciled (db : DB) : Prop :=
  ∀ v ∈ db.paymentEvents.rows, ∃ o, db.orders.get? v.orderID = some o ∧ v.Fits o

section Runs

variable {e : Env} {t : Trans} {v : D2SPaymentEvent} {order o : D2SOrder} {db db' : DB}

theorem D2SPaymentEvent.Fits.moved {o' : D2SOrder} (h : v.Fits o) (hterms : o'.terms = o.terms)
    (hs : v.eventType.Settled o'.status) : v.Fits o' := by
  have hgateway : o'.terms.gatewayMinor = o'.gatewayMinor ∧ o'.terms.currency = o'.currency ∧
    o'.terms.provider = o'.provider := ⟨rfl, rfl, rfl⟩
  rw [hterms] at hgateway
  exact ⟨h.amount.trans hgateway.1, h.currency.trans (congrArg Currency.code hgateway.2.1),
    h.provider.trans hgateway.2.2, hs⟩

theorem Applied.settled (h : Applied e v order db o db') (hrow : db.orders.get? order.id = some order) :
    ∃ o', db'.orders.get? order.id = some o' ∧ v.eventType.Settled o'.status := by
  cases h with
  | paid hash hv happly =>
    obtain ⟨_, _, hpend, -, -, hful, hset⟩ := applyPaid_ok happly
    obtain ⟨k, hk, hpayer⟩ := recordedPayer_sets hash hrow
    have hpaid := (orderPaid hful hset hpayer.get?_self hpend).sets
    have hid : ((order.withPayer .paid hash).assigned e.licenseID.val).id = order.id := by
      rw [D2SOrder.assigned_id, hk]
    refine ⟨_, (hpaid order.id).trans (if_pos hid), ?_⟩
    rw [hv]
    exact .inl rfl
  | canceled hv happly =>
    have hsettled : v.eventType.Settled .canceled := by rcases hv with hv | hv <;> rw [hv] <;> rfl
    rcases applyCanceled_ok happly with ⟨hc, -, rfl⟩ | ⟨-, hcancel⟩
    · exact ⟨order, hrow, hc ▸ hsettled⟩
    · obtain ⟨_, _, _, hs, -, rfl⟩ := cancel_orderTx hcancel hrow
      exact ⟨_, hs.get?_self, hsettled⟩
  | chargeback hv happly =>
    have hsettled : v.eventType.Settled .chargeback := by rcases hv with hv | hv <;> rw [hv] <;> rfl
    rcases applyChargeback_ok happly with ⟨hc, -, rfl⟩ | ⟨-, _, _, _, -, -, rfl⟩
    · exact ⟨order, hrow, hc ▸ hsettled⟩
    · exact ⟨_, (sets_row (fun _ => by rfl) hrow).get?_self, hsettled⟩

variable [Digest]

theorem reconciled_tx (hI : Reconciled db) (h : t.tx.run db = .ok ((), db')) : Reconciled db' := by
  intro v hv
  -- an event of before fits its order, wherever the order has moved
  have hold : v ∈ db.paymentEvents.rows → ∃ o, db'.orders.get? v.orderID = some o ∧ v.Fits o := by
    intro hv
    obtain ⟨o, ho, hfits⟩ := hI v hv
    obtain ⟨δ, hmove, -⟩ := orderMove h v.orderID
    rw [ho] at hmove
    obtain ⟨o', ho', hs⟩ := hmove.status
    rw [ho'] at hmove
    exact ⟨o', ho', hfits.moved hmove.terms_kept (hfits.settled.step hs)⟩
  rcases paymentEvents_tx h with heq | ⟨e, n, rfl⟩
  · exact hold (heq ▸ hv)
  · obtain ⟨o, hr⟩ := run_forget_ok.mp h
    obtain ⟨w, -, ⟨_, -, -, -, -, -, rfl⟩ | ⟨order, paymentEvents, -, hins, hid, hrow, hterms, happ⟩⟩ :=
      processD2SPaymentEvent_ok hr
    · exact hold hv
    · rw [happ.paymentEvents hrow] at hv
      rcases (Table.mem_insert hins).mp hv with hv | rfl
      · exact hold hv
      · obtain ⟨o', ho', hsettled⟩ := happ.settled hrow
        obtain ⟨δ, hmove, -⟩ := orderMove h order.id
        rw [hrow, ho'] at hmove
        have hfits : v.Fits { order with status := o'.status } :=
          ⟨hterms.2.2.symm, hterms.2.1.symm, hterms.1.symm, hsettled⟩
        exact ⟨o', hid ▸ ho', hfits.moved hmove.terms_kept hsettled⟩

/-- **Every payment event fits its order**, in every reachable state. -/
theorem reconciled_run (users : Table User) (options : Table OptionRow) (controls : Table D2SUserSecurityControl)
    (ops : List Op) : Reconciled (run (.init users options controls) ops).db := by
  refine run_db (fun _ _ _ => reconciled_tx) (fun v hv => ?_) ops
  cases hv

end Runs

/-! ## The loops of the report -/

section Loops

variable {db : DB} {report : D2SReconciliationReport} {r : Reconciliation} {v : D2SPaymentEvent} {o : D2SOrder}

theorem mismatches_counted (orders : List D2SOrder) (report : D2SReconciliationReport) :
    (orders.foldl D2SReconciliationReport.counted report).mismatches = report.mismatches := by
  induction orders generalizing report with
  | nil => rfl
  | cons o orders ih =>
    rw [foldl_cons, ih]
    unfold D2SReconciliationReport.counted
    split <;> rfl

theorem mismatches_addExpired (orders : List D2SOrder) (report : D2SReconciliationReport) :
    (orders.foldl D2SReconciliationReport.addExpired report).mismatches =
      report.mismatches ++ orders.map fun o => { orderID := o.id, kind := .pendingExpired } := by
  induction orders generalizing report with
  | nil => exact (append_nil _).symm
  | cons o orders ih =>
    rw [foldl_cons, ih, map_cons]
    exact append_assoc _ _ _

theorem mismatches_addUnpaid (r : Reconciliation) (orders : List D2SOrder) (report : D2SReconciliationReport) :
    (orders.foldl r.addUnpaid report).mismatches = report.mismatches ++
      (orders.filter fun o => o.status = .paid ∧ 0 < o.gatewayMinor ∧ o.id ∉ r.paidExternalEvents).map fun o =>
        { orderID := o.id, kind := .paidOrderWithoutPaymentEvent } := by
  induction orders generalizing report with
  | nil => exact (append_nil _).symm
  | cons o orders ih =>
    rw [foldl_cons, ih, Reconciliation.addUnpaid]
    split_ifs with hc
    · rw [filter_cons, if_pos (decide_eq_true hc), map_cons]
      exact append_assoc _ _ _
    · rw [filter_cons, if_neg fun h => hc (of_decide_eq_true h)]

theorem reconcileOrderEvent_fits (h : v.Fits o) :
    reconcileOrderEvent r v o = { r with
      paidExternalEvents :=
        if v.eventType = .paid ∧ 0 < o.gatewayMinor then o.id :: r.paidExternalEvents else r.paidExternalEvents } := by
  have hterms : ¬ (v.amountMinor ≠ o.gatewayMinor ∨ v.currency ≠ o.currency.code ∨ v.provider ≠ o.provider) := by
    simp [h.amount, h.currency, h.provider]
  have hs := h.settled
  simp only [reconcileOrderEvent, if_neg hterms]
  cases hv : v.eventType with
  | paid =>
    rw [hv] at hs
    have hn : ¬ (o.status ≠ .paid ∧ o.status ≠ .chargeback) := fun hne => hs.elim hne.1 hne.2
    simp [if_neg hn]
  | canceled | failed =>
    rw [hv] at hs
    simp [if_neg (not_not.mpr (show o.status = .canceled from hs))]
  | chargeback | reversed =>
    rw [hv] at hs
    simp [if_neg (not_not.mpr (show o.status = .chargeback from hs))]
  | other => rfl

def D2SPaymentEvent.pays (v : D2SPaymentEvent) (orderID : String) : Prop :=
  v.eventType = .paid ∧ 0 < v.amountMinor ∧ v.orderID = orderID

theorem mem_paidExternalEvents (h : v.Fits o) (hid : o.id = v.orderID) (l : List String) (id : String) :
    id ∈ (if v.eventType = .paid ∧ 0 < o.gatewayMinor then o.id :: l else l) ↔ id ∈ l ∨ v.pays id := by
  rw [D2SPaymentEvent.pays, h.amount, ← hid]
  split_ifs with hc
  · rw [mem_cons, or_comm, eq_comm]
    simp [hc]
  · constructor
    · exact .inl
    · rintro (hm | ⟨hp, hpos, -⟩)
      · exact hm
      · exact absurd ⟨hp, hpos⟩ hc

theorem reconcileEvent_fits (hI : Reconciled db) (hr : ∀ o ∈ r.orderByID, o ∈ db.orders.rows)
    (hv : v ∈ db.paymentEvents.rows) :
    (reconcileEvent db r v).report.mismatches = r.report.mismatches ∧
    (∀ o ∈ (reconcileEvent db r v).orderByID, o ∈ db.orders.rows) ∧
    ∀ id, id ∈ (reconcileEvent db r v).paidExternalEvents ↔ id ∈ r.paidExternalEvents ∨ v.pays id := by
  obtain ⟨o, ho, hfits⟩ := hI v hv
  obtain ⟨hm, hid⟩ := Table.get?_eq_some.mp ho
  cases hfind : r.orderByID.find? (·.id = v.orderID) with
  | some order =>
    have horder : order = o := by
      have hget := Table.get?_pk (hr order (mem_of_find?_eq_some hfind))
      have hk := List.find?_some hfind
      rw [show pk order = v.orderID from of_decide_eq_true hk, ho] at hget
      exact (Option.some.inj hget).symm
    rw [reconcileEvent, hfind, horder]
    simp only [reconcileOrderEvent_fits hfits]
    exact ⟨trivial, hr, mem_paidExternalEvents hfits hid _⟩
  | none =>
    have hget : db.orders.find? (·.id = v.orderID) = some o := (D2SOrder.find?_pk _ _).trans ho
    rw [reconcileEvent, hfind]
    simp only [hget, reconcileOrderEvent_fits hfits]
    refine ⟨mismatches_counted [o] _, fun o' ho' => ?_, mem_paidExternalEvents hfits hid _⟩
    rcases mem_cons.mp ho' with rfl | ho'
    · exact hm
    · exact hr o' ho'

/-- **The loop adds no mismatch for events that fit their orders.** -/
theorem reconcileEvent_foldl_fits (hI : Reconciled db) (events : List D2SPaymentEvent) {r : Reconciliation}
    (hr : ∀ o ∈ r.orderByID, o ∈ db.orders.rows) (hev : ∀ v ∈ events, v ∈ db.paymentEvents.rows) :
    (events.foldl (reconcileEvent db) r).report.mismatches = r.report.mismatches ∧
    ∀ id, id ∈ (events.foldl (reconcileEvent db) r).paidExternalEvents ↔
      id ∈ r.paidExternalEvents ∨ ∃ v ∈ events, v.pays id := by
  induction events generalizing r with
  | nil => simp
  | cons v events ih =>
    obtain ⟨hmis, horders, hpaid⟩ := reconcileEvent_fits hI hr (hev v mem_cons_self)
    obtain ⟨hmis', hpaid'⟩ := ih horders fun w hw => hev w (mem_cons_of_mem _ hw)
    refine ⟨hmis'.trans hmis, fun id => ?_⟩
    rw [foldl_cons, hpaid', hpaid, or_assoc]
    simp

end Loops

/-! ## False alarms -/

variable {db : DB} {startAt endAt : ℤ}

theorem mem_ordersCreated {o : D2SOrder} :
    o ∈ db.ordersCreated startAt endAt ↔ o ∈ db.orders.rows ∧ startAt ≤ o.createdAt ∧ o.createdAt < endAt := by
  simp [DB.ordersCreated]

theorem mem_eventsProcessed {v : D2SPaymentEvent} :
    v ∈ db.eventsProcessed startAt endAt ↔ v ∈ db.paymentEvents.rows ∧ startAt ≤ v.processedAt ∧ v.processedAt < endAt := by
  simp [DB.eventsProcessed]

/-- What the loop over the events leaves: the expired pending orders as mismatches, and the orders that the
events of the window have paid. -/
theorem reconcileEvents_fits (hI : Reconciled db) :
    (∀ m ∈ (reconcileEvents db startAt endAt).report.mismatches, m.kind = .pendingExpired) ∧
    ∀ id, id ∈ (reconcileEvents db startAt endAt).paidExternalEvents ↔
      ∃ v ∈ db.eventsProcessed startAt endAt, v.pays id := by
  obtain ⟨hmis, hpaid⟩ := reconcileEvent_foldl_fits hI (db.eventsProcessed startAt endAt)
    (r := ⟨reconcileOrders db startAt endAt, db.ordersCreated startAt endAt, []⟩)
    (fun o ho => (mem_ordersCreated.mp ho).1) (fun v hv => (mem_eventsProcessed.mp hv).1)
  refine ⟨fun m hm => ?_, fun id => (hpaid id).trans (by simp)⟩
  rw [reconcileEvents, hmis, reconcileOrders, mismatches_addExpired, mismatches_counted] at hm
  obtain ⟨o, -, rfl⟩ := mem_map.mp hm
  rfl

theorem paidExternalEvents_iff (hI : Reconciled db) {o : D2SOrder} (ho : o ∈ db.orders.rows) (hpos : 0 < o.gatewayMinor) :
    o.id ∈ (reconcileEvents db startAt endAt).paidExternalEvents ↔
      ∃ v ∈ db.paymentEvents.rows, v.orderID = o.id ∧ v.eventType = .paid ∧
        startAt ≤ v.processedAt ∧ v.processedAt < endAt := by
  rw [(reconcileEvents_fits hI).2]
  constructor
  · rintro ⟨v, hv, hpaid, -, hid⟩
    obtain ⟨hm, hwindow⟩ := mem_eventsProcessed.mp hv
    exact ⟨v, hm, hid, hpaid, hwindow⟩
  · rintro ⟨v, hm, hid, hpaid, hwindow⟩
    obtain ⟨_, ho', hfits⟩ := hI v hm
    rw [hid, show db.orders.get? o.id = some o from Table.get?_pk ho] at ho'
    cases ho'
    exact ⟨v, mem_eventsProcessed.mpr ⟨hm, hwindow⟩, hpaid, hfits.amount ▸ hpos, hid⟩

theorem mem_mismatches_snapshot {m : D2SReconciliationMismatch} :
    m ∈ (reconcileD2SPaymentsSnapshot db startAt endAt).mismatches ↔
      m ∈ (reconcileEvents db startAt endAt).report.mismatches ∨
      ∃ o ∈ db.orders.rows, (startAt ≤ o.createdAt ∧ o.createdAt < endAt) ∧ o.status = .paid ∧ 0 < o.gatewayMinor ∧
        o.id ∉ (reconcileEvents db startAt endAt).paidExternalEvents ∧
        m = { orderID := o.id, kind := .paidOrderWithoutPaymentEvent } := by
  rw [reconcileD2SPaymentsSnapshot, mismatches_addUnpaid, mem_append, mem_map]
  simp only [mem_filter, mem_ordersCreated, decide_eq_true_eq, and_assoc, eq_comm (a := m)]

/-- **When the reconciliation raises no false alarm.** In every reachable state and for every window, the report
consists of expired pending orders alone just if each order that was created in the window and paid through a
provider has its paid event in the same window. -/
theorem reconciliation_false_alarms [Digest] (users : Table User) (options : Table OptionRow)
    (controls : Table D2SUserSecurityControl) (ops : List Op) (startAt endAt : ℤ) (hstart : 0 < startAt)
    (hend : startAt < endAt) :
    let db := (run (.init users options controls) ops).db
    ∃ report, (reconcileD2SPayments startAt endAt).run db = .ok (report, db) ∧
      ((∀ m ∈ report.mismatches, m.kind = .pendingExpired) ↔
        ∀ o ∈ db.orders.rows, startAt ≤ o.createdAt → o.createdAt < endAt → o.status = .paid → 0 < o.gatewayMinor →
          ∃ v ∈ db.paymentEvents.rows, v.orderID = o.id ∧ v.eventType = .paid ∧
            startAt ≤ v.processedAt ∧ v.processedAt < endAt) := by
  intro db
  have hI : Reconciled db := reconciled_run users options controls ops
  refine ⟨reconcileD2SPaymentsSnapshot db startAt endAt, ?_, ?_, ?_⟩
  · simp only [reconcileD2SPayments, run_bind_ok, run_require_ok, run_get_ok, run_pure_ok]
    exact ⟨(), db, ⟨⟨hstart, hend⟩, rfl⟩, db, db, ⟨rfl, rfl⟩, rfl, rfl⟩
  · intro h o ho hfrom hto hst hpos
    by_contra hno
    have hun := mt (paidExternalEvents_iff hI ho hpos).mp hno
    cases h _ (mem_mismatches_snapshot.mpr (.inr ⟨o, ho, ⟨hfrom, hto⟩, hst, hpos, hun, rfl⟩))
  · intro h m hm
    rcases mem_mismatches_snapshot.mp hm with hm | ⟨o, ho, ⟨hfrom, hto⟩, hst, hpos, hun, -⟩
    · exact (reconcileEvents_fits hI).1 m hm
    · exact absurd ((paidExternalEvents_iff hI ho hpos).mpr (h o ho hfrom hto hst hpos)) hun

/-- An order is created a minute before the end of the second day and paid at `paidAt`. -/
def samplePaid (paidAt : ℤ) : List Op :=
  [.prepareOrder (.sample 1) 1 (.sample .license "" 2990 0) 0 (Uuid.sample "key" 1).val "" "" (2 * 86400 - 60) none,
    .commitOrder (.sample 1) 0, .request (.paymentEvent (.sample 2) (.sample 1 2990 paidAt))]

theorem reconciliation_paid_in_time :
    letI := Digest.plain
    let db := (run .sample (samplePaid (2 * 86400 - 30))).db
    ∃ report, (reconcileD2SPayments 86400 (2 * 86400)).run db = .ok (report, db) ∧
      ∀ m ∈ report.mismatches, m.kind = .pendingExpired := by
  have hpaid : ∀ o ∈ (@run Digest.plain .sample (samplePaid (2 * 86400 - 30))).db.orders.rows, 86400 ≤ o.createdAt →
      o.createdAt < 2 * 86400 → o.status = .paid → 0 < o.gatewayMinor →
      ∃ v ∈ (@run Digest.plain .sample (samplePaid (2 * 86400 - 30))).db.paymentEvents.rows,
        v.orderID = o.id ∧ v.eventType = .paid ∧ 86400 ≤ v.processedAt ∧ v.processedAt < 2 * 86400 := by decide
  unfold State.sample at hpaid ⊢
  obtain ⟨report, hrun, hiff⟩ := @reconciliation_false_alarms Digest.plain _ _ _ (samplePaid (2 * 86400 - 30))
    86400 (2 * 86400) (by decide) (by decide)
  exact ⟨report, hrun, hiff.mpr hpaid⟩

/-- The order is paid two minutes later, on the next day, and its event is stored with it. The report on the day
of the order calls it paid without a payment event, and so the order never leaves the report of that day. -/
theorem reconciliation_paid_next_day :
    letI := Digest.plain
    let db := (run .sample (samplePaid (2 * 86400 + 60))).db
    ((reconcileD2SPayments 86400 (2 * 86400)).run db).map (fun x => x.1.mismatches) =
        .ok [{ orderID := "order-1", kind := .paidOrderWithoutPaymentEvent }] ∧
      (db.orders.get? "order-1").map D2SOrder.status = some .paid ∧
      db.paymentEvents.rows.map (fun v => (v.orderID, v.eventType, v.processedAt)) =
        [("order-1", .paid, 2 * 86400 + 60)] := by
  decide

end Desktop2Stereo
