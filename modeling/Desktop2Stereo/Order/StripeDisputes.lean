import Desktop2Stereo.Effects.OrderTx
import Desktop2Stereo.Model.PaymentAdapters

/-!
# Disputes at Stripe

A dispute is reported when it is created and when it is closed, and each report is an event of its own.

* **`stripe_events_keep_license`**: so the order keeps its licence and its reward over any sequence of events that
  has no refund and no dispute of the whole payment.
-/

namespace Desktop2Stereo

open Relational GoText Prog

variable {e : Env} {db db' : DB} {o o' : D2SOrder} {n : PaymentNotice} {event : StripeEvent}

/-! ## Events of a paid order -/

/-- **An event that does not reverse a paid order is a repetition if it is accepted**, and changes nothing. -/
theorem paid_order_event (ho : db.orders.get? n.orderID = some o) (hpaid : o.status = .paid)
    (hkeep : EventType.parse n.eventType = .chargeback ∨ EventType.parse n.eventType = .reversed →
      o.gatewayMinor ≠ n.amountMinor)
    (h : (processD2SPaymentEvent e n).run db = .ok (o', db')) : db' = db := by
  obtain ⟨_, ⟨provider, -, rfl⟩, ⟨_, -, -, -, -, -, rfl⟩ | ⟨order, _, -, -, hid, hrow, hterms, happ⟩⟩ :=
    processD2SPaymentEvent_ok h
  · rfl
  · have heq : n.orderID = order.id := hid
    cases ho.symm.trans (heq ▸ hrow)
    cases happ with
    | paid hash hv happly =>
      obtain ⟨_, heq, -⟩ := recordedPayer_sets hash hrow
      obtain ⟨_, _, hpend, -⟩ := applyPaid_ok happly
      rw [heq] at hpend
      cases hpaid.symm.trans hpend
    | canceled hv happly =>
      rcases applyCanceled_ok happly with ⟨hc, -⟩ | ⟨hc, -⟩ <;> cases hpaid.symm.trans hc
    | chargeback hv =>
      simp only [PaymentNotice.event] at hv hterms
      exact absurd hterms.2.2 (hkeep hv)

/-! ## Events of Stripe -/

def StripeEvent.disputes (event : StripeEvent) (o : D2SOrder) : Prop :=
  stripeD2SPaymentEvent event = some "chargeback" ∧ event.minor = some o.gatewayMinor

structure StillEntitled (db : DB) (o : D2SOrder) : Prop where
  license : ∃ l, db.licenses.get? o.licenseID = some l ∧ l.status = .active
  reward : ∀ w ∈ db.rewards.rows, w.orderID = o.id → w.status = .credited

/-- A verified event, with what its processing reads and the body it came in. -/
structure StripeDelivery where
  env : Env
  event : StripeEvent
  payload : String

def deliverStripe [Digest] (hmac : String → String) (db : DB) (d : StripeDelivery) : DB :=
  (Prog.exec (processStripeD2SPayment hmac d.env d.event d.payload) db).2

theorem trimSpace_stripeD2SOrderID (event : StripeEvent) :
    trimSpace (stripeD2SOrderID event) = stripeD2SOrderID event := by
  simp only [stripeD2SOrderID]
  split_ifs <;> exact trimSpace_trimSpace _

theorem stripeD2SPaymentEvent_reverses {eventType : String} (h : stripeD2SPaymentEvent event = some eventType)
    (hrefund : event.type ≠ .chargeRefunded)
    (ht : EventType.parse eventType = .chargeback ∨ EventType.parse eventType = .reversed) :
    eventType = "chargeback" := by
  have hcases : eventType = "chargeback" ∨ eventType ∈ ["paid", "canceled", "failed"] := by
    unfold stripeD2SPaymentEvent at h
    split at h <;> simp_all
  have hkept : ∀ eventType ∈ ["paid", "canceled", "failed"],
      EventType.parse eventType ≠ .chargeback ∧ EventType.parse eventType ≠ .reversed := by decide
  rcases hcases with hc | hc
  · exact hc
  · exact (ht.elim (hkept _ hc).1 (hkept _ hc).2).elim

section Deliveries

theorem ensures_d2sOrderOf (I : DB → Prop) (orderID : String) : Prog.Ensures I I (d2sOrderOf orderID) :=
  ensures_readonly fun _ _ _ h => (run_lookup_ok.mp h).2

variable [Digest] (hmac : String → String)

theorem stripe_event_keeps {payload : String} (ho : db.orders.get? o.id = some o) (hpaid : o.status = .paid)
    (hid : stripeD2SOrderID event = o.id) (hrefund : event.type ≠ .chargeRefunded) (hdispute : ¬ event.disputes o) :
    (Prog.exec (processStripeD2SPayment hmac e event payload) db).2 = db := by
  have htrim : trimSpace o.id = o.id := hid ▸ trimSpace_stripeD2SOrderID event
  refine (?_ : Prog.Ensures (· = db) (· = db) (processStripeD2SPayment hmac e event payload)) db rfl
  simp only [processStripeD2SPayment, processVerifiedD2SPayment, hid, htrim]
  cases htype : stripeD2SPaymentEvent event with
  | none => exact ensures_pure _
  | some =>
    split_ifs
    · exact ensures_pure _
    refine ensures_bind (ensures_d2sOrderOf _ _) (fun _ h => h) fun found => ?_
    cases found with
    | none => exact ensures_pure _
    | some _ =>
      refine ensures_attempt fun amountMinor hminor => ?_
      refine ensures_bind (ensures_d2sOrderOf _ _) (fun _ h => h) fun found => ?_
      cases found with
      | none => exact ensures_pure _
      | some _ =>
        refine ensures_bind (ensures_atomic (fun _ h => h) fun s o' s' hs h => ?_) (fun _ h => h)
          fun _ => ensures_pure _
        rw [hs] at h
        refine paid_order_event ho hpaid (fun ht heq => hdispute ⟨?_, heq ▸ hminor⟩) h
        rw [← stripeD2SPaymentEvent_reverses htype hrefund ht]
        exact htype

/-- **Events without a refund and without a dispute of the whole payment leave a paid order its licence and its
reward**: nothing changes at all, whatever else is reported and however often. -/
theorem stripe_events_keep_license (ho : db.orders.get? o.id = some o) (hpaid : o.status = .paid) (hk : StillEntitled db o)
    (ds : List StripeDelivery) (hd : ∀ d ∈ ds, stripeD2SOrderID d.event = o.id ∧ d.event.type ≠ .chargeRefunded ∧
      ¬ d.event.disputes o) :
    Runs.run (deliverStripe hmac) db ds = db ∧ StillEntitled (Runs.run (deliverStripe hmac) db ds) o := by
  have hkept : Runs.run (deliverStripe hmac) db ds = db := by
    induction ds with
    | nil => rfl
    | cons d ds ih =>
      obtain ⟨hid, hrefund, hdispute⟩ := hd d List.mem_cons_self
      have hstep : deliverStripe hmac db d = db := stripe_event_keeps hmac ho hpaid hid hrefund hdispute
      rw [Runs.run_cons, hstep]
      exact ih fun d hd' => hd d (List.mem_cons_of_mem _ hd')
  exact ⟨hkept, by rw [hkept]; exact hk⟩

end Deliveries

/-! ## A dispute -/

/-- User 1 buys a licence and invites user 2, who orders one through Stripe. -/
def sampleStripe : List Op :=
  [.request (.ensureProfileAndTrial (.sample 5) 1 1)] ++ sampleOrder 6 (.sample .license "" 2990 0) 1 ++
    [.request (.setUser { id := 2, email := "friend@d2s", emailVerifiedAt := 1, inviterId := 1 }),
      .request (.ensureProfileAndTrial (.sample 0) 2 1),
      .prepareOrder (.sample 1) 2 (.sample .license "" 2990 0) 0 "key" "" "" 1 none, .commitOrder (.sample 1) 0]

/-- The `n`th event about the order. -/
def StripeDelivery.sample (n : ℕ) (type : StripeEventType) (status : String) : StripeDelivery :=
  let id := (Uuid.sample "evt" n).val
  { env := .sample n, payload := id
    event := { id, type, status, paymentStatus := "paid", clientReferenceID := "order-1", amountTotal := "2990",
               amount := "2990", currency := "usd", customer := "customer" } }

/-- The order after it is paid, and after some further events. -/
def sampleStripePaid (ds : List StripeDelivery) : DB :=
  letI := Digest.plain
  Runs.run (deliverStripe fun _ => sampleHex) (run .sample sampleStripe).db
    (.sample 2 .checkoutSessionCompleted "complete" :: ds)

/-- A payment that is reported again, and a dispute that is won without a report of its beginning. -/
def sampleStripeLater : List StripeDelivery :=
  [.sample 3 .checkoutSessionCompleted "complete", .sample 4 .chargeDisputeClosed "won"]

theorem stripe_license_kept :
    letI := Digest.plain
    ∃ o, (sampleStripePaid []).orders.get? "order-1" = some o ∧
      StillEntitled (Runs.run (deliverStripe fun _ => sampleHex) (sampleStripePaid []) sampleStripeLater) o := by
  let _ := Digest.plain
  obtain ⟨o, ho, hid, hpaid, hlic, hrew⟩ : ∃ o ∈ (sampleStripePaid []).orders.get? "order-1", o.id = "order-1" ∧
      o.status = .paid ∧ (∃ l ∈ (sampleStripePaid []).licenses.get? o.licenseID, l.status = .active) ∧
      ∀ w ∈ (sampleStripePaid []).rewards.rows, w.orderID = o.id → w.status = .credited := by decide +kernel
  have hlater : ∀ d ∈ sampleStripeLater, stripeD2SOrderID d.event = "order-1" ∧ d.event.type ≠ .chargeRefunded ∧
      stripeD2SPaymentEvent d.event ≠ some "chargeback" := by decide
  rw [← hid] at ho hlater
  exact ⟨o, hid ▸ ho, (stripe_events_keep_license (fun _ => sampleHex) ho hpaid ⟨hlic, hrew⟩ sampleStripeLater
    fun d hd => ⟨(hlater d hd).1, (hlater d hd).2.1, fun h => (hlater d hd).2.2 h.1⟩).2⟩

/-- The dispute is won, and the licence stays suspended and the reward taken back. -/
theorem stripe_dispute_won :
    let db := sampleStripePaid [.sample 3 .chargeDisputeCreated "needs_response", .sample 4 .chargeDisputeClosed "won"]
    (∃ o ∈ (sampleStripePaid []).orders.get? "order-1", o.status = .paid ∧
      (∃ l ∈ (sampleStripePaid []).licenses.get? o.licenseID, l.status = .active) ∧
      ∃ w ∈ (sampleStripePaid []).rewards.rows, w.orderID = o.id ∧ w.status = .credited) ∧
    ∃ o ∈ db.orders.get? "order-1", o.status = .chargeback ∧
      (∃ l ∈ db.licenses.get? o.licenseID, l.status = .suspended) ∧
      ∀ w ∈ db.rewards.rows, w.orderID = o.id → w.status = .reversed := by
  decide

end Desktop2Stereo
