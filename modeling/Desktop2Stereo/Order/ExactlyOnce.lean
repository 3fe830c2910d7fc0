import Desktop2Stereo.Order.Moves

/-!
# Payment events take effect exactly once

* `traced_run`: in every reachable state each order has left exactly the trace of its status;
* `event_stored`: an accepted event is stored, and stays;
* **`payment_events_exactly_once`**.
-/

namespace Desktop2Stereo

open Relational GoText

/-! ## The state machine of orders -/

/-- The edges of the order state machine, and staying put. -/
inductive StatusStep : OrderStatus → OrderStatus → Prop
  | stay {s} : StatusStep s s
  | pay : StatusStep .pending .paid
  | cancel : StatusStep .pending .canceled
  | chargeBack : StatusStep .paid .chargeback

/-- The trace of an order in its status: a paid or charged-back one is delivered and has consumed its
share of the balance, a canceled one has released it, and nothing else is recorded. -/
def expectedTrace : Option D2SOrder → Trace
  | none => 0
  | some o =>
    match o.status with
    | .pending => 0
    | .paid | .chargeback => o.paidTrace
    | .canceled => o.settledTrace false

variable {o : D2SOrder}

theorem expectedTrace_of_fulfilled (h : o.status = .paid ∨ o.status = .chargeback) :
    expectedTrace (some o) = o.paidTrace := by
  rcases h with h | h <;> simp [expectedTrace, h]

theorem expectedTrace_of_pending (h : o.status = .pending) : expectedTrace (some o) = 0 := by
  simp [expectedTrace, h]

theorem expectedTrace_of_canceled (h : o.status = .canceled) : expectedTrace (some o) = o.settledTrace false := by
  simp [expectedTrace, h]

variable {o' : Option D2SOrder}

theorem OrderMove.expected {t : Trans} {o : Option D2SOrder} {δ : Trace} (h : OrderMove t o δ o') :
    expectedTrace o' = expectedTrace o + δ := by
  cases h with
  | same => simp
  | placed => rw [expectedTrace_of_pending rfl]; rfl
  | placedPaid ht ho =>
    rw [expectedTrace_of_fulfilled (.inl (by rw [ho]; rfl))]
    simp [expectedTrace]
  | paid hs =>
    rw [expectedTrace_of_pending hs, Trace.zero_add, expectedTrace_of_fulfilled (.inl rfl)]
    rfl
  | canceled hs =>
    rw [expectedTrace_of_pending hs, Trace.zero_add, expectedTrace_of_canceled rfl]
    rfl
  | chargedBack hs =>
    rw [expectedTrace_of_fulfilled (.inl hs), expectedTrace_of_fulfilled (.inr rfl)]
    rfl
  | refunded hs =>
    rw [expectedTrace_of_fulfilled (.inl hs)]
    exact expectedTrace_of_fulfilled (.inl hs)

theorem OrderMove.status {t : Trans} {δ : Trace} (h : OrderMove t (some o) δ o') :
    ∃ o1, o' = some o1 ∧ StatusStep o.status o1.status := by
  cases h with
  | same => exact ⟨o, rfl, .stay⟩
  | paid hs => exact ⟨_, rfl, by rw [hs]; exact .pay⟩
  | canceled hs => exact ⟨_, rfl, by rw [hs]; exact .cancel⟩
  | chargedBack hs => exact ⟨_, rfl, by rw [hs]; exact .chargeBack⟩
  | refunded => exact ⟨_, rfl, .stay⟩

theorem expectedTrace_le_one (o : Option D2SOrder) :
    (expectedTrace o).events ≤ 1 ∧ (expectedTrace o).licenses ≤ 1 ∧
      (expectedTrace o).consumed + (expectedTrace o).released ≤ 1 := by
  have hset : ∀ (o : D2SOrder) (b : Bool), (o.settledTrace b).events = 0 ∧ (o.settledTrace b).licenses = 0 ∧
      (o.settledTrace b).consumed + (o.settledTrace b).released ≤ 1 := by
    intro o b
    unfold D2SOrder.settledTrace
    split_ifs <;> simp
  have hpaid : ∀ o : D2SOrder, o.paidTrace.events ≤ 1 ∧ o.paidTrace.licenses ≤ 1 ∧
      o.paidTrace.consumed + o.paidTrace.released ≤ 1 := by
    intro o
    obtain ⟨he, hl, hc⟩ := hset o true
    unfold D2SOrder.paidTrace
    simp only [Trace.add_events, Trace.add_licenses, Trace.add_consumed, Trace.add_released, he, hl,
      D2SOrder.deliveredTrace]
    split_ifs <;> omega
  cases o with
  | none => simp [expectedTrace]
  | some o =>
    cases ho : o.status with
    | pending => rw [expectedTrace_of_pending ho]; simp
    | paid => rw [expectedTrace_of_fulfilled (.inl ho)]; exact hpaid o
    | chargeback => rw [expectedTrace_of_fulfilled (.inr ho)]; exact hpaid o
    | canceled =>
      obtain ⟨he, hl, hc⟩ := hset o false
      rw [expectedTrace_of_canceled ho, he, hl]
      exact ⟨Nat.zero_le 1, Nat.zero_le 1, hc⟩

theorem expectedTrace_licenses_pos {o : Option D2SOrder} (h : 0 < (expectedTrace o).licenses) :
    ∃ o1, o = some o1 ∧ (o1.status = .paid ∨ o1.status = .chargeback) ∧ o1.product = .license := by
  have hset : ∀ (o : D2SOrder) (b : Bool), (o.settledTrace b).licenses = 0 := by
    intro o b
    unfold D2SOrder.settledTrace
    split_ifs <;> rfl
  have hpaid : ∀ o : D2SOrder, 0 < o.paidTrace.licenses → o.product = .license := by
    intro o ho
    by_contra hne
    rw [D2SOrder.paidTrace, Trace.add_licenses, hset, D2SOrder.deliveredTrace, if_neg hne] at ho
    exact absurd ho (lt_irrefl _)
  cases o with
  | none => exact absurd h (lt_irrefl _)
  | some o =>
    cases ho : o.status with
    | pending => rw [expectedTrace_of_pending ho] at h; exact absurd h (lt_irrefl _)
    | paid => rw [expectedTrace_of_fulfilled (.inl ho)] at h; exact ⟨o, rfl, .inl ho, hpaid o h⟩
    | chargeback => rw [expectedTrace_of_fulfilled (.inr ho)] at h; exact ⟨o, rfl, .inr ho, hpaid o h⟩
    | canceled => rw [expectedTrace_of_canceled ho, hset] at h; exact absurd h (lt_irrefl _)

/-! ## Traces along runs -/

section Runs

variable [Digest] {db db' : DB} {s : State}

/-- Every order has left exactly the trace of its status. -/
def Traced (db : DB) : Prop := ∀ oid : String, oid ≠ "" → db.trace oid = expectedTrace (db.orders.get? oid)

theorem traced_tx {t : Trans} (hI : Traced db) (h : t.tx.run db = .ok ((), db')) : Traced db' := by
  intro oid hoid
  obtain ⟨δ, hmove, htrace⟩ := orderMove h oid
  rw [htrace hoid, hI oid hoid, hmove.expected]

theorem traced_run (users : Table User) (options : Table OptionRow) (controls : Table D2SUserSecurityControl)
    (ops : List Op) : Traced (run (.init users options controls) ops).db :=
  run_db (fun _ _ _ => traced_tx) (fun _ _ => rfl) ops

theorem step_order (op : Op) {oid : String} {o : D2SOrder} (h : s.db.orders.get? oid = some o) :
    ∃ o', (step s op).db.orders.get? oid = some o' ∧ StatusStep o.status o'.status := by
  refine step_db (I := fun db => ∃ o', db.orders.get? oid = some o' ∧ StatusStep o.status o'.status)
    ⟨o, h, .stay⟩ fun t _ db' hr => ?_
  obtain ⟨δ, hmove, -⟩ := orderMove hr oid
  rw [h] at hmove
  obtain ⟨o', ho', hs⟩ := hmove.status
  exact ⟨o', ho', hs⟩

theorem order_kept {oid : String} (h : ∃ o, s.db.orders.get? oid = some o) (ops : List Op) :
    ∃ o, (run s ops).db.orders.get? oid = some o := by
  refine Runs.run_invariant (I := fun s : State => ∃ o, s.db.orders.get? oid = some o) ops (fun s op hs => ?_) h
  obtain ⟨o, ho⟩ := hs
  obtain ⟨o', ho', -⟩ := step_order op ho
  exact ⟨o', ho'⟩

end Runs

/-! ## Stored events -/

section Events

variable {e : Env} {db db' : DB} {now : ℤ} {order : D2SOrder}

variable {o : D2SOrder} {v : D2SPaymentEvent}

theorem Applied.paymentEvents (h : Applied e v order db o db') (hrow : db.orders.get? order.id = some order) :
    db'.paymentEvents = db.paymentEvents := by
  cases h with
  | paid accountHash hv happly =>
    obtain ⟨_, -, hpayer⟩ := recordedPayer_sets accountHash hrow
    obtain ⟨_, _, hpend, -, -, hful, hset⟩ := applyPaid_ok happly
    obtain ⟨_, _, _, _, _, _, _, _, _, rfl⟩ := (orderPaid hful hset hpayer.get?_self hpend).frame
    rfl
  | canceled hv happly =>
    rcases applyCanceled_ok happly with ⟨-, -, rfl⟩ | ⟨-, hcancel⟩
    · rfl
    · obtain ⟨_, _, _, -, -, rfl⟩ := cancel_orderTx hcancel hrow
      rfl
  | chargeback hv happly =>
    rcases applyChargeback_ok happly with ⟨-, -, rfl⟩ | ⟨-, _, _, _, -, -, rfl⟩ <;> rfl

theorem OrderTx.paymentEvents {t : Trans} (h : OrderTx t db db') : EventsKept t db db'.paymentEvents := by
  cases h with
  | idle hkept => exact hkept
  | canceled hrow hpend hsets hshare hkept => exact hkept
  | chargedBack hrow hpaid hcase hsets hrev hkept => exact hkept
  | paid ht => exact .inr ⟨_, _, ht⟩
  | placedPaid ht hk hnone hsets hshare hpaid =>
    obtain ⟨_, _, _, _, _, _, _, _, _, rfl⟩ := hpaid.frame
    exact .inl rfl
  | placed | refunded => exact .inl rfl

theorem paymentEvents_tx [Digest] {t : Trans} (h : t.tx.run db = .ok ((), db')) : EventsKept t db db'.paymentEvents := by
  cases moneyTx h with
  | quiet hq => exact .inl hq.paymentEvents
  | createRefund hr =>
    obtain ⟨_, -, rfl⟩ := createD2SAlipayRefund_ok hr
    exact .inl rfl
  | setUserRegion hr =>
    obtain ⟨_, _, -, rfl⟩ := setD2SUserRegion_ok hr
    exact .inl rfl
  | commitOrder hr => exact (commitOrder_orderTx hr).paymentEvents
  | paymentEvent hr => exact (paymentEvent_orderTx hr).paymentEvents
  | expireOrder hr => exact (expireOrder_orderTx hr).paymentEvents
  | completeRefund hr => exact (completeRefund_orderTx hr).paymentEvents
  | commitWithdrawal hr =>
    obtain ⟨_, _, _, _, -, -, -, -, -, -, -, -, rfl⟩ := commitD2SWithdrawal_ok hr
    exact .inl rfl
  | reviewWithdrawal hr =>
    obtain ⟨_, _, _, _, _, _, -, -, -, -, -, -, rfl⟩ := reviewD2SWithdrawal_ok hr
    exact .inl rfl

/-- **Stored events stay.** -/
theorem paymentEvents_kept [Digest] {t : Trans} (h : t.tx.run db = .ok ((), db')) (hv : v ∈ db.paymentEvents.rows) :
    v ∈ db'.paymentEvents.rows := by
  rcases paymentEvents_tx h with heq | ⟨e, n, rfl⟩
  · rwa [heq]
  · obtain ⟨o, hr⟩ := run_forget_ok.mp h
    obtain ⟨w, -, ⟨_, -, -, -, -, -, rfl⟩ | ⟨_, paymentEvents, -, hins, -, hrow, -, happ⟩⟩ :=
      processD2SPaymentEvent_ok hr
    · exact hv
    · rw [happ.paymentEvents hrow]
      exact (Table.mem_insert hins).mpr (.inl hv)

/-- An event is stored under its provider and its id, with the content of the notice. -/
def Stored (db : DB) (v : D2SPaymentEvent) : Prop :=
  ∃ w ∈ db.paymentEvents.rows, w.provider = v.provider ∧ w.providerEventID = v.providerEventID ∧ w.sameAs v

theorem event_stored {n : PaymentNotice} (h : (processD2SPaymentEvent e n).run db = .ok (o, db')) :
    ∃ provider, Provider.parse n.provider = some provider ∧ Stored db' (n.event e provider) ∧
      ∃ o, db.orders.get? n.orderID = some o := by
  obtain ⟨v, ⟨provider, hprov, rfl⟩, hcase⟩ := processD2SPaymentEvent_ok h
  refine ⟨provider, hprov, ?_⟩
  rcases hcase with ⟨w, hw, hwp, hwe, hsame, ho, rfl⟩ | ⟨order, paymentEvents, -, hins, hid, hrow, -, happ⟩
  · refine ⟨⟨w, hw, hwp, hwe, hsame⟩, o, ?_⟩
    rw [← ho, hsame.1]
    rfl
  · refine ⟨⟨n.event e provider, ?_, rfl, rfl, rfl, rfl, rfl, rfl, rfl⟩, order, ?_⟩
    · rw [happ.paymentEvents hrow]
      exact (Table.mem_insert hins).mpr (.inr rfl)
    · rw [← hrow, ← hid]
      rfl

end Events

/-! ## Repeated events -/

section Repeated

variable {e e' : Env} {db db' db₀ : DB} {n : PaymentNotice} {o o' : D2SOrder} {now : ℤ}

theorem find_event {v w : D2SPaymentEvent} (hw : w ∈ db.paymentEvents.rows) (hp : w.provider = v.provider)
    (he : w.providerEventID = v.providerEventID) :
    db.paymentEvents.find? (fun u => u.provider = v.provider ∧ u.providerEventID = v.providerEventID) = some w := by
  cases hf : db.paymentEvents.find? fun u => u.provider = v.provider ∧ u.providerEventID = v.providerEventID with
  | none =>
    have hn := Table.find?_eq_none.mp hf w hw
    simp [hp, he] at hn
  | some u =>
    obtain ⟨hu, hk⟩ := Table.find?_eq_some hf
    obtain ⟨hup, hue⟩ := of_decide_eq_true hk
    have hclash : (u.provider, u.providerEventID) = (w.provider, w.providerEventID) := by rw [hup, hue, hp, he]
    rw [db.paymentEvents.eq_of_clash hu hw (.inr hclash)]

/-- **A stored event that is processed again returns its order and changes nothing.** -/
theorem repeated_event {provider : Provider} (h0 : (processD2SPaymentEvent e n).run db₀ = .ok (o, db'))
    (hprov : Provider.parse n.provider = some provider) (hst : Stored db (n.event e provider))
    (ho : db.orders.get? n.orderID = some o') :
    (processD2SPaymentEvent e' { n with now }).run db = .ok (o', db) := by
  obtain ⟨w, hw, hwp, hwe, hsame⟩ := hst
  have hfind := find_event (v := ({ n with now } : PaymentNotice).event e' provider) hw hwp hwe
  have hrow : db.orders.get? w.orderID = some o' := by
    rw [hsame.1]
    exact ho
  -- the checks of the notice itself passed when the event was first processed
  simp only [processD2SPaymentEvent, run_bind_ok, run_attempt_ok, run_require_ok, and_assoc, exists_and_left,
    exists_eq_left, exists_const] at h0 ⊢
  obtain ⟨provider', hprov', region, hreg, hids, hids', hhash, -⟩ := h0
  obtain rfl : provider = provider' := Option.some.inj (hprov.symm.trans hprov')
  refine ⟨provider, hprov, region, hreg, hids, hids', hhash, false, db, ?_, ?_⟩
  · rw [run_createIgnore_ok]
    exact .inl ⟨rfl, rfl, w, hfind⟩
  · simp only [Bool.false_eq_true, if_false, repeatD2SPaymentEvent, run_bind_ok, run_first_ok, run_require_ok,
      D2SOrder.find?_pk, and_assoc, exists_and_left, exists_eq_left, exists_const]
    exact ⟨w, hfind, hsame, hrow, trivial⟩

end Repeated

/-! ## Exactly once -/

section Main

variable [Digest]

theorem stored_run {s : State} {v : D2SPaymentEvent} (h : Stored s.db v) (ops : List Op) :
    Stored (run s ops).db v := by
  refine run_db (I := fun db => Stored db v) (fun t db db' hI hr => ?_) h ops
  obtain ⟨w, hw, hcontent⟩ := hI
  exact ⟨w, paymentEvents_kept hr hw, hcontent⟩

/-- **Payment events are exactly-once.** In every reachable state: each order's status moves along
the edges of `StatusStep` alone; each order has left exactly the trace of its status, so it is delivered
at most once and its share of the balance is consumed or released once and never both; an accepted event
that is processed again, after any further operations, returns its order and changes nothing; an event
that fails changes nothing. -/
theorem payment_events_exactly_once (users : Table User) (options : Table OptionRow)
    (controls : Table D2SUserSecurityControl) (ops : List Op) :
    let s := run (.init users options controls) ops
    (∀ op oid o, s.db.orders.get? oid = some o →
      ∃ o', (step s op).db.orders.get? oid = some o' ∧ StatusStep o.status o'.status) ∧
    (∀ oid : String, oid ≠ "" → s.db.trace oid = expectedTrace (s.db.orders.get? oid) ∧
      (s.db.trace oid).events ≤ 1 ∧ (s.db.trace oid).licenses ≤ 1 ∧
      (s.db.trace oid).consumed + (s.db.trace oid).released ≤ 1) ∧
    (∀ e n o db', (processD2SPaymentEvent e n).run s.db = .ok (o, db') →
      ∀ ops' e' now, ∃ o', (run { s with db := db' } ops').db.orders.get? n.orderID = some o' ∧
        (processD2SPaymentEvent e' { n with now }).run (run { s with db := db' } ops').db =
          .ok (o', (run { s with db := db' } ops').db)) ∧
    (∀ e n err, (perform s (.request (.paymentEvent e n))).1 = .error err →
      (perform s (.request (.paymentEvent e n))).2 = s) := by
  intro s
  refine ⟨fun op oid o => step_order op, fun oid hoid => ?_, fun e n o db' h ops' e' now => ?_, fun e n err h => ?_⟩
  · have ht := traced_run users options controls ops oid hoid
    rw [ht]
    exact ⟨rfl, expectedTrace_le_one _⟩
  · obtain ⟨_, hprov, hst, _, ho0⟩ := event_stored h
    have htx : (Trans.request (.paymentEvent e n)).tx.run s.db = .ok ((), db') := run_forget_ok.mpr ⟨o, h⟩
    have hrow : ∃ o, db'.orders.get? n.orderID = some o := by
      obtain ⟨δ, hmove, -⟩ := orderMove htx n.orderID
      rw [ho0] at hmove
      obtain ⟨o1, ho1, -⟩ := hmove.status
      exact ⟨o1, ho1⟩
    obtain ⟨o', ho'⟩ := order_kept (s := { s with db := db' }) hrow ops'
    exact ⟨o', ho', repeated_event h hprov (stored_run (s := { s with db := db' }) hst ops') ho'⟩
  · rcases Prog.exec_atomic (Request.paymentEvent e n).tx s.db with ⟨a, _, -, he⟩ | ⟨_, -, he⟩
    · simp only [perform, he] at h
      cases h
    · simp only [perform, he]

end Main

end Desktop2Stereo
