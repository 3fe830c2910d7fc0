import Desktop2Stereo.Order.ExactlyOnce

/-!
# The terms of an order

An order is placed for a quote of its time, and keeps the terms it was placed on.

* `D2SOrder.terms`: the columns of an order that never change, **`OrderMove.terms_kept`**;
* `Placed`, **`placed_run`**: every order of a reachable state has the terms of a prepared order with such a quote.
-/

namespace Desktop2Stereo

open Relational GoText

/-- The order without what its life writes into it: the payer, the licence it has bought, its state, what is
refunded and when it was completed. -/
def D2SOrder.terms (o : D2SOrder) : D2SOrder :=
  { o with
    paymentAccountIdentifierHash := none, licenseID := if o.product = .license then "" else o.licenseID
    status := .pending, refundedMinor := 0, pendingKey := none, completedAt := 0 }

theorem D2SOrder.terms_assigned (o : D2SOrder) (licenseID : String) : (o.assigned licenseID).terms = o.terms := by
  unfold assigned
  split_ifs with hp
  · simp [terms, hp]
  · rfl

/-- **A move keeps the terms of an order.** -/
theorem OrderMove.terms_kept {t : Trans} {o o' : D2SOrder} {δ : Trace} (h : OrderMove t (some o) δ (some o')) :
    o'.terms = o.terms := by
  cases h with
  | same | canceled | chargedBack | refunded => rfl
  | paid hs hkeep =>
    by_cases hp : o.product = .license
    · simp [D2SOrder.terms, D2SOrder.paidAt, hp]
    · simp [D2SOrder.terms, D2SOrder.paidAt, hp, hkeep hp]

theorem OrderMove.terms {t : Trans} {o : Option D2SOrder} {o' : D2SOrder} {δ : Trace} (h : OrderMove t o δ (some o')) :
    (∃ o0, o = some o0 ∧ o'.terms = o0.terms) ∨ ∃ e p, t = .commitOrder e p ∧ o'.terms = (p.order e.orderID).terms := by
  cases o with
  | some o0 => exact .inl ⟨o0, rfl, h.terms_kept⟩
  | none =>
    cases h with
    | placed ht => exact .inr ⟨_, _, ht, rfl⟩
    | @placedPaid e p k _ ht ho =>
      rw [ho]
      exact .inr ⟨e, p, ht, D2SOrder.terms_assigned { p.order e.orderID with pendingKey := k } e.licenseID.val⟩

/-- The quote of a prepared order was given to its call, at the time of the call. -/
def PreparedOrder.Quoted (p : PreparedOrder) : Prop :=
  ∃ e profile db, (quoteD2SOrderTx e profile p.userID p.quote.product.code p.quote.licenseID p.quote.provider.code
    p.now).run db = .ok (p.quote, db)

theorem PreparedOrder.Quoted.currency {p : PreparedOrder} (h : p.Quoted) :
    p.quote.currency = d2sCurrencyForRegion p.quote.region := by
  obtain ⟨e, _, _, hquote⟩ := h
  obtain ⟨-, -, -, -, -, -, hcurrency, -⟩ := quoteD2SOrderTx_ok hquote
  exact hcurrency

structure Placed (s : State) : Prop where
  prepared : ∀ p ∈ s.preparedOrders, p.Quoted
  orders : ∀ oid o, s.db.orders.get? oid = some o → ∃ (p : PreparedOrder) (id : Uuid), p.Quoted ∧ o.terms = (p.order id).terms

theorem Placed.currency {s : State} (h : Placed s) {oid : String} {o : D2SOrder} (ho : s.db.orders.get? oid = some o) :
    o.currency = d2sCurrencyForRegion o.region := by
  obtain ⟨p, id, hq, hterms⟩ := h.orders oid o ho
  have hp : (p.order id).terms.currency = d2sCurrencyForRegion (p.order id).terms.region := hq.currency
  rw [← hterms] at hp
  exact hp

theorem placed_step [Digest] {s : State} (h : Placed s) (op : Op) : Placed (step s op) := by
  refine ⟨fun p hp => ?_, fun oid o ho => ?_⟩
  · rcases step_preparedOrders hp with hp | ⟨e, _, _, _, _, _, _, _, _, -, hprep⟩
    · exact h.prepared p hp
    · obtain ⟨hnow, hu, hq, -, -, profile, -, hquote⟩ := prepareD2SOrder_inr hprep
      rw [← hnow, ← hu, ← hq] at hquote
      exact ⟨e, profile, _, hquote⟩
  · rcases step_trans s op with heq | ⟨t, ht, hr⟩
    · rw [heq] at ho
      exact h.orders oid o ho
    · obtain ⟨δ, hmove, -⟩ := orderMove hr oid
      rw [ho] at hmove
      rcases hmove.terms with ⟨o0, ho0, heq⟩ | ⟨e, p, rfl, heq⟩
      · rw [heq]
        exact h.orders oid o0 ho0
      · exact ⟨p, e.orderID, h.prepared p (runs_commitOrder ht), heq⟩

/-- **Every order stands on the quote that was given for it.** -/
theorem placed_run [Digest] (users : Table User) (options : Table OptionRow) (controls : Table D2SUserSecurityControl)
    (ops : List Op) : Placed (run (.init users options controls) ops) := by
  refine Runs.run_invariant ops (fun _ op h => placed_step h op) ⟨fun p hp => ?_, fun oid o ho => ?_⟩
  · cases hp
  · cases ho

/-- **An order stays, on the terms it was placed on.** -/
theorem order_terms_kept [Digest] (s : State) (ops : List Op) (oid : String) : s.db.orders.get? oid = none ∨
    ((run s ops).db.orders.get? oid).map (·.terms) = (s.db.orders.get? oid).map (·.terms) := by
  cases ho : s.db.orders.get? oid with
  | none => exact .inl rfl
  | some o =>
    refine .inr (run_db (I := fun db => (db.orders.get? oid).map (·.terms) = some o.terms)
      (fun t db db' hI hr => ?_) (congrArg _ ho) ops)
    obtain ⟨o1, ho1, hterms⟩ := Option.map_eq_some_iff.mp hI
    obtain ⟨_, hmove, -⟩ := orderMove hr oid
    rw [ho1] at hmove
    obtain ⟨o2, ho2, -⟩ := hmove.status
    rw [ho2] at hmove ⊢
    exact congrArg some (hmove.terms_kept.trans hterms)

end Desktop2Stereo
