import Desktop2Stereo.Balance.Rewards
import Desktop2Stereo.Licence.Suspension

/-!
# Refunds

Alipay refunds are filed by an administrator and completed when the provider confirms them.

* `refundsOf_insert`, `RefundDone.sums`: how filing and completing move what the refunds of an order add up to;
* `Refunded`, **`refunded_run`**: the refunded part of an order is the sum of its completed refunds, and together
  with the pending ones it fits into what was paid to the provider;
* `OrderStep.fully_refunded`: the transaction that refunds the rest of an order charges it back;
* **`alipay_refund_accounting`**.
-/

namespace Desktop2Stereo

open Relational GoText Table

/-! ## Sums of refunds -/

section Sums

variable {t t' : Table D2SAlipayRefund} {r : D2SAlipayRefund} {oid : String} {status : RefundStatus}

theorem refundsOf_insert (h : t.insert r = some t') :
    refundsOf t' oid status =
      refundsOf t oid status + if r.orderID = oid ∧ r.status = status then r.amountMinor else 0 := by
  rw [refundsOf, sum_insert h, refundsOf]
  simp

theorem refundsOf_eq_zero (h : ∀ r ∈ t.rows, r.orderID ≠ oid) : refundsOf t oid status = 0 :=
  sum_eq_zero fun r hr => decide_eq_false fun hd => h r hr hd.1

theorem RefundDone.sums {db : DB} {order : D2SOrder} {refunded : ℤ} {refunds : Table D2SAlipayRefund}
    (h : RefundDone db order refunded refunds) (oid : String) :
    refundsOf refunds oid .completed =
        refundsOf db.refunds oid .completed + (if order.id = oid then refunded - order.refundedMinor else 0) ∧
      refundsOf refunds oid .pending =
        refundsOf db.refunds oid .pending - (if order.id = oid then refunded - order.refundedMinor else 0) := by
  obtain ⟨r, r', hrow, horder, hopen, _, hid, hoid, hamount, hdone, hsets⟩ := h.sets
  have hpend : r.status = .pending := by
    cases hs : r.status with
    | pending => rfl
    | completed => exact absurd hs hopen
  have hold : db.refunds.get? (pk r') = some r := by
    rw [show pk r' = r.id from hid]
    exact hrow
  have hsum : ∀ status, refundsOf refunds oid status =
      refundsOf db.refunds oid status - (if r.orderID = oid ∧ r.status = status then r.amountMinor else 0) +
        if r'.orderID = oid ∧ r'.status = status then r'.amountMinor else 0 := by
    intro status
    rw [refundsOf, hsets.sum, hold]
    simp [refundsOf]
  have hcompleted := hsum .completed
  have hpending := hsum .pending
  rw [hoid, hamount, hdone, hpend, horder] at hcompleted hpending
  by_cases hk : order.id = oid
  · simp only [hk, reduceCtorEq, and_false, and_true, if_true, if_false] at hcompleted hpending ⊢
    omega
  · simp only [hk, false_and, if_false] at hcompleted hpending ⊢
    omega

end Sums

/-! ## The refunded part of an order -/

/-- The refunded part of every order is what its completed refunds add up to, and the pending ones still fit. -/
structure Refunded (db : DB) : Prop where
  completed : ∀ oid o, db.orders.get? oid = some o → o.refundedMinor = refundsOf db.refunds oid .completed
  fits : ∀ oid o, db.orders.get? oid = some o → o.refundedMinor + refundsOf db.refunds oid .pending ≤ o.gatewayMinor
  ordered : ∀ r ∈ db.refunds.rows, db.orders.get? r.orderID ≠ none

section Invariant

variable {t : Trans} {db db' : DB} {order : D2SOrder} {refunded : ℤ}

theorem Refunded.of_none (h : Refunded db) {oid : String} (hnone : db.orders.get? oid = none) (status : RefundStatus) :
    refundsOf db.refunds oid status = 0 :=
  refundsOf_eq_zero fun r hr hoid => h.ordered r hr (by rw [hoid]; exact hnone)

theorem Refunded.sets (h : Refunded db) {r : D2SOrder} (hs : Sets r db.orders db'.orders)
    (hrefunds : db'.refunds = db.refunds)
    (hold : ∀ o, db.orders.get? r.id = some o → r.refundedMinor = o.refundedMinor ∧ r.gatewayMinor = o.gatewayMinor)
    (hnew : db.orders.get? r.id = none → r.refundedMinor = 0 ∧ 0 ≤ r.gatewayMinor) : Refunded db' := by
  have hrow : ∀ oid o, db'.orders.get? oid = some o → o.refundedMinor = refundsOf db.refunds oid .completed ∧
      o.refundedMinor + refundsOf db.refunds oid .pending ≤ o.gatewayMinor := by
    intro oid o ho
    by_cases hid : r.id = oid
    · obtain rfl : r = o := Option.some.inj (((hs oid).trans (if_pos hid)).symm.trans ho)
      subst hid
      cases hb : db.orders.get? r.id with
      | none =>
        rw [h.of_none hb, h.of_none hb, (hnew hb).1]
        exact ⟨rfl, (hnew hb).2⟩
      | some o =>
        rw [(hold o hb).1, (hold o hb).2]
        exact ⟨h.completed _ o hb, h.fits _ o hb⟩
    · have ho' := ((hs oid).trans (if_neg hid)).symm.trans ho
      exact ⟨h.completed oid o ho', h.fits oid o ho'⟩
  refine ⟨fun oid o ho => ?_, fun oid o ho => ?_, fun w hw => ?_⟩
  · rw [hrefunds]
    exact (hrow oid o ho).1
  · rw [hrefunds]
    exact (hrow oid o ho).2
  · rw [hs w.orderID]
    split_ifs
    · exact Option.some_ne_none r
    · exact h.ordered w (hrefunds ▸ hw)

theorem Refunded.done (h : Refunded db) {r : D2SOrder} (hrow : db.orders.get? order.id = some order)
    (hdone : RefundDone db order refunded db'.refunds) (hs : Sets r db.orders db'.orders) (hid : r.id = order.id)
    (hr : r.refundedMinor = refunded) (hg : r.gatewayMinor = order.gatewayMinor) : Refunded db' := by
  have hfind : ∀ oid o, db'.orders.get? oid = some o → o.refundedMinor = refundsOf db'.refunds oid .completed ∧
      o.refundedMinor + refundsOf db'.refunds oid .pending ≤ o.gatewayMinor := by
    intro oid o ho
    obtain ⟨hcompleted, hpending⟩ := hdone.sums oid
    rw [hcompleted, hpending]
    by_cases hoid : order.id = oid
    · obtain rfl : r = o := Option.some.inj (((hs oid).trans (if_pos (hid.trans hoid))).symm.trans ho)
      have hc := h.completed _ order hrow
      have hf := h.fits _ order hrow
      rw [hoid] at hc hf
      rw [if_pos hoid, hr, hg]
      omega
    · have ho' := ((hs oid).trans (if_neg fun hk => hoid (hid.symm.trans hk))).symm.trans ho
      have hc := h.completed oid o ho'
      have hf := h.fits oid o ho'
      rw [if_neg hoid]
      omega
  refine ⟨fun oid o ho => (hfind oid o ho).1, fun oid o ho => (hfind oid o ho).2, fun w hw => ?_⟩
  rw [hs w.orderID]
  split_ifs
  · exact Option.some_ne_none r
  · obtain ⟨x, _, hx, -, -, -, -, hoid, -, -, hsets⟩ := hdone.sets
    rcases hsets.mem.mp hw with rfl | ⟨hw, -⟩
    · rw [hoid]
      exact h.ordered x (get?_eq_some.mp hx).1
    · exact h.ordered w hw

theorem Refunded.filed (h : Refunded db) {refund : D2SAlipayRefund} (hpend : refund.status = .pending)
    (hfiled : RefundFiled db refund db'.refunds) (horders : db'.orders = db.orders) : Refunded db' := by
  obtain ⟨order, hrow, -, -, _⟩ := hfiled.fits
  have hinsert : ∀ oid status, refundsOf db'.refunds oid status = refundsOf db.refunds oid status +
      if refund.orderID = oid ∧ refund.status = status then refund.amountMinor else 0 :=
    fun oid status => refundsOf_insert hfiled.insert
  refine ⟨fun oid o ho => ?_, fun oid o ho => ?_, fun r hr => ?_⟩
  · rw [horders] at ho
    rw [hinsert, hpend, h.completed oid o ho]
    simp
  · rw [horders] at ho
    have hf := h.fits oid o ho
    rw [hinsert, hpend]
    by_cases hoid : refund.orderID = oid
    · subst hoid
      obtain rfl : order = o := Option.some.inj (hrow.symm.trans ho)
      simp only [and_self, if_true]
      omega
    · simp only [hoid, false_and, if_false]
      omega
  · rw [horders]
    rcases (mem_insert hfiled.insert).mp hr with hr | rfl
    · exact h.ordered r hr
    · rw [hrow]
      exact Option.some_ne_none order

/-- **A transaction keeps the refunded parts right**, if it files no refund as completed. -/
theorem refunded_tx [Digest] (hI : Refunded db) (h : t.tx.run db = .ok ((), db'))
    (hfile : ∀ refund, t = .request (.createRefund refund) → refund.status = .pending) : Refunded db' := by
  cases orderStep h with
  | quiet ho hq hr =>
    exact ⟨fun oid o => ho ▸ hr ▸ hI.completed oid o, fun oid o => ho ▸ hr ▸ hI.fits oid o, ho ▸ hr ▸ hI.ordered⟩
  | filed ht hfiled ho => exact hI.filed (hfile _ ht) hfiled ho
  | placed hnone hpend hr hg hs hl hrefunds =>
    exact hI.sets hs hrefunds (fun o ho => (by cases hnone.symm.trans ho)) fun _ => ⟨hr, hg⟩
  | @canceled order hrow hpend hs hl hrefunds =>
    refine hI.sets hs hrefunds (fun o ho => ?_) fun hnone => (by cases hnone.symm.trans hrow)
    cases hrow.symm.trans ho
    exact ⟨rfl, rfl⟩
  | refunded hrow hpaid hdone hpart hs => exact hI.done hrow hdone hs rfl rfl rfl
  | chargedBack hrow hpaid hcase hs =>
    rcases hcase with ⟨rfl, hrefunds⟩ | ⟨-, hdone⟩
    · refine hI.sets hs hrefunds (fun o ho => ?_) fun hnone => (by cases hnone.symm.trans hrow)
      cases hrow.symm.trans ho
      exact ⟨rfl, rfl⟩
    · exact hI.done hrow hdone hs rfl rfl rfl
  | @fulfilled e order now hf hrefunds =>
    have hid : ((order.assigned e.licenseID.val).paidAt now).id = order.id := D2SOrder.assigned_id _ _
    have hterms : (order.assigned e.licenseID.val).refundedMinor = order.refundedMinor ∧
        (order.assigned e.licenseID.val).gatewayMinor = order.gatewayMinor := by
      unfold D2SOrder.assigned
      split_ifs <;> exact ⟨rfl, rfl⟩
    refine hI.sets hf.sets hrefunds (fun o ho => ?_) fun hnone => ?_
    · obtain ⟨_, heq⟩ := hf.before o (hid ▸ ho)
      have hsame : order.refundedMinor = o.refundedMinor ∧ order.gatewayMinor = o.gatewayMinor := by
        rw [heq]
        exact ⟨rfl, rfl⟩
      exact ⟨hterms.1.trans hsame.1, hterms.2.trans hsame.2⟩
    · have hfresh := hf.fresh (hid ▸ hnone)
      rw [← hterms.1, ← hterms.2] at hfresh
      exact hfresh

theorem refunded_run [Digest] (users : Table User) (options : Table OptionRow) (controls : Table D2SUserSecurityControl)
    (ops : List Op) (hops : ∀ refund, Op.request (.createRefund refund) ∈ ops → refund.status = .pending) :
    Refunded (run (.init users options controls) ops).db := by
  refine Runs.run_invariant_along (I := fun s : State => Refunded s.db)
    (C := fun _ op => ∀ refund, op = .request (.createRefund refund) → refund.status = .pending)
    (fun s op hI hop => ?_) ⟨fun oid o ho => ?_, fun oid o ho => ?_, fun r hr => ?_⟩
    (Runs.Along.of_forall fun s op hop refund heq => hops refund (heq ▸ hop))
  · refine step_db hI fun t ht db' hr => refunded_tx hI hr fun refund heq => ?_
    subst heq
    exact hop refund (runs_request ht fun _ _ _ h => (by cases h))
  · cases ho
  · cases ho
  · cases hr

theorem OrderStep.fully_refunded (h : OrderStep t db db') {o o' : D2SOrder} (ho : db.orders.get? o.id = some o)
    (ho' : db'.orders.get? o.id = some o') (hbefore : o.refundedMinor ≠ o.gatewayMinor)
    (hafter : o'.refundedMinor = o'.gatewayMinor) : o'.status = .chargeback ∧ o'.licenseID = o.licenseID ∧
      o.status = .paid ∧ ∃ now, db'.licenses = suspended db.licenses o.licenseID now := by
  -- a row that is set without moving the refunded part is not the one
  have hrow : ∀ {r : D2SOrder}, Sets r db.orders db'.orders → r.id = o.id → o' = r := by
    intro r hs hid
    exact Option.some.inj (ho'.symm.trans ((hs o.id).trans (if_pos hid)))
  have hother : ∀ {r : D2SOrder}, Sets r db.orders db'.orders → r.id ≠ o.id → False := by
    intro r hs hid
    have heq : o' = o := Option.some.inj (ho'.symm.trans ((hs o.id).trans ((if_neg hid).trans ho)))
    rw [heq] at hafter
    exact hbefore hafter
  have hsame : ∀ {r : D2SOrder}, Sets r db.orders db'.orders →
      (r.id = o.id → r.refundedMinor = o.refundedMinor ∧ r.gatewayMinor = o.gatewayMinor) → False := by
    intro r hs hterms
    by_cases hid : r.id = o.id
    · rw [hrow hs hid, (hterms hid).1, (hterms hid).2] at hafter
      exact hbefore hafter
    · exact hother hs hid
  have hkept : db'.orders = db.orders → False := by
    intro hs
    rw [hs, ho] at ho'
    rw [← Option.some.inj ho'] at hafter
    exact hbefore hafter
  cases h with
  | quiet hs | filed ht hfiled hs => exact (hkept hs).elim
  | placed hnone hpend hr hg hs =>
    refine (hsame hs fun hid => ?_).elim
    rw [hid, ho] at hnone
    cases hnone
  | @canceled order hget hpend hs =>
    refine (hsame hs fun hid => ?_).elim
    have hid' : order.id = o.id := hid
    rw [hid', ho] at hget
    cases hget
    exact ⟨rfl, rfl⟩
  | @refunded order refunded hget hpaid hdone hpart hs =>
    by_cases hid : order.id = o.id
    · rw [hrow hs hid] at hafter
      exact absurd hafter hpart
    · exact (hother hs hid).elim
  | @chargedBack order refunded now hget hpaid hcase hs hl =>
    by_cases hid : order.id = o.id
    · rw [hid, ho] at hget
      cases hget
      rw [hrow hs rfl]
      exact ⟨rfl, rfl, hpaid, now, congrArg Licensing.licenses hl⟩
    · exact (hother hs hid).elim
  | @fulfilled e order now hf =>
    have hpay : ((order.assigned e.licenseID.val).paidAt now).id = order.id := D2SOrder.assigned_id _ _
    refine (hsame hf.sets fun hid => ?_).elim
    obtain ⟨_, heq⟩ := hf.before o (hpay ▸ hid ▸ ho)
    rw [heq]
    unfold D2SOrder.assigned
    split_ifs <;> exact ⟨rfl, rfl⟩

end Invariant

theorem paid_license_suspended [Digest] {users : Table User} {options : Table OptionRow}
    {controls : Table D2SUserSecurityControl} {ops : List Op} {oid : String} {o : D2SOrder}
    (ho : (run (.init users options controls) ops).db.orders.get? oid = some o) (hpaid : o.status = .paid) (now : ℤ) :
    ∃ l, (suspended (run (.init users options controls) ops).db.licenses o.licenseID now).get? o.licenseID = some l ∧
      l.status = .suspended := by
  obtain ⟨l, hl, -⟩ := delivered_run users options controls ops _ o ho (.inl hpaid)
  have hne : o.licenseID ≠ "" := by
    intro hempty
    rw [hempty, license_named users options controls ops] at hl
    cases hl
  exact ⟨_, get?_suspended hne hl, rfl⟩

theorem Rewards.reversed_of_chargeback {db : DB} (h : Rewards db) {oid : String} {o : D2SOrder}
    (ho : db.orders.get? oid = some o) (hc : o.status = .chargeback) {r : D2SInviteReward} (hr : r ∈ db.rewards.rows)
    (hoid : r.orderID = oid) : r.status = .reversed := by
  -- a reward is credited iff its order is paid
  obtain ⟨_, ho1, hst⟩ := h.settled r hr
  rw [hoid, ho] at ho1
  rw [← Option.some.inj ho1, hc] at hst
  cases hrs : r.status with
  | reversed => rfl
  | credited => rw [hrs] at hst; cases hst

/-- **The accounts of Alipay refunds**, in every run in which every refund is filed as pending. The refunded part
of every order is the sum of its completed refunds, and with the pending ones it stays within what was paid to the
provider; the operation that makes it all of it suspends the order's licence and leaves no credited reward of
the order; and completing a completed refund changes nothing. -/
theorem alipay_refund_accounting [Digest] (users : Table User) (options : Table OptionRow)
    (controls : Table D2SUserSecurityControl) (ops : List Op)
    (hops : ∀ refund, Op.request (.createRefund refund) ∈ ops → refund.status = .pending) :
    let s := run (.init users options controls) ops
    (∀ o ∈ s.db.orders.rows, o.refundedMinor = refundsOf s.db.refunds o.id .completed ∧
      o.refundedMinor + refundsOf s.db.refunds o.id .pending ≤ o.gatewayMinor) ∧
    (∀ op o o', s.db.orders.get? o.id = some o → (step s op).db.orders.get? o.id = some o' →
      o.refundedMinor ≠ o.gatewayMinor → o'.refundedMinor = o'.gatewayMinor →
      (∃ l, (step s op).db.licenses.get? o'.licenseID = some l ∧ l.status = .suspended) ∧
        ∀ r ∈ (step s op).db.rewards.rows, r.orderID = o.id → r.status = .reversed) ∧
    ∀ r ∈ s.db.refunds.rows, r.status = .completed → ∀ e providerTradeNo now,
      (completeD2SAlipayRefund e r.outRequestNo providerTradeNo now).run s.db = .ok ((), s.db) := by
  intro s
  have hI : Refunded s.db := refunded_run users options controls ops hops
  refine ⟨fun o ho => ⟨hI.completed _ o (get?_pk ho), hI.fits _ o (get?_pk ho)⟩,
    fun op o o' ho ho' hbefore hafter => ?_, fun r hr hdone e trade now => ?_⟩
  · rcases step_trans s op with heq | ⟨t, -, hr⟩
    · rw [heq, ho] at ho'
      rw [← Option.some.inj ho'] at hafter
      exact absurd hafter hbefore
    · obtain ⟨hc, hid, hpaid, now, hlic⟩ := (orderStep hr).fully_refunded ho ho' hbefore hafter
      refine ⟨?_, fun r hr' hoid => ?_⟩
      · rw [hlic, hid]
        exact paid_license_suspended ho hpaid now
      · have hrew : Rewards (step s op).db := rewards_tx (rewards_run users options controls ops) hr
        exact hrew.reversed_of_chargeback ho' hc hr' hoid
  · have hfind : s.db.refunds.find? (fun w => decide (w.outRequestNo = r.outRequestNo)) = some r := by
      cases hf : s.db.refunds.find? fun w => decide (w.outRequestNo = r.outRequestNo) with
      | none => exact absurd (find?_eq_none.mp hf r hr) (by simp)
      | some =>
        obtain ⟨hw, hno⟩ := find?_eq_some hf
        rw [s.db.refunds.eq_of_clash hw hr (.inr (of_decide_eq_true hno))]
    simp only [completeD2SAlipayRefund, run_bind_ok, run_first_ok, run_whenever_ok]
    exact ⟨r, s.db, ⟨hfind, rfl⟩, .inr ⟨fun hne => hne hdone, rfl⟩⟩

def D2SAlipayRefund.sample (n : ℕ) (amountMinor : ℤ) : D2SAlipayRefund :=
  { id := (Uuid.sample "refund" n).val, orderID := "order-1", outRequestNo := (Uuid.sample "refund" n).val, amountMinor
    reason := "", status := .pending, operatorID := 1, createdAt := 1000, updatedAt := 1000 }

/-- A licence is bought with Alipay; one refund is completed and another one filed. -/
def sampleRefunded : List Op :=
  sampleAlipay 1 1 ++
    [.request (.createRefund (.sample 2 4000)), .request (.completeRefund (.sample 3) "refund-2" "trade" 1000),
      .request (.createRefund (.sample 4 5900))]

theorem alipay_refund_accounting_partial :
    letI := Digest.plain
    let s := run .sample sampleRefunded
    (s.db.orders.get? "order-1").map (fun o => (o.refundedMinor, o.gatewayMinor)) = some (4000, 9900) ∧
      refundsOf s.db.refunds "order-1" .pending = 5900 ∧
      ∀ o ∈ s.db.orders.rows, o.refundedMinor = refundsOf s.db.refunds o.id .completed ∧
        o.refundedMinor + refundsOf s.db.refunds o.id .pending ≤ o.gatewayMinor := by
  refine ⟨by decide, by decide, ?_⟩
  refine (@alipay_refund_accounting Digest.plain _ _ _ sampleRefunded fun refund h => ?_).1
  simp only [sampleRefunded, sampleAlipay, List.cons_append, List.nil_append, List.mem_cons, Op.request.injEq, Request.createRefund.injEq, reduceCtorEq,
    List.not_mem_nil, or_false, false_or] at h
  rcases h with rfl | rfl <;> rfl

end Desktop2Stereo
