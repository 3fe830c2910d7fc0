import Desktop2Stereo.Model.PaymentAdapters
import Desktop2Stereo.Order.Reconciliation
import Desktop2Stereo.Order.Refunds

/-!
# Refunds through Epay

A callback becomes an event under the trade number of the provider, and an event is stored under its number once.

* `processEpayD2SPayment_ok`: a callback that is accepted is a payment event that is accepted;
* **`epay_refund_accepted_iff`**: a refund reverses its order exactly if its number is not that of a stored event.
-/

namespace Desktop2Stereo

open Relational GoText Prog

variable {e : Env} {r : VerifyRes} {payload eventType : String} {db db' : DB}
  {o : D2SOrder} {n : PaymentNotice} {provider : Provider}

/-! ## Reversals -/

theorem Provider.parse_code (provider : Provider) : Provider.parse provider.code = some provider := by
  cases provider <;> decide

/-- The identifiers that a reversal draws are new. -/
structure Env.New (e : Env) (db : DB) : Prop where
  event : ∀ v ∈ db.paymentEvents.rows, v.id ≠ e.paymentEventID.val
  entry : ∀ v ∈ db.transactions.rows, v.id ≠ e.rewardTxID.val

theorem reward_reversal_succeeds (hentry : ∀ v ∈ db.transactions.rows, v.id ≠ e.rewardTxID.val)
    (hacc : ∀ r ∈ db.rewards.rows, ∃ i, HasAccount db.accounts i r.inviterUserID r.currency) (now : ℤ) :
    ∃ db', (reverseD2SInviteRewardTx e o now).run db = .ok ((), db') := by
  simp only [reverseD2SInviteRewardTx, run_bind_ok, run_lookup_ok, and_assoc, exists_and_left, exists_eq_left]
  cases hf : db.rewards.find? fun r => decide (r.orderID = o.id ∧ r.status = .credited) with
  | none => exact ⟨db, rfl⟩
  | some reward =>
    obtain ⟨i, a, ha, hu, hc⟩ := hacc reward (Table.find?_eq_some hf).1
    obtain ⟨b, hb⟩ : ∃ b, db.accounts.find?
        (fun a => decide (a.userID = reward.inviterUserID ∧ a.currency = reward.currency)) = some b :=
      Option.isSome_iff_exists.mp (List.find?_isSome.mpr ⟨a, (Table.get?_eq_some.mp ha).1, by simp [hu, hc]⟩)
    simp only [revokeD2SInviteReward, d2sBalanceAccountTx, run_bind_ok, run_lookup_ok, run_updates_ok, run_create_ok,
      and_assoc, exists_and_left, exists_eq_left]
    exact (Table.insert_of_new hentry).elim fun transactions hins =>
      ⟨_, b, db, by rw [hb]; rfl, (), (), transactions, hins, rfl⟩

theorem chargeback_succeeds (hpaid : o.status = .paid)
    (hevent : ∃ v ∈ db.paymentEvents.rows, v.provider = o.provider ∧ v.orderID = o.id ∧ v.eventType = .paid)
    (hentry : ∀ v ∈ db.transactions.rows, v.id ≠ e.rewardTxID.val)
    (hacc : ∀ r ∈ db.rewards.rows, ∃ i, HasAccount db.accounts i r.inviterUserID r.currency) (now : ℤ) :
    ∃ o' db', (applyChargeback e o now).run db = .ok (o', db') := by
  have hcount : db.paymentEvents.count (fun v =>
      v.provider = o.provider ∧ v.orderID = o.id ∧ v.eventType = .paid) ≠ 0 := by
    obtain ⟨v, hv, hpays⟩ := hevent
    exact (List.countP_pos_iff.mpr ⟨v, hv, decide_eq_true hpays⟩).ne'
  obtain ⟨db1, hdb1⟩ : ∃ db1, (suspendD2SLicense o.licenseID now).run db = .ok ((), db1) := by
    simp only [suspendD2SLicense, run_whenever_ok, run_updates_ok]
    by_cases hempty : o.licenseID = ""
    · exact ⟨_, .inr ⟨not_not.mpr hempty, rfl⟩⟩
    · exact ⟨_, .inl ⟨hempty, rfl⟩⟩
  obtain ⟨db2, hdb2⟩ : ∃ db2, (reverseD2SInviteRewardTx e o now).run db1 = .ok ((), db2) := by
    rw [suspendD2SLicense_ok hdb1]
    refine reward_reversal_succeeds ?_ ?_ now
    · exact hentry
    · exact hacc
  unfold applyChargeback
  rw [if_neg (by rw [hpaid]; decide)]
  simp only [run_bind_ok, run_require_ok, run_count_ok, run_updates_ok, run_pure_ok, and_assoc, exists_and_left,
    exists_eq_left, exists_const]
  exact ⟨hpaid, hcount, _, _, (), db1, hdb1, (), db2, hdb2, rfl, rfl⟩

theorem reversal_accepted {region : Region} (hprov : Provider.parse n.provider = some provider)
    (hregion : d2sProviderRegion provider = some region) (hids : trimSpace n.eventID ≠ "" ∧ trimSpace n.orderID ≠ "")
    (hpayer : n.paymentAccountIdentifierHash = none) (htype : (n.event e provider).eventType = .reversed)
    (ho : db.orders.get? n.orderID = some o) (hterms : o.provider = provider ∧ o.currency.code = toUpper n.currency ∧
      o.gatewayMinor = n.amountMinor) (hr : o.region = region) (hpaid : o.status = .paid)
    (hevent : ∃ v ∈ db.paymentEvents.rows, v.provider = o.provider ∧ v.orderID = o.id ∧ v.eventType = .paid)
    (hnew : e.New db) (hI : Rewards db)
    (hfree : ∀ v ∈ db.paymentEvents.rows, v.provider = provider → v.providerEventID ≠ n.eventID) :
    ∃ o' db', (processD2SPaymentEvent e n).run db = .ok (o', db') := by
  obtain ⟨paymentEvents, hins⟩ := Table.insert_of_new (t := db.paymentEvents) (r := n.event e provider) fun v hv hclash =>
    hclash.elim (hnew.event v hv) fun h => hfree v hv (congrArg Prod.fst h) (congrArg Prod.snd h)
  have hfind : db.paymentEvents.find? (fun v => v.provider = provider ∧ v.providerEventID = n.eventID) = none :=
    Table.find?_eq_none.mpr fun v hv => decide_eq_false fun h => hfree v hv h.1 h.2
  obtain ⟨o', db', happly⟩ : ∃ o' db', (applyChargeback e o (e.resolve n.now)).run { db with paymentEvents } =
      .ok (o', db') := by
    refine chargeback_succeeds hpaid (hevent.imp fun v hv => ⟨(Table.mem_insert hins).mpr (.inl hv.1), hv.2⟩) ?_ ?_ _
    · exact hnew.entry
    · exact hI.account
  have hne : (n.event e provider).eventType ≠ .paid := by
    rw [htype]
    decide
  refine ⟨o', db', ?_⟩
  simp only [processD2SPaymentEvent, run_bind_ok, run_attempt_ok, run_require_ok, run_createIgnore_ok, and_assoc,
    exists_and_left, exists_eq_left, exists_const, hpayer]
  refine ⟨provider, hprov, region, hregion, hids.1, hids.2, fun hne => absurd rfl hne, true, { db with paymentEvents },
    .inr ⟨rfl, hfind, paymentEvents, hins, rfl⟩, ?_⟩
  simp only [if_true, acceptD2SPaymentEvent, run_bind_ok, run_first_ok, run_require_ok, D2SOrder.find?_pk, and_assoc,
    exists_and_left, exists_eq_left, exists_const]
  refine ⟨o, ho, hterms.1, hterms.2.1, hterms.2.2, hr, (), { db with paymentEvents }, ?_, ?_⟩
  · rw [recordPayer, run_whenever_ok]
    exact .inr ⟨fun h => hne h.1, rfl⟩
  · rw [(withPayer_of_ne_paid o db hne _).1, htype]
    exact happly

/-- What is left of a paid order that is charged back: the licence is suspended and the reward taken back. -/
def ChargedBack (db : DB) (o : D2SOrder) : Prop :=
  (∃ o', db.orders.get? o.id = some o' ∧ o'.status = .chargeback) ∧
    (∃ l, db.licenses.get? o.licenseID = some l ∧ l.status = .suspended) ∧
    ∀ w ∈ db.rewards.rows, w.orderID = o.id → w.status = .reversed

theorem EventType.parse_epay : EventType.parse "paid" = .paid ∧ EventType.parse "reversed" = .reversed := by
  decide

/-! ## Callbacks -/

section Callbacks

variable [Digest]

def VerifyRes.notice (r : VerifyRes) (provider : Provider) (eventType : String) (minor : ℤ) (payload : String) (now : ℤ) :
    PaymentNotice :=
  { provider := provider.code, eventID := r.tradeNo, orderID := r.serviceTradeNo, eventType, amountMinor := minor
    currency := "CNY", payloadHash := Digest.sha256Hex payload, now }

theorem processEpayD2SPayment_ok (hid : trimSpace r.serviceTradeNo = r.serviceTradeNo)
    (htype : r.eventType = some eventType) :
    Prog.exec (processEpayD2SPayment e r payload) db = (.ok true, db') ↔
      ∃ order minor o, r.serviceTradeNo ≠ "" ∧ db.orders.get? r.serviceTradeNo = some order ∧
        r.minor = some minor ∧ trimSpace r.tradeNo ≠ "" ∧ isEpayD2SProvider order.provider = true ∧
        (processD2SPaymentEvent e (r.notice order.provider eventType minor payload e.wall)).run db = .ok (o, db') := by
  simp only [processEpayD2SPayment, processVerifiedD2SPayment, d2sOrderOf, hid, htype]
  split_ifs with hempty
  · simp [hempty, exec_pure]
  · simp only [exec_bind_ok, exec_atomic_eq_ok, run_lookup_ok, D2SOrder.find?_pk, and_assoc, exists_and_left,
      exists_eq_left]
    cases ho : db.orders.get? r.serviceTradeNo with
    | none => simp [exec_pure]
    | some =>
      simp [-bind_pure_comp, exec_bind_ok, exec_atomic_eq_ok, exec_pure_ok, run_lookup_ok, run_attempt_ok, run_require_ok,
        run_first_ok, D2SOrder.find?_pk, ho, hempty, VerifyRes.notice]

/-! ## Refunds -/

variable {s : State} {minor : ℤ}

theorem VerifyRes.event_notice (provider p : Provider) (now : ℤ) :
    ((r.notice provider eventType minor payload now).event e p).eventType = EventType.parse eventType := by
  simp only [PaymentNotice.event, VerifyRes.notice]

theorem epay_terms (hs : Reachable s) (hepay : isEpayD2SProvider provider = true)
    (hst : Stored s.db ((r.notice provider eventType minor payload e.wall).event e provider))
    (ho : s.db.orders.get? r.serviceTradeNo = some o) :
    o.provider = provider ∧ o.currency.code = toUpper "CNY" ∧ o.gatewayMinor = minor ∧
      d2sProviderRegion provider = some o.region := by
  obtain ⟨users, options, controls, ops, rfl⟩ := hs
  obtain ⟨w, hw, hwp, -, hsame⟩ := hst
  obtain ⟨o', ho', hfits⟩ := reconciled_run users options controls ops w hw
  cases (hsame.1 ▸ ho').symm.trans ho
  have hcode : o.currency.code = toUpper "CNY" := hfits.currency.symm.trans hsame.2.2.2.1
  refine ⟨hfits.provider.symm.trans hwp, hcode, hfits.amount.symm.trans hsame.2.2.1, ?_⟩
  have hregion : o.region = .CN := by
    rw [(placed_run users options controls ops).currency ho, d2sCurrencyForRegion] at hcode
    by_contra hne
    rw [if_neg hne] at hcode
    exact absurd hcode (by decide)
  rw [hregion]
  cases provider <;> first | rfl | cases hepay

theorem reversal_charges_back (hs : Reachable s) (ho : s.db.orders.get? o.id = some o) (hpaid : o.status = .paid)
    {o' : D2SOrder} (hid : n.orderID = o.id) (htype : ∀ provider, (n.event e provider).eventType = .reversed)
    (hr : (processD2SPaymentEvent e n).run s.db = .ok (o', db)) :
    (∀ v ∈ s.db.paymentEvents.rows, v.provider = o.provider → v.providerEventID ≠ n.eventID) ∧ ChargedBack db o := by
  obtain ⟨users, options, controls, ops, rfl⟩ := hs
  have htx : (Trans.request (.paymentEvent e n)).tx.run (run (.init users options controls) ops).db = .ok ((), db) :=
    run_forget_ok.mpr ⟨o', hr⟩
  obtain ⟨v, ⟨provider, hprov, rfl⟩, hcase⟩ := processD2SPaymentEvent_ok hr
  rcases hcase with ⟨w, hw, -, -, hsame, -, -⟩ | ⟨order, paymentEvents, hfree, hins, hvo, hrow, hterms, happ⟩
  · -- a stored reversal has charged its order back
    obtain ⟨o1, ho1, hfits⟩ := reconciled_run users options controls ops w hw
    have hw' : w.orderID = o.id := hsame.1.trans hid
    cases (hw' ▸ ho1).symm.trans ho
    have hst := hfits.settled
    rw [hsame.2.1.trans (htype provider), hpaid] at hst
    cases hst
  · have hoid : order.id = o.id := hvo.symm.trans hid
    cases (hoid ▸ hrow).symm.trans ho
    refine ⟨fun v hv hp he => hfree v hv ⟨hp.trans hterms.1, he⟩, ?_⟩
    cases happ with
    | paid hash hv => exact absurd (hv.symm.trans (htype provider)) (by decide)
    | canceled hv => rcases hv with hv | hv <;> exact absurd (hv.symm.trans (htype provider)) (by decide)
    | chargeback hv happly =>
      rcases applyChargeback_ok happly with ⟨hc, -⟩ | ⟨-, accounts, transactions, rewards, -, -, rfl⟩
      · exact absurd (hpaid.symm.trans hc) (by decide)
      · have hget := (sets_row (f := fun o : D2SOrder => { o with status := .chargeback }) (fun _ => rfl) hrow).get?_self
        exact ⟨⟨_, hget, rfl⟩, paid_license_suspended ho hpaid _, fun w hw hwo =>
          (rewards_tx (rewards_run users options controls ops) htx).reversed_of_chargeback hget rfl hw hwo⟩

theorem processEpayD2SPayment_again {e' : Env} {db0 db1 : DB} {o0 : D2SOrder} (hne : r.serviceTradeNo ≠ "")
    (hid : trimSpace r.serviceTradeNo = r.serviceTradeNo) (htype : r.eventType = some eventType)
    (hminor : r.minor = some minor) (hno : trimSpace r.tradeNo ≠ "")
    (hepay : isEpayD2SProvider o.provider = true)
    (h : (processD2SPaymentEvent e (r.notice o.provider eventType minor payload e.wall)).run db0 = .ok (o0, db1))
    (hst : Stored db ((r.notice o.provider eventType minor payload e.wall).event e o.provider))
    (ho : db.orders.get? r.serviceTradeNo = some o) :
    Prog.exec (processEpayD2SPayment e' r payload) db = (.ok true, db) :=
  (processEpayD2SPayment_ok hid htype).mpr ⟨o, minor, o, hne, ho, hminor, hno, hepay,
    repeated_event (n := r.notice o.provider eventType minor payload e.wall) h (Provider.parse_code o.provider) hst ho⟩

theorem Reachable.event (hs : Reachable s) (h : (processD2SPaymentEvent e n).run s.db = .ok (o, db)) :
    Reachable { s with db } :=
  hs.reached (reached_request (r := .paymentEvent e n) (run_forget_ok.mpr ⟨o, h⟩))

theorem Stored.event {v : D2SPaymentEvent} (hv : Stored db v) (h : (processD2SPaymentEvent e n).run db = .ok (o, db')) :
    Stored db' v := by
  obtain ⟨w, hw, hcontent⟩ := hv
  exact ⟨w, paymentEvents_kept (t := .request (.paymentEvent e n)) (run_forget_ok.mpr ⟨o, h⟩) hw, hcontent⟩

theorem notice_stored (h : (processD2SPaymentEvent e (r.notice provider eventType minor payload e.wall)).run db = .ok (o, db')) :
    Stored db' ((r.notice provider eventType minor payload e.wall).event e provider) := by
  obtain ⟨p, hprov, hst, -⟩ := event_stored h
  cases (Provider.parse_code provider).symm.trans hprov
  exact hst

/-- **A refund of a trade that was paid through Epay reverses its order exactly if it comes under a number that no
event of the provider has**, so never under the number of the payment. The order is then charged back, its licence
suspended and its reward taken back, and neither callback changes anything when it is delivered again. -/
theorem epay_refund_accepted_iff {e0 : Env} (r' : VerifyRes) (payload' : String) (hs : Reachable s) (hid : trimSpace r.serviceTradeNo = r.serviceTradeNo)
    (htype : r.eventType = some "paid")
    (hcall : Prog.exec (processEpayD2SPayment e0 r payload) s.db = (.ok true, db)) (ops : List Op)
    (htype' : r'.eventType = some "reversed") (horder : r'.serviceTradeNo = r.serviceTradeNo)
    (hamount : r'.minor = r.minor)
    (ho : (run { s with db } ops).db.orders.get? r.serviceTradeNo = some o) (hpaid : o.status = .paid)
    (hnew : e.New (run { s with db } ops).db) :
    let db1 := (run { s with db } ops).db
    ((∃ db2, Prog.exec (processEpayD2SPayment e r' payload') db1 = (.ok true, db2)) ↔ trimSpace r'.tradeNo ≠ "" ∧
      ∀ v ∈ db1.paymentEvents.rows, v.provider = o.provider → v.providerEventID ≠ r'.tradeNo) ∧
    (∃ v ∈ db1.paymentEvents.rows, v.provider = o.provider ∧ v.providerEventID = r.tradeNo) ∧
    ∀ db2, Prog.exec (processEpayD2SPayment e r' payload') db1 = (.ok true, db2) → ChargedBack db2 o ∧
      ∀ e', Prog.exec (processEpayD2SPayment e' r payload) db2 = (.ok true, db2) ∧
        Prog.exec (processEpayD2SPayment e' r' payload') db2 = (.ok true, db2) := by
  intro db1
  have hid' : trimSpace r'.serviceTradeNo = r'.serviceTradeNo := by rw [horder, hid]
  obtain ⟨o1, minor, o2, hne, -, hminor, hno, hepay, hr⟩ := (processEpayD2SPayment_ok hid htype).mp hcall
  have hs1 := (hs.event hr).run ops
  have hst1 := stored_run (s := { s with db }) (notice_stored hr) ops
  revert db1
  generalize run { s with db } ops = s1 at *
  intro db1
  obtain ⟨hprov, hcur, hamt, hregion⟩ := epay_terms hs1 hepay hst1 ho
  rw [← hprov] at hr hepay hst1 hregion
  have hoid : r.serviceTradeNo = o.id := (Table.get?_eq_some.mp ho).2.symm
  have ho' : s1.db.orders.get? r'.serviceTradeNo = some o := by rw [horder, ho]
  obtain ⟨v, hv, hvp, hve, hsame⟩ := id hst1
  have hback : ∀ db2, Prog.exec (processEpayD2SPayment e r' payload') db1 = (.ok true, db2) →
      trimSpace r'.tradeNo ≠ "" ∧ (∀ v ∈ db1.paymentEvents.rows, v.provider = o.provider →
        v.providerEventID ≠ r'.tradeNo) ∧ ChargedBack db2 o := by
    intro db2 h
    obtain ⟨order, minor, o', -, -, -, hno, -, hr⟩ := (processEpayD2SPayment_ok hid' htype').mp h
    exact ⟨hno, reversal_charges_back hs1 (hoid ▸ ho) hpaid (horder.trans hoid)
      (fun p => (VerifyRes.event_notice _ _ _).trans EventType.parse_epay.2) hr⟩
  refine ⟨⟨fun ⟨db2, h⟩ => ⟨(hback db2 h).1, (hback db2 h).2.1⟩, fun ⟨hno', hfree⟩ => ?_⟩, ⟨v, hv, hvp, hve⟩,
    fun db2 h => ⟨(hback db2 h).2.2, fun e' => ?_⟩⟩
  · have hpays : v.orderID = o.id ∧ v.eventType = .paid :=
      ⟨hsame.1.trans hoid, hsame.2.1.trans ((VerifyRes.event_notice _ _ _).trans EventType.parse_epay.1)⟩
    have hI : Rewards s1.db := by
      obtain ⟨users, options, controls, ops, rfl⟩ := hs1
      exact rewards_run users options controls ops
    obtain ⟨o', db2, hr⟩ := reversal_accepted (n := r'.notice o.provider "reversed" minor payload' e.wall)
      (Provider.parse_code o.provider) hregion ⟨hno', by rw [VerifyRes.notice, horder, hid]; exact hne⟩ rfl
      ((VerifyRes.event_notice _ _ _).trans EventType.parse_epay.2) ho' ⟨rfl, hcur, hamt⟩ rfl hpaid ⟨v, hv, hvp, hpays⟩
      hnew hI hfree
    exact ⟨db2, (processEpayD2SPayment_ok hid' htype').mpr
      ⟨o, minor, o', horder ▸ hne, ho', hamount.trans hminor, hno', hepay, hr⟩⟩
  · obtain ⟨o3, minor', o4, hne', ho3, hminor', hno', hepay', hr'⟩ := (processEpayD2SPayment_ok hid' htype').mp h
    cases ho'.symm.trans ho3
    obtain ⟨⟨o5, ho5, -⟩, -⟩ := (hback db2 h).2.2
    rw [← hoid] at ho5
    have ho5' : db2.orders.get? r'.serviceTradeNo = some o5 := by rw [horder, ho5]
    have hp := (epay_terms (hs1.event hr') hepay (hst1.event hr') ho5).1
    have hst2 := hst1.event hr'
    have hst' := notice_stored hr'
    rw [← hp] at hr hst2 hepay hr' hst'
    exact ⟨processEpayD2SPayment_again hne hid htype hminor hno hepay hr hst2 ho5,
      processEpayD2SPayment_again hne' hid' htype' hminor' hno' hepay hr' hst' ho5'⟩

end Callbacks

/-! ## A trade -/

/-- A user visits and places an order that is paid through Epay. -/
def sampleEpay : List Op :=
  let quote : D2SOrderQuote :=
    { product := .license, licenseID := "", provider := .epay, region := .CN, currency := .CNY, amountMinor := 9900 }
  [.request (.ensureProfileAndTrial (.sample 0) 1 1),
    .prepareOrder (.sample 1) 1 quote 0 "key" "" "" 1 none, .commitOrder (.sample 1) 0]

/-- A callback about the order. -/
def VerifyRes.sample (tradeNo tradeStatus : String) : VerifyRes :=
  { tradeNo, serviceTradeNo := "order-1", money := "99.00", tradeStatus }

/-- The order is paid under the number `T`. -/
def sampleEpayPaid : Except Err Bool × DB :=
  letI := Digest.plain
  Prog.exec (processEpayD2SPayment (.sample 2) (.sample "T" "TRADE_SUCCESS") "paid") (run .sample sampleEpay).db

theorem epay_refund_accepted_under_new_number :
    letI := Digest.plain
    ∃ o db2, Prog.exec (processEpayD2SPayment (.sample 3) (.sample "R" "TRADE_REFUND") "refund") sampleEpayPaid.2 =
      (.ok true, db2) ∧ sampleEpayPaid.2.orders.get? "order-1" = some o ∧ ChargedBack db2 o := by
  let _ := Digest.plain
  have hfacts : sampleEpayPaid.1 = .ok true ∧ (sampleEpayPaid.2.orders.get? "order-1").map D2SOrder.status = some .paid ∧
      (∀ v ∈ sampleEpayPaid.2.paymentEvents.rows, v.id ≠ (Env.sample 3).paymentEventID.val) ∧
      (∀ v ∈ sampleEpayPaid.2.transactions.rows, v.id ≠ (Env.sample 3).rewardTxID.val) ∧
      ∀ v ∈ sampleEpayPaid.2.paymentEvents.rows, v.providerEventID ≠ "R" := by decide +kernel
  obtain ⟨hok, ho, hevent, hentry, hfree⟩ := hfacts
  obtain ⟨o, ho, hpaid⟩ := Option.map_eq_some_iff.mp ho
  have h := epay_refund_accepted_iff (s := run .sample sampleEpay) (r := .sample "T" "TRADE_SUCCESS")
    (e := .sample 3) (.sample "R" "TRADE_REFUND") "refund" ⟨_, _, _, _, rfl⟩ (by decide) rfl
    (Prod.ext hok rfl) [] rfl rfl rfl ho hpaid ⟨hevent, hentry⟩
  obtain ⟨db2, h2⟩ := h.1.mpr ⟨by decide, fun v hv _ => hfree v hv⟩
  exact ⟨o, db2, h2, ho, (h.2.2 db2 h2).1⟩

/-- The refund comes under the number of the payment, and is refused as a mismatch. -/
theorem epay_refund_refused :
    letI := Digest.plain
    let refund := Prog.exec (processEpayD2SPayment (.sample 3) (.sample "T" "TRADE_REFUND") "refund") sampleEpayPaid.2
    (sampleEpayPaid.2.orders.get? "order-1").map D2SOrder.status = some .paid ∧ refund.1 = .error .paymentMismatch ∧
      (refund.2.orders.get? "order-1").map D2SOrder.status = some .paid := by
  decide +kernel

end Desktop2Stereo
