import Desktop2Stereo.Model.Api
import Desktop2Stereo.Order.Moves

/-!
# Repeated order requests

What becomes of an order after it is placed, as the request that placed it sees it.

* `D2SOrder.answers`: the order was placed for a request; `D2SOrder.LicenceNamed`: an order for a licence names
  one as soon as it is fulfilled, and not before; `Named`, `named_run`;
* **`order_create_idempotent`**.
-/

namespace Desktop2Stereo

open Relational GoText Prog D2SOrder Table

/-! ## Orders and their requests -/

/-- The order was placed for the request; one that buys a licence may have got it by now. -/
structure D2SOrder.answers (o : D2SOrder) (request : D2SOrderRequest) : Prop where
  product : o.product.code = request.product
  license : o.licenseID = request.licenseID ∨ (o.product = .license ∧ request.licenseID = "")
  provider : o.provider.code = toLower (trimSpace request.provider)
  amount : request.expectedAmountMinor = some o.amountMinor
  currency : o.currency.code = request.expectedCurrency
  region : o.region.code = request.expectedRegion
  balance : o.balanceMinor = request.balanceMinor

def D2SOrder.LicenceNamed (o : D2SOrder) : Prop := o.product = .license → (o.licenseID ≠ "" ↔ o.fulfilled)

/-- A prepared order for a licence names none. -/
def PreparedOrder.Unnamed (p : PreparedOrder) : Prop := p.quote.product = .license → p.quote.licenseID = ""

variable {o : D2SOrder} {request : D2SOrderRequest}

theorem D2SOrder.replays_iff (hn : o.LicenceNamed) (h : o.answers request) :
    o.replays request ↔ ¬ (o.product = .license ∧ request.licenseID = "" ∧ o.fulfilled) := by
  constructor
  · rintro ⟨-, hl, -⟩ ⟨hp, hr, hful⟩
    exact (hn hp).mpr hful (hl.trans hr)
  · intro hno
    refine ⟨h.product, ?_, h.provider, h.amount, h.currency, h.region, h.balance⟩
    rcases h.license with hl | ⟨hp, hr⟩
    · exact hl
    · by_contra hl
      exact hno ⟨hp, hr, (hn hp).mp fun he => hl (he.trans hr.symm)⟩

section Moves

variable {t : Trans} {o' : Option D2SOrder} {δ : Trace}

theorem OrderMove.answers (h : OrderMove t (some o) δ o') (hn : o.LicenceNamed) (ha : o.answers request) :
    ∃ o1, o' = some o1 ∧ o1.userID = o.userID ∧ o1.idempotencyKey = o.idempotencyKey ∧ o1.answers request := by
  obtain ⟨hp, hl, hprov, ham, hcur, hreg, hbal⟩ := ha
  cases h with
  | same => exact ⟨o, rfl, rfl, rfl, hp, hl, hprov, ham, hcur, hreg, hbal⟩
  | paid hs hkeep =>
    refine ⟨_, rfl, rfl, rfl, hp, ?_, hprov, ham, hcur, hreg, hbal⟩
    by_cases hprod : o.product = .license
    · -- the order named no licence while it was pending, and neither did the request
      refine .inr ⟨hprod, ?_⟩
      have hblank : o.licenseID = "" := by
        by_contra hb
        rcases (hn hprod).mp hb with h | h <;> rw [hs] at h <;> cases h
      rcases hl with hl | hl
      · exact hl.symm.trans hblank
      · exact hl.2
    · exact .inl ((hkeep hprod).trans (hl.resolve_right fun h => hprod h.1))
  | canceled | chargedBack | refunded => exact ⟨_, rfl, rfl, rfl, hp, hl, hprov, ham, hcur, hreg, hbal⟩

theorem D2SOrder.LicenceNamed.of_status {o1 : D2SOrder} (h : o.LicenceNamed) (hp : o1.product = o.product)
    (hl : o1.licenseID = o.licenseID) (hs : o1.fulfilled ↔ o.fulfilled) : o1.LicenceNamed := by
  unfold LicenceNamed
  rw [hp, hl, hs]
  exact h

theorem OrderMove.named {o0 : Option D2SOrder} (h : OrderMove t o0 δ o') (ht : ∀ e p, t = .commitOrder e p → p.Unnamed)
    (hn : ∀ o, o0 = some o → o.LicenceNamed) : ∀ o, o' = some o → o.LicenceNamed := by
  intro o ho
  cases h with
  | same => exact hn o ho
  | placed hcommit =>
    cases ho
    intro hp
    exact ⟨fun hne => absurd (ht _ _ hcommit hp) hne, fun hful => by rcases hful with h | h <;> cases h⟩
  | @placedPaid e p k o1 hcommit heq =>
    cases ho
    subst heq
    intro hp
    have hprod := (assigned_product _ _).symm.trans hp
    refine ⟨fun _ => .inl rfl, fun _ => ?_⟩
    have hid := assigned_licenseID hprod e.licenseID.val
    exact fun hb => e.licenseID.nonempty (hid.symm.trans hb)
  | paid hs hkeep hne =>
    cases ho
    exact fun hp => ⟨fun _ => .inl rfl, fun _ => hne hp⟩
  | canceled hs =>
    cases ho
    refine (hn _ rfl).of_status rfl rfl ?_
    unfold D2SOrder.fulfilled
    rw [hs]
    simp [D2SOrder.canceled]
  | chargedBack hs =>
    cases ho
    exact (hn _ rfl).of_status rfl rfl ⟨fun _ => .inl hs, fun _ => .inr rfl⟩
  | refunded =>
    cases ho
    exact (hn _ rfl).of_status rfl rfl Iff.rfl

end Moves

/-! ## Along runs -/

section Runs

variable {s : State} {op : Op}

/-- Every order for a licence names one iff it is fulfilled, and no prepared one does. -/
structure Named (s : State) : Prop where
  orders : ∀ oid o, s.db.orders.get? oid = some o → o.LicenceNamed
  prepared : ∀ p ∈ s.preparedOrders, p.Unnamed

variable [Digest]

theorem named_step (h : Named s) (op : Op) : Named (step s op) := by
  refine ⟨fun oid => ?_, fun p hp => ?_⟩
  · rcases step_trans s op with heq | ⟨t, ht, hr⟩
    · rw [heq]
      exact h.orders oid
    · obtain ⟨δ, hmove, -⟩ := orderMove hr oid
      refine hmove.named ?_ (h.orders oid)
      rintro e p rfl
      exact h.prepared p (runs_commitOrder ht)
  · rcases step_preparedOrders hp with hp | ⟨_, _, _, _, _, _, _, _, _, -, hprep⟩
    · exact h.prepared p hp
    · obtain ⟨-, -, rfl, -, -, _, -, hquote⟩ := prepareD2SOrder_inr hprep
      intro hprod
      obtain ⟨-, -, -, -, -, -, -, hn⟩ := quoteD2SOrderTx_ok hquote
      exact (quoteD2SProduct_ok hn).2.1 hprod

theorem named_run (h : Named s) (ops : List Op) : Named (run s ops) :=
  Runs.run_invariant ops (fun _ op hs => named_step hs op) h

theorem answers_run {userID : ℤ} {key oid : String} (hn : Named s)
    (h : ∃ o, s.db.orders.get? oid = some o ∧ o.userID = userID ∧ o.idempotencyKey = key ∧ o.answers request)
    (ops : List Op) :
    ∃ o, (run s ops).db.orders.get? oid = some o ∧ o.userID = userID ∧ o.idempotencyKey = key ∧ o.answers request := by
  have hI : Named (run s ops) ∧ ∃ o, (run s ops).db.orders.get? oid = some o ∧ o.userID = userID ∧
      o.idempotencyKey = key ∧ o.answers request := by
    refine Runs.run_invariant (I := fun s : State => Named s ∧ ∃ o, s.db.orders.get? oid = some o ∧
      o.userID = userID ∧ o.idempotencyKey = key ∧ o.answers request) ops (fun s op hs => ?_) ⟨hn, h⟩
    obtain ⟨hn, o, ho, hu, hk, ha⟩ := hs
    refine ⟨named_step hn op, ?_⟩
    rcases step_trans s op with heq | ⟨t, _, hr⟩
    · rw [heq]
      exact ⟨o, ho, hu, hk, ha⟩
    · obtain ⟨δ, hmove, -⟩ := orderMove hr oid
      rw [ho] at hmove
      obtain ⟨o1, ho1, hu1, hk1, ha1⟩ := hmove.answers (hn.orders oid o ho) ha
      exact ⟨o1, ho1, hu1.trans hu, hk1.trans hk, ha1⟩
  exact hI.2

end Runs

/-! ## The gates -/

section Gates

variable {e : Env} {userID : ℤ} {db db' : DB}

def PurchasesEnabled (e : Env) (db : DB) : Prop :=
  (db.options.get? d2sPurchasesEnabledOption).elim (e.purchasesEnabledDefault = true) fun o => o.value = "true"

/-- The account may purchase. -/
def PurchaseAllowed (userID : ℤ) (db : DB) : Prop :=
  0 < userID ∧ ∀ control, db.controls.get? userID = some control → control.purchaseBlocked = false

def PurchasesOpen (e : Env) (userID : ℤ) (db : DB) : Prop := PurchasesEnabled e db ∧ PurchaseAllowed userID db

theorem d2sPurchasesEnabled_ok {b : Bool} (h : (d2sPurchasesEnabled e).run db = .ok (b, db')) :
    db' = db ∧ (b = true ↔ PurchasesEnabled e db) := by
  simp only [d2sPurchasesEnabled, run_bind_ok, run_lookup_ok, find?_ofKey, and_assoc, exists_and_left,
    exists_eq_left] at h
  unfold PurchasesEnabled
  cases ho : db.options.get? d2sPurchasesEnabledOption with
  | none =>
    simp only [ho, run_pure_ok] at h
    obtain ⟨rfl, rfl⟩ := h
    exact ⟨rfl, Iff.rfl⟩
  | some option =>
    simp only [ho, run_bind_ok, run_require_ok, run_pure_ok, and_assoc, exists_and_left, exists_eq_left,
      exists_const] at h
    obtain ⟨-, rfl, rfl⟩ := h
    exact ⟨rfl, decide_eq_true_iff (p := option.value = "true")⟩

theorem d2sPurchasesEnabled_run (h : PurchasesEnabled e db) : (d2sPurchasesEnabled e).run db = .ok (true, db) := by
  unfold PurchasesEnabled at h
  simp only [d2sPurchasesEnabled, run_bind_ok, run_lookup_ok, find?_ofKey, and_assoc, exists_and_left,
    exists_eq_left]
  cases ho : db.options.get? d2sPurchasesEnabledOption with
  | none =>
    rw [ho] at h
    exact run_pure_ok.mpr ⟨h.symm, rfl⟩
  | some option =>
    rw [ho] at h
    simp only [run_bind_ok, run_require_ok, run_pure_ok, and_assoc, exists_and_left, exists_eq_left, exists_const]
    exact ⟨.inl h, (decide_eq_true (p := option.value = "true") h).symm, trivial⟩

theorem exec_d2sRejectPurchasesDisabled (e : Env) (db : DB) :
    ∃ r, Prog.exec (d2sRejectPurchasesDisabled e) db = (r, db) ∧ (r = .ok () ↔ PurchasesEnabled e db) := by
  rw [d2sRejectPurchasesDisabled, exec_bind, exec_outcome]
  rcases exec_atomic (d2sPurchasesEnabled e) db with ⟨b, _, hr, he⟩ | ⟨_, hr, he⟩
  · obtain ⟨rfl, hb⟩ := d2sPurchasesEnabled_ok hr
    rw [he, ← hb]
    cases b with
    | true => exact ⟨_, rfl, fun _ => rfl, fun _ => rfl⟩
    | false => exact ⟨_, rfl, fun h => (nomatch h), fun h => (nomatch h)⟩
  · rw [he]
    refine ⟨_, rfl, fun h => (nomatch h), fun h => ?_⟩
    rw [d2sPurchasesEnabled_run h] at hr
    cases hr

theorem isD2SUserPurchaseBlocked_ok {b : Bool} :
    (isD2SUserPurchaseBlocked userID).run db = .ok (b, db') ↔
      0 < userID ∧ b = ((db.controls.get? userID).map D2SUserSecurityControl.purchaseBlocked).getD false ∧ db' = db := by
  simp only [isD2SUserPurchaseBlocked, run_bind_ok, run_require_ok, run_lookup_ok, run_pure_ok, and_assoc,
    exists_and_left, exists_eq_left, exists_const]
  rfl

theorem exec_d2sRejectBlockedPurchase (userID : ℤ) (action : String) (db : DB) :
    ∃ r, Prog.exec (d2sRejectBlockedPurchase userID action) db = (r, db) ∧
      (r = .ok () ↔ PurchaseAllowed userID db) := by
  rw [d2sRejectBlockedPurchase, exec_bind, exec_outcome]
  unfold PurchaseAllowed
  rcases exec_atomic (isD2SUserPurchaseBlocked userID) db with ⟨b, db', hr, he⟩ | ⟨_, hr, he⟩
  · obtain ⟨hpos, hb, rfl⟩ := isD2SUserPurchaseBlocked_ok.mp hr
    rw [he]
    cases hc : db'.controls.get? userID with
    | none =>
      rw [hc] at hb
      subst hb
      exact ⟨_, rfl, fun _ => ⟨hpos, fun _ h => (nomatch h)⟩, fun _ => rfl⟩
    | some control =>
      rw [hc] at hb
      cases b with
      | false => exact ⟨_, rfl, fun _ => ⟨hpos, fun c h => by cases h; exact hb.symm⟩, fun _ => rfl⟩
      | true =>
        refine ⟨_, rfl, fun h => (nomatch h), fun h => ?_⟩
        have hfalse := hb.trans (h.2 control rfl)
        cases hfalse
  · rw [he]
    refine ⟨_, rfl, fun h => (nomatch h), fun h => ?_⟩
    rw [isD2SUserPurchaseBlocked_ok.mpr ⟨h.1, rfl, rfl⟩] at hr
    cases hr

end Gates

/-! ## Repeated requests -/

section Repeated

variable {userID : ℤ} {db db' : DB}

def orderUnder (db : DB) (userID : ℤ) (request : D2SOrderRequest) : Option D2SOrder :=
  db.orders.find? fun o => o.userID = userID ∧ o.idempotencyKey = trimSpace request.idempotencyKey

theorem orderUnder_eq {oid : String} (ho : db.orders.get? oid = some o) (hu : o.userID = userID)
    (hk : o.idempotencyKey = trimSpace request.idempotencyKey) : orderUnder db userID request = some o := by
  unfold orderUnder
  cases hf : db.orders.find? (fun o => o.userID = userID ∧ o.idempotencyKey = trimSpace request.idempotencyKey) with
  | none =>
    have hno := find?_eq_none.mp hf o (get?_eq_some.mp ho).1
    simp [hu, hk] at hno
  | some o' =>
    obtain ⟨hm, hk'⟩ := find?_eq_some hf
    obtain ⟨hu', hk'⟩ := of_decide_eq_true hk'
    have hclash : (o'.userID, o'.idempotencyKey) = (o.userID, o.idempotencyKey) := by rw [hu', hk', hu, hk]
    rw [db.orders.eq_of_clash hm (get?_eq_some.mp ho).1 (.inr (.inl hclash))]

/-- An order that was found under the key of the request and reads as the request. -/
structure Replayed (db : DB) (userID : ℤ) (request : D2SOrderRequest) (answer : ℕ × D2SOrder) : Prop where
  found : orderUnder db userID request = some answer.2
  replays : answer.2.replays request

theorem replayD2SOrder_ok {r : Option (ℕ × D2SOrder)}
    (h : Prog.exec (replayD2SOrder userID request) db = (.ok r, db')) :
    db' = db ∧ byteLen (trimSpace request.idempotencyKey) ≤ 128 ∧
      ∀ answer, r = some answer → Replayed db userID request answer := by
  simp only [replayD2SOrder, exec_bind_ok, exec_outcome] at h
  obtain ⟨_, _, hfound, h⟩ := h
  rcases exec_atomic (getD2SOrderByIdempotencyKey userID request.idempotencyKey) db with
    ⟨o, _, hr, he⟩ | ⟨err, hr, he⟩
  · obtain ⟨-, hlen, ho, rfl⟩ := getD2SOrderByIdempotencyKey_ok.mp hr
    rw [he] at hfound
    cases hfound
    cases o with
    | none =>
      obtain ⟨rfl, rfl⟩ := exec_pure_ok.mp h
      exact ⟨rfl, hlen, fun _ hn => (nomatch hn)⟩
    | some =>
      simp only at h
      split_ifs at h with hreplays
      · obtain ⟨rfl, rfl⟩ := exec_pure_ok.mp h
        exact ⟨rfl, hlen, fun _ hs => by cases hs; exact ⟨ho.symm, hreplays⟩⟩
      · cases h
  · rw [he] at hfound
    cases hfound
    cases h

theorem exec_replayD2SOrder (hkey : trimSpace request.idempotencyKey ≠ "")
    (hlen : byteLen (trimSpace request.idempotencyKey) ≤ 128) (ho : orderUnder db userID request = some o) :
    Prog.exec (replayD2SOrder userID request) db =
      (if o.replays request then .ok (some (200, o)) else .error (d2sError .orderInvalid), db) := by
  have hr : (getD2SOrderByIdempotencyKey userID request.idempotencyKey).run db = .ok (some o, db) :=
    getD2SOrderByIdempotencyKey_ok.mpr ⟨hkey, hlen, ho.symm, rfl⟩
  rw [replayD2SOrder, exec_bind, exec_outcome, exec_atomic_ok hr]
  simp only
  split_ifs <;> rfl

variable [Digest] {e : Env} {c : Connection} {requiredProduct : String}

/-- A request that passes the checks before the database is asked for its key. -/
structure D2SOrderRequest.Checked (request : D2SOrderRequest) (requiredProduct : String) : Prop where
  key : trimSpace request.idempotencyKey ≠ ""
  length : byteLen (trimSpace request.idempotencyKey) ≤ 128
  product : requiredProduct = "" ∨ request.product = requiredProduct
  amount : request.expectedAmountMinor ≠ none

/-- **A repeated request changes nothing**, and is answered with its order iff purchases are open and the
order still reads as the request. -/
theorem exec_repeated (hc : request.Checked requiredProduct) (ho : orderUnder db userID request = some o) :
    ∃ answer, Prog.exec (Controller.createD2SOrder e c userID requiredProduct (some request)) db = (answer, db) ∧
      (answer = .ok (200, o) ↔ PurchasesOpen e userID db ∧ o.replays request) := by
  obtain ⟨r1, hr1, hiff1⟩ := exec_d2sRejectPurchasesDisabled e db
  obtain ⟨r2, hr2, hiff2⟩ := exec_d2sRejectBlockedPurchase userID "create" db
  unfold PurchasesOpen
  rw [Controller.createD2SOrder, exec_bind, hr1]
  cases r1 with
  | error => exact ⟨_, rfl, fun h => (by cases h), fun h => (by cases hiff1.mpr h.1.1)⟩
  | ok _ =>
    simp only [exec_bind, hr2]
    cases r2 with
    | error => exact ⟨_, rfl, fun h => (by cases h), fun h => (by cases hiff2.mpr h.1.2)⟩
    | ok _ =>
      have hbody : (some request).filter (fun request => trimSpace request.idempotencyKey ≠ "") = some request := by
        simp [Option.filter, hc.key]
      simp only [exec_atomic_ok (run_attempt_ok.mpr ⟨hbody, rfl⟩), exec_require hc.product,
        exec_require hc.amount, exec_replayD2SOrder hc.key hc.length ho]
      have hopen : PurchasesEnabled e db ∧ PurchaseAllowed userID db := ⟨hiff1.mp rfl, hiff2.mp rfl⟩
      split_ifs with hreplays
      · exact ⟨_, rfl, fun _ => ⟨hopen, hreplays⟩, fun _ => rfl⟩
      · exact ⟨_, rfl, fun h => (by cases h), fun h => absurd h.2 hreplays⟩

end Repeated

/-! ## Accepted requests -/

section Accepted

variable [Digest] {e : Env} {c : Connection} {userID : ℤ} {requiredProduct : String} {db db' : DB}

def Answered (db : DB) (userID : ℤ) (request : D2SOrderRequest) (order : D2SOrder) : Prop :=
  ∃ o, db.orders.get? order.id = some o ∧ o.userID = userID ∧
    o.idempotencyKey = trimSpace request.idempotencyKey ∧ o.answers request

variable {answer : ℕ × D2SOrder}

omit [Digest] in
theorem Replayed.answered (h : Replayed db userID request answer) : Answered db userID request answer.2 := by
  obtain ⟨hm, hk⟩ := find?_eq_some h.found
  obtain ⟨hu, hk⟩ := of_decide_eq_true hk
  obtain ⟨hp, hl, hprov, ham, hcur, hreg, hbal⟩ := h.replays
  exact ⟨answer.2, get?_pk hm, hu, hk, hp, .inl hl, hprov, ham, hcur, hreg, hbal⟩

omit [Digest] in
theorem refuseOrReplay_ok {refusal : Refusal}
    (h : Prog.exec (refuseOrReplay userID request refusal) db = (.ok answer, db')) :
    Answered db' userID request answer.2 := by
  simp only [refuseOrReplay, exec_bind_ok] at h
  obtain ⟨r, _, hreplay, h⟩ := h
  obtain ⟨rfl, -, hr⟩ := replayD2SOrder_ok hreplay
  cases r with
  | none => cases h
  | some =>
    obtain ⟨rfl, rfl⟩ := exec_pure_ok.mp h
    exact (hr _ rfl).answered

variable {balanceMinor : ℤ} {quote : D2SOrderQuote}

omit [Digest] in
theorem D2SOrder.placedFor_paid (id : String) (now : ℤ) (h : o.placedFor quote balanceMinor) :
    ∃ licenseID, ((o.assigned id).paidAt now).placedFor { quote with licenseID } balanceMinor ∧
      (licenseID = quote.licenseID ∨ quote.product = .license) := by
  obtain ⟨hp, hl, hrest⟩ := h
  unfold assigned
  split_ifs with hprod
  · exact ⟨id, ⟨hp, rfl, hrest⟩, .inr (hp.symm.trans hprod)⟩
  · exact ⟨quote.licenseID, ⟨hp, hl, hrest⟩, .inl rfl⟩

/-- An order that is created for a quote is in the database. It has the terms of the quote, and names the
licence of the quote unless it has bought one. -/
theorem createD2SOrder_row {now : ℤ} {idempotencyKey email sourceIP : String}
    {purchaseAudit : Option D2SActionLogInput} {order : D2SOrder}
    (h : Prog.exec (createD2SOrder e userID quote balanceMinor idempotencyKey email sourceIP now purchaseAudit) db =
      (.ok order, db')) :
    ∃ o licenseID, db'.orders.get? order.id = some o ∧ o.userID = userID ∧
      o.idempotencyKey = trimSpace idempotencyKey ∧ o.placedFor { quote with licenseID } balanceMinor ∧
      (licenseID = quote.licenseID ∨ (quote.product = .license ∧ quote.licenseID = "")) := by
  simp only [createD2SOrder, exec_bind_ok] at h
  obtain ⟨r, _, hprep, h⟩ := h
  cases r with
  | inl =>
    obtain ⟨rfl, rfl⟩ := exec_pure_ok.mp h
    rcases prepareD2SOrder_ok hprep with ⟨o, actionLogs, ho, hpl, hr, rfl⟩ | ⟨_, _, _, -, -, -, hr⟩
    · cases hr
      obtain ⟨hm, hk⟩ := find?_eq_some ho
      obtain ⟨hu, hk⟩ := of_decide_eq_true hk
      exact ⟨_, quote.licenseID, get?_pk hm, hu, hk, hpl, .inl rfl⟩
    · cases hr
  | inr p =>
    obtain ⟨-, hpu, hpq, hpb, hpk, _, -, hquote⟩ := prepareD2SOrder_inr hprep
    obtain ⟨-, -, -, -, -, -, -, hn⟩ := quoteD2SOrderTx_ok hquote
    have hblank := (quoteD2SProduct_ok hn).2.1
    subst hpu hpq hpb
    rcases commitD2SOrder_placed (exec_atomic_eq_ok.mp h) with
      ⟨actionLogs, hm, hu, hk, hpl, rfl⟩ | ⟨o1, k, _, _, _, _, rfl, -, -, hrow, -, hcase⟩
    · exact ⟨order, p.quote.licenseID, get?_pk hm, hu, hk.trans hpk, hpl, .inl rfl⟩
    · have hpl : ({ p.order e.orderID with pendingKey := k } : D2SOrder).placedFor p.quote p.balanceMinor :=
        ⟨rfl, rfl, rfl, rfl, rfl, rfl, rfl, rfl⟩
      rcases hcase with ⟨rfl, rfl⟩ | ⟨hid, _, hpaid, rfl⟩
      · exact ⟨_, p.quote.licenseID, hrow.get?_self, rfl, hpk, hpl, .inl rfl⟩
      · obtain ⟨licenseID, hplaced, hl⟩ := placedFor_paid e.licenseID.val p.now hpl
        obtain ⟨_, heq⟩ := assigned_eq { p.order e.orderID with pendingKey := k } e.licenseID.val
        have hget := hpaid.sets.get?_self
        rw [heq] at hget hplaced
        exact ⟨_, licenseID, hid ▸ hget, rfl, hpk, hplaced, hl.imp_right fun hp => ⟨hp, hblank hp⟩⟩

omit [Digest] in
theorem Product.code_of_ofName {name : String} {product : Product} (h : Product.ofName name = some product) :
    product.code = name := by
  unfold Product.ofName at h
  split at h <;> cases h <;> rfl

omit [Digest] in
theorem Provider.code_of_parse {name : String} {provider : Provider} (h : Provider.parse name = some provider) :
    provider.code = toLower (trimSpace name) := by
  unfold Provider.parse Provider.ofName at h
  split at h <;> cases h <;> exact Eq.symm ‹_›

theorem Controller.placeD2SOrder_ok
    (h : Prog.exec (Controller.placeD2SOrder e c userID request) db = (.ok answer, db')) :
    Answered db' userID request answer.2 := by
  simp only [Controller.placeD2SOrder, exec_bind_ok, exec_outcome] at h
  obtain ⟨r, _, hquote, h⟩ := h
  cases hq : Prog.exec (quoteD2SOrder e userID request.product request.licenseID request.provider e.wall) db with
  | mk r0 =>
    rw [hq] at hquote
    cases hquote
    cases r0 with
    | error => exact refuseOrReplay_ok h
    | ok =>
      obtain ⟨_, -, hquote⟩ := quoteD2SOrder_ok hq
      obtain ⟨-, hprod, hlic, hprov, -⟩ := quoteD2SOrderTx_ok hquote
      simp only at h
      split_ifs at h with hexp
      · obtain ⟨ham, hcur, hreg⟩ := hexp
        simp only [exec_bind_ok, exec_outcome] at h
        obtain ⟨user, _, _, h⟩ := h
        cases user with
        | error => cases h
        | ok =>
          simp only [exec_bind_ok, exec_outcome] at h
          obtain ⟨r1, _, hcreate, h⟩ := h
          cases r1 with
          | error => exact refuseOrReplay_ok h
          | ok =>
            obtain ⟨rfl, rfl⟩ := exec_pure_ok.mp h
            obtain ⟨hok, hdb⟩ := Prod.mk.inj hcreate
            obtain ⟨o, _, ho, hu, hk, ⟨hp, hl, hpr, hr, hc, ha, hb, -⟩, hname⟩ :=
              createD2SOrder_row (Prod.ext (Except.ok.inj hok) hdb)
            refine ⟨o, ho, hu, hk, ?_, ?_, ?_, ?_, ?_, ?_, hb⟩
            · exact hp ▸ Product.code_of_ofName hprod
            · rw [hl, hp, ← hlic]
              exact hname
            · exact hpr ▸ Provider.code_of_parse hprov
            · rw [ham, ha]
            · rw [hcur, hc]
            · rw [hreg, hr]
      · exact refuseOrReplay_ok h

/-- **An accepted request is checked, and its order is in the database.** -/
theorem accepted_answers
    (h : Prog.exec (Controller.createD2SOrder e c userID requiredProduct (some request)) db = (.ok answer, db')) :
    request.Checked requiredProduct ∧ Answered db' userID request answer.2 := by
  simp only [Controller.createD2SOrder, exec_bind_ok, exec_atomic_eq_ok, run_attempt_ok, run_require_ok] at h
  obtain ⟨_, _, -, _, _, -, _, _, ⟨hbody, rfl⟩, _, _, ⟨hprod, rfl⟩, _, _, ⟨hexp, rfl⟩, r, _, hreplay, h⟩ := h
  obtain ⟨hsome, hkey⟩ := Option.filter_eq_some_iff.mp hbody
  cases hsome
  obtain ⟨rfl, hlen, hr⟩ := replayD2SOrder_ok hreplay
  refine ⟨⟨of_decide_eq_true hkey, hlen, hprod, hexp⟩, ?_⟩
  cases r with
  | some =>
    obtain ⟨rfl, rfl⟩ := exec_pure_ok.mp h
    exact (hr _ rfl).answered
  | none => exact Controller.placeD2SOrder_ok h

end Accepted

/-! ## A handler is a run of the system -/

section Handler

variable [Digest] {s : State} {e : Env} {c : Connection} {userID : ℤ}

omit [Digest] in
theorem exec_replayD2SOrder_snd (userID : ℤ) (request : D2SOrderRequest) (db : DB) :
    (Prog.exec (replayD2SOrder userID request) db).2 = db := by
  rw [replayD2SOrder, exec_bind, exec_outcome]
  rcases exec_atomic (getD2SOrderByIdempotencyKey userID request.idempotencyKey) db with
    ⟨o, db', hr, he⟩ | ⟨err, hr, he⟩
  · obtain ⟨-, -, -, rfl⟩ := getD2SOrderByIdempotencyKey_ok.mp hr
    rw [he]
    cases o with
    | none => rfl
    | some =>
      simp only
      split_ifs <;> rfl
  · rw [he]
    rfl

omit [Digest] in
theorem ensures_replayD2SOrder {I : DB → Prop} : Prog.Ensures I I (replayD2SOrder userID request) := by
  intro db hI
  rw [exec_replayD2SOrder_snd]
  exact hI

omit [Digest] in
theorem ensures_refuseOrReplay {I : DB → Prop} {refusal : Refusal} :
    Prog.Ensures I I (refuseOrReplay userID request refusal) := by
  refine ensures_bind ensures_replayD2SOrder (fun _ h => h) fun r => ?_
  cases r with
  | none => exact ensures_throw _
  | some => exact ensures_pure _

theorem reached_placeD2SOrder :
    Prog.Ensures (Reached s) (Reached s) (Controller.placeD2SOrder e c userID request) := by
  refine ensures_bind (ensures_outcome (ensures_quoteD2SOrder (fun _ h => h) ?_)) (fun _ h => h) fun r => ?_
  · intro db db' hreach hr
    exact hreach.trans (reached_request (r := .ensureProfileAndTrial e userID (e.resolve e.wall)) hr)
  · cases r with
    | error => exact ensures_refuseOrReplay
    | ok quote =>
      simp only
      split_ifs
      · refine ensures_bind (ensures_outcome (ensures_readonly fun _ _ _ hr => (run_first_ok.mp hr).2))
          (fun _ h => h) fun user => ?_
        cases user with
        | error => exact ensures_throw _
        | ok user =>
          refine ensures_bind (ensures_outcome fun db hreach => ?_) (fun _ h => h) fun r => ?_
          · exact hreach.trans (reached_createD2SOrder { s with db } e userID quote request.balanceMinor
              request.idempotencyKey user.email c.clientIP e.wall _)
          · cases r with
            | error => exact ensures_refuseOrReplay
            | ok => exact ensures_pure _
      · exact ensures_refuseOrReplay

/-- **What a request for an order leaves behind, operations of the system reach.** -/
theorem reached_controller {requiredProduct : String} {body : Option D2SOrderRequest} :
    Prog.Ensures (Reached s) (Reached s) (Controller.createD2SOrder e c userID requiredProduct body) := by
  refine ensures_bind (fun db h => ?_) (fun _ h => h) fun _ => ?_
  · obtain ⟨r, hr, -⟩ := exec_d2sRejectPurchasesDisabled e db
    rwa [hr]
  refine ensures_bind (fun db h => ?_) (fun _ h => h) fun _ => ?_
  · obtain ⟨r, hr, -⟩ := exec_d2sRejectBlockedPurchase userID "create" db
    rwa [hr]
  refine ensures_bind (ensures_readonly fun _ _ _ hr => (run_attempt_ok.mp hr).2) (fun _ h => h) fun request => ?_
  refine ensures_bind (ensures_readonly fun _ _ _ hr => (run_require_ok.mp hr).2) (fun _ h => h) fun _ => ?_
  refine ensures_bind (ensures_readonly fun _ _ _ hr => (run_require_ok.mp hr).2) (fun _ h => h) fun _ => ?_
  refine ensures_bind ensures_replayD2SOrder (fun _ h => h) fun r => ?_
  cases r with
  | some => exact ensures_pure _
  | none => exact reached_placeD2SOrder

end Handler

/-! ## Idempotence -/

/-- **Order creation is idempotent, but for fulfilled orders of a licence.** A request is accepted in a
reachable state; it is submitted again after any further operations. Its order is still there, and nothing
changes. The order is returned iff purchases are open to the user, and it is not a fulfilled order whose request
named no licence, since the fulfilment has named one in the stored order. -/
theorem order_create_idempotent [Digest] (users : Table User) (options : Table OptionRow)
    (controls : Table D2SUserSecurityControl) (ops : List Op) (e : Env) (c : Connection) (userID : ℤ)
    (requiredProduct : String) (request : D2SOrderRequest) (status : ℕ) (order : D2SOrder) (db₁ : DB)
    (h : Prog.exec (Controller.createD2SOrder e c userID requiredProduct (some request))
      (run (.init users options controls) ops).db = (.ok (status, order), db₁))
    (ops' : List Op) (e' : Env) (c' : Connection) :
    let s := run { run (.init users options controls) ops with db := db₁ } ops'
    ∃ o answer, s.db.orders.get? order.id = some o ∧ o.userID = userID ∧
      o.idempotencyKey = trimSpace request.idempotencyKey ∧
      Prog.exec (Controller.createD2SOrder e' c' userID requiredProduct (some request)) s.db = (answer, s.db) ∧
      (answer = .ok (200, o) ↔ PurchasesOpen e' userID s.db ∧
        ¬ (o.product = .license ∧ request.licenseID = "" ∧ (o.status = .paid ∨ o.status = .chargeback))) := by
  intro s
  obtain ⟨hchecked, hanswered⟩ := accepted_answers h
  -- the database after the accepted request is reachable, so its orders are named
  have hreach := (reached_controller : Prog.Ensures _ _
    (Controller.createD2SOrder e c userID requiredProduct (some request))) _
      (Reached.refl (run (.init users options controls) ops))
  rw [h] at hreach
  obtain ⟨ops1, hops1⟩ := hreach
  have hnamed : Named { run (.init users options controls) ops with db := db₁ } := by
    rw [← hops1]
    have hinit : Named (.init users options controls) :=
      ⟨fun _ _ ho => absurd ho.symm (Option.some_ne_none _), fun _ hp => absurd hp List.not_mem_nil⟩
    exact named_run (named_run hinit ops) ops1
  obtain ⟨o, ho, hu, hk, ha⟩ := answers_run hnamed hanswered ops'
  have hname : o.LicenceNamed := (named_run hnamed ops').orders order.id o ho
  obtain ⟨answer, hexec, hiff⟩ := exec_repeated (e := e') (c := c') hchecked (orderUnder_eq ho hu hk)
  refine ⟨o, answer, ho, hu, hk, hexec, hiff.trans ?_⟩
  rw [replays_iff hname ha]
  rfl

def Connection.sample : Connection where
  clientIP := ""
  sourcePort := none
  destinationIP := none
  destinationPort := none
  userAgent := ""
  requestPath := ""

def D2SOrderRequest.sample : D2SOrderRequest where
  product := "license"
  licenseID := ""
  provider := "stripe"
  balanceMinor := 0
  idempotencyKey := "key"
  expectedAmountMinor := some 2990
  expectedCurrency := "USD"
  expectedRegion := "INTL"

theorem order_create_idempotent_pending :
    letI := Digest.plain
    ∃ order db₁ o, Prog.exec (Controller.createD2SOrder (.sample 1) .sample 1 "" (some .sample)) State.sample.db =
        (.ok (201, order), db₁) ∧
      Prog.exec (Controller.createD2SOrder (.sample 2) .sample 1 "" (some .sample)) db₁ = (.ok (200, o), db₁) ∧
      db₁.orders.get? order.id = some o := by
  let _ := Digest.plain
  let created := Prog.exec (Controller.createD2SOrder (.sample 1) .sample 1 "" (some .sample)) State.sample.db
  have hcreated : created.1.map (fun a => (a.1, a.2.id)) = .ok (201, "order-1") ∧
      created.2.options.rows.isEmpty = true ∧ created.2.controls.rows.isEmpty = true ∧
      (created.2.orders.get? "order-1").map D2SOrder.status = some .pending := by decide
  have hx : Prog.exec (Controller.createD2SOrder (.sample 1) .sample 1 "" (some .sample)) State.sample.db = created := rfl
  generalize created = out at hcreated hx
  obtain ⟨r, db₁⟩ := out
  obtain ⟨hr, hoptions, hcontrols, hpending⟩ := hcreated
  obtain ⟨⟨status, order⟩, rfl, ha⟩ := except_map_ok.mp hr
  obtain ⟨rfl, hid⟩ := Prod.mk.inj ha
  obtain ⟨o, _, ho, -, -, hexec, hiff⟩ :=
    order_create_idempotent _ _ _ [] _ _ _ _ _ _ _ _ hx [] (.sample 2) .sample
  simp only [Runs.run_nil] at ho hexec hiff
  have hstatus : o.status = .pending := by
    rw [← hid, ho] at hpending
    exact Option.some.inj hpending
  have hopen : PurchasesOpen (.sample 2) 1 db₁ := by
    refine ⟨?_, by decide, fun control hc => ?_⟩
    · rw [PurchasesEnabled, get?, List.isEmpty_iff.mp hoptions]
      rfl
    · have hm := (get?_eq_some.mp hc).1
      rw [List.isEmpty_iff.mp hcontrols] at hm
      cases hm
  rw [hiff.mpr ⟨hopen, fun h => by rcases h.2.2 with h | h <;> rw [hstatus] at h <;> cases h⟩] at hexec
  exact ⟨order, db₁, o, hx, hexec, ho⟩

/-- The same request before and after its order is paid: the order is returned, then refused. -/
theorem order_create_refused_when_paid :
    letI := Digest.plain
    let created := Prog.exec (Controller.createD2SOrder (.sample 1) .sample 1 "" (some .sample)) State.sample.db
    let s := run { State.sample with db := created.2 } [.request (.paymentEvent (.sample 2) (.sample 1 2990 1000))]
    created.1.map (fun a => (a.1, a.2.id)) = .ok (201, "order-1") ∧
      (Prog.exec (Controller.createD2SOrder (.sample 3) .sample 1 "" (some .sample)) s.db).1.map
        (fun a => (a.1, a.2.id)) = .error (.error 400 "order_invalid" "order is invalid") := by
  decide

end Desktop2Stereo
