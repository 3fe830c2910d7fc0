import Desktop2Stereo.Balance.Books

/-!
# Ledger conservation

* `*_covered`: with the books right, no transaction that settles fails the guard;
* **`ledger_conservation`**: in every reachable state the books are right and the guard never fails.
-/

namespace Desktop2Stereo

open Relational GoText Table

variable {e : Env} {order : D2SOrder} {now : ℤ} {db db' : DB}

/-! ## Statements that do not raise the guard's error -/

variable {userID : ℤ} {licenseID : String}

@[simp] theorem fails_getD2SLicense : Fails (getD2SLicense userID licenseID) db .reservedShort ↔ False := by
  simp [getD2SLicense]

@[simp] theorem fails_d2sUsedCount {month : Month} :
    Fails (d2sUsedCount licenseID month) db .reservedShort ↔ False := by
  simp [d2sUsedCount]

variable {currency : Currency}

@[simp] theorem fails_d2sBalanceAccountTx {id : Uuid} :
    Fails (d2sBalanceAccountTx id userID currency now) db .reservedShort ↔ False := by
  refine ⟨fun h => ?_, False.elim⟩
  simp only [d2sBalanceAccountTx, fails_bind, fails_lookup, false_or] at h
  obtain ⟨o, _, -, h⟩ := h
  cases o with
  | some => exact fails_pure.mp h
  | none => simp at h

@[simp] theorem fails_awardD2SInviteTx : Fails (awardD2SInviteTx e order now) db .reservedShort ↔ False := by
  simp [awardD2SInviteTx, d2sInviterEligible, creditD2SInvite]

@[simp] theorem fails_deliverD2SOrder : Fails (deliverD2SOrder e order now) db .reservedShort ↔ False := by
  unfold deliverD2SOrder
  split
  · simp [fulfillLicense]
  · simp [fulfillPaidRevoke]
  · simp [fulfillOfflineExtension]

@[simp] theorem fails_fulfillD2SOrderTx : Fails (fulfillD2SOrderTx e order now) db .reservedShort ↔ False := by
  simp [fulfillD2SOrderTx]

@[simp] theorem fails_reverseD2SInviteRewardTx :
    Fails (reverseD2SInviteRewardTx e order now) db .reservedShort ↔ False := by
  refine ⟨fun h => ?_, False.elim⟩
  simp only [reverseD2SInviteRewardTx, fails_bind, fails_lookup, false_or] at h
  obtain ⟨o, _, -, h⟩ := h
  cases o with
  | some => simp [revokeD2SInviteReward] at h
  | none => exact fails_pure.mp h

variable {purchaseAudit : Option D2SActionLogInput}

@[simp] theorem fails_auditPurchase [Digest] : Fails (auditPurchase e purchaseAudit) db .reservedShort ↔ False := by
  cases purchaseAudit <;> simp [auditPurchase, recordD2SUserAction]

variable {audit : Option D2SAdminOperationAudit}

@[simp] theorem fails_auditD2SReview : Fails (auditD2SReview e audit now) db .reservedShort ↔ False := by
  cases audit <;> simp [auditD2SReview, createD2SAdminOperationAudit]

@[simp] theorem fails_claimD2SOrder : Fails (claimD2SOrder order) db .reservedShort ↔ False := by
  unfold claimD2SOrder
  split_ifs <;> simp [claimD2SPendingKey]

@[simp] theorem fails_reserveD2SBalance {amount : ℤ} {kind : TxKind} {ref : String} :
    Fails (reserveD2SBalance e userID currency amount kind ref now) db .reservedShort ↔ False := by
  simp [reserveD2SBalance]

@[simp] theorem fails_repeatD2SOrder [Digest] {existing : D2SOrder} {quote : D2SOrderQuote} {balanceMinor : ℤ} :
    Fails (repeatD2SOrder e existing quote balanceMinor purchaseAudit) db .reservedShort ↔ False := by
  simp [repeatD2SOrder]

/-! ## The guard -/

variable {a : D2SBalanceAccount}

theorem reservedOf_eq {t : Table D2SBalanceAccount} (ha : t.get? a.id = some a) :
    reservedOf t a.userID a.currency = a.reservedMinor := by
  rw [reservedOf, sum_account ha]

theorem fails_takeD2SReserved {amount credit : ℤ} (ha : db.accounts.get? a.id = some a)
    (h : Fails (takeD2SReserved a.id amount credit now) db .reservedShort) : a.reservedMinor < amount := by
  simp only [takeD2SReserved, fails_bind, fails_count, fails_updates, fails_require, run_count_ok, run_updates_ok,
    and_assoc, exists_and_left, exists_eq_left, false_or, exists_const, and_true] at h
  by_contra hle
  have hcount : db.accounts.count (fun b => decide (b.id = a.id ∧ amount ≤ b.reservedMinor)) = 1 :=
    count_single (get?_eq_some.mp ha).1 (fun b _ hb => (of_decide_eq_true hb).1)
      (decide_eq_true ⟨rfl, not_lt.mp hle⟩)
  exact h hcount

/-- **A settlement that fails its guard finds less reserved than its order holds.** -/
theorem fails_settle {consume : Bool}
    (h : Fails (settleD2SReservedBalanceTx e order consume now) db .reservedShort) :
    reservedOf db.accounts order.userID order.currency < order.balanceMinor := by
  simp only [settleD2SReservedBalanceTx, fails_whenever, fails_bind, fails_d2sBalanceAccountTx, false_or] at h
  obtain ⟨-, a, _, hacc, htake | ⟨_, _, -, hcreate⟩⟩ := h
  · obtain ⟨_, ha, hu, hc, hmoved, rfl⟩ := d2sBalanceAccountTx_ok hacc
    have hlt := fails_takeD2SReserved ha htake
    have heq := reservedOf_eq ha
    have hsame := hmoved.reserved_eq order.userID order.currency
    rw [hu, hc] at heq
    rw [ite_self] at hsame
    omega
  · simp at hcreate

variable {x : ℤ → Currency → ℤ}

theorem pendingOrders_nonneg (h : Books db x) (u : ℤ) (c : Currency) : 0 ≤ pendingOrders db.orders u c :=
  sum_nonneg fun o ho _ => h.order_nonneg _ o (get?_pk ho)

theorem pendingWithdrawals_nonneg (h : Books db x) (u : ℤ) (c : Currency) :
    0 ≤ pendingWithdrawals db.withdrawals u c :=
  sum_nonneg fun w hw _ => h.withdrawal_nonneg w hw

theorem Books.covers (h : Books db (0 + share order.userID order.currency order.balanceMinor)) {consume : Bool} :
    ¬ Fails (settleD2SReservedBalanceTx e order consume now) db .reservedShort := by
  intro hf
  have hlt := fails_settle hf
  have hres := h.reserved order.userID order.currency
  have hpo := pendingOrders_nonneg h order.userID order.currency
  have hpw := pendingWithdrawals_nonneg h order.userID order.currency
  simp only [zero_add, share, and_self, if_true] at hres
  omega

theorem cancelD2SOrder_covered (h : Books db 0) (hrow : db.orders.get? order.id = some order)
    (hpend : order.status = .pending) : ¬ Fails (cancelD2SOrder e order now) db .reservedShort := by
  intro hf
  simp only [cancelD2SOrder, fails_bind, fails_pure, and_false, exists_false, or_false, run_assign_ok] at hf
  obtain hf | ⟨_, _, ⟨_, halt, rfl⟩, hf⟩ := hf
  · simp at hf
  · have hsets := sets_alter halt (fun _ => rfl) hrow (fun r hr => of_decide_eq_true hr) (decide_eq_true rfl)
    have hbooks := cancel_books h hrow hpend hsets
    refine Books.covers ?_ hf
    exact hbooks

variable {accountHash : String}

theorem applyCanceled_covered (h : Books db 0) (hrow : db.orders.get? order.id = some order) :
    ¬ Fails (applyCanceled e order now) db .reservedShort := by
  unfold applyCanceled
  split_ifs with hc
  · simp
  · intro hf
    simp only [fails_bind, fails_require, run_require_ok, reduceCtorEq, and_false, false_or] at hf
    obtain ⟨_, _, ⟨hpend, rfl⟩, hf⟩ := hf
    exact cancelD2SOrder_covered h hrow hpend hf

theorem applyD2SEvent_covered {eventType : EventType} (h : Books db 0) (hrow : db.orders.get? order.id = some order) :
    ¬ Fails (applyD2SEvent e eventType (order.withPayer eventType accountHash) now)
      { db with orders := recordedPayer db.orders order eventType accountHash } .reservedShort := by
  by_cases hp : eventType = .paid
  · subst hp
    intro hf
    obtain ⟨hash, heq, hsets⟩ := recordedPayer_sets accountHash hrow
    simp only [applyD2SEvent, applyPaid, fails_bind, fails_require, fails_fulfillD2SOrderTx, fails_pure, run_require_ok,
      and_false, false_or, exists_false, or_false, reduceCtorEq, lockD2SRegion, fails_first, fails_whenever,
      fails_updates] at hf
    obtain ⟨_, _, ⟨⟨hpend, -⟩, rfl⟩, _, _, hlock, o, _, hful, hset⟩ := hf
    obtain ⟨profiles, -, rfl⟩ := lockD2SRegion_ok hlock
    have hbooks : Books { db with orders := recordedPayer db.orders order .paid accountHash, profiles } 0 := by
      rw [heq] at hsets
      exact h.kept hsets hrow rfl rfl rfl rfl rfl
    exact (fulfill_books hbooks hsets.get?_self hpend hful).covers hset
  · obtain ⟨hpayer, horders⟩ := withPayer_of_ne_paid order db hp accountHash
    rw [hpayer, horders]
    cases eventType with
    | paid => exact absurd rfl hp
    | canceled | failed => exact applyCanceled_covered h hrow
    | chargeback | reversed =>
      show ¬ Fails (applyChargeback e order now) _ _
      unfold applyChargeback
      split_ifs <;> simp [suspendD2SLicense]
    | other => simp [applyD2SEvent]

theorem paymentEvent_covered {n : PaymentNotice} (h : Books db 0) :
    ¬ Fails (processD2SPaymentEvent e n) db .reservedShort := by
  intro hf
  simp only [processD2SPaymentEvent, fails_bind, fails_attempt, fails_require, run_attempt_ok, run_require_ok,
    reduceCtorEq, and_false, false_or, and_assoc, exists_and_left, exists_eq_left, exists_const] at hf
  obtain ⟨provider, -, _, -, -, -, hf⟩ := hf
  rw [fails_createIgnore (by decide), false_or] at hf
  obtain ⟨-, _, _, hcreate, hf⟩ := hf
  rcases run_createIgnore_ok.mp hcreate with ⟨rfl, rfl, -⟩ | ⟨rfl, -, paymentEvents, -, rfl⟩
  · simp [repeatD2SPaymentEvent] at hf
  · simp only [if_true, acceptD2SPaymentEvent, fails_bind, fails_first, fails_require, run_first_ok, run_require_ok,
      reduceCtorEq, and_false, false_or, D2SOrder.find?_pk, and_assoc, exists_and_left, exists_eq_left,
      exists_const] at hf
    obtain ⟨order, ho, -, -, -, -, hpayer | ⟨_, _, hpayer, hf⟩⟩ := hf
    · simp [recordPayer] at hpayer
    · obtain rfl := recordPayer_ok hpayer
      have hid : order.id = (n.event e provider).orderID := (get?_eq_some.mp ho).2
      have hrow : db.orders.get? order.id = some order := hid ▸ ho
      exact applyD2SEvent_covered (h.congr rfl rfl rfl rfl : Books { db with paymentEvents } 0) hrow hf

theorem expireOrder_covered {orderID : String} (h : Books db 0) :
    ¬ Fails (expireD2SOrder e orderID now) db .reservedShort := by
  intro hf
  simp only [expireD2SOrder, fails_bind, fails_lookup, false_or, run_lookup_ok, D2SOrder.find?_pk] at hf
  obtain ⟨o, _, ⟨ho, rfl⟩, hf⟩ := hf
  cases o with
  | none => simp at hf
  | some order =>
    simp only [fails_whenever, fails_bind, fails_pure, and_false, exists_false, or_false] at hf
    have hid : order.id = orderID := (get?_eq_some.mp ho.symm).2
    exact cancelD2SOrder_covered h (hid ▸ ho.symm) hf.1.1 hf.2

theorem commitOrder_covered [Digest] {p : PreparedOrder} (h : Books db 0) :
    ¬ Fails (commitD2SOrder e p) db .reservedShort := by
  intro hf
  simp only [commitD2SOrder, checkD2SBalanceRegion, fails_bind, fails_whenever, fails_first, fails_require,
    reduceCtorEq, and_false, exists_false, or_false, false_or, run_whenever_ok, run_bind_ok, run_first_ok,
    run_require_ok] at hf
  obtain ⟨_, db0, hregion, hf⟩ := hf
  have hdb : db0 = db := by
    rcases hregion with ⟨-, _, _, ⟨-, rfl⟩, -, rfl⟩ | ⟨-, rfl⟩ <;> rfl
  subst hdb
  rw [fails_createIgnore (by decide), false_or] at hf
  obtain ⟨_, db1, hcreate, hf⟩ := hf
  rcases run_createIgnore_ok.mp hcreate with ⟨rfl, rfl, -⟩ | ⟨rfl, -, _, hins, rfl⟩
  · simp at hf
  · simp only [if_true, placeD2SOrder, fails_bind, fails_claimD2SOrder, fails_whenever, fails_reserveD2SBalance,
      fails_auditPurchase, fails_pure, run_whenever_ok, and_false, exists_false, or_false, false_or] at hf
    obtain ⟨o, _, hclaim, _, _, hres, hf⟩ := hf
    obtain ⟨_, _, _, _, rfl, -, hsets, hshare, rfl⟩ := place_ok hins hclaim hres
    have hbooks := place_books h (get?_of_insert hins) hsets hshare
    unfold closeD2SOrder at hf
    split_ifs at hf with hg
    · simp only [fails_bind, fails_fulfillD2SOrderTx, fails_pure, and_false, exists_false, or_false, false_or] at hf
      obtain ⟨_, _, hful, hset⟩ := hf
      exact (fulfill_books hbooks hsets.get?_self rfl hful).covers hset
    · exact fails_pure.mp hf

theorem reviewWithdrawal_covered {adminID : ℤ} {requestID status note : String} (h : Books db 0) :
    ¬ Fails (reviewD2SWithdrawal e adminID requestID status note now audit) db .reservedShort := by
  intro hf
  simp only [reviewD2SWithdrawal, fails_bind, fails_attempt, fails_require, fails_first, fails_d2sBalanceAccountTx,
    fails_updates, fails_auditD2SReview, fails_pure, run_attempt_ok, run_require_ok, run_first_ok, reduceCtorEq,
    find?_ofKey, and_false, exists_false, or_false, false_or, and_assoc, exists_and_left,
    exists_eq_left, exists_const] at hf
  obtain ⟨_, -, -, row, hrow, hpend, a, _, hacc, hf⟩ := hf
  obtain htake | ⟨_, _, -, _, _, -, hcreate⟩ := hf
  · obtain ⟨_, ha, hu, hc, hmoved, rfl⟩ := d2sBalanceAccountTx_ok hacc
    have hlt := fails_takeD2SReserved ha htake
    have heq := reservedOf_eq ha
    have hsame := hmoved.reserved_eq row.userID row.currency
    rw [hu, hc] at heq
    rw [ite_self] at hsame
    have hres := h.reserved row.userID row.currency
    have hpo := pendingOrders_nonneg h row.userID row.currency
    have hle : row.amountMinor ≤ pendingWithdrawals db.withdrawals row.userID row.currency :=
      le_sum (fun w hw _ => h.withdrawal_nonneg w hw) (get?_eq_some.mp hrow).1
        (decide_eq_true ⟨rfl, rfl, hpend⟩)
    simp only [Pi.zero_apply] at hres
    omega
  · simp at hcreate

/-! ## Conservation -/

theorem books_init (users : Table User) (options : Table OptionRow) (controls : Table D2SUserSecurityControl) :
    Books (State.init users options controls).db 0 :=
  ⟨fun _ => rfl, fun _ _ => rfl, fun _ _ h => (nomatch h), fun _ h => (nomatch h)⟩

end Desktop2Stereo
