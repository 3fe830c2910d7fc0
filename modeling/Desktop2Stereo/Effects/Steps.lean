import Desktop2Stereo.Effects.Reviews

/-!
# Operations are transactions

* **`step_trans`**: an operation runs at most one transaction that writes; `step_db` and `run_db`: what
  the transactions of the system keep, operations and runs keep;
* `Reached`, **`reached_createD2SOrder`**, `reached_expireD2SPendingOrders`: a whole call is a run of the system.
-/

namespace Desktop2Stereo

open Relational GoText Prog

/-! ## The transaction of an operation -/

section Ensures

variable {I J : DB → Prop} {e : Env} {userID now : ℤ}

theorem ensures_ensureD2SProfileAndTrial (hIJ : ∀ db, I db → J db)
    (h : ∀ db db', I db → (forget (ensureD2SProfileAndTrial e userID now)).run db = .ok ((), db') → J db') :
    Prog.Ensures I J (Prog.atomic (ensureD2SProfileAndTrial e userID now)) :=
  ensures_atomic hIJ fun db a db' hI hr => h db db' hI (run_forget_ok.mpr ⟨a, hr⟩)

theorem ensures_quoteD2SOrder {product licenseID provider : String} (hIJ : ∀ db, I db → J db)
    (h : ∀ db db', I db → (forget (ensureD2SProfileAndTrial e userID (e.resolve now))).run db = .ok ((), db') → J db') :
    Prog.Ensures I J (quoteD2SOrder e userID product licenseID provider now) :=
  ensures_bind (ensures_ensureD2SProfileAndTrial hIJ h) (fun _ hJ => hJ) fun _ =>
    ensures_readonly fun _ _ _ hr => (quoteD2SOrderTx_ok hr).1

variable {purchaseAudit : Option D2SActionLogInput} {balanceMinor : ℤ} {quote : D2SOrderQuote}

theorem ensures_repeatD2SOrder [Digest] {existing : D2SOrder} (hIJ : ∀ db, I db → J db)
    (h : ∀ db db', I db → (auditPurchase e purchaseAudit).run db = .ok ((), db') → J db') :
    Prog.Ensures I J (Prog.atomic (repeatD2SOrder e existing quote balanceMinor purchaseAudit)) := by
  refine ensures_atomic hIJ fun db o db' hI hr => ?_
  simp only [repeatD2SOrder, run_bind_ok, run_require_ok, run_pure_ok, and_assoc, exists_and_left, exists_eq_left,
    exists_const] at hr
  obtain ⟨-, _, _, haudit, -, rfl⟩ := hr
  exact h db _ hI haudit

/-- A call that prepares an order writes the audit trail of a repeated request, or the profile and
the trial of the account. -/
theorem ensures_prepareD2SOrder [Digest] {idempotencyKey email sourceIP : String} (hIJ : ∀ db, I db → J db)
    (haudit : ∀ db db', I db → (auditPurchase e purchaseAudit).run db = .ok ((), db') → J db')
    (hensure : ∀ db db', I db →
      (forget (ensureD2SProfileAndTrial e userID (e.resolve now))).run db = .ok ((), db') → J db') :
    Prog.Ensures I J
      (prepareD2SOrder e userID quote balanceMinor idempotencyKey email sourceIP now purchaseAudit) := by
  refine ensures_bind (ensures_readonly fun _ _ _ hr => (getD2SOrderByIdempotencyKey_ok.mp hr).2.2.2) hIJ
    fun o => ?_
  cases o with
  | some =>
    exact ensures_bind (ensures_repeatD2SOrder hIJ haudit) (fun _ hJ => hJ) fun _ => ensures_pure _
  | none =>
    refine ensures_bind (ensures_readonly fun _ _ _ hr => (run_verify_ok.mp hr).2) hIJ fun ⟨_⟩ => ?_
    refine ensures_bind (ensures_quoteD2SOrder hIJ ?_) (fun _ hJ => hJ) fun _ => ?_
    · rw [e.resolve_of_pos (e.resolve_pos now)]
      exact hensure
    · exact ensures_bind (ensures_readonly fun _ _ _ hr => (run_require_ok.mp hr).2) (fun _ hJ => hJ)
        fun _ => ensures_pure _

theorem ensures_prepareD2SWithdrawal {amountMinor : ℤ} {alipayAccount realName : String} (hIJ : ∀ db, I db → J db)
    (hensure : ∀ db db', I db → (forget (ensureD2SProfileAndTrial e userID now)).run db = .ok ((), db') → J db') :
    Prog.Ensures I J (prepareD2SWithdrawal e userID amountMinor alipayAccount realName now) := by
  refine ensures_bind (ensures_readonly fun _ _ _ hr => (run_verify_ok.mp hr).2) hIJ fun ⟨_⟩ => ?_
  refine ensures_bind (ensures_ensureD2SProfileAndTrial hIJ hensure) (fun _ hJ => hJ) fun _ => ?_
  exact ensures_bind (ensures_readonly fun _ _ _ hr => (run_require_ok.mp hr).2) (fun _ hJ => hJ)
    fun _ => ensures_pure _

end Ensures

section Step

variable {s : State} {op : Op}

theorem runs_request {r : Request} (h : op.runs s (.request r))
    (hr : ∀ e userID now, r ≠ .ensureProfileAndTrial e userID now) : op = .request r := by
  cases op with
  | request =>
    cases h
    rfl
  | prepareOrder =>
    rcases h with h | h
    · cases h
    · cases h
      exact absurd rfl (hr _ _ _)
  | commitOrder | commitWithdrawal =>
    obtain ⟨p, -, h⟩ := h
    cases h
  | prepareWithdrawal =>
    cases h
    exact absurd rfl (hr _ _ _)

theorem runs_commitOrder {e : Env} {p : PreparedOrder} (h : op.runs s (.commitOrder e p)) : p ∈ s.preparedOrders := by
  cases op with
  | commitOrder =>
    obtain ⟨q, hq, heq⟩ := h
    cases heq
    exact List.mem_of_getElem? hq
  | request | prepareWithdrawal => cases h
  | prepareOrder => rcases h with h | h <;> cases h
  | commitWithdrawal =>
    obtain ⟨q, -, heq⟩ := h
    cases heq

variable [Digest]

/-- **An operation runs at most one transaction that writes.** -/
theorem step_trans (s : State) (op : Op) :
    (step s op).db = s.db ∨ ∃ t, op.runs s t ∧ t.tx.run s.db = .ok ((), (step s op).db) := by
  -- the operation starts from `s.db` and ends there or behind one of its transactions
  let J (db : DB) : Prop := db = s.db ∨ ∃ t, op.runs s t ∧ t.tx.run s.db = .ok ((), db)
  have hIJ : ∀ db, db = s.db → J db := fun db h => .inl h
  have htx : ∀ t, op.runs s t → ∀ db db', db = s.db → t.tx.run db = .ok ((), db') → J db' := by
    rintro t ht _ db' rfl hr
    exact .inr ⟨t, ht, hr⟩
  show J (step s op).db
  cases op with
  | request r => exact ensures_atomic hIJ (fun db _ db' => htx (.request r) rfl db db') s.db rfl
  | prepareOrder e userID quote balanceMinor idempotencyKey email sourceIP now purchaseAudit =>
    exact ensures_prepareD2SOrder hIJ (htx (.auditPurchase e purchaseAudit) (.inl rfl))
      (htx (.request (.ensureProfileAndTrial e userID (e.resolve now))) (.inr rfl)) s.db rfl
  | commitOrder e i =>
    simp only [step, perform]
    cases hp : s.preparedOrders[i]? with
    | none => exact .inl rfl
    | some p => exact ensures_atomic hIJ (fun db _ db' => htx (.commitOrder e p) ⟨p, hp, rfl⟩ db db') s.db rfl
  | prepareWithdrawal e userID amountMinor alipayAccount realName now =>
    exact ensures_prepareD2SWithdrawal hIJ (htx (.request (.ensureProfileAndTrial e userID now)) rfl) s.db rfl
  | commitWithdrawal e i =>
    simp only [step, perform]
    cases hp : s.preparedWithdrawals[i]? with
    | none => exact .inl rfl
    | some p =>
      exact ensures_atomic hIJ (fun db _ db' => htx (.commitWithdrawal e p) ⟨p, hp, rfl⟩ db db') s.db rfl

theorem step_request {r : Request} {db' : DB} (h : r.tx.run s.db = .ok ((), db')) :
    step s (.request r) = { s with db := db' } := by
  simp only [step, perform, exec_atomic_ok h]

theorem step_db {I : DB → Prop} (hI : I s.db)
    (h : ∀ t, op.runs s t → ∀ db', t.tx.run s.db = .ok ((), db') → I db') : I (step s op).db := by
  rcases step_trans s op with heq | ⟨t, ht, hr⟩
  · rw [heq]
    exact hI
  · exact h t ht _ hr

theorem run_db {I : DB → Prop} (h : ∀ (t : Trans) db db', I db → t.tx.run db = .ok ((), db') → I db') (hI : I s.db)
    (ops : List Op) : I (run s ops).db :=
  Runs.run_invariant (I := fun s : State => I s.db) ops (fun s _ hs => step_db hs fun t _ db' => h t s.db db' hs) hI

end Step

/-! ## Prepared orders -/

section Prepared

variable {e : Env} {userID balanceMinor now : ℤ} {quote : D2SOrderQuote} {idempotencyKey email sourceIP : String}
  {purchaseAudit : Option D2SActionLogInput} {db db' : DB}

theorem quoteD2SOrder_ok {product licenseID provider : String} {q : D2SOrderQuote}
    (h : (quoteD2SOrder e userID product licenseID provider now).exec db = (.ok q, db')) :
    ∃ profile, (ensureD2SProfileAndTrial e userID (e.resolve now)).run db = .ok (profile, db') ∧
      (quoteD2SOrderTx e profile userID product licenseID provider (e.resolve now)).run db' = .ok (q, db') := by
  simp only [quoteD2SOrder, exec_bind_ok, exec_atomic_eq_ok] at h
  obtain ⟨profile, _, hensure, hquote⟩ := h
  obtain ⟨rfl, -⟩ := quoteD2SOrderTx_ok hquote
  exact ⟨profile, hensure, hquote⟩

/-- A call that prepares an order has found an earlier one under its key, or has checked a new one
against a fresh quote. -/
theorem prepareD2SOrder_ok [Digest] {r : D2SOrder ⊕ PreparedOrder}
    (h : Prog.exec (prepareD2SOrder e userID quote balanceMinor idempotencyKey email sourceIP now purchaseAudit) db =
      (.ok r, db')) :
    (∃ existing actionLogs,
      db.orders.find? (fun o => o.userID = userID ∧ o.idempotencyKey = trimSpace idempotencyKey) = some existing ∧
      existing.placedFor quote balanceMinor ∧ r = .inl existing ∧ db' = { db with actionLogs }) ∨
    (∃ profile admitted now_pos,
      db.orders.find? (fun o => o.userID = userID ∧ o.idempotencyKey = trimSpace idempotencyKey) = none ∧
      (ensureD2SProfileAndTrial e userID (e.resolve now)).run db = .ok (profile, db') ∧
      (quoteD2SOrderTx e profile userID quote.product.code quote.licenseID quote.provider.code
        (e.resolve now)).run db' = .ok (quote, db') ∧
      r = .inr { userID, quote, balanceMinor, idempotencyKey := trimSpace idempotencyKey, email, sourceIP
                 now := e.resolve now, purchaseAudit, admitted, now_pos }) := by
  simp only [prepareD2SOrder, exec_bind_ok, exec_atomic_eq_ok, getD2SOrderByIdempotencyKey_ok] at h
  obtain ⟨o, _, ⟨-, -, ho, rfl⟩, h⟩ := h
  cases o with
  | some =>
    simp only [exec_bind_ok, exec_atomic_eq_ok, exec_pure_ok] at h
    obtain ⟨_, _, hrep, rfl, rfl⟩ := h
    obtain ⟨hpl, rfl, actionLogs, rfl⟩ := repeatD2SOrder_ok hrep
    exact .inl ⟨_, actionLogs, ho.symm, hpl, rfl, rfl⟩
  | none =>
    simp only [exec_bind_ok, exec_atomic_eq_ok, exec_pure_ok, run_verify_ok, run_require_ok] at h
    obtain ⟨_, _, ⟨hadm, rfl⟩, q, _, hquote, _, _, ⟨rfl, rfl⟩, rfl, rfl⟩ := h
    obtain ⟨profile, hensure, hq⟩ := quoteD2SOrder_ok hquote
    rw [e.resolve_of_pos (e.resolve_pos now)] at hensure hq
    exact .inr ⟨profile, hadm, e.resolve_pos now, ho.symm, hensure, hq, rfl⟩

theorem prepareD2SOrder_inr [Digest] {p : PreparedOrder}
    (h : Prog.exec (prepareD2SOrder e userID quote balanceMinor idempotencyKey email sourceIP now purchaseAudit) db =
      (.ok (.inr p), db')) :
    p.now = e.resolve now ∧ p.userID = userID ∧ p.quote = quote ∧ p.balanceMinor = balanceMinor ∧
      p.idempotencyKey = trimSpace idempotencyKey ∧
      ∃ profile, (ensureD2SProfileAndTrial e userID (e.resolve now)).run db = .ok (profile, db') ∧
        (quoteD2SOrderTx e profile userID quote.product.code quote.licenseID quote.provider.code
          (e.resolve now)).run db' = .ok (quote, db') := by
  rcases prepareD2SOrder_ok h with ⟨_, _, -, -, hr, -⟩ | ⟨profile, _, _, -, hensure, hquote, hr⟩
  · cases hr
  · cases hr
    exact ⟨rfl, rfl, rfl, rfl, rfl, profile, hensure, hquote⟩

end Prepared

variable {s : State}

/-- The prepared orders after an operation were there before it, or it has prepared them now. -/
theorem step_preparedOrders [Digest] {op : Op} {p : PreparedOrder} (h : p ∈ (step s op).preparedOrders) :
    p ∈ s.preparedOrders ∨ ∃ e userID quote balanceMinor key email sourceIP now audit,
      op = .prepareOrder e userID quote balanceMinor key email sourceIP now audit ∧
      Prog.exec (prepareD2SOrder e userID quote balanceMinor key email sourceIP now audit) s.db =
        (.ok (.inr p), (step s op).db) := by
  cases op with
  | request | prepareWithdrawal => exact .inl h
  | prepareOrder e userID quote balanceMinor key email sourceIP now audit =>
    rcases List.mem_append.mp h with h | h
    · exact .inl h
    · refine .inr ⟨e, userID, quote, balanceMinor, key, email, sourceIP, now, audit, rfl, ?_⟩
      simp only [step, perform]
      cases hx : Prog.exec (prepareD2SOrder e userID quote balanceMinor key email sourceIP now audit) s.db with
      | mk r =>
        rw [hx] at h
        rcases r with err | (existing | q)
        · simp [preparedOrder] at h
        · simp [preparedOrder] at h
        · simp only [preparedOrder, List.mem_singleton] at h
          rw [h]
  | commitOrder e i =>
    simp only [step, perform] at h
    cases hp : s.preparedOrders[i]? with
    | none =>
      rw [hp] at h
      exact .inl h
    | some =>
      rw [hp] at h
      exact .inl (List.mem_of_mem_eraseIdx h)
  | commitWithdrawal e i =>
    simp only [step, perform] at h
    cases hp : s.preparedWithdrawals[i]? with
    | none | some =>
      rw [hp] at h
      exact .inl h

/-! ## Whole calls -/

theorem exec_forget {α : Type} (t : Tx α) (db : DB) :
    ((Prog.atomic (forget t)).exec db).2 = ((Prog.atomic t).exec db).2 := by
  rcases exec_atomic t db with ⟨a, _, hr, he⟩ | ⟨err, hr, he⟩
  · rw [he, exec_atomic_ok (run_forget_ok (u := ()).mpr ⟨a, hr⟩)]
  · have hf : (forget t).run db = .error err := by
      rw [forget, StateT.run_bind, hr]
      rfl
    rw [he, exec_atomic_error hf]

/-- A call that runs on its own from `s` leaves a database that operations of the system reach. -/
def Reached [Digest] (s : State) (db : DB) : Prop := ∃ ops, run s ops = { s with db }

theorem Reached.refl [Digest] (s : State) : Reached s s.db := ⟨[], rfl⟩

theorem Reached.trans [Digest] {db db' : DB} (h : Reached s db) (h' : Reached { s with db } db') : Reached s db' := by
  obtain ⟨ops, hops⟩ := h
  obtain ⟨ops', hops'⟩ := h'
  refine ⟨ops ++ ops', ?_⟩
  calc run s (ops ++ ops') = run (run s ops) ops' := Runs.run_append _ _ _
    _ = { s with db := db' } := by rw [hops, hops']

theorem reached_request [Digest] {r : Request} {db' : DB} (h : r.tx.run s.db = .ok ((), db')) : Reached s db' :=
  ⟨[.request r], step_request h⟩

def Reachable [Digest] (s : State) : Prop := ∃ users options controls ops, s = run (.init users options controls) ops

theorem Reachable.run [Digest] {s : State} (h : Reachable s) (ops : List Op) : Reachable (run s ops) := by
  obtain ⟨users, options, controls, ops0, rfl⟩ := h
  exact ⟨users, options, controls, ops0 ++ ops, (Runs.run_append _ _ _).symm⟩

theorem Reachable.reached [Digest] {s : State} {db : DB} (h : Reachable s) (hdb : Reached s db) :
    Reachable { s with db } := by
  obtain ⟨ops, hops⟩ := hdb
  exact hops ▸ h.run ops

/-- **Creating an order is to prepare it and to commit what is prepared.** -/
theorem reached_createD2SOrder [Digest] (s : State) (e : Env) (userID : ℤ) (quote : D2SOrderQuote) (balanceMinor : ℤ)
    (idempotencyKey email sourceIP : String) (now : ℤ) (purchaseAudit : Option D2SActionLogInput) :
    Reached s (Prog.exec
      (createD2SOrder e userID quote balanceMinor idempotencyKey email sourceIP now purchaseAudit) s.db).2 := by
  let prepare := Op.prepareOrder e userID quote balanceMinor idempotencyKey email sourceIP now purchaseAudit
  rw [createD2SOrder, exec_bind]
  cases hx : Prog.exec
      (prepareD2SOrder e userID quote balanceMinor idempotencyKey email sourceIP now purchaseAudit) s.db with
  | mk r db1 =>
    have hstep : step s prepare = { s with db := db1, preparedOrders := s.preparedOrders ++ preparedOrder r } := by
      simp only [step, perform, prepare, hx]
    cases r with
    | error =>
      refine ⟨[prepare], hstep.trans ?_⟩
      simp [preparedOrder]
    | ok r =>
      cases r with
      | inl =>
        refine ⟨[prepare], hstep.trans ?_⟩
        simp [preparedOrder, exec_pure]
      | inr =>
        refine ⟨[prepare, .commitOrder e s.preparedOrders.length], ?_⟩
        simp only [Runs.run_cons, Runs.run_nil, hstep]
        simp [step, perform, preparedOrder, exec_forget, List.eraseIdx_append_of_length_le]

theorem reached_expireD2SOrders [Digest] (now : ℤ) (draws : List (Env × String)) (s : State) :
    Reached s (Prog.exec (expireD2SOrders now draws) s.db).2 := by
  induction draws generalizing s with
  | nil => exact .refl s
  | cons draw draws ih =>
    rw [expireD2SOrders, exec_bind]
    rcases exec_atomic (expireD2SOrder draw.1 draw.2 now) s.db with ⟨_, db', hr, he⟩ | ⟨_, -, he⟩
    · rw [he]
      exact (reached_request (r := .expireOrder draw.1 draw.2 now) hr).trans (ih { s with db := db' })
    · rw [he]
      exact .refl s

end Desktop2Stereo
