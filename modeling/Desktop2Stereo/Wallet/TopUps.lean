import Desktop2Stereo.Model.TopUps

/-!
# Top-ups and redemptions credit once

Callbacks of all providers, completions by hand, status updates and redemptions come in any order, any number of
times. Each is one transaction, so a run is a list of operations.

* **`top_ups_credit_once`**: an order leaves pending at most once and credits its user exactly when it ends in
  success, a code credits one user once, and wallets stay below the ceiling;
* **`manual_completion_agrees_iff`**: a completion by hand credits what the callback would have credited, unless the
  order is one of Creem; `manual_creem_scales`: such an order.
-/

namespace Desktop2Stereo

open Relational List Table

variable {db db' : TopUpDB}

/-! ## What an operation does -/

def TopUpDB.wallet (db : TopUpDB) (userId : ℤ) : ℤ := ((db.users.get? userId).map User.quota).getD 0

def TopUpDB.Fits (db : TopUpDB) (userId quota : ℤ) : Prop :=
  0 < quota ∧ quota ≤ maxWalletQuota ∧ ∃ user, db.users.get? userId = some user ∧ user.quota ≤ maxWalletQuota - quota

structure Credited (c : Credit) (db db' : TopUpDB) : Prop where
  fits : db.Fits c.userId c.quota
  wallet : ∀ u, db'.wallet u = db.wallet u + if u = c.userId then c.quota else 0
  credits : db'.credits = db.credits ++ [c]

variable {source : CreditSource} {touch : User → User}

theorem creditTopUpQuota_ok {userId quota : ℤ} {r : Unit}
    (h : (creditTopUpQuota source userId quota touch).run db = .ok (r, db')) :
    Credited ⟨source, userId, quota⟩ db db' ∧ db'.topUps = db.topUps ∧ db'.redemptions = db.redemptions := by
  simp only [creditTopUpQuota, run_bind_ok, run_lifted_ok, run_lookup_ok] at h
  obtain ⟨_, _, ⟨hmax, hs1⟩, o, _, ⟨ho, hs2⟩, h⟩ := h
  rw [hs2, hs1] at h
  rw [hs1] at ho
  unfold topUpQuotaMaxCurrent at hmax
  split at hmax
  · cases hmax
  next hbounds =>
    cases hmax
    cases o with
    | none => cases h
    | some user =>
      simp only [run_bind_ok, run_require_ok, run_updates_ok, run_modify_ok] at h
      obtain ⟨_, _, ⟨hle, hs3⟩, _, _, hs4, hs5⟩ := h
      rw [hs3] at hs4
      rw [hs4] at hs5
      subst hs5
      have huser : db.users.get? userId = some user := ho.symm
      have hget := get?_modify_pk (f := fun u : User => { touch u with id := u.id, quota := u.quota + quota })
        (h := fun _ => by rfl) db.users userId (fun r => decide_eq_true_iff)
      refine ⟨⟨⟨by dsimp only; omega, by dsimp only; omega, user, huser, hle⟩, fun u => ?_, rfl⟩, rfl, rfl⟩
      unfold TopUpDB.wallet
      refine (congrArg (fun o => (Option.map User.quota o).getD 0) (hget u)).trans ?_
      dsimp only
      by_cases hu : userId = u
      · subst hu
        rw [if_pos rfl, if_pos rfl, huser]
        rfl
      · rw [if_neg hu, if_neg (Ne.symm hu), add_zero]

theorem saveTopUp_ok {topUp : TopUp} {r : Unit} (h : (saveTopUp topUp).run db = .ok (r, db')) {old : TopUp}
    (hold : db.topUps.get? topUp.tradeNo = some old) (hid : topUp.id = old.id) :
    ∃ topUps, db' = { db with topUps } ∧ Sets topUp db.topUps topUps := by
  have htrade : old.tradeNo = topUp.tradeNo := (get?_eq_some.mp hold).2
  refine ⟨_, run_updates_ok.mp h, fun k => ?_⟩
  refine (get?_modify_pk (f := fun r : TopUp => { topUp with tradeNo := r.tradeNo, id := r.id })
    (h := fun _ => by rfl) db.topUps topUp.tradeNo (fun r => decide_eq_true_iff) k).trans ?_
  show (if topUp.tradeNo = k then _ else _) = if topUp.tradeNo = k then _ else _
  split_ifs with hk
  · subst hk
    rw [hold, Option.map_some, htrade, ← hid]
  · rfl

/-- What an operation may do to the tables. -/
inductive TopUpEffect (db db' : TopUpDB) : Prop
  | quiet (husers : db'.users = db.users) (htopUps : db'.topUps = db.topUps) (hcodes : db'.redemptions = db.redemptions)
      (hcredits : db'.credits = db.credits)
  | close (topUp : TopUp) (target : TopUpStatus) (hget : db.topUps.get? topUp.tradeNo = some topUp)
      (hpending : topUp.status = .pending) (hsets : Sets { topUp with status := target } db.topUps db'.topUps)
      (htarget : target ≠ .success) (husers : db'.users = db.users) (hcodes : db'.redemptions = db.redemptions)
      (hcredits : db'.credits = db.credits)
  | complete (topUp new : TopUp) (quota : ℤ) (hget : db.topUps.get? topUp.tradeNo = some topUp)
      (hpending : topUp.status = .pending) (hsuccess : new.status = .success) (htrade : new.tradeNo = topUp.tradeNo)
      (huser : new.userId = topUp.userId) (hprovider : new.paymentProvider = topUp.paymentProvider)
      (hsets : Sets new db.topUps db'.topUps) (hcodes : db'.redemptions = db.redemptions)
      (hcredit : Credited ⟨.topUp topUp.tradeNo, topUp.userId, quota⟩ db db')
  | redeem (code : Redemption) (userId time : ℤ) (hget : db.redemptions.get? code.key = some code)
      (henabled : code.status = .enabled)
      (hsets : Sets { code with redeemedTime := time, status := .used, usedUserId := userId } db.redemptions
        db'.redemptions)
      (htopUps : db'.topUps = db.topUps) (hcredit : Credited ⟨.redemption code.key, userId, code.quota⟩ db db')

theorem TopUpEffect.refl (db : TopUpDB) : TopUpEffect db db := .quiet rfl rfl rfl rfl

theorem completeTopUp_ok {c : Completion} {tradeNo method : String} {r : Option ℤ}
    (h : (completeTopUp c tradeNo method touch).run db = .ok (r, db')) :
    ∃ topUp, db.topUps.get? tradeNo = some topUp ∧ (∀ p ∈ c.provider, topUp.paymentProvider = some p) ∧
      ((db' = db ∧ topUp.status = .success ∧ r = none) ∨ ∃ quota new, topUp.status = .pending ∧ c.quota topUp = some quota ∧
        r = some quota ∧ new.status = .success ∧ new.tradeNo = topUp.tradeNo ∧ new.userId = topUp.userId ∧
        new.paymentProvider = topUp.paymentProvider ∧ Sets new db.topUps db'.topUps ∧
        db'.redemptions = db.redemptions ∧ Credited ⟨.topUp tradeNo, topUp.userId, quota⟩ db db') := by
  simp only [completeTopUp, run_bind_ok, run_first_ok, run_require_ok] at h
  obtain ⟨topUp, _, ⟨hget, hs1⟩, _, _, ⟨hprovider, hs2⟩, h⟩ := h
  rw [hs2, hs1] at h
  have hget : db.topUps.get? tradeNo = some topUp := hget
  refine ⟨topUp, hget, hprovider, ?_⟩
  split at h
  next hdone =>
    obtain ⟨hr, hs⟩ := run_pure_ok.mp h
    exact .inl ⟨hs, hdone.2, hr⟩
  next =>
    simp only [run_bind_ok, run_require_ok, run_attempt_ok, run_get_ok, run_pure_ok] at h
    obtain ⟨_, _, ⟨hpending, hs3⟩, quota, _, ⟨hquota, hs4⟩, _, _, ⟨_, hs5⟩, db6, _, ⟨hs6, hs7⟩, _, _, hsave, _, _,
      hcredit, hr, hs⟩ := h
    subst hs hr hs7 hs6 hs5 hs4 hs3
    have htrade : topUp.tradeNo = tradeNo := (get?_eq_some.mp hget).2
    have hold : db6.topUps.get? topUp.tradeNo = some topUp := by
      rw [htrade]
      exact hget
    obtain ⟨topUps, hdb, hsets⟩ := saveTopUp_ok hsave hold rfl
    obtain ⟨hcred, htopUps, hcodes⟩ := creditTopUpQuota_ok hcredit
    subst hdb
    rw [show topUps = db'.topUps from htopUps.symm] at hsets
    refine .inr ⟨quota, _, hpending, hquota, rfl, ?_, ?_, ?_, ?_, hsets, hcodes,
      ⟨hcred.fits, hcred.wallet, hcred.credits⟩⟩ <;> rfl

/-! ## Operations -/

/-- The operations, and the passing of time. -/
inductive TopUpOp
  | rechargeEpay (tradeNo actualPaymentMethod : String)
  | recharge (referenceId : String)
  | rechargeCreem (referenceId customerEmail : String)
  | rechargeWaffo (tradeNo : String)
  | rechargeWaffoPancake (tradeNo : String)
  | manualCompleteTopUp (tradeNo : String)
  | updatePendingTopUpStatus (tradeNo : String) (expectedPaymentProvider : Option TopUpProvider) (targetStatus : TopUpStatus)
  | redeem (key : String) (userId : ℤ)
  | pass (seconds : ℕ)
  deriving DecidableEq

/-- The provider whose callback an operation is. -/
def TopUpOp.provider : TopUpOp → Option TopUpProvider
  | .rechargeEpay _ _ => some .epay
  | .recharge _ => some .stripe
  | .rechargeCreem _ _ => some .creem
  | .rechargeWaffo _ => some .waffo
  | .rechargeWaffoPancake _ => some .waffoPancake
  | _ => none

/-- Pending orders are closed as expired or failed, as the two callers do. -/
def TopUpOp.Called : TopUpOp → Prop
  | .updatePendingTopUpStatus _ _ target => target = .expired ∨ target = .failed
  | _ => True

instance : DecidablePred TopUpOp.Called := fun op => by
  unfold TopUpOp.Called
  split <;> infer_instance

/-- A transaction commits, or leaves the tables as they were. -/
def commitOr {α : Type} (t : Txn TopUpDB TopUpErr α) (db : TopUpDB) : TopUpDB :=
  match t.run db with
  | .ok (_, db') => db'
  | .error _ => db

section Steps

variable [TopUpSettings]

def topUpStep (db : TopUpDB) : TopUpOp → TopUpDB
  | .rechargeEpay tradeNo method => commitOr (rechargeEpay tradeNo method) db
  | .recharge referenceId => commitOr (recharge referenceId) db
  | .rechargeCreem referenceId email => commitOr (rechargeCreem referenceId email) db
  | .rechargeWaffo tradeNo => commitOr (rechargeWaffo tradeNo) db
  | .rechargeWaffoPancake tradeNo => commitOr (rechargeWaffoPancake tradeNo) db
  | .manualCompleteTopUp tradeNo => commitOr (manualCompleteTopUp tradeNo) db
  | .updatePendingTopUpStatus tradeNo provider target => commitOr (updatePendingTopUpStatus tradeNo provider target) db
  | .redeem key userId => commitOr (redeem key userId) db
  | .pass seconds => { db with clock := db.clock + seconds }

omit [TopUpSettings] in
theorem commitOr_of {α : Type} {P : TopUpDB → Prop} {t : Txn TopUpDB TopUpErr α} (h0 : P db)
    (h : ∀ r db', t.run db = .ok (r, db') → P db') : P (commitOr t db) := by
  unfold commitOr
  cases ht : t.run db with
  | error => exact h0
  | ok p => exact h p.1 p.2 ht

omit [TopUpSettings] in
theorem commitOr_complete (e : TopUpErr) (c : Completion) (tradeNo method : String) (touch : User → User) (db : TopUpDB) :
    let t : Txn TopUpDB TopUpErr (Option ℤ) := do require (tradeNo ≠ "") e; completeTopUp c tradeNo method touch
    TopUpEffect db (commitOr t db) ∧ ∀ k a p, c.provider = some p → db.topUps.get? k = some a →
      a.paymentProvider ≠ some p → (commitOr t db).topUps.get? k = some a := by
  refine commitOr_of (P := fun db' => TopUpEffect db db' ∧ ∀ k a p, c.provider = some p → db.topUps.get? k = some a →
    a.paymentProvider ≠ some p → db'.topUps.get? k = some a) ⟨.refl db, fun k a p _ hk _ => hk⟩ fun r db' h => ?_
  simp only [run_bind_ok, run_require_ok] at h
  obtain ⟨_, _, ⟨_, hs⟩, h⟩ := h
  rw [hs] at h
  obtain ⟨topUp, hget, hprovider, ⟨hsame, _⟩ | ⟨quota, new, hpending, _, _, hsuccess, htrade, huser, hprov, hsets, hcodes,
    hcredit⟩⟩ := completeTopUp_ok h
  · rw [hsame]
    exact ⟨.refl _, fun k a p _ hk _ => hk⟩
  · have hkey : topUp.tradeNo = tradeNo := (get?_eq_some.mp hget).2
    subst hkey
    refine ⟨.complete topUp new quota hget hpending hsuccess htrade huser hprov hsets hcodes hcredit, fun k a p hp hk hne => ?_⟩
    rw [hsets k, if_neg, hk]
    intro heq
    rw [← heq, show pk new = topUp.tradeNo from htrade, hget] at hk
    cases hk
    exact hne (hprovider p hp)

omit [TopUpSettings] in
theorem commitOr_updatePending (tradeNo : String) (provider : Option TopUpProvider) {target : TopUpStatus}
    (htarget : target ≠ .success) (db : TopUpDB) :
    TopUpEffect db (commitOr (updatePendingTopUpStatus tradeNo provider target) db) := by
  refine commitOr_of (.refl db) fun r db' h => ?_
  simp only [updatePendingTopUpStatus, run_bind_ok, run_require_ok, run_first_ok] at h
  obtain ⟨_, _, ⟨_, hs1⟩, topUp, _, ⟨hget, hs2⟩, _, _, ⟨_, hs3⟩, _, _, ⟨hpending, hs4⟩, hsave⟩ := h
  rw [hs4, hs3, hs2, hs1] at hsave
  rw [hs1] at hget
  have hkey : topUp.tradeNo = tradeNo := (get?_eq_some.mp hget).2
  subst hkey
  have hold : db.topUps.get? topUp.tradeNo = some topUp := hget
  obtain ⟨_, hdb, hsets⟩ := saveTopUp_ok hsave hold rfl
  rw [hdb]
  exact .close topUp target hold hpending hsets htarget rfl rfl rfl

omit [TopUpSettings] in
theorem commitOr_redeem (key : String) (userId : ℤ) (db : TopUpDB) :
    TopUpEffect db (commitOr (redeem key userId) db) := by
  refine commitOr_of (.refl db) fun r db' h => ?_
  simp only [redeem, run_bind_ok, run_require_ok, run_first_ok, run_get_ok, run_updates_ok, run_pure_ok] at h
  obtain ⟨_, _, ⟨_, hs1⟩, _, _, ⟨_, hs2⟩, code, _, ⟨hget, hs3⟩, _, _, ⟨henabled, hs4⟩, _, _, ⟨hs5, hs6⟩, _, _,
    ⟨_, hs7⟩, _, _, hs8, _, _, hcredit, _, hs9⟩ := h
  rw [hs7, hs6, hs5, hs4, hs3, hs2, hs1] at hs8
  rw [hs2, hs1] at hget
  have hkey : code.key = key := (get?_eq_some.mp hget).2
  subst hkey
  have hold : db.redemptions.get? code.key = some code := hget
  rw [← hs9, hs8] at hcredit
  obtain ⟨hcred, htopUps, hcodes⟩ := creditTopUpQuota_ok hcredit
  refine .redeem code userId db.clock hold henabled (fun k => ?_) htopUps ⟨hcred.fits, hcred.wallet, hcred.credits⟩
  rw [hcodes]
  refine (get?_modify_pk
    (f := fun r : Redemption => { r with redeemedTime := db.clock, status := .used, usedUserId := userId })
    (h := fun _ => by rfl) db.redemptions code.key (fun r => decide_eq_true_iff) k).trans ?_
  show (if code.key = k then _ else _) = if code.key = k then _ else _
  split_ifs with hk
  · subst hk
    rw [hold]
    rfl
  · rfl

/-- **What each operation does.** -/
theorem topUpStep_effect (db : TopUpDB) (op : TopUpOp) (hop : op.Called) : TopUpEffect db (topUpStep db op) := by
  cases op with
  | rechargeEpay | recharge | rechargeCreem | rechargeWaffo | rechargeWaffoPancake | manualCompleteTopUp =>
    exact (commitOr_complete _ _ _ _ _ db).1
  | updatePendingTopUpStatus tradeNo provider =>
    refine commitOr_updatePending tradeNo provider ?_ db
    rcases hop with rfl | rfl <;> decide
  | redeem key userId => exact commitOr_redeem key userId db
  | pass => exact .quiet rfl rfl rfl rfl

end Steps

/-! ## Books -/

/-- The credits for an order or a code. -/
def TopUpDB.creditsFor (db : TopUpDB) (source : CreditSource) : List Credit := db.credits.filter (·.source = source)

def TopUpDB.creditedTo (db : TopUpDB) (userId : ℤ) : ℤ :=
  ((db.credits.filter (·.userId = userId)).map Credit.quota).sum

/-- An order that stood at `a` stands at `b`, with its credits. -/
inductive OrderBook (source : CreditSource) : Option TopUp → Option TopUp → List Credit → Prop
  | absent : OrderBook source none none []
  | same (a b : TopUp) (huser : b.userId = a.userId) (hstatus : b.status = a.status) :
      OrderBook source (some a) (some b) []
  | closed (a b : TopUp) (huser : b.userId = a.userId) (ha : a.status = .pending) (hb : b.status ≠ .pending)
      (hb' : b.status ≠ .success) : OrderBook source (some a) (some b) []
  | completed (a b : TopUp) (quota : ℤ) (huser : b.userId = a.userId) (ha : a.status = .pending)
      (hb : b.status = .success) : OrderBook source (some a) (some b) [⟨source, a.userId, quota⟩]

/-- A code that stood at `a` stands at `b`, with its credits. -/
inductive CodeBook (source : CreditSource) : Option Redemption → Option Redemption → List Credit → Prop
  | absent : CodeBook source none none []
  | same (a : Redemption) : CodeBook source (some a) (some a) []
  | used (a b : Redemption) (ha : a.status = .enabled) (hb : b.status = .used) :
      CodeBook source (some a) (some b) [⟨source, b.usedUserId, a.quota⟩]

/-- Orders, codes and wallets agree with the credits since `db₀`. -/
structure TopUpDB.Booked (db₀ db : TopUpDB) : Prop where
  orders : ∀ k, OrderBook (.topUp k) (db₀.topUps.get? k) (db.topUps.get? k) (db.creditsFor (.topUp k))
  codes : ∀ k, CodeBook (.redemption k) (db₀.redemptions.get? k) (db.redemptions.get? k) (db.creditsFor (.redemption k))
  wallets : ∀ u, db.wallet u = db₀.wallet u + db.creditedTo u
  ceiling : ∀ u, db₀.wallet u ≤ maxWalletQuota → db.wallet u ≤ maxWalletQuota

variable {db₀ : TopUpDB}

theorem TopUpDB.Booked.refl (h : db₀.credits = []) : db₀.Booked db₀ := by
  have hfor : ∀ source, db₀.creditsFor source = [] := fun source => by rw [TopUpDB.creditsFor, h]; rfl
  refine ⟨fun k => ?_, fun k => ?_, fun u => ?_, fun u hu => hu⟩
  · rw [hfor]
    cases db₀.topUps.get? k with
    | none => exact .absent
    | some a => exact .same a a rfl rfl
  · rw [hfor]
    cases db₀.redemptions.get? k with
    | none => exact .absent
    | some a => exact .same a
  · rw [TopUpDB.creditedTo, h]
    exact (add_zero _).symm

variable {c : Credit}

theorem Credited.creditsFor (h : Credited c db db') (source : CreditSource) :
    db'.creditsFor source = db.creditsFor source ++ if c.source = source then [c] else [] := by
  unfold TopUpDB.creditsFor
  rw [h.credits, filter_append]
  split_ifs with hs <;> simp [hs]

theorem Credited.creditedTo (h : Credited c db db') (u : ℤ) :
    db'.creditedTo u = db.creditedTo u + if u = c.userId then c.quota else 0 := by
  unfold TopUpDB.creditedTo
  rw [h.credits, filter_append, map_append, sum_append]
  by_cases hu : c.userId = u
  · simp [hu]
  · simp [hu, Ne.symm hu]

theorem Credited.wallets (h : Credited c db db') (hb : db₀.Booked db) (u : ℤ) :
    db'.wallet u = db₀.wallet u + db'.creditedTo u ∧ (db₀.wallet u ≤ maxWalletQuota → db'.wallet u ≤ maxWalletQuota) := by
  refine ⟨?_, fun hu => ?_⟩
  · rw [h.wallet, h.creditedTo, hb.wallets]
    omega
  · rw [h.wallet]
    split_ifs with heq
    · obtain ⟨_, _, user, huser, _⟩ := h.fits
      subst heq
      rw [TopUpDB.wallet, huser]
      show user.quota + c.quota ≤ maxWalletQuota
      omega
    · rw [add_zero]
      exact hb.ceiling u hu

theorem OrderBook.of_pending {o : Option TopUp} {b : TopUp} {cs : List Credit} (h : OrderBook source o (some b) cs)
    (hb : b.status = .pending) : ∃ a, o = some a ∧ b.userId = a.userId ∧ a.status = .pending ∧ cs = [] := by
  cases h with
  | same a b huser hstatus => exact ⟨a, rfl, huser, hstatus ▸ hb, rfl⟩
  | closed a b huser ha hb' => exact absurd hb hb'
  | completed a b quota huser ha hb' =>
    rw [hb'] at hb
    cases hb

theorem CodeBook.of_enabled {o : Option Redemption} {b : Redemption} {cs : List Credit}
    (h : CodeBook source o (some b) cs) (hb : b.status = .enabled) : o = some b ∧ cs = [] := by
  cases h with
  | same => exact ⟨rfl, rfl⟩
  | used a b ha hb' =>
    rw [hb'] at hb
    cases hb

/-- **Each operation keeps the books.** -/
theorem TopUpDB.Booked.step (hb : db₀.Booked db) (h : TopUpEffect db db') : db₀.Booked db' := by
  have hsame (husers : db'.users = db.users) (hcredits : db'.credits = db.credits) (u : ℤ) :
      db'.wallet u = db₀.wallet u + db'.creditedTo u ∧ (db₀.wallet u ≤ maxWalletQuota → db'.wallet u ≤ maxWalletQuota) := by
    rw [show db'.wallet u = db.wallet u by rw [TopUpDB.wallet, husers]; rfl, TopUpDB.creditedTo, hcredits]
    exact ⟨hb.wallets u, hb.ceiling u⟩
  have hfor (hcredits : db'.credits = db.credits) (source : CreditSource) :
      db'.creditsFor source = db.creditsFor source := by
    rw [TopUpDB.creditsFor, hcredits]
    rfl
  cases h with
  | quiet husers htopUps hcodes hcredits =>
    refine ⟨fun k => ?_, fun k => ?_, fun u => (hsame husers hcredits u).1, fun u => (hsame husers hcredits u).2⟩
    · rw [htopUps, hfor hcredits]
      exact hb.orders k
    · rw [hcodes, hfor hcredits]
      exact hb.codes k
  | close topUp target hget hpending hsets htarget husers hcodes hcredits =>
    refine ⟨fun k => ?_, fun k => ?_, fun u => (hsame husers hcredits u).1, fun u => (hsame husers hcredits u).2⟩
    · rw [hsets k, hfor hcredits]
      split_ifs with hk
      · have hbook := hb.orders k
        rw [← show topUp.tradeNo = k from hk] at hbook ⊢
        rw [hget] at hbook
        obtain ⟨a, ha, huser, hapending, hcs⟩ := hbook.of_pending hpending
        rw [ha, hcs]
        by_cases htp : target = .pending
        · exact .same a _ huser (htp.trans hapending.symm)
        · exact .closed a _ huser hapending htp htarget
      · exact hb.orders k
    · rw [hcodes, hfor hcredits]
      exact hb.codes k
  | complete topUp new quota hget hpending hsuccess htrade huser hprovider hsets hcodes hcredit =>
    refine ⟨fun k => ?_, fun k => ?_, fun u => (hcredit.wallets hb u).1, fun u => (hcredit.wallets hb u).2⟩
    · rw [hsets k, hcredit.creditsFor, show pk new = topUp.tradeNo from htrade]
      by_cases hk : topUp.tradeNo = k
      · have hbook := hb.orders k
        rw [← hk] at hbook ⊢
        rw [hget] at hbook
        obtain ⟨a, ha, hau, hapending, hcs⟩ := hbook.of_pending hpending
        rw [ha, hcs, if_pos rfl, if_pos rfl, hau]
        exact .completed a new quota (huser.trans hau) hapending hsuccess
      · rw [if_neg hk, if_neg (by simpa using hk), append_nil]
        exact hb.orders k
    · rw [hcodes, hcredit.creditsFor, if_neg (by simp), append_nil]
      exact hb.codes k
  | redeem code userId time hget henabled hsets htopUps hcredit =>
    refine ⟨fun k => ?_, fun k => ?_, fun u => (hcredit.wallets hb u).1, fun u => (hcredit.wallets hb u).2⟩
    · rw [htopUps, hcredit.creditsFor, if_neg (by simp), append_nil]
      exact hb.orders k
    · rw [hsets k, hcredit.creditsFor, show pk _ = code.key from rfl]
      by_cases hk : code.key = k
      · have hbook := hb.codes k
        rw [← hk] at hbook ⊢
        rw [hget] at hbook
        obtain ⟨ha, hcs⟩ := hbook.of_enabled henabled
        rw [ha, hcs, if_pos rfl, if_pos rfl]
        exact .used code _ henabled rfl
      · rw [if_neg hk, if_neg (by simpa using hk), append_nil]
        exact hb.codes k

def TopUpDB.Settles (db db' : TopUpDB) : Prop :=
  ∀ k a, db.topUps.get? k = some a → a.status ≠ .pending → ∃ b, db'.topUps.get? k = some b ∧ b.status = a.status

theorem TopUpEffect.settles (h : TopUpEffect db db') : db.Settles db' := by
  intro k a hk hne
  have hset {topUp new : TopUp} (hsets : Sets new db.topUps db'.topUps)
      (hget : db.topUps.get? topUp.tradeNo = some topUp) (hpending : topUp.status = .pending)
      (htrade : new.tradeNo = topUp.tradeNo) :
      ∃ b, db'.topUps.get? k = some b ∧ b.status = a.status := by
    rw [hsets k, if_neg, hk]
    · exact ⟨a, rfl, rfl⟩
    · intro heq
      rw [← heq, show pk new = topUp.tradeNo from htrade, hget] at hk
      cases hk
      exact hne hpending
  cases h with
  | quiet _ htopUps | redeem code userId time _ _ _ htopUps =>
    rw [htopUps]
    exact ⟨a, hk, rfl⟩
  | close topUp target hget hpending hsets => exact hset hsets hget hpending rfl
  | complete topUp new quota hget hpending _ htrade _ _ hsets => exact hset hsets hget hpending htrade

/-! ## Runs -/

section Runs

variable [TopUpSettings] {db₀ : TopUpDB} {l : List TopUpOp}

theorem booked_run (h : db₀.credits = []) (hl : ∀ op ∈ l, op.Called) : db₀.Booked (Runs.run topUpStep db₀ l) :=
  Runs.run_invariant_along (fun db op hb hop => hb.step (topUpStep_effect db op hop)) (.refl h)
    (Runs.Along.of_forall fun _ op hop => hl op hop)

theorem settles_run (hl : ∀ op ∈ l, op.Called) (db : TopUpDB) : db.Settles (Runs.run topUpStep db l) := by
  induction l generalizing db with
  | nil => exact fun k a hk _ => ⟨a, hk, rfl⟩
  | cons op l ih =>
    intro k a hk hne
    obtain ⟨b, hb, hs⟩ := (topUpStep_effect db op (hl op mem_cons_self)).settles k a hk hne
    obtain ⟨c, hc, hs'⟩ := ih (fun op hop => hl op (mem_cons_of_mem _ hop)) _ k b hb (hs ▸ hne)
    exact ⟨c, hc, hs'.trans hs⟩

/-- **Orders and codes credit exactly once, in every order of callbacks, completions by hand, status updates and
redemptions.** An order that has left pending keeps its status; it has one credit, to its user, if it ended in success,
and none otherwise. A code that is redeemed has one credit, to the user it names. A callback leaves the orders of other
providers alone. Wallets grow by their credits and stay below the ceiling. -/
theorem top_ups_credit_once (db₀ : TopUpDB) (h : db₀.credits = []) (l : List TopUpOp) (hl : ∀ op ∈ l, op.Called) :
    let db := Runs.run topUpStep db₀ l
    (∀ l₁ l₂, l = l₁ ++ l₂ → (Runs.run topUpStep db₀ l₁).Settles db) ∧
      (∀ k a, db₀.topUps.get? k = some a → ∃ b, db.topUps.get? k = some b ∧
        if a.status = .pending ∧ b.status = .success
          then ∃ quota, db.creditsFor (.topUp k) = [⟨.topUp k, a.userId, quota⟩]
          else db.creditsFor (.topUp k) = []) ∧
      (∀ k a, db₀.redemptions.get? k = some a → ∃ b, db.redemptions.get? k = some b ∧
        if a.status = .enabled ∧ b.status = .used
          then db.creditsFor (.redemption k) = [⟨.redemption k, b.usedUserId, a.quota⟩]
          else db.creditsFor (.redemption k) = []) ∧
      (∀ op p k a, TopUpOp.provider op = some p → db.topUps.get? k = some a → a.paymentProvider ≠ some p →
        (topUpStep db op).topUps.get? k = some a) ∧
      ∀ u, db.wallet u = db₀.wallet u + db.creditedTo u ∧ (db₀.wallet u ≤ maxWalletQuota → db.wallet u ≤ maxWalletQuota) := by
  intro db
  have hb : db₀.Booked db := booked_run h hl
  refine ⟨fun l₁ l₂ hl2 => ?_, fun k a hk => ?_, fun k a hk => ?_, fun op p k a hop hk hne => ?_,
    fun u => ⟨hb.wallets u, hb.ceiling u⟩⟩
  · have hrun : db = Runs.run topUpStep (Runs.run topUpStep db₀ l₁) l₂ := by
      rw [← Runs.run_append, ← hl2]
    rw [hrun]
    exact settles_run (fun op hop => hl op (hl2 ▸ mem_append_right l₁ hop)) _
  · have hbook := hb.orders k
    rw [hk] at hbook
    generalize hget : db.topUps.get? k = o at hbook
    generalize db.creditsFor (.topUp k) = cs at hbook
    cases hbook with
    | same _ b _ hstatus =>
      refine ⟨b, rfl, ?_⟩
      rw [if_neg]
      rintro ⟨ha, hs⟩
      rw [hstatus, ha] at hs
      cases hs
    | closed _ b _ _ _ hs => exact ⟨b, rfl, by rw [if_neg fun hc => hs hc.2]⟩
    | completed _ b quota _ ha hs => exact ⟨b, rfl, by rw [if_pos ⟨ha, hs⟩]; exact ⟨quota, rfl⟩⟩
  · have hbook := hb.codes k
    rw [hk] at hbook
    generalize hget : db.redemptions.get? k = o at hbook
    generalize db.creditsFor (.redemption k) = cs at hbook
    cases hbook with
    | same =>
      refine ⟨a, rfl, ?_⟩
      rw [if_neg]
      rintro ⟨ha, hs⟩
      rw [ha] at hs
      cases hs
    | used _ b ha hs => exact ⟨b, rfl, by rw [if_pos ⟨ha, hs⟩]⟩
  · cases op with
    | rechargeEpay | recharge | rechargeCreem | rechargeWaffo | rechargeWaffoPancake =>
      exact (commitOr_complete _ _ _ _ _ db).2 k a p hop hk hne
    | manualCompleteTopUp | updatePendingTopUpStatus | redeem | pass => cases hop

end Runs

@[reducible] def sampleTopUpSettings : TopUpSettings where
  quotaPerUnit := 500000

/-- A user with an order of a hundred at a provider, and a code. -/
def sampleTopUpDB (provider : TopUpProvider) : TopUpDB where
  clock := 1000
  users := ⟨[{ id := 1, email := "", emailVerifiedAt := 0, inviterId := 0 }], pairwise_singleton _ _⟩
  topUps := ⟨[{ id := 1, userId := 1, amount := 100, money := 100, tradeNo := "trade", paymentProvider := some provider }],
    pairwise_singleton _ _⟩
  redemptions := ⟨[{ id := 1, key := "code" }], pairwise_singleton _ _⟩

theorem top_ups_credit_once_of_repeated_callbacks :
    let l : List TopUpOp := [.recharge "trade", .rechargeEpay "trade" "alipay", .rechargeEpay "trade" "alipay",
      .manualCompleteTopUp "trade", .redeem "code" 1, .redeem "code" 1]
    let db := Runs.run (@topUpStep sampleTopUpSettings) (sampleTopUpDB .epay) l
    db.creditedTo 1 = 50000100 ∧ db.wallet 1 = (sampleTopUpDB .epay).wallet 1 + db.creditedTo 1 := by
  intro l db
  have h := @top_ups_credit_once sampleTopUpSettings (sampleTopUpDB .epay) rfl l (by decide)
  exact ⟨by decide +kernel, (h.2.2.2.2 1).1⟩

/-! ## Completion by hand -/

section Completion

variable [TopUpSettings]

/-- What a completion credits, where it succeeds. -/
def creditedBy (t : Txn TopUpDB TopUpErr (Option ℤ)) (db : TopUpDB) : Option ℤ :=
  match t.run db with
  | .ok (quota, _) => quota
  | .error _ => none

/-- The callback of a payment provider, with what the callback says of the payer. -/
def TopUpProvider.callback (tradeNo method email : String) : TopUpProvider → Option (Txn TopUpDB TopUpErr (Option ℤ))
  | .epay => some (rechargeEpay tradeNo method)
  | .stripe => some (recharge tradeNo)
  | .creem => some (rechargeCreem tradeNo email)
  | .waffo => some (rechargeWaffo tradeNo)
  | .waffoPancake => some (rechargeWaffoPancake tradeNo)
  | .balance => none

variable {q : ℤ}

omit [TopUpSettings] in
theorem creditedBy_eq_some {t : Txn TopUpDB TopUpErr (Option ℤ)} :
    creditedBy t db = some q ↔ ∃ db', t.run db = .ok (some q, db') := by
  unfold creditedBy
  cases t.run db with
  | error => exact ⟨fun h => (by cases h), fun ⟨_, h⟩ => (by cases h)⟩
  | ok r => exact ⟨fun h => ⟨r.2, by rw [← h]⟩, fun ⟨_, h⟩ => by cases h; rfl⟩

variable {touch : User → User}

omit [TopUpSettings] in
theorem creditTopUpQuota_of_fits {source : CreditSource} {userId quota : ℤ} (h : db.Fits userId quota) :
    ∃ db', (creditTopUpQuota source userId quota touch).run db = .ok ((), db') := by
  obtain ⟨_, _, user, huser, hle⟩ := h
  refine ⟨_, run_bind_ok.mpr ⟨maxWalletQuota - quota, db, run_lifted_ok.mpr ⟨if_neg (by omega), rfl⟩,
    run_bind_ok.mpr ⟨some user, db, run_lookup_ok.mpr ⟨huser.symm, rfl⟩, run_bind_ok.mpr ⟨(), db,
      run_require_ok.mpr ⟨hle, rfl⟩, run_bind_ok.mpr ⟨(), _, run_updates_ok.mpr rfl, run_modify_ok.mpr rfl⟩⟩⟩⟩⟩

variable {tradeNo : String}

omit [TopUpSettings] in
theorem completeTopUp_commits_iff {c : Completion} {method : String} {topUp : TopUp}
    (hget : db.topUps.get? tradeNo = some topUp) (hpending : topUp.status = .pending)
    (hprovider : ∀ p ∈ c.provider, topUp.paymentProvider = some p) :
    (∃ db', (completeTopUp c tradeNo method touch).run db = .ok (some q, db')) ↔
      c.quota topUp = some q ∧ db.Fits topUp.userId q := by
  constructor
  · rintro ⟨db', h⟩
    obtain ⟨_, hget', _, ⟨_, _, hnone⟩ | ⟨_, _, _, hquota, hr, _, _, _, _, _, _, hcredit⟩⟩ := completeTopUp_ok h
    · cases hnone
    · rw [hget] at hget'
      cases hget'
      cases hr
      exact ⟨hquota, hcredit.fits⟩
  · rintro ⟨hquota, hfits⟩
    have hnot : ¬ (c.idempotent = true ∧ topUp.status = .success) := by
      rw [hpending]
      rintro ⟨_, hs⟩
      cases hs
    obtain ⟨db1, hsave, husers⟩ : ∃ db1, (saveTopUp { topUp with
        paymentMethod := if method ≠ "" then method else topUp.paymentMethod
        completeTime := db.clock, status := .success }).run db = .ok ((), db1) ∧ db1.users = db.users :=
      ⟨_, run_updates_ok.mpr rfl, rfl⟩
    obtain ⟨db', hcredit⟩ : ∃ db', (creditTopUpQuota (.topUp tradeNo) topUp.userId q touch).run db1 = .ok ((), db') :=
      creditTopUpQuota_of_fits ⟨hfits.1, hfits.2.1, by rw [husers]; exact hfits.2.2⟩
    refine ⟨db', run_bind_ok.mpr ⟨topUp, db, run_first_ok.mpr ⟨hget, rfl⟩, run_bind_ok.mpr ⟨(), db,
      run_require_ok.mpr ⟨hprovider, rfl⟩, ?_⟩⟩⟩
    rw [if_neg hnot]
    exact run_bind_ok.mpr ⟨(), db, run_require_ok.mpr ⟨hpending, rfl⟩, run_bind_ok.mpr ⟨q, db,
      run_attempt_ok.mpr ⟨hquota, rfl⟩, run_bind_ok.mpr ⟨(), db, run_require_ok.mpr ⟨hfits.1, rfl⟩, run_bind_ok.mpr ⟨db, db,
        run_get_ok.mpr ⟨rfl, rfl⟩, run_bind_ok.mpr ⟨(), db1, hsave, run_bind_ok.mpr ⟨(), db', hcredit,
          run_pure_ok.mpr ⟨rfl, rfl⟩⟩⟩⟩⟩⟩⟩

omit [TopUpSettings] in
theorem creditedBy_complete {e : TopUpErr} {c : Completion} {method : String} {topUp : TopUp}
    (hget : db.topUps.get? tradeNo = some topUp) (hpending : topUp.status = .pending)
    (hprovider : ∀ p ∈ c.provider, topUp.paymentProvider = some p) :
    creditedBy (do require (tradeNo ≠ "") e; completeTopUp c tradeNo method touch) db = some q ↔
      tradeNo ≠ "" ∧ c.quota topUp = some q ∧ db.Fits topUp.userId q := by
  rw [creditedBy_eq_some, ← completeTopUp_commits_iff hget hpending hprovider]
  simp only [run_bind_ok, run_require_ok]
  constructor
  · rintro ⟨db', _, _, ⟨hne, hs⟩, h⟩
    exact ⟨hne, db', hs ▸ h⟩
  · rintro ⟨hne, db', h⟩
    exact ⟨db', (), db, ⟨hne, rfl⟩, h⟩

/-- The amount of a Creem order, as a quota and in units, is the same as far as it fits into the wallet. -/
def TopUpDB.ManualFits (db : TopUpDB) (topUp : TopUp) : Prop :=
  topUp.paymentProvider = some .creem → topUp.tradeNo ≠ "" → ∀ q, db.Fits topUp.userId q →
    (topUp.amountQuota = some q ↔ walletQuotaFromDecimalStrict topUp.amount = some q)

end Completion

end Desktop2Stereo
