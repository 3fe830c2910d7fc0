import Desktop2Stereo.Effects.Licensing

/-!
# What the balance operations do

How each operation of `Model.Balance` moves the two columns of the accounts, and which ledger row
it writes.

* `AccountsMoved`: an account's available and reserved columns move by given amounts and no other
  account's do; `AccountsMoved.fetched`.
-/

namespace Desktop2Stereo

open Relational GoText Table

variable {e : Env} {userID now : ℤ} {currency : Currency} {db db' : DB}

/-! ## Columns of accounts -/

def availableOf (t : Table D2SBalanceAccount) (id : String) : ℤ :=
  t.sum (fun a => a.id = id) D2SBalanceAccount.availableMinor

def reservedOf (t : Table D2SBalanceAccount) (userID : ℤ) (currency : Currency) : ℤ :=
  t.sum (fun a => a.userID = userID ∧ a.currency = currency) D2SBalanceAccount.reservedMinor

def fundsOf (t : Table D2SBalanceAccount) (userID : ℤ) (currency : Currency) : ℤ :=
  t.sum (fun a => a.userID = userID ∧ a.currency = currency) D2SBalanceAccount.availableMinor

def HasAccount (t : Table D2SBalanceAccount) (id : String) (userID : ℤ) (currency : Currency) : Prop :=
  ∃ a, t.get? id = some a ∧ a.userID = userID ∧ a.currency = currency

/-- The account `id` of a user in a currency moves by these amounts, and no other account moves;
accounts stay with their owners. -/
structure AccountsMoved (t t' : Table D2SBalanceAccount) (id : String) (userID : ℤ) (currency : Currency)
    (available reserved : ℤ) : Prop where
  available_eq : ∀ i, availableOf t' i = availableOf t i + if i = id then available else 0
  reserved_eq : ∀ u c, reservedOf t' u c = reservedOf t u c + if u = userID ∧ c = currency then reserved else 0
  funds_eq : ∀ u c, fundsOf t' u c = fundsOf t u c + if u = userID ∧ c = currency then available else 0
  kept : ∀ i u c, HasAccount t i u c → HasAccount t' i u c

variable {t t' t'' : Table D2SBalanceAccount} {id : String}

theorem AccountsMoved.refl : AccountsMoved t t id userID currency 0 0 :=
  ⟨fun i => by simp, fun u c => by simp, fun u c => by simp, fun _ _ _ h => h⟩

theorem AccountsMoved.fetched {a r : ℤ} (h : AccountsMoved t t' id userID currency 0 0)
    (h' : AccountsMoved t' t'' id userID currency a r) : AccountsMoved t t'' id userID currency a r := by
  refine ⟨fun i => ?_, fun u c => ?_, fun u c => ?_, fun i u c hi => h'.kept i u c (h.kept i u c hi)⟩
  · rw [h'.available_eq, h.available_eq]
    split_ifs <;> omega
  · rw [h'.reserved_eq, h.reserved_eq]
    split_ifs <;> omega
  · rw [h'.funds_eq, h.funds_eq]
    split_ifs <;> omega

variable {a : D2SBalanceAccount}

theorem accountsMoved_insert (h : t.insert a = some t') (ha : a.availableMinor = 0) (hr : a.reservedMinor = 0) :
    AccountsMoved t t' id userID currency 0 0 := by
  refine ⟨fun i => ?_, fun u c => ?_, fun u c => ?_, fun i u c ⟨b, hb, hu, hc⟩ => ⟨b, ?_, hu, hc⟩⟩
  · rw [availableOf, sum_insert h, ha, availableOf]
    simp
  · rw [reservedOf, sum_insert h, hr, reservedOf]
    simp
  · rw [fundsOf, sum_insert h, ha, fundsOf]
    simp
  · rw [get?_insert h, if_neg, hb]
    intro hi
    have hnone := get?_of_insert h
    rw [hi, hb] at hnone
    cases hnone

variable {v : D2SBalanceAccount → ℤ}

theorem sum_account (ha : t.get? a.id = some a) :
    t.sum (fun b => b.userID = a.userID ∧ b.currency = a.currency) v = v a := by
  have hm := (get?_eq_some.mp ha).1
  refine sum_single hm (fun b hb hp => ?_) (decide_eq_true ⟨rfl, rfl⟩)
  obtain ⟨hu, hc⟩ := of_decide_eq_true hp
  rw [t.eq_of_clash hb hm (.inr (Prod.ext hu hc))]

theorem sum_owner {a' : D2SBalanceAccount} {x : ℤ} (hset : Sets a' t t') (hold : t.get? (pk a') = some a)
    (hu : a'.userID = a.userID) (hc : a'.currency = a.currency) (hv : v a' = v a + x) (u : ℤ) (c : Currency) :
    t'.sum (fun b => b.userID = u ∧ b.currency = c) v =
      t.sum (fun b => b.userID = u ∧ b.currency = c) v + if u = a.userID ∧ c = a.currency then x else 0 := by
  rw [hset.sum, hold, Option.elim_some, hu, hc, hv]
  by_cases hi : u = a.userID ∧ c = a.currency
  · simp [hi]; omega
  · rw [if_neg hi, if_neg, if_neg]
    · omega
    all_goals
      intro h
      exact hi ((of_decide_eq_true h).imp Eq.symm Eq.symm)

theorem accountsMoved_modify {q : D2SBalanceAccount → Bool} {f : D2SBalanceAccount → D2SBalanceAccount} {x y : ℤ}
    (ha : t.get? a.id = some a) (hu : a.userID = userID) (hc : a.currency = currency)
    (hq : ∀ b, q b = true → b.id = a.id) (hqa : q a = true) (hx : (f a).availableMinor = a.availableMinor + x)
    (hy : (f a).reservedMinor = a.reservedMinor + y) (hk : ∀ a, Indexed.keys (f a) = Indexed.keys a) :
    AccountsMoved t (t.modify q f hk) a.id userID currency x y := by
  subst hu hc
  have hkeys : ((f a).id, (f a).userID, (f a).currency) = (a.id, a.userID, a.currency) := hk a
  simp only [Prod.mk.injEq] at hkeys
  obtain ⟨hfid, hfu, hfc⟩ := hkeys
  have hset : Sets (f a) t (t.modify q f hk) := sets_modify ha hq hqa
  have hold : t.get? (pk (f a)) = some a := (congrArg t.get? hfid).trans ha
  refine ⟨fun i => ?_, sum_owner hset hold hfu hfc hy, sum_owner hset hold hfu hfc hx, fun i u c hi => ?_⟩
  · rw [availableOf, hset.sum, hold, availableOf, Option.elim_some, hfid, hx]
    by_cases hi : i = a.id
    · simp [hi]; omega
    · simp [hi, Ne.symm hi]
  · obtain ⟨b, hb, hu, hc⟩ := hi
    by_cases hid : pk (f a) = i
    · have hba : b = a := by
        rw [← hid, hold] at hb
        exact (Option.some.inj hb).symm
      subst hba
      exact ⟨f b, by rw [hset, if_pos hid], hfu.trans hu, hfc.trans hc⟩
    · exact ⟨b, by rw [hset, if_neg hid, hb], hu, hc⟩

/-! ## Accounts -/

theorem d2sBalanceAccountTx_ok {draw : Uuid}
    (h : (d2sBalanceAccountTx draw userID currency now).run db = .ok (a, db')) :
    ∃ accounts, accounts.get? a.id = some a ∧ a.userID = userID ∧ a.currency = currency ∧
      AccountsMoved db.accounts accounts a.id userID currency 0 0 ∧ db' = { db with accounts } := by
  simp only [d2sBalanceAccountTx, run_bind_ok, run_lookup_ok, and_assoc, exists_and_left, exists_eq_left] at h
  cases hf : db.accounts.find? fun a => decide (a.userID = userID ∧ a.currency = currency) with
  | some =>
    simp only [hf, run_pure_ok] at h
    obtain ⟨rfl, rfl⟩ := h
    obtain ⟨hm, hp⟩ := find?_eq_some hf
    obtain ⟨hu, hc⟩ := of_decide_eq_true hp
    exact ⟨_, get?_pk hm, hu, hc, .refl, rfl⟩
  | none =>
    simp only [hf, run_bind_ok, run_create_ok, run_pure_ok] at h
    obtain ⟨_, _, ⟨accounts, hins, rfl⟩, rfl, rfl⟩ := h
    refine ⟨accounts, ?_, rfl, rfl, accountsMoved_insert hins rfl rfl, rfl⟩
    rw [get?_insert hins, D2SBalanceAccount.pk_eq, if_pos rfl]

variable {u : Unit} {amount : ℤ}

theorem takeD2SReserved_ok {credit : ℤ} (ha : db.accounts.get? a.id = some a) (hu : a.userID = userID)
    (hc : a.currency = currency) (h : (takeD2SReserved a.id amount credit now).run db = .ok (u, db')) :
    ∃ accounts, amount ≤ a.reservedMinor ∧
      AccountsMoved db.accounts accounts a.id userID currency credit (-amount) ∧ db' = { db with accounts } := by
  simp only [takeD2SReserved, run_bind_ok, run_count_ok, run_updates_ok, run_require_ok, and_assoc,
    exists_and_left, exists_eq_left, exists_const] at h
  obtain ⟨_, rfl⟩ := h
  have hm := (get?_eq_some.mp ha).1
  have hcov : amount ≤ a.reservedMinor := by
    by_contra hlt
    have hz : db.accounts.count (fun b => decide (b.id = a.id ∧ amount ≤ b.reservedMinor)) = 0 := by
      refine count_eq_zero.mpr fun b hb => decide_eq_false fun hba => hlt ?_
      rw [← db.accounts.eq_of_pk hb hm hba.1]
      exact hba.2
    omega
  refine ⟨_, hcov, ?_, rfl⟩
  apply accountsMoved_modify ha hu hc
  · exact fun b hb => (of_decide_eq_true hb).1
  · exact decide_eq_true ⟨rfl, hcov⟩
  · rfl
  · exact sub_eq_add_neg _ _

/-! ## Reserving and settling -/

/-- The ledger row of a reservation. -/
def d2sReserveRow (e : Env) (accountID : String) (userID : ℤ) (currency : Currency) (amount : ℤ) (kind : TxKind)
    (referenceID : String) (now : ℤ) : D2SBalanceTransaction :=
  { id := e.reserveTxID.val, accountID, userID, currency, kind, amountMinor := -amount, referenceID, createdAt := now }

variable {referenceID : String}

theorem reserveD2SBalance_ok {kind : TxKind}
    (h : (reserveD2SBalance e userID currency amount kind referenceID now).run db = .ok (u, db')) :
    ∃ accounts transactions id, amount ≤ fundsOf db.accounts userID currency ∧
      AccountsMoved db.accounts accounts id userID currency (-amount) amount ∧
      db.transactions.insert (d2sReserveRow e id userID currency amount kind referenceID now) = some transactions ∧
      db' = { db with accounts, transactions } := by
  simp only [reserveD2SBalance, run_bind_ok, run_require_ok, run_updates_ok, run_create_ok, and_assoc,
    exists_and_left, exists_eq_left, exists_const] at h
  obtain ⟨a, _, hacc, hle, transactions, hins, rfl⟩ := h
  obtain ⟨_, ha, hu, hc, hmoved, rfl⟩ := d2sBalanceAccountTx_ok hacc
  refine ⟨_, transactions, a.id, ?_, hmoved.fetched ?_, hins, rfl⟩
  · have hfunds := hmoved.funds_eq userID currency
    rw [ite_self, add_zero] at hfunds
    rw [← hfunds, ← hu, ← hc, fundsOf, sum_account ha]
    exact hle
  · apply accountsMoved_modify ha hu hc
    · exact fun b hb => of_decide_eq_true hb
    · exact decide_eq_true rfl
    · exact sub_eq_add_neg _ _
    · rfl

theorem takeD2SReserved_le {draw : Uuid} {credit : ℤ} {db1 : DB}
    (hacc : (d2sBalanceAccountTx draw userID currency now).run db = .ok (a, db1))
    (htake : (takeD2SReserved a.id amount credit now).run db1 = .ok (u, db')) :
    amount ≤ reservedOf db.accounts userID currency := by
  obtain ⟨_, ha, hu, hc, hmoved, rfl⟩ := d2sBalanceAccountTx_ok hacc
  obtain ⟨_, hle, -, -⟩ := takeD2SReserved_ok ha hu hc htake
  have hreserved := hmoved.reserved_eq userID currency
  rw [ite_self, add_zero] at hreserved
  rw [← hreserved, ← hu, ← hc, reservedOf, sum_account ha]
  exact hle

def d2sSettleRow (e : Env) (accountID : String) (order : D2SOrder) (consume : Bool) (now : ℤ) :
    D2SBalanceTransaction :=
  { id := e.settleTxID.val, accountID, userID := order.userID, currency := order.currency
    kind := if consume then .consume else .release, amountMinor := if consume then 0 else order.balanceMinor
    orderID := order.id, createdAt := now }

variable {order : D2SOrder}

inductive ShareSettled (e : Env) (order : D2SOrder) (consume : Bool) (now : ℤ) (db : DB)
    (accounts : Table D2SBalanceAccount) (transactions : Table D2SBalanceTransaction) : Prop
  | none : order.balanceMinor ≤ 0 → accounts = db.accounts → transactions = db.transactions →
      ShareSettled e order consume now db accounts transactions
  | posted {accountID : String} : 0 < order.balanceMinor →
      order.balanceMinor ≤ reservedOf db.accounts order.userID order.currency →
      AccountsMoved db.accounts accounts accountID order.userID order.currency
        (if consume then 0 else order.balanceMinor) (-order.balanceMinor) →
      db.transactions.insert (d2sSettleRow e accountID order consume now) = some transactions →
      ShareSettled e order consume now db accounts transactions

theorem settleD2SReservedBalanceTx_ok {consume : Bool}
    (h : (settleD2SReservedBalanceTx e order consume now).run db = .ok (u, db')) :
    ∃ accounts transactions, ShareSettled e order consume now db accounts transactions ∧
      db' = { db with accounts, transactions } := by
  simp only [settleD2SReservedBalanceTx, run_whenever_ok, run_bind_ok, run_create_ok] at h
  rcases h with ⟨hpos, a, _, hacc, _, _, htake, transactions, hins, rfl⟩ | ⟨hneg, rfl⟩
  · have hle := takeD2SReserved_le hacc htake
    obtain ⟨_, ha, hu, hc, hmoved, rfl⟩ := d2sBalanceAccountTx_ok hacc
    obtain ⟨accounts', -, htaken, rfl⟩ := takeD2SReserved_ok ha hu hc htake
    exact ⟨accounts', transactions, .posted hpos hle (hmoved.fetched htaken) hins, rfl⟩
  · exact ⟨_, _, .none (not_lt.mp hneg) rfl rfl, rfl⟩

theorem ShareSettled.congr {o : D2SOrder} {consume : Bool} {accounts : Table D2SBalanceAccount}
    {transactions : Table D2SBalanceTransaction} (h : ShareSettled e o consume now db accounts transactions)
    (ha : db.accounts = db'.accounts) (ht : db.transactions = db'.transactions) (hid : o.id = order.id)
    (hu : o.userID = order.userID) (hc : o.currency = order.currency) (hb : o.balanceMinor = order.balanceMinor) :
    ShareSettled e order consume now db' accounts transactions := by
  have hrow : ∀ id, d2sSettleRow e id o consume now = d2sSettleRow e id order consume now := by
    simp only [d2sSettleRow, hid, hu, hc, hb, implies_true]
  cases h with
  | none hz hacc htx => exact .none (hb ▸ hz) (hacc.trans ha) (htx.trans ht)
  | posted hpos hle hm hins =>
    rw [hu, hc, hb, ha] at hle hm
    rw [hrow, ht] at hins
    exact .posted (hb ▸ hpos) hle hm hins

/-! ## Invite rewards -/

/-- Nothing moves, or a reward moves one account's available column and writes one ledger row. -/
def Rewarded (db : DB) (kind : TxKind) (accounts : Table D2SBalanceAccount)
    (transactions : Table D2SBalanceTransaction) : Prop :=
  (accounts = db.accounts ∧ transactions = db.transactions) ∨
  ∃ v : D2SBalanceTransaction, v.kind = kind ∧
    AccountsMoved db.accounts accounts v.accountID v.userID v.currency v.amountMinor 0 ∧
    db.transactions.insert v = some transactions

def d2sInviteRow (e : Env) (inviterID inviteeID : ℤ) (order : D2SOrder) (now : ℤ) : D2SInviteReward :=
  { id := e.rewardID.val, inviterUserID := inviterID, inviteeUserID := inviteeID, orderID := order.id
    currency := order.currency, amountMinor := d2sInviteAmount order.region, status := .credited, createdAt := now }

def D2SInviteReward.ledgerRow (r : D2SInviteReward) (e : Env) (accountID : String) (kind : TxKind) (amountMinor now : ℤ) :
    D2SBalanceTransaction :=
  { id := e.rewardTxID.val, accountID, userID := r.inviterUserID, currency := r.currency, kind, amountMinor
    orderID := r.orderID, referenceID := r.id, createdAt := now }

/-- An order earns no reward, or it earns the inviter of its buyer the buyer's first one: the inviter's
account in the currency of the order is credited, and the inviter is in the region of the order. -/
inductive Awarded (e : Env) (order : D2SOrder) (now : ℤ) (db : DB) (accounts : Table D2SBalanceAccount)
    (transactions : Table D2SBalanceTransaction) (rewards : Table D2SInviteReward) : Prop
  | none : accounts = db.accounts → transactions = db.transactions → rewards = db.rewards →
      Awarded e order now db accounts transactions rewards
  | credited {r : D2SInviteReward} {p : D2SUserProfile} {accountID : String} : r.orderID = order.id →
      r.inviteeUserID = order.userID → r.currency = order.currency → r.amountMinor = d2sInviteAmount order.region →
      r.status = .credited → p ∈ db.profiles.rows → p.userID = r.inviterUserID → p.region = some order.region →
      HasAccount accounts accountID r.inviterUserID r.currency →
      AccountsMoved db.accounts accounts accountID r.inviterUserID r.currency r.amountMinor 0 →
      db.transactions.insert (r.ledgerRow e accountID .inviteReward r.amountMinor now) = some transactions →
      db.rewards.insert r = some rewards → Awarded e order now db accounts transactions rewards

variable {transactions : Table D2SBalanceTransaction} {accounts : Table D2SBalanceAccount}
  {rewards : Table D2SInviteReward}

theorem Awarded.congr (h : Awarded e order now db accounts transactions rewards) (hp : db.profiles = db'.profiles)
    (ha : db.accounts = db'.accounts) (ht : db.transactions = db'.transactions) (hr : db.rewards = db'.rewards) :
    Awarded e order now db' accounts transactions rewards := by
  cases h with
  | none ha' ht' hr' => exact .none (ha'.trans ha) (ht'.trans ht) (hr'.trans hr)
  | credited ho hi hc ham hs hpm hpu hpr hacc hmoved htx hrew =>
    exact .credited ho hi hc ham hs (hp ▸ hpm) hpu hpr hacc (ha ▸ hmoved) (ht ▸ htx) (hr ▸ hrew)

theorem Awarded.rewarded (h : Awarded e order now db accounts transactions rewards) :
    Rewarded db .inviteReward accounts transactions := by
  cases h with
  | none ha ht => exact .inl ⟨ha, ht⟩
  | credited ho hi hc ham hs hp hpu hpr hacc hmoved htx => exact .inr ⟨_, rfl, hmoved, htx⟩

theorem awardD2SInviteTx_ok (h : (awardD2SInviteTx e order now).run db = .ok (u, db')) :
    ∃ accounts transactions rewards, Awarded e order now db accounts transactions rewards ∧
      db' = { db with accounts, transactions, rewards } := by
  simp only [awardD2SInviteTx, d2sInviterEligible, creditD2SInvite, run_bind_ok, run_first_ok, run_count_ok,
    run_lookup_ok, run_pure_ok, run_whenever_ok, run_updates_ok, run_create_ok, and_assoc, exists_and_left,
    exists_eq_left, exists_const] at h
  obtain ⟨invitee, hinv, ⟨-, -, -, helig, a, _, hacc, _, ⟨rewards, hrew, rfl⟩, transactions, hins, rfl⟩ | ⟨-, rfl⟩⟩ := h
  · obtain ⟨accounts, ha, hu, hc, hmoved, rfl⟩ := d2sBalanceAccountTx_ok hacc
    have hid : invitee.id = order.userID := of_decide_eq_true (find?_eq_some hinv).2
    obtain ⟨p, hp⟩ := Option.isSome_iff_exists.mp (Bool.and_eq_true_iff.mp helig).1
    obtain ⟨hpm, hpp⟩ := find?_eq_some hp
    obtain ⟨hpu, hpr⟩ := of_decide_eq_true hpp
    have hmove : AccountsMoved accounts _ a.id invitee.inviterId order.currency (d2sInviteAmount order.region) 0 :=
      accountsMoved_modify (q := fun b => b.id = a.id)
        (f := fun b => { b with availableMinor := b.availableMinor + d2sInviteAmount order.region, updatedAt := now })
        ha hu hc (fun b hb => of_decide_eq_true hb) (decide_eq_true rfl) rfl (add_zero _).symm (fun _ => rfl)
    refine ⟨_, transactions, rewards, .credited (r := d2sInviteRow e invitee.inviterId invitee.id order now)
      rfl hid rfl rfl rfl hpm hpu hpr ?_ (hmoved.fetched hmove) hins hrew, rfl⟩
    exact hmove.kept _ _ _ ⟨a, ha, hu, hc⟩
  · exact ⟨_, _, _, .none rfl rfl rfl, rfl⟩

/-- The columns of a reward that its reversal writes. -/
def D2SInviteReward.revoked (r : D2SInviteReward) : D2SInviteReward := { r with status := .reversed }

/-- An order has no reward to reverse, or its reward is taken back from the inviter's account. -/
inductive Reversed (e : Env) (order : D2SOrder) (now : ℤ) (db : DB) (accounts : Table D2SBalanceAccount)
    (transactions : Table D2SBalanceTransaction) (rewards : Table D2SInviteReward) : Prop
  | none : (∀ r ∈ db.rewards.rows, ¬ (r.orderID = order.id ∧ r.status = .credited)) → accounts = db.accounts →
      transactions = db.transactions → rewards = db.rewards → Reversed e order now db accounts transactions rewards
  | reversed {r : D2SInviteReward} {accountID : String} : r ∈ db.rewards.rows → r.orderID = order.id →
      r.status = .credited → HasAccount accounts accountID r.inviterUserID r.currency →
      AccountsMoved db.accounts accounts accountID r.inviterUserID r.currency (-r.amountMinor) 0 →
      db.transactions.insert (r.ledgerRow e accountID .inviteReversal (-r.amountMinor) now) = some transactions →
      Sets r.revoked db.rewards rewards → Reversed e order now db accounts transactions rewards

theorem Reversed.congr (h : Reversed e order now db accounts transactions rewards) (ha : db.accounts = db'.accounts)
    (ht : db.transactions = db'.transactions) (hr : db.rewards = db'.rewards) :
    Reversed e order now db' accounts transactions rewards := by
  cases h with
  | none hn ha' ht' hr' => exact .none (hr ▸ hn) (ha'.trans ha) (ht'.trans ht) (hr'.trans hr)
  | reversed hm ho hs hacc hmoved htx hset =>
    exact .reversed (hr ▸ hm) ho hs hacc (ha ▸ hmoved) (ht ▸ htx) (hr ▸ hset)

theorem Reversed.rewarded (h : Reversed e order now db accounts transactions rewards) :
    Rewarded db .inviteReversal accounts transactions := by
  cases h with
  | none hn ha ht => exact .inl ⟨ha, ht⟩
  | reversed hm ho hs hacc hmoved htx => exact .inr ⟨_, rfl, hmoved, htx⟩

theorem reverseD2SInviteRewardTx_ok (h : (reverseD2SInviteRewardTx e order now).run db = .ok (u, db')) :
    ∃ accounts transactions rewards, Reversed e order now db accounts transactions rewards ∧
      db' = { db with accounts, transactions, rewards } := by
  simp only [reverseD2SInviteRewardTx, run_bind_ok, run_lookup_ok, and_assoc, exists_and_left, exists_eq_left] at h
  cases hf : db.rewards.find? fun r => decide (r.orderID = order.id ∧ r.status = .credited) with
  | none =>
    simp only [hf, run_pure_ok] at h
    have hnone := find?_eq_none.mp hf
    exact ⟨_, _, _, .none (fun r hr => of_decide_eq_false (hnone r hr)) rfl rfl rfl, h.2⟩
  | some reward =>
    simp only [hf, revokeD2SInviteReward, run_bind_ok, run_updates_ok, run_create_ok, exists_eq_left,
      exists_const] at h
    obtain ⟨a, _, hacc, transactions, hins, rfl⟩ := h
    obtain ⟨accounts, ha, hu, hc, hmoved, rfl⟩ := d2sBalanceAccountTx_ok hacc
    obtain ⟨hm, hp⟩ := find?_eq_some hf
    obtain ⟨hoid, hst⟩ := of_decide_eq_true hp
    have hmove : AccountsMoved accounts _ a.id reward.inviterUserID reward.currency (-reward.amountMinor) 0 :=
      accountsMoved_modify (q := fun b => b.id = a.id)
        (f := fun b => { b with availableMinor := b.availableMinor - reward.amountMinor, updatedAt := now })
        ha hu hc (fun b hb => of_decide_eq_true hb) (decide_eq_true rfl) (sub_eq_add_neg _ _) (add_zero _).symm
        (fun _ => rfl)
    have hset : Sets reward.revoked db.rewards
        (db.rewards.modify (fun r => r.id = reward.id) D2SInviteReward.revoked (fun _ => rfl)) :=
      sets_modify (get?_pk hm) (fun b hb => of_decide_eq_true hb) (decide_eq_true rfl)
    rw [← hoid] at hins
    exact ⟨_, transactions, _, .reversed hm hoid hst (hmove.kept _ _ _ ⟨a, ha, hu, hc⟩) (hmoved.fetched hmove) hins hset,
      rfl⟩

/-! ## Withdrawals -/

variable {row : D2SWithdrawalRequest} {p : PreparedWithdrawal}

theorem commitD2SWithdrawal_ok (h : (commitD2SWithdrawal e p).run db = .ok (row, db')) :
    ∃ accounts transactions withdrawals id, p.amountMinor ≤ fundsOf db.accounts p.userID .CNY ∧
      AccountsMoved db.accounts accounts id p.userID .CNY (-p.amountMinor) p.amountMinor ∧
      db.transactions.insert (d2sReserveRow e id p.userID .CNY p.amountMinor .withdrawalReserve row.id p.now) =
        some transactions ∧
      db.withdrawals.insert row = some withdrawals ∧
      row.userID = p.userID ∧ row.currency = .CNY ∧ row.amountMinor = p.amountMinor ∧ row.status = .pending ∧
      db' = { db with accounts, transactions, withdrawals } := by
  simp only [commitD2SWithdrawal, run_bind_ok, run_create_ok, run_pure_ok] at h
  obtain ⟨_, _, hres, _, _, ⟨withdrawals, hins, rfl⟩, rfl, rfl⟩ := h
  obtain ⟨accounts, transactions, id, hle, hmoved, htx, rfl⟩ := reserveD2SBalance_ok hres
  exact ⟨accounts, transactions, withdrawals, id, hle, hmoved, htx, hins, rfl, rfl, rfl, rfl, rfl⟩

variable {audit : Option D2SAdminOperationAudit}

theorem auditD2SReview_ok (h : (auditD2SReview e audit now).run db = .ok (u, db')) :
    ∃ adminAudits, db' = { db with adminAudits } := by
  cases audit with
  | none =>
    simp only [auditD2SReview, run_pure_ok] at h
    exact ⟨_, h.2⟩
  | some =>
    simp only [auditD2SReview, createD2SAdminOperationAudit, run_bind_ok, run_require_ok, run_create_ok, and_assoc,
      exists_and_left, exists_eq_left, exists_const] at h
    obtain ⟨-, -, -, adminAudits, -, rfl⟩ := h
    exact ⟨adminAudits, rfl⟩

def d2sReviewRow (e : Env) (accountID : String) (row : D2SWithdrawalRequest) (status : WithdrawalStatus) (now : ℤ) :
    D2SBalanceTransaction :=
  { id := e.settleTxID.val, accountID, userID := row.userID, currency := row.currency
    kind := if status = .rejected then .withdrawalRelease else .withdrawalPaid
    amountMinor := if status = .rejected then row.amountMinor else 0, referenceID := row.id, createdAt := now }

theorem WithdrawalStatus.ofReview_ne_pending {name : String} {status : WithdrawalStatus}
    (h : WithdrawalStatus.ofReview name = some status) : status ≠ .pending := by
  rintro rfl
  unfold WithdrawalStatus.ofReview at h
  split at h <;> cases h

variable {r : D2SWithdrawalRequest} {requestID : String} {adminID : ℤ}

theorem reviewD2SWithdrawal_ok {status note : String}
    (h : (reviewD2SWithdrawal e adminID requestID status note now audit).run db = .ok (r, db')) :
    ∃ row st accounts transactions adminAudits id, db.withdrawals.get? requestID = some row ∧
      row.status = .pending ∧ st ≠ .pending ∧ row.amountMinor ≤ reservedOf db.accounts row.userID row.currency ∧
      AccountsMoved db.accounts accounts id row.userID row.currency (if st = .rejected then row.amountMinor else 0)
        (-row.amountMinor) ∧
      db.transactions.insert (d2sReviewRow e id row st now) = some transactions ∧
      db' = { db with
        accounts, transactions, adminAudits
        withdrawals := db.withdrawals.modify (·.id = requestID) (·.reviewed st adminID note now) (fun _ => rfl) } := by
  simp only [reviewD2SWithdrawal, run_bind_ok, run_attempt_ok, run_require_ok, run_first_ok, run_updates_ok,
    run_create_ok, run_pure_ok, find?_ofKey, and_assoc, exists_and_left, exists_eq_left,
    exists_const] at h
  obtain ⟨st, hst, -, row, hrow, hpend, a, _, hacc, _, _, htake, _, ⟨transactions, hins, rfl⟩, _, _, haudit, -, rfl⟩ := h
  have hle := takeD2SReserved_le hacc htake
  obtain ⟨_, ha, hu, hc, hmoved, rfl⟩ := d2sBalanceAccountTx_ok hacc
  obtain ⟨accounts', -, htaken, rfl⟩ := takeD2SReserved_ok ha hu hc htake
  obtain ⟨adminAudits, rfl⟩ := auditD2SReview_ok haudit
  have hid : row.id = requestID := (get?_eq_some.mp hrow).2
  refine ⟨row, st, accounts', transactions, adminAudits, a.id, hrow, hpend,
    WithdrawalStatus.ofReview_ne_pending hst, hle, hmoved.fetched htaken, hins, ?_⟩
  simp only [hid]

end Desktop2Stereo
