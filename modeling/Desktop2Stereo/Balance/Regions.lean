import Desktop2Stereo.Balance.Ledger
import Desktop2Stereo.Order.Terms

/-!
# Balances and regions

A user's money is in the currency of the user's region: what comes in is checked against the region, and the region
changes only while there is no money. A reward that is reversed is taken back in its own currency, wherever the
inviter is by then.

* `RegionMove`, **`regionMove`**: what a transaction does to the regions;
* `InRegion`: money only in the currency of the region; `InRegion.moved`, `InRegion.locked`, …: what keeps it;
* **`balances_in_region`**.
-/

namespace Desktop2Stereo

open Relational GoText

/-! ## Who changes a region -/

/-- What a committed transaction does to the regions. -/
inductive RegionMove (t : Trans) (db db' : DB) : Prop
  | same : (∀ u, regionOf db'.profiles u = regionOf db.profiles u) → RegionMove t db db'
  /-- a first payment sets the region of the buyer -/
  | locked {order : D2SOrder} : RegionLocked order db.profiles db'.profiles → RegionMove t db db'
  | moved {e adminID userID region now audit} : t = .request (.setUserRegion e adminID userID region now audit) →
      RegionSet userID db db'.profiles → RegionMove t db db'

section Moves

variable {e : Env} {order : D2SOrder} {now : ℤ} {db db' : DB} {t : Trans}

theorem OrderTx.regions (h : OrderTx t db db') : RegionMove t db db' := by
  cases h with
  | placedPaid ht hk hnone hsets hshare hpaid =>
    obtain ⟨_, _, _, _, _, _, _, _, _, rfl⟩ := hpaid.frame
    exact .same fun _ => rfl
  | paid ht hrow hsets hlock hpaid =>
    obtain ⟨_, _, _, _, _, _, _, _, _, rfl⟩ := hpaid.frame
    exact .locked hlock
  | _ => exact .same fun _ => rfl

/-- **What a committed transaction does to the regions.** -/
theorem regionMove [Digest] (h : t.tx.run db = .ok ((), db')) : RegionMove t db db' := by
  cases moneyTx h with
  | quiet hq => exact .same hq.regions
  | createRefund hr =>
    obtain ⟨_, -, rfl⟩ := createD2SAlipayRefund_ok hr
    exact .same fun _ => rfl
  | setUserRegion hr =>
    obtain ⟨_, _, hset, rfl⟩ := setD2SUserRegion_ok hr
    exact .moved rfl hset
  | commitOrder hr => exact (commitOrder_orderTx hr).regions
  | paymentEvent hr => exact (paymentEvent_orderTx hr).regions
  | expireOrder hr => exact (expireOrder_orderTx hr).regions
  | completeRefund hr => exact (completeRefund_orderTx hr).regions
  | commitWithdrawal hr =>
    obtain ⟨_, _, _, _, -, -, -, -, -, -, -, -, rfl⟩ := commitD2SWithdrawal_ok hr
    exact .same fun _ => rfl
  | reviewWithdrawal hr =>
    obtain ⟨_, _, _, _, _, _, -, -, -, -, -, -, rfl⟩ := reviewD2SWithdrawal_ok hr
    exact .same fun _ => rfl

theorem RegionMove.changed (h : RegionMove t db db') {u : ℤ} {region : Region}
    (hregion : regionOf db.profiles u = some region) (hne : regionOf db'.profiles u ≠ some region) :
    (∃ e adminID name now audit, t = .request (.setUserRegion e adminID u name now audit)) ∧
      RegionSet u db db'.profiles := by
  cases h with
  | same hsame => exact absurd ((hsame u).trans hregion) hne
  | @locked order hlock =>
    refine absurd ?_ hne
    rw [hlock.regions]
    split_ifs with hu
    · rcases hlock.before with hb | hb <;> rw [← hu, hregion] at hb
      · cases hb
      · exact hb.symm
    · exact hregion
  | @moved e adminID userID name now audit ht hset =>
    by_cases hu : u = userID
    · subst hu
      exact ⟨⟨e, adminID, name, now, audit, ht⟩, hset⟩
    · exact absurd ((hset.regions u hu).trans hregion) hne

end Moves

/-! ## Money in the currency of the region -/

def RegionCurrency (profiles : Table D2SUserProfile) (userID : ℤ) (currency : Currency) : Prop :=
  (regionOf profiles userID).map d2sCurrencyForRegion = some currency

instance (profiles : Table D2SUserProfile) (userID : ℤ) (currency : Currency) :
    Decidable (RegionCurrency profiles userID currency) := by
  unfold RegionCurrency; infer_instance

/-- Users have money in the currency of their region only. -/
def InRegion (accounts : Table D2SBalanceAccount) (profiles : Table D2SUserProfile) : Prop :=
  ∀ u c, fundsOf accounts u c ≠ 0 ∨ reservedOf accounts u c ≠ 0 → RegionCurrency profiles u c

section InRegion

variable {accounts accounts' : Table D2SBalanceAccount} {profiles profiles' : Table D2SUserProfile}
  {e : Env} {order : D2SOrder} {now : ℤ} {db db' : DB} {t : Trans}

theorem InRegion.moved (h : InRegion accounts profiles) {id : String} {u : ℤ} {c : Currency} {available reserved : ℤ}
    (hm : AccountsMoved accounts accounts' id u c available reserved)
    (hc : available ≠ 0 ∨ reserved ≠ 0 → RegionCurrency profiles u c) : InRegion accounts' profiles := by
  intro u' c' hne
  rw [hm.funds_eq, hm.reserved_eq] at hne
  by_cases hk : (u' = u ∧ c' = c) ∧ (available ≠ 0 ∨ reserved ≠ 0)
  · rw [hk.1.1, hk.1.2]
    exact hc hk.2
  · refine h u' c' ?_
    by_cases hown : u' = u ∧ c' = c
    · rw [if_pos hown, if_pos hown] at hne
      have hzero : available = 0 ∧ reserved = 0 := by
        have hno : ¬ (available ≠ 0 ∨ reserved ≠ 0) := fun hz => hk ⟨hown, hz⟩
        rwa [not_or, not_not, not_not] at hno
      rwa [hzero.1, hzero.2, add_zero, add_zero] at hne
    · rwa [if_neg hown, if_neg hown, add_zero, add_zero] at hne

theorem InRegion.locked (h : InRegion accounts profiles) (hl : RegionLocked order profiles profiles') :
    InRegion accounts profiles' := by
  intro u c hne
  have hc := h u c hne
  unfold RegionCurrency at hc ⊢
  rw [hl.regions]
  split_ifs with hu
  · rw [hu] at hc
    rcases hl.before with hb | hb <;> rw [hb] at hc
    · cases hc
    · exact hc
  · exact hc

theorem InRegion.congr (h : InRegion accounts profiles) (hr : ∀ u, regionOf profiles' u = regionOf profiles u) :
    InRegion accounts profiles' := by
  intro u c hne
  rw [RegionCurrency, hr]
  exact h u c hne

theorem InRegion.regionSet {userID : ℤ} (h : InRegion db.accounts db.profiles) (hs : RegionSet userID db profiles') :
    InRegion db.accounts profiles' := by
  intro u c hne
  by_cases hu : u = userID
  · refine absurd hne ?_
    rw [not_or, not_not, not_not, hu]
    have hown : ∀ v : D2SBalanceAccount → ℤ, (∀ a ∈ db.accounts.rows, a.userID = userID → v a = 0) →
        db.accounts.sum (fun a => a.userID = userID ∧ a.currency = c) v = 0 := by
      intro v hv
      refine List.sum_eq_zero fun x hx => ?_
      obtain ⟨a, ha, rfl⟩ := List.mem_map.mp hx
      split_ifs with hk
      · exact hv a ha (of_decide_eq_true hk).1
      · rfl
    exact ⟨hown _ fun a ha hk => (hs.accounts a ha hk).1, hown _ fun a ha hk => (hs.accounts a ha hk).2⟩
  · rw [RegionCurrency, hs.regions u hu]
    exact h u c hne

variable {transactions : Table D2SBalanceTransaction} {rewards : Table D2SInviteReward}

theorem InRegion.settle (h : InRegion db.accounts profiles) {consume : Bool}
    (hset : ShareSettled e order consume now db accounts transactions) : InRegion accounts profiles := by
  cases hset with
  | none hz ha => exact ha ▸ h
  | posted hpos hle hm => exact h.moved hm fun _ => h _ _ (.inr (by omega))

theorem InRegion.reserve (h : InRegion db.accounts profiles) {p : PreparedOrder}
    (hres : ShareReserved e p db accounts transactions) : InRegion accounts profiles := by
  cases hres with
  | none hz ha => exact ha ▸ h
  | posted hpos hle hm => exact h.moved hm fun _ => h _ _ (.inl (by omega))

theorem OrderPaid.inRegion (hpaid : OrderPaid e order now db db') (h : InRegion db.accounts db.profiles)
    (hcurrency : order.currency = d2sCurrencyForRegion order.region) : InRegion db'.accounts db'.profiles := by
  have hkept : db'.profiles = db.profiles := by
    obtain ⟨_, _, _, _, _, _, _, _, _, rfl⟩ := hpaid.frame
    rfl
  rw [hkept]
  cases hpaid with
  | @intro _ db1 _ _ _ hpend hrow hdel hsets hshare =>
    have hdel' : InRegion db1.accounts db.profiles := by
      cases hdel with
      | license hp hins hev hv haward =>
        cases haward with
        | none ha => exact ha ▸ h
        | @credited r p id horder hinvitee hc hamount hstatus hp hu hregion hacc hm =>
          refine h.moved hm fun _ => ?_
          have hget : db.profiles.get? r.inviterUserID = some p := Table.get?_eq_some.mpr ⟨hp, hu⟩
          rw [RegionCurrency, regionOf, hget, Option.bind_some, hregion, Option.map_some, hc, hcurrency]
      | paidRevoke | offlineExtension => exact h
    exact hdel'.settle hshare

/-- A reward that is reversed now is in the currency of the inviter's region. -/
def ReversalsInRegion (db db' : DB) : Prop :=
  ∀ r ∈ db.rewards.rows, r.status = .credited → (∃ r' ∈ db'.rewards.rows, r'.id = r.id ∧ r'.status = .reversed) →
    RegionCurrency db.profiles r.inviterUserID r.currency

instance (db db' : DB) : Decidable (ReversalsInRegion db db') := by
  unfold ReversalsInRegion; infer_instance

theorem InRegion.reverse (hrev : Reversed e order now db accounts transactions rewards)
    (h : InRegion db.accounts db.profiles)
    (hregion : ∀ r ∈ db.rewards.rows, r.status = .credited → (∃ r' ∈ rewards.rows, r'.id = r.id ∧ r'.status = .reversed) →
      RegionCurrency db.profiles r.inviterUserID r.currency) : InRegion accounts db.profiles := by
  cases hrev with
  | none hnone ha => exact ha ▸ h
  | @reversed r id hr horder hcredited hacc hm hins hset =>
    exact h.moved hm fun _ => hregion r hr hcredited ⟨r.revoked, hset.mem.mpr (.inl rfl), rfl, rfl⟩

/-! ## Transactions -/

theorem OrderTx.inRegion (htx : OrderTx t db db') (h : InRegion db.accounts db.profiles)
    (hcurrency : ∀ oid o, db.orders.get? oid = some o → o.currency = d2sCurrencyForRegion o.region)
    (hcommit : ∀ e p, t = .commitOrder e p → p.quote.currency = d2sCurrencyForRegion p.quote.region)
    (hrev : ReversalsInRegion db db') : InRegion db'.accounts db'.profiles := by
  cases htx with
  | idle | refunded => exact h
  | placed ht hk hnone hsets hshare => exact h.reserve hshare
  | @placedPaid e p _ _ _ _ _ _ ht hk hnone hsets hshare hpaid =>
    exact hpaid.inRegion (h.reserve hshare) (hcommit e p ht)
  | paid ht hrow hsets hlock hpaid =>
    have hc := hcurrency _ _ hrow
    exact hpaid.inRegion (h.locked hlock) hc
  | canceled hrow hpend hsets hshare => exact h.settle hshare
  | chargedBack hrow hpaid hcase hsets hreversed =>
    have hreversed' := InRegion.reverse hreversed h hrev
    exact hreversed'

/-- **A transaction keeps money in the currency of the region**, if its reversals are in the region. -/
theorem inRegion_tx [Digest] (hI : InRegion db.accounts db.profiles) (hB : Books db 0)
    (hcurrency : ∀ oid o, db.orders.get? oid = some o → o.currency = d2sCurrencyForRegion o.region)
    (hcommit : ∀ e p, t = .commitOrder e p → p.quote.currency = d2sCurrencyForRegion p.quote.region)
    (h : t.tx.run db = .ok ((), db')) (hrev : ReversalsInRegion db db') : InRegion db'.accounts db'.profiles := by
  cases moneyTx h with
  | quiet hq =>
    rw [hq.accounts]
    exact hI.congr hq.regions
  | createRefund hr =>
    obtain ⟨_, -, rfl⟩ := createD2SAlipayRefund_ok hr
    exact hI
  | setUserRegion hr =>
    obtain ⟨_, _, hset, rfl⟩ := setD2SUserRegion_ok hr
    exact hI.regionSet hset
  | commitOrder hr => exact (commitOrder_orderTx hr).inRegion hI hcurrency hcommit hrev
  | paymentEvent hr => exact (paymentEvent_orderTx hr).inRegion hI hcurrency hcommit hrev
  | expireOrder hr => exact (expireOrder_orderTx hr).inRegion hI hcurrency hcommit hrev
  | completeRefund hr => exact (completeRefund_orderTx hr).inRegion hI hcurrency hcommit hrev
  | @commitWithdrawal e p w hr =>
    obtain ⟨accounts, _, _, _, hle, hm, -, -, -, -, -, -, rfl⟩ := commitD2SWithdrawal_ok hr
    have hnn := p.amount_nonneg
    exact hI.moved hm fun hne => hI _ _ (.inl (by omega))
  | reviewWithdrawal hr =>
    obtain ⟨row, _, _, _, _, _, hrow, -, -, hle, hm, -, hdb⟩ := reviewD2SWithdrawal_ok hr
    have hnn := hB.withdrawal_nonneg row (Table.get?_eq_some.mp hrow).1
    rw [hdb]
    refine hI.moved hm fun hne => hI _ _ (.inr ?_)
    split_ifs at hne <;> omega

end InRegion

/-! ## Runs -/

section Runs

variable [Digest]

/-- Every reward that the operation reverses is in the currency of the inviter's region. -/
def ReversesInRegion (s : State) (op : Op) : Prop := ReversalsInRegion s.db (step s op).db

instance (s : State) (op : Op) : Decidable (ReversesInRegion s op) := by
  unfold ReversesInRegion; infer_instance

/-- Money is in the currency of the region, and the books and the orders are as they should be. -/
structure MoneyInRegion (s : State) : Prop where
  books : Books s.db 0
  placed : Placed s
  inRegion : InRegion s.db.accounts s.db.profiles

theorem moneyInRegion_step {s : State} (h : MoneyInRegion s) {op : Op} (hop : ReversesInRegion s op) :
    MoneyInRegion (step s op) := by
  refine ⟨step_db h.books fun t _ db' hr => books_tx h.books hr, placed_step h.placed op, ?_⟩
  unfold ReversesInRegion at hop
  rcases step_trans s op with heq | ⟨t, ht, hr⟩
  · rw [heq]
    exact h.inRegion
  · refine inRegion_tx h.inRegion h.books (fun _ _ ho => h.placed.currency ho) (fun e p heq => ?_) hr hop
    subst heq
    exact (h.placed.prepared p (runs_commitOrder ht)).currency

end Runs

/-- User 1 invites user 2, who buys a licence in China; user 1 withdraws the reward. -/
def sampleWithdrawn : List Op :=
  sampleAlipay 1 1 ++ [.request (.setUser { id := 2, email := "friend@d2s", emailVerifiedAt := 1, inviterId := 1 })] ++
    sampleAlipay 2 2 ++
    [.prepareWithdrawal (.sample 3) 1 1000 "account" "name" 1000, .commitWithdrawal (.sample 3) 0,
      .request (.reviewWithdrawal (.sample 4) 1 "request-3" "paid" "" 1000 none)]

/-- The order of user 2 is charged back. -/
def sampleReversal : Op :=
  .request (.paymentEvent (.sample 6)
    { PaymentNotice.sample 2 9900 1000 with
      provider := "alipay_pc", currency := "CNY", eventID := "notice-6", eventType := "chargeback" })

end Desktop2Stereo
