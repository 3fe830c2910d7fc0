import Desktop2Stereo.Order.Fulfilment
import Desktop2Stereo.Order.Terms

/-!
# The quota of paid revokes

A paid revoke is numbered when it is quoted and counted when it is fulfilled, perhaps in another month.

* `Claimed`, `claimed_run`: a pending paid revoke holds the key of its licence; `RevokePrice`, `revoke_priced`;
* **`paid_revoke_quota`**: numbers, quota, prices and pending orders of a licence.
-/

namespace Desktop2Stereo

open Relational GoText List Table

/-! ## Counting -/

/-- The order is a paid revoke of the licence that was fulfilled in the month. -/
def D2SOrder.revokes (o : D2SOrder) (id : String) (month : Month) : Prop :=
  o.product = .paidRevoke ∧ o.licenseID = id ∧ utcMonth o.completedAt = month

instance (o : D2SOrder) (id : String) (month : Month) : Decidable (o.revokes id month) := by
  unfold D2SOrder.revokes; infer_instance

def revokesOf (id : String) (month : Month) (h : List D2SOrder) : List D2SOrder := h.filter (·.revokes id month)

theorem D2SOrder.revokes_asPaid {o r : D2SOrder} {id : String} {month : Month} (h : r.asPaid = o.asPaid)
    (hr : r.revokes id month) : o.revokes id month := by
  have hpaid : r.asPaid.revokes id month := hr
  rw [h] at hpaid
  exact hpaid

/-- The paid revokes of the licence in the month are numbered from 1 on, and the quota counts them. -/
structure Counted (id : String) (month : Month) (db : DB) (h : List D2SOrder) : Prop where
  numbers : (revokesOf id month h).map D2SOrder.revokeNumber =
    (List.range' 1 (revokesOf id month h).length).map Nat.cast
  used : db.usedCount id month = (revokesOf id month h).length
  le : (revokesOf id month h).length ≤ 3

section Counting

variable {t : Trans} {e : Env} {order o : D2SOrder} {now : ℤ} {db db' : DB} {id : String} {month : Month}
  {h : List D2SOrder}

theorem usedCount_congr (hq : db'.quotas = db.quotas) : db'.usedCount id month = db.usedCount id month := by
  rw [DB.usedCount, hq, DB.usedCount]

theorem Delivery.usedCount (hd : Delivery e order now db o db')
    (hne : ¬ (order.product = .paidRevoke ∧ order.licenseID = id ∧ utcMonth now = month)) :
    db'.usedCount id month = db.usedCount id month := by
  cases hd with
  | license => rfl
  | paidRevoke hp hl hu hm hq =>
    rw [DB.usedCount, hq.quota, if_neg, DB.usedCount]
    intro hk
    exact hne ⟨hp, (Prod.mk.inj hk).1, (Prod.mk.inj hk).2⟩
  | offlineExtension => rfl

theorem Delivery.counts (hd : Delivery e order now db o db') (hp : order.product = .paidRevoke) :
    db.usedCount order.licenseID (utcMonth now) + 1 = order.revokeNumber ∧ order.revokeNumber ≤ 3 ∧
      db'.usedCount order.licenseID (utcMonth now) = order.revokeNumber := by
  cases hd with
  | license hp' | offlineExtension hp' => rw [hp] at hp'; cases hp'
  | paidRevoke _ hl hu hm hq =>
    refine ⟨hq.number, hq.le, ?_⟩
    rw [DB.usedCount, hq.quota, if_pos rfl]
    rfl

theorem Counted.fulfils (hI : Counted id month db h) (hf : Fulfils t e order now db db') :
    Counted id month db' (h ++ [(order.assigned e.licenseID.val).paidAt now]) := by
  obtain ⟨db0, o, db1, hdel, hbefore, hafter⟩ := hf.delivery
  have hbefore' : db0.usedCount id month = db.usedCount id month := usedCount_congr (congrArg Licensing.quotas hbefore)
  have hafter' : db'.usedCount id month = db1.usedCount id month := usedCount_congr (congrArg Licensing.quotas hafter)
  by_cases hrev : ((order.assigned e.licenseID.val).paidAt now).revokes id month
  · have hp : order.product = .paidRevoke := (D2SOrder.assigned_product _ _).symm.trans hrev.1
    have hassign : order.assigned e.licenseID.val = order := if_neg (by rw [hp]; decide)
    rw [hassign] at hrev ⊢
    obtain ⟨hnumber, _, hcount⟩ := hdel.counts hp
    have hid : order.licenseID = id := hrev.2.1
    have hmonth : utcMonth now = month := hrev.2.2
    rw [hid, hmonth, hbefore', hI.used] at hnumber
    rw [hid, hmonth, ← hafter'] at hcount
    -- the list grows by one, and so do the numbers and the count
    have hgrow : revokesOf id month (h ++ [order.paidAt now]) = revokesOf id month h ++ [order.paidAt now] := by
      simp [revokesOf, hrev]
    refine ⟨?_, ?_, ?_⟩
    · rw [hgrow, map_append, hI.numbers, length_append, length_singleton, List.range'_1_concat,
        map_append, map_singleton, map_singleton]
      congr 2
      show order.revokeNumber = _
      push_cast
      omega
    · rw [hgrow, hcount, length_append, length_singleton]
      push_cast
      omega
    · rw [hgrow, length_append, length_singleton]
      omega
  · have hkeep : revokesOf id month (h ++ [(order.assigned e.licenseID.val).paidAt now]) = revokesOf id month h := by
      simp [revokesOf, hrev]
    have hsame : db'.usedCount id month = db.usedCount id month := by
      rw [hafter', hdel.usedCount, hbefore']
      intro hc
      have hassign : order.assigned e.licenseID.val = order := if_neg (by rw [hc.1]; decide)
      rw [hassign] at hrev
      exact hrev hc
    exact ⟨by rw [hkeep]; exact hI.numbers, by rw [hkeep, hsame]; exact hI.used, by rw [hkeep]; exact hI.le⟩

theorem counted_tx [Digest] (hI : Counted id month db h) (hr : t.tx.run db = .ok ((), db')) :
    Counted id month db' (h ++ newlyPaid db db') := by
  rcases newlyPaid_tx hr with ⟨hnil, hquotas⟩ | ⟨e, _, _, hf, heq⟩
  · rw [hnil, append_nil]
    exact ⟨hI.numbers, (usedCount_congr hquotas).trans hI.used, hI.le⟩
  · rw [heq]
    exact hI.fulfils hf

end Counting

/-! ## Pending paid revokes -/

def Claimed (db : DB) : Prop :=
  ∀ oid o, db.orders.get? oid = some o → o.product = .paidRevoke → o.status = .pending → o.pendingKey = some o.licenseID

theorem OrderMove.claimed {t : Trans} {o : Option D2SOrder} {o' : D2SOrder} {δ : Trace} (h : OrderMove t o δ (some o'))
    (hI : ∀ o0, o = some o0 → o0.product = .paidRevoke → o0.status = .pending → o0.pendingKey = some o0.licenseID)
    (hp : o'.product = .paidRevoke) (hs : o'.status = .pending) : o'.pendingKey = some o'.licenseID := by
  cases h with
  | same => exact hI o' rfl hp hs
  | placed ht hk => exact hk hp
  | placedPaid ht ho => rw [ho] at hs; cases hs
  | paid | canceled | chargedBack => cases hs
  | refunded hpaid => cases hpaid.symm.trans hs

theorem claimed_run [Digest] (users : Table User) (options : Table OptionRow) (controls : Table D2SUserSecurityControl)
    (ops : List Op) : Claimed (run (.init users options controls) ops).db := by
  refine run_db (fun t db db' hI hr oid o ho => ?_) (fun oid o ho => ?_) ops
  · obtain ⟨δ, hmove, -⟩ := orderMove hr oid
    rw [ho] at hmove
    exact hmove.claimed (hI oid)
  · cases ho

/-! ## Prices -/

def RevokePrice (currency : Currency) (revokeNumber amountMinor : ℤ) : Prop :=
  ∀ e db, (d2sProductPrice e .paidRevoke currency revokeNumber).run db = .ok (amountMinor, db)

theorem revokePrice_of_ok {e : Env} {currency : Currency} {revokeNumber amountMinor : ℤ} {db db' : DB}
    (h : (d2sProductPrice e .paidRevoke currency revokeNumber).run db = .ok (amountMinor, db')) :
    RevokePrice currency revokeNumber amountMinor := by
  intro e' db''
  cases currency <;> simp only [d2sProductPrice, run_attempt_ok] at h ⊢ <;> exact ⟨h.1, trivial⟩

theorem Placed.revoke_priced {s : State} (h : Placed s) {oid : String} {o : D2SOrder}
    (ho : s.db.orders.get? oid = some o) (hp : o.product = .paidRevoke) :
    RevokePrice o.currency o.revokeNumber o.amountMinor := by
  obtain ⟨p, id, ⟨e, _, _, hquote⟩, hterms⟩ := h.orders oid o ho
  have hproduct : (p.order id).terms.product = .paidRevoke := by
    rw [← hterms]
    exact hp
  have hprice := quoteD2SOrderTx_price hquote
  rw [show p.quote.product = .paidRevoke from hproduct] at hprice
  have hrevoke : RevokePrice (p.order id).terms.currency (p.order id).terms.revokeNumber (p.order id).terms.amountMinor :=
    revokePrice_of_ok hprice
  rw [← hterms] at hrevoke
  exact hrevoke

/-! ## The quota -/

/-- **The monthly quota of paid revokes.** For every licence and month, the paid revokes of the licence that were
fulfilled in the month have the numbers `1, …, k` in the order of their fulfilment, `k ≤ 3`, and the stored quota
is `k`; they are the fulfilled paid revokes of the table. Every paid revoke has the price of its own number, and
no two of the licence are pending. -/
theorem paid_revoke_quota [Digest] (users : Table User) (options : Table OptionRow)
    (controls : Table D2SUserSecurityControl) (ops : List Op) (id : String) (month : Month) :
    let db := (run (.init users options controls) ops).db
    let revokes := revokesOf id month (fulfilments (.init users options controls) ops)
    (revokes.map D2SOrder.revokeNumber = (List.range' 1 revokes.length).map Nat.cast ∧ revokes.length ≤ 3 ∧
      db.usedCount id month = revokes.length) ∧
    ((∀ o ∈ revokes, ∃ r ∈ db.orders.rows, r.fulfilled ∧ r.asPaid = o.asPaid) ∧
      ∀ r ∈ db.orders.rows, r.fulfilled → r.revokes id month → ∃ o ∈ revokes, r.asPaid = o.asPaid) ∧
    (∀ o ∈ db.orders.rows, o.product = .paidRevoke → RevokePrice o.currency o.revokeNumber o.amountMinor) ∧
    ∀ o ∈ db.orders.rows, ∀ o' ∈ db.orders.rows, o.product = .paidRevoke ∧ o.status = .pending →
      o'.product = .paidRevoke ∧ o'.status = .pending → o.licenseID = id → o'.licenseID = id → o = o' := by
  intro db revokes
  have hcount : Counted id month db _ :=
    fulfilments_run (fun _ _ _ _ => counted_tx) ⟨rfl, rfl, Nat.zero_le 3⟩ ops
  have hrec : Recorded db _ :=
    fulfilments_run (fun _ _ _ _ => recorded_tx) ⟨fun _ ho => (by cases ho), fun _ _ hr => (by cases hr)⟩ ops
  refine ⟨⟨hcount.numbers, hcount.le, hcount.used⟩, ⟨fun o ho => ?_, fun r hr hful hrev => ?_⟩, fun o ho hp => ?_, ?_⟩
  · obtain ⟨r, hget, hful, heq⟩ := hrec.stored o (mem_filter.mp ho).1
    exact ⟨r, (get?_eq_some.mp hget).1, hful, heq⟩
  · obtain ⟨o, ho, heq⟩ := hrec.listed _ r (get?_pk hr) hful
    exact ⟨o, mem_filter.mpr ⟨ho, decide_eq_true (D2SOrder.revokes_asPaid heq hrev)⟩, heq⟩
  · exact (placed_run users options controls ops).revoke_priced (get?_pk ho) hp
  · intro o ho o' ho' hp hp' hid hid'
    have hk := claimed_run users options controls ops _ o (get?_pk ho) hp.1 hp.2
    have hk' := claimed_run users options controls ops _ o' (get?_pk ho') hp'.1 hp'.2
    refine db.orders.eq_of_clash ho ho' (.inr (.inr ⟨?_, ?_⟩))
    · show o.pendingKey ≠ none
      rw [hk]
      exact Option.some_ne_none _
    · show o.pendingKey = o'.pendingKey
      rw [hk, hk', hid, hid']

end Desktop2Stereo
