import Desktop2Stereo.Model.Billing
import Desktop2Stereo.Subscription.Usage

/-!
# Operations on subscriptions that run alone

* **`postConsume_ok`**, `postConsume_cases`: a delta within the bounds is applied in full;
* **`refund_ok`**: a refund gives back what was consumed in advance, once;
* **`preConsume_eq_ok`**: a fresh request consumes its amount from one subscription.
-/

namespace Desktop2Stereo

open Relational Concurrent GoText

variable {db : SubscriptionDB} {sub : UserSubscription} {s s' : BillingStore} {requestId : String} {id delta : ℤ}

/-! ## Rows -/

theorem get?_save (h : (db.subscriptions.get? sub.id).isSome) : (db.save sub).subscriptions.get? sub.id = some sub := by
  have hget := Table.get?_modify_pk (f := fun r : UserSubscription => { sub with id := r.id }) (h := fun _ => by rfl)
    db.subscriptions sub.id (fun r => decide_eq_true_iff) sub.id
  obtain ⟨r, hr⟩ := Option.isSome_iff_exists.mp h
  have hid : r.id = sub.id := (Table.get?_eq_some.mp hr).2
  refine hget.trans ?_
  rw [if_pos rfl, hr, Option.map_some, hid]

theorem isSome_save (h : (db.subscriptions.get? id).isSome) : ((db.save sub).subscriptions.get? id).isSome := by
  have hget := Table.get?_modify_pk (f := fun r : UserSubscription => { sub with id := r.id }) (h := fun _ => by rfl)
    db.subscriptions sub.id (fun r => decide_eq_true_iff) id
  rw [show (db.save sub).subscriptions.get? id = _ from hget]
  split_ifs
  · rw [Option.isSome_map]
    exact h
  · exact h

/-! ## Deltas -/

/-- The row of a subscription has a used amount within its total. -/
def SubscriptionDB.Uses (db : SubscriptionDB) (id used : ℤ) : Prop :=
  0 < id ∧ ∃ sub, db.subscriptions.get? id = some sub ∧ sub.amountUsed = used ∧ (0 < sub.amountTotal → used ≤ sub.amountTotal)

theorem applyDelta_cases (requestId : String) {used : ℤ} (h : db.Uses id used) (hnonneg : 0 ≤ used + delta) :
    (∃ e, applyDelta requestId id delta db = (.error e, db)) ∨
      ∃ db', applyDelta requestId id delta db = (.ok (), db') ∧ db'.Uses id (used + delta) ∧
        db'.preConsumeRecords = db.preConsumeRecords := by
  obtain ⟨hpos, sub, hsub, rfl, _⟩ := h
  have hid : sub.id = id := (Table.get?_eq_some.mp hsub).2
  unfold applyDelta
  rw [hsub]
  dsimp only
  rw [if_neg (not_lt.mpr hnonneg)]
  split
  next hexceeds => exact .inl ⟨_, rfl⟩
  next hfits =>
    refine .inr ⟨_, rfl, ⟨hpos, { sub with amountUsed := sub.amountUsed + delta }, ?_, rfl, fun ht => ?_⟩, rfl⟩
    · subst hid
      exact get?_save (by rw [hsub]; rfl)
    · exact not_lt.mp fun hc => hfits ⟨ht, hc⟩

theorem applyDelta_ok (requestId : String) {used : ℤ} (h : db.Uses id used) (hnonneg : 0 ≤ used + delta) (hneg : delta ≤ 0) :
    ∃ db', applyDelta requestId id delta db = (.ok (), db') ∧ db'.Uses id (used + delta) ∧
      db'.preConsumeRecords = db.preConsumeRecords := by
  rcases applyDelta_cases requestId h hnonneg with ⟨e, he⟩ | hok
  · obtain ⟨_, _, hsub, rfl, htotal⟩ := h
    unfold applyDelta at he
    rw [hsub] at he
    dsimp only at he
    rw [if_neg (not_lt.mpr hnonneg), if_neg] at he
    · cases he
    · rintro ⟨ht, _⟩
      have := htotal ht
      omega
  · exact hok

theorem exec_postConsume {ρ : Type} (k : Except SubscriptionErr Unit → Process SubscriptionDB Unit ρ) (hpos : 0 < id)
    (hd : delta ≠ 0) : (postConsumeUserSubscriptionDelta requestId id delta k).exec db =
      (k (applyDelta requestId id delta db).1).exec (applyDelta requestId id delta db).2 := by
  unfold postConsumeUserSubscriptionDelta
  rw [if_neg (not_le.mpr hpos), if_neg hd]
  rfl

theorem postConsume_zero (hpos : 0 < id) : s.postConsume requestId id 0 = .ok s := by
  unfold BillingStore.postConsume postConsumeUserSubscriptionDelta
  rw [if_neg (not_le.mpr hpos), if_pos rfl]
  rfl

theorem postConsume_cases (requestId : String) {used : ℤ} (h : s.subs.Uses id used) (hnonneg : 0 ≤ used + delta) :
    (∃ e, s.postConsume requestId id delta = .error e) ∨
      ∃ subs, s.postConsume requestId id delta = .ok { s with subs } ∧ subs.Uses id (used + delta) ∧
        subs.preConsumeRecords = s.subs.preConsumeRecords := by
  by_cases hd : delta = 0
  · subst hd
    exact .inr ⟨s.subs, postConsume_zero h.1, by rwa [add_zero], rfl⟩
  · unfold BillingStore.postConsume
    rw [exec_postConsume _ h.1 hd]
    rcases applyDelta_cases requestId h hnonneg with ⟨e, he⟩ | ⟨db', he, hu, hrec⟩
    · rw [he]
      exact .inl ⟨e, rfl⟩
    · rw [he]
      exact .inr ⟨db', rfl, hu, hrec⟩

/-- **A delta that gives back at most what is used is applied in full.** -/
theorem postConsume_ok (requestId : String) {used : ℤ} (h : s.subs.Uses id used) (hnonneg : 0 ≤ used + delta)
    (hneg : delta ≤ 0) :
    ∃ subs, s.postConsume requestId id delta = .ok { s with subs } ∧ subs.Uses id (used + delta) ∧
      subs.preConsumeRecords = s.subs.preConsumeRecords := by
  by_cases hd : delta = 0
  · subst hd
    exact ⟨s.subs, postConsume_zero h.1, by rwa [add_zero], rfl⟩
  · unfold BillingStore.postConsume
    rw [exec_postConsume _ h.1 hd]
    obtain ⟨db', he, hu, hrec⟩ := applyDelta_ok requestId h hnonneg hneg
    rw [he]
    exact ⟨db', rfl, hu, hrec⟩

/-! ## Refunds -/

/-- **A refund gives back what the request consumed in advance.** -/
theorem refund_ok {record : SubscriptionPreConsumeRecord} {used : ℤ} (hname : trimSpace requestId ≠ "")
    (hrec : s.subs.preConsumeRecords.get? requestId = some record) (hstatus : record.status = .consumed)
    (hpos : 0 < record.preConsumed) (h : s.subs.Uses record.userSubscriptionId used) (hle : record.preConsumed ≤ used) :
    ∃ subs, s.refundWithRetry requestId 3 = { s with subs } ∧
      subs.Uses record.userSubscriptionId (used - record.preConsumed) := by
  obtain ⟨db', he, hu, _⟩ := applyDelta_ok requestId h (show 0 ≤ used + -record.preConsumed by omega) (by omega)
  have hexec : (refundSubscriptionPreConsume requestId Process.done).exec s.subs =
      (some (.ok ()), (markRefunded requestId db').2) := by
    unfold refundSubscriptionPreConsume
    rw [if_neg hname, exec_observe_bind, hrec]
    dsimp only
    rw [if_neg (by rw [hstatus]; decide), if_neg (not_le.mpr hpos)]
    refine (exec_postConsume _ h.1 (by omega)).trans ?_
    rw [he]
    rfl
  unfold BillingStore.refundWithRetry
  rw [hexec]
  exact ⟨_, rfl, hu⟩

/-! ## Consumption in advance -/

section Consumption

variable [Calendar] {userId now amount : ℤ} {r : SubscriptionPreConsumeResult} {db' : SubscriptionDB}

omit [Calendar] in
theorem saveReset_frame (db : SubscriptionDB) (reset : Bool) (sub : UserSubscription) :
    (db.saveReset reset sub).preConsumeRecords = db.preConsumeRecords ∧
      ∀ id, (db.subscriptions.get? id).isSome → ((db.saveReset reset sub).subscriptions.get? id).isSome := by
  unfold SubscriptionDB.saveReset
  split_ifs <;> exact ⟨rfl, fun _ h => isSome_save h⟩

structure Consumed (requestId : String) (userId amount : ℤ) (r : SubscriptionPreConsumeResult) (db : SubscriptionDB) : Prop where
  preConsumed : r.preConsumed = amount
  le_used : amount ≤ r.amountUsedAfter
  uses : db.Uses r.userSubscriptionId r.amountUsedAfter
  record : db.preConsumeRecords.get? requestId = some ⟨requestId, userId, r.userSubscriptionId, amount, .consumed⟩

theorem consumeFrom_eq_ok {candidates : List UserSubscription}
    (h : consumeFrom requestId userId now amount candidates db = .ok (r, db'))
    (hfresh : db.preConsumeRecords.get? requestId = none)
    (hc : ∀ c ∈ candidates, 0 < c.id ∧ 0 ≤ c.amountUsed ∧ (db.subscriptions.get? c.id).isSome) :
    Consumed requestId userId amount r db' := by
  induction candidates generalizing db with
  | nil => cases h
  | cons candidate rest ih =>
    obtain ⟨hpos, hused, hsome⟩ := hc candidate List.mem_cons_self
    unfold consumeFrom at h
    split at h
    · cases h
    split at h
    · cases h
    next reset sub hreset =>
      obtain ⟨hid, hsub⟩ := maybeReset_cases hreset
      obtain ⟨hrec, hrows⟩ := saveReset_frame db reset sub
      have hsub0 : 0 ≤ sub.amountUsed := by
        rw [hsub]
        split_ifs
        · exact le_rfl
        · exact hused
      dsimp only at h
      split at h
      · refine ih h (hrec ▸ hfresh) fun c hm => ?_
        obtain ⟨hp, hu, hs⟩ := hc c (List.mem_cons_of_mem _ hm)
        exact ⟨hp, hu, hrows _ hs⟩
      next hfits =>
        split at h
        next records hins =>
          cases h
          refine ⟨rfl, by dsimp only; omega, ⟨hid ▸ hpos, { sub with amountUsed := sub.amountUsed + amount }, ?_, rfl, ?_⟩, ?_⟩
          · exact get?_save (hrows _ (hid ▸ hsome))
          · intro ht
            dsimp only at ht ⊢
            by_contra hlt
            exact hfits ⟨ht, by omega⟩
          · exact (Table.get?_insert hins requestId).trans (if_pos rfl)
        next hins =>
          -- the request is fresh, so the record cannot be a duplicate
          rw [hrec, hfresh] at h
          cases h

/-- **A fresh request consumes its amount from one subscription.** -/
theorem preConsume_eq_ok (hfresh : db.preConsumeRecords.get? requestId = none)
    (hrows : ∀ sub ∈ db.subscriptions.rows, 0 < sub.id ∧ 0 ≤ sub.amountUsed)
    (h : (preConsumeUserSubscription requestId userId amount Process.done).exec db = (some (.ok r), db')) :
    0 < amount ∧ trimSpace requestId ≠ "" ∧ Consumed requestId userId amount r db' := by
  unfold preConsumeUserSubscription at h
  split at h
  · cases h
  split at h
  · cases h
  next hname =>
    split at h
    · cases h
    next hpos =>
      rw [exec_observe_bind, exec_observe_bind, hfresh] at h
      refine ⟨not_le.mp hpos, hname, ?_⟩
      have htx : consumeTx requestId userId db.clock amount db = (.ok r, db') := by
        have h' : (some (consumeTx requestId userId db.clock amount db).1,
          (consumeTx requestId userId db.clock amount db).2) = (some (.ok r), db') := h
        rw [Prod.mk.injEq, Option.some.injEq] at h'
        exact Prod.ext h'.1 h'.2
      unfold consumeTx at htx
      split at htx
      · cases htx
      next candidates _ hcand =>
        split at htx
        · cases htx
        next hok =>
          cases htx
          refine consumeFrom_eq_ok hok hfresh fun c hm => ?_
          have hrow : c ∈ db.subscriptions.rows :=
            (List.mem_filter.mp ((List.mem_insertionSort EndsBefore).mp hm)).1
          obtain ⟨hp, hu⟩ := hrows c hrow
          refine ⟨hp, hu, ?_⟩
          rw [show c.id = pk c from rfl, Table.get?_pk hrow]
          rfl

end Consumption

end Desktop2Stereo
