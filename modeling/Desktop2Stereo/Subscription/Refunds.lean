import Desktop2Stereo.Model.Subscriptions

/-!
# Refunds under faults

A refund gives back what a request consumed and then marks its record. The amount is given back in a transaction of its
own, so that it stays when the record cannot be marked, and the next attempt gives it back again.

* **`refund_given_back_once`**: runs in which no attempt fails after the inner transaction.
-/

namespace Desktop2Stereo

open Relational Runs

def givenBack (requestId : String) : List UsageEvent → ℤ
  | [] => 0
  | .applied _ r delta :: usage => givenBack requestId usage - if r = requestId then delta else 0
  | _ :: usage => givenBack requestId usage

structure RefundedOnce (requestId : String) (r : SubscriptionPreConsumeRecord) (db db' : SubscriptionDB) : Prop where
  record : db'.preConsumeRecords.get? requestId = some { r with status := .refunded }
  givenBack : givenBack requestId db'.usage = givenBack requestId db.usage + max r.preConsumed 0
  amountUsed : 0 < r.preConsumed → ∃ sub sub', db.subscriptions.get? r.userSubscriptionId = some sub ∧
    db'.subscriptions.get? r.userSubscriptionId = some sub' ∧ sub'.amountUsed = max (sub.amountUsed - r.preConsumed) 0

/-- The call has an error and nothing has happened since `db`, or the record was refunded once. -/
def Settles (requestId : String) (r : SubscriptionPreConsumeRecord) (db : SubscriptionDB)
    (result : RefundResult × SubscriptionDB) : Prop :=
  result.2 = db ∧ result.1 ≠ .ok () ∨ RefundedOnce requestId r db result.2

/-- The attempt does not fail after the inner transaction. -/
abbrev EarlyFault (fault : Option RefundStatement) : Prop := fault ≠ some .saveRecord ∧ fault ≠ some .commit

variable {requestId : String} {r : SubscriptionPreConsumeRecord} {db db' : SubscriptionDB}
  {fault : Option RefundStatement}

/-! ## Attempts -/

theorem EarlyFault.failsAt (h : EarlyFault fault) : failsAt fault [.saveRecord, .commit] = none := by
  simp [Desktop2Stereo.failsAt, h.1, h.2]

theorem applyDelta_applied {id delta : ℤ} (h : applyDelta requestId id delta db = (.ok (), db')) :
    db'.preConsumeRecords = db.preConsumeRecords ∧ db'.usage = .applied id requestId delta :: db.usage ∧
      ∃ sub sub', db.subscriptions.get? id = some sub ∧ db'.subscriptions.get? id = some sub' ∧
        sub'.amountUsed = max (sub.amountUsed + delta) 0 := by
  unfold applyDelta at h
  split at h
  · simp at h
  next sub hsub =>
    have hused : (if sub.amountUsed + delta < 0 then 0 else sub.amountUsed + delta) = max (sub.amountUsed + delta) 0 := by
      split_ifs <;> omega
    simp only [hused] at h
    split at h
    · simp at h
    obtain ⟨-, rfl⟩ := Prod.mk.inj h
    refine ⟨rfl, rfl, sub, { sub with amountUsed := max (sub.amountUsed + delta) 0 }, hsub, ?_, rfl⟩
    simp [SubscriptionDB.record, SubscriptionDB.save, Table.get?_modify, hsub]

theorem giveBack_cases (fault : Option RefundStatement) (requestId : String) (id delta : ℤ) (db : SubscriptionDB) :
    (∃ e, giveBack fault requestId id delta db = (.error e, db)) ∨
      ∃ db', giveBack fault requestId id delta db = (.ok (), db') ∧
        (delta ≠ 0 → applyDelta requestId id delta db = (.ok (), db')) := by
  unfold giveBack
  split_ifs with hid hdelta
  · exact .inl ⟨_, rfl⟩
  · exact .inr ⟨db, rfl, fun h => absurd hdelta h⟩
  split
  · exact .inl ⟨_, rfl⟩
  split
  · exact .inl ⟨_, rfl⟩
  next applied happ =>
    split
    · exact .inl ⟨_, rfl⟩
    · exact .inr ⟨applied, rfl, fun _ => happ⟩

theorem get?_markRefunded (hr : db.preConsumeRecords.get? requestId = some r) :
    (markRefunded requestId db).2.preConsumeRecords.get? requestId = some { r with status := .refunded } := by
  have hid : r.requestId = requestId := (Table.get?_eq_some.mp hr).2
  simp [markRefunded, Table.get?_modify, hr, hid]

theorem settles_of_error {e : RefundStatement ⊕ SubscriptionErr} : Settles requestId r db (.error e, db) :=
  .inl ⟨rfl, by simp⟩

theorem first_attempt (hr : db.preConsumeRecords.get? requestId = some r) (hs : r.status = .consumed)
    (hf : EarlyFault fault) : Settles requestId r db (refundAttempt fault requestId db) := by
  unfold refundAttempt
  rw [hr, hf.failsAt]
  split_ifs with hid
  · exact settles_of_error
  cases failsAt fault [.begin, .selectRecord] with
  | some => exact settles_of_error
  | none =>
    dsimp only
    rw [if_neg (by simp [hs])]
    by_cases hpos : r.preConsumed ≤ 0
    · rw [if_pos hpos]
      refine .inr ⟨get?_markRefunded hr, ?_, fun h => absurd h (not_lt.mpr hpos)⟩
      simp [markRefunded, max_eq_right hpos]
    rw [if_neg hpos]
    obtain ⟨e, he⟩ | ⟨db', hok, happ⟩ := giveBack_cases fault requestId r.userSubscriptionId (-r.preConsumed) db
    · rw [he]
      exact settles_of_error
    rw [hok]
    obtain ⟨hrec, husage, hused⟩ := applyDelta_applied (happ (by omega))
    refine .inr ⟨get?_markRefunded (hrec ▸ hr), ?_, fun _ => hused⟩
    simp only [markRefunded, husage, givenBack, if_pos]
    omega

/-! ## Runs -/

section

variable (hr : db.preConsumeRecords.get? requestId = some r) (hs : r.status = .consumed)
include hr hs

theorem attempt_settles (hf : EarlyFault fault) (h : db' = db ∨ RefundedOnce requestId r db db') :
    Settles requestId r db (refundAttempt fault requestId db') := by
  obtain rfl | h := h
  · exact first_attempt hr hs hf
  · have hsame : (refundAttempt fault requestId db').2 = db' := by
      unfold refundAttempt
      rw [h.record]
      split_ifs with hid
      · rfl
      cases failsAt fault [.begin, .selectRecord] <;> rfl
    exact .inr (hsame.symm ▸ h)

theorem attempts_settle {faults : List (Option RefundStatement)} (hf : EarlyFault fault)
    (hl : ∀ f ∈ faults, EarlyFault f) (h : db' = db ∨ RefundedOnce requestId r db db') :
    Settles requestId r db (refundAttempts requestId fault faults db') := by
  induction faults generalizing fault db' with
  | nil => exact attempt_settles hr hs hf h
  | cons next faults ih =>
    have hfirst := attempt_settles hr hs hf h
    unfold refundAttempts
    split
    next hok => exact hok ▸ hfirst
    next herr =>
      rw [herr] at hfirst
      exact ih (hl next List.mem_cons_self) (fun f hm => hl f (List.mem_cons_of_mem next hm)) (hfirst.imp_left And.left)

end

/-- A call with what fails in its first attempt and in the others: a single one, or the three of `refundWithRetry`. -/
abbrev RefundCall := Option RefundStatement × List (Option RefundStatement)

def RefundCall.run (requestId : String) (db : SubscriptionDB) (call : RefundCall) : RefundResult × SubscriptionDB :=
  refundAttempts requestId call.1 call.2 db

/-- No attempt of the call fails after the inner transaction. -/
abbrev RefundCall.Early (call : RefundCall) : Prop := EarlyFault call.1 ∧ ∀ f ∈ call.2, EarlyFault f

/-- **In every run of refund calls of a request in which no attempt fails after the inner transaction, at most its
recorded amount is given back, and a call without an error has refunded the record and given back that amount once.** -/
theorem refund_given_back_once (hr : db.preConsumeRecords.get? requestId = some r) (hs : r.status = .consumed)
    (calls : List RefundCall) (hc : ∀ c ∈ calls, c.Early) :
    let final := Runs.run (fun db c => (RefundCall.run requestId db c).2) db calls
    givenBack requestId final.usage ≤ givenBack requestId db.usage + max r.preConsumed 0 ∧
      ∀ c : RefundCall, c.Early → (c.run requestId final).1 = .ok () →
        RefundedOnce requestId r db (c.run requestId final).2 := by
  intro final
  have hfinal : final = db ∨ RefundedOnce requestId r db final :=
    run_invariant_along (I := fun db' => db' = db ∨ RefundedOnce requestId r db db') (C := fun _ c => RefundCall.Early c)
      (fun _ c h hearly => (attempts_settle hr hs hearly.1 hearly.2 h).imp_left And.left) (.inl rfl)
      (.of_forall fun _ c hm => hc c hm)
  constructor
  · obtain h | h := hfinal
    · exact h ▸ le_add_of_nonneg_right (le_max_right _ _)
    · exact h.givenBack.le
  · intro c hearly hok
    exact (attempts_settle hr hs hearly.1 hearly.2 hfinal).resolve_left fun h => h.2 hok

section Samples

def sampleRecord : SubscriptionPreConsumeRecord :=
  { requestId := "req", userId := 1, userSubscriptionId := 1, preConsumed := 40, status := .consumed }

/-- A subscription of which 100 units are used, 40 of them by the request. -/
def sampleConsumed : SubscriptionDB :=
  { clock := 10
    subscriptions := ⟨[{ id := 1, userId := 1, planId := 1, amountTotal := 500, amountUsed := 100, startTime := 0
                         endTime := 100, status := .active }], by decide⟩
    preConsumeRecords := ⟨[sampleRecord], by decide⟩ }

/-- A call whose second attempt refunds the record. -/
theorem refund_given_back_once_retried :
    let final := Runs.run (fun db c => (RefundCall.run "req" db c).2) sampleConsumed [(some .innerCommit, [none, none])]
    givenBack "req" final.usage ≤ givenBack "req" sampleConsumed.usage + max sampleRecord.preConsumed 0 ∧
      ∀ c : RefundCall, c.Early → (c.run "req" final).1 = .ok () →
        RefundedOnce "req" sampleRecord sampleConsumed (c.run "req" final).2 :=
  refund_given_back_once (by decide) rfl _ (by decide)

/-- The record cannot be marked in the first attempt of `refundWithRetry`: the second one gives the amount back again. -/
theorem refund_given_back_twice :
    let (result, final) := refundWithRetry "req" (some .saveRecord) none none sampleConsumed
    result = .ok () ∧ givenBack "req" final.usage = 80 ∧ sampleRecord.preConsumed = 40 ∧
      (final.subscriptions.get? 1).map (·.amountUsed) = some 20 := by
  decide

end Samples

end Desktop2Stereo
