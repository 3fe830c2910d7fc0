import Desktop2Stereo.Model.Subscriptions

/-!
# The used amount of a subscription

Requests that consume in advance, settlements, refunds and resets run together. A settlement or a refund is applied
to the used amount as it is then, also when the request consumed in a period that has been reset in the meantime:
what it gives back is then missing from the new period.

* `UsageCounted`: the used amount is at least the difference;
* **`usage_counted_up_to_stray_refunds`**: the used amount covers the net consumption up to stray refunds.
-/

namespace Desktop2Stereo

open Relational Concurrent List

/-! ## Histories -/

/-- The requests that consumed from a subscription since its last reset. -/
def freshRequests (id : ℤ) : List UsageEvent → List String
  | [] => []
  | .preConsumed id' requestId _ :: usage =>
    if id' = id then requestId :: freshRequests id usage else freshRequests id usage
  | .applied _ _ _ :: usage => freshRequests id usage
  | .reset id' :: usage => if id' = id then [] else freshRequests id usage

/-- The net consumption of the requests that consumed since the last reset. -/
def netConsumption (id : ℤ) : List UsageEvent → ℤ
  | [] => 0
  | .preConsumed id' _ amount :: usage =>
    if id' = id then netConsumption id usage + amount else netConsumption id usage
  | .applied id' requestId delta :: usage =>
    if id' = id ∧ requestId ∈ freshRequests id usage then netConsumption id usage + delta else netConsumption id usage
  | .reset id' :: usage => if id' = id then 0 else netConsumption id usage

/-- What has been given back since the last reset on behalf of requests that did not consume since then. -/
def strayRefunds (id : ℤ) : List UsageEvent → ℤ
  | [] => 0
  | .preConsumed _ _ _ :: usage => strayRefunds id usage
  | .applied id' requestId delta :: usage =>
    if id' = id ∧ requestId ∉ freshRequests id usage ∧ delta < 0 then strayRefunds id usage - delta
    else strayRefunds id usage
  | .reset id' :: usage => if id' = id then 0 else strayRefunds id usage

def Covers (usage : List UsageEvent) (sub : UserSubscription) : Prop :=
  0 ≤ sub.amountUsed ∧ netConsumption sub.id usage ≤ sub.amountUsed + strayRefunds sub.id usage

def UsageCounted (db : SubscriptionDB) : Prop := ∀ sub ∈ db.subscriptions.rows, Covers db.usage sub

def UsageEvent.subscriptionId : UsageEvent → ℤ
  | .preConsumed id _ _ => id
  | .applied id _ _ => id
  | .reset id => id

variable {usage : List UsageEvent} {sub : UserSubscription} {db : SubscriptionDB} {ρ : Type}

theorem Covers.cons_of_ne {e : UsageEvent} (h : Covers usage sub) (he : e.subscriptionId ≠ sub.id) :
    Covers (e :: usage) sub := by
  unfold Covers at h ⊢
  cases e with
  | preConsumed id =>
    have hid : id ≠ sub.id := he
    rwa [netConsumption, strayRefunds, if_neg hid]
  | applied id =>
    have hid : id ≠ sub.id := he
    rwa [netConsumption, strayRefunds, if_neg fun hc => hid hc.1, if_neg fun hc => hid hc.1]
  | reset id =>
    have hid : id ≠ sub.id := he
    rwa [netConsumption, strayRefunds, if_neg hid, if_neg hid]

theorem covers_reset (hused : 0 ≤ sub.amountUsed) : Covers (.reset sub.id :: usage) sub := by
  unfold Covers
  rw [netConsumption, strayRefunds, if_pos rfl, if_pos rfl]
  omega

theorem Covers.reset (h : Covers usage sub) (id : ℤ) : Covers (.reset id :: usage) sub := by
  by_cases hid : id = sub.id
  · rw [hid]
    exact covers_reset h.1
  · exact h.cons_of_ne hid

variable {requestId : String}

theorem Covers.preConsumed {amount : ℤ} (h : Covers usage sub) (hpos : 0 ≤ amount) :
    Covers (.preConsumed sub.id requestId amount :: usage) { sub with amountUsed := sub.amountUsed + amount } := by
  obtain ⟨_, _⟩ := h
  unfold Covers
  rw [netConsumption, strayRefunds, if_pos rfl]
  dsimp only
  omega

theorem Covers.applied {delta newUsed : ℤ} (h : Covers usage sub) (hnew : 0 ≤ newUsed)
    (hle : sub.amountUsed + delta ≤ newUsed) :
    Covers (.applied sub.id requestId delta :: usage) { sub with amountUsed := newUsed } := by
  obtain ⟨_, _⟩ := h
  refine ⟨hnew, ?_⟩
  rw [netConsumption, strayRefunds]
  dsimp only
  by_cases hf : requestId ∈ freshRequests sub.id usage
  · rw [if_pos ⟨rfl, hf⟩, if_neg fun hc => hc.2.1 hf]
    omega
  · rw [if_neg fun hc => hf hc.2]
    by_cases hd : delta < 0
    · rw [if_pos ⟨rfl, hf, hd⟩]
      omega
    · rw [if_neg fun hc => hd hc.2.2]
      omega

/-! ## Accesses -/

theorem mem_save {r : UserSubscription} (hr : r ∈ (db.save sub).subscriptions.rows) :
    r = sub ∨ r ∈ db.subscriptions.rows ∧ r.id ≠ sub.id := by
  obtain ⟨r0, hr0, rfl⟩ := (Table.mem_modify (f := fun r : UserSubscription => { sub with id := r.id }) (h := fun _ => rfl)).mp hr
  by_cases hid : r0.id = sub.id
  · rw [if_pos (by simpa using hid), hid]
    exact .inl rfl
  · rw [if_neg (by simpa using hid)]
    exact .inr ⟨hr0, hid⟩

theorem UsageCounted.save (h : UsageCounted db) (hs : Covers db.usage sub) : UsageCounted (db.save sub) := by
  intro r hr
  rcases mem_save hr with rfl | ⟨hr, _⟩
  · exact hs
  · exact h r hr

theorem UsageCounted.save_record {e : UsageEvent} (h : UsageCounted db) (he : e.subscriptionId = sub.id)
    (hs : Covers (e :: db.usage) sub) : UsageCounted ((db.save sub).record e) := by
  intro r hr
  rcases mem_save (show r ∈ (db.save sub).subscriptions.rows from hr) with rfl | ⟨hr, hid⟩
  · exact hs
  · exact (h r hr).cons_of_ne fun hc => hid (hc.symm.trans he)

section Calls

variable [Calendar] {now : ℤ} {plan : SubscriptionPlan} {sub' : UserSubscription}

theorem maybeReset_cases {reset : Bool} (h : maybeResetUserSubscriptionWithPlan sub plan now = .ok (reset, sub')) :
    sub'.id = sub.id ∧ sub'.amountUsed = if reset then 0 else sub.amountUsed := by
  unfold maybeResetUserSubscriptionWithPlan at h
  generalize (if sub.lastResetTime ≤ 0 then sub.startTime else sub.lastResetTime) = base at h
  dsimp only at h
  split at h
  · cases h
    exact ⟨rfl, rfl⟩
  split at h
  · cases h
    exact ⟨rfl, rfl⟩
  split at h
  · split at h
    · cases h
    · cases h
      exact ⟨rfl, rfl⟩
  split at h <;>
  · cases h
    exact ⟨rfl, rfl⟩

theorem UsageCounted.saveReset {reset : Bool} (h : UsageCounted db) (hs : Covers db.usage sub)
    (hreset : maybeResetUserSubscriptionWithPlan sub plan now = .ok (reset, sub')) :
    UsageCounted (db.saveReset reset sub') ∧ Covers (db.saveReset reset sub').usage sub' ∧
      ∀ r, Covers db.usage r → Covers (db.saveReset reset sub').usage r := by
  obtain ⟨hid, hused⟩ := maybeReset_cases hreset
  cases reset with
  | false =>
    have hs' : Covers db.usage sub' := by
      unfold Covers at hs ⊢
      rw [hid, hused]
      exact hs
    exact ⟨h.save hs', hs', fun _ hr => hr⟩
  | true =>
    have hs' : Covers (.reset sub'.id :: db.usage) sub' := covers_reset hused.ge
    exact ⟨h.save_record rfl hs', hs', fun r hr => hr.reset _⟩

theorem consumeFrom_counted {requestId : String} {userId amount : ℤ} (hpos : 0 ≤ amount)
    {candidates : List UserSubscription} {r : SubscriptionPreConsumeResult} {db' : SubscriptionDB}
    (h : consumeFrom requestId userId now amount candidates db = .ok (r, db')) (hdb : UsageCounted db)
    (hc : ∀ c ∈ candidates, Covers db.usage c) : UsageCounted db' := by
  -- the rows of the candidates that are still to come are those that were read at the start
  induction candidates generalizing db with
  | nil => cases h
  | cons candidate rest ih =>
    unfold consumeFrom at h
    split at h
    · cases h
    split at h
    · cases h
    next reset sub hreset =>
      obtain ⟨hdb1, hsub, hmono⟩ := hdb.saveReset (hc candidate mem_cons_self) hreset
      dsimp only at h
      split at h
      · exact ih h hdb1 fun c hm => hmono c (hc c (mem_cons_of_mem _ hm))
      split at h
      · cases h
        exact UsageCounted.save_record (e := .preConsumed sub.id requestId amount) hdb1 rfl (hsub.preConsumed hpos)
      split at h
      · cases h
      split at h
      · cases h
      · cases h
        exact hdb1

omit [Calendar] in
theorem applyDelta_counted (requestId : String) (id delta : ℤ) (hdb : UsageCounted db) :
    UsageCounted (applyDelta requestId id delta db).2 := by
  unfold applyDelta
  split
  · exact hdb
  next sub hsub =>
    obtain ⟨hmem, hid⟩ := Table.get?_eq_some.mp hsub
    have hid : sub.id = id := hid
    have hnew : 0 ≤ (if sub.amountUsed + delta < 0 then 0 else sub.amountUsed + delta) ∧
        sub.amountUsed + delta ≤ if sub.amountUsed + delta < 0 then 0 else sub.amountUsed + delta := by
      split_ifs <;> omega
    generalize (if sub.amountUsed + delta < 0 then 0 else sub.amountUsed + delta) = newUsed at hnew ⊢
    dsimp only
    split
    · exact hdb
    · subst hid
      exact UsageCounted.save_record hdb rfl ((hdb sub hmem).applied hnew.1 hnew.2)

theorem resetLocked_counted (id : ℤ) (plan : SubscriptionPlan) (now : ℤ) (hdb : UsageCounted db) :
    UsageCounted (resetLocked id plan now db).2 := by
  unfold resetLocked
  split
  · exact hdb
  next locked hlocked =>
    split
    · split
      · exact hdb
      next hreset => exact (hdb.saveReset (hdb locked (Table.get?_eq_some.mp hlocked).1) hreset).1
    · exact hdb

variable {l : List UserSubscription}

omit [Calendar] in
theorem Covers.resets (h : Covers usage sub) : Covers (l.map (fun s => .reset s.id) ++ usage) sub := by
  induction l with
  | nil => exact h
  | cons s l ih => exact ih.reset s.id

omit [Calendar] in
theorem covers_resets {s : UserSubscription} (hs : s ∈ l) (hid : s.id = sub.id) (hused : 0 ≤ sub.amountUsed) :
    Covers (l.map (fun s => .reset s.id) ++ usage) sub := by
  obtain ⟨_, _, rfl⟩ := append_of_mem hs
  rw [map_append, map_cons, append_assoc, cons_append, hid]
  exact (covers_reset hused).resets

theorem resetRows_counted (p : UserSubscription → Bool) (plan : SubscriptionPlan) (now : ℤ) (advanceResetTime : Bool)
    (hdb : UsageCounted db) : UsageCounted (resetRows p plan now advanceResetTime db) := by
  intro r hr
  obtain ⟨r0, hr0, rfl⟩ := (Table.mem_modify
    (f := fun s : UserSubscription => { s.resetBy plan now advanceResetTime with id := s.id }) (h := fun _ => rfl)).mp hr
  by_cases hp : p r0 = true
  · rw [if_pos hp]
    refine covers_resets (mem_filter.mpr ⟨hr0, hp⟩) rfl ?_
    unfold UserSubscription.resetBy
    split_ifs <;> exact le_rfl
  · rw [if_neg hp]
    exact (hdb r0 hr0).resets

/-! ## Calls -/

def KeepsCounted (db db' : SubscriptionDB) : Prop := UsageCounted db → UsageCounted db'

omit [Calendar] in
theorem KeepsCounted.refl (db : SubscriptionDB) : KeepsCounted db db := fun h => h

theorem only_preConsume (requestId : String) (userId amount : ℤ) :
    Only KeepsCounted (preConsumeUserSubscription (ρ := ρ) requestId userId amount) := by
  unfold preConsumeUserSubscription
  split
  · exact only_pure _
  split
  · exact only_pure _
  split
  · exact only_pure _
  next hpos =>
    refine (only_observe .refl).bind fun now => (only_observe .refl).bind fun existing => ?_
    split
    · refine only_access fun db hdb => ?_
      unfold consumeTx
      split
      · exact hdb
      next candidates _ hcand =>
        split
        · exact hdb
        next h =>
          refine consumeFrom_counted (not_le.mp hpos).le h hdb fun c hm => hdb c ?_
          exact (mem_filter.mp ((mem_insertionSort EndsBefore).mp hm)).1
    split
    · exact only_pure _
    refine (only_observe .refl).bind fun sub => ?_
    split <;> exact only_pure _

omit [Calendar] in
theorem only_postConsume (requestId : String) (id delta : ℤ) :
    Only KeepsCounted (postConsumeUserSubscriptionDelta (ρ := ρ) requestId id delta) := by
  unfold postConsumeUserSubscriptionDelta
  split
  · exact only_pure _
  split
  · exact only_pure _
  · exact only_access fun db hdb => applyDelta_counted requestId id delta hdb

omit [Calendar] in
theorem only_refund (requestId : String) : Only KeepsCounted (refundSubscriptionPreConsume (ρ := ρ) requestId) := by
  unfold refundSubscriptionPreConsume
  split
  · exact only_pure _
  refine (only_observe .refl).bind fun record => ?_
  split
  · exact only_pure _
  split
  · exact only_pure _
  split
  · exact (only_access fun _ h => h).bind fun _ => only_pure _
  refine (only_postConsume _ _ _).bind fun r => ?_
  split
  · exact only_pure _
  · exact (only_access fun _ h => h).bind fun _ => only_pure _

theorem only_resetEach (now : ℤ) (subs : List UserSubscription) (resetCount : ℕ) :
    Only KeepsCounted (resetEach (ρ := ρ) now subs resetCount) := by
  induction subs generalizing resetCount with
  | nil => exact only_pure _
  | cons sub subs ih =>
    refine (only_observe .refl).bind fun plan => ?_
    split
    · exact ih _
    refine (only_access fun db hdb => resetLocked_counted sub.id _ now hdb).bind fun done => ?_
    split
    · exact only_pure _
    · exact ih _

theorem only_resetDue (limit : ℤ) : Only KeepsCounted (resetDueSubscriptions (ρ := ρ) limit) :=
  (only_observe .refl).bind fun now => (only_observe .refl).bind fun subs => only_resetEach now subs 0

theorem only_adminReset (userId : Option ℤ) (planId : ℤ) (advanceResetTime : Bool) :
    Only KeepsCounted (adminResetSubscriptions (ρ := ρ) userId planId advanceResetTime) := by
  unfold adminResetSubscriptions
  split
  · exact only_pure _
  refine (only_observe .refl).bind fun now => only_access fun db hdb => ?_
  split
  · exact hdb
  dsimp only
  split
  · exact hdb
  · exact resetRows_counted _ _ _ _ hdb

/-! ## Runs -/

inductive UsageCall
  | preConsumeUserSubscription (requestId : String) (userId amount : ℤ)
  | postConsumeUserSubscriptionDelta (requestId : String) (userSubscriptionId delta : ℤ)
  | refundSubscriptionPreConsume (requestId : String)
  | resetDueSubscriptions (limit : ℤ)
  | adminResetSubscriptions (userId : Option ℤ) (planId : ℤ) (advanceResetTime : Bool)

inductive UsageAnswer
  | preConsumed (r : Except SubscriptionErr SubscriptionPreConsumeResult)
  | done (r : Except SubscriptionErr Unit)
  | reset (resetCount : ℕ) (e : Option SubscriptionErr)
  | adminReset (r : Except SubscriptionErr ℕ)
  deriving DecidableEq

/-- What happens outside the calls: time passes, or an administrator saves a plan. -/
inductive SubscriptionEvent
  | pass (seconds : ℕ)
  | savePlan (plan : SubscriptionPlan)

def SubscriptionEvent.apply : SubscriptionEvent → SubscriptionDB → SubscriptionDB
  | .pass n, db => { db with clock := db.clock + n }
  | .savePlan plan, db => { db with plans := Function.update db.plans plan.id (some plan) }

def UsageCall.body : UsageCall → Process SubscriptionDB Unit UsageAnswer
  | .preConsumeUserSubscription requestId userId amount =>
    Desktop2Stereo.preConsumeUserSubscription requestId userId amount fun r => .done (.preConsumed r)
  | .postConsumeUserSubscriptionDelta requestId userSubscriptionId delta =>
    Desktop2Stereo.postConsumeUserSubscriptionDelta requestId userSubscriptionId delta fun r => .done (.done r)
  | .refundSubscriptionPreConsume requestId =>
    Desktop2Stereo.refundSubscriptionPreConsume requestId fun r => .done (.done r)
  | .resetDueSubscriptions limit => Desktop2Stereo.resetDueSubscriptions limit fun r => .done (.reset r.1 r.2)
  | .adminResetSubscriptions userId planId advanceResetTime =>
    Desktop2Stereo.adminResetSubscriptions userId planId advanceResetTime fun r => .done (.adminReset r)

theorem UsageCall.within (c : UsageCall) : Within KeepsCounted c.body := by
  cases c with
  | preConsumeUserSubscription requestId userId amount =>
    exact (only_preConsume requestId userId amount).within fun _ => trivial
  | postConsumeUserSubscriptionDelta requestId id delta =>
    exact (only_postConsume requestId id delta).within fun _ => trivial
  | refundSubscriptionPreConsume requestId =>
    -- unfolded by hand: unification would go on into the trimmed request id
    rw [UsageCall.body]
    exact (only_refund requestId).within fun _ => trivial
  | resetDueSubscriptions limit => exact (only_resetDue limit).within fun _ => trivial
  | adminResetSubscriptions userId planId advanceResetTime =>
    exact (only_adminReset userId planId advanceResetTime).within fun _ => trivial

def usageStep : System SubscriptionDB Unit UsageAnswer → Move UsageCall SubscriptionEvent →
    System SubscriptionDB Unit UsageAnswer := Concurrent.step UsageCall.body SubscriptionEvent.apply

/-- **In every interleaving of consumptions in advance, settlements, refunds and resets, the used amount of a
subscription is at least the net consumption of the requests that consumed since its last reset, less what has been
given back since then on behalf of other requests.** -/
theorem usage_counted_up_to_stray_refunds (db : SubscriptionDB) (hused : ∀ sub ∈ db.subscriptions.rows, 0 ≤ sub.amountUsed)
    (hnew : db.usage = []) (l : List (Move UsageCall SubscriptionEvent)) :
    let db' := (Runs.run usageStep ⟨db, []⟩ l).store
    ∀ sub ∈ db'.subscriptions.rows,
      netConsumption sub.id db'.usage - strayRefunds sub.id db'.usage ≤ sub.amountUsed := by
  intro db' sub hsub
  have hstart : UsageCounted db := by
    intro sub hsub
    rw [hnew]
    exact ⟨hused sub hsub, by simpa [netConsumption, strayRefunds] using hused sub hsub⟩
  have henv : ∀ (e : SubscriptionEvent) db, KeepsCounted db (e.apply db) := by
    intro e db h
    cases e with
    | pass | savePlan => exact h
  have hcounted : UsageCounted db' := run_within (fun _ h => h) (fun _ _ hT hI => hT hI) UsageCall.within henv hstart
    (fun p hp => (by cases hp)) l
  have := (hcounted sub hsub).2
  omega

end Calls

@[reducible] def sampleCalendar : Calendar where
  addDate t years months := t + (years * 12 + months) * 2592000
  nextMidnight t := (t / 86400 + 1) * 86400
  nextMonday t := (((t / 86400 + 3) / 7 + 1) * 7 - 3) * 86400
  nextMonth t := (t / 2592000 + 1) * 2592000
  lt_nextMidnight t := by omega
  lt_nextMonday t := by omega
  lt_nextMonth t := by omega

/-- An unlimited subscription with daily periods, bought at the start of the first day. -/
def sampleSubscriptionDB : SubscriptionDB where
  clock := 86400
  plans := fun id => if id = 1 then some { id := 1, quotaResetPeriod := "daily" } else none
  subscriptions := ⟨[{ id := 1, userId := 1, planId := 1, startTime := 86400, endTime := 2678400, status := .active
                       lastResetTime := 86400, nextResetTime := 172800 }], pairwise_singleton _ _⟩
  nextSubscriptionID := 2

theorem usage_counted_of_one_request :
    let l : List (Move UsageCall SubscriptionEvent) :=
      .start (.preConsumeUserSubscription "a" 1 100) :: .replicate 3 (.run 0)
    let db := (Runs.run (@usageStep sampleCalendar) ⟨sampleSubscriptionDB, []⟩ l).store
    netConsumption 1 db.usage = 100 ∧ ∀ sub ∈ db.subscriptions.rows,
      netConsumption sub.id db.usage - strayRefunds sub.id db.usage ≤ sub.amountUsed := by
  intro l db
  exact ⟨by decide,
    @usage_counted_up_to_stray_refunds sampleCalendar sampleSubscriptionDB (by decide) rfl l⟩

/-- A request consumes 100 on the first day; on the second day another consumes 30 after the reset, and the first one
is refunded. -/
theorem refund_after_reset_undercounts :
    let l : List (Move UsageCall SubscriptionEvent) :=
      .start (.preConsumeUserSubscription "a" 1 100) :: .replicate 3 (.run 0) ++ .env (.pass 90000) ::
      .start (.preConsumeUserSubscription "b" 1 30) :: .replicate 3 (.run 1) ++
      .start (.refundSubscriptionPreConsume "a") :: .replicate 3 (.run 2)
    let s := Runs.run (@usageStep sampleCalendar) ⟨sampleSubscriptionDB, []⟩ l
    s.answer 2 = some (.done (.ok ())) ∧ netConsumption 1 s.store.usage = 30 ∧
      (s.store.subscriptions.get? 1).map UserSubscription.amountUsed = some 0 := by
  decide

end Desktop2Stereo
