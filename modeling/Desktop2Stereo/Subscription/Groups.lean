import Desktop2Stereo.Subscription.Usage

/-!
# The group of a user with subscriptions

A purchase moves the user to the group of the plan and records the group before, unless the user is in the plan's
group already. When the last subscription with a group has expired, the one that ended last decides: if it has
recorded a group, and the user is still in its own, the user goes back to the recorded group. A renewal records
nothing, and a purchase on top of another plan records the group of that plan.

* `GroupOp`, `groupStep`: purchases, expiry runs and time;
* **`group_restored`**: in every run of such purchases, a user without running subscriptions has the group of the start.
-/

namespace Desktop2Stereo

open Relational GoText List

/-! ## The last subscription -/

theorem EndsBefore.total (a b : UserSubscription) : EndsBefore a b ∨ EndsBefore b a := by
  unfold EndsBefore
  omega

theorem EndsBefore.trans {a b c : UserSubscription} (h : EndsBefore a b) (h' : EndsBefore b c) : EndsBefore a c := by
  unfold EndsBefore at *
  omega

variable {l : List UserSubscription}

theorem latest_eq_none : latest l = none ↔ l = [] := by
  unfold latest
  rw [List.head?_eq_none_iff]
  refine ⟨fun h => eq_nil_iff_forall_not_mem.mpr fun a ha => ?_, fun h => by rw [h]; rfl⟩
  have := (mem_insertionSort fun a b => EndsBefore b a).mpr ha
  rw [h] at this
  cases this

variable {x : UserSubscription}

theorem latest_spec (h : latest l = some x) : x ∈ l ∧ ∀ y ∈ l, EndsBefore y x := by
  have htotal : Std.Total fun a b => EndsBefore b a := ⟨fun a b => EndsBefore.total b a⟩
  have htrans : IsTrans UserSubscription fun a b => EndsBefore b a := ⟨fun _ _ _ h h' => h'.trans h⟩
  have hsorted := pairwise_insertionSort (fun a b => EndsBefore b a) l
  unfold latest at h
  obtain ⟨rest, hrest⟩ := List.head?_eq_some_iff.mp h
  rw [hrest] at hsorted
  have hmem : ∀ y, y ∈ l ↔ y ∈ x :: rest := fun y => by
    rw [← hrest]
    exact (mem_insertionSort _).symm
  refine ⟨(hmem x).mpr mem_cons_self, fun y hy => ?_⟩
  rcases mem_cons.mp ((hmem y).mp hy) with rfl | hy
  · exact .inr ⟨rfl, le_rfl⟩
  · exact (pairwise_cons.mp hsorted).1 y hy

theorem latest_filter {t : Table UserSubscription} {p : UserSubscription → Bool} (hx : x ∈ t.rows) (hp : p x = true)
    (hmax : ∀ y ∈ t.rows, p y = true → EndsBefore y x) : latest (t.rows.filter p) = some x := by
  have hmem : x ∈ t.rows.filter p := mem_filter.mpr ⟨hx, hp⟩
  cases h : latest (t.rows.filter p) with
  | none =>
    rw [latest_eq_none.mp h] at hmem
    cases hmem
  | some y =>
    obtain ⟨hy, hy'⟩ := latest_spec h
    obtain ⟨hyt, hyp⟩ := mem_filter.mp hy
    have hle := hmax y hyt hyp
    have hge := hy' x hmem
    have hid : y.id = x.id := by
      unfold EndsBefore at hle hge
      omega
    rw [t.eq_of_pk hyt hx hid]

/-! ## Operations -/

inductive GroupOp
  | purchase (userId : ℤ) (plan : SubscriptionPlan) (source : String)
  | expireDueSubscriptions (limit : ℤ)
  | pass (seconds : ℕ)

section Ops

variable [Calendar]

def groupStep (db : SubscriptionDB) : GroupOp → SubscriptionDB
  | .purchase userId plan source =>
    match createUserSubscriptionFromPlanTx userId plan source db with
    | .ok (_, db') => db'
    | .error _ => db
  | .expireDueSubscriptions limit => expireDueSubscriptions limit db
  | .pass seconds => { db with clock := db.clock + seconds }

omit [Calendar] in
def SubscriptionDB.running (db : SubscriptionDB) (userId : ℤ) : List UserSubscription :=
  db.subscriptions.rows.filter fun s => s.userId = userId ∧ s.status = .active

omit [Calendar] in
/-- The subscription has moved the user to its group from another one. -/
def UserSubscription.Elevates (sub : UserSubscription) (group : String) : Prop :=
  trimSpace sub.prevUserGroup ≠ "" ∧ group = trimSpace sub.upgradeGroup

instance (sub : UserSubscription) (group : String) : Decidable (sub.Elevates group) := by
  unfold UserSubscription.Elevates
  infer_instance

omit [Calendar] in
/-- A group that can be recorded. -/
def PlainGroup (group : String) : Prop := trimSpace group = group ∧ group ≠ ""

instance (group : String) : Decidable (PlainGroup group) := by
  unfold PlainGroup
  infer_instance

/-- A purchase after which the group is still restored. The new subscription ends after its purchase. If it is the
first one, or will end last, then the running subscription that ends last has not moved the user, and the user's
group can be recorded; if it will not end last, then the groups of the plan and of the user are the same to the
running subscription that ends last: equal, or its own and the one that it has recorded. -/
def Restorable (userId : ℤ) (plan : SubscriptionPlan) (db : SubscriptionDB) : Prop :=
  match calcPlanEndTime db.clock plan with
  | .error _ => True
  | .ok endUnix =>
    let group := db.userGroup userId
    let upgradeGroup := trimSpace plan.upgradeGroup
    (db.clock : ℤ) < endUnix ∧ (db.running userId = [] → upgradeGroup = group ∨ PlainGroup group) ∧
      ∀ last ∈ db.running userId, (∀ s ∈ db.running userId, EndsBefore s last) →
        if last.endTime ≤ endUnix then ¬ last.Elevates group ∧ (upgradeGroup = group ∨ PlainGroup group)
        else upgradeGroup = group ∨ last.Elevates group ∧ upgradeGroup = trimSpace last.prevUserGroup ∨
          last.Elevates upgradeGroup ∧ group = trimSpace last.prevUserGroup

instance (userId : ℤ) (plan : SubscriptionPlan) (db : SubscriptionDB) : Decidable (Restorable userId plan db) := by
  unfold Restorable
  split <;> infer_instance

omit [Calendar] in
def SubscriptionPlan.Upgrades (plan : SubscriptionPlan) : Prop :=
  trimSpace plan.upgradeGroup ≠ "" ∧ trimSpace plan.downgradeGroup = ""

instance (plan : SubscriptionPlan) : Decidable plan.Upgrades := by
  unfold SubscriptionPlan.Upgrades
  infer_instance

end Ops

/-! ## The invariant -/

/-- What is known of the subscriptions and the group of a user who had `initial` at the start. -/
structure GroupInv (userId : ℤ) (initial : String) (db : SubscriptionDB) : Prop where
  user : (db.users.get? userId).isSome
  ids : ∀ s ∈ db.subscriptions.rows, s.id < db.nextSubscriptionID
  ended : ∀ s ∈ db.subscriptions.rows, s.userId = userId → s.status ≠ .active → s.endTime ≤ db.clock
  runs : ∀ s ∈ db.subscriptions.rows, s.userId = userId → s.status = .active →
    trimSpace s.downgradeGroup = "" ∧ s.upgradeGroup ≠ "" ∧ trimSpace s.upgradeGroup ≠ "" ∧ 0 < s.endTime ∧
      ∀ s' ∈ db.subscriptions.rows, s'.userId = userId → s'.status ≠ .active → s'.endTime < s.endTime
  idle : db.running userId = [] → db.userGroup userId = initial
  last : ∀ s ∈ db.running userId, (∀ s' ∈ db.running userId, EndsBefore s' s) →
    expiredGroup s (db.userGroup userId) = initial

variable {userId : ℤ} {initial : String} {db db' : SubscriptionDB} {sub : UserSubscription}

theorem mem_running : sub ∈ db.running userId ↔
    sub ∈ db.subscriptions.rows ∧ sub.userId = userId ∧ sub.status = .active := by
  unfold SubscriptionDB.running
  rw [mem_filter]
  simp

theorem GroupInv.transfer (h : GroupInv userId initial db) (huser : db'.users.get? userId = db.users.get? userId)
    (hrows : ∀ s, s.userId = userId → (s ∈ db'.subscriptions.rows ↔ s ∈ db.subscriptions.rows))
    (hids : ∀ s ∈ db'.subscriptions.rows, s.id < db'.nextSubscriptionID) (hclock : db.clock ≤ db'.clock) :
    GroupInv userId initial db' := by
  have hgroup : db'.userGroup userId = db.userGroup userId := by
    unfold SubscriptionDB.userGroup
    rw [huser]
  have hrunning : ∀ s, s ∈ db'.running userId ↔ s ∈ db.running userId := by
    intro s
    rw [mem_running, mem_running]
    refine ⟨fun hs => ⟨(hrows s hs.2.1).mp hs.1, hs.2⟩, fun hs => ⟨(hrows s hs.2.1).mpr hs.1, hs.2⟩⟩
  refine ⟨huser ▸ h.user, hids, fun s hs hu ha => ?_, fun s hs hu ha => ?_, fun hno => ?_, fun s hs hmax => ?_⟩
  · exact (h.ended s ((hrows s hu).mp hs) hu ha).trans (by exact_mod_cast hclock)
  · obtain ⟨hd, hup, hup', hpos, hbefore⟩ := h.runs s ((hrows s hu).mp hs) hu ha
    exact ⟨hd, hup, hup', hpos, fun s' hs' hu' ha' => hbefore s' ((hrows s' hu').mp hs') hu' ha'⟩
  · rw [hgroup]
    refine h.idle (eq_nil_iff_forall_not_mem.mpr fun s hs => ?_)
    rw [← hrunning, hno] at hs
    cases hs
  · rw [hgroup]
    exact h.last s ((hrunning s).mp hs) fun s' hs' => hmax s' ((hrunning s').mpr hs')

theorem expiredGroup_eq {group : String} (hd : trimSpace sub.downgradeGroup = "") (hu : trimSpace sub.upgradeGroup ≠ "") :
    expiredGroup sub group = if sub.Elevates group then trimSpace sub.prevUserGroup else group := by
  unfold expiredGroup
  dsimp only
  rw [if_neg (not_not.mpr hd)]
  by_cases hp : trimSpace sub.prevUserGroup = ""
  · rw [if_pos (.inr hp), if_neg fun hc : sub.Elevates group => hc.1 hp]
  · rw [if_neg fun hc => hc.elim hu hp]
    by_cases hg : group = trimSpace sub.upgradeGroup
    · rw [if_neg (not_not.mpr hg), if_pos ⟨hp, hg⟩]
    · rw [if_pos hg, if_neg fun hc : sub.Elevates group => hg hc.2]

theorem get?_setUserGroup (db : SubscriptionDB) (o : ℤ) (group : String) (userId : ℤ) :
    (db.setUserGroup o group).users.get? userId =
      if o = userId then (db.users.get? userId).map fun u => { u with group } else db.users.get? userId :=
  Table.get?_modify_pk (f := fun u : User => { u with group }) (h := fun _ => by rfl) db.users o
    (fun r => decide_eq_true_iff) userId

theorem userGroup_setUserGroup (h : (db.users.get? userId).isSome) (group : String) :
    (db.setUserGroup userId group).userGroup userId = group := by
  obtain ⟨u, hu⟩ := Option.isSome_iff_exists.mp h
  rw [SubscriptionDB.userGroup, get?_setUserGroup, if_pos rfl, hu]
  rfl

theorem isSome_setUserGroup (h : (db.users.get? userId).isSome) (o : ℤ) (group : String) :
    ((db.setUserGroup o group).users.get? userId).isSome := by
  rw [get?_setUserGroup]
  split_ifs
  · rw [Option.isSome_map]
    exact h
  · exact h

theorem exists_last (h : db.running userId ≠ []) :
    ∃ last ∈ db.running userId, ∀ s ∈ db.running userId, EndsBefore s last := by
  cases hl : latest (db.running userId) with
  | none => exact absurd (latest_eq_none.mp hl) h
  | some last => exact ⟨last, latest_spec hl⟩

/-! ## Purchases -/

section Purchases

variable [Calendar] {plan : SubscriptionPlan} {source : String}

theorem createUserSubscription_eq_ok (h : createUserSubscriptionFromPlanTx userId plan source db = .ok (sub, db')) :
    ∃ endUnix, calcPlanEndTime db.clock plan = .ok endUnix ∧
      sub = plan.subscription db.nextSubscriptionID userId source (db.userGroup userId) db.clock endUnix ∧
      db'.subscriptions.rows = db.subscriptions.rows ++ [sub] ∧ db'.clock = db.clock ∧
      db'.nextSubscriptionID = db.nextSubscriptionID + 1 ∧
      db'.users = if trimSpace plan.upgradeGroup ≠ "" ∧ db.userGroup userId ≠ trimSpace plan.upgradeGroup then
        (db.setUserGroup userId (trimSpace plan.upgradeGroup)).users else db.users := by
  unfold createUserSubscriptionFromPlanTx at h
  split at h
  · cases h
  split at h
  · cases h
  split at h
  · cases h
  split at h
  · cases h
  next endUnix hend =>
    dsimp only at h
    split at h
    · cases h
    next subscriptions hins =>
      cases h
      refine ⟨endUnix, hend, rfl, (Table.insert_eq_some.mp hins).2, ?_, rfl, ?_⟩
      · dsimp only
        split_ifs <;> rfl
      · dsimp only
        split_ifs <;> rfl

theorem GroupInv.purchase_other {o : ℤ} (h : GroupInv userId initial db) (ho : userId ≠ o)
    (hok : createUserSubscriptionFromPlanTx o plan source db = .ok (sub, db')) : GroupInv userId initial db' := by
  obtain ⟨_, _, hsub, hrows, hclock, hnext, husers⟩ := createUserSubscription_eq_ok hok
  refine h.transfer ?_ (fun s hs => ?_) (fun s hs => ?_) hclock.ge
  · rw [husers]
    split_ifs
    · rw [get?_setUserGroup, if_neg (Ne.symm ho)]
    · rfl
  · rw [hrows, mem_append, mem_singleton]
    refine or_iff_left fun he => ho ?_
    rw [← hs, he, hsub]
    rfl
  · rw [hrows, mem_append, mem_singleton] at hs
    rw [hnext]
    rcases hs with hs | rfl
    · exact (h.ids s hs).trans (by omega)
    · rw [hsub]
      exact Int.lt_succ _

omit [Calendar] in
theorem expiredGroup_subscription {group : String} (hplan : plan.Upgrades)
    (hup : sub.upgradeGroup = trimSpace plan.upgradeGroup)
    (hdown : sub.downgradeGroup = trimSpace plan.downgradeGroup)
    (hprev : sub.prevUserGroup = if group ≠ trimSpace plan.upgradeGroup then group else "")
    (hg : trimSpace plan.upgradeGroup = group ∨ PlainGroup group) :
    expiredGroup sub (trimSpace plan.upgradeGroup) = group := by
  have hd : trimSpace sub.downgradeGroup = "" := by rw [hdown, trimSpace_trimSpace]; exact hplan.2
  have hu : trimSpace sub.upgradeGroup = trimSpace plan.upgradeGroup := by rw [hup, trimSpace_trimSpace]
  rw [expiredGroup_eq hd (hu ▸ hplan.1)]
  by_cases he : trimSpace plan.upgradeGroup = group
  · have hblank : trimSpace sub.prevUserGroup = "" := by
      rw [hprev, if_neg (not_not.mpr he.symm)]
      rfl
    rw [if_neg fun hc : sub.Elevates _ => hc.1 hblank]
    exact he
  · obtain ⟨htrim, hne⟩ := hg.resolve_left he
    have hrec : trimSpace sub.prevUserGroup = group := by
      rw [hprev, if_pos (Ne.symm he)]
      exact htrim
    rw [if_pos ⟨hrec ▸ hne, hu.symm⟩]
    exact hrec

/-- **A restorable purchase of the user keeps what will be restored.** -/
theorem GroupInv.purchase (h : GroupInv userId initial db) (hplan : plan.Upgrades) (hsafe : Restorable userId plan db)
    (hok : createUserSubscriptionFromPlanTx userId plan source db = .ok (sub, db')) :
    GroupInv userId initial db' := by
  obtain ⟨endUnix, hend, hsub, hrows, hclock, hnext, husers⟩ := createUserSubscription_eq_ok hok
  unfold Restorable at hsafe
  rw [hend] at hsafe
  obtain ⟨_, hfirst, hlast⟩ := hsafe
  have hgroup : db'.userGroup userId = trimSpace plan.upgradeGroup := by
    unfold SubscriptionDB.userGroup
    rw [husers]
    split
    · exact userGroup_setUserGroup h.user _
    next hno =>
      by_contra hc
      exact hno ⟨hplan.1, hc⟩
  have hmem : ∀ s, s ∈ db'.subscriptions.rows ↔ s ∈ db.subscriptions.rows ∨ s = sub := by
    intro s
    rw [hrows, mem_append, mem_singleton]
  have hrunning : ∀ s, s ∈ db'.running userId ↔ s ∈ db.running userId ∨ s = sub := by
    intro s
    rw [mem_running, mem_running, hmem]
    constructor
    · rintro ⟨hs | hs, hr⟩
      · exact .inl ⟨hs, hr⟩
      · exact .inr hs
    · rintro (hs | hs)
      · exact ⟨.inl hs.1, hs.2⟩
      · refine ⟨.inr hs, ?_⟩
        rw [hs, hsub]
        exact ⟨rfl, rfl⟩
  have hid : sub.id = db.nextSubscriptionID := by rw [hsub]; rfl
  have hstatus : sub.status = .active := by rw [hsub]; rfl
  have hendTime : sub.endTime = endUnix := by rw [hsub]; rfl
  have hup : sub.upgradeGroup = trimSpace plan.upgradeGroup := by rw [hsub]; rfl
  have hdown : sub.downgradeGroup = trimSpace plan.downgradeGroup := by rw [hsub]; rfl
  have hprev : sub.prevUserGroup =
      if db.userGroup userId ≠ trimSpace plan.upgradeGroup then db.userGroup userId else "" := by
    rw [hsub]
    unfold SubscriptionPlan.subscription
    simp only [hplan.1, ne_eq, not_false_eq_true, true_and]
  refine ⟨?_, fun s hs => ?_, fun s hs hu ha => ?_, fun s hs hu ha => ?_, fun hno => ?_, fun s hs hmax => ?_⟩
  · rw [husers]
    split_ifs
    · exact isSome_setUserGroup h.user _ _
    · exact h.user
  · rw [hnext]
    rcases (hmem s).mp hs with hs | rfl
    · exact (h.ids s hs).trans (by omega)
    · omega
  · rcases (hmem s).mp hs with hs | rfl
    · rw [hclock]
      exact h.ended s hs hu ha
    · exact absurd hstatus ha
  · rcases (hmem s).mp hs with hs | rfl
    · obtain ⟨hd, hu', hu'', hpos, hbefore⟩ := h.runs s hs hu ha
      refine ⟨hd, hu', hu'', hpos, fun s' hs' hv ha' => ?_⟩
      rcases (hmem s').mp hs' with hs' | rfl
      · exact hbefore s' hs' hv ha'
      · exact absurd hstatus ha'
    · refine ⟨by rw [hdown, trimSpace_trimSpace]; exact hplan.2, by rw [hup]; exact hplan.1,
        by rw [hup, trimSpace_trimSpace]; exact hplan.1, by omega, fun s' hs' hv ha' => ?_⟩
      rcases (hmem s').mp hs' with hs' | rfl
      · have := h.ended s' hs' hv ha'
        omega
      · exact absurd hstatus ha'
  · have : sub ∈ db'.running userId := (hrunning sub).mpr (.inr rfl)
    rw [hno] at this
    cases this
  · rw [hgroup]
    rcases (hrunning s).mp hs with hs | rfl
    · -- the new subscription ends before the one that decides
      have hmax' : ∀ s' ∈ db.running userId, EndsBefore s' s := fun s' hs' => hmax s' ((hrunning s').mpr (.inl hs'))
      have hbefore : ¬ s.endTime ≤ endUnix := by
        have hle := hmax sub ((hrunning sub).mpr (.inr rfl))
        have hlt := h.ids s (mem_running.mp hs).1
        unfold EndsBefore at hle
        omega
      have hsame := hlast s hs hmax'
      rw [if_neg hbefore] at hsame
      obtain ⟨hd, _, hu, _⟩ := h.runs s (mem_running.mp hs).1 (mem_running.mp hs).2.1 (mem_running.mp hs).2.2
      have hinit := h.last s hs hmax'
      rw [expiredGroup_eq hd hu] at hinit ⊢
      rcases hsame with he | ⟨he, hp⟩ | ⟨he, hp⟩
      · rw [he]
        exact hinit
      · rw [if_pos he] at hinit
        split_ifs
        · exact hinit
        · rw [hp]
          exact hinit
      · rw [if_pos he]
        rw [hp, ite_self] at hinit
        exact hinit
    · -- the new subscription decides
      have hstart : db.userGroup userId = initial ∧
          (trimSpace plan.upgradeGroup = db.userGroup userId ∨ PlainGroup (db.userGroup userId)) := by
        by_cases hno : db.running userId = []
        · exact ⟨h.idle hno, hfirst hno⟩
        · obtain ⟨last, hl, hlmax⟩ := exists_last hno
          have hle : last.endTime ≤ endUnix := by
            have := hmax last ((hrunning last).mpr (.inl hl))
            unfold EndsBefore at this
            omega
          have hsame := hlast last hl hlmax
          rw [if_pos hle] at hsame
          obtain ⟨hd, _, hu, _⟩ := h.runs last (mem_running.mp hl).1 (mem_running.mp hl).2.1 (mem_running.mp hl).2.2
          have hinit := h.last last hl hlmax
          rw [expiredGroup_eq hd hu, if_neg hsame.1] at hinit
          exact ⟨hinit, hsame.2⟩
      rw [← hstart.1]
      exact expiredGroup_subscription hplan hup hdown hprev hstart.2

end Purchases

/-! ## Expiry -/

variable {now : ℤ}

theorem keys_expired (sub : UserSubscription) : Indexed.keys { sub with status := .expired } = Indexed.keys sub := rfl

/-- The store after the due subscriptions of a user have been marked. -/
def SubscriptionDB.expire (db : SubscriptionDB) (now o : ℤ) : SubscriptionDB :=
  let subscriptions := db.subscriptions.modify (fun s => s.userId = o ∧ s.Due now) ({ · with status := .expired })
    keys_expired
  { db with subscriptions }

variable {o : ℤ}

theorem mem_expire : sub ∈ (db.expire now o).subscriptions.rows ↔
    ∃ r ∈ db.subscriptions.rows, (if r.userId = o ∧ r.Due now then { r with status := .expired } else r) = sub := by
  refine (Table.mem_modify (f := fun r : UserSubscription => { r with status := .expired }) (h := fun _ => rfl)).trans ?_
  simp

theorem expireUserSubscriptions_cases (now : ℤ) (db : SubscriptionDB) (o : ℤ) :
    expireUserSubscriptions now db o = db.expire now o ∨
    ∃ group, expireUserSubscriptions now db o = (db.expire now o).setUserGroup o group := by
  unfold expireUserSubscriptions
  dsimp only
  split
  · exact .inl rfl
  split
  · exact .inl rfl
  split
  · exact .inl rfl
  · exact .inr ⟨_, rfl⟩

theorem mem_expire_other (now : ℤ) (ho : userId ≠ o) (hs : sub.userId = userId) :
    sub ∈ (db.expire now o).subscriptions.rows ↔ sub ∈ db.subscriptions.rows := by
  rw [mem_expire]
  constructor
  · rintro ⟨r, hr, rfl⟩
    split_ifs at hs with hc
    · exact absurd (hs.symm.trans hc.1) ho
    · rw [if_neg hc]
      exact hr
  · intro hr
    exact ⟨sub, hr, if_neg fun hc => ho (hs.symm.trans hc.1)⟩

theorem expire_ids (h : ∀ s ∈ db.subscriptions.rows, s.id < db.nextSubscriptionID) (now o : ℤ) :
    ∀ s ∈ (db.expire now o).subscriptions.rows, s.id < db.nextSubscriptionID := by
  intro s hs
  obtain ⟨r, hr, rfl⟩ := mem_expire.mp hs
  split_ifs <;> exact h r hr

theorem GroupInv.expire_other (h : GroupInv userId initial db) (ho : userId ≠ o) :
    GroupInv userId initial (expireUserSubscriptions now db o) := by
  rcases expireUserSubscriptions_cases now db o with he | ⟨_, he⟩
  · rw [he]
    exact h.transfer rfl (fun s hs => mem_expire_other now ho hs) (expire_ids h.ids now o) le_rfl
  · rw [he]
    refine h.transfer ?_ (fun s hs => mem_expire_other now ho hs) (expire_ids h.ids now o) le_rfl
    rw [get?_setUserGroup, if_neg (Ne.symm ho)]
    rfl

theorem mem_running_expire (h : GroupInv userId initial db) :
    sub ∈ (db.expire now userId).running userId ↔ sub ∈ db.running userId ∧ now < sub.endTime := by
  rw [mem_running, mem_running, mem_expire]
  constructor
  · rintro ⟨⟨r, hr, rfl⟩, hu, ha⟩
    split_ifs at hu ha with hc
    · rw [if_neg hc]
      refine ⟨⟨hr, hu, ha⟩, ?_⟩
      have hpos := (h.runs r hr hu ha).2.2.2.1
      by_contra hle
      exact hc ⟨hu, ha, hpos, not_lt.mp hle⟩
  · rintro ⟨⟨hr, hu, ha⟩, hlt⟩
    exact ⟨⟨sub, hr, if_neg fun hc => not_lt.mpr hc.2.2.2 hlt⟩, hu, ha⟩

theorem ended_of_expire (h : GroupInv userId initial db) (hs : sub ∈ (db.expire db.clock userId).subscriptions.rows)
    (hu : sub.userId = userId) (ha : sub.status ≠ .active) : sub.endTime ≤ db.clock := by
  obtain ⟨r, hr, rfl⟩ := mem_expire.mp hs
  split_ifs at hu ha ⊢ with hc
  · exact hc.2.2.2
  · exact h.ended r hr hu ha

theorem GroupInv.of_expire (h : GroupInv userId initial db)
    (hsubs : db'.subscriptions = (db.expire db.clock userId).subscriptions) (hclock : db'.clock = db.clock)
    (hnext : db'.nextSubscriptionID = db.nextSubscriptionID) (huser : (db'.users.get? userId).isSome)
    (hidle : db'.running userId = [] → db'.userGroup userId = initial)
    (hlast : db'.running userId ≠ [] → db'.userGroup userId = db.userGroup userId) : GroupInv userId initial db' := by
  have hrunning : ∀ s, s ∈ db'.running userId ↔ s ∈ db.running userId ∧ (db.clock : ℤ) < s.endTime := by
    intro s
    rw [← mem_running_expire h, mem_running, mem_running, hsubs]
  refine ⟨huser, fun s hs => ?_, fun s hs hu ha => ?_, fun s hs hu ha => ?_, hidle, fun s hs hmax => ?_⟩
  · rw [hsubs] at hs
    rw [hnext]
    exact expire_ids h.ids _ _ s hs
  · rw [hsubs] at hs
    rw [hclock]
    exact ended_of_expire h hs hu ha
  · obtain ⟨hrun, hlt⟩ := (hrunning s).mp (mem_running.mpr ⟨hs, hu, ha⟩)
    obtain ⟨hd, hup, hup', hpos, _⟩ := h.runs s (mem_running.mp hrun).1 hu ha
    refine ⟨hd, hup, hup', hpos, fun s' hs' hu' ha' => ?_⟩
    rw [hsubs] at hs'
    exact (ended_of_expire h hs' hu' ha').trans_lt hlt
  · obtain ⟨hrun, _⟩ := (hrunning s).mp hs
    rw [hlast fun hno => by rw [hno] at hs; cases hs]
    refine h.last s hrun fun s' hs' => ?_
    by_cases hlt' : (db.clock : ℤ) < s'.endTime
    · exact hmax s' ((hrunning s').mpr ⟨hs', hlt'⟩)
    · exact .inl (by omega)

theorem latest_expired {last : UserSubscription} (h : GroupInv userId initial db) (hl : last ∈ db.running userId)
    (hmax : ∀ s ∈ db.running userId, EndsBefore s last) (hdue : last.Due now) :
    latest ((db.expire now userId).subscriptions.rows.filter fun s =>
      s.userId = userId ∧ s.status = .expired ∧ (s.downgradeGroup ≠ "" ∨ s.upgradeGroup ≠ "")) =
      some { last with status := .expired } := by
  obtain ⟨hrow, hu, ha⟩ := mem_running.mp hl
  obtain ⟨_, hup, _, _, hbefore⟩ := h.runs last hrow hu ha
  refine latest_filter (mem_expire.mpr ⟨last, hrow, if_pos ⟨hu, hdue⟩⟩) ?_ fun y hy hp => ?_
  · simp only [decide_eq_true_eq]
    exact ⟨hu, trivial, .inr hup⟩
  · simp only [decide_eq_true_eq] at hp
    obtain ⟨r, hr, rfl⟩ := mem_expire.mp hy
    split_ifs at hp ⊢ with hc
    · exact hmax r (mem_running.mpr ⟨hr, hc.1, hc.2.1⟩)
    · exact .inl (hbefore r hr hp.1 fun hact => by rw [hact] at hp; cases hp.2.1)

/-- **The expiry of the user's subscriptions keeps what will be restored, and restores it at the end.** -/
theorem GroupInv.expire (h : GroupInv userId initial db)
    (hdue : ∃ s ∈ db.subscriptions.rows, s.userId = userId ∧ s.Due db.clock) :
    GroupInv userId initial (expireUserSubscriptions db.clock db userId) := by
  have hrunning : ∀ s, s ∈ (db.expire db.clock userId).running userId ↔
      s ∈ db.running userId ∧ (db.clock : ℤ) < s.endTime := fun s => mem_running_expire h
  unfold expireUserSubscriptions
  dsimp only
  split
  next hsome =>
    -- a subscription is still running
    refine h.of_expire rfl rfl rfl h.user (fun hno => ?_) fun _ => rfl
    obtain ⟨s, hs⟩ := Option.isSome_iff_exists.mp hsome
    have hs := mem_filter.mp (latest_spec hs).1
    simp only [decide_eq_true_eq] at hs
    have hrun : s ∈ (db.expire db.clock userId).running userId := mem_running.mpr ⟨hs.1, hs.2.1, hs.2.2.1⟩
    rw [show (db.expire db.clock userId).running userId = [] from hno] at hrun
    cases hrun
  next hnone =>
    have hno : (db.expire db.clock userId).running userId = [] := by
      refine eq_nil_iff_forall_not_mem.mpr fun s hs => ?_
      obtain ⟨hrow, hu, ha⟩ := mem_running.mp hs
      obtain ⟨hrun, hlt⟩ := (hrunning s).mp hs
      have hup := (h.runs s (mem_running.mp hrun).1 hu ha).2.1
      rw [Option.not_isSome_iff_eq_none, latest_eq_none] at hnone
      refine eq_nil_iff_forall_not_mem.mp hnone s (mem_filter.mpr ⟨hrow, ?_⟩)
      simp only [decide_eq_true_eq]
      exact ⟨hu, ha, hlt, hup⟩
    obtain ⟨s, hs, hu, hsd⟩ := hdue
    have hne : db.running userId ≠ [] := ne_nil_of_mem (mem_running.mpr ⟨hs, hu, hsd.1⟩)
    obtain ⟨last, hl, hmax⟩ := exists_last hne
    have hlast : last.Due db.clock := by
      obtain ⟨hrow, hu, ha⟩ := mem_running.mp hl
      refine ⟨ha, (h.runs last hrow hu ha).2.2.2.1, not_lt.mp fun hlt => ?_⟩
      have := (hrunning last).mpr ⟨hl, hlt⟩
      rw [hno] at this
      cases this
    have hlatest := latest_expired h hl hmax hlast
    have hinit : expiredGroup { last with status := .expired } (db.userGroup userId) = initial := h.last last hl hmax
    split
    next hc => cases hc.symm.trans hlatest
    next last' hc =>
      cases hc.symm.trans hlatest
      split
      next htarget =>
        exact h.of_expire rfl rfl rfl h.user (fun _ => htarget.symm.trans hinit) fun _ => rfl
      · refine h.of_expire rfl rfl rfl (isSome_setUserGroup h.user _ _) (fun _ => ?_) fun hne => absurd hno hne
        have huser : ((db.expire db.clock userId).users.get? userId).isSome := h.user
        exact (userGroup_setUserGroup huser _).trans hinit

theorem expireUserSubscriptions_clock (now : ℤ) (db : SubscriptionDB) (o : ℤ) :
    (expireUserSubscriptions now db o).clock = db.clock ∧
      (expireUserSubscriptions now db o).subscriptions = (db.expire now o).subscriptions := by
  rcases expireUserSubscriptions_cases now db o with he | ⟨_, he⟩ <;>
  · rw [he]
    exact ⟨rfl, rfl⟩

theorem due_of_mem_dueUsers {limit : ℤ} (h : userId ∈ dueUsers limit now db) :
    ∃ s ∈ db.subscriptions.rows, s.userId = userId ∧ s.Due now := by
  unfold dueUsers at h
  obtain ⟨h, _⟩ := mem_filter.mp (mem_dedup.mp h)
  obtain ⟨s, hs, rfl⟩ := mem_map.mp h
  have hs := (mem_insertionSort _).mp (mem_of_mem_take hs)
  obtain ⟨hrow, hdue⟩ := mem_filter.mp hs
  exact ⟨s, hrow, rfl, by simpa using hdue⟩

theorem GroupInv.expireUsers {users : List ℤ} (h : GroupInv userId initial db) (hnodup : users.Nodup)
    (hdue : userId ∈ users → ∃ s ∈ db.subscriptions.rows, s.userId = userId ∧ s.Due now) (hnow : now = db.clock) :
    GroupInv userId initial (users.foldl (expireUserSubscriptions now) db) := by
  induction users generalizing db with
  | nil => exact h
  | cons o users ih =>
    obtain ⟨ho, hrest⟩ := nodup_cons.mp hnodup
    obtain ⟨hclock, hsubs⟩ := expireUserSubscriptions_clock now db o
    by_cases he : userId = o
    · subst he hnow
      exact ih (h.expire (hdue mem_cons_self)) hrest (fun hmem => absurd hmem ho) (by rw [hclock])
    · refine ih (h.expire_other he) hrest (fun hmem => ?_) (by rw [hclock, hnow])
      obtain ⟨s, hs, hu, hd⟩ := hdue (mem_cons_of_mem _ hmem)
      refine ⟨s, ?_, hu, hd⟩
      rw [hsubs]
      exact (mem_expire_other now he hu).mpr hs

/-! ## Runs -/

section Runs

variable [Calendar]

/-- The user buys plans with a group and without a group to downgrade to, and the purchases are restorable. -/
def GroupOp.Safe (userId : ℤ) (db : SubscriptionDB) : GroupOp → Prop
  | .purchase o plan _ => o = userId → plan.Upgrades ∧ Restorable userId plan db
  | _ => True

instance (userId : ℤ) (db : SubscriptionDB) (op : GroupOp) : Decidable (op.Safe userId db) := by
  cases op <;> unfold GroupOp.Safe <;> infer_instance

theorem GroupInv.step {op : GroupOp} (h : GroupInv userId initial db) (hsafe : op.Safe userId db) :
    GroupInv userId initial (groupStep db op) := by
  cases op with
  | purchase o =>
    unfold groupStep
    dsimp only
    split
    next hok =>
      by_cases he : o = userId
      · subst he
        exact h.purchase (hsafe rfl).1 (hsafe rfl).2 hok
      · exact h.purchase_other (Ne.symm he) hok
    · exact h
  | expireDueSubscriptions =>
    exact h.expireUsers (nodup_dedup _) due_of_mem_dueUsers rfl
  | pass => exact h.transfer rfl (fun _ _ => Iff.rfl) h.ids (Nat.le_add_right _ _)

/-- **In every run of purchases of plans with a group, all of them restorable, and of expiry runs, a user without a
running subscription with a group, all of whose due subscriptions have been expired, is in the group of the start.** -/
theorem group_restored (db : SubscriptionDB) (userId : ℤ) (huser : (db.users.get? userId).isSome)
    (hids : ∀ s ∈ db.subscriptions.rows, s.id < db.nextSubscriptionID)
    (hstart : ∀ s ∈ db.subscriptions.rows, s.userId = userId → s.status ≠ .active ∧ s.endTime ≤ db.clock)
    (l : List GroupOp) (hl : Runs.Along groupStep (fun db op => op.Safe userId db) db l) :
    let db' := Runs.run groupStep db l
    (∀ s ∈ db'.running userId, s.upgradeGroup ≠ "" → s.endTime ≤ db'.clock) →
    (∀ s ∈ db'.running userId, ¬ s.Due db'.clock) → db'.userGroup userId = db.userGroup userId := by
  intro db' hactive hdue
  have hnone : ∀ s, s ∉ db.running userId := fun s hs =>
    (hstart s (mem_running.mp hs).1 (mem_running.mp hs).2.1).1 (mem_running.mp hs).2.2
  have hinv : GroupInv userId (db.userGroup userId) db := by
    refine ⟨huser, hids, fun s hs hu _ => (hstart s hs hu).2, fun s hs hu ha => ?_, fun _ => rfl, fun s hs => ?_⟩
    · exact absurd ha (hstart s hs hu).1
    · exact absurd hs (hnone s)
  have hrun : GroupInv userId (db.userGroup userId) db' :=
    Runs.run_invariant_along (fun _ _ h hs => h.step hs) hinv hl
  refine hrun.idle (eq_nil_iff_forall_not_mem.mpr fun s hs => hdue s hs ?_)
  obtain ⟨hrow, hu, ha⟩ := mem_running.mp hs
  obtain ⟨_, hup, _, hpos, _⟩ := hrun.runs s hrow hu ha
  exact ⟨ha, hpos, hactive s hs hup⟩

end Runs

def samplePlan (group : String) : SubscriptionPlan := { id := 1, durationUnit := .day, upgradeGroup := group }

def sampleGroupDB : SubscriptionDB where
  clock := 1000
  users := ⟨[{ id := 1, email := "a@b.c", emailVerifiedAt := 0, inviterId := 0 }], pairwise_singleton _ _⟩

theorem group_restored_of_two_purchases :
    let l : List GroupOp := [.purchase 1 (samplePlan "vip") "order", .pass 90000, .expireDueSubscriptions 0,
      .purchase 1 (samplePlan "svip") "order", .pass 90000, .expireDueSubscriptions 0]
    let db := Runs.run (@groupStep sampleCalendar) sampleGroupDB l
    (Runs.run (@groupStep sampleCalendar) sampleGroupDB (l.take 1)).userGroup 1 = "vip" ∧
      db.userGroup 1 = sampleGroupDB.userGroup 1 := by
  intro l db
  have hrun : (Runs.run (@groupStep sampleCalendar) sampleGroupDB (l.take 1)).userGroup 1 = "vip" ∧
      db.running 1 = [] ∧ (Runs.Along (@groupStep sampleCalendar)
        (fun db op => @GroupOp.Safe sampleCalendar 1 db op) sampleGroupDB l) := by decide
  refine ⟨hrun.1, @group_restored sampleCalendar sampleGroupDB 1 rfl (by decide) (by decide) l hrun.2.2 ?_ ?_⟩
  · rw [show Runs.run _ _ _ = db from rfl, hrun.2.1]
    exact fun _ hs => (by cases hs)
  · rw [show Runs.run _ _ _ = db from rfl, hrun.2.1]
    exact fun _ hs => (by cases hs)

/-- A renewal of the same plan records no group, and ends last: the user keeps the group of the plan. -/
theorem renewal_keeps_group :
    let l : List GroupOp := [.purchase 1 (samplePlan "vip") "order", .pass 10, .purchase 1 (samplePlan "vip") "order",
      .pass 90000, .expireDueSubscriptions 0]
    let db := Runs.run (@groupStep sampleCalendar) sampleGroupDB l
    db.running 1 = [] ∧ sampleGroupDB.userGroup 1 = "default" ∧ db.userGroup 1 = "vip" := by
  decide

end Desktop2Stereo
