import Desktop2Stereo.Licence.Slots

/-!
# Offline deadlines

Two bounds on the deadline of an offline entitlement, and what each of them rests on.

* `Capped`: no licence has an offline deadline behind its own expiry; `StartsWithin`: a bind that starts a
  trial finds no later deadline; **`entitlement_within_licence`**;
* `extensionsOf`: the paid extensions of a licence; `Bounded`: outside permanent mode a deadline lies within
  30 days and the paid extensions; `ReleasesWithin`: a manual unbind is approved within that bound;
  **`offline_period_bounded`**.
-/

namespace Desktop2Stereo

open Relational GoText D2SLicense Table

/-! ## Within the life of the licence -/

/-- The offline deadline lies within the life of the licence, if it ends. -/
def D2SLicense.Capped (l : D2SLicense) : Prop := 0 < l.expiresAt → l.offlineValidUntil ≤ l.expiresAt

variable {l : D2SLicense} {now requestedDays : ℤ}

theorem D2SLicense.Capped.deadline (h : l.Capped) (hpos : 0 < l.expiresAt) :
    l.offlineDeadline requestedDays now ≤ l.expiresAt := by
  have hcap := h hpos
  unfold D2SLicense.offlineDeadline
  simp only [hpos, true_and]
  split_ifs <;> omega

theorem D2SLicense.Capped.extended (h : l.Capped) : (l.extended now).Capped := by
  intro hpos
  have hpos' : 0 < l.expiresAt := hpos
  have hcap := h hpos'
  show (if 0 < l.expiresAt ∧ l.expiresAt < _ then l.expiresAt else _) ≤ l.expiresAt
  simp only [hpos', true_and]
  split_ifs <;> omega

theorem D2SLicense.Capped.bound (h : l.Capped) {deviceHash : String} {fingerprintVersion : ℤ}
    (hstart : l.kind = .trial → l.activatedAt = 0 → l.expiresAt = 0 → l.offlineValidUntil ≤ now + 30 * day) :
    (l.bound deviceHash fingerprintVersion now).Capped := by
  intro hpos
  unfold D2SLicense.bound at hpos ⊢
  simp only at hpos ⊢
  split_ifs at hpos ⊢ with hs
  · exact hstart hs.1 hs.2.1 hs.2.2
  · exact h hpos

section Capped

variable [Digest] {s : State} {op : Op}

/-- A bind that starts a trial finds no offline deadline behind the expiry that it sets. -/
def StartsWithin (s : State) : Op → Prop
  | .request (.bind e userID licenseID deviceHash fingerprintVersion now) =>
    Commits (bindD2SLicense e userID licenseID deviceHash fingerprintVersion now) s.db →
    ∀ l ∈ s.db.licenses.get? licenseID, l.kind = .trial → l.activatedAt = 0 → l.expiresAt = 0 →
      l.offlineValidUntil ≤ e.resolve now + 30 * day
  | _ => True

instance (s : State) (op : Op) : Decidable (StartsWithin s op) := by
  unfold StartsWithin
  split <;> infer_instance

theorem SlotMove.capped {t : Trans} {db db' : DB} {id : String} {a b : Slot} (h : SlotMove t db db' id a b)
    (ha : ∀ l, a.license = some l → l.Capped)
    (hstart : ∀ e userID deviceHash fingerprintVersion now l,
      t = .request (.bind e userID id deviceHash fingerprintVersion now) → a.license = some l →
      l.kind = .trial → l.activatedAt = 0 → l.expiresAt = 0 → l.offlineValidUntil ≤ e.resolve now + 30 * day) :
    ∀ l, b.license = some l → l.Capped := by
  intro l hl
  cases h with
  | same | leased | renewed | leaseEnded => exact ha l hl
  | created hnone hc =>
    cases hl
    intro hpos
    rw [hc.expiresAt] at hpos
    exact absurd hpos (lt_irrefl 0)
  | bound ht hk =>
    cases hl
    exact (ha _ hk).bound fun hkind hact hexp => hstart _ _ _ _ _ _ ht hk hkind hact hexp
  | moded ht hk | revoked hk | suspended hk | released ht hst hk =>
    cases hl
    have hcap := ha _ hk
    exact hcap
  | issued ht hk =>
    cases hl
    exact (ha _ hk).deadline
  | extended hpays hk =>
    cases hl
    exact (ha _ hk).extended

/-- Every licence of the database is capped. -/
def Capped (db : DB) : Prop := ∀ id l, db.licenses.get? id = some l → l.Capped

theorem capped_step (hI : Capped s.db) (hop : StartsWithin s op) : Capped (step s op).db := by
  refine step_db hI fun t ht db' hr id => (slotMove hr id).capped (hI id) ?_
  rintro e userID deviceHash fingerprintVersion now l rfl hl
  obtain rfl := runs_request ht (fun _ _ _ h => nomatch h)
  obtain ⟨r, hr⟩ := run_forget_ok.mp hr
  exact hop ⟨_, hr⟩ l hl

/-- **An entitlement does not outlive its licence** in any run in which every bind that starts a trial
finds no offline deadline behind the new expiry: the signed deadline and the stored one are at most the
expiry of the licence, if it has one. -/
theorem entitlement_within_licence (users : Table User) (options : Table OptionRow)
    (controls : Table D2SUserSecurityControl) (ops : List Op)
    (hops : Runs.Along step StartsWithin (.init users options controls) ops) (e : Env) (c : Crypto)
    (userID : ℤ) (licenseID deviceHash devicePublicKey : String) (requestedDays now : ℤ)
    (r : String × D2SOfflineClaims) (db' : DB)
    (hissue : (issueD2SOfflineEntitlement e c userID licenseID deviceHash devicePublicKey requestedDays now).run
      (run (.init users options controls) ops).db = .ok (r, db')) :
    ∃ l', db'.licenses.get? licenseID = some l' ∧
      (0 < l'.expiresAt → r.2.expiresAt ≤ l'.expiresAt ∧ l'.offlineValidUntil ≤ l'.expiresAt) := by
  obtain ⟨l, _, _, hl, -, -, hexp, -, -, -, rfl⟩ := issueD2SOfflineEntitlement_ok hissue
  have hcap : l.Capped := Runs.run_invariant_along (I := fun s : State => Capped s.db) (fun _ _ => capped_step)
    (fun _ _ hl => absurd hl.symm (Option.some_ne_none _)) hops licenseID l hl
  refine ⟨_, (get?_license_modify (fun _ => by rfl) hl licenseID).trans (if_pos rfl), fun hpos => ?_⟩
  exact ⟨hexp.trans_le (hcap.deadline hpos), hcap.deadline hpos⟩

end Capped

/-- A trial that is bound and goes offline at once. -/
def sampleOffline : List Op :=
  [.request (.ensureProfileAndTrial (.sample 0) 1 1000),
    .request (.bind (.sample 1) 1 "license-0" sampleHex 1 1000),
    .request (.changeMode (.sample 2) 1 "license-0" sampleHex "offline" "" 30 1000)]

theorem entitlement_within_trial :
    letI := Digest.plain
    let s := run .sample sampleOffline
    ∃ r db' l', (issueD2SOfflineEntitlement (.sample 3) .sample 1 "license-0" sampleHex "" 30 2000).run s.db = .ok (r, db') ∧
      db'.licenses.get? "license-0" = some l' ∧ 0 < l'.expiresAt ∧ r.2.expiresAt ≤ l'.expiresAt := by
  let _ := Digest.plain
  obtain ⟨hissue, hops⟩ : ((issueD2SOfflineEntitlement (.sample 3) .sample 1 "license-0" sampleHex "" 30 2000).run
        (run .sample sampleOffline).db).map (fun x => (x.2.licenses.get? "license-0").map D2SLicense.expiresAt) =
        .ok (some (1000 + 30 * 86400)) ∧ Runs.Along step StartsWithin .sample sampleOffline := by decide +kernel
  obtain ⟨⟨r, db'⟩, h, hexp⟩ := except_map_ok.mp hissue
  obtain ⟨l', hl', hle⟩ := entitlement_within_licence _ _ _ sampleOffline hops _ _ _ _ _ _ _ _ r db' h
  have hpos : 0 < l'.expiresAt := by
    rw [hl'] at hexp
    rw [show l'.expiresAt = 1000 + 30 * 86400 from Option.some.inj hexp]
    decide
  exact ⟨r, db', l', h, hl', hpos, (hle hpos).1⟩

/-- Two extensions of a trial that is not started yet move its offline deadline 60 days on; the first bind
then sets its expiry 30 days on. -/
def sampleEarlyExtensions : List Op :=
  [.request (.ensureProfileAndTrial (.sample 0) 1 1000)] ++
    sampleOrder 1 (.sample .offlineExtension "license-0" 100 0) 1000 ++
    sampleOrder 2 (.sample .offlineExtension "license-0" 100 0) 1000 ++
    [.request (.bind (.sample 3) 1 "license-0" sampleHex 1 1000),
      .request (.changeMode (.sample 4) 1 "license-0" sampleHex "offline" "" 30 1000)]

theorem entitlement_outlives_trial :
    letI := Digest.plain
    let s := run .sample sampleEarlyExtensions
    ((issueD2SOfflineEntitlement (.sample 5) .sample 1 "license-0" sampleHex "" 30 1000).run s.db).map
        (fun x => (x.1.2.expiresAt, (x.2.licenses.get? "license-0").map fun l => (l.offlineValidUntil, l.expiresAt))) =
      .ok (1000 + 60 * 86400, some (1000 + 60 * 86400, 1000 + 30 * 86400)) := by
  decide +kernel

/-! ## Within 30 days and the paid extensions -/

/-- The paid extensions of a licence; a charge-back does not take one back. -/
def extensionsOf (db : DB) (licenseID : String) : ℕ :=
  db.orders.count fun o =>
    o.licenseID = licenseID ∧ o.product = .offlineExtension ∧ (o.status = .paid ∨ o.status = .chargeback)

variable {T : ℤ}

/-- The bound on an offline deadline at time `T` after `k` paid extensions. -/
def offlineBound (T : ℤ) (k : ℕ) : ℤ := T + 30 * day + k * (30 * day)

theorem offlineBound_mono {k k' : ℕ} (h : k ≤ k') : offlineBound T k ≤ offlineBound T k' := by
  unfold offlineBound
  have : (k : ℤ) ≤ k' := by exact_mod_cast h
  simp only [day]
  omega

theorem validateD2SOfflinePeriod_le {days : ℤ} (h : validateD2SOfflinePeriod days = true) : days ≤ 30 := by
  have := of_decide_eq_true h
  omega

theorem D2SLicense.deadline_le {k : ℕ} {deviceHash : String} (hready : l.offlineReady deviceHash requestedDays now)
    (hmode : l.mode = .offline) (hnow : now ≤ T) (hb : l.offlineValidUntil ≤ offlineBound T k) :
    l.offlineDeadline requestedDays now ≤ offlineBound T k := by
  have hdays := validateD2SOfflinePeriod_le (hready.2.2.2 hmode).1
  unfold D2SLicense.offlineDeadline
  unfold offlineBound at hb ⊢
  simp only [hmode, reduceCtorEq, if_false, day] at hb ⊢
  split_ifs <;> omega

theorem D2SLicense.extended_le {k : ℕ} (hnow : now ≤ T) (hb : l.offlineValidUntil ≤ offlineBound T k) :
    (l.extended now).offlineValidUntil ≤ offlineBound T (k + 1) := by
  unfold D2SLicense.extended
  unfold offlineBound at hb ⊢
  push_cast
  simp only [day] at hb ⊢
  split_ifs <;> omega

section Bounded

variable [Digest] {t : Trans} {db db' : DB} {id : String} {s : State} {op : Op}

theorem extension_kept (h : t.tx.run db = .ok ((), db')) (o : D2SOrder) (ho : o ∈ db.orders.rows)
    (hp : decide (o.licenseID = id ∧ o.product = .offlineExtension ∧ (o.status = .paid ∨ o.status = .chargeback)) = true) :
    ∃ o' ∈ db'.orders.rows,
      decide (o'.licenseID = id ∧ o'.product = .offlineExtension ∧ (o'.status = .paid ∨ o'.status = .chargeback)) = true ∧
      pk o' = pk o := by
  obtain ⟨hid, hprod, hst⟩ := of_decide_eq_true hp
  obtain ⟨δ, hmove, -⟩ := orderMove h o.id
  rw [show db.orders.get? o.id = some o from get?_pk ho] at hmove
  obtain ⟨_, _, ho', hst'⟩ := hmove.fulfilled hst
  exact ⟨_, (get?_eq_some.mp ho').1, decide_eq_true ⟨hid, hprod, hst'⟩, rfl⟩

theorem extensionsOf_mono (h : t.tx.run db = .ok ((), db')) : extensionsOf db id ≤ extensionsOf db' id :=
  count_le_count (extension_kept h)

/-- Outside permanent mode the offline deadline of the licence lies within the bound. -/
def D2SLicense.BoundedBy (l : D2SLicense) (T : ℤ) (k : ℕ) : Prop :=
  l.mode ≠ .permanent → l.offlineValidUntil ≤ offlineBound T k

theorem SlotMove.bounded {a b : Slot} {k k' : ℕ} (h : SlotMove t db db' id a b) (hT : 0 ≤ T) (hk : k ≤ k')
    (ha : ∀ l, a.license = some l → l.BoundedBy T k)
    (hissue : ∀ e c userID deviceHash key days now,
      t = .request (.issueOffline e c userID id deviceHash key days now) → e.resolve now ≤ T)
    (hpaid : ∀ (order : D2SOrder) now, t.paysAt now → order.licenseID = id → order.product = .offlineExtension →
      order.status = .paid → db'.orders.get? order.id = some order →
      (∀ o, db.orders.get? order.id = some o → o.status = .pending) → now ≤ T ∧ k < k')
    (hrelease : ∀ e adminID (r : D2SManualUnbindRequest) status note now audit l,
      t = .request (.reviewManualUnbind e adminID r.id status note now audit) →
      UnbindStatus.ofReview status = some .approved → r.licenseID = id → db.unbinds.get? r.id = some r →
      a.license = some l → l.offlineValidUntil ≤ offlineBound T k) :
    ∀ l, b.license = some l → l.BoundedBy T k' := by
  intro l hl hmode
  have hmono : offlineBound T k ≤ offlineBound T k' := offlineBound_mono hk
  cases h with
  | same | leased | renewed | leaseEnded => exact (ha l hl hmode).trans hmono
  | created hnone hc =>
    cases hl
    have hzero : (0 : ℤ) ≤ offlineBound T k' := by
      unfold offlineBound
      simp only [day]
      omega
    rw [hc.offlineValidUntil]
    exact hzero
  | @bound l0 e userID deviceHash fv now ht hk0 =>
    cases hl
    refine (ha _ hk0 fun hp => hmode ?_).trans hmono
    simp [D2SLicense.bound, hp]
  | moded ht hk0 hne hperm =>
    cases hl
    exact (ha _ hk0 fun hp => hmode (hperm hp)).trans hmono
  | revoked hk0 hne =>
    cases hl
    exact (ha _ hk0 hne).trans hmono
  | issued ht hk0 hready =>
    cases hl
    have hoff := hready.2.2.1.resolve_right hmode
    exact (deadline_le hready hoff (hissue _ _ _ _ _ _ _ ht) (ha _ hk0 hmode)).trans hmono
  | extended hpays hk0 hid hp hst hafter hbefore =>
    cases hl
    obtain ⟨hnow, hlt⟩ := hpaid _ _ hpays hid hp hst hafter hbefore
    exact (extended_le hnow (ha _ hk0 hmode)).trans (offlineBound_mono hlt)
  | suspended hk0 =>
    cases hl
    exact (ha _ hk0 hmode).trans hmono
  | released ht hst hk0 hperm hid hpend hr =>
    cases hl
    exact (hrelease _ _ _ _ _ _ _ _ ht hst hid hr hk0).trans hmono

/-- A manual unbind that is approved at `now` finds the offline deadline of its licence within 30 days
of `now` and the paid extensions. -/
def ReleasesWithin (s : State) : Op → Prop
  | .request (.reviewManualUnbind e adminID requestID status note now audit) =>
    UnbindStatus.ofReview status = some .approved →
    Commits (reviewD2SManualUnbind e adminID requestID status note now audit) s.db →
    ∀ r ∈ s.db.unbinds.get? requestID, ∀ l ∈ s.db.licenses.get? r.licenseID,
      l.offlineValidUntil ≤ offlineBound now (extensionsOf s.db r.licenseID)
  | _ => True

instance (s : State) (op : Op) : Decidable (ReleasesWithin s op) := by
  unfold ReleasesWithin
  split <;> infer_instance

/-- Every licence is within the bound, and no prepared order is from the future. -/
def Bounded (T : ℤ) (s : State) : Prop :=
  (∀ id l, s.db.licenses.get? id = some l → l.BoundedBy T (extensionsOf s.db id)) ∧ ∀ p ∈ s.preparedOrders, p.now ≤ T

theorem bounded_step (hT : 0 ≤ T) (hI : Bounded T s) (hop : ReleasesWithin s op)
    (hclock : ∀ c ∈ op.clock, c ≤ T) : Bounded T (step s op) := by
  refine ⟨fun id => ?_, fun p hp => ?_⟩
  · rcases step_trans s op with heq | ⟨t, ht, hr⟩
    · rw [heq]
      exact hI.1 id
    · refine (slotMove hr id).bounded hT (extensionsOf_mono hr) (hI.1 id) ?_ ?_ ?_
      · rintro e c userID deviceHash key days now rfl
        obtain rfl := runs_request ht (fun _ _ _ h => nomatch h)
        exact hclock _ rfl
      · intro order now hpays hid hp hst hafter hbefore
        constructor
        · unfold Trans.paysAt at hpays
          split at hpays
          · next e notice =>
            obtain rfl := runs_request ht (fun _ _ _ h => nomatch h)
            exact hclock now (by rw [hpays]; rfl)
          · next e p => exact hpays.trans_le (hI.2 p (runs_commitOrder ht))
          · exact hpays.elim
        · refine count_lt_count (extension_kept hr) (get?_eq_some.mp hafter).1 (decide_eq_true ⟨hid, hp, .inl hst⟩) ?_
          intro o ho hpo hk
          have hpend := hbefore o (get?_eq_some.mpr ⟨ho, hk⟩)
          obtain ⟨-, -, hst'⟩ := of_decide_eq_true hpo
          rw [hpend] at hst'
          rcases hst' with h | h <;> cases h
      · rintro e adminID r status note now audit l rfl hst hid hr' hl
        obtain rfl := runs_request ht (fun _ _ _ h => nomatch h)
        obtain ⟨q, hq⟩ := run_forget_ok.mp hr
        have hle := hop hst ⟨_, hq⟩ r hr' l (hid ▸ hl)
        rw [hid] at hle
        have hnow := hclock _ rfl
        unfold offlineBound at hle ⊢
        omega
  · rcases step_preparedOrders hp with hp | ⟨e, _, _, _, _, _, _, _, _, rfl, hprep⟩
    · exact hI.2 p hp
    · exact (prepareD2SOrder_inr hprep).1.trans_le (hclock _ rfl)

/-- **The offline period is bounded** in any run in which every approved manual unbind finds the
deadline within the bound: an entitlement that is issued at `now`, behind all that happened before, for
a licence in offline mode runs out within 30 days of `now` and 30 days for each paid extension. -/
theorem offline_period_bounded (users : Table User) (options : Table OptionRow)
    (controls : Table D2SUserSecurityControl) (ops : List Op)
    (hops : Runs.Along step ReleasesWithin (.init users options controls) ops) (e : Env) (c : Crypto)
    (userID : ℤ) (licenseID deviceHash devicePublicKey : String) (requestedDays now : ℤ)
    (r : String × D2SOfflineClaims) (db' : DB)
    (hclock : ∀ op ∈ ops, ∀ n ∈ op.clock, n ≤ e.resolve now)
    (hissue : (issueD2SOfflineEntitlement e c userID licenseID deviceHash devicePublicKey requestedDays now).run
      (run (.init users options controls) ops).db = .ok (r, db')) (hmode : r.2.mode = .offline) :
    r.2.expiresAt ≤ e.resolve now + 30 * 86400 +
      extensionsOf (run (.init users options controls) ops).db licenseID * (30 * 86400) := by
  obtain ⟨l, _, _, hl, -, hready, hexp, -, hmode', -⟩ := issueD2SOfflineEntitlement_ok hissue
  have hoff : l.mode = .offline := hmode'.symm.trans hmode
  have hbounded : Bounded (e.resolve now) (run (.init users options controls) ops) :=
    Runs.run_invariant_along (fun _ _ hI hop => bounded_step (e.resolve_pos now).le hI hop.1 hop.2)
      ⟨fun _ _ hl => absurd hl.symm (Option.some_ne_none _), fun _ hp => absurd hp List.not_mem_nil⟩
      (hops.and_forall hclock)
  have hb := hbounded.1 licenseID l hl (by rw [hoff]; decide)
  rw [hexp]
  exact deadline_le hready hoff (le_refl _) hb

end Bounded

/-- A permanent licence is unbound by an approved request, bound again and used offline. -/
def sampleReleased (issued : List Op) : List Op :=
  [.request (.ensureProfileAndTrial (.sample 0) 1 1000)] ++ sampleOrder 1 (.sample .license "" 2990 0) 1000 ++
    [.request (.bind (.sample 2) 1 "license-1" sampleHex 1 1000),
      .request (.changeMode (.sample 3) 1 "license-1" sampleHex "permanent" "PERMANENT" 0 1000)] ++
    issued ++
    [.request (.createManualUnbind (.sample 5) 1 "license-1" "lost" "" 1000),
      .request (.reviewManualUnbind (.sample 6) 1 "request-5" "approved" "" 1000 none),
      .request (.bind (.sample 7) 1 "license-1" sampleHex 1 1000),
      .request (.changeMode (.sample 8) 1 "license-1" sampleHex "offline" "" 30 1000)]

theorem offline_period_bounded_released :
    letI := Digest.plain
    let s := run .sample (sampleReleased [])
    ∃ r db', (issueD2SOfflineEntitlement (.sample 9) .sample 1 "license-1" sampleHex "" 30 1000).run s.db = .ok (r, db') ∧
      r.2.mode = .offline ∧ r.2.expiresAt ≤ 1000 + 30 * 86400 + extensionsOf s.db "license-1" * (30 * 86400) := by
  let _ := Digest.plain
  obtain ⟨hissue, hops⟩ : ((issueD2SOfflineEntitlement (.sample 9) .sample 1 "license-1" sampleHex "" 30 1000).run
        (run .sample (sampleReleased [])).db).map (fun x => x.1.2.mode) = .ok .offline ∧
      Runs.Along step ReleasesWithin .sample (sampleReleased []) := by decide +kernel
  obtain ⟨⟨r, db'⟩, h, hmode⟩ := except_map_ok.mp hissue
  exact ⟨r, db', h, hmode, offline_period_bounded _ _ _ (sampleReleased []) hops _ _ _ _ _ _ _ _
    r db' (by decide) h hmode⟩

/-- An entitlement of the permanent licence stores the deadline of the year 9999 with it, and the
approved request leaves it there. -/
theorem offline_period_unbounded :
    letI := Digest.plain
    let s := run .sample
      (sampleReleased [.request (.issueOffline (.sample 4) .sample 1 "license-1" sampleHex "" 0 1000)])
    ((issueD2SOfflineEntitlement (.sample 9) .sample 1 "license-1" sampleHex "" 30 1000).run s.db).map
        (fun x => (x.1.2.mode, x.1.2.expiresAt)) = .ok (.offline, d2sPermanentDeadline) ∧
      extensionsOf s.db "license-1" = 0 := by
  decide +kernel

end Desktop2Stereo
