import Desktop2Stereo.Effects.Aside
import Desktop2Stereo.Licence.Binding
import Desktop2Stereo.Order.Fulfilment

/-!
# The cooldown of a free revoke

A free revoke takes a licence off its device, and the offline entitlement of that device stays valid until it
runs out. The cooldown is to last as long. Its length is the offline period that the licence has at the revoke,
which may be shorter than the one that an entitlement was issued for.

* **`free_revoke_outlasts`**: then a free revoke finds the other devices without an entitlement, and two devices at
  most hold one.
-/

namespace Desktop2Stereo

open Relational GoText

/-! ## Entitlements that have not run out -/

/-- The entitlements of the licence that have not run out. -/
def unexpired (entitlements : Table D2SOfflineEntitlement) (licenseID : String) (now : ℤ) : List D2SOfflineEntitlement :=
  entitlements.rows.filter fun w => w.licenseID = licenseID ∧ now < w.expiresAt

/-- The devices that hold an entitlement of the licence that has not run out. -/
def offlineDevices (db : DB) (licenseID : String) (now : ℤ) : List String :=
  ((unexpired db.entitlements licenseID now).map D2SOfflineEntitlement.deviceHash).dedup

variable {id : String} {T now : ℤ} {l l' : D2SLicense} {E : List D2SOfflineEntitlement}
  {c : Option D2SFreeRevokeCooldown}

theorem mem_unexpired {entitlements : Table D2SOfflineEntitlement} {w : D2SOfflineEntitlement} :
    w ∈ unexpired entitlements id T ↔ w ∈ entitlements.rows ∧ w.licenseID = id ∧ T < w.expiresAt := by
  simp [unexpired]

theorem mem_unexpired_insert {t t' : Table D2SOfflineEntitlement} {r w : D2SOfflineEntitlement}
    (h : t.insert r = some t') (hw : w ∈ unexpired t' id T) : w = r ∧ r.licenseID = id ∨ w ∈ unexpired t id T := by
  obtain ⟨hm, hid, hexp⟩ := mem_unexpired.mp hw
  rcases (Table.mem_insert h).mp hm with hm | rfl
  · exact .inr (mem_unexpired.mpr ⟨hm, hid, hexp⟩)
  · exact .inl ⟨rfl, hid⟩

theorem offlineDevices_length_le {db : DB} {a b : String}
    (h : ∀ w ∈ unexpired db.entitlements id T, w.deviceHash = a ∨ w.deviceHash = b) :
    (offlineDevices db id T).length ≤ 2 := by
  have hsub : offlineDevices db id T ⊆ [a, b] := by
    intro x hx
    obtain ⟨w, hw, rfl⟩ := List.mem_map.mp (List.mem_dedup.mp hx)
    rw [List.mem_pair]
    exact h w hw
  exact (List.subperm_of_subset (List.nodup_dedup _) hsub).length_le

/-! ## Within the cooldown -/

/-- The entitlements `E` of the licence `l` with the cooldown `c`: those of devices that the licence has left run
out within the cooldown, and they are of one device. -/
structure Covered (E : List D2SOfflineEntitlement) (c : Option D2SFreeRevokeCooldown) (l : D2SLicense) : Prop where
  deadline : ∀ w ∈ E, w.expiresAt ≤ l.offlineValidUntil
  device : ∀ w ∈ E, w.deviceHash ≠ ""
  away : ∀ w ∈ E, w.deviceHash ≠ l.deviceHash → ∃ k, c = some k ∧ w.expiresAt ≤ k.nextAvailableAt
  two : ∃ d, ∀ w ∈ E, w.deviceHash = l.deviceHash ∨ w.deviceHash = d

theorem Covered.of_nil (h : ∀ w, w ∉ E) : Covered E c l :=
  ⟨fun w hw => absurd hw (h w), fun w hw => absurd hw (h w), fun w hw => absurd hw (h w),
    ⟨"", fun w hw => absurd hw (h w)⟩⟩

theorem Covered.mono (h : Covered E c l) {E' : List D2SOfflineEntitlement} (hE : ∀ w ∈ E', w ∈ E) : Covered E' c l := by
  obtain ⟨d, htwo⟩ := h.two
  exact ⟨fun w hw => h.deadline w (hE w hw), fun w hw => h.device w (hE w hw), fun w hw => h.away w (hE w hw),
    ⟨d, fun w hw => htwo w (hE w hw)⟩⟩

theorem Covered.congr (h : Covered E c l) (hd : l'.deviceHash = l.deviceHash)
    (hv : l.offlineValidUntil ≤ l'.offlineValidUntil) : Covered E c l' := by
  refine ⟨fun w hw => (h.deadline w hw).trans hv, h.device, ?_, ?_⟩
  · rw [hd]
    exact h.away
  · rw [hd]
    exact h.two

theorem Covered.bound (h : Covered E c l) (hd : l.deviceHash = "" ∨ l.deviceHash = l'.deviceHash)
    (hv : l'.offlineValidUntil = l.offlineValidUntil) : Covered E c l' := by
  rcases hd with hd | hd
  · refine ⟨fun w hw => (h.deadline w hw).trans hv.ge, h.device, fun w hw _ => ?_, ?_⟩
    · exact h.away w hw (hd ▸ h.device w hw)
    · obtain ⟨d, htwo⟩ := h.two
      exact ⟨d, fun w hw => .inr ((htwo w hw).resolve_left (hd ▸ h.device w hw))⟩
  · exact h.congr hd.symm hv.ge

theorem Covered.issued (h : Covered E c l) {w0 : D2SOfflineEntitlement} {E' : List D2SOfflineEntitlement}
    (hE : ∀ w ∈ E', w = w0 ∨ w ∈ E) (hd : w0.deviceHash = l.deviceHash) (hne : l.deviceHash ≠ "")
    (hd' : l'.deviceHash = l.deviceHash) (hv : l.offlineValidUntil ≤ l'.offlineValidUntil)
    (hexp : w0.expiresAt = l'.offlineValidUntil) : Covered E' c l' := by
  have hcov := h.congr hd' hv
  obtain ⟨d, htwo⟩ := hcov.two
  refine ⟨fun w hw => ?_, fun w hw => ?_, fun w hw haway => ?_, ⟨d, fun w hw => ?_⟩⟩
  all_goals rcases hE w hw with rfl | hw
  · exact hexp.le
  · exact hcov.deadline w hw
  · exact hd ▸ hne
  · exact hcov.device w hw
  · exact absurd (hd.trans hd'.symm) haway
  · exact hcov.away w hw haway
  · exact .inl (hd.trans hd'.symm)
  · exact htwo w hw

theorem Covered.only (h : Covered E c l) (hE : ∀ w ∈ E, T < w.expiresAt)
    (hover : ∀ k, c = some k → k.nextAvailableAt ≤ T) : ∀ w ∈ E, w.deviceHash = l.deviceHash := by
  intro w hw
  by_contra haway
  obtain ⟨k, hk, _⟩ := h.away w hw haway
  have hover' := hover k hk
  have hexp := hE w hw
  omega

theorem Covered.revoked (now : ℤ) (h : Covered E c l) (hE : ∀ w ∈ E, T < w.expiresAt)
    (hover : ∀ k, c = some k → k.nextAvailableAt ≤ T) {k : D2SFreeRevokeCooldown}
    (hcovers : l.offlineValidUntil ≤ k.nextAvailableAt) : Covered E (some k) (l.unbound now) :=
  ⟨h.deadline, h.device, fun w hw _ => ⟨k, rfl, (h.deadline w hw).trans hcovers⟩,
    ⟨l.deviceHash, fun w hw => .inr (h.only hE hover w hw)⟩⟩

/-! ## Transactions -/

/-- The entitlements of a slot are covered, and there are none without a licence. -/
structure CoveredSlot (E : List D2SOfflineEntitlement) (c : Option D2SFreeRevokeCooldown) (license : Option D2SLicense) :
    Prop where
  empty : license = none → ∀ w, w ∉ E
  covered : ∀ l, license = some l → Covered E c l

theorem coveredSlot_some (h : Covered E c l) : CoveredSlot E c (some l) := by
  refine ⟨fun hn => ?_, fun l' hl => ?_⟩
  · cases hn
  · cases hl
    exact h

abbrev CoveredAt (T : ℤ) (db : DB) (id : String) : Prop :=
  CoveredSlot (unexpired db.entitlements id T) (db.cooldowns.get? id) (db.licenses.get? id)

section Transactions

variable {t : Trans} {db db' : DB}

theorem D2SLicense.le_offlineDeadline (l : D2SLicense) (requestedDays now : ℤ) :
    l.offlineValidUntil ≤ l.offlineDeadline requestedDays now := le_max_left _ _

theorem paid_now {order : D2SOrder} (hpaid : ∀ o ∈ newlyPaid db db', o.licenseID = id → o.product = .license)
    (hid : order.licenseID = id) (hst : order.status = .paid) (hget : db'.orders.get? order.id = some order)
    (hbefore : ∀ o, db.orders.get? order.id = some o → o.status = .pending) : order.product = .license := by
  refine hpaid order (mem_newlyPaid.mpr ⟨(Table.get?_eq_some.mp hget).1, hst, fun o ho hp => ?_⟩) hid
  cases (hbefore o ho).symm.trans hp

theorem freeRevoke_covered {e : Env} {userID : ℤ} {licenseID deviceHash : String} {r : ℤ} (hI : CoveredAt T db id)
    (h : (freeRevokeD2SLicense e userID licenseID deviceHash now).run db = .ok (r, db'))
    (hcovers : licenseID = id → e.resolve now ≤ T ∧ ∀ l, db.licenses.get? id = some l →
      l.offlineValidUntil ≤ (l.revokeCooldown (e.resolve now)).nextAvailableAt) : CoveredAt T db' id := by
  obtain ⟨l, cooldowns, _, hl, -, -, -, -, -, hover, hsets, rfl⟩ := freeRevokeD2SLicense_ok h
  have hlid := license_id hl
  by_cases hid : licenseID = id
  · subst hid
    obtain ⟨hnow, hcovers⟩ := hcovers rfl
    have hcov := (hI.covered l hl).revoked (e.resolve now) (fun w hw => (mem_unexpired.mp hw).2.2)
      (fun k hk => (hover k hk).trans hnow) (hcovers l hl)
    have hk : cooldowns.get? licenseID = some (l.revokeCooldown (e.resolve now)) := (hsets _).trans (if_pos hlid)
    rw [CoveredAt, get?_license_modify (fun _ => by rfl) hl, if_pos rfl, hk]
    exact coveredSlot_some hcov
  · have hk : cooldowns.get? id = db.cooldowns.get? id := (hsets _).trans (if_neg fun h => hid (hlid.symm.trans h))
    rw [CoveredAt, get?_license_modify (fun _ => by rfl) hl, if_neg hid, hk]
    exact hI

variable [Digest]

theorem SlotMove.coveredSlot {s s' : Slot} (h : SlotMove t db db' id s s') (hI : CoveredSlot E c s.license)
    (hE : ∀ w ∈ E, T < w.expiresAt)
    (hfree : ∀ e userID deviceHash now, t ≠ .request (.freeRevoke e userID id deviceHash now))
    (hpaid : ∀ o ∈ newlyPaid db db', o.licenseID = id → o.product = .license)
    (hrelease : ∀ e adminID (r : D2SManualUnbindRequest) status note now audit l,
      t = .request (.reviewManualUnbind e adminID r.id status note now audit) →
      UnbindStatus.ofReview status = some .approved → r.licenseID = id → db.unbinds.get? r.id = some r →
      s.license = some l → l.offlineValidUntil ≤ T) : CoveredSlot E c s'.license := by
  cases h with
  | same | leased | renewed | leaseEnded => exact hI
  | created hl => exact coveredSlot_some (.of_nil (hI.empty hl))
  | bound ht hl hu huse hv hd => exact coveredSlot_some ((hI.covered _ hl).bound hd rfl)
  | moded ht hl | suspended hl => exact coveredSlot_some ((hI.covered _ hl).congr rfl le_rfl)
  | revoked hl hm hby =>
    cases hby with
    | free ht => exact absurd ht (hfree _ _ _ _)
    | paid hid hp hst hget hbefore => cases hp.symm.trans (paid_now hpaid hid hst hget hbefore)
  | issued ht hl => exact coveredSlot_some ((hI.covered _ hl).congr rfl (D2SLicense.le_offlineDeadline _ _ _))
  | extended hpays hl hid hp hst hget hbefore => cases hp.symm.trans (paid_now hpaid hid hst hget hbefore)
  | released ht hst hl hm hid hpend hr =>
    refine coveredSlot_some (.of_nil fun w hw => ?_)
    have hdead := (hI.covered _ hl).deadline w hw
    have hle := hrelease _ _ _ _ _ _ _ _ ht hst hid hr hl
    have hexp := hE w hw
    omega

theorem issueOffline_covered {e : Env} {k : Crypto} {userID requestedDays : ℤ}
    {licenseID deviceHash devicePublicKey : String} {r : String × D2SOfflineClaims} (hI : CoveredAt T db id)
    (hC : Consistent db)
    (h : (issueD2SOfflineEntitlement e k userID licenseID deviceHash devicePublicKey requestedDays now).run db =
      .ok (r, db')) : CoveredAt T db' id := by
  obtain ⟨l, _, entitlements, hl, -, hready, -, -, -, ⟨_, hins, hw0, hd, hexp⟩, rfl⟩ := issueD2SOfflineEntitlement_ok h
  by_cases hid : licenseID = id
  · subst hid
    -- a licence that is ready for offline use is bound
    have hne : l.deviceHash ≠ "" := fun hd => by
      have hmode := ((hC licenseID).2 l hl).unbound.mpr hd
      rcases hready.2.2.1 with h | h <;> cases hmode.symm.trans h
    rw [CoveredAt, get?_license_modify (fun _ => by rfl) hl, if_pos rfl]
    refine coveredSlot_some ((hI.covered l hl).issued (fun w hw => ?_) hd hne rfl (l.le_offlineDeadline _ _) hexp)
    exact (mem_unexpired_insert hins hw).imp And.left fun h => h
  · rw [CoveredAt, get?_license_modify (fun _ => by rfl) hl, if_neg hid]
    have hsame : ∀ w, w ∈ unexpired entitlements id T → w ∈ unexpired db.entitlements id T := fun w hw =>
      (mem_unexpired_insert hins hw).resolve_left fun h => hid (hw0.symm.trans h.2)
    exact ⟨fun hn w hw => hI.empty hn w (hsame w hw), fun l' hl' => (hI.covered l' hl').mono hsame⟩

theorem coveredAt_tx (hI : CoveredAt T db id) (hC : Consistent db) (h : t.tx.run db = .ok ((), db'))
    (hpaid : ∀ o ∈ newlyPaid db db', o.licenseID = id → o.product = .license)
    (hfree : ∀ e userID deviceHash now, t = .request (.freeRevoke e userID id deviceHash now) →
      e.resolve now ≤ T ∧ ∀ l, db.licenses.get? id = some l →
        l.offlineValidUntil ≤ (l.revokeCooldown (e.resolve now)).nextAvailableAt)
    (hrelease : ∀ e adminID (r : D2SManualUnbindRequest) status note now audit l,
      t = .request (.reviewManualUnbind e adminID r.id status note now audit) →
      UnbindStatus.ofReview status = some .approved → r.licenseID = id → db.unbinds.get? r.id = some r →
      db.licenses.get? id = some l → l.offlineValidUntil ≤ T) : CoveredAt T db' id := by
  have hkept : db'.entitlements = db.entitlements → db'.cooldowns = db.cooldowns →
      (∀ e userID deviceHash now, t ≠ .request (.freeRevoke e userID id deviceHash now)) → CoveredAt T db' id := by
    intro hent hcool hne
    rw [CoveredAt, hent, hcool]
    exact (slotMove h id).coveredSlot hI (fun w hw => (mem_unexpired.mp hw).2.2) hne hpaid hrelease
  cases asideTx h with
  | kept ht haside =>
    refine hkept (congrArg Aside.entitlements haside) (congrArg Aside.cooldowns haside) fun _ _ _ _ h => ?_
    rw [h] at ht
    cases ht
  | freeRevoke hr =>
    refine freeRevoke_covered hI hr fun hid => ?_
    subst hid
    exact hfree _ _ _ _ rfl
  | issueOffline hr => exact issueOffline_covered hI hC hr
  | createManualUnbind hr =>
    obtain ⟨_, _, -, -, -, -, -, -, -, -, -, rfl⟩ := createD2SManualUnbind_ok hr
    exact hkept rfl rfl fun _ _ _ _ h => (by cases h)
  | reviewManualUnbind hr =>
    obtain ⟨_, _, _, _, _, _, -, -, -, -, -, rfl⟩ := reviewD2SManualUnbind_ok hr
    exact hkept rfl rfl fun _ _ _ _ h => (by cases h)

end Transactions

/-! ## Runs -/

section Runs

variable [Digest] {s : State} {op : Op} {licenseID : String}

/-- A free revoke of the licence starts a cooldown that lasts up to the offline deadline of the licence, and a manual
unbind that is approved finds the deadline over. -/
def CooldownCovers (licenseID : String) (s : State) : Op → Prop
  | .request (.freeRevoke e userID id deviceHash now) =>
    id = licenseID → Commits (freeRevokeD2SLicense e userID id deviceHash now) s.db →
    ∀ l ∈ s.db.licenses.get? licenseID, l.offlineValidUntil ≤ (l.revokeCooldown (e.resolve now)).nextAvailableAt
  | .request (.reviewManualUnbind e adminID requestID status note now audit) =>
    UnbindStatus.ofReview status = some .approved →
    Commits (reviewD2SManualUnbind e adminID requestID status note now audit) s.db →
    ∀ r ∈ s.db.unbinds.get? requestID, r.licenseID = licenseID →
    ∀ l ∈ s.db.licenses.get? licenseID, l.offlineValidUntil ≤ now
  | _ => True

instance (licenseID : String) (s : State) : DecidablePred (CooldownCovers licenseID s)
  | .request _ => by
    unfold CooldownCovers
    split <;> infer_instance
  | .prepareOrder .. | .commitOrder .. | .prepareWithdrawal .. | .commitWithdrawal .. => .isTrue trivial

theorem coveredAt_step (hI : CoveredAt T s.db licenseID) (hC : Consistent s.db) (hop : CooldownCovers licenseID s op)
    (hclock : ∀ n ∈ op.clock, n ≤ T)
    (hpaid : ∀ o ∈ newlyPaid s.db (step s op).db, o.licenseID = licenseID → o.product = .license) :
    CoveredAt T (step s op).db licenseID := by
  rcases step_trans s op with heq | ⟨t, ht, hr⟩
  · rw [heq]
    exact hI
  · refine coveredAt_tx hI hC hr hpaid ?_ ?_
    · rintro e userID deviceHash now rfl
      obtain rfl := runs_request ht (fun _ _ _ h => (by cases h))
      obtain ⟨r, hr⟩ := run_forget_ok.mp hr
      exact ⟨hclock _ rfl, hop rfl ⟨_, hr⟩⟩
    · rintro e adminID r status note now audit l rfl hst hid hget hl
      obtain rfl := runs_request ht (fun _ _ _ h => (by cases h))
      obtain ⟨q, hr⟩ := run_forget_ok.mp hr
      exact (hop hst ⟨_, hr⟩ r hget hid l hl).trans (hclock _ rfl)

theorem coveredAt_run (users : Table User) (options : Table OptionRow) (controls : Table D2SUserSecurityControl)
    {ops : List Op} (hclock : ∀ op ∈ ops, ∀ n ∈ op.clock, n ≤ T)
    (hpaid : ∀ o ∈ fulfilments (.init users options controls) ops, o.licenseID = licenseID → o.product = .license)
    (hops : Runs.Along step (CooldownCovers licenseID) (.init users options controls) ops) :
    CoveredAt T (run (.init users options controls) ops).db licenseID := by
  have hstep : ∀ (s : State) (op : Op), CoveredAt T s.db licenseID ∧ Consistent s.db →
      (CooldownCovers licenseID s op ∧ ∀ o ∈ newlyPaid s.db (step s op).db, o.licenseID = licenseID → o.product = .license) ∧
        (∀ n ∈ op.clock, n ≤ T) →
      CoveredAt T (step s op).db licenseID ∧ Consistent (step s op).db := fun s op hI hop =>
    ⟨coveredAt_step hI.1 hI.2 hop.1.1 hop.2 hop.1.2, step_db hI.2 fun _ _ _ => consistent_tx hI.2⟩
  have h0 : CoveredAt T (State.init users options controls).db licenseID :=
    ⟨fun _ w hw => absurd (mem_unexpired.mp hw).1 List.not_mem_nil, fun l hl => (by cases hl)⟩
  exact (Runs.run_invariant_along (I := fun s : State => CoveredAt T s.db licenseID ∧ Consistent s.db) hstep
    ⟨h0, consistent_init users options controls⟩ ((hops.and (Runs.along_of_history hpaid)).and_forall hclock)).1

/-- **A free revoke outlasts the entitlements of the devices before**, in any run without paid revokes and
extensions of the licence in which every cooldown lasts up to the offline deadline. At a time `T` that the run does not
go beyond, a free revoke finds the entitlements of all devices but the bound one run out, and at most two
devices hold one that has not. -/
theorem free_revoke_outlasts (users : Table User) (options : Table OptionRow) (controls : Table D2SUserSecurityControl)
    (ops : List Op) (licenseID : String) (T : ℤ) (hclock : ∀ op ∈ ops, ∀ n ∈ op.clock, n ≤ T)
    (hpaid : ∀ o ∈ fulfilments (.init users options controls) ops, o.licenseID = licenseID → o.product = .license)
    (hops : Runs.Along step (CooldownCovers licenseID) (.init users options controls) ops) :
    let db := (run (.init users options controls) ops).db
    (∀ e userID deviceHash now r db', e.resolve now = T →
      (freeRevokeD2SLicense e userID licenseID deviceHash now).run db = .ok (r, db') →
      ∃ l, db.licenses.get? licenseID = some l ∧
        ∀ w ∈ db.entitlements.rows, w.licenseID = licenseID → w.deviceHash ≠ l.deviceHash → w.expiresAt ≤ T) ∧
    (offlineDevices db licenseID T).length ≤ 2 := by
  have hI := coveredAt_run users options controls hclock hpaid hops
  refine ⟨fun e userID deviceHash now r db' hT h => ?_, ?_⟩
  · obtain ⟨l, _, _, hl, -, -, -, -, -, hover, -, -⟩ := freeRevokeD2SLicense_ok h
    refine ⟨l, hl, fun w hw hid haway => ?_⟩
    by_contra hexp
    refine haway ((hI.covered l hl).only (fun w hw => (mem_unexpired.mp hw).2.2) (fun k hk => ?_) w
      (mem_unexpired.mpr ⟨hw, hid, not_le.mp hexp⟩))
    exact (hover k hk).trans hT.le
  · cases hl : (run (.init users options controls) ops).db.licenses.get? licenseID with
    | none => exact offlineDevices_length_le (a := "") (b := "") fun w hw => absurd hw (hI.empty hl w)
    | some l =>
      obtain ⟨d, htwo⟩ := (hI.covered l hl).two
      exact offlineDevices_length_le htwo

end Runs

/-- Another device. -/
def sampleHexB : String := String.ofList (List.replicate 64 'b')

/-- A trial goes offline on a device, is revoked and goes offline on another one. -/
def sampleRevoked (days : ℤ) : List Op :=
  [.request (.ensureProfileAndTrial (.sample 0) 1 1000), .request (.bind (.sample 1) 1 "license-0" sampleHex 1 1000),
    .request (.changeMode (.sample 2) 1 "license-0" sampleHex "offline" "" days 1000),
    .request (.issueOffline (.sample 3) .sample 1 "license-0" sampleHex "" days 1000),
    .request (.changeMode (.sample 4) 1 "license-0" sampleHex "offline" "" 7 1000),
    .request (.freeRevoke (.sample 5) 1 "license-0" sampleHex 1000),
    .request (.bind (.sample 6) 1 "license-0" sampleHexB 1 2000),
    .request (.changeMode (.sample 7) 1 "license-0" sampleHexB "offline" "" 7 2000),
    .request (.issueOffline (.sample 8) .sample 1 "license-0" sampleHexB "" 7 2000)]

theorem free_revoke_outlasts_week :
    letI := Digest.plain
    let db := (run .sample (sampleRevoked 7)).db
    ∃ r db' l, (freeRevokeD2SLicense (.sample 9) 1 "license-0" sampleHexB (1000 + 7 * 86400)).run db = .ok (r, db') ∧
      db.licenses.get? "license-0" = some l ∧
      (∀ w ∈ db.entitlements.rows, w.licenseID = "license-0" → w.deviceHash ≠ l.deviceHash →
        w.expiresAt ≤ 1000 + 7 * 86400) ∧
      (offlineDevices db "license-0" (1000 + 7 * 86400)).length ≤ 2 := by
  -- evaluated together, since each of the facts runs the same operations
  obtain ⟨hrevoke, hclock, hpaid, hops⟩ :
      ((freeRevokeD2SLicense (.sample 9) 1 "license-0" sampleHexB (1000 + 7 * 86400)).run
        (@run Digest.plain .sample (sampleRevoked 7)).db).map (fun x => x.1) = .ok (1000 + 14 * 86400) ∧
      (∀ op ∈ sampleRevoked 7, ∀ n ∈ op.clock, n ≤ (1000 + 7 * 86400 : ℤ)) ∧
      (∀ o ∈ @fulfilments Digest.plain .sample (sampleRevoked 7), o.licenseID = "license-0" → o.product = .license) ∧
      Runs.Along (@step Digest.plain) (CooldownCovers "license-0") .sample (sampleRevoked 7) := by decide +kernel
  obtain ⟨⟨r, db'⟩, h, -⟩ := except_map_ok.mp hrevoke
  unfold State.sample at h hpaid hops ⊢
  obtain ⟨hfree, htwo⟩ := @free_revoke_outlasts Digest.plain _ _ _ (sampleRevoked 7) "license-0" _ hclock hpaid hops
  obtain ⟨l, hl, hexp⟩ := hfree _ _ _ _ r db' rfl h
  exact ⟨r, db', l, h, hl, hexp, htwo⟩

/-- An entitlement for 30 days is issued, and the period is set to 7 days before the licence is revoked. After the 7
days it is revoked again, with the entitlement of the first device still valid, and used offline on a third device. -/
theorem free_revoke_not_outlasts :
    letI := Digest.plain
    let s := run .sample (sampleRevoked 30)
    let now := 1000 + 7 * 86400
    fulfilments .sample (sampleRevoked 30) = [] ∧
    Commits (freeRevokeD2SLicense (.sample 9) 1 "license-0" sampleHexB now) s.db ∧
    (s.db.licenses.get? "license-0").map D2SLicense.deviceHash = some sampleHexB ∧
    sampleHex ∈ offlineDevices s.db "license-0" now ∧
    let sampleHexC := String.ofList (List.replicate 64 'c')
    (offlineDevices (run s
      [.request (.freeRevoke (.sample 9) 1 "license-0" sampleHexB now),
        .request (.bind (.sample 10) 1 "license-0" sampleHexC 1 now),
        .request (.changeMode (.sample 11) 1 "license-0" sampleHexC "offline" "" 7 now),
        .request (.issueOffline (.sample 12) .sample 1 "license-0" sampleHexC "" 7 now)]).db "license-0" now).length = 3 := by
  decide +kernel

end Desktop2Stereo
