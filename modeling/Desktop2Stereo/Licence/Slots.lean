import Desktop2Stereo.Order.Moves

/-!
# The life of a licence

A licence lives in three tables: its own row, its device binding and its online lease. What a
transaction can do to the three rows of one licence.

* **`slotMove`**: a committed transaction makes one move of each slot.
-/

namespace Desktop2Stereo

open Relational GoText Indexed

/-! ## Clocks -/

/-- The clock reading that a request acts on. Settings and releases of leases read no clock, and a
refund carries its time in its row. -/
def Request.clock : Request → Option ℤ
  | .setUser _ | .setPurchasesEnabled _ | .setUserSecurityControl _ | .releaseLease _ _ _ | .releaseAllLeases _
  | .createRefund _ => none
  | .ensureProfileAndTrial e _ now | .bind e _ _ _ _ now | .changeMode e _ _ _ _ _ _ now | .freeRevoke e _ _ _ now
  | .startOrRenewLease e _ _ _ _ now | .deleteExpired e now | .issueOffline e _ _ _ _ _ _ now
  | .coreGrant e _ _ _ _ _ _ _ now | .createManualUnbind e _ _ _ _ now | .completeRefund e _ _ now =>
    some (e.resolve now)
  | .paymentEvent e notice => some (e.resolve notice.now)
  | .reviewManualUnbind _ _ _ _ _ now _ | .expireOrder _ _ now | .reviewWithdrawal _ _ _ _ _ now _
  | .setUserRegion _ _ _ _ now _ => some now

/-- A prepared order or withdrawal keeps the clock reading of its preparation, so its commit reads none. -/
def Op.clock : Op → Option ℤ
  | .request r => r.clock
  | .prepareOrder e _ _ _ _ _ _ now _ | .prepareWithdrawal e _ _ _ _ now => some (e.resolve now)
  | .commitOrder _ _ | .commitWithdrawal _ _ => none

/-! ## Slots -/

/-- The three rows of a licence. -/
structure Slot where
  license : Option D2SLicense
  binding : Option D2SDeviceBinding
  lease : Option D2SOnlineLease

def DB.slot (db : DB) (id : String) : Slot := ⟨db.licenses.get? id, db.bindings.get? id, db.leases.get? id⟩

/-- A licence as it is created: not bound, not activated and without an offline deadline. -/
structure D2SLicense.Created (l : D2SLicense) : Prop where
  named : l.id ≠ ""
  mode : l.mode = .unbound
  deviceHash : l.deviceHash = ""
  offlineValidUntil : l.offlineValidUntil = 0
  activatedAt : l.activatedAt = 0
  expiresAt : l.expiresAt = 0
  permanentBoundAt : l.permanentBoundAt = 0
  trial : l.kind = .trial → l.sourceOrderID = ""

theorem created_paid (e : Env) (order : D2SOrder) (now : ℤ) : (d2sPaidLicense e order now).Created :=
  ⟨e.licenseID.nonempty, rfl, rfl, rfl, rfl, rfl, rfl, fun h => (nomatch h)⟩

/-- The transaction may pay an order, at this time. -/
def Trans.paysAt (now : ℤ) : Trans → Prop
  | .request (.paymentEvent e notice) => now = e.resolve notice.now
  | .commitOrder _ p => now = p.now
  | _ => False

/-- The transaction ends a lease: it releases it, or sweeps it after its expiry. -/
def Trans.endsLease [Digest] (lease : D2SOnlineLease) : Trans → Prop
  | .request (.releaseLease userID licenseID rawLeaseToken) =>
    lease.licenseID = licenseID ∧ lease.userID = userID ∧ lease.leaseTokenHash = hashD2SSecret rawLeaseToken
  | .request (.releaseAllLeases userID) => lease.userID = userID
  | .request (.deleteExpired e now) => lease.expiresAt ≤ e.resolve now
  | _ => False

/-- How a licence that is not permanent loses its device. -/
inductive RevokedBy (t : Trans) (db db' : DB) (id : String) : Prop
  | free {e userID deviceHash now} : t = .request (.freeRevoke e userID id deviceHash now) → RevokedBy t db db' id
  | paid {order : D2SOrder} : order.licenseID = id → order.product = .paidRevoke → order.status = .paid →
      db'.orders.get? order.id = some order → (∀ o, db.orders.get? order.id = some o → o.status = .pending) →
      RevokedBy t db db' id

inductive SlotMove [Digest] (t : Trans) (db db' : DB) (id : String) (s : Slot) : Slot → Prop
  | same : SlotMove t db db' id s s
  | created {l} : s.license = none → l.Created → SlotMove t db db' id s { s with license := some l }
  | bound {l e userID deviceHash fingerprintVersion now} :
      t = .request (.bind e userID id deviceHash fingerprintVersion now) → s.license = some l → l.userID = userID →
      l.usable (e.resolve now) = true → validateD2SDeviceHash (toLower (trimSpace deviceHash)) = true →
      (l.deviceHash = "" ∨ l.deviceHash = toLower (trimSpace deviceHash)) →
      SlotMove t db db' id s
        ⟨some (l.bound (toLower (trimSpace deviceHash)) fingerprintVersion (e.resolve now)),
          some { licenseID := id, userID, deviceHash := toLower (trimSpace deviceHash), fingerprintVersion
                 boundAt := e.resolve now, updatedAt := e.resolve now }, s.lease⟩
  | moded {l mode e userID deviceHash nextMode confirmation offlineDays now} :
      t = .request (.changeMode e userID id deviceHash nextMode confirmation offlineDays now) → s.license = some l →
      mode ≠ .unbound → (l.mode = .permanent → mode = .permanent) → l.deviceHash ≠ "" →
      SlotMove t db db' id s
        ⟨some (l.moded mode offlineDays (e.resolve now)), s.binding, if mode = .online then s.lease else none⟩
  | revoked {l now} : s.license = some l → l.mode ≠ .permanent → RevokedBy t db db' id →
      SlotMove t db db' id s ⟨some (l.unbound now), none, none⟩
  | leased {l e userID deviceHash rawLeaseToken token now} :
      t = .request (.startOrRenewLease e userID id deviceHash rawLeaseToken now) → s.license = some l →
      l.userID = userID → l.mode = .online → (∀ lease, s.lease = some lease → lease.expiresAt ≤ e.resolve now) →
      SlotMove t db db' id s { s with lease := some (d2sIssuedLease l userID token (e.resolve now)) }
  | renewed {lease e userID deviceHash rawLeaseToken now} :
      t = .request (.startOrRenewLease e userID id deviceHash rawLeaseToken now) → s.lease = some lease →
      SlotMove t db db' id s
        { s with lease := some { lease with
            expiresAt := e.resolve now + d2sOnlineLeaseTTL, lastHeartbeatAt := e.resolve now } }
  | leaseEnded {lease} : s.lease = some lease → t.endsLease lease → SlotMove t db db' id s { s with lease := none }
  | issued {l e c userID deviceHash devicePublicKey requestedDays now} :
      t = .request (.issueOffline e c userID id deviceHash devicePublicKey requestedDays now) → s.license = some l →
      l.offlineReady deviceHash requestedDays (e.resolve now) →
      SlotMove t db db' id s
        { s with license := some { l with
            offlineValidUntil := l.offlineDeadline requestedDays (e.resolve now), updatedAt := e.resolve now } }
  | extended {l order now} : t.paysAt now → s.license = some l → order.licenseID = id →
      order.product = .offlineExtension → order.status = .paid → db'.orders.get? order.id = some order →
      (∀ o, db.orders.get? order.id = some o → o.status = .pending) →
      SlotMove t db db' id s { s with license := some (l.extended now) }
  | suspended {l now} : s.license = some l →
      SlotMove t db db' id s { s with license := some { l with status := .suspended, updatedAt := now } }
  | released {l r e adminID status note now audit} :
      t = .request (.reviewManualUnbind e adminID r.id status note now audit) →
      UnbindStatus.ofReview status = some .approved → s.license = some l → l.mode = .permanent → r.licenseID = id → r.status = .pending → db.unbinds.get? r.id = some r →
      db'.unbinds.get? r.id = some (r.reviewed .approved adminID note now) →
      SlotMove t db db' id s { s with license := some (l.released now), binding := none }

/-! ## Rows after an update -/

theorem D2SLicense.kind_of_keys {l l' : D2SLicense} (h : keys l' = keys l) :
    l'.id = l.id ∧ l'.userID = l.userID ∧ l'.kind = l.kind ∧ l'.sourceOrderID = l.sourceOrderID := by
  have hkeys : (l'.id, l'.licenseCode, l'.userID, l'.kind, l'.sourceOrderID) =
    (l.id, l.licenseCode, l.userID, l.kind, l.sourceOrderID) := h
  simp only [Prod.mk.injEq] at hkeys
  exact ⟨hkeys.1, hkeys.2.2⟩

section Rows

variable {licenses : Table D2SLicense} {licenseID : String}

theorem get?_license_modify {l : D2SLicense} {f : D2SLicense → D2SLicense}
    (h : ∀ l, keys (f l) = keys l) (hl : licenses.get? licenseID = some l) (id : String) :
    (licenses.modify (·.id = licenseID) f h).get? id =
      if licenseID = id then some (f l) else licenses.get? id := by
  rw [licenses.get?_modify_pk licenseID (fun c => by simp) id]
  split_ifs with hid
  · subst hid
    rw [hl]
    rfl
  · rfl

theorem get?_binding_delete {bindings : Table D2SDeviceBinding} (id : String) :
    (bindings.delete (·.licenseID = licenseID)).get? id = if licenseID = id then none else bindings.get? id :=
  bindings.get?_delete_pk (fun c => by simp) id

theorem get?_lease_delete {leases : Table D2SOnlineLease} (id : String) :
    (leases.delete (·.licenseID = licenseID)).get? id = if licenseID = id then none else leases.get? id :=
  leases.get?_delete_pk (fun c => by simp) id

theorem get?_kept {α : Type} [Indexed α String] {t t' : Table α} (h : t' = t) (k id : String) :
    t'.get? id = if k = id then t.get? k else t.get? id := by
  split_ifs with hid
  · rw [h, hid]
  · rw [h]

end Rows

variable {t : Trans} {e : Env} {userID now : ℤ} {licenseID deviceHash id : String} {db db' : DB} {order : D2SOrder}

theorem Delivery.licences {o : D2SOrder} (h : Delivery e order now db o db') :
    (db.licenses.insert (d2sPaidLicense e order now) = some db'.licenses ∧ db'.bindings = db.bindings ∧
      db'.leases = db.leases) ∨
    (∃ l, db.licenses.get? order.licenseID = some l ∧ l.mode ≠ .permanent ∧ order.product = .paidRevoke ∧
      db'.licenses = db.licenses.modify (·.id = order.licenseID) (·.unbound now) (fun _ => rfl) ∧
      db'.bindings = db.bindings.delete (·.licenseID = order.licenseID) ∧
      db'.leases = db.leases.delete (·.licenseID = order.licenseID)) ∨
    (∃ l, db.licenses.get? order.licenseID = some l ∧ order.product = .offlineExtension ∧
      db'.licenses = db.licenses.modify (·.id = order.licenseID) (·.extended now) (fun _ => rfl) ∧
      db'.bindings = db.bindings ∧ db'.leases = db.leases) := by
  cases h with
  | license hp hins => exact .inl ⟨hins, rfl, rfl⟩
  | paidRevoke hp hl hu hmode => exact .inr (.inl ⟨_, hl, hmode, hp, rfl, rfl, rfl⟩)
  | offlineExtension hp hl => exact .inr (.inr ⟨_, hl, hp, rfl, rfl, rfl⟩)

/-! ## The moves of each transaction -/

variable [Digest]

abbrev MovesSlot (t : Trans) (db db' : DB) (id : String) : Prop := SlotMove t db db' id (db.slot id) (db'.slot id)

theorem movesSlot_same (h : db'.slot id = db.slot id) : MovesSlot t db db' id := by
  rw [MovesSlot, h]
  exact .same

theorem movesSlot_one (licenseID : String) {s' : Slot} (hmove : SlotMove t db db' licenseID (db.slot licenseID) s')
    (hl : ∀ id, db'.licenses.get? id = if licenseID = id then s'.license else db.licenses.get? id)
    (hb : ∀ id, db'.bindings.get? id = if licenseID = id then s'.binding else db.bindings.get? id)
    (hlease : ∀ id, db'.leases.get? id = if licenseID = id then s'.lease else db.leases.get? id) :
    MovesSlot t db db' id := by
  by_cases hid : licenseID = id
  · subst hid
    have hs : db'.slot licenseID = s' := by
      rw [DB.slot, hl, hb, hlease, if_pos rfl, if_pos rfl, if_pos rfl]
    rw [MovesSlot, hs]
    exact hmove
  · refine movesSlot_same ?_
    rw [DB.slot, hl, hb, hlease, if_neg hid, if_neg hid, if_neg hid]
    rfl

theorem ensure_slot {p : D2SUserProfile} (h : (ensureD2SProfileAndTrial e userID now).run db = .ok (p, db')) :
    MovesSlot t db db' id := by
  obtain ⟨_, -, -, -, rfl | ⟨_, _, -, hins, -, rfl⟩⟩ := ensureD2SProfileAndTrial_ok h
  · exact movesSlot_same rfl
  · exact movesSlot_one e.licenseID.val
      (.created (Table.get?_of_insert hins) (⟨e.licenseID.nonempty, rfl, rfl, rfl, rfl, rfl, rfl, fun _ => rfl⟩))
      (Table.get?_insert hins) (get?_kept rfl _) (get?_kept rfl _)

theorem bind_slot {fingerprintVersion : ℤ} {r : D2SLicense}
    (h : (bindD2SLicense e userID licenseID deviceHash fingerprintVersion now).run db = .ok (r, db')) :
    MovesSlot (.request (.bind e userID licenseID deviceHash fingerprintVersion now)) db db' id := by
  obtain ⟨l, _, _, hl, hu, huse, hv, -, hdev, hb, -, -, rfl⟩ := bindD2SLicense_ok h
  exact movesSlot_one _ (.bound rfl hl hu huse hv hdev) (get?_license_modify (fun _ => by rfl) hl) hb (get?_kept rfl _)

theorem changeMode_slot {nextMode confirmation : String} {offlineDays : ℤ} {r : D2SLicense}
    (h : (changeD2SLicenseMode e userID licenseID deviceHash nextMode confirmation offlineDays now).run db =
      .ok (r, db')) :
    MovesSlot (.request (.changeMode e userID licenseID deviceHash nextMode confirmation offlineDays now)) db db' id := by
  obtain ⟨l, mode, _, hl, -, -, -, hne, hperm, hdev, -, -, -, -, rfl⟩ := changeD2SLicenseMode_ok h
  refine movesSlot_one _ (.moded rfl hl hne hperm hdev) (get?_license_modify (fun _ => by rfl) hl) (get?_kept rfl _) fun id => ?_
  by_cases hon : mode = .online
  · simp only [if_pos hon]
    exact get?_kept rfl _ id
  · simp only [if_neg hon]
    exact get?_lease_delete id

theorem freeRevoke_slot {r : ℤ} (h : (freeRevokeD2SLicense e userID licenseID deviceHash now).run db = .ok (r, db')) :
    MovesSlot (.request (.freeRevoke e userID licenseID deviceHash now)) db db' id := by
  obtain ⟨l, _, _, hl, -, hmode, -, -, -, -, -, rfl⟩ := freeRevokeD2SLicense_ok h
  exact movesSlot_one _ (.revoked hl hmode (.free rfl)) (get?_license_modify (fun _ => by rfl) hl) get?_binding_delete get?_lease_delete

theorem delete_slot {p : D2SOnlineLease → Bool} (deviceCodes : Table D2SDeviceCode)
    (hp : ∀ lease, p lease = true → t.endsLease lease) :
    MovesSlot t db { db with leases := db.leases.delete p, deviceCodes } id := by
  cases hl : db.leases.get? id with
  | none =>
    refine movesSlot_same ?_
    simp only [DB.slot, Table.get?_delete, hl, Option.filter_none]
  | some lease =>
    by_cases hpl : p lease = true
    · have hs : ({ db with leases := db.leases.delete p, deviceCodes } : DB).slot id = { db.slot id with lease := none } := by
        simp only [DB.slot, Table.get?_delete, hl, Option.filter_some, hpl]
        rfl
      rw [MovesSlot, hs]
      exact .leaseEnded hl (hp lease hpl)
    · refine movesSlot_same ?_
      simp only [DB.slot, Table.get?_delete, hl, Option.filter_some, hpl]
      rfl

theorem issueOffline_slot {c : Crypto} {devicePublicKey : String} {requestedDays : ℤ} {r : String × D2SOfflineClaims}
    (h : (issueD2SOfflineEntitlement e c userID licenseID deviceHash devicePublicKey requestedDays now).run db =
      .ok (r, db')) :
    MovesSlot (.request (.issueOffline e c userID licenseID deviceHash devicePublicKey requestedDays now)) db db' id := by
  obtain ⟨l, _, _, hl, -, hready, -, -, -, -, rfl⟩ := issueD2SOfflineEntitlement_ok h
  exact movesSlot_one _ (.issued rfl hl hready) (get?_license_modify (fun _ => by rfl) hl) (get?_kept rfl _) (get?_kept rfl _)

theorem reviewManualUnbind_slot {adminID : ℤ} {requestID status note : String}
    {audit : Option D2SAdminOperationAudit} {q : D2SManualUnbindRequest}
    (h : (reviewD2SManualUnbind e adminID requestID status note now audit).run db = .ok (q, db')) :
    MovesSlot (.request (.reviewManualUnbind e adminID requestID status note now audit)) db db' id := by
  obtain ⟨r, _, _, _, _, _, hst, hr, hpend, -, hcase, rfl⟩ := reviewD2SManualUnbind_ok h
  obtain rfl : r.id = requestID := (Table.get?_eq_some.mp hr).2
  rcases hcase with ⟨rfl, l, happ, rfl, rfl⟩ | ⟨-, rfl, rfl⟩
  · refine movesSlot_one _ (.released rfl hst happ.license happ.permanent rfl hpend hr ?_)
      (get?_license_modify (fun _ => by rfl) happ.license) get?_binding_delete (get?_kept rfl _)
    exact (Table.sets_modify (h := fun _ => by rfl) hr (fun c hc => of_decide_eq_true hc) (decide_eq_true rfl)).get?_self
  · exact movesSlot_same rfl

/-! ## The moves of orders -/

/-- **Paying an order** delivers it to the slot of its licence. The transaction has started from `db₀`,
where the order was pending or not there yet. -/
theorem OrderPaid.slot (db0 : DB) (h : OrderPaid e order now db db') (hpays : t.paysAt now)
    (hlic : db.licenses = db0.licenses) (hbind : db.bindings = db0.bindings) (hlease : db.leases = db0.leases)
    (hbefore : ∀ o, db0.orders.get? order.id = some o → o.status = .pending) {actionLogs : Table D2SUserActionLog} :
    MovesSlot t db0 { db' with actionLogs } id := by
  cases h with
  | @intro _ db1 orders accounts transactions hpend hrow hdel hpaid =>
    have hcase := hdel.licences
    rw [hlic, hbind, hlease] at hcase
    rcases hcase with ⟨hins, hb, hl⟩ | ⟨l, hl, hmode, hp, hl', hb, hle⟩ | ⟨l, hl, hp, hl', hb, hle⟩
    · exact movesSlot_one e.licenseID.val (.created (Table.get?_of_insert hins) (created_paid e order now))
        (Table.get?_insert hins) (get?_kept hb _) (get?_kept hl _)
    · have hassign : order.assigned e.licenseID.val = order := if_neg (by rw [hp]; decide)
      rw [hassign] at hpaid
      have hrevoked : RevokedBy t db0 { db1 with orders, accounts, transactions, actionLogs } order.licenseID :=
        .paid (show (order.paidAt now).licenseID = _ from rfl) hp rfl hpaid.get?_self hbefore
      exact movesSlot_one _ (.revoked hl hmode hrevoked) (hl' ▸ get?_license_modify (fun _ => by rfl) hl)
        (hb ▸ get?_binding_delete) (hle ▸ get?_lease_delete)
    · have hassign : order.assigned e.licenseID.val = order := if_neg (by rw [hp]; decide)
      rw [hassign] at hpaid
      exact movesSlot_one _
        (.extended hpays hl (show (order.paidAt now).licenseID = _ from rfl) hp rfl hpaid.get?_self hbefore)
        (hl' ▸ get?_license_modify (fun _ => by rfl) hl) (get?_kept hb _) (get?_kept hle _)

theorem suspended_slot (hlic : db'.licenses = suspended db.licenses licenseID now)
    (hb : db'.bindings = db.bindings) (hl : db'.leases = db.leases) : MovesSlot t db db' id := by
  cases hg : db.licenses.get? licenseID with
  | none =>
    refine movesSlot_same ?_
    have hsame : db'.licenses.get? id = db.licenses.get? id := by
      rw [hlic, suspended]
      split_ifs
      · rfl
      · rw [Table.get?_modify_pk _ licenseID fun c => by simp]
        split_ifs with hid
        · rw [← hid, hg]
          rfl
        · rfl
    rw [DB.slot, hsame, hb, hl]
    rfl
  | some =>
    by_cases hne : licenseID = ""
    · rw [suspended, if_pos hne] at hlic
      exact movesSlot_same (by rw [DB.slot, hlic, hb, hl]; rfl)
    · rw [suspended, if_neg hne] at hlic
      exact movesSlot_one _ (.suspended hg) (fun id => by rw [hlic]; exact get?_license_modify (fun _ => by rfl) hg id)
        (get?_kept hb _) (get?_kept hl _)

theorem OrderTx.slot (h : OrderTx t db db') : MovesSlot t db db' id := by
  cases h with
  | idle | placed | canceled | refunded => exact movesSlot_same rfl
  | placedPaid ht hk hnone hsets hshare hpaid =>
    subst ht
    refine hpaid.slot db (t := .commitOrder _ _) rfl rfl rfl rfl fun o ho => ?_
    cases hnone.symm.trans ho
  | @paid e n _ _ _ _ _ _ ht hrow hsets hlock hpaid =>
    subst ht
    have hslot : MovesSlot (.request (.paymentEvent e n)) db { db' with actionLogs := db'.actionLogs } id := by
      refine hpaid.slot db (t := .request (.paymentEvent e n)) rfl rfl rfl rfl fun o ho => ?_
      cases hrow.symm.trans ho
      cases hpaid with
      | intro hpend => exact hpend
    exact hslot
  | chargedBack => exact suspended_slot rfl rfl rfl

/-- **A committed transaction makes one move of each slot.** -/
theorem slotMove (h : t.tx.run db = .ok ((), db')) (id : String) : MovesSlot t db db' id := by
  cases t with
  | auditPurchase =>
    obtain ⟨_, rfl⟩ := auditPurchase_ok h
    exact movesSlot_same rfl
  | commitOrder =>
    obtain ⟨o, ho⟩ := run_forget_ok.mp h
    exact (commitOrder_orderTx ho).slot
  | commitWithdrawal =>
    obtain ⟨w, hw⟩ := run_forget_ok.mp h
    obtain ⟨_, _, _, _, -, -, -, -, -, -, -, -, rfl⟩ := commitD2SWithdrawal_ok hw
    exact movesSlot_same rfl
  | request r =>
    cases r with
    | setUser =>
      obtain ⟨_, rfl⟩ := storeUser_ok h
      exact movesSlot_same rfl
    | setPurchasesEnabled =>
      obtain ⟨_, rfl⟩ := setD2SPurchasesEnabled_ok h
      exact movesSlot_same rfl
    | setUserSecurityControl =>
      obtain ⟨_, rfl⟩ := setD2SUserSecurityControl_ok h
      exact movesSlot_same rfl
    | ensureProfileAndTrial =>
      obtain ⟨p, hp⟩ := run_forget_ok.mp h
      exact ensure_slot hp
    | bind =>
      obtain ⟨l, hl⟩ := run_forget_ok.mp h
      exact bind_slot hl
    | changeMode =>
      obtain ⟨l, hl⟩ := run_forget_ok.mp h
      exact changeMode_slot hl
    | freeRevoke =>
      obtain ⟨r, hr⟩ := run_forget_ok.mp h
      exact freeRevoke_slot hr
    | startOrRenewLease =>
      obtain ⟨r, hr⟩ := run_forget_ok.mp h
      obtain ⟨l, _, hl, hu, -, hmode, -, rfl, hr, hcase⟩ := startOrRenewD2SOnlineLease_ok hr
      rcases hcase with ⟨_, hlease, -, -, -, -, -, hget⟩ | ⟨hfree, -, hget⟩
      · rw [hr] at hget
        exact movesSlot_one _ (.renewed rfl hlease) (get?_kept rfl _) (get?_kept rfl _) hget
      · exact movesSlot_one _ (.leased rfl hl hu hmode hfree) (get?_kept rfl _) (get?_kept rfl _) hget
    | releaseLease =>
      obtain rfl := releaseD2SOnlineLease_ok h
      exact delete_slot db.deviceCodes fun lease hl => (decide_eq_true_iff.mp hl :)
    | releaseAllLeases =>
      rcases releaseAllD2SOnlineLeases_ok h with rfl | rfl
      · exact delete_slot db.deviceCodes fun lease hl => (decide_eq_true_iff.mp hl :)
      · exact movesSlot_same rfl
    | deleteExpired =>
      obtain rfl := deleteExpiredD2SRuntimeArtifacts_ok h
      exact delete_slot _ fun lease hl => (decide_eq_true_iff.mp hl :)
    | issueOffline =>
      obtain ⟨r, hr⟩ := run_forget_ok.mp h
      exact issueOffline_slot hr
    | coreGrant =>
      obtain ⟨r, hr⟩ := run_forget_ok.mp h
      obtain ⟨_, -, -, -, rfl⟩ := issueD2SCoreGrant_ok hr
      exact movesSlot_same rfl
    | createManualUnbind =>
      obtain ⟨r, hr⟩ := run_forget_ok.mp h
      obtain ⟨_, _, -, -, -, -, -, -, -, -, -, rfl⟩ := createD2SManualUnbind_ok hr
      exact movesSlot_same rfl
    | reviewManualUnbind =>
      obtain ⟨q, hq⟩ := run_forget_ok.mp h
      exact reviewManualUnbind_slot hq
    | paymentEvent =>
      obtain ⟨o, ho⟩ := run_forget_ok.mp h
      exact (paymentEvent_orderTx ho).slot
    | expireOrder => exact (expireOrder_orderTx h).slot
    | createRefund =>
      obtain ⟨_, -, rfl⟩ := createD2SAlipayRefund_ok h
      exact movesSlot_same rfl
    | completeRefund => exact (completeRefund_orderTx h).slot
    | reviewWithdrawal =>
      obtain ⟨w, hw⟩ := run_forget_ok.mp h
      obtain ⟨_, _, _, _, _, _, -, -, -, -, -, -, rfl⟩ := reviewD2SWithdrawal_ok hw
      exact movesSlot_same rfl
    | setUserRegion =>
      obtain ⟨p, hp⟩ := run_forget_ok.mp h
      obtain ⟨_, _, -, rfl⟩ := setD2SUserRegion_ok hp
      exact movesSlot_same rfl

/-! ## Identity and times of a licence -/

section Identity

variable {s s' : Slot} {l : D2SLicense}

theorem SlotMove.kept (h : SlotMove t db db' id s s') (hl : s.license = some l) :
    ∃ l', s'.license = some l' ∧ keys l' = keys l ∧
      ((l'.activatedAt = l.activatedAt ∧ l'.expiresAt = l.expiresAt) ∨
        ∃ e userID deviceHash fingerprintVersion now,
          t = .request (.bind e userID id deviceHash fingerprintVersion now) ∧
          l' = l.bound (toLower (trimSpace deviceHash)) fingerprintVersion (e.resolve now)) := by
  have hsame : ∀ {k : D2SLicense}, s.license = some k → k = l := fun hk => Option.some.inj (hk.symm.trans hl)
  cases h with
  | same | leased | renewed | leaseEnded => exact ⟨l, hl, rfl, .inl ⟨rfl, rfl⟩⟩
  | created hnone => exact (nomatch hnone.symm.trans hl)
  | bound ht hk =>
    obtain rfl := hsame hk
    exact ⟨_, rfl, rfl, .inr ⟨_, _, _, _, _, ht, rfl⟩⟩
  | moded ht hk | revoked hk | issued ht hk | extended hpays hk | suspended hk | released ht hst hk =>
    obtain rfl := hsame hk; exact ⟨_, rfl, rfl, .inl ⟨rfl, rfl⟩⟩

theorem SlotMove.fresh (h : SlotMove t db db' id s s') (hnone : s.license = none) (hl : s'.license = some l) :
    l.Created := by
  have hno : ∀ {k : D2SLicense}, s.license = some k → False := fun hk => (nomatch hnone.symm.trans hk)
  cases h with
  | same | renewed | leaseEnded => exact (hno hl).elim
  | created _ hk =>
    cases hl
    exact hk
  | bound ht hk | moded ht hk | revoked hk | leased ht hk | issued ht hk | extended hpays hk | suspended hk
  | released ht hst hk =>
    exact (hno hk).elim

theorem license_kept {s : State} (h : s.db.licenses.get? id = some l) (ops : List Op) :
    ∃ l', (run s ops).db.licenses.get? id = some l' ∧ keys l' = keys l := by
  refine run_db (I := fun db => ∃ l', db.licenses.get? id = some l' ∧ keys l' = keys l)
    (fun t db db' ⟨l1, hl1, hk1⟩ hr => ?_) ⟨l, h, rfl⟩ ops
  obtain ⟨l2, hl2, hk2, -⟩ := (slotMove hr id).kept hl1
  exact ⟨l2, hl2, hk2.trans hk1⟩

theorem license_named (users : Table User) (options : Table OptionRow) (controls : Table D2SUserSecurityControl)
    (ops : List Op) : (run (.init users options controls) ops).db.licenses.get? "" = none := by
  refine run_db (I := fun db => db.licenses.get? "" = none) (fun t db db' hI hr => ?_) rfl ops
  cases hl : db'.licenses.get? "" with
  | none => rfl
  | some => exact absurd (Table.get?_eq_some.mp hl).2 ((slotMove hr "").fresh hI hl).named

end Identity

end Desktop2Stereo
