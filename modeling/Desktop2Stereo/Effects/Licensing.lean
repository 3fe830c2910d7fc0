import Desktop2Stereo.Model.System

/-!
# What the licence operations do

One lemma per operation of `Model.Licensing`: if its transaction commits, these rows were there
and these columns are written. Every later proof cites these lemmas and none unfolds an operation.
-/

namespace Desktop2Stereo

open Relational GoText Table Option

variable {e : Env} {userID now : ℤ} {licenseID deviceHash : String} {db db' : DB} {l : D2SLicense}

theorem getD2SLicense_ok :
    (getD2SLicense userID licenseID).run db = .ok (l, db') ↔
      db.licenses.get? licenseID = some l ∧ l.userID = userID ∧ db' = db := by
  have hp : ∀ r : D2SLicense, decide (r.id = licenseID ∧ r.userID = userID) = true → pk r = licenseID := by
    intro r hr
    exact (of_decide_eq_true hr).1
  rw [getD2SLicense, run_first_ok, Table.find?_eq_some_of_pk hp]
  constructor
  · rintro ⟨⟨hl, hu⟩, hdb⟩
    exact ⟨hl, (of_decide_eq_true hu).2, hdb⟩
  · rintro ⟨hl, hu, hdb⟩
    exact ⟨⟨hl, decide_eq_true ⟨(Table.get?_eq_some.mp hl).2, hu⟩⟩, hdb⟩

/-! ## Profile and trial -/

def regionOf (t : Table D2SUserProfile) (userID : ℤ) : Option Region := (t.get? userID).bind D2SUserProfile.region

variable {p : D2SUserProfile} {t : Table D2SUserProfile}

theorem fetchD2SProfile_ok {user : User} (h : (fetchD2SProfile user userID now).run db = .ok (p, db')) :
    ∃ profiles, profiles.get? userID = some p ∧ db' = { db with profiles } ∧
      (db.profiles.get? userID = some p ∨ db.profiles.get? userID = none ∧ p.region = none) := by
  simp only [fetchD2SProfile, run_bind_ok, run_lookup_ok, Table.find?_ofKey, and_assoc, exists_and_left,
    exists_eq_left] at h
  cases hg : db.profiles.get? userID with
  | some =>
    simp only [hg, run_pure_ok] at h
    obtain ⟨rfl, rfl⟩ := h
    exact ⟨_, hg, rfl, .inl rfl⟩
  | none =>
    simp only [hg, run_bind_ok, run_createIgnore_ok, run_first_ok, Table.find?_ofKey] at h
    obtain ⟨_, _, ⟨-, -, c, hc⟩ | ⟨-, -, profiles, hins, rfl⟩, hp, rfl⟩ := h
    · cases hc
    · have hget := Table.get?_insert hins userID
      rw [hp] at hget
      simp only [pk_ofKey, if_true, Option.some.injEq] at hget
      exact ⟨profiles, hp, rfl, .inr ⟨rfl, by rw [hget]⟩⟩

variable {u : Unit}

theorem syncD2SEmailVerified_ok {expected : Bool}
    (h : (syncD2SEmailVerified e userID p expected).run db = .ok (u, db')) (hp : db.profiles.get? userID = some p) :
    ∃ profiles, (∃ q, profiles.get? userID = some q ∧ q.region = p.region) ∧ db' = { db with profiles } := by
  simp only [syncD2SEmailVerified, run_whenever_ok, run_updates_ok] at h
  rcases h with ⟨-, rfl⟩ | ⟨-, rfl⟩
  · refine ⟨_, ⟨{ p with emailVerified := expected, updatedAt := e.wall }, ?_, rfl⟩, rfl⟩
    rw [Table.get?_modify_pk _ userID fun c => by simp, if_pos rfl, hp]
    rfl
  · exact ⟨_, ⟨p, hp, rfl⟩, rfl⟩

theorem createD2STrial_ok (h : (createD2STrial e userID now).run db = .ok (u, db')) :
    db' = db ∨ ∃ licenses events,
      (∀ l ∈ db.licenses.rows, ¬ (l.userID = userID ∧ l.kind = .trial)) ∧
      db.licenses.insert (d2sTrial e userID now) = some licenses ∧
      Table.Extends (fun v => v.orderID = "") db.licenseEvents events ∧
      db' = { db with licenses, licenseEvents := events } := by
  simp only [createD2STrial, run_bind_ok, run_count_ok, run_whenever_ok, run_createIgnore_ok, run_create_ok,
    and_assoc, exists_and_left, exists_eq_left, count_eq_zero, decide_eq_false_iff_not] at h
  rcases h with ⟨hnone, _, _, hcreate, hevent⟩ | ⟨-, rfl⟩
  · rcases hcreate with ⟨rfl, rfl, -⟩ | ⟨rfl, -, licenses, hins, rfl⟩
    · rcases hevent with ⟨h', -⟩ | ⟨-, rfl⟩
      · exact nomatch h'
      · exact .inl rfl
    · rcases hevent with ⟨-, events, hev, rfl⟩ | ⟨h', -⟩
      · exact .inr ⟨licenses, events, hnone, hins, extends_insert hev rfl, rfl⟩
      · exact absurd rfl h'
  · exact .inl rfl

theorem ensureD2SProfileAndTrial_ok (h : (ensureD2SProfileAndTrial e userID now).run db = .ok (p, db')) :
    ∃ profiles, (∃ q, profiles.get? userID = some q ∧ q.region = p.region) ∧ 0 < userID ∧
      (∀ q, db.profiles.get? userID = some q → p.region = q.region) ∧
      (db' = { db with profiles } ∨ ∃ licenses events,
        (∀ l ∈ db.licenses.rows, ¬ (l.userID = userID ∧ l.kind = .trial)) ∧
        db.licenses.insert (d2sTrial e userID (e.resolve now)) = some licenses ∧
        Table.Extends (fun v => v.orderID = "") db.licenseEvents events ∧
        db' = { db with profiles, licenses, licenseEvents := events }) := by
  simp only [ensureD2SProfileAndTrial, run_bind_ok, run_require_ok, run_first_ok, run_pure_ok, and_assoc,
    exists_and_left, exists_eq_left, exists_const] at h
  obtain ⟨hpos, _, -, -, -, q, _, hfetch, _, _, hsync, _, _, htrial, rfl, rfl⟩ := h
  obtain ⟨_, hq, rfl, hold⟩ := fetchD2SProfile_ok hfetch
  obtain ⟨profiles, hq', rfl⟩ := syncD2SEmailVerified_ok hsync hq
  refine ⟨profiles, hq', hpos, fun q' hq' => ?_, createD2STrial_ok htrial⟩
  rcases hold with hold | ⟨hold, -⟩
  · rw [hold] at hq'; cases hq'; rfl
  · rw [hold] at hq'; cases hq'

theorem fetchD2SProfile_regions {user : User} (h : (fetchD2SProfile user userID now).run db = .ok (p, db')) (u : ℤ) :
    regionOf db'.profiles u = regionOf db.profiles u := by
  simp only [fetchD2SProfile, run_bind_ok, run_lookup_ok, Table.find?_ofKey, and_assoc, exists_and_left,
    exists_eq_left] at h
  cases hg : db.profiles.get? userID with
  | some =>
    simp only [hg, run_pure_ok] at h
    rw [h.2]
  | none =>
    simp only [hg, run_bind_ok, run_createIgnore_ok, run_first_ok, Table.find?_ofKey] at h
    obtain ⟨_, _, ⟨-, -, c, hc⟩ | ⟨-, -, _, hins, rfl⟩, -, rfl⟩ := h
    · cases hc
    · rw [regionOf, Table.get?_insert hins]
      split_ifs with hu
      · rw [regionOf, ← hu, Table.get?_of_insert hins, bind_some, bind_none]
      · rfl

theorem ensureD2SProfileAndTrial_regions (h : (ensureD2SProfileAndTrial e userID now).run db = .ok (p, db')) (u : ℤ) :
    regionOf db'.profiles u = regionOf db.profiles u := by
  simp only [ensureD2SProfileAndTrial, run_bind_ok, run_require_ok, run_first_ok, run_pure_ok, and_assoc,
    exists_and_left, exists_eq_left, exists_const] at h
  obtain ⟨-, _, -, -, -, q, db1, hfetch, _, db2, hsync, _, _, htrial, -, rfl⟩ := h
  have htrial' : db'.profiles = db2.profiles := by
    rcases createD2STrial_ok htrial with rfl | ⟨_, _, -, -, -, rfl⟩ <;> rfl
  have hsync' : regionOf db2.profiles u = regionOf db1.profiles u := by
    simp only [syncD2SEmailVerified, run_whenever_ok, run_updates_ok] at hsync
    rcases hsync with ⟨-, rfl⟩ | ⟨-, rfl⟩
    · rw [regionOf, Table.get?_modify, regionOf]
      cases db1.profiles.get? u with
      | none => rfl
      | some p =>
        rw [map_some, bind_some, bind_some]
        split_ifs <;> rfl
    · rfl
  rw [htrial', hsync', fetchD2SProfile_regions hfetch]

/-! ## Binding and modes -/

theorem license_id (h : db.licenses.get? licenseID = some l) : l.id = licenseID :=
  (Table.get?_eq_some.mp h).2

theorem bindD2SLicense_ok {fingerprintVersion : ℤ} {r : D2SLicense}
    (h : (bindD2SLicense e userID licenseID deviceHash fingerprintVersion now).run db = .ok (r, db')) :
    ∃ l bindings events,
      db.licenses.get? licenseID = some l ∧ l.userID = userID ∧ l.usable (e.resolve now) = true ∧
      validateD2SDeviceHash (toLower (trimSpace deviceHash)) = true ∧ 0 < fingerprintVersion ∧
      (l.deviceHash = "" ∨ l.deviceHash = toLower (trimSpace deviceHash)) ∧
      (∀ id, bindings.get? id = if licenseID = id then
        some { licenseID, userID, deviceHash := toLower (trimSpace deviceHash), fingerprintVersion
               boundAt := e.resolve now, updatedAt := e.resolve now }
        else db.bindings.get? id) ∧
      Table.Extends (fun v => v.orderID = "") db.licenseEvents events ∧
      r = l.bound (toLower (trimSpace deviceHash)) fingerprintVersion (e.resolve now) ∧
      db' = { db with
        bindings
        licenses := db.licenses.modify (·.id = licenseID)
          (·.bound (toLower (trimSpace deviceHash)) fingerprintVersion (e.resolve now)) (fun _ => rfl)
        licenseEvents := events } := by
  simp only [bindD2SLicense, run_bind_ok, run_require_ok, getD2SLicense_ok, run_lookup_ok, run_updates_ok,
    run_whenever_ok, run_create_ok, run_pure_ok, and_assoc, exists_and_left, exists_eq_left, exists_const] at h
  obtain ⟨hv, hfv, l, hl, hu, huse, hdev, -, _, _, hup, _, hstart, _, ⟨events, hev, rfl⟩, rfl, rfl⟩ := h
  have hid := license_id hl
  obtain ⟨bindings, rfl, hb⟩ := run_upsert_row (fun c => by simp) hup
  simp only [hid] at hstart hev hb ⊢
  refine ⟨l, bindings, events, hl, hu, huse, hv, hfv, hdev, hb, ?_, rfl, ?_⟩
  · rcases hstart with ⟨-, -, -, started, hs, rfl⟩ | ⟨-, rfl⟩
    · have hs' := extends_insert (P := fun v => v.orderID = "") hs rfl
      exact hs'.trans (extends_insert hev rfl)
    · exact extends_insert hev rfl
  · rcases hstart with ⟨-, -, -, _, _, rfl⟩ | ⟨-, rfl⟩ <;> rfl

theorem changeD2SLicenseMode_ok {nextMode confirmation : String} {offlineDays : ℤ} {r : D2SLicense}
    (h : (changeD2SLicenseMode e userID licenseID deviceHash nextMode confirmation offlineDays now).run db =
      .ok (r, db')) :
    ∃ l mode events,
      db.licenses.get? licenseID = some l ∧ l.userID = userID ∧ l.usable (e.resolve now) = true ∧
      LicenseMode.ofName nextMode = some mode ∧ mode ≠ .unbound ∧
      (l.mode = .permanent → mode = .permanent) ∧ l.deviceHash ≠ "" ∧
      l.deviceHash = toLower (trimSpace deviceHash) ∧ (mode = .offline → validateD2SOfflinePeriod offlineDays = true) ∧
      Table.Extends (fun v => v.orderID = "") db.licenseEvents events ∧
      r = l.moded mode offlineDays (e.resolve now) ∧
      db' = { db with
        licenses := db.licenses.modify (·.id = licenseID) (·.moded mode offlineDays (e.resolve now)) (fun _ => rfl)
        leases := if mode = .online then db.leases else db.leases.delete (·.licenseID = licenseID)
        licenseEvents := events } := by
  simp only [changeD2SLicenseMode, run_bind_ok, run_attempt_ok, run_require_ok, getD2SLicense_ok, run_updates_ok,
    run_whenever_ok, run_delete_ok, run_create_ok, run_pure_ok, and_assoc, exists_and_left, exists_eq_left,
    exists_const, filter_eq_some_iff] at h
  obtain ⟨mode, hmode, hne, l, hl, hu, huse, hperm, hdev, hmatch, hoff, -, _, hlease, _, ⟨events, hev, rfl⟩, rfl, rfl⟩ := h
  have hid := license_id hl
  simp only [hid] at hlease hev ⊢
  refine ⟨l, mode, events, hl, hu, huse, hmode, of_decide_eq_true hne, hperm, hdev, hmatch, hoff, ?_, rfl, ?_⟩
  · rcases hlease with ⟨-, rfl⟩ | ⟨-, rfl⟩ <;> exact extends_insert hev rfl
  · rcases hlease with ⟨hm, rfl⟩ | ⟨hm, rfl⟩
    · rw [if_neg hm]
    · rw [if_pos (not_not.mp hm)]

def D2SLicense.revokeCooldown (l : D2SLicense) (now : ℤ) : D2SFreeRevokeCooldown :=
  let periodDays := if validateD2SOfflinePeriod l.offlinePeriodDays then l.offlinePeriodDays else 7
  { licenseID := l.id, lastRevokedAt := now, nextAvailableAt := now + periodDays * day, periodDays }

theorem freeRevokeD2SLicense_ok {r : ℤ}
    (h : (freeRevokeD2SLicense e userID licenseID deviceHash now).run db = .ok (r, db')) :
    ∃ l cooldowns events,
      db.licenses.get? licenseID = some l ∧ l.userID = userID ∧ l.mode ≠ .permanent ∧ l.status = .active ∧
      l.deviceHash ≠ "" ∧ Table.Extends (fun v => v.orderID = "") db.licenseEvents events ∧
      (∀ c, db.cooldowns.get? licenseID = some c → c.nextAvailableAt ≤ e.resolve now) ∧
      Table.Sets (l.revokeCooldown (e.resolve now)) db.cooldowns cooldowns ∧
      db' = { db with
        cooldowns
        bindings := db.bindings.delete (·.licenseID = licenseID)
        leases := db.leases.delete (·.licenseID = licenseID)
        licenses := db.licenses.modify (·.id = licenseID) (·.unbound (e.resolve now)) (fun _ => rfl)
        licenseEvents := events } := by
  simp only [freeRevokeD2SLicense, run_bind_ok, run_require_ok, getD2SLicense_ok, run_lookup_ok, run_updates_ok,
    run_delete_ok, run_create_ok, run_pure_ok, and_assoc, exists_and_left, exists_eq_left, exists_const] at h
  obtain ⟨l, hl, hu, hmode, hact, hdev, -, hcool, _, _, hup, _, ⟨events, hev, rfl⟩, -, rfl⟩ := h
  have hid := license_id hl
  obtain ⟨cooldowns, rfl, hsets⟩ := run_upsert_row (fun c => by simp) hup
  simp only [hid, Table.find?_ofKey] at hcool hev ⊢
  exact ⟨l, cooldowns, events, hl, hu, hmode, hact, hdev, extends_insert hev rfl, hcool, hsets, rfl⟩

theorem createD2SManualUnbind_ok {reason proofRef : String} {r : D2SManualUnbindRequest}
    (h : (createD2SManualUnbind e userID licenseID reason proofRef now).run db = .ok (r, db')) :
    ∃ l unbinds,
      db.licenses.get? licenseID = some l ∧ l.userID = userID ∧ l.mode = .permanent ∧
      (∀ q ∈ db.unbinds.rows, ¬ (q.userID = userID ∧ q.status = .approved)) ∧
      (∀ q ∈ db.unbinds.rows, ¬ (q.licenseID = licenseID ∧ q.status = .pending)) ∧
      db.unbinds.insert r = some unbinds ∧ r.licenseID = licenseID ∧ r.userID = userID ∧ r.status = .pending ∧
      db' = { db with unbinds } := by
  simp only [createD2SManualUnbind, run_bind_ok, run_require_ok, getD2SLicense_ok, run_first_ok, run_count_ok,
    run_create_ok, run_pure_ok, and_assoc, exists_and_left, exists_eq_left, exists_const, count_eq_zero,
    decide_eq_false_iff_not] at h
  obtain ⟨-, _, -, l, hl, hu, hmode, happ, hpend, _, ⟨unbinds, hins, rfl⟩, rfl, rfl⟩ := h
  exact ⟨l, unbinds, hl, hu, hmode, happ, hpend, hins, rfl, rfl, rfl, rfl⟩

/-! ## Leases -/

variable {r : String × ℤ} {token : String}

theorem issueD2SOnlineLease_ok [Digest] (h : (issueD2SOnlineLease e l userID token now).run db = .ok (r, db')) :
    ∃ leases, db' = { db with leases } ∧ r = (if token = "" then e.leaseSecret else token, now + d2sOnlineLeaseTTL) ∧
      ∀ id : String, leases.get? id = if l.id = id then some (d2sIssuedLease l userID r.1 now) else db.leases.get? id := by
  simp only [issueD2SOnlineLease, run_bind_ok, run_pure_ok] at h
  obtain ⟨_, _, hup, rfl, rfl⟩ := h
  obtain ⟨leases, rfl, hleases⟩ := run_upsert_row (fun c => by simp [d2sIssuedLease]) hup
  exact ⟨leases, rfl, rfl, hleases⟩

theorem startOrRenewD2SOnlineLease_ok [Digest]
    (h : (startOrRenewD2SOnlineLease e userID licenseID deviceHash token now).run db = .ok (r, db')) :
    ∃ l leases,
      db.licenses.get? licenseID = some l ∧ l.userID = userID ∧ l.usable (e.resolve now) = true ∧
      l.mode = .online ∧ l.deviceHash = toLower (trimSpace deviceHash) ∧
      db' = { db with leases } ∧ r.2 = e.resolve now + d2sOnlineLeaseTTL ∧
      ((∃ lease, db.leases.get? licenseID = some lease ∧ e.resolve now < lease.expiresAt ∧
          token ≠ "" ∧ lease.leaseTokenHash = hashD2SSecret token ∧ lease.deviceHash = l.deviceHash ∧ r.1 = token ∧
          ∀ id : String, leases.get? id = if licenseID = id then
            some { lease with expiresAt := r.2, lastHeartbeatAt := e.resolve now } else db.leases.get? id) ∨
        ((∀ lease, db.leases.get? licenseID = some lease → lease.expiresAt ≤ e.resolve now) ∧
          r.1 = (if token = "" then e.leaseSecret else token) ∧
          ∀ id : String, leases.get? id = if licenseID = id then some (d2sIssuedLease l userID r.1 (e.resolve now))
            else db.leases.get? id)) := by
  simp only [startOrRenewD2SOnlineLease, run_bind_ok, run_require_ok, getD2SLicense_ok, run_lookup_ok,
    and_assoc, exists_and_left, exists_eq_left, exists_const] at h
  obtain ⟨l, hl, rfl, huse, hmode, hdev, h⟩ := h
  have hid := license_id hl
  simp only [hid, D2SOnlineLease.find?_pk] at h
  cases hg : db.leases.get? licenseID with
  | none =>
    simp only [hg] at h
    obtain ⟨leases, rfl, rfl, hleases⟩ := issueD2SOnlineLease_ok h
    rw [hid] at hleases
    exact ⟨l, leases, hl, rfl, huse, hmode, hdev, rfl, rfl, .inr ⟨by simp, rfl, hleases⟩⟩
  | some lease =>
    simp only [hg] at h
    by_cases hlive : e.resolve now < lease.expiresAt
    · rw [if_pos hlive] at h
      simp only [renewD2SOnlineLease, run_bind_ok, run_require_ok, run_updates_ok, run_pure_ok, and_assoc,
        exists_and_left, exists_eq_left, exists_const] at h
      obtain ⟨hraw, htok, hsame, rfl, rfl⟩ := h
      refine ⟨l, _, hl, rfl, huse, hmode, hdev, rfl, rfl, .inl ⟨lease, rfl, hlive, hraw, htok, hsame, rfl, ?_⟩⟩
      intro id
      rw [Table.get?_modify_pk _ l.id (fun c => by simp), hid]
      split_ifs with hk
      · subst hk; rw [hg]; rfl
      · rfl
    · rw [if_neg hlive] at h
      obtain ⟨leases, rfl, rfl, hleases⟩ := issueD2SOnlineLease_ok h
      rw [hid] at hleases
      refine ⟨l, leases, hl, rfl, huse, hmode, hdev, rfl, rfl, .inr ⟨?_, rfl, hleases⟩⟩
      intro lease' h'
      cases h'
      omega

theorem releaseD2SOnlineLease_ok [Digest] {rawLeaseToken : String}
    (h : (releaseD2SOnlineLease userID licenseID rawLeaseToken).run db = .ok (u, db')) :
    db' = { db with
      leases := db.leases.delete fun l =>
        l.licenseID = licenseID ∧ l.userID = userID ∧ l.leaseTokenHash = hashD2SSecret rawLeaseToken } := by
  simp only [releaseD2SOnlineLease, run_bind_ok, run_count_ok, run_delete_ok, run_require_ok, and_assoc,
    exists_and_left, exists_eq_left, exists_const] at h
  exact h.2

theorem releaseAllD2SOnlineLeases_ok (h : (releaseAllD2SOnlineLeases userID).run db = .ok (u, db')) :
    db' = { db with leases := db.leases.delete (·.userID = userID) } ∨ db' = db := by
  simp only [releaseAllD2SOnlineLeases, run_whenever_ok, run_delete_ok] at h
  exact h.imp And.right And.right

theorem deleteExpiredD2SRuntimeArtifacts_ok (h : (deleteExpiredD2SRuntimeArtifacts e now).run db = .ok (u, db')) :
    db' = { db with
      leases := db.leases.delete (·.expiresAt ≤ e.resolve now)
      deviceCodes := db.deviceCodes.delete (·.expiresAt ≤ e.resolve now) } := by
  simp only [deleteExpiredD2SRuntimeArtifacts, run_bind_ok, run_delete_ok, exists_const, exists_eq_left] at h
  exact h

end Desktop2Stereo
