import Desktop2Stereo.Effects.Orders

/-!
# What reviews, signatures and settings do

The remaining transactions: the administrators' reviews, the issue of an offline entitlement, and
the settings; and facts about quotes, core grants and lookups.
-/

namespace Desktop2Stereo

open Relational GoText

variable {e : Env} {userID now : ℤ} {licenseID deviceHash : String} {db db' : DB}

/-! ## Reviews -/

/-- The request `r` is approved in this transaction: it is the first of its user, and its licence
is permanent. -/
structure Approval (db : DB) (r : D2SManualUnbindRequest) (l : D2SLicense) : Prop where
  unused : ∀ q ∈ db.unbinds.rows, ¬ (q.userID = r.userID ∧ q.status = .approved)
  license : db.licenses.get? r.licenseID = some l
  owner : l.userID = r.userID
  permanent : l.mode = .permanent

variable {u : Unit}

theorem UnbindStatus.ofReview_ne_pending {name : String} {status : UnbindStatus}
    (h : UnbindStatus.ofReview name = some status) : status ≠ .pending := by
  rintro rfl
  unfold UnbindStatus.ofReview at h
  split at h <;> cases h

variable {audit : Option D2SAdminOperationAudit} {adminID : ℤ}

theorem reviewD2SManualUnbind_ok {requestID status note : String} {q : D2SManualUnbindRequest}
    (h : (reviewD2SManualUnbind e adminID requestID status note now audit).run db = .ok (q, db')) :
    ∃ r st licenses bindings events adminAudits, UnbindStatus.ofReview status = some st ∧
      db.unbinds.get? requestID = some r ∧ r.status = .pending ∧
      Table.Extends (fun v => v.orderID = "") db.licenseEvents events ∧
      ((st = .approved ∧ ∃ l, Approval db r l ∧
          bindings = db.bindings.delete (·.licenseID = r.licenseID) ∧
          licenses = db.licenses.modify (·.id = r.licenseID) (·.released now) (fun _ => rfl)) ∨
        (st = .rejected ∧ bindings = db.bindings ∧ licenses = db.licenses)) ∧
      db' = { db with
        licenses, bindings, licenseEvents := events, adminAudits
        unbinds := db.unbinds.modify (·.id = requestID) (·.reviewed st adminID note now) (fun _ => rfl) } := by
  simp only [reviewD2SManualUnbind, run_bind_ok, run_attempt_ok, run_require_ok, run_first_ok, run_whenever_ok,
    run_updates_ok, run_pure_ok, Table.find?_ofKey, and_assoc, exists_and_left, exists_eq_left,
    exists_const] at h
  obtain ⟨st, hst, -, r, hr, hpend, _, happ, _, _, haudit, -, rfl⟩ := h
  obtain ⟨adminAudits, rfl⟩ := auditD2SReview_ok haudit
  have hid : r.id = requestID := (Table.get?_eq_some.mp hr).2
  rcases happ with ⟨hst', happ⟩ | ⟨hst', rfl⟩
  · simp only [approveD2SManualUnbind, run_bind_ok, run_first_ok, run_count_ok, run_require_ok, getD2SLicense_ok,
      run_delete_ok, run_updates_ok, run_create_ok, and_assoc, exists_and_left, exists_eq_left, exists_const,
      Table.count_eq_zero, decide_eq_false_iff_not] at happ
    obtain ⟨_, -, hunused, l, hl, hu, hperm, events, hev, rfl⟩ := happ
    simp only [license_id hl] at hev ⊢
    exact ⟨r, st, _, _, events, adminAudits, hst, hr, hpend, Table.extends_insert hev rfl,
      .inl ⟨hst', l, ⟨hunused, hl, hu, hperm⟩, rfl, rfl⟩, by simp only [hid]⟩
  · have hrej : st = .rejected := by
      have hne := UnbindStatus.ofReview_ne_pending hst
      cases st with
      | pending => exact absurd rfl hne
      | approved => exact absurd rfl hst'
      | rejected => rfl
    exact ⟨r, st, _, _, _, adminAudits, hst, hr, hpend, .refl _ _, .inr ⟨hrej, rfl, rfl⟩, by simp only [hid]⟩

/-- An administrator moves a user without money and without anything pending, and no one else. -/
structure RegionSet (userID : ℤ) (db : DB) (profiles : Table D2SUserProfile) : Prop where
  accounts : ∀ a ∈ db.accounts.rows, a.userID = userID → a.availableMinor = 0 ∧ a.reservedMinor = 0
  orders : ∀ o ∈ db.orders.rows, ¬ (o.userID = userID ∧ o.status = .pending)
  withdrawals : ∀ w ∈ db.withdrawals.rows, ¬ (w.userID = userID ∧ w.status = .pending)
  regions : ∀ u, u ≠ userID → regionOf profiles u = regionOf db.profiles u

variable {p : D2SUserProfile}

theorem setD2SUserRegion_ok {region : String}
    (h : (setD2SUserRegion e adminID userID region now audit).run db = .ok (p, db')) :
    ∃ profiles adminAudits, RegionSet userID db profiles ∧ db' = { db with profiles, adminAudits } := by
  simp only [setD2SUserRegion, run_bind_ok, run_attempt_ok, run_require_ok, run_first_ok, run_count_ok,
    run_updates_ok, run_pure_ok, and_assoc, exists_and_left, exists_eq_left, exists_const, Table.count_eq_zero,
    decide_eq_false_iff_not] at h
  obtain ⟨_, -, -, _, -, haccounts, horders, hwithdrawals, _, _, haudit, -, rfl⟩ := h
  obtain ⟨adminAudits, rfl⟩ := auditD2SReview_ok haudit
  refine ⟨_, adminAudits, ⟨fun a ha hu => ?_, fun o ho hp => horders o ho hp, fun w hw hp => hwithdrawals w hw hp,
    fun u hu => ?_⟩, rfl⟩
  · have hz : ¬ (a.availableMinor ≠ 0 ∨ a.reservedMinor ≠ 0) := fun hne => haccounts a ha ⟨hu, hne⟩
    rwa [not_or, not_not, not_not] at hz
  · rw [regionOf, Table.get?_modify, regionOf]
    cases hq : db.profiles.get? u with
    | none => rfl
    | some q =>
      have hqu : q.userID = u := (Table.get?_eq_some.mp hq).2
      rw [Option.map_some, if_neg fun hd => hu (hqu.symm.trans (of_decide_eq_true hd))]

/-! ## Entitlements and grants -/

variable {devicePublicKey : String}

/-- An entitlement is issued for a usable licence, and its deadline is stored with the licence. -/
theorem issueD2SOfflineEntitlement_ok [Digest] {c : Crypto} {requestedDays : ℤ} {r : String × D2SOfflineClaims}
    (h : (issueD2SOfflineEntitlement e c userID licenseID deviceHash devicePublicKey requestedDays now).run db =
      .ok (r, db')) :
    ∃ l signingKeys entitlements, db.licenses.get? licenseID = some l ∧ l.userID = userID ∧
      l.offlineReady deviceHash requestedDays (e.resolve now) ∧
      r.2.expiresAt = l.offlineDeadline requestedDays (e.resolve now) ∧ r.2.licenseID = licenseID ∧
      r.2.mode = l.mode ∧
      (∃ w, db.entitlements.insert w = some entitlements ∧ w.licenseID = licenseID ∧ w.deviceHash = l.deviceHash ∧
        w.expiresAt = l.offlineDeadline requestedDays (e.resolve now)) ∧
      db' = { db with
        signingKeys, entitlements
        licenses := db.licenses.modify (·.id = licenseID)
          (fun k => { k with
            offlineValidUntil := l.offlineDeadline requestedDays (e.resolve now), updatedAt := e.resolve now })
          (fun _ => rfl) } := by
  simp only [issueD2SOfflineEntitlement, external, run_bind_ok, run_lifted_ok, getD2SLicense_ok, run_require_ok, run_create_ok,
    run_updates_ok, run_pure_ok, and_assoc, exists_and_left, exists_eq_left, exists_const] at h
  obtain ⟨_, -, _, -, l, hl, hu, hready, _, -, _, -, _, _, hkeys, _, ⟨entitlements, hins, rfl⟩, rfl, rfl⟩ := h
  have hid := license_id hl
  obtain ⟨signingKeys, rfl⟩ := run_upsert_put hkeys
  exact ⟨l, signingKeys, entitlements, hl, hu, hready, rfl, hid, rfl, ⟨_, hins, hid, rfl, rfl⟩, by simp only [hid]⟩

theorem issueD2SCoreGrant_ok {c : Crypto} {coreID : String} {coreVersion : ℤ} {r : String × D2SCoreGrantClaims}
    (h : (issueD2SCoreGrant e c userID licenseID deviceHash devicePublicKey coreID coreVersion now).run db =
      .ok (r, db')) :
    ∃ l, db.licenses.get? licenseID = some l ∧ l.userID = userID ∧ l.usable (e.resolve now) = true ∧ db' = db := by
  simp only [issueD2SCoreGrant, external, run_bind_ok, run_lifted_ok, getD2SLicense_ok, run_require_ok, run_pure_ok, and_assoc,
    exists_and_left, exists_eq_left, exists_const] at h
  obtain ⟨-, -, _, -, _, -, l, hl, hu, -, huse, -, _, -, _, -, -, hdb⟩ := h
  exact ⟨l, hl, hu, huse, hdb⟩

/-! ## Settings -/

theorem storeUser_ok {user : User} (h : (storeUser user).run db = .ok (u, db')) : ∃ users, db' = { db with users } :=
  run_upsert_put h

theorem setD2SPurchasesEnabled_ok {enabled : Bool} (h : (setD2SPurchasesEnabled enabled).run db = .ok (u, db')) :
    ∃ options, db' = { db with options } :=
  run_upsert_put h

theorem setD2SUserSecurityControl_ok {control : D2SUserSecurityControl}
    (h : (setD2SUserSecurityControl control).run db = .ok (u, db')) : ∃ controls, db' = { db with controls } := by
  simp only [setD2SUserSecurityControl, run_bind_ok, run_require_ok, and_assoc, exists_and_left, exists_eq_left,
    exists_const] at h
  exact run_upsert_put h.2

/-! ## Quotes -/

theorem quoteD2SRegion_ok {provider : Provider} {region : Region}
    (h : (quoteD2SRegion p provider).run db = .ok (region, db')) :
    (p.region = none ∨ p.region = some region) ∧ (∀ r, d2sProviderRegion provider = some r → region = r) ∧
      db' = db := by
  unfold quoteD2SRegion at h
  cases hr : d2sProviderRegion provider with
  | none =>
    simp only [hr, run_attempt_ok] at h
    exact ⟨.inr h.1, fun r hr' => (nomatch hr'), h.2⟩
  | some =>
    simp only [hr, run_bind_ok, run_require_ok, run_pure_ok, and_assoc, exists_and_left, exists_eq_left,
      exists_const] at h
    obtain ⟨hp, rfl, rfl⟩ := h
    exact ⟨hp, fun r' hr' => Option.some.inj hr', rfl⟩

variable {product : Product}

theorem d2sProductPrice_ok {currency : Currency} {revokeNumber price : ℤ}
    (h : (d2sProductPrice e product currency revokeNumber).run db = .ok (price, db')) : db' = db := by
  cases product <;> cases currency <;>
    simp only [d2sProductPrice, d2sConfiguredPrice, run_pure_ok, run_attempt_ok] at h <;> exact h.2

theorem quoteD2SProduct_ok {n : ℤ} (h : (quoteD2SProduct userID product licenseID now).run db = .ok (n, db')) :
    db' = db ∧ (product = .license → licenseID = "") ∧
      (product ≠ .license → ∃ l, db.licenses.get? licenseID = some l ∧ l.userID = userID ∧ l.usable now = true ∧
        l.mode ≠ .permanent) ∧
      (product = .paidRevoke →
        n = ((db.quotas.get? (licenseID, utcMonth now)).map D2SPaidRevokeQuota.usedCount).getD 0 + 1 ∧ n ≤ 3) := by
  cases product with
  | license =>
    simp only [quoteD2SProduct, run_bind_ok, run_require_ok, run_pure_ok, and_assoc, exists_and_left, exists_eq_left,
      exists_const] at h
    exact ⟨h.2.2, fun _ => h.1, fun hne => absurd rfl hne, fun hp => (by cases hp)⟩
  | paidRevoke =>
    simp only [quoteD2SProduct, run_bind_ok, getD2SLicense_ok, run_require_ok, d2sUsedCount_ok, run_pure_ok, and_assoc,
      exists_and_left, exists_eq_left, exists_const] at h
    obtain ⟨l, hl, hu, huse, hperm, -, hle, rfl, rfl⟩ := h
    have hid := license_id hl
    rw [hid] at hle ⊢
    exact ⟨rfl, fun hp => (by cases hp), fun _ => ⟨l, hl, hu, huse, hperm⟩, fun _ => ⟨rfl, hle⟩⟩
  | offlineExtension =>
    simp only [quoteD2SProduct, run_bind_ok, getD2SLicense_ok, run_require_ok, run_pure_ok, and_assoc,
      exists_and_left, exists_eq_left, exists_const] at h
    obtain ⟨l, hl, hu, huse, hperm, rfl, rfl⟩ := h
    exact ⟨rfl, fun hp => (by cases hp), fun _ => ⟨l, hl, hu, huse, hperm⟩, fun hp => (by cases hp)⟩

variable {provider : String}

theorem quoteD2SOrderTx_ok {product : String} {q : D2SOrderQuote}
    (h : (quoteD2SOrderTx e p userID product licenseID provider now).run db = .ok (q, db')) :
    db' = db ∧ Product.ofName product = some q.product ∧ q.licenseID = licenseID ∧
      Provider.parse provider = some q.provider ∧ (p.region = none ∨ p.region = some q.region) ∧
      (∀ r, d2sProviderRegion q.provider = some r → q.region = r) ∧ q.currency = d2sCurrencyForRegion q.region ∧
      (quoteD2SProduct userID q.product licenseID now).run db = .ok (q.revokeNumber, db) := by
  simp only [quoteD2SOrderTx, run_bind_ok, run_attempt_ok, run_pure_ok, and_assoc, exists_and_left,
    exists_eq_left] at h
  obtain ⟨_, hpr, _, _, hregion, _, hprod, n, _, hn, _, _, hprice, rfl, rfl⟩ := h
  obtain ⟨hlock, hreg, rfl⟩ := quoteD2SRegion_ok hregion
  obtain rfl := (quoteD2SProduct_ok hn).1
  obtain rfl := d2sProductPrice_ok hprice
  exact ⟨rfl, hprod, rfl, hpr, hlock, hreg, rfl, hn⟩

theorem quoteD2SOrderTx_price {product : String} {q : D2SOrderQuote}
    (h : (quoteD2SOrderTx e p userID product licenseID provider now).run db = .ok (q, db')) :
    (d2sProductPrice e q.product q.currency q.revokeNumber).run db = .ok (q.amountMinor, db) := by
  simp only [quoteD2SOrderTx, run_bind_ok, run_attempt_ok, run_pure_ok, and_assoc, exists_and_left,
    exists_eq_left] at h
  obtain ⟨_, -, _, _, hregion, _, -, n, _, hn, _, _, hprice, rfl, rfl⟩ := h
  obtain ⟨-, -, rfl⟩ := quoteD2SRegion_ok hregion
  obtain rfl := (quoteD2SProduct_ok hn).1
  obtain rfl := d2sProductPrice_ok hprice
  exact hprice

theorem getD2SOrderByIdempotencyKey_ok {key : String} {o : Option D2SOrder} :
    (getD2SOrderByIdempotencyKey userID key).run db = .ok (o, db') ↔
      trimSpace key ≠ "" ∧ byteLen (trimSpace key) ≤ 128 ∧
      o = db.orders.find? (fun o => o.userID = userID ∧ o.idempotencyKey = trimSpace key) ∧ db' = db := by
  simp only [getD2SOrderByIdempotencyKey, run_bind_ok, run_require_ok, run_lookup_ok, and_assoc, exists_and_left,
    exists_eq_left, exists_const]

end Desktop2Stereo
