import Desktop2Stereo.Licence.Slots

/-!
# Licence, binding and lease agree

* `SlotMove.agree`: every move of a slot keeps it; `consistent_run`: it holds in every reachable state;
* **`licence_representation`**: the same, row by row, and no device is bound to two licences.
-/

namespace Desktop2Stereo

open Relational GoText Table

/-! ## Agreement -/

structure Agree (l : D2SLicense) (b : Option D2SDeviceBinding) (r : Option D2SOnlineLease) : Prop where
  unbound : l.mode = .unbound ↔ l.deviceHash = ""
  unboundRow : b = none ↔ l.deviceHash = ""
  binding : ∀ x, b = some x → x.userID = l.userID ∧ x.deviceHash = l.deviceHash
  permanent : l.mode = .permanent ↔ 0 < l.permanentBoundAt
  lease : ∀ x, r = some x → l.mode = .online ∧ x.deviceHash = l.deviceHash ∧ x.userID = l.userID

/-- A slot without a licence is empty; otherwise its rows agree. -/
def Slot.Consistent (s : Slot) : Prop :=
  (s.license = none → s.binding = none ∧ s.lease = none) ∧ ∀ l, s.license = some l → Agree l s.binding s.lease

variable {l : D2SLicense} {b : Option D2SDeviceBinding} {r : Option D2SOnlineLease} {now : ℤ}

theorem validateD2SDeviceHash_ne_empty {h : String} (hv : validateD2SDeviceHash h = true) : h ≠ "" := by
  rintro rfl
  revert hv
  decide

theorem agree_created (h : l.Created) : Agree l none none := by
  refine ⟨by simp [h.mode, h.deviceHash], by simp [h.deviceHash], fun x hx => (nomatch hx), ?_, fun x hx => (nomatch hx)⟩
  rw [h.mode, h.permanentBoundAt]
  decide

theorem Agree.bound (h : Agree l b r) {deviceHash : String} {fingerprintVersion : ℤ} {x : D2SDeviceBinding}
    (hne : deviceHash ≠ "") (hdev : l.deviceHash = "" ∨ l.deviceHash = deviceHash)
    (hx : x.userID = l.userID ∧ x.deviceHash = deviceHash) :
    Agree (l.bound deviceHash fingerprintVersion now) (some x) r := by
  have hmode : (l.bound deviceHash fingerprintVersion now).mode ≠ .unbound := by
    unfold D2SLicense.bound
    simp only
    split_ifs with hm
    · decide
    · exact hm
  refine ⟨⟨fun hm => absurd hm hmode, fun hd => absurd hd hne⟩, ⟨fun hn => (nomatch hn), fun hd => absurd hd hne⟩,
    ?_, ?_, fun y hy => ?_⟩
  · rintro y ⟨⟩
    exact hx
  · refine Iff.trans ?_ h.permanent
    unfold D2SLicense.bound
    simp only
    split_ifs with hm
    · simp [hm]
    · rfl
  · obtain ⟨hon, hd, hu⟩ := h.lease y hy
    -- an online licence is bound, so the device is the one it is bound to
    have hbound : l.deviceHash ≠ "" := fun hd => by
      rw [h.unbound.mpr hd] at hon
      cases hon
    refine ⟨?_, hd.trans (hdev.resolve_left hbound), hu⟩
    unfold D2SLicense.bound
    simp only [hon]
    decide

theorem Agree.moded (h : Agree l b r) {mode : LicenseMode} {offlineDays : ℤ} (hnow : 0 < now) (hmode : mode ≠ .unbound)
    (hperm : l.mode = .permanent → mode = .permanent) (hdev : l.deviceHash ≠ "") :
    Agree (l.moded mode offlineDays now) b (if mode = .online then r else none) := by
  refine ⟨⟨fun hm => absurd hm hmode, fun hd => absurd hd hdev⟩, h.unboundRow, h.binding, ?_, fun x hx => ?_⟩
  · unfold D2SLicense.moded
    by_cases hp : mode = .permanent
    · simp only [hp, if_true, hnow]
    · simp only [hp, if_false, false_iff]
      exact fun hpos => hp (hperm (h.permanent.mpr hpos))
  · split_ifs at hx with hon
    obtain ⟨-, hd, hu⟩ := h.lease x hx
    exact ⟨hon, hd, hu⟩

theorem Agree.revoked (h : Agree l b r) (hmode : l.mode ≠ .permanent) : Agree (l.unbound now) none none := by
  refine ⟨by simp [D2SLicense.unbound], by simp [D2SLicense.unbound], fun x hx => (nomatch hx), ?_,
    fun x hx => (nomatch hx)⟩
  have hpos : ¬ 0 < l.permanentBoundAt := fun hpos => hmode (h.permanent.mpr hpos)
  simp [D2SLicense.unbound, hpos]

theorem Agree.released (h : Agree l b r) (hmode : l.mode = .permanent) : Agree (l.released now) none r := by
  refine ⟨by simp [D2SLicense.released], by simp [D2SLicense.released], fun x hx => (nomatch hx),
    by simp [D2SLicense.released], fun x hx => ?_⟩
  have hon := (h.lease x hx).1
  rw [hmode] at hon
  cases hon

theorem Agree.congr (h : Agree l b r) {l' : D2SLicense} (hm : l'.mode = l.mode) (hd : l'.deviceHash = l.deviceHash)
    (hu : l'.userID = l.userID) (hp : l'.permanentBoundAt = l.permanentBoundAt) : Agree l' b r := by
  obtain ⟨h1, h2, h3, h4, h5⟩ := h
  rw [← hm, ← hd] at h1
  rw [← hd] at h2
  rw [← hu, ← hd] at h3
  rw [← hm, ← hp] at h4
  rw [← hm, ← hd, ← hu] at h5
  exact ⟨h1, h2, h3, h4, h5⟩

theorem Agree.withLease (h : Agree l b r) {r' : Option D2SOnlineLease}
    (hr : ∀ x, r' = some x → l.mode = .online ∧ x.deviceHash = l.deviceHash ∧ x.userID = l.userID) : Agree l b r' :=
  ⟨h.unbound, h.unboundRow, h.binding, h.permanent, hr⟩

/-! ## Moves keep the agreement -/

variable {t : Trans} {db db' : DB} {id : String} {s s' : Slot}

theorem Slot.consistent_some (hs : s.license = some l) (h : Agree l s.binding s.lease) : s.Consistent :=
  ⟨fun hn => (nomatch hs.symm.trans hn), fun l' hl' => by rw [hs] at hl'; cases hl'; exact h⟩

/-- **A move keeps a slot consistent.** -/
theorem SlotMove.consistent [Digest] (h : SlotMove t db db' id s s') (hs : s.Consistent) : s'.Consistent := by
  cases h with
  | same => exact hs
  | created hnone hl =>
    obtain ⟨hb, hr⟩ := hs.1 hnone
    refine Slot.consistent_some rfl ?_
    simp only [hb, hr]
    exact agree_created hl
  | bound ht hl hu huse hv hdev =>
    exact Slot.consistent_some rfl
      ((hs.2 _ hl).bound (validateD2SDeviceHash_ne_empty hv) hdev ⟨hu.symm, rfl⟩)
  | @moded l mode e _ _ _ _ _ now ht hl hmode hperm hdev =>
    exact Slot.consistent_some rfl ((hs.2 _ hl).moded (e.resolve_pos now) hmode hperm hdev)
  | revoked hl hmode => exact Slot.consistent_some rfl ((hs.2 _ hl).revoked hmode)
  | leased ht hl hu hmode =>
    refine Slot.consistent_some hl ((hs.2 _ hl).withLease ?_)
    rintro x ⟨⟩
    exact ⟨hmode, rfl, hu.symm⟩
  | @renewed lease _ _ _ _ _ ht hlease =>
    cases hl : s.license with
    | none => exact absurd ((hs.1 hl).2) (by rw [hlease]; simp)
    | some l =>
      have hagree := hs.2 l hl
      refine Slot.consistent_some rfl (hagree.withLease ?_)
      rintro x ⟨⟩
      exact hagree.lease lease hlease
  | leaseEnded =>
    refine ⟨fun hn => ⟨(hs.1 hn).1, rfl⟩, fun l hl => (hs.2 l hl).withLease fun x hx => (nomatch hx)⟩
  | issued ht hl | extended hpays hl | suspended hl =>
    exact Slot.consistent_some rfl ((hs.2 _ hl).congr rfl rfl rfl rfl)
  | released ht hst hl hmode => exact Slot.consistent_some rfl ((hs.2 _ hl).released hmode)

def Consistent (db : DB) : Prop := ∀ id, (db.slot id).Consistent

theorem consistent_tx [Digest] (hI : Consistent db) (h : t.tx.run db = .ok ((), db')) : Consistent db' :=
  fun id => (slotMove h id).consistent (hI id)

theorem consistent_init (users : Table User) (options : Table OptionRow) (controls : Table D2SUserSecurityControl) :
    Consistent (State.init users options controls).db := by
  intro id
  have hnone : ((State.init users options controls).db.slot id).license = none := rfl
  exact ⟨fun _ => ⟨rfl, rfl⟩, fun l hl => (nomatch hnone.symm.trans hl)⟩

theorem consistent_run [Digest] (users : Table User) (options : Table OptionRow)
    (controls : Table D2SUserSecurityControl) (ops : List Op) :
    Consistent (run (.init users options controls) ops).db :=
  run_db (fun _ _ _ => consistent_tx) (consistent_init users options controls) ops

/-! ## The representation invariant -/

theorem Consistent.agree (h : Consistent db) (hl : l ∈ db.licenses.rows) :
    Agree l (db.bindings.get? l.id) (db.leases.get? l.id) :=
  (h l.id).2 l (get?_pk hl)

theorem Consistent.bound_row (h : Consistent db) (hl : l ∈ db.licenses.rows) (hd : l.deviceHash ≠ "") :
    ∃ b ∈ db.bindings.rows, b.licenseID = l.id ∧ b.deviceHash = l.deviceHash := by
  have hagree := h.agree hl
  cases hb : db.bindings.get? l.id with
  | none => exact absurd (hagree.unboundRow.mp hb) hd
  | some b =>
    obtain ⟨hm, hk⟩ := get?_eq_some.mp hb
    exact ⟨b, hm, hk, (hagree.binding b hb).2⟩

/-- **Licences, bindings and leases agree in every reachable state.** A licence is unbound iff it has
no device iff it has no binding; a binding carries the licence's user and device; no device is bound
to two licences; a licence is permanent iff it has a time of permanent binding; and only an online
licence has a lease, on its own device. -/
theorem licence_representation [Digest] (users : Table User) (options : Table OptionRow)
    (controls : Table D2SUserSecurityControl) (ops : List Op) :
    let db := (run (.init users options controls) ops).db
    (∀ l ∈ db.licenses.rows,
      (l.mode = .unbound ↔ l.deviceHash = "") ∧
      (l.deviceHash = "" ↔ ∀ b ∈ db.bindings.rows, b.licenseID ≠ l.id) ∧
      (∀ b ∈ db.bindings.rows, b.licenseID = l.id → b.userID = l.userID ∧ b.deviceHash = l.deviceHash) ∧
      (∀ l' ∈ db.licenses.rows, l.deviceHash ≠ "" → l'.deviceHash = l.deviceHash → l' = l) ∧
      (l.mode = .permanent ↔ 0 < l.permanentBoundAt) ∧
      (∀ r ∈ db.leases.rows, r.licenseID = l.id → l.mode = .online ∧ r.deviceHash = l.deviceHash)) ∧
    (∀ b ∈ db.bindings.rows, ∃ l ∈ db.licenses.rows, b.licenseID = l.id) ∧
    (∀ r ∈ db.leases.rows, ∃ l ∈ db.licenses.rows, r.licenseID = l.id) := by
  intro db
  have h : Consistent db := consistent_run users options controls ops
  have hrow : ∀ id, (db.bindings.get? id ≠ none ∨ db.leases.get? id ≠ none) → ∃ l ∈ db.licenses.rows, id = l.id := by
    intro id hid
    cases hl : db.licenses.get? id with
    | none =>
      obtain ⟨hb, hr⟩ := (h id).1 hl
      exact absurd hid (by rw [not_or, not_not, not_not]; exact ⟨hb, hr⟩)
    | some l =>
      obtain ⟨hm, hk⟩ := get?_eq_some.mp hl
      exact ⟨l, hm, hk.symm⟩
  refine ⟨fun l hl => ?_, fun b hb => hrow _ (.inl ?_), fun r hr => hrow _ (.inr ?_)⟩
  · have hagree := h.agree hl
    refine ⟨hagree.unbound, hagree.unboundRow.symm.trans get?_eq_none, fun b hb hk => ?_, fun l' hl' hd hsame => ?_,
      hagree.permanent, fun r hr hk => ?_⟩
    · exact hagree.binding b (get?_eq_some.mpr ⟨hb, hk⟩)
    · -- both devices stand in the bindings, where a device is unique
      obtain ⟨b, hb, hbl, hbd⟩ := h.bound_row hl hd
      obtain ⟨b', hb', hbl', hbd'⟩ := h.bound_row hl' (hsame ▸ hd)
      have hbb : b' = b := db.bindings.eq_of_clash hb' hb (.inr (hbd'.trans (hsame.trans hbd.symm)))
      refine db.licenses.eq_of_pk hl' hl ?_
      rw [D2SLicense.pk_eq, D2SLicense.pk_eq, ← hbl', ← hbl, hbb]
    · obtain ⟨hon, hd, -⟩ := hagree.lease r (get?_eq_some.mpr ⟨hr, hk⟩)
      exact ⟨hon, hd⟩
  · rw [show b.licenseID = pk b from rfl, get?_pk hb]
    simp
  · rw [show r.licenseID = pk r from rfl, get?_pk hr]
    simp

end Desktop2Stereo
