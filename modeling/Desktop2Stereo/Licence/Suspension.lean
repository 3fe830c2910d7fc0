import Desktop2Stereo.Order.Fulfilment

/-!
# Suspended licences

A chargeback suspends the licence that the order has bought. A suspended licence is never active again, and
every call that would use it is refused. Fulfilment does not look at the status of a licence: an order for a
suspended licence that is paid later is delivered to it.

* `Suspends`: the licence of a charged back purchase is suspended, **`suspends_run`**;
* **`suspension_effective`**: what a suspension stops, and which fulfilments it does not stop.
-/

namespace Desktop2Stereo

open Relational GoText Table

/-! ## Suspended for good -/

/-- The licence that a charged back order has bought is suspended. -/
def Suspends (db : DB) : Prop :=
  ∀ oid o, db.orders.get? oid = some o → o.product = .license → o.status = .chargeback →
    ∃ l, db.licenses.get? o.licenseID = some l ∧ l.status = .suspended

section Suspended

variable {t : Trans} {db db' : DB} {id licenseID : String} {l : D2SLicense} {now : ℤ}

theorem D2SLicense.active_of_usable (h : l.usable now = true) : l.status = .active := (of_decide_eq_true h).1

theorem get?_suspended (hne : licenseID ≠ "") (hl : db.licenses.get? licenseID = some l) :
    (suspended db.licenses licenseID now).get? licenseID = some { l with status := .suspended, updatedAt := now } := by
  rw [suspended, if_neg hne, get?_license_modify (fun _ => by rfl) hl, if_pos rfl]

variable [Digest]

theorem SlotMove.suspended_stays {s s' : Slot} (h : SlotMove t db db' id s s') (hl : s.license = some l)
    (hsus : l.status = .suspended) : ∃ l', s'.license = some l' ∧ l'.status = .suspended := by
  have hsame : ∀ {k : D2SLicense}, s.license = some k → k.status = .suspended := fun hk => by
    rw [Option.some.inj (hk.symm.trans hl)]
    exact hsus
  cases h with
  | same | leased | renewed | leaseEnded => exact ⟨l, hl, hsus⟩
  | created hnone => cases hnone.symm.trans hl
  | bound ht hk hu huse => exact absurd (hsame hk) (by rw [D2SLicense.active_of_usable huse]; decide)
  | suspended => exact ⟨_, rfl, rfl⟩
  -- the others write other columns of the row
  | moded ht hk | revoked hk | issued ht hk | extended hpays hk | released ht hst hk =>
    have hk' := hsame hk
    exact ⟨_, rfl, hk'⟩

theorem suspends_tx (hD : Delivered db) (hI : Suspends db) (h : t.tx.run db = .ok ((), db')) : Suspends db' := by
  intro oid o ho hp hc
  -- a chargeback of before has suspended its licence, which stays suspended
  have hold : db.orders.get? oid = some o → ∃ l, db'.licenses.get? o.licenseID = some l ∧ l.status = .suspended := by
    intro ho0
    obtain ⟨l, hl, hsus⟩ := hI oid o ho0 hp hc
    exact (slotMove h o.licenseID).suspended_stays hl hsus
  have hkept : ∀ {r : D2SOrder}, Sets r db.orders db'.orders → r.id ≠ oid → db.orders.get? oid = some o := by
    intro r hs hne
    exact ((hs oid).trans (if_neg hne)).symm.trans ho
  have hself : ∀ {r : D2SOrder}, Sets r db.orders db'.orders → r.id = oid → o = r := by
    intro r hs heq
    exact Option.some.inj (ho.symm.trans ((hs oid).trans (if_pos heq)))
  have hnew : ∀ {r : D2SOrder}, Sets r db.orders db'.orders → r.status ≠ .chargeback →
      db.orders.get? oid = some o := by
    intro r hs hne
    exact hkept hs fun heq => hne (hself hs heq ▸ hc)
  cases orderStep h with
  | quiet horders | filed ht hfiled horders => exact hold (by rw [← horders]; exact ho)
  | placed hnone hpend hr hg hs => exact hold (hnew hs (by rw [hpend]; decide))
  | canceled hrow hpend hs => exact hold (hnew hs fun h => (by cases h))
  | refunded hrow hpaid hdone hpart hs => exact hold (hnew hs (by rw [hpaid]; decide))
  | @chargedBack order refunded now hrow hpaid hcase hs hl =>
    by_cases hid : order.id = oid
    · obtain rfl := hself hs hid
      obtain ⟨l, hget, hsrc⟩ := hD _ order hrow (.inl hpaid)
      rw [show db'.licenses = _ from congrArg Licensing.licenses hl]
      exact ⟨_, get?_suspended (hsrc hp).1 hget, rfl⟩
    · exact hold (hkept hs hid)
  | fulfilled hf => exact hold (hnew hf.sets fun h => (by cases h))

/-- **The licence of a charged back purchase is suspended**, in every reachable state. -/
theorem suspends_run (users : Table User) (options : Table OptionRow) (controls : Table D2SUserSecurityControl)
    (ops : List Op) : Suspends (run (.init users options controls) ops).db := by
  have hboth : Delivered (run (.init users options controls) ops).db ∧
      Suspends (run (.init users options controls) ops).db := by
    refine run_db (I := fun db => Delivered db ∧ Suspends db)
      (fun t db db' hI hr => ⟨delivered_tx hI.1 hr, suspends_tx hI.1 hI.2 hr⟩) ⟨fun oid o ho => ?_, fun oid o ho => ?_⟩ ops
    · cases ho
    · cases ho
  exact hboth.2

end Suspended

/-! ## What a fulfilment touches -/

/-- Nothing about a licence changes: its rows, its entitlements and events, its cooldown and its quotas. -/
structure Licensing.Untouched (id : String) (a b : Licensing) : Prop where
  license : b.licenses.get? id = a.licenses.get? id
  binding : b.bindings.get? id = a.bindings.get? id
  lease : b.leases.get? id = a.leases.get? id
  entitlements : ∀ w : D2SOfflineEntitlement, w.licenseID = id → (w ∈ b.entitlements.rows ↔ w ∈ a.entitlements.rows)
  events : ∀ v : D2SLicenseEvent, v.licenseID = id → (v ∈ b.licenseEvents.rows ↔ v ∈ a.licenseEvents.rows)
  cooldown : b.cooldowns.get? id = a.cooldowns.get? id
  quotas : ∀ month, b.quotas.get? (id, month) = a.quotas.get? (id, month)

section Fulfilment

variable {t : Trans} {e : Env} {order o : D2SOrder} {now : ℤ} {db db' : DB} {id : String}

theorem Delivery.event (h : Delivery e order now db o db') :
    ∃ v, db.licenseEvents.insert v = some db'.licenseEvents ∧ v.licenseID = (order.assigned e.licenseID.val).licenseID := by
  cases h with
  | license hp hins hev hv => exact ⟨_, hev, by rw [D2SOrder.assigned_licenseID hp]; exact hv.2⟩
  | paidRevoke hp hl hu hm hq hev hv | offlineExtension hp hl hu hev hv =>
    exact ⟨_, hev, by rw [D2SOrder.assigned, if_neg (by rw [hp]; decide)]; exact hv.2⟩

theorem Delivery.untouched (h : Delivery e order now db o db') (hid : (order.assigned e.licenseID.val).licenseID ≠ id) :
    db.licensing.Untouched id db'.licensing := by
  obtain ⟨v, hev, hv⟩ := h.event
  have hevents : ∀ w : D2SLicenseEvent, w.licenseID = id → (w ∈ db'.licenseEvents.rows ↔ w ∈ db.licenseEvents.rows) := by
    intro w hw
    rw [mem_insert hev, or_iff_left]
    rintro rfl
    exact hid (hv.symm.trans hw)
  cases h with
  | license hp hins =>
    rw [D2SOrder.assigned_licenseID hp] at hid
    exact ⟨(get?_insert hins id).trans (if_neg hid), rfl, rfl, fun _ _ => .rfl, hevents, rfl, fun _ => rfl⟩
  | paidRevoke hp hl hu hm hq =>
    rw [D2SOrder.assigned, if_neg (by rw [hp]; decide)] at hid
    refine ⟨?_, ?_, ?_, fun _ _ => .rfl, hevents, rfl, fun month => ?_⟩
    · exact (get?_license_modify (fun _ => by rfl) hl id).trans (if_neg hid)
    · exact (get?_binding_delete id).trans (if_neg hid)
    · exact (get?_lease_delete id).trans (if_neg hid)
    · exact (hq.quota (id, month)).trans (if_neg fun hk => hid (Prod.mk.inj hk).1)
  | offlineExtension hp hl =>
    rw [D2SOrder.assigned, if_neg (by rw [hp]; decide)] at hid
    exact ⟨(get?_license_modify (fun _ => by rfl) hl id).trans (if_neg hid), rfl, rfl, fun _ _ => .rfl, hevents, rfl,
      fun _ => rfl⟩

end Fulfilment

/-! ## What a suspension stops -/

section Refused

variable {db : DB} {id : String} {l : D2SLicense}

/-- Every call that uses a licence is refused where the licence is suspended. -/
structure Refused [Digest] (id : String) (db : DB) : Prop where
  bind : ∀ e userID deviceHash fingerprintVersion now,
    ¬ Commits (bindD2SLicense e userID id deviceHash fingerprintVersion now) db
  changeMode : ∀ e userID deviceHash nextMode confirmation offlineDays now,
    ¬ Commits (changeD2SLicenseMode e userID id deviceHash nextMode confirmation offlineDays now) db
  freeRevoke : ∀ e userID deviceHash now, ¬ Commits (freeRevokeD2SLicense e userID id deviceHash now) db
  startOrRenewLease : ∀ e userID deviceHash rawLeaseToken now,
    ¬ Commits (startOrRenewD2SOnlineLease e userID id deviceHash rawLeaseToken now) db
  issueOffline : ∀ e c userID deviceHash devicePublicKey requestedDays now,
    ¬ Commits (issueD2SOfflineEntitlement e c userID id deviceHash devicePublicKey requestedDays now) db
  coreGrant : ∀ e c userID deviceHash devicePublicKey coreID coreVersion now,
    ¬ Commits (issueD2SCoreGrant e c userID id deviceHash devicePublicKey coreID coreVersion now) db

theorem refused_of_suspended [Digest] (hl : db.licenses.get? id = some l) (hsus : l.status = .suspended) :
    Refused id db := by
  have hactive : ∀ {k : D2SLicense}, db.licenses.get? id = some k → k.status ≠ .active := by
    intro k hk
    rw [Option.some.inj (hk.symm.trans hl), hsus]
    decide
  have husable : ∀ {k : D2SLicense} {now : ℤ}, db.licenses.get? id = some k → k.usable now = true → False :=
    fun hk huse => hactive hk (D2SLicense.active_of_usable huse)
  refine ⟨?_, ?_, ?_, ?_, ?_, ?_⟩
  · rintro e userID deviceHash _ now ⟨r, h⟩
    obtain ⟨k, _, _, hk, -, huse, -⟩ := bindD2SLicense_ok h
    exact husable hk huse
  · rintro e userID deviceHash _ _ _ now ⟨r, h⟩
    obtain ⟨k, _, _, hk, -, huse, -⟩ := changeD2SLicenseMode_ok h
    exact husable hk huse
  · rintro e userID deviceHash now ⟨r, h⟩
    obtain ⟨k, _, _, hk, -, -, hact, -⟩ := freeRevokeD2SLicense_ok h
    exact hactive hk hact
  · rintro e userID deviceHash _ now ⟨r, h⟩
    obtain ⟨k, _, hk, -, huse, -⟩ := startOrRenewD2SOnlineLease_ok h
    exact husable hk huse
  · rintro e c userID deviceHash devicePublicKey _ now ⟨r, h⟩
    obtain ⟨k, _, _, hk, -, hready, -⟩ := issueD2SOfflineEntitlement_ok h
    exact husable hk hready.1
  · rintro e c _ _ _ _ _ _ ⟨r, h⟩
    obtain ⟨k, hk, -, huse, -⟩ := issueD2SCoreGrant_ok h
    exact husable hk huse

end Refused

/-- **A suspension is effective but for the orders of the licence.** Where the order that has bought a licence
is charged back, the licence is suspended in every later state and every call that uses it is refused there; an
order that is fulfilled later leaves the licence alone iff it is not an order for this licence. -/
theorem suspension_effective [Digest] (users : Table User) (options : Table OptionRow)
    (controls : Table D2SUserSecurityControl) (ops ops' : List Op) (id : String) (l : D2SLicense) (o : D2SOrder)
    (hl : (run (.init users options controls) ops).db.licenses.get? id = some l) (hsrc : l.sourceOrderID ≠ "")
    (ho : (run (.init users options controls) ops).db.orders.get? l.sourceOrderID = some o)
    (hc : o.status = .chargeback) :
    let s := run (run (.init users options controls) ops) ops'
    (∃ l', s.db.licenses.get? id = some l' ∧ l'.status = .suspended) ∧ Refused id s.db ∧
      ∀ op, ∀ o' ∈ newlyPaid s.db (step s op).db,
        (s.db.licensing.Untouched id (step s op).db.licensing ↔ o'.licenseID ≠ id) := by
  intro s
  obtain ⟨hm, rfl⟩ := get?_eq_some.mp hl
  obtain ⟨o1, ho1, hp, hid, -⟩ := (delivered_run users options controls ops).purchase
    (traced_run users options controls ops) hm hsrc
  obtain rfl : o1 = o := Option.some.inj (ho1.symm.trans ho)
  obtain ⟨_, hl1, hsus1⟩ := suspends_run users options controls ops _ o1 ho hp hc
  rw [hid] at hl1
  obtain ⟨l', hl', hsus'⟩ := run_db (I := fun db => ∃ l, db.licenses.get? _ = some l ∧ l.status = .suspended)
    (fun _ _ _ ⟨_, hl, hsus⟩ hr => (slotMove hr _).suspended_stays hl hsus) ⟨_, hl1, hsus1⟩ ops'
  refine ⟨⟨l', hl', hsus'⟩, refused_of_suspended hl' hsus', fun op o' ho' => ?_⟩
  rcases step_trans s op with heq | ⟨t, -, hr⟩
  · rw [heq, newlyPaid_same rfl] at ho'
    cases ho'
  · rcases newlyPaid_tx hr with ⟨hnil, -⟩ | ⟨e, _, _, hf, heq⟩
    · rw [hnil] at ho'
      cases ho'
    · rw [heq, List.mem_singleton] at ho'
      rw [ho']
      obtain ⟨db0, o, _, hdel, hbefore, hafter⟩ := hf.delivery
      rw [← hbefore, hafter]
      refine ⟨fun hu hid => ?_, hdel.untouched⟩
      -- the event of the delivery is new
      obtain ⟨v, hev, hv⟩ := hdel.event
      have hold : v ∈ db0.licenseEvents.rows := (hu.events v (hv.trans hid)).mp ((mem_insert hev).mpr (.inr rfl))
      cases (get?_pk hold).symm.trans (get?_of_insert hev)

/-- A licence is bought and bound, a paid revoke and an offline extension are ordered for it, and then its own
order is charged back. -/
def sampleChargedBack : List Op :=
  [.request (.ensureProfileAndTrial (.sample 0) 1 1000)] ++ sampleOrder 1 (.sample .license "" 2990 0) 1000 ++
    [.request (.bind (.sample 2) 1 "license-1" sampleHex 1 1000)] ++
    (sampleOrder 3 (.sample .paidRevoke "license-1" 299 1) 1000).take 2 ++
    (sampleOrder 4 (.sample .offlineExtension "license-1" 100 0) 1000).take 2 ++
    [.request (.paymentEvent (.sample 5)
      { PaymentNotice.sample 1 2990 1000 with eventID := "notice-5", eventType := "chargeback" })]

theorem suspension_effective_charged_back :
    letI := Digest.plain
    let s := run (run .sample sampleChargedBack) [.request (.releaseAllLeases 1)]
    (∃ l', s.db.licenses.get? "license-1" = some l' ∧ l'.status = .suspended) ∧ Refused "license-1" s.db ∧
      ∀ op, ∀ o' ∈ newlyPaid s.db (step s op).db,
        (s.db.licensing.Untouched "license-1" (step s op).db.licensing ↔ o'.licenseID ≠ "license-1") := by
  obtain ⟨hl, ho⟩ :
      let db := (@run Digest.plain .sample sampleChargedBack).db
      (db.licenses.get? "license-1").map D2SLicense.sourceOrderID = some "order-1" ∧
        (db.orders.get? "order-1").map D2SOrder.status = some .chargeback := by
    decide +kernel
  obtain ⟨l, hl, hsrc⟩ := Option.map_eq_some_iff.mp hl
  obtain ⟨o, ho, hc⟩ := Option.map_eq_some_iff.mp ho
  rw [← hsrc] at ho
  unfold State.sample at hl ho ⊢
  exact @suspension_effective Digest.plain _ _ _ _ [.request (.releaseAllLeases 1)] _ l o hl
    (by rw [hsrc]; decide) ho hc

/-- The pending orders of the suspended licence are paid: one unbinds it, the other extends it. -/
theorem suspension_not_effective :
    letI := Digest.plain
    let s := run .sample sampleChargedBack
    let license (s : State) := (s.db.licenses.get? "license-1").map fun l => (l.status, l.deviceHash, l.offlineValidUntil)
    (s.db.orders.get? "order-1").map D2SOrder.status = some .chargeback ∧
      license s = some (.suspended, sampleHex, 0) ∧
      license (step s (.request (.paymentEvent (.sample 3) (.sample 3 299 1000)))) = some (.suspended, "", 0) ∧
      license (step s (.request (.paymentEvent (.sample 4) (.sample 4 100 1000)))) =
        some (.suspended, sampleHex, 1000 + 30 * 86400) := by
  decide +kernel

end Desktop2Stereo
