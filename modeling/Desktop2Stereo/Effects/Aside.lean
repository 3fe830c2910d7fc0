import Desktop2Stereo.Effects.OrderTx

/-!
# Which transactions touch entitlements, cooldowns and manual unbinds

Four transactions write these tables. An order, whatever becomes of it, leaves them alone.

* `DB.aside`, `Trans.writesAside`; **`asideTx`**: every other transaction keeps the three tables.
-/

namespace Desktop2Stereo

open Relational GoText

/-- The tables that no order touches. -/
structure Aside where
  unbinds : Table D2SManualUnbindRequest
  entitlements : Table D2SOfflineEntitlement
  cooldowns : Table D2SFreeRevokeCooldown

def DB.aside (db : DB) : Aside := ⟨db.unbinds, db.entitlements, db.cooldowns⟩

/-- The transaction writes one of these tables. -/
def Trans.writesAside : Trans → Bool
  | .request (.freeRevoke ..) | .request (.issueOffline ..) | .request (.createManualUnbind ..)
  | .request (.reviewManualUnbind ..) => true
  | _ => false

theorem OrderTx.aside {t : Trans} {db db' : DB} (h : OrderTx t db db') : db'.aside = db.aside := by
  cases h with
  | placedPaid ht hk hnone hsets hshare hpaid | paid ht hrow hsets hlock hpaid =>
    obtain ⟨_, _, _, _, _, _, _, _, _, rfl⟩ := hpaid.frame
    rfl
  | _ => rfl

/-- A committed transaction, by what it may do to entitlements, cooldowns and manual unbinds. -/
inductive AsideTx [Digest] (db db' : DB) : Trans → Prop
  | kept {t} : t.writesAside = false → db'.aside = db.aside → AsideTx db db' t
  | freeRevoke {e userID licenseID deviceHash now r} :
      (freeRevokeD2SLicense e userID licenseID deviceHash now).run db = .ok (r, db') →
      AsideTx db db' (.request (.freeRevoke e userID licenseID deviceHash now))
  | issueOffline {e c userID licenseID deviceHash devicePublicKey requestedDays now r} :
      (issueD2SOfflineEntitlement e c userID licenseID deviceHash devicePublicKey requestedDays now).run db =
        .ok (r, db') →
      AsideTx db db' (.request (.issueOffline e c userID licenseID deviceHash devicePublicKey requestedDays now))
  | createManualUnbind {e userID licenseID reason proofRef now r} :
      (createD2SManualUnbind e userID licenseID reason proofRef now).run db = .ok (r, db') →
      AsideTx db db' (.request (.createManualUnbind e userID licenseID reason proofRef now))
  | reviewManualUnbind {e adminID requestID status note now audit r} :
      (reviewD2SManualUnbind e adminID requestID status note now audit).run db = .ok (r, db') →
      AsideTx db db' (.request (.reviewManualUnbind e adminID requestID status note now audit))

/-- **Every committed transaction keeps the three tables or is one of the four that write them.** -/
theorem asideTx [Digest] {t : Trans} {db db' : DB} (h : t.tx.run db = .ok ((), db')) : AsideTx db db' t := by
  cases t with
  | auditPurchase =>
    obtain ⟨_, rfl⟩ := auditPurchase_ok h
    exact .kept rfl rfl
  | commitOrder =>
    obtain ⟨o, ho⟩ := run_forget_ok.mp h
    exact .kept rfl (commitOrder_orderTx ho).aside
  | commitWithdrawal =>
    obtain ⟨w, hw⟩ := run_forget_ok.mp h
    obtain ⟨_, _, _, _, -, -, -, -, -, -, -, -, rfl⟩ := commitD2SWithdrawal_ok hw
    exact .kept rfl rfl
  | request r =>
    cases r with
    | setUser =>
      obtain ⟨_, rfl⟩ := storeUser_ok h
      exact .kept rfl rfl
    | setPurchasesEnabled =>
      obtain ⟨_, rfl⟩ := setD2SPurchasesEnabled_ok h
      exact .kept rfl rfl
    | setUserSecurityControl =>
      obtain ⟨_, rfl⟩ := setD2SUserSecurityControl_ok h
      exact .kept rfl rfl
    | ensureProfileAndTrial =>
      obtain ⟨p, hp⟩ := run_forget_ok.mp h
      obtain ⟨_, -, -, -, rfl | ⟨_, _, -, -, -, rfl⟩⟩ := ensureD2SProfileAndTrial_ok hp <;>
        exact .kept rfl rfl
    | bind =>
      obtain ⟨l, hl⟩ := run_forget_ok.mp h
      obtain ⟨_, _, _, -, -, -, -, -, -, -, -, -, rfl⟩ := bindD2SLicense_ok hl
      exact .kept rfl rfl
    | changeMode =>
      obtain ⟨l, hl⟩ := run_forget_ok.mp h
      obtain ⟨_, _, _, -, -, -, -, -, -, -, -, -, -, -, rfl⟩ := changeD2SLicenseMode_ok hl
      exact .kept rfl rfl
    | freeRevoke =>
      obtain ⟨r, hr⟩ := run_forget_ok.mp h
      exact .freeRevoke hr
    | startOrRenewLease =>
      obtain ⟨r, hr⟩ := run_forget_ok.mp h
      obtain ⟨_, _, -, -, -, -, -, rfl, -⟩ := startOrRenewD2SOnlineLease_ok hr
      exact .kept rfl rfl
    | releaseLease =>
      obtain rfl := releaseD2SOnlineLease_ok h
      exact .kept rfl rfl
    | releaseAllLeases => rcases releaseAllD2SOnlineLeases_ok h with rfl | rfl <;> exact .kept rfl rfl
    | deleteExpired =>
      obtain rfl := deleteExpiredD2SRuntimeArtifacts_ok h
      exact .kept rfl rfl
    | issueOffline =>
      obtain ⟨r, hr⟩ := run_forget_ok.mp h
      exact .issueOffline hr
    | coreGrant =>
      obtain ⟨r, hr⟩ := run_forget_ok.mp h
      obtain ⟨_, -, -, -, rfl⟩ := issueD2SCoreGrant_ok hr
      exact .kept rfl rfl
    | createManualUnbind =>
      obtain ⟨r, hr⟩ := run_forget_ok.mp h
      exact .createManualUnbind hr
    | reviewManualUnbind =>
      obtain ⟨r, hr⟩ := run_forget_ok.mp h
      exact .reviewManualUnbind hr
    | paymentEvent =>
      obtain ⟨o, ho⟩ := run_forget_ok.mp h
      exact .kept rfl (paymentEvent_orderTx ho).aside
    | expireOrder => exact .kept rfl (expireOrder_orderTx h).aside
    | createRefund =>
      obtain ⟨_, -, rfl⟩ := createD2SAlipayRefund_ok h
      exact .kept rfl rfl
    | completeRefund => exact .kept rfl (completeRefund_orderTx h).aside
    | reviewWithdrawal =>
      obtain ⟨w, hw⟩ := run_forget_ok.mp h
      obtain ⟨_, _, _, _, _, _, -, -, -, -, -, -, rfl⟩ := reviewD2SWithdrawal_ok hw
      exact .kept rfl rfl
    | setUserRegion =>
      obtain ⟨p, hp⟩ := run_forget_ok.mp h
      obtain ⟨_, _, -, rfl⟩ := setD2SUserRegion_ok hp
      exact .kept rfl rfl

end Desktop2Stereo
