import Desktop2Stereo.Effects.Steps

/-!
# Which transactions touch orders, money and regions

Eight transactions create, pay, cancel or refund orders, move balances or move a user to another
region. All the others are `Quiet`: they leave orders, accounts, ledger, withdrawals, refunds and regions
alone, log no licence event under an order and create no licence from one.

* `Quiet`, `MoneyTx`; **`moneyTx`**: every committed transaction is quiet or one of the eight.
-/

namespace Desktop2Stereo

open Relational GoText

/-! ## Licences and the orders they come from -/

/-- No licence is created from an order, and none loses the order it comes from. -/
def SourcesKept (t t' : Table D2SLicense) : Prop :=
  ∀ oid : String, oid ≠ "" →
    t'.count (fun l => l.sourceOrderID = oid) = t.count fun l => l.sourceOrderID = oid

theorem SourcesKept.refl (t : Table D2SLicense) : SourcesKept t t := fun _ _ => rfl

theorem sourcesKept_modify {t : Table D2SLicense} {p : D2SLicense → Bool} {f : D2SLicense → D2SLicense}
    (h : ∀ l, Indexed.keys (f l) = Indexed.keys l) : SourcesKept t (t.modify p f h) := by
  intro oid _
  refine t.count_modify_congr f h _ fun l => ?_
  have hkeys : ((f l).id, (f l).licenseCode, (f l).userID, (f l).kind, (f l).sourceOrderID) =
    (l.id, l.licenseCode, l.userID, l.kind, l.sourceOrderID) := h l
  simp only [Prod.mk.injEq] at hkeys
  rw [hkeys.2.2.2.2]

theorem sourcesKept_trial {t t' : Table D2SLicense} {l : D2SLicense} (h : t.insert l = some t')
    (hl : l.sourceOrderID = "") : SourcesKept t t' := by
  intro oid hoid
  rw [Table.count_insert h, hl, if_neg]
  · rfl
  · exact fun h => hoid (of_decide_eq_true h).symm

theorem sourcesKept_suspended {t : Table D2SLicense} {licenseID : String} {now : ℤ} :
    SourcesKept t (suspended t licenseID now) := by
  unfold suspended
  split_ifs
  · exact .refl t
  · exact sourcesKept_modify fun _ => by rfl

/-! ## Quiet transactions -/

/-- Orders, accounts, the ledger, withdrawals, refunds and regions stay as they are, and so does what the
other tables say about orders. -/
structure Quiet (db db' : DB) : Prop where
  orders : db'.orders = db.orders
  accounts : db'.accounts = db.accounts
  transactions : db'.transactions = db.transactions
  withdrawals : db'.withdrawals = db.withdrawals
  rewards : db'.rewards = db.rewards
  paymentEvents : db'.paymentEvents = db.paymentEvents
  quotas : db'.quotas = db.quotas
  refunds : db'.refunds = db.refunds
  regions : ∀ u, regionOf db'.profiles u = regionOf db.profiles u
  events : Table.Extends (fun v => v.orderID = "") db.licenseEvents db'.licenseEvents
  sources : SourcesKept db.licenses db'.licenses

variable {db db' : DB}

/-- The tables that a quiet transaction keeps whole. -/
def DB.money (db : DB) := (db.orders, db.accounts, db.transactions, db.withdrawals, db.rewards, db.paymentEvents,
  db.quotas, db.refunds)

theorem Quiet.of_money (h : db'.money = db.money) (hregions : ∀ u, regionOf db'.profiles u = regionOf db.profiles u)
    (hevents : Table.Extends (fun v => v.orderID = "") db.licenseEvents db'.licenseEvents)
    (hsources : SourcesKept db.licenses db'.licenses) : Quiet db db' := by
  simp only [DB.money, Prod.mk.injEq] at h
  obtain ⟨ho, ha, ht, hw, hr, hp, hq, hf⟩ := h
  exact ⟨ho, ha, ht, hw, hr, hp, hq, hf, hregions, hevents, hsources⟩

theorem Quiet.of_licensing (h : db'.money = db.money) (hprofiles : db'.profiles = db.profiles)
    (hevents : db'.licenseEvents = db.licenseEvents) (hlicenses : db'.licenses = db.licenses) : Quiet db db' := by
  refine .of_money h (fun u => by rw [hprofiles]) ?_ ?_
  · rw [hevents]
    exact .refl _ _
  · rw [hlicenses]
    exact .refl _

/-- A committed transaction, by what it may do to orders and money. -/
inductive MoneyTx [Digest] (db db' : DB) : Trans → Prop
  | quiet {t} : Quiet db db' → MoneyTx db db' t
  | commitOrder {e p o} : (commitD2SOrder e p).run db = .ok (o, db') → MoneyTx db db' (.commitOrder e p)
  | paymentEvent {e n o} : (processD2SPaymentEvent e n).run db = .ok (o, db') →
      MoneyTx db db' (.request (.paymentEvent e n))
  | expireOrder {e orderID now} : (expireD2SOrder e orderID now).run db = .ok ((), db') →
      MoneyTx db db' (.request (.expireOrder e orderID now))
  | completeRefund {e no trade now} : (completeD2SAlipayRefund e no trade now).run db = .ok ((), db') →
      MoneyTx db db' (.request (.completeRefund e no trade now))
  | commitWithdrawal {e p w} : (commitD2SWithdrawal e p).run db = .ok (w, db') →
      MoneyTx db db' (.commitWithdrawal e p)
  | reviewWithdrawal {e adminID id status note now audit w} :
      (reviewD2SWithdrawal e adminID id status note now audit).run db = .ok (w, db') →
      MoneyTx db db' (.request (.reviewWithdrawal e adminID id status note now audit))
  | createRefund {refund} : (createD2SAlipayRefund refund).run db = .ok ((), db') →
      MoneyTx db db' (.request (.createRefund refund))
  | setUserRegion {e adminID userID region now audit p} :
      (setD2SUserRegion e adminID userID region now audit).run db = .ok (p, db') →
      MoneyTx db db' (.request (.setUserRegion e adminID userID region now audit))

/-- **Every committed transaction is quiet or one of the eight that touch orders, money or regions.** -/
theorem moneyTx [Digest] {t : Trans} (h : t.tx.run db = .ok ((), db')) : MoneyTx db db' t := by
  cases t with
  | auditPurchase =>
    obtain ⟨_, rfl⟩ := auditPurchase_ok h
    exact .quiet (.of_licensing rfl rfl rfl rfl)
  | commitOrder =>
    obtain ⟨o, ho⟩ := run_forget_ok.mp h
    exact .commitOrder ho
  | commitWithdrawal =>
    obtain ⟨w, hw⟩ := run_forget_ok.mp h
    exact .commitWithdrawal hw
  | request r =>
    cases r with
    | setUser =>
      obtain ⟨_, rfl⟩ := storeUser_ok h
      exact .quiet (.of_licensing rfl rfl rfl rfl)
    | setPurchasesEnabled =>
      obtain ⟨_, rfl⟩ := setD2SPurchasesEnabled_ok h
      exact .quiet (.of_licensing rfl rfl rfl rfl)
    | setUserSecurityControl =>
      obtain ⟨_, rfl⟩ := setD2SUserSecurityControl_ok h
      exact .quiet (.of_licensing rfl rfl rfl rfl)
    | ensureProfileAndTrial =>
      obtain ⟨p, hp⟩ := run_forget_ok.mp h
      have hregions := ensureD2SProfileAndTrial_regions hp
      obtain ⟨_, -, -, -, rfl | ⟨_, _, -, hins, hev, rfl⟩⟩ := ensureD2SProfileAndTrial_ok hp
      · exact .quiet (.of_money rfl hregions (.refl _ _) (.refl _))
      · exact .quiet (.of_money rfl hregions hev (sourcesKept_trial hins rfl))
    | bind =>
      obtain ⟨l, hl⟩ := run_forget_ok.mp h
      obtain ⟨_, _, _, -, -, -, -, -, -, -, hev, -, rfl⟩ := bindD2SLicense_ok hl
      exact .quiet (.of_money rfl (fun _ => rfl) hev (sourcesKept_modify fun _ => by rfl))
    | changeMode =>
      obtain ⟨l, hl⟩ := run_forget_ok.mp h
      obtain ⟨_, _, _, -, -, -, -, -, -, -, -, -, hev, -, rfl⟩ := changeD2SLicenseMode_ok hl
      exact .quiet (.of_money rfl (fun _ => rfl) hev (sourcesKept_modify fun _ => by rfl))
    | freeRevoke =>
      obtain ⟨l, hl⟩ := run_forget_ok.mp h
      obtain ⟨_, _, _, -, -, -, -, -, hev, -, -, rfl⟩ := freeRevokeD2SLicense_ok hl
      exact .quiet (.of_money rfl (fun _ => rfl) hev (sourcesKept_modify fun _ => by rfl))
    | startOrRenewLease =>
      obtain ⟨r, hr⟩ := run_forget_ok.mp h
      obtain ⟨_, _, -, -, -, -, -, rfl, -⟩ := startOrRenewD2SOnlineLease_ok hr
      exact .quiet (.of_licensing rfl rfl rfl rfl)
    | releaseLease =>
      obtain rfl := releaseD2SOnlineLease_ok h
      exact .quiet (.of_licensing rfl rfl rfl rfl)
    | releaseAllLeases =>
      rcases releaseAllD2SOnlineLeases_ok h with rfl | rfl <;>
        exact .quiet (.of_licensing rfl rfl rfl rfl)
    | deleteExpired =>
      obtain rfl := deleteExpiredD2SRuntimeArtifacts_ok h
      exact .quiet (.of_licensing rfl rfl rfl rfl)
    | issueOffline =>
      obtain ⟨r, hr⟩ := run_forget_ok.mp h
      obtain ⟨_, _, _, -, -, -, -, -, -, -, rfl⟩ := issueD2SOfflineEntitlement_ok hr
      exact .quiet (.of_money rfl (fun _ => rfl) (.refl _ _) (sourcesKept_modify fun _ => by rfl))
    | coreGrant =>
      obtain ⟨r, hr⟩ := run_forget_ok.mp h
      obtain ⟨_, -, -, -, rfl⟩ := issueD2SCoreGrant_ok hr
      exact .quiet (.of_licensing rfl rfl rfl rfl)
    | createManualUnbind =>
      obtain ⟨r, hr⟩ := run_forget_ok.mp h
      obtain ⟨_, _, -, -, -, -, -, -, -, -, -, rfl⟩ := createD2SManualUnbind_ok hr
      exact .quiet (.of_licensing rfl rfl rfl rfl)
    | reviewManualUnbind =>
      obtain ⟨q, hq⟩ := run_forget_ok.mp h
      obtain ⟨r, _, _, _, _, _, -, -, -, hev, hcase, rfl⟩ := reviewD2SManualUnbind_ok hq
      refine .quiet (.of_money rfl (fun _ => rfl) hev ?_)
      rcases hcase with ⟨-, l, -, -, rfl⟩ | ⟨-, -, rfl⟩
      · exact sourcesKept_modify fun _ => by rfl
      · exact .refl _
    | paymentEvent =>
      obtain ⟨o, ho⟩ := run_forget_ok.mp h
      exact .paymentEvent ho
    | expireOrder => exact .expireOrder h
    | createRefund => exact .createRefund h
    | completeRefund => exact .completeRefund h
    | reviewWithdrawal =>
      obtain ⟨w, hw⟩ := run_forget_ok.mp h
      exact .reviewWithdrawal hw
    | setUserRegion =>
      obtain ⟨p, hp⟩ := run_forget_ok.mp h
      exact .setUserRegion hp

end Desktop2Stereo
