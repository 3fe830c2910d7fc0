import Desktop2Stereo.Licence.Binding

/-!
# Online leases are exclusive

* `Undisturbed`: an operation neither releases the lease nor takes its licence offline, and acts before
  the lease expires; `held_step`, `held_run`: such operations leave the lease with its token;
* `startOrRenew_renews`, `startOrRenew_refuses`: what a heartbeat gets while the lease is held;
* **`lease_exclusive`**.
-/

namespace Desktop2Stereo

open Relational GoText

section Exclusive

variable [Digest]

/-! ## Holding a lease -/

/-- The token holds the lease of the licence on the device until `exp` at least. -/
def Held (db : DB) (licenseID : String) (owner : ℤ) (device token : String) (exp : ℤ) : Prop :=
  ∃ lease, db.leases.get? licenseID = some lease ∧ lease.leaseTokenHash = hashD2SSecret token ∧
    lease.deviceHash = device ∧ lease.userID = owner ∧ exp ≤ lease.expiresAt

def Op.releases (licenseID : String) (owner : ℤ) (token : String) : Op → Prop
  | .request (.releaseLease userID id rawLeaseToken) => id = licenseID ∧ userID = owner ∧ rawLeaseToken = token
  | .request (.releaseAllLeases userID) => userID = owner
  | _ => False

/-- The operation acts, if it reads a clock, from `now` on and before `exp`; it does not release the
lease of the token; and it leaves the licence online on the device, so neither a revoke nor a change
of mode ends the lease. -/
structure Undisturbed (licenseID : String) (owner : ℤ) (device token : String) (now exp : ℤ) (s : State) (op : Op) :
    Prop where
  clock : ∀ c ∈ op.clock, now ≤ c ∧ c < exp
  release : ¬ op.releases licenseID owner token
  online : ∃ l ∈ (step s op).db.licenses.get? licenseID, l.mode = .online ∧ l.deviceHash = device

variable {licenseID device token : String} {owner now exp : ℤ} {s : State} {op : Op} {db db' : DB}

/-- The lease of a slot after a move that neither ends nor replaces it: a heartbeat at `c` with
`now ≤ c < exp` can only renew it. -/
theorem SlotMove.lease_kept {t : Trans} {a b : Slot} {lease : D2SOnlineLease} (h : SlotMove t db db' licenseID a b)
    (hlease : a.lease = some lease) (hexp : exp = now + d2sOnlineLeaseTTL) (hle : exp ≤ lease.expiresAt)
    (hon : ∀ l, b.license = some l → l.mode = .online) (hends : ¬ t.endsLease lease)
    (hclock : ∀ e userID deviceHash raw n, t = .request (.startOrRenewLease e userID licenseID deviceHash raw n) →
      now ≤ e.resolve n ∧ e.resolve n < exp) :
    ∃ lease', b.lease = some lease' ∧ lease'.leaseTokenHash = lease.leaseTokenHash ∧
      lease'.deviceHash = lease.deviceHash ∧ lease'.userID = lease.userID ∧ exp ≤ lease'.expiresAt := by
  have hsame : ∀ {x : D2SOnlineLease}, a.lease = some x → x = lease := fun hx => Option.some.inj (hx.symm.trans hlease)
  cases h with
  | same | created | bound | issued | extended | suspended | released =>
    exact ⟨lease, hlease, rfl, rfl, rfl, hle⟩
  | @moded l mode =>
    have hmode : mode = .online := hon _ rfl
    simp only [if_pos hmode]
    exact ⟨lease, hlease, rfl, rfl, rfl, hle⟩
  | revoked => exact (nomatch hon _ rfl)
  | leased ht hl hu hmode hfree =>
    have hfree' := hfree lease hlease
    have hlive := (hclock _ _ _ _ _ ht).2
    omega
  | @renewed _ e _ _ _ n ht hx =>
    obtain rfl := hsame hx
    have hlater := (hclock _ _ _ _ _ ht).1
    refine ⟨_, rfl, rfl, rfl, rfl, ?_⟩
    show exp ≤ e.resolve n + d2sOnlineLeaseTTL
    omega
  | leaseEnded hx hx' =>
    obtain rfl := hsame hx
    exact absurd hx' hends

theorem Undisturbed.not_ends {t : Trans} {lease : D2SOnlineLease} (hinj : Function.Injective hashD2SSecret)
    (hop : Undisturbed licenseID owner device token now exp s op) (ht : op.runs s t)
    (hid : lease.licenseID = licenseID) (htok : lease.leaseTokenHash = hashD2SSecret token)
    (hown : lease.userID = owner) (hle : exp ≤ lease.expiresAt) : ¬ t.endsLease lease := by
  intro hends
  unfold Trans.endsLease at hends
  split at hends
  · next userID lid raw =>
    obtain rfl := runs_request ht (fun _ _ _ h => nomatch h)
    have hraw : raw = token := hinj (hends.2.2.symm.trans htok)
    exact hop.release ⟨hends.1.symm.trans hid, hends.2.1.symm.trans hown, hraw⟩
  · next userID =>
    obtain rfl := runs_request ht (fun _ _ _ h => nomatch h)
    exact hop.release (hends.symm.trans hown)
  · next e n =>
    obtain rfl := runs_request ht (fun _ _ _ h => nomatch h)
    have hclock := (hop.clock _ rfl).2
    omega
  · exact hends

/-- **An undisturbed step leaves the lease with its token.** -/
theorem held_step (hinj : Function.Injective hashD2SSecret) (hexp : exp = now + d2sOnlineLeaseTTL)
    (hI : Held s.db licenseID owner device token exp) (hop : Undisturbed licenseID owner device token now exp s op) :
    Held (step s op).db licenseID owner device token exp := by
  rcases step_trans s op with heq | ⟨t, ht, hr⟩
  · rwa [heq]
  · obtain ⟨lease, hlease, htok, hdev, hown, hle⟩ := hI
    obtain ⟨_, hl', hon, -⟩ := hop.online
    have hid : lease.licenseID = licenseID := (Table.get?_eq_some.mp hlease).2
    obtain ⟨lease', hlease', htok', hdev', hown', hle'⟩ := (slotMove hr licenseID).lease_kept hlease hexp hle
      (fun l hl => Option.some.inj (hl'.symm.trans hl) ▸ hon) (hop.not_ends hinj ht hid htok hown hle)
      (fun e userID deviceHash raw n hreq => by
        subst hreq
        obtain rfl := runs_request ht (fun _ _ _ h => nomatch h)
        exact hop.clock _ rfl)
    exact ⟨lease', hlease', htok'.trans htok, hdev'.trans hdev, hown'.trans hown, hle'⟩

def HeldOnline (db : DB) (licenseID : String) (owner : ℤ) (device token : String) (exp : ℤ) : Prop :=
  Held db licenseID owner device token exp ∧
    ∃ l, db.licenses.get? licenseID = some l ∧ l.mode = .online ∧ l.deviceHash = device

theorem held_run (hinj : Function.Injective hashD2SSecret) (hexp : exp = now + d2sOnlineLeaseTTL)
    (hI : HeldOnline s.db licenseID owner device token exp) {ops : List Op}
    (hops : Runs.Along step (Undisturbed licenseID owner device token now exp) s ops) :
    HeldOnline (run s ops).db licenseID owner device token exp :=
  Runs.run_invariant_along (I := fun s : State => HeldOnline s.db licenseID owner device token exp)
    (fun _ _ hs hop => ⟨held_step hinj hexp hs.1 hop, hop.online⟩) hI hops

/-! ## Heartbeats -/

variable {e : Env} {userID : ℤ} {deviceHash raw : String} {l : D2SLicense} {lease : D2SOnlineLease}

theorem startOrRenew_renews (hl : db.licenses.get? licenseID = some l) (hu : l.userID = userID)
    (huse : l.usable (e.resolve now) = true) (hon : l.mode = .online) (hd : l.deviceHash = toLower (trimSpace deviceHash))
    (hlease : db.leases.get? licenseID = some lease) (hlive : e.resolve now < lease.expiresAt) (hraw : raw ≠ "")
    (htok : lease.leaseTokenHash = hashD2SSecret raw) (hdev : lease.deviceHash = l.deviceHash) :
    ∃ db', (startOrRenewD2SOnlineLease e userID licenseID deviceHash raw now).run db =
        .ok ((raw, e.resolve now + d2sOnlineLeaseTTL), db') ∧
      db'.leases.get? licenseID =
        some { lease with expiresAt := e.resolve now + d2sOnlineLeaseTTL, lastHeartbeatAt := e.resolve now } := by
  have hid := license_id hl
  refine ⟨{ db with leases := db.leases.modify (·.licenseID = licenseID) (fun l =>
    { l with expiresAt := e.resolve now + d2sOnlineLeaseTTL, lastHeartbeatAt := e.resolve now }) (fun _ => rfl) }, ?_, ?_⟩
  · simp only [startOrRenewD2SOnlineLease, run_bind_ok, getD2SLicense_ok, run_require_ok, run_lookup_ok]
    refine ⟨l, db, ⟨hl, hu, rfl⟩, (), db, ⟨⟨huse, hon, hd⟩, rfl⟩, some lease, db, ⟨?_, rfl⟩, ?_⟩
    · rw [hid]
      exact hlease.symm
    · simp only [if_pos hlive, renewD2SOnlineLease, run_bind_ok, run_require_ok, run_updates_ok, run_pure_ok, hid]
      exact ⟨(), db, ⟨⟨hraw, htok, hdev⟩, rfl⟩, (), _, rfl, trivial, rfl⟩
  · refine (Table.get?_modify_pk _ licenseID (h := fun _ => by rfl) (fun c => by simp) licenseID).trans ?_
    rw [if_pos rfl, hlease]
    rfl

theorem startOrRenew_refuses (hinj : Function.Injective hashD2SSecret)
    (hI : Held db licenseID owner device token exp) (hlive : e.resolve now < exp) {r : String × ℤ}
    (h : (startOrRenewD2SOnlineLease e userID licenseID deviceHash raw now).run db = .ok (r, db')) :
    raw = token ∧ r.1 = token := by
  obtain ⟨lease, hlease, htok, -, -, _⟩ := hI
  obtain ⟨l, _, -, -, -, -, -, -, -, hcase⟩ := startOrRenewD2SOnlineLease_ok h
  rcases hcase with ⟨lease', hlease', -, -, htok', -, hr, -⟩ | ⟨hfree, -⟩
  · obtain rfl : lease' = lease := Option.some.inj (hlease'.symm.trans hlease)
    have hraw : raw = token := hinj (htok'.symm.trans htok)
    exact ⟨hraw, hr.trans hraw⟩
  · have := hfree lease hlease
    omega

theorem startOrRenew_held (hI : Consistent db) {r : String × ℤ}
    (h : (startOrRenewD2SOnlineLease e userID licenseID deviceHash raw now).run db = .ok (r, db')) :
    r.1 ≠ "" ∧ r.2 = e.resolve now + d2sOnlineLeaseTTL ∧
      HeldOnline db' licenseID userID (toLower (trimSpace deviceHash)) r.1 r.2 := by
  obtain ⟨l, _, hl, hu, -, hon, hd, rfl, hr, hcase⟩ := startOrRenewD2SOnlineLease_ok h
  rcases hcase with ⟨lease, hlease, -, hraw, htok, hdev, hr1, hget⟩ | ⟨-, hr1, hget⟩
  · have hown := (((hI licenseID).2 l hl).lease lease hlease).2.2
    refine ⟨hr1 ▸ hraw, hr, ⟨_, (hget licenseID).trans (if_pos rfl), ?_, hdev.trans hd, hown.trans hu, le_refl _⟩,
      l, hl, hon, hd⟩
    rw [hr1]
    exact htok
  · refine ⟨?_, hr, ⟨_, (hget licenseID).trans (if_pos rfl), rfl, hd, rfl, le_of_eq hr⟩, l, hl, hon, hd⟩
    rw [hr1]
    split_ifs with hraw
    · exact e.leaseSecret_nonempty
    · exact hraw

/-! ## Exclusivity -/

/-- **A lease is exclusive until it is released, revoked or expires.** A heartbeat in a reachable state
returns `token` and `exp`. After any operations that leave the lease undisturbed, the token still holds
it and no other token does; every heartbeat for the licence before `exp` that presents another token
fails and changes nothing; and one that presents the token on the bound device, while the licence is
active and has not expired, succeeds and extends the lease to two hours from its own time. -/
theorem lease_exclusive (hinj : Function.Injective hashD2SSecret) (users : Table User) (options : Table OptionRow)
    (controls : Table D2SUserSecurityControl) (ops ops' : List Op) (e : Env) (userID now exp : ℤ)
    (licenseID deviceHash raw token : String) (db₁ : DB)
    (hbeat : (startOrRenewD2SOnlineLease e userID licenseID deviceHash raw now).run
      (run (.init users options controls) ops).db = .ok ((token, exp), db₁))
    (hops' : Runs.Along step
      (Undisturbed licenseID userID (toLower (trimSpace deviceHash)) token (e.resolve now) exp)
      { run (.init users options controls) ops with db := db₁ } ops') :
    let s := run { run (.init users options controls) ops with db := db₁ } ops'
    exp = e.resolve now + 7200 ∧
    (∃ lease, s.db.leases.get? licenseID = some lease ∧ exp ≤ lease.expiresAt ∧
      ∀ token', lease.leaseTokenHash = hashD2SSecret token' ↔ token' = token) ∧
    ∀ (e' : Env) userID' deviceHash' raw' now', e'.resolve now' < exp →
      (raw' ≠ token →
        ¬ Commits (startOrRenewD2SOnlineLease e' userID' licenseID deviceHash' raw' now') s.db ∧
        (step s (.request (.startOrRenewLease e' userID' licenseID deviceHash' raw' now'))).db = s.db) ∧
      (raw' = token → userID' = userID → toLower (trimSpace deviceHash') = toLower (trimSpace deviceHash) →
        (∀ l, s.db.licenses.get? licenseID = some l → l.usable (e'.resolve now') = true) →
        ∃ db₂, (startOrRenewD2SOnlineLease e' userID' licenseID deviceHash' raw' now').run s.db =
            .ok ((token, e'.resolve now' + 7200), db₂) ∧
          ∃ lease, db₂.leases.get? licenseID = some lease ∧ lease.leaseTokenHash = hashD2SSecret token ∧
            lease.expiresAt = e'.resolve now' + 7200) := by
  intro s
  obtain ⟨hne, hexp, hheld⟩ := startOrRenew_held (consistent_run users options controls ops) hbeat
  have hrun : HeldOnline s.db licenseID userID (toLower (trimSpace deviceHash)) token exp :=
    held_run (s := { run (.init users options controls) ops with db := db₁ }) hinj hexp hheld hops'
  obtain ⟨hheld', l, hl, hon, hd⟩ := hrun
  have howner : l.userID = userID := by
    obtain ⟨l0, _, hl0, hu, -, -, -, hdb, -⟩ := startOrRenewD2SOnlineLease_ok hbeat
    have hl1 : db₁.licenses.get? licenseID = some l0 := by
      rw [hdb]
      exact hl0
    obtain ⟨l', hl', hkeys⟩ := license_kept (s := { run (.init users options controls) ops with db := db₁ }) hl1 ops'
    obtain rfl : l' = l := Option.some.inj (hl'.symm.trans hl)
    exact (D2SLicense.kind_of_keys hkeys).2.1.trans hu
  obtain ⟨lease, hlease, htok, hdev, _, hle⟩ := id hheld'
  refine ⟨hexp, ⟨lease, hlease, hle, fun token' => ⟨fun h => hinj (h.symm.trans htok), fun h => h ▸ htok⟩⟩,
    fun e' userID' deviceHash' raw' now' hlive => ⟨fun hraw => ?_, ?_⟩⟩
  · have hno : ¬ Commits (startOrRenewD2SOnlineLease e' userID' licenseID deviceHash' raw' now') s.db :=
      fun ⟨⟨_, _⟩, h⟩ => hraw (startOrRenew_refuses hinj hheld' hlive h).1
    refine ⟨hno, ?_⟩
    rcases step_trans s (.request (.startOrRenewLease e' userID' licenseID deviceHash' raw' now')) with heq | ⟨t, ht, hr⟩
    · exact heq
    · obtain rfl : t = _ := ht
      obtain ⟨r, hr⟩ := run_forget_ok.mp hr
      exact absurd ⟨_, hr⟩ hno
  · rintro rfl rfl hdev' huse
    obtain ⟨db₂, hrun, hrow⟩ := startOrRenew_renews hl howner (huse l hl) hon (hd.trans hdev'.symm) hlease
      (lt_of_lt_of_le hlive hle) hne htok (hdev.trans hd.symm)
    exact ⟨db₂, hrun, _, hrow, htok, rfl⟩

end Exclusive

def sampleOnline : List Op :=
  [.request (.ensureProfileAndTrial (.sample 0) 1 1000), .request (.bind (.sample 1) 1 "license-0" sampleHex 1 1000)]

/-- The first heartbeat of the trial. -/
def sampleHeartbeat : Request := .startOrRenewLease (.sample 2) 1 "license-0" sampleHex "" 1000

theorem lease_exclusive_swept :
    letI := Digest.plain
    let s := run .sample (sampleOnline ++ [.request sampleHeartbeat])
    ((startOrRenewD2SOnlineLease (.sample 2) 1 "license-0" sampleHex "" 1000).run (run .sample sampleOnline).db).map
        Prod.fst = .ok ("lease-2", 8200) ∧
      ¬ Commits (startOrRenewD2SOnlineLease (.sample 4) 1 "license-0" sampleHex "other" 8000)
        (run s [.request (.deleteExpired (.sample 3) 5000)]).db := by
  let _ := Digest.plain
  have hbeat : ((startOrRenewD2SOnlineLease (.sample 2) 1 "license-0" sampleHex "" 1000).run
      (run .sample sampleOnline).db).map Prod.fst = .ok ("lease-2", 8200) := by decide
  have honline : ∃ l ∈ (step (step (run .sample sampleOnline) (.request sampleHeartbeat))
      (.request (.deleteExpired (.sample 3) 5000))).db.licenses.get? "license-0",
      l.mode = .online ∧ l.deviceHash = toLower (trimSpace sampleHex) := by decide
  obtain ⟨⟨_, db1⟩, h, rfl⟩ := except_map_ok.mp hbeat
  refine ⟨hbeat, ?_⟩
  have hstep : step (run .sample sampleOnline) (.request sampleHeartbeat) = { run .sample sampleOnline with db := db1 } :=
    step_request (run_forget_ok.mpr ⟨_, h⟩)
  rw [hstep] at honline
  have hex := lease_exclusive (fun _ _ h => h) _ _ _ sampleOnline [.request (.deleteExpired (.sample 3) 5000)] (.sample 2) 1
    1000 8200 "license-0" sampleHex "" "lease-2" db1 h
    ⟨⟨by simp [Op.clock, Request.clock, Env.resolve], fun h => h, honline⟩, trivial⟩
  have hno := ((hex.2.2 (.sample 4) 1 sampleHex "other" 8000 (by decide)).1 (by decide)).1
  rw [run, Runs.run_append]
  simp only [Runs.run_cons, Runs.run_nil]
  rw [hstep]
  exact hno

end Desktop2Stereo
