import Desktop2Stereo.Licence.Slots

/-!
# One trial, started once

* **`one_trial`**.
-/

namespace Desktop2Stereo

open Relational GoText D2SLicense

/-! ## The clock of a trial -/

/-- A trial has no source order, and its two times are both unset or 30 days apart. -/
structure TrialClock (l : D2SLicense) : Prop where
  source : l.sourceOrderID = ""
  times : (l.activatedAt = 0 ∧ l.expiresAt = 0) ∨ (0 < l.activatedAt ∧ l.expiresAt = l.activatedAt + 30 * day)

variable {l : D2SLicense} {deviceHash : String} {fingerprintVersion now : ℤ}

theorem D2SLicense.bound_starts (deviceHash : String) (fingerprintVersion now : ℤ) (hk : l.kind = .trial) (h : l.activatedAt = 0 ∧ l.expiresAt = 0) :
    (l.bound deviceHash fingerprintVersion now).activatedAt = now ∧
      (l.bound deviceHash fingerprintVersion now).expiresAt = now + 30 * day := by
  unfold D2SLicense.bound
  simp only [hk, h.1, h.2, if_true, and_self]

theorem D2SLicense.bound_started (deviceHash : String) (fingerprintVersion now : ℤ) (h : 0 < l.activatedAt) :
    (l.bound deviceHash fingerprintVersion now).activatedAt = l.activatedAt ∧
      (l.bound deviceHash fingerprintVersion now).expiresAt = l.expiresAt := by
  have hne : l.activatedAt ≠ 0 := by omega
  unfold D2SLicense.bound
  simp [hne]

theorem TrialClock.bound (h : TrialClock l) (hk : l.kind = .trial) (hnow : 0 < now) :
    TrialClock (l.bound deviceHash fingerprintVersion now) := by
  refine ⟨h.source, ?_⟩
  rcases h.times with hz | ⟨hpos, heq⟩
  · obtain ⟨ha, he⟩ := bound_starts deviceHash fingerprintVersion now hk hz
    exact .inr ⟨ha.symm ▸ hnow, he.trans (by rw [ha])⟩
  · obtain ⟨ha, he⟩ := bound_started deviceHash fingerprintVersion now hpos
    exact .inr ⟨ha.symm ▸ hpos, by rw [ha, he, heq]⟩

/-! ## Trials along runs -/

section Runs

variable {t : Trans} {db db' : DB} {s : State}

def Trials (db : DB) : Prop := ∀ id l, db.licenses.get? id = some l → l.kind = .trial → TrialClock l

theorem Trials.unique (h : Trials db) {l l' : D2SLicense} (hl : l ∈ db.licenses.rows) (hl' : l' ∈ db.licenses.rows)
    (hk : l.kind = .trial) (hk' : l'.kind = .trial) (hu : l.userID = l'.userID) : l = l' := by
  have hs := (h l.id l (Table.get?_pk hl) hk).source
  have hs' := (h l'.id l' (Table.get?_pk hl') hk').source
  refine db.licenses.eq_of_clash hl hl' (.inr (.inr ?_))
  show (l.userID, l.kind, l.sourceOrderID) = (l'.userID, l'.kind, l'.sourceOrderID)
  rw [hu, hk, hk', hs, hs']

variable [Digest]

theorem trials_tx (hI : Trials db) (h : t.tx.run db = .ok ((), db')) : Trials db' := by
  intro id l' hl' hk'
  have hmove := slotMove h id
  cases hl : db.licenses.get? id with
  | none =>
    have hc := hmove.fresh hl hl'
    exact ⟨hc.trial hk', .inl ⟨hc.activatedAt, hc.expiresAt⟩⟩
  | some l =>
    obtain ⟨l1, hl1, hkeys, htimes⟩ := hmove.kept hl
    obtain rfl : l1 = l' := Option.some.inj (hl1.symm.trans hl')
    obtain ⟨-, -, hk, hsrc⟩ := kind_of_keys hkeys
    have hclock := hI id l hl (hk ▸ hk')
    rcases htimes with ⟨ha, he⟩ | ⟨e, _, _, _, now, -, rfl⟩
    · exact ⟨hsrc.trans hclock.source, by rw [ha, he]; exact hclock.times⟩
    · exact hclock.bound (hk ▸ hk') (e.resolve_pos now)

theorem trials_run (users : Table User) (options : Table OptionRow) (controls : Table D2SUserSecurityControl)
    (ops : List Op) : Trials (run (.init users options controls) ops).db :=
  run_db (fun _ _ _ => trials_tx) (fun _ _ hl => absurd hl.symm (Option.some_ne_none _)) ops

/-- **A started licence keeps its times forever.** -/
theorem started_run {id : String} {l : D2SLicense} (h : s.db.licenses.get? id = some l) (hpos : 0 < l.activatedAt)
    (ops : List Op) :
    ∃ l', (run s ops).db.licenses.get? id = some l' ∧ l'.activatedAt = l.activatedAt ∧ l'.expiresAt = l.expiresAt := by
  refine run_db (I := fun db => ∃ l', db.licenses.get? id = some l' ∧ l'.activatedAt = l.activatedAt ∧
    l'.expiresAt = l.expiresAt) (fun t db db' ⟨l1, hl1, ha, he⟩ hr => ?_) ⟨l, h, rfl, rfl⟩ ops
  obtain ⟨l2, hl2, -, ⟨ha', he'⟩ | ⟨_, _, _, _, _, -, rfl⟩⟩ := (slotMove hr id).kept hl1
  · exact ⟨l2, hl2, ha'.trans ha, he'.trans he⟩
  · obtain ⟨ha', he'⟩ := bound_started (l := l1) _ _ _ (by rw [ha]; exact hpos)
    exact ⟨_, hl2, ha'.trans ha, he'.trans he⟩

theorem expired_refused {id : String} {l : D2SLicense} (hl : db.licenses.get? id = some l) (hpos : 0 < l.expiresAt)
    (e : Env) (userID now : ℤ) (deviceHash : String) (hnow : l.expiresAt ≤ e.resolve now) :
    (∀ fingerprintVersion, ¬ Commits (bindD2SLicense e userID id deviceHash fingerprintVersion now) db) ∧
    (∀ nextMode confirmation offlineDays,
      ¬ Commits (changeD2SLicenseMode e userID id deviceHash nextMode confirmation offlineDays now) db) ∧
    (∀ token, ¬ Commits (startOrRenewD2SOnlineLease e userID id deviceHash token now) db) ∧
    (∀ c key days, ¬ Commits (issueD2SOfflineEntitlement e c userID id deviceHash key days now) db) ∧
    (∀ c key coreID coreVersion,
      ¬ Commits (issueD2SCoreGrant e c userID id deviceHash key coreID coreVersion now) db) := by
  -- each of them has found the licence usable
  have hno : ∀ k, db.licenses.get? id = some k → k.usable (e.resolve now) = true → False := by
    intro k hk huse
    rw [hl] at hk
    cases hk
    exact (of_decide_eq_true huse).2 ⟨hpos, hnow⟩
  refine ⟨fun _ ⟨⟨_, _⟩, h⟩ => ?_, fun _ _ _ ⟨⟨_, _⟩, h⟩ => ?_, fun _ ⟨⟨_, _⟩, h⟩ => ?_, fun _ _ _ ⟨⟨_, _⟩, h⟩ => ?_,
    fun _ _ _ _ ⟨⟨_, _⟩, h⟩ => ?_⟩
  · obtain ⟨k, _, _, hk, -, huse, -⟩ := bindD2SLicense_ok h
    exact hno k hk huse
  · obtain ⟨k, _, _, hk, -, huse, -⟩ := changeD2SLicenseMode_ok h
    exact hno k hk huse
  · obtain ⟨k, _, hk, -, huse, -⟩ := startOrRenewD2SOnlineLease_ok h
    exact hno k hk huse
  · obtain ⟨k, _, _, hk, -, hready, -⟩ := issueD2SOfflineEntitlement_ok h
    exact hno k hk hready.1
  · obtain ⟨k, hk, -, huse, -⟩ := issueD2SCoreGrant_ok h
    exact hno k hk huse

/-- **One trial, started once.** In every reachable state: a user never gets a second trial; a trial
that is not started has neither of its times, no operation but a bind of it sets them, and a bind that
commits at `now` sets them to `now` and 30 days on; a started trial keeps both times in every later
state, where nothing that uses it commits at or after its expiry. -/
theorem one_trial (users : Table User) (options : Table OptionRow) (controls : Table D2SUserSecurityControl)
    (ops : List Op) :
    let s := run (.init users options controls) ops
    (∀ ops', ∀ l ∈ s.db.licenses.rows, ∀ l' ∈ (run s ops').db.licenses.rows,
      l.kind = .trial → l'.kind = .trial → l.userID = l'.userID → l.id = l'.id) ∧
    ∀ l ∈ s.db.licenses.rows, l.kind = .trial →
      (l.activatedAt = 0 ∧ l.expiresAt = 0 ∧
        (∀ op, ∃ l', (step s op).db.licenses.get? l.id = some l' ∧
          ((l'.activatedAt = 0 ∧ l'.expiresAt = 0) ∨
            ∃ e userID deviceHash fingerprintVersion now,
              op = .request (.bind e userID l.id deviceHash fingerprintVersion now) ∧
              l'.activatedAt = e.resolve now ∧ l'.expiresAt = e.resolve now + 30 * 86400)) ∧
        (∀ e userID deviceHash fingerprintVersion now l' db',
          (bindD2SLicense e userID l.id deviceHash fingerprintVersion now).run s.db = .ok (l', db') →
          db'.licenses.get? l.id = some l' ∧
          l'.activatedAt = e.resolve now ∧ l'.expiresAt = e.resolve now + 30 * 86400)) ∨
      (0 < l.activatedAt ∧ l.expiresAt = l.activatedAt + 30 * 86400 ∧
        ∀ ops', let db := (run s ops').db
          (∃ l', db.licenses.get? l.id = some l' ∧ l'.activatedAt = l.activatedAt ∧ l'.expiresAt = l.expiresAt) ∧
          ∀ (e : Env) userID now deviceHash, l.expiresAt ≤ e.resolve now →
            (∀ fingerprintVersion, ¬ Commits (bindD2SLicense e userID l.id deviceHash fingerprintVersion now) db) ∧
            (∀ nextMode confirmation offlineDays,
              ¬ Commits (changeD2SLicenseMode e userID l.id deviceHash nextMode confirmation offlineDays now) db) ∧
            (∀ token, ¬ Commits (startOrRenewD2SOnlineLease e userID l.id deviceHash token now) db) ∧
            (∀ c key days, ¬ Commits (issueD2SOfflineEntitlement e c userID l.id deviceHash key days now) db) ∧
            (∀ c key coreID coreVersion,
              ¬ Commits (issueD2SCoreGrant e c userID l.id deviceHash key coreID coreVersion now) db)) := by
  intro s
  have hI : Trials s.db := trials_run users options controls ops
  refine ⟨fun ops' l hl l' hl' hk hk' hu => ?_, fun l hl hk => ?_⟩
  · have hlater := trials_run users options controls (ops ++ ops')
    rw [run, Runs.run_append] at hlater
    obtain ⟨l1, hl1, hkeys⟩ := license_kept (Table.get?_pk hl) ops'
    obtain ⟨hid, hu1, hk1, -⟩ := kind_of_keys hkeys
    have heq : l1 = l' :=
      hlater.unique (Table.get?_eq_some.mp hl1).1 hl' (hk1.trans hk) hk' (hu1.trans hu)
    rw [← hid, heq]
  · have hget : s.db.licenses.get? l.id = some l := Table.get?_pk hl
    rcases (hI l.id l hget hk).times with ⟨ha, he⟩ | ⟨hpos, heq⟩
    · refine .inl ⟨ha, he, fun op => ?_, fun e userID deviceHash fingerprintVersion now l' db' h => ?_⟩
      · rcases step_trans s op with hsame | ⟨t, ht, hr⟩
        · rw [hsame]
          exact ⟨l, hget, .inl ⟨ha, he⟩⟩
        · obtain ⟨l', hl', -, ⟨ha', he'⟩ | ⟨e, userID, deviceHash, fingerprintVersion, now, rfl, rfl⟩⟩ :=
            (slotMove hr l.id).kept hget
          · exact ⟨l', hl', .inl ⟨ha'.trans ha, he'.trans he⟩⟩
          · exact ⟨_, hl', .inr ⟨e, userID, deviceHash, fingerprintVersion, now,
              runs_request ht (fun _ _ _ h => nomatch h), bound_starts _ _ _ hk ⟨ha, he⟩⟩⟩
      · obtain ⟨k, _, _, hk', -, -, -, -, -, -, -, rfl, rfl⟩ := bindD2SLicense_ok h
        obtain rfl : l = k := Option.some.inj (hget.symm.trans hk')
        exact ⟨(get?_license_modify (fun _ => by rfl) hget l.id).trans (if_pos rfl),
          bound_starts _ _ _ hk ⟨ha, he⟩⟩
    · refine .inr ⟨hpos, heq, fun ops' => ?_⟩
      obtain ⟨l', hl', ha', he'⟩ := started_run hget hpos ops'
      have hday : (0 : ℤ) < 30 * day := by decide
      have hexp : 0 < l'.expiresAt := by rw [he', heq]; omega
      exact ⟨⟨l', hl', ha', he'⟩, fun e userID now deviceHash hnow =>
        expired_refused hl' hexp e userID now deviceHash (he'.symm ▸ hnow)⟩

end Runs

end Desktop2Stereo
