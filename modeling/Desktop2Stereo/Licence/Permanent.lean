import Desktop2Stereo.Effects.Aside
import Desktop2Stereo.Licence.Binding

/-!
# Permanent licences and manual unbinds

* `UnbindMove`, **`unbindMove`**: what a transaction does to the manual-unbind requests;
* **`permanent_locked`**: the three parts together, over every run.
-/

namespace Desktop2Stereo

open Relational GoText Table

/-! ## Requests -/

inductive UnbindMove (t t' : Table D2SManualUnbindRequest) : Prop
  | same : t' = t → UnbindMove t t'
  | filed {r} : r.status = .pending → (∀ q ∈ t.rows, ¬ (q.licenseID = r.licenseID ∧ q.status = .pending)) →
      t.insert r = some t' → UnbindMove t t'
  | reviewed {r st adminID note now} : t.get? r.id = some r → r.status = .pending → st ≠ .pending →
      (st = .approved → ∀ q ∈ t.rows, ¬ (q.userID = r.userID ∧ q.status = .approved)) →
      Sets (r.reviewed st adminID note now) t t' → UnbindMove t t'

variable {e : Env} {now : ℤ} {db db' : DB}

/-- **A transaction files one request, reviews one, or leaves them all.** -/
theorem unbindMove [Digest] {t : Trans} (h : t.tx.run db = .ok ((), db')) : UnbindMove db.unbinds db'.unbinds := by
  cases asideTx h with
  | kept ht hkept => exact .same (congrArg Aside.unbinds hkept)
  | freeRevoke hr =>
    obtain ⟨_, _, _, -, -, -, -, -, -, -, -, rfl⟩ := freeRevokeD2SLicense_ok hr
    exact .same rfl
  | issueOffline hr =>
    obtain ⟨_, _, _, -, -, -, -, -, -, -, rfl⟩ := issueD2SOfflineEntitlement_ok hr
    exact .same rfl
  | createManualUnbind hr =>
    obtain ⟨_, _, -, -, -, -, hpend, hins, rfl, -, hst, rfl⟩ := createD2SManualUnbind_ok hr
    exact .filed hst hpend hins
  | reviewManualUnbind hreview =>
    obtain ⟨r, _, _, _, _, _, hst, hr, hpend, -, hcase, rfl⟩ := reviewD2SManualUnbind_ok hreview
    obtain rfl := (get?_eq_some.mp hr).2
    refine .reviewed hr hpend (UnbindStatus.ofReview_ne_pending hst) (fun happ => ?_)
      (sets_modify (h := fun _ => by rfl) hr (fun c hc => of_decide_eq_true hc) (decide_eq_true rfl))
    rcases hcase with ⟨-, l, hl, -, -⟩ | ⟨hrej, -, -⟩
    · exact hl.unused
    · rw [happ] at hrej
      cases hrej

/-! ## One approval per user, one pending request per licence -/

/-- At most one request of a user is approved, and at most one of a licence is pending. -/
structure UnbindsOnce (t : Table D2SManualUnbindRequest) : Prop where
  approved : ∀ q ∈ t.rows, ∀ q' ∈ t.rows, q.status = .approved → q'.status = .approved → q.userID = q'.userID → q = q'
  pending : ∀ q ∈ t.rows, ∀ q' ∈ t.rows, q.status = .pending → q'.status = .pending → q.licenseID = q'.licenseID → q = q'

variable {t t' : Table D2SManualUnbindRequest}

theorem mem_of_sets {r q : D2SManualUnbindRequest} (h : Sets r t t') (hq : q ∈ t'.rows) :
    q = r ∨ q ∈ t.rows ∧ q.id ≠ r.id := by
  have hget := h q.id
  rw [show t'.get? q.id = some q from get?_pk hq, pk_ofKey] at hget
  split_ifs at hget with hid
  · exact .inl (Option.some.inj hget)
  · exact .inr ⟨(get?_eq_some.mp hget.symm).1, fun h => hid h.symm⟩

theorem UnbindMove.once (h : UnbindMove t t') (hI : UnbindsOnce t) : UnbindsOnce t' := by
  cases h with
  | same heq => rwa [heq]
  | @filed r hst hnone hins =>
    refine ⟨fun q hq q' hq' ha ha' hu => ?_, fun q hq q' hq' hp hp' hl => ?_⟩ <;>
      rcases (mem_insert hins).mp hq with hq | rfl <;> rcases (mem_insert hins).mp hq' with hq' | rfl
    · exact hI.approved q hq q' hq' ha ha' hu
    · exact (nomatch hst.symm.trans ha')
    · exact (nomatch hst.symm.trans ha)
    · rfl
    · exact hI.pending q hq q' hq' hp hp' hl
    · exact absurd ⟨hl, hp⟩ (hnone q hq)
    · exact absurd ⟨hl.symm, hp'⟩ (hnone q' hq')
    · rfl
  | @reviewed r st adminID note now hr hpend hst happ hset =>
    refine ⟨fun q hq q' hq' ha ha' hu => ?_, fun q hq q' hq' hp hp' hl => ?_⟩ <;>
      rcases mem_of_sets hset hq with rfl | ⟨hq, -⟩ <;> rcases mem_of_sets hset hq' with rfl | ⟨hq', -⟩
    · rfl
    · exact absurd ⟨hu.symm, ha'⟩ (happ ha q' hq')
    · exact absurd ⟨hu, ha⟩ (happ ha' q hq)
    · exact hI.approved q hq q' hq' ha ha' hu
    · rfl
    · exact absurd hp hst
    · exact absurd hp' hst
    · exact hI.pending q hq q' hq' hp hp' hl

theorem UnbindMove.approved_kept (h : UnbindMove t t') {q : D2SManualUnbindRequest} (hq : q ∈ t.rows)
    (ha : q.status = .approved) : q ∈ t'.rows := by
  cases h with
  | same heq => rwa [heq]
  | filed hst hnone hins => exact (mem_insert hins).mpr (.inl hq)
  | @reviewed r st adminID note now hr hpend hst happ hset =>
    have hne : r.id ≠ q.id := by
      intro hid
      rw [hid, show t.get? q.id = some q from get?_pk hq] at hr
      cases hr
      exact (nomatch ha.symm.trans hpend)
    have hget := hset q.id
    rw [if_neg (show ¬ pk (r.reviewed st adminID note now) = q.id from hne),
      show t.get? q.id = some q from get?_pk hq] at hget
    exact (get?_eq_some.mp hget).1

/-! ## Permanent licences -/

section Runs

variable [Digest]

theorem SlotMove.permanent {t : Trans} {id : String} {a b : Slot} {l : D2SLicense} (h : SlotMove t db db' id a b)
    (hl : a.license = some l) (hp : l.mode = .permanent) (hbound : l.deviceHash ≠ "") :
    ∃ l', b.license = some l' ∧ ((l'.mode = .permanent ∧ l'.deviceHash = l.deviceHash) ∨
      ∃ e adminID r status note now audit, t = .request (.reviewManualUnbind e adminID r.id status note now audit) ∧
        r.licenseID = id ∧ r.status = .pending ∧ db.unbinds.get? r.id = some r ∧
        db'.unbinds.get? r.id = some (r.reviewed .approved adminID note now)) := by
  have hsame : ∀ {k : D2SLicense}, a.license = some k → k = l := fun hk => Option.some.inj (hk.symm.trans hl)
  cases h with
  | same | leased | renewed | leaseEnded => exact ⟨l, hl, .inl ⟨hp, rfl⟩⟩
  | created hnone => exact (nomatch hnone.symm.trans hl)
  | bound ht hk hu huse hv hdev =>
    obtain rfl := hsame hk
    refine ⟨_, rfl, .inl ⟨?_, (hdev.resolve_left hbound).symm⟩⟩
    simp [D2SLicense.bound, hp]
  | moded ht hk hmode hperm =>
    obtain rfl := hsame hk
    exact ⟨_, rfl, .inl ⟨hperm hp, rfl⟩⟩
  | revoked hk hmode => exact absurd (hsame hk ▸ hp) hmode
  | issued ht hk | extended hpays hk | suspended hk =>
    obtain rfl := hsame hk
    exact ⟨_, rfl, .inl ⟨hp, rfl⟩⟩
  | released ht hst hk hmode hid hpend hr hafter => exact ⟨_, rfl, .inr ⟨_, _, _, _, _, _, _, ht, hid, hpend, hr, hafter⟩⟩

theorem unbindsOnce_run (users : Table User) (options : Table OptionRow) (controls : Table D2SUserSecurityControl)
    (ops : List Op) : UnbindsOnce (run (.init users options controls) ops).db.unbinds :=
  run_db (I := fun db => UnbindsOnce db.unbinds) (fun _ _ _ hI hr => (unbindMove hr).once hI)
    ⟨fun _ hq => absurd hq List.not_mem_nil, fun _ hq => absurd hq List.not_mem_nil⟩ ops

/-- **Permanent binding is locked, but for one manual unbind per user.** In every reachable state: an
operation keeps the mode and the device of a permanent licence, unless it is the review that approves
a pending request for that licence; two requests of one user that are ever approved are the same; and
a licence has at most one pending request. -/
theorem permanent_locked (users : Table User) (options : Table OptionRow) (controls : Table D2SUserSecurityControl)
    (ops : List Op) :
    let s := run (.init users options controls) ops
    (∀ op, ∀ l ∈ s.db.licenses.rows, l.mode = .permanent →
      ∃ l', (step s op).db.licenses.get? l.id = some l' ∧
        ((l'.mode = .permanent ∧ l'.deviceHash = l.deviceHash) ∨
          ∃ e adminID r status note now audit,
            op = .request (.reviewManualUnbind e adminID r.id status note now audit) ∧
            r.licenseID = l.id ∧ r.status = .pending ∧ s.db.unbinds.get? r.id = some r ∧
            (step s op).db.unbinds.get? r.id = some (r.reviewed .approved adminID note now))) ∧
    (∀ ops', ∀ q ∈ s.db.unbinds.rows, ∀ q' ∈ (run s ops').db.unbinds.rows,
      q.status = .approved → q'.status = .approved → q.userID = q'.userID → q = q') ∧
    (∀ q ∈ s.db.unbinds.rows, ∀ q' ∈ s.db.unbinds.rows,
      q.status = .pending → q'.status = .pending → q.licenseID = q'.licenseID → q = q') := by
  intro s
  refine ⟨fun op l hl hp => ?_, fun ops' q hq q' hq' ha ha' hu => ?_, (unbindsOnce_run users options controls ops).pending⟩
  · have hagree := (consistent_run users options controls ops).agree hl
    have hbound : l.deviceHash ≠ "" := fun hd => by
      rw [hagree.unbound.mpr hd] at hp
      cases hp
    rcases step_trans s op with heq | ⟨t, ht, hr⟩
    · rw [heq]
      exact ⟨l, get?_pk hl, .inl ⟨hp, rfl⟩⟩
    · obtain ⟨l', hl', hcase⟩ := (slotMove hr l.id).permanent (get?_pk hl) hp hbound
      refine ⟨l', hl', hcase.imp_right ?_⟩
      rintro ⟨e, adminID, r, status, note, now, audit, rfl, hrest⟩
      exact ⟨e, adminID, r, status, note, now, audit, runs_request ht (fun _ _ _ h => nomatch h), hrest⟩
  · have hlater := unbindsOnce_run users options controls (ops ++ ops')
    rw [run, Runs.run_append] at hlater
    have hkept := run_db (I := fun db => q ∈ db.unbinds.rows)
      (fun _ _ _ hI hr => (unbindMove hr).approved_kept hI ha) hq ops'
    exact hlater.approved q hkept q' hq' ha ha' hu

end Runs

end Desktop2Stereo
