import Desktop2Stereo.Session.Snapshots

/-!
# Revocations and the cache

Reads with fills of any delay, expiry of keys, rotations, advances of the security version and the three kinds
of revocation run together. A revocation writes its last deny entry at the version of the row that it has
revoked, where the row was read with its lock; `RevokeUserSession` takes the version of a row that it has read
before, without a lock. When an advance has raised the version in between, the script refuses the entry, the
revocation still reports success, and a fill at the new version stays visible.

* `SessionCall`, `SessionAnswer`: the calls, one spec lemma each;
* **`revoked_session_is_not_read`**: no later read returns a revoked session, in every run in which each
  `RevokeUserSession` finds the row at the version at which it has read it.
-/

namespace Desktop2Stereo

open Relational Concurrent Expiring List

variable {ρ : Type} {s : Store}

/-! ## Reading -/

section Calls

variable [Settings] {sid : String}

theorem Shut.not_active {e : SessionEntry} (h : Shut s sid) (he : s.sessionHash sid = some e) :
    e.status ≠ .active := by
  obtain ⟨_, _, _, _, _, ⟨_, _, hc, hst, hle, _⟩ | ⟨_, hno⟩⟩ := h
  · rw [Store.sessionHash, hc, Cell.get_expiring, if_neg (not_lt.mpr hle)] at he
    cases he
    exact hst
  · exact hno e he

theorem ensures_getUserSessionCache (sid : String) :
    Ensures sessionProtocol (getUserSessionCache (ρ := ρ) sid) s fun r _ => Shut s sid → ∀ e, r ≠ .ok e := by
  unfold getUserSessionCache
  refine ensures_observe_bind fun s₁ hr1 hi1 => ?_
  split
  · exact ensures_pure hi1 fun _ e h => (by cases h)
  next entry hentry =>
    split
    · exact ensures_pure hi1 fun _ e h => (by cases h)
    refine ensures_observe_bind fun s2 _ hi2 => ?_
    split
    · exact ensures_pure hi2 fun _ e h => (by cases h)
    next hc =>
      refine ensures_pure hi2 fun hs => ?_
      exact absurd (not_not.mp (not_or.mp hc).1) ((hr1.shut sid hs).not_active hentry)

variable {row : UserSession} {s₁ : Store}

omit [Settings] in
theorem sid_of_session (h : s.session sid = some row) : row.sid = sid :=
  (Table.get?_eq_some.mp h).2

theorem ensures_fill {s2 : Store} {entry : SessionEntry} (hr : SessionsGo s₁ s2) (hi : SessionsSound s2)
    (hrow : s2.session sid = some row) (hst : row.status = .active) (hsid : entry.sid = row.sid)
    (hv : entry.version = row.version) (hx : entry.expiresAt = row.expiresAt) (hs : SessionsGo s2 s) :
    Ensures sessionProtocol (writeUserSessionCache (ρ := ρ) entry (some (s₁.clock + sessionCacheTTL))) s
      fun _ _ => True := by
  have hsince : Since s2 entry.sid s₁.clock := by
    rw [hsid, sid_of_session hrow]
    refine ⟨hr.clock, fun ended he => ?_⟩
    rw [(hi.active_iff sid row hrow).mp hst] at he
    cases he
  refine (ensures_writeUserSessionCache ((Snapshot.of_row hrow hsid hv hx).later hs) fun d h => ?_).imp
    fun _ _ _ _ _ => trivial
  cases h
  exact ⟨s₁.clock, le_rfl, hsince.later hs⟩

theorem ensures_deny (entry : SessionEntry) (hrow : s₁.session sid = some row) (hsid : entry.sid = row.sid)
    (hv : entry.version = row.version) (hx : entry.expiresAt = row.expiresAt) (hs : SessionsGo s₁ s) :
    Ensures sessionProtocol (writeUserSessionCache (ρ := ρ) entry none) s fun r s' =>
      entry.status ≠ .active → (r = .ok () → 0 ≤ entry.version) ∧
        (0 ≤ entry.version → (∃ row, s.session entry.sid = some row ∧ row.status ≠ .active ∧
          row.version ≤ entry.version) → Shut s' entry.sid) :=
  ensures_writeUserSessionCache ((Snapshot.of_row hrow hsid hv hx).later hs) fun d h => (by cases h)

theorem ensures_getUserSessionCached (sid : String) (hi : sessionProtocol.inv s) :
    Ensures sessionProtocol (getUserSessionCached (ρ := ρ) sid) s fun r _ => Shut s sid → ∀ x, r ≠ .ok x := by
  unfold getUserSessionCached
  split
  · exact ensures_pure hi fun _ x h => (by cases h)
  refine (ensures_getUserSessionCache sid).bind fun r s₁ hr1 hi1 hcache => ?_
  split
  · refine ensures_pure hi1 fun hs x h => ?_
    exact hcache hs _ rfl
  · exact ensures_pure hi1 fun _ x h => (by cases h)
  refine ensures_observe_bind fun s2 hr2 hi2 => ensures_observe_bind fun s3 hr3 hi3 => ?_
  split
  · exact ensures_pure hi3 fun _ x h => (by cases h)
  next session hsession =>
    refine ensures_observe_bind fun s4 hr4 hi4 => ?_
    split
    · exact (ensures_deny _ hsession rfl rfl rfl hr4).bind fun r s5 _ hi5 _ =>
        ensures_pure hi5 fun _ x h => (by cases h)
    next hlive =>
      have hlive := not_not.mp hlive
      have hopen : ¬ Shut s sid := by
        intro hs
        obtain ⟨_, _, hrow, hst, _⟩ := hr3.shut sid (hr2.shut sid (hr1.shut sid hs))
        rw [hsession] at hrow
        cases hrow
        exact hst hlive.1
      refine (ensures_fill hr3 hi3 hsession hlive.1 rfl rfl rfl hr4).bind fun r s5 _ hi5 _ => ?_
      split
      · refine ((only_confirm _).ensures sessionProtocol.ignores_eq hi5).bind fun r s6 _ hi6 _ => ?_
        split
        · exact ensures_pure hi6 fun hs => absurd hs hopen
        · exact ensures_pure hi6 fun hs => absurd hs hopen
      · exact ensures_pure hi5 fun hs => absurd hs hopen
      · exact ensures_pure hi5 fun hs => absurd hs hopen

/-! ## Creating, rotating, advancing -/

theorem ensures_createUserSession (session : UserSession) :
    Ensures sessionProtocol (createUserSession (ρ := ρ) session) s fun _ _ => True := by
  unfold createUserSession
  refine ensures_observe_bind fun s₁ hr1 hi1 => ?_
  split
  · exact ensures_pure hi1 trivial
  split
  · exact ensures_pure hi1 trivial
  next hst =>
    have hst : (session.completed s₁.unix).status = .active := not_not.mp (not_or.mp hst).1
    refine ensures_observe_bind fun s2 hr2 hi2 => ensures_access_bind fun s3 hr3 hi3 _ => ?_
    obtain ⟨hi4, hr4⟩ := insertSession_keeps hst hi3
    refine ⟨hi4, hr4, ?_⟩
    split
    · exact ensures_pure hi4 trivial
    next hcreated =>
      have hrow : (insertSession (session.completed s₁.unix) s3).2.session (session.completed s₁.unix).sid =
          some (session.completed s₁.unix) := by
        unfold insertSession at hcreated ⊢
        cases h : s3.db.sessions.insert (session.completed s₁.unix) with
        | none =>
          rw [h] at hcreated
          exact absurd rfl hcreated
        | some => exact (Table.get?_insert h _).trans (if_pos rfl)
      refine (ensures_fill (hr3.trans hr4) hi4 hrow hst rfl rfl rfl (.refl _)).bind fun r s5 _ hi5 _ => ?_
      split
      · exact (only_confirm _).ensures sessionProtocol.ignores_eq hi5
      · exact ensures_pure hi5 trivial
      · exact ensures_pure hi5 trivial

theorem casRefresh_keeps (userID : ℤ) (sid presentedHash nextHash : String) (now graceSeconds : ℤ)
    (hi : SessionsSound s) :
    SessionsSound (casRefresh userID sid presentedHash nextHash now graceSeconds s).2 ∧
      SessionsGo s (casRefresh userID sid presentedHash nextHash now graceSeconds s).2 := by
  unfold casRefresh
  cases h : s.session sid with
  | none => exact ⟨hi, .refl s⟩
  | some =>
    dsimp only
    split
    next hc => exact setSession_keeps sid _ h hc.2.1.1 hc.2.1.1 ⟨le_rfl, rfl, fun hn => absurd hc.2.1.1 hn⟩ hi
    · exact ⟨hi, .refl s⟩

omit [Settings] in
theorem session_of_filter {userID : ℤ} (h : (s.session sid).filter (·.userID = userID) = some row) :
    s.session sid = some row :=
  (Option.filter_eq_some_iff.mp h).1

theorem ensures_rotateLoop (userID : ℤ) (sid presentedHash nextHash : String) (now graceSeconds : ℤ) (fuel : ℕ)
    (hi : sessionProtocol.inv s) :
    Ensures sessionProtocol (rotateLoop (ρ := ρ) userID sid presentedHash nextHash now graceSeconds fuel) s
      fun _ _ => True := by
  induction fuel generalizing s with
  | zero => exact ensures_pure hi trivial
  | succ fuel ih =>
    unfold rotateLoop
    refine ensures_observe_bind fun s₁ hr1 hi1 => ensures_observe_bind fun s2 hr2 hi2 => ?_
    split
    · exact ensures_pure hi2 trivial
    next session hsession =>
      have hsession := session_of_filter hsession
      split
      · exact ensures_pure hi2 trivial
      next hlive =>
        have hst : session.status = .active := (not_not.mp hlive).1
        split
        · refine ensures_access_bind fun s3 hr3 hi3 _ => ?_
          obtain ⟨hi4, hr4⟩ := casRefresh_keeps userID sid presentedHash nextHash now graceSeconds hi3
          refine ⟨hi4, hr4, ?_⟩
          split
          · refine (ensures_fill hr2 hi2 hsession hst rfl rfl rfl (hr3.trans hr4)).bind fun r s5 _ hi5 _ => ?_
            split
            · refine ((only_confirm _).ensures sessionProtocol.ignores_eq hi5).bind fun r s6 _ hi6 _ => ?_
              split <;> exact ensures_pure hi6 trivial
            · exact ensures_pure hi5 trivial
            · exact ensures_pure hi5 trivial
          · exact ih hi4
        · split
          · exact ensures_pure hi2 trivial
          split
          · exact ensures_pure hi2 trivial
          refine (ensures_deny _ hsession rfl rfl rfl (.refl _)).bind fun r s3 hr3 hi3 _ => ?_
          split
          · exact ensures_pure hi3 trivial
          refine ensures_access_bind fun s4 hr4 hi4 _ => ?_
          obtain ⟨hi5, hr5⟩ : SessionsSound (endReused userID sid now s4).2 ∧ SessionsGo s4 (endReused userID sid now s4).2 :=
            endSessions_keeps _ now _ (fun r hr => (of_decide_eq_true hr).2.2.1) hi4
          refine ⟨hi5, hr5, ?_⟩
          split
          · refine (ensures_deny _ hsession rfl rfl rfl ((hr3.trans hr4).trans hr5)).bind fun r s6 _ hi6 _ => ?_
            exact ensures_pure hi6 trivial
          · exact ensures_pure hi5 trivial

theorem ensures_rotateUserSessionRefresh (userID : ℤ) (sid presentedHash nextHash : String) (now graceSeconds : ℤ)
    (hi : sessionProtocol.inv s) :
    Ensures sessionProtocol (rotateUserSessionRefresh (ρ := ρ) userID sid presentedHash nextHash now graceSeconds) s
      fun _ _ => True := by
  unfold rotateUserSessionRefresh
  split
  · exact ensures_pure hi trivial
  · exact ensures_rotateLoop userID sid presentedHash nextHash now graceSeconds 3 hi

theorem advanceTx_cases (userID : ℤ) (sid : String)
    (expectedSessionVersion expectedUserAuthVersion nextUserAuthVersion now : ℤ) (hi : SessionsSound s) :
    let r := advanceTx userID sid expectedSessionVersion expectedUserAuthVersion nextUserAuthVersion now s
    SessionsSound r.2 ∧ SessionsGo s r.2 ∧
      ∀ session, r.1 = .ok session → session.status = .active ∧ r.2.session sid = some session := by
  unfold advanceTx
  cases h : (s.session sid).filter (·.userID = userID) with
  | none => exact ⟨hi, .refl s, fun _ hs => (by cases hs)⟩
  | some =>
    have hrow := session_of_filter h
    dsimp only
    split
    · exact ⟨hi, .refl s, fun _ hs => (by cases hs)⟩
    next hc =>
      simp only [not_or, not_not] at hc
      obtain ⟨hi', hr'⟩ := setSession_keeps sid (fun r => { r with
        version := expectedSessionVersion + 1, userAuthVersion := nextUserAuthVersion, lastActiveAt := now })
        (h := fun _ => rfl) hrow hc.1 hc.1 ⟨by dsimp only; omega, rfl, fun hn => absurd hc.1 hn⟩ hi
      refine ⟨hi', hr', fun session hs => ?_⟩
      cases hs
      refine ⟨hc.1, ?_⟩
      rw [session_setSession, if_pos rfl, hrow]
      rfl

theorem ensures_advanceUserSessionAuthVersion (userID : ℤ) (sid : String)
    (expectedSessionVersion expectedUserAuthVersion nextUserAuthVersion : ℤ) (hi : sessionProtocol.inv s) :
    Ensures sessionProtocol (advanceUserSessionAuthVersion (ρ := ρ) userID sid expectedSessionVersion
      expectedUserAuthVersion nextUserAuthVersion) s fun _ _ => True := by
  unfold advanceUserSessionAuthVersion
  split
  · exact ensures_pure hi trivial
  refine ensures_observe_bind fun s₁ hr1 hi1 => ensures_observe_bind fun s2 hr2 hi2 =>
    ensures_access_bind fun s3 hr3 hi3 _ => ?_
  obtain ⟨hi4, hr4, hok⟩ := advanceTx_cases userID sid expectedSessionVersion expectedUserAuthVersion
    nextUserAuthVersion s2.unix hi3
  refine ⟨hi4, hr4, ?_⟩
  split
  · exact ensures_pure hi4 trivial
  next session hs =>
    obtain ⟨hst, hrow⟩ := hok session hs
    refine (ensures_fill ((hr2.trans hr3).trans hr4) hi4 hrow hst rfl rfl rfl (.refl _)).bind
      fun r s5 _ hi5 _ => ?_
    split
    · refine ((only_confirm _).ensures sessionProtocol.ignores_eq hi5).bind fun r s6 _ hi6 _ => ?_
      split <;> exact ensures_pure hi6 trivial
    · exact ensures_pure hi5 trivial
    · exact ensures_pure hi5 trivial

/-! ## Revoking -/

variable {now : ℤ}

omit [Settings] in
theorem session_endSessions_active {reason : String} (hrow : s.session sid = some row) {p : UserSession → Bool}
    (hp : p row = true) : (s.endSessions p now reason).session sid = some (row.revoked now reason) := by
  rw [session_endSessions, hrow, Option.map_some, if_pos hp]

theorem ensures_bury {reason : String} {ended : UserSession} (hrow : s₁.session sid = some row) (hs : SessionsGo s₁ s)
    (hpos : 0 ≤ row.version) (hended : s.session sid = some ended) (hst : ended.status ≠ .active)
    (hv : ended.version ≤ row.version) :
    Ensures sessionProtocol (writeUserSessionCache (ρ := ρ) (row.revoked now reason).cacheEntry none) s
      fun _ s' => Shut s' sid := by
  have hsid := sid_of_session hrow
  refine (ensures_deny (row.revoked now reason).cacheEntry hrow rfl rfl rfl hs).imp
    fun r s' _ _ h => ?_
  have hend : s.session (row.revoked now reason).cacheEntry.sid = some ended := by
    show s.session row.sid = some ended
    rw [hsid, hended]
  have hshut := (h (fun h => (by cases h))).2 hpos ⟨ended, hend, hst, hv⟩
  exact hsid ▸ hshut

/-- The transaction of `RevokeUserSession`, where it finds the row at the version of its candidate. -/
theorem revokeTx_cases (userID : ℤ) (sid reason : String) (now : ℤ) (hi : SessionsSound s) :
    let r := revokeTx userID sid reason now s
    SessionsSound r.2 ∧ SessionsGo s r.2 ∧ (r.1 = .ok true → ∃ row, s.session sid = some row ∧ row.status = .active ∧
      r.2.session sid = some (row.revoked now reason)) := by
  unfold revokeTx
  cases h : (s.session sid).filter (·.userID = userID) with
  | none => exact ⟨hi, .refl s, fun hs => (by cases hs)⟩
  | some row =>
    have hrow := session_of_filter h
    dsimp only
    split
    next hlive =>
      obtain ⟨hi', hr'⟩ := endSessions_keeps (fun r => r.sid = sid ∧ r.status = .active) now reason
        (fun r hr => (of_decide_eq_true hr).2) hi
      refine ⟨hi', hr', fun _ => ⟨row, hrow, hlive.1, ?_⟩⟩
      exact session_endSessions_active hrow (decide_eq_true ⟨sid_of_session hrow, hlive.1⟩)
    · exact ⟨hi, .refl s, fun hs => (by cases hs)⟩

theorem ensures_revokeUserSession (userID : ℤ) (sid reason : String) (hi : sessionProtocol.inv s) :
    Ensures sessionProtocol (revokeUserSession (ρ := ρ) userID sid reason) s fun r s' =>
      r = .ok true → Shut s' sid := by
  unfold revokeUserSession
  split
  · exact ensures_pure hi fun h => (by cases h)
  refine ensures_observe_bind fun s₁ hr1 hi1 => ensures_observe_bind fun s2 hr2 hi2 => ?_
  split
  · exact ensures_pure hi2 fun h => (by cases h)
  next candidate hcandidate =>
    have hrow := session_of_filter hcandidate
    have hsid := sid_of_session hrow
    split
    · exact ensures_pure hi2 fun h => (by cases h)
    refine (ensures_deny _ hrow rfl rfl rfl (.refl _)).bind fun r s3 hr3 hi3 hfence => ?_
    split
    · exact ensures_pure hi3 fun h => (by cases h)
    have hpos : 0 ≤ candidate.version := (hfence fun h => (by cases h)).1 rfl
    refine ensures_access_bind fun s4 hr4 hi4 hadm => ?_
    obtain ⟨hi5, hr5, hok⟩ := revokeTx_cases userID sid reason s₁.unix hi4
    refine ⟨hi5, hr5, ?_⟩
    split
    · exact ensures_pure hi5 fun h => (by cases h)
    · exact ensures_pure hi5 fun h => (by cases h)
    next htx =>
      obtain ⟨row, hrow4, hst, hended⟩ := hok htx
      have hv : row.version = candidate.version := hadm.2 row (hsid ▸ hrow4) hst
      refine (ensures_bury hrow ((hr3.trans hr4).trans hr5) hpos hended (fun h => (by cases h)) hv.le).bind
        fun r s6 _ hi6 hshut => ?_
      exact ensures_pure hi6 fun _ => hshut

theorem ensures_revokeUserSessionByRefreshHash (sid presentedHash reason : String) (hi : sessionProtocol.inv s) :
    Ensures sessionProtocol (revokeUserSessionByRefreshHash (ρ := ρ) sid presentedHash reason) s fun r s' =>
      r = .ok true → Shut s' sid := by
  unfold revokeUserSessionByRefreshHash
  split
  · exact ensures_pure hi fun h => (by cases h)
  refine ensures_observe_bind fun s₁ hr1 hi1 => ensures_observe_bind fun s2 hr2 hi2 => ?_
  split
  · exact ensures_pure hi2 fun h => (by cases h)
  next session hrow =>
    have hsid := sid_of_session hrow
    split
    · exact ensures_pure hi2 fun h => (by cases h)
    next hlive =>
      have hst : session.status = .active := (not_not.mp hlive).1
      dsimp only
      split
      · exact ensures_pure hi2 fun h => (by cases h)
      refine (ensures_deny _ hrow rfl rfl rfl (.refl _)).bind fun r s3 hr3 hi3 hfence => ?_
      split
      · exact ensures_pure hi3 fun h => (by cases h)
      have hpos : 0 ≤ session.version := (hfence fun h => (by cases h)).1 rfl
      refine ensures_access_bind fun s4 hr4 hi4 hadm => ?_
      -- the lock has kept the row as it was read
      have hrow4 : s4.session sid = some session := hsid ▸ hadm.1
      obtain ⟨hi5, hr5⟩ := endSessions_keeps (fun r => r.sid = sid ∧ r.status = .active) s₁.unix reason
        (fun r hr => (of_decide_eq_true hr).2) hi4
      refine ⟨hi5, hr5, ?_⟩
      split
      · have hended : (revokeLocked sid reason s₁.unix s4).2.session sid = some (session.revoked s₁.unix reason) :=
          session_endSessions_active hrow4 (decide_eq_true ⟨hsid, hst⟩)
        refine (ensures_bury hrow ((hr3.trans hr4).trans hr5) hpos hended (fun h => (by cases h)) le_rfl).bind
          fun r s6 _ hi6 hshut => ?_
        exact ensures_pure hi6 fun _ => hshut
      · exact ensures_pure hi5 fun h => (by cases h)

theorem ensures_fenceAll (now : ℤ) (reason : String) (candidates : List UserSession)
    (hrows : ∀ c ∈ candidates, s₁.session c.sid = some c) (hs : SessionsGo s₁ s) (hi : sessionProtocol.inv s) :
    Ensures sessionProtocol (fenceAll (ρ := ρ) now reason candidates) s fun r _ =>
      r = .ok () → ∀ c ∈ candidates, 0 ≤ c.version := by
  induction candidates generalizing s with
  | nil => exact ensures_pure hi fun _ c hc => (by cases hc)
  | cons c rest ih =>
    unfold fenceAll
    refine (ensures_deny _ (hrows c mem_cons_self) rfl rfl rfl hs).bind fun r s2 hr2 hi2 hfence => ?_
    split
    · exact ensures_pure hi2 fun h => (by cases h)
    have hpos : 0 ≤ c.version := (hfence fun h => (by cases h)).1 rfl
    refine (ih (fun c' hc' => hrows c' (mem_cons_of_mem c hc')) (hs.trans hr2) hi2).imp
      fun r s3 _ _ hrest hr c' hc' => ?_
    rcases mem_cons.mp hc' with rfl | hc'
    · exact hpos
    · exact hrest hr c' hc'

theorem revokeBatch_keeps (sids : List String) (reason : String) (now : ℤ) (hi : SessionsSound s) :
    SessionsSound (revokeBatch sids reason now s).2 ∧ SessionsGo s (revokeBatch sids reason now s).2 ∧
      ∀ r ∈ (revokeBatch sids reason now s).1, r.sid ∈ sids ∧ s.session r.sid = some r ∧
        (revokeBatch sids reason now s).2.session r.sid = some (r.revoked now reason) := by
  obtain ⟨hi', hr'⟩ := endSessions_keeps (fun r => r.sid ∈ sids ∧ r.status = .active) now reason
    (fun r hr => (of_decide_eq_true hr).2) hi
  refine ⟨hi', hr', fun r hr => ?_⟩
  obtain ⟨hmem, hp⟩ := mem_filter.mp hr
  have hrow : s.session r.sid = some r := Table.get?_eq_some.mpr ⟨hmem, rfl⟩
  exact ⟨(of_decide_eq_true hp).1, hrow, session_endSessions_active hrow hp⟩

theorem ensures_buryAll (now : ℤ) (reason : String) (revoked : List UserSession)
    (hrows : ∀ r ∈ revoked, s₁.session r.sid = some r ∧ 0 ≤ r.version) (hs : SessionsGo s₁ s)
    (hended : ∀ r ∈ revoked, s.session r.sid = some (r.revoked now reason)) (hi : sessionProtocol.inv s) :
    Ensures sessionProtocol (buryAll (ρ := ρ) now reason revoked) s fun _ s' => ∀ r ∈ revoked, Shut s' r.sid := by
  induction revoked generalizing s with
  | nil => exact ensures_pure hi fun r hr => (by cases hr)
  | cons r rest ih =>
    unfold buryAll
    obtain ⟨hrow, hpos⟩ := hrows r mem_cons_self
    refine (ensures_bury hrow hs hpos (hended r mem_cons_self) (fun h => (by cases h)) le_rfl).bind
      fun _ s2 hr2 hi2 hshut => ?_
    have hended2 : ∀ r' ∈ rest, s2.session r'.sid = some (r'.revoked now reason) := fun r' hr' => by
      obtain ⟨row, hrow, hgo⟩ := hr2.row _ _ (hended r' (mem_cons_of_mem r hr'))
      rw [hrow, hgo.ended fun h => (by cases h)]
    refine (ih (fun r' hr' => hrows r' (mem_cons_of_mem r hr')) (hs.trans hr2) hended2 hi2).imp
      fun _ s3 hr3 _ hrest r' hr' => ?_
    rcases mem_cons.mp hr' with rfl | hr'
    · exact hr3.shut _ hshut
    · exact hrest r' hr'

theorem ensures_revokeRounds (userID : ℤ) (excludedSID reason : String) (now : ℤ) (rounds : ℕ) (done : List String)
    (hdone : ∀ sid ∈ done, Shut s sid) (hi : sessionProtocol.inv s) :
    Ensures sessionProtocol (revokeRounds (ρ := ρ) userID excludedSID reason now rounds done) s fun r s' =>
      ∀ sids, r = .ok sids → ∀ sid ∈ sids, Shut s' sid := by
  induction rounds generalizing s done with
  | zero => exact ensures_pure hi fun _ h => (by cases h)
  | succ rounds ih =>
    unfold revokeRounds
    refine ensures_observe_bind fun s₁ hr1 hi1 => ?_
    split
    · refine ensures_pure hi1 fun sids h sid hsid => ?_
      cases h
      exact hr1.shut sid (hdone sid hsid)
    have hrows : ∀ c ∈ revokeCandidates userID excludedSID now s₁, s₁.session c.sid = some c :=
      fun c hc => Table.get?_eq_some.mpr ⟨(mem_filter.mp (mem_mergeSort.mp (mem_of_mem_take hc))).1, rfl⟩
    refine (ensures_fenceAll now reason _ hrows (.refl _) hi1).bind fun r s2 hr2 hi2 hpos => ?_
    split
    · exact ensures_pure hi2 fun _ h => (by cases h)
    refine ensures_access_bind fun s3 hr3 hi3 _ => ?_
    obtain ⟨hi4, hr4, hbatch⟩ := revokeBatch_keeps
      ((revokeCandidates userID excludedSID now s₁).map UserSession.sid) reason now hi3
    refine ⟨hi4, hr4, ?_⟩
    have hversion : ∀ r ∈ (revokeBatch ((revokeCandidates userID excludedSID now s₁).map UserSession.sid) reason now
        s3).1, s3.session r.sid = some r ∧ 0 ≤ r.version := by
      intro r hr
      obtain ⟨hsid, hrow, _⟩ := hbatch r hr
      obtain ⟨c, hc, hcs⟩ := mem_map.mp hsid
      obtain ⟨row, hrow', hgo⟩ := (hr2.trans hr3).row c.sid c (hrows c hc)
      rw [hcs, hrow] at hrow'
      cases hrow'
      exact ⟨hrow, (hpos rfl c hc).trans hgo.version⟩
    refine (ensures_buryAll now reason _ hversion hr4 (fun r hr => (hbatch r hr).2.2) hi4).bind
      fun _ s5 hr5 hi5 hshut => ih _ (fun sid hsid => ?_) hi5
    rcases mem_append.mp hsid with hsid | hsid
    · exact ((((hr1.trans hr2).trans hr3).trans hr4).trans hr5).shut sid (hdone sid hsid)
    · obtain ⟨r, hr, rfl⟩ := mem_map.mp hsid
      exact hshut r hr

theorem ensures_revokeUserSessions (userID : ℤ) (excludedSID reason : String) (rounds : ℕ)
    (hi : sessionProtocol.inv s) :
    Ensures sessionProtocol (revokeUserSessions (ρ := ρ) userID excludedSID reason rounds) s fun r s' =>
      ∀ sids, r = .ok sids → ∀ sid ∈ sids, Shut s' sid := by
  unfold revokeUserSessions
  split
  · exact ensures_pure hi fun _ h => (by cases h)
  · exact ensures_observe_bind fun s₁ _ hi1 =>
      ensures_revokeRounds userID excludedSID reason s₁.unix rounds [] (fun _ h => (by cases h)) hi1

end Calls

/-! ## Runs -/

inductive SessionCall
  | getUserSessionCached (sid : String)
  | createUserSession (session : UserSession)
  | rotateUserSessionRefresh (userID : ℤ) (sid presentedHash nextHash : String) (now graceSeconds : ℤ)
  | advanceUserSessionAuthVersion (userID : ℤ) (sid : String)
      (expectedSessionVersion expectedUserAuthVersion nextUserAuthVersion : ℤ)
  | revokeUserSession (userID : ℤ) (sid reason : String)
  | revokeUserSessionByRefreshHash (sid presentedHash reason : String)
  | revokeUserSessions (userID : ℤ) (excludedSID reason : String) (rounds : ℕ)

/-- What a call returns, with the session that it is about. -/
inductive SessionAnswer
  | read (sid : String) (r : Except AuthErr UserSession)
  | revoked (sid : String) (r : Except AuthErr Bool)
  | revokedAll (r : Except AuthErr (List String))
  | other
  deriving DecidableEq

/-- The revocation has returned success for the session. -/
def SessionAnswer.Revokes (sid : String) : SessionAnswer → Prop
  | .revoked sid' (.ok true) => sid' = sid
  | .revokedAll (.ok sids) => sid ∈ sids
  | _ => False

/-- A store at its start: rows, and nothing cached. -/
def bootStore (clock : ℕ) (db : DB) : Store :=
  { clock, db, endedAt := fun sid => (db.sessions.get? sid).bind fun r =>
      if r.status = .active then none else some clock }

instance (s : Store) (l : Label) : Decidable (locksHonoured s l) := by
  cases l <;> unfold locksHonoured <;> infer_instance

instance (s : Store) (l : Label) : Decidable (versionUnchanged s l) := by
  cases l <;> unfold versionUnchanged <;> infer_instance

section Runs

variable [Settings]

def SessionCall.body : SessionCall → Process Store Label SessionAnswer
  | .getUserSessionCached sid => Desktop2Stereo.getUserSessionCached sid fun r => .done (.read sid r)
  | .createUserSession session => Desktop2Stereo.createUserSession session fun _ => .done .other
  | .rotateUserSessionRefresh userID sid presentedHash nextHash now graceSeconds =>
    Desktop2Stereo.rotateUserSessionRefresh userID sid presentedHash nextHash now graceSeconds fun _ => .done .other
  | .advanceUserSessionAuthVersion userID sid expectedSessionVersion expectedUserAuthVersion nextUserAuthVersion =>
    Desktop2Stereo.advanceUserSessionAuthVersion userID sid expectedSessionVersion expectedUserAuthVersion
      nextUserAuthVersion fun _ => .done .other
  | .revokeUserSession userID sid reason =>
    Desktop2Stereo.revokeUserSession userID sid reason fun r => .done (.revoked sid r)
  | .revokeUserSessionByRefreshHash sid presentedHash reason =>
    Desktop2Stereo.revokeUserSessionByRefreshHash sid presentedHash reason fun r => .done (.revoked sid r)
  | .revokeUserSessions userID excludedSID reason rounds =>
    Desktop2Stereo.revokeUserSessions userID excludedSID reason rounds fun r => .done (.revokedAll r)

/-- One move of the account server. -/
def sessionStep : System Store Label SessionAnswer → Move SessionCall Outside → System Store Label SessionAnswer :=
  Concurrent.step SessionCall.body Outside.apply

/-- A run in which every access meets a condition. -/
def SessionRun (admits : Store → Label → Prop) :
    System Store Label SessionAnswer → List (Move SessionCall Outside) → Prop :=
  Runs.Along sessionStep (Admitted admits (fun _ _ => True) (fun _ _ => True))

instance (admits : Store → Label → Prop) [∀ s l, Decidable (admits s l)] (s : System Store Label SessionAnswer)
    (l : List (Move SessionCall Outside)) : Decidable (SessionRun admits s l) := by
  unfold SessionRun
  infer_instance

def SessionAnswer.Promise (r : SessionAnswer) (s : Store) : Prop := ∀ sid, r.Revokes sid → Shut s sid

/-- What the answer of a call promises that was started when a session was shut. -/
def SessionAnswer.NotRead (sid : String) (r : SessionAnswer) : Prop := ∀ x, r ≠ .read sid (.ok x)

theorem SessionCall.meets (c : SessionCall) (hi : SessionsSound s) :
    Meets sessionProtocol (fun r s' => r.Promise s' ∧ ∀ sid, Shut s sid → r.NotRead sid) c.body s := by
  cases c with
  | getUserSessionCached sid =>
    refine (ensures_getUserSessionCached sid hi).meets fun r _ _ _ h _ _ _ => ⟨fun _ h => h.elim, ?_⟩
    intro sid' hs x hx
    cases hx
    exact h hs x rfl
  | createUserSession session =>
    exact (ensures_createUserSession session).meets fun _ _ _ _ _ _ _ _ =>
      ⟨fun _ h => h.elim, fun _ _ _ h => (by cases h)⟩
  | rotateUserSessionRefresh userID sid presentedHash nextHash now graceSeconds =>
    exact (ensures_rotateUserSessionRefresh userID sid presentedHash nextHash now graceSeconds hi).meets
      fun _ _ _ _ _ _ _ _ => ⟨fun _ h => h.elim, fun _ _ _ h => (by cases h)⟩
  | advanceUserSessionAuthVersion userID sid expectedSessionVersion expectedUserAuthVersion nextUserAuthVersion =>
    exact (ensures_advanceUserSessionAuthVersion userID sid expectedSessionVersion expectedUserAuthVersion
      nextUserAuthVersion hi).meets fun _ _ _ _ _ _ _ _ => ⟨fun _ h => h.elim, fun _ _ _ h => (by cases h)⟩
  | revokeUserSession userID sid reason =>
    refine (ensures_revokeUserSession userID sid reason hi).meets fun r _ _ _ h _ hr _ =>
      ⟨fun sid' hrev => ?_, fun _ _ _ h => (by cases h)⟩
    rcases r with e | (_ | _)
    · exact hrev.elim
    · exact hrev.elim
    · cases hrev
      exact hr.shut _ (h rfl)
  | revokeUserSessionByRefreshHash sid presentedHash reason =>
    refine (ensures_revokeUserSessionByRefreshHash sid presentedHash reason hi).meets fun r _ _ _ h _ hr _ =>
      ⟨fun sid' hrev => ?_, fun _ _ _ h => (by cases h)⟩
    rcases r with e | (_ | _)
    · exact hrev.elim
    · exact hrev.elim
    · cases hrev
      exact hr.shut _ (h rfl)
  | revokeUserSessions userID excludedSID reason rounds =>
    refine (ensures_revokeUserSessions userID excludedSID reason rounds hi).meets fun r _ _ _ h _ hr _ =>
      ⟨fun sid hrev => ?_, fun _ _ _ h => (by cases h)⟩
    rcases r with e | sids
    · exact hrev.elim
    · exact hr.shut _ (h sids rfl sid hrev)

theorem Outside.apply_keeps (x : Outside) (hi : SessionsSound s) : SessionsSound (x.apply s) ∧ SessionsGo s (x.apply s) := by
  cases x with
  | pass n => exact pass_keeps n hi
  | invalidateUserCache => exact rowSteps_keep rfl rfl (fun _ => .same rfl rfl) hi

theorem keeps_sessions : Keeps sessionProtocol (fun _ => SessionAnswer.Promise) SessionCall.body Outside.apply
    (fun _ _ => True) (fun _ _ => True) :=
  ⟨fun _ c _ hi _ => (c.meets hi).imp fun _ _ _ h => h.1, fun _ x hi _ => x.apply_keeps hi⟩

omit [Settings] in
theorem bootStore_sound (clock : ℕ) (db : DB) : SessionsSound (bootStore clock db) := by
  have hend : ∀ sid, (bootStore clock db).endedAt sid =
      (db.sessions.get? sid).bind fun r => if r.status = .active then none else some clock := fun _ => rfl
  refine ⟨fun sid row hrow => ?_, fun sid hnone => ?_, fun sid ended he => ?_, fun sid e he => (by cases he),
    fun sid e he => (by cases he)⟩
  · rw [hend, show db.sessions.get? sid = some row from hrow, Option.bind_some]
    split_ifs with h
    · exact ⟨fun _ => rfl, fun _ => h⟩
    · exact ⟨fun h' => absurd h' h, fun h' => (by cases h')⟩
  · rw [hend, show db.sessions.get? sid = none from hnone]
    rfl
  · rw [hend] at he
    obtain ⟨r, _, hr⟩ := Option.bind_eq_some_iff.mp he
    split_ifs at hr
    cases hr
    exact le_rfl

/-- **After a revocation has returned success for a session, no read that starts later returns it**, in every
interleaving in which row locks are honoured and every `RevokeUserSession` finds the row at the version at which
it has read it, or no longer active. -/
theorem revoked_session_is_not_read (clock : ℕ) (db : DB) (l₁ l₂ : List (Move SessionCall Outside)) (i : ℕ)
    (r : SessionAnswer) (sid : String)
    (h₁ : SessionRun (fun s l => locksHonoured s l ∧ versionUnchanged s l) ⟨bootStore clock db, []⟩ l₁)
    (hr : (Runs.run sessionStep ⟨bootStore clock db, []⟩ l₁).answer i = some r) (hsid : r.Revokes sid)
    (h₂ : SessionRun (fun s l => locksHonoured s l ∧ versionUnchanged s l)
      (Runs.run sessionStep ⟨bootStore clock db, []⟩ l₁) l₂) :
    ∀ j x, (Runs.run sessionStep ⟨bootStore clock db, []⟩ l₁).pool.length ≤ j →
      (Runs.run sessionStep (Runs.run sessionStep ⟨bootStore clock db, []⟩ l₁) l₂).answer j ≠
        some (.read sid (.ok x)) := by
  intro j x hj hx
  have h0 : Conforms sessionProtocol (fun _ => SessionAnswer.Promise)
      (⟨bootStore clock db, []⟩ : System Store Label SessionAnswer) :=
    ⟨bootStore_sound clock db, fun _ _ hp => (by cases hp)⟩
  have hc := (run_conforms keeps_sessions h0 h₁).1
  have hshut : Shut (Runs.run sessionStep ⟨bootStore clock db, []⟩ l₁).store sid := hc.answer hr sid hsid
  have hstable : ∀ s s', SessionsSound s → Shut s sid → SessionsGo s s' → SessionsSound s' → Shut s' sid :=
    fun _ _ _ hs hr _ => hr.shut sid hs
  have hc' : Conforms (sessionProtocol.restrict fun s => Shut s sid)
      (fun j r _ => (Runs.run sessionStep ⟨bootStore clock db, []⟩ l₁).pool.length ≤ j → r.NotRead sid)
      (Runs.run sessionStep (Runs.run sessionStep ⟨bootStore clock db, []⟩ l₁) l₂) :=
    run_conforms_after keeps_sessions hstable
      (fun s c hi hs _ => ((c.meets hi).imp fun _ _ _ h => h.2 sid hs).restrict hstable) hc hshut h₂
  exact hc'.answer hx hj x rfl

end Runs

def sampleSession : UserSession :=
  { sid := "a", userID := 1, userAuthVersion := 1, refreshHash := "h", loginMethod := "password", createdAt := 1
    lastActiveAt := 1, expiresAt := 2000000000 }

def sampleSessionDB : DB := { sessions := ⟨[sampleSession], pairwise_singleton _ _⟩ }

theorem revoked_session_is_not_read_of_sample :
    let s₀ : System Store Label SessionAnswer := ⟨bootStore 1000000000000000000 sampleSessionDB, []⟩
    let revoke : List (Move SessionCall Outside) :=
      .start (.revokeUserSession 1 "a" "logout") :: .replicate 7 (.run 0)
    let s₁ := Runs.run (@sessionStep sampleSettings) s₀ revoke
    s₁.answer 0 = some (.revoked "a" (.ok true)) ∧
    ∀ l₂, @SessionRun sampleSettings (fun s l => locksHonoured s l ∧ versionUnchanged s l) s₁ l₂ →
      ∀ j x, 1 ≤ j → (Runs.run (@sessionStep sampleSettings) s₁ l₂).answer j ≠ some (.read "a" (.ok x)) := by
  intro s₀ revoke s₁
  have hrun : s₁.answer 0 = some (.revoked "a" (.ok true)) ∧ s₁.pool.length = 1 ∧
      @SessionRun sampleSettings (fun s l => locksHonoured s l ∧ versionUnchanged s l) s₀ revoke := by decide
  refine ⟨hrun.1, fun l₂ h2 j x hj => ?_⟩
  exact @revoked_session_is_not_read sampleSettings _ _ revoke l₂ 0 _ "a" hrun.2.2 hrun.1 rfl h2 j x
    (hrun.2.1.le.trans hj)

/-- A revocation pauses after its fence, the fence expires, an advance raises the version and fills the cache at
it; the revocation then ends the row, its last deny entry is refused, and a later read finds the fill. -/
theorem revoke_ignored_by_cache :
    let s₀ : System Store Label SessionAnswer := ⟨bootStore 1000000000000000000 sampleSessionDB, []⟩
    let l₁ : List (Move SessionCall Outside) :=
      .start (.revokeUserSession 1 "a" "logout") :: .replicate 4 (.run 0) ++ .env (.pass 61000000000) ::
        .start (.advanceUserSessionAuthVersion 1 "a" 1 1 2) :: .replicate 6 (.run 1) ++ .replicate 3 (.run 0)
    let l₂ : List (Move SessionCall Outside) := .start (.getUserSessionCached "a") :: .replicate 2 (.run 2)
    let s₁ := Runs.run (@sessionStep sampleSettings) s₀ l₁
    @SessionRun sampleSettings locksHonoured s₀ (l₁ ++ l₂) ∧ s₁.answer 0 = some (.revoked "a" (.ok true)) ∧
      s₁.pool.length = 2 ∧ ∃ x, (Runs.run (@sessionStep sampleSettings) s₁ l₂).answer 2 = some (.read "a" (.ok x)) := by
  intro s₀ l₁ l₂ s₁
  refine ⟨by decide, by decide, by decide,
    { sampleSession with version := 2, userAuthVersion := 2, lastActiveAt := 1000000061, refreshHash := "" }, ?_⟩
  decide

end Desktop2Stereo
