import Desktop2Stereo.Session.Frames

/-!
# Snapshots of sessions that are no longer active

A snapshot that says `active` lives at most until the deadline that was taken before its row was read. A deny
entry lives at least that long, counted from the moment at which it is written. So a session that has been
revoked, and whose deny entry has been written after that, is never taken from the cache again.

* **`ensures_writeUserSessionCache`**: a deny entry of an ended session shuts it.
-/

namespace Desktop2Stereo

open Relational Concurrent Expiring

/-! ## The protocol -/

/-- The histories agree with the rows, and no key is ahead of its row. -/
structure SessionsSound (s : Store) : Prop where
  active_iff : ∀ sid row, s.session sid = some row → (row.status = .active ↔ s.endedAt sid = none)
  none_ended : ∀ sid, s.session sid = none → s.endedAt sid = none
  ended_le : ∀ sid ended, s.endedAt sid = some ended → ended ≤ s.clock
  version_le : ∀ sid e, s.sessionHash sid = some e → ∃ row, s.session sid = some row ∧ e.version ≤ row.version
  version_nonneg : ∀ sid e, s.sessionHash sid = some e → 0 ≤ e.version

/-- What happens to a row: its version grows, its expiry stays, and a row that has ended stays as it is. -/
structure RowGoes (row row' : UserSession) : Prop where
  version : row.version ≤ row'.version
  expiresAt : row'.expiresAt = row.expiresAt
  ended : row.status ≠ .active → row' = row

theorem RowGoes.refl (row : UserSession) : RowGoes row row := ⟨le_rfl, rfl, fun _ => rfl⟩

theorem RowGoes.trans {a b c : UserSession} (h : RowGoes a b) (h' : RowGoes b c) : RowGoes a c := by
  refine ⟨h.version.trans h'.version, h'.expiresAt.trans h.expiresAt, fun ha => ?_⟩
  have hb := h.ended ha
  subst hb
  exact h'.ended ha

/-- Row locks are honoured: a transaction finds the row as it has read it under its lock. -/
def locksHonoured (s : Store) : Label → Prop
  | .locked session => s.session session.sid = some session
  | _ => True

/-- A revocation finds the row at the version at which it has read it, or no longer active. -/
def versionUnchanged (s : Store) : Label → Prop
  | .revoke candidate => ∀ r ∈ s.session candidate.sid, r.status = .active → r.version = candidate.version
  | _ => True

section Protocol

variable [Settings]

/-- The last millisecond at which a snapshot can be there whose row was read before the session ended. -/
def lastActive (expiresAt : ℤ) (ended : ℕ) : ℕ :=
  min (expiresAt * 1000).toNat (ended / 1000000 + userCacheTTLSeconds * 1000)

/-- No snapshot that says `active` is there, and none can be written that is seen. -/
def Denied (s : Store) (sid : String) (last : ℕ) : Prop :=
  (∃ e upTo, s.sessionHashes sid = .expiring e upTo ∧ e.status ≠ .active ∧ s.ms ≤ upTo ∧ last ≤ upTo + 1) ∨
    last ≤ s.ms ∧ ∀ e ∈ s.sessionHash sid, e.status ≠ .active

/-- The session has ended, and no snapshot can outlive its deny entry. -/
def Shut (s : Store) (sid : String) : Prop :=
  ∃ row ended, s.session sid = some row ∧ row.status ≠ .active ∧ s.endedAt sid = some ended ∧
    Denied s sid (lastActive row.expiresAt ended)

/-- What the accesses of all calls together may do to the sessions. -/
structure SessionsGo (s s' : Store) : Prop where
  clock : s.clock ≤ s'.clock
  row : ∀ sid row, s.session sid = some row → ∃ row', s'.session sid = some row' ∧ RowGoes row row'
  ended : ∀ sid t, s.endedAt sid = some t → s'.endedAt sid = some t
  since : ∀ sid t, s.endedAt sid = none → s'.endedAt sid = some t → s.clock ≤ t
  shut : ∀ sid, Shut s sid → Shut s' sid

theorem SessionsGo.refl (s : Store) : SessionsGo s s := by
  refine ⟨le_rfl, fun _ row h => ⟨row, h, .refl row⟩, fun _ _ h => h, fun sid t h h' => ?_, fun _ h => h⟩
  rw [h] at h'
  cases h'

theorem SessionsGo.trans {a b c : Store} (h : SessionsGo a b) (h' : SessionsGo b c) : SessionsGo a c := by
  refine ⟨h.clock.trans h'.clock, fun sid row hr => ?_, fun sid t ht => h'.ended sid t (h.ended sid t ht),
    fun sid t hn ht => ?_, fun sid hs => h'.shut sid (h.shut sid hs)⟩
  · obtain ⟨row1, hr1, hg1⟩ := h.row sid row hr
    obtain ⟨row2, hr2, hg2⟩ := h'.row sid row1 hr1
    exact ⟨row2, hr2, hg1.trans hg2⟩
  · cases hb : b.endedAt sid with
    | none => exact h.clock.trans (h'.since sid t hb ht)
    | some t' =>
      have htt := h'.ended sid t' hb
      rw [ht] at htt
      cases htt
      exact h.since sid t hn hb

def sessionProtocol : Protocol Store Label where
  inv := SessionsSound
  rely := SessionsGo
  admits s l := locksHonoured s l ∧ versionUnchanged s l
  refl := .refl
  trans := .trans

end Protocol

/-! ## Time -/

section Accesses

variable [Settings] {s s' : Store} {sid : String}

omit [Settings] in
theorem Denied.later {last n : ℕ} (h : Denied s sid last) : Denied { s with clock := s.clock + n } sid last := by
  have hms : s.ms ≤ ({ s with clock := s.clock + n } : Store).ms := Nat.div_le_div_right (Nat.le_add_right _ _)
  rcases h with ⟨e, upTo, hc, he, hle, hlast⟩ | ⟨hle, hno⟩
  · by_cases ht : ({ s with clock := s.clock + n } : Store).ms ≤ upTo
    · exact .inl ⟨e, upTo, hc, he, ht, hlast⟩
    · refine .inr ⟨by omega, fun e' he' => ?_⟩
      have hgone : ({ s with clock := s.clock + n } : Store).sessionHash sid = none := by
        show (s.sessionHashes sid).get _ = none
        rw [hc, Cell.get_expiring, if_pos (not_le.mp ht)]
      rw [Option.mem_def, hgone] at he'
      cases he'
  · exact .inr ⟨hle.trans hms, fun e he => hno e (Cell.get_of_later hms he)⟩

theorem pass_keeps (n : ℕ) (hi : SessionsSound s) :
    SessionsSound { s with clock := s.clock + n } ∧ SessionsGo s { s with clock := s.clock + n } := by
  have hms : s.ms ≤ ({ s with clock := s.clock + n } : Store).ms := Nat.div_le_div_right (Nat.le_add_right _ _)
  refine ⟨⟨hi.active_iff, hi.none_ended, fun sid t ht => (hi.ended_le sid t ht).trans (Nat.le_add_right _ _),
    fun sid e he => hi.version_le sid e (Cell.get_of_later hms he),
    fun sid e he => hi.version_nonneg sid e (Cell.get_of_later hms he)⟩, Nat.le_add_right _ _,
    fun _ row h => ⟨row, h, .refl row⟩, fun _ _ h => h, fun sid t h h' => ?_, ?_⟩
  · rw [show s.endedAt sid = some t from h'] at h
    cases h
  · rintro _ ⟨row, ended, hrow, hst, hend, hd⟩
    exact ⟨row, ended, hrow, hst, hend, hd.later⟩

/-! ## Rows -/

/-- What one access does to one row: nothing, a change of a row that stays active, its end, or its creation. -/
inductive RowStep (s s' : Store) (sid : String) : Prop
  | same (hrow : s'.session sid = s.session sid) (hend : s'.endedAt sid = s.endedAt sid)
  | changed (row row' : UserSession) (hrow : s.session sid = some row) (hrow' : s'.session sid = some row')
      (hst : row.status = .active) (hst' : row'.status = .active) (hgo : RowGoes row row')
      (hend : s'.endedAt sid = s.endedAt sid)
  | ended (row row' : UserSession) (hrow : s.session sid = some row) (hrow' : s'.session sid = some row')
      (hst : row.status = .active) (hst' : row'.status ≠ .active) (hgo : RowGoes row row')
      (hend : s'.endedAt sid = some s.clock)
  | created (row' : UserSession) (hrow : s.session sid = none) (hrow' : s'.session sid = some row')
      (hst' : row'.status = .active) (hend : s'.endedAt sid = s.endedAt sid)

omit [Settings] in
theorem RowStep.row (h : RowStep s s' sid) {row : UserSession} (hr : s.session sid = some row) :
    ∃ row', s'.session sid = some row' ∧ RowGoes row row' := by
  cases h with
  | same hrow => exact ⟨row, hrow.trans hr, .refl row⟩
  | changed r row' hrow hrow' _ _ hgo _ | ended r row' hrow hrow' _ _ hgo _ =>
    rw [hr] at hrow
    cases hrow
    exact ⟨row', hrow', hgo⟩
  | created row' hrow => rw [hr] at hrow; cases hrow

theorem rowSteps_keep (hclock : s'.clock = s.clock) (hkeys : s'.sessionHashes = s.sessionHashes)
    (hstep : ∀ sid, RowStep s s' sid) (hi : SessionsSound s) : SessionsSound s' ∧ SessionsGo s s' := by
  have hms : s'.ms = s.ms := by rw [Store.ms, hclock, Store.ms]
  have hhash : ∀ sid, s'.sessionHash sid = s.sessionHash sid := fun sid => by
    rw [Store.sessionHash, hkeys, hms, Store.sessionHash]
  refine ⟨⟨fun sid row' hrow' => ?_, fun sid hnone => ?_, fun sid t ht => ?_, fun sid e he => ?_,
    fun sid e he => hi.version_nonneg sid e (hhash sid ▸ he)⟩, hclock.ge, fun sid row hr => (hstep sid).row hr, fun sid t ht => ?_, fun sid t hn ht => ?_, fun sid hs => ?_⟩
  · -- the history agrees with the row
    cases hstep sid with
    | same hrow hend =>
      rw [hend]
      exact hi.active_iff sid row' (hrow ▸ hrow')
    | changed row r hrow hr hst hst' _ hend =>
      rw [hr] at hrow'
      cases hrow'
      rw [hend]
      exact ⟨fun _ => (hi.active_iff sid row hrow).mp hst, fun _ => hst'⟩
    | ended row r hrow hr hst hst' _ hend =>
      rw [hr] at hrow'
      cases hrow'
      rw [hend]
      exact ⟨fun h => absurd h hst', fun h => (by cases h)⟩
    | created r hrow hr hst' hend =>
      rw [hr] at hrow'
      cases hrow'
      rw [hend]
      exact ⟨fun _ => hi.none_ended sid hrow, fun _ => hst'⟩
  · cases hstep sid with
    | same hrow hend => rw [hend]; exact hi.none_ended sid (hrow ▸ hnone)
    | changed row r hrow hr | ended row r hrow hr | created r hrow hr => rw [hr] at hnone; cases hnone
  · rw [hclock]
    cases hstep sid with
    | same _ hend | changed _ _ _ _ _ _ _ hend | created _ _ _ _ hend =>
      exact hi.ended_le sid t (hend ▸ ht)
    | ended _ _ _ _ _ _ _ hend =>
      rw [hend] at ht
      cases ht
      exact le_rfl
  · obtain ⟨row, hrow, hv⟩ := hi.version_le sid e (hhash sid ▸ he)
    obtain ⟨row', hrow', hgo⟩ := (hstep sid).row hrow
    exact ⟨row', hrow', hv.trans hgo.version⟩
  · cases hstep sid with
    | same _ hend | changed _ _ _ _ _ _ _ hend | created _ _ _ _ hend => exact hend.trans ht
    | ended row _ hrow _ hst =>
      rw [(hi.active_iff sid row hrow).mp hst] at ht
      cases ht
  · cases hstep sid with
    | same _ hend | changed _ _ _ _ _ _ _ hend | created _ _ _ _ hend =>
      rw [hend, hn] at ht
      cases ht
    | ended _ _ _ _ _ _ _ hend =>
      rw [hend] at ht
      cases ht
      exact le_rfl
  · obtain ⟨row, ended, hrow, hst, hend, hd⟩ := hs
    cases hstep sid with
    | same hr he =>
      refine ⟨row, ended, hr.trans hrow, hst, he.trans hend, ?_⟩
      unfold Denied
      rw [hkeys, hms, hhash]
      exact hd
    | changed r _ hr _ ha _ _ _ | ended r _ hr _ ha _ _ _ =>
      rw [hrow] at hr
      cases hr
      exact absurd ha hst
    | created _ hr => rw [hrow] at hr; cases hr

omit [Settings] in
@[simp] theorem session_setSession (s : Store) (sid k : String) (f : UserSession → UserSession)
    (h : ∀ r, Indexed.keys (f r) = Indexed.keys r) :
    (s.setSession sid f h).session k = if sid = k then (s.session k).map f else s.session k :=
  Table.get?_modify_pk (h := h) _ sid (fun r => by simp) k

omit [Settings] in
@[simp] theorem session_endSessions (s : Store) (p : UserSession → Bool) (now : ℤ) (reason k : String) :
    (s.endSessions p now reason).session k = (s.session k).map fun r => if p r then r.revoked now reason else r :=
  Table.get?_modify _ p (·.revoked now reason) (fun _ => rfl) k

theorem setSession_keeps (sid : String) {row : UserSession} (f : UserSession → UserSession)
    {h : ∀ r, Indexed.keys (f r) = Indexed.keys r} (hrow : s.session sid = some row) (hst : row.status = .active)
    (hst' : (f row).status = .active) (hgo : RowGoes row (f row)) (hi : SessionsSound s) :
    SessionsSound (s.setSession sid f h) ∧ SessionsGo s (s.setSession sid f h) := by
  refine rowSteps_keep rfl rfl (fun k => ?_) hi
  by_cases hk : sid = k
  · subst hk
    refine .changed row (f row) hrow ?_ hst hst' hgo rfl
    rw [session_setSession, if_pos rfl, hrow]
    rfl
  · refine .same ?_ rfl
    rw [session_setSession, if_neg hk]

theorem endSessions_keeps (p : UserSession → Bool) (now : ℤ) (reason : String) (hp : ∀ r, p r = true → r.status = .active)
    (hi : SessionsSound s) :
    SessionsSound (s.endSessions p now reason) ∧ SessionsGo s (s.endSessions p now reason) := by
  refine rowSteps_keep rfl rfl (fun k => ?_) hi
  have hend : (s.endSessions p now reason).endedAt k = if (s.session k).any p then some s.clock else s.endedAt k := rfl
  cases hk : s.session k with
  | none =>
    refine .same ?_ ?_
    · rw [session_endSessions, hk]
      rfl
    · rw [hend, hk]
      rfl
  | some row =>
    have hget := session_endSessions s p now reason k
    rw [hk, Option.map_some] at hget
    rw [hk, Option.any_some] at hend
    by_cases hrow : p row = true
    · rw [if_pos hrow] at hget hend
      refine .ended row _ hk hget (hp row hrow) (fun h => (by cases h)) ⟨le_rfl, rfl, fun h => ?_⟩ hend
      exact absurd (hp row hrow) h
    · rw [if_neg hrow] at hget hend
      exact .same (hget.trans hk.symm) hend

theorem insertSession_keeps {session : UserSession} (hst : session.status = .active) (hi : SessionsSound s) :
    SessionsSound (insertSession session s).2 ∧ SessionsGo s (insertSession session s).2 := by
  unfold insertSession
  cases h : s.db.sessions.insert session with
  | none => exact ⟨hi, .refl s⟩
  | some sessions =>
    refine rowSteps_keep rfl rfl (fun k => ?_) hi
    have hget : ({ s with db := { s.db with sessions } } : Store).session k =
        if session.sid = k then some session else s.session k := Table.get?_insert h k
    by_cases hk : session.sid = k
    · rw [if_pos hk] at hget
      refine .created session ?_ hget hst rfl
      exact hk ▸ Table.get?_of_insert h
    · rw [if_neg hk] at hget
      exact .same hget rfl

/-! ## Keys -/

/-- What a call knows of the row that an entry was read from. -/
def Snapshot (s : Store) (entry : SessionEntry) : Prop :=
  ∃ row, s.session entry.sid = some row ∧ entry.version ≤ row.version ∧ entry.expiresAt = row.expiresAt

theorem Snapshot.later {entry : SessionEntry} (h : Snapshot s entry) (hr : SessionsGo s s') : Snapshot s' entry := by
  obtain ⟨row, hrow, hv, hx⟩ := h
  obtain ⟨row', hrow', hgo⟩ := hr.row _ row hrow
  exact ⟨row', hrow', hv.trans hgo.version, hx.trans hgo.expiresAt.symm⟩

/-- The session had not ended at the instant `t`. -/
def Since (s : Store) (sid : String) (t : ℕ) : Prop := t ≤ s.clock ∧ ∀ ended, s.endedAt sid = some ended → t ≤ ended

theorem Since.later {t : ℕ} (h : Since s sid t) (hr : SessionsGo s s') : Since s' sid t := by
  refine ⟨h.1.trans hr.clock, fun ended he => ?_⟩
  cases hs : s.endedAt sid with
  | none => exact h.1.trans (hr.since sid ended hs he)
  | some t' =>
    have ht := hr.ended sid t' hs
    rw [he] at ht
    cases ht
    exact h.2 ended hs

theorem activeExpiration_le {entry : SessionEntry} {deadline now n t ended : ℕ}
    (h : activeExpiration entry deadline now = .ok n) (hd : deadline ≤ t + sessionCacheTTL) (ht : t ≤ ended) :
    n ≤ lastActive entry.expiresAt ended := by
  unfold activeExpiration at h
  dsimp only at h
  split_ifs at h
  rw [← Except.ok.inj h]
  unfold lastActive unixNano
  unfold sessionCacheTTL at hd
  omega

theorem le_denyExpiration {entry : SessionEntry} {now ended : ℕ} (hnow : now ≤ s.clock) (hended : ended ≤ s.clock) :
    lastActive entry.expiresAt ended ≤ s.ms + denyExpiration entry now + 1 := by
  unfold lastActive denyExpiration unixNano sessionCacheTTL Store.ms
  dsimp only
  split_ifs <;> omega

omit [Settings] in
theorem SessionsSound.nonneg_of_accepted {v : ℤ} (hi : SessionsSound s)
    (h : ((s.sessionHash sid).map SessionEntry.version).getD 0 ≤ v) : 0 ≤ v := by
  cases he : s.sessionHash sid with
  | none =>
    rw [he] at h
    exact h
  | some e =>
    rw [he] at h
    exact (hi.version_nonneg sid e he).trans h

theorem evalWriteSession_keeps {entry : SessionEntry} {n : ℕ} (hsnap : Snapshot s entry)
    (hactive : entry.status = .active → ∀ ended, s.endedAt entry.sid = some ended →
      n ≤ lastActive entry.expiresAt ended)
    (hdeny : entry.status ≠ .active → 1 ≤ n ∧ ∀ ended, s.endedAt entry.sid = some ended →
      lastActive entry.expiresAt ended ≤ s.ms + n + 1)
    (hi : SessionsSound s) :
    SessionsSound (evalWriteSession entry n s).2 ∧ SessionsGo s (evalWriteSession entry n s).2 := by
  rcases evalWriteSession_cases entry n s with h | ⟨hact, hver, h⟩
  · rw [h]
    exact ⟨hi, .refl s⟩
  rw [h]
  obtain ⟨row, hrow, hv, hx⟩ := hsnap
  have hpos := hi.nonneg_of_accepted hver
  have hother : ∀ k, entry.sid ≠ k → ∀ c, (s.setSessionHash entry.sid c).sessionHashes k = s.sessionHashes k :=
    fun k hk c => Function.update_of_ne (Ne.symm hk) _ _
  have hown : ∀ c, (s.setSessionHash entry.sid c).sessionHashes entry.sid = c := fun c => Function.update_self ..
  have hkey : ∀ k e c, (s.setSessionHash entry.sid (.expireAt s.ms entry c)).sessionHash k = some e →
      entry.sid = k ∧ e = entry ∨ entry.sid ≠ k ∧ s.sessionHash k = some e := by
    intro k e c he
    rw [Store.sessionHash] at he
    by_cases hk : entry.sid = k
    · subst hk
      rw [hown, Cell.get_expireAt] at he
      split_ifs at he
      exact .inl ⟨rfl, (Option.some.inj he).symm⟩
    · rw [hother k hk] at he
      exact .inr ⟨hk, he⟩
  refine ⟨⟨hi.active_iff, hi.none_ended, hi.ended_le, fun k e he => ?_, fun k e he => ?_⟩, le_rfl,
    fun _ r hr => ⟨r, hr, .refl r⟩, fun _ _ ht => ht, fun k t hn ht => ?_, fun k hs => ?_⟩
  · rcases hkey k e _ he with ⟨rfl, rfl⟩ | ⟨_, hold⟩
    · exact ⟨row, hrow, hv⟩
    · exact hi.version_le k e hold
  · rcases hkey k e _ he with ⟨rfl, rfl⟩ | ⟨_, hold⟩
    · exact hpos
    · exact hi.version_nonneg k e hold
  · rw [show s.endedAt k = some t from ht] at hn
    cases hn
  · by_cases hk : entry.sid = k
    · subst hk
      obtain ⟨r, ended, hr, hst, hend, hd⟩ := hs
      rw [hrow] at hr
      cases hr
      refine ⟨row, ended, hrow, hst, hend, ?_⟩
      by_cases ha : entry.status = .active
      · -- a live deny entry refuses the write; else the time of every older snapshot is over
        rcases hd with ⟨e, _, hc, he, hle, _⟩ | ⟨hle, _⟩
        · have hlive : s.sessionHash entry.sid = some e := by
            rw [Store.sessionHash, hc, Cell.get_expiring, if_neg (not_lt.mpr hle)]
          exact absurd (hact ha e hlive) he
        · refine .inr ⟨hle, fun e he => ?_⟩
          have hn : n ≤ s.ms := (hx ▸ hactive ha ended hend).trans hle
          rw [Option.mem_def, Store.sessionHash, hown, if_pos ha, Cell.get_expireAt, if_pos (.inl hn)] at he
          cases he
      · obtain ⟨_, hlast⟩ := hdeny ha
        refine .inl ⟨entry, s.ms + n, ?_, ha, Nat.le_add_right _ _, hx ▸ hlast ended hend⟩
        rw [hown, if_neg ha, Cell.expireAt, if_neg (by omega)]
    · obtain ⟨r, ended, hr, hst, hend, hd⟩ := hs
      refine ⟨r, ended, hr, hst, hend, ?_⟩
      unfold Denied Store.sessionHash at hd ⊢
      rw [hother k hk]
      exact hd

theorem evalWriteSession_shuts {entry : SessionEntry} {n : ℕ} {row : UserSession} {ended : ℕ}
    (hrow : s.session entry.sid = some row) (hst : row.status ≠ .active) (hend : s.endedAt entry.sid = some ended)
    (hv : row.version ≤ entry.version) (hpos : 0 ≤ entry.version) (hdeny : entry.status ≠ .active) (hn : 1 ≤ n)
    (hlast : lastActive row.expiresAt ended ≤ s.ms + n + 1) (hi : SessionsSound s) :
    Shut (evalWriteSession entry n s).2 entry.sid := by
  have haccept : evalWriteSession entry n s = (true, s.setSessionHash entry.sid (.expireAt s.ms entry (s.ms + n))) := by
    unfold evalWriteSession
    dsimp only
    rw [if_neg (fun h => hdeny h.1), if_neg hdeny]
    refine if_neg ?_
    cases he : s.sessionHash entry.sid with
    | none => exact not_lt.mpr hpos
    | some e =>
      obtain ⟨r, hr, hle⟩ := hi.version_le entry.sid e he
      rw [hrow] at hr
      cases hr
      exact not_lt.mpr (hle.trans hv)
  rw [haccept]
  refine ⟨row, ended, hrow, hst, hend, .inl ⟨entry, s.ms + n, ?_, hdeny, Nat.le_add_right _ _, hlast⟩⟩
  show Function.update _ _ _ _ = _
  rw [Function.update_self, Cell.expireAt, if_neg (by omega)]

end Accesses

/-! ## Writing a snapshot -/

section Writes

variable [Settings] {ρ : Type} {s : Store}

omit [Settings] in
theorem Snapshot.of_row {sid : String} {row : UserSession} {entry : SessionEntry} (h : s.session sid = some row)
    (hsid : entry.sid = row.sid) (hv : entry.version = row.version) (hx : entry.expiresAt = row.expiresAt) :
    Snapshot s entry := by
  have hk : row.sid = sid := (Table.get?_eq_some.mp h).2
  exact ⟨row, by rw [hsid, hk, h], hv.le, hx⟩

/-- **Writing a snapshot keeps the protocol, and a deny entry that is written for a session that has ended shuts
it.** An active snapshot needs a deadline from before the end of the session. -/
theorem ensures_writeUserSessionCache {entry : SessionEntry} {cacheDeadline : Option ℕ} (hsnap : Snapshot s entry)
    (hdeadline : ∀ d, cacheDeadline = some d → ∃ t, d ≤ t + sessionCacheTTL ∧ Since s entry.sid t) :
    Ensures sessionProtocol (writeUserSessionCache (ρ := ρ) entry cacheDeadline) s fun r s' =>
      entry.status ≠ .active → (r = .ok () → 0 ≤ entry.version) ∧
        (0 ≤ entry.version → (∃ row, s.session entry.sid = some row ∧ row.status ≠ .active ∧
          row.version ≤ entry.version) → Shut s' entry.sid) := by
  unfold writeUserSessionCache
  refine ensures_observe_bind fun s1 hr1 hi1 => ?_
  split
  next ha =>
    split
    · exact ensures_pure hi1 fun h => absurd ha h
    next deadline =>
      obtain ⟨t, ht, hsince⟩ := hdeadline deadline rfl
      split
      · exact ensures_pure hi1 fun h => absurd ha h
      next n hn =>
        refine ensures_access_bind fun s2 hr2 hi2 _ => ?_
        have hsince2 := (hsince.later hr1).later hr2
        obtain ⟨hi3, hr3⟩ := evalWriteSession_keeps ((hsnap.later hr1).later hr2)
          (fun _ ended he => activeExpiration_le hn ht (hsince2.2 ended he)) (fun h => absurd ha h) hi2
        refine ⟨hi3, hr3, ?_⟩
        split
        · refine ensures_observe_bind fun s4 _ hi4 => ?_
          split
          · exact ensures_pure hi4 fun h => absurd ha h
          split
          · exact ensures_pure hi4 fun h => absurd ha h
          · exact ensures_pure hi4 fun h => absurd ha h
        · exact ensures_pure hi3 fun h => absurd ha h
  next ha =>
    refine ensures_access_bind fun s2 hr2 hi2 _ => ?_
    have hlast : ∀ ended, s2.endedAt entry.sid = some ended →
        lastActive entry.expiresAt ended ≤ s2.ms + denyExpiration entry s1.clock + 1 :=
      fun ended he => le_denyExpiration hr2.clock (hi2.ended_le _ ended he)
    have hone : 1 ≤ denyExpiration entry s1.clock := le_max_left _ _
    obtain ⟨hi3, hr3⟩ := evalWriteSession_keeps ((hsnap.later hr1).later hr2) (fun h => absurd h ha)
      (fun _ => ⟨hone, hlast⟩) hi2
    refine ⟨hi3, hr3, ?_⟩
    have hshut : 0 ≤ entry.version → (∃ row, s.session entry.sid = some row ∧ row.status ≠ .active ∧
        row.version ≤ entry.version) →
        Shut (evalWriteSession entry (denyExpiration entry s1.clock) s2).2 entry.sid := by
      rintro hpos ⟨row, hrow, hst, hv⟩
      obtain ⟨_, hrow2, hgo⟩ := (hr1.trans hr2).row _ row hrow
      rw [hgo.ended hst] at hrow2
      obtain ⟨ended, hend⟩ := Option.ne_none_iff_exists'.mp
        (fun h => hst ((hi2.active_iff _ row hrow2).mpr h))
      obtain ⟨_, hrow', _, hx⟩ := (hsnap.later hr1).later hr2
      rw [hrow2] at hrow'
      cases hrow'
      exact evalWriteSession_shuts hrow2 hst hend hv hpos ha hone (hx ▸ hlast ended hend) hi2
    split
    next hok =>
      refine ensures_pure hi3 fun _ => ⟨fun _ => ?_, hshut⟩
      rcases evalWriteSession_cases entry (denyExpiration entry s1.clock) s2 with h | ⟨_, hver, _⟩
      · rw [h] at hok
        cases hok
      · exact hi2.nonneg_of_accepted hver
    · exact ensures_pure hi3 fun _ => ⟨fun h => (by cases h), hshut⟩

end Writes

end Desktop2Stereo
