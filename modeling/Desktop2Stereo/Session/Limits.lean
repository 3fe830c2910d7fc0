import Desktop2Stereo.Lib.Phases
import Desktop2Stereo.Session.Frames

/-!
# Limits on the sessions of a user

A login counts the sessions of its user and inserts its own in two separate statements. Logins that overlap can
all pass the counts before any of them inserts, so the limits are exceeded by as many sessions as there are
other logins in flight, and by no more.

* **`session_limits_hold_up_to_overlap`**: the bounds, in every interleaving.
-/

namespace Desktop2Stereo

open Relational Concurrent Expiring List Settings

/-! ## What is counted -/

def activeSessionsAt (userID now : ℤ) (s : Store) : ℕ :=
  s.db.sessions.count fun r => r.userID = userID ∧ r.status = .active ∧ now < r.expiresAt

def activeSessions (userID : ℤ) (s : Store) : ℕ := activeSessionsAt userID s.unix s

/-- The sessions of a user that were created in the issuance window that ends at a time. -/
def windowSessions [Settings] (userID t : ℤ) (s : Store) : ℕ :=
  s.db.sessions.count fun r =>
    r.userID = userID ∧ t - userSessionIssuanceWindowSeconds < r.createdAt ∧ r.createdAt ≤ t

/-! ## The machine -/

/-- A login has read the clock, has passed the count of active sessions, has passed both counts; else it is idle. -/
inductive LoginPhase
  | idle
  | timed (now : ℤ)
  | counted (now : ℤ)
  | cleared (now : ℤ)

def LoginPhase.held : LoginPhase → Bool
  | .counted _ | .cleared _ => true
  | _ => false

@[simp] theorem LoginPhase.held_idle : LoginPhase.idle.held = false := rfl
@[simp] theorem LoginPhase.held_timed (now : ℤ) : (LoginPhase.timed now).held = false := rfl
@[simp] theorem LoginPhase.held_counted (now : ℤ) : (LoginPhase.counted now).held = true := rfl
@[simp] theorem LoginPhase.held_cleared (now : ℤ) : (LoginPhase.cleared now).held = true := rfl

section Machine

variable [Settings]

/-- The session of the login will fall into the issuance window that ends at a time. -/
def LoginPhase.clearedIn (t : ℤ) : LoginPhase → Bool
  | .cleared now => t - userSessionIssuanceWindowSeconds < now ∧ now ≤ t
  | _ => false

@[simp] theorem LoginPhase.clearedIn_idle (t : ℤ) : LoginPhase.idle.clearedIn t = false := rfl
@[simp] theorem LoginPhase.clearedIn_timed (t now : ℤ) : (LoginPhase.timed now).clearedIn t = false := rfl
@[simp] theorem LoginPhase.clearedIn_counted (t now : ℤ) : (LoginPhase.counted now).clearedIn t = false := rfl
@[simp] theorem LoginPhase.clearedIn_cleared (t now : ℤ) : (LoginPhase.cleared now).clearedIn t = true ↔
    t - userSessionIssuanceWindowSeconds < now ∧ now ≤ t := decide_eq_true_iff

/-- No session is added, and no time passes. -/
structure NoMore (userID : ℤ) (s s' : Store) : Prop where
  clock : s'.clock = s.clock
  active : ∀ now, activeSessionsAt userID now s' ≤ activeSessionsAt userID now s
  window : ∀ t, windowSessions userID t s' ≤ windowSessions userID t s

theorem NoMore.of_eq {userID : ℤ} {s s' : Store} (hclock : s'.clock = s.clock)
    (hrows : s'.db.sessions = s.db.sessions) : NoMore userID s s' := by
  refine ⟨hclock, fun now => ?_, fun t => ?_⟩
  · rw [activeSessionsAt, hrows, activeSessionsAt]
  · rw [windowSessions, hrows, windowSessions]

inductive LoginStep (userID : ℤ) : Store → LoginPhase → Store → LoginPhase → Prop
  | quiet {s s' x} (h : NoMore userID s s') : LoginStep userID s x s' x
  | leave {s s' x} (h : NoMore userID s s') : LoginStep userID s x s' .idle
  | time {s} : LoginStep userID s .idle s (.timed s.unix)
  | count {s now} (h : (activeSessionsAt userID now s : ℤ) < userSessionActiveLimit) :
      LoginStep userID s (.timed now) s (.counted now)
  | clear {s now} (h : ∀ t, t - userSessionIssuanceWindowSeconds < now → now ≤ t →
      (windowSessions userID t s : ℤ) < userSessionIssuanceLimit) :
      LoginStep userID s (.counted now) s (.cleared now)
  | insert {s now row sessions} (h : s.db.sessions.insert row = some sessions) (hcreated : row.createdAt = now) :
      LoginStep userID s (.cleared now) { s with db := { s.db with sessions } } .idle

def LoginPhase.Ends (x : LoginPhase) : Prop := x.held = false

def loginMachine (userID : ℤ) : Machine Store Label LoginPhase where
  move := LoginStep userID
  ends := LoginPhase.Ends

/-! ## Logins -/

variable {ρ : Type} {userID : ℤ} {x : LoginPhase}

theorem noMore_endSessions (p : UserSession → Bool) (now : ℤ) (reason : String) (s : Store) :
    NoMore userID s (s.endSessions p now reason) := by
  refine ⟨rfl, fun t => Table.count_modify_le _ p (·.revoked now reason) (fun _ => rfl) fun r hr => ?_,
    fun t => Table.count_modify_le _ p (·.revoked now reason) (fun _ => rfl) fun r hr => ?_⟩
  · cases (of_decide_eq_true hr).2.1
  · exact hr

theorem noMore_of_userKeys {s s' : Store} (h : UserKeys s s') : NoMore userID s s' := by
  obtain ⟨_, _, _, rfl⟩ := h
  exact .of_eq rfl rfl

theorem noMore_of_sessionKeys {s s' : Store} (h : SessionKeys s s') : NoMore userID s s' := by
  obtain ⟨_, rfl⟩ := h
  exact .of_eq rfl rfl

theorem noMore_refl (s : Store) : NoMore userID s s := .of_eq rfl rfl

theorem only_revokeUserSession (userID' : ℤ) (sid reason : String) :
    Only (NoMore userID) (revokeUserSession (ρ := ρ) userID' sid reason) := by
  have hwrite : ∀ entry, Only (NoMore userID) (writeUserSessionCache (ρ := ρ) entry none) :=
    fun entry => (only_writeUserSessionCache entry none).mono fun _ _ _ => noMore_of_sessionKeys
  unfold revokeUserSession
  split
  · exact only_pure _
  have hread : ∀ {α : Type} {l : Label} {g : Store → α}, Only (NoMore userID) (observe l g : Program _ _ ρ α) :=
    only_observe noMore_refl
  refine hread.bind fun now => hread.bind fun candidate => ?_
  split
  · exact only_pure _
  split
  · exact only_pure _
  refine (hwrite _).bind fun r => ?_
  split
  · exact only_pure _
  refine (only_access fun s => ?_).bind fun r => ?_
  · unfold revokeTx
    split
    · exact noMore_refl s
    split
    · exact noMore_endSessions _ _ _ s
    · exact noMore_refl s
  split
  · exact only_pure _
  · exact only_pure _
  · exact (hwrite _).bind fun _ => only_pure _

variable [Tokens]

omit [Tokens] in
theorem leads_quiet {α : Type} {p : Program Store Label ρ α} (h : Only (NoMore userID) p) :
    Leads (loginMachine userID) p x fun _ x' => x' = x :=
  h.leads fun _ _ hn => .quiet hn

omit [Tokens] in
theorem leads_createUserSession {session : UserSession} {now : ℤ} (hnow : now ≠ 0) (hcreated : session.createdAt = now) :
    Leads (loginMachine userID) (createUserSession (ρ := ρ) session) (.cleared now) fun _ x' => x' = .idle := by
  have hwrite : ∀ entry deadline, Only (NoMore userID) (writeUserSessionCache (ρ := ρ) entry deadline) :=
    fun entry deadline => (only_writeUserSessionCache entry deadline).mono fun _ _ _ => noMore_of_sessionKeys
  unfold createUserSession
  refine leads_observe_bind fun s => ?_
  split
  · exact ⟨.idle, .leave (noMore_refl s), leads_pure rfl⟩
  split
  · exact ⟨.idle, .leave (noMore_refl s), leads_pure rfl⟩
  refine ⟨.cleared now, .quiet (noMore_refl s), leads_observe_bind fun s1 => ⟨.cleared now, .quiet (noMore_refl s1), ?_⟩⟩
  refine leads_access_bind fun s2 _ => ⟨.idle, ?_, ?_⟩
  · unfold insertSession
    cases h : s2.db.sessions.insert (session.completed s.unix) with
    | none => exact .leave (noMore_refl s2)
    | some =>
      refine .insert h ?_
      show (if session.createdAt = 0 then s.unix else session.createdAt) = now
      rw [if_neg (hcreated ▸ hnow), hcreated]
  split
  · exact leads_pure rfl
  refine (leads_quiet (hwrite _ _)).bind fun r x' hx => ?_
  subst hx
  split
  · exact leads_quiet ((only_confirm _).mono fun _ s _ h => h ▸ noMore_refl s)
  · exact leads_pure rfl
  · exact leads_pure rfl

omit [Tokens] in
theorem leads_countActiveUserSessions (now : ℤ) :
    Leads (loginMachine userID) (countActiveUserSessions (ρ := ρ) userID now) (.timed now) fun r x' =>
      (∃ e, r = .error e) ∧ x'.Ends ∨ ∃ n, r = .ok n ∧ 0 < userID ∧
        (n < userSessionActiveLimit ∧ 0 < now - userSessionIssuanceWindowSeconds ∧
            x' = .counted now ∨
          (userSessionActiveLimit ≤ n ∨ now - userSessionIssuanceWindowSeconds ≤ 0) ∧ x' = .idle) := by
  unfold countActiveUserSessions
  split
  · exact leads_pure (.inl ⟨⟨_, rfl⟩, rfl⟩)
  next hpos =>
    refine leads_observe_bind fun s => ?_
    by_cases h : (activeSessionsAt userID now s : ℤ) < userSessionActiveLimit ∧
        0 < now - userSessionIssuanceWindowSeconds
    · exact ⟨.counted now, .count h.1, leads_pure (.inr ⟨_, rfl, not_le.mp hpos, .inl ⟨h.1, h.2, rfl⟩⟩)⟩
    · refine ⟨.idle, .leave (noMore_refl s), leads_pure (.inr ⟨_, rfl, not_le.mp hpos, .inr ⟨?_, rfl⟩⟩)⟩
      by_cases hlt : (activeSessionsAt userID now s : ℤ) < userSessionActiveLimit
      · exact .inr (not_lt.mp fun hw => h ⟨hlt, hw⟩)
      · exact .inl (not_lt.mp hlt)

omit [Tokens] in
theorem leads_countUserSessionsCreatedSince {now : ℤ} (hpos : 0 < userID)
    (hwindow : 0 < now - userSessionIssuanceWindowSeconds) :
    Leads (loginMachine userID)
      (countUserSessionsCreatedSince (ρ := ρ) userID (now - userSessionIssuanceWindowSeconds)) (.counted now)
      fun r x' => ∃ n, r = .ok n ∧ (n < userSessionIssuanceLimit ∧ x' = .cleared now ∨
        userSessionIssuanceLimit ≤ n ∧ x' = .idle) := by
  unfold countUserSessionsCreatedSince
  rw [if_neg (by omega)]
  refine leads_observe_bind fun s => ?_
  by_cases h : ((s.db.sessions.count fun r => now - userSessionIssuanceWindowSeconds < r.createdAt ∧
      (0 < userID → r.userID = userID) : ℕ) : ℤ) < userSessionIssuanceLimit
  · refine ⟨.cleared now, .clear fun t _ ht => lt_of_le_of_lt ?_ h, leads_pure ⟨_, rfl, .inl ⟨h, rfl⟩⟩⟩
    refine Int.ofNat_le.mpr (countP_mono_left fun r _ hr => ?_)
    obtain ⟨hid, _, _⟩ := of_decide_eq_true hr
    exact decide_eq_true ⟨by omega, fun _ => hid⟩
  · exact ⟨.idle, .leave (noMore_refl s), leads_pure ⟨_, rfl, .inr ⟨not_lt.mp h, rfl⟩⟩⟩

/-- **Every login follows the machine.** -/
theorem leads_createLoginSession (expectedAuthVersion : ℤ) (loginMethod ip userAgent sid refreshSecret : String) :
    Leads (loginMachine userID)
      (createLoginSession (ρ := ρ) userID expectedAuthVersion loginMethod ip userAgent sid refreshSecret) .idle
      fun _ x' => x'.Ends := by
  unfold createLoginSession
  refine (leads_quiet ((only_getUserCache userID).mono fun _ _ _ => noMore_of_userKeys)).bind fun r x hx => ?_
  subst hx
  split
  · exact leads_pure rfl
  next user =>
    split
    · exact leads_pure rfl
    split
    · exact leads_pure rfl
    refine leads_observe_bind fun s => ⟨_, .time, ?_⟩
    refine (leads_countActiveUserSessions s.unix).bind fun r x hx => ?_
    rcases hx with ⟨⟨e, rfl⟩, hx⟩ | ⟨n, rfl, hpos, ⟨hn, hwindow, rfl⟩ | ⟨hn, rfl⟩⟩
    · exact leads_pure hx
    · dsimp only
      rw [if_neg (not_le.mpr hn)]
      refine (leads_countUserSessionsCreatedSince hpos hwindow).bind fun r x hx => ?_
      obtain ⟨m, rfl, ⟨hm, rfl⟩ | ⟨hm, rfl⟩⟩ := hx
      · dsimp only
        rw [if_neg (not_le.mpr hm)]
        have hnow : s.unix ≠ 0 := by
          have := window_pos
          omega
        refine (leads_createUserSession hnow rfl).bind fun r x hx => ?_
        subst hx
        split
        · exact leads_pure rfl
        unfold issueAuthBundle
        dsimp only
        split
        · exact (leads_quiet (only_revokeUserSession _ _ _)).bind fun _ x hx => hx ▸ leads_pure rfl
        refine leads_observe_bind fun s => ⟨.idle, .quiet (noMore_refl s), leads_pure rfl⟩
      · dsimp only
        rw [if_pos hm]
        exact leads_pure rfl
    · dsimp only
      split
      · exact leads_pure rfl
      next hlt =>
        have hle : s.unix - userSessionIssuanceWindowSeconds ≤ 0 := hn.resolve_left hlt
        unfold countUserSessionsCreatedSince
        rw [if_pos (.inr hle)]
        exact leads_pure rfl

/-! ## Runs -/

structure LoginCall where
  expectedAuthVersion : ℤ := 0
  loginMethod : String
  ip : String
  userAgent : String
  sid : String
  refreshSecret : String

def LoginCall.body (userID : ℤ) (c : LoginCall) : Process Store Label (Except AuthErr AuthBundle) :=
  createLoginSession userID c.expectedAuthVersion c.loginMethod c.ip c.userAgent c.sid c.refreshSecret .done

/-- One move of the account server. -/
def loginStep (userID : ℤ) : System Store Label (Except AuthErr AuthBundle) → Move LoginCall Outside →
    System Store Label (Except AuthErr AuthBundle) :=
  Concurrent.step (LoginCall.body userID) Outside.apply

omit [Tokens] in
/-- Sessions that exist, together with logins that have passed a count, exceed a limit by at most `k`. -/
structure LoginBounds (userID : ℤ) (k : ℕ) (s : Store) (g : List LoginPhase) : Prop where
  timed : ∀ now, .timed now ∈ g → now ≤ s.unix
  active : (activeSessions userID s : ℤ) + g.countP LoginPhase.held ≤ userSessionActiveLimit + k
  window : ∀ t, (windowSessions userID t s : ℤ) + g.countP (LoginPhase.clearedIn t) ≤
    userSessionIssuanceLimit + k

omit [Tokens] [Settings] in
theorem activeSessionsAt_anti {now now' : ℤ} {s s' : Store} (h : now ≤ now') (hrows : s'.db.sessions = s.db.sessions) :
    activeSessionsAt userID now' s' ≤ activeSessionsAt userID now s := by
  rw [activeSessionsAt, hrows]
  refine countP_mono_left fun r _ hr => ?_
  obtain ⟨hid, hst, hx⟩ := of_decide_eq_true hr
  exact decide_eq_true ⟨hid, hst, lt_of_le_of_lt h hx⟩

omit [Tokens] in
theorem LoginBounds.outside {k : ℕ} {s : Store} {g : List LoginPhase} (h : LoginBounds userID k s g) (e : Outside) :
    LoginBounds userID k (e.apply s) g := by
  have hrows : (e.apply s).db.sessions = s.db.sessions := by cases e <;> rfl
  have hunix : s.unix ≤ (e.apply s).unix := by
    cases e with
    | pass => exact Int.ofNat_le.mpr (Nat.div_le_div_right (Nat.le_add_right _ _))
    | invalidateUserCache => exact le_rfl
  refine ⟨fun now hn => (h.timed now hn).trans hunix, ?_, fun t => ?_⟩
  · have hle : activeSessions userID (e.apply s) ≤ activeSessions userID s := activeSessionsAt_anti hunix hrows
    have := h.active
    omega
  · rw [windowSessions, hrows]
    exact h.window t

omit [Tokens] [Settings] in
theorem countP_set_add {g : List LoginPhase} {n : ℕ} {x : LoginPhase} (hx : g[n]? = some x) (x' : LoginPhase)
    (p : LoginPhase → Bool) :
    (g.set n x').countP p + (if p x then 1 else 0) = g.countP p + if p x' then 1 else 0 := by
  obtain ⟨hn, rfl⟩ := List.getElem?_eq_some_iff.mp hx
  rw [countP_set hn]
  by_cases hp : p g[n] = true
  · have hpos : 0 < g.countP p := countP_pos_iff.mpr ⟨g[n], getElem_mem hn, hp⟩
    rw [if_pos hp]
    omega
  · rw [if_neg hp]
    omega

omit [Tokens] in
theorem LoginBounds.step {k n : ℕ} {s s' : Store} {g : List LoginPhase} {x x' : LoginPhase} (h : LoginBounds userID k s g)
    (hx : g[n]? = some x) (hstep : LoginStep userID s x s' x') (hk : (g.set n x').countP LoginPhase.held ≤ k + 1) :
    LoginBounds userID k s' (g.set n x') := by
  have hheld := countP_set_add hx x' LoginPhase.held
  have hin := fun t => countP_set_add hx x' (LoginPhase.clearedIn t)
  have hmem : x ∈ g := mem_of_getElem? hx
  have htimed (hunix : s'.unix = s.unix) (hnew : ∀ now, .timed now = x' → now ≤ s.unix) :
      ∀ now, .timed now ∈ g.set n x' → now ≤ s'.unix := by
    intro now hn
    rw [hunix]
    rcases mem_or_eq_of_mem_set hn with hn | hn
    · exact h.timed now hn
    · exact hnew now hn
  cases hstep with
  | quiet hno =>
    have hunix : s'.unix = s.unix := by rw [Store.unix, hno.clock, Store.unix]
    refine ⟨htimed hunix fun now hn => h.timed now (hn ▸ hmem), ?_, fun t => ?_⟩
    · have := hno.active s.unix
      have := h.active
      unfold activeSessions at this ⊢
      rw [hunix]
      omega
    · have := hno.window t
      have := h.window t
      have := hin t
      omega
  | leave hno =>
    have hunix : s'.unix = s.unix := by rw [Store.unix, hno.clock, Store.unix]
    refine ⟨htimed hunix (by simp), ?_, fun t => ?_⟩
    · have := hno.active s.unix
      have := h.active
      unfold activeSessions at this ⊢
      rw [hunix]
      simp only [LoginPhase.held_idle, Bool.false_eq_true, if_false] at hheld
      omega
    · have := hno.window t
      have := h.window t
      have := hin t
      simp only [LoginPhase.clearedIn_idle, Bool.false_eq_true, if_false] at this
      omega
  | time =>
    refine ⟨htimed rfl (by simp), ?_, fun t => ?_⟩
    · have := h.active
      simp at hheld
      omega
    · have := h.window t
      have := hin t
      simp at this
      omega
  | @count now =>
    refine ⟨htimed rfl (by simp), ?_, fun t => ?_⟩
    · have hle : activeSessions userID s ≤ activeSessionsAt userID now s :=
        activeSessionsAt_anti (h.timed now hmem) rfl
      omega
    · have := h.window t
      have := hin t
      simp at this
      omega
  | @clear now hlt =>
    refine ⟨htimed rfl (by simp), ?_, fun t => ?_⟩
    · have := h.active
      simp at hheld
      omega
    · by_cases ht : t - userSessionIssuanceWindowSeconds < now ∧ now ≤ t
      · have hcount := hlt t ht.1 ht.2
        have hsub : (g.set n (.cleared now)).countP (LoginPhase.clearedIn t) ≤
            (g.set n (.cleared now)).countP LoginPhase.held :=
          countP_mono_left fun y _ hy => by cases y <;> first | rfl | cases hy
        omega
      · have := h.window t
        have hout := hin t
        rw [LoginPhase.clearedIn_counted, if_neg (by decide), if_neg fun hc => ht ((LoginPhase.clearedIn_cleared t now).mp hc)] at hout
        omega
  | @insert now row sessions hins hcreated =>
    have hcount : ∀ q, (sessions.count q) = s.db.sessions.count q + if q row then 1 else 0 :=
      fun q => Table.count_insert hins q
    refine ⟨htimed rfl (by simp), ?_, fun t => ?_⟩
    · have := h.active
      have hact : activeSessions userID { s with db := { s.db with sessions } } ≤ activeSessions userID s + 1 := by
        unfold activeSessions activeSessionsAt
        rw [hcount]
        split_ifs
        · exact le_rfl
        · exact Nat.le_succ _
      simp only [LoginPhase.held_cleared, LoginPhase.held_idle, Bool.false_eq_true, if_true, if_false] at hheld
      omega
    · have := h.window t
      have hout := hin t
      have hwin : windowSessions userID t { s with db := { s.db with sessions } } ≤ windowSessions userID t s +
          if t - userSessionIssuanceWindowSeconds < now ∧ now ≤ t then 1 else 0 := by
        unfold windowSessions
        rw [hcount]
        subst hcreated
        by_cases ht : t - userSessionIssuanceWindowSeconds < row.createdAt ∧ row.createdAt ≤ t
        · rw [if_pos ht]
          split_ifs <;> omega
        · rw [if_neg ht, if_neg]
          simp only [decide_eq_true_eq]
          exact fun hr => ht hr.2
      simp only [LoginPhase.clearedIn_cleared, LoginPhase.clearedIn_idle, Bool.false_eq_true, if_false] at hout
      omega

theorem loginBounds_run (store : Store) (k : ℕ) (hactive : (activeSessions userID store : ℤ) ≤ userSessionActiveLimit)
    (hwindow : ∀ t, (windowSessions userID t store : ℤ) ≤ userSessionIssuanceLimit)
    (l : List (Move LoginCall Outside))
    (hl : Runs.Along (loginStep userID) (fun s m => (loginStep userID s m).busy ≤ k + 1) ⟨store, []⟩ l) :
    ∃ g, LoginBounds userID k (Runs.run (loginStep userID) ⟨store, []⟩ l).store g := by
  have hbody : ∀ c : LoginCall, Concurrent.Follows (loginMachine userID) (c.body userID) .idle := fun c =>
    leads_createLoginSession _ _ _ _ _ _ _ fun _ _ hx => hx
  have hrun : ∃ g, Matches (loginMachine userID) (Runs.run (loginStep userID) ⟨store, []⟩ l) g ∧
      LoginBounds userID k (Runs.run (loginStep userID) ⟨store, []⟩ l).store g := by
    refine Runs.run_invariant_along (I := fun s => ∃ g, Matches (loginMachine userID) s g ∧
      LoginBounds userID k s.store g) (fun s m hs hk => ?_) ⟨[], .nil, fun _ h => (by cases h), ?_, fun t => ?_⟩ hl
    · obtain ⟨g, hm, hb⟩ := hs
      obtain ⟨g', hm', hstep⟩ := hm.step hbody
        (admitted_of_forall (fun _ _ => trivial) (fun _ _ => trivial) (fun _ _ => trivial) s m)
      refine ⟨g', hm', ?_⟩
      cases hstep with
      | move n x x' hx hR => exact hb.step hx hR ((hm'.countP_le_busy fun _ he => he).trans hk)
      | split n x y x' _ _ hR => exact hR.elim
      | event e hstore => rw [loginStep, hstore]; exact hb.outside e
      | idle hstore => rw [loginStep, hstore]; exact hb
      | start hstore =>
        rw [loginStep, hstore]
        refine ⟨fun now hn => ?_, ?_, fun t => ?_⟩
        · rcases mem_append.mp hn with hn | hn
          · exact hb.timed now hn
          · cases mem_singleton.mp hn
        · rw [countP_append]
          exact hb.active
        · rw [countP_append]
          exact hb.window t
    · simp only [countP_nil, Nat.cast_zero]
      omega
    · have := hwindow t
      simp only [countP_nil, Nat.cast_zero]
      omega
  obtain ⟨g, _, hb⟩ := hrun
  exact ⟨g, hb⟩

/-- **In every interleaving of logins of one user in which at most `k` other logins are ever in flight with one,
the unexpired active sessions exceed their limit by at most `k`, and so do the sessions of any issuance window.**
In particular the limits hold where logins do not overlap. -/
theorem session_limits_hold_up_to_overlap (userID : ℤ) (store : Store) (k : ℕ)
    (hactive : (activeSessions userID store : ℤ) ≤ userSessionActiveLimit)
    (hwindow : ∀ t, (windowSessions userID t store : ℤ) ≤ userSessionIssuanceLimit)
    (l : List (Move LoginCall Outside))
    (hl : Runs.Along (loginStep userID) (fun s m => (loginStep userID s m).busy ≤ k + 1) ⟨store, []⟩ l) :
    (activeSessions userID (Runs.run (loginStep userID) ⟨store, []⟩ l).store : ℤ) ≤
      userSessionActiveLimit + k ∧
    ∀ t, (windowSessions userID t (Runs.run (loginStep userID) ⟨store, []⟩ l).store : ℤ) ≤
      userSessionIssuanceLimit + k := by
  obtain ⟨g, hb⟩ := loginBounds_run store k hactive hwindow l hl
  refine ⟨?_, fun t => ?_⟩
  · have := hb.active
    omega
  · have := hb.window t
    omega

end Machine

/-- Digests that keep their text. -/
@[reducible] def sampleTokens : Tokens := { hmac := fun purpose text => purpose ++ ":" ++ text, uuidParses := fun _ => true }

def sampleLogin (sid : String) : LoginCall :=
  { loginMethod := "password", ip := "", userAgent := "", sid, refreshSecret := sid }

theorem one_login_keeps_limits :
    let store := sampleStore { id := 1, email := "a@b.c", emailVerifiedAt := 0, inviterId := 0 }
    let login : List (Move LoginCall Outside) := .start (sampleLogin "a") :: .replicate 12 (.run 0)
    let s := Runs.run (@loginStep sampleSettings sampleTokens 1) ⟨store, []⟩ login
    activeSessions 1 s.store = 1 ∧ (activeSessions 1 s.store : ℤ) ≤ sampleSettings.userSessionActiveLimit + (0 : ℕ) := by
  intro store login s
  have hrun : activeSessions 1 s.store = 1 ∧ Runs.Along (@loginStep sampleSettings sampleTokens 1)
      (fun s m => (@loginStep sampleSettings sampleTokens 1 s m).busy ≤ 0 + 1) ⟨store, []⟩ login := by decide
  refine ⟨hrun.1, ?_⟩
  exact (@session_limits_hold_up_to_overlap sampleSettings sampleTokens 1 store 0 (by decide)
    (fun t => (by decide : (0 : ℤ) ≤ 1)) login hrun.2).1

theorem overlapping_logins_exceed_limits :
    let store := sampleStore { id := 1, email := "a@b.c", emailVerifiedAt := 0, inviterId := 0 }
    let logins : List (Move LoginCall Outside) := .start (sampleLogin "a") :: .start (sampleLogin "b") ::
      .replicate 7 (.run 0) ++ .replicate 12 (.run 1) ++ .replicate 5 (.run 0)
    let s := Runs.run (@loginStep sampleSettings sampleTokens 1) ⟨store, []⟩ logins
    (activeSessions 1 store : ℤ) ≤ sampleSettings.userSessionActiveLimit ∧
      sampleSettings.userSessionActiveLimit < activeSessions 1 s.store ∧
      sampleSettings.userSessionIssuanceLimit < @windowSessions sampleSettings 1 s.store.unix s.store := by
  decide

end Desktop2Stereo
