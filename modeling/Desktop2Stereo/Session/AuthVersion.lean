import Desktop2Stereo.Session.Frames

/-!
# A security change that has returned

A change of a user's security state raises the version of the user's row and, before it returns, the permanent
floor in Redis. Readers take a cached hash only at or above the floor. Fills may be delayed for as long as they
like, hashes and fences may expire, other changes may run or be rolled back, and the rows and keys of sessions
may change in any way.

* `VersionCall`, `VersionEvent`, `versionProtocol`: neither the version of a row nor the floor ever falls;
* **`bumped_version_is_final`**: later reads and later validations see the version of a change that has returned.
-/

namespace Desktop2Stereo

open Relational Concurrent Expiring

/-! ## The system -/

inductive VersionCall
  | getUserCache (userId : ℤ)
  | bumpUserAuthVersion (userId : ℤ) (commits : Bool)
  | publishUserAuthCache (userId : ℤ)
  | publishCommittedUserAuthVersion (userId authVersion : ℤ)
  | updateUserCacheField (userId : ℤ) (field : UserField)
  | validateLoginSession (identity : AuthIdentity)

/-- What a call returns, with what it was asked. -/
inductive VersionAnswer
  | user (userId : ℤ) (r : Except AuthErr UserBase)
  | bumped (userId : ℤ) (r : Except AuthErr ℤ)
  | written (r : Except AuthErr Unit)
  | validated (identity : AuthIdentity) (r : Except AuthErr (UserSession × UserBase))
  deriving DecidableEq

/-- What happens outside these calls: time, evictions, and whatever happens to sessions. -/
inductive VersionEvent
  | outside (x : Outside)
  | sessions (rows : Table UserSession) (hashes : String → Cell SessionEntry)

def VersionEvent.apply : VersionEvent → Store → Store
  | .outside x, s => x.apply s
  | .sessions rows hashes, s => { s with db := { s.db with sessions := rows }, sessionHashes := hashes }

def VersionCall.body [Settings] : VersionCall → Process Store Label VersionAnswer
  | .getUserCache userId => Desktop2Stereo.getUserCache userId fun r => .done (.user userId r)
  | .bumpUserAuthVersion userId commits =>
    Desktop2Stereo.bumpUserAuthVersion userId commits fun r => .done (.bumped userId r)
  | .publishUserAuthCache userId => Desktop2Stereo.publishUserAuthCache userId fun r => .done (.written r)
  | .publishCommittedUserAuthVersion userId authVersion =>
    Desktop2Stereo.publishCommittedUserAuthVersion userId authVersion fun r => .done (.written r)
  | .updateUserCacheField userId field => Desktop2Stereo.updateUserCacheField userId field fun r => .done (.written r)
  | .validateLoginSession identity =>
    Desktop2Stereo.validateLoginSession identity fun r => .done (.validated identity r)

/-! ## Floors and rows -/

def PermanentFloors (s : Store) : Prop := ∀ userId, (s.authVersions userId).Lasting

/-- No floor falls, and no row is lost or falls back to an earlier version. -/
structure VersionsGrow (s s' : Store) : Prop where
  floor : ∀ userId, s.floor userId ≤ s'.floor userId
  row : ∀ userId u, s.db.users.get? userId = some u →
    ∃ u', s'.db.users.get? userId = some u' ∧ u.authVersion ≤ u'.authVersion

theorem VersionsGrow.refl (s : Store) : VersionsGrow s s := ⟨fun _ => le_rfl, fun _ u hu => ⟨u, hu, le_rfl⟩⟩

theorem VersionsGrow.trans {a b c : Store} (h : VersionsGrow a b) (h' : VersionsGrow b c) : VersionsGrow a c := by
  refine ⟨fun userId => (h.floor userId).trans (h'.floor userId), fun userId u hu => ?_⟩
  obtain ⟨u', hu', hle⟩ := h.row userId u hu
  obtain ⟨u'', hu'', hle'⟩ := h'.row userId u' hu'
  exact ⟨u'', hu'', hle.trans hle'⟩

def versionProtocol : Protocol Store Label where
  inv := PermanentFloors
  rely := VersionsGrow
  admits _ _ := True
  refl := .refl
  trans := .trans

def Advanced (userId n : ℤ) (s : Store) : Prop :=
  n ≤ s.floor userId ∧ ∃ u, s.db.users.get? userId = some u ∧ n ≤ u.authVersion

theorem Advanced.later {userId n : ℤ} {s s' : Store} (h : Advanced userId n s) (hr : VersionsGrow s s') :
    Advanced userId n s' := by
  obtain ⟨u, hu, hn⟩ := h.2
  obtain ⟨u', hu', hle⟩ := hr.row userId u hu
  exact ⟨h.1.trans (hr.floor userId), u', hu', hn.trans hle⟩

theorem versionsGrow_of_eq {s s' : Store} (hu : s'.db.users = s.db.users) (hv : s'.authVersions = s.authVersions)
    (hi : PermanentFloors s) : PermanentFloors s' ∧ VersionsGrow s s' := by
  refine ⟨fun userId => hv ▸ hi userId, fun userId => le_of_eq ?_, fun userId u h => ⟨u, hu ▸ h, le_rfl⟩⟩
  unfold Store.floor
  rw [hv, (hi userId).get_eq s.ms s'.ms]

/-! ## The scripts -/

section Scripts

variable {s s' : Store} {userId incoming : ℤ}

theorem setFloor_grows (hi : PermanentFloors s) (h : s.floor userId ≤ incoming) :
    PermanentFloors (s.setFloor userId (.forever incoming)) ∧
      VersionsGrow s (s.setFloor userId (.forever incoming)) := by
  refine ⟨fun v => ?_, fun v => ?_, fun v u hu => ⟨u, hu, le_rfl⟩⟩
  · by_cases hv : v = userId
    · subst hv
      simp [Store.setFloor, Cell.Lasting]
    · simp only [Store.setFloor, Function.update_of_ne hv]
      exact hi v
  · by_cases hv : v = userId
    · subst hv
      simpa [Store.floor, Store.setFloor] using h
    · simp only [Store.floor, Store.setFloor, Function.update_of_ne hv, Store.ms]
      exact le_rfl

theorem evalPublishCommitted_grows (userId incoming : ℤ) (hi : PermanentFloors s) :
    PermanentFloors (evalPublishCommitted userId incoming s) ∧ VersionsGrow s (evalPublishCommitted userId incoming s) ∧
      incoming ≤ (evalPublishCommitted userId incoming s).floor userId := by
  have hf : PermanentFloors (if s.floor userId < incoming then s.setFloor userId (.forever incoming) else s) ∧
      VersionsGrow s (if s.floor userId < incoming then s.setFloor userId (.forever incoming) else s) ∧
      incoming ≤ (if s.floor userId < incoming then s.setFloor userId (.forever incoming) else s).floor userId := by
    by_cases hlt : s.floor userId < incoming
    · rw [if_pos hlt]
      obtain ⟨hi', hg⟩ := setFloor_grows hi hlt.le
      exact ⟨hi', hg, by simp [Store.floor, Store.setFloor]⟩
    · rw [if_neg hlt]
      exact ⟨hi, .refl s, not_lt.mp hlt⟩
  unfold evalPublishCommitted
  dsimp only
  split
  · exact ⟨hf.1, ⟨hf.2.1.floor, hf.2.1.row⟩, hf.2.2⟩
  · exact hf

theorem admitVersion_grows (h : admitVersion userId incoming s = some s') (hi : PermanentFloors s) :
    PermanentFloors s' ∧ VersionsGrow s s' ∧ incoming ≤ s'.floor userId := by
  unfold admitVersion at h
  dsimp only at h
  split at h
  · cases h
  · rw [← Option.some.inj h]
    exact evalPublishCommitted_grows userId incoming hi

variable [Settings]

theorem evalWriteUserCache_grows (user : UserBase) (includeQuota : Bool) (hi : PermanentFloors s) :
    PermanentFloors (evalWriteUserCache user includeQuota s).2 ∧
      VersionsGrow s (evalWriteUserCache user includeQuota s).2 ∧
      ((evalWriteUserCache user includeQuota s).1 = true →
        user.authVersion ≤ (evalWriteUserCache user includeQuota s).2.floor user.id) := by
  unfold evalWriteUserCache
  cases h : admitVersion user.id user.authVersion s with
  | none => exact ⟨hi, .refl s, fun hf => (by cases hf)⟩
  | some =>
    obtain ⟨hi', hg, hf⟩ := admitVersion_grows h hi
    dsimp only
    split
    · exact ⟨hi', hg, fun _ => hf⟩
    · exact ⟨hi', ⟨hg.floor, hg.row⟩, fun _ => hf⟩

omit [Settings] in
theorem evalUpdateField_grows (field : UserField) (authVersion : ℤ) (hi : PermanentFloors s) :
    PermanentFloors (evalUpdateField userId field authVersion s).2 ∧
      VersionsGrow s (evalUpdateField userId field authVersion s).2 := by
  unfold evalUpdateField
  cases h : admitVersion userId authVersion s with
  | none => exact ⟨hi, .refl s⟩
  | some =>
    obtain ⟨hi', hg, _⟩ := admitVersion_grows h hi
    dsimp only
    split
    · exact ⟨hi', hg⟩
    · split
      · exact ⟨hi', hg⟩
      · exact ⟨hi', ⟨hg.floor, hg.row⟩⟩

omit [Settings] in
theorem casAuthVersion_grows (userId : ℤ) {expected next : ℤ} (hle : expected ≤ next) (hi : PermanentFloors s) :
    PermanentFloors (casAuthVersion userId expected next s).2 ∧
      VersionsGrow s (casAuthVersion userId expected next s).2 ∧
      ((casAuthVersion userId expected next s).1 = true →
        ∃ u, (casAuthVersion userId expected next s).2.db.users.get? userId = some u ∧ next ≤ u.authVersion) := by
  unfold casAuthVersion
  cases hu : s.db.users.get? userId with
  | none => exact ⟨hi, .refl s, fun hf => (by cases hf)⟩
  | some u =>
    dsimp only
    split
    next hv =>
      have hget : ∀ v, (s.db.users.modify (·.id = userId) ({ · with authVersion := next }) fun _ => rfl).get? v =
          if userId = v then (s.db.users.get? v).map ({ · with authVersion := next }) else s.db.users.get? v :=
        fun v => Table.get?_modify_pk _ userId (fun r => by simp [pk_ofKey]) v
      refine ⟨hi, ⟨fun _ => le_rfl, fun v r hr => ?_⟩, fun _ => ?_⟩
      · show ∃ u', Table.get? _ v = some u' ∧ _
        rw [hget v]
        by_cases h : userId = v
        · subst h
          rw [if_pos rfl, hr]
          rw [hu] at hr
          cases hr
          exact ⟨_, rfl, hv ▸ hle⟩
        · rw [if_neg h]
          exact ⟨r, hr, le_rfl⟩
      · refine ⟨{ u with authVersion := next }, ?_, le_rfl⟩
        show Table.get? _ userId = _
        rw [hget userId, if_pos rfl, hu]
        rfl
    · exact ⟨hi, .refl s, fun hf => (by cases hf)⟩

theorem evalSetFence_grows (incoming : ℤ) (hi : PermanentFloors s) :
    PermanentFloors (evalSetFence userId incoming s) ∧ VersionsGrow s (evalSetFence userId incoming s) := by
  refine versionsGrow_of_eq ?_ ?_ hi <;> unfold evalSetFence <;> split <;> rfl

end Scripts

/-! ## The calls -/

section Calls

variable {ρ : Type} {s : Store} {userId n : ℤ}

theorem ignores_sessionKeys : versionProtocol.Ignores SessionKeys := by
  rintro s _ ⟨_, rfl⟩ hi
  exact versionsGrow_of_eq rfl rfl hi

theorem ensures_getUserById (hi : versionProtocol.inv s) :
    Ensures versionProtocol (getUserById (ρ := ρ) userId) s fun r s' =>
      ∀ u, r = .ok u → s'.db.users.get? userId = some u := by
  unfold getUserById
  split
  · exact ensures_pure hi fun u hu => (by cases hu)
  refine ensures_observe_bind fun s1 _ hi1 => ?_
  split
  · exact ensures_pure hi1 fun u hu => (by cases hu)
  next hu => exact ensures_pure hi1 fun u h => (by cases h; exact hu)

theorem ensures_cacheGetUserBase :
    Ensures versionProtocol (cacheGetUserBase (ρ := ρ) userId) s fun r _ =>
      ∀ n, Advanced userId n s → ∀ b, r = .ok b → n ≤ b.authVersion := by
  unfold cacheGetUserBase
  refine ensures_observe_bind fun s1 hr1 hi1 => ?_
  split
  · exact ensures_pure hi1 fun n _ b hb => (by cases hb)
  split
  · exact ensures_pure hi1 fun n _ b hb => (by cases hb)
  refine ensures_observe_bind fun s2 hr2 hi2 => ?_
  split
  · exact ensures_pure hi2 fun n _ b hb => (by cases hb)
  next hash _ _ hlt =>
    refine ensures_pure hi2 fun n ha b hb => ?_
    cases hb
    have hfloor : n ≤ s2.floor userId := ((ha.later hr1).later hr2).1
    show n ≤ hash.authVersion
    omega

variable [Settings]

theorem ensures_writeUserCache (user : UserBase) (includeQuota : Bool) (hi : versionProtocol.inv s) :
    Ensures versionProtocol (writeUserCache (ρ := ρ) user includeQuota) s fun r s' =>
      0 < user.id → r = .ok () → user.authVersion ≤ s'.floor user.id := by
  unfold writeUserCache
  split
  next h => exact ensures_pure hi fun h0 => absurd h0 (not_lt.mpr h)
  split
  · exact ensures_pure hi fun _ hr => (by cases hr)
  refine ensures_access_bind fun s1 _ hi1 _ => ?_
  obtain ⟨hi2, hg, hf⟩ := evalWriteUserCache_grows user includeQuota hi1
  refine ⟨hi2, hg, ?_⟩
  split
  next h => exact ensures_pure hi2 fun _ _ => hf h
  · exact ensures_pure hi2 fun _ hr => (by cases hr)

theorem getUserCache_at_least :
    Ensures versionProtocol (getUserCache (ρ := ρ) userId) s fun r _ =>
      ∀ n, Advanced userId n s → ∀ b, r = .ok b → n ≤ b.authVersion := by
  unfold getUserCache
  refine ensures_cacheGetUserBase.bind fun r s1 hr1 hi1 hb => ?_
  split
  next b => exact ensures_pure hi1 fun n ha b' h => (by cases h; exact hb n ha b rfl)
  refine (ensures_getUserById hi1).bind fun r s2 hr2 hi2 hu => ?_
  split
  · exact ensures_pure hi2 fun n _ b h => (by cases h)
  next u =>
    have hn : ∀ n, Advanced userId n s → n ≤ u.authVersion := by
      intro n ha
      obtain ⟨_, hu', hn⟩ := ((ha.later hr1).later hr2).2
      rw [hu u rfl] at hu'
      cases hu'
      exact hn
    refine ensures_observe_bind fun s3 _ hi3 => ?_
    split
    · exact ensures_pure hi3 fun n _ b h => (by cases h)
    refine (ensures_writeUserCache _ _ hi3).bind fun r s4 _ hi4 _ => ?_
    split
    · exact ensures_pure hi4 fun n _ b h => (by cases h)
    · exact ensures_pure hi4 fun n ha b h => (by cases h; exact hn n ha)

theorem validateLoginSession_at_least {identity : AuthIdentity} (hi : versionProtocol.inv s) :
    Ensures versionProtocol (validateLoginSession (ρ := ρ) identity) s fun r _ =>
      ∀ n, Advanced identity.userID n s → ∀ x, r = .ok x → n ≤ identity.userAuthVersion := by
  unfold validateLoginSession
  refine ((only_getUserSessionCached _).ensures ignores_sessionKeys hi).bind fun r s1 hr1 hi1 _ => ?_
  split
  · exact ensures_pure hi1 fun n _ x h => (by cases h)
  · exact ensures_pure hi1 fun n _ x h => (by cases h)
  refine ensures_observe_bind fun s2 hr2 hi2 => ?_
  split
  · exact ensures_pure hi2 fun n _ x h => (by cases h)
  refine getUserCache_at_least.bind fun r s3 _ hi3 hb => ?_
  split
  · exact ensures_pure hi3 fun n _ x h => (by cases h)
  split
  · exact ensures_pure hi3 fun n _ x h => (by cases h)
  next b hc =>
    refine ensures_pure hi3 fun n ha x _ => ?_
    have hv : b.authVersion = identity.userAuthVersion := not_not.mp (not_or.mp hc).2
    exact hv ▸ hb n ((ha.later hr1).later hr2) b rfl

theorem ensures_publishUserAuthCache (hi : versionProtocol.inv s) :
    Ensures versionProtocol (publishUserAuthCache (ρ := ρ) userId) s fun r s' =>
      ∀ n, 0 < userId → (∃ u, s.db.users.get? userId = some u ∧ n ≤ u.authVersion) → r = .ok () →
        Advanced userId n s' := by
  unfold publishUserAuthCache
  refine (ensures_getUserById hi).bind fun r s1 hr1 hi1 hu => ?_
  split
  · exact ensures_pure hi1 fun n _ _ h => (by cases h)
  next user =>
    refine (ensures_writeUserCache user.toBaseUser false hi1).imp fun r s2 hr2 _ hf n hpos hn hr => ?_
    have hid : user.id = userId := (Table.get?_eq_some.mp (hu user rfl)).2
    obtain ⟨u, hu0, hnu⟩ := hn
    obtain ⟨_, hu', hle⟩ := hr1.row userId u hu0
    rw [hu user rfl] at hu'
    cases hu'
    obtain ⟨u2, hu2, hle2⟩ := hr2.row userId user (hu user rfl)
    have hfloor : user.authVersion ≤ s2.floor user.id := hf (by rw [← hid] at hpos; exact hpos) hr
    rw [hid] at hfloor
    exact ⟨(hnu.trans hle).trans hfloor, u2, hu2, (hnu.trans hle).trans hle2⟩

theorem ensures_setUserAuthVersionFence (authVersion : ℤ) (hi : versionProtocol.inv s) :
    Ensures versionProtocol (setUserAuthVersionFence (ρ := ρ) userId authVersion) s fun _ _ => True := by
  unfold setUserAuthVersionFence
  split
  · exact ensures_pure hi trivial
  refine ensures_access_bind fun s1 _ hi1 _ => ?_
  obtain ⟨hi2, hg⟩ := evalSetFence_grows authVersion hi1
  exact ⟨hi2, hg, ensures_pure hi2 trivial⟩

theorem ensures_incrementUserAuthVersion (commits : Bool) (fuel : ℕ) (hi : versionProtocol.inv s) :
    Ensures versionProtocol (incrementUserAuthVersion (ρ := ρ) userId commits fuel) s fun r s' =>
      ∀ n, r = .ok n → ∃ u, s'.db.users.get? userId = some u ∧ n ≤ u.authVersion := by
  induction fuel generalizing s with
  | zero => exact ensures_pure hi fun n h => (by cases h)
  | succ fuel ih =>
    unfold incrementUserAuthVersion
    refine ensures_observe_bind fun s1 _ hi1 => ?_
    split
    · exact ensures_pure hi1 fun n h => (by cases h)
    next user _ =>
      refine (ensures_setUserAuthVersionFence _ hi1).bind fun r s2 _ hi2 _ => ?_
      split
      · exact ensures_pure hi2 fun n h => (by cases h)
      split
      · exact ensures_pure hi2 fun n h => (by cases h)
      refine ensures_access_bind fun s3 _ hi3 _ => ?_
      have hle : user.authVersion ≤ max user.authVersion 1 + 1 := by omega
      obtain ⟨hi4, hg, hrow⟩ := casAuthVersion_grows userId hle hi3
      refine ⟨hi4, hg, ?_⟩
      split
      next h => exact ensures_pure hi4 fun n hn => (by cases hn; exact hrow h)
      · exact ih hi4

theorem bump_advances (commits : Bool) (hi : versionProtocol.inv s) :
    Ensures versionProtocol (bumpUserAuthVersion (ρ := ρ) userId commits) s fun r s' =>
      ∀ n, r = .ok n → Advanced userId n s' := by
  unfold bumpUserAuthVersion
  split
  · exact ensures_pure hi fun n h => (by cases h)
  next hpos =>
    refine (ensures_incrementUserAuthVersion commits 3 hi).bind fun r s1 _ hi1 hrow => ?_
    split
    · exact ensures_pure hi1 fun n h => (by cases h)
    next next =>
      refine (ensures_publishUserAuthCache hi1).bind fun r s2 _ hi2 ha => ?_
      split
      · exact ensures_pure hi2 fun n h => (by cases h)
      · refine ensures_pure hi2 fun n h => ?_
        cases h
        exact ha next (not_le.mp hpos) (hrow next rfl) rfl

omit [Settings] in
theorem ensures_publishCommittedUserAuthVersion (authVersion : ℤ) (hi : versionProtocol.inv s) :
    Ensures versionProtocol (publishCommittedUserAuthVersion (ρ := ρ) userId authVersion) s fun _ _ => True := by
  unfold publishCommittedUserAuthVersion
  split
  · exact ensures_pure hi trivial
  refine ensures_access_bind fun s1 _ hi1 _ => ?_
  obtain ⟨hi2, hg, _⟩ := evalPublishCommitted_grows userId authVersion hi1
  exact ⟨hi2, hg, ensures_pure hi2 trivial⟩

omit [Settings] in
theorem ensures_updateUserCacheField (field : UserField) :
    Ensures versionProtocol (updateUserCacheField (ρ := ρ) userId field) s fun _ _ => True := by
  unfold updateUserCacheField
  refine ensures_observe_bind fun s1 _ hi1 => ?_
  split
  · exact ensures_pure hi1 trivial
  split_ifs
  · exact ensures_pure hi1 trivial
  · exact ensures_pure hi1 trivial
  refine ensures_access_bind fun s2 _ hi2 _ => ?_
  obtain ⟨hi3, hg⟩ := evalUpdateField_grows field _ hi2
  refine ⟨hi3, hg, ?_⟩
  split_ifs <;> exact ensures_pure hi3 trivial

end Calls

/-! ## Runs -/

section Runs

variable [Settings]

/-- What an answer promises at any time from its return on. -/
def VersionAnswer.Promise : VersionAnswer → Store → Prop
  | .bumped userId (.ok n), s => Advanced userId n s
  | _, _ => True

/-- What the answer of a call promises that was started when a user had reached a version. -/
def VersionAnswer.AtLeast (userId n : ℤ) : VersionAnswer → Prop
  | .user userId' (.ok b) => userId' = userId → n ≤ b.authVersion
  | .validated identity (.ok _) => identity.userID = userId → n ≤ identity.userAuthVersion
  | _ => True

omit [Settings] in
theorem VersionEvent.apply_grows {s : Store} (x : VersionEvent) (hi : PermanentFloors s) :
    PermanentFloors (x.apply s) ∧ VersionsGrow s (x.apply s) := by
  cases x with
  | sessions => exact versionsGrow_of_eq rfl rfl hi
  | outside x => cases x <;> exact versionsGrow_of_eq rfl rfl hi

theorem VersionCall.meets {s : Store} (c : VersionCall) (hi : PermanentFloors s) :
    Meets versionProtocol VersionAnswer.Promise c.body s := by
  cases c with
  | getUserCache => exact getUserCache_at_least.meets fun _ _ _ _ _ _ _ _ => trivial
  | bumpUserAuthVersion userId commits =>
    refine (bump_advances commits hi).meets fun r s' _ _ ha s'' hr _ => ?_
    cases r with
    | error => trivial
    | ok n => exact (ha n rfl).later hr
  | publishUserAuthCache => exact (ensures_publishUserAuthCache hi).meets fun _ _ _ _ _ _ _ _ => trivial
  | publishCommittedUserAuthVersion userId authVersion =>
    exact (ensures_publishCommittedUserAuthVersion authVersion hi).meets fun _ _ _ _ _ _ _ _ => trivial
  | updateUserCacheField userId field =>
    exact (ensures_updateUserCacheField field).meets fun _ _ _ _ _ _ _ _ => trivial
  | validateLoginSession => exact (validateLoginSession_at_least hi).meets fun _ _ _ _ _ _ _ _ => trivial

theorem VersionCall.meets_atLeast {s : Store} {userId n : ℤ} (c : VersionCall) (hi : PermanentFloors s)
    (ha : Advanced userId n s) : Meets versionProtocol (fun r _ => r.AtLeast userId n) c.body s := by
  cases c with
  | getUserCache =>
    refine getUserCache_at_least.meets fun r _ _ _ hb _ _ _ => ?_
    cases r with
    | error => trivial
    | ok b => exact fun h => hb n (h ▸ ha) b rfl
  | bumpUserAuthVersion userId' commits => exact (bump_advances commits hi).meets fun _ _ _ _ _ _ _ _ => trivial
  | publishUserAuthCache => exact (ensures_publishUserAuthCache hi).meets fun _ _ _ _ _ _ _ _ => trivial
  | publishCommittedUserAuthVersion userId' authVersion =>
    exact (ensures_publishCommittedUserAuthVersion authVersion hi).meets fun _ _ _ _ _ _ _ _ => trivial
  | updateUserCacheField userId' field =>
    exact (ensures_updateUserCacheField field).meets fun _ _ _ _ _ _ _ _ => trivial
  | validateLoginSession =>
    refine (validateLoginSession_at_least hi).meets fun r _ _ _ hb _ _ _ => ?_
    cases r with
    | error => trivial
    | ok x => exact fun h => hb n (h ▸ ha) x rfl

/-- One move of the account server. -/
def versionStep : System Store Label VersionAnswer → Move VersionCall VersionEvent → System Store Label VersionAnswer :=
  Concurrent.step VersionCall.body VersionEvent.apply

theorem keeps_version : Keeps versionProtocol (fun _ => VersionAnswer.Promise) VersionCall.body VersionEvent.apply
    (fun _ _ => True) (fun _ _ => True) :=
  ⟨fun _ c _ hi _ => c.meets hi, fun _ x hi _ => x.apply_grows hi⟩

theorem along_version (s : System Store Label VersionAnswer) (l : List (Move VersionCall VersionEvent)) :
    Runs.Along versionStep (Admitted versionProtocol.admits (fun _ _ => True) (fun _ _ => True)) s l := by
  exact Runs.Along.of_forall fun s m _ =>
    admitted_of_forall (fun _ _ => trivial) (fun _ _ => trivial) (fun _ _ => trivial) s m

/-- **Once a change of a user's security state has returned a version, no read that starts later returns a
snapshot below it, and no validation that starts later accepts an identity of the user below it.** -/
theorem bumped_version_is_final (store : Store) (hfloors : PermanentFloors store)
    (l₁ l₂ : List (Move VersionCall VersionEvent)) (i : ℕ) (userId n : ℤ)
    (hbump : (Runs.run versionStep ⟨store, []⟩ l₁).answer i = some (.bumped userId (.ok n))) :
    let s₁ := Runs.run versionStep ⟨store, []⟩ l₁
    let s₂ := Runs.run versionStep s₁ l₂
    (∀ j b, s₁.pool.length ≤ j → s₂.answer j = some (.user userId (.ok b)) → n ≤ b.authVersion) ∧
    ∀ j identity x, s₁.pool.length ≤ j → s₂.answer j = some (.validated identity (.ok x)) →
      identity.userID = userId → n ≤ identity.userAuthVersion := by
  intro s₁ s₂
  have h0 : Conforms versionProtocol (fun _ => VersionAnswer.Promise) (⟨store, []⟩ : System Store Label VersionAnswer) :=
    ⟨hfloors, fun _ _ hp => (by cases hp)⟩
  have h1 : Conforms versionProtocol (fun _ => VersionAnswer.Promise) s₁ :=
    (run_conforms keeps_version h0 (along_version _ l₁)).1
  have ha : Advanced userId n s₁.store := h1.answer hbump
  have h2 : Conforms (versionProtocol.restrict (Advanced userId n))
      (fun j r _ => s₁.pool.length ≤ j → r.AtLeast userId n) s₂ :=
    run_conforms_after keeps_version (fun _ _ _ hj hr _ => hj.later hr)
      (fun _ c hi hj _ => (c.meets_atLeast hi hj).restrict fun _ _ _ hj hr _ => hj.later hr) h1 ha
      (along_version _ l₂)
  refine ⟨fun j b hj hb => ?_, fun j identity x hj hx hid => ?_⟩
  · exact h2.answer hb hj rfl
  · exact h2.answer hx hj hid

end Runs

theorem bumped_version_is_final_for_one_user :
    let store := sampleStore { id := 1, email := "a@b.c", emailVerifiedAt := 0, inviterId := 0 }
    let bump : List (Move VersionCall VersionEvent) := .start (.bumpUserAuthVersion 1 true) :: .replicate 5 (.run 0)
    let s₁ := Runs.run (@versionStep sampleSettings) ⟨store, []⟩ bump
    s₁.answer 0 = some (.bumped 1 (.ok 2)) ∧
    ∀ l₂ j b, 1 ≤ j → (Runs.run (@versionStep sampleSettings) s₁ l₂).answer j = some (.user 1 (.ok b)) →
      2 ≤ b.authVersion := by
  intro store bump s₁
  have hrun : s₁.answer 0 = some (.bumped 1 (.ok 2)) ∧ s₁.pool.length = 1 := by decide
  refine ⟨hrun.1, fun l₂ j b hj hb => ?_⟩
  exact (@bumped_version_is_final sampleSettings store (fun _ => trivial) bump l₂ 0 1 2 hrun.1).1 j b
    (hrun.2.le.trans hj) hb

end Desktop2Stereo
