import Desktop2Stereo.Model.Login

/-!
# What the accesses of the account server leave alone

The calls read the keys of users and of sessions on the way to something else. Such reads touch the keys of
users only, or the keys of sessions only, whatever they fill.

* `evalWriteSession_cases`: what the script of a snapshot does;
* **`only_getUserCache`**, **`only_getUserSessionCached`**: reads stay within these keys.
-/

namespace Desktop2Stereo

open Relational Concurrent Expiring

variable {ρ : Type} {s s' : Store}

def UserKeys (s s' : Store) : Prop :=
  ∃ hashes fences versions, s' = { s with userHashes := hashes, authFences := fences, authVersions := versions }

def SessionKeys (s s' : Store) : Prop := ∃ hashes, s' = { s with sessionHashes := hashes }

theorem UserKeys.refl (s : Store) : UserKeys s s := ⟨_, _, _, rfl⟩

theorem SessionKeys.refl (s : Store) : SessionKeys s s := ⟨_, rfl⟩

/-! ## Users -/

theorem admitVersion_keys {userId incoming : ℤ} (h : admitVersion userId incoming s = some s') :
    ∃ fences versions, s' = { s with authFences := fences, authVersions := versions } := by
  unfold admitVersion at h
  dsimp only at h
  split at h
  · cases h
  · rw [← Option.some.inj h]
    unfold evalPublishCommitted
    dsimp only
    split_ifs <;> exact ⟨_, _, rfl⟩

theorem only_cacheGetUserBase (userId : ℤ) : Only Eq (cacheGetUserBase (ρ := ρ) userId) := by
  refine (only_observe fun _ => rfl).bind fun h => ?_
  split
  · exact only_pure _
  split_ifs
  · exact only_pure _
  refine (only_observe fun _ => rfl).bind fun floor => ?_
  split_ifs <;> exact only_pure _

theorem only_getUserById (userId : ℤ) : Only Eq (getUserById (ρ := ρ) userId) := by
  unfold getUserById
  split_ifs
  · exact only_pure _
  refine (only_observe fun _ => rfl).bind fun user => ?_
  split <;> exact only_pure _

section Users

variable [Settings]

theorem evalWriteUserCache_userKeys (user : UserBase) (includeQuota : Bool) (s : Store) :
    UserKeys s (evalWriteUserCache user includeQuota s).2 := by
  unfold evalWriteUserCache
  cases h : admitVersion user.id user.authVersion s with
  | none => exact .refl s
  | some =>
    obtain ⟨_, _, rfl⟩ := admitVersion_keys h
    dsimp only
    split_ifs <;> exact ⟨_, _, _, rfl⟩

theorem only_writeUserCache (user : UserBase) (includeQuota : Bool) :
    Only UserKeys (writeUserCache (ρ := ρ) user includeQuota) := by
  unfold writeUserCache
  split
  · exact only_pure _
  split
  · exact only_pure _
  refine (only_access (evalWriteUserCache_userKeys user includeQuota)).bind fun written => ?_
  split_ifs <;> exact only_pure _

/-- **Reading a user touches the keys of users only.** -/
theorem only_getUserCache (userId : ℤ) : Only UserKeys (getUserCache (ρ := ρ) userId) := by
  have hread : ∀ s s' : Store, s = s' → UserKeys s s' := fun s _ h => h ▸ .refl s
  refine ((only_cacheGetUserBase userId).mono fun _ => hread).bind fun r => ?_
  split
  · exact only_pure _
  refine ((only_getUserById userId).mono fun _ => hread).bind fun r => ?_
  split
  · exact only_pure _
  refine (only_observe .refl).bind fun floor => ?_
  split_ifs
  · exact only_pure _
  refine (only_writeUserCache _ _).bind fun r => ?_
  split <;> exact only_pure _

end Users

/-! ## Sessions -/

theorem evalWriteSession_cases (entry : SessionEntry) (redisExpiration : ℕ) (s : Store) :
    evalWriteSession entry redisExpiration s = (false, s) ∨
    (entry.status = .active → ∀ c ∈ s.sessionHash entry.sid, c.status = .active) ∧
      ((s.sessionHash entry.sid).map SessionEntry.version).getD 0 ≤ entry.version ∧
      evalWriteSession entry redisExpiration s = (true, s.setSessionHash entry.sid (.expireAt s.ms entry
        (if entry.status = .active then redisExpiration else s.ms + redisExpiration))) := by
  unfold evalWriteSession
  dsimp only
  by_cases h1 : entry.status = .active ∧ ∃ c ∈ s.sessionHash entry.sid, c.status = .revoking ∨ c.status = .revoked
  · exact .inl (if_pos h1)
  rw [if_neg h1]
  by_cases h2 : entry.version < ((s.sessionHash entry.sid).map SessionEntry.version).getD 0
  · exact .inl (if_pos h2)
  rw [if_neg h2]
  refine .inr ⟨fun ha c hc => ?_, not_lt.mp h2, rfl⟩
  cases hs : c.status with
  | active => rfl
  | revoking => exact absurd ⟨ha, c, hc, .inl hs⟩ h1
  | revoked => exact absurd ⟨ha, c, hc, .inr hs⟩ h1

theorem evalWriteSession_sessionKeys (entry : SessionEntry) (redisExpiration : ℕ) (s : Store) :
    SessionKeys s (evalWriteSession entry redisExpiration s).2 := by
  rcases evalWriteSession_cases entry redisExpiration s with h | ⟨_, _, h⟩
  · rw [h]
    exact .refl s
  · rw [h]
    exact ⟨_, rfl⟩

theorem only_confirm (session : UserSession) : Only Eq (confirmUserSessionActiveSnapshot (ρ := ρ) session) := by
  unfold confirmUserSessionActiveSnapshot
  split_ifs
  · exact only_pure _
  refine (only_observe fun _ => rfl).bind fun now => (only_observe fun _ => rfl).bind fun count => ?_
  split_ifs <;> exact only_pure _

theorem only_getUserSessionCache (sid : String) : Only SessionKeys (getUserSessionCache (ρ := ρ) sid) := by
  refine (only_observe .refl).bind fun entry => ?_
  split
  · exact only_pure _
  split_ifs
  · exact only_pure _
  refine (only_observe .refl).bind fun now => ?_
  split_ifs <;> exact only_pure _

section Sessions

variable [Settings]

theorem only_writeUserSessionCache (entry : SessionEntry) (cacheDeadline : Option ℕ) :
    Only SessionKeys (writeUserSessionCache (ρ := ρ) entry cacheDeadline) := by
  refine (only_observe .refl).bind fun now => ?_
  split_ifs
  · split
    · exact only_pure _
    split
    · exact only_pure _
    refine (only_access (evalWriteSession_sessionKeys entry _)).bind fun written => ?_
    split_ifs
    · refine (only_observe .refl).bind fun completedAt => ?_
      split_ifs <;> exact only_pure _
    · exact only_pure _
  · refine (only_access (evalWriteSession_sessionKeys entry _)).bind fun written => ?_
    split_ifs <;> exact only_pure _

/-- **Reading a session touches the keys of sessions only.** -/
theorem only_getUserSessionCached (sid : String) : Only SessionKeys (getUserSessionCached (ρ := ρ) sid) := by
  unfold getUserSessionCached
  split_ifs
  · exact only_pure _
  refine (only_getUserSessionCache sid).bind fun r => ?_
  split
  · exact only_pure _
  · exact only_pure _
  refine (only_observe .refl).bind fun deadline => (only_observe .refl).bind fun session => ?_
  split
  · exact only_pure _
  refine (only_observe .refl).bind fun now => ?_
  split
  · exact (only_writeUserSessionCache _ _).bind fun _ => only_pure _
  refine (only_writeUserSessionCache _ _).bind fun r => ?_
  split
  · refine ((only_confirm _).mono fun _ s _ h => h ▸ SessionKeys.refl s).bind fun r => ?_
    split <;> exact only_pure _
  · exact only_pure _
  · exact only_pure _

end Sessions

/-! ## A small deployment -/

/-- The settings of a small deployment. -/
@[reducible] def sampleSettings : Settings :=
  { syncFrequency := 60, userSessionActiveLimit := 1, userSessionIssuanceLimit := 1
    userSessionIssuanceWindowSeconds := 3600, window_pos := by decide }

def sampleStore (user : User) : Store :=
  { clock := 1000000000000000000, db := { users := ⟨[user], List.pairwise_singleton _ _⟩ } }

end Desktop2Stereo
