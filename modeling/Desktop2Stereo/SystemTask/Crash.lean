import Desktop2Stereo.SystemTask.Lease

/-!
# Runners that crash

A runner may stop or be delayed between any two statements. A running task can be cleaned up as long as a lock names it:
the pass over the stale locks looks at nothing else. The statements that insert, renew and finish keep this. Four others
need a condition: the update that sets a task running does not look at the lock, and a lock is taken over, given up or
deleted without a look at its task.

* `exec_expireStale`: a pass fails the running tasks whose locks have expired and frees their keys;
* **`running_tasks_are_locked`**: every interleaving.
-/

namespace Desktop2Stereo

open Relational Concurrent

/-! ## Programs -/

section Programs

variable {ρ : Type} {down : Statement → Bool}

open SystemTaskDB

/-- Running tasks are tied to their locks, and a task that has ended stays so. -/
def tethering : Protocol SystemTaskDB SystemTaskLabel where
  inv db := db.Tied
  rely db db' := ∀ t ∈ db.tasks.rows, ¬ t.status.Active → ∃ t' ∈ db'.tasks.rows, t'.taskID = t.taskID ∧ ¬ t'.status.Active
  admits := Tethered
  refl _ := fun t ht hs => ⟨t, ht, rfl, hs⟩
  trans h h' := fun t ht hs => by
    obtain ⟨t₁, ht₁, hid₁, hs₁⟩ := h t ht hs
    obtain ⟨t₂, ht₂, hid₂, hs₂⟩ := h' t₁ ht₁ hs₁
    exact ⟨t₂, ht₂, hid₂.trans hid₁, hs₂⟩

theorem tethering_rely {db db' : SystemTaskDB} (h : Writes db db') : tethering.rely db db' := by
  intro t ht hs
  obtain ⟨t', ht', hid, -, hmoves⟩ := (writes_taskMoves h).stay t ht
  refine ⟨t', ht', hid, ?_⟩
  rcases hmoves with hsame | ⟨hpending, -⟩ | ⟨hrunning, -⟩
  · rwa [hsame]
  · exact absurd (.inl hpending) hs
  · exact absurd (.inr hrunning) hs

/-- The program keeps the protocol from every store on. -/
def Keeping {α : Type} (p : Program SystemTaskDB SystemTaskLabel ρ α) : Prop :=
  ∀ db : SystemTaskDB, db.Tied → Ensures tethering p db fun _ _ => True

theorem keeping_of_stated {α : Type} {p : Program SystemTaskDB SystemTaskLabel ρ α} (hp : Makes (Stated Writes) p) :
    Keeping p :=
  fun _ h => hp.ensures (fun _ _ _ hs htied ha => ⟨hs.2 htied ha, tethering_rely hs.1⟩) h

theorem finish_ended {taskID lockedBy : String} {status : SystemTaskStatus} (hs : status = .succeeded ∨ status = .failed)
    {result error : String} {now : ℤ} {db : SystemTaskDB} (h : (db.finish taskID lockedBy status result error now).1 = true) :
    ∃ t ∈ (db.finish taskID lockedBy status result error now).2.tasks.rows, t.taskID = taskID ∧ ¬ t.status.Active := by
  unfold finish at h ⊢
  dsimp only at h ⊢
  split_ifs at h ⊢ with hsome
  obtain ⟨t, ht, hleased⟩ := hsome
  refine ⟨_, (Table.mem_modify (h := fun _ => by rfl)).mpr ⟨t, ht, rfl⟩, ?_⟩
  rw [if_pos (decide_eq_true hleased)]
  refine ⟨hleased.1, ?_⟩
  show ¬ status.Active
  rcases hs with rfl | rfl <;> decide

theorem keeping_finishSystemTask (taskID lockedBy : String) {status : SystemTaskStatus}
    (hs : status = .succeeded ∨ status = .failed) (result error : String) :
    Keeping (finishSystemTask (ρ := ρ) down taskID lockedBy status result error) := by
  refine fun _ _ => ensures_observe_bind fun db _ htied => ?_
  have hfinish : Ensures tethering (execute (ρ := ρ) down .finish (finish taskID lockedBy status result error db.clock)) db
      fun r db' => r = .ok true → ∃ t ∈ db'.tasks.rows, t.taskID = taskID ∧ ¬ t.status.Active := by
    unfold execute
    split
    · exact ensures_pure htied fun h => by cases h
    · refine ensures_access fun db' _ htied' _ => ?_
      exact ⟨finish_tied hs htied', tethering_rely (finish_routine taskID lockedBy hs result error _ db').writes,
        fun h => finish_ended hs (Except.ok.inj h)⟩
  refine hfinish.bind fun r db1 _ htied1 hended => ?_
  split
  · exact ensures_pure htied1 trivial
  · exact ensures_pure htied1 trivial
  unfold releaseSystemTaskLock execute
  split
  · exact ensures_pure htied1 trivial
  · refine ensures_access fun db2 hr htied2 _ => ⟨?_, tethering_rely (delete_routine _ db2).writes, trivial⟩
    obtain ⟨t, ht, hid, hover⟩ := hended rfl
    obtain ⟨_, ht', hid', hover'⟩ := hr t ht hover
    refine delete_tied htied2 fun l _ hp => ?_
    rw [(of_decide_eq_true hp).1, ← hid, ← hid']
    rintro ⟨_, ht₂, hid₂, hrunning⟩
    rw [eq_of_taskID ht₂ ht' hid₂] at hrunning
    exact hover' (.inr hrunning)

theorem SystemTaskCall.keeps (c : SystemTaskCall) {db : SystemTaskDB} (htied : db.Tied) :
    Meets tethering (fun _ _ => True) c.body db := by
  have hmeets : ∀ {α : Type} {p : Program SystemTaskDB SystemTaskLabel SystemTaskAnswer α} {k : α → SystemTaskAnswer},
      Keeping p → Meets tethering (fun _ _ => True) (p fun a => .done (k a)) db :=
    fun hp => (hp db htied).meets fun _ _ _ _ _ _ _ _ => trivial
  cases c with
  | create => exact hmeets (keeping_of_stated ((only_createSystemTask _ _ _ _).mono fun _ _ _ h => h.writes))
  | claim => exact hmeets (keeping_of_stated (only_claimSystemTask _ _ _ _))
  | update => exact hmeets (keeping_of_stated ((only_updateSystemTaskState _ _ _).mono fun _ _ _ h => h.writes))
  | renew => exact hmeets (keeping_of_stated ((only_renewSystemTaskLock _ _ _).mono fun _ _ _ h => h.writes))
  | finish down taskID lockedBy ok => exact hmeets (keeping_finishSystemTask _ _ (finished_status ok) _ _)
  | expireStale => exact hmeets (keeping_of_stated only_expireStale)

end Programs

/-! ## The pass over the stale locks -/

section Pass

open SystemTaskDB

def Expiring (taskID : String) (db : SystemTaskDB) : Prop :=
  ∃ t ∈ db.tasks.rows, t.taskID = taskID ∧ (t.status = .running ∨ t.status = .failed ∧ t.activeKey = none)

def Expired (taskID : String) (db : SystemTaskDB) : Prop :=
  ∃ t ∈ db.tasks.rows, t.taskID = taskID ∧ t.status = .failed ∧ t.activeKey = none

variable {db : SystemTaskDB} {taskID : String}

theorem markExpired_rows (marked : String) (now : ℤ) {t : SystemTask} (ht : t ∈ db.tasks.rows) :
    ∃ t' ∈ (db.markExpired marked now).tasks.rows, t'.taskID = t.taskID ∧
      if t.taskID = marked ∧ t.status = .running then t'.status = .failed ∧ t'.activeKey = none else t' = t := by
  by_cases hsome : ∃ t ∈ db.tasks.rows, t.taskID = marked ∧ t.status = .running
  · rw [markExpired, if_pos hsome]
    refine ⟨_, (Table.mem_modify (h := fun _ => by rfl)).mpr ⟨t, ht, rfl⟩, ?_⟩
    by_cases hp : t.taskID = marked ∧ t.status = .running
    · rw [if_pos hp, if_pos (decide_eq_true hp)]
      exact ⟨rfl, rfl, rfl⟩
    · rw [if_neg hp, if_neg (by simpa using hp)]
      exact ⟨rfl, rfl⟩
  · rw [markExpired, if_neg hsome]
    refine ⟨t, ht, rfl, ?_⟩
    rw [if_neg fun hp => hsome ⟨t, ht, hp⟩]

theorem markExpired_keeps {P : SystemTask → Prop} (hP : ∀ t, t.status = .failed ∧ t.activeKey = none → P t)
    (marked : String) (now : ℤ) (h : ∃ t ∈ db.tasks.rows, t.taskID = taskID ∧ P t) :
    ∃ t ∈ (db.markExpired marked now).tasks.rows, t.taskID = taskID ∧ P t := by
  obtain ⟨t, ht, hid, hs⟩ := h
  obtain ⟨t', ht', hid', hrow⟩ := markExpired_rows marked now ht
  refine ⟨t', ht', hid'.trans hid, ?_⟩
  split_ifs at hrow
  · exact hP t' hrow
  · exact hrow ▸ hs

theorem markExpired_expired (now : ℤ) (h : Expiring taskID db) : Expired taskID (db.markExpired taskID now) := by
  obtain ⟨t, ht, hid, hs⟩ := h
  obtain ⟨t', ht', hid', hrow⟩ := markExpired_rows taskID now ht
  refine ⟨t', ht', hid'.trans hid, ?_⟩
  split_ifs at hrow with hp
  · exact hrow
  · exact hrow ▸ hs.resolve_left fun hrunning => hp ⟨hid, hrunning⟩

theorem exec_keeps_expired (now : ℤ) (k : Except SystemTaskErr Unit → SystemTaskAnswer) (locks : List SystemTaskLock)
    (h : Expired taskID db) : Expired taskID ((expireLocks (fun _ => false) now locks fun r => .done (k r)).exec db).2 := by
  induction locks generalizing db with
  | nil => exact h
  | cons lock locks ih => exact ih (markExpired_keeps (fun _ => id) lock.taskID db.clock h)

theorem exec_expireLocks (now : ℤ) (k : Except SystemTaskErr Unit → SystemTaskAnswer) {locks : List SystemTaskLock}
    (h : Expiring taskID db) (hl : ∃ lock ∈ locks, lock.taskID = taskID) :
    Expired taskID ((expireLocks (fun _ => false) now locks fun r => .done (k r)).exec db).2 := by
  induction locks generalizing db with
  | nil =>
    obtain ⟨lock, hlock, -⟩ := hl
    cases hlock
  | cons lock locks ih =>
    by_cases hid : lock.taskID = taskID
    · have hmarked : Expired taskID ((db.markExpired lock.taskID db.clock).deleteStale lock now) := by
        rw [hid]
        exact markExpired_expired db.clock h
      exact exec_keeps_expired now k locks hmarked
    · obtain ⟨lock', hlock', hid'⟩ := hl
      have hlock' : lock' ∈ locks := (List.mem_cons.mp hlock').resolve_left fun heq => hid (heq ▸ hid')
      exact ih (markExpired_keeps (fun _ => .inr) lock.taskID db.clock h) ⟨lock', hlock', hid'⟩

theorem exec_expireStale {t : SystemTask} {l : SystemTaskLock} (ht : t ∈ db.tasks.rows) (hrunning : t.status = .running)
    (hl : l ∈ db.locks.rows) (hid : l.taskID = t.taskID) (hexpired : l.lockedUntil < db.clock) :
    Expired t.taskID ((SystemTaskCall.expireStale fun _ => false).body.exec db).2 :=
  exec_expireLocks db.clock _ ⟨t, ht, rfl, .inl hrunning⟩
    ⟨l, List.mem_filter.mpr ⟨hl, decide_eq_true hexpired⟩, hid⟩

end Pass

/-! ## Interleavings -/

/-- No statement takes the lock of a running task away, and a task is set running while its lock names it. -/
def KeepsLocks (s : SystemTaskSystem) (m : Move SystemTaskCall ℕ) : Prop :=
  Admitted SystemTaskDB.Tethered (fun _ _ => True) (fun _ _ => True) s m

instance (s : SystemTaskSystem) (m : Move SystemTaskCall ℕ) : Decidable (KeepsLocks s m) := by
  unfold KeepsLocks
  infer_instance

/-- **In every interleaving whose statements keep the locks of running tasks, every running task is named by the lock of
its type; once that lock has expired, a pass over the stale locks fails the task and frees its key.** -/
theorem running_tasks_are_locked {s : SystemTaskSystem} {l : List (Move SystemTaskCall ℕ)} (htied : s.store.Tied)
    (hpool : s.pool = []) (hl : Runs.Along (Concurrent.step SystemTaskCall.body SystemTaskDB.pass) KeepsLocks s l) :
    let db := (Runs.run (Concurrent.step SystemTaskCall.body SystemTaskDB.pass) s l).store
    ∀ t ∈ db.tasks.rows, t.status = .running → ∃ lock ∈ db.locks.rows, lock.taskID = t.taskID ∧ lock.type = t.type ∧
      (lock.lockedUntil < db.clock → Expired t.taskID ((SystemTaskCall.expireStale fun _ => false).body.exec db).2) := by
  have hkeeps : Keeps tethering (fun _ _ _ => True) SystemTaskCall.body SystemTaskDB.pass (fun _ _ => True)
      (fun _ _ => True) :=
    ⟨fun db c _ htied _ => c.keeps htied, fun db n htied _ => ⟨htied, tethering_rely (.none rfl rfl)⟩⟩
  have hconf := (run_conforms hkeeps ⟨htied, by simp [hpool]⟩ hl).1.inv
  intro db t ht hrunning
  obtain ⟨lock, hlock, hid, htype⟩ := hconf t ht hrunning
  exact ⟨lock, hlock, hid, htype, exec_expireStale ht hrunning hlock hid⟩

theorem sampleTaskDB_tied : sampleTaskDB.Tied := by simp [SystemTaskDB.Tied, sampleTaskDB]

/-- A runner claims a task and stops; its lock expires. -/
def sampleAbandoned : List (Move SystemTaskCall ℕ) :=
  let up : Statement → Bool := fun _ => false
  [.start (.create up "a" "log_cleanup" "" ""), .run 0, .start (.claim up 1 "log_cleanup" "r1" 10),
    .run 1, .run 1, .run 1, .run 1, .run 1, .env 11]

theorem running_tasks_are_locked_of_abandoned :
    let db := (Runs.run (Concurrent.step SystemTaskCall.body SystemTaskDB.pass) ⟨sampleTaskDB, []⟩ sampleAbandoned).store
    db.tasks.rows.map (fun t => (t.taskID, t.status)) = [("a", .running)] ∧
    ∀ t ∈ db.tasks.rows, t.status = .running → ∃ lock ∈ db.locks.rows, lock.taskID = t.taskID ∧ lock.type = t.type ∧
      (lock.lockedUntil < db.clock → Expired t.taskID ((SystemTaskCall.expireStale fun _ => false).body.exec db).2) := by
  have hl : Runs.Along (Concurrent.step SystemTaskCall.body SystemTaskDB.pass) KeepsLocks ⟨sampleTaskDB, []⟩ sampleAbandoned := by
    decide
  exact ⟨by decide, running_tasks_are_locked sampleTaskDB_tied rfl hl⟩

/-- A runner is delayed after it has locked a task. Its lock expires and is deleted as stale; then the runner sets the
task running. -/
def sampleDelayedClaim : List (Move SystemTaskCall ℕ) :=
  let up : Statement → Bool := fun _ => false
  [.start (.create up "a" "log_cleanup" "" ""), .run 0, .start (.claim up 1 "log_cleanup" "r1" 10), .run 1, .run 1, .run 1,
    .env 11, .start (.expireStale up), .run 2, .run 2, .run 2, .run 2, .run 2, .run 1, .run 1]

/-- The task runs without a lock, and a pass over the stale locks leaves it so. -/
theorem claim_after_cleanup :
    let db := (Runs.run (Concurrent.step SystemTaskCall.body SystemTaskDB.pass) ⟨sampleTaskDB, []⟩ sampleDelayedClaim).store
    db.tasks.rows.map (fun t => (t.taskID, t.status, t.activeKey)) = [("a", .running, some "log_cleanup")] ∧
    db.locks.rows = [] ∧
    (((SystemTaskCall.expireStale fun _ => false).body.exec db).2.tasks.rows.map fun t => (t.taskID, t.status)) =
      [("a", .running)] := by
  decide

end Desktop2Stereo
