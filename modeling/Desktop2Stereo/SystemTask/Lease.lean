import Desktop2Stereo.Model.SystemTasks

/-!
# One runner for each type of background task

Any number of runners create, claim, renew, update, finish and expire tasks; their statements interleave in any
order, any of them may fail, and the clock never goes back. The unique key of active tasks and the `WHERE` clauses
keep the tasks in order without further conditions. The mark of an expired task has no such clause: it is right as
long as the lock that was read has not been taken or renewed in between.

* `Writes`: what any statement does to the tasks; `Orderly`, `writes_orderly`, `writes_taskMoves`;
* **`one_effective_runner`**: every interleaving.
-/

namespace Desktop2Stereo

open Relational Concurrent Table List Indexed

/-! ## Calls -/

/-- The calls of the runners, each with the statements that fail. The handlers finish a task as succeeded or failed. -/
inductive SystemTaskCall
  | create (down : Statement → Bool) (taskID type payload state : String)
  | claim (down : Statement → Bool) (id : ℤ) (type runnerID : String) (lockUntil : ℤ)
  | update (down : Statement → Bool) (taskID lockedBy state : String)
  | renew (down : Statement → Bool) (taskID lockedBy : String) (lockUntil : ℤ)
  | finish (down : Statement → Bool) (taskID lockedBy : String) (ok : Bool) (result error : String)
  | expireStale (down : Statement → Bool)

inductive SystemTaskAnswer
  | created (r : Except SystemTaskErr SystemTask)
  | claimed (r : Except SystemTaskErr (Option SystemTask))
  | returned (r : Except SystemTaskErr Unit)

def SystemTaskCall.body : SystemTaskCall → Process SystemTaskDB SystemTaskLabel SystemTaskAnswer
  | .create down taskID type payload state => createSystemTask down taskID type payload state fun r => .done (.created r)
  | .claim down id type runnerID lockUntil =>
    claimSystemTask down id type runnerID lockUntil fun r => .done (.claimed r)
  | .update down taskID lockedBy state => updateSystemTaskState down taskID lockedBy state fun r => .done (.returned r)
  | .renew down taskID lockedBy lockUntil => renewSystemTaskLock down taskID lockedBy lockUntil fun r => .done (.returned r)
  | .finish down taskID lockedBy ok result error =>
    finishSystemTask down taskID lockedBy (if ok then .succeeded else .failed) result error fun r => .done (.returned r)
  | .expireStale down => expireStaleSystemTaskLocks down fun r => .done (.returned r)

/-- Time passes. -/
def SystemTaskDB.pass (seconds : ℕ) (db : SystemTaskDB) : SystemTaskDB := { db with clock := db.clock + seconds }

/-! ## Tasks -/

def SystemTaskStatus.Moves (s s' : SystemTaskStatus) : Prop :=
  s' = s ∨ (s = .pending ∧ s' = .running) ∨ (s = .running ∧ (s' = .succeeded ∨ s' = .failed))

namespace SystemTaskDB

structure TaskMoves (db db' : SystemTaskDB) : Prop where
  stay : ∀ t ∈ db.tasks.rows, ∃ t' ∈ db'.tasks.rows, t'.taskID = t.taskID ∧ t'.type = t.type ∧ t.status.Moves t'.status
  new : ∀ t' ∈ db'.tasks.rows, (∃ t ∈ db.tasks.rows, t.taskID = t'.taskID) ∨ t'.status = .pending

inductive Writes (db db' : SystemTaskDB) : Prop
  | none (htasks : db'.tasks = db.tasks) (hended : db'.ended = db.ended)
  | create (t : SystemTask) (hpending : t.status = .pending) (hkey : t.activeKey = some t.type)
      (hfree : ∀ r ∈ db.tasks.rows, r.activeKey ≠ some t.type) (htasks : db.tasks.insert t = some db'.tasks)
      (hended : db'.ended = db.ended)
  | update (p : SystemTask → Bool) (f : SystemTask → SystemTask) (h : ∀ t, keys (f t) = keys t)
      (htasks : db'.tasks = db.tasks.modify p f h) (hended : db'.ended = db.ended)
      (hrow : ∀ t, p t = true → (f t).type = t.type ∧ (f t).activeKey = t.activeKey ∧
        ((f t).status = t.status ∨ t.status = .pending ∧ (f t).status = .running))
  | close (taskID : String) (p : SystemTask → Bool) (f : SystemTask → SystemTask)
      (h : ∀ t, keys (f t) = keys t) (htasks : db'.tasks = db.tasks.modify p f h)
      (hended : db'.ended = taskID :: db.ended) (hsome : ∃ t ∈ db.tasks.rows, p t = true)
      (hrow : ∀ t, p t = true → t.taskID = taskID ∧ t.status = .running ∧ (f t).type = t.type ∧ (f t).activeKey = .none ∧
        ((f t).status = .succeeded ∨ (f t).status = .failed))

/-- The active key names the type of an active task and is unique; each task that has ended did so once. -/
structure Orderly (db : SystemTaskDB) : Prop where
  key : ∀ t ∈ db.tasks.rows, t.status.Active → t.activeKey = some t.type
  unique : ∀ t₁ ∈ db.tasks.rows, ∀ t₂ ∈ db.tasks.rows, ∀ k, t₁.activeKey = some k → t₂.activeKey = some k → t₁ = t₂
  ended : ∀ i ∈ db.ended, ∃ t ∈ db.tasks.rows, t.taskID = i ∧ ¬ t.status.Active
  nodup : db.ended.Nodup

variable {db db' : SystemTaskDB} {t₁ t₂ : SystemTask}

theorem eq_of_taskID (h1 : t₁ ∈ db.tasks.rows) (h2 : t₂ ∈ db.tasks.rows) (h : t₁.taskID = t₂.taskID) :
    t₁ = t₂ := db.tasks.eq_of_pk h1 h2 h

theorem taskID_of_keys {t t' : SystemTask} (h : keys t' = keys t) : t'.taskID = t.taskID :=
  pk_of_keys h

variable {p : SystemTask → Bool} {f : SystemTask → SystemTask} {hk : ∀ t, keys (f t) = keys t}

theorem taskMoves_modify (h : db'.tasks = db.tasks.modify p f hk)
    (hrow : ∀ t, p t = true → (f t).type = t.type ∧ t.status.Moves (f t).status) : TaskMoves db db' := by
  refine ⟨fun t ht => ⟨if p t then f t else t, h ▸ mem_map_of_mem ht, ?_⟩, fun t' ht' => ?_⟩
  · split_ifs with hp
    · exact ⟨taskID_of_keys (hk t), hrow t hp⟩
    · exact ⟨rfl, rfl, .inl rfl⟩
  · rw [h] at ht'
    obtain ⟨t, ht, rfl⟩ := mem_modify.mp ht'
    refine .inl ⟨t, ht, ?_⟩
    split_ifs
    · exact (taskID_of_keys (hk t)).symm
    · rfl

theorem writes_taskMoves (h : Writes db db') : TaskMoves db db' := by
  cases h with
  | none htasks => exact ⟨fun t ht => ⟨t, htasks ▸ ht, rfl, rfl, .inl rfl⟩, fun t ht => .inl ⟨t, htasks ▸ ht, rfl⟩⟩
  | create t hpending _ _ htasks =>
    refine ⟨fun r hr => ⟨r, (mem_insert htasks).mpr (.inl hr), rfl, rfl, .inl rfl⟩, fun r hr => ?_⟩
    rcases (mem_insert htasks).mp hr with hr | rfl
    · exact .inl ⟨r, hr, rfl⟩
    · exact .inr hpending
  | update p f h htasks _ hrow =>
    refine taskMoves_modify htasks fun t hp => ?_
    obtain ⟨htype, -, hs⟩ := hrow t hp
    exact ⟨htype, hs.imp_right .inl⟩
  | close taskID p f h htasks _ _ hrow =>
    refine taskMoves_modify htasks fun t hp => ?_
    obtain ⟨-, hrunning, htype, -, hs⟩ := hrow t hp
    exact ⟨htype, .inr (.inr ⟨hrunning, hs⟩)⟩

theorem orderly_update (h : db.Orderly) (htasks : db'.tasks = db.tasks.modify p f hk) (hended : db'.ended = db.ended)
    (hrow : ∀ t, p t = true → (f t).type = t.type ∧ (f t).activeKey = t.activeKey ∧
      ((f t).status = t.status ∨ t.status = .pending ∧ (f t).status = .running)) : db'.Orderly := by
  have hg : ∀ t, (if p t then f t else t).type = t.type ∧ (if p t then f t else t).activeKey = t.activeKey ∧
      ((if p t then f t else t).status.Active ↔ t.status.Active) := by
    intro t
    split_ifs with hp
    · obtain ⟨htype, hkey, hs | ⟨hs, hs'⟩⟩ := hrow t hp
      · exact ⟨htype, hkey, by rw [hs]⟩
      · exact ⟨htype, hkey, by rw [hs, hs']; decide⟩
    · exact ⟨rfl, rfl, Iff.rfl⟩
  refine ⟨fun t' ht' ha => ?_, fun r1 h1 r2 h2 k k1 k2 => ?_, fun i hi => ?_, hended ▸ h.nodup⟩
  · rw [htasks] at ht'
    obtain ⟨t, ht, rfl⟩ := mem_modify.mp ht'
    obtain ⟨htype, hkey, hact⟩ := hg t
    rw [htype, hkey]
    exact h.key t ht (hact.mp ha)
  · rw [htasks] at h1 h2
    obtain ⟨t₁, ht1, rfl⟩ := mem_modify.mp h1
    obtain ⟨t₂, ht2, rfl⟩ := mem_modify.mp h2
    rw [(hg t₁).2.1] at k1
    rw [(hg t₂).2.1] at k2
    rw [h.unique t₁ ht1 t₂ ht2 k k1 k2]
  · obtain ⟨t, ht, hid, ha⟩ := h.ended i (hended ▸ hi)
    refine ⟨if p t then f t else t, htasks ▸ mem_map_of_mem ht, ?_, fun h => ha ((hg t).2.2.mp h)⟩
    split_ifs
    · exact (taskID_of_keys (hk t)).trans hid
    · exact hid

theorem orderly_close {taskID : String} (h : db.Orderly) (htasks : db'.tasks = db.tasks.modify p f hk)
    (hended : db'.ended = taskID :: db.ended) (hsome : ∃ t ∈ db.tasks.rows, p t = true)
    (hrow : ∀ t, p t = true → t.taskID = taskID ∧ t.status = .running ∧ (f t).type = t.type ∧ (f t).activeKey = .none ∧
      ((f t).status = .succeeded ∨ (f t).status = .failed)) : db'.Orderly := by
  have hover : ∀ t, p t = true → ¬ (f t).status.Active := by
    intro t hp
    obtain ⟨-, -, -, -, hs | hs⟩ := hrow t hp
    · rw [hs]; decide
    · rw [hs]; decide
  -- a row that still has a key is one that the statement did not match
  have hold : ∀ t, (if p t then f t else t).activeKey ≠ Option.none → (if p t then f t else t) = t := by
    intro t hkey
    split_ifs at hkey ⊢ with hp
    · exact absurd (hrow t hp).2.2.2.1 hkey
    · rfl
  refine ⟨fun t' ht' ha => ?_, fun r1 h1 r2 h2 k k1 k2 => ?_, fun i hi => ?_, ?_⟩
  · rw [htasks] at ht'
    obtain ⟨t, ht, rfl⟩ := mem_modify.mp ht'
    split_ifs at ha ⊢ with hp
    · exact absurd ha (hover t hp)
    · exact h.key t ht ha
  · rw [htasks] at h1 h2
    obtain ⟨t₁, ht1, rfl⟩ := mem_modify.mp h1
    obtain ⟨t₂, ht2, rfl⟩ := mem_modify.mp h2
    have e1 := hold t₁ (by rw [k1]; exact Option.some_ne_none k)
    have e2 := hold t₂ (by rw [k2]; exact Option.some_ne_none k)
    rw [e1] at k1 ⊢
    rw [e2] at k2 ⊢
    exact h.unique t₁ ht1 t₂ ht2 k k1 k2
  · have hmem : ∀ t ∈ db.tasks.rows, (if p t then f t else t) ∈ db'.tasks.rows :=
      fun t ht => htasks ▸ mem_map_of_mem ht
    rw [hended] at hi
    rcases mem_cons.mp hi with rfl | hi
    · obtain ⟨t, ht, hp⟩ := hsome
      refine ⟨_, hmem t ht, ?_⟩
      rw [if_pos hp]
      exact ⟨(taskID_of_keys (hk t)).trans (hrow t hp).1, hover t hp⟩
    · obtain ⟨t, ht, hid, ha⟩ := h.ended i hi
      refine ⟨_, hmem t ht, ?_⟩
      split_ifs with hp
      · exact ⟨(taskID_of_keys (hk t)).trans hid, hover t hp⟩
      · exact ⟨hid, ha⟩
  · rw [hended]
    refine nodup_cons.mpr ⟨fun hi => ?_, h.nodup⟩
    obtain ⟨t, ht, hp⟩ := hsome
    obtain ⟨_, ht', hid, ha⟩ := h.ended taskID hi
    obtain ⟨hid', hrunning, -⟩ := hrow t hp
    rw [eq_of_taskID ht' ht (hid.trans hid'.symm)] at ha
    exact ha (.inr hrunning)

theorem writes_orderly (hw : Writes db db') (h : db.Orderly) : db'.Orderly := by
  cases hw with
  | none htasks hended =>
    exact ⟨htasks ▸ h.key, htasks ▸ h.unique, hended ▸ htasks ▸ h.ended, hended ▸ h.nodup⟩
  | create t hpending hkey hfree htasks hended =>
    have hmem := fun {r} => mem_insert (s := r) htasks
    refine ⟨fun r hr ha => ?_, fun r1 h1 r2 h2 k k1 k2 => ?_, fun i hi => ?_, hended ▸ h.nodup⟩
    · rcases hmem.mp hr with hr | rfl
      · exact h.key r hr ha
      · exact hkey
    · rcases hmem.mp h1 with h1 | rfl <;> rcases hmem.mp h2 with h2 | rfl
      · exact h.unique r1 h1 r2 h2 k k1 k2
      · exact absurd (k1.trans (k2.symm.trans hkey)) (hfree r1 h1)
      · exact absurd (k2.trans (k1.symm.trans hkey)) (hfree r2 h2)
      · rfl
    · obtain ⟨r, hr, hid⟩ := h.ended i (hended ▸ hi)
      exact ⟨r, hmem.mpr (.inl hr), hid⟩
  | update p f hk htasks hended hrow => exact orderly_update h htasks hended hrow
  | close taskID p f hk htasks hended hsome hrow => exact orderly_close h htasks hended hsome hrow

end SystemTaskDB

/-! ## Locks -/

namespace SystemTaskDB

def Knows (db : SystemTaskDB) (taskID type : String) : Prop := ∃ t ∈ db.tasks.rows, t.taskID = taskID ∧ t.type = type

/-- Every lock names a task of its type, and no task was marked while it had a valid lock. -/
structure Held (db : SystemTaskDB) : Prop where
  known : ∀ l ∈ db.locks.rows, db.Knows l.taskID l.type
  overruled : db.overruled = []

/-- A statement that names no task in a lock and marks none. -/
structure Routine (db db' : SystemTaskDB) : Prop where
  writes : Writes db db'
  clock : db'.clock = db.clock
  locks : ∀ l' ∈ db'.locks.rows, ∃ l ∈ db.locks.rows, l.taskID = l'.taskID ∧ l.type = l'.type
  overruled : db'.overruled = db.overruled

variable {db db' : SystemTaskDB} {taskID type : String}

theorem Writes.knows (h : Writes db db') (hk : db.Knows taskID type) : db'.Knows taskID type := by
  obtain ⟨t, ht, rfl, rfl⟩ := hk
  obtain ⟨t', ht', hid, htype, -⟩ := (writes_taskMoves h).stay t ht
  exact ⟨t', ht', hid, htype⟩

theorem Knows.type_unique {type' : String} (h : db.Knows taskID type) (h' : db.Knows taskID type') :
    type = type' := by
  obtain ⟨t, ht, hid, rfl⟩ := h
  obtain ⟨_, ht', hid', rfl⟩ := h'
  rw [eq_of_taskID ht ht' (hid.trans hid'.symm)]

theorem Routine.held (h : Routine db db') (hh : db.Held) : db'.Held := by
  refine ⟨fun l' hl' => ?_, h.overruled.trans hh.overruled⟩
  obtain ⟨l, hl, hid, htype⟩ := h.locks l' hl'
  rw [← hid, ← htype]
  exact h.writes.knows (hh.known l hl)

theorem routine_tasks (hw : Writes db db') (hc : db'.clock = db.clock) (hl : db'.locks = db.locks)
    (ho : db'.overruled = db.overruled) : Routine db db' :=
  ⟨hw, hc, fun l hl' => ⟨l, hl ▸ hl', rfl, rfl⟩, ho⟩

theorem routine_refl (db : SystemTaskDB) : Routine db db := routine_tasks (.none rfl rfl) rfl rfl rfl

/-! ### Statements -/

theorem insertTask_routine (taskID type payload state : String) (db : SystemTaskDB) :
    Routine db (db.insertTask taskID type payload state).2 := by
  unfold insertTask
  dsimp only
  split_ifs with hkey
  · exact routine_refl db
  · split
    next tasks h =>
      refine routine_tasks (.create _ rfl rfl (fun r hr hk => hkey ⟨r, hr, hk⟩) h rfl) rfl rfl rfl
    next => exact routine_refl db

theorem setRunning_routine (id : ℤ) (type runnerID : String) (now : ℤ) (db : SystemTaskDB) :
    Routine db (db.setRunning id type runnerID now).2 := by
  refine routine_tasks (.update _ _ (fun _ => by rfl) rfl rfl fun t hp => ⟨rfl, rfl, .inr ⟨?_, rfl⟩⟩) rfl rfl rfl
  exact (of_decide_eq_true hp).2.2

theorem finish_routine (taskID lockedBy : String) {status : SystemTaskStatus} (hs : status = .succeeded ∨ status = .failed)
    (result error : String) (now : ℤ) (db : SystemTaskDB) :
    Routine db (db.finish taskID lockedBy status result error now).2 := by
  unfold finish
  dsimp only
  split_ifs with hsome
  · refine routine_tasks (.close taskID _ _ (fun _ => by rfl) rfl rfl ?_ fun t hp => ?_) rfl rfl rfl
    · obtain ⟨t, ht, hp⟩ := hsome
      exact ⟨t, ht, decide_eq_true hp⟩
    · obtain ⟨hid, hrunning, -⟩ := of_decide_eq_true hp
      exact ⟨hid, hrunning, rfl, rfl, hs⟩
  · exact routine_refl db

theorem renew_routine (taskID lockedBy : String) (lockUntil now : ℤ) (db : SystemTaskDB) :
    Routine db (db.renew taskID lockedBy lockUntil now).2 := by
  refine ⟨.none rfl rfl, rfl, fun l' hl' => ?_, rfl⟩
  obtain ⟨l, hl, rfl⟩ := (mem_modify (h := fun _ => by rfl)).mp hl'
  refine ⟨l, hl, ?_⟩
  split_ifs <;> exact ⟨rfl, rfl⟩

theorem delete_routine (p : SystemTaskLock → Bool) (db : SystemTaskDB) :
    Routine db { db with locks := db.locks.delete p } :=
  ⟨.none rfl rfl, rfl, fun l hl => ⟨l, (mem_delete.mp hl).1, rfl, rfl⟩, rfl⟩

variable {lock : SystemTaskLock}

theorem insertLock_held (h : db.Held) (hk : db.Knows lock.taskID lock.type) : (db.insertLock lock).2.Held := by
  unfold insertLock
  split
  next locks hl =>
    refine ⟨fun l hmem => ?_, h.overruled⟩
    rcases (mem_insert hl).mp hmem with hmem | rfl
    · exact h.known l hmem
    · exact hk
  next => exact h

theorem takeLock_held {lockedBy : String} {now lockUntil : ℤ} (h : db.Held) (hk : db.Knows taskID type) :
    (db.takeLock type taskID lockedBy now lockUntil).2.Held := by
  refine ⟨fun l' hl' => ?_, h.overruled⟩
  obtain ⟨l, hl, rfl⟩ := (mem_modify (h := fun _ => by rfl)).mp hl'
  split_ifs with hp
  · rw [← (of_decide_eq_true hp).1] at hk
    exact hk
  · exact h.known l hl

theorem insertLock_writes (lock : SystemTaskLock) (db : SystemTaskDB) : Writes db (db.insertLock lock).2 := by
  unfold insertLock
  split <;> exact .none rfl rfl

theorem markExpired_writes (taskID : String) (now : ℤ) (db : SystemTaskDB) : Writes db (db.markExpired taskID now) := by
  by_cases hsome : ∃ t ∈ db.tasks.rows, t.taskID = taskID ∧ t.status = .running
  · rw [markExpired, if_pos hsome]
    refine .close taskID _ _ (fun _ => by rfl) rfl rfl ?_ fun t hp => ?_
    · obtain ⟨t, ht, hp⟩ := hsome
      exact ⟨t, ht, decide_eq_true hp⟩
    · obtain ⟨hid, hrunning⟩ := of_decide_eq_true hp
      exact ⟨hid, hrunning, rfl, rfl, .inr rfl⟩
  · rw [markExpired, if_neg hsome]
    exact .none rfl rfl

theorem markExpired_held (now : ℤ) (h : db.Held) (hfree : ¬ db.Locked taskID) : (db.markExpired taskID now).Held := by
  have hlocks : (db.markExpired taskID now).locks = db.locks := by
    unfold markExpired
    dsimp only
    split_ifs <;> rfl
  refine ⟨fun l hl => (markExpired_writes taskID now db).knows (h.known l (hlocks ▸ hl)), ?_⟩
  unfold markExpired
  dsimp only
  split_ifs
  · exact h.overruled
  · exact h.overruled

/-- The lock that a mark was decided on has not been taken or renewed for its task. -/
def Unclaimed (db : SystemTaskDB) : SystemTaskLabel → Prop
  | .markExpired lock => ∀ l ∈ db.locks.get? lock.type, l.taskID = lock.taskID →
      l.lockedBy = lock.lockedBy ∧ l.lockedUntil = lock.lockedUntil
  | _ => True

instance (db : SystemTaskDB) (label : SystemTaskLabel) : Decidable (db.Unclaimed label) := by
  cases label <;> unfold Unclaimed <;> infer_instance

/-- An expired lock that still stands leaves its task without a valid one: another lock on the task would be one of
the same type. -/
theorem Held.not_locked (h : db.Held) (hk : db.Knows lock.taskID lock.type) (hexp : lock.lockedUntil < db.clock)
    (hu : db.Unclaimed (.markExpired lock)) : ¬ db.Locked lock.taskID := by
  rintro ⟨l, hl, hid, _⟩
  have htype : l.type = lock.type := (hid ▸ h.known l hl).type_unique hk
  have hget : db.locks.get? lock.type = some l := htype ▸ Table.get?_pk hl
  have := (hu l hget hid).2
  omega

/-! ### Running tasks and their locks -/

/-- The task with the identifier runs. -/
def Running (db : SystemTaskDB) (taskID : String) : Prop := ∃ t ∈ db.tasks.rows, t.taskID = taskID ∧ t.status = .running

instance (db : SystemTaskDB) (taskID : String) : Decidable (db.Running taskID) := by
  unfold Running
  infer_instance

def Tied (db : SystemTaskDB) : Prop :=
  ∀ t ∈ db.tasks.rows, t.status = .running → ∃ l ∈ db.locks.rows, l.taskID = t.taskID ∧ l.type = t.type

/-- The statements that could leave a running task without a lock do not: a task is set running while the lock of its
type names it, and the lock that is taken over, given up or deleted is not that of a running task. -/
def Tethered (db : SystemTaskDB) : SystemTaskLabel → Prop
  | .setRunning id type => ∀ t ∈ db.tasks.rows, t.id = id ∧ t.type = type ∧ t.status = .pending →
      ∃ l ∈ db.locks.rows, l.taskID = t.taskID ∧ l.type = type
  | .takeLock type now => ∀ l ∈ db.locks.rows, l.type = type ∧ l.lockedUntil < now → ¬ db.Running l.taskID
  | .giveUp taskID lockedBy => ∀ l ∈ db.locks.rows, l.taskID = taskID ∧ l.lockedBy = lockedBy → ¬ db.Running taskID
  | .deleteStale lock now => ∀ l ∈ db.locks.rows, l.type = lock.type ∧ l.taskID = lock.taskID ∧
      l.lockedBy = lock.lockedBy ∧ l.lockedUntil < now → ¬ db.Running lock.taskID
  | _ => True

instance (db : SystemTaskDB) (label : SystemTaskLabel) : Decidable (db.Tethered label) := by
  cases label <;> unfold Tethered <;> infer_instance

theorem tied_of_same (h : db.Tied)
    (htasks : ∀ t' ∈ db'.tasks.rows, t'.status = .running →
      ∃ t ∈ db.tasks.rows, t.status = .running ∧ t.taskID = t'.taskID ∧ t.type = t'.type)
    (hlocks : ∀ l ∈ db.locks.rows, ∃ l' ∈ db'.locks.rows, l'.taskID = l.taskID ∧ l'.type = l.type) : db'.Tied := by
  intro t' ht' hrunning'
  obtain ⟨t, ht, hrunning, hid, htype⟩ := htasks t' ht' hrunning'
  obtain ⟨l, hl, hlid, hltype⟩ := h t ht hrunning
  obtain ⟨l', hl', hlid', hltype'⟩ := hlocks l hl
  exact ⟨l', hl', hlid'.trans (hlid.trans hid), hltype'.trans (hltype.trans htype)⟩

theorem running_modify {p : SystemTask → Bool} {f : SystemTask → SystemTask}
    {h : ∀ t, keys (f t) = keys t} (htasks : db'.tasks = db.tasks.modify p f h)
    (hrow : ∀ t, p t = true → (f t).type = t.type ∧ ((f t).status = .running → t.status = .running)) :
    ∀ t' ∈ db'.tasks.rows, t'.status = .running →
      ∃ t ∈ db.tasks.rows, t.status = .running ∧ t.taskID = t'.taskID ∧ t.type = t'.type := by
  intro t' ht' hrunning
  rw [htasks] at ht'
  obtain ⟨t, ht, rfl⟩ := mem_modify.mp ht'
  refine ⟨t, ht, ?_⟩
  split_ifs at hrunning ⊢ with hp
  · exact ⟨(hrow t hp).2 hrunning, (taskID_of_keys (h t)).symm, (hrow t hp).1.symm⟩
  · exact ⟨hrunning, rfl, rfl⟩

theorem insertTask_tied {taskID type payload state : String} (h : db.Tied) :
    (db.insertTask taskID type payload state).2.Tied := by
  unfold insertTask
  dsimp only
  split_ifs with hkey
  · exact h
  · split
    next tasks hinsert =>
      refine tied_of_same h (fun t' ht' hrunning => ?_) fun l hl => ⟨l, hl, rfl, rfl⟩
      rcases (mem_insert hinsert).mp ht' with ht' | rfl
      · exact ⟨t', ht', hrunning, rfl, rfl⟩
      · cases hrunning
    next => exact h

theorem finish_tied {taskID lockedBy : String} {status : SystemTaskStatus} (hs : status = .succeeded ∨ status = .failed)
    {result error : String} {now : ℤ} (h : db.Tied) : (db.finish taskID lockedBy status result error now).2.Tied := by
  unfold finish
  dsimp only
  split_ifs
  · refine tied_of_same h (running_modify (h := fun _ => by rfl) rfl fun t _ => ⟨rfl, fun hrunning => ?_⟩)
      fun l hl => ⟨l, hl, rfl, rfl⟩
    have hrunning : status = .running := hrunning
    rcases hs with hs | hs <;> rw [hs] at hrunning <;> cases hrunning
  · exact h

theorem markExpired_tied {taskID : String} {now : ℤ} (h : db.Tied) : (db.markExpired taskID now).Tied := by
  unfold markExpired
  dsimp only
  split_ifs
  · exact tied_of_same h (running_modify (h := fun _ => by rfl) rfl fun t _ => ⟨rfl, fun hrunning => by cases hrunning⟩)
      fun l hl => ⟨l, hl, rfl, rfl⟩
  · exact tied_of_same h (running_modify (h := fun _ => by rfl) rfl fun t _ => ⟨rfl, fun hrunning => by cases hrunning⟩)
      fun l hl => ⟨l, hl, rfl, rfl⟩
  · exact h

theorem renew_tied {taskID lockedBy : String} {lockUntil now : ℤ} (h : db.Tied) :
    (db.renew taskID lockedBy lockUntil now).2.Tied := by
  refine tied_of_same h (fun t ht hrunning => ⟨t, ht, hrunning, rfl, rfl⟩) fun l hl => ?_
  refine ⟨_, (mem_modify (h := fun _ => by rfl)).mpr ⟨l, hl, rfl⟩, ?_⟩
  split_ifs <;> exact ⟨rfl, rfl⟩

theorem insertLock_tied {lock : SystemTaskLock} (h : db.Tied) : (db.insertLock lock).2.Tied := by
  unfold insertLock
  split
  next locks hinsert =>
    exact tied_of_same h (fun t ht hrunning => ⟨t, ht, hrunning, rfl, rfl⟩) fun l hl =>
      ⟨l, (mem_insert hinsert).mpr (.inl hl), rfl, rfl⟩
  next => exact h

theorem takeLock_tied {type taskID lockedBy : String} {now lockUntil : ℤ} (h : db.Tied)
    (ht : db.Tethered (.takeLock type now)) : (db.takeLock type taskID lockedBy now lockUntil).2.Tied := by
  intro t hmem hrunning
  obtain ⟨l, hl, hid, htype⟩ := h t hmem hrunning
  have hkept : ¬ (l.type = type ∧ l.lockedUntil < now) := fun hl' => ht l hl hl' ⟨t, hmem, hid.symm, hrunning⟩
  refine ⟨l, (mem_modify (h := fun _ => by rfl)).mpr ⟨l, hl, ?_⟩, hid, htype⟩
  rw [if_neg]
  exact fun hp => hkept (of_decide_eq_true hp)

theorem setRunning_tied {id : ℤ} {type runnerID : String} {now : ℤ} (h : db.Tied)
    (ht : db.Tethered (.setRunning id type)) : (db.setRunning id type runnerID now).2.Tied := by
  intro t' ht' hrunning
  obtain ⟨t, hmem, rfl⟩ := (mem_modify (h := fun _ => by rfl)).mp ht'
  split_ifs at hrunning ⊢ with hp
  · have hp := of_decide_eq_true hp
    obtain ⟨l, hl, hid, htype⟩ := ht t hmem hp
    exact ⟨l, hl, hid, htype.trans hp.2.1.symm⟩
  · exact h t hmem hrunning

theorem delete_tied {p : SystemTaskLock → Bool} (h : db.Tied)
    (ht : ∀ l ∈ db.locks.rows, p l = true → ¬ db.Running l.taskID) : ({ db with locks := db.locks.delete p } : SystemTaskDB).Tied := by
  intro t hmem hrunning
  obtain ⟨l, hl, hid, htype⟩ := h t hmem hrunning
  refine ⟨l, mem_delete.mpr ⟨hl, ?_⟩, hid, htype⟩
  by_contra hp
  exact ht l hl (by simpa using hp) ⟨t, hmem, hid.symm, hrunning⟩

/-- A statement within a relation that keeps running tasks and their locks together, where it is tethered. -/
def Stated (R : SystemTaskDB → SystemTaskDB → Prop) (label : SystemTaskLabel) (db db' : SystemTaskDB) : Prop :=
  R db db' ∧ (db.Tied → db.Tethered label → db'.Tied)

theorem stated_refl {R : SystemTaskDB → SystemTaskDB → Prop} (h : ∀ db, R db db) (label : SystemTaskLabel)
    (db : SystemTaskDB) : Stated R label db db := ⟨h db, fun htied _ => htied⟩

end SystemTaskDB

/-! ## Programs -/

section Programs

variable {ρ : Type} {down : Statement → Bool} {T : SystemTaskLabel → SystemTaskDB → SystemTaskDB → Prop} {label : SystemTaskLabel}

theorem only_execute {α : Type} {st : Statement} {f : SystemTaskDB → α × SystemTaskDB} (h : ∀ db, T label db (f db).2) :
    Makes T (execute (ρ := ρ) down st f label) := by
  unfold execute
  split
  · exact only_pure _
  · exact only_access h

theorem only_select {α : Type} {st : Statement} {f : SystemTaskDB → α} (h : ∀ label db, T label db db) :
    Makes T (select (ρ := ρ) down st f) := by
  unfold select
  split
  · exact only_pure _
  · exact only_observe (h _)

open SystemTaskDB

theorem only_getTimestamp (h : ∀ label db, T label db db) : Makes T (getTimestamp (ρ := ρ)) := only_observe (h _)

theorem routinely (label : SystemTaskLabel) (db : SystemTaskDB) : Stated Routine label db db :=
  stated_refl routine_refl label db

theorem writes_refl (db : SystemTaskDB) : Writes db db := .none rfl rfl

theorem stated_writes (label : SystemTaskLabel) (db : SystemTaskDB) : Stated Writes label db db :=
  stated_refl writes_refl label db

theorem only_createSystemTask (taskID type payload state : String) :
    Makes (Stated Routine) (createSystemTask (ρ := ρ) down taskID type payload state) := by
  refine (only_execute fun db => ⟨insertTask_routine taskID type payload state db,
    fun h _ => insertTask_tied h⟩).bind fun r => ?_
  split <;> exact only_pure _

theorem only_release (taskID lockedBy : String) :
    Only Routine (releaseSystemTaskLock (ρ := ρ) down taskID lockedBy label) :=
  only_execute fun _ => delete_routine _ _

theorem only_giveUp (taskID lockedBy : String) :
    Makes (Stated Routine) (releaseSystemTaskLock (ρ := ρ) down taskID lockedBy (.giveUp taskID lockedBy)) := by
  refine only_execute fun db => ⟨delete_routine _ _, fun htied ha => delete_tied htied fun l hl hp => ?_⟩
  have hp := of_decide_eq_true hp
  exact hp.1 ▸ ha l hl hp

theorem only_updateSystemTaskState (taskID lockedBy state : String) :
    Makes (Stated Routine) (updateSystemTaskState (ρ := ρ) down taskID lockedBy state) := by
  refine (only_getTimestamp routinely).bind fun now => ?_
  refine (only_execute fun db => ⟨routine_tasks (.update _ _ (fun _ => by rfl) rfl rfl fun _ _ => ⟨rfl, rfl, .inl rfl⟩) rfl rfl rfl,
    fun h _ => tied_of_same h (running_modify (h := fun _ => by rfl) rfl fun t _ => ⟨rfl, id⟩) fun l hl =>
      ⟨l, hl, rfl, rfl⟩⟩).bind fun r => ?_
  split
  · exact only_pure _
  · exact only_pure _
  · refine (only_select routinely).bind fun r => ?_
    split <;> exact only_pure _

theorem only_renewSystemTaskLock (taskID lockedBy : String) (lockUntil : ℤ) :
    Makes (Stated Routine) (renewSystemTaskLock (ρ := ρ) down taskID lockedBy lockUntil) := by
  refine (only_getTimestamp routinely).bind fun now => ?_
  refine (only_execute fun db => ⟨renew_routine taskID lockedBy lockUntil now db,
    fun h _ => renew_tied h⟩).bind fun r => ?_
  split <;> exact only_pure _

theorem only_finishSystemTask (taskID lockedBy : String) {status : SystemTaskStatus}
    (hs : status = .succeeded ∨ status = .failed) (result error : String) :
    Only Routine (finishSystemTask (ρ := ρ) down taskID lockedBy status result error) := by
  refine (only_getTimestamp fun _ => routine_refl).bind fun now => ?_
  refine (only_execute (finish_routine taskID lockedBy hs result error now)).bind fun r => ?_
  split
  · exact only_pure _
  · exact only_pure _
  · exact only_release taskID lockedBy

theorem only_runLockedTask (task : SystemTask) (id : ℤ) (type runnerID : String) (now : ℤ) :
    Makes (Stated Routine) (runLockedTask (ρ := ρ) down task id type runnerID now) := by
  refine (only_execute fun db => ⟨setRunning_routine id type runnerID now db,
    fun htied ha => setRunning_tied htied ha⟩).bind fun r => ?_
  split
  · exact (only_giveUp _ _).bind fun _ => only_pure _
  · exact (only_giveUp _ _).bind fun _ => only_pure _
  · refine (only_select routinely).bind fun r => ?_
    split <;> exact only_pure _

theorem only_markSystemTaskLeaseExpired (lock : SystemTaskLock) :
    Makes (Stated Writes) (markSystemTaskLeaseExpired (ρ := ρ) down lock) := by
  refine (only_getTimestamp stated_writes).bind fun now => ?_
  split
  · exact only_pure _
  · exact only_access fun db => ⟨markExpired_writes lock.taskID now db, fun h _ => markExpired_tied h⟩

theorem only_markTakenOver (taskID : String) (expired : Option SystemTaskLock) :
    Makes (Stated Writes) (markTakenOver (ρ := ρ) down taskID expired) := by
  cases expired with
  | none => exact only_pure _
  | some lock =>
    rw [markTakenOver]
    split_ifs
    · exact only_markSystemTaskLeaseExpired lock
    · exact only_pure _

theorem only_acquireSystemTaskLock (type taskID lockedBy : String) (now lockUntil : ℤ) :
    Makes (Stated Writes) (acquireSystemTaskLock (ρ := ρ) down type taskID lockedBy now lockUntil) := by
  refine (only_execute fun db => ⟨insertLock_writes _ db, fun h _ => insertLock_tied h⟩).bind fun r => ?_
  split
  · exact only_pure _
  refine (only_select stated_writes).bind fun r => ?_
  split
  · exact only_pure _
  · exact only_pure _
  split
  · exact only_pure _
  refine (only_execute fun db => ⟨.none rfl rfl, fun htied ha => takeLock_tied htied ha⟩).bind fun r => ?_
  split <;> exact only_pure _

theorem SystemTaskDB.Stated.writes {db db' : SystemTaskDB} (h : Stated Routine label db db') : Stated Writes label db db' :=
  ⟨h.1.writes, h.2⟩

theorem only_claimSystemTask (id : ℤ) (type runnerID : String) (lockUntil : ℤ) :
    Makes (Stated Writes) (claimSystemTask (ρ := ρ) down id type runnerID lockUntil) := by
  refine (only_getTimestamp stated_writes).bind fun now => (only_select stated_writes).bind fun r => ?_
  split
  · exact only_pure _
  · exact only_pure _
  next task =>
    refine (only_acquireSystemTaskLock type task.taskID runnerID now lockUntil).bind fun r => ?_
    split
    · exact only_pure _
    · exact only_pure _
    next expired =>
      refine (only_markTakenOver task.taskID expired).bind fun r => ?_
      split
      · exact ((only_giveUp _ _).mono fun _ _ _ h => h.writes).bind fun _ => only_pure _
      · exact (only_runLockedTask task id type runnerID now).mono fun _ _ _ h => h.writes

theorem only_expireLocks (now : ℤ) (locks : List SystemTaskLock) :
    Makes (Stated Writes) (expireLocks (ρ := ρ) down now locks) := by
  induction locks with
  | nil => exact only_pure _
  | cons lock locks ih =>
    refine (only_markSystemTaskLeaseExpired lock).bind fun r => ?_
    split
    · exact only_pure _
    · refine (only_execute fun db => ⟨.none rfl rfl, fun htied ha => delete_tied htied fun l hl hp => ?_⟩).bind fun r => ?_
      · split
        · exact only_pure _
        · exact ih
      · have hp := of_decide_eq_true hp
        rw [hp.2.1]
        exact ha l hl hp

theorem only_expireStale : Makes (Stated Writes) (expireStaleSystemTaskLocks (ρ := ρ) down) := by
  refine (only_getTimestamp stated_writes).bind fun now => (only_select stated_writes).bind fun r => ?_
  split
  · exact only_pure _
  · exact only_expireLocks now _

theorem finished_status (ok : Bool) :
    (if ok then SystemTaskStatus.succeeded else .failed) = .succeeded ∨ (if ok then SystemTaskStatus.succeeded else .failed) = .failed := by
  cases ok
  · exact .inr rfl
  · exact .inl rfl

theorem SystemTaskCall.within (c : SystemTaskCall) : Within Writes c.body := by
  have hwithin : ∀ {α : Type} {p : Program SystemTaskDB SystemTaskLabel SystemTaskAnswer α}
      {k : α → SystemTaskAnswer}, Only Writes p → Within Writes (p fun a => .done (k a)) :=
    fun hp => hp.within fun _ => trivial
  cases c with
  | create => exact hwithin ((only_createSystemTask _ _ _ _).mono fun _ _ _ h => h.1.writes)
  | claim => exact hwithin ((only_claimSystemTask _ _ _ _).mono fun _ _ _ h => h.1)
  | update => exact hwithin ((only_updateSystemTaskState _ _ _).mono fun _ _ _ h => h.1.writes)
  | renew => exact hwithin ((only_renewSystemTaskLock _ _ _).mono fun _ _ _ h => h.1.writes)
  | finish down taskID lockedBy ok =>
    exact hwithin ((only_finishSystemTask _ _ (finished_status ok) _ _).mono fun _ _ _ h => h.writes)
  | expireStale => exact hwithin (only_expireStale.mono fun _ _ _ h => h.1)

/-! ### The protocol of the locks -/

/-- The clock does not go back and no task disappears; a mark finds the lock that it was decided on. -/
def leasing : Protocol SystemTaskDB SystemTaskLabel where
  inv := SystemTaskDB.Held
  rely db db' := db.clock ≤ db'.clock ∧ ∀ taskID type, db.Knows taskID type → db'.Knows taskID type
  admits := Unclaimed
  refl _ := ⟨le_refl _, fun _ _ h => h⟩
  trans h h' := ⟨h.1.trans h'.1, fun taskID type hk => h'.2 taskID type (h.2 taskID type hk)⟩

variable {db db' : SystemTaskDB}

theorem leasing_rely (hc : db'.clock = db.clock) (hw : Writes db db') : leasing.rely db db' :=
  ⟨hc.ge, fun _ _ => hw.knows⟩

theorem leasing_ignores : leasing.Ignores Routine := fun _ _ h hh => ⟨h.held hh, leasing_rely h.clock h.writes⟩

theorem ensures_routine {α : Type} {p : Program SystemTaskDB SystemTaskLabel ρ α} (hp : Makes (Stated Routine) p)
    (hi : db.Held) : Ensures leasing p db fun _ _ => True :=
  Only.ensures (hp.mono fun _ _ _ h => h.1) leasing_ignores hi

section Ensures

variable {α : Type} {db : SystemTaskDB} {st : Statement} {label : SystemTaskLabel}
  {Q : Except SystemTaskErr α → SystemTaskDB → Prop}

theorem ensures_execute {f : SystemTaskDB → α × SystemTaskDB} (hi : db.Held) (herror : Q (.error .database) db)
    (h : ∀ db', leasing.rely db db' → db'.Held →
      (f db').2.Held ∧ leasing.rely db' (f db').2 ∧ Q (.ok (f db').1) (f db').2) :
    Ensures leasing (execute (ρ := ρ) down st f label) db Q := by
  unfold execute
  split
  · exact ensures_pure hi herror
  · exact ensures_access fun db' hr hi' _ => h db' hr hi'

theorem ensures_select {f : SystemTaskDB → α} (hi : db.Held) (herror : Q (.error .database) db)
    (h : ∀ db', leasing.rely db db' → db'.Held → Q (.ok (f db')) db') :
    Ensures leasing (select (ρ := ρ) down st f) db Q := by
  unfold select
  split
  · exact ensures_pure hi herror
  · exact ensures_access fun db' hr hi' _ => ⟨hi', leasing.refl db', h db' hr hi'⟩

end Ensures

/-- A lock that has been read: it has expired, and it is on a task of its type. -/
def Stale (lock : SystemTaskLock) (db : SystemTaskDB) : Prop :=
  lock.lockedUntil < db.clock ∧ db.Knows lock.taskID lock.type

variable {lock : SystemTaskLock}

theorem Stale.later (h : Stale lock db) (hr : leasing.rely db db') :
    Stale lock db' := ⟨h.1.trans_le hr.1, hr.2 _ _ h.2⟩

theorem ensures_mark (h : Stale lock db) :
    Ensures leasing (markSystemTaskLeaseExpired (ρ := ρ) down lock) db fun _ _ => True := by
  refine ensures_observe_bind fun db1 hr1 hi1 => ?_
  split
  · exact ensures_pure hi1 trivial
  · refine ensures_access fun db2 hr2 hi2 hu => ?_
    have hstale := (h.later hr1).later hr2
    exact ⟨markExpired_held _ hi2 (hi2.not_locked hstale.2 hstale.1 hu),
      leasing_rely (by unfold markExpired; dsimp only; split_ifs <;> rfl) (markExpired_writes _ _ _), trivial⟩

/-- What has been acquired: a lock that was taken over had expired. -/
def Acquired (r : Except SystemTaskErr (Bool × Option SystemTaskLock)) (db : SystemTaskDB) : Prop :=
  ∀ lock, r = .ok (true, some lock) → Stale lock db

variable {taskID lockedBy : String}

theorem ensures_takeOver {type : String} {now : ℤ} (lockUntil : ℤ) (hi : db.Held) (hk : db.Knows taskID type)
    (hnow : now ≤ db.clock) :
    Ensures leasing (takeOverSystemTaskLock (ρ := ρ) down type taskID lockedBy now lockUntil) db Acquired := by
  refine (ensures_select (Q := fun r db' => ∀ lock, r = .ok (some lock) → db'.Knows lock.taskID lock.type) hi
    (fun _ h => by cases h) fun db1 _ hi1 lock h => ?_).bind fun r db1 hr1 hi1 hread => ?_
  · have hget := Except.ok.inj h
    exact hi1.known lock (Table.get?_eq_some.mp hget).1
  split
  · exact ensures_pure hi1 fun _ h => by cases h
  · exact ensures_pure hi1 fun _ h => by cases h
  next existing =>
    split
    · exact ensures_pure hi1 fun _ h => by cases h
    next hexp =>
      have hstale : Stale existing db1 := ⟨(not_le.mp hexp).trans_le (hnow.trans hr1.1), hread existing rfl⟩
      refine (ensures_execute (Q := fun _ db' => Stale existing db') hi1 hstale
        fun db2 hr2 hi2 => ⟨takeLock_held hi2 (hr2.2 _ _ (hr1.2 _ _ hk)), ?_, ?_⟩).bind fun r db3 _ hi3 hstale3 => ?_
      · exact leasing_rely rfl (.none rfl rfl)
      · exact (hstale.later hr2).later (leasing_rely rfl (.none rfl rfl))
      split
      · exact ensures_pure hi3 fun _ h => by cases h
      · exact ensures_pure hi3 fun _ h => by cases h
      · refine ensures_pure hi3 fun lock h => ?_
        cases h
        exact hstale3

theorem ensures_acquire {type : String} {now : ℤ} (lockUntil : ℤ) (hi : db.Held) (hk : db.Knows taskID type)
    (hnow : now ≤ db.clock) :
    Ensures leasing (acquireSystemTaskLock (ρ := ρ) down type taskID lockedBy now lockUntil) db Acquired := by
  refine (ensures_execute (Q := fun _ _ => True) hi trivial fun db1 hr1 hi1 =>
    ⟨insertLock_held hi1 (hr1.2 _ _ hk), ?_, trivial⟩).bind fun r db2 hr2 hi2 _ => ?_
  · exact leasing_rely (by unfold insertLock; split <;> rfl) (insertLock_writes _ _)
  split
  · exact ensures_pure hi2 fun _ h => by cases h
  · exact ensures_takeOver lockUntil hi2 (hr2.2 _ _ hk) (hnow.trans hr2.1)

theorem ensures_markTakenOver {expired : Option SystemTaskLock} (hi : db.Held)
    (h : ∀ lock, expired = some lock → Stale lock db) :
    Ensures leasing (markTakenOver (ρ := ρ) down taskID expired) db fun _ _ => True := by
  cases expired with
  | none => exact ensures_pure hi trivial
  | some lock =>
    rw [markTakenOver]
    split_ifs
    · exact ensures_mark (h lock rfl)
    · exact ensures_pure hi trivial

theorem ensures_claim (id : ℤ) (type runnerID : String) (lockUntil : ℤ) (db : SystemTaskDB) :
    Ensures leasing (claimSystemTask (ρ := ρ) down id type runnerID lockUntil) db fun _ _ => True := by
  refine ensures_observe_bind fun db1 _ hi1 => ?_
  refine (ensures_select (Q := fun r db' => ∀ task, r = .ok (some task) → db'.Knows task.taskID type) hi1
    (fun _ h => by cases h) fun db2 _ _ task h => ?_).bind fun r db2 hr2 hi2 hread => ?_
  · obtain ⟨hmem, hp⟩ := Table.find?_eq_some (Except.ok.inj h)
    exact ⟨task, hmem, rfl, (of_decide_eq_true hp).2.1⟩
  split
  · exact ensures_pure hi2 trivial
  · exact ensures_pure hi2 trivial
  next task =>
    refine (ensures_acquire lockUntil hi2 (hread task rfl) hr2.1).bind fun r db3 _ hi3 hacq => ?_
    split
    · exact ensures_pure hi3 trivial
    · exact ensures_pure hi3 trivial
    next expired =>
      refine (ensures_markTakenOver hi3 fun lock h => hacq lock (by rw [h])).bind fun r db4 _ hi4 _ => ?_
      split
      · exact Only.ensures ((only_release _ _).bind fun _ => only_pure _) leasing_ignores hi4
      · exact ensures_routine (only_runLockedTask task id type runnerID _) hi4

theorem ensures_expireLocks (now : ℤ) {locks : List SystemTaskLock} (hi : db.Held) (h : ∀ lock ∈ locks, Stale lock db) :
    Ensures leasing (expireLocks (ρ := ρ) down now locks) db fun _ _ => True := by
  induction locks generalizing db with
  | nil => exact ensures_pure hi trivial
  | cons lock locks ih =>
    refine (ensures_mark (h lock mem_cons_self)).bind fun r db1 hr1 hi1 _ => ?_
    split
    · exact ensures_pure hi1 trivial
    refine (Only.ensures (only_execute fun _ => delete_routine _ _) leasing_ignores hi1).bind fun r db2 hr2 hi2 _ => ?_
    split
    · exact ensures_pure hi2 trivial
    · exact ih hi2 fun l hl => ((h l (mem_cons_of_mem lock hl)).later hr1).later hr2

theorem ensures_expireStale (db : SystemTaskDB) :
    Ensures leasing (expireStaleSystemTaskLocks (ρ := ρ) down) db fun _ _ => True := by
  refine ensures_observe_bind fun db1 _ hi1 => ?_
  refine (ensures_select (Q := fun r db' => ∀ locks, r = .ok locks → ∀ lock ∈ locks, Stale lock db') hi1
    (fun _ h => by cases h) fun db2 hr2 hi2 locks h lock hl => ?_).bind fun r db2 _ hi2 hread => ?_
  · rw [← Except.ok.inj h] at hl
    obtain ⟨hmem, hp⟩ := mem_filter.mp hl
    exact ⟨(of_decide_eq_true hp).trans_le hr2.1, hi2.known lock hmem⟩
  split
  · exact ensures_pure hi2 trivial
  · exact ensures_expireLocks _ hi2 (hread _ rfl)

theorem SystemTaskCall.meets (c : SystemTaskCall) (hi : db.Held) : Meets leasing (fun _ _ => True) c.body db := by
  have hmeets : ∀ {α : Type} {p : Program SystemTaskDB SystemTaskLabel SystemTaskAnswer α} {k : α → SystemTaskAnswer},
      Ensures leasing p db (fun _ _ => True) → Meets leasing (fun _ _ => True) (p fun a => .done (k a)) db :=
    fun hp => hp.meets fun _ _ _ _ _ _ _ _ => trivial
  cases c with
  | create => exact hmeets (ensures_routine (only_createSystemTask _ _ _ _) hi)
  | claim => exact hmeets (ensures_claim _ _ _ _ db)
  | update => exact hmeets (ensures_routine (only_updateSystemTaskState _ _ _) hi)
  | renew => exact hmeets (ensures_routine (only_renewSystemTaskLock _ _ _) hi)
  | finish down taskID lockedBy ok =>
    exact hmeets ((only_finishSystemTask _ _ (finished_status ok) _ _).ensures leasing_ignores hi)
  | expireStale => exact hmeets (ensures_expireStale db)

end Programs

/-! ## Interleavings -/

abbrev SystemTaskSystem := System SystemTaskDB SystemTaskLabel SystemTaskAnswer

/-- Every mark finds the lock that it was decided on. -/
def MarksStand (s : SystemTaskSystem) (m : Move SystemTaskCall ℕ) : Prop :=
  Admitted SystemTaskDB.Unclaimed (fun _ _ => True) (fun _ _ => True) s m

instance (s : SystemTaskSystem) (m : Move SystemTaskCall ℕ) : Decidable (MarksStand s m) := by
  unfold MarksStand
  infer_instance

open SystemTaskDB in
/-- **In every interleaving in which the marks find the locks that they were decided on, a type has at most one
runner that can update or finish a task, no task is marked while it has a valid lock, each task ends at most once,
at most one task of a type is active, and the status of a task moves forward.** -/
theorem one_effective_runner {s : SystemTaskSystem} {l : List (Move SystemTaskCall ℕ)} (horder : s.store.Orderly)
    (hheld : s.store.Held) (hpool : s.pool = [])
    (hl : Runs.Along (Concurrent.step SystemTaskCall.body SystemTaskDB.pass) MarksStand s l) :
    let s' := Runs.run (Concurrent.step SystemTaskCall.body SystemTaskDB.pass) s l
    (∀ r₁ r₂ now₁ now₂, ∀ t₁ ∈ s'.store.tasks.rows, ∀ t₂ ∈ s'.store.tasks.rows, t₁.type = t₂.type →
      s'.store.Leased r₁ now₁ t₁ → s'.store.Leased r₂ now₂ t₂ → r₁ = r₂) ∧
    (∀ m, s'.store.TaskMoves (Concurrent.step SystemTaskCall.body SystemTaskDB.pass s' m).store) ∧
    s'.store.ended.Nodup ∧
    s'.store.overruled = [] ∧
    ∀ t₁ ∈ s'.store.tasks.rows, ∀ t₂ ∈ s'.store.tasks.rows, t₁.type = t₂.type →
      t₁.status.Active → t₂.status.Active → t₁ = t₂ := by
  have hempty : ∀ p ∈ s.pool, Within SystemTaskDB.Writes p := by simp [hpool]
  have henv : ∀ (n : ℕ) db, SystemTaskDB.Writes db (SystemTaskDB.pass n db) := fun _ _ => .none rfl rfl
  have hwithin := pool_within writes_refl SystemTaskCall.within henv hempty l
  have ho := run_within writes_refl (fun _ _ => SystemTaskDB.writes_orderly) SystemTaskCall.within henv horder hempty l
  have hkeeps : Keeps leasing (fun _ _ _ => True) SystemTaskCall.body SystemTaskDB.pass (fun _ _ => True)
      (fun _ _ => True) := by
    refine ⟨fun db c _ hi _ => c.meets hi, fun db n hi _ => ⟨⟨hi.known, hi.overruled⟩, ?_, fun _ _ hk => hk⟩⟩
    show db.clock ≤ db.clock + n
    omega
  have hconf := (run_conforms hkeeps ⟨hheld, by simp [hpool]⟩ hl).1.inv
  refine ⟨fun r₁ r₂ now₁ now₂ t₁ h1 t₂ h2 ht l1 l2 => ?_, fun m => ?_, ho.nodup, hconf.overruled,
    fun t₁ h1 t₂ h2 ht a1 a2 => (ho.unique t₁ h1 t₂ h2 t₁.type (ho.key t₁ h1 a1) (ht ▸ ho.key t₂ h2 a2))⟩
  · obtain ⟨-, -, a, ha, haid, rfl, -⟩ := l1
    obtain ⟨-, -, b, hb, hbid, rfl, -⟩ := l2
    have hatype : a.type = t₁.type := (haid ▸ hconf.known a ha).type_unique ⟨t₁, h1, rfl, rfl⟩
    have hbtype : b.type = t₂.type := (hbid ▸ hconf.known b hb).type_unique ⟨t₂, h2, rfl, rfl⟩
    rw [Table.eq_of_pk _ ha hb (hatype.trans (ht.trans hbtype.symm))]
  exact SystemTaskDB.writes_taskMoves (step_within writes_refl SystemTaskCall.within henv hwithin m).1

/-- Two tables without rows. -/
def sampleTaskDB : SystemTaskDB := { clock := 0, tasks := .empty, locks := .empty, nextID := 1 }

theorem sampleTaskDB_orderly : sampleTaskDB.Orderly := by
  refine ⟨?_, ?_, ?_, nodup_nil⟩ <;> simp [sampleTaskDB]

theorem sampleTaskDB_held : sampleTaskDB.Held := ⟨by simp [sampleTaskDB], rfl⟩

/-- A runner claims a task and stops, its lock expires and the task is marked; a second task is claimed and finished. -/
def sampleCrash : List (Move SystemTaskCall ℕ) :=
  let up : Statement → Bool := fun _ => false
  [.start (.create up "a" "log_cleanup" "" ""), .run 0, .start (.claim up 1 "log_cleanup" "r1" 10),
    .run 1, .run 1, .run 1, .run 1, .run 1, .env 11, .start (.expireStale up), .run 2, .run 2, .run 2, .run 2, .run 2,
    .start (.create up "b" "log_cleanup" "" ""), .run 3, .start (.claim up 2 "log_cleanup" "r2" 60),
    .run 4, .run 4, .run 4, .run 4, .run 4, .start (.finish up "b" "r2" true "" ""), .run 5, .run 5, .run 5]

theorem one_effective_runner_of_crash :
    Runs.Along (Concurrent.step SystemTaskCall.body SystemTaskDB.pass) MarksStand ⟨sampleTaskDB, []⟩ sampleCrash ∧
    (Runs.run (Concurrent.step SystemTaskCall.body SystemTaskDB.pass) ⟨sampleTaskDB, []⟩ sampleCrash).store.ended = ["b", "a"] ∧
    (Runs.run (Concurrent.step SystemTaskCall.body SystemTaskDB.pass) ⟨sampleTaskDB, []⟩ sampleCrash).store.overruled = [] := by
  have hl : Runs.Along (Concurrent.step SystemTaskCall.body SystemTaskDB.pass) MarksStand ⟨sampleTaskDB, []⟩ sampleCrash := by
    decide
  exact ⟨hl, by decide, (one_effective_runner sampleTaskDB_orderly sampleTaskDB_held rfl hl).2.2.2.1⟩

/-- A runner stops after it has locked a task. Its lock expires and is read as stale; a second runner takes the lock
over and runs the task; then the mark is made. -/
def sampleLateMark : List (Move SystemTaskCall ℕ) :=
  let up : Statement → Bool := fun _ => false
  [.start (.create up "a" "log_cleanup" "" ""), .run 0, .start (.claim up 1 "log_cleanup" "r1" 10), .run 1, .run 1, .run 1,
    .env 11, .start (.expireStale up), .run 2, .run 2, .run 2, .start (.claim up 1 "log_cleanup" "r2" 60),
    .run 3, .run 3, .run 3, .run 3, .run 3, .run 3, .run 3, .run 2]

/-- A mark that comes late fails a task that runs under a valid lock. -/
theorem mark_of_reclaimed_task :
    let s := Runs.run (Concurrent.step SystemTaskCall.body SystemTaskDB.pass) ⟨sampleTaskDB, []⟩ sampleLateMark
    s.store.overruled = ["a"] ∧ s.store.locks.rows = [⟨"log_cleanup", "a", "r2", 60, 11⟩] ∧ s.store.clock = 11 ∧
    s.store.tasks.rows.map (fun t => (t.taskID, t.status, t.lockedBy, t.error)) =
      [("a", .failed, "r2", "task lease expired")] := by
  decide

end Desktop2Stereo
