import Desktop2Stereo.Lib.Process
import Desktop2Stereo.Lib.Table

/-!
# Desktop2Stereo: background tasks and their locks

The rows of background tasks, with a lock row for each type. The functions are programs whose steps are the single
statements of the database and the looks at the clock; a statement may fail. Payloads, states and results are the
texts that are stored.
-/

namespace Desktop2Stereo

open Relational Concurrent

/-! ## Rows -/

inductive SystemTaskStatus
  | pending | running | succeeded | failed
  deriving DecidableEq

/-- `activeSystemTaskStatuses` -/
def SystemTaskStatus.Active (s : SystemTaskStatus) : Prop := s = .pending ∨ s = .running

instance : DecidablePred SystemTaskStatus.Active := fun s => by
  unfold SystemTaskStatus.Active
  infer_instance

structure SystemTask where
  id : ℤ
  taskID : String
  type : String
  status : SystemTaskStatus
  activeKey : Option String
  payload : String
  state : String
  result : String := ""
  error : String := ""
  lockedBy : String := ""
  createdAt : ℤ
  updatedAt : ℤ
  deriving DecidableEq

/-- Both identifiers are unique; rows are addressed by the one that the locks name. -/
instance : Indexed SystemTask String := .ofKeys SystemTask.taskID SystemTask.id

structure SystemTaskLock where
  type : String
  taskID : String
  lockedBy : String
  lockedUntil : ℤ
  updatedAt : ℤ
  deriving DecidableEq

instance : Indexed SystemTaskLock String := .ofKey SystemTaskLock.type

/-- The tables, the clock in seconds, and the next identifier. The last two fields are a history that no statement
reads: the tasks that were finished or marked as expired, and those that were marked while they had a valid lock. -/
structure SystemTaskDB where
  clock : ℤ
  tasks : Table SystemTask
  locks : Table SystemTaskLock
  nextID : ℤ
  ended : List String := []
  overruled : List String := []

inductive SystemTaskErr
  | database | lockLost
  deriving DecidableEq

def SystemTaskErr.text : SystemTaskErr → String
  | .database => "database error"
  | .lockLost => "system task lock lost"

/-- The statements, where a call has to say which of them fail. -/
inductive Statement
  | insertTask | selectTask | insertLock | selectLock | takeLock | mark (taskID : String) | release | setRunning | reload
  | saveState | confirm | renew | finish | selectStale | deleteStale (type : String)
  deriving DecidableEq

/-- What a process is about to do: mark the task of a lock that it has read, take a lock over, set a task running, give
up a lock that it has acquired, delete a lock that it has read, or another statement. -/
inductive SystemTaskLabel
  | markExpired (lock : SystemTaskLock)
  | takeLock (type : String) (now : ℤ)
  | setRunning (id : ℤ) (type : String)
  | giveUp (taskID lockedBy : String)
  | deleteStale (lock : SystemTaskLock) (now : ℤ)
  | statement

/-! ## Statements -/

namespace SystemTaskDB

def Locked (db : SystemTaskDB) (taskID : String) : Prop :=
  ∃ l ∈ db.locks.rows, l.taskID = taskID ∧ db.clock ≤ l.lockedUntil

instance (db : SystemTaskDB) (taskID : String) : Decidable (db.Locked taskID) := by
  unfold Locked
  infer_instance

/-- The `WHERE` of the updates by a runner: the task runs under its name, and so does a lock that has not expired. -/
def Leased (db : SystemTaskDB) (lockedBy : String) (now : ℤ) (t : SystemTask) : Prop :=
  t.status = .running ∧ t.lockedBy = lockedBy ∧
    ∃ l ∈ db.locks.rows, l.taskID = t.taskID ∧ l.lockedBy = lockedBy ∧ now ≤ l.lockedUntil

instance (db : SystemTaskDB) (lockedBy : String) (now : ℤ) (t : SystemTask) : Decidable (db.Leased lockedBy now t) := by
  unfold Leased
  infer_instance

/-- A new row, unless a row has the active key or one of the identifiers. -/
def insertTask (taskID type payload state : String) (db : SystemTaskDB) : Option SystemTask × SystemTaskDB :=
  let task : SystemTask := { id := db.nextID, taskID, type, status := .pending, activeKey := some type, payload, state
                             createdAt := db.clock, updatedAt := db.clock }
  if ∃ t ∈ db.tasks.rows, t.activeKey = some type then (none, db)
  else match db.tasks.insert task with
    | some tasks => (some task, { db with tasks, nextID := db.nextID + 1 })
    | none => (none, db)

def selectPending (id : ℤ) (type : String) (db : SystemTaskDB) : Option SystemTask :=
  db.tasks.find? fun t => t.id = id ∧ t.type = type ∧ t.status = .pending

/-- A new lock; the hook fills in a missing time. -/
def insertLock (lock : SystemTaskLock) (db : SystemTaskDB) : Bool × SystemTaskDB :=
  match db.locks.insert { lock with updatedAt := if lock.updatedAt = 0 then db.clock else lock.updatedAt } with
  | some locks => (true, { db with locks })
  | none => (false, db)

def takeLock (type taskID lockedBy : String) (now lockUntil : ℤ) (db : SystemTaskDB) : Bool × SystemTaskDB :=
  let expired := fun l : SystemTaskLock => l.type = type ∧ l.lockedUntil < now
  let locks := db.locks.modify expired
    (fun l => { l with taskID, lockedBy, lockedUntil := lockUntil, updatedAt := now }) fun _ => rfl
  (db.locks.rows.any fun l => expired l, { db with locks })

def setRunning (id : ℤ) (type runnerID : String) (now : ℤ) (db : SystemTaskDB) : Bool × SystemTaskDB :=
  let pending := fun t : SystemTask => t.id = id ∧ t.type = type ∧ t.status = .pending
  let tasks := db.tasks.modify pending
    (fun t => { t with status := .running, lockedBy := runnerID, updatedAt := now }) fun _ => rfl
  (db.tasks.rows.any fun t => pending t, { db with tasks })

def markExpired (taskID : String) (now : ℤ) (db : SystemTaskDB) : SystemTaskDB :=
  let running := fun t : SystemTask => t.taskID = taskID ∧ t.status = .running
  let tasks := db.tasks.modify running
    (fun t => { t with status := .failed, activeKey := none, error := "task lease expired", updatedAt := now }) fun _ => rfl
  if ∃ t ∈ db.tasks.rows, running t then
    { db with tasks, ended := taskID :: db.ended
              overruled := if db.Locked taskID then taskID :: db.overruled else db.overruled }
  else db

def saveState (taskID lockedBy state : String) (now : ℤ) (db : SystemTaskDB) : Bool × SystemTaskDB :=
  let leased := fun t : SystemTask => t.taskID = taskID ∧ db.Leased lockedBy now t
  let tasks := db.tasks.modify leased (fun t => { t with state, updatedAt := now }) fun _ => rfl
  (db.tasks.rows.any fun t => leased t, { db with tasks })

def finish (taskID lockedBy : String) (status : SystemTaskStatus) (result error : String) (now : ℤ) (db : SystemTaskDB) :
    Bool × SystemTaskDB :=
  let leased := fun t : SystemTask => t.taskID = taskID ∧ db.Leased lockedBy now t
  let tasks := db.tasks.modify leased
    (fun t => { t with status, activeKey := none, result, error, updatedAt := now }) fun _ => rfl
  if ∃ t ∈ db.tasks.rows, leased t then (true, { db with tasks, ended := taskID :: db.ended }) else (false, db)

def renew (taskID lockedBy : String) (lockUntil now : ℤ) (db : SystemTaskDB) : Bool × SystemTaskDB :=
  let held := fun l : SystemTaskLock => l.taskID = taskID ∧ l.lockedBy = lockedBy ∧ now ≤ l.lockedUntil
  let locks := db.locks.modify held (fun l => { l with lockedUntil := lockUntil, updatedAt := now }) fun _ => rfl
  (db.locks.rows.any fun l => held l, { db with locks })

def release (taskID lockedBy : String) (db : SystemTaskDB) : SystemTaskDB :=
  { db with locks := db.locks.delete fun l => l.taskID = taskID ∧ l.lockedBy = lockedBy }

def deleteStale (lock : SystemTaskLock) (now : ℤ) (db : SystemTaskDB) : SystemTaskDB :=
  { db with locks := db.locks.delete fun l =>
      l.type = lock.type ∧ l.taskID = lock.taskID ∧ l.lockedBy = lock.lockedBy ∧ l.lockedUntil < now }

end SystemTaskDB

/-! ## Programs -/

section Programs

variable {ρ : Type} (down : Statement → Bool)

/-- A statement that changes the tables, or fails. -/
def execute {α : Type} (st : Statement) (f : SystemTaskDB → α × SystemTaskDB) (label : SystemTaskLabel := .statement) :
    Program SystemTaskDB SystemTaskLabel ρ (Except SystemTaskErr α) :=
  if down st then pure (.error .database) else access label fun db => (.ok (f db).1, (f db).2)

/-- A statement that reads the tables, or fails. -/
def select {α : Type} (st : Statement) (f : SystemTaskDB → α) :
    Program SystemTaskDB SystemTaskLabel ρ (Except SystemTaskErr α) :=
  if down st then pure (.error .database) else observe .statement fun db => .ok (f db)

def getTimestamp : Program SystemTaskDB SystemTaskLabel ρ ℤ := observe .statement SystemTaskDB.clock

/-- `CreateSystemTask`, with the identifier that it draws. -/
def createSystemTask (taskID type payload state : String) :
    Program SystemTaskDB SystemTaskLabel ρ (Except SystemTaskErr SystemTask) := do
  match ← execute down .insertTask (SystemTaskDB.insertTask taskID type payload state) with
  | .ok (some task) => pure (.ok task)
  | _ => pure (.error .database)

def takeOverSystemTaskLock (type taskID lockedBy : String) (now lockUntil : ℤ) :
    Program SystemTaskDB SystemTaskLabel ρ (Except SystemTaskErr (Bool × Option SystemTaskLock)) := do
  match ← select down .selectLock fun db => db.locks.get? type with
  | .error e => pure (.error e)
  | .ok none => pure (.ok (false, none))
  | .ok (some existing) =>
    if now ≤ existing.lockedUntil then pure (.ok (false, none))
    else match ← execute down .takeLock (SystemTaskDB.takeLock type taskID lockedBy now lockUntil) (.takeLock type now) with
      | .error e => pure (.error e)
      | .ok false => pure (.ok (false, none))
      | .ok true => pure (.ok (true, some existing))

/-- `acquireSystemTaskLock`; it also returns the lock that was taken over, of which the caller uses the task. -/
def acquireSystemTaskLock (type taskID lockedBy : String) (now lockUntil : ℤ) :
    Program SystemTaskDB SystemTaskLabel ρ (Except SystemTaskErr (Bool × Option SystemTaskLock)) := do
  match ← execute down .insertLock (SystemTaskDB.insertLock ⟨type, taskID, lockedBy, lockUntil, now⟩) with
  | .ok true => pure (.ok (true, none))
  | _ => takeOverSystemTaskLock down type taskID lockedBy now lockUntil

/-- `MarkSystemTaskLeaseExpired`, for the task of a lock that has been read. -/
def markSystemTaskLeaseExpired (lock : SystemTaskLock) :
    Program SystemTaskDB SystemTaskLabel ρ (Except SystemTaskErr Unit) := do
  let now ← getTimestamp
  if down (.mark lock.taskID) then pure (.error .database)
  else access (.markExpired lock) fun db => (.ok (), db.markExpired lock.taskID now)

def releaseSystemTaskLock (taskID lockedBy : String) (label : SystemTaskLabel := .statement) :
    Program SystemTaskDB SystemTaskLabel ρ (Except SystemTaskErr Unit) :=
  execute down .release (fun db => ((), db.release taskID lockedBy)) label

def markTakenOver (taskID : String) :
    Option SystemTaskLock → Program SystemTaskDB SystemTaskLabel ρ (Except SystemTaskErr Unit)
  | none => pure (.ok ())
  | some lock => if lock.taskID ≠ "" ∧ lock.taskID ≠ taskID then markSystemTaskLeaseExpired down lock else pure (.ok ())

/-- A task whose lock has been acquired is set running; the lock is released where that fails. -/
def runLockedTask (task : SystemTask) (id : ℤ) (type runnerID : String) (now : ℤ) :
    Program SystemTaskDB SystemTaskLabel ρ (Except SystemTaskErr (Option SystemTask)) := do
  match ← execute down .setRunning (SystemTaskDB.setRunning id type runnerID now) (.setRunning id type) with
  | .error e =>
    let _ ← releaseSystemTaskLock down task.taskID runnerID (.giveUp task.taskID runnerID)
    pure (.error e)
  | .ok false =>
    let _ ← releaseSystemTaskLock down task.taskID runnerID (.giveUp task.taskID runnerID)
    pure (.ok none)
  | .ok true =>
    match ← select down .reload fun db => db.tasks.find? fun t => t.id = id with
    | .ok (some task) => pure (.ok (some task))
    | _ => pure (.error .database)

def claimSystemTask (id : ℤ) (type runnerID : String) (lockUntil : ℤ) :
    Program SystemTaskDB SystemTaskLabel ρ (Except SystemTaskErr (Option SystemTask)) := do
  let now ← getTimestamp
  match ← select down .selectTask (SystemTaskDB.selectPending id type) with
  | .error e => pure (.error e)
  | .ok none => pure (.ok none)
  | .ok (some task) =>
    match ← acquireSystemTaskLock down type task.taskID runnerID now lockUntil with
    | .error e => pure (.error e)
    | .ok (false, _) => pure (.ok none)
    | .ok (true, expired) =>
      match ← markTakenOver down task.taskID expired with
      | .error e =>
        let _ ← releaseSystemTaskLock down task.taskID runnerID (.giveUp task.taskID runnerID)
        pure (.error e)
      | .ok _ => runLockedTask down task id type runnerID now

/-- `UpdateSystemTaskState`; where no row has changed, the lease is looked up again. -/
def updateSystemTaskState (taskID lockedBy state : String) :
    Program SystemTaskDB SystemTaskLabel ρ (Except SystemTaskErr Unit) := do
  let now ← getTimestamp
  match ← execute down .saveState (SystemTaskDB.saveState taskID lockedBy state now) with
  | .error e => pure (.error e)
  | .ok true => pure (.ok ())
  | .ok false =>
    match ← select down .confirm fun db => db.tasks.rows.any fun t => t.taskID = taskID ∧ db.Leased lockedBy now t with
    | .error e => pure (.error e)
    | .ok true => pure (.ok ())
    | .ok false => pure (.error .lockLost)

def renewSystemTaskLock (taskID lockedBy : String) (lockUntil : ℤ) :
    Program SystemTaskDB SystemTaskLabel ρ (Except SystemTaskErr Unit) := do
  let now ← getTimestamp
  match ← execute down .renew (SystemTaskDB.renew taskID lockedBy lockUntil now) with
  | .error e => pure (.error e)
  | .ok true => pure (.ok ())
  | .ok false => pure (.error .lockLost)

def finishSystemTask (taskID lockedBy : String) (status : SystemTaskStatus) (result error : String) :
    Program SystemTaskDB SystemTaskLabel ρ (Except SystemTaskErr Unit) := do
  let now ← getTimestamp
  match ← execute down .finish (SystemTaskDB.finish taskID lockedBy status result error now) with
  | .error e => pure (.error e)
  | .ok false => pure (.error .lockLost)
  | .ok true => releaseSystemTaskLock down taskID lockedBy

/-- The stale locks one after the other. -/
def expireLocks (now : ℤ) : List SystemTaskLock → Program SystemTaskDB SystemTaskLabel ρ (Except SystemTaskErr Unit)
  | [] => pure (.ok ())
  | lock :: locks => do
    match ← markSystemTaskLeaseExpired down lock with
    | .error e => pure (.error e)
    | .ok _ =>
      match ← execute down (.deleteStale lock.type) (fun db => ((), db.deleteStale lock now)) (.deleteStale lock now) with
      | .error e => pure (.error e)
      | .ok _ => expireLocks now locks

/-- `ExpireStaleSystemTaskLocks`, with the time that its caller reads. -/
def expireStaleSystemTaskLocks : Program SystemTaskDB SystemTaskLabel ρ (Except SystemTaskErr Unit) := do
  let now ← getTimestamp
  match ← select down .selectStale fun db => db.locks.rows.filter fun l => l.lockedUntil < now with
  | .error e => pure (.error e)
  | .ok locks => expireLocks down now locks

end Programs

end Desktop2Stereo
