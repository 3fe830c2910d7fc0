import Mathlib

/-!
# Polling of asynchronous tasks

`RunTaskPollingOnce` puts the unfinished tasks of a platform into two maps, the upstream ids of each channel and the
tasks by their upstream ids; `UpdateBatchTasks` and `UpdateVideoTasks` join them again.
-/

namespace Desktop2Stereo

/-- The columns of `tasks` that the grouping reads, with `PrivateData.UpstreamTaskID`. -/
structure Task where
  id : ℤ
  taskID : String := ""
  channelId : ℤ
  upstreamTaskID : String := ""
  deriving DecidableEq

def Task.getUpstreamTaskID (t : Task) : String := if t.upstreamTaskID ≠ "" then t.upstreamTaskID else t.taskID

structure TaskGroups where
  taskChannelM : ℤ → List String := fun _ => []
  taskM : String → Option Task := fun _ => none
  nullTaskIds : List ℤ := []

/-- The body of the loop over the tasks of a platform. -/
def TaskGroups.add (g : TaskGroups) (task : Task) : TaskGroups :=
  let upstreamID := task.getUpstreamTaskID
  if upstreamID = "" then { g with nullTaskIds := g.nullTaskIds ++ [task.id] }
  else
    { g with
      taskM := Function.update g.taskM upstreamID (some task)
      taskChannelM :=
        Function.update g.taskChannelM task.channelId (g.taskChannelM task.channelId ++ [upstreamID]) }

def groupTasks (tasks : List Task) : TaskGroups := tasks.foldl TaskGroups.add {}

/-- A loop over the keys of `taskChannelM`, in any order. -/
def TaskGroups.Ranges (g : TaskGroups) (channelIDs : List ℤ) : Prop :=
  channelIDs.Nodup ∧ ∀ c, c ∈ channelIDs ↔ g.taskChannelM c ≠ []

inductive PollAct
  | fetchBatchTasks (channelId : ℤ) (tasks : List Task)
  | fetchTask (channelId : ℤ) (task : Task)
  /-- the channel is not there, and the tasks are marked as failed -/
  | taskBulkUpdateByID (channelId : ℤ) (tasks : List Task)

inductive FetchMode
  | batch | video

/-- `updateBatchTasks` and `updateVideoTasks`, where `cacheGetChannel` says which channels are there. -/
def updateChannelTasks (cacheGetChannel : ℤ → Bool) (mode : FetchMode) (g : TaskGroups) (channelId : ℤ) : List PollAct :=
  let taskIds := g.taskChannelM channelId
  if taskIds = [] then []
  else if cacheGetChannel channelId = false then [.taskBulkUpdateByID channelId (taskIds.filterMap g.taskM)]
  else
    match mode with
    | .batch => [.fetchBatchTasks channelId (taskIds.filterMap g.taskM)]
    | .video => taskIds.filterMap fun upstreamID => (g.taskM upstreamID).map (.fetchTask channelId)

/-- `UpdateBatchTasks` and `UpdateVideoTasks` -/
def updateTasks (cacheGetChannel : ℤ → Bool) (mode : FetchMode) (g : TaskGroups) (channelIDs : List ℤ) : List PollAct :=
  channelIDs.flatMap (updateChannelTasks cacheGetChannel mode g)

end Desktop2Stereo
