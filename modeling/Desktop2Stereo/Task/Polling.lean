import Desktop2Stereo.Model.TaskPolling

/-!
# Which tasks are polled

The map of the tasks has one task for each upstream id, the last one. Upstream ids are issued by each channel on its
own: where two tasks have the same one, the first is not polled, and the last is polled once more, under the channel of
the first.

* `polls_updateTasks`: what is polled, in both modes;
* **`tasks_polled_once_iff`**: every task is polled once, under its own channel, just if no upstream id comes twice.
-/

namespace Desktop2Stereo

open List PollAct

def PollAct.polls : PollAct → List (ℤ × Task)
  | .fetchBatchTasks c tasks | .taskBulkUpdateByID c tasks => tasks.map (Prod.mk c)
  | .fetchTask c task => [(c, task)]

def pollable (tasks : List Task) : List Task := tasks.filter fun t => t.getUpstreamTaskID ≠ ""

/-- Each task with an upstream id is polled once, under its own channel, and nothing else is polled. -/
def PolledOnce (tasks : List Task) (polls : List (ℤ × Task)) : Prop :=
  (∀ t ∈ pollable tasks, (polls.filter fun p => p.2 = t).map Prod.fst = [t.channelId]) ∧
    ∀ p ∈ polls, p.2 ∈ pollable tasks ∧ p.1 = p.2.channelId

section Grouping

variable (tasks : List Task)

theorem taskChannelM_groupTasks (c : ℤ) : (groupTasks tasks).taskChannelM c =
    ((pollable tasks).filter fun t => t.channelId = c).map Task.getUpstreamTaskID := by
  induction tasks using List.reverseRecOn with
  | nil => rfl
  | append_singleton tasks t ih =>
    rw [groupTasks, foldl_append, ← groupTasks, pollable, filter_append, filter_append, map_append,
      ← pollable, ← ih]
    by_cases hu : t.getUpstreamTaskID = ""
    · simp [TaskGroups.add, hu]
    · by_cases hc : t.channelId = c
      · simp [TaskGroups.add, hu, hc]
      · simp [TaskGroups.add, hu, hc, Function.update_of_ne (Ne.symm hc)]

theorem taskM_groupTasks (u : String) :
    (groupTasks tasks).taskM u = ((pollable tasks).filter fun t => t.getUpstreamTaskID = u).getLast? := by
  induction tasks using List.reverseRecOn with
  | nil => rfl
  | append_singleton tasks t ih =>
    rw [groupTasks, foldl_append, ← groupTasks, pollable, filter_append, filter_append, ← pollable]
    by_cases hu : t.getUpstreamTaskID = ""
    · simp [TaskGroups.add, hu, ih]
    · by_cases hc : t.getUpstreamTaskID = u
      · subst hc
        simp [TaskGroups.add, hu]
      · simp [TaskGroups.add, hu, hc, Function.update_of_ne (Ne.symm hc), ih]

end Grouping

section Polls

variable {known : ℤ → Bool} {mode : FetchMode} {g : TaskGroups} {tasks : List Task} {channelIDs : List ℤ}

theorem polls_updateTasks : (updateTasks known mode g channelIDs).flatMap polls =
    channelIDs.flatMap fun c => ((g.taskChannelM c).filterMap g.taskM).map (Prod.mk c) := by
  rw [updateTasks, flatMap_assoc]
  refine congrArg (channelIDs.flatMap ·) (funext fun c => ?_)
  unfold updateChannelTasks
  dsimp only
  split_ifs with hnil hknown
  · simp [hnil]
  · simp [polls]
  · cases mode with
    | batch => simp [polls]
    | video =>
      induction g.taskChannelM c with
      | nil => rfl
      | cons u => cases hu : g.taskM u <;> simp_all [polls]

theorem mem_polls (hchannels : (groupTasks tasks).Ranges channelIDs) {p : ℤ × Task} :
    p ∈ (updateTasks known mode (groupTasks tasks) channelIDs).flatMap polls ↔
      ∃ t ∈ pollable tasks, t.channelId = p.1 ∧ (groupTasks tasks).taskM t.getUpstreamTaskID = some p.2 := by
  simp only [polls_updateTasks, mem_flatMap, mem_map, mem_filterMap]
  constructor
  · rintro ⟨c, -, t, ⟨u, hu, ht⟩, rfl⟩
    rw [taskChannelM_groupTasks, mem_map] at hu
    obtain ⟨s, hs, rfl⟩ := hu
    simp only [mem_filter, decide_eq_true_eq] at hs
    exact ⟨s, hs.1, hs.2, ht⟩
  · rintro ⟨s, hs, hc, ht⟩
    have hu : s.getUpstreamTaskID ∈ (groupTasks tasks).taskChannelM p.1 := by
      rw [taskChannelM_groupTasks]
      exact mem_map_of_mem (mem_filter.mpr ⟨hs, decide_eq_true hc⟩)
    exact ⟨p.1, (hchannels.2 p.1).mpr (ne_nil_of_mem hu), p.2, ⟨_, hu, ht⟩, rfl⟩

theorem upstream_of_taskM {u : String} {t : Task} (h : (groupTasks tasks).taskM u = some t) :
    t ∈ pollable tasks ∧ t.getUpstreamTaskID = u := by
  rw [taskM_groupTasks] at h
  simpa using mem_filter.mp (mem_of_getLast? h)

theorem taskM_of_distinct (hdistinct : ((pollable tasks).map Task.getUpstreamTaskID).Nodup) {t : Task}
    (ht : t ∈ pollable tasks) : (groupTasks tasks).taskM t.getUpstreamTaskID = some t := by
  cases h : (groupTasks tasks).taskM t.getUpstreamTaskID with
  | none =>
    rw [taskM_groupTasks, List.getLast?_eq_none_iff, filter_eq_nil_iff] at h
    exact absurd (decide_eq_true rfl) (h t ht)
  | some =>
    obtain ⟨hs, hu⟩ := upstream_of_taskM h
    rw [inj_on_of_nodup_map hdistinct hs ht hu]

def upstreamIDs (tasks : List Task) : List String := (pollable tasks).map Task.getUpstreamTaskID

theorem polledOnce_of_distinct (hids : (tasks.map Task.id).Nodup) (hchannels : (groupTasks tasks).Ranges channelIDs)
    (hdistinct : (upstreamIDs tasks).Nodup) :
    PolledOnce tasks ((updateTasks known mode (groupTasks tasks) channelIDs).flatMap polls) := by
  have hmem : ∀ p, p ∈ (updateTasks known mode (groupTasks tasks) channelIDs).flatMap polls ↔
      p.2 ∈ pollable tasks ∧ p.1 = p.2.channelId := by
    intro p
    rw [mem_polls hchannels]
    constructor
    · rintro ⟨t, ht, hc, hp⟩
      rw [taskM_of_distinct hdistinct ht, Option.some_inj] at hp
      exact hp ▸ ⟨ht, hc.symm⟩
    · rintro ⟨ht, hc⟩
      exact ⟨p.2, ht, hc.symm, taskM_of_distinct hdistinct ht⟩
  have hnodup : ((updateTasks known mode (groupTasks tasks) channelIDs).flatMap polls).Nodup := by
    rw [polls_updateTasks, nodup_flatMap]
    refine ⟨fun c _ => ?_, hchannels.1.imp fun hne p hp hq => ?_⟩
    · have hself : ((groupTasks tasks).taskChannelM c).filterMap (groupTasks tasks).taskM =
          (pollable tasks).filter fun t => t.channelId = c := by
        rw [taskChannelM_groupTasks, filterMap_map]
        refine (filterMap_congr fun t ht => ?_).trans filterMap_some
        exact taskM_of_distinct hdistinct (mem_of_mem_filter ht)
      rw [hself]
      exact ((hids.of_map.filter _).filter _).map fun _ _ h => (Prod.mk.inj h).2
    · simp only [mem_map] at hp hq
      obtain ⟨_, -, rfl⟩ := hp
      obtain ⟨_, -, heq⟩ := hq
      exact hne (Prod.mk.inj heq).1.symm
  refine ⟨fun t ht => ?_, fun p hp => (hmem p).mp hp⟩
  have hone : List.Perm (((updateTasks known mode (groupTasks tasks) channelIDs).flatMap polls).filter
      fun p => p.2 = t) [(t.channelId, t)] := by
    refine (perm_ext_iff_of_nodup (hnodup.filter _) (nodup_singleton _)).mpr fun p => ?_
    simp only [mem_filter, hmem, decide_eq_true_eq, mem_singleton]
    constructor
    · rintro ⟨⟨-, hc⟩, rfl⟩
      exact Prod.ext hc rfl
    · rintro rfl
      exact ⟨⟨ht, rfl⟩, rfl⟩
  rw [perm_singleton.mp hone]
  rfl

/-- **Every task is polled once, under its own channel, just if no upstream id comes twice**, in both modes, for every
order of the channels. -/
theorem tasks_polled_once_iff (known : ℤ → Bool) (mode : FetchMode) (hids : (tasks.map Task.id).Nodup)
    (hchannels : (groupTasks tasks).Ranges channelIDs) :
    PolledOnce tasks ((updateTasks known mode (groupTasks tasks) channelIDs).flatMap polls) ↔
      (upstreamIDs tasks).Nodup := by
  refine ⟨fun h => ?_, polledOnce_of_distinct hids hchannels⟩
  -- a task that is polled is the one that the map has for its upstream id
  have hlast : ∀ t ∈ pollable tasks, (groupTasks tasks).taskM t.getUpstreamTaskID = some t := by
    intro t ht
    have hne : ((updateTasks known mode (groupTasks tasks) channelIDs).flatMap polls).filter
        (fun p => p.2 = t) ≠ [] := fun hnil => by simpa [hnil] using h.1 t ht
    obtain ⟨p, hp⟩ := exists_mem_of_ne_nil _ hne
    obtain ⟨hp, hpt⟩ := mem_filter.mp hp
    obtain ⟨s, -, -, hs⟩ := (mem_polls hchannels).mp hp
    rw [of_decide_eq_true hpt] at hs
    rwa [(upstream_of_taskM hs).2]
  refine List.Nodup.map_on (fun t ht s hs heq => ?_) (hids.of_map.filter _)
  have htask := hlast t ht
  rw [heq, hlast s hs] at htask
  exact (Option.some.inj htask).symm

def collidingTasks : List Task :=
  [{ id := 1, channelId := 1, upstreamTaskID := "job" }, { id := 2, channelId := 2, upstreamTaskID := "job" }]

theorem colliding_task_not_polled :
    (updateTasks (fun _ => true) .video (groupTasks collidingTasks) [1, 2]).flatMap polls =
        [(1, { id := 2, channelId := 2, upstreamTaskID := "job" }), (2, { id := 2, channelId := 2, upstreamTaskID := "job" })] ∧
      ¬ PolledOnce collidingTasks
        ((updateTasks (fun _ => true) .video (groupTasks collidingTasks) [1, 2]).flatMap polls) := by
  unfold PolledOnce
  decide

/-- The same channels with upstream ids of their own, and a task without one. -/
def distinctTasks : List Task :=
  [{ id := 1, channelId := 1, upstreamTaskID := "job" }, { id := 2, channelId := 2, taskID := "song" },
    { id := 3, channelId := 2 }]

theorem distinct_tasks_polled_once : (distinctTasks.map Task.id).Nodup ∧ (groupTasks distinctTasks).Ranges [2, 1] ∧
    PolledOnce distinctTasks
      ((updateTasks (fun _ => true) .batch (groupTasks distinctTasks) [2, 1]).flatMap polls) := by
  have hids : (distinctTasks.map Task.id).Nodup := by decide
  have hranges : (groupTasks distinctTasks).Ranges [2, 1] := by
    refine ⟨by decide, fun c => ?_⟩
    rw [taskChannelM_groupTasks]
    by_cases h1 : c = 1
    · subst h1
      decide
    · by_cases h2 : c = 2
      · subst h2
        decide
      · simp [h1, h2, distinctTasks, pollable, Task.getUpstreamTaskID, Ne.symm h1, Ne.symm h2]
  exact ⟨hids, hranges, (tasks_polled_once_iff (fun _ => true) .batch hids hranges).mpr (by decide)⟩

end Polls

end Desktop2Stereo
