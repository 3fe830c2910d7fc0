import Desktop2Stereo.Lib.Runs
import Desktop2Stereo.Model.RateLimit

/-!
# The window of a rate limit

The queue of a key has its last accepted requests, so a request is refused only for a reason. The background pass has a
time constant of its own, that of the middleware which came first: it may delete a key while its requests still count.

* **`rate_limit_enforced`**: the limit is enforced in every run, if the window fits the time constant.
-/

namespace Desktop2Stereo

open InMemoryRateLimiter Runs List

/-! ## Runs of the limiter -/

inductive LimiterOp
  | init (expirationDuration : ℤ)
  | request (key : String) (maxRequestNum duration now : ℤ)
  | clear (now : ℤ)

/-- The limiter, the time of its last operation, and the times of the accepted requests of a key. -/
structure LimiterState where
  limiter : InMemoryRateLimiter
  now : ℤ
  accepted : List ℤ := []

def limiterStep (key : String) (s : LimiterState) : LimiterOp → LimiterState
  | .init e => { s with limiter := init (some s.limiter) e }
  | .request key' n d now =>
    let (ok, limiter) := s.limiter.request key' n d now
    { limiter, now, accepted := if key' = key ∧ ok then s.accepted ++ [now] else s.accepted }
  | .clear now => { s with limiter := s.limiter.clearExpiredItems now, now }

/-- Time does not go back, and the key is used with one limit and window. -/
def Permitted (key : String) (n d : ℤ) (s : LimiterState) : LimiterOp → Prop
  | .init _ => True
  | .request key' n' d' now => s.now ≤ now ∧ (key' = key → n' = n ∧ d' = d)
  | .clear now => s.now ≤ now

/-- No `d` consecutive seconds have more than `n` of the times. -/
def WithinLimit (n d : ℤ) (accepted : List ℤ) : Prop := ∀ t, (accepted.countP fun a => t ≤ a ∧ a < t + d) ≤ n

/-- The limit is enforced: a request that would be refused now or later finds `n` accepted ones in its window. -/
structure Enforced (key : String) (n d : ℤ) (s : LimiterState) : Prop where
  bounded : WithinLimit n d s.accepted
  refused : ∀ now, s.now ≤ now → (s.limiter.request key n d now).1 = false →
    n ≤ s.accepted.countP fun a => now - d < a ∧ a ≤ now

/-- The accepted requests up to now: those before the queue no longer count when the queue is not full. -/
structure Tracks (n d now : ℤ) (accepted old queue : List ℤ) : Prop where
  split : accepted = old ++ queue
  sorted : accepted.Pairwise (· ≤ ·)
  past : ∀ a ∈ accepted, a ≤ now
  short : queue.length ≤ n
  gone : queue.length < n → ∀ a ∈ old, a + d ≤ now
  bounded : WithinLimit n d accepted

section Tracks

variable {n d now now' q : ℤ} {accepted old queue : List ℤ}

theorem tracks_nil (hn : 0 ≤ n) : Tracks n d now [] [] [] where
  split := rfl
  sorted := .nil
  past := by simp
  short := hn
  gone := by simp
  bounded _ := hn

theorem Tracks.later (h : Tracks n d now accepted old queue) (hnow : now ≤ now') : Tracks n d now' accepted old queue :=
  { h with
    past := fun a ha => (h.past a ha).trans hnow
    gone := fun hlt a ha => (h.gone hlt a ha).trans hnow }

theorem Tracks.accept (h : Tracks n d now accepted old queue) (hlt : queue.length < n) :
    Tracks n d now (accepted ++ [now]) old (queue ++ [now]) where
  split := by rw [h.split, append_assoc]
  sorted := pairwise_append.mpr ⟨h.sorted, pairwise_singleton _ _, fun a ha b hb => by
    rw [mem_singleton.mp hb]
    exact h.past a ha⟩
  past a ha := by
    rcases mem_append.mp ha with ha | ha
    · exact h.past a ha
    · exact (mem_singleton.mp ha).le
  short := by
    rw [length_append, length_singleton]
    omega
  gone _ := h.gone hlt
  bounded s := by
    rw [countP_append, countP_singleton]
    split_ifs with hs
    · -- the requests before the queue are too old for this window
      have hold : old.countP (fun a => decide (s ≤ a ∧ a < s + d)) = 0 := by
        refine countP_eq_zero.mpr fun a ha => ?_
        have := h.gone hlt a ha
        simp only [decide_eq_true_eq] at hs ⊢
        omega
      have hqueue := countP_le_length (p := fun a => decide (s ≤ a ∧ a < s + d)) (l := queue)
      rw [h.split, countP_append, hold]
      omega
    · exact h.bounded s

theorem Tracks.shift (h : Tracks n d now accepted old (q :: queue)) (hq : q + d ≤ now) :
    Tracks n d now accepted (old ++ [q]) queue where
  split := by rw [h.split, append_assoc, singleton_append]
  sorted := h.sorted
  past := h.past
  short := by
    have := h.short
    rw [length_cons] at this
    omega
  gone _ a ha := by
    have hsorted := h.sorted
    rw [h.split, pairwise_append] at hsorted
    rcases mem_append.mp ha with ha | ha
    · have := hsorted.2.2 a ha q mem_cons_self
      omega
    · rw [mem_singleton.mp ha]
      exact hq
  bounded := h.bounded

theorem Tracks.clear {last : ℤ} (h : Tracks n d now accepted old queue) (hlast : queue.getLast? = some last)
    (hold : last + d ≤ now) (hn : 0 ≤ n) : Tracks n d now accepted accepted [] where
  split := (append_nil _).symm
  sorted := h.sorted
  past := h.past
  short := hn
  gone _ a ha := by
    obtain ⟨front, rfl⟩ := List.getLast?_eq_some_iff.mp hlast
    have hsorted := h.sorted
    rw [h.split, ← append_assoc, pairwise_append] at hsorted
    rw [h.split, ← append_assoc] at ha
    rcases mem_append.mp ha with ha | ha
    · have := hsorted.2.2 a ha last mem_cons_self
      omega
    · rw [mem_singleton.mp ha]
      exact hold
  bounded := h.bounded

/-- The requests that count at a time. -/
def counted (d now : ℤ) (accepted : List ℤ) : ℕ := accepted.countP fun a => now - d < a ∧ a ≤ now

theorem Tracks.le_counted (h : Tracks n d now accepted old (q :: queue)) (hq : now < q + d) :
    (q :: queue).length ≤ counted d now accepted := by
  have hsorted := h.sorted
  rw [h.split, pairwise_append, pairwise_cons] at hsorted
  -- all of the queue lies in the window
  have hall : counted d now (q :: queue) = (q :: queue).length := by
    refine countP_eq_length.mpr fun a ha => decide_eq_true ⟨?_, h.past a (h.split ▸ mem_append_right old ha)⟩
    rcases mem_cons.mp ha with rfl | ha
    · omega
    · have := hsorted.2.1.1 a ha
      omega
  rw [h.split, counted, countP_append, ← hall]
  exact Nat.le_add_left _ _

theorem Tracks.counted_lt (h : Tracks n d now accepted old queue) (hlt : queue.length < n) :
    counted d now accepted < n := by
  have hold : counted d now old = 0 := by
    refine countP_eq_zero.mpr fun a ha => ?_
    have := h.gone hlt a ha
    rw [decide_eq_true_eq]
    omega
  have hqueue : counted d now queue ≤ queue.length := countP_le_length
  have hsplit : counted d now accepted = counted d now old + counted d now queue := by
    rw [h.split, counted, countP_append]
    rfl
  omega

end Tracks

/-! ## Operations -/

def InMemoryRateLimiter.queue (l : InMemoryRateLimiter) (key : String) : List ℤ := (l.store key).getD []

def InMemoryRateLimiter.set (l : InMemoryRateLimiter) (key : String) (queue : List ℤ) : InMemoryRateLimiter :=
  { l with store := Function.update l.store key (some queue) }

section Operations

variable {key key' : String} {n d now : ℤ} {l : InMemoryRateLimiter}

theorem queue_set (queue : List ℤ) : (l.set key' queue).queue key = if key' = key then queue else l.queue key := by
  unfold InMemoryRateLimiter.queue InMemoryRateLimiter.set
  split_ifs with h
  · simp [h]
  · simp [Function.update_of_ne (Ne.symm h)]

theorem request_cases (key : String) (d now : ℤ) (l : InMemoryRateLimiter) (hn : 1 ≤ n) :
    ((l.queue key).length < n ∧ l.request key n d now = (true, l.set key (l.queue key ++ [now]))) ∨
    ∃ q queue, l.queue key = q :: queue ∧ n ≤ (q :: queue).length ∧
      l.request key n d now = if d ≤ now - q then (true, l.set key (queue ++ [now])) else (false, l) := by
  unfold request InMemoryRateLimiter.queue
  cases hq : l.store key with
  | none =>
    rw [Option.getD_none, length_nil]
    exact .inl ⟨by omega, rfl⟩
  | some queue =>
    dsimp only [Option.getD_some]
    by_cases hlt : queue.length < n
    · exact .inl ⟨hlt, if_pos hlt⟩
    cases queue with
    | nil => simp at hlt; omega
    | cons q queue => exact .inr ⟨q, queue, rfl, not_lt.mp hlt, if_neg hlt⟩

theorem request_frame (key' : String) (n d now : ℤ) (l : InMemoryRateLimiter) :
    (l.request key' n d now).2 = l ∨ ∃ queue, (l.request key' n d now).2 = l.set key' queue := by
  unfold request
  dsimp only
  split
  · exact .inr ⟨_, rfl⟩
  · split_ifs
    · exact .inr ⟨_, rfl⟩
    · exact .inr ⟨_, rfl⟩
    · exact .inl rfl

/-- The accepted requests of the key are tracked, and the time constant is the first one. -/
def Tracked (key : String) (n d e : ℤ) (s : LimiterState) : Prop :=
  s.limiter.expirationDuration = e ∧ ∃ old, Tracks n d s.now s.accepted old (s.limiter.queue key)

variable {e : ℤ} {s : LimiterState}

theorem request_tracked (hn : 1 ≤ n) (h : Tracked key n d e s) (hnow : s.now ≤ now) :
    Tracked key n d e (limiterStep key s (.request key n d now)) := by
  obtain ⟨he, old, h⟩ := h
  have h := h.later hnow
  unfold Tracked limiterStep
  obtain ⟨hlt, hreq⟩ | ⟨q, queue, hqueue, hfull, hreq⟩ := request_cases key d now s.limiter hn
  · simp only [hreq, and_self, if_true, queue_set]
    exact ⟨he, old, h.accept hlt⟩
  · rw [hqueue] at h
    have hshort := h.short
    rw [length_cons] at hshort
    by_cases hd : d ≤ now - q
    · simp only [hreq, if_pos hd, and_self, if_true, queue_set]
      exact ⟨he, old ++ [q], (h.shift (by omega)).accept (by omega)⟩
    · simp only [hreq, if_neg hd, Bool.false_eq_true, and_false, if_false, hqueue]
      exact ⟨he, old, h⟩

theorem clear_tracked (hn : 1 ≤ n) (hd : d ≤ e / 1000000000 + 1) (h : Tracked key n d e s) (hnow : s.now ≤ now) :
    Tracked key n d e (limiterStep key s (.clear now)) := by
  obtain ⟨he, old, h⟩ := h
  have h := h.later hnow
  refine ⟨he, ?_⟩
  unfold limiterStep clearExpiredItems InMemoryRateLimiter.queue
  unfold InMemoryRateLimiter.queue at h
  cases hq : s.limiter.store key with
  | none =>
    rw [hq] at h
    simpa [hq] using ⟨old, h⟩
  | some queue =>
    rw [hq, Option.getD_some] at h
    simp only [hq, Option.filter_some]
    split_ifs with hkept
    · exact ⟨old, h⟩
    cases hlast : queue.getLast? with
    | none =>
      rw [List.getLast?_eq_none_iff.mp hlast] at h
      exact ⟨old, h⟩
    | some last =>
      simp only [hlast, Option.any_some, decide_eq_true_eq, expirationSeconds, he] at hkept
      exact ⟨s.accepted, h.clear hlast (by omega) (by omega)⟩

theorem step_tracked (hn : 1 ≤ n) (hd : d ≤ e / 1000000000 + 1) {op : LimiterOp} (h : Tracked key n d e s)
    (hop : Permitted key n d s op) : Tracked key n d e (limiterStep key s op) := by
  cases op with
  | init => exact h
  | clear now => exact clear_tracked hn hd h hop
  | request key' n' d' now =>
    obtain ⟨hnow, hsame⟩ := hop
    by_cases hkey : key' = key
    · subst hkey
      obtain ⟨rfl, rfl⟩ := hsame rfl
      exact request_tracked hn h hnow
    · obtain ⟨he, old, h⟩ := h
      unfold Tracked limiterStep
      simp only [hkey, false_and, if_false]
      obtain hsame | ⟨queue, hset⟩ := request_frame key' n' d' now s.limiter
      · rw [hsame]
        exact ⟨he, old, h.later hnow⟩
      · rw [hset, queue_set, if_neg hkey]
        exact ⟨he, old, h.later hnow⟩

theorem request_decision (hn : 1 ≤ n) (h : Tracked key n d e s) (hnow : s.now ≤ now) :
    (s.limiter.request key n d now).1 = !decide (n ≤ counted d now s.accepted) := by
  obtain ⟨-, old, h⟩ := h
  have h := h.later hnow
  obtain ⟨hlt, hreq⟩ | ⟨q, queue, hqueue, hfull, hreq⟩ := request_cases key d now s.limiter hn
  · rw [hreq, decide_eq_false (h.counted_lt hlt).not_ge]
    rfl
  · rw [hqueue] at h
    rw [hreq]
    split_ifs with hd
    · have hshort := h.short
      rw [length_cons] at hshort
      rw [decide_eq_false ((h.shift (by omega)).counted_lt (by omega)).not_ge]
      rfl
    · have := h.le_counted (by omega)
      rw [decide_eq_true (by omega)]
      rfl

theorem enforced_of_tracked (hn : 1 ≤ n) (h : Tracked key n d e s) : Enforced key n d s where
  bounded := let ⟨_, _, h⟩ := h; h.bounded
  refused now hnow hrefused := by
    rw [request_decision hn h hnow] at hrefused
    simpa [counted] using hrefused

end Operations

/-- A limiter that has just been set up. -/
def freshLimiter (e start : ℤ) : LimiterState := { limiter := init none e, now := start }

/-- **In every run of the shared limiter the limit of a key is enforced, if its window is at most one second longer than
the time constant of the background pass.** -/
theorem rate_limit_enforced (key : String) {n d e start : ℤ} {ops : List LimiterOp} (hn : 1 ≤ n)
    (hd : d ≤ e / 1000000000 + 1) (hops : Along (limiterStep key) (Permitted key n d) (freshLimiter e start) ops) :
    Enforced key n d (Runs.run (limiterStep key) (freshLimiter e start) ops) := by
  have hfresh : Tracked key n d e (freshLimiter e start) := ⟨rfl, [], tracks_nil (by omega)⟩
  exact enforced_of_tracked hn (run_invariant_along (fun s op h hop => step_tracked hn hd h hop) hfresh hops)

/-- A minute with two requests, under a time constant of 20 minutes that a later middleware does not change. -/
theorem rate_limit_enforced_minute : Enforced "GW1" 2 60 (Runs.run (limiterStep "GW1") (freshLimiter 1200000000000 0)
    [.request "GW1" 2 60 5, .init 60000000000, .request "CT1" 1 9 6, .request "GW1" 2 60 6, .request "GW1" 2 60 64]) :=
  rate_limit_enforced "GW1" (by decide) (by decide) (by simp [Along, Permitted, freshLimiter, limiterStep])

/-- A window of an hour under a time constant of 20 minutes: the second request is accepted after 1201 seconds. -/
theorem rate_limit_exceeded : ¬ Enforced "MRRL1" 1 3600 (Runs.run (limiterStep "MRRL1") (freshLimiter 1200000000000 0)
    [.request "MRRL1" 1 3600 0, .clear 1201, .request "MRRL1" 1 3600 1201]) := by
  intro h
  have hcount := h.bounded 0
  revert hcount
  decide

end Desktop2Stereo
