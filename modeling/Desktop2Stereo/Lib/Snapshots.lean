import Mathlib

/-!
# Folding cumulative snapshots

Snapshots with counters that never fall are folded into an accumulator. The rule below is the induction that shows
that the accumulator follows the latest snapshot.

* **`foldl_latest`**.
-/

namespace Snapshots

open List

variable {σ τ κ : Type}

/-- No counter falls. -/
def Grows (count : σ → κ → ℤ) (s s' : σ) : Prop := ∀ c, count s c ≤ count s' c

/-- No counter is negative. -/
def Counts (count : σ → κ → ℤ) (s : σ) : Prop := ∀ c, 0 ≤ count s c

/-- A stream of cumulative snapshots. -/
def Cumulative (count : σ → κ → ℤ) (l : List σ) : Prop := l.IsChain (Grows count) ∧ ∀ s ∈ l, Counts count s

theorem cumulative_pair {count : σ → κ → ℤ} {s s' : σ} (h : Counts count s) (h' : Grows count s s') :
    Cumulative count [s, s'] := by
  refine ⟨isChain_pair.mpr h', fun x hx c => ?_⟩
  rcases mem_cons.mp hx with rfl | hx
  · exact h c
  · rw [mem_singleton.mp hx]
    exact (h c).trans (h' c)

/-- **What ties the accumulator to the snapshot it has just merged ties it to the last one of a stream.** -/
theorem foldl_latest {count : σ → κ → ℤ} {merge : τ → σ → τ} {R : τ → σ → Prop} {t : τ}
    (hfirst : ∀ s, Counts count s → R (merge t s) s)
    (hstep : ∀ u s s', R u s → Counts count s → Grows count s s' → R (merge u s') s') (earlier : List σ) (last : σ)
    (h : Cumulative count (earlier ++ [last])) : R ((earlier ++ [last]).foldl merge t) last := by
  induction earlier using List.reverseRecOn generalizing last with
  | nil => exact hfirst last (h.2 last (mem_singleton_self last))
  | append_singleton earlier s ih =>
    obtain ⟨hchain, hcounts⟩ := h
    have hprev : Cumulative count (earlier ++ [s]) :=
      ⟨(isChain_append.mp hchain).1, fun x hx => hcounts x (mem_append_left _ hx)⟩
    have hgrows : Grows count s last := by
      refine (isChain_append.mp hchain).2.2 s ?_ last ?_ <;> simp
    have hs : Counts count s := hprev.2 s (mem_append_right _ (mem_singleton_self s))
    rw [foldl_append, foldl_cons, foldl_nil]
    exact hstep _ s last (ih s hprev) hs hgrows

end Snapshots
