import Mathlib

/-!
# Interleaved sequences

Several sequences arrive interleaved. Each element has the number of the sequence it belongs to, and a key that says
where it was sent.

* `part_concat`, `count_concat`, `lastAt_concat`: one more element.
-/

namespace Labelled

open List

variable {δ κ : Type} [DecidableEq κ]

/-- The elements of the sequence `k`. -/
def part (l : List (ℕ × δ)) (k : ℕ) : List δ := (l.filter fun e => e.1 = k).map Prod.snd

/-- Numbers from here on have not been used. -/
def count (l : List (ℕ × δ)) : ℕ := l.foldr (fun e n => max (e.1 + 1) n) 0

def lastAt (key : δ → κ) (l : List (ℕ × δ)) (i : κ) : Option ℕ :=
  (l.reverse.find? fun e => key e.2 = i).map Prod.fst

/-- Elements with the numbers of their positions. -/
def number (sequence : ℕ → ℕ) (l : List δ) : List (ℕ × δ) := l.mapIdx fun n d => (sequence n, d)

variable {key : δ → κ} {l : List (ℕ × δ)} {k j : ℕ} {d : δ} {i : κ}

theorem part_concat : part (l ++ [(k, d)]) j = if k = j then part l j ++ [d] else part l j := by
  unfold part
  rw [filter_append, map_append]
  split_ifs with h <;> simp [h]

theorem count_concat : count (l ++ [(k, d)]) = max (count l) (k + 1) := by
  unfold count
  induction l with
  | nil => simp
  | cons e l ih =>
    rw [cons_append, foldr_cons, foldr_cons, ih]
    omega

theorem lastAt_concat : lastAt key (l ++ [(k, d)]) i = if key d = i then some k else lastAt key l i := by
  unfold lastAt
  rw [reverse_append, reverse_singleton, singleton_append, List.find?_cons]
  by_cases h : key d = i <;> simp [h]

theorem lt_count_of_mem {e : ℕ × δ} (h : e ∈ l) : e.1 < count l := by
  induction l with
  | nil => cases h
  | cons x l ih =>
    have hcount : count (x :: l) = max (x.1 + 1) (count l) := rfl
    rcases mem_cons.mp h with rfl | h
    · omega
    · have := ih h
      omega

theorem lt_count_of_lastAt (h : lastAt key l i = some k) : k < count l := by
  obtain ⟨e, he, rfl⟩ := Option.map_eq_some_iff.mp h
  exact lt_count_of_mem (mem_reverse.mp (mem_of_find?_eq_some he))

theorem part_eq_nil (h : count l ≤ k) : part l k = [] := by
  unfold part
  rw [map_eq_nil_iff, filter_eq_nil_iff]
  intro e he
  have := lt_count_of_mem he
  rw [decide_eq_true_eq]
  omega

theorem number_append (sequence : ℕ → ℕ) (l l' : List δ) :
    number sequence (l ++ l') = number sequence l ++ number (fun n => sequence (n + l.length)) l' := mapIdx_append

theorem number_concat {sequence : ℕ → ℕ} {l : List δ} :
    number sequence (l ++ [d]) = number sequence l ++ [(sequence l.length, d)] := mapIdx_concat

end Labelled
