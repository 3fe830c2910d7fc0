import Mathlib

/-!
# Keys that expire

A key of a cache holds a value, and may carry a time in milliseconds after which the value is gone. The cache
drops a key lazily: what counts is what a read sees.

* `get_of_later`: a key that is gone stays gone.
-/

namespace Expiring

/-- A key: absent, with a value that stays, or with a value and the last millisecond at which it is there. -/
inductive Cell (α : Type)
  | absent
  | forever (v : α)
  | expiring (v : α) (last : ℕ)

namespace Cell

variable {α : Type} {now now' : ℕ} {v : α} {c : Cell α}

/-- The value that a read sees. -/
def get (now : ℕ) : Cell α → Option α
  | .absent => none
  | .forever v => some v
  | .expiring v last => if last < now then none else some v

/-- A value that is there up to a time; a time that has come removes the key at once. -/
def expireAt (now : ℕ) (v : α) (last : ℕ) : Cell α := if last ≤ now then .absent else .expiring v last

/-- Replace the value and keep its expiry. -/
def put (now : ℕ) (v : α) : Cell α → Cell α
  | .expiring _ last => if last < now then .forever v else .expiring v last
  | _ => .forever v

/-- A key without an expiry. -/
def Lasting : Cell α → Prop
  | .expiring _ _ => False
  | _ => True

@[simp] theorem get_forever : (forever v).get now = some v := rfl

theorem get_expiring {last : ℕ} : (expiring v last).get now = if last < now then none else some v := rfl

theorem get_expireAt {last : ℕ} :
    (expireAt now v last).get now' = if last ≤ now ∨ last < now' then none else some v := by
  unfold expireAt
  by_cases h : last ≤ now
  · rw [if_pos h, if_pos (.inl h)]
    rfl
  · rw [if_neg h, get_expiring]
    simp only [h, false_or]

@[simp] theorem get_put : (c.put now v).get now = some v := by
  unfold put
  split
  · split_ifs with h
    · rfl
    · exact if_neg h
  · rfl

theorem Lasting.get_eq (h : c.Lasting) (now now' : ℕ) : c.get now = c.get now' := by
  cases c with
  | absent => rfl
  | forever => rfl
  | expiring => cases h

theorem get_of_later (hn : now ≤ now') (h : c.get now' = some v) : c.get now = some v := by
  cases c with
  | absent => cases h
  | forever => exact h
  | expiring w last =>
    rw [get_expiring] at h ⊢
    by_cases ht : last < now'
    · rw [if_pos ht] at h
      cases h
    · rw [if_neg ht] at h
      rw [if_neg (by omega)]
      exact h

end Cell

end Expiring
