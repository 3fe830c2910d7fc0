import Mathlib

/-!
# Monitors

A monitor follows acts through phases and fails when an act is out of turn. `Vetted` says of a log that each entry is
admitted by those before it.

* `Vetted`, **`vetted_concat`**: one more entry has to be admitted by the log so far;
* `Since`, **`since_concat`**: an entry of one kind with only entries of another kind after it.
-/

namespace Monitors

open List

variable {α π : Type}

/-- The phase after a list of acts, if none was out of turn. -/
def follow (advance : π → α → Option π) (p : π) (l : List α) : Option π := l.foldlM advance p

theorem follow_append {advance : π → α → Option π} {p : π} {l l' : List α} :
    follow advance p (l ++ l') = (follow advance p l).bind fun q => follow advance q l' := by
  unfold follow
  rw [foldlM_append]
  rfl

/-! ## Logs -/

section Logs

variable {β : Type} {admits : List β → β → Prop} {l : List β} {b : β}

/-- Each entry is admitted by the entries before it. -/
def Vetted (admits : List β → β → Prop) (l : List β) : Prop := ∀ l₁ b l₂, l = l₁ ++ b :: l₂ → admits l₁ b

theorem vetted_nil : Vetted admits [] := fun l1 b l2 h => absurd h (by simp)

theorem Vetted.left {l' : List β} (h : Vetted admits (l ++ l')) : Vetted admits l :=
  fun l1 b l2 hl => h l1 b (l2 ++ l') (by rw [hl, append_assoc, cons_append])

theorem vetted_concat : Vetted admits (l ++ [b]) ↔ Vetted admits l ∧ admits l b := by
  constructor
  · intro h
    refine ⟨fun l1 c l2 hl => h l1 c (l2 ++ [b]) ?_, h l b [] rfl⟩
    rw [hl, append_assoc, cons_append]
  · rintro ⟨h, hb⟩ l1 c l2 hl
    rcases eq_nil_or_concat l2 with rfl | ⟨l3, d, rfl⟩
    · obtain ⟨rfl, hc⟩ := append_inj' hl rfl
      cases hc
      exact hb
    · rw [concat_eq_append, ← cons_append, ← append_assoc] at hl
      exact h l1 c l3 (append_inj' hl rfl).1

/-- There is an entry with `P`, and every entry after it has `Q`. -/
def Since (P Q : β → Prop) (l : List β) : Prop := ∃ l₁ b l₂, l = l₁ ++ b :: l₂ ∧ P b ∧ ∀ c ∈ l₂, Q c

variable {P Q : β → Prop}

theorem not_since_nil : ¬ Since P Q [] := by
  rintro ⟨_, b, _, h, -⟩
  simp at h

theorem since_concat : Since P Q (l ++ [b]) ↔ P b ∨ (Q b ∧ Since P Q l) := by
  constructor
  · rintro ⟨l1, c, l2, h, hc, hl2⟩
    rcases eq_nil_or_concat l2 with rfl | ⟨l3, d, rfl⟩
    · obtain ⟨-, hb⟩ := append_inj' h rfl
      cases hb
      exact .inl hc
    · rw [concat_eq_append, ← cons_append, ← append_assoc] at h
      obtain ⟨hl, hb⟩ := append_inj' h rfl
      cases hb
      exact .inr ⟨hl2 b (by simp), l1, c, l3, hl, hc, fun e he => hl2 e (by simp [he])⟩
  · rintro (hb | ⟨hb, l1, c, l2, rfl, hc, hl2⟩)
    · exact ⟨l, b, [], rfl, hb, by simp⟩
    · refine ⟨l1, c, l2 ++ [b], by simp, hc, fun e he => ?_⟩
      rcases mem_append.mp he with he | he
      · exact hl2 e he
      · rw [mem_singleton.mp he]
        exact hb

end Logs

end Monitors
