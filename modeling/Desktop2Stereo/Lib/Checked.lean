import Mathlib

/-!
# Computations that may fail

* `check`: a condition with its error, `check_eq_ok`;
* `bind_eq_ok`: a sequence succeeds if both parts do;
* `foldlM_invariant`: what every step of a fold keeps;
* `foldlM_trace`: a relation between what a fold has read and its state;
* `foldlM_emits`: a fold whose steps each add to a list.
-/

namespace Checked

variable {ε α β : Type}

def check (p : Prop) [Decidable p] (e : ε) : Except ε Unit := if p then .ok () else .error e

theorem check_eq_ok {p : Prop} [Decidable p] {e : ε} {u : Unit} : check p e = .ok u ↔ p := by
  unfold check
  split_ifs with h
  · exact iff_of_true rfl h
  · exact iff_of_false nofun h

theorem bind_eq_ok {x : Except ε α} {f : α → Except ε β} {b : β} : (x >>= f) = .ok b ↔ ∃ a, x = .ok a ∧ f a = .ok b := by
  cases x with
  | error => exact iff_of_false nofun fun h => by simp at h
  | ok a => exact ⟨fun h => ⟨a, rfl, h⟩, fun ⟨_, ha, h⟩ => by cases ha; exact h⟩

theorem foldlM_invariant {f : β → α → Except ε β} {I : β → Prop} {l : List α}
    (hf : ∀ s a s', a ∈ l → f s a = .ok s' → I s → I s') {s s' : β} (h : l.foldlM f s = .ok s') (hs : I s) : I s' := by
  induction l generalizing s with
  | nil =>
    cases h
    exact hs
  | cons a l ih =>
    rw [List.foldlM_cons, bind_eq_ok] at h
    obtain ⟨s1, h1, h2⟩ := h
    exact ih (fun s b s' hb => hf s b s' (List.mem_cons_of_mem a hb)) h2 (hf s a s1 List.mem_cons_self h1 hs)

theorem foldlM_trace {f : β → α → Except ε β} {I : List α → β → Prop} {l : List α} {s s' : β}
    (hf : ∀ l1 a l2 t t', l = l1 ++ a :: l2 → f t a = .ok t' → I l1 t → I (l1 ++ [a]) t')
    (h : l.foldlM f s = .ok s') (hs : I [] s) : I l s' := by
  induction l using List.reverseRecOn generalizing s' with
  | nil =>
    cases h
    exact hs
  | append_singleton l a ih =>
    rw [List.foldlM_append, bind_eq_ok] at h
    obtain ⟨t, ht, ha⟩ := h
    rw [List.foldlM_cons, bind_eq_ok] at ha
    obtain ⟨_, hta, ht'⟩ := ha
    cases ht'
    have hl : I l t := by
      refine ih (fun l1 b l2 u u' hl hb hu => hf l1 b (l2 ++ [a]) u u' ?_ hb hu) ht
      rw [hl, List.append_assoc, List.cons_append]
    exact hf l a [] t s' rfl hta hl

theorem foldlM_emits {γ : Type} {f : β → α → Except ε β} {out : β → List γ} {g : α → List γ} {l : List α} {s s' : β}
    (hf : ∀ a ∈ l, ∀ t t', f t a = .ok t' → out t' = out t ++ g a) (h : l.foldlM f s = .ok s') :
    out s' = out s ++ l.flatMap g := by
  have htrace := foldlM_trace (I := fun l1 t => out t = out s ++ l1.flatMap g) (fun l1 a l2 t t' hl hta ht => by
    rw [hf a (by simp [hl]) t t' hta, ht]
    simp) h
  exact htrace (by simp)

end Checked
