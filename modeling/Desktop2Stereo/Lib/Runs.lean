import Mathlib

/-!
# Runs of a step function

A system is a step function; a run feeds it a list of inputs. Concurrent calls that run as
serializable transactions are the runs over all orders of their inputs.

* **`run_invariant`**, `run_invariant_along`: the induction rules;
* `history`: what the steps of a run emit, `along_of_history`, **`history_invariant`**.
-/

namespace Runs

variable {σ ι : Type} {step : σ → ι → σ}

/-- The state after a list of inputs. -/
def run (step : σ → ι → σ) (s : σ) (l : List ι) : σ := l.foldl step s

@[simp] theorem run_nil (s : σ) : run step s [] = s := rfl

@[simp] theorem run_cons (s : σ) (i : ι) (l : List ι) : run step s (i :: l) = run step (step s i) l := rfl

theorem run_append (s : σ) (l l' : List ι) : run step s (l ++ l') = run step (run step s l) l' :=
  List.foldl_append

/-- `C` holds of every step of a run. -/
def Along (step : σ → ι → σ) (C : σ → ι → Prop) : σ → List ι → Prop
  | _, [] => True
  | s, i :: l => C s i ∧ Along step C (step s i) l

instance decidableAlong (C : σ → ι → Prop) [∀ s i, Decidable (C s i)] :
    ∀ (s : σ) (l : List ι), Decidable (Along step C s l)
  | _, [] => .isTrue trivial
  | s, i :: l =>
    have := decidableAlong C (step s i) l
    inferInstanceAs (Decidable (C s i ∧ Along step C (step s i) l))

variable {C : σ → ι → Prop} {l : List ι} {s : σ}

theorem Along.of_forall (h : ∀ s, ∀ i ∈ l, C s i) : Along step C s l := by
  induction l generalizing s with
  | nil => trivial
  | cons i l ih =>
    exact ⟨h s i List.mem_cons_self, ih fun s j hj => h s j (List.mem_cons_of_mem i hj)⟩

theorem Along.and {D : σ → ι → Prop} (h : Along step C s l) (h' : Along step D s l) :
    Along step (fun s i => C s i ∧ D s i) s l := by
  induction l generalizing s with
  | nil => trivial
  | cons i l ih => exact ⟨⟨h.1, h'.1⟩, ih h.2 h'.2⟩

theorem Along.and_forall {D : ι → Prop} (h : Along step C s l) (h' : ∀ i ∈ l, D i) :
    Along step (fun s i => C s i ∧ D i) s l :=
  h.and (Along.of_forall fun _ i hi => h' i hi)

/-- **What every permitted step keeps holds after every run of permitted steps.** -/
theorem run_invariant_along {I : σ → Prop} (hstep : ∀ s i, I s → C s i → I (step s i)) (h0 : I s)
    (hl : Along step C s l) : I (run step s l) := by
  induction l generalizing s with
  | nil => exact h0
  | cons i l ih => exact ih (hstep s i h0 hl.1) hl.2

/-- **What every step keeps holds after every run.** -/
theorem run_invariant {I : σ → Prop} (l : List ι) (hstep : ∀ s i, I s → I (step s i)) (h0 : I s) : I (run step s l) :=
  run_invariant_along (C := fun _ _ => True) (fun s i hs _ => hstep s i hs) h0
    (Along.of_forall fun _ _ _ => trivial)

/-! ## Histories -/

section History

variable {β : Type} {emit : σ → σ → List β}

/-- What the steps of a run emit, in their order. -/
def history (step : σ → ι → σ) (emit : σ → σ → List β) : σ → List ι → List β
  | _, [] => []
  | s, i :: l => emit s (step s i) ++ history step emit (step s i) l

theorem along_of_history {P : β → Prop} {s : σ} {l : List ι} (h : ∀ b ∈ history step emit s l, P b) :
    Along step (fun s i => ∀ b ∈ emit s (step s i), P b) s l := by
  induction l generalizing s with
  | nil => trivial
  | cons i l ih =>
    exact ⟨fun b hb => h b (List.mem_append_left _ hb), ih fun b hb => h b (List.mem_append_right _ hb)⟩

theorem history_invariant {J : σ → List β → Prop}
    (hstep : ∀ s h i, J s h → J (step s i) (h ++ emit s (step s i))) {s : σ} {h : List β} (h0 : J s h) (l : List ι) :
    J (run step s l) (h ++ history step emit s l) := by
  induction l generalizing s h with
  | nil => rwa [run_nil, history, List.append_nil]
  | cons i l ih =>
    rw [run_cons, history, ← List.append_assoc]
    exact ih (hstep s h i h0)

end History

end Runs
