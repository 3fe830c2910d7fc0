import Mathlib

/-!
# Emitters

An emitter changes a state and puts out events. What has been put out before is a parameter of its specification, so
that properties of a whole output can be carried through a composition.

* `Emitter`, `andThen`, `onlyIf`, `each`; `Fallible`, `tryThen`, `tryEach`: emitters that may fail;
* **`tryEach_induction`**: what each step of a run keeps.
-/

namespace Emitters

open List

variable {σ ε ψ α : Type}

/-- A new state, and the events that are put out. -/
abbrev Emitter (σ ε : Type) := σ → σ × List ε

/-- One emitter after the other. -/
def andThen (f g : Emitter σ ε) : Emitter σ ε := fun s => ((g (f s).1).1, (f s).2 ++ (g (f s).1).2)

/-- An emitter under a condition. -/
def onlyIf (p : Prop) [Decidable p] (f : Emitter σ ε) : Emitter σ ε := fun s => if p then f s else (s, [])

def each (f : α → Emitter σ ε) : List α → Emitter σ ε
  | [] => fun s => (s, [])
  | a :: l => andThen (f a) (each f l)

/-- An emitter that may fail; then nothing is put out. -/
abbrev Fallible (σ ε ψ : Type) := σ → Except ψ (σ × List ε)

def tryThen (f g : Fallible σ ε ψ) : Fallible σ ε ψ := fun s =>
  match f s with
  | .error e => .error e
  | .ok r =>
    match g r.1 with
    | .error e => .error e
    | .ok r' => .ok (r'.1, r.2 ++ r'.2)

def tryEach (f : α → Fallible σ ε ψ) : List α → Fallible σ ε ψ
  | [] => fun s => .ok (s, [])
  | a :: l => tryThen (f a) (tryEach f l)

/-! ## Specifications -/

/-- From a state and an output with `P`, the emitter leads to a state and an output with `Q`. -/
def Ensures (P : σ → List ε → Prop) (f : Emitter σ ε) (Q : σ → List ε → Prop) : Prop :=
  ∀ s out, P s out → Q (f s).1 (out ++ (f s).2)

section Rules

variable {P Q R : σ → List ε → Prop}

theorem Ensures.andThen {f g : Emitter σ ε} (hf : Ensures P f Q) (hg : Ensures Q g R) : Ensures P (andThen f g) R := by
  intro s out h
  have h' := hg _ _ (hf s out h)
  rwa [append_assoc] at h'

theorem Ensures.onlyIf {p : Prop} [Decidable p] {f : Emitter σ ε} (hf : p → Ensures P f P) : Ensures P (onlyIf p f) P := by
  intro s out h
  unfold Emitters.onlyIf
  split_ifs with hp
  · exact hf hp s out h
  · rwa [append_nil]

theorem Ensures.each {f : α → Emitter σ ε} {l : List α} (hf : ∀ a ∈ l, Ensures P (f a) P) : Ensures P (each f l) P := by
  induction l with
  | nil =>
    intro s out h
    show P s (out ++ [])
    rwa [append_nil]
  | cons a l ih =>
    exact (hf a mem_cons_self).andThen (ih fun b hb => hf b (mem_cons_of_mem a hb))

theorem tryThen_eq_ok {f g : Fallible σ ε ψ} {s : σ} {r : σ × List ε} :
    tryThen f g s = .ok r ↔ ∃ r1 r2, f s = .ok r1 ∧ g r1.1 = .ok r2 ∧ r = (r2.1, r1.2 ++ r2.2) := by
  unfold tryThen
  constructor
  · intro h
    split at h
    · cases h
    next r1 h1 =>
      split at h
      · cases h
      next r2 h2 =>
        cases h
        exact ⟨r1, r2, h1, h2, rfl⟩
  · rintro ⟨_, _, h1, h2, rfl⟩
    rw [h1]
    dsimp only
    rw [h2]

theorem tryEach_concat {f : α → Fallible σ ε ψ} {l : List α} {a : α} {s : σ} {r : σ × List ε} :
    tryEach f (l ++ [a]) s = .ok r ↔
      ∃ r1 r2, tryEach f l s = .ok r1 ∧ f a r1.1 = .ok r2 ∧ r = (r2.1, r1.2 ++ r2.2) := by
  induction l generalizing s r with
  | nil =>
    show tryThen (f a) (tryEach f []) s = .ok r ↔ _
    rw [tryThen_eq_ok]
    constructor
    · rintro ⟨r1, r2, h1, h2, rfl⟩
      cases h2
      exact ⟨(s, []), r1, rfl, h1, by rw [append_nil, nil_append]⟩
    · rintro ⟨r1, r2, h1, h2, rfl⟩
      cases h1
      exact ⟨r2, (r2.1, []), h2, rfl, by rw [append_nil, nil_append]⟩
  | cons b l ih =>
    show tryThen (f b) (tryEach f (l ++ [a])) s = .ok r ↔ ∃ r1 r2, tryThen (f b) (tryEach f l) s = .ok r1 ∧ _
    simp only [tryThen_eq_ok, ih]
    constructor
    · rintro ⟨r1, _, h1, ⟨r2, r3, h2, h3, rfl⟩, rfl⟩
      exact ⟨(r2.1, r1.2 ++ r2.2), r3, ⟨r1, r2, h1, h2, rfl⟩, h3, by rw [append_assoc]⟩
    · rintro ⟨_, r3, ⟨r1, r2, h1, h2, rfl⟩, h3, rfl⟩
      exact ⟨r1, (r3.1, r2.2 ++ r3.2), h1, ⟨r2, r3, h2, h3, rfl⟩, by rw [append_assoc]⟩

/-- A property of the elements so far, the state and the output so far is kept by each step of a run. -/
theorem tryEach_induction {f : α → Fallible σ ε ψ} {l : List α} {s0 s : σ} {out : List ε}
    {I : List α → σ → List ε → Prop} (hrun : tryEach f l s0 = .ok (s, out)) (hstart : I [] s0 [])
    (hstep : ∀ l1 a l2 s out r, l = l1 ++ a :: l2 → tryEach f l1 s0 = .ok (s, out) → I l1 s out → f a s = .ok r →
      I (l1 ++ [a]) r.1 (out ++ r.2)) : I l s out := by
  induction l using List.reverseRecOn generalizing s out with
  | nil =>
    cases hrun
    exact hstart
  | append_singleton l a ih =>
    obtain ⟨r1, r2, h1, h2, heq⟩ := tryEach_concat.mp hrun
    cases heq
    refine hstep l a [] r1.1 r1.2 r2 rfl h1 (ih h1 fun l1 b l2 s out r hl => ?_) h2
    exact hstep l1 b (l2 ++ [a]) s out r (by rw [hl, append_assoc, cons_append])

end Rules

end Emitters
