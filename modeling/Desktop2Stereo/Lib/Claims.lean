import Mathlib

/-!
# Claims on slots, and greedy admission

A claim asks for a slot on some terms. Two claims on one slot have to agree. Where agreement is decided by what the
first claim on the slot says, it is enough to keep the first claim of each slot and to compare with it. Claimants
that arrive one after the other are admitted as long as they are in conflict with none that were admitted before.

* `Consistent`: all claims on a slot agree; **`consistent_concat`**: the first claim decides;
* `greedy`: the admitted ones of a list; `greedy_append`, `mem_greedy_iff`, **`greedy_eq_append`**:
  what is free of conflicts is admitted as a whole.
-/

namespace Claims

open List

section Slots

variable {α κ : Type} [DecidableEq κ] {slot : α → κ} {agrees : α → α → Prop}

/-- All claims on a slot agree. -/
def Consistent (slot : α → κ) (agrees : α → α → Prop) (l : List α) : Prop :=
  l.Pairwise fun a b => slot a = slot b → agrees a b

/-- The first claim on a slot. -/
def holder (slot : α → κ) (l : List α) (k : κ) : Option α := l.find? fun a => slot a = k

theorem holder_concat (l : List α) (c : α) (k : κ) :
    holder slot (l ++ [c]) k = (holder slot l k).or (if slot c = k then some c else none) := by
  simp [holder]

theorem consistent_concat (htrans : ∀ {a b c}, agrees a b → agrees a c → agrees b c) {l : List α} {c : α} :
    Consistent slot agrees (l ++ [c]) ↔
      Consistent slot agrees l ∧ ∀ a, holder slot l (slot c) = some a → agrees a c := by
  rw [Consistent, pairwise_append]
  refine and_congr_right fun hl => ⟨fun h a ha => ?_, fun h => ⟨pairwise_singleton _ _, fun b hb c' hc hslot => ?_⟩⟩
  · exact h.2 a (mem_of_find?_eq_some ha) c mem_cons_self (by simpa using List.find?_some ha)
  · rw [mem_singleton] at hc
    subst hc
    cases hfirst : holder slot l (slot c') with
    | none => exact absurd hslot (by simpa using List.find?_eq_none.mp hfirst b hb)
    | some a =>
      obtain ⟨ha, _, _, rfl, hl1⟩ := List.find?_eq_some_iff_append.mp hfirst
      have hac := h a hfirst
      -- the first claim on the slot is not after `b`
      rcases mem_append.mp hb with hb | hb
      · exact absurd hslot (by simpa using hl1 b hb)
      · rcases mem_cons.mp hb with rfl | hb
        · exact hac
        · have hab := rel_of_pairwise_cons (pairwise_append.mp hl).2.1 hb
          exact htrans (hab ((of_decide_eq_true ha).trans hslot.symm)) hac

end Slots

section Greedy

variable {α : Type} (fits : α → Prop) (conflicts : α → α → Prop) [DecidablePred fits] [DecidableRel conflicts]

/-- Who is admitted, after `acc`, from a list of claimants in their order. -/
def greedy (acc : List α) : List α → List α
  | [] => acc
  | c :: l => if fits c ∧ ∀ a ∈ acc, ¬ conflicts a c then greedy (acc ++ [c]) l else greedy acc l

variable {fits conflicts} {acc l l' : List α} {a b c : α}

theorem greedy_append : greedy fits conflicts acc (l ++ l') = greedy fits conflicts (greedy fits conflicts acc l) l' := by
  induction l generalizing acc with
  | nil => rfl
  | cons c l ih =>
    simp only [cons_append, greedy]
    split_ifs
    · exact ih
    · exact ih

theorem greedy_eq_acc_append (acc l : List α) : ∃ new, greedy fits conflicts acc l = acc ++ new ∧ new.Sublist l := by
  induction l generalizing acc with
  | nil => exact ⟨[], by simp [greedy], List.Sublist.refl _⟩
  | cons c l ih =>
    simp only [greedy]
    split_ifs
    · obtain ⟨new, hnew, hsub⟩ := ih (acc ++ [c])
      exact ⟨c :: new, by simp [hnew], hsub.cons_cons c⟩
    · obtain ⟨new, hnew, hsub⟩ := ih acc
      exact ⟨new, hnew, hsub.cons c⟩

theorem subset_greedy (ha : a ∈ acc) : a ∈ greedy fits conflicts acc l := by
  obtain ⟨new, hnew, -⟩ : ∃ new, greedy fits conflicts acc l = acc ++ new ∧ _ := greedy_eq_acc_append acc l
  rw [hnew]
  exact mem_append_left new ha

theorem mem_of_greedy (ha : a ∈ greedy fits conflicts acc l) : a ∈ acc ∨ a ∈ l := by
  obtain ⟨new, hnew, hsub⟩ : ∃ new, greedy fits conflicts acc l = acc ++ new ∧ _ := greedy_eq_acc_append acc l
  rw [hnew] at ha
  exact (mem_append.mp ha).imp_right fun h => hsub.subset h

/-- Claimants without conflicts, among each other and with those before, are admitted as a whole. -/
theorem greedy_eq_append (hfits : ∀ a ∈ l, fits a) (hfree : (acc ++ l).Pairwise fun a b => ¬ conflicts a b) :
    greedy fits conflicts acc l = acc ++ l := by
  induction l generalizing acc with
  | nil => simp [greedy]
  | cons c l ih =>
    have hc : fits c ∧ ∀ a ∈ acc, ¬ conflicts a c :=
      ⟨hfits c mem_cons_self, fun a ha => (pairwise_append.mp hfree).2.2 a ha c mem_cons_self⟩
    rw [greedy, if_pos hc, ih (fun a ha => hfits a (mem_cons_of_mem c ha)) (by simpa using hfree)]
    simp

/-- One of several claimants that are free of conflicts with each other is admitted if no one before is in its way. -/
theorem mem_greedy_iff (hfits : ∀ a ∈ l, fits a) (hfree : ∀ a ∈ l, ∀ b ∈ l, a ≠ b → ¬ conflicts a b)
    (hnodup : l.Nodup) (hc : c ∈ l) (hacc : c ∉ acc) :
    c ∈ greedy fits conflicts acc l ↔ ∀ a ∈ acc, ¬ conflicts a c := by
  induction l generalizing acc with
  | nil => cases hc
  | cons d l ih =>
    obtain ⟨hd, hnodup⟩ := nodup_cons.mp hnodup
    have hfits' : ∀ a ∈ l, fits a := fun a ha => hfits a (mem_cons_of_mem d ha)
    have hfree' : ∀ a ∈ l, ∀ b ∈ l, a ≠ b → ¬ conflicts a b := fun a ha b hb =>
      hfree a (mem_cons_of_mem d ha) b (mem_cons_of_mem d hb)
    rw [greedy]
    rcases mem_cons.mp hc with rfl | hcl
    · split_ifs with hd'
      · exact iff_of_true (subset_greedy (mem_append_right acc mem_cons_self)) hd'.2
      · exact iff_of_false (fun hm => (mem_of_greedy hm).elim hacc hd) fun h => hd' ⟨hfits c hc, h⟩
    · have hne : c ≠ d := fun h => hd (h ▸ hcl)
      split_ifs
      · have hdc := hfree d mem_cons_self c (mem_cons_of_mem d hcl) hne.symm
        have hacc' : c ∉ acc ++ [d] := by
          rw [mem_append, mem_singleton]
          exact not_or.mpr ⟨hacc, hne⟩
        rw [ih hfits' hfree' hnodup hcl hacc']
        refine ⟨fun h a ha => h a (mem_append_left [d] ha), fun h a ha => ?_⟩
        rcases mem_append.mp ha with ha | ha
        · exact h a ha
        · exact mem_singleton.mp ha ▸ hdc
      · exact ih hfits' hfree' hnodup hcl hacc

end Greedy

end Claims
