import Mathlib

/-!
# Maps whose values know their key

A map is the list of its values, no two of which have the same key. The order of the list stands for the order in
which a program happens to iterate over the map; `sorted` fixes one.

* `get?_eq_some`, `mem_sorted`: what each holds.
-/

set_option linter.unusedSectionVars false

/-- Values with different keys. -/
structure KeyedMap {α κ : Type} (key : α → κ) where
  values : List α
  nodup : (values.map key).Nodup

namespace KeyedMap

open List

variable {α κ : Type} [DecidableEq κ] {key : α → κ}

/-- The map without values. -/
def empty : KeyedMap key := ⟨[], nodup_nil⟩

def get? (m : KeyedMap key) (k : κ) : Option α := m.values.find? fun a => key a = k

/-- The values that satisfy a condition. -/
def filter (m : KeyedMap key) (p : α → Bool) : KeyedMap key :=
  ⟨m.values.filter p, m.nodup.sublist (filter_sublist.map key)⟩

def erase (m : KeyedMap key) (k : κ) : KeyedMap key := m.filter fun a => key a ≠ k

theorem not_mem_map_filter {m : KeyedMap key} {p : α → Bool} {k : κ} (h : ∀ a, p a = true → key a ≠ k) :
    k ∉ (m.filter p).values.map key := by
  intro hk
  obtain ⟨a, ha, rfl⟩ := mem_map.mp hk
  exact h a (mem_filter.mp ha).2 rfl

/-- A value takes the place of the value with its key. -/
def put (m : KeyedMap key) (a : α) : KeyedMap key where
  values := (m.erase (key a)).values ++ [a]
  nodup := by
    rw [map_append]
    refine List.Nodup.append (m.erase (key a)).nodup (nodup_singleton _) ?_
    intro k hk hk'
    rw [map_singleton, mem_singleton] at hk'
    subst hk'
    exact not_mem_map_filter (fun b hb => of_decide_eq_true hb) hk

/-- The values of another map take the places of the values with their keys. -/
def copy (m m' : KeyedMap key) : KeyedMap key where
  values := (m.filter fun a => key a ∉ m'.values.map key).values ++ m'.values
  nodup := by
    rw [map_append]
    refine List.Nodup.append (m.filter _).nodup m'.nodup ?_
    intro k hk hk'
    refine not_mem_map_filter (fun a ha hak => ?_) hk
    exact of_decide_eq_true ha (hak ▸ hk')

def sorted [LinearOrder κ] (m : KeyedMap key) : List α := m.values.insertionSort fun a b => key a ≤ key b

variable {m m' : KeyedMap key} {a b : α} {k : κ}

@[ext] theorem ext (h : m.values = m'.values) : m = m' := by
  cases m
  cases m'
  simpa using h

theorem eq_of_key (ha : a ∈ m.values) (hb : b ∈ m.values) (h : key a = key b) : a = b :=
  inj_on_of_nodup_map m.nodup ha hb h

theorem get?_eq_some : m.get? k = some a ↔ a ∈ m.values ∧ key a = k := by
  constructor
  · intro h
    exact ⟨mem_of_find?_eq_some h, by simpa using List.find?_some h⟩
  · rintro ⟨ha, rfl⟩
    cases hb : m.get? (key a) with
    | none =>
      have hne := List.find?_eq_none.mp hb a ha
      simp at hne
    | some b =>
      have hkey : key b = key a := by simpa using List.find?_some hb
      rw [eq_of_key (mem_of_find?_eq_some hb) ha hkey]

theorem values_put (h : ∀ b ∈ m.values, key b ≠ key a) : (m.put a).values = m.values ++ [a] := by
  have hf : (m.erase (key a)).values = m.values := filter_eq_self.mpr fun b hb => decide_eq_true (h b hb)
  show (m.erase (key a)).values ++ [a] = m.values ++ [a]
  rw [hf]

theorem erase_put (h : ∀ b ∈ m.values, key b ≠ key a) : (m.put a).erase (key a) = m := by
  refine ext ?_
  show ((m.put a).values.filter fun b => key b ≠ key a) = m.values
  rw [values_put h, filter_append, filter_eq_self.mpr fun b hb => decide_eq_true (h b hb)]
  simp

section Sorted

variable [LinearOrder κ]

theorem perm_sorted (m : KeyedMap key) : m.sorted.Perm m.values := perm_insertionSort _ _

theorem mem_sorted : a ∈ m.sorted ↔ a ∈ m.values := (perm_sorted m).mem_iff

theorem nodup_sorted (m : KeyedMap key) : (m.sorted.map key).Nodup := ((perm_sorted m).map key).nodup_iff.mpr m.nodup

end Sorted

end KeyedMap
