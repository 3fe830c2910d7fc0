import Mathlib

/-!
# Relational tables

A table is a list of rows no two of which agree on a unique index. The indexes are part of the
row type (`Indexed`), so a table that violates one cannot be built and no proof has to carry the
uniqueness of its keys.

* `Table.get?`: lookup by primary key; **`get?_eq_some`**: it finds exactly the rows;
* `Table.Extends`: rows are appended; `Table.Sets`: one row is set, and **`Sets.sum`**.
-/

set_option linter.unusedSectionVars false

namespace Relational

/-- The indexed columns of a row type. Two rows clash if they agree on some unique index; the
primary key is one of them. -/
class Indexed (α : Type) (κ : outParam Type) where
  Keys : Type
  keys : α → Keys
  Clash : Keys → Keys → Prop
  decClash : DecidableRel Clash
  clash_symm : ∀ a b, Clash a b → Clash b a
  pkey : Keys → κ
  clash_of_pkey : ∀ a b, pkey a = pkey b → Clash a b

open Indexed

instance {α κ : Type} [Indexed α κ] : DecidableRel (Clash (α := α)) := decClash

/-- A table with a primary key and no other unique index. -/
@[reducible] def Indexed.ofKey {α κ : Type} [DecidableEq κ] (key : α → κ) : Indexed α κ where
  Keys := κ
  keys := key
  Clash := (· = ·)
  decClash := inferInstance
  clash_symm _ _ h := h.symm
  pkey := fun k => k
  clash_of_pkey _ _ h := h

/-- A table with a primary key and one more unique index. -/
@[reducible] def Indexed.ofKeys {α κ ι : Type} [DecidableEq κ] [DecidableEq ι] (key : α → κ)
    (index : α → ι) : Indexed α κ where
  Keys := κ × ι
  keys r := (key r, index r)
  Clash a b := a.1 = b.1 ∨ a.2 = b.2
  decClash := fun _ _ => inferInstance
  clash_symm _ _ h := h.imp Eq.symm Eq.symm
  pkey := Prod.fst
  clash_of_pkey _ _ h := .inl h

/-- A table with a primary key and two more unique indexes. -/
@[reducible] def Indexed.ofKeys₃ {α κ ι ι' : Type} [DecidableEq κ] [DecidableEq ι] [DecidableEq ι']
    (key : α → κ) (index : α → ι) (index' : α → ι') : Indexed α κ where
  Keys := κ × ι × ι'
  keys r := (key r, index r, index' r)
  Clash a b := a.1 = b.1 ∨ a.2.1 = b.2.1 ∨ a.2.2 = b.2.2
  decClash := fun _ _ => inferInstance
  clash_symm _ _ h := h.imp Eq.symm (Or.imp Eq.symm Eq.symm)
  pkey := Prod.fst
  clash_of_pkey _ _ h := .inl h

/-- The primary key of a row. -/
def pk {α κ : Type} [Indexed α κ] (r : α) : κ := pkey (keys r)

@[simp] theorem pk_ofKey {α κ : Type} [DecidableEq κ] (key : α → κ) (r : α) : @pk α κ (.ofKey key) r = key r := rfl

/-- Rows, no two of which clash. -/
structure Table (α : Type) {κ : Type} [Indexed α κ] where
  rows : List α
  unique : rows.Pairwise fun r s => ¬ Clash (keys r) (keys s)

namespace Table

variable {α κ : Type} [DecidableEq κ] [Indexed α κ]

/-- The table without rows. -/
def empty : Table α := ⟨[], List.Pairwise.nil⟩

/-- The first row that satisfies a condition. -/
def find? (t : Table α) (p : α → Bool) : Option α := t.rows.find? p

/-- The row with a primary key. -/
def get? (t : Table α) (k : κ) : Option α := t.rows.find? fun r => pk r = k

/-- The number of rows that satisfy a condition. -/
def count (t : Table α) (p : α → Bool) : ℕ := t.rows.countP p

/-- The sum of a column over the rows that satisfy a condition. -/
def sum (t : Table α) (p : α → Bool) (v : α → ℤ) : ℤ :=
  (t.rows.map fun r => if p r then v r else 0).sum

def insert (t : Table α) (r : α) : Option (Table α) :=
  if h : ∀ s ∈ t.rows, ¬ Clash (keys s) (keys r) then
    some ⟨t.rows ++ [r], List.pairwise_append.mpr
      ⟨t.unique, List.pairwise_singleton _ _, fun s hs r' hr' => by
        rw [List.mem_singleton.mp hr']; exact h s hs⟩⟩
  else none

def rewrite (p : α → Bool) (f : α → α) (rows : List α) : List α :=
  rows.map fun r => if p r then f r else r

/-- Rewrite rows without touching an indexed column. -/
def modify (t : Table α) (p : α → Bool) (f : α → α) (h : ∀ r, keys (f r) = keys r) : Table α where
  rows := rewrite p f t.rows
  unique := by
    have hk : ∀ r, keys (if p r then f r else r) = keys r := fun r => by
      split_ifs
      · exact h r
      · rfl
    refine List.pairwise_map.mpr (t.unique.imp fun {r s} hrs => ?_)
    rwa [hk r, hk s]

/-- Rewrite rows, unless two of the results clash. -/
def alter (t : Table α) (p : α → Bool) (f : α → α) : Option (Table α) :=
  if h : (rewrite p f t.rows).Pairwise fun r s => ¬ Clash (keys r) (keys s) then some ⟨_, h⟩
  else none

/-- Remove the rows that satisfy a condition. -/
def delete (t : Table α) (p : α → Bool) : Table α :=
  ⟨t.rows.filter fun r => !p r, t.unique.filter _⟩

/-! ## Rows after each operation -/

@[simp] theorem rows_empty : (empty : Table α).rows = [] := rfl

@[simp] theorem rows_modify (t : Table α) (p : α → Bool) (f : α → α) (h : ∀ r, keys (f r) = keys r) :
    (t.modify p f h).rows = t.rows.map fun r => if p r then f r else r := rfl

@[simp] theorem rows_delete (t : Table α) (p : α → Bool) :
    (t.delete p).rows = t.rows.filter fun r => !p r := rfl

variable {t t' : Table α} {r : α}

theorem insert_eq_some :
    t.insert r = some t' ↔ (∀ s ∈ t.rows, ¬ Clash (keys s) (keys r)) ∧ t'.rows = t.rows ++ [r] := by
  unfold insert
  constructor
  · intro h
    split_ifs at h with hc
    cases h
    exact ⟨hc, rfl⟩
  · rintro ⟨hc, hr⟩
    rw [dif_pos hc]
    obtain ⟨_, u⟩ := t'
    simp only at hr
    subst hr
    rfl

variable {p : α → Bool} {f : α → α}

theorem alter_eq_some (h : t.alter p f = some t') : t'.rows = t.rows.map fun r => if p r then f r else r := by
  unfold alter at h
  split_ifs at h
  cases h
  rfl

theorem insert_of_new (h : ∀ s ∈ t.rows, ¬ Clash (keys s) (keys r)) : ∃ t', t.insert r = some t' := ⟨_, dif_pos h⟩

variable {s : α}

theorem mem_insert (h : t.insert r = some t') : s ∈ t'.rows ↔ s ∈ t.rows ∨ s = r := by
  rw [(insert_eq_some.mp h).2, List.mem_append, List.mem_singleton]

variable {h : ∀ r, keys (f r) = keys r}

theorem mem_modify : s ∈ (t.modify p f h).rows ↔ ∃ r ∈ t.rows, (if p r then f r else r) = s := by
  simp

theorem mem_delete : s ∈ (t.delete p).rows ↔ s ∈ t.rows ∧ p s = false := by
  simp

/-! ## Uniqueness -/

theorem eq_of_clash (t : Table α) (hr : r ∈ t.rows) (hs : s ∈ t.rows) (h : Clash (keys r) (keys s)) : r = s := by
  by_contra hne
  have : Std.Symm fun r s : α => ¬ Clash (keys r) (keys s) := ⟨fun _ _ hab hba => hab (clash_symm _ _ hba)⟩
  exact t.unique.forall hr hs hne h

theorem eq_of_pk (t : Table α) (hr : r ∈ t.rows) (hs : s ∈ t.rows) (h : pk r = pk s) : r = s :=
  t.eq_of_clash hr hs (clash_of_pkey _ _ h)

variable {k : κ}

/-- **Lookup by primary key finds exactly the rows.** -/
theorem get?_eq_some : t.get? k = some r ↔ r ∈ t.rows ∧ pk r = k := by
  constructor
  · intro h
    exact ⟨List.mem_of_find?_eq_some h, by simpa using List.find?_some h⟩
  · rintro ⟨hr, rfl⟩
    cases hg : t.get? (pk r) with
    | none =>
      have := List.find?_eq_none.mp hg r hr
      simp at this
    | some s =>
      have hs : s ∈ t.rows ∧ pk s = pk r :=
        ⟨List.mem_of_find?_eq_some hg, by simpa using List.find?_some hg⟩
      rw [t.eq_of_pk hs.1 hr hs.2]

theorem get?_pk (hr : r ∈ t.rows) : t.get? (pk r) = some r :=
  get?_eq_some.mpr ⟨hr, rfl⟩

theorem get?_eq_none : t.get? k = none ↔ ∀ r ∈ t.rows, pk r ≠ k := by
  simp [get?, List.find?_eq_none]

theorem find?_of_pk (hp : ∀ r, p r = true → pk r = k) : t.find? p = (t.get? k).filter p := by
  cases h : t.find? p with
  | none =>
    have hn := List.find?_eq_none.mp h
    cases hg : t.get? k with
    | none => rfl
    | some r => simp [Option.filter, hn r (get?_eq_some.mp hg).1]
  | some r =>
    have hr := List.mem_of_find?_eq_some h
    have hpr : p r = true := List.find?_some h
    rw [get?_eq_some.mpr ⟨hr, hp r hpr⟩]
    simp [Option.filter, hpr]

theorem find?_eq_some_of_pk (hp : ∀ r, p r = true → pk r = k) :
    t.find? p = some r ↔ t.get? k = some r ∧ p r = true := by
  rw [find?_of_pk hp, Option.filter_eq_some_iff]

theorem find?_eq_some (h : t.find? p = some r) : r ∈ t.rows ∧ p r = true :=
  ⟨List.mem_of_find?_eq_some h, List.find?_some h⟩

theorem find?_eq_none : t.find? p = none ↔ ∀ r ∈ t.rows, p r = false := by
  simp [find?, List.find?_eq_none]

/-! ## Lookups after each operation -/

@[simp] theorem get?_empty (k : κ) : (empty : Table α).get? k = none := rfl

/-- A condition on the primary key alone is a lookup. -/
@[simp] theorem find?_ofKey {α : Type} (key : α → κ) (t : @Table α κ (.ofKey key)) (k : κ) :
    @find? α κ (.ofKey key) t (fun r => decide (key r = k)) = @get? α κ _ (.ofKey key) t k := rfl

theorem pk_of_keys (h : keys r = keys s) : pk r = pk s := by rw [pk, pk, h]

theorem get?_insert (h : t.insert r = some t') (k : κ) : t'.get? k = if pk r = k then some r else t.get? k := by
  obtain ⟨_, hr⟩ := insert_eq_some.mp h
  split_ifs with hk
  · subst hk
    exact get?_pk (by simp [hr])
  · simp [get?, hr, hk]

theorem get?_of_insert (h : t.insert r = some t') : t.get? (pk r) = none :=
  get?_eq_none.mpr fun s hs hk => (insert_eq_some.mp h).1 s hs (clash_of_pkey _ _ hk)

theorem get?_modify (t : Table α) (p : α → Bool) (f : α → α) (h : ∀ r, keys (f r) = keys r)
    (k : κ) : (t.modify p f h).get? k = (t.get? k).map fun r => if p r then f r else r := by
  have hk : ∀ r, pk (if p r then f r else r) = pk r := fun r => by
    split_ifs
    · exact pk_of_keys (h r)
    · rfl
  simp [get?, hk]

theorem get?_modify_pk (t : Table α) (k0 : κ) (hp : ∀ r, p r = true ↔ pk r = k0) (k : κ) :
    (t.modify p f h).get? k = if k0 = k then (t.get? k).map f else t.get? k := by
  rw [get?_modify]
  cases hg : t.get? k with
  | none => simp
  | some r =>
    have hk : p r = true ↔ k0 = k := by rw [hp r, (get?_eq_some.mp hg).2, eq_comm]
    by_cases hpr : p r = true
    · simp [hpr, hk.mp hpr]
    · simp [hpr, mt hk.mpr hpr]

theorem get?_delete (t : Table α) (p : α → Bool) (k : κ) :
    (t.delete p).get? k = (t.get? k).filter fun r => !p r := by
  cases h : (t.delete p).get? k with
  | some =>
    obtain ⟨hr, hk⟩ := get?_eq_some.mp h
    obtain ⟨hm, hp⟩ := mem_delete.mp hr
    rw [get?_eq_some.mpr ⟨hm, hk⟩]
    simp [Option.filter, hp]
  | none =>
    cases hg : t.get? k with
    | none => rfl
    | some r =>
      obtain ⟨hm, hk⟩ := get?_eq_some.mp hg
      cases hp : p r with
      | true => simp [Option.filter, hp]
      | false => exact absurd hk (get?_eq_none.mp h r (mem_delete.mpr ⟨hm, hp⟩))

theorem get?_delete_pk (t : Table α) {k0 : κ} (hp : ∀ r, p r = true ↔ pk r = k0) (k : κ) :
    (t.delete p).get? k = if k0 = k then none else t.get? k := by
  rw [get?_delete]
  cases hg : t.get? k with
  | none => simp
  | some r =>
    have hk : p r = true ↔ k0 = k := by rw [hp r, (get?_eq_some.mp hg).2, eq_comm]
    by_cases hpr : p r = true
    · simp [Option.filter, hpr, hk.mp hpr]
    · simp [Option.filter, hpr, mt hk.mpr hpr]

theorem get?_alter (h : t.alter p f = some t') (hid : ∀ r, p r = true → pk (f r) = pk r) (k : κ) :
    t'.get? k = (t.get? k).map fun r => if p r then f r else r := by
  have hk : ∀ r, pk (if p r then f r else r) = pk r := fun r => by
    split_ifs with hp
    · exact hid r hp
    · rfl
  simp [get?, alter_eq_some h, hk]

theorem get?_alter_const {c : α} (hp : ∀ s, p s = true ↔ pk s = pk r) (hc : t.find? p = some c)
    (h : t.alter p (fun _ => r) = some t') (k : κ) : t'.get? k = if pk r = k then some r else t.get? k := by
  rw [get?_alter h fun s hs => ((hp s).mp hs).symm]
  split_ifs with hk
  · subst hk
    obtain ⟨hm, hpc⟩ := find?_eq_some hc
    rw [get?_eq_some.mpr ⟨hm, (hp c).mp hpc⟩]
    simp [hpc]
  · cases hg : t.get? k with
    | none => rfl
    | some s =>
      have hs : p s ≠ true := fun hps => hk (((hp s).mp hps).symm.trans (get?_eq_some.mp hg).2)
      simp [hs]

/-! ## Append-only tables -/

/-- `t'` has the rows of `t` and after them rows that satisfy `P`. -/
def Extends (P : α → Prop) (t t' : Table α) : Prop := ∃ new, t'.rows = t.rows ++ new ∧ ∀ r ∈ new, P r

theorem Extends.refl (P : α → Prop) (t : Table α) : Extends P t t := ⟨[], by simp, by simp⟩

variable {P : α → Prop}

theorem Extends.trans {t'' : Table α} (h : Extends P t t') (h' : Extends P t' t'') : Extends P t t'' := by
  obtain ⟨l, hl, hP⟩ := h
  obtain ⟨l', hl', hP'⟩ := h'
  refine ⟨l ++ l', by rw [hl', hl, List.append_assoc], fun r hr => ?_⟩
  exact (List.mem_append.mp hr).elim (hP r) (hP' r)

theorem extends_insert (h : t.insert r = some t') (hr : P r) : Extends P t t' :=
  ⟨[r], (insert_eq_some.mp h).2, by simpa using hr⟩

theorem Extends.count (h : Extends P t t') (hp : ∀ r, P r → p r = false) : t'.count p = t.count p := by
  obtain ⟨l, hl, hP⟩ := h
  have hz : l.countP p = 0 := List.countP_eq_zero.mpr fun r hr => by simp [hp r (hP r hr)]
  rw [Table.count, hl, List.countP_append, hz, Nat.add_zero, Table.count]

variable {v : α → ℤ}

theorem Extends.sum (h : Extends P t t') (hp : ∀ r, P r → p r = false) : t'.sum p v = t.sum p v := by
  obtain ⟨l, hl, hP⟩ := h
  have hz : l.map (fun r => if p r then v r else 0) = l.map fun _ => 0 :=
    List.map_congr_left fun r hr => by rw [hp r (hP r hr)]; rfl
  rw [Table.sum, hl, List.map_append, List.sum_append, hz, Table.sum]
  simp

theorem Extends.mem (h : Extends P t t') (hr : r ∈ t'.rows) (hP : ¬ P r) : r ∈ t.rows := by
  obtain ⟨l, hl, hl'⟩ := h
  rw [hl, List.mem_append] at hr
  exact hr.resolve_right fun hr => hP (hl' r hr)

/-! ## Aggregates -/

theorem sum_insert (h : t.insert r = some t') (p : α → Bool) (v : α → ℤ) :
    t'.sum p v = t.sum p v + if p r then v r else 0 := by
  simp [sum, (insert_eq_some.mp h).2]

theorem count_insert (h : t.insert r = some t') (p : α → Bool) : t'.count p = t.count p + if p r then 1 else 0 := by
  simp [count, (insert_eq_some.mp h).2, List.countP_append, List.countP_cons]

@[simp] theorem sum_empty (p : α → Bool) (v : α → ℤ) : (empty : Table α).sum p v = 0 := rfl

@[simp] theorem count_empty (p : α → Bool) : (empty : Table α).count p = 0 := rfl

variable {q : α → Bool}

theorem count_modify_le (t : Table α) (p : α → Bool) (f : α → α) (h : ∀ r, keys (f r) = keys r)
    (hq : ∀ r, q (f r) = true → q r = true) : (t.modify p f h).count q ≤ t.count q := by
  simp only [count, rows_modify, List.countP_map]
  refine List.countP_mono_left fun r _ hr => ?_
  simp only [Function.comp] at hr
  split_ifs at hr
  · exact hq r hr
  · exact hr

theorem count_modify_congr (t : Table α) (f : α → α) (h : ∀ r, keys (f r) = keys r) (p : α → Bool)
    (hp : ∀ r, p (f r) = p r) : (t.modify q f h).count p = t.count p := by
  simp only [count, rows_modify, List.countP_map]
  refine List.countP_congr fun r _ => ?_
  simp only [Function.comp_apply]
  by_cases hq : q r <;> simp [hq, hp]

/-! ## Setting one row -/

/-- The row with the key of `r` is set to `r`, and the others stay. -/
def Sets (r : α) (t t' : Table α) : Prop := ∀ k, t'.get? k = if pk r = k then some r else t.get? k

theorem Sets.get?_self (h : Sets r t t') : t'.get? (pk r) = some r := by
  rw [h, if_pos rfl]

theorem Sets.trans {r' : α} {t'' : Table α} (h : Sets r t t') (h' : Sets r' t' t'') (hk : pk r' = pk r) :
    Sets r' t t'' := by
  intro k
  rw [h' k, h k, hk]
  split_ifs <;> rfl

theorem sets_self (h : t.get? (pk r) = some r) : Sets r t t := by
  intro k
  split_ifs with hk
  · rw [← hk, h]
  · rfl

theorem sets_insert (h : t.insert r = some t') : Sets r t t' := get?_insert h

private theorem sets_of_map (hf : pk (f r) = pk r) (hr : t.get? (pk r) = some r) (hp : ∀ s, p s = true → pk s = pk r)
    (hpr : p r = true) (h : ∀ k, t'.get? k = (t.get? k).map fun s => if p s then f s else s) : Sets (f r) t t' := by
  intro k
  rw [h k, hf]
  split_ifs with hk
  · rw [← hk, hr, Option.map_some, if_pos hpr]
  · cases hg : t.get? k with
    | none => rfl
    | some s =>
      have hs := (get?_eq_some.mp hg).2
      rw [Option.map_some, if_neg fun hps => hk ((hp s hps).symm.trans hs)]

theorem sets_modify (hr : t.get? (pk r) = some r) (hp : ∀ s, p s = true → pk s = pk r) (hpr : p r = true) :
    Sets (f r) t (t.modify p f h) :=
  sets_of_map (pk_of_keys (h r)) hr hp hpr (get?_modify t p f h)

theorem sets_alter (h : t.alter p f = some t') (hf : ∀ s, pk (f s) = pk s) (hr : t.get? (pk r) = some r)
    (hp : ∀ s, p s = true → pk s = pk r) (hpr : p r = true) : Sets (f r) t t' :=
  sets_of_map (hf r) hr hp hpr (get?_alter h fun s _ => hf s)

theorem nodup_rows (t : Table α) : t.rows.Nodup := by
  refine t.unique.imp fun {r s} h heq => h ?_
  rw [heq]
  exact clash_of_pkey _ _ rfl

theorem Sets.perm (h : Sets r t t') : t'.rows.Perm (r :: t.rows.filter fun s => pk s ≠ pk r) := by
  have hnodup : (r :: t.rows.filter fun s => pk s ≠ pk r).Nodup :=
    List.nodup_cons.mpr ⟨by simp, t.nodup_rows.filter _⟩
  refine (List.perm_ext_iff_of_nodup t'.nodup_rows hnodup).mpr fun s => ?_
  have hs : s ∈ t'.rows ↔ t'.get? (pk s) = some s := ⟨get?_pk, fun hg => (get?_eq_some.mp hg).1⟩
  rw [hs, h (pk s), List.mem_cons, List.mem_filter]
  by_cases hk : pk r = pk s
  · rw [if_pos hk]
    simp [hk, eq_comm]
  · rw [if_neg hk, get?_eq_some]
    have hne : s ≠ r := fun heq => hk (heq ▸ rfl)
    simp [hne, Ne.symm hk]

theorem Sets.mem (h : Sets r t t') : s ∈ t'.rows ↔ s = r ∨ (s ∈ t.rows ∧ pk s ≠ pk r) := by
  rw [h.perm.mem_iff, List.mem_cons, List.mem_filter, decide_eq_true_eq]

/-- **Setting one row moves a sum by the row's contribution before and after.** -/
theorem Sets.sum (h : Sets r t t') (p : α → Bool) (v : α → ℤ) :
    t'.sum p v = t.sum p v - ((t.get? (pk r)).elim 0 fun s => if p s then v s else 0) + if p r then v r else 0 := by
  have hsum' : t'.sum p v = (if p r then v r else 0) +
      ((t.rows.filter fun s => pk s ≠ pk r).map fun s => if p s then v s else 0).sum := by
    rw [Table.sum, (h.perm.map _).sum_eq, List.map_cons, List.sum_cons]
  have hsum : t.sum p v = ((t.get? (pk r)).elim 0 fun s => if p s then v s else 0) +
      ((t.rows.filter fun s => pk s ≠ pk r).map fun s => if p s then v s else 0).sum := by
    cases hg : t.get? (pk r) with
    | none =>
      have hall : t.rows.filter (fun s => decide (pk s ≠ pk r)) = t.rows :=
        List.filter_eq_self.mpr fun s hs => decide_eq_true (get?_eq_none.mp hg s hs)
      rw [hall, Table.sum, Option.elim_none, zero_add]
    | some s =>
      have hk := (get?_eq_some.mp hg).2
      have hself : Sets s t t := sets_self (hk ▸ hg)
      rw [Table.sum, (hself.perm.map _).sum_eq, List.map_cons, List.sum_cons, hk]
      rfl
  omega

theorem perm_of_mem (hr : r ∈ t.rows) : t.rows.Perm (r :: t.rows.filter fun s => pk s ≠ pk r) :=
  (sets_self (get?_pk hr)).perm

theorem sum_single (hr : r ∈ t.rows) (hp : ∀ s ∈ t.rows, p s = true → pk s = pk r) (hpr : p r = true) :
    t.sum p v = v r := by
  have hz : ∀ s ∈ t.rows.filter (fun s => pk s ≠ pk r), (if p s then v s else 0) = 0 := by
    intro s hs
    obtain ⟨hs, hne⟩ := List.mem_filter.mp hs
    rw [if_neg fun hps => of_decide_eq_true hne (hp s hs hps)]
  rw [sum, ((perm_of_mem hr).map _).sum_eq, List.map_cons, List.sum_cons, if_pos hpr, List.map_congr_left hz]
  simp

theorem count_single (hr : r ∈ t.rows) (hp : ∀ s ∈ t.rows, p s = true → pk s = pk r) (hpr : p r = true) :
    t.count p = 1 := by
  have hz : (t.rows.filter fun s => pk s ≠ pk r).countP p = 0 := by
    refine List.countP_eq_zero.mpr fun s hs hps => ?_
    obtain ⟨hs, hne⟩ := List.mem_filter.mp hs
    exact of_decide_eq_true hne (hp s hs hps)
  rw [count, (perm_of_mem hr).countP_eq, List.countP_cons_of_pos hpr, hz]

private def keysOf (t : Table α) (p : α → Bool) : List κ := (t.rows.filter p).map pk

private theorem nodup_keysOf (t : Table α) (p : α → Bool) : (t.keysOf p).Nodup :=
  (t.unique.filter p).map pk fun _ _ h hk => h (clash_of_pkey _ _ hk)

private theorem mem_keysOf : k ∈ t.keysOf p ↔ ∃ r ∈ t.rows, p r = true ∧ pk r = k := by
  simp [keysOf, and_assoc]

private theorem length_keysOf (t : Table α) (p : α → Bool) : (t.keysOf p).length = t.count p := by
  rw [keysOf, List.length_map, ← List.countP_eq_length_filter, count]

theorem eq_of_count_le_one (h : t.count p ≤ 1) (hr : r ∈ t.rows) (hs : s ∈ t.rows) (hpr : p r = true)
    (hps : p s = true) : r = s := by
  by_contra hne
  have hpk : pk s ≠ pk r := fun hk => hne (t.eq_of_pk hr hs hk.symm)
  have hmem : s ∈ t.rows.filter fun s => pk s ≠ pk r := List.mem_filter.mpr ⟨hs, decide_eq_true hpk⟩
  have hpos := List.countP_pos_iff.mpr ⟨s, hmem, hps⟩
  rw [count, (perm_of_mem hr).countP_eq, List.countP_cons, if_pos hpr] at h
  omega

theorem count_le_count (h : ∀ r ∈ t.rows, p r = true → ∃ r' ∈ t'.rows, p r' = true ∧ pk r' = pk r) :
    t.count p ≤ t'.count p := by
  rw [← length_keysOf, ← length_keysOf]
  refine ((t.nodup_keysOf p).subperm fun k hk => ?_).length_le
  obtain ⟨r, hr, hp, rfl⟩ := mem_keysOf.mp hk
  exact mem_keysOf.mpr (h r hr hp)

theorem count_lt_count {r0 : α} (h : ∀ r ∈ t.rows, p r = true → ∃ r' ∈ t'.rows, p r' = true ∧ pk r' = pk r)
    (h0 : r0 ∈ t'.rows) (hp0 : p r0 = true) (hnew : ∀ r ∈ t.rows, p r = true → pk r ≠ pk r0) :
    t.count p < t'.count p := by
  have hnodup : (pk r0 :: t.keysOf p).Nodup := by
    refine List.nodup_cons.mpr ⟨fun hk => ?_, t.nodup_keysOf p⟩
    obtain ⟨r, hr, hp, hk⟩ := mem_keysOf.mp hk
    exact hnew r hr hp hk
  have hsub : pk r0 :: t.keysOf p ⊆ t'.keysOf p := by
    intro k hk
    rcases List.mem_cons.mp hk with rfl | hk
    · exact mem_keysOf.mpr ⟨r0, h0, hp0, rfl⟩
    · obtain ⟨r, hr, hp, rfl⟩ := mem_keysOf.mp hk
      exact mem_keysOf.mpr (h r hr hp)
  have hlen := (hnodup.subperm hsub).length_le
  rwa [List.length_cons, length_keysOf, length_keysOf] at hlen

theorem sum_congr (h : ∀ r ∈ t.rows, p r = q r) : t.sum p v = t.sum q v := by
  rw [sum, sum, List.map_congr_left fun r hr => by rw [h r hr]]

theorem sum_eq_zero (h : ∀ r ∈ t.rows, p r = false) : t.sum p v = 0 := by
  rw [sum, List.map_congr_left (g := fun _ => (0 : ℤ)) fun r hr => by rw [h r hr]; rfl]
  simp

theorem count_eq_zero : t.count p = 0 ↔ ∀ r ∈ t.rows, p r = false := by
  simp [count, List.countP_eq_zero]

theorem sum_nonneg (h : ∀ r ∈ t.rows, p r = true → 0 ≤ v r) : 0 ≤ t.sum p v := by
  refine List.sum_nonneg fun x hx => ?_
  obtain ⟨r, hr, rfl⟩ := List.mem_map.mp hx
  split_ifs with hp
  · exact h r hr hp
  · exact le_rfl

theorem le_sum (h : ∀ r ∈ t.rows, p r = true → 0 ≤ v r) (hr : r ∈ t.rows) (hp : p r = true) : v r ≤ t.sum p v := by
  have hall : ∀ x ∈ t.rows.map (fun r => if p r then v r else 0), 0 ≤ x := by
    intro x hx
    obtain ⟨s, hs, rfl⟩ := List.mem_map.mp hx
    split_ifs with hps
    · exact h s hs hps
    · exact le_rfl
  have := List.single_le_sum hall _ (List.mem_map_of_mem hr)
  rw [if_pos hp] at this
  exact this

end Table

end Relational
