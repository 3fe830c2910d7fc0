import Desktop2Stereo.Lib.Table

/-!
# Transactions over tables

A transaction either returns with a new store or fails, and a failure leaves the store as it was.
A program strings transactions together; what a transaction committed stays, also if a later one
fails.

* **`run_bind_ok`** and its companions (`run_*_ok`): what a successful run tells about its parts;
* `Prog`, `Prog.atomic`, `Prog.outcome`, `Prog.exec` and **`exec_atomic_error`**: a failed transaction
  changes nothing.
-/

namespace Relational

open StateT

/-- Transactions over a store `σ` that may fail with an `ε`. -/
abbrev Txn (σ ε α : Type) := StateT σ (Except ε) α

/-- The failures of the store itself. -/
class StoreError (ε : Type) where
  duplicateKey : ε

structure TableRef (σ α : Type) {κ : Type} [Indexed α κ] where
  get : σ → Table α
  put : σ → Table α → σ

section Statements

variable {σ ε α κ : Type} [Indexed α κ]

/-- Fail with `e` unless `c` holds. -/
def require (c : Prop) [Decidable c] (e : ε) : Txn σ ε Unit := if c then pure () else throw e

/-- Fail with `e` unless `c` holds, and return its proof. -/
def verify (c : Prop) [Decidable c] (e : ε) : Txn σ ε (PLift c) :=
  if h : c then pure ⟨h⟩ else throw e

def whenever (c : Prop) [Decidable c] (t : Txn σ ε Unit) : Txn σ ε Unit := if c then t else pure ()

/-- The value of an optional result, or the failure `e`. -/
def attempt {β : Type} (o : Option β) (e : ε) : Txn σ ε β :=
  match o with
  | some b => pure b
  | none => throw e

/-- A computation that does not touch the store. -/
def lifted {β : Type} (x : Except ε β) : Txn σ ε β := fun s => x.map fun b => (b, s)

/-- `SELECT … WHERE p LIMIT 1`, failing with `e` where there is no such row. -/
def first (R : TableRef σ α) (p : α → Bool) (e : ε) : Txn σ ε α := do attempt ((R.get (← get)).find? p) e

/-- `SELECT … WHERE p LIMIT 1`, with no row as a result. -/
def lookup (R : TableRef σ α) (p : α → Bool) : Txn σ ε (Option α) := do return (R.get (← get)).find? p

/-- `SELECT COUNT(*) … WHERE p`. -/
def count (R : TableRef σ α) (p : α → Bool) : Txn σ ε ℕ := do return (R.get (← get)).count p

/-- `SELECT COALESCE(SUM(v), 0) … WHERE p`. -/
def total (R : TableRef σ α) (p : α → Bool) (v : α → ℤ) : Txn σ ε ℤ := do return (R.get (← get)).sum p v

/-- `INSERT`, failing where a unique index is violated. -/
def create [StoreError ε] (R : TableRef σ α) (r : α) : Txn σ ε Unit := do
  let s ← get
  set (R.put s (← attempt ((R.get s).insert r) StoreError.duplicateKey))

/-- `INSERT … ON CONFLICT (columns) DO NOTHING`, where `clash` holds of the rows that agree with
the new one on the columns. Returns whether a row was inserted. -/
def createIgnore [StoreError ε] (R : TableRef σ α) (clash : α → Bool) (r : α) : Txn σ ε Bool := do
  match ← lookup R clash with
  | some _ => pure false
  | none => do
    create R r
    pure true

/-- `UPDATE … WHERE p` of columns without a unique index. -/
def updates (R : TableRef σ α) (p : α → Bool) (f : α → α)
    (h : ∀ r, Indexed.keys (f r) = Indexed.keys r := by as_aux_lemma => intro _; rfl) : Txn σ ε Unit :=
  modify fun s => R.put s ((R.get s).modify p f h)

/-- `UPDATE … WHERE p` of columns with a unique index, failing where it is violated. -/
def assign [StoreError ε] (R : TableRef σ α) (p : α → Bool) (f : α → α) : Txn σ ε Unit := do
  let s ← get
  set (R.put s (← attempt ((R.get s).alter p f) StoreError.duplicateKey))

/-- `WHERE p … Assign(f).FirstOrCreate(r)`: rewrite the row that is there, else insert `r`. -/
def upsert [StoreError ε] (R : TableRef σ α) (p : α → Bool) (f : α → α) (r : α) : Txn σ ε Unit := do
  match ← lookup R p with
  | some _ => assign R p f
  | none => create R r

/-- `DELETE … WHERE p`. -/
def delete (R : TableRef σ α) (p : α → Bool) : Txn σ ε Unit :=
  modify fun s => R.put s ((R.get s).delete p)

end Statements

/-! ## What a successful run tells -/

section Inversion

variable {σ ε α β : Type} {x : Except ε α}

theorem except_bind_ok {f : α → Except ε β} {b : β} : (x >>= f) = .ok b ↔ ∃ a, x = .ok a ∧ f a = .ok b := by
  cases x with
  | error => exact ⟨fun h => (nomatch h), fun ⟨_, h, _⟩ => (nomatch h)⟩
  | ok a => exact ⟨fun h => ⟨a, rfl, h⟩, fun ⟨_, h, h'⟩ => by cases h; exact h'⟩

theorem except_map_ok {f : α → β} {b : β} : x.map f = .ok b ↔ ∃ a, x = .ok a ∧ f a = b := by
  cases x with
  | error => exact ⟨fun h => (nomatch h), fun ⟨_, h, _⟩ => (nomatch h)⟩
  | ok a => exact ⟨fun h => ⟨a, rfl, Except.ok.inj h⟩, fun ⟨_, h, hb⟩ => by cases h; exact congrArg _ hb⟩

/-- **A sequence succeeds if its parts do.** -/
theorem run_bind_ok {x : Txn σ ε α} {f : α → Txn σ ε β} {s s'' : σ} {b : β} :
    (x >>= f).run s = .ok (b, s'') ↔ ∃ a s', x.run s = .ok (a, s') ∧ (f a).run s' = .ok (b, s'') := by
  rw [run_bind, except_bind_ok]
  exact ⟨fun ⟨p, h, h'⟩ => ⟨p.1, p.2, h, h'⟩, fun ⟨a, s', h, h'⟩ => ⟨(a, s'), h, h'⟩⟩

theorem run_pure_ok {a b : α} {s s' : σ} :
    (pure a : Txn σ ε α).run s = .ok (b, s') ↔ b = a ∧ s' = s := by
  rw [run_pure]
  constructor
  · intro h; cases h; exact ⟨rfl, rfl⟩
  · rintro ⟨rfl, rfl⟩; rfl

variable {e : ε}

theorem run_throw_ok {b : α} {s s' : σ} : (throw e : Txn σ ε α).run s = .ok (b, s') ↔ False :=
  ⟨fun h => (nomatch h), False.elim⟩

theorem run_get_ok {b s s' : σ} : (get : Txn σ ε σ).run s = .ok (b, s') ↔ b = s ∧ s' = s := by
  rw [run_get]
  exact run_pure_ok (ε := ε)

theorem run_get_bind_ok {f : σ → Txn σ ε β} {b : β} {s s' : σ} :
    (get >>= f).run s = .ok (b, s') ↔ (f s).run s = .ok (b, s') :=
  Iff.rfl

variable {b : Unit}

theorem run_set_ok {s s' s1 : σ} : (set s1 : Txn σ ε Unit).run s = .ok (b, s') ↔ s' = s1 := by
  rw [run_set]
  constructor
  · intro h; cases h; rfl
  · rintro rfl; rfl

theorem run_modify_ok {s s' : σ} {f : σ → σ} : (modify f : Txn σ ε Unit).run s = .ok (b, s') ↔ s' = f s := by
  rw [run_modify]
  constructor
  · intro h; cases h; rfl
  · rintro rfl; rfl

variable {c : Prop}

theorem run_require_ok [Decidable c] {s s' : σ} : (require c e : Txn σ ε Unit).run s = .ok (b, s') ↔ c ∧ s' = s := by
  unfold require
  split_ifs with h
  · rw [run_pure_ok]; exact ⟨fun ⟨_, hs⟩ => ⟨h, hs⟩, fun ⟨_, hs⟩ => ⟨rfl, hs⟩⟩
  · rw [run_throw_ok]; exact ⟨False.elim, fun h' => h h'.1⟩

theorem run_verify_ok [Decidable c] {b : PLift c} {s s' : σ} :
    (verify c e : Txn σ ε (PLift c)).run s = .ok (b, s') ↔ c ∧ s' = s := by
  unfold verify
  split_ifs with h
  · rw [run_pure_ok]
    exact ⟨fun ⟨_, hs⟩ => ⟨h, hs⟩, fun ⟨_, hs⟩ => ⟨rfl, hs⟩⟩
  · exact absurd b.down h

theorem run_whenever_ok [Decidable c] {t : Txn σ ε Unit} {s s' : σ} :
    (whenever c t).run s = .ok (b, s') ↔ (c ∧ t.run s = .ok ((), s')) ∨ (¬ c ∧ s' = s) := by
  unfold whenever
  split_ifs with h
  · exact ⟨fun ht => .inl ⟨h, ht⟩, fun ht => ht.elim And.right fun h' => absurd h h'.1⟩
  · rw [run_pure_ok]
    exact ⟨fun ⟨_, hs⟩ => .inr ⟨h, hs⟩, fun ht => ht.elim (fun h' => absurd h'.1 h) fun h' => ⟨rfl, h'.2⟩⟩

theorem run_attempt_ok {o : Option α} {b : α} {s s' : σ} :
    (attempt o e : Txn σ ε α).run s = .ok (b, s') ↔ o = some b ∧ s' = s := by
  cases o with
  | none => exact ⟨fun h => (nomatch h), fun h => (nomatch h.1)⟩
  | some a =>
    rw [attempt, run_pure_ok, Option.some.injEq, eq_comm (a := b)]

theorem run_attempt_bind_ok {o : Option α} {f : α → Txn σ ε β} {b : β} {s s' : σ} :
    (attempt o e >>= f).run s = .ok (b, s') ↔ ∃ a, o = some a ∧ (f a).run s = .ok (b, s') := by
  simp only [run_bind_ok, run_attempt_ok, and_assoc, exists_and_left, exists_eq_left]

theorem run_lifted_ok {b : α} {s s' : σ} : (lifted x : Txn σ ε α).run s = .ok (b, s') ↔ x = .ok b ∧ s' = s := by
  cases x with
  | error => exact ⟨fun h => (nomatch h), fun h => (nomatch h.1)⟩
  | ok =>
    constructor
    · intro h; cases h; exact ⟨rfl, rfl⟩
    · rintro ⟨h, rfl⟩; cases h; rfl

variable {κ : Type} [Indexed α κ] {R : TableRef σ α} {p : α → Bool} {s s' : σ} {r : α}

theorem run_first_ok : (first R p e).run s = .ok (r, s') ↔ (R.get s).find? p = some r ∧ s' = s := by
  simp only [first, run_get_bind_ok, run_attempt_ok]

theorem run_lookup_ok {o : Option α} :
    (lookup R p : Txn σ ε (Option α)).run s = .ok (o, s') ↔ o = (R.get s).find? p ∧ s' = s := by
  simp only [lookup, run_get_bind_ok, run_pure_ok]

theorem run_lookup_bind_ok {f : Option α → Txn σ ε β} {b : β} :
    (lookup R p >>= f).run s = .ok (b, s') ↔ (f ((R.get s).find? p)).run s = .ok (b, s') :=
  Iff.rfl

theorem run_count_ok {n : ℕ} :
    (count R p : Txn σ ε ℕ).run s = .ok (n, s') ↔ n = (R.get s).count p ∧ s' = s := by
  simp only [count, run_get_bind_ok, run_pure_ok]

theorem run_total_ok {v : α → ℤ} {n : ℤ} :
    (total R p v : Txn σ ε ℤ).run s = .ok (n, s') ↔ n = (R.get s).sum p v ∧ s' = s := by
  simp only [total, run_get_bind_ok, run_pure_ok]

variable {u : Unit}

theorem run_create_ok [StoreError ε] :
    (create R r : Txn σ ε Unit).run s = .ok (u, s') ↔
      ∃ t, (R.get s).insert r = some t ∧ s' = R.put s t := by
  simp only [create, run_get_bind_ok, run_attempt_bind_ok, run_set_ok]

theorem run_createIgnore_ok [StoreError ε] {b : Bool} :
    (createIgnore R p r : Txn σ ε Bool).run s = .ok (b, s') ↔
      (b = false ∧ s' = s ∧ (∃ c, (R.get s).find? p = some c)) ∨
      (b = true ∧ (R.get s).find? p = none ∧ ∃ t, (R.get s).insert r = some t ∧ s' = R.put s t) := by
  rw [createIgnore, run_lookup_bind_ok]
  cases (R.get s).find? p with
  | none =>
    simp only [run_bind_ok, run_create_ok, run_pure_ok]
    constructor
    · rintro ⟨_, _, ⟨t, ht, rfl⟩, rfl, rfl⟩
      exact .inr ⟨rfl, trivial, t, ht, rfl⟩
    · rintro (⟨_, _, c, hc⟩ | ⟨rfl, _, t, ht, rfl⟩)
      · exact nomatch hc
      · exact ⟨(), _, ⟨t, ht, rfl⟩, rfl, rfl⟩
  | some c => simpa using run_pure_ok

variable {f : α → α}

theorem run_updates_ok {h : ∀ r, Indexed.keys (f r) = Indexed.keys r} :
    (updates R p f h : Txn σ ε Unit).run s = .ok (u, s') ↔ s' = R.put s ((R.get s).modify p f h) :=
  run_modify_ok

theorem run_assign_ok [StoreError ε] :
    (assign R p f : Txn σ ε Unit).run s = .ok (u, s') ↔
      ∃ t, (R.get s).alter p f = some t ∧ s' = R.put s t := by
  simp only [assign, run_get_bind_ok, run_attempt_bind_ok, run_set_ok]

theorem run_upsert_ok [StoreError ε] :
    (upsert R p f r : Txn σ ε Unit).run s = .ok (u, s') ↔
      (∃ c t, (R.get s).find? p = some c ∧ (R.get s).alter p f = some t ∧ s' = R.put s t) ∨
      (∃ t, (R.get s).find? p = none ∧ (R.get s).insert r = some t ∧ s' = R.put s t) := by
  rw [upsert, run_lookup_bind_ok]
  cases (R.get s).find? p with
  | none => simp [run_create_ok]
  | some c => simp [run_assign_ok]

theorem run_upsert_put [StoreError ε] (h : (upsert R p f r : Txn σ ε Unit).run s = .ok (u, s')) :
    ∃ t, s' = R.put s t := by
  rcases run_upsert_ok.mp h with ⟨_, t, -, -, hs⟩ | ⟨t, -, -, hs⟩ <;> exact ⟨t, hs⟩

/-- **Storing a whole row under its primary key.** -/
theorem run_upsert_row [DecidableEq κ] [StoreError ε] (hp : ∀ c, p c = true ↔ pk c = pk r)
    (h : (upsert R p (fun _ => r) r : Txn σ ε Unit).run s = .ok (u, s')) :
    ∃ t, s' = R.put s t ∧ ∀ k, t.get? k = if pk r = k then some r else (R.get s).get? k := by
  rcases run_upsert_ok.mp h with ⟨c, t, hc, ht, hs⟩ | ⟨t, _, ht, hs⟩
  · exact ⟨t, hs, Table.get?_alter_const hp hc ht⟩
  · exact ⟨t, hs, Table.get?_insert ht⟩

theorem run_delete_ok : (delete R p : Txn σ ε Unit).run s = .ok (u, s') ↔ s' = R.put s ((R.get s).delete p) :=
  run_modify_ok

end Inversion

/-! ## What a failed run tells -/

section Failure

variable {σ ε α β : Type}

def Commits (t : Txn σ ε α) (s : σ) : Prop := ∃ r, t.run s = .ok r

instance (t : Txn σ ε α) (s : σ) : Decidable (Commits t s) :=
  match h : t.run s with
  | .ok r => .isTrue ⟨r, h⟩
  | .error _ => .isFalse fun ⟨_, h'⟩ => (nomatch h.symm.trans h')

def Fails (t : Txn σ ε α) (s : σ) (e : ε) : Prop := t.run s = .error e

variable {s : σ} {e e' : ε} {x : Txn σ ε α}

@[simp] theorem fails_bind {f : α → Txn σ ε β} :
    Fails (x >>= f) s e ↔ Fails x s e ∨ ∃ a s', x.run s = .ok (a, s') ∧ Fails (f a) s' e := by
  unfold Fails
  rw [run_bind]
  cases hx : x.run s with
  | error =>
    constructor
    · intro h; exact .inl (congrArg Except.error (Except.error.inj h))
    · rintro (h | ⟨_, _, h, _⟩)
      · exact congrArg Except.error (Except.error.inj h)
      · cases h
  | ok p =>
    constructor
    · intro h; exact .inr ⟨p.1, p.2, rfl, h⟩
    · rintro (h | ⟨_, _, h, hf⟩)
      · cases h
      · cases h; exact hf

@[simp] theorem fails_pure {a : α} : Fails (pure a : Txn σ ε α) s e ↔ False := ⟨fun h => (nomatch h), False.elim⟩

@[simp] theorem fails_map {f : α → β} : Fails (f <$> x) s e ↔ Fails x s e := by
  rw [← bind_pure_comp, fails_bind]
  simp

@[simp] theorem fails_throw : Fails (throw e' : Txn σ ε α) s e ↔ e' = e :=
  ⟨fun h => Except.error.inj h, fun h => congrArg Except.error h⟩

@[simp] theorem fails_require {c : Prop} [Decidable c] : Fails (require c e' : Txn σ ε Unit) s e ↔ ¬ c ∧ e' = e := by
  unfold require
  split_ifs with h <;> simp [h]

@[simp] theorem fails_whenever {c : Prop} [Decidable c] {t : Txn σ ε Unit} :
    Fails (whenever c t) s e ↔ c ∧ Fails t s e := by
  unfold whenever
  split_ifs with h <;> simp [h]

@[simp] theorem fails_attempt {o : Option α} : Fails (attempt o e' : Txn σ ε α) s e ↔ o = none ∧ e' = e := by
  cases o <;> simp [attempt]

variable {κ : Type} [Indexed α κ] {R : TableRef σ α} {p : α → Bool}

@[simp] theorem fails_get : Fails (get : Txn σ ε σ) s e ↔ False := ⟨fun h => (nomatch h), False.elim⟩

@[simp] theorem fails_set {s1 : σ} : Fails (set s1 : Txn σ ε Unit) s e ↔ False := ⟨fun h => (nomatch h), False.elim⟩

@[simp] theorem fails_first : Fails (first R p e') s e ↔ (R.get s).find? p = none ∧ e' = e := by
  simp only [first, fails_bind, fails_get, false_or, run_get_ok, fails_attempt]
  constructor
  · rintro ⟨_, _, ⟨rfl, rfl⟩, h⟩
    exact h
  · intro h
    exact ⟨s, s, ⟨rfl, rfl⟩, h⟩

@[simp] theorem fails_lookup : Fails (lookup R p : Txn σ ε (Option α)) s e ↔ False := by
  simp [lookup, fails_get]

@[simp] theorem fails_count : Fails (count R p : Txn σ ε ℕ) s e ↔ False := by
  simp [count, fails_get]

variable {f : α → α}

@[simp] theorem fails_updates {h : ∀ r, Indexed.keys (f r) = Indexed.keys r} :
    Fails (updates R p f h : Txn σ ε Unit) s e ↔ False :=
  ⟨fun h => (nomatch h), False.elim⟩

@[simp] theorem fails_delete : Fails (delete R p : Txn σ ε Unit) s e ↔ False := ⟨fun h => (nomatch h), False.elim⟩

variable [StoreError ε]

/-! The statements that write an indexed column fail with a duplicate key alone. -/

@[simp] theorem fails_create {r : α} (he : e ≠ StoreError.duplicateKey) :
    Fails (create R r : Txn σ ε Unit) s e ↔ False := by
  simp [create, fails_bind, fails_get, fails_attempt, fails_set, he.symm]

@[simp] theorem fails_assign (he : e ≠ StoreError.duplicateKey) :
    Fails (assign R p f : Txn σ ε Unit) s e ↔ False := by
  simp [assign, fails_bind, fails_get, fails_attempt, fails_set, he.symm]

@[simp] theorem fails_createIgnore {r : α} (he : e ≠ StoreError.duplicateKey) :
    Fails (createIgnore R p r : Txn σ ε Bool) s e ↔ False := by
  refine ⟨fun h => ?_, False.elim⟩
  simp only [createIgnore, fails_bind, fails_lookup, false_or] at h
  obtain ⟨o, _, -, h⟩ := h
  cases o with
  | some => exact fails_pure.mp h
  | none => simp [he] at h

@[simp] theorem fails_upsert {r : α} (he : e ≠ StoreError.duplicateKey) :
    Fails (upsert R p f r : Txn σ ε Unit) s e ↔ False := by
  refine ⟨fun h => ?_, False.elim⟩
  simp only [upsert, fails_bind, fails_lookup, false_or] at h
  obtain ⟨o, _, -, h⟩ := h
  cases o with
  | some => exact (fails_assign he).mp h
  | none => exact (fails_create he).mp h

end Failure

/-! ## Programs of transactions -/

/-- Programs over a store: a failure keeps what was committed before it. -/
abbrev Prog (σ ε α : Type) := ExceptT ε (StateM σ) α

namespace Prog

variable {σ ε α β : Type}

/-- Run a program from a store. -/
def exec (p : Prog σ ε α) (s : σ) : Except ε α × σ := (ExceptT.run p).run s

/-- The outcome of a transaction: the new store if it succeeds, the old one if it fails. -/
def settle (s : σ) : Except ε (α × σ) → Except ε α × σ
  | .ok (a, s') => (.ok a, s')
  | .error e => (.error e, s)

/-- Run a transaction as a step of a program: commit it or leave the store as it was. -/
def atomic (t : Txn σ ε α) : Prog σ ε α := ExceptT.mk fun s => settle s (t.run s)

/-- Run a program for its result or its error, as a value. -/
def outcome {ε' : Type} (p : Prog σ ε α) : Prog σ ε' (Except ε α) :=
  ExceptT.mk fun s => ((.ok (exec p s).1, (exec p s).2) : Except ε' (Except ε α) × σ)

theorem exec_pure (a : α) (s : σ) : exec (pure a : Prog σ ε α) s = (.ok a, s) := rfl

theorem exec_outcome {ε' : Type} (p : Prog σ ε α) (s : σ) :
    exec (outcome p : Prog σ ε' (Except ε α)) s = (.ok (exec p s).1, (exec p s).2) := rfl

theorem exec_bind (p : Prog σ ε α) (f : α → Prog σ ε β) (s : σ) :
    exec (p >>= f) s = match exec p s with
      | (.ok a, s') => exec (f a) s'
      | (.error e, s') => (.error e, s') := by
  change (ExceptT.run p >>= ExceptT.bindCont f).run s = _
  rw [run_bind]
  unfold exec
  cases h : (ExceptT.run p).run s with
  | mk r => cases r <;> rfl

variable {t : Txn σ ε α} {s s' : σ}

theorem exec_atomic_ok {a : α} (h : t.run s = .ok (a, s')) : exec (atomic t) s = (.ok a, s') := by
  change settle s (t.run s) = _
  rw [h]
  rfl

theorem exec_require {c : Prop} [Decidable c] (h : c) (e : ε) (s : σ) :
    exec (atomic (require c e : Txn σ ε Unit)) s = (.ok (), s) :=
  exec_atomic_ok (run_require_ok.mpr ⟨h, rfl⟩)

/-- **A transaction that fails changes nothing.** -/
theorem exec_atomic_error {e : ε} (h : t.run s = .error e) : exec (atomic t) s = (.error e, s) := by
  change settle s (t.run s) = _
  rw [h]
  rfl

theorem exec_atomic (t : Txn σ ε α) (s : σ) :
    (∃ a s', t.run s = .ok (a, s') ∧ exec (atomic t) s = (.ok a, s')) ∨
      ∃ e, t.run s = .error e ∧ exec (atomic t) s = (.error e, s) := by
  cases h : t.run s with
  | error e => exact .inr ⟨e, rfl, exec_atomic_error h⟩
  | ok p => exact .inl ⟨p.1, p.2, rfl, exec_atomic_ok h⟩

theorem exec_atomic_eq_ok {a : α} : exec (atomic t) s = (.ok a, s') ↔ t.run s = .ok (a, s') := by
  rcases exec_atomic t s with ⟨b, _, hr, he⟩ | ⟨e, hr, he⟩
  · rw [he, hr]
    constructor
    · intro h; cases h; rfl
    · intro h; cases h; rfl
  · rw [he, hr]
    constructor
    · intro h; cases (Prod.mk.inj h).1
    · intro h; cases h

variable {p : Prog σ ε α} {f : α → Prog σ ε β}

/-- **A program returns if its parts do.** -/
theorem exec_bind_ok {s'' : σ} {b : β} :
    exec (p >>= f) s = (.ok b, s'') ↔ ∃ a s', exec p s = (.ok a, s') ∧ exec (f a) s' = (.ok b, s'') := by
  rw [exec_bind]
  cases h : exec p s with
  | mk r s' =>
    cases r with
    | ok a =>
      constructor
      · intro hf; exact ⟨a, s', rfl, hf⟩
      · rintro ⟨_, _, he, hf⟩; cases he; exact hf
    | error =>
      constructor
      · intro he; cases (Prod.mk.inj he).1
      · rintro ⟨_, _, he, _⟩; cases (Prod.mk.inj he).1

theorem exec_pure_ok {a b : α} : exec (pure a : Prog σ ε α) s = (.ok b, s') ↔ b = a ∧ s' = s := by
  rw [exec_pure]
  constructor
  · intro h; cases h; exact ⟨rfl, rfl⟩
  · rintro ⟨rfl, rfl⟩; rfl

/-- From a store with `I` the program ends in one with `J`, whether it returns or fails. -/
def Ensures (I J : σ → Prop) (p : Prog σ ε α) : Prop := ∀ s, I s → J (exec p s).2

variable {I : σ → Prop}

theorem ensures_pure (a : α) : Ensures I I (pure a : Prog σ ε α) := fun _ h => h

theorem ensures_throw (e : ε) : Ensures I I (throw e : Prog σ ε α) := fun _ h => h

variable {J : σ → Prop}

theorem ensures_outcome {ε' : Type} (h : Ensures I J p) :
    Ensures I J (outcome p : Prog σ ε' (Except ε α)) := h

/-- **The rule of sequences.** A failure in the first part ends the program there. -/
theorem ensures_bind {K : σ → Prop} (hp : Ensures I J p) (hJK : ∀ s, J s → K s) (hf : ∀ a, Ensures J K (f a)) :
    Ensures I K (p >>= f) := by
  intro s hs
  have h := hp s hs
  rw [exec_bind]
  revert h
  cases exec p s with
  | mk r s' =>
    intro h
    cases r with
    | ok a => exact hf a s' h
    | error => exact hJK s' h

theorem ensures_atomic (hIJ : ∀ s, I s → J s) (h : ∀ s a s', I s → t.run s = .ok (a, s') → J s') :
    Ensures I J (atomic t) := by
  intro s hs
  rcases exec_atomic t s with ⟨a, s', hr, he⟩ | ⟨e, -, he⟩
  · rw [he]; exact h s a s' hs hr
  · rw [he]; exact hIJ s hs

theorem ensures_readonly (h : ∀ s a s', t.run s = .ok (a, s') → s' = s) : Ensures I I (atomic t) := by
  refine ensures_atomic (fun _ hs => hs) fun s a s' hs hr => ?_
  rw [h s a s' hr]
  exact hs

theorem ensures_attempt {o : Option α} {e : ε} (h : ∀ a, o = some a → Ensures I I (f a)) :
    Ensures I I (atomic (attempt o e) >>= f) := by
  intro s hs
  rw [exec_bind]
  cases o with
  | none => exact hs
  | some a => exact h a rfl s hs

end Prog

end Relational
