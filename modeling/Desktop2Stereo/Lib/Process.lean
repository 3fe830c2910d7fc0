import Desktop2Stereo.Lib.Runs

/-!
# Processes that share a store

A process is what is left of a call. It is done, or its next step is one access to the shared store,
or it forks a process that runs in the background and gives no answer. An access is atomic; between two
accesses of one process any other process may run. A process that is never run again has crashed.
Accesses carry a label, so that a condition on a run can speak of what a process is about to do.

* `Meets`: what a process owes, whatever the others do; `Ensures`: what a program guarantees to the rest of its
  process, with the rules `Ensures.bind`, `ensures_access`, `ensures_observe_bind`;
* `Only`: a program whose accesses stay within a relation; `Only.ensures`;
* **`run_conforms`**: in every interleaving the invariant holds and every answer keeps its promise;
* **`run_conforms_after`**: the same from a point on, for the calls that are started later.
-/

namespace Concurrent

/-- What is left of a call over a store `σ`, with labels `μ` and an answer in `ρ`. -/
inductive Process (σ μ ρ : Type)
  | done (r : ρ)
  | halt
  | act (label : μ) (move : σ → σ) (next : σ → Process σ μ ρ)
  | fork (child next : Process σ μ ρ)

/-- A piece of a process that returns an `α` to the rest of it. -/
def Program (σ μ ρ α : Type) := (α → Process σ μ ρ) → Process σ μ ρ

section Programs

variable {σ μ ρ α : Type}

instance : Monad (Program σ μ ρ) where
  pure a := fun k => k a
  bind p f := fun k => p fun a => f a k

/-- One atomic access to the store. -/
def access (label : μ) (f : σ → α × σ) : Program σ μ ρ α :=
  fun k => .act label (fun s => (f s).2) fun s => k (f s).1

/-- One atomic read of the store. -/
def observe (label : μ) (f : σ → α) : Program σ μ ρ α := access label fun s => (f s, s)

/-- Start a program in the background. -/
def spawn (child : Program σ μ ρ Unit) : Program σ μ ρ Unit := fun k => .fork (child fun _ => .halt) (k ())

def Process.answer : Process σ μ ρ → Option ρ
  | .done r => some r
  | _ => none

/-- A process that runs alone. -/
def Process.exec : Process σ μ ρ → σ → Option ρ × σ
  | .done r, s => (some r, s)
  | .halt, s => (none, s)
  | .act _ move next, s => (next s).exec (move s)
  | .fork child next, s => next.exec (child.exec s).2

theorem exec_observe_bind {β : Type} (l : μ) (g : σ → α) (f : α → Program σ μ ρ β) (k : β → Process σ μ ρ) (s : σ) :
    ((observe l g >>= f) k).exec s = (f (g s) k).exec s := rfl

def Process.label : Process σ μ ρ → Option μ
  | .act l _ _ => some l
  | _ => none

end Programs

/-! ## Systems -/

/-- A store and the processes that share it, in the order in which they were started. -/
structure System (σ μ ρ : Type) where
  store : σ
  pool : List (Process σ μ ρ) := []

/-- A move of a system: a call is started, a process takes one step, or the environment acts. -/
inductive Move (ι η : Type)
  | start (c : ι)
  | run (n : ℕ)
  | env (x : η)

section Systems

variable {σ μ ρ ι η : Type} (body : ι → Process σ μ ρ) (env : η → σ → σ)

def stepProcess (s : System σ μ ρ) (n : ℕ) : Process σ μ ρ → System σ μ ρ
  | .done _ => s
  | .halt => s
  | .act _ move next => ⟨move s.store, s.pool.set n (next s.store)⟩
  | .fork child next => ⟨s.store, s.pool.set n next ++ [child]⟩

def step (s : System σ μ ρ) : Move ι η → System σ μ ρ
  | .start c => { s with pool := s.pool ++ [body c] }
  | .run n => match s.pool[n]? with
    | some p => stepProcess s n p
    | none => s
  | .env x => { s with store := env x s.store }

def System.answer (s : System σ μ ρ) (n : ℕ) : Option ρ := s.pool[n]?.bind Process.answer

def System.label (s : System σ μ ρ) (n : ℕ) : Option μ := s.pool[n]?.bind Process.label

/-- A condition on a move: on the access that it makes, on the call that it starts, on what the environment does. -/
def Admitted (admits : σ → μ → Prop) (starts : σ → ι → Prop) (permits : σ → η → Prop) (s : System σ μ ρ) :
    Move ι η → Prop
  | .start c => starts s.store c
  | .run n => ∀ l ∈ s.label n, admits s.store l
  | .env x => permits s.store x

instance (admits : σ → μ → Prop) (starts : σ → ι → Prop) (permits : σ → η → Prop) [∀ s l, Decidable (admits s l)]
    [∀ s c, Decidable (starts s c)] [∀ s x, Decidable (permits s x)] (s : System σ μ ρ) (m : Move ι η) :
    Decidable (Admitted admits starts permits s m) :=
  match m with
  | .start c => inferInstanceAs (Decidable (starts s.store c))
  | .run n => inferInstanceAs (Decidable (∀ l ∈ s.label n, admits s.store l))
  | .env x => inferInstanceAs (Decidable (permits s.store x))

theorem admitted_of_forall {admits : σ → μ → Prop} {starts : σ → ι → Prop} {permits : σ → η → Prop}
    (ha : ∀ s l, admits s l) (hs : ∀ s c, starts s c) (hp : ∀ s x, permits s x) (s : System σ μ ρ) (m : Move ι η) :
    Admitted admits starts permits s m := by
  cases m with
  | start c => exact hs _ c
  | run => exact fun l _ => ha _ l
  | env x => exact hp _ x

end Systems

/-! ## Protocols -/

/-- An invariant of the store, the changes that the steps of all processes together may make to it, and the
accesses that are admitted. -/
structure Protocol (σ μ : Type) where
  inv : σ → Prop
  rely : σ → σ → Prop
  admits : σ → μ → Prop
  refl : ∀ s, rely s s
  trans : ∀ {a b c}, rely a b → rely b c → rely a c

section Meets

variable {σ μ ρ α : Type} {P : Protocol σ μ} {Q Q' : ρ → σ → Prop} {s s' : σ}

/-- The process keeps the protocol from the store `s` on, and its answer satisfies `Q`: whatever the others
have done before each of its accesses. -/
def Meets (P : Protocol σ μ) (Q : ρ → σ → Prop) : Process σ μ ρ → σ → Prop
  | .done r, s => ∀ s', P.rely s s' → P.inv s' → Q r s'
  | .halt, _ => True
  | .act l move next, s => ∀ s', P.rely s s' → P.inv s' → P.admits s' l →
      P.inv (move s') ∧ P.rely s' (move s') ∧ Meets P Q (next s') (move s')
  | .fork child next, s => Meets P (fun _ _ => False) child s ∧ Meets P Q next s

variable {p : Process σ μ ρ}

theorem Meets.later (h : Meets P Q p s) (hs : P.rely s s') : Meets P Q p s' := by
  induction p generalizing Q with
  | done => exact fun s'' hr hi => h s'' (P.trans hs hr) hi
  | halt => trivial
  | act => exact fun s'' hr hi ha => h s'' (P.trans hs hr) hi ha
  | fork child next hc hn => exact ⟨hc h.1, hn h.2⟩

theorem Meets.imp (h : Meets P Q p s) (hQ : ∀ r s, P.inv s → Q r s → Q' r s) : Meets P Q' p s := by
  induction p generalizing s with
  | done r => exact fun s' hr hi => hQ r s' hi (h s' hr hi)
  | halt => trivial
  | act l move next ih =>
    intro s' hr hi ha
    obtain ⟨hi', hr', hn⟩ := h s' hr hi ha
    exact ⟨hi', hr', ih s' hn⟩
  | fork child next hc hn => exact ⟨h.1, hn h.2⟩

/-- The program keeps the protocol from the store `s` on, and `post` holds of what it returns at that moment. -/
def Ensures (P : Protocol σ μ) (p : Program σ μ ρ α) (s : σ) (post : α → σ → Prop) : Prop :=
  ∀ (Q : ρ → σ → Prop) (k : α → Process σ μ ρ),
    (∀ a s', P.rely s s' → P.inv s' → post a s' → Meets P Q (k a) s') → Meets P Q (p k) s

section Ensures

variable {β : Type} {p : Program σ μ ρ α} {f : α → Program σ μ ρ β} {post post' : α → σ → Prop} {post₂ : β → σ → Prop}

theorem ensures_pure {a : α} (hi : P.inv s) (h : post a s) : Ensures P (pure a : Program σ μ ρ α) s post :=
  fun _ _ hk => hk a s (P.refl s) hi h

theorem Ensures.bind (hp : Ensures P p s post)
    (hf : ∀ a s', P.rely s s' → P.inv s' → post a s' → Ensures P (f a) s' post₂) : Ensures P (p >>= f) s post₂ := by
  intro Q k hk
  refine hp Q _ fun a s' hr hi ha => hf a s' hr hi ha Q k fun b s'' hr' hi' hb => ?_
  exact hk b s'' (P.trans hr hr') hi' hb

theorem Ensures.imp (hp : Ensures P p s post) (h : ∀ a s', P.rely s s' → P.inv s' → post a s' → post' a s') :
    Ensures P p s post' :=
  fun Q k hk => hp Q k fun a s' hr hi ha => hk a s' hr hi (h a s' hr hi ha)

variable {g : σ → α × σ}

theorem ensures_access {l : μ} (h : ∀ s', P.rely s s' → P.inv s' → P.admits s' l →
      P.inv (g s').2 ∧ P.rely s' (g s').2 ∧ post (g s').1 (g s').2) :
    Ensures P (access l g : Program σ μ ρ α) s post := by
  intro Q k hk s' hr hi ha
  obtain ⟨hi', hr', hp⟩ := h s' hr hi ha
  exact ⟨hi', hr', hk _ _ (P.trans hr hr') hi' hp⟩

theorem ensures_access_bind {l : μ} (h : ∀ s', P.rely s s' → P.inv s' → P.admits s' l →
      P.inv (g s').2 ∧ P.rely s' (g s').2 ∧ Ensures P (f (g s').1) (g s').2 post₂) :
    Ensures P (access l g >>= f) s post₂ := by
  intro Q k hk s' hr hi ha
  obtain ⟨hi', hr', hp⟩ := h s' hr hi ha
  exact ⟨hi', hr', hp Q k fun b s'' hr'' => hk b s'' (P.trans hr (P.trans hr' hr''))⟩

theorem ensures_observe_bind {l : μ} {g : σ → α}
    (h : ∀ s', P.rely s s' → P.inv s' → Ensures P (f (g s')) s' post₂) : Ensures P (observe l g >>= f) s post₂ :=
  ensures_access_bind fun s' hr hi _ => ⟨hi, P.refl s', h s' hr hi⟩

theorem Ensures.meets {g : α → ρ} (hp : Ensures P p s post)
    (h : ∀ a s', P.rely s s' → P.inv s' → post a s' → ∀ s'', P.rely s' s'' → P.inv s'' → Q (g a) s'') :
    Meets P Q (p fun a => .done (g a)) s :=
  hp Q _ fun a s' hr hi ha => ((h a s' hr hi ha))

end Ensures

/-! ### Programs that stay within a relation -/

/-- Every access of the program is within the relation for its label, whatever the store is: what such accesses keep is
kept by the program. -/
def Makes (T : μ → σ → σ → Prop) (p : Program σ μ ρ α) : Prop :=
  ∀ C : Process σ μ ρ → Prop, (∀ l move next, (∀ s, T l s (move s)) → (∀ s, C (next s)) → C (.act l move next)) →
    ∀ k : α → Process σ μ ρ, (∀ a, C (k a)) → C (p k)

/-- Every access of the program is within the relation. -/
abbrev Only (T : σ → σ → Prop) (p : Program σ μ ρ α) : Prop := Makes (fun _ => T) p

section Only

variable {β : Type} {R R' : μ → σ → σ → Prop} {T : σ → σ → Prop} {p : Program σ μ ρ α} {f : α → Program σ μ ρ β}

theorem only_pure (a : α) : Makes R (pure a : Program σ μ ρ α) := fun _ _ _ hk => hk a

theorem Makes.bind (hp : Makes R p) (hf : ∀ a, Makes R (f a)) : Makes R (p >>= f) :=
  fun C hC k hk => hp C hC _ fun a => hf a C hC k hk

theorem only_access {l : μ} {g : σ → α × σ} (h : ∀ s, R l s (g s).2) : Makes R (access l g : Program σ μ ρ α) :=
  fun _ hC _ hk => hC l _ _ h fun s => hk (g s).1

theorem only_observe {l : μ} {g : σ → α} (h : ∀ s, R l s s) : Makes R (observe l g : Program σ μ ρ α) := only_access h

theorem Makes.mono (hp : Makes R p) (h : ∀ l s s', R l s s' → R' l s s') : Makes R' p :=
  fun C hC => hp C fun l move next hm hn => hC l move next (fun s => h l _ _ (hm s)) hn

/-- Every access of the process is within the relation, whatever the store is. -/
def Within (T : σ → σ → Prop) : Process σ μ ρ → Prop
  | .done _ => True
  | .halt => True
  | .act _ move next => (∀ s, T s (move s)) ∧ ∀ s, Within T (next s)
  | .fork child next => Within T child ∧ Within T next

theorem Only.within {k : α → Process σ μ ρ} (hp : Only T p) (hk : ∀ a, Within T (k a)) : Within T (p k) :=
  hp (Within T) (fun _ _ _ hm hn => ⟨hm, hn⟩) k hk

/-- The protocol is kept by every change within the relation. -/
def Protocol.Ignores (P : Protocol σ μ) (T : σ → σ → Prop) : Prop :=
  ∀ s s', T s s' → P.inv s → P.inv s' ∧ P.rely s s'

theorem Protocol.ignores_eq (P : Protocol σ μ) : P.Ignores Eq := by
  rintro s _ rfl hi
  exact ⟨hi, P.refl s⟩

theorem Makes.ensures (hp : Makes R p)
    (hP : ∀ l s s', R l s s' → P.inv s → P.admits s l → P.inv s' ∧ P.rely s s') (hi : P.inv s) :
    Ensures P p s fun _ _ => True := by
  intro Q k hk
  have key : ∀ s', P.rely s s' → P.inv s' → Meets P Q (p k) s' := by
    refine hp (fun q => ∀ s', P.rely s s' → P.inv s' → Meets P Q q s') (fun l move next hm hn s' hr _ => ?_) k
      fun a s' hr hi' => hk a s' hr hi' trivial
    intro s'' hr' hi'' ha
    obtain ⟨hi3, hr3⟩ := hP l _ _ (hm s'') hi'' ha
    exact ⟨hi3, hr3, hn s'' _ (P.trans hr (P.trans hr' hr3)) hi3⟩
  exact key s (P.refl s) hi

theorem Only.ensures (hp : Only T p) (hP : P.Ignores T) (hi : P.inv s) : Ensures P p s fun _ _ => True :=
  Makes.ensures hp (fun _ s s' h hi _ => hP s s' h hi) hi

end Only

/-- The protocol from a point on at which `J` holds. -/
def Protocol.restrict (P : Protocol σ μ) (J : σ → Prop) : Protocol σ μ where
  inv s := P.inv s ∧ J s
  rely := P.rely
  admits := P.admits
  refl := P.refl
  trans := P.trans

/-- A process that keeps a protocol keeps it from any point on at which something stable holds. -/
theorem Meets.restrict {J : σ → Prop} (hJ : ∀ s s', P.inv s → J s → P.rely s s' → P.inv s' → J s') (h : Meets P Q p s) :
    Meets (P.restrict J) Q p s := by
  induction p generalizing s Q with
  | done => exact fun s' hr hi => h s' hr hi.1
  | halt => trivial
  | act l move next ih =>
    intro s' hr hi ha
    obtain ⟨hi', hr', hn⟩ := h s' hr hi.1 ha
    exact ⟨⟨hi', hJ _ _ hi.1 hi.2 hr' hi'⟩, hr', ih s' hn⟩
  | fork child next hc hn => exact ⟨hc h.1, hn h.2⟩

end Meets

/-! ## Runs -/

section Conforms

variable {σ μ ρ ι η : Type} {body : ι → Process σ μ ρ} {env : η → σ → σ} {P : Protocol σ μ} {Q : ℕ → ρ → σ → Prop}

/-- The invariant holds, and every process owes what the protocol asks of it from here on. What the answer
promises may depend on the place of the process in the pool. -/
structure Conforms (P : Protocol σ μ) (Q : ℕ → ρ → σ → Prop) (s : System σ μ ρ) : Prop where
  inv : P.inv s.store
  pool : ∀ n p, s.pool[n]? = some p → Meets P (Q n) p s.store

variable {s : System σ μ ρ}

theorem Conforms.later {store : σ} (h : Conforms P Q s) (hi : P.inv store) (hr : P.rely s.store store) :
    Conforms P Q { s with store } :=
  ⟨hi, fun n p hp => (h.pool n p hp).later hr⟩

variable {p : Process σ μ ρ}

theorem Conforms.push (h : Conforms P Q s) (hp : Meets P (Q s.pool.length) p s.store) :
    Conforms P Q { s with pool := s.pool ++ [p] } := by
  refine ⟨h.inv, fun n q hq => ?_⟩
  rcases lt_trichotomy n s.pool.length with hn | hn | hn
  · rw [List.getElem?_append_left hn] at hq
    exact h.pool n q hq
  · subst hn
    rw [List.getElem?_concat_length] at hq
    cases hq
    exact hp
  · rw [List.getElem?_eq_none (by simp; omega)] at hq
    cases hq

variable {n : ℕ}

theorem Conforms.set (h : Conforms P Q s) (hp : Meets P (Q n) p s.store) :
    Conforms P Q { s with pool := s.pool.set n p } := by
  refine ⟨h.inv, fun m q hq => ?_⟩
  rw [List.getElem?_set] at hq
  split_ifs at hq with hm hn
  · cases hq
    exact hm ▸ hp
  · exact h.pool m q hq

theorem Conforms.stepProcess (h : Conforms P Q s) (hp : Meets P (Q n) p s.store)
    (ha : ∀ l ∈ p.label, P.admits s.store l) :
    Conforms P Q (stepProcess s n p) ∧ P.rely s.store (stepProcess s n p).store := by
  cases p with
  | done | halt => exact ⟨h, P.refl _⟩
  | act l =>
    obtain ⟨hi, hr, hn⟩ := hp s.store (P.refl _) h.inv (ha l rfl)
    exact ⟨(h.later hi hr).set hn, hr⟩
  | fork =>
    refine ⟨(h.set hp.2).push ?_, P.refl _⟩
    exact hp.1.imp fun _ _ _ hf => hf.elim

variable {starts : σ → ι → Prop} {permits : σ → η → Prop}

/-- The calls that may be started keep the protocol, and what the environment does is within it. -/
structure Keeps (P : Protocol σ μ) (Q : ℕ → ρ → σ → Prop) (body : ι → Process σ μ ρ) (env : η → σ → σ)
    (starts : σ → ι → Prop) (permits : σ → η → Prop) : Prop where
  start : ∀ s c n, P.inv s → starts s c → Meets P (Q n) (body c) s
  env : ∀ s x, P.inv s → permits s x → P.inv (env x s) ∧ P.rely s (env x s)

theorem Conforms.step {m : Move ι η} (hk : Keeps P Q body env starts permits) (h : Conforms P Q s)
    (ha : Admitted P.admits starts permits s m) :
    Conforms P Q (step body env s m) ∧ P.rely s.store (step body env s m).store := by
  cases m with
  | start c => exact ⟨h.push (hk.start s.store c _ h.inv ha), P.refl _⟩
  | env x =>
    obtain ⟨hi, hr⟩ := hk.env s.store x h.inv ha
    exact ⟨h.later hi hr, hr⟩
  | run n =>
    cases hp : s.pool[n]? with
    | none =>
      simp only [Concurrent.step, hp]
      exact ⟨h, P.refl _⟩
    | some p =>
      simp only [Concurrent.step, hp]
      refine h.stepProcess (h.pool n p hp) fun l hl => ha l ?_
      rw [System.label, hp]
      exact hl

variable {l : List (Move ι η)}

/-- **In every interleaving of admitted moves the invariant holds, every process keeps the protocol, and the
changes of the store are those that the protocol allows.** -/
theorem run_conforms (hk : Keeps P Q body env starts permits) (h : Conforms P Q s)
    (hl : Runs.Along (step body env) (Admitted P.admits starts permits) s l) :
    Conforms P Q (Runs.run (step body env) s l) ∧ P.rely s.store (Runs.run (step body env) s l).store := by
  induction l generalizing s with
  | nil => exact ⟨h, P.refl _⟩
  | cons m l ih =>
    obtain ⟨hs, hr⟩ := h.step hk hl.1
    obtain ⟨hc, hr'⟩ := ih hs hl.2
    exact ⟨hc, P.trans hr hr'⟩

variable {T : σ → σ → Prop}

/-- A move of calls within a relation is a change within the relation, and leaves calls within it. -/
theorem step_within (hrefl : ∀ s, T s s) (hbody : ∀ c, Within T (body c)) (henv : ∀ x s, T s (env x s))
    (hpool : ∀ p ∈ s.pool, Within T p) (m : Move ι η) :
    T s.store (step body env s m).store ∧ ∀ p ∈ (step body env s m).pool, Within T p := by
  cases m with
  | start c => exact ⟨hrefl _, List.forall_mem_append.mpr ⟨hpool, List.forall_mem_singleton.mpr (hbody c)⟩⟩
  | env x => exact ⟨henv x _, hpool⟩
  | run n =>
    cases hp : s.pool[n]? with
    | none =>
      simp only [Concurrent.step, hp]
      exact ⟨hrefl _, hpool⟩
    | some p =>
      simp only [Concurrent.step, hp]
      have hw := hpool p (List.mem_of_getElem? hp)
      cases p with
      | done | halt => exact ⟨hrefl _, hpool⟩
      | act =>
        refine ⟨hw.1 _, fun q hq => ?_⟩
        rcases List.mem_or_eq_of_mem_set hq with hq | rfl
        · exact hpool q hq
        · exact hw.2 _
      | fork =>
        refine ⟨hrefl _, List.forall_mem_append.mpr ⟨fun q hq => ?_, List.forall_mem_singleton.mpr hw.1⟩⟩
        rcases List.mem_or_eq_of_mem_set hq with hq | rfl
        · exact hpool q hq
        · exact hw.2

theorem pool_within (hrefl : ∀ s, T s s) (hbody : ∀ c, Within T (body c)) (henv : ∀ x s, T s (env x s))
    (hpool : ∀ p ∈ s.pool, Within T p) (l : List (Move ι η)) :
    ∀ p ∈ (Runs.run (step body env) s l).pool, Within T p :=
  Runs.run_invariant (I := fun s : System σ μ ρ => ∀ p ∈ s.pool, Within T p) l
    (fun _ m h => (step_within hrefl hbody henv h m).2) hpool

/-- **What every change within a relation keeps holds in every interleaving of calls within the relation.** -/
theorem run_within {I : σ → Prop} (hrefl : ∀ s, T s s) (hI : ∀ s s', T s s' → I s → I s')
    (hbody : ∀ c, Within T (body c)) (henv : ∀ x s, T s (env x s)) (hs : I s.store) (hpool : ∀ p ∈ s.pool, Within T p)
    (l : List (Move ι η)) : I (Runs.run (step body env) s l).store := by
  refine (Runs.run_invariant (I := fun s : System σ μ ρ => I s.store ∧ ∀ p ∈ s.pool, Within T p) l (fun s m h => ?_)
    ⟨hs, hpool⟩).1
  obtain ⟨hT, hp⟩ := step_within hrefl hbody henv h.2 m
  exact ⟨hI _ _ hT h.1, hp⟩

theorem Conforms.answer {r : ρ} (h : Conforms P Q s) (hr : s.answer n = some r) : Q n r s.store := by
  unfold System.answer at hr
  cases hp : s.pool[n]? with
  | none => rw [hp] at hr; cases hr
  | some p =>
    rw [hp] at hr
    cases p with
    | done =>
      cases hr
      exact h.pool n _ hp s.store (P.refl _) h.inv
    | halt | act | fork => cases hr

/-- **From a point on at which something stable holds, the calls that are started later may rely on it.** What
their answers promise is promised of every process that was not yet in the pool. -/
theorem run_conforms_after {J : σ → Prop} {Q' : ρ → σ → Prop} (hk : Keeps P Q body env starts permits)
    (hJ : ∀ s s', P.inv s → J s → P.rely s s' → P.inv s' → J s')
    (hnew : ∀ s c, P.inv s → J s → starts s c → Meets (P.restrict J) Q' (body c) s) (h : Conforms P Q s)
    (hj : J s.store) (hl : Runs.Along (step body env) (Admitted P.admits starts permits) s l) :
    Conforms (P.restrict J) (fun n r st => s.pool.length ≤ n → Q' r st) (Runs.run (step body env) s l) := by
  have hk' : Keeps (P.restrict J) (fun n r st => s.pool.length ≤ n → Q' r st) body env starts permits := by
    refine ⟨fun st c n hi hc => (hnew st c hi.1 hi.2 hc).imp fun _ _ _ hq _ => hq, fun st x hi hx => ?_⟩
    obtain ⟨hi', hr⟩ := hk.env st x hi.1 hx
    exact ⟨⟨hi', hJ _ _ hi.1 hi.2 hr hi'⟩, hr⟩
  refine (run_conforms hk' ⟨⟨h.inv, hj⟩, fun n p hp => ?_⟩ hl).1
  refine ((h.pool n p hp).restrict hJ).imp fun _ _ _ _ hn => absurd hn ?_
  exact Nat.not_le.mpr (List.getElem?_eq_some_iff.mp hp).choose

end Conforms

end Concurrent
