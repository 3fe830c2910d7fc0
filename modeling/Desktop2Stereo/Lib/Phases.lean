import Desktop2Stereo.Lib.Process

/-!
# Processes that follow a machine

What a process holds between two of its accesses, and how many processes are at a certain point, is not in the
store. So each process is matched with the phase that it is in, and its accesses with the transitions of a
machine over phases and stores. An invariant is then a statement about the store and the list of phases.

* `leads_pure`, `Leads.bind`, `leads_access_bind`, `leads_observe_bind`, `Only.leads`: the rules of programs;
* **`Matches.step`**: every admitted move of a system is a transition of one phase, a fork, a new phase, an event
  or nothing.
-/

namespace Concurrent

structure Machine (σ μ τ : Type) where
  /-- the accesses that are admitted -/
  admits : σ → μ → Prop := fun _ _ => True
  /-- what an access does to the store and to the phase of its process -/
  move : σ → τ → σ → τ → Prop
  /-- the phase of a process that forks, that of the new process, and that of the process afterwards -/
  split : τ → τ → τ → Prop := fun _ _ _ => False
  /-- the phases in which a process may end -/
  ends : τ → Prop

section Follows

variable {σ μ ρ τ α β : Type} {M : Machine σ μ τ}

/-- Whatever the store is, each admitted access of the process is a transition of the machine, and the process
ends in a final phase. -/
def Follows (M : Machine σ μ τ) : Process σ μ ρ → τ → Prop
  | .done _, x => M.ends x
  | .halt, x => M.ends x
  | .act l f next, x => ∀ s, M.admits s l → ∃ x', M.move s x (f s) x' ∧ Follows M (next s) x'
  | .fork child next, x => ∃ y x', M.split x y x' ∧ Follows M child y ∧ Follows M next x'

/-- The program follows the machine from a phase, and `post` holds of what it returns and of the phase then. -/
def Leads (M : Machine σ μ τ) (p : Program σ μ ρ α) (x : τ) (post : α → τ → Prop) : Prop :=
  ∀ k : α → Process σ μ ρ, (∀ a x', post a x' → Follows M (k a) x') → Follows M (p k) x

variable {p : Program σ μ ρ α} {f : α → Program σ μ ρ β} {x : τ} {post post' : α → τ → Prop} {post₂ : β → τ → Prop}

theorem leads_pure {a : α} (h : post a x) : Leads M (pure a : Program σ μ ρ α) x post := fun _ hk => hk a x h

theorem Leads.bind (hp : Leads M p x post) (hf : ∀ a x', post a x' → Leads M (f a) x' post₂) :
    Leads M (p >>= f) x post₂ :=
  fun k hk => hp _ fun a x' ha => hf a x' ha k hk

theorem leads_access {l : μ} {g : σ → α × σ}
    (h : ∀ s, M.admits s l → ∃ x', M.move s x (g s).2 x' ∧ post (g s).1 x') :
    Leads M (access l g : Program σ μ ρ α) x post := by
  intro k hk s ha
  obtain ⟨x', hm, hp⟩ := h s ha
  exact ⟨x', hm, hk _ x' hp⟩

theorem leads_access_bind {l : μ} {g : σ → α × σ}
    (h : ∀ s, M.admits s l → ∃ x', M.move s x (g s).2 x' ∧ Leads M (f (g s).1) x' post₂) :
    Leads M (access l g >>= f) x post₂ :=
  (leads_access h).bind fun _ _ hf => hf

theorem leads_observe_bind {l : μ} {g : σ → α} (h : ∀ s, ∃ x', M.move s x s x' ∧ Leads M (f (g s)) x' post₂) :
    Leads M (observe l g >>= f) x post₂ := leads_access_bind fun s _ => h s

theorem leads_spawn_bind {child : Program σ μ ρ Unit} {f : Unit → Program σ μ ρ β} {y x' : τ} (hs : M.split x y x')
    (hc : Leads M child y fun _ y' => M.ends y') (hf : Leads M (f ()) x' post₂) : Leads M (spawn child >>= f) x post₂ :=
  fun k hk => ⟨y, x', hs, hc _ fun _ _ he => he, hf k hk⟩

theorem Only.leads {T : σ → σ → Prop} (hp : Only T p) (hT : ∀ s s', T s s' → M.move s x s' x) :
    Leads M p x fun _ x' => x' = x :=
  fun k hk => hp (fun q => Follows M q x) (fun _ _ _ hm hn s _ => ⟨x, hT _ _ (hm s), hn s⟩) k
    fun a => hk a x rfl

end Follows

/-! ## Systems -/

section Matches

variable {σ μ ρ τ ι η : Type} {M : Machine σ μ τ} {body : ι → Process σ μ ρ} {env : η → σ → σ} {s : System σ μ ρ}
  {g : List τ}

/-- The processes of a system are in these phases. -/
def Matches (M : Machine σ μ τ) (s : System σ μ ρ) (g : List τ) : Prop := List.Forall₂ (Follows M) s.pool g

def System.busy (s : System σ μ ρ) : ℕ := s.pool.countP fun p => p.answer.isNone

theorem forall₂_set {α β : Type} {r : α → β → Prop} {l : List α} {l' : List β} (h : List.Forall₂ r l l') (n : ℕ)
    {a : α} {b : β} (hab : r a b) : List.Forall₂ r (l.set n a) (l'.set n b) := by
  induction h generalizing n with
  | nil => exact .nil
  | cons h _ ih =>
    cases n with
    | zero => exact .cons hab ‹_›
    | succ n => exact .cons h (ih n)

theorem Matches.get {n : ℕ} {p : Process σ μ ρ} (h : Matches M s g) (hp : s.pool[n]? = some p) :
    ∃ x, g[n]? = some x ∧ Follows M p x := by
  unfold Matches at h
  generalize s.pool = pool at h hp
  induction h generalizing n with
  | nil => cases hp
  | cons hx _ ih =>
    cases n with
    | zero =>
      cases hp
      exact ⟨_, rfl, hx⟩
    | succ => exact ih hp

theorem Matches.countP_le_busy (h : Matches M s g) {held : τ → Bool} (hheld : ∀ x, M.ends x → held x = false) :
    g.countP held ≤ s.busy := by
  unfold Matches at h
  unfold System.busy
  generalize s.pool = pool at h
  induction h with
  | nil => exact le_rfl
  | @cons p x pool g hx =>
    rw [List.countP_cons, List.countP_cons]
    cases hb : held x with
    | false => simp only [Bool.false_eq_true, if_false]; omega
    | true =>
      have hbusy : p.answer.isNone = true := by
        cases p with
        | done =>
          rw [hheld x hx] at hb
          cases hb
        | halt | act | fork => rfl
      rw [if_pos rfl, if_pos hbusy]
      omega

/-- What a move does to the phases of a system. -/
inductive PhaseStep (M : Machine σ μ τ) (env : η → σ → σ) (x₀ : τ) (s s' : σ) (g : List τ) : List τ → Prop
  | start (hs : s' = s) : PhaseStep M env x₀ s s' g (g ++ [x₀])
  | move (n : ℕ) (x x' : τ) (hx : g[n]? = some x) (hm : M.move s x s' x') : PhaseStep M env x₀ s s' g (g.set n x')
  | split (n : ℕ) (x y x' : τ) (hx : g[n]? = some x) (hs : s' = s) (hm : M.split x y x') :
      PhaseStep M env x₀ s s' g (g.set n x' ++ [y])
  | event (e : η) (hs : s' = env e s) : PhaseStep M env x₀ s s' g g
  | idle (hs : s' = s) : PhaseStep M env x₀ s s' g g

variable {starts : σ → ι → Prop} {permits : σ → η → Prop}

/-- **An admitted move of a system is a transition of one phase, a fork, a new phase at the end, an event, or
nothing.** -/
theorem Matches.step {x0 : τ} (h : Matches M s g) (hbody : ∀ c, Follows M (body c) x0) {m : Move ι η}
    (ha : Admitted M.admits starts permits s m) :
    ∃ g', Matches M (step body env s m) g' ∧ PhaseStep M env x0 s.store (step body env s m).store g g' := by
  cases m with
  | start c => exact ⟨g ++ [x0], List.rel_append h (.cons (hbody c) .nil), .start rfl⟩
  | env e => exact ⟨g, h, .event e rfl⟩
  | run n =>
    cases hp : s.pool[n]? with
    | none =>
      simp only [Concurrent.step, hp]
      exact ⟨g, h, .idle rfl⟩
    | some p =>
      simp only [Concurrent.step, hp]
      obtain ⟨x, hx, hf⟩ := h.get hp
      cases p with
      | done | halt => exact ⟨g, h, .idle rfl⟩
      | fork =>
        obtain ⟨y, x', hs, hc, hn⟩ := hf
        exact ⟨g.set n x' ++ [y], List.rel_append (forall₂_set h n hn) (.cons hc .nil), .split n x y x' hx rfl hs⟩
      | act l =>
        obtain ⟨x', hm, hf'⟩ := hf s.store (ha l (by rw [System.label, hp]; rfl))
        exact ⟨g.set n x', forall₂_set h n hf', .move n x x' hx hm⟩

end Matches

end Concurrent
