import Mathlib

/-!
# A balance with a cached copy

A balance stands in a row, and at times a copy of it stands in a cache. Reservations are taken from the copy and
then written to the row; credits are written to the row and then added to the copy. In between, a process holds
what it has moved on one side only.

* **`Book.step`**, `Book.split`, `Book.fade`: what processes and the passing of time do keeps the books;
* **`Book.covered_by_funds`**: reservations are covered by the initial balance and the credits.
-/

namespace CachedBalance

open List

/-- A balance: the row, the cached copy, what is reserved in the copy and not in the row, what is credited in the
row and not in the copy, and all reservations and credits so far. -/
@[ext] structure Purse where
  quota : ℤ
  cached : Option ℤ
  inFlight : ℤ
  uncredited : ℤ
  reserved : ℤ
  credited : ℤ

/-- What a process holds of the balance of an owner. -/
inductive PursePhase
  | free
  | holding (owner amount : ℤ)
  | crediting (owner amount : ℤ)

/-- What is left of the row when everything that is held has arrived. -/
def Purse.left (p : Purse) : ℤ := p.quota - p.inFlight - p.uncredited

/-- What an access to the balance of an owner may do. -/
inductive PurseStep (owner : ℤ) (p : Purse) : PursePhase → Purse → PursePhase → Prop
  | same {x} : PurseStep owner p x p x
  /-- a copy is put where there was none; it shows no more than what is left -/
  | fill {x} (q : ℤ) (hq : q ≤ p.left) : PurseStep owner p x { p with cached := some q } x
  | reserve (q c : ℤ) (hc : p.cached = some c) (hpos : 0 < q) (hq : q ≤ c) :
      PurseStep owner p .free
        { p with cached := some (c - q), inFlight := p.inFlight + q, reserved := p.reserved + q } (.holding owner q)
  | persist (q : ℤ) : PurseStep owner p (.holding owner q)
      { p with quota := p.quota - q, inFlight := p.inFlight - q } .free
  | compensate (q : ℤ) (cached : Option ℤ) (hc : ∀ c ∈ cached, ∃ c' ∈ p.cached, c ≤ c' + q) :
      PurseStep owner p (.holding owner q)
        { p with cached, inFlight := p.inFlight - q, reserved := p.reserved - q } .free
  /-- a reservation from the row, which leaves enough for the copy and for what is held -/
  | reserveRow (q : ℤ) (hpos : 0 < q) (hq : q ≤ p.quota - p.inFlight) (hc : ∀ c ∈ p.cached, c ≤ p.left - q) :
      PurseStep owner p .free { p with quota := p.quota - q, reserved := p.reserved + q } .free
  | credit (q : ℤ) (hpos : 0 ≤ q) : PurseStep owner p .free
      { p with quota := p.quota + q, uncredited := p.uncredited + q, credited := p.credited + q } (.crediting owner q)
  | increase (q : ℤ) (cached : Option ℤ) (hc : ∀ c ∈ cached, ∃ c' ∈ p.cached, c ≤ c' + q) :
      PurseStep owner p (.crediting owner q) { p with cached, uncredited := p.uncredited - q } .free

/-- The balance that an owner starts with is what is left, with what has been reserved and without what has been
credited; reservations are covered, and the copy shows no more than what is left. -/
structure Purse.Sound (initial : ℤ) (p : Purse) : Prop where
  balance : p.quota - p.inFlight = initial + p.credited - p.reserved
  covered : 0 < p.reserved → 0 ≤ p.quota - p.inFlight
  cached_le : ∀ c ∈ p.cached, c ≤ p.left
  inFlight_le : p.inFlight ≤ p.reserved
  credited_nonneg : 0 ≤ p.credited

/-! ## What is held -/

/-- What a process holds of the reservations of an owner. -/
def PursePhase.held (owner : ℤ) : PursePhase → ℤ
  | .holding owner' q => if owner' = owner then q else 0
  | _ => 0

def PursePhase.credit (owner : ℤ) : PursePhase → ℤ
  | .crediting owner' q => if owner' = owner then q else 0
  | _ => 0

def PursePhase.Nonneg : PursePhase → Prop
  | .holding _ q | .crediting _ q => 0 ≤ q
  | .free => True

theorem PursePhase.Nonneg.held {x : PursePhase} (h : x.Nonneg) (owner : ℤ) : 0 ≤ x.held owner := by
  cases x with
  | holding o q =>
    show 0 ≤ if o = owner then q else 0
    split_ifs
    · exact h
    · exact le_rfl
  | free | crediting => exact le_rfl

theorem PursePhase.Nonneg.credit {x : PursePhase} (h : x.Nonneg) (owner : ℤ) : 0 ≤ x.credit owner := by
  cases x with
  | crediting o q =>
    show 0 ≤ if o = owner then q else 0
    split_ifs
    · exact h
    · exact le_rfl
  | free | holding => exact le_rfl

theorem PurseStep.held {owner : ℤ} {p p' : Purse} {x x' : PursePhase} (h : PurseStep owner p x p' x')
    (hx : x.Nonneg) :
    x'.Nonneg ∧ p'.inFlight - p.inFlight = x'.held owner - x.held owner ∧
      p'.uncredited - p.uncredited = x'.credit owner - x.credit owner ∧
      ∀ o, o ≠ owner → x'.held o = x.held o ∧ x'.credit o = x.credit o := by
  cases h <;> simp_all [PursePhase.held, PursePhase.credit, PursePhase.Nonneg] <;> grind

theorem PurseStep.sound {owner initial : ℤ} {p p' : Purse} {x x' : PursePhase} (h : PurseStep owner p x p' x')
    (hx : x.Nonneg) (hs : p.Sound initial) (hcredit : 0 ≤ p.uncredited) : p'.Sound initial := by
  obtain ⟨hb, hcov, hcl, hfl, hcr⟩ := hs
  unfold Purse.left at hcl
  cases h with
  | same => exact ⟨hb, hcov, hcl, hfl, hcr⟩
  | fill q hq =>
    refine ⟨hb, hcov, fun c hc => ?_, hfl, hcr⟩
    cases hc
    exact hq
  | reserve q c hc =>
    have hle := hcl c hc
    refine ⟨by dsimp only; omega, fun _ => by dsimp only; omega, fun c' hc' => ?_, by dsimp only; omega, hcr⟩
    cases hc'
    unfold Purse.left
    dsimp only
    omega
  | persist q =>
    have hq : 0 ≤ q := hx
    refine ⟨by dsimp only; omega, fun hr => ?_, fun c hc => ?_, by dsimp only; omega, hcr⟩
    · have := hcov hr
      dsimp only
      omega
    · have := hcl c hc
      unfold Purse.left
      dsimp only
      omega
  | compensate q cached hc =>
    have hq : 0 ≤ q := hx
    refine ⟨by dsimp only; omega, fun hr => ?_, fun c hcc => ?_, by dsimp only; omega, hcr⟩
    · dsimp only at hr ⊢
      have := hcov (by omega)
      omega
    · obtain ⟨c', hc', hle⟩ := hc c hcc
      have := hcl c' hc'
      unfold Purse.left
      dsimp only
      omega
  | reserveRow q hpos hq hc =>
    refine ⟨by dsimp only; omega, fun _ => by dsimp only; omega, fun c hcc => ?_, by dsimp only; omega, hcr⟩
    have := hc c hcc
    unfold Purse.left at this ⊢
    dsimp only
    omega
  | credit =>
    refine ⟨by dsimp only; omega, fun hr => ?_, fun c hc => ?_, hfl, by dsimp only; omega⟩
    · have := hcov hr
      dsimp only
      omega
    · have := hcl c hc
      unfold Purse.left
      dsimp only
      omega
  | increase q cached hc =>
    refine ⟨hb, hcov, fun c hcc => ?_, hfl, hcr⟩
    obtain ⟨c', hc', _⟩ := hc c hcc
    have := hcl c' hc'
    unfold Purse.left
    dsimp only
    omega

/-! ## Books -/

theorem sum_map_set {α : Type} (f : α → ℤ) {g : List α} {n : ℕ} {x : α} (hx : g[n]? = some x) (x' : α) :
    ((g.set n x').map f).sum = (g.map f).sum + (f x' - f x) := by
  induction g generalizing n with
  | nil => cases hx
  | cons y g ih =>
    cases n with
    | zero =>
      cases hx
      simp only [set_cons_zero, map_cons, sum_cons]
      omega
    | succ =>
      simp only [set_cons_succ, map_cons, sum_cons]
      rw [ih hx]
      omega

/-- The balances of all owners are sound, and the processes hold what the balances say is on its way. -/
structure Book (initial : ℤ → ℤ) (purse : ℤ → Purse) (g : List PursePhase) : Prop where
  sound : ∀ o, (purse o).Sound (initial o)
  inFlight : ∀ o, (purse o).inFlight = (g.map (PursePhase.held o)).sum
  uncredited : ∀ o, (purse o).uncredited = (g.map (PursePhase.credit o)).sum
  nonneg : ∀ x ∈ g, x.Nonneg

variable {initial : ℤ → ℤ} {purse purse' : ℤ → Purse} {g : List PursePhase}

theorem Book.inFlight_nonneg (h : Book initial purse g) (o : ℤ) : 0 ≤ (purse o).inFlight := by
  rw [h.inFlight o]
  refine sum_nonneg fun q hq => ?_
  obtain ⟨x, hx, rfl⟩ := mem_map.mp hq
  exact (h.nonneg x hx).held o

theorem Book.uncredited_nonneg (h : Book initial purse g) (o : ℤ) : 0 ≤ (purse o).uncredited := by
  rw [h.uncredited o]
  refine sum_nonneg fun q hq => ?_
  obtain ⟨x, hx, rfl⟩ := mem_map.mp hq
  exact (h.nonneg x hx).credit o

/-- **An access to the balance of one owner keeps the books.** -/
theorem Book.step {n : ℕ} {x x' : PursePhase} {owner : ℤ} (h : Book initial purse g) (hx : g[n]? = some x)
    (hstep : PurseStep owner (purse owner) x (purse' owner) x') (hother : ∀ o, o ≠ owner → purse' o = purse o) :
    Book initial purse' (g.set n x') := by
  have hpos : x.Nonneg := h.nonneg x (mem_of_getElem? hx)
  obtain ⟨hpos', _, _, hothers⟩ := hstep.held hpos
  refine ⟨fun o => ?_, fun o => ?_, fun o => ?_, fun y hy => ?_⟩
  · by_cases ho : o = owner
    · subst ho
      exact hstep.sound hpos (h.sound o) (h.uncredited_nonneg o)
    · rw [hother o ho]
      exact h.sound o
  · rw [sum_map_set _ hx, ← h.inFlight o]
    by_cases ho : o = owner
    · subst ho
      omega
    · rw [hother o ho, (hothers o ho).1]
      omega
  · rw [sum_map_set _ hx, ← h.uncredited o]
    by_cases ho : o = owner
    · subst ho
      omega
    · rw [hother o ho, (hothers o ho).2]
      omega
  · rcases mem_or_eq_of_mem_set hy with hy | rfl
    · exact h.nonneg y hy
    · exact hpos'

theorem Book.start (h : Book initial purse g) : Book initial purse (g ++ [.free]) := by
  refine ⟨h.sound, fun o => ?_, fun o => ?_, fun x hx => ?_⟩
  · rw [map_append, sum_append, ← h.inFlight o]
    exact (add_zero _).symm
  · rw [map_append, sum_append, ← h.uncredited o]
    exact (add_zero _).symm
  · rcases mem_append.mp hx with hx | hx
    · exact h.nonneg x hx
    · rw [mem_singleton.mp hx]
      trivial

theorem Book.split {n : ℕ} {x : PursePhase} (h : Book initial purse g) (hx : g[n]? = some x) :
    Book initial purse (g.set n .free ++ [x]) := by
  refine ⟨h.sound, fun o => ?_, fun o => ?_, fun y hy => ?_⟩
  · rw [map_append, sum_append, sum_map_set _ hx, ← h.inFlight o]
    simp [PursePhase.held]
  · rw [map_append, sum_append, sum_map_set _ hx, ← h.uncredited o]
    simp [PursePhase.credit]
  · rcases mem_append.mp hy with hy | hy
    · rcases mem_or_eq_of_mem_set hy with hy | rfl
      · exact h.nonneg y hy
      · trivial
    · rw [mem_singleton.mp hy]
      exact h.nonneg x (mem_of_getElem? hx)

theorem Book.fade (h : Book initial purse g)
    (hfade : ∀ o, purse' o = purse o ∨ purse' o = { purse o with cached := none }) : Book initial purse' g := by
  refine ⟨fun o => ?_, fun o => ?_, fun o => ?_, h.nonneg⟩
  · rcases hfade o with he | he
    · rw [he]
      exact h.sound o
    · rw [he]
      exact ⟨(h.sound o).balance, (h.sound o).covered, fun c hc => (by cases hc), (h.sound o).inFlight_le,
        (h.sound o).credited_nonneg⟩
  · rw [← h.inFlight o]
    rcases hfade o with he | he <;> rw [he]
  · rw [← h.uncredited o]
    rcases hfade o with he | he <;> rw [he]

/-- **Reservations never exceed the initial balance and the credits, and a row that starts without debt keeps
none.** -/
theorem Book.covered_by_funds (h : Book initial purse g) (o : ℤ) :
    (0 < (purse o).reserved → (purse o).reserved ≤ initial o + (purse o).credited) ∧
      (0 ≤ initial o → 0 ≤ (purse o).quota) := by
  have hheld := h.inFlight_nonneg o
  obtain ⟨_, hcov, _, _, _⟩ := h.sound o
  refine ⟨fun hr => ?_, fun hi => ?_⟩
  · have := hcov hr
    omega
  · by_cases hr : 0 < (purse o).reserved
    · have := hcov hr
      omega
    · omega

end CachedBalance
