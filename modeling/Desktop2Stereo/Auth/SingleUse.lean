import Desktop2Stereo.Lib.Monitors
import Desktop2Stereo.Model.AuthFlows

/-!
# Desktop2Stereo: authentication flows and provider assertions are used once

The log of the committed calls is vetted by what was logged before: the action of a flow is the first one of
its row, comes after the creation of the row, for a caller who fits it and before it expires; an assertion is not
accepted again before the expiry it was accepted with. The second part needs that the cleanup, which drops a
consumed row after `authFlowDefaultCleanupRetention`, does not come before that expiry.

* **`auth_flows_are_single_use`**.
-/

namespace Desktop2Stereo

open Relational GoText Runs Monitors Relation List Table AuthFlowDB

variable {δ : Type} [AuthFlowKey]

/-! ## What is to hold of the log -/

/-- Whether an event may come after the events `before`. -/
def AuthFlowEvent.Legitimate (before : List AuthFlowEvent) : AuthFlowEvent → Prop
  | .created _ _ => True
  | .acted token m flow now =>
    (∀ token' m' flow' now', .acted token' m' flow' now' ∈ before → flow'.id ≠ flow.id) ∧
      .created token flow ∈ before ∧ m.Fits flow ∧ now < flow.expiresAt
  | .accepted purpose assertion _ now =>
    ∀ expiresAt t, .accepted purpose assertion expiresAt t ∈ before → expiresAt ≤ now

/-- A failed action leaves the database as it was, and the flow can still be consumed until it expires. -/
def AuthFlowDB.KeepsFailed (s : AuthFlowDB δ) : Prop :=
  ∀ token m action e flow, (getAuthFlow token m).run s = .ok (flow, s) →
    (consumeAuthFlowWithAction token m (some action)).run s = .error e →
    s.step (.consume token m (some action)) = s ∧
      ∀ elapsed : ℕ, s.clock + elapsed < flow.expiresAt →
        ∃ s', (consumeAuthFlow token m).run { s with clock := s.clock + elapsed } =
          .ok ({ flow with consumedAt := some (s.clock + elapsed) }, s')

/-- The assertions that a call claims at this state: its own, or those of the action that it would run. -/
def AuthFlowCall.Claims (s : AuthFlowDB δ) (expiresAt : ℤ) : AuthFlowCall δ → Prop
  | .claim _ _ e => e = expiresAt
  | .consume token m (some action) =>
    ∃ flow purpose assertion, s.flows.find? (applyAuthFlowMatch token m) = some flow ∧
      .claim purpose assertion expiresAt ∈ action { flow with consumedAt := some s.clock }
  | _ => False

/-- An assertion expires before the cleanup may forget it. -/
def Retained (s : AuthFlowDB δ) (c : AuthFlowCall δ) : Prop :=
  ∀ expiresAt, c.Claims s expiresAt → expiresAt ≤ s.clock + authFlowDefaultCleanupRetention

/-! ## What a call does -/

/-- What one statement of a call does, where the claims of the call are retained. -/
inductive FlowMove : AuthFlowDB δ → AuthFlowDB δ → Prop
  | create {s : AuthFlowDB δ} {token : String} {flow : AuthFlow} {t : Table AuthFlow} (hid : flow.id = s.nextID)
      (hash : flow.tokenHash = authFlowTokenHash token) (hopen : flow.consumedAt = none)
      (ht : s.flows.insert flow = some t) :
      FlowMove s { s with flows := t, nextID := s.nextID + 1, log := s.log ++ [.created token flow] }
  | claim {s : AuthFlowDB δ} {purpose assertion : String} {flow : AuthFlow} {t : Table AuthFlow}
      (hid : flow.id = s.nextID) (hash : flow.tokenHash = authFlowTokenHash (externalAssertionToken purpose assertion))
      (hat : flow.consumedAt = some s.clock)
      (hret : flow.expiresAt ≤ s.clock + authFlowDefaultCleanupRetention)
      (hfree : ∀ r ∈ s.flows.rows, r.tokenHash ≠ authFlowTokenHash (externalAssertionToken purpose assertion))
      (ht : s.flows.insert flow = some t) :
      FlowMove s
        { s with
          flows := t
          nextID := s.nextID + 1
          log := s.log ++ [.accepted purpose assertion flow.expiresAt s.clock] }
  | act {s : AuthFlowDB δ} {token : String} {m : AuthFlowMatch} {flow : AuthFlow} {p : AuthFlow → Bool}
      (hmem : flow ∈ s.flows.rows) (hash : flow.tokenHash = authFlowTokenHash token) (hfits : m.Fits flow)
      (hopen : flow.consumedAt = none) (hexp : s.clock < flow.expiresAt)
      (hp : ∀ r, p r = true ↔ r.id = flow.id ∧ r.consumedAt = none ∧ s.clock < r.expiresAt) :
      FlowMove s
        { s with
          flows := s.flows.modify p (fun r => { r with consumedAt := some s.clock }) fun _ => rfl
          log := s.log ++ [.acted token m flow s.clock] }
  | delete {s : AuthFlowDB δ} {now : ℤ} (hnow : now ≤ s.clock) :
      FlowMove s
        { s with flows := s.flows.delete fun r => r.Stale (now - authFlowDefaultCleanupRetention) }
  | work {s : AuthFlowDB δ} (rest : δ) : FlowMove s { s with rest := rest }
  | tick {s : AuthFlowDB δ} (elapsed : ℕ) : FlowMove s { s with clock := s.clock + elapsed }

variable {s s' : AuthFlowDB δ} {now : ℤ}

omit [AuthFlowKey] in
theorem run_timeNow_ok : (timeNow : AuthFlowTx δ ℤ).run s = .ok (now, s') ↔ now = s.clock ∧ s' = s := by
  simp only [timeNow, run_bind_ok, run_get_ok, run_pure_ok]
  constructor
  · rintro ⟨_, _, ⟨rfl, rfl⟩, h⟩
    exact h
  · intro h
    exact ⟨_, _, ⟨rfl, rfl⟩, h⟩

variable {token : String}

variable {u : Unit} {assertion purpose : String} {expiresAt : ℤ}

theorem claim_moves (h : (claimExternalAuthAssertionWithTx purpose assertion expiresAt).run s = .ok (u, s'))
    (hret : expiresAt ≤ s.clock + authFlowDefaultCleanupRetention) : FlowMove s s' ∧ s'.clock = s.clock := by
  simp only [claimExternalAuthAssertionWithTx, run_bind_ok, run_timeNow_ok, run_require_ok, run_get_ok,
    run_createIgnore_ok, noteInserted, run_modify_ok] at h
  obtain ⟨_, _, ⟨rfl, rfl⟩, _, _, ⟨_, rfl⟩, _, _, ⟨rfl, rfl⟩, b, _, hins, _, _, ⟨hb, rfl⟩, rfl⟩ := h
  rcases hins with ⟨rfl, _⟩ | ⟨_, hfree, t, ht, rfl⟩
  · exact absurd hb (by decide)
  · refine ⟨.claim rfl rfl rfl hret (fun r hr hh => ?_) ht, rfl⟩
    have hno := Table.find?_eq_none.mp hfree r hr
    exact absurd (decide_eq_true hh) (by rw [hno]; decide)

theorem perform_moves {w : AuthFlowWork δ} (h : w.perform.run s = .ok (u, s'))
    (hret : ∀ purpose assertion expiresAt, w = .claim purpose assertion expiresAt →
      expiresAt ≤ s.clock + authFlowDefaultCleanupRetention) : FlowMove s s' ∧ s'.clock = s.clock := by
  cases w with
  | claim => exact claim_moves h (hret _ _ _ rfl)
  | work f =>
    simp only [AuthFlowWork.perform, run_bind_ok, run_get_ok] at h
    obtain ⟨s0, _, ⟨hs0, rfl⟩, h⟩ := h
    subst hs0
    cases hf : f s0.rest with
    | error => simp only [hf, run_throw_ok] at h
    | ok rest =>
      simp only [hf, run_set_ok] at h
      subst h
      exact ⟨.work rest, rfl⟩

theorem performAll_moves {ws : List (AuthFlowWork δ)} (h : (performAll ws).run s = .ok (u, s'))
    (hret : ∀ purpose assertion expiresAt, .claim purpose assertion expiresAt ∈ ws →
      expiresAt ≤ s.clock + authFlowDefaultCleanupRetention) : ReflTransGen FlowMove s s' := by
  induction ws generalizing s with
  | nil =>
    rw [performAll, run_pure_ok] at h
    rw [h.2]
  | cons w ws ih =>
    simp only [performAll, run_bind_ok] at h
    obtain ⟨_, _, hw, hws⟩ := h
    obtain ⟨hmove, hclock⟩ := perform_moves hw fun _ _ _ heq => hret _ _ _ (by rw [heq]; exact mem_cons_self)
    refine .head hmove (ih hws fun purpose assertion expiresAt hmem => ?_)
    rw [hclock]
    exact hret _ _ _ (mem_cons_of_mem _ hmem)

variable {flow : AuthFlow} {action : Option (AuthFlowAction δ)}

theorem runAction_moves (h : (runAction action flow).run s = .ok (u, s'))
    (hret : ∀ f ∈ action, ∀ purpose assertion expiresAt, .claim purpose assertion expiresAt ∈ f flow →
      expiresAt ≤ s.clock + authFlowDefaultCleanupRetention) : ReflTransGen FlowMove s s' := by
  cases action with
  | none =>
    rw [runAction, run_pure_ok] at h
    rw [h.2]
  | some f => exact performAll_moves h (hret f rfl)

variable {m : AuthFlowMatch}

theorem consume_moves (h : (consumeAuthFlowWithAction token m action).run s = .ok (flow, s'))
    (hret : Retained s (.consume token m action)) : ReflTransGen FlowMove s s' := by
  simp only [consumeAuthFlowWithAction, run_bind_ok, run_require_ok, run_first_ok, run_timeNow_ok, note,
    run_modify_ok, run_pure_ok] at h
  obtain ⟨_, _, ⟨_, rfl⟩, r, _, ⟨hfind, rfl⟩, _, _, ⟨hopen, rfl⟩, _, _, ⟨rfl, rfl⟩, _, _, ⟨hexp, rfl⟩, n, _, hmark,
    _, _, ⟨_, rfl⟩, _, _, rfl, _, _, hact, rfl, rfl⟩ := h
  simp only [markConsumed, run_bind_ok, run_count_ok, run_updates_ok, run_pure_ok] at hmark
  obtain ⟨_, _, ⟨rfl, rfl⟩, _, _, rfl, rfl, rfl⟩ := hmark
  obtain ⟨hmem, hsel⟩ := Table.find?_eq_some hfind
  have hsel : r.tokenHash = authFlowTokenHash token ∧ m.Fits r := of_decide_eq_true hsel
  refine .head (.act hmem hsel.1 hsel.2 hopen hexp fun _ => decide_eq_true_iff) (runAction_moves hact ?_)
  intro f hf purpose assertion expiresAt hclaim
  cases hf
  exact hret expiresAt ⟨r, purpose, assertion, hfind, hclaim⟩

theorem getAuthFlow_ok (h : (getAuthFlow token m).run s = .ok (flow, s')) :
    s' = s ∧ ¬ (token = "" ∨ m.purpose = "") ∧ s.flows.find? (applyAuthFlowMatch token m) = some flow ∧
      flow.consumedAt = none := by
  simp only [getAuthFlow, run_bind_ok, run_require_ok, run_first_ok, run_timeNow_ok, run_pure_ok] at h
  obtain ⟨_, _, ⟨hne, rfl⟩, r, _, ⟨hfind, rfl⟩, _, _, ⟨hopen, rfl⟩, _, _, ⟨rfl, rfl⟩, _, _, ⟨_, rfl⟩, rfl, rfl⟩ := h
  exact ⟨rfl, hne, hfind, hopen⟩

omit [AuthFlowKey] in
theorem run_dropped_ok {α : Type} {t : AuthFlowTx δ α} (h : (t >>= fun _ => pure ()).run s = .ok (u, s')) :
    ∃ a, t.run s = .ok (a, s') := by
  obtain ⟨a, _, ha, hp⟩ := run_bind_ok.mp h
  rw [(run_pure_ok.mp hp).2]
  exact ⟨a, ha⟩

/-- **Every call is made of moves.** -/
theorem step_moves (s : AuthFlowDB δ) (c : AuthFlowCall δ)
    (hret : Retained s c) : ReflTransGen FlowMove s (s.step c) := by
  unfold AuthFlowDB.step
  split
  next u s' h =>
    cases c with
    | create =>
      obtain ⟨r, hr⟩ := run_dropped_ok h
      simp only [createAuthFlow, run_bind_ok, run_timeNow_ok, run_require_ok, run_get_ok, run_create_ok, noteInserted,
        run_modify_ok, run_pure_ok] at hr
      obtain ⟨_, _, ⟨rfl, rfl⟩, _, _, ⟨_, rfl⟩, _, _, ⟨rfl, rfl⟩, _, _, ⟨t, ht, rfl⟩, _, _, rfl, rfl, rfl⟩ := hr
      exact .single (.create rfl rfl rfl ht)
    | get =>
      obtain ⟨r, hr⟩ := run_dropped_ok h
      rw [(getAuthFlow_ok hr).1]
    | consume =>
      obtain ⟨r, hr⟩ := run_dropped_ok h
      exact consume_moves hr hret
    | claim => exact .single (claim_moves h (hret _ rfl)).1
    | cleanup =>
      simp only [AuthFlowCall.transaction, deleteExpiredAuthFlows, run_bind_ok, run_timeNow_ok, run_delete_ok] at h
      obtain ⟨_, _, ⟨rfl, rfl⟩, rfl⟩ := h
      exact .single (.delete (by omega))
    | tick elapsed =>
      rw [AuthFlowCall.transaction, run_modify_ok] at h
      rw [h]
      exact .single (.tick elapsed)
  next => exact .refl

/-! ## The invariant -/

/-- The ids of the rows have been given out, a row that is not consumed is as it was created, the row of an action is
consumed, and an accepted assertion keeps its row until it expires. -/
structure Sound (s : AuthFlowDB δ) : Prop where
  fresh : ∀ r ∈ s.flows.rows, r.id < s.nextID
  created : ∀ r ∈ s.flows.rows, r.consumedAt = none →
    ∃ token, r.tokenHash = authFlowTokenHash token ∧ .created token r ∈ s.log
  acted : ∀ token m flow now, .acted token m flow now ∈ s.log →
    flow.id < s.nextID ∧ ∀ r ∈ s.flows.rows, r.id = flow.id → r.consumedAt ≠ none
  accepted : ∀ purpose assertion expiresAt t, .accepted purpose assertion expiresAt t ∈ s.log →
    expiresAt ≤ s.clock ∨ ∃ r ∈ s.flows.rows,
      r.tokenHash = authFlowTokenHash (externalAssertionToken purpose assertion) ∧ r.consumedAt = some t ∧
      r.expiresAt = expiresAt ∧ expiresAt ≤ t + authFlowDefaultCleanupRetention
  vetted : Vetted AuthFlowEvent.Legitimate s.log

theorem sound_init (rest : δ) (now : ℤ) : Sound (init rest now) where
  fresh _ hr := absurd hr not_mem_nil
  created _ hr := absurd hr not_mem_nil
  acted _ _ _ _ hmem := absurd hmem not_mem_nil
  accepted _ _ _ _ hmem := absurd hmem not_mem_nil
  vetted := vetted_nil

theorem Sound.insert (h : Sound s) {t : Table AuthFlow} {e : AuthFlowEvent} (hid : flow.id = s.nextID)
    (ht : s.flows.insert flow = some t)
    (hcreated : flow.consumedAt = none → ∃ token, flow.tokenHash = authFlowTokenHash token ∧ e = .created token flow)
    (hacted : ∀ token m f now, e ≠ .acted token m f now)
    (haccepted : ∀ purpose assertion expiresAt now, e = .accepted purpose assertion expiresAt now →
      flow.tokenHash = authFlowTokenHash (externalAssertionToken purpose assertion) ∧ flow.consumedAt = some now ∧
      flow.expiresAt = expiresAt ∧ expiresAt ≤ now + authFlowDefaultCleanupRetention) (hlegit : e.Legitimate s.log) :
    Sound { s with flows := t, nextID := s.nextID + 1, log := s.log ++ [e] } where
  fresh r hr := by
    rcases (mem_insert ht).mp hr with hr | rfl
    · exact Nat.lt_succ_of_lt (h.fresh r hr)
    · exact hid ▸ Nat.lt_succ_self _
  created r hr hopen := by
    rcases (mem_insert ht).mp hr with hr | rfl
    · obtain ⟨token, htok, hlog⟩ := h.created r hr hopen
      exact ⟨token, htok, mem_append_left _ hlog⟩
    · obtain ⟨token, htok, rfl⟩ := hcreated hopen
      exact ⟨token, htok, mem_append_right _ mem_cons_self⟩
  acted token m f now hmem := by
    rcases mem_append.mp hmem with hmem | hmem
    · obtain ⟨hlt, hclosed⟩ := h.acted token m f now hmem
      refine ⟨Nat.lt_succ_of_lt hlt, fun r hr hrid => ?_⟩
      rcases (mem_insert ht).mp hr with hr | rfl
      · exact hclosed r hr hrid
      · omega
    · exact absurd (mem_singleton.mp hmem).symm (hacted token m f now)
  accepted purpose assertion expiresAt now hmem := by
    rcases mem_append.mp hmem with hmem | hmem
    · rcases h.accepted purpose assertion expiresAt now hmem with hpast | ⟨r, hr, hkept⟩
      · exact .inl hpast
      · exact .inr ⟨r, (mem_insert ht).mpr (.inl hr), hkept⟩
    · exact .inr ⟨flow, (mem_insert ht).mpr (.inr rfl), haccepted _ _ _ _ (mem_singleton.mp hmem).symm⟩
  vetted := vetted_concat.mpr ⟨h.vetted, hlegit⟩

variable {p : AuthFlow → Bool}

omit [AuthFlowKey] in
theorem mem_marked {t : Table AuthFlow} {r : AuthFlow} :
    r ∈ (t.modify p (fun r => { r with consumedAt := some now }) fun _ => rfl).rows ↔
      ∃ r0 ∈ t.rows, (if p r0 then { r0 with consumedAt := some now } else r0) = r := mem_modify

theorem Sound.act (h : Sound s) (hmem : flow ∈ s.flows.rows) (hash : flow.tokenHash = authFlowTokenHash token)
    (hfits : m.Fits flow) (hopen : flow.consumedAt = none) (hexp : s.clock < flow.expiresAt)
    (hp : ∀ r, p r = true ↔ r.id = flow.id ∧ r.consumedAt = none ∧ s.clock < r.expiresAt) :
    Sound { s with
      flows := s.flows.modify p (fun r => { r with consumedAt := some s.clock }) fun _ => rfl
      log := s.log ++ [.acted token m flow s.clock] } where
  fresh r hr := by
    obtain ⟨r0, hr0, rfl⟩ := mem_marked.mp hr
    have hid := h.fresh r0 hr0
    split_ifs <;> exact hid
  created r hr hnone := by
    obtain ⟨r0, hr0, rfl⟩ := mem_marked.mp hr
    split_ifs at hnone ⊢
    obtain ⟨token', htok, hlog⟩ := h.created r0 hr0 hnone
    exact ⟨token', htok, mem_append_left _ hlog⟩
  acted token' m' f now hlog := by
    rcases mem_append.mp hlog with hlog | hlog
    · obtain ⟨hlt, hclosed⟩ := h.acted token' m' f now hlog
      refine ⟨hlt, fun r hr hrid => ?_⟩
      obtain ⟨r0, hr0, rfl⟩ := mem_marked.mp hr
      split_ifs at hrid ⊢
      · exact Option.some_ne_none _
      · exact hclosed r0 hr0 hrid
    · cases mem_singleton.mp hlog
      refine ⟨h.fresh flow hmem, fun r hr hrid => ?_⟩
      obtain ⟨r0, hr0, rfl⟩ := mem_marked.mp hr
      split_ifs at hrid ⊢ with hpr
      · exact Option.some_ne_none _
      · have heq : r0 = flow := s.flows.eq_of_pk hr0 hmem hrid
        exact absurd ((hp r0).mpr ⟨hrid, heq ▸ hopen, heq ▸ hexp⟩) hpr
  accepted purpose assertion expiresAt t hlog := by
    rcases mem_append.mp hlog with hlog | hlog
    · rcases h.accepted purpose assertion expiresAt t hlog with hpast | ⟨r, hr, htok, hat, hkept⟩
      · exact .inl hpast
      · -- the row of an assertion is consumed, so the update passes it by
        have hpr : ¬ p r = true := fun hpr => by
          have hnone := ((hp r).mp hpr).2.1
          rw [hat] at hnone
          exact Option.some_ne_none _ hnone
        exact .inr ⟨r, mem_marked.mpr ⟨r, hr, if_neg hpr⟩, htok, hat, hkept⟩
    · cases mem_singleton.mp hlog
  vetted := by
    refine vetted_concat.mpr ⟨h.vetted, fun token' m' flow' now' hmem' heq => ?_, ?_, hfits, hexp⟩
    · exact (h.acted token' m' flow' now' hmem').2 flow hmem heq.symm hopen
    · obtain ⟨token', htok, hlog⟩ := h.created flow hmem hopen
      have heq : token' = token := AuthFlowKey.injective (htok.symm.trans hash)
      exact heq ▸ hlog

theorem Sound.delete (h : Sound s) (hnow : now ≤ s.clock) :
    Sound { s with flows := s.flows.delete fun r => r.Stale (now - authFlowDefaultCleanupRetention) } where
  fresh r hr := h.fresh r (mem_delete.mp hr).1
  created r hr := h.created r (mem_delete.mp hr).1
  acted token m f t hlog :=
    ⟨(h.acted token m f t hlog).1, fun r hr => (h.acted token m f t hlog).2 r (mem_delete.mp hr).1⟩
  accepted purpose assertion expiresAt t hlog := by
    rcases h.accepted purpose assertion expiresAt t hlog with hpast | ⟨r, hr, htok, hat, hexp, hret⟩
    · exact .inl hpast
    · by_cases hstale : r.Stale (now - authFlowDefaultCleanupRetention)
      · left
        have hpos : 0 ≤ authFlowDefaultCleanupRetention := by decide
        change expiresAt ≤ s.clock
        rcases hstale with hstale | ⟨_, ht', _⟩
        · omega
        · rw [hat, Option.mem_some_iff] at ht'
          omega
      · exact .inr ⟨r, mem_delete.mpr ⟨hr, decide_eq_false hstale⟩, htok, hat, hexp, hret⟩
  vetted := h.vetted

theorem Sound.move (h : Sound s) (hmove : FlowMove s s') : Sound s' := by
  cases hmove with
  | create hid hash hopen ht =>
    exact h.insert hid ht (fun _ => ⟨_, hash, rfl⟩) (fun _ _ _ _ => nofun) (fun _ _ _ _ => nofun) trivial
  | claim hid hash hat hret hfree ht =>
    refine h.insert hid ht (fun hopen => ?_) (fun _ _ _ _ => nofun) (fun _ _ _ _ heq => ?_) fun e t hmem => ?_
    · rw [hat] at hopen
      exact absurd hopen (Option.some_ne_none _)
    · cases heq
      exact ⟨hash, hat, rfl, hret⟩
    · rcases h.accepted _ _ e t hmem with hpast | ⟨r, hr, htok, _⟩
      · exact hpast
      · exact absurd htok (hfree r hr)
  | act hmem hash hfits hopen hexp hp => exact h.act hmem hash hfits hopen hexp hp
  | delete hnow => exact h.delete hnow
  | work => exact ⟨h.fresh, h.created, h.acted, h.accepted, h.vetted⟩
  | tick elapsed =>
    refine ⟨h.fresh, h.created, h.acted, fun purpose assertion expiresAt t hlog => ?_, h.vetted⟩
    refine (h.accepted purpose assertion expiresAt t hlog).imp_left fun hpast => ?_
    change expiresAt ≤ s.clock + elapsed
    omega

/-- **The invariant is kept by every call whose assertions are retained.** -/
theorem Sound.step (h : Sound s) {c : AuthFlowCall δ} (hret : Retained s c) : Sound (s.step c) := by
  have hmoves := step_moves s c hret
  generalize s.step c = s' at hmoves
  induction hmoves with
  | refl => exact h
  | tail _ hmove ih => exact ih.move hmove

/-! ## Failed actions -/

theorem step_of_error {e : AuthFlowError} (h : (consumeAuthFlowWithAction token m action).run s = .error e) :
    s.step (.consume token m action) = s := by
  have hrun : (AuthFlowCall.transaction (.consume token m action)).run s = .error e := by
    rw [AuthFlowCall.transaction, StateT.run_bind, h]
    rfl
  rw [AuthFlowDB.step, hrun]

theorem consumeAuthFlow_ok (hne : ¬ (token = "" ∨ m.purpose = ""))
    (hfind : s.flows.find? (applyAuthFlowMatch token m) = some flow) (hopen : flow.consumedAt = none)
    (hexp : s.clock < flow.expiresAt) :
    ∃ s', (consumeAuthFlow token m).run s = .ok ({ flow with consumedAt := some s.clock }, s') := by
  have hone : s.flows.count (fun r => r.id = flow.id ∧ r.consumedAt = none ∧ s.clock < r.expiresAt) = 1 :=
    count_single (Table.find?_eq_some hfind).1 (fun r _ hr => (of_decide_eq_true hr).1)
      (decide_eq_true ⟨rfl, hopen, hexp⟩)
  simp only [consumeAuthFlow, consumeAuthFlowWithAction, markConsumed, runAction, note, run_bind_ok, run_require_ok,
    run_first_ok, run_timeNow_ok, run_count_ok, run_updates_ok, run_modify_ok, run_pure_ok]
  exact ⟨_, (), _, ⟨hne, rfl⟩, flow, _, ⟨hfind, rfl⟩, (), _, ⟨hopen, rfl⟩, _, _, ⟨rfl, rfl⟩, (), _, ⟨hexp, rfl⟩,
    _, _, ⟨_, _, ⟨rfl, rfl⟩, (), _, rfl, rfl, rfl⟩, (), _, ⟨hone, rfl⟩, (), _, rfl, (), _, ⟨trivial, rfl⟩, rfl, rfl⟩

theorem keepsFailed (s : AuthFlowDB δ) : s.KeepsFailed := by
  intro token m action e flow hget herr
  obtain ⟨_, hne, hfind, hopen⟩ := getAuthFlow_ok hget
  refine ⟨step_of_error herr, fun elapsed hexp => ?_⟩
  exact consumeAuthFlow_ok hne hfind hopen hexp

/-! ## Runs -/

/-- **Authentication flows and provider assertions are used once**, in every run in which no assertion is claimed with
an expiry beyond the retention of the cleanup. -/
theorem auth_flows_are_single_use (rest : δ) (now : ℤ) (calls : List (AuthFlowCall δ))
    (hret : Along AuthFlowDB.step Retained (init rest now) calls) :
    Vetted AuthFlowEvent.Legitimate (Runs.run AuthFlowDB.step (init rest now) calls).log ∧
      (Runs.run AuthFlowDB.step (init rest now) calls).KeepsFailed := by
  have hsound : Sound (Runs.run AuthFlowDB.step (init rest now) calls) :=
    run_invariant_along (fun _ _ h hc => h.step hc) (sound_init rest now) hret
  exact ⟨hsound.vetted, keepsFailed _⟩

/-- A key under which a token is its own hash. -/
@[reducible] def plainAuthFlowKey : AuthFlowKey := ⟨id, Function.injective_id⟩

def hourNanos : ℕ := 3600 * 1000000000

/-- The calls of an account that is bound in the second attempt, and a replay of its assertion. -/
def telegramBindCalls : List (AuthFlowCall ℕ) :=
  [.create "token" { purpose := "telegram_bind", userID := 7, expiresAt := hourNanos },
    .consume "token" { purpose := "telegram_bind", userID := 7 }
      (some fun _ => [.work fun _ => .error "database is locked"]),
    .consume "token" { purpose := "telegram_bind", userID := 7 }
      (some fun _ => [.claim "telegram_assertion" " signature" hourNanos, .work fun n => .ok (n + 1)]),
    .consume "token" { purpose := "telegram_bind", userID := 7 } none,
    .tick (25 * hourNanos), .cleanup 0, .claim "telegram_assertion" "signature" (26 * hourNanos)]

omit [AuthFlowKey] in
/-- The second attempt commits, once; the assertion is accepted again when it has expired. -/
theorem auth_flows_are_single_use_of_telegram_bind :
    letI := plainAuthFlowKey
    let s := Runs.run AuthFlowDB.step (init 0 0) telegramBindCalls
    s.rest = 1 ∧ s.log.length = 4 ∧ Along AuthFlowDB.step Retained (init 0 0) telegramBindCalls ∧
      Vetted AuthFlowEvent.Legitimate s.log ∧ s.KeepsFailed := by
  let _ := plainAuthFlowKey
  have hret : Along AuthFlowDB.step Retained (init 0 0) telegramBindCalls := by
    refine ⟨fun _ h => h.elim, ?_, ?_, fun _ h => h.elim, fun _ h => h.elim, fun _ h => h.elim, ?_, trivial⟩
    · rintro e ⟨flow, purpose, assertion, _, hmem⟩
      exact absurd (mem_singleton.mp hmem) (by simp)
    · rintro e ⟨_, _, _, _, hmem⟩
      rcases mem_cons.mp hmem with heq | hmem
      · cases heq
        decide
      · exact absurd (mem_singleton.mp hmem) (by simp)
    · rintro e rfl
      decide
  exact ⟨by decide, by decide, hret, auth_flows_are_single_use 0 0 telegramBindCalls hret⟩

/-- An assertion that is valid for two days, presented again after the cleanup of the next day. -/
def longAssertionCalls : List (AuthFlowCall Unit) :=
  [.claim "telegram_assertion" "signature" (48 * hourNanos), .tick (25 * hourNanos), .cleanup 0,
    .claim "telegram_assertion" "signature" (48 * hourNanos)]

omit [AuthFlowKey] in
/-- The cleanup forgets an assertion before it expires, and it is accepted a second time. -/
theorem assertion_accepted_after_cleanup :
    letI := plainAuthFlowKey
    let s := Runs.run AuthFlowDB.step (init () 0) longAssertionCalls
    s.log = [.accepted "telegram_assertion" "signature" (48 * hourNanos) 0,
      .accepted "telegram_assertion" "signature" (48 * hourNanos) (25 * hourNanos)] ∧
      ¬ Vetted AuthFlowEvent.Legitimate s.log := by
  let _ := plainAuthFlowKey
  have hlog : (Runs.run AuthFlowDB.step (init () 0) longAssertionCalls).log =
      [.accepted "telegram_assertion" "signature" (48 * hourNanos) 0,
        .accepted "telegram_assertion" "signature" (48 * hourNanos) (25 * hourNanos)] := by
    decide
  refine ⟨hlog, fun hvetted => ?_⟩
  have hlate := hvetted [.accepted "telegram_assertion" "signature" (48 * hourNanos) 0]
    (.accepted "telegram_assertion" "signature" (48 * hourNanos) (25 * hourNanos)) [] hlog _ _ mem_cons_self
  exact absurd hlate (by decide)

end Desktop2Stereo
