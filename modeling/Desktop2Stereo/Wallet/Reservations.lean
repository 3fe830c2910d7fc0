import Desktop2Stereo.Lib.CachedBalance
import Desktop2Stereo.Lib.Phases
import Desktop2Stereo.Model.Wallet
import Desktop2Stereo.Session.Frames

/-!
# Reservations of a wallet

Reservations, fills of the cache with any delay, expiry and deletion of hashes, and credits run together. A fill
puts the quota of a row that was read before, when the hash has no quota; a reservation that finds no quota in
the hash falls back to the row. Both can bring back quota that has been reserved in the meantime.

* **`reservations_covered`**: reservations stay within the initial quota and the credits, in every run in which a
  fill shows no more than what is left, and a fallback leaves enough for the copy and for what is in flight.
-/

namespace Desktop2Stereo

open Relational Concurrent Expiring CachedBalance UserHash Store

/-! ## Wallets -/

def Store.purse (s : Store) (userID : ℤ) : Purse where
  quota := ((s.db.users.get? userID).map User.quota).getD 0
  cached := (s.userHash userID).bind quota
  inFlight := s.inFlight userID
  uncredited := s.uncredited userID
  reserved := s.reserved userID
  credited := s.credited userID

/-- A fill shows no more than what is left, and a fallback to the row leaves enough for the copy and for what is
in flight. -/
def walletAdmits (s : Store) : Label → Prop
  | .hydrate userID quota => (s.purse userID).cached = none → quota ≤ (s.purse userID).left
  | .reserveDB userID quota => quota ≤ (s.purse userID).quota →
      quota ≤ (s.purse userID).quota - (s.purse userID).inFlight ∧
        ∀ c ∈ (s.purse userID).cached, c ≤ (s.purse userID).left - quota
  | _ => True

/-- One access changes the wallet of one user. -/
def walletMachine : Machine Store Label PursePhase where
  admits := walletAdmits
  move s x s' x' := ∃ owner, PurseStep owner (s.purse owner) x (s'.purse owner) x' ∧
    ∀ o, o ≠ owner → s'.purse o = s.purse o
  split x y x' := y = x ∧ x' = .free
  ends x := x = .free

variable {ρ : Type} {s : Store} {x : PursePhase}

theorem walletMachine_refl (s : Store) : walletMachine.move s x s x := ⟨0, .same, fun _ _ => rfl⟩

theorem walletMachine_at {s' : Store} {x' : PursePhase} {owner : ℤ} {p' : Purse} (hp : s'.purse owner = p')
    (hstep : PurseStep owner (s.purse owner) x p' x') (hother : ∀ o, o ≠ owner → s'.purse o = s.purse o) :
    walletMachine.move s x s' x' := by
  subst hp
  exact ⟨owner, hstep, hother⟩

theorem quota_addQuota {userID : ℤ} {u : User} (hu : s.db.users.get? userID = some u) (delta : ℤ) :
    ((s.addQuota userID delta).purse userID).quota = (s.purse userID).quota + delta := by
  have hget : (s.addQuota userID delta).db.users.get? userID = some { u with quota := u.quota + delta } := by
    refine (Table.get?_modify_pk (h := fun _ => by rfl) _ userID (fun r => by simp [pk_ofKey]) userID).trans ?_
    rw [if_pos rfl, hu]
    rfl
  unfold purse
  dsimp only
  rw [hget, hu]
  rfl

theorem quota_addQuota_of_ne {userID o : ℤ} (delta : ℤ) (ho : o ≠ userID) :
    ((s.addQuota userID delta).purse o).quota = (s.purse o).quota := by
  have hget : (s.addQuota userID delta).db.users.get? o = s.db.users.get? o :=
    (Table.get?_modify_pk (h := fun _ => by rfl) _ userID (fun r => by simp [pk_ofKey]) o).trans
      (if_neg (Ne.symm ho))
  unfold purse
  dsimp only
  rw [hget]

theorem cachedQuota_eq_some {userID : ℤ} {h : UserHash} {c : ℤ} (hc : s.cachedQuota userID = some (h, c)) :
    (s.purse userID).cached = some c := by
  obtain ⟨_, hh, hq⟩ := Option.bind_eq_some_iff.mp hc
  split_ifs at hq
  obtain ⟨q, hq, he⟩ := Option.map_eq_some_iff.mp hq
  cases he
  show (s.userHash userID).bind quota = some c
  rw [hh]
  exact hq

theorem cached_setUserHash (s : Store) (userID : ℤ) (c : Cell UserHash) (o : ℤ) :
    ((s.setUserHash userID c).purse o).cached =
      if o = userID then (c.get s.ms).bind quota else (s.purse o).cached := by
  unfold setUserHash purse userHash
  dsimp only [ms]
  by_cases ho : o = userID
  · subst ho
    rw [Function.update_self, if_pos rfl]
  · rw [Function.update_of_ne ho, if_neg ho]

theorem cached_setCachedQuota (s : Store) (userID : ℤ) (h : UserHash) (c o : ℤ) :
    ((s.setCachedQuota userID h c).purse o).cached = if o = userID then some c else (s.purse o).cached := by
  rw [setCachedQuota, cached_setUserHash, Cell.get_put]
  rfl

/-! ## Accesses -/

theorem evalReserveQuota_moves {userID quota : ℤ} (hpos : 0 < quota) (s : Store) :
    walletMachine.move s .free (evalReserveQuota userID quota s).2
      (if (evalReserveQuota userID quota s).1 = .ok then .holding userID quota else .free) := by
  unfold evalReserveQuota
  cases hc : s.cachedQuota userID with
  | none => exact walletMachine_refl s
  | some p =>
    obtain ⟨h, c⟩ := p
    dsimp only
    split
    · exact walletMachine_refl s
    next hle =>
      have hset := cached_setCachedQuota s userID h (c - quota)
      refine walletMachine_at ?_ (.reserve quota c (cachedQuota_eq_some hc) hpos (not_lt.mp hle)) fun o ho => ?_
      · exact Purse.ext rfl ((hset userID).trans (if_pos rfl)) (bump_self ..) rfl (bump_self ..) rfl
      · exact Purse.ext rfl ((hset o).trans (if_neg ho)) (bump_of_ne _ _ ho) rfl (bump_of_ne _ _ ho) rfl

theorem purse_cached (s : Store) (o : ℤ) : (s.purse o).cached = ((s.userHashes o).get s.ms).bind quota := rfl

theorem evalQuotaDelta_hashes (userID : ℤ) {delta : ℤ} (hd : 0 ≤ delta) (s : Store) :
    ∃ hashes : ℤ → Cell UserHash, (evalQuotaDelta userID delta s).2 = { s with userHashes := hashes } ∧
      (∀ o, o ≠ userID → hashes o = s.userHashes o) ∧
      ∀ c ∈ ((hashes userID).get s.ms).bind quota, ∃ c' ∈ (s.purse userID).cached, c ≤ c' + delta := by
  unfold evalQuotaDelta
  cases hc : s.cachedQuota userID with
  | none => exact ⟨_, rfl, fun _ _ => rfl, fun c hc => ⟨c, hc, by omega⟩⟩
  | some p =>
    obtain ⟨h, c⟩ := p
    refine ⟨_, rfl, fun o ho => Function.update_of_ne ho _ _, fun c' hc' => ?_⟩
    rw [Function.update_self, Cell.get_put] at hc'
    cases hc'
    exact ⟨c, cachedQuota_eq_some hc, le_rfl⟩

theorem persistUserQuotaDelta_moves (userID quota : ℤ) (s : Store) :
    walletMachine.move s (.holding userID quota) (persistUserQuotaDelta userID quota s).2
      (if (persistUserQuotaDelta userID quota s).1 then .free else .holding userID quota) := by
  unfold persistUserQuotaDelta
  cases hu : s.db.users.get? userID with
  | none => exact walletMachine_refl s
  | some =>
    refine walletMachine_at ?_ (.persist quota) fun o ho => ?_
    · exact Purse.ext (quota_addQuota hu (-quota)) rfl (bump_self ..) rfl rfl rfl
    · exact Purse.ext (quota_addQuota_of_ne (-quota) ho) rfl (bump_of_ne _ _ ho) rfl rfl rfl

theorem compensateQuota_moves (userID : ℤ) {quota : ℤ} (hq : 0 ≤ quota) (s : Store) :
    walletMachine.move s (.holding userID quota) (compensateQuota userID quota s).2 .free := by
  obtain ⟨_, heq, hother, hc⟩ := evalQuotaDelta_hashes userID hq s
  unfold compensateQuota
  dsimp only
  rw [heq]
  refine walletMachine_at ?_ (.compensate quota _ hc) fun o ho => ?_
  · exact Purse.ext rfl rfl (bump_self ..) rfl (bump_self ..) rfl
  · refine Purse.ext rfl ?_ (bump_of_ne _ _ ho) rfl (bump_of_ne _ _ ho) rfl
    rw [purse_cached, purse_cached, ← hother o ho]
    rfl

theorem cacheIncrUserQuota_moves (userID : ℤ) {quota : ℤ} (hq : 0 ≤ quota) (s : Store) :
    walletMachine.move s (.crediting userID quota) (cacheIncrUserQuota userID quota s).2 .free := by
  obtain ⟨_, heq, hother, hc⟩ := evalQuotaDelta_hashes userID hq s
  unfold cacheIncrUserQuota
  dsimp only
  rw [heq]
  refine walletMachine_at ?_ (.increase quota _ hc) fun o ho => ?_
  · exact Purse.ext rfl rfl rfl (bump_self ..) rfl rfl
  · refine Purse.ext rfl ?_ rfl (bump_of_ne _ _ ho) rfl rfl
    rw [purse_cached, purse_cached, ← hother o ho]
    rfl

theorem reserveUserQuotaDB_moves {userID quota : ℤ} (hpos : 0 < quota) (s : Store)
    (ha : walletAdmits s (.reserveDB userID quota)) :
    walletMachine.move s .free (reserveUserQuotaDB userID quota s).2 .free := by
  unfold reserveUserQuotaDB
  cases hu : s.db.users.get? userID with
  | none => exact walletMachine_refl s
  | some u =>
    dsimp only
    split
    next hle =>
      have hquota : (s.purse userID).quota = u.quota := by
        unfold purse
        rw [hu]
        rfl
      obtain ⟨hfree, hcached⟩ := ha (hquota.ge.trans' hle)
      refine walletMachine_at ?_ (.reserveRow quota hpos hfree hcached) fun o ho => ?_
      · exact Purse.ext (quota_addQuota hu (-quota)) rfl rfl rfl (bump_self ..) rfl
      · exact Purse.ext (quota_addQuota_of_ne (-quota) ho) rfl rfl rfl (bump_of_ne _ _ ho) rfl
    · exact walletMachine_refl s

theorem creditUserQuotaDB_moves {userID quota : ℤ} (hq : 0 ≤ quota) (s : Store) :
    walletMachine.move s .free (creditUserQuotaDB userID quota s).2
      (if (creditUserQuotaDB userID quota s).1 then .crediting userID quota else .free) := by
  unfold creditUserQuotaDB
  cases hu : s.db.users.get? userID with
  | none => exact walletMachine_refl s
  | some =>
    dsimp only
    split
    · refine walletMachine_at ?_ (.credit quota hq) fun o ho => ?_
      · exact Purse.ext (quota_addQuota hu quota) rfl rfl (bump_self ..) rfl (bump_self ..)
      · exact Purse.ext (quota_addQuota_of_ne quota ho) rfl rfl (bump_of_ne _ _ ho) rfl (bump_of_ne _ _ ho)
    · exact walletMachine_refl s

section Calls

variable [Settings]

theorem userCacheTTLSeconds_pos : 0 < userCacheTTLSeconds := by
  unfold userCacheTTLSeconds
  split_ifs <;> omega

theorem cached_setUserHash_expireAt (s : Store) (userID : ℤ) (h : UserHash) :
    ((s.setUserHash userID (.expireAt s.ms h (s.ms + userCacheTTLSeconds * 1000))).purse userID).cached = h.quota := by
  have := userCacheTTLSeconds_pos
  rw [cached_setUserHash, if_pos rfl, Cell.get_expireAt, if_neg (by omega)]
  rfl

theorem evalWriteUserCache_moves (user : UserBase) (s : Store) (ha : walletAdmits s (.hydrate user.id user.quota)) :
    walletMachine.move s x (evalWriteUserCache user true s).2 x := by
  unfold evalWriteUserCache
  cases h : admitVersion user.id user.authVersion s with
  | none => exact walletMachine_refl s
  | some =>
    obtain ⟨fences, versions, rfl⟩ := admitVersion_keys h
    have hother : ∀ c o, o ≠ user.id →
        (setUserHash { s with authFences := fences, authVersions := versions } user.id c).purse o = s.purse o :=
      fun c o ho => Purse.ext rfl ((cached_setUserHash _ user.id c o).trans (if_neg ho)) rfl rfl rfl rfl
    have hown := cached_setUserHash_expireAt { s with authFences := fences, authVersions := versions } user.id
    have hcached : (s.userHash user.id).bind quota = (s.purse user.id).cached := rfl
    dsimp only
    rw [hcached]
    cases hc : (s.purse user.id).cached with
    | some =>
      refine walletMachine_at ?_ .same (hother _)
      exact Purse.ext rfl ((hown _).trans hc.symm) rfl rfl rfl rfl
    | none =>
      refine walletMachine_at ?_ (.fill user.quota (ha hc)) (hother _)
      exact Purse.ext rfl (hown _) rfl rfl rfl rfl

/-! ## Calls -/

theorem leads_getUserCache (userID : ℤ) :
    Leads walletMachine (getUserCache (ρ := ρ) userID) x fun _ x' => x' = x := by
  have hread : ∀ s s' : Store, s = s' → walletMachine.move s x s' x := fun s _ h => h ▸ walletMachine_refl s
  refine ((only_cacheGetUserBase userID).leads hread).bind fun r x' hx => ?_
  subst hx
  split
  · exact leads_pure rfl
  refine ((only_getUserById userID).leads hread).bind fun r x' hx => ?_
  subst hx
  split
  · exact leads_pure rfl
  refine leads_observe_bind fun s => ⟨x', walletMachine_refl s, ?_⟩
  split
  · exact leads_pure rfl
  have hfill : Leads walletMachine (populateUserCache (ρ := ρ) ‹User›) x' fun _ x'' => x'' = x' := by
    unfold populateUserCache writeUserCache
    split
    · exact leads_pure rfl
    split
    · exact leads_pure rfl
    refine leads_access_bind fun s ha => ⟨x', evalWriteUserCache_moves _ s ha, ?_⟩
    split <;> exact leads_pure rfl
  refine hfill.bind fun r x'' hx => ?_
  split <;> exact leads_pure hx

theorem leads_cacheTryReserveUserQuota (userID : ℤ) {quota : ℤ} (hpos : 0 < quota) :
    Leads walletMachine (cacheTryReserveUserQuota (ρ := ρ) userID quota) .free
      fun r x' => x' = if r = .ok then .holding userID quota else .free := by
  refine leads_access_bind fun s _ => ⟨_, evalReserveQuota_moves hpos s, ?_⟩
  cases (evalReserveQuota userID quota s).1 with
  | ok | insufficient => exact leads_pure rfl
  | miss =>
    refine (leads_getUserCache userID).bind fun r x' hx => ?_
    subst hx
    split
    · exact leads_access fun s _ => ⟨_, evalReserveQuota_moves hpos s, rfl⟩
    · exact leads_pure rfl

theorem leads_tryReserveUserQuota (userID quota : ℤ) :
    Leads walletMachine (tryReserveUserQuota (ρ := ρ) userID quota) .free fun _ x' => x' = .free := by
  unfold tryReserveUserQuota
  split
  · exact leads_pure rfl
  split
  · exact leads_pure rfl
  have hpos : 0 < quota := by omega
  refine (leads_cacheTryReserveUserQuota userID hpos).bind fun r x' hx => ?_
  subst hx
  cases r with
  | miss => exact leads_access_bind fun s ha => ⟨.free, reserveUserQuotaDB_moves hpos s ha, leads_pure rfl⟩
  | insufficient => exact leads_pure rfl
  | ok =>
    refine leads_access_bind fun s _ => ⟨_, persistUserQuotaDelta_moves userID quota s, ?_⟩
    split
    · exact leads_pure rfl
    · exact leads_access_bind fun s _ => ⟨.free, compensateQuota_moves userID hpos.le s, leads_pure rfl⟩

omit [Settings] in
theorem leads_increaseUserQuota (userID quota : ℤ) :
    Leads walletMachine (increaseUserQuota (ρ := ρ) userID quota) .free fun _ x' => x' = .free := by
  unfold increaseUserQuota
  split
  · exact leads_pure rfl
  split
  · exact leads_pure rfl
  have hq : 0 ≤ quota := by omega
  refine leads_access_bind fun s _ => ⟨_, creditUserQuotaDB_moves hq s, ?_⟩
  split
  · refine leads_spawn_bind ⟨rfl, rfl⟩ ?_ (leads_pure rfl)
    exact leads_access_bind fun s _ => ⟨.free, cacheIncrUserQuota_moves userID hq s, leads_pure rfl⟩
  · refine leads_observe_bind fun s => ⟨.free, walletMachine_refl s, ?_⟩
    split <;> exact leads_pure rfl

end Calls

/-! ## Runs -/

theorem purse_outside (e : Outside) (s : Store) (o : ℤ) :
    (e.apply s).purse o = s.purse o ∨ (e.apply s).purse o = { s.purse o with cached := none } := by
  cases e with
  | pass n =>
    cases hc : (s.userHashes o).get (ms { s with clock := s.clock + n }) with
    | none =>
      refine .inr (Purse.ext rfl ?_ rfl rfl rfl rfl)
      exact congrArg (Option.bind · quota) hc
    | some =>
      have hle : s.ms ≤ ms { s with clock := s.clock + n } := Nat.div_le_div_right (Nat.le_add_right _ _)
      refine .inl (Purse.ext rfl ?_ rfl rfl rfl rfl)
      exact (congrArg (Option.bind · quota) (hc.trans (Cell.get_of_later hle hc).symm))
  | invalidateUserCache userId =>
    have hset := cached_setUserHash s userId .absent o
    by_cases ho : o = userId
    · exact .inr (Purse.ext rfl (hset.trans (if_pos ho)) rfl rfl rfl rfl)
    · exact .inl (Purse.ext rfl (hset.trans (if_neg ho)) rfl rfl rfl rfl)

inductive WalletCall
  | tryReserveUserQuota (userID quota : ℤ)
  | getUserCache (userID : ℤ)
  | increaseUserQuota (userID quota : ℤ)

inductive WalletAnswer
  | reserved (userID quota : ℤ) (r : Except AuthErr Bool)
  | read (r : Except AuthErr UserBase)
  | increased (r : Except AuthErr Unit)
  deriving DecidableEq

/-- Nothing is on its way, and no hash shows more quota than its row. -/
structure Store.AtRest (s : Store) : Prop where
  inFlight : ∀ o, s.inFlight o = 0
  uncredited : ∀ o, s.uncredited o = 0
  reserved : ∀ o, s.reserved o = 0
  credited : ∀ o, s.credited o = 0
  cached_le : ∀ o, ∀ c ∈ (s.purse o).cached, c ≤ (s.purse o).quota

theorem Store.AtRest.book (h : s.AtRest) : Book (fun o => (s.purse o).quota) s.purse [] := by
  have hin : ∀ o, (s.purse o).inFlight = 0 := h.inFlight
  have hun : ∀ o, (s.purse o).uncredited = 0 := h.uncredited
  have hre : ∀ o, (s.purse o).reserved = 0 := h.reserved
  have hcr : ∀ o, (s.purse o).credited = 0 := h.credited
  refine ⟨fun o => ⟨?_, fun hr => ?_, fun c hc => ?_, ?_, ?_⟩, hin, hun, fun x hx => (by cases hx)⟩
  · rw [hin, hre, hcr]
    omega
  · rw [hre] at hr
    omega
  · have := h.cached_le o c hc
    rw [Purse.left, hin, hun]
    omega
  · rw [hin, hre]
  · rw [hcr]

instance (s : Store) : DecidablePred (walletAdmits s)
  | .hydrate _ _ => inferInstanceAs (Decidable (_ → _))
  | .reserveDB _ _ => inferInstanceAs (Decidable (_ → _ ∧ _))
  | .plain | .locked _ | .revoke _ => .isTrue trivial

section Runs

variable [Settings]

def WalletCall.body : WalletCall → Process Store Label WalletAnswer
  | .tryReserveUserQuota userID quota =>
    Desktop2Stereo.tryReserveUserQuota userID quota fun r => .done (.reserved userID quota r)
  | .getUserCache userID => Desktop2Stereo.getUserCache userID fun r => .done (.read r)
  | .increaseUserQuota userID quota => Desktop2Stereo.increaseUserQuota userID quota fun r => .done (.increased r)

theorem WalletCall.follows (c : WalletCall) : Concurrent.Follows walletMachine c.body .free := by
  cases c with
  | tryReserveUserQuota userID quota => exact leads_tryReserveUserQuota userID quota _ fun _ _ hx => hx
  | getUserCache userID => exact leads_getUserCache userID _ fun _ _ hx => hx
  | increaseUserQuota userID quota => exact leads_increaseUserQuota userID quota _ fun _ _ hx => hx

def walletStep : System Store Label WalletAnswer → Move WalletCall Outside → System Store Label WalletAnswer :=
  Concurrent.step WalletCall.body Outside.apply

/-- A run in which every fill and every fallback meets the condition. -/
def WalletRun : System Store Label WalletAnswer → List (Move WalletCall Outside) → Prop :=
  Runs.Along walletStep (Admitted walletAdmits (fun _ _ => True) (fun _ _ => True))

instance (s : System Store Label WalletAnswer) (l : List (Move WalletCall Outside)) : Decidable (WalletRun s l) := by
  unfold WalletRun
  infer_instance

omit [Settings] in
theorem book_step {initial : ℤ → ℤ} {s s' : Store} {g g' : List PursePhase} (h : Book initial s.purse g)
    (hstep : PhaseStep walletMachine Outside.apply .free s s' g g') : Book initial s'.purse g' := by
  cases hstep with
  | start hs =>
    subst hs
    exact h.start
  | move n x x' hx hm =>
    obtain ⟨_, hstep, hother⟩ := hm
    exact h.step hx hstep hother
  | split n x y x' hx hs hm =>
    obtain ⟨rfl, rfl⟩ := hm
    subst hs
    exact h.split hx
  | event e hs =>
    subst hs
    exact h.fade (purse_outside e s)
  | idle hs =>
    subst hs
    exact h

/-- **In every interleaving of reservations, fills, expiries, deletions and credits in which no fill shows more
than what is left and no fallback takes what the copy shows or what is in flight, the reservations of a user stay
within the initial quota and the credits, and a quota that starts without debt never becomes negative.** -/
theorem reservations_covered (store : Store) (h : store.AtRest) (l : List (Move WalletCall Outside))
    (hl : WalletRun ⟨store, []⟩ l) (userID : ℤ) :
    let s := (Runs.run walletStep ⟨store, []⟩ l).store
    (0 < s.reserved userID → s.reserved userID ≤ (store.purse userID).quota + s.credited userID) ∧
      (0 ≤ (store.purse userID).quota → 0 ≤ (s.purse userID).quota) := by
  intro s
  obtain ⟨g, _, hb⟩ := Runs.run_invariant_along (I := fun s => ∃ g, Matches walletMachine s g ∧
    Book (fun o => (store.purse o).quota) s.store.purse g) (fun s m ⟨g, hm, hb⟩ ha =>
      let ⟨g', hm', hstep⟩ := hm.step WalletCall.follows ha
      ⟨g', hm', book_step hb hstep⟩) ⟨[], (show Matches walletMachine ⟨store, []⟩ [] from .nil), h.book⟩ hl
  exact hb.covered_by_funds userID

end Runs

/-- A user with some quota. -/
def sampleWallet (quota : ℤ) : Store :=
  sampleStore { id := 1, email := "a@b.c", emailVerifiedAt := 0, inviterId := 0, quota }

theorem reservations_covered_of_two :
    let l : List (Move WalletCall Outside) := .start (.tryReserveUserQuota 1 60) :: .replicate 7 (.run 0) ++
      .start (.tryReserveUserQuota 1 60) :: .replicate 7 (.run 1)
    let s := Runs.run (@walletStep sampleSettings) ⟨sampleWallet 100, []⟩ l
    s.answer 0 = some (.reserved 1 60 (.ok true)) ∧ s.answer 1 = some (.reserved 1 60 (.ok false)) ∧
      (0 ≤ ((sampleWallet 100).purse 1).quota → 0 ≤ (s.store.purse 1).quota) := by
  intro l s
  have hrun : s.answer 0 = some (.reserved 1 60 (.ok true)) ∧ s.answer 1 = some (.reserved 1 60 (.ok false)) ∧
      @WalletRun sampleSettings ⟨sampleWallet 100, []⟩ l := by decide
  exact ⟨hrun.1, hrun.2.1,
    (@reservations_covered sampleSettings (sampleWallet 100) (⟨fun _ => rfl, fun _ => rfl, fun _ => rfl, fun _ => rfl, fun _ _ hc => (by cases hc)⟩) l hrun.2.2 1).2⟩

/-- A read pauses before its fill, the whole quota is reserved and written to the row, the hash is deleted; the fill
then brings the old quota back, and it is reserved once more. -/
theorem stale_fill_oversells :
    let l : List (Move WalletCall Outside) := .start (.getUserCache 1) :: .replicate 3 (.run 0) ++
      .start (.tryReserveUserQuota 1 100) :: .replicate 7 (.run 1) ++ .env (.invalidateUserCache 1) :: .run 0 ::
      .start (.tryReserveUserQuota 1 100) :: .replicate 2 (.run 2)
    let s := Runs.run (@walletStep sampleSettings) ⟨sampleWallet 100, []⟩ l
    s.answer 1 = some (.reserved 1 100 (.ok true)) ∧ s.answer 2 = some (.reserved 1 100 (.ok true)) ∧
      s.store.reserved 1 = 200 ∧ s.store.credited 1 = 0 ∧ (s.store.purse 1).quota = -100 := by
  decide

end Desktop2Stereo
