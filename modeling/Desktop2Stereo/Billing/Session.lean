import Desktop2Stereo.Billing.Funding

/-!
# A billing session nets out

Reservations, settlements and refunds of one session come in any order, with the background part of a refund in
between. The first settlement or refund that takes effect decides what the session costs in the end. `Reserve` and
`Refund` do nothing after a refund; `Settle` does not look at it, so that a settlement of another quota than the
estimate changes the balances once more.

* **`billing_nets_out`**: without such settlements, a session costs the quota of its first settlement, or nothing after
  a refund, the token as much as the funding source, and later calls change nothing.
-/

namespace Desktop2Stereo

open Relational Concurrent GoText BillingSession BillingStore Billing RefundTask

/-! ## What a session has changed -/

def Billing.fundingChange (before : BillingStore) (b : Billing) : ℤ :=
  match b.session.funding with
  | .wallet _ => b.store.wallet b.session.relayInfo.userId - before.wallet b.session.relayInfo.userId
  | .subscription _ subscriptionId preConsumed amountUsedAfter =>
    amountUsedAfter - preConsumed - ((b.store.subs.subscriptions.get? subscriptionId).map UserSubscription.amountUsed).getD 0

def Billing.tokenChange (before : BillingStore) (b : Billing) : ℤ :=
  b.store.token b.session.relayInfo.tokenId - before.token b.session.relayInfo.tokenId

variable {session : BillingSession} {s s' : BillingStore} {base tok charge delta : ℤ}

/-- The funding source, which stood at `base`, has been charged. -/
def BillingSession.Holds (session : BillingSession) (base : ℤ) (s : BillingStore) (charge : ℤ) : Prop :=
  match session.funding with
  | .wallet _ => s.wallet session.relayInfo.userId = base - charge ∧ base ≤ maxWalletQuota
  | .subscription _ subscriptionId _ _ => s.subs.Uses subscriptionId (base + charge) ∧ 0 ≤ base

def BillingSession.Recorded (session : BillingSession) (s : BillingStore) : Prop :=
  match session.funding with
  | .wallet _ => True
  | .subscription _ subscriptionId preConsumed _ =>
    ∃ record, s.subs.preConsumeRecords.get? session.relayInfo.requestId = some record ∧ record.status = .consumed ∧
      record.userSubscriptionId = subscriptionId ∧ record.preConsumed = preConsumed

structure BillingSession.Agrees (session : BillingSession) : Prop where
  nonneg : 0 ≤ session.preConsumedQuota
  token : session.tokenConsumed = session.preConsumedQuota
  funding : match session.funding with
    | .wallet consumed => consumed = session.preConsumedQuota ∧ session.preConsumedQuota ≤ maxWalletQuota
    | .subscription _ _ preConsumed _ => 0 < preConsumed ∧ 0 ≤ session.extraReserved ∧
        preConsumed + session.extraReserved = session.preConsumedQuota ∧ trimSpace session.relayInfo.requestId ≠ ""

/-- The funding source and the token have been charged. -/
def BillingSession.Balanced (session : BillingSession) (base tok : ℤ) (s : BillingStore) (charge tokenCharge : ℤ) : Prop :=
  session.Holds base s charge ∧
    s.token session.relayInfo.tokenId = tok - if session.relayInfo.isPlayground then 0 else tokenCharge

/-- What is charged after the first part of a refund. -/
def BillingSession.extraCharge (session : BillingSession) : ℤ :=
  match session.funding with
  | .wallet _ => 0
  | .subscription _ _ _ _ => session.extraReserved

inductive BillingInv (base tok : ℤ) (b : Billing) : Prop
  | running (hnone : b.outcome = none) (hsettled : b.session.settled = false) (hrefunded : b.session.refunded = false)
      (hfunding : b.session.fundingSettled = false) (hpending : b.pending = [])
      (hbal : b.session.Balanced base tok b.store b.session.preConsumedQuota b.session.preConsumedQuota)
      (hrec : b.session.Recorded b.store)
  | settled (q : ℤ) (hout : b.outcome = some (.settled q)) (hsettled : b.session.settled = true)
      (hpending : b.pending = []) (hbal : b.session.Balanced base tok b.store q q)
  | refunding (hout : b.outcome = some .refunded) (hrefunded : b.session.refunded = true)
      (hpending : b.pending = [.funding, .extra b.session.extraReserved, .token b.session.tokenConsumed])
      (hbal : b.session.Balanced base tok b.store b.session.preConsumedQuota b.session.preConsumedQuota)
      (hrec : b.session.Recorded b.store)
  | fundingBack (hout : b.outcome = some .refunded) (hrefunded : b.session.refunded = true)
      (hpending : b.pending = [.extra b.session.extraReserved, .token b.session.tokenConsumed])
      (hbal : b.session.Balanced base tok b.store b.session.extraCharge b.session.preConsumedQuota)
  | extraBack (hout : b.outcome = some .refunded) (hrefunded : b.session.refunded = true)
      (hpending : b.pending = [.token b.session.tokenConsumed])
      (hbal : b.session.Balanced base tok b.store 0 b.session.preConsumedQuota)
  | refunded (hout : b.outcome = some .refunded) (hrefunded : b.session.refunded = true) (hpending : b.pending = [])
      (hbal : b.session.Balanced base tok b.store 0 0)

def FundingSource.stoodAt (info : RelayInfo) (before : BillingStore) : FundingSource → ℤ
  | .wallet _ => before.wallet info.userId
  | .subscription _ _ preConsumed amountUsedAfter => amountUsedAfter - preConsumed

def BillingSession.stoodAt (session : BillingSession) (before : BillingStore) : ℤ :=
  session.funding.stoodAt session.relayInfo before

structure Billing.Accounted (before : BillingStore) (b : Billing) : Prop where
  agrees : b.session.Agrees
  inv : BillingInv (b.session.stoodAt before) (before.token b.session.relayInfo.tokenId) b

/-! ## Balance operations -/

theorem creditUserQuota_ok {userId quota : ℤ} (h0 : 0 ≤ quota) (hmax : quota ≤ maxWalletQuota)
    (hle : s.wallet userId ≤ maxWalletQuota - quota) :
    s.creditUserQuota userId quota = .ok { s with wallet := bump s.wallet userId quota } := by
  unfold creditUserQuota
  rw [if_neg (not_lt.mpr h0), if_neg (not_lt.mpr hmax), if_pos hle]

theorem wallet_charged {userId : ℤ} (h : s.wallet userId = base - charge) (delta : ℤ) :
    bump s.wallet userId (-delta) userId = base - (charge + delta) := by
  rw [bump_self, h]
  omega

theorem settleFunding_cases (h : session.Holds base s charge) (hnonneg : 0 ≤ charge + delta) :
    (∃ e, session.settleFunding delta s = .error e) ∨
      ∃ s', session.settleFunding delta s = .ok s' ∧ session.Holds base s' (charge + delta) ∧ s'.token = s.token := by
  unfold settleFunding Holds at *
  cases hf : session.funding with
  | wallet =>
    rw [hf] at h
    dsimp only
    split
    · exact .inr ⟨_, rfl, ⟨wallet_charged h.1 delta, h.2⟩, rfl⟩
    · unfold creditUserQuota
      split_ifs
      · exact .inl ⟨_, rfl⟩
      · exact .inl ⟨_, rfl⟩
      · exact .inr ⟨_, rfl, ⟨wallet_charged h.1 delta, h.2⟩, rfl⟩
      · exact .inl ⟨_, rfl⟩
  | subscription =>
    rw [hf] at h
    dsimp only at h ⊢
    rcases postConsume_cases session.relayInfo.requestId h.1
        (show 0 ≤ base + charge + delta by omega) with ⟨e, he⟩ | ⟨subs, he, hu, _⟩
    · rw [he]
      exact .inl ⟨_, rfl⟩
    · rw [he]
      exact .inr ⟨_, rfl, ⟨by rwa [← add_assoc], h.2⟩, rfl⟩

def BillingStore.chargeToken (info : RelayInfo) (quota : ℤ) (s : BillingStore) : BillingStore :=
  { s with token := if info.isPlayground then s.token else bump s.token info.tokenId (-quota) }

theorem preConsumeTokenQuota_cases (info : RelayInfo) {quota : ℤ} (hq : 0 ≤ quota) (s : BillingStore) :
    (∃ e, preConsumeTokenQuota info quota s = .error e) ∨
      preConsumeTokenQuota info quota s = .ok (s.chargeToken info quota) := by
  unfold preConsumeTokenQuota chargeToken
  rw [if_neg (not_lt.mpr hq)]
  split_ifs <;> simp_all [bump_zero, decreaseTokenQuota]

theorem reserveToken_cases (info : RelayInfo) {quota : ℤ} (hq : 0 ≤ quota) (s : BillingStore) :
    (∃ e, (if info.isPlayground then .ok s else preConsumeTokenQuota info quota s) = .error e) ∨
      (if info.isPlayground then .ok s else preConsumeTokenQuota info quota s) = .ok (s.chargeToken info quota) := by
  split
  next hp =>
    unfold chargeToken
    rw [if_pos hp]
    exact .inr rfl
  · exact preConsumeTokenQuota_cases info hq s

theorem settleToken_eq (info : RelayInfo) (delta : ℤ) (s : BillingStore) :
    (if info.isPlayground then s else if 0 < delta then s.decreaseTokenQuota info.tokenId delta
      else s.increaseTokenQuota info.tokenId (-delta)) = s.chargeToken info delta := by
  unfold chargeToken
  split_ifs <;> rfl

theorem token_charged {info : RelayInfo} (delta : ℤ)
    (h : s.token info.tokenId = tok - if info.isPlayground then 0 else charge) :
    (s.chargeToken info delta).token info.tokenId = tok - if info.isPlayground then 0 else charge + delta := by
  unfold chargeToken
  dsimp only
  split_ifs at h ⊢
  · exact h
  · rw [bump_self, h]
    omega

/-! ## Reservations -/

variable {b : Billing}

theorem BillingInv.balanced_of_running (h : BillingInv base tok b) (hs : b.session.settled = false)
    (hr : b.session.refunded = false) :
    b.outcome = none ∧ b.session.fundingSettled = false ∧ b.pending = [] ∧
      b.session.Balanced base tok b.store b.session.preConsumedQuota b.session.preConsumedQuota ∧
      b.session.Recorded b.store := by
  cases h with
  | running hnone hsettled hrefunded hfunding hpending hbal hrec => exact ⟨hnone, hfunding, hpending, hbal, hrec⟩
  | settled _ _ hsettled => simp [hs] at hsettled
  | refunding _ hrefunded | fundingBack _ hrefunded | extraBack _ hrefunded | refunded _ hrefunded =>
    simp [hr] at hrefunded

def FundingSource.more (delta : ℤ) : FundingSource → FundingSource
  | .wallet consumed => .wallet (consumed + delta)
  | .subscription own subscriptionId preConsumed amountUsedAfter =>
    .subscription own subscriptionId preConsumed amountUsedAfter

section More

variable {reserved : BillingSession}

theorem BillingSession.Holds.more (h : session.Holds base s charge) (hinfo : reserved.relayInfo = session.relayInfo)
    (hf : reserved.funding = session.funding.more delta) : reserved.Holds base s charge := by
  unfold Holds at *
  rw [hf, hinfo]
  cases hs : session.funding with
  | wallet | subscription => rwa [hs] at h

theorem BillingSession.Recorded.more (h : session.Recorded s) (hinfo : reserved.relayInfo = session.relayInfo)
    (hf : reserved.funding = session.funding.more delta) : reserved.Recorded s := by
  unfold BillingSession.Recorded at *
  rw [hf, hinfo]
  cases hs : session.funding with
  | wallet => trivial
  | subscription => rwa [hs] at h

theorem BillingSession.Agrees.more (h : session.Agrees) (hinfo : reserved.relayInfo = session.relayInfo)
    (hf : reserved.funding = session.funding.more delta) (hd : 0 ≤ delta)
    (hmax : session.preConsumedQuota + delta ≤ maxWalletQuota)
    (hp : reserved.preConsumedQuota = session.preConsumedQuota + delta)
    (ht : reserved.tokenConsumed = session.tokenConsumed + delta)
    (he : reserved.extraReserved = session.extraReserved + delta) : reserved.Agrees := by
  have hfunding := h.funding
  have hnonneg := h.nonneg
  have htoken := h.token
  refine ⟨by omega, by omega, ?_⟩
  rw [hf, hp, he, hinfo]
  cases hs : session.funding with
  | wallet =>
    rw [hs] at hfunding
    exact ⟨by rw [hfunding.1], hmax⟩
  | subscription =>
    rw [hs] at hfunding
    obtain ⟨hpos, _, _, hname⟩ := hfunding
    exact ⟨hpos, by omega, by omega, hname⟩

end More

theorem reserveFunding_cases (h : session.Holds base s charge) (hrec : session.Recorded s) (hnonneg : 0 ≤ charge + delta) :
    (∃ e, session.reserveFunding delta s = .error e) ∨
      ∃ s1, session.reserveFunding delta s = .ok (session.funding.more delta, s1) ∧
        session.Holds base s1 (charge + delta) ∧ s1.token = s.token ∧ session.Recorded s1 := by
  unfold Holds BillingSession.Recorded reserveFunding at *
  cases hf : session.funding with
  | wallet =>
    rw [hf] at h
    exact .inr ⟨_, rfl, ⟨wallet_charged h.1 delta, h.2⟩, rfl, trivial⟩
  | subscription =>
    rw [hf] at h hrec
    dsimp only at h hrec ⊢
    rcases postConsume_cases session.relayInfo.requestId h.1 (show 0 ≤ base + charge + delta by omega) with
      ⟨e, he⟩ | ⟨subs, he, hu, hrecs⟩
    · rw [he]
      exact .inl ⟨_, rfl⟩
    · rw [he]
      refine .inr ⟨_, rfl, ⟨by rwa [← add_assoc], h.2⟩, rfl, ?_⟩
      rw [hrecs]
      exact hrec

theorem rollbackFundingReserve_eq (h : session.Holds base s (charge + delta)) (hrec : session.Recorded s)
    (hc : 0 ≤ charge) (hd : 0 ≤ delta) (hmax : delta ≤ maxWalletQuota) :
    ∃ s2, rollbackFundingReserve session.relayInfo (session.funding.more delta) delta s = (session.funding, s2) ∧
      session.Holds base s2 charge ∧ s2.token = s.token ∧ session.Recorded s2 := by
  unfold Holds BillingSession.Recorded rollbackFundingReserve at *
  cases hf : session.funding with
  | wallet =>
    rw [hf] at h
    dsimp only at h
    have hback : s.creditUserQuota session.relayInfo.userId delta = _ := creditUserQuota_ok hd hmax (by omega)
    refine ⟨{ s with wallet := bump s.wallet session.relayInfo.userId delta }, ?_, ⟨?_, h.2⟩, rfl, trivial⟩
    · dsimp only [FundingSource.more]
      rw [hback]
      dsimp only
      rw [add_sub_cancel_right]
    · show bump s.wallet session.relayInfo.userId delta session.relayInfo.userId = _
      rw [bump_self, h.1]
      omega
  | subscription =>
    rw [hf] at h hrec
    dsimp only at h hrec ⊢
    obtain ⟨_, he, hu, hrecs⟩ := postConsume_ok session.relayInfo.requestId h.1
      (show 0 ≤ base + (charge + delta) + -delta by omega) (by omega)
    simp only [FundingSource.more, he]
    refine ⟨_, rfl, ⟨?_, h.2⟩, rfl, ?_⟩
    · rwa [show base + (charge + delta) + -delta = base + charge by omega] at hu
    · rw [hrecs]
      exact hrec

theorem BillingInv.reserve {target : ℤ} (h : BillingInv base tok b) (hc : b.session.Agrees)
    (hmax : target ≤ maxWalletQuota) :
    (b.reserve target).2.session.Agrees ∧ BillingInv base tok (b.reserve target).2 := by
  unfold Billing.reserve
  dsimp only
  split
  · exact ⟨hc, h⟩
  next hguard =>
    simp only [not_or, Bool.not_eq_true, not_le] at hguard
    obtain ⟨hs, hr, _, _⟩ := hguard
    obtain ⟨hnone, hfs, hpend, ⟨hholds, htoken⟩, hrec⟩ := h.balanced_of_running hs hr
    have hnonneg := hc.nonneg
    generalize hdelta : target - b.session.preConsumedQuota = delta
    rcases reserveFunding_cases hholds hrec (show 0 ≤ b.session.preConsumedQuota + delta by omega) with
      ⟨e, he⟩ | ⟨s1, he, hholds1, htok1, hrec1⟩
    · rw [he]
      exact ⟨hc, h⟩
    rw [he]
    dsimp only
    rcases reserveToken_cases b.session.relayInfo (show 0 ≤ delta by omega) s1 with ⟨e, he'⟩ | he'
    · rw [he']
      obtain ⟨s2, hback, hholds2, htok2, hrec2⟩ := rollbackFundingReserve_eq hholds1 hrec1 hnonneg (by omega) (by omega)
      dsimp only
      rw [hback]
      refine ⟨hc, .running hnone hs hr hfs hpend ⟨hholds2, ?_⟩ hrec2⟩
      show s2.token b.session.relayInfo.tokenId = _
      rw [htok2, htok1]
      exact htoken
    · rw [he']
      dsimp only
      refine ⟨hc.more rfl rfl (by omega) (by omega) rfl rfl rfl,
        .running hnone hs hr hfs hpend ⟨hholds1.more rfl rfl, ?_⟩ (hrec1.more rfl rfl)⟩
      rw [← htok1] at htoken
      exact token_charged delta htoken

/-! ## Settlements and refunds -/

theorem BillingInv.finished (h : BillingInv base tok b) (hout : b.outcome ≠ none) :
    b.session.settled = true ∨ b.session.refunded = true := by
  cases h with
  | running hnone => exact absurd hnone hout
  | settled q _ hsettled => exact .inl hsettled
  | refunding _ hrefunded | fundingBack _ hrefunded | extraBack _ hrefunded | refunded _ hrefunded =>
    exact .inr hrefunded

theorem BillingInv.settle_estimate (h : BillingInv base tok b) (hs : b.session.settled = false) :
    BillingInv base tok { b with
      session := { b.session with settled := true }
      outcome := b.outcome.or (some (.settled b.session.preConsumedQuota)) } := by
  cases h with
  | running hnone _ _ _ hpending hbal => exact .settled _ (by rw [hnone]; rfl) rfl hpending hbal
  | settled q _ hsettled => rw [hs] at hsettled; cases hsettled
  | refunding hout hrefunded hpending hbal hrec => exact .refunding (by rw [hout]; rfl) hrefunded hpending hbal hrec
  | fundingBack hout hrefunded hpending hbal => exact .fundingBack (by rw [hout]; rfl) hrefunded hpending hbal
  | extraBack hout hrefunded hpending hbal => exact .extraBack (by rw [hout]; rfl) hrefunded hpending hbal
  | refunded hout hrefunded hpending hbal => exact .refunded (by rw [hout]; rfl) hrefunded hpending hbal

/-- A settlement keeps the balances, unless it comes after a refund with another quota than the estimate. -/
theorem BillingInv.settle {q : ℤ} (h : BillingInv base tok b) (hc : b.session.Agrees) (hq : 0 ≤ q)
    (hlate : b.session.refunded = true → b.session.settled = true ∨ q = b.session.preConsumedQuota) :
    (b.settle q).2.session.Agrees ∧ BillingInv base tok (b.settle q).2 ∧
      (b.outcome ≠ none → (b.settle q).2.store = b.store) := by
  unfold Billing.settle
  dsimp only
  split
  · exact ⟨hc, h, fun _ => rfl⟩
  next hs =>
    rw [Bool.not_eq_true] at hs
    split
    next hzero =>
      have heq : q = b.session.preConsumedQuota := by omega
      subst heq
      exact ⟨⟨hc.nonneg, hc.token, hc.funding⟩, h.settle_estimate hs, fun _ => rfl⟩
    next hd =>
      have hr : b.session.refunded = false := by
        by_contra hr
        rcases hlate (by simpa using hr) with h' | h'
        · rw [hs] at h'
          cases h'
        · omega
      obtain ⟨hnone, hfs, hpend, ⟨hholds, htoken⟩, _⟩ := h.balanced_of_running hs hr
      rw [hfs]
      rcases settleFunding_cases hholds
          (show 0 ≤ b.session.preConsumedQuota + (q - b.session.preConsumedQuota) by omega) with
        ⟨e, he⟩ | ⟨s', he, hholds', htok'⟩
      · simp only [Bool.false_eq_true, if_false, he]
        exact ⟨hc, h, fun hout => absurd hnone hout⟩
      · simp only [Bool.false_eq_true, if_false, he]
        refine ⟨⟨hc.nonneg, hc.token, hc.funding⟩,
          .settled q (by rw [hnone]; rfl) rfl hpend ⟨?_, ?_⟩, fun hout => absurd hnone hout⟩
        · rw [settleToken_eq]
          rwa [add_sub_cancel] at hholds'
        · rw [settleToken_eq]
          rw [← htok'] at htoken
          have hcharged := token_charged (q - b.session.preConsumedQuota) htoken
          rwa [add_sub_cancel] at hcharged

theorem BillingInv.refund (h : BillingInv base tok b) (hc : b.session.Agrees) :
    b.refund.session.Agrees ∧ BillingInv base tok b.refund ∧ b.refund.store = b.store := by
  unfold Billing.refund
  split
  · exact ⟨hc, h, rfl⟩
  next hguard =>
    simp only [Bool.or_eq_true, not_or, Bool.not_eq_true] at hguard
    obtain ⟨⟨hs, hr⟩, _⟩ := hguard
    obtain ⟨hnone, _, hpend, hbal, hrec⟩ := h.balanced_of_running hs hr
    refine ⟨⟨hc.nonneg, hc.token, hc.funding⟩, .refunding (by rw [hnone]; rfl) rfl ?_ hbal hrec, rfl⟩
    rw [hpend]
    rfl

theorem funding_run (hc : session.Agrees) (hholds : session.Holds base s session.preConsumedQuota)
    (hrec : session.Recorded s) : session.Holds base (funding.run session s) session.extraCharge ∧
      (funding.run session s).token = s.token := by
  have hfunding := hc.funding
  unfold Holds BillingSession.Recorded extraCharge RefundTask.run at *
  cases hf : session.funding with
  | wallet =>
    rw [hf] at hholds hfunding
    obtain ⟨rfl, hmax⟩ := hfunding
    obtain ⟨hwallet, hbase⟩ := hholds
    dsimp only
    split
    next hle =>
      have := hc.nonneg
      exact ⟨⟨by omega, hbase⟩, rfl⟩
    next hpos =>
      rw [creditUserQuota_ok hc.nonneg hmax (by omega)]
      refine ⟨⟨?_, hbase⟩, rfl⟩
      show bump s.wallet session.relayInfo.userId _ session.relayInfo.userId = _
      rw [bump_self, hwallet]
      omega
  | subscription own id preConsumed =>
    rw [hf] at hholds hfunding hrec
    obtain ⟨hpos, _, _, hname⟩ := hfunding
    obtain ⟨record, hget, hstatus, rfl, rfl⟩ := hrec
    obtain ⟨huses, hbase⟩ := hholds
    dsimp only
    rw [if_neg (not_le.mpr hpos)]
    obtain ⟨_, he, hu⟩ := refund_ok hname hget hstatus hpos huses (by omega)
    rw [he]
    refine ⟨⟨?_, hbase⟩, rfl⟩
    rwa [show base + session.preConsumedQuota - record.preConsumed = base + session.extraReserved by omega] at hu

theorem extra_run (hc : session.Agrees) (hholds : session.Holds base s session.extraCharge) :
    session.Holds base ((extra session.extraReserved).run session s) 0 ∧
      ((extra session.extraReserved).run session s).token = s.token := by
  have hfunding := hc.funding
  unfold Holds extraCharge RefundTask.run at *
  cases hf : session.funding with
  | wallet =>
    rw [hf] at hholds
    exact ⟨hholds, rfl⟩
  | subscription =>
    rw [hf] at hholds hfunding
    obtain ⟨_, _, _, _⟩ := hfunding
    obtain ⟨huses, hbase⟩ := hholds
    dsimp only
    split
    next hpos =>
      obtain ⟨_, he, hu, _⟩ := postConsume_ok session.relayInfo.requestId huses
        (show 0 ≤ base + session.extraReserved + -session.extraReserved by omega) (by omega)
      rw [he]
      refine ⟨⟨?_, hbase⟩, rfl⟩
      rwa [show base + session.extraReserved + -session.extraReserved = base + 0 by omega] at hu
    next hzero =>
      have hz : session.extraReserved = 0 := by
        have := huses.1
        omega
      rw [hz] at huses
      exact ⟨⟨huses, hbase⟩, rfl⟩

theorem token_run (hc : session.Agrees) (hbal : session.Balanced base tok s 0 session.preConsumedQuota) :
    session.Balanced base tok ((token session.tokenConsumed).run session s) 0 0 := by
  obtain ⟨hholds, htoken⟩ := hbal
  have hnonneg := hc.nonneg
  rw [hc.token]
  unfold RefundTask.run
  dsimp only
  split
  next hpos =>
    rw [if_neg (by simp [hpos.2])] at htoken
    refine ⟨hholds, ?_⟩
    rw [if_neg (by simp [hpos.2])]
    show bump s.token session.relayInfo.tokenId _ session.relayInfo.tokenId = _
    rw [bump_self, htoken]
    omega
  next hnot =>
    refine ⟨hholds, ?_⟩
    by_cases hp : session.relayInfo.isPlayground = true
    · rw [if_pos hp] at htoken ⊢
      exact htoken
    · have hz : session.preConsumedQuota = 0 := by
        by_contra hne
        exact hnot ⟨by omega, by simpa using hp⟩
      rwa [hz] at htoken

theorem BillingInv.runRefund (h : BillingInv base tok b) (hc : b.session.Agrees) :
    b.runRefund.session.Agrees ∧ BillingInv base tok b.runRefund := by
  unfold Billing.runRefund
  cases h with
  | running hnone hsettled hrefunded hfunding hpending hbal hrec =>
    rw [hpending]
    exact ⟨hc, .running hnone hsettled hrefunded hfunding hpending hbal hrec⟩
  | settled q hout hsettled hpending hbal =>
    rw [hpending]
    exact ⟨hc, .settled q hout hsettled hpending hbal⟩
  | refunding hout hrefunded hpending hbal hrec =>
    rw [hpending]
    obtain ⟨hholds, htok⟩ := funding_run hc hbal.1 hrec
    exact ⟨hc, .fundingBack hout hrefunded rfl ⟨hholds, by rw [htok]; exact hbal.2⟩⟩
  | fundingBack hout hrefunded hpending hbal =>
    rw [hpending]
    obtain ⟨hholds, htok⟩ := extra_run hc hbal.1
    exact ⟨hc, .extraBack hout hrefunded rfl ⟨hholds, by rw [htok]; exact hbal.2⟩⟩
  | extraBack hout hrefunded hpending hbal =>
    rw [hpending]
    exact ⟨hc, .refunded hout hrefunded rfl (token_run hc hbal)⟩
  | refunded hout hrefunded hpending hbal =>
    rw [hpending]
    exact ⟨hc, .refunded hout hrefunded hpending hbal⟩

/-! ## New sessions -/

section NewSessions

variable [BillingSettings] {info : RelayInfo} {quota userQuota preConsumedQuota : ℤ} {started : BillingSession}

/-- What is taken in advance: nothing from those who are trusted. -/
def BillingSession.effectiveQuota (session : BillingSession) (quota userQuota : ℤ) : ℤ :=
  if shouldTrust session.relayInfo userQuota session.funding then 0 else quota

omit [BillingSettings] in
theorem preConsumeToken_cases (info : RelayInfo) {quota : ℤ} (hq : 0 ≤ quota) (s : BillingStore) :
    (∃ e, (if 0 < quota then preConsumeTokenQuota info quota s else .ok s) = .error e) ∨
      (if 0 < quota then preConsumeTokenQuota info quota s else .ok s) = .ok (s.chargeToken info quota) := by
  split
  · exact preConsumeTokenQuota_cases info hq s
  next hpos =>
    have hz : quota = 0 := by omega
    subst hz
    unfold chargeToken
    rw [neg_zero, bump_zero, ite_self]
    exact .inr rfl

omit [BillingSettings] in
theorem chargeToken_back (info : RelayInfo) {quota : ℤ} (hq : 0 ≤ quota) (s : BillingStore) :
    (if 0 < quota ∧ info.isPlayground = false then (s.chargeToken info quota).increaseTokenQuota info.tokenId quota
      else s.chargeToken info quota) = s := by
  unfold chargeToken increaseTokenQuota
  cases hp : info.isPlayground with
  | true => simp
  | false =>
    dsimp only
    split
    · simp [bump_bump, bump_zero]
    next hpos =>
      have hz : quota = 0 := by
        by_contra hne
        exact hpos ⟨by omega, rfl⟩
      subst hz
      simp [bump_zero]

variable [Calendar]

theorem preConsume_cases (hq : 0 ≤ session.effectiveQuota quota userQuota) :
    (∃ e, session.preConsume quota userQuota s = (.error e, s)) ∨
      ∃ funding s2, session.funding.preConsume session.relayInfo (session.effectiveQuota quota userQuota)
          (s.chargeToken session.relayInfo (session.effectiveQuota quota userQuota)) = .ok (funding, s2) ∧
        session.preConsume quota userQuota s =
          (.ok { session with
            trusted := shouldTrust session.relayInfo userQuota session.funding, funding
            preConsumedQuota := session.effectiveQuota quota userQuota
            tokenConsumed := session.effectiveQuota quota userQuota }, s2) := by
  unfold preConsume
  dsimp only
  rw [show (if shouldTrust session.relayInfo userQuota session.funding then 0 else quota) =
    session.effectiveQuota quota userQuota from rfl]
  generalize session.effectiveQuota quota userQuota = q at hq ⊢
  rcases preConsumeToken_cases session.relayInfo hq s with ⟨e, he⟩ | he
  · rw [he]
    exact .inl ⟨e, rfl⟩
  · rw [he]
    dsimp only
    cases hf : session.funding.preConsume session.relayInfo q (s.chargeToken session.relayInfo q) with
    | error e =>
      dsimp only
      rw [chargeToken_back _ hq]
      exact .inl ⟨e, rfl⟩
    | ok charged =>
      refine .inr ⟨charged.1, charged.2, rfl, ?_⟩
      have hconsumed : (if 0 < q then q else 0) = q := by
        split <;> omega
      rw [hconsumed]

theorem preConsume_error {e : BillingErr} (hq : 0 ≤ session.effectiveQuota quota userQuota)
    (h : session.preConsume quota userQuota s = (.error e, s')) : s' = s := by
  rcases preConsume_cases hq with ⟨_, he⟩ | ⟨_, _, _, he⟩
  · rw [he] at h
    cases h
    rfl
  · rw [he] at h
    cases h

omit [Calendar] in
theorem effectiveQuota_nonneg (session : BillingSession) (userQuota : ℤ) (hq : 0 ≤ quota) :
    0 ≤ session.effectiveQuota quota userQuota := by
  unfold effectiveQuota
  split
  · exact le_rfl
  · exact hq

omit [BillingSettings] [Calendar] in
theorem token_started (info : RelayInfo) (quota : ℤ) (s : BillingStore) :
    (s.chargeToken info quota).token info.tokenId =
      s.token info.tokenId - if info.isPlayground then 0 else quota := by
  have hnow : s.token info.tokenId = s.token info.tokenId - if info.isPlayground then 0 else 0 := by simp
  have h := token_charged quota hnow
  rwa [zero_add] at h

theorem tryWallet_error {e : BillingErr} (hq : 0 ≤ preConsumedQuota)
    (h : tryWallet info preConsumedQuota s = (.error e, s')) : s' = s := by
  unfold tryWallet at h
  dsimp only at h
  split at h
  · cases h
    rfl
  split at h
  · cases h
    rfl
  · exact preConsume_error (effectiveQuota_nonneg _ _ hq) h

theorem tryWallet_started (hq : 0 ≤ preConsumedQuota) (hcap : s.wallet info.userId ≤ maxWalletQuota)
    (h : tryWallet info preConsumedQuota s = (.ok started, s')) : Accounted s { store := s', session := started } := by
  unfold tryWallet at h
  dsimp only at h
  split at h
  · cases h
  split at h
  · cases h
  have hq' := effectiveQuota_nonneg { relayInfo := info, funding := .wallet 0 } (s.wallet info.userId) hq
  rcases preConsume_cases hq' with ⟨e, he⟩ | ⟨_, _, hf, he⟩
  · rw [he] at h
    cases h
  · rw [he] at h
    cases h
    generalize effectiveQuota _ _ _ = q at hq' hf
    unfold FundingSource.preConsume at hf
    dsimp only at hf
    split at hf
    next hle =>
      have hz : q = 0 := by omega
      subst hz
      cases hf
      exact ⟨⟨le_rfl, rfl, rfl, show 0 ≤ maxWalletQuota by decide⟩, .running rfl rfl rfl rfl rfl
        ⟨⟨(sub_zero _).symm, hcap⟩, token_started info 0 s⟩ trivial⟩
    split at hf
    next hpos hle =>
      cases hf
      have hmax : q ≤ maxWalletQuota := hle.trans hcap
      refine ⟨⟨hq', rfl, rfl, hmax⟩, .running rfl rfl rfl rfl rfl ⟨⟨?_, hcap⟩, token_started info q s⟩ trivial⟩
      exact bump_self _ _ _
    · cases hf

omit [Calendar] in
theorem effectiveQuota_subscription (info : RelayInfo) (own : ℤ) :
    effectiveQuota { relayInfo := info, funding := .subscription own 0 0 0 } own 0 = own := by
  unfold effectiveQuota shouldTrust
  split_ifs <;> simp_all

theorem trySubscription_started (hfresh : s.subs.preConsumeRecords.get? info.requestId = none)
    (hrows : ∀ sub ∈ s.subs.subscriptions.rows, 0 < sub.id ∧ 0 ≤ sub.amountUsed)
    (h : trySubscription info preConsumedQuota s = (.ok started, s')) : Accounted s { store := s', session := started } := by
  unfold trySubscription at h
  have hown : 0 < if preConsumedQuota ≤ 0 then 1 else preConsumedQuota := by
    split <;> omega
  generalize (if preConsumedQuota ≤ 0 then 1 else preConsumedQuota) = own at h hown
  have heff := effectiveQuota_subscription info own
  rcases preConsume_cases (s := s) (heff ▸ hown.le) with ⟨e, he⟩ | ⟨_, _, hf, he⟩
  · rw [he] at h
    cases h
  · rw [he] at h
    cases h
    rw [heff] at hf ⊢
    unfold FundingSource.preConsume at hf
    dsimp only at hf
    split at hf
    next r subs hexec =>
      cases hf
      obtain ⟨_, hname, hpre, _, _, hrec⟩ := preConsume_eq_ok hfresh hrows hexec
      refine ⟨⟨hown.le, rfl, ?_⟩, .running rfl rfl rfl rfl rfl ⟨⟨?_, ?_⟩, token_started info own s⟩ ?_⟩
      · exact ⟨by rw [hpre]; exact hown, le_rfl, by rw [hpre, add_zero], hname⟩
      · show subs.Uses r.userSubscriptionId (r.amountUsedAfter - r.preConsumed + own)
        rwa [hpre, sub_add_cancel]
      · show 0 ≤ r.amountUsedAfter - r.preConsumed
        omega
      · exact ⟨_, hrec, rfl, rfl, hpre.symm⟩
    · cases hf
    · cases hf

/-- **A new session has charged what it took in advance, and a refused one has charged nothing.** -/
theorem newBillingSession_started (hq : 0 ≤ preConsumedQuota) (hcap : s.wallet info.userId ≤ maxWalletQuota)
    (hfresh : s.subs.preConsumeRecords.get? info.requestId = none)
    (hrows : ∀ sub ∈ s.subs.subscriptions.rows, 0 < sub.id ∧ 0 ≤ sub.amountUsed)
    (h : newBillingSession info preConsumedQuota s = (.ok started, s')) : Accounted s { store := s', session := started } := by
  unfold newBillingSession at h
  split at h
  · exact trySubscription_started hfresh hrows h
  split at h
  · exact tryWallet_started hq hcap h
  split at h
  · split at h
    next e s1 hwallet =>
      -- the subscription is tried where the wallet was refused
      have hs := tryWallet_error hq hwallet
      subst hs
      split at h
      · exact trySubscription_started hfresh hrows h
      · cases h
    next => exact tryWallet_started hq hcap h
  split at h
  · exact tryWallet_started hq hcap h
  · split at h
    next e s1 hsub =>
      unfold trySubscription at hsub
      have hs := preConsume_error (effectiveQuota_nonneg _ _ (by split <;> omega)) hsub
      subst hs
      split at h
      · exact tryWallet_started hq hcap h
      · cases h
    next => exact trySubscription_started hfresh hrows h

end NewSessions

/-! ## Every order of calls -/

variable {before : BillingStore}

/-- The calls on a session, and the background part of its refund. -/
inductive BillingOp
  | reserve (targetQuota : ℤ)
  | settle (actualQuota : ℤ)
  | refund
  | runRefund
  deriving DecidableEq

def billingStep (b : Billing) : BillingOp → Billing
  | .reserve targetQuota => (b.reserve targetQuota).2
  | .settle actualQuota => (b.settle actualQuota).2
  | .refund => b.refund
  | .runRefund => b.runRefund

/-- Quotas are amounts that a wallet can hold, and a settlement after a refund is for the estimate. -/
def BillingOp.Ok (b : Billing) : BillingOp → Prop
  | .reserve targetQuota => targetQuota ≤ maxWalletQuota
  | .settle actualQuota => 0 ≤ actualQuota ∧
      (b.session.refunded = true → b.session.settled = true ∨ actualQuota = b.session.preConsumedQuota)
  | .refund | .runRefund => True

instance (b : Billing) : DecidablePred (BillingOp.Ok b) := fun op => by
  unfold BillingOp.Ok
  split <;> infer_instance

theorem stoodAt_reserveFunding {funding : FundingSource} (h : session.reserveFunding delta s = .ok (funding, s')) :
    funding.stoodAt session.relayInfo before = session.funding.stoodAt session.relayInfo before := by
  unfold reserveFunding at h
  split at h
  next hf =>
    cases h
    rw [hf]
    rfl
  next hf =>
    split at h
    · cases h
    · cases h
      rw [hf]

theorem stoodAt_rollback (info : RelayInfo) (funding : FundingSource) (delta : ℤ) (s : BillingStore) :
    (rollbackFundingReserve info funding delta s).1.stoodAt info before = funding.stoodAt info before := by
  unfold rollbackFundingReserve
  cases funding with
  | wallet | subscription =>
    dsimp only
    split <;> rfl

theorem billingStep_account (before : BillingStore) (b : Billing) (op : BillingOp) :
    (billingStep b op).session.relayInfo = b.session.relayInfo ∧
      (billingStep b op).session.stoodAt before = b.session.stoodAt before := by
  cases op with
  | reserve target =>
    show (b.reserve target).2.session.relayInfo = _ ∧ (b.reserve target).2.session.stoodAt before = _
    unfold Billing.reserve
    dsimp only
    split
    · exact ⟨rfl, rfl⟩
    split
    · exact ⟨rfl, rfl⟩
    next funding s1 hf =>
      split
      · exact ⟨rfl, (stoodAt_rollback _ _ _ _).trans (stoodAt_reserveFunding hf)⟩
      · exact ⟨rfl, stoodAt_reserveFunding hf⟩
  | settle q =>
    show (b.settle q).2.session.relayInfo = _ ∧ (b.settle q).2.session.stoodAt before = _
    unfold Billing.settle
    dsimp only
    split
    · exact ⟨rfl, rfl⟩
    split
    · exact ⟨rfl, rfl⟩
    · split <;> exact ⟨rfl, rfl⟩
  | refund =>
    show b.refund.session.relayInfo = _ ∧ b.refund.session.stoodAt before = _
    unfold Billing.refund
    split <;> exact ⟨rfl, rfl⟩
  | runRefund =>
    show b.runRefund.session.relayInfo = _ ∧ b.runRefund.session.stoodAt before = _
    unfold Billing.runRefund
    split <;> exact ⟨rfl, rfl⟩

theorem Billing.Accounted.step (h : b.Accounted before) (op : BillingOp) (hok : op.Ok b) :
    (billingStep b op).Accounted before := by
  obtain ⟨hinfo, hbase⟩ := billingStep_account before b op
  suffices hs : (billingStep b op).session.Agrees ∧
      BillingInv (b.session.stoodAt before) (before.token b.session.relayInfo.tokenId) (billingStep b op) from
    ⟨hs.1, by rw [hinfo, hbase]; exact hs.2⟩
  cases op with
  | reserve => exact h.inv.reserve h.agrees hok
  | settle =>
    obtain ⟨hc, hinv, _⟩ := h.inv.settle h.agrees hok.1 hok.2
    exact ⟨hc, hinv⟩
  | refund =>
    obtain ⟨hc, hinv, _⟩ := h.inv.refund h.agrees
    exact ⟨hc, hinv⟩
  | runRefund => exact h.inv.runRefund h.agrees

theorem Billing.Accounted.late (h : b.Accounted before) (hout : b.outcome ≠ none) {op : BillingOp} (hok : op.Ok b)
    (hcall : op ≠ .runRefund) : (billingStep b op).store = b.store := by
  cases op with
  | reserve target =>
    have hdone : b.session.settled = true ∨ b.session.refunded = true := h.inv.finished hout
    show (b.reserve target).2.store = b.store
    unfold Billing.reserve
    dsimp only
    rw [if_pos (by tauto)]
  | settle => exact (h.inv.settle h.agrees hok.1 hok.2).2.2 hout
  | refund => exact (h.inv.refund h.agrees).2.2
  | runRefund => exact absurd rfl hcall

theorem BillingSession.Balanced.changes {charge tokenCharge : ℤ}
    (h : b.session.Balanced (b.session.stoodAt before) (before.token b.session.relayInfo.tokenId) b.store charge tokenCharge) :
    b.fundingChange before = -charge ∧
      b.tokenChange before = if b.session.relayInfo.isPlayground then 0 else -tokenCharge := by
  obtain ⟨hholds, htoken⟩ := h
  constructor
  · unfold Holds stoodAt FundingSource.stoodAt at hholds
    unfold Billing.fundingChange
    cases hf : b.session.funding with
    | wallet =>
      rw [hf] at hholds
      have := hholds.1
      dsimp only at this ⊢
      omega
    | subscription =>
      rw [hf] at hholds
      obtain ⟨⟨_, _, hsub, hused, _⟩, _⟩ := hholds
      dsimp only at hused ⊢
      rw [hsub, Option.map_some, Option.getD_some, hused]
      omega
  · unfold Billing.tokenChange
    rw [htoken]
    split_ifs <;> omega

theorem Billing.Accounted.nets_out (h : b.Accounted before) :
    (∀ q, b.outcome = some (.settled q) → b.pending = [] ∧ b.fundingChange before = -q) ∧
      (b.outcome = some .refunded → b.pending = [] → b.fundingChange before = 0) ∧
      (b.pending = [] → b.tokenChange before = if b.session.relayInfo.isPlayground then 0 else b.fundingChange before) := by
  cases h.inv with
  | running hnone _ _ _ _ hbal =>
    obtain ⟨hfunding, htoken⟩ := hbal.changes
    simp [hnone, hfunding, htoken]
  | settled q hout _ hpending hbal =>
    obtain ⟨hfunding, htoken⟩ := hbal.changes
    simp [hout, hpending, hfunding, htoken]
  -- while the refund is going on there is nothing to show
  | refunding hout _ hpending | fundingBack hout _ hpending | extraBack hout _ hpending => simp [hout, hpending]
  | refunded hout _ _ hbal =>
    obtain ⟨hfunding, htoken⟩ := hbal.changes
    simp [hout, hfunding, htoken]

/-- **A billing session nets out**, in every order of calls where no settlement of another quota than the estimate comes
after a refund. -/
theorem billing_nets_out [BillingSettings] [Calendar] {info : RelayInfo} {preConsumedQuota : ℤ} {s s₀ : BillingStore}
    {started : BillingSession} (hq : 0 ≤ preConsumedQuota) (hcap : s.wallet info.userId ≤ maxWalletQuota)
    (hfresh : s.subs.preConsumeRecords.get? info.requestId = none)
    (hrows : ∀ sub ∈ s.subs.subscriptions.rows, 0 < sub.id ∧ 0 ≤ sub.amountUsed)
    (hnew : newBillingSession info preConsumedQuota s = (.ok started, s₀)) (l : List BillingOp)
    (hl : Runs.Along billingStep BillingOp.Ok { store := s₀, session := started } l) :
    let b := Runs.run billingStep { store := s₀, session := started } l
    (∀ q, b.outcome = some (.settled q) → b.pending = [] ∧ b.fundingChange s = -q) ∧
      (b.outcome = some .refunded → b.pending = [] → b.fundingChange s = 0) ∧
      (b.pending = [] → b.tokenChange s = if b.session.relayInfo.isPlayground then 0 else b.fundingChange s) ∧
      (b.outcome ≠ none → ∀ op : BillingOp, op.Ok b → op ≠ .runRefund → (billingStep b op).store = b.store) := by
  intro b
  have h : b.Accounted s := Runs.run_invariant_along (I := Accounted s)
    (fun b op hb hok => hb.step op hok) (newBillingSession_started hq hcap hfresh hrows hnew) hl
  obtain ⟨hsettled, hrefunded, htoken⟩ := h.nets_out
  exact ⟨hsettled, hrefunded, htoken, fun hout op hok hcall => h.late hout hok hcall⟩

@[reducible] def sampleBilling : BillingSettings where
  trustQuota := 0

/-- A user with a wallet and a token of a thousand each. -/
def sampleBillingStore : BillingStore where
  wallet _ := 1000
  token _ := 1000
  subs := sampleSubscriptionDB

def sampleRelay (billingPreference : String) : RelayInfo where
  userId := 1
  tokenId := 2
  requestId := "request"
  billingPreference := billingPreference

theorem billing_nets_out_of_reservation :
    let info := sampleRelay "subscription_only"
    let new := @newBillingSession sampleBilling sampleCalendar info 50 sampleBillingStore
    ∃ started, new.1 = .ok started ∧
      let b := Runs.run billingStep { store := new.2, session := started } [.reserve 70, .settle 60, .refund]
      b.fundingChange sampleBillingStore = -60 ∧ b.tokenChange sampleBillingStore = -60 := by
  refine ⟨{ relayInfo := sampleRelay "subscription_only", funding := .subscription 50 1 50 50, preConsumedQuota := 50
            tokenConsumed := 50 }, by decide, ?_⟩
  have hrun := @billing_nets_out sampleBilling sampleCalendar (sampleRelay "subscription_only") 50 sampleBillingStore
    (@newBillingSession sampleBilling sampleCalendar (sampleRelay "subscription_only") 50 sampleBillingStore).2
    { relayInfo := sampleRelay "subscription_only", funding := .subscription 50 1 50 50, preConsumedQuota := 50
      tokenConsumed := 50 } (by decide) (by decide) (by decide) (by decide)
    (Prod.ext (by decide) rfl) [.reserve 70, .settle 60, .refund] (by decide)
  obtain ⟨hsettled, _, htoken, _⟩ := hrun
  obtain ⟨hpending, hfunding⟩ := hsettled 60 (by decide)
  exact ⟨hfunding, (htoken hpending).trans (by rw [hfunding]; decide)⟩

/-- A wallet session of 50 is refunded in full; a settlement of 80 then charges 30. -/
theorem settle_after_refund :
    let new := @newBillingSession sampleBilling sampleCalendar (sampleRelay "wallet_only") 50 sampleBillingStore
    ∃ started, new.1 = .ok started ∧
      let refunded := Runs.run billingStep { store := new.2, session := started } [.refund, .runRefund, .runRefund, .runRefund]
      refunded.outcome = some .refunded ∧ refunded.pending = [] ∧ refunded.fundingChange sampleBillingStore = 0 ∧
        let b := billingStep refunded (.settle 80)
        b.outcome = some .refunded ∧ b.fundingChange sampleBillingStore = -30 ∧ b.tokenChange sampleBillingStore = -30 :=
  ⟨{ relayInfo := sampleRelay "wallet_only", funding := .wallet 50, preConsumedQuota := 50, tokenConsumed := 50 },
    by decide, by decide⟩

end Desktop2Stereo
