import Desktop2Stereo.Model.Subscriptions
import Desktop2Stereo.Model.Wallet

/-!
# Desktop2Stereo: billing sessions

A request is charged to a funding source, the wallet of its user or a subscription, and to a token. A billing
session takes an estimate in advance, may reserve more, and in the end settles the actual quota or gives everything
back; what it gives back is returned in the background. Redis and batch updates are off, and the statements of the
database do not fail.
-/

namespace Desktop2Stereo

open Relational Concurrent GoText

/-! ## Balances -/

/-- `QuotaPerUnit` in the form of the trust quota. -/
class BillingSettings where
  trustQuota : ℤ

/-- The wallets of the users, what remains of the tokens, and the subscriptions. -/
structure BillingStore where
  wallet : ℤ → ℤ
  token : ℤ → ℤ
  subs : SubscriptionDB

inductive BillingErr
  | quotaNegative | walletQuotaLimit | walletQuotaExceeded
  | userQuota (remain : ℤ)
  | preConsume (remain need : ℤ)
  | tokenQuota (remain need : ℤ)
  | subscription (e : SubscriptionErr)
  | reserve (e : SubscriptionErr)
  deriving DecidableEq

/-- `ErrorCodeInsufficientUserQuota` -/
def BillingErr.InsufficientUserQuota : BillingErr → Prop
  | .userQuota _ | .preConsume _ _ | .reserve _ => True
  | .subscription .noActiveSubscription | .subscription (.insufficient _) => True
  | _ => False

instance : DecidablePred BillingErr.InsufficientUserQuota := fun e => by
  unfold BillingErr.InsufficientUserQuota
  split <;> infer_instance

/-- The text of an error, with `logger.FormatQuota`. -/
def BillingErr.text (formatQuota : ℤ → String) : BillingErr → String
  | .quotaNegative => "quota 不能为负数！"
  | .walletQuotaLimit => "wallet quota exceeds 9007199254740991"
  | .walletQuotaExceeded => "wallet quota limit exceeded"
  | .userQuota remain => "用户额度不足, 剩余额度: " ++ formatQuota remain
  | .preConsume remain need =>
    "预扣费额度失败, 用户剩余额度: " ++ formatQuota remain ++ ", 需要预扣费额度: " ++ formatQuota need
  | .tokenQuota remain need =>
    "token quota is not enough, token remain quota: " ++ formatQuota remain ++ ", need quota: " ++ formatQuota need
  | .subscription e => match e with
    | .noActiveSubscription | .insufficient _ => "订阅额度不足或未配置订阅: " ++ e.text
    | _ => e.text
  | .reserve e => "订阅额度不足或未配置订阅: " ++ e.text

/-- `DecreaseUserQuota`: a wallet may be overdrawn. -/
def BillingStore.decreaseUserQuota (userId quota : ℤ) (s : BillingStore) : BillingStore :=
  { s with wallet := bump s.wallet userId (-quota) }

/-- `IncreaseUserQuota` -/
def BillingStore.creditUserQuota (userId quota : ℤ) (s : BillingStore) : Except BillingErr BillingStore :=
  if quota < 0 then .error .quotaNegative
  else if maxWalletQuota < quota then .error .walletQuotaLimit
  else if s.wallet userId ≤ maxWalletQuota - quota then .ok { s with wallet := bump s.wallet userId quota }
  else .error .walletQuotaExceeded

def BillingStore.decreaseTokenQuota (tokenId quota : ℤ) (s : BillingStore) : BillingStore :=
  { s with token := bump s.token tokenId (-quota) }

def BillingStore.increaseTokenQuota (tokenId quota : ℤ) (s : BillingStore) : BillingStore :=
  { s with token := bump s.token tokenId quota }

/-- `PostConsumeUserSubscriptionDelta` for a request, on its own. -/
def BillingStore.postConsume (requestId : String) (subscriptionId delta : ℤ) (s : BillingStore) :
    Except SubscriptionErr BillingStore :=
  match (postConsumeUserSubscriptionDelta requestId subscriptionId delta Process.done).exec s.subs with
  | (some (.ok _), subs) => .ok { s with subs }
  | (some (.error e), _) => .error e
  | (none, _) => .ok s

/-! ## Sessions -/

/-- What a session reads of a relay request; `tokenQuota` is the token's quota in the context of the request. -/
structure RelayInfo where
  userId : ℤ
  tokenId : ℤ
  tokenUnlimited : Bool := false
  isPlayground : Bool := false
  forcePreConsume : Bool := false
  requestId : String
  billingPreference : String := ""
  tokenQuota : ℤ := 0
  deriving DecidableEq

inductive FundingSource
  | wallet (consumed : ℤ)
  | subscription (amount subscriptionId preConsumed amountUsedAfter : ℤ)
  deriving DecidableEq

structure BillingSession where
  relayInfo : RelayInfo
  funding : FundingSource
  preConsumedQuota : ℤ := 0
  tokenConsumed : ℤ := 0
  extraReserved : ℤ := 0
  trusted : Bool := false
  fundingSettled : Bool := false
  settled : Bool := false
  refunded : Bool := false
  deriving DecidableEq

def preConsumeTokenQuota (info : RelayInfo) (quota : ℤ) (s : BillingStore) : Except BillingErr BillingStore :=
  if quota < 0 then .error .quotaNegative
  else if info.isPlayground then .ok s
  else if quota = 0 then .ok s
  else if info.tokenUnlimited then .ok (s.decreaseTokenQuota info.tokenId quota)
  else if quota ≤ s.token info.tokenId then .ok (s.decreaseTokenQuota info.tokenId quota)
  else .error (.tokenQuota (s.token info.tokenId) quota)

section Sessions

variable [BillingSettings]

/-- `shouldTrust`: a subscription is never trusted. -/
def shouldTrust (info : RelayInfo) (userQuota : ℤ) (funding : FundingSource) : Bool :=
  if info.forcePreConsume then false
  else if BillingSettings.trustQuota ≤ 0 then false
  else if !info.tokenUnlimited && info.tokenQuota ≤ BillingSettings.trustQuota then false
  else match funding with
    | .wallet _ => BillingSettings.trustQuota < userQuota
    | .subscription _ _ _ _ => false

variable [Calendar]

omit [BillingSettings] in
def FundingSource.preConsume (info : RelayInfo) (amount : ℤ) (s : BillingStore) :
    FundingSource → Except BillingErr (FundingSource × BillingStore)
  | .wallet consumed =>
    if amount ≤ 0 then .ok (.wallet consumed, s)
    else if amount ≤ s.wallet info.userId then .ok (.wallet amount, s.decreaseUserQuota info.userId amount)
    else .error (.userQuota (s.wallet info.userId))
  | .subscription own _ _ _ =>
    match (preConsumeUserSubscription info.requestId info.userId own Process.done).exec s.subs with
    | (some (.ok r), subs) =>
      .ok (.subscription own r.userSubscriptionId r.preConsumed r.amountUsedAfter, { s with subs })
    | (some (.error e), _) => .error (.subscription e)
    | (none, _) => .error (.subscription .resetLoops)

/-- `preConsume`: the token first, then the funding source; the token is given back where the source refuses. -/
def BillingSession.preConsume (session : BillingSession) (quota userQuota : ℤ) (s : BillingStore) :
    Except BillingErr BillingSession × BillingStore :=
  let info := session.relayInfo
  let trusted := shouldTrust info userQuota session.funding
  let effectiveQuota := if trusted then 0 else quota
  match if 0 < effectiveQuota then preConsumeTokenQuota info effectiveQuota s else .ok s with
  | .error e => (.error e, s)
  | .ok s₁ =>
    match session.funding.preConsume info effectiveQuota s₁ with
    | .error e =>
      (.error e, if 0 < effectiveQuota ∧ info.isPlayground = false then s₁.increaseTokenQuota info.tokenId effectiveQuota
        else s₁)
    | .ok (funding, s₂) =>
      (.ok { session with
        trusted, funding, preConsumedQuota := effectiveQuota
        tokenConsumed := if 0 < effectiveQuota then effectiveQuota else 0 }, s₂)

def tryWallet (info : RelayInfo) (preConsumedQuota : ℤ) (s : BillingStore) :
    Except BillingErr BillingSession × BillingStore :=
  let userQuota := s.wallet info.userId
  if userQuota ≤ 0 then (.error (.userQuota userQuota), s)
  else if userQuota - preConsumedQuota < 0 then (.error (.preConsume userQuota preConsumedQuota), s)
  else BillingSession.preConsume { relayInfo := info, funding := .wallet 0 } preConsumedQuota userQuota s

def trySubscription (info : RelayInfo) (preConsumedQuota : ℤ) (s : BillingStore) :
    Except BillingErr BillingSession × BillingStore :=
  let subConsume := if preConsumedQuota ≤ 0 then 1 else preConsumedQuota
  BillingSession.preConsume { relayInfo := info, funding := .subscription subConsume 0 0 0 } subConsume 0 s

omit [BillingSettings] [Calendar] in
def BillingStore.activeSubscriptions (s : BillingStore) (userId : ℤ) : List UserSubscription :=
  s.subs.subscriptions.rows.filter fun sub => sub.userId = userId ∧ sub.status = .active ∧ s.subs.clock < sub.endTime

def newBillingSession (info : RelayInfo) (preConsumedQuota : ℤ) (s : BillingStore) :
    Except BillingErr BillingSession × BillingStore :=
  if trimSpace info.billingPreference = "subscription_only" then trySubscription info preConsumedQuota s
  else if trimSpace info.billingPreference = "wallet_only" then tryWallet info preConsumedQuota s
  else if trimSpace info.billingPreference = "wallet_first" then
    match tryWallet info preConsumedQuota s with
    | (.error e, s₁) => if e.InsufficientUserQuota then trySubscription info preConsumedQuota s₁ else (.error e, s₁)
    | r => r
  else if s.activeSubscriptions info.userId = [] then tryWallet info preConsumedQuota s
  else
    match trySubscription info preConsumedQuota s with
    | (.error e, s₁) =>
      if e.InsufficientUserQuota ∧ ∀ sub ∈ s₁.activeSubscriptions info.userId, sub.allowWalletOverflow = true then
        tryWallet info preConsumedQuota s₁
      else (.error e, s₁)
    | r => r

end Sessions

/-! ## Calls on a session -/

/-- What the background part of a refund still has to do. -/
inductive RefundTask
  | funding
  | extra (extraReserved : ℤ)
  | token (tokenConsumed : ℤ)
  deriving DecidableEq

/-- The first call that took effect. -/
inductive Outcome
  | settled (actualQuota : ℤ)
  | refunded
  deriving DecidableEq

/-- A session with its background work; the outcome is a history that no call reads. -/
structure Billing where
  store : BillingStore
  session : BillingSession
  pending : List RefundTask := []
  outcome : Option Outcome := none

/-- `funding.Settle` -/
def BillingSession.settleFunding (session : BillingSession) (delta : ℤ) (s : BillingStore) : Except BillingErr BillingStore :=
  match session.funding with
  | .wallet _ =>
    if 0 < delta then .ok (s.decreaseUserQuota session.relayInfo.userId delta)
    else s.creditUserQuota session.relayInfo.userId (-delta)
  | .subscription _ subscriptionId _ _ =>
    (s.postConsume session.relayInfo.requestId subscriptionId delta).mapError .subscription

def Billing.settle (actualQuota : ℤ) (b : Billing) : Except BillingErr Unit × Billing :=
  let info := b.session.relayInfo
  if b.session.settled then (.ok (), b)
  else
    let delta := actualQuota - b.session.preConsumedQuota
    let outcome := b.outcome.or (some (.settled actualQuota))
    if delta = 0 then (.ok (), { b with session := { b.session with settled := true }, outcome })
    else
      match if b.session.fundingSettled then .ok b.store else b.session.settleFunding delta b.store with
      | .error e => (.error e, b)
      | .ok store =>
        let store := if info.isPlayground then store
          else if 0 < delta then store.decreaseTokenQuota info.tokenId delta
          else store.increaseTokenQuota info.tokenId (-delta)
        (.ok (), { b with store, session := { b.session with fundingSettled := true, settled := true }, outcome })

/-- `needsRefundLocked` -/
def BillingSession.needsRefund (session : BillingSession) : Bool :=
  if session.settled || session.refunded || session.fundingSettled then false
  else if 0 < session.tokenConsumed then true
  else match session.funding with
    | .subscription _ _ preConsumed _ => 0 < preConsumed
    | .wallet _ => false

/-- `Refund`, up to the start of its background part. -/
def Billing.refund (b : Billing) : Billing :=
  if b.session.settled || b.session.refunded || !b.session.needsRefund then b
  else { b with
    session := { b.session with refunded := true }
    pending := b.pending ++ [.funding, .extra b.session.extraReserved, .token b.session.tokenConsumed]
    outcome := b.outcome.or (some .refunded) }

/-- `refundWithRetry` of `RefundSubscriptionPreConsume` -/
def BillingStore.refundWithRetry (requestId : String) : ℕ → BillingStore → BillingStore
  | 0, s => s
  | n + 1, s =>
    match (refundSubscriptionPreConsume requestId Process.done).exec s.subs with
    | (some (.ok _), subs) => { s with subs }
    | (_, subs) => refundWithRetry requestId n { s with subs }

/-- One part of the background work of a refund. Errors are logged. -/
def RefundTask.run (session : BillingSession) (s : BillingStore) : RefundTask → BillingStore
  | .funding => match session.funding with
    | .wallet consumed =>
      if consumed ≤ 0 then s
      else match s.creditUserQuota session.relayInfo.userId consumed with
        | .ok s' => s'
        | .error _ => s
    | .subscription _ _ preConsumed _ =>
      if preConsumed ≤ 0 then s else s.refundWithRetry session.relayInfo.requestId 3
  | .extra extraReserved => match session.funding with
    | .wallet _ => s
    | .subscription _ subscriptionId _ _ =>
      if 0 < extraReserved ∧ 0 < subscriptionId then
        match s.postConsume session.relayInfo.requestId subscriptionId (-extraReserved) with
        | .ok s' => s'
        | .error _ => s
      else s
  | .token tokenConsumed =>
    if 0 < tokenConsumed ∧ session.relayInfo.isPlayground = false then
      s.increaseTokenQuota session.relayInfo.tokenId tokenConsumed
    else s

/-- The background part of a refund goes on. -/
def Billing.runRefund (b : Billing) : Billing :=
  match b.pending with
  | [] => b
  | task :: pending => { b with store := task.run b.session b.store, pending }

def BillingSession.reserveFunding (session : BillingSession) (delta : ℤ) (s : BillingStore) :
    Except BillingErr (FundingSource × BillingStore) :=
  match session.funding with
  | .wallet consumed => .ok (.wallet (consumed + delta), s.decreaseUserQuota session.relayInfo.userId delta)
  | .subscription own subscriptionId preConsumed amountUsedAfter =>
    match s.postConsume session.relayInfo.requestId subscriptionId delta with
    | .error e => .error (.reserve e)
    | .ok s' => .ok (.subscription own subscriptionId preConsumed amountUsedAfter, s')

def rollbackFundingReserve (info : RelayInfo) (funding : FundingSource) (delta : ℤ) (s : BillingStore) :
    FundingSource × BillingStore :=
  match funding with
  | .wallet consumed => match s.creditUserQuota info.userId delta with
    | .ok s' => (.wallet (consumed - delta), s')
    | .error _ => (.wallet consumed, s)
  | .subscription own subscriptionId preConsumed amountUsedAfter =>
    match s.postConsume info.requestId subscriptionId (-delta) with
    | .ok s' => (.subscription own subscriptionId preConsumed amountUsedAfter, s')
    | .error _ => (.subscription own subscriptionId preConsumed amountUsedAfter, s)

def Billing.reserve (targetQuota : ℤ) (b : Billing) : Except BillingErr Unit × Billing :=
  let session := b.session
  let info := session.relayInfo
  if session.settled ∨ session.refunded ∨ session.trusted ∨ targetQuota ≤ session.preConsumedQuota then (.ok (), b)
  else
    let delta := targetQuota - session.preConsumedQuota
    match session.reserveFunding delta b.store with
    | .error e => (.error e, b)
    | .ok (funding, s₁) =>
      match if info.isPlayground then .ok s₁ else preConsumeTokenQuota info delta s₁ with
      | .error e =>
        let (funding, store) := rollbackFundingReserve info funding delta s₁
        (.error e, { b with store, session := { session with funding } })
      | .ok store =>
        (.ok (), { b with
          store
          session := { session with
            funding, preConsumedQuota := session.preConsumedQuota + delta
            tokenConsumed := session.tokenConsumed + delta, extraReserved := session.extraReserved + delta } })

end Desktop2Stereo
