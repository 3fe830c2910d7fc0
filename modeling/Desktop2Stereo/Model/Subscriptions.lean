import Desktop2Stereo.Lib.Process
import Desktop2Stereo.Model.Rows

/-!
# Desktop2Stereo: subscriptions

A subscription is a snapshot of a plan: a quota with a used amount that is reset at the start of each period, an
end, and the group that the user gets and the one that the user had. Requests consume quota in advance under an
idempotency record, and settle or refund it later.

* `preConsumeUserSubscription`, `postConsumeUserSubscriptionDelta`, `refundSubscriptionPreConsume`,
  `resetDueSubscriptions`: calls as programs of accesses.
-/

namespace Desktop2Stereo

open Relational Concurrent GoText

/-! ## Rows -/

inductive DurationUnit
  | year | month | day | hour | custom
  | other (text : String)
  deriving DecidableEq

/-- The columns of `subscription_plans` that the modelled operations read. -/
structure SubscriptionPlan where
  id : ℤ
  durationUnit : DurationUnit := .month
  durationValue : ℤ := 1
  customSeconds : ℤ := 0
  allowWalletOverflow : Option Bool := none
  maxPurchasePerUser : ℤ := 0
  upgradeGroup : String := ""
  downgradeGroup : String := ""
  totalAmount : ℤ := 0
  quotaResetPeriod : String := "never"
  quotaResetCustomSeconds : ℤ := 0

inductive SubscriptionStatus
  | active | expired | cancelled
  deriving DecidableEq

structure UserSubscription where
  id : ℤ
  userId : ℤ
  planId : ℤ
  amountTotal : ℤ := 0
  amountUsed : ℤ := 0
  startTime : ℤ
  endTime : ℤ
  status : SubscriptionStatus
  source : String := "order"
  lastResetTime : ℤ := 0
  nextResetTime : ℤ := 0
  upgradeGroup : String := ""
  prevUserGroup : String := ""
  downgradeGroup : String := ""
  allowWalletOverflow : Bool := false
  deriving DecidableEq

instance : Indexed UserSubscription ℤ := .ofKey UserSubscription.id

inductive PreConsumeStatus
  | consumed | refunded
  deriving DecidableEq

structure SubscriptionPreConsumeRecord where
  requestId : String
  userId : ℤ
  userSubscriptionId : ℤ
  preConsumed : ℤ
  status : PreConsumeStatus
  deriving DecidableEq

instance : Indexed SubscriptionPreConsumeRecord String := .ofKey SubscriptionPreConsumeRecord.requestId

/-- What has happened to the used amount of a subscription, and for which request. -/
inductive UsageEvent
  | preConsumed (subscriptionId : ℤ) (requestId : String) (amount : ℤ)
  | applied (subscriptionId : ℤ) (requestId : String) (delta : ℤ)
  | reset (subscriptionId : ℤ)

/-- The tables of subscriptions; the last field is a history that no operation reads, newest first. -/
structure SubscriptionDB where
  clock : ℕ
  users : Table User := .empty
  plans : ℤ → Option SubscriptionPlan := fun _ => none
  subscriptions : Table UserSubscription := .empty
  nextSubscriptionID : ℤ := 1
  preConsumeRecords : Table SubscriptionPreConsumeRecord := .empty
  usage : List UsageEvent := []

inductive SubscriptionErr
  | invalidPlan | invalidUser | purchaseLimit | durationValue | customSeconds | durationUnit (text : String)
  | invalidUserId | requestIdEmpty | amountNotPositive | alreadyRefunded | noActiveSubscription | invalidPlanId
  | invalidUserIdOrPlanId | insufficient (need : ℤ) | invalidUserSubscriptionId | usedExceedsTotal (used total : ℤ) | noPlanSubscription
  | recordNotFound | duplicateKey | resetLoops
  deriving DecidableEq

def SubscriptionErr.text : SubscriptionErr → String
  | .invalidPlan => "invalid plan"
  | .invalidUser => "invalid user id"
  | .purchaseLimit => "已达到该套餐购买上限"
  | .durationValue => "duration_value must be > 0"
  | .customSeconds => "custom_seconds must be > 0"
  | .durationUnit text => "invalid duration_unit: " ++ text
  | .invalidUserId => "invalid userId"
  | .requestIdEmpty => "requestId is empty"
  | .amountNotPositive => "amount must be > 0"
  | .alreadyRefunded => "subscription pre-consume already refunded"
  | .noActiveSubscription => "no active subscription"
  | .invalidPlanId => "invalid plan id"
  | .invalidUserIdOrPlanId => "invalid userId or planId"
  | .insufficient need => "subscription quota insufficient, need=" ++ toString need
  | .invalidUserSubscriptionId => "invalid userSubscriptionId"
  | .usedExceedsTotal used total => "subscription used exceeds total, used=" ++ toString used ++ " total=" ++ toString total
  | .noPlanSubscription => "该用户没有有效的此套餐订阅"
  | .recordNotFound => "record not found"
  | .duplicateKey => "duplicated key not allowed"
  -- the source does not return in this case
  | .resetLoops => ""

/-! ## Times -/

/-- The local calendar of the server, on Unix times. The next start of a period lies after the time. -/
class Calendar where
  /-- `AddDate(years, months, 0)` -/
  addDate : ℤ → ℤ → ℤ → ℤ
  nextMidnight : ℤ → ℤ
  nextMonday : ℤ → ℤ
  nextMonth : ℤ → ℤ
  lt_nextMidnight : ∀ t, t < nextMidnight t
  lt_nextMonday : ∀ t, t < nextMonday t
  lt_nextMonth : ∀ t, t < nextMonth t

/-- `time.Duration` arithmetic: nanoseconds in 64 bits. -/
def duration (seconds : ℤ) : ℤ := (seconds * 1000000000 + 2 ^ 63) % 2 ^ 64 - 2 ^ 63

/-- `time.Unix(t, 0).Add(d).Unix()` -/
def addDuration (t d : ℤ) : ℤ := (t * 1000000000 + d) / 1000000000

inductive ResetPeriod
  | never | daily | weekly | monthly | custom
  deriving DecidableEq

def normalizeResetPeriod (period : String) : ResetPeriod :=
  if trimSpace period = "daily" then .daily
  else if trimSpace period = "weekly" then .weekly
  else if trimSpace period = "monthly" then .monthly
  else if trimSpace period = "custom" then .custom
  else .never

section Times

variable [Calendar]

def calcPlanEndTime (start : ℤ) (plan : SubscriptionPlan) : Except SubscriptionErr ℤ :=
  if plan.durationValue ≤ 0 ∧ plan.durationUnit ≠ .custom then .error .durationValue
  else match plan.durationUnit with
    | .year => .ok (Calendar.addDate start plan.durationValue 0)
    | .month => .ok (Calendar.addDate start 0 plan.durationValue)
    | .day => .ok (addDuration start (duration (plan.durationValue * 86400)))
    | .hour => .ok (addDuration start (duration (plan.durationValue * 3600)))
    | .custom =>
      if plan.customSeconds ≤ 0 then .error .customSeconds
      else .ok (addDuration start (duration plan.customSeconds))
    | .other text => .error (.durationUnit text)

/-- The start of the next period after `base`, if the plan has periods. -/
def nextPeriod (base : ℤ) (plan : SubscriptionPlan) : Option ℤ :=
  match normalizeResetPeriod plan.quotaResetPeriod with
  | .never => none
  | .daily => some (Calendar.nextMidnight base)
  | .weekly => some (Calendar.nextMonday base)
  | .monthly => some (Calendar.nextMonth base)
  | .custom =>
    if plan.quotaResetCustomSeconds ≤ 0 then none
    else some (addDuration base (duration plan.quotaResetCustomSeconds))

def calcNextResetTime (base : ℤ) (plan : SubscriptionPlan) (endUnix : ℤ) : ℤ :=
  match nextPeriod base plan with
  | none => 0
  | some next => if 0 < endUnix ∧ endUnix < next then 0 else next

/-! ## Purchases -/

/-- The rows of a query in the order of their end and their id. -/
def EndsBefore (a b : UserSubscription) : Prop := a.endTime < b.endTime ∨ a.endTime = b.endTime ∧ a.id ≤ b.id

instance : DecidableRel EndsBefore := fun a b => by unfold EndsBefore; infer_instance

/-- `Order("end_time desc, id desc").Limit(1)` -/
def latest (l : List UserSubscription) : Option UserSubscription := (l.insertionSort fun a b => EndsBefore b a).head?

def SubscriptionDB.userGroup (db : SubscriptionDB) (userId : ℤ) : String :=
  ((db.users.get? userId).map User.group).getD ""

def SubscriptionDB.setUserGroup (db : SubscriptionDB) (userId : ℤ) (group : String) : SubscriptionDB :=
  { db with users := db.users.modify (·.id = userId) ({ · with group }) fun _ => rfl }

/-- The subscription that a purchase creates. -/
def SubscriptionPlan.subscription (plan : SubscriptionPlan) (id userId : ℤ) (source currentGroup : String)
    (now endUnix : ℤ) : UserSubscription :=
  let nextReset := calcNextResetTime now plan endUnix
  let upgradeGroup := trimSpace plan.upgradeGroup
  { id, userId, planId := plan.id, amountTotal := plan.totalAmount, amountUsed := 0, startTime := now
    endTime := endUnix, status := .active, source
    lastResetTime := if 0 < nextReset then now else 0, nextResetTime := nextReset, upgradeGroup
    prevUserGroup := if upgradeGroup ≠ "" ∧ currentGroup ≠ upgradeGroup then currentGroup else ""
    downgradeGroup := trimSpace plan.downgradeGroup
    allowWalletOverflow := plan.allowWalletOverflow.getD true }

def createUserSubscriptionFromPlanTx (userId : ℤ) (plan : SubscriptionPlan) (source : String) (db : SubscriptionDB) :
    Except SubscriptionErr (UserSubscription × SubscriptionDB) :=
  if plan.id = 0 then .error .invalidPlan
  else if userId ≤ 0 then .error .invalidUser
  else if 0 < plan.maxPurchasePerUser ∧
      plan.maxPurchasePerUser ≤ db.subscriptions.count fun s => s.userId = userId ∧ s.planId = plan.id then
    .error .purchaseLimit
  else match calcPlanEndTime db.clock plan with
    | .error e => .error e
    | .ok endUnix =>
      let upgradeGroup := trimSpace plan.upgradeGroup
      let currentGroup := db.userGroup userId
      let upgraded := if upgradeGroup ≠ "" ∧ currentGroup ≠ upgradeGroup then db.setUserGroup userId upgradeGroup else db
      let sub := plan.subscription db.nextSubscriptionID userId source currentGroup db.clock endUnix
      match db.subscriptions.insert sub with
      | none => .error .duplicateKey
      | some subscriptions =>
        .ok (sub, { upgraded with subscriptions, nextSubscriptionID := db.nextSubscriptionID + 1 })

end Times

/-! ## Expiry -/

def UserSubscription.Due (now : ℤ) (s : UserSubscription) : Prop := s.status = .active ∧ 0 < s.endTime ∧ s.endTime ≤ now

instance (now : ℤ) : DecidablePred (UserSubscription.Due now) := fun s => by
  unfold UserSubscription.Due
  infer_instance

def expiredGroup (lastExpired : UserSubscription) (currentGroup : String) : String :=
  let downgradeGroup := trimSpace lastExpired.downgradeGroup
  if downgradeGroup ≠ "" then downgradeGroup
  else
    let upgradeGroup := trimSpace lastExpired.upgradeGroup
    let prevGroup := trimSpace lastExpired.prevUserGroup
    if upgradeGroup = "" ∨ prevGroup = "" then currentGroup
    else if currentGroup ≠ upgradeGroup then currentGroup
    else prevGroup

/-- The transaction of `ExpireDueSubscriptions` for one user. -/
def expireUserSubscriptions (now : ℤ) (db : SubscriptionDB) (userId : ℤ) : SubscriptionDB :=
  let subscriptions := db.subscriptions.modify (fun s => s.userId = userId ∧ s.Due now) ({ · with status := .expired })
    fun _ => rfl
  let expired := { db with subscriptions }
  if (latest (subscriptions.rows.filter fun s =>
      s.userId = userId ∧ s.status = .active ∧ now < s.endTime ∧ s.upgradeGroup ≠ "")).isSome then expired
  else match latest (subscriptions.rows.filter fun s =>
      s.userId = userId ∧ s.status = .expired ∧ (s.downgradeGroup ≠ "" ∨ s.upgradeGroup ≠ "")) with
    | none => expired
    | some lastExpired =>
      let target := expiredGroup lastExpired (db.userGroup userId)
      if target = db.userGroup userId then expired else expired.setUserGroup userId target

/-- The users of the first due subscriptions. A map holds them in the source: their transactions are about the rows
of different users, so their order does not matter. -/
def dueUsers (limit now : ℤ) (db : SubscriptionDB) : List ℤ :=
  let subs := ((db.subscriptions.rows.filter fun s => s.Due now).insertionSort EndsBefore).take
    (if limit ≤ 0 then 200 else limit.toNat)
  ((subs.map UserSubscription.userId).filter (0 < ·)).dedup

def expireDueSubscriptions (limit : ℤ) (db : SubscriptionDB) : SubscriptionDB :=
  (dueUsers limit db.clock db).foldl (expireUserSubscriptions db.clock) db

/-! ## Resets -/

section Resets

variable [Calendar]

/-- The periods that have started up to `now`: the start of the last one and of the next one. -/
def advancePeriods (plan : SubscriptionPlan) (endUnix now : ℤ) : ℕ → ℤ → Option (ℤ × ℤ)
  | 0, _ => none
  | n + 1, base =>
    let next := calcNextResetTime base plan endUnix
    if 0 < next ∧ next ≤ now then advancePeriods plan endUnix now n next else some (base, next)

/-- `maybeResetUserSubscriptionWithPlanTx`: whether the used amount was reset, and the row to save. -/
def maybeResetUserSubscriptionWithPlan (sub : UserSubscription) (plan : SubscriptionPlan) (now : ℤ) :
    Except SubscriptionErr (Bool × UserSubscription) :=
  if 0 < sub.nextResetTime ∧ now < sub.nextResetTime then .ok (false, sub)
  else if normalizeResetPeriod plan.quotaResetPeriod = .never then .ok (false, sub)
  else
    let base := if sub.lastResetTime ≤ 0 then sub.startTime else sub.lastResetTime
    let next := calcNextResetTime base plan sub.endTime
    if 0 < next ∧ next ≤ now then
      match advancePeriods plan sub.endTime now ((now - base).toNat + base.toNat + 2) base with
      | none => .error .resetLoops
      | some (base, next) => .ok (true, { sub with amountUsed := 0, lastResetTime := base, nextResetTime := next })
    else if sub.nextResetTime = 0 ∧ 0 < next then
      .ok (false, { sub with nextResetTime := next, lastResetTime := base })
    else .ok (false, sub)

/-- `tx.Save(sub)` -/
def SubscriptionDB.save (db : SubscriptionDB) (sub : UserSubscription) : SubscriptionDB :=
  { db with subscriptions := db.subscriptions.modify (·.id = sub.id) (fun r => { sub with id := r.id }) fun _ => rfl }

def SubscriptionDB.record (db : SubscriptionDB) (e : UsageEvent) : SubscriptionDB := { db with usage := e :: db.usage }

/-- Save a row after `maybeResetUserSubscriptionWithPlan`. -/
def SubscriptionDB.saveReset (db : SubscriptionDB) (reset : Bool) (sub : UserSubscription) : SubscriptionDB :=
  if reset then (db.save sub).record (.reset sub.id) else db.save sub

omit [Calendar] in
/-- `getSubscriptionPlanByIdTx` -/
def SubscriptionDB.plan (db : SubscriptionDB) (id : ℤ) : Except SubscriptionErr SubscriptionPlan :=
  if id ≤ 0 then .error .invalidPlanId
  else match db.plans id with
    | none => .error .recordNotFound
    | some plan => .ok plan

/-- The transaction of `ResetDueSubscriptions` for one row. -/
def resetLocked (id : ℤ) (plan : SubscriptionPlan) (now : ℤ) (db : SubscriptionDB) :
    Except SubscriptionErr Bool × SubscriptionDB :=
  match db.subscriptions.get? id with
  | none => (.ok false, db)
  | some locked =>
    if 0 < locked.nextResetTime ∧ locked.nextResetTime ≤ now then
      match maybeResetUserSubscriptionWithPlan locked plan now with
      | .error e => (.error e, db)
      | .ok (reset, sub) => (.ok true, db.saveReset reset sub)
    else (.ok false, db)

/-- `resetUserSubscriptionTx` -/
def UserSubscription.resetBy (plan : SubscriptionPlan) (now : ℤ) (advanceResetTime : Bool) (sub : UserSubscription) :
    UserSubscription :=
  if advanceResetTime then
    let nextReset := calcNextResetTime now plan sub.endTime
    { sub with amountUsed := 0, nextResetTime := nextReset, lastResetTime := if 0 < nextReset then now else 0 }
  else { sub with amountUsed := 0 }

def resetRows (p : UserSubscription → Bool) (plan : SubscriptionPlan) (now : ℤ) (advanceResetTime : Bool)
    (db : SubscriptionDB) : SubscriptionDB :=
  { db with
    subscriptions := db.subscriptions.modify p (fun s => { s.resetBy plan now advanceResetTime with id := s.id }) fun _ => rfl
    usage := (db.subscriptions.rows.filter p).map (fun s => .reset s.id) ++ db.usage }

/-! ## Consumption -/

structure SubscriptionPreConsumeResult where
  userSubscriptionId : ℤ
  preConsumed : ℤ
  amountTotal : ℤ
  amountUsedBefore : ℤ
  amountUsedAfter : ℤ
  deriving DecidableEq

/-- The loop over the candidates. -/
def consumeFrom (requestId : String) (userId now amount : ℤ) :
    List UserSubscription → SubscriptionDB → Except SubscriptionErr (SubscriptionPreConsumeResult × SubscriptionDB)
  | [], _ => .error (.insufficient amount)
  | candidate :: rest, db =>
    match db.plan candidate.planId with
    | .error e => .error e
    | .ok plan =>
      match maybeResetUserSubscriptionWithPlan candidate plan now with
      | .error e => .error e
      | .ok (reset, sub) =>
        let db := db.saveReset reset sub
        if 0 < sub.amountTotal ∧ sub.amountTotal - sub.amountUsed < amount then consumeFrom requestId userId now amount rest db
        else match db.preConsumeRecords.insert
            { requestId, userId, userSubscriptionId := sub.id, preConsumed := amount, status := .consumed } with
          | some preConsumeRecords =>
            let after := { sub with amountUsed := sub.amountUsed + amount }
            .ok (⟨sub.id, amount, sub.amountTotal, sub.amountUsed, sub.amountUsed + amount⟩,
              ({ db with preConsumeRecords }.save after).record (.preConsumed sub.id requestId amount))
          | none =>
            match db.preConsumeRecords.get? requestId with
            | none => .error .duplicateKey
            | some dup =>
              if dup.status = .refunded then .error .alreadyRefunded
              else .ok (⟨sub.id, dup.preConsumed, sub.amountTotal, sub.amountUsed, sub.amountUsed⟩, db)

/-- The transaction of `PreConsumeUserSubscription` once the rows of the user are locked. -/
def consumeTx (requestId : String) (userId now amount : ℤ) (db : SubscriptionDB) :
    Except SubscriptionErr SubscriptionPreConsumeResult × SubscriptionDB :=
  match (db.subscriptions.rows.filter fun s => s.userId = userId ∧ s.status = .active ∧ now < s.endTime).insertionSort
      EndsBefore with
  | [] => (.error .noActiveSubscription, db)
  | candidates =>
    match consumeFrom requestId userId now amount candidates db with
    | .error e => (.error e, db)
    | .ok (result, db) => (.ok result, db)

omit [Calendar] in
/-- The transaction of `PostConsumeUserSubscriptionDelta`, on behalf of a request. -/
def applyDelta (requestId : String) (userSubscriptionId delta : ℤ) (db : SubscriptionDB) :
    Except SubscriptionErr Unit × SubscriptionDB :=
  match db.subscriptions.get? userSubscriptionId with
  | none => (.error .recordNotFound, db)
  | some sub =>
    let newUsed := if sub.amountUsed + delta < 0 then 0 else sub.amountUsed + delta
    if 0 < sub.amountTotal ∧ sub.amountTotal < newUsed then (.error (.usedExceedsTotal newUsed sub.amountTotal), db)
    else (.ok (), (db.save { sub with amountUsed := newUsed }).record (.applied userSubscriptionId requestId delta))

omit [Calendar] in
def markRefunded (requestId : String) (db : SubscriptionDB) : Unit × SubscriptionDB :=
  ((), { db with preConsumeRecords :=
    db.preConsumeRecords.modify (·.requestId = requestId) ({ · with status := .refunded }) fun _ => rfl })

/-! ## Calls -/

abbrev SubscriptionAction (ρ α : Type) := Program SubscriptionDB Unit ρ α

variable {ρ : Type}

def preConsumeUserSubscription (requestId : String) (userId amount : ℤ) :
    SubscriptionAction ρ (Except SubscriptionErr SubscriptionPreConsumeResult) := do
  if userId ≤ 0 then return .error .invalidUserId
  if trimSpace requestId = "" then return .error .requestIdEmpty
  if amount ≤ 0 then return .error .amountNotPositive
  let now ← observe () fun db => (db.clock : ℤ)
  match ← observe () (·.preConsumeRecords.get? requestId) with
  | none => access () (consumeTx requestId userId now amount)
  | some existing =>
    if existing.status = .refunded then return .error .alreadyRefunded
    match ← observe () (·.subscriptions.get? existing.userSubscriptionId) with
    | none => return .error .recordNotFound
    | some sub => return .ok ⟨sub.id, existing.preConsumed, sub.amountTotal, sub.amountUsed, sub.amountUsed⟩

omit [Calendar] in
/-- The request is not an argument of the source: it is the one whose settlement or refund this is. -/
def postConsumeUserSubscriptionDelta (requestId : String) (userSubscriptionId delta : ℤ) :
    SubscriptionAction ρ (Except SubscriptionErr Unit) := do
  if userSubscriptionId ≤ 0 then return .error .invalidUserSubscriptionId
  if delta = 0 then return .ok ()
  access () (applyDelta requestId userSubscriptionId delta)

omit [Calendar] in
/-- The delta is applied in a transaction of its own. -/
def refundSubscriptionPreConsume (requestId : String) : SubscriptionAction ρ (Except SubscriptionErr Unit) := do
  if trimSpace requestId = "" then return .error .requestIdEmpty
  match ← observe () (·.preConsumeRecords.get? requestId) with
  | none => return .error .recordNotFound
  | some record =>
    if record.status = .refunded then return .ok ()
    if record.preConsumed ≤ 0 then
      access () (markRefunded requestId)
      return .ok ()
    match ← postConsumeUserSubscriptionDelta requestId record.userSubscriptionId (-record.preConsumed) with
    | .error e => return .error e
    | .ok _ =>
      access () (markRefunded requestId)
      return .ok ()

/-- The loop of `ResetDueSubscriptions`. -/
def resetEach (now : ℤ) : List UserSubscription → ℕ → SubscriptionAction ρ (ℕ × Option SubscriptionErr)
  | [], resetCount => return (resetCount, none)
  | sub :: subs, resetCount => do
    match ← observe () (·.plan sub.planId) with
    | .error _ => resetEach now subs resetCount
    | .ok plan =>
      match ← access () (resetLocked sub.id plan now) with
      | .error e => return (resetCount, some e)
      | .ok done => resetEach now subs (if done then resetCount + 1 else resetCount)

def resetDueSubscriptions (limit : ℤ) : SubscriptionAction ρ (ℕ × Option SubscriptionErr) := do
  let now ← observe () fun db => (db.clock : ℤ)
  let subs ← observe () fun db =>
    ((db.subscriptions.rows.filter fun s => 0 < s.nextResetTime ∧ s.nextResetTime ≤ now ∧ s.status = .active).insertionSort
      fun a b => a.nextResetTime ≤ b.nextResetTime).take (if limit ≤ 0 then 200 else limit.toNat)
  resetEach now subs 0

def resetTarget (userId : Option ℤ) (planId now : ℤ) (s : UserSubscription) : Bool :=
  (∀ u ∈ userId, s.userId = u) ∧ s.planId = planId ∧ s.status = .active ∧ now < s.endTime

/-- `AdminResetUserSubscriptionsByPlan` of a user, `AdminResetPlanSubscriptions` of all. -/
def adminResetSubscriptions (userId : Option ℤ) (planId : ℤ) (advanceResetTime : Bool) :
    SubscriptionAction ρ (Except SubscriptionErr ℕ) := do
  if ∃ u ∈ userId, u ≤ 0 ∨ planId ≤ 0 then return .error .invalidUserIdOrPlanId
  let now ← observe () fun db => (db.clock : ℤ)
  access () fun db => match db.plan planId with
    | .error e => (.error e, db)
    | .ok plan =>
      let matched := db.subscriptions.count (resetTarget userId planId now)
      if userId.isSome ∧ matched = 0 then (.error .noPlanSubscription, db)
      else (.ok matched, resetRows (resetTarget userId planId now) plan now advanceResetTime db)

end Resets

/-! ## Faults -/

/-- The statements of an attempt of `RefundSubscriptionPreConsume`, those of the inner transaction included. -/
inductive RefundStatement
  | begin | selectRecord | innerBegin | selectSubscription | saveSubscription | innerCommit | saveRecord | commit
  deriving DecidableEq

/-- The result of an attempt: the error of a statement of the database, or one of the call. -/
abbrev RefundResult := Except (RefundStatement ⊕ SubscriptionErr) Unit

/-- Whether the statement that fails, if there is one, is among these. -/
def failsAt (fault : Option RefundStatement) (statements : List RefundStatement) : Option RefundStatement :=
  statements.find? (fault = some ·)

/-- `PostConsumeUserSubscriptionDelta` inside a refund. -/
def giveBack (fault : Option RefundStatement) (requestId : String) (userSubscriptionId delta : ℤ) (db : SubscriptionDB) :
    RefundResult × SubscriptionDB :=
  if userSubscriptionId ≤ 0 then (.error (.inr .invalidUserSubscriptionId), db)
  else if delta = 0 then (.ok (), db)
  else match failsAt fault [.innerBegin, .selectSubscription] with
    | some s => (.error (.inl s), db)
    | none =>
      match applyDelta requestId userSubscriptionId delta db with
      | (.error e, _) => (.error (.inr e), db)
      | (.ok _, applied) =>
        match failsAt fault [.saveSubscription, .innerCommit] with
        | some s => (.error (.inl s), db)
        | none => (.ok (), applied)

/-- `RefundSubscriptionPreConsume` when one statement may fail. What the inner transaction has committed stays when the
outer one is rolled back. -/
def refundAttempt (fault : Option RefundStatement) (requestId : String) (db : SubscriptionDB) :
    RefundResult × SubscriptionDB :=
  if trimSpace requestId = "" then (.error (.inr .requestIdEmpty), db)
  else match failsAt fault [.begin, .selectRecord], db.preConsumeRecords.get? requestId with
    | some s, _ => (.error (.inl s), db)
    | none, none => (.error (.inr .recordNotFound), db)
    | none, some record =>
      if record.status = .refunded then
        ((failsAt fault [.commit]).elim (.ok ()) fun s => .error (.inl s), db)
      else
        match if record.preConsumed ≤ 0 then (.ok (), db)
          else giveBack fault requestId record.userSubscriptionId (-record.preConsumed) db with
        | (.error e, db) => (.error e, db)
        | (.ok _, db) =>
          match failsAt fault [.saveRecord, .commit] with
          | some s => (.error (.inl s), db)
          | none => (.ok (), (markRefunded requestId db).2)

/-- The loop of `refundWithRetry`: the first attempt, and the others while there is an error. -/
def refundAttempts (requestId : String) (fault : Option RefundStatement) :
    List (Option RefundStatement) → SubscriptionDB → RefundResult × SubscriptionDB
  | [], db => refundAttempt fault requestId db
  | next :: faults, db =>
    match refundAttempt fault requestId db with
    | (.ok _, db) => (.ok (), db)
    | (.error _, db) => refundAttempts requestId next faults db

/-- `refundWithRetry` has `maxAttempts = 3`. -/
def refundWithRetry (requestId : String) (first second third : Option RefundStatement) :
    SubscriptionDB → RefundResult × SubscriptionDB :=
  refundAttempts requestId first [second, third]

end Desktop2Stereo
