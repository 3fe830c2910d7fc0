import Desktop2Stereo.Lib.GoText

/-!
# The price of a task

`ResolveOriginTask` presets ratios for a remix; `RelayTaskSubmit` rebuilds the price, merges the ratios that the adaptor
estimates, applies them and charges in advance, once. Tiered prices are left out, and floats are rational numbers.
-/

namespace Desktop2Stereo.TaskPricing

open GoText

/-- The fields of `types.PriceData` that a task has. -/
structure PriceData where
  freeModel : Bool := false
  modelPrice : ℚ := 0
  modelRatio : ℚ := 0
  usePrice : Bool := false
  quota : ℤ := 0
  otherRatios : List (String × ℚ) := []
  deriving DecidableEq

def isValidOtherRatio (ratio : ℚ) : Bool := 0 < ratio

/-- `AddOtherRatio`, on the map of the ratios -/
def addOtherRatio (otherRatios : List (String × ℚ)) (entry : String × ℚ) : List (String × ℚ) :=
  if isValidOtherRatio entry.2 then otherRatios.filter (·.1 ≠ entry.1) ++ [entry] else otherRatios

/-- `OtherRatioMultiplier` -/
def otherRatioMultiplier (otherRatios : List (String × ℚ)) : ℚ :=
  ((otherRatios.map Prod.snd).filter fun ratio => isValidOtherRatio ratio && ratio ≠ 1).prod

/-! ## The origin of a remix -/

def maxTaskDurationSeconds : ℤ := 3600

/-- The number that `strconv.Atoi` returns, zero for what is none; what is out of range is cut off later. -/
def atoi (s : String) : ℤ :=
  match s.toList with
  | '-' :: digits => -((digitsValue digits).getD 0 : ℕ)
  | '+' :: digits | digits => ((digitsValue digits).getD 0 : ℕ)

/-- What a remix reads of its origin: `BillingContext.OtherRatios`, or the texts in the data. -/
structure OriginTask where
  billingContext : Option (List (String × ℚ)) := none
  seconds : String := ""
  size : String := ""

/-- The ratios that `ResolveOriginTask` adds, in this order. -/
def OriginTask.ratios (t : OriginTask) : List (String × ℚ) :=
  match t.billingContext with
  | some otherRatios => otherRatios
  | none =>
    let seconds : ℤ := if atoi t.seconds ≤ 0 then 4 else min (atoi t.seconds) maxTaskDurationSeconds
    let large := t.size = "1792x1024" ∨ t.size = "1024x1792"
    [("seconds", (seconds : ℚ)), ("size", 1)] ++ if large then [("size", (1666667 / 1000000 : ℚ))] else []

/-- The relay info of a submission; `billing` is what was charged in advance. -/
structure RelayInfo where
  priceData : PriceData := {}
  billing : Option ℤ := none
  deriving DecidableEq

def RelayInfo.addOtherRatios (info : RelayInfo) (entries : List (String × ℚ)) : RelayInfo :=
  { info with priceData.otherRatios := entries.foldl addOtherRatio info.priceData.otherRatios }

/-- `ResolveOriginTask`, as far as it sets the price. -/
def resolveOriginTask (origin : OriginTask) (info : RelayInfo) : RelayInfo := info.addOtherRatios origin.ratios

/-! ## The price of an attempt -/

def maxQuota : ℤ := 2 ^ 31 - 1

def minQuota : ℤ := -2 ^ 31

def quotaPerUnit : ℚ := 500000

/-- `int(value)` -/
def truncate (value : ℚ) : ℤ := value.num.tdiv value.den

/-- `QuotaFromFloatChecked`, with whether the value was clamped -/
def quotaFromFloatChecked (value : ℚ) : ℤ × Bool :=
  if maxQuota < value then (maxQuota, true) else if value < minQuota then (minQuota, true) else (truncate value, false)

inductive PriceErr
  | quotaClamp
  | modelPriceNotConfigured
  | pluginUsageInvalid
  | preConsume
  deriving DecidableEq

def quotaFromFloatStrict (value : ℚ) : Except PriceErr ℤ :=
  if (quotaFromFloatChecked value).2 then .error .quotaClamp else .ok (quotaFromFloatChecked value).1

/-- What an attempt finds: the settings for its model and group, and what the adaptor estimates. -/
structure Attempt where
  modelPrice : Option ℚ := none
  defaultModelPrice : Option ℚ := none
  modelRatio : Option ℚ := none
  unsetRatio : ℚ := 0
  acceptUnsetRatioModel : Bool := false
  groupRatio : ℚ := 1
  enableFreeModelPreConsume : Bool := true
  /-- the model is in `TaskPricePatches` -/
  pricePatched : Bool := false
  /-- `EstimateBilling`; `none` where its validation fails -/
  estimateBilling : Option (List (String × ℚ)) := some []
  /-- `PreConsumeBilling` succeeds -/
  preConsumes : Bool := true

def modelPriceHelperPerCall (a : Attempt) : Except PriceErr PriceData := do
  let free (x : ℚ) : Bool := !a.enableFreeModelPreConsume && (a.groupRatio == 0 || x == 0)
  match a.modelPrice.or a.defaultModelPrice with
  | some modelPrice =>
    let quota ← quotaFromFloatStrict (modelPrice * quotaPerUnit * a.groupRatio)
    return { freeModel := free modelPrice, modelPrice, usePrice := true
             quota := if free modelPrice then 0 else quota }
  | none =>
    if a.modelRatio = none ∧ a.acceptUnsetRatioModel = false then throw .modelPriceNotConfigured
    let modelRatio := a.modelRatio.getD a.unsetRatio
    let quota ← quotaFromFloatStrict (modelRatio / 2 * quotaPerUnit * a.groupRatio)
    return { freeModel := free modelRatio, modelPrice := -1, modelRatio
             quota := if free modelRatio then 0 else quota }

/-- The steps 4 to 7 of `RelayTaskSubmit`. A step that fails leaves what the steps before it have set. -/
def priceTask (info : RelayInfo) (a : Attempt) : Except PriceErr Unit × RelayInfo :=
  match modelPriceHelperPerCall a with
  | .error e => (.error e, info)
  | .ok priceData =>
    let info := { info with priceData }
    match a.estimateBilling with
    | none => (.error .pluginUsageInvalid, info)
    | some estimatedRatios =>
      let info := info.addOtherRatios estimatedRatios
      let info := if a.pricePatched then info else { info with priceData.quota :=
        (quotaFromFloatChecked (info.priceData.quota * otherRatioMultiplier info.priceData.otherRatios)).1 }
      if info.billing = none ∧ info.priceData.freeModel = false then
        if a.preConsumes then (.ok (), { info with billing := some info.priceData.quota }) else (.error .preConsume, info)
      else (.ok (), info)

end Desktop2Stereo.TaskPricing
