import Desktop2Stereo.Model.Users

/-!
# Desktop2Stereo: the wallet of a user

The quota of a user stands in a row and, while the hash of the user lives, in a field of the hash. A reservation
is taken from the hash when it is there, and then written to the row; a credit is written to the row, and then
added to the hash in the background. Batch updates are off.
-/

namespace Desktop2Stereo

open Relational Concurrent Expiring

variable {ρ : Type}

def maxWalletQuota : ℤ := 2 ^ 53 - 1

inductive CacheQuotaResult
  | insufficient | ok | miss
  deriving DecidableEq

/-- The quota in the hash of a user, where the scripts accept the hash. -/
def Store.cachedQuota (s : Store) (userID : ℤ) : Option (UserHash × ℤ) :=
  (s.userHash userID).bind fun h =>
    if h.id ≠ userID ∨ h.cacheSchema ≠ userCacheSchemaVersion then none else h.quota.map fun q => (h, q)

def Store.setCachedQuota (s : Store) (userID : ℤ) (h : UserHash) (quota : ℤ) : Store :=
  s.setUserHash userID ((s.userHashes userID).put s.ms { h with quota := some quota })

/-- Change the quota of a row. -/
def Store.addQuota (s : Store) (userID delta : ℤ) : Store :=
  let users := s.db.users.modify (·.id = userID) (fun u => { u with quota := u.quota + delta }) fun _ => rfl
  { s with db := { s.db with users } }

/-- Add to a history of a wallet. -/
def bump (f : ℤ → ℤ) (userID delta : ℤ) : ℤ → ℤ := Function.update f userID (f userID + delta)

@[simp] theorem bump_self (f : ℤ → ℤ) (userID delta : ℤ) : bump f userID delta userID = f userID + delta :=
  Function.update_self ..

theorem bump_of_ne (f : ℤ → ℤ) {userID o : ℤ} (delta : ℤ) (h : o ≠ userID) : bump f userID delta o = f o :=
  Function.update_of_ne h _ _

@[simp] theorem bump_bump (f : ℤ → ℤ) (userID a b : ℤ) : bump (bump f userID a) userID b = bump f userID (a + b) := by
  unfold bump
  rw [Function.update_idem, Function.update_self, add_assoc]

@[simp] theorem bump_zero (f : ℤ → ℤ) (userID : ℤ) : bump f userID 0 = f := by
  unfold bump
  rw [add_zero, Function.update_eq_self]

/-! ## Scripts and statements -/

/-- `userQuotaReserveScript` -/
def evalReserveQuota (userID amount : ℤ) (s : Store) : CacheQuotaResult × Store :=
  match s.cachedQuota userID with
  | none => (.miss, s)
  | some (h, quota) =>
    if quota < amount then (.insufficient, s)
    else (.ok, { s.setCachedQuota userID h (quota - amount) with
      inFlight := bump s.inFlight userID amount, reserved := bump s.reserved userID amount })

/-- `userQuotaDeltaScript` -/
def evalQuotaDelta (userID delta : ℤ) (s : Store) : CacheQuotaResult × Store :=
  match s.cachedQuota userID with
  | none => (.miss, s)
  | some (h, quota) => (.ok, s.setCachedQuota userID h (quota + delta))

def reserveUserQuotaDB (userID quota : ℤ) (s : Store) : Bool × Store :=
  match s.db.users.get? userID with
  | none => (false, s)
  | some u =>
    if quota ≤ u.quota then (true, { s.addQuota userID (-quota) with reserved := bump s.reserved userID quota })
    else (false, s)

/-- `persistUserQuotaDelta` of a reservation. -/
def persistUserQuotaDelta (userID quota : ℤ) (s : Store) : Bool × Store :=
  match s.db.users.get? userID with
  | none => (false, s)
  | some _ => (true, { s.addQuota userID (-quota) with inFlight := bump s.inFlight userID (-quota) })

/-- The compensation of a reservation whose row is gone. -/
def compensateQuota (userID quota : ℤ) (s : Store) : CacheQuotaResult × Store :=
  let r := evalQuotaDelta userID quota s
  (r.1, { r.2 with
    inFlight := bump s.inFlight userID (-quota), reserved := bump s.reserved userID (-quota) })

/-- The update of `increaseUserQuota`. -/
def creditUserQuotaDB (userID quota : ℤ) (s : Store) : Bool × Store :=
  match s.db.users.get? userID with
  | none => (false, s)
  | some u =>
    if u.quota ≤ maxWalletQuota - quota then
      (true, { s.addQuota userID quota with
        uncredited := bump s.uncredited userID quota, credited := bump s.credited userID quota })
    else (false, s)

/-- The background increment of a credit. -/
def cacheIncrUserQuota (userID quota : ℤ) (s : Store) : CacheQuotaResult × Store :=
  let r := evalQuotaDelta userID quota s
  (r.1, { r.2 with uncredited := bump s.uncredited userID (-quota) })

/-! ## Calls -/

section Calls

variable [Settings]

/-- `cacheTryReserveUserQuota`, once more after a hydration where the hash had no quota. -/
def cacheTryReserveUserQuota (userID quota : ℤ) : Action ρ CacheQuotaResult := do
  match ← touch (evalReserveQuota userID quota) with
  | .miss =>
    match ← getUserCache userID with
    | .ok _ => touch (evalReserveQuota userID quota)
    | .error _ => return .miss
  | result => return result

def tryReserveUserQuota (userID quota : ℤ) : Action ρ (Except AuthErr Bool) := do
  if quota < 0 then return .error .quotaNegative
  if quota = 0 then return .ok true
  match ← cacheTryReserveUserQuota userID quota with
  | .miss => return .ok (← access (.reserveDB userID quota) (reserveUserQuotaDB userID quota))
  | .insufficient => return .ok false
  | .ok =>
    if ← touch (persistUserQuotaDelta userID quota) then return .ok true
    else
      let _ ← touch (compensateQuota userID quota)
      return .error .recordNotFound

omit [Settings] in
def increaseUserQuota (userID quota : ℤ) : Action ρ (Except AuthErr Unit) := do
  if quota < 0 then return .error .quotaNegative
  if maxWalletQuota < quota then return .error .walletQuotaLimit
  if ← touch (creditUserQuotaDB userID quota) then
    spawn do
      let _ ← touch (cacheIncrUserQuota userID quota)
      return ()
    return .ok ()
  else
    if (← look (·.db.users.get? userID)).isNone then return .error .recordNotFound
    else return .error .walletQuotaExceeded

end Calls

end Desktop2Stereo
