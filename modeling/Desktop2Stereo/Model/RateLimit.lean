import Mathlib

/-!
# Desktop2Stereo: rate limits

One limiter serves all middlewares. Each key has the times of its last accepted requests, oldest first, and a background
pass deletes the keys that have not been used for a while. Times and windows are in seconds.
-/

namespace Desktop2Stereo

structure InMemoryRateLimiter where
  store : String → Option (List ℤ) := fun _ => none
  expirationDuration : ℤ

namespace InMemoryRateLimiter

/-- `Init`: only the first call counts. -/
def init (l : Option InMemoryRateLimiter) (expirationDuration : ℤ) : InMemoryRateLimiter := l.getD { expirationDuration }

/-- `int64(l.expirationDuration.Seconds())` -/
def expirationSeconds (l : InMemoryRateLimiter) : ℤ := l.expirationDuration / 1000000000

/-- One pass of `clearExpiredItems`, which is started for a positive duration. -/
def clearExpiredItems (now : ℤ) (l : InMemoryRateLimiter) : InMemoryRateLimiter :=
  { l with store := fun key => (l.store key).filter fun queue =>
      queue.getLast?.any fun last => now - last ≤ l.expirationSeconds }

/-- `Request`: a full queue is one that is not empty, as a limit is positive. -/
def request (key : String) (maxRequestNum duration now : ℤ) (l : InMemoryRateLimiter) : Bool × InMemoryRateLimiter :=
  let set queue := { l with store := Function.update l.store key (some queue) }
  match l.store key with
  | none => (true, set [now])
  | some queue =>
    if queue.length < maxRequestNum then (true, set (queue ++ [now]))
    else if duration ≤ now - queue.headD 0 then (true, set (queue.tail ++ [now]))
    else (false, l)

end InMemoryRateLimiter

/-! ## The success limit of model requests -/

/-- Without the cut at the largest `int64`. -/
def rateLimitDurationSeconds (durationMinutes : ℕ) : ℤ := durationMinutes * 60

/-- A list in Redis, newest first, and the second at which its key expires. -/
structure RedisList where
  items : List ℤ
  expireAt : ℤ

def RedisList.live (now : ℤ) (key : Option RedisList) : Option RedisList := key.filter fun list => now < list.expireAt

def checkRedisRateLimit (maxCount : ℕ) (duration : ℤ) (durationMinutes : ℕ) (now : ℤ) (key : Option RedisList) :
    Bool × Option RedisList :=
  if maxCount = 0 then (true, key)
  else match RedisList.live now key with
    | none => (true, none)
    | some list =>
      if list.items.length < maxCount then (true, some list)
      else if now - list.items.getLastD 0 < duration then
        (false, some { list with expireAt := now + durationMinutes * 60 })
      else (true, some list)

def recordRedisRequest (maxCount durationMinutes : ℕ) (now : ℤ) (key : Option RedisList) : Option RedisList :=
  if maxCount = 0 then key
  else
    let items := now :: (RedisList.live now key).elim [] (·.items)
    some { items := items.take maxCount, expireAt := now + durationMinutes * 60 }

/-- A request of a user: its time, and whether its status is below 400. -/
structure ModelRequest where
  now : ℤ
  succeeds : Bool := true

/-- `redisRateLimitHandler` without a total limit, on the key of the user's successes. -/
def redisRateLimitHandler (duration : ℤ) (durationMinutes successMaxCount : ℕ) (key : Option RedisList)
    (r : ModelRequest) : Bool × Option RedisList :=
  let (allowed, key) := checkRedisRateLimit successMaxCount duration durationMinutes r.now key
  (allowed, if allowed ∧ r.succeeds then recordRedisRequest successMaxCount durationMinutes r.now key else key)

def successKey (userId : String) : String := "MRRLS" ++ userId

def checkKey (userId : String) : String := successKey userId ++ "_check"

/-- `memoryRateLimitHandler` without a total limit. -/
def memoryRateLimitHandler (userId : String) (duration : ℤ) (successMaxCount : ℕ) (l : InMemoryRateLimiter)
    (r : ModelRequest) : Bool × InMemoryRateLimiter :=
  let (allowed, l) := l.request (checkKey userId) successMaxCount duration r.now
  (allowed, if allowed ∧ r.succeeds then (l.request (successKey userId) successMaxCount duration r.now).2 else l)

end Desktop2Stereo
