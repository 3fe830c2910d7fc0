import Desktop2Stereo.Lib.GoText
import Desktop2Stereo.Lib.Runs
import Desktop2Stereo.Lib.Txn

/-!
# Desktop2Stereo: one-time authentication flows

The rows of `auth_flows`: the flows that a token opens, and the provider assertions that have been seen. Every
call is one transaction. The clock is in nanoseconds and never goes back. An action runs in the transaction of
the flow it consumes; it may claim assertions there and work on the other tables, and it may fail.
-/

namespace Desktop2Stereo

open Relational GoText

/-! ## Rows -/

/-- `24 * time.Hour` -/
def authFlowDefaultCleanupRetention : ℤ := 24 * 3600 * 1000000000

def zeroTime : ℤ := -62135596800 * 1000000000

inductive AuthFlowError where
  | invalid
  | expired
  | consumed
  | duplicateKey
  | action (message : String)
  deriving DecidableEq

def AuthFlowError.message : AuthFlowError → String
  | .invalid => "auth flow is invalid"
  | .expired => "auth flow has expired"
  | .consumed => "auth flow has already been consumed"
  | .duplicateKey => "duplicated key not allowed"
  | .action message => message

instance : StoreError AuthFlowError := ⟨.duplicateKey⟩

structure AuthFlow where
  id : ℕ
  tokenHash : String
  purpose : String
  provider : String := ""
  intent : String := ""
  userID : ℤ := 0
  sessionID : String := ""
  payload : String := ""
  createdAt : ℤ
  expiresAt : ℤ
  consumedAt : Option ℤ := none
  deriving DecidableEq

instance : Indexed AuthFlow ℕ := .ofKeys AuthFlow.id AuthFlow.tokenHash

structure AuthFlowCreate where
  purpose : String
  provider : String := ""
  intent : String := ""
  userID : ℤ := 0
  sessionID : String := ""
  payload : String := ""
  expiresAt : ℤ
  deriving DecidableEq

structure AuthFlowMatch where
  purpose : String
  provider : String := ""
  intent : String := ""
  userID : ℤ := 0
  sessionID : String := ""
  deriving DecidableEq

/-- `common.GenerateHMACWithKey` with the key of the authentication flows. -/
class AuthFlowKey where
  generateHMAC : String → String
  injective : Function.Injective generateHMAC

def authFlowTokenHash [AuthFlowKey] (token : String) : String := AuthFlowKey.generateHMAC token

/-- The columns that a match names agree with the row. -/
def AuthFlowMatch.Fits (m : AuthFlowMatch) (r : AuthFlow) : Prop :=
  r.purpose = m.purpose ∧ (m.provider ≠ "" → r.provider = m.provider) ∧ (m.intent ≠ "" → r.intent = m.intent) ∧
    (m.userID ≠ 0 → r.userID = m.userID) ∧ (m.sessionID ≠ "" → r.sessionID = m.sessionID)

instance (m : AuthFlowMatch) (r : AuthFlow) : Decidable (m.Fits r) := by unfold AuthFlowMatch.Fits; infer_instance

/-- The rows that `applyAuthFlowMatch` selects. -/
def applyAuthFlowMatch [AuthFlowKey] (token : String) (m : AuthFlowMatch) (r : AuthFlow) : Bool :=
  r.tokenHash = authFlowTokenHash token ∧ m.Fits r

/-! ## The database -/

/-- What a committed call did. -/
inductive AuthFlowEvent where
  | created (token : String) (flow : AuthFlow)
  /-- the action of `flow` was committed for the caller of `token` and `m` -/
  | acted (token : String) (m : AuthFlowMatch) (flow : AuthFlow) (now : ℤ)
  | accepted (purpose assertion : String) (expiresAt now : ℤ)
  deriving DecidableEq

/-- The table, the other tables `rest`, and the events of the calls that have committed. -/
structure AuthFlowDB (δ : Type) where
  flows : Table AuthFlow
  rest : δ
  nextID : ℕ
  clock : ℤ
  log : List AuthFlowEvent

def AuthFlowDB.init {δ : Type} (rest : δ) (now : ℤ) : AuthFlowDB δ := ⟨.empty, rest, 1, now, []⟩

/-- A step of an action, in the transaction that consumes the flow. -/
inductive AuthFlowWork (δ : Type) where
  | claim (purpose assertion : String) (expiresAt : ℤ)
  | work (f : δ → Except String δ)

abbrev AuthFlowAction (δ : Type) := AuthFlow → List (AuthFlowWork δ)

section Calls

variable {δ : Type} [AuthFlowKey]

abbrev AuthFlowTx (δ α : Type) := Txn (AuthFlowDB δ) AuthFlowError α

def authFlows : TableRef (AuthFlowDB δ) AuthFlow := ⟨AuthFlowDB.flows, fun s t => { s with flows := t }⟩

def timeNow : AuthFlowTx δ ℤ := do return (← get).clock

/-- Take a fresh id and note what the call did. -/
def noteInserted (e : AuthFlowEvent) : AuthFlowTx δ Unit :=
  modify fun s => { s with nextID := s.nextID + 1, log := s.log ++ [e] }

def note (e : AuthFlowEvent) : AuthFlowTx δ Unit := modify fun s => { s with log := s.log ++ [e] }

/-- `CreateAuthFlow` with the token that it drew. -/
def createAuthFlow (token : String) (input : AuthFlowCreate) : AuthFlowTx δ (String × AuthFlow) := do
  let now ← timeNow
  require (¬ (trimSpace input.purpose = "" ∨ input.expiresAt = zeroTime ∨ ¬ now < input.expiresAt)) .invalid
  let flow : AuthFlow :=
    { id := (← get).nextID, tokenHash := authFlowTokenHash token, purpose := input.purpose
      provider := input.provider, intent := input.intent, userID := input.userID, sessionID := input.sessionID
      payload := input.payload, createdAt := now, expiresAt := input.expiresAt }
  create authFlows flow
  noteInserted (.created token flow)
  return (token, flow)

def externalAssertionToken (purpose assertion : String) : String := "external:" ++ purpose ++ ":" ++ assertion

def claimExternalAuthAssertionWithTx (purpose assertion : String) (expiresAt : ℤ) : AuthFlowTx δ Unit := do
  let purpose := trimSpace purpose
  let assertion := trimSpace assertion
  let now ← timeNow
  require (¬ (purpose = "" ∨ assertion = "" ∨ ¬ now < expiresAt)) .invalid
  let hash := authFlowTokenHash (externalAssertionToken purpose assertion)
  let flow : AuthFlow :=
    { id := (← get).nextID, tokenHash := hash, purpose := purpose, createdAt := now, expiresAt := expiresAt
      consumedAt := some now }
  let inserted ← createIgnore authFlows (fun r => r.tokenHash = hash) flow
  require (inserted = true) .consumed
  noteInserted (.accepted purpose assertion expiresAt now)

def getAuthFlow (token : String) (m : AuthFlowMatch) : AuthFlowTx δ AuthFlow := do
  require (¬ (token = "" ∨ m.purpose = "")) .invalid
  let flow ← first authFlows (applyAuthFlowMatch token m) .invalid
  require (flow.consumedAt = none) .consumed
  require ((← timeNow) < flow.expiresAt) .expired
  return flow

/-- One step of an action. -/
def AuthFlowWork.perform : AuthFlowWork δ → AuthFlowTx δ Unit
  | .claim purpose assertion expiresAt => claimExternalAuthAssertionWithTx purpose assertion expiresAt
  | .work f => do
    let s ← get
    match f s.rest with
    | .ok rest => set { s with rest := rest }
    | .error message => throw (.action message)

/-- An action runs its steps until one fails. -/
def performAll : List (AuthFlowWork δ) → AuthFlowTx δ Unit
  | [] => pure ()
  | w :: ws => do
    w.perform
    performAll ws

def runAction (action : Option (AuthFlowAction δ)) (consumed : AuthFlow) : AuthFlowTx δ Unit :=
  match action with
  | some action => performAll (action consumed)
  | none => pure ()

/-- `UPDATE … SET consumed_at = now WHERE id = ? AND consumed_at IS NULL AND expires_at > now`, and how many rows
it changed. -/
def markConsumed (id : ℕ) (now : ℤ) : AuthFlowTx δ ℕ := do
  let pending : AuthFlow → Bool := fun r => r.id = id ∧ r.consumedAt = none ∧ now < r.expiresAt
  let rowsAffected ← count authFlows pending
  updates authFlows pending (fun r => { r with consumedAt := some now })
  return rowsAffected

def consumeAuthFlowWithAction (token : String) (m : AuthFlowMatch) (action : Option (AuthFlowAction δ)) :
    AuthFlowTx δ AuthFlow := do
  require (¬ (token = "" ∨ m.purpose = "")) .invalid
  let consumed ← first authFlows (applyAuthFlowMatch token m) .invalid
  require (consumed.consumedAt = none) .consumed
  let now ← timeNow
  require (now < consumed.expiresAt) .expired
  let rowsAffected ← markConsumed consumed.id now
  require (rowsAffected = 1) .consumed
  note (.acted token m consumed now)
  let consumed := { consumed with consumedAt := some now }
  runAction action consumed
  return consumed

def consumeAuthFlow (token : String) (m : AuthFlowMatch) : AuthFlowTx δ AuthFlow :=
  consumeAuthFlowWithAction token m none

def AuthFlow.Stale (cutoff : ℤ) (r : AuthFlow) : Prop :=
  r.expiresAt < cutoff ∨ ∃ t ∈ r.consumedAt, t < cutoff

instance (cutoff : ℤ) (r : AuthFlow) : Decidable (r.Stale cutoff) := by unfold AuthFlow.Stale; infer_instance

def deleteExpiredAuthFlows (now : ℤ) : AuthFlowTx δ Unit :=
  delete authFlows fun r => r.Stale (now - authFlowDefaultCleanupRetention)

/-! ## Calls and time -/

inductive AuthFlowCall (δ : Type) where
  | create (token : String) (input : AuthFlowCreate)
  | get (token : String) (m : AuthFlowMatch)
  | consume (token : String) (m : AuthFlowMatch) (action : Option (AuthFlowAction δ))
  | claim (purpose assertion : String) (expiresAt : ℤ)
  /-- the cleanup, with a time that it read `lag` before -/
  | cleanup (lag : ℕ)
  | tick (elapsed : ℕ)

def AuthFlowCall.transaction : AuthFlowCall δ → AuthFlowTx δ Unit
  | .create token input => createAuthFlow token input >>= fun _ => pure ()
  | .get token m => getAuthFlow token m >>= fun _ => pure ()
  | .consume token m action => consumeAuthFlowWithAction token m action >>= fun _ => pure ()
  | .claim purpose assertion expiresAt => claimExternalAuthAssertionWithTx purpose assertion expiresAt
  | .cleanup lag => do deleteExpiredAuthFlows ((← timeNow) - lag)
  | .tick elapsed => modify fun s => { s with clock := s.clock + elapsed }

/-- A call commits, or it leaves the database as it was. -/
def AuthFlowDB.step (s : AuthFlowDB δ) (c : AuthFlowCall δ) : AuthFlowDB δ :=
  match c.transaction.run s with
  | .ok (_, s') => s'
  | .error _ => s

end Calls

end Desktop2Stereo
