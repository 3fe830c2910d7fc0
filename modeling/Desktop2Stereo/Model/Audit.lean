import Desktop2Stereo.Model.Rows

/-!
# Desktop2Stereo: audit records

The two append-only trails that the modelled operations write: the user action log
(`recordD2SUserAction`) and the administrators' operation audit (`createD2SAdminOperationAudit`).
-/

namespace Desktop2Stereo

open Relational GoText

/-- `truncateD2SText`: drop runes from the end until the text fits. -/
def truncateD2SText (value : String) (maxBytes : ℕ) : String :=
  String.ofList (shrink maxBytes value.toList.reverse).reverse

def normalizeEmail (email : String) : String := toLower (trimSpace email)

def validD2SPort (port : Option ℤ) : Option ℤ := port.filter fun p => 1 ≤ p ∧ p ≤ 65535

def normalizeD2SFingerprint (value : Option String) : Option String :=
  (value.map fun v => toLower (trimSpace v)).filter fun f => byteLen f = 64 ∧ (hexDecode f).isSome

structure D2SActionLogInput where
  userID : Option ℤ
  email : String
  actionType : String
  eventTime : ℤ
  sourceIP : String
  sourcePort : Option ℤ
  destinationIP : Option String
  destinationPort : Option ℤ
  userAgent : String
  deviceFingerprint : Option String
  requestPath : String
  resultStatus : String

/-- The text that the record hash of an action log entry covers. -/
def d2sActionRecordHash [Digest] (userID : Option ℤ) (actionType : ActionType) (eventTime : ℤ)
    (sourceIP : String) (resultStatus : ActionResult) : String :=
  let user := (userID.map fun u => toString u).getD ""
  Digest.sha256Hex ("d2s-user-action-v1\x00" ++ user ++ "\x00" ++ actionType.code ++ "\x00" ++
    toString eventTime ++ "\x00" ++ trimSpace sourceIP ++ "\x00" ++ resultStatus.code)

def recordD2SUserAction [Digest] (e : Env) (input : D2SActionLogInput) : Tx Unit := do
  let actionType ← attempt (ActionType.ofName input.actionType) .actionTypeInvalid
  let resultStatus ← attempt (ActionResult.ofName input.resultStatus) .actionResultInvalid
  let eventTime := e.resolve input.eventTime
  let sourceIP := truncateD2SText (trimSpace input.sourceIP) 64
  create Tbl.actionLogs
    { id := e.auditID.val, userID := input.userID
      email := truncateD2SText (normalizeEmail input.email) 254
      actionType, eventTime, sourceIP
      sourcePort := validD2SPort input.sourcePort
      destinationIP := input.destinationIP.map (truncateD2SText · 64)
      destinationPort := validD2SPort input.destinationPort
      userAgent := truncateD2SText input.userAgent 512
      deviceFingerprint := normalizeD2SFingerprint input.deviceFingerprint
      requestPath := truncateD2SText input.requestPath 2048
      resultStatus
      recordHash := d2sActionRecordHash input.userID actionType eventTime sourceIP resultStatus }

def createD2SAdminOperationAudit (e : Env) (entry : D2SAdminOperationAudit) : Tx Unit := do
  require (0 < entry.operatorID ∧ trimSpace entry.operatorEmail ≠ "" ∧ trimSpace entry.operationType ≠ "")
    .auditInvalid
  let result := toUpper (trimSpace entry.result)
  create Tbl.adminAudits
    { id := if entry.id = "" then e.auditID.val else entry.id
      operatorID := entry.operatorID
      operatorEmail := truncateD2SText (normalizeEmail entry.operatorEmail) 254
      operationType := entry.operationType
      operationTime := e.resolve entry.operationTime
      targetResource := truncateD2SText entry.targetResource 255
      sourceIP := truncateD2SText entry.sourceIP 64
      result := if result = "" then "SUCCESS" else result
      detailsJSON := truncateD2SText entry.detailsJSON 8192 }

/-- The audit that a reviewed operation appends, at the operation's time. -/
def auditD2SReview (e : Env) (audit : Option D2SAdminOperationAudit) (now : ℤ) : Tx Unit :=
  match audit with
  | none => pure ()
  | some entry => createD2SAdminOperationAudit e { entry with operationTime := now }

/-- An audit entry, where there is one, names the administrator who acts. -/
def auditMatches (adminID : ℤ) (audit : Option D2SAdminOperationAudit) : Prop :=
  ∀ entry ∈ audit, 0 < adminID ∧ entry.operatorID = adminID

instance (adminID : ℤ) (audit : Option D2SAdminOperationAudit) : Decidable (auditMatches adminID audit) := by
  unfold auditMatches; infer_instance

end Desktop2Stereo
