import Desktop2Stereo.Lib.GoText

/-!
# Desktop2Stereo: token usage and its billing snapshot

The usage reports of the four dialects and the billing snapshot that travels with them. A payload inside a
snapshot never carries a snapshot of its own (`cloneOpenAIUsage`, `cloneClaudeUsage` and
`cloneGeminiUsageMetadata` drop it), so the payloads are the reports without that field.
-/

namespace Desktop2Stereo.Accounting

open GoText

/-! ## Reports -/

structure InputTokenDetails where
  cachedTokens : ℤ := 0
  cachedCreationTokens : ℤ := 0
  cacheWriteTokens : ℤ := 0
  textTokens : ℤ := 0
  audioTokens : ℤ := 0
  imageTokens : ℤ := 0
  deriving DecidableEq

structure OutputTokenDetails where
  textTokens : ℤ := 0
  audioTokens : ℤ := 0
  imageTokens : ℤ := 0
  reasoningTokens : ℤ := 0
  deriving DecidableEq

inductive Cost where
  | number (n : ℚ)
  | text (s : String)
  | flag (b : Bool)
  | compound (json : String)
  deriving DecidableEq

/-- `reflect.ValueOf(cost).IsZero()` -/
def Cost.IsZero : Cost → Prop
  | .number n => n = 0
  | .text s => s = ""
  | .flag b => b = false
  | .compound _ => False

instance : DecidablePred Cost.IsZero
  | .number n => inferInstanceAs (Decidable (n = 0))
  | .text s => inferInstanceAs (Decidable (s = ""))
  | .flag b => inferInstanceAs (Decidable (b = false))
  | .compound _ => inferInstanceAs (Decidable False)

/-- `Usage` without its snapshot. -/
structure UsageCounts where
  promptTokens : ℤ := 0
  completionTokens : ℤ := 0
  totalTokens : ℤ := 0
  promptCacheHitTokens : ℤ := 0
  usageSemantic : String := ""
  usageSource : String := ""
  promptTokensDetails : InputTokenDetails := {}
  completionTokenDetails : OutputTokenDetails := {}
  inputTokens : ℤ := 0
  outputTokens : ℤ := 0
  inputTokensDetails : Option InputTokenDetails := none
  claudeCacheCreation5mTokens : ℤ := 0
  claudeCacheCreation1hTokens : ℤ := 0
  cost : Option Cost := none
  deriving DecidableEq

structure ClaudeCacheCreationUsage where
  ephemeral5mInputTokens : ℤ := 0
  ephemeral1hInputTokens : ℤ := 0
  deriving DecidableEq

structure ClaudeServerToolUse where
  webSearchRequests : ℤ := 0
  webFetchRequests : ℤ := 0
  codeExecutionRequests : ℤ := 0
  toolSearchRequests : ℤ := 0
  deriving DecidableEq

/-- `ClaudeUsage` without its snapshot. -/
structure ClaudeCounts where
  inputTokens : ℤ := 0
  cacheCreationInputTokens : ℤ := 0
  cacheReadInputTokens : ℤ := 0
  outputTokens : ℤ := 0
  cacheCreation : Option ClaudeCacheCreationUsage := none
  claudeCacheCreation5mTokens : ℤ := 0
  claudeCacheCreation1hTokens : ℤ := 0
  serverToolUse : Option ClaudeServerToolUse := none
  deriving DecidableEq

structure GeminiPromptTokensDetails where
  modality : String
  tokenCount : ℤ
  deriving DecidableEq

/-- `GeminiUsageMetadata` without its snapshot. -/
structure GeminiCounts where
  promptTokenCount : ℤ := 0
  toolUsePromptTokenCount : ℤ := 0
  candidatesTokenCount : ℤ := 0
  totalTokenCount : ℤ := 0
  thoughtsTokenCount : ℤ := 0
  cachedContentTokenCount : ℤ := 0
  promptTokensDetails : List GeminiPromptTokensDetails := []
  toolUsePromptTokensDetails : List GeminiPromptTokensDetails := []
  candidatesTokensDetails : List GeminiPromptTokensDetails := []
  deriving DecidableEq

structure BillingUsage where
  source : String := ""
  semantic : String := ""
  estimated : Bool := false
  openAIUsage : Option UsageCounts := none
  claudeUsage : Option ClaudeCounts := none
  geminiUsageMetadata : Option GeminiCounts := none
  deriving DecidableEq

structure Usage extends UsageCounts where
  billingUsage : Option BillingUsage := none
  deriving DecidableEq

structure ClaudeUsage extends ClaudeCounts where
  billingUsage : Option BillingUsage := none
  deriving DecidableEq

structure GeminiUsageMetadata extends GeminiCounts where
  billingUsage : Option BillingUsage := none
  deriving DecidableEq

/-! ## Whether a report says anything -/

def InputTokenDetails.IsZero (d : InputTokenDetails) : Prop :=
  d.cachedTokens = 0 ∧ d.cachedCreationTokens = 0 ∧ d.cacheWriteTokens = 0 ∧ d.textTokens = 0 ∧ d.imageTokens = 0 ∧
    d.audioTokens = 0

instance (d : InputTokenDetails) : Decidable d.IsZero := by unfold InputTokenDetails.IsZero; infer_instance

def OutputTokenDetails.IsZero (d : OutputTokenDetails) : Prop :=
  d.reasoningTokens = 0 ∧ d.textTokens = 0 ∧ d.imageTokens = 0 ∧ d.audioTokens = 0

instance (d : OutputTokenDetails) : Decidable d.IsZero := by unfold OutputTokenDetails.IsZero; infer_instance

def hasOpenAIUsageTokens (u : UsageCounts) : Bool :=
  u.promptTokens ≠ 0 || u.completionTokens ≠ 0 || u.totalTokens ≠ 0 || u.inputTokens ≠ 0 || u.outputTokens ≠ 0 ||
    u.promptCacheHitTokens ≠ 0 || u.claudeCacheCreation5mTokens ≠ 0 || u.claudeCacheCreation1hTokens ≠ 0 ||
    !decide u.promptTokensDetails.IsZero || !decide u.completionTokenDetails.IsZero ||
    u.inputTokensDetails.any fun d => !decide d.IsZero

def hasClaudeUsageTokens (u : ClaudeCounts) : Bool :=
  u.inputTokens ≠ 0 || u.outputTokens ≠ 0 || u.cacheCreationInputTokens ≠ 0 || u.cacheReadInputTokens ≠ 0 ||
    u.claudeCacheCreation5mTokens ≠ 0 || u.claudeCacheCreation1hTokens ≠ 0 ||
    u.cacheCreation.any fun c => c.ephemeral5mInputTokens ≠ 0 || c.ephemeral1hInputTokens ≠ 0

def hasGeminiUsageMetadataTokens (m : GeminiCounts) : Bool :=
  m.promptTokenCount ≠ 0 || m.toolUsePromptTokenCount ≠ 0 || m.candidatesTokenCount ≠ 0 || m.totalTokenCount ≠ 0 ||
    m.thoughtsTokenCount ≠ 0 || m.cachedContentTokenCount ≠ 0 || m.promptTokensDetails.any (·.tokenCount ≠ 0) ||
    m.toolUsePromptTokensDetails.any (·.tokenCount ≠ 0) || m.candidatesTokensDetails.any (·.tokenCount ≠ 0)

/-! ## Snapshots -/

def billingUsageSourceClaudeMessages : String := "claude_messages"
def billingUsageSourceGeminiChat : String := "gemini_chat"
def billingUsageSourceOAIChat : String := "oai_chat"
def billingUsageSourceOAIResponses : String := "oai_responses"
def billingUsageSemanticAnthropic : String := "anthropic"
def billingUsageSemanticGemini : String := "gemini"
def billingUsageSemanticOpenAI : String := "openai"

def newOpenAIBillingUsage (source : String) (u : UsageCounts) : Option BillingUsage :=
  if hasOpenAIUsageTokens u then
    some { source := source, semantic := billingUsageSemanticOpenAI, openAIUsage := some u }
  else none

def newOpenAIChatBillingUsage (u : UsageCounts) : Option BillingUsage :=
  newOpenAIBillingUsage billingUsageSourceOAIChat u

def newOpenAIResponsesBillingUsage (u : UsageCounts) : Option BillingUsage :=
  newOpenAIBillingUsage billingUsageSourceOAIResponses u

def newClaudeMessagesBillingUsage (u : ClaudeCounts) : Option BillingUsage :=
  if hasClaudeUsageTokens u then
    some { source := billingUsageSourceClaudeMessages, semantic := billingUsageSemanticAnthropic
           claudeUsage := some u }
  else none

def newGeminiChatBillingUsage (m : GeminiCounts) : Option BillingUsage :=
  if hasGeminiUsageMetadataTokens m then
    some { source := billingUsageSourceGeminiChat, semantic := billingUsageSemanticGemini
           geminiUsageMetadata := some m }
  else none

/-! ## Merging -/

/-- A later positive count replaces the current one. -/
def overlay (current incoming : ℤ) : ℤ := if incoming > 0 then incoming else current

def overlayText (current incoming : String) : String := if incoming ≠ "" then incoming else current

def raiseTotal (total parts : ℤ) : ℤ := if parts > total then parts else total

def mergeInputTokenDetails (current incoming : InputTokenDetails) : InputTokenDetails where
  cachedTokens := overlay current.cachedTokens incoming.cachedTokens
  cachedCreationTokens := overlay current.cachedCreationTokens incoming.cachedCreationTokens
  cacheWriteTokens := overlay current.cacheWriteTokens incoming.cacheWriteTokens
  textTokens := overlay current.textTokens incoming.textTokens
  audioTokens := overlay current.audioTokens incoming.audioTokens
  imageTokens := overlay current.imageTokens incoming.imageTokens

def mergeOutputTokenDetails (current incoming : OutputTokenDetails) : OutputTokenDetails where
  textTokens := overlay current.textTokens incoming.textTokens
  audioTokens := overlay current.audioTokens incoming.audioTokens
  imageTokens := overlay current.imageTokens incoming.imageTokens
  reasoningTokens := overlay current.reasoningTokens incoming.reasoningTokens

/-- Some count of the details is positive. -/
def InputTokenDetails.Reports (d : InputTokenDetails) : Prop :=
  d.cachedTokens > 0 ∨ d.cachedCreationTokens > 0 ∨ d.cacheWriteTokens > 0 ∨ d.textTokens > 0 ∨ d.audioTokens > 0 ∨
    d.imageTokens > 0

instance (d : InputTokenDetails) : Decidable d.Reports := by unfold InputTokenDetails.Reports; infer_instance

def mergeOptionalDetails (current incoming : Option InputTokenDetails) : Option InputTokenDetails :=
  match incoming with
  | none => current
  | some d => if d.Reports then some (mergeInputTokenDetails (current.getD {}) d) else current

def mergeCost (current incoming : Option Cost) : Option Cost :=
  match incoming with
  | none => current
  | some c => if c.IsZero then current else some c

/-- `MergeUsageNonZero` on everything but the snapshot. -/
def mergeUsageCounts (current incoming : UsageCounts) : UsageCounts :=
  let promptTokens := overlay current.promptTokens incoming.promptTokens
  let completionTokens := overlay current.completionTokens incoming.completionTokens
  let inputTokens := overlay current.inputTokens incoming.inputTokens
  let outputTokens := overlay current.outputTokens incoming.outputTokens
  { promptTokens := promptTokens
    completionTokens := completionTokens
    totalTokens := raiseTotal (raiseTotal (overlay current.totalTokens incoming.totalTokens)
      (promptTokens + completionTokens)) (inputTokens + outputTokens)
    promptCacheHitTokens := overlay current.promptCacheHitTokens incoming.promptCacheHitTokens
    usageSemantic := overlayText current.usageSemantic incoming.usageSemantic
    usageSource := overlayText current.usageSource incoming.usageSource
    promptTokensDetails := mergeInputTokenDetails current.promptTokensDetails incoming.promptTokensDetails
    completionTokenDetails := mergeOutputTokenDetails current.completionTokenDetails incoming.completionTokenDetails
    inputTokens := inputTokens
    outputTokens := outputTokens
    inputTokensDetails := mergeOptionalDetails current.inputTokensDetails incoming.inputTokensDetails
    claudeCacheCreation5mTokens :=
      overlay current.claudeCacheCreation5mTokens incoming.claudeCacheCreation5mTokens
    claudeCacheCreation1hTokens :=
      overlay current.claudeCacheCreation1hTokens incoming.claudeCacheCreation1hTokens
    cost := mergeCost current.cost incoming.cost }

def mergeServerToolUse (current incoming : Option ClaudeServerToolUse) : Option ClaudeServerToolUse :=
  match incoming with
  | none => current
  | some s =>
    let c := current.getD {}
    some { webSearchRequests := overlay c.webSearchRequests s.webSearchRequests
           webFetchRequests := overlay c.webFetchRequests s.webFetchRequests
           codeExecutionRequests := overlay c.codeExecutionRequests s.codeExecutionRequests
           toolSearchRequests := overlay c.toolSearchRequests s.toolSearchRequests }

/-- `MergeClaudeUsageNonZero` on everything but the snapshot. -/
def mergeClaudeCounts (current incoming : ClaudeCounts) : ClaudeCounts where
  inputTokens := overlay current.inputTokens incoming.inputTokens
  cacheCreationInputTokens := overlay current.cacheCreationInputTokens incoming.cacheCreationInputTokens
  cacheReadInputTokens := overlay current.cacheReadInputTokens incoming.cacheReadInputTokens
  outputTokens := overlay current.outputTokens incoming.outputTokens
  cacheCreation := incoming.cacheCreation <|> current.cacheCreation
  -- the flat fields follow the object, zeros included
  claudeCacheCreation5mTokens :=
    match incoming.cacheCreation with
    | some c => c.ephemeral5mInputTokens
    | none => overlay current.claudeCacheCreation5mTokens incoming.claudeCacheCreation5mTokens
  claudeCacheCreation1hTokens :=
    match incoming.cacheCreation with
    | some c => c.ephemeral1hInputTokens
    | none => overlay current.claudeCacheCreation1hTokens incoming.claudeCacheCreation1hTokens
  serverToolUse := mergeServerToolUse current.serverToolUse incoming.serverToolUse

def normalizeGeminiModality (modality : String) : String := toUpper (trimSpace modality)

/-- Add to the last entry of a modality, if there is one. -/
def addToModality (key : String) (n : ℤ) :
    List GeminiPromptTokensDetails → Option (List GeminiPromptTokensDetails)
  | [] => none
  | d :: ds =>
    match addToModality key n ds with
    | some ds' => some (d :: ds')
    | none =>
      if normalizeGeminiModality d.modality = key then some ({ d with tokenCount := d.tokenCount + n } :: ds) else none

def mergeGeminiTokenDetail (merged : List GeminiPromptTokensDetails) (detail : GeminiPromptTokensDetails) :
    List GeminiPromptTokensDetails :=
  if detail.tokenCount ≤ 0 then merged
  else (addToModality (normalizeGeminiModality detail.modality) detail.tokenCount merged).getD (merged ++ [detail])

def mergeGeminiTokenDetails (current incoming : List GeminiPromptTokensDetails) : List GeminiPromptTokensDetails :=
  incoming.foldl mergeGeminiTokenDetail current

/-- `MergeGeminiUsageMetadataNonZero` on everything but the snapshot, where there are counts already. -/
def mergeGeminiCounts (current incoming : GeminiCounts) : GeminiCounts :=
  let promptTokenCount := overlay current.promptTokenCount incoming.promptTokenCount
  let toolUsePromptTokenCount := overlay current.toolUsePromptTokenCount incoming.toolUsePromptTokenCount
  let candidatesTokenCount := overlay current.candidatesTokenCount incoming.candidatesTokenCount
  let thoughtsTokenCount :=
    if incoming.candidatesTokenCount > 0 then incoming.thoughtsTokenCount
    else overlay current.thoughtsTokenCount incoming.thoughtsTokenCount
  { promptTokenCount := promptTokenCount
    toolUsePromptTokenCount := toolUsePromptTokenCount
    candidatesTokenCount := candidatesTokenCount
    thoughtsTokenCount := thoughtsTokenCount
    totalTokenCount := raiseTotal (overlay current.totalTokenCount incoming.totalTokenCount)
      (promptTokenCount + toolUsePromptTokenCount + candidatesTokenCount + thoughtsTokenCount)
    cachedContentTokenCount := overlay current.cachedContentTokenCount incoming.cachedContentTokenCount
    promptTokensDetails := mergeGeminiTokenDetails current.promptTokensDetails incoming.promptTokensDetails
    toolUsePromptTokensDetails :=
      mergeGeminiTokenDetails current.toolUsePromptTokensDetails incoming.toolUsePromptTokensDetails
    candidatesTokensDetails :=
      mergeGeminiTokenDetails current.candidatesTokensDetails incoming.candidatesTokensDetails }

/-- A rune under `strings.EqualFold`, where it folds to ASCII: the Kelvin sign and the long `s` do. -/
def foldRune (c : Char) : Char :=
  if c.toNat = 0x212A then 'k' else if c.toNat = 0x17F then 's' else c.toLower

def equalFold (s t : String) : Bool := s.toList.map foldRune = t.toList.map foldRune

def sameBillingUsageDialect (current incoming : BillingUsage) : Bool :=
  (current.source = "" || incoming.source = "" || equalFold current.source incoming.source) &&
    (current.semantic = "" || incoming.semantic = "" || equalFold current.semantic incoming.semantic) &&
    (current.openAIUsage.isSome && incoming.openAIUsage.isSome ||
      current.claudeUsage.isSome && incoming.claudeUsage.isSome ||
      current.geminiUsageMetadata.isSome && incoming.geminiUsageMetadata.isSome)

/-- The payload of the first dialect that both snapshots have is merged. -/
def mergePayload (current incoming : BillingUsage) : BillingUsage :=
  match current.openAIUsage, incoming.openAIUsage with
  | some c, some i => { current with openAIUsage := some (mergeUsageCounts c i) }
  | _, _ =>
    match current.claudeUsage, incoming.claudeUsage with
    | some c, some i => { current with claudeUsage := some (mergeClaudeCounts c i) }
    | _, _ =>
      match current.geminiUsageMetadata, incoming.geminiUsageMetadata with
      | some c, some i => { current with geminiUsageMetadata := some (mergeGeminiCounts c i) }
      | _, _ => current

def mergeBillingUsageNonZero (current incoming : Option BillingUsage) : Option BillingUsage :=
  match current, incoming with
  | current, none => current
  | none, some incoming => some incoming
  | some current, some incoming =>
    if sameBillingUsageDialect current incoming then
      some { mergePayload current incoming with
             source := overlayText current.source incoming.source
             semantic := overlayText current.semantic incoming.semantic
             estimated := current.estimated || incoming.estimated }
    else some { incoming with estimated := current.estimated || incoming.estimated }

def mergeUsageNonZero (current incoming : Option Usage) : Usage :=
  let current := current.getD {}
  match incoming with
  | none => current
  | some incoming =>
    { mergeUsageCounts current.toUsageCounts incoming.toUsageCounts with
      billingUsage := mergeBillingUsageNonZero current.billingUsage incoming.billingUsage }

def mergeClaudeUsageNonZero (current incoming : Option ClaudeUsage) : ClaudeUsage :=
  let current := current.getD {}
  match incoming with
  | none => current
  | some incoming =>
    { mergeClaudeCounts current.toClaudeCounts incoming.toClaudeCounts with
      billingUsage := incoming.billingUsage <|> current.billingUsage }

def mergeGeminiUsageMetadataNonZero (current incoming : Option GeminiUsageMetadata) : Option GeminiUsageMetadata :=
  match current, incoming with
  | current, none => current
  | none, some incoming => some incoming
  | some current, some incoming =>
    some { mergeGeminiCounts current.toGeminiCounts incoming.toGeminiCounts with
           billingUsage := mergeBillingUsageNonZero current.billingUsage incoming.billingUsage }

/-! ## The canonical usage -/

def BillingUsage.canonicalOpenAIUsage (b : BillingUsage) (u : UsageCounts) : Usage :=
  let details :=
    match u.inputTokensDetails with
    | some filled => mergeInputTokenDetails filled u.promptTokensDetails
    | none => u.promptTokensDetails
  let details :=
    if details.cachedTokens = 0 ∧ u.promptCacheHitTokens > 0 then
      { details with cachedTokens := u.promptCacheHitTokens }
    else details
  let promptTokens := if u.promptTokens = 0 ∧ u.inputTokens > 0 then u.inputTokens else u.promptTokens
  let completionTokens := if u.completionTokens = 0 ∧ u.outputTokens > 0 then u.outputTokens else u.completionTokens
  { u with
    promptTokensDetails := details
    promptTokens := promptTokens
    completionTokens := completionTokens
    inputTokens := if u.inputTokens = 0 ∧ promptTokens > 0 then promptTokens else u.inputTokens
    outputTokens := if u.outputTokens = 0 ∧ completionTokens > 0 then completionTokens else u.outputTokens
    totalTokens := if u.totalTokens = 0 then promptTokens + completionTokens else u.totalTokens
    usageSemantic := billingUsageSemanticOpenAI
    usageSource := b.source
    billingUsage := some b }

def BillingUsage.canonicalClaudeUsage (b : BillingUsage) (u : ClaudeCounts) : Usage :=
  { promptTokens := u.inputTokens
    completionTokens := u.outputTokens
    totalTokens := u.inputTokens + u.outputTokens
    inputTokens := u.inputTokens + u.cacheReadInputTokens + u.cacheCreationInputTokens
    outputTokens := u.outputTokens
    usageSemantic := billingUsageSemanticAnthropic
    usageSource := billingUsageSourceClaudeMessages
    billingUsage := some b
    -- the flat fields count only where the report never carried the object
    claudeCacheCreation5mTokens := (u.cacheCreation.map (·.ephemeral5mInputTokens)).getD u.claudeCacheCreation5mTokens
    claudeCacheCreation1hTokens := (u.cacheCreation.map (·.ephemeral1hInputTokens)).getD u.claudeCacheCreation1hTokens
    promptTokensDetails :=
      { cachedTokens := u.cacheReadInputTokens, cachedCreationTokens := u.cacheCreationInputTokens } }

def addGeminiInputTokenDetail (details : InputTokenDetails) (d : GeminiPromptTokensDetails) : InputTokenDetails :=
  if normalizeGeminiModality d.modality = "AUDIO" then
    { details with audioTokens := details.audioTokens + d.tokenCount }
  else if normalizeGeminiModality d.modality = "IMAGE" then
    { details with imageTokens := details.imageTokens + d.tokenCount }
  else if normalizeGeminiModality d.modality = "TEXT" then
    { details with textTokens := details.textTokens + d.tokenCount }
  else details

def addGeminiOutputTokenDetail (details : OutputTokenDetails) (d : GeminiPromptTokensDetails) : OutputTokenDetails :=
  if normalizeGeminiModality d.modality = "IMAGE" then
    { details with imageTokens := details.imageTokens + d.tokenCount }
  else if normalizeGeminiModality d.modality = "AUDIO" then
    { details with audioTokens := details.audioTokens + d.tokenCount }
  else if normalizeGeminiModality d.modality = "TEXT" then
    { details with textTokens := details.textTokens + d.tokenCount }
  else details

def BillingUsage.canonicalGeminiUsage (b : BillingUsage) (m : GeminiCounts) : Usage :=
  let promptTokens := m.promptTokenCount + m.toolUsePromptTokenCount
  let completionTokens := m.candidatesTokenCount + m.thoughtsTokenCount
  let details := m.toolUsePromptTokensDetails.foldl addGeminiInputTokenDetail
    (m.promptTokensDetails.foldl addGeminiInputTokenDetail { cachedTokens := m.cachedContentTokenCount })
  { promptTokens := promptTokens
    totalTokens := if m.totalTokenCount = 0 then promptTokens + completionTokens else m.totalTokenCount
    completionTokens :=
      if m.totalTokenCount ≠ 0 ∧ completionTokens ≤ 0 then max (m.totalTokenCount - promptTokens) 0
      else completionTokens
    usageSemantic := billingUsageSemanticGemini
    usageSource := billingUsageSourceGeminiChat
    billingUsage := some b
    completionTokenDetails := m.candidatesTokensDetails.foldl addGeminiOutputTokenDetail
      { reasoningTokens := m.thoughtsTokenCount }
    promptTokensDetails :=
      if promptTokens > 0 ∧ details.textTokens = 0 ∧ details.audioTokens = 0 then
        { details with textTokens := promptTokens }
      else details }

def BillingUsage.canonicalUsage (b : BillingUsage) : Option Usage :=
  let source := trimSpace b.source
  let semantic := trimSpace b.semantic
  let openAI := b.openAIUsage.filter fun u => hasOpenAIUsageTokens u &&
    (equalFold source billingUsageSourceOAIChat || equalFold source billingUsageSourceOAIResponses ||
      equalFold semantic billingUsageSemanticOpenAI)
  let claude := b.claudeUsage.filter fun u => hasClaudeUsageTokens u &&
    (equalFold source billingUsageSourceClaudeMessages || equalFold semantic billingUsageSemanticAnthropic)
  let gemini := b.geminiUsageMetadata.filter fun m => hasGeminiUsageMetadataTokens m &&
    (equalFold source billingUsageSourceGeminiChat || equalFold semantic billingUsageSemanticGemini)
  openAI.map b.canonicalOpenAIUsage <|> claude.map b.canonicalClaudeUsage <|> gemini.map b.canonicalGeminiUsage

/-! ## Bridges between the dialects -/

def InputTokenDetails.cacheCreationTokensTotal (d : InputTokenDetails) : ℤ :=
  max (max d.cachedCreationTokens d.cacheWriteTokens) 0

def normalizeCacheCreationSplit (total tokens5m tokens1h : ℤ) : ℤ × ℤ :=
  let remainder := max (total - tokens5m - tokens1h) 0
  (tokens5m + remainder, tokens1h)

def ClaudeCounts.getCacheCreation5mTokens (u : ClaudeCounts) : ℤ :=
  (u.cacheCreation.map (·.ephemeral5mInputTokens)).getD 0

def ClaudeCounts.getCacheCreation1hTokens (u : ClaudeCounts) : ℤ :=
  (u.cacheCreation.map (·.ephemeral1hInputTokens)).getD 0

/-- `shared/claude.UsageFromOpenAI` -/
def usageFromOpenAI (u : Usage) : ClaudeUsage :=
  let anthropic := u.billingUsage.filter fun b =>
    b.source = billingUsageSourceClaudeMessages || b.semantic = billingUsageSemanticAnthropic
  match anthropic.bind (·.claudeUsage) with
  | some result => { result with billingUsage := u.billingUsage }
  | none =>
    let (cacheCreation5m, cacheCreation1h) := normalizeCacheCreationSplit u.promptTokensDetails.cachedCreationTokens
      u.claudeCacheCreation5mTokens u.claudeCacheCreation1hTokens
    let cacheCreationTokens := u.promptTokensDetails.cacheCreationTokensTotal
    { inputTokens :=
        if u.usageSemantic ≠ billingUsageSemanticAnthropic then
          max (u.promptTokens - u.promptTokensDetails.cachedTokens - cacheCreationTokens) 0
        else u.promptTokens
      outputTokens := u.completionTokens
      cacheCreationInputTokens := cacheCreationTokens
      cacheReadInputTokens := u.promptTokensDetails.cachedTokens
      billingUsage := u.billingUsage <|> newOpenAIChatBillingUsage u.toUsageCounts
      cacheCreation :=
        if cacheCreation5m > 0 ∨ cacheCreation1h > 0 then
          some { ephemeral5mInputTokens := cacheCreation5m, ephemeral1hInputTokens := cacheCreation1h }
        else none }

def cacheCreationTokensForOpenAIUsage (u : UsageCounts) : ℤ :=
  let split := u.claudeCacheCreation5mTokens + u.claudeCacheCreation1hTokens
  if split = 0 then u.promptTokensDetails.cachedCreationTokens
  else if u.promptTokensDetails.cachedCreationTokens > split then u.promptTokensDetails.cachedCreationTokens
  else split

/-- `buildOpenAIStyleUsageFromClaudeUsage` -/
def usageFromClaudeUsage (u : Usage) : Usage :=
  let split := normalizeCacheCreationSplit u.promptTokensDetails.cachedCreationTokens u.claudeCacheCreation5mTokens
    u.claudeCacheCreation1hTokens
  let cacheCreationTokens := cacheCreationTokensForOpenAIUsage u.toUsageCounts
  let totalInputTokens := u.promptTokens + u.promptTokensDetails.cachedTokens + cacheCreationTokens
  { u with
    claudeCacheCreation5mTokens := split.1
    claudeCacheCreation1hTokens := split.2
    promptTokensDetails := { u.promptTokensDetails with cacheWriteTokens := cacheCreationTokens }
    promptTokens := totalInputTokens
    inputTokens := totalInputTokens
    totalTokens := totalInputTokens + u.completionTokens
    usageSemantic := "openai"
    usageSource := "anthropic" }

def usageFromClaudeAPIUsage (u : ClaudeUsage) : Usage :=
  usageFromClaudeUsage
    { promptTokens := u.inputTokens
      completionTokens := u.outputTokens
      usageSemantic := "anthropic"
      usageSource := "anthropic"
      billingUsage := u.billingUsage <|> newClaudeMessagesBillingUsage u.toClaudeCounts
      promptTokensDetails :=
        { cachedTokens := u.cacheReadInputTokens, cachedCreationTokens := u.cacheCreationInputTokens }
      claudeCacheCreation5mTokens := u.getCacheCreation5mTokens
      claudeCacheCreation1hTokens := u.getCacheCreation1hTokens }

def usageFromChatUsage (src : Usage) : Usage :=
  { usageSemantic := src.usageSemantic
    usageSource := src.usageSource
    billingUsage := src.billingUsage <|> newOpenAIChatBillingUsage src.toUsageCounts
    cost := src.cost
    promptTokens := src.promptTokens
    inputTokens := src.promptTokens
    completionTokens := src.completionTokens
    outputTokens := src.completionTokens
    totalTokens := if src.totalTokens ≠ 0 then src.totalTokens else src.promptTokens + src.completionTokens
    inputTokensDetails := if src.promptTokensDetails.IsZero then none else some src.promptTokensDetails
    completionTokenDetails := src.completionTokenDetails
    claudeCacheCreation5mTokens := src.claudeCacheCreation5mTokens
    claudeCacheCreation1hTokens := src.claudeCacheCreation1hTokens }

def usageFromResponsesUsage (src : Usage) : Usage :=
  { usageSemantic := src.usageSemantic
    usageSource := src.usageSource
    billingUsage := src.billingUsage <|> newOpenAIResponsesBillingUsage src.toUsageCounts
    cost := src.cost
    promptTokens := src.inputTokens
    inputTokens := src.inputTokens
    completionTokens := src.outputTokens
    outputTokens := src.outputTokens
    totalTokens := if src.totalTokens ≠ 0 then src.totalTokens else src.inputTokens + src.outputTokens
    promptTokensDetails := src.inputTokensDetails.getD {}
    completionTokenDetails := src.completionTokenDetails
    claudeCacheCreation5mTokens := src.claudeCacheCreation5mTokens
    claudeCacheCreation1hTokens := src.claudeCacheCreation1hTokens }

/-- The bridge compares the modality as it is written. -/
def addGeminiMetadataInput (details : InputTokenDetails) (d : GeminiPromptTokensDetails) : InputTokenDetails :=
  if d.modality = "AUDIO" then { details with audioTokens := details.audioTokens + d.tokenCount }
  else if d.modality = "IMAGE" then { details with imageTokens := details.imageTokens + d.tokenCount }
  else if d.modality = "TEXT" then { details with textTokens := details.textTokens + d.tokenCount }
  else details

def addGeminiMetadataOutput (details : OutputTokenDetails) (d : GeminiPromptTokensDetails) : OutputTokenDetails :=
  if d.modality = "IMAGE" then { details with imageTokens := details.imageTokens + d.tokenCount }
  else if d.modality = "AUDIO" then { details with audioTokens := details.audioTokens + d.tokenCount }
  else if d.modality = "TEXT" then { details with textTokens := details.textTokens + d.tokenCount }
  else details

def usageFromGeminiMetadata (m : GeminiUsageMetadata) (fallbackPromptTokens : ℤ) : Usage :=
  let counted := m.promptTokenCount + m.toolUsePromptTokenCount
  let promptTokens := if counted ≤ 0 ∧ fallbackPromptTokens > 0 then fallbackPromptTokens else counted
  let completionTokens := m.candidatesTokenCount + m.thoughtsTokenCount
  let details := m.toolUsePromptTokensDetails.foldl addGeminiMetadataInput
    (m.promptTokensDetails.foldl addGeminiMetadataInput { cachedTokens := m.cachedContentTokenCount })
  { promptTokens := promptTokens
    completionTokens :=
      if m.totalTokenCount > 0 ∧ completionTokens ≤ 0 then m.totalTokenCount - promptTokens else completionTokens
    totalTokens := m.totalTokenCount
    billingUsage := m.billingUsage <|> newGeminiChatBillingUsage m.toGeminiCounts
    completionTokenDetails := m.candidatesTokensDetails.foldl addGeminiMetadataOutput
      { reasoningTokens := m.thoughtsTokenCount }
    promptTokensDetails :=
      if promptTokens > 0 ∧ details.textTokens = 0 ∧ details.audioTokens = 0 then
        { details with textTokens := promptTokens }
      else details }

/-! ## The usage of a Claude stream -/

structure ClaudeStartedMessage where
  id : String := ""
  model : String := ""
  usage : Option ClaudeUsage := none
  deriving DecidableEq

/-- The events of a Claude stream, with what is read of them for its usage. -/
inductive ClaudeStreamEvent
  | messageStart (message : Option ClaudeStartedMessage)
  | contentBlockStart
  | contentBlockDelta (text thinking : Option String)
  | messageDelta (usage : Option ClaudeUsage)
  | other
  deriving DecidableEq

structure ClaudeResponseInfo where
  responseId : String := ""
  model : String := ""
  responseText : String := ""
  usage : Usage := {}
  done : Bool := false
  billingUsageSynthesized : Bool := false
  deriving DecidableEq

/-- The report that is written for a usage counted the Claude way. -/
def claudeUsageFromSemanticUsage (u : UsageCounts) : ClaudeCounts :=
  let split := normalizeCacheCreationSplit u.promptTokensDetails.cachedCreationTokens u.claudeCacheCreation5mTokens
    u.claudeCacheCreation1hTokens
  { inputTokens := u.promptTokens
    cacheCreationInputTokens := u.promptTokensDetails.cachedCreationTokens
    cacheReadInputTokens := u.promptTokensDetails.cachedTokens
    outputTokens := u.completionTokens
    cacheCreation := if split.1 > 0 ∨ split.2 > 0 then some ⟨split.1, split.2⟩ else none }

def claudeBillingUsageFromSemanticUsage (u : UsageCounts) : Option BillingUsage :=
  newClaudeMessagesBillingUsage (claudeUsageFromSemanticUsage u)

def updateClaudeStreamBillingUsage (claudeUsage : ClaudeUsage) (info : ClaudeResponseInfo) (terminal : Bool) :
    ClaudeResponseInfo :=
  match claudeUsage.billingUsage with
  | some b =>
    { info with
      usage := { info.usage with billingUsage := some b }
      billingUsageSynthesized := !(terminal || claudeUsage.outputTokens > 0) }
  | none =>
    if info.usage.billingUsage.isSome && !info.billingUsageSynthesized then info
    else
      let b := claudeBillingUsageFromSemanticUsage info.usage.toUsageCounts
      { info with usage := { info.usage with billingUsage := b }, billingUsageSynthesized := b.isSome }

def finalizeClaudeStreamBillingUsage (info : ClaudeResponseInfo) : ClaudeResponseInfo :=
  if info.usage.billingUsage.isSome && !info.billingUsageSynthesized then info
  else
    let b := (claudeBillingUsageFromSemanticUsage info.usage.toUsageCounts).map fun b =>
      { b with estimated := b.estimated || !info.done }
    { info with usage := { info.usage with billingUsage := b }, billingUsageSynthesized := b.isSome }

/-- The counts of a `message_start` replace the ones that are there. -/
def startClaudeUsage (u : ClaudeUsage) (usage : Usage) : Usage :=
  { usage with
    promptTokens := u.inputTokens
    usageSemantic := billingUsageSemanticAnthropic
    promptTokensDetails :=
      { usage.promptTokensDetails with
        cachedTokens := u.cacheReadInputTokens, cachedCreationTokens := u.cacheCreationInputTokens }
    claudeCacheCreation5mTokens := u.getCacheCreation5mTokens
    claudeCacheCreation1hTokens := u.getCacheCreation1hTokens
    completionTokens := u.outputTokens }

/-- The positive counts of a `message_delta` replace the ones that are there. -/
def deltaClaudeUsage (u : ClaudeUsage) (usage : Usage) : Usage :=
  let promptTokens := overlay usage.promptTokens u.inputTokens
  let completionTokens := overlay usage.completionTokens u.outputTokens
  { usage with
    usageSemantic := billingUsageSemanticAnthropic
    promptTokens
    promptTokensDetails :=
      { usage.promptTokensDetails with
        cachedTokens := overlay usage.promptTokensDetails.cachedTokens u.cacheReadInputTokens
        cachedCreationTokens := overlay usage.promptTokensDetails.cachedCreationTokens u.cacheCreationInputTokens }
    claudeCacheCreation5mTokens := overlay usage.claudeCacheCreation5mTokens u.getCacheCreation5mTokens
    claudeCacheCreation1hTokens := overlay usage.claudeCacheCreation1hTokens u.getCacheCreation1hTokens
    completionTokens
    totalTokens := promptTokens + completionTokens }

def formatClaudeResponseInfo (event : ClaudeStreamEvent) (info : ClaudeResponseInfo) : Bool × ClaudeResponseInfo :=
  match event with
  | .messageStart none | .contentBlockStart => (true, info)
  | .messageStart (some message) =>
    let info := { info with responseId := message.id, model := message.model }
    (true, message.usage.elim info fun u =>
      updateClaudeStreamBillingUsage u { info with usage := startClaudeUsage u info.usage } false)
  | .contentBlockDelta text thinking =>
    (true, { info with responseText := info.responseText ++ text.getD "" ++ thinking.getD "" })
  | .messageDelta usage =>
    let info := usage.elim info fun u =>
      updateClaudeStreamBillingUsage u { info with usage := deltaClaudeUsage u info.usage } true
    (true, { info with done := true })
  | .other => (false, info)

end Desktop2Stereo.Accounting
