import Desktop2Stereo.Billing.UsageMerge

/-!
# Desktop2Stereo: billing across the relay's bridges

A usage report crosses from dialect to dialect. The first bridge attaches the billing snapshot of the report it was
given, and every later one carries it along, so the canonical usage that is settled at the end is the one of the first
bridge. Without the snapshot a Claude report comes back from the OpenAI form with its counters, the cache writes as
the larger of their total and their split.

* `Report`, `Bridge`, `cross`, `crossAll`: chains of bridges;
* **`billing_across_bridges`**.
-/

namespace Desktop2Stereo.Accounting

open Option ClaudeCounts

/-! ## Chains of bridges -/

/-- A report in one of the dialects; Chat and Responses share a type. -/
inductive Report where
  | openAI (u : Usage)
  | claude (u : ClaudeUsage)
  | gemini (m : GeminiUsageMetadata)
  deriving DecidableEq

inductive Bridge where
  | usageFromClaudeAPIUsage
  | usageFromOpenAI
  | usageFromChatUsage
  | usageFromResponsesUsage
  | usageFromGeminiMetadata (fallbackPromptTokens : ℤ)
  deriving DecidableEq

/-- A bridge, where the type of the report allows it. -/
def cross : Report → Bridge → Option Report
  | .claude u, .usageFromClaudeAPIUsage => some (.openAI (usageFromClaudeAPIUsage u))
  | .openAI u, .usageFromOpenAI => some (.claude (usageFromOpenAI u))
  | .openAI u, .usageFromChatUsage => some (.openAI (usageFromChatUsage u))
  | .openAI u, .usageFromResponsesUsage => some (.openAI (usageFromResponsesUsage u))
  | .gemini m, .usageFromGeminiMetadata n => some (.openAI (usageFromGeminiMetadata m n))
  | _, _ => none

def crossAll (r : Report) (bridges : List Bridge) : Option Report := bridges.foldlM cross r

def Report.billingUsage : Report → Option BillingUsage
  | .openAI u => u.billingUsage
  | .claude u => u.billingUsage
  | .gemini m => m.billingUsage

def Report.canonicalUsage (r : Report) : Option Usage := r.billingUsage.bind (·.canonicalUsage)

/-- Some counter of the report is not zero. -/
def Report.Reports : Report → Prop
  | .openAI u => ∃ c, u.count c ≠ 0
  | .claude u => ∃ c, u.count c ≠ 0
  | .gemini m => (∃ c, m.count c ≠ 0) ∨ ∃ g, ∃ d ∈ m.details g, d.tokenCount ≠ 0

/-! ## A snapshot is carried along -/

variable {r r' : Report} {b : Bridge}

/-- **A bridge carries the snapshot that is there.** -/
theorem billingUsage_cross {s : BillingUsage} (h : cross r b = some r') (hs : r.billingUsage = some s) :
    r'.billingUsage = some s := by
  cases r with
  | openAI u =>
    change u.billingUsage = some s at hs
    cases b with
    | usageFromOpenAI =>
      cases h
      simp only [Report.billingUsage, usageFromOpenAI, hs]
      split <;> rfl
    | usageFromChatUsage =>
      cases h
      simp only [Report.billingUsage, usageFromChatUsage, hs]
      rfl
    | usageFromResponsesUsage =>
      cases h
      simp only [Report.billingUsage, usageFromResponsesUsage, hs]
      rfl
    | _ => exact absurd h (by simp [cross])
  | claude u =>
    change u.billingUsage = some s at hs
    cases b with
    | usageFromClaudeAPIUsage =>
      cases h
      simp only [Report.billingUsage, usageFromClaudeAPIUsage, usageFromClaudeUsage, hs]
      rfl
    | _ => exact absurd h (by simp [cross])
  | gemini m =>
    change m.billingUsage = some s at hs
    cases b with
    | usageFromGeminiMetadata =>
      cases h
      simp only [Report.billingUsage, usageFromGeminiMetadata, hs]
      rfl
    | _ => exact absurd h (by simp [cross])

variable {bridges : List Bridge}

theorem billingUsage_crossAll {s : BillingUsage} (h : crossAll r bridges = some r') (hs : r.billingUsage = some s) :
    r'.billingUsage = some s := by
  induction bridges generalizing r with
  | nil =>
    cases h
    exact hs
  | cons b bridges ih =>
    obtain ⟨_, h1, h2⟩ := bind_eq_some_iff.mp h
    exact ih h2 (billingUsage_cross h1 hs)

/-! ## The first bridge attaches one -/

theorem InputTokenDetails.isZero_iff {d : InputTokenDetails} : d.IsZero ↔ ∀ k, d.count k = 0 := by
  constructor
  · rintro ⟨_, _, _, _, _, _⟩ k
    cases k <;> assumption
  · intro h
    exact ⟨h .cachedTokens, h .cachedCreationTokens, h .cacheWriteTokens, h .textTokens, h .imageTokens,
      h .audioTokens⟩

theorem OutputTokenDetails.isZero_iff {d : OutputTokenDetails} : d.IsZero ↔ ∀ k, d.count k = 0 := by
  constructor
  · rintro ⟨_, _, _, _⟩ k
    cases k <;> assumption
  · intro h
    exact ⟨h .reasoningTokens, h .textTokens, h .imageTokens, h .audioTokens⟩

theorem any_isZero_iff {o : Option InputTokenDetails} :
    (o.any fun d => !decide d.IsZero) = false ↔ ∀ k, (o.getD {}).count k = 0 := by
  cases o with
  | none => exact ⟨fun _ k => by cases k <;> rfl, fun _ => rfl⟩
  | some => rw [any_some, Bool.not_eq_false', decide_eq_true_eq, getD_some, InputTokenDetails.isZero_iff]

theorem hasOpenAIUsageTokens_eq_false {u : UsageCounts} : hasOpenAIUsageTokens u = false ↔ ∀ c, u.count c = 0 := by
  simp only [hasOpenAIUsageTokens, Bool.or_eq_false_iff, decide_eq_false_iff_not, not_not, Bool.not_eq_false',
    decide_eq_true_eq, any_isZero_iff, InputTokenDetails.isZero_iff, OutputTokenDetails.isZero_iff]
  constructor
  · rintro ⟨⟨⟨⟨⟨⟨⟨⟨⟨⟨_, _⟩, _⟩, _⟩, _⟩, _⟩, _⟩, _⟩, hp⟩, hc⟩, hi⟩ c
    cases c with
    | promptTokensDetails d => exact hp d
    | completionTokenDetails d => exact hc d
    | inputTokensDetails d => exact hi d
    | _ => assumption
  · intro h
    exact ⟨⟨⟨⟨⟨⟨⟨⟨⟨⟨h .promptTokens, h .completionTokens⟩, h .totalTokens⟩, h .inputTokens⟩, h .outputTokens⟩,
      h .promptCacheHitTokens⟩, h .claudeCacheCreation5mTokens⟩, h .claudeCacheCreation1hTokens⟩,
      fun d => h (.promptTokensDetails d)⟩, fun d => h (.completionTokenDetails d)⟩, fun d => h (.inputTokensDetails d)⟩

/-- The report has a snapshot unless all its token counters are zero; the requests of server tools do not count. -/
theorem hasClaudeUsageTokens_eq_false {u : ClaudeCounts} :
    hasClaudeUsageTokens u = false ↔ ∀ c, (∀ t, c ≠ .serverToolUse t) → u.count c = 0 := by
  have hobj : (u.cacheCreation.any fun c => c.ephemeral5mInputTokens ≠ 0 || c.ephemeral1hInputTokens ≠ 0) = false ↔
      ∀ d, (u.cacheCreation.getD {}).tokens d = 0 := by
    cases u.cacheCreation with
    | none => exact ⟨fun _ d => by cases d <;> rfl, fun _ => rfl⟩
    | some =>
      rw [any_some, Bool.or_eq_false_iff, decide_eq_false_iff_not, decide_eq_false_iff_not, not_not, not_not]
      refine ⟨fun h d => ?_, fun h => ⟨h .fiveMinutes, h .oneHour⟩⟩
      cases d
      · exact h.1
      · exact h.2
  simp only [hasClaudeUsageTokens, Bool.or_eq_false_iff, hobj, decide_eq_false_iff_not, not_not]
  constructor
  · rintro ⟨⟨⟨⟨⟨⟨_, _⟩, _⟩, _⟩, _⟩, _⟩, ho⟩ c hc
    cases c with
    | cacheCreation d => exact ho d
    | claudeCacheCreation d => cases d <;> assumption
    | serverToolUse t => exact absurd rfl (hc t)
    | _ => assumption
  · intro h
    exact ⟨⟨⟨⟨⟨⟨h .inputTokens nofun, h .outputTokens nofun⟩, h .cacheCreationInputTokens nofun⟩,
      h .cacheReadInputTokens nofun⟩, h (.claudeCacheCreation .fiveMinutes) nofun⟩,
      h (.claudeCacheCreation .oneHour) nofun⟩, fun d => h (.cacheCreation d) nofun⟩

theorem hasGeminiUsageMetadataTokens_of_reports {m : GeminiUsageMetadata} (h : (Report.gemini m).Reports) :
    hasGeminiUsageMetadataTokens m.toGeminiCounts = true := by
  by_contra hnone
  simp only [hasGeminiUsageMetadataTokens, Bool.not_eq_true, Bool.or_eq_false_iff, decide_eq_false_iff_not, not_not,
    List.any_eq_false, decide_eq_true_eq] at hnone
  obtain ⟨⟨⟨⟨⟨⟨⟨⟨_, _⟩, _⟩, _⟩, _⟩, _⟩, hp⟩, hu⟩, hc⟩ := hnone
  rcases h with ⟨c, hc'⟩ | ⟨g, d, hd, hne⟩
  · refine hc' ?_
    cases c <;> assumption
  · refine hne ?_
    cases g
    · exact hp d hd
    · exact hu d hd
    · exact hc d hd

/-- A report that says nothing about tokens and carries no snapshot. -/
def Report.Silent : Report → Prop
  | .openAI u => hasOpenAIUsageTokens u.toUsageCounts = false ∧ u.billingUsage = none
  | .claude u => hasClaudeUsageTokens u.toClaudeCounts = false ∧ u.billingUsage = none
  | .gemini _ => False

theorem ClaudeCounts.getCacheCreation5mTokens_eq (u : ClaudeCounts) :
    u.getCacheCreation5mTokens = u.count (.cacheCreation .fiveMinutes) := by
  unfold getCacheCreation5mTokens count
  cases u.cacheCreation <;> rfl

theorem ClaudeCounts.getCacheCreation1hTokens_eq (u : ClaudeCounts) :
    u.getCacheCreation1hTokens = u.count (.cacheCreation .oneHour) := by
  unfold getCacheCreation1hTokens count
  cases u.cacheCreation <;> rfl

theorem silent_usageFromClaudeAPIUsage {u : ClaudeUsage} (h : (Report.claude u).Silent) :
    (Report.openAI (usageFromClaudeAPIUsage u)).Silent := by
  obtain ⟨htok, hbill⟩ := h
  have hz := hasClaudeUsageTokens_eq_false.mp htok
  have h1 : u.inputTokens = 0 := hz .inputTokens nofun
  have h2 : u.outputTokens = 0 := hz .outputTokens nofun
  have h3 : u.cacheCreationInputTokens = 0 := hz .cacheCreationInputTokens nofun
  have h4 : u.cacheReadInputTokens = 0 := hz .cacheReadInputTokens nofun
  have h5 : u.getCacheCreation5mTokens = 0 := u.getCacheCreation5mTokens_eq.trans (hz _ nofun)
  have h6 : u.getCacheCreation1hTokens = 0 := u.getCacheCreation1hTokens_eq.trans (hz _ nofun)
  have hnew : newClaudeMessagesBillingUsage u.toClaudeCounts = none := by
    rw [newClaudeMessagesBillingUsage, htok]
    rfl
  refine ⟨hasOpenAIUsageTokens_eq_false.mpr fun c => ?_, ?_⟩
  · simp only [usageFromClaudeAPIUsage, usageFromClaudeUsage, cacheCreationTokensForOpenAIUsage,
      normalizeCacheCreationSplit, h1, h2, h3, h4, h5, h6]
    cases c with
    | promptTokensDetails d | completionTokenDetails d | inputTokensDetails d => cases d <;> decide
    | _ => decide
  · simp only [usageFromClaudeAPIUsage, usageFromClaudeUsage, hbill, hnew]
    rfl

variable {u : Usage}

theorem silent_usageFromOpenAI (h : (Report.openAI u).Silent) : (Report.claude (usageFromOpenAI u)).Silent := by
  obtain ⟨htok, hbill⟩ := h
  have hz := hasOpenAIUsageTokens_eq_false.mp htok
  have h1 : u.promptTokens = 0 := hz .promptTokens
  have h2 : u.completionTokens = 0 := hz .completionTokens
  have h3 : u.promptTokensDetails.cachedTokens = 0 := hz (.promptTokensDetails .cachedTokens)
  have h4 : u.promptTokensDetails.cachedCreationTokens = 0 := hz (.promptTokensDetails .cachedCreationTokens)
  have h5 : u.promptTokensDetails.cacheWriteTokens = 0 := hz (.promptTokensDetails .cacheWriteTokens)
  have h6 : u.claudeCacheCreation5mTokens = 0 := hz .claudeCacheCreation5mTokens
  have h7 : u.claudeCacheCreation1hTokens = 0 := hz .claudeCacheCreation1hTokens
  have hnew : newOpenAIChatBillingUsage u.toUsageCounts = none := by
    rw [newOpenAIChatBillingUsage, newOpenAIBillingUsage, htok]
    rfl
  unfold Report.Silent
  simp only [usageFromOpenAI, hbill, filter_none, bind_none, InputTokenDetails.cacheCreationTokensTotal,
    normalizeCacheCreationSplit, h1, h2, h3, h4, h5, h6, h7, hnew]
  refine ⟨?_, rfl⟩
  split_ifs <;> decide

theorem silent_usageFromChatUsage (h : (Report.openAI u).Silent) : (Report.openAI (usageFromChatUsage u)).Silent := by
  obtain ⟨htok, hbill⟩ := h
  have hz := hasOpenAIUsageTokens_eq_false.mp htok
  have hnew : newOpenAIChatBillingUsage u.toUsageCounts = none := by
    rw [newOpenAIChatBillingUsage, newOpenAIBillingUsage, htok]
    rfl
  have hdetails : u.promptTokensDetails.IsZero :=
    InputTokenDetails.isZero_iff.mpr fun d => hz (.promptTokensDetails d)
  have h1 : u.promptTokens = 0 := hz .promptTokens
  have h2 : u.completionTokens = 0 := hz .completionTokens
  have h3 : u.totalTokens = 0 := hz .totalTokens
  refine ⟨hasOpenAIUsageTokens_eq_false.mpr fun c => ?_, ?_⟩
  · cases c with
    | promptTokensDetails d => cases d <;> rfl
    | completionTokenDetails d => exact hz (.completionTokenDetails d)
    | inputTokensDetails d =>
      simp only [UsageCounts.count, usageFromChatUsage, if_pos hdetails]
      cases d <;> rfl
    | totalTokens => simp only [UsageCounts.count, usageFromChatUsage, h1, h2, h3]; rfl
    | promptCacheHitTokens => rfl
    | promptTokens | inputTokens => exact h1
    | completionTokens | outputTokens => exact h2
    | claudeCacheCreation5mTokens => exact hz .claudeCacheCreation5mTokens
    | claudeCacheCreation1hTokens => exact hz .claudeCacheCreation1hTokens
  · simp only [usageFromChatUsage, hbill, hnew]
    rfl

theorem silent_usageFromResponsesUsage (h : (Report.openAI u).Silent) :
    (Report.openAI (usageFromResponsesUsage u)).Silent := by
  obtain ⟨htok, hbill⟩ := h
  have hz := hasOpenAIUsageTokens_eq_false.mp htok
  have hnew : newOpenAIResponsesBillingUsage u.toUsageCounts = none := by
    rw [newOpenAIResponsesBillingUsage, newOpenAIBillingUsage, htok]
    rfl
  have h1 : u.inputTokens = 0 := hz .inputTokens
  have h2 : u.outputTokens = 0 := hz .outputTokens
  have h3 : u.totalTokens = 0 := hz .totalTokens
  refine ⟨hasOpenAIUsageTokens_eq_false.mpr fun c => ?_, ?_⟩
  · cases c with
    | promptTokensDetails d => exact hz (.inputTokensDetails d)
    | completionTokenDetails d => exact hz (.completionTokenDetails d)
    | inputTokensDetails d => cases d <;> rfl
    | totalTokens => simp only [UsageCounts.count, usageFromResponsesUsage, h1, h2, h3]; rfl
    | promptCacheHitTokens => rfl
    | promptTokens | inputTokens => exact h1
    | completionTokens | outputTokens => exact h2
    | claudeCacheCreation5mTokens => exact hz .claudeCacheCreation5mTokens
    | claudeCacheCreation1hTokens => exact hz .claudeCacheCreation1hTokens
  · simp only [usageFromResponsesUsage, hbill, hnew]
    rfl

/-- **A bridge makes no tokens out of nothing.** -/
theorem Report.Silent.cross (h : r.Silent) (hb : cross r b = some r') : r'.Silent := by
  cases r with
  | openAI =>
    cases b with
    | usageFromOpenAI =>
      cases hb
      exact silent_usageFromOpenAI h
    | usageFromChatUsage =>
      cases hb
      exact silent_usageFromChatUsage h
    | usageFromResponsesUsage =>
      cases hb
      exact silent_usageFromResponsesUsage h
    | _ => exact absurd hb (by simp [Accounting.cross])
  | claude =>
    cases b with
    | usageFromClaudeAPIUsage =>
      cases hb
      exact silent_usageFromClaudeAPIUsage h
    | _ => exact absurd hb (by simp [Accounting.cross])
  | gemini => exact h.elim

theorem Report.Silent.crossAll (h : r.Silent) (hb : crossAll r bridges = some r') : r'.Silent := by
  induction bridges generalizing r with
  | nil =>
    cases hb
    exact h
  | cons b bridges ih =>
    obtain ⟨_, h1, h2⟩ := bind_eq_some_iff.mp hb
    exact ih (h.cross h1) h2

theorem Report.Silent.billingUsage_eq (h : r.Silent) : r.billingUsage = none := by
  cases r with
  | openAI | claude => exact h.2
  | gemini => exact h.elim

/-- **The first bridge attaches a snapshot**, or the report says nothing about tokens. -/
theorem attached_or_silent (hr : r.Reports) (h : cross r b = some r') :
    (∃ s, r'.billingUsage = some s) ∨ r'.Silent := by
  cases hbill : r.billingUsage with
  | some s => exact .inl ⟨s, billingUsage_cross h hbill⟩
  | none =>
    cases r with
    | openAI u =>
      obtain ⟨c, hc⟩ := hr
      change u.billingUsage = none at hbill
      have htok : hasOpenAIUsageTokens u.toUsageCounts = true := by
        by_contra hfalse
        exact hc (hasOpenAIUsageTokens_eq_false.mp (Bool.eq_false_iff.mpr hfalse) c)
      have hnew : ∀ source, ∃ s, newOpenAIBillingUsage source u.toUsageCounts = some s := fun source =>
        ⟨_, if_pos htok⟩
      cases b with
      | usageFromOpenAI =>
        cases h
        obtain ⟨s, hs⟩ := hnew billingUsageSourceOAIChat
        refine .inl ⟨s, ?_⟩
        simp only [Report.billingUsage, usageFromOpenAI, hbill, filter_none, bind_none]
        exact hs
      | usageFromChatUsage =>
        cases h
        obtain ⟨s, hs⟩ := hnew billingUsageSourceOAIChat
        refine .inl ⟨s, ?_⟩
        simp only [Report.billingUsage, usageFromChatUsage, hbill]
        exact hs
      | usageFromResponsesUsage =>
        cases h
        obtain ⟨s, hs⟩ := hnew billingUsageSourceOAIResponses
        refine .inl ⟨s, ?_⟩
        simp only [Report.billingUsage, usageFromResponsesUsage, hbill]
        exact hs
      | _ => exact absurd h (by simp [cross])
    | claude u =>
      change u.billingUsage = none at hbill
      cases b with
      | usageFromClaudeAPIUsage =>
        cases htok : hasClaudeUsageTokens u.toClaudeCounts with
        | false => exact .inr (Report.Silent.cross (r := .claude u) ⟨htok, hbill⟩ h)
        | true =>
          cases h
          obtain ⟨s, hs⟩ : ∃ s, newClaudeMessagesBillingUsage u.toClaudeCounts = some s := ⟨_, if_pos htok⟩
          refine .inl ⟨s, ?_⟩
          simp only [Report.billingUsage, usageFromClaudeAPIUsage, usageFromClaudeUsage, hbill]
          exact hs
      | _ => exact absurd h (by simp [cross])
    | gemini m =>
      change m.billingUsage = none at hbill
      cases b with
      | usageFromGeminiMetadata =>
        cases h
        obtain ⟨s, hs⟩ : ∃ s, newGeminiChatBillingUsage m.toGeminiCounts = some s :=
          ⟨_, if_pos (hasGeminiUsageMetadataTokens_of_reports hr)⟩
        refine .inl ⟨s, ?_⟩
        simp only [Report.billingUsage, usageFromGeminiMetadata, hbill]
        exact hs
      | _ => exact absurd h (by simp [cross])

theorem canonicalUsage_crossAll {u first last : Report} (hu : u.Reports) (h : cross u b = some first)
    (hs : crossAll first bridges = some last) : last.canonicalUsage = first.canonicalUsage := by
  unfold Report.canonicalUsage
  rcases attached_or_silent hu h with ⟨s, hbill⟩ | hsilent
  · rw [billingUsage_crossAll hs hbill, hbill]
  · rw [(hsilent.crossAll hs).billingUsage_eq, hsilent.billingUsage_eq]

/-! ## A Claude report without its snapshot -/

def ClaudeCounts.cacheSplit (u : ClaudeCounts) : ℤ := u.getCacheCreation5mTokens + u.getCacheCreation1hTokens

/-- To the OpenAI form, where the snapshot is lost, and back. -/
def roundTrip (u : ClaudeUsage) : ClaudeUsage := usageFromOpenAI { usageFromClaudeAPIUsage u with billingUsage := none }

/-- **What comes back**: the counters, and the cache writes as the larger of their total and their split. -/
theorem roundTrip_counts {u : ClaudeUsage} (hu : Snapshots.Counts count u.toClaudeCounts) :
    (roundTrip u).inputTokens = u.inputTokens ∧ (roundTrip u).outputTokens = u.outputTokens ∧
      (roundTrip u).cacheReadInputTokens = u.cacheReadInputTokens ∧
      (roundTrip u).cacheCreationInputTokens = max u.cacheCreationInputTokens u.cacheSplit ∧
      (roundTrip u).cacheSplit = (roundTrip u).cacheCreationInputTokens := by
  have h1 : 0 ≤ u.inputTokens := hu .inputTokens
  have h2 : 0 ≤ u.cacheCreationInputTokens := hu .cacheCreationInputTokens
  have h3 : 0 ≤ u.cacheReadInputTokens := hu .cacheReadInputTokens
  have h4 : 0 ≤ u.getCacheCreation5mTokens := (hu (.cacheCreation .fiveMinutes)).trans_eq
    u.getCacheCreation5mTokens_eq.symm
  have h5 : 0 ≤ u.getCacheCreation1hTokens := (hu (.cacheCreation .oneHour)).trans_eq
    u.getCacheCreation1hTokens_eq.symm
  have hsem : ("openai" : String) ≠ billingUsageSemanticAnthropic := by decide
  -- what the OpenAI form reports as written to the cache
  have hwrite : (usageFromClaudeAPIUsage u).promptTokensDetails.cacheWriteTokens =
      max u.cacheCreationInputTokens u.cacheSplit := by
    simp only [usageFromClaudeAPIUsage, usageFromClaudeUsage, cacheCreationTokensForOpenAIUsage,
      cacheSplit]
    split_ifs <;> omega
  have hprompt : (usageFromClaudeAPIUsage u).promptTokens = u.inputTokens + u.cacheReadInputTokens +
      (usageFromClaudeAPIUsage u).promptTokensDetails.cacheWriteTokens := rfl
  have hsplit : (usageFromClaudeAPIUsage u).claudeCacheCreation5mTokens +
      (usageFromClaudeAPIUsage u).claudeCacheCreation1hTokens = max u.cacheCreationInputTokens u.cacheSplit := by
    simp only [usageFromClaudeAPIUsage, usageFromClaudeUsage, normalizeCacheCreationSplit, cacheSplit]
    omega
  have hcreated : (usageFromClaudeAPIUsage u).promptTokensDetails.cachedCreationTokens = u.cacheCreationInputTokens :=
    rfl
  have hnonneg : 0 ≤ (usageFromClaudeAPIUsage u).claudeCacheCreation5mTokens ∧
      0 ≤ (usageFromClaudeAPIUsage u).claudeCacheCreation1hTokens := by
    simp only [usageFromClaudeAPIUsage, usageFromClaudeUsage, normalizeCacheCreationSplit]
    omega
  have htotal : (roundTrip u).cacheCreationInputTokens = max u.cacheCreationInputTokens u.cacheSplit := by
    simp only [roundTrip, usageFromOpenAI, filter_none, bind_none,
      InputTokenDetails.cacheCreationTokensTotal, hwrite, hcreated]
    omega
  refine ⟨?_, rfl, rfl, htotal, ?_⟩
  · have hinput : (roundTrip u).inputTokens = max ((usageFromClaudeAPIUsage u).promptTokens -
        u.cacheReadInputTokens - (roundTrip u).cacheCreationInputTokens) 0 := by
      simp only [roundTrip, usageFromOpenAI, filter_none, bind_none]
      exact (if_pos hsem).trans rfl
    rw [hinput, htotal, hprompt, hwrite]
    omega
  · rw [htotal, ← hsplit]
    simp only [cacheSplit, getCacheCreation5mTokens, getCacheCreation1hTokens,
      roundTrip, usageFromOpenAI, filter_none, bind_none, normalizeCacheCreationSplit, hcreated]
    split_ifs with hpos
    · simp only [map_some, getD_some]
      omega
    · simp only [map_none, getD_none]
      omega

/-- **Billing does not depend on the bridges that a report crosses.** -/
theorem billing_across_bridges :
    (∀ (u first last : Report) (b : Bridge) (bridges : List Bridge), u.Reports → cross u b = some first →
      crossAll first bridges = some last → last.canonicalUsage = first.canonicalUsage) ∧
    ∀ u : ClaudeUsage, Snapshots.Counts count u.toClaudeCounts →
      (roundTrip u).inputTokens = u.inputTokens ∧ (roundTrip u).outputTokens = u.outputTokens ∧
      (roundTrip u).cacheReadInputTokens = u.cacheReadInputTokens ∧
      (roundTrip u).cacheCreationInputTokens = max u.cacheCreationInputTokens u.cacheSplit ∧
      (roundTrip u).cacheSplit = (roundTrip u).cacheCreationInputTokens :=
  ⟨fun _ _ _ _ _ hu h hs => canonicalUsage_crossAll hu h hs, fun _ hu => roundTrip_counts hu⟩

/-- A Claude report that crosses four bridges. -/
def cachedReport : ClaudeUsage :=
  { inputTokens := 10, outputTokens := 4, cacheReadInputTokens := 7, cacheCreationInputTokens := 9
    cacheCreation := some { ephemeral5mInputTokens := 2, ephemeral1hInputTokens := 3 } }

theorem billing_across_bridges_of_cached :
    (∃ last, crossAll (.openAI (usageFromClaudeAPIUsage cachedReport))
        [.usageFromChatUsage, .usageFromResponsesUsage, .usageFromOpenAI] = some last ∧
      last.canonicalUsage = (Report.openAI (usageFromClaudeAPIUsage cachedReport)).canonicalUsage) ∧
    (roundTrip cachedReport).cacheCreationInputTokens = 9 ∧ (roundTrip cachedReport).cacheSplit = 9 := by
  have hcounts : Snapshots.Counts count cachedReport.toClaudeCounts := by
    intro c
    cases c <;> first | decide | (rename_i d; cases d <;> decide)
  have hreports : (Report.claude cachedReport).Reports := ⟨.inputTokens, by decide⟩
  obtain ⟨_, _, _, htotal, hsplit⟩ := billing_across_bridges.2 cachedReport hcounts
  have hcross : cross (.claude cachedReport) .usageFromClaudeAPIUsage =
      some (.openAI (usageFromClaudeAPIUsage cachedReport)) := rfl
  exact ⟨⟨_, rfl, billing_across_bridges.1 _ _ _ .usageFromClaudeAPIUsage
    [.usageFromChatUsage, .usageFromResponsesUsage, .usageFromOpenAI] hreports hcross rfl⟩, htotal, hsplit.trans htotal⟩

/-- A split beyond its total becomes the total. -/
theorem round_trip_raises_total :
    (roundTrip { cacheCreationInputTokens := 3
                 cacheCreation := some { ephemeral5mInputTokens := 5, ephemeral1hInputTokens := 1 } }).cacheCreationInputTokens
      = 6 := by decide

end Desktop2Stereo.Accounting
