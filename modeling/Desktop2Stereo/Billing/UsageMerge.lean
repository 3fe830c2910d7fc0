import Desktop2Stereo.Lib.Snapshots
import Desktop2Stereo.Model.Usage

/-!
# Desktop2Stereo: the usage of a stream

A provider reports cumulative counters while it streams; the relay merges the reports. For each dialect the merged
report carries the counters of the last one, merging the last one again changes nothing, and no kind of input token
exceeds the prompt tokens that are settled. The per-modality details of Gemini are different: the merge adds them up,
so they are taken to be what was added since the report before.

* `UsageCounter`, `ClaudeCounter`, `GeminiCounter` and `count`: the counters of a report;
* **`accumulated_stream_usage`**.
-/

namespace Desktop2Stereo.Accounting

open Snapshots List Option UsageCounts GeminiCounts ClaudeCounts BillingUsage

/-! ## Counters -/

inductive InputDetail where
  | cachedTokens
  | cachedCreationTokens
  | cacheWriteTokens
  | textTokens
  | audioTokens
  | imageTokens
  deriving DecidableEq

inductive OutputDetail where
  | textTokens
  | audioTokens
  | imageTokens
  | reasoningTokens
  deriving DecidableEq

inductive UsageCounter where
  | promptTokens
  | completionTokens
  | totalTokens
  | promptCacheHitTokens
  | inputTokens
  | outputTokens
  | claudeCacheCreation5mTokens
  | claudeCacheCreation1hTokens
  | promptTokensDetails (d : InputDetail)
  | inputTokensDetails (d : InputDetail)
  | completionTokenDetails (d : OutputDetail)
  deriving DecidableEq

/-- How long a cache entry is kept. -/
inductive CacheTTL where
  | fiveMinutes
  | oneHour
  deriving DecidableEq

inductive ServerTool where
  | webSearch
  | webFetch
  | codeExecution
  | toolSearch
  deriving DecidableEq

inductive ClaudeCounter where
  | inputTokens
  | cacheCreationInputTokens
  | cacheReadInputTokens
  | outputTokens
  | cacheCreation (d : CacheTTL)
  | claudeCacheCreation (d : CacheTTL)
  | serverToolUse (t : ServerTool)
  deriving DecidableEq

inductive GeminiCounter where
  | promptTokenCount
  | toolUsePromptTokenCount
  | candidatesTokenCount
  | totalTokenCount
  | thoughtsTokenCount
  | cachedContentTokenCount
  deriving DecidableEq

inductive GeminiDetail where
  | promptTokensDetails
  | toolUsePromptTokensDetails
  | candidatesTokensDetails
  deriving DecidableEq

def InputTokenDetails.count (d : InputTokenDetails) : InputDetail → ℤ
  | .cachedTokens => d.cachedTokens
  | .cachedCreationTokens => d.cachedCreationTokens
  | .cacheWriteTokens => d.cacheWriteTokens
  | .textTokens => d.textTokens
  | .audioTokens => d.audioTokens
  | .imageTokens => d.imageTokens

def OutputTokenDetails.count (d : OutputTokenDetails) : OutputDetail → ℤ
  | .textTokens => d.textTokens
  | .audioTokens => d.audioTokens
  | .imageTokens => d.imageTokens
  | .reasoningTokens => d.reasoningTokens

def UsageCounts.count (u : UsageCounts) : UsageCounter → ℤ
  | .promptTokens => u.promptTokens
  | .completionTokens => u.completionTokens
  | .totalTokens => u.totalTokens
  | .promptCacheHitTokens => u.promptCacheHitTokens
  | .inputTokens => u.inputTokens
  | .outputTokens => u.outputTokens
  | .claudeCacheCreation5mTokens => u.claudeCacheCreation5mTokens
  | .claudeCacheCreation1hTokens => u.claudeCacheCreation1hTokens
  | .promptTokensDetails d => u.promptTokensDetails.count d
  | .inputTokensDetails d => (u.inputTokensDetails.getD {}).count d
  | .completionTokenDetails d => u.completionTokenDetails.count d

def ClaudeCacheCreationUsage.tokens (c : ClaudeCacheCreationUsage) : CacheTTL → ℤ
  | .fiveMinutes => c.ephemeral5mInputTokens
  | .oneHour => c.ephemeral1hInputTokens

def ClaudeServerToolUse.requests (u : ClaudeServerToolUse) : ServerTool → ℤ
  | .webSearch => u.webSearchRequests
  | .webFetch => u.webFetchRequests
  | .codeExecution => u.codeExecutionRequests
  | .toolSearch => u.toolSearchRequests

def ClaudeCounts.flat (u : ClaudeCounts) : CacheTTL → ℤ
  | .fiveMinutes => u.claudeCacheCreation5mTokens
  | .oneHour => u.claudeCacheCreation1hTokens

def ClaudeCounts.count (u : ClaudeCounts) : ClaudeCounter → ℤ
  | .inputTokens => u.inputTokens
  | .cacheCreationInputTokens => u.cacheCreationInputTokens
  | .cacheReadInputTokens => u.cacheReadInputTokens
  | .outputTokens => u.outputTokens
  | .cacheCreation d => (u.cacheCreation.getD {}).tokens d
  | .claudeCacheCreation d => u.flat d
  | .serverToolUse t => (u.serverToolUse.getD {}).requests t

def GeminiCounts.count (m : GeminiCounts) : GeminiCounter → ℤ
  | .promptTokenCount => m.promptTokenCount
  | .toolUsePromptTokenCount => m.toolUsePromptTokenCount
  | .candidatesTokenCount => m.candidatesTokenCount
  | .totalTokenCount => m.totalTokenCount
  | .thoughtsTokenCount => m.thoughtsTokenCount
  | .cachedContentTokenCount => m.cachedContentTokenCount

def GeminiCounts.details (m : GeminiCounts) : GeminiDetail → List GeminiPromptTokensDetails
  | .promptTokensDetails => m.promptTokensDetails
  | .toolUsePromptTokensDetails => m.toolUsePromptTokensDetails
  | .candidatesTokensDetails => m.candidatesTokensDetails

def modalityCount (key : String) (ds : List GeminiPromptTokensDetails) : ℤ :=
  (ds.map fun d => if normalizeGeminiModality d.modality = key then d.tokenCount else 0).sum

/-! ## Overlays -/

variable {a b : ℤ}

theorem overlay_of_le (ha : 0 ≤ a) (h : a ≤ b) : overlay a b = b := by
  unfold overlay
  split_ifs <;> omega

theorem overlay_again (a b : ℤ) : overlay (overlay a b) b = overlay a b := by
  unfold overlay
  split_ifs <;> rfl

theorem overlayText_again (a b : String) : overlayText (overlayText a b) b = overlayText a b := by
  unfold overlayText
  split_ifs <;> rfl

theorem count_mergeInputTokenDetails (c d : InputTokenDetails) (k : InputDetail) :
    (mergeInputTokenDetails c d).count k = overlay (c.count k) (d.count k) := by
  cases k <;> rfl

variable {d : InputTokenDetails}

theorem InputTokenDetails.count_of_not_reports (h : ¬ d.Reports) (k : InputDetail) : ¬ d.count k > 0 := by
  unfold Reports at h
  cases k <;> simp only [count] <;> tauto

theorem count_mergeOptionalDetails (c d : Option InputTokenDetails) (k : InputDetail) :
    ((mergeOptionalDetails c d).getD {}).count k = overlay ((c.getD {}).count k) ((d.getD {}).count k) := by
  cases d with
  | none => cases k <;> rfl
  | some =>
    unfold mergeOptionalDetails
    dsimp only
    split_ifs with hr
    · exact count_mergeInputTokenDetails _ _ k
    · exact (if_neg (InputTokenDetails.count_of_not_reports hr k)).symm

/-! ## OpenAI reports -/

theorem count_mergeUsageCounts (u v : UsageCounts) {c : UsageCounter} (hc : c ≠ .totalTokens) :
    (mergeUsageCounts u v).count c = overlay (u.count c) (v.count c) := by
  cases c with
  | totalTokens => exact absurd rfl hc
  | promptTokensDetails d => exact count_mergeInputTokenDetails _ _ d
  | inputTokensDetails d => exact count_mergeOptionalDetails _ _ d
  | completionTokenDetails d => cases d <;> rfl
  | _ => rfl

/-- The parts of a report add up to at most its total. -/
def UsageCounts.PartsWithin (u : UsageCounts) : Prop :=
  u.promptTokens + u.completionTokens ≤ u.totalTokens ∧ u.inputTokens + u.outputTokens ≤ u.totalTokens

/-- The accumulator carries the counters of the report. -/
structure UsageCounts.Carries (t s : UsageCounts) : Prop where
  counters : ∀ c, c ≠ .totalTokens → t.count c = s.count c
  total : s.PartsWithin → t.totalTokens = s.totalTokens

theorem UsageCounts.carries_merge {t s s' : UsageCounts} (h : t.Carries s) (hs : Counts UsageCounts.count s)
    (hgrows : Grows UsageCounts.count s s') : (mergeUsageCounts t s').Carries s' := by
  have hcounters : ∀ c, c ≠ .totalTokens → (mergeUsageCounts t s').count c = s'.count c := by
    intro c hc
    rw [count_mergeUsageCounts t s' hc, h.counters c hc]
    exact overlay_of_le (hs c) (hgrows c)
  refine ⟨hcounters, fun hparts => ?_⟩
  have hp := hcounters .promptTokens (by decide)
  have hc := hcounters .completionTokens (by decide)
  have hi := hcounters .inputTokens (by decide)
  have ho := hcounters .outputTokens (by decide)
  have htotal : overlay t.totalTokens s'.totalTokens = s'.totalTokens := by
    by_cases hpos : s'.totalTokens > 0
    · exact if_pos hpos
    · -- nothing has been reported so far
      have hzero : s.PartsWithin := by
        have h0 := hs .totalTokens
        have h1 := hgrows .promptTokens
        have h2 := hgrows .completionTokens
        have h3 := hgrows .inputTokens
        have h4 := hgrows .outputTokens
        simp only [UsageCounts.count] at h0 h1 h2 h3 h4
        unfold PartsWithin at hparts ⊢
        omega
      rw [h.total hzero]
      exact overlay_of_le (hs .totalTokens) (hgrows .totalTokens)
  simp only [UsageCounts.count] at hp hc hi ho
  have hsum : (mergeUsageCounts t s').totalTokens =
      raiseTotal (raiseTotal (overlay t.totalTokens s'.totalTokens) ((mergeUsageCounts t s').promptTokens +
        (mergeUsageCounts t s').completionTokens)) ((mergeUsageCounts t s').inputTokens +
        (mergeUsageCounts t s').outputTokens) := rfl
  rw [hsum, htotal, hp, hc, hi, ho, raiseTotal, raiseTotal, if_neg (not_lt.mpr hparts.1), if_neg (not_lt.mpr hparts.2)]

theorem mergeInputTokenDetails_again (c d : InputTokenDetails) :
    mergeInputTokenDetails (mergeInputTokenDetails c d) d = mergeInputTokenDetails c d := by
  simp [mergeInputTokenDetails, overlay_again]

theorem mergeOptionalDetails_again (c d : Option InputTokenDetails) :
    mergeOptionalDetails (mergeOptionalDetails c d) d = mergeOptionalDetails c d := by
  cases d with
  | none => rfl
  | some =>
    unfold mergeOptionalDetails
    dsimp only
    split_ifs with hr
    · rw [getD_some, mergeInputTokenDetails_again]
    · rfl

theorem mergeCost_again (c d : Option Cost) : mergeCost (mergeCost c d) d = mergeCost c d := by
  cases d with
  | none => rfl
  | some =>
    unfold mergeCost
    dsimp only
    split_ifs <;> rfl

theorem raiseTotal_again (a b p q : ℤ) :
    raiseTotal (raiseTotal (overlay (raiseTotal (raiseTotal (overlay a b) p) q) b) p) q =
      raiseTotal (raiseTotal (overlay a b) p) q := by
  unfold raiseTotal overlay
  split_ifs <;> omega

/-- **Merging the same report again changes nothing.** -/
theorem mergeUsageCounts_again (t s : UsageCounts) :
    mergeUsageCounts (mergeUsageCounts t s) s = mergeUsageCounts t s := by
  simp [mergeUsageCounts, overlay_again, overlayText_again, mergeInputTokenDetails_again, mergeOptionalDetails_again, mergeCost_again, raiseTotal_again, mergeOutputTokenDetails]

/-! ## Claude reports -/

/-- The counters as they are settled: the flat fields follow the object where the report has one. -/
def ClaudeCounts.settled (u : ClaudeCounts) : ClaudeCounter → ℤ
  | .claudeCacheCreation d => (u.cacheCreation.map (·.tokens d)).getD (u.flat d)
  | c => u.count c

def ClaudeCounts.Carries (t s : ClaudeCounts) : Prop := ∀ c, t.count c = s.settled c

theorem requests_mergeServerToolUse (t s : Option ClaudeServerToolUse) (k : ServerTool) :
    ((mergeServerToolUse t s).getD {}).requests k = overlay ((t.getD {}).requests k) ((s.getD {}).requests k) := by
  cases s <;> cases k <;> rfl

theorem flat_mergeClaudeCounts (t s : ClaudeCounts) (d : CacheTTL) :
    (mergeClaudeCounts t s).flat d = (s.cacheCreation.map (·.tokens d)).getD (overlay (t.flat d) (s.flat d)) := by
  cases d <;> cases hs : s.cacheCreation <;> simp only [flat, mergeClaudeCounts, hs] <;> rfl

theorem tokens_mergeClaudeCounts (t s : ClaudeCounts) (d : CacheTTL) :
    ((mergeClaudeCounts t s).cacheCreation.getD {}).tokens d =
      (s.cacheCreation.map (·.tokens d)).getD ((t.cacheCreation.getD {}).tokens d) := by
  cases hs : s.cacheCreation <;> simp only [mergeClaudeCounts, hs] <;> rfl

theorem ClaudeCounts.carries_merge {t s s' : ClaudeCounts} (h : t.Carries s) (hs : Counts count s)
    (hgrows : Grows count s s') : (mergeClaudeCounts t s').Carries s' := by
  have hkeep : ∀ c, s.settled c = s.count c → overlay (t.count c) (s'.count c) = s'.count c := by
    intro c hc
    rw [h c, hc]
    exact overlay_of_le (hs c) (hgrows c)
  -- without the object in the new report, the object so far holds zeros
  have hzero : s'.cacheCreation = none → ∀ d, (s.cacheCreation.getD {}).tokens d = 0 := by
    intro hnone d
    have h0 := hs (.cacheCreation d)
    have h1 := hgrows (.cacheCreation d)
    have hempty : (({} : ClaudeCacheCreationUsage)).tokens d = 0 := by cases d <;> rfl
    simp only [count, hnone, getD_none, hempty] at h0 h1
    omega
  intro c
  cases c with
  | cacheCreation d =>
    have ht : (t.cacheCreation.getD {}).tokens d = (s.cacheCreation.getD {}).tokens d := h (.cacheCreation d)
    rw [count, tokens_mergeClaudeCounts, ht]
    change _ = (s'.cacheCreation.getD {}).tokens d
    cases hc : s'.cacheCreation with
    | none =>
      rw [map_none, getD_none, hzero hc d]
      cases d <;> rfl
    | some => rfl
  | claudeCacheCreation d =>
    have ht : t.flat d = (s.cacheCreation.map (·.tokens d)).getD (s.flat d) := h (.claudeCacheCreation d)
    rw [count, flat_mergeClaudeCounts, settled, ht]
    cases hc : s'.cacheCreation with
    | none =>
      have h0 : 0 ≤ s.flat d := hs (.claudeCacheCreation d)
      have h1 : s.flat d ≤ s'.flat d := hgrows (.claudeCacheCreation d)
      cases ho : s.cacheCreation with
      | none => exact overlay_of_le h0 h1
      | some =>
        have hd := hzero hc d
        rw [ho, getD_some] at hd
        rw [map_some, getD_some, hd]
        exact overlay_of_le le_rfl (h0.trans h1)
    | some => rfl
  | serverToolUse k =>
    rw [count, mergeClaudeCounts, requests_mergeServerToolUse]
    exact hkeep (.serverToolUse k) rfl
  | inputTokens => exact hkeep .inputTokens rfl
  | cacheCreationInputTokens => exact hkeep .cacheCreationInputTokens rfl
  | cacheReadInputTokens => exact hkeep .cacheReadInputTokens rfl
  | outputTokens => exact hkeep .outputTokens rfl

theorem mergeServerToolUse_again (t s : Option ClaudeServerToolUse) :
    mergeServerToolUse (mergeServerToolUse t s) s = mergeServerToolUse t s := by
  cases s with
  | none => rfl
  | some => simp only [mergeServerToolUse, getD_some, overlay_again]

theorem mergeClaudeCounts_again (t s : ClaudeCounts) :
    mergeClaudeCounts (mergeClaudeCounts t s) s = mergeClaudeCounts t s := by
  cases hs : s.cacheCreation with
  | none | some => simp only [mergeClaudeCounts, hs, overlay_again, mergeServerToolUse_again]; rfl

/-! ## Gemini reports -/

def GeminiCounts.parts (m : GeminiCounts) : ℤ :=
  m.promptTokenCount + m.toolUsePromptTokenCount + m.candidatesTokenCount + m.thoughtsTokenCount

structure GeminiCounts.Carries (t s : GeminiCounts) : Prop where
  counters : ∀ c, c ≠ .totalTokenCount → t.count c = s.count c
  total : s.parts ≤ s.totalTokenCount → t.totalTokenCount = s.totalTokenCount

theorem GeminiCounts.carries_merge {t s s' : GeminiCounts} (h : t.Carries s) (hs : Counts GeminiCounts.count s)
    (hgrows : Grows GeminiCounts.count s s') : (mergeGeminiCounts t s').Carries s' := by
  have hkeep : ∀ c, c ≠ .totalTokenCount → overlay (t.count c) (s'.count c) = s'.count c := by
    intro c hc
    rw [h.counters c hc]
    exact overlay_of_le (hs c) (hgrows c)
  have hp := hkeep .promptTokenCount (by decide)
  have hu := hkeep .toolUsePromptTokenCount (by decide)
  have hc := hkeep .candidatesTokenCount (by decide)
  have hth : (mergeGeminiCounts t s').thoughtsTokenCount = s'.thoughtsTokenCount := by
    simp only [mergeGeminiCounts]
    split_ifs
    · rfl
    · exact hkeep .thoughtsTokenCount (by decide)
  refine ⟨fun c hc => ?_, fun hparts => ?_⟩
  · cases c with
    | totalTokenCount => exact absurd rfl hc
    | thoughtsTokenCount => exact hth
    | promptTokenCount => exact hp
    | toolUsePromptTokenCount => exact hu
    | candidatesTokenCount => exact hkeep .candidatesTokenCount (by decide)
    | cachedContentTokenCount => exact hkeep .cachedContentTokenCount (by decide)
  · have htotal : overlay t.totalTokenCount s'.totalTokenCount = s'.totalTokenCount := by
      by_cases hpos : s'.totalTokenCount > 0
      · exact if_pos hpos
      · -- nothing has been reported so far
        have hzero : s.parts ≤ s.totalTokenCount := by
          have h0 := hs .totalTokenCount
          have h1 := hgrows .promptTokenCount
          have h2 := hgrows .toolUsePromptTokenCount
          have h3 := hgrows .candidatesTokenCount
          have h4 := hgrows .thoughtsTokenCount
          simp only [GeminiCounts.count] at h0 h1 h2 h3 h4
          unfold GeminiCounts.parts at hparts ⊢
          omega
        rw [h.total hzero]
        exact overlay_of_le (hs .totalTokenCount) (hgrows .totalTokenCount)
    have hsum : (mergeGeminiCounts t s').totalTokenCount =
        raiseTotal (overlay t.totalTokenCount s'.totalTokenCount)
          ((mergeGeminiCounts t s').promptTokenCount + (mergeGeminiCounts t s').toolUsePromptTokenCount +
            (mergeGeminiCounts t s').candidatesTokenCount + (mergeGeminiCounts t s').thoughtsTokenCount) := rfl
    have hp' : (mergeGeminiCounts t s').promptTokenCount = s'.promptTokenCount := hp
    have hu' : (mergeGeminiCounts t s').toolUsePromptTokenCount = s'.toolUsePromptTokenCount := hu
    have hc' : (mergeGeminiCounts t s').candidatesTokenCount = s'.candidatesTokenCount := hc
    rw [hsum, htotal, hp', hu', hc', hth, raiseTotal]
    exact if_neg (not_lt.mpr hparts)

/-- A report without its details. -/
def GeminiCounts.bare (m : GeminiCounts) : GeminiCounts :=
  { m with promptTokensDetails := [], toolUsePromptTokensDetails := [], candidatesTokensDetails := [] }

/-! ## The details of Gemini reports -/

theorem modalityCount_append (key : String) (ds es : List GeminiPromptTokensDetails) :
    modalityCount key (ds ++ es) = modalityCount key ds + modalityCount key es := by
  unfold modalityCount
  rw [map_append, sum_append]

theorem modalityCount_cons (key : String) (d : GeminiPromptTokensDetails) (ds : List GeminiPromptTokensDetails) :
    modalityCount key (d :: ds) =
      (if normalizeGeminiModality d.modality = key then d.tokenCount else 0) + modalityCount key ds := by
  unfold modalityCount
  rw [map_cons, sum_cons]

variable {ds es : List GeminiPromptTokensDetails}

theorem modalityCount_addToModality {key k : String} {n : ℤ} (h : addToModality k n ds = some es) :
    modalityCount key es = modalityCount key ds + if k = key then n else 0 := by
  induction ds generalizing es with
  | nil => exact absurd h (by simp [addToModality])
  | cons d ds ih =>
    unfold addToModality at h
    cases hds : addToModality k n ds with
    | some =>
      rw [hds, Option.some.injEq] at h
      subst h
      rw [modalityCount_cons, modalityCount_cons, ih hds, add_assoc]
    | none =>
      rw [hds] at h
      split_ifs at h with hk
      cases h
      rw [modalityCount_cons, modalityCount_cons, hk]
      by_cases hkey : k = key
      · rw [if_pos hkey, if_pos hkey, if_pos hkey]
        ring
      · rw [if_neg hkey, if_neg hkey, if_neg hkey]
        ring

theorem modalityCount_mergeGeminiTokenDetail (key : String) (ds : List GeminiPromptTokensDetails)
    {d : GeminiPromptTokensDetails} (hd : 0 ≤ d.tokenCount) :
    modalityCount key (mergeGeminiTokenDetail ds d) = modalityCount key ds + modalityCount key [d] := by
  have hone : modalityCount key [d] = if normalizeGeminiModality d.modality = key then d.tokenCount else 0 := by
    exact add_zero _
  unfold mergeGeminiTokenDetail
  split_ifs with hpos
  · have hzero : d.tokenCount = 0 := by omega
    rw [hone, hzero, ite_self, add_zero]
  · cases hadd : addToModality (normalizeGeminiModality d.modality) d.tokenCount ds with
    | none => exact modalityCount_append key ds [d]
    | some => rw [getD_some, modalityCount_addToModality hadd, hone]

/-- **The merge adds up the tokens of each modality.** -/
theorem modalityCount_mergeGeminiTokenDetails (key : String) (ds : List GeminiPromptTokensDetails)
    (hes : ∀ d ∈ es, 0 ≤ d.tokenCount) :
    modalityCount key (mergeGeminiTokenDetails ds es) = modalityCount key ds + modalityCount key es := by
  unfold mergeGeminiTokenDetails
  induction es generalizing ds with
  | nil => exact (add_zero _).symm
  | cons d es ih =>
    have hd := modalityCount_mergeGeminiTokenDetail key ds (hes d mem_cons_self)
    rw [foldl_cons, ih _ fun e he => hes e (mem_cons_of_mem _ he), hd, add_assoc, ← modalityCount_append]
    rfl

/-- **The details of a stream are the sums over its reports.** -/
theorem modalityCount_foldl (key : String) (g : GeminiDetail) (m : GeminiUsageMetadata) (l : List GeminiUsageMetadata)
    (hl : ∀ s ∈ l, ∀ d ∈ s.details g, 0 ≤ d.tokenCount) :
    ∃ acc, l.foldl (fun t s => mergeGeminiUsageMetadataNonZero t (some s)) (some m) = some acc ∧
      modalityCount key (acc.details g) =
        modalityCount key (m.details g) + (l.map fun s => modalityCount key (s.details g)).sum := by
  induction l generalizing m with
  | nil => exact ⟨m, rfl, (add_zero _).symm⟩
  | cons s l ih =>
    obtain ⟨acc, hacc, hcount⟩ := ih
      { mergeGeminiCounts m.toGeminiCounts s.toGeminiCounts with
        billingUsage := mergeBillingUsageNonZero m.billingUsage s.billingUsage }
      fun s' hs' => hl s' (mem_cons_of_mem _ hs')
    refine ⟨acc, hacc, hcount.trans ?_⟩
    have hadd : modalityCount key ((mergeGeminiCounts m.toGeminiCounts s.toGeminiCounts).details g) =
        modalityCount key (m.details g) + modalityCount key (s.details g) := by
      have hs := hl s mem_cons_self
      cases g <;> exact modalityCount_mergeGeminiTokenDetails key _ hs
    rw [map_cons, sum_cons, ← add_assoc, ← hadd]

theorem bare_mergeGeminiCounts_self {t s : GeminiCounts} (h : t.Carries s) (hs : Counts GeminiCounts.count s)
    (hparts : s.parts ≤ s.totalTokenCount) : (mergeGeminiCounts t s).bare = t.bare := by
  have hagain := carries_merge h hs fun _ => le_rfl
  have hcount : ∀ c, (mergeGeminiCounts t s).count c = t.count c := by
    intro c
    by_cases hc : c = .totalTokenCount
    · subst hc
      exact (hagain.total hparts).trans (h.total hparts).symm
    · exact (hagain.counters c hc).trans (h.counters c hc).symm
  have h1 := hcount .promptTokenCount
  have h2 := hcount .toolUsePromptTokenCount
  have h3 := hcount .candidatesTokenCount
  have h4 := hcount .totalTokenCount
  have h5 := hcount .thoughtsTokenCount
  have h6 := hcount .cachedContentTokenCount
  simp only [GeminiCounts.count] at h1 h2 h3 h4 h5 h6
  simp [GeminiCounts.bare, h1, h2, h3, h4, h5, h6]

/-! ## What is settled -/

def Usage.InputWithinPrompt (u : Usage) : Prop :=
  u.promptTokensDetails.imageTokens ≤ u.promptTokens ∧ u.promptTokensDetails.audioTokens ≤ u.promptTokens ∧
    u.promptTokensDetails.textTokens ≤ u.promptTokens

instance (u : Usage) : Decidable u.InputWithinPrompt := by unfold Usage.InputWithinPrompt; infer_instance

def InputTokenDetails.modalities (d : InputTokenDetails) : ℤ := d.textTokens + d.audioTokens + d.imageTokens

/-- The prompt tokens, which a report of the Responses dialect calls input tokens. -/
def UsageCounts.prompt (u : UsageCounts) : ℤ := if u.promptTokens = 0 then u.inputTokens else u.promptTokens

/-- Both lists of input details add up to at most the prompt tokens. -/
def UsageCounts.DetailsWithin (u : UsageCounts) : Prop :=
  u.promptTokensDetails.modalities ≤ u.prompt ∧ (u.inputTokensDetails.getD {}).modalities ≤ u.prompt

theorem overlay_le {n : ℤ} (ha : a ≤ n) (hb : b ≤ n) : overlay a b ≤ n := by
  unfold overlay
  split_ifs <;> assumption

theorem prompt_canonicalOpenAIUsage (b : BillingUsage) {u : UsageCounts}
    (hu : ∀ c, c ≠ .totalTokens → 0 ≤ u.count c) : (b.canonicalOpenAIUsage u).promptTokens = u.prompt := by
  have hp := hu .promptTokens (by decide)
  have hi := hu .inputTokens (by decide)
  simp only [UsageCounts.count] at hp hi
  simp only [canonicalOpenAIUsage, UsageCounts.prompt]
  split_ifs <;> omega

theorem count_canonicalOpenAIUsage (b : BillingUsage) (u : UsageCounts) {k : InputDetail} (hk : k ≠ .cachedTokens) :
    (b.canonicalOpenAIUsage u).promptTokensDetails.count k = u.promptTokensDetails.count k ∨
      (b.canonicalOpenAIUsage u).promptTokensDetails.count k =
        overlay ((u.inputTokensDetails.getD {}).count k) (u.promptTokensDetails.count k) := by
  cases hd : u.inputTokensDetails with
  | none =>
    left
    simp only [canonicalOpenAIUsage, hd]
    split_ifs
    · cases k <;> first | exact absurd rfl hk | rfl
    · rfl
  | some =>
    right
    rw [getD_some, ← count_mergeInputTokenDetails]
    simp only [canonicalOpenAIUsage, hd]
    split_ifs
    · cases k <;> first | exact absurd rfl hk | rfl
    · rfl

theorem InputTokenDetails.count_le_modalities (hd : ∀ k, 0 ≤ d.count k) {k : InputDetail}
    (hk : k = .textTokens ∨ k = .audioTokens ∨ k = .imageTokens) : d.count k ≤ d.modalities := by
  have ht := hd .textTokens
  have ha := hd .audioTokens
  have hi := hd .imageTokens
  simp only [count] at ht ha hi
  unfold modalities
  rcases hk with rfl | rfl | rfl <;> simp only [count] <;> omega

/-- **The canonical usage of an OpenAI report** bills no kind of input token beyond the prompt tokens. -/
theorem inputWithinPrompt_openAI (b : BillingUsage) {u : UsageCounts} (hu : ∀ c, c ≠ .totalTokens → 0 ≤ u.count c)
    (hd : u.DetailsWithin) : (b.canonicalOpenAIUsage u).InputWithinPrompt := by
  have hle : ∀ k : InputDetail, k = .textTokens ∨ k = .audioTokens ∨ k = .imageTokens →
      (b.canonicalOpenAIUsage u).promptTokensDetails.count k ≤ (b.canonicalOpenAIUsage u).promptTokens := by
    intro k hk
    have hcached : k ≠ .cachedTokens := by rcases hk with rfl | rfl | rfl <;> decide
    have h1 := InputTokenDetails.count_le_modalities (fun k => hu (.promptTokensDetails k) nofun) hk
    have h2 := InputTokenDetails.count_le_modalities (fun k => hu (.inputTokensDetails k) nofun) hk
    rw [prompt_canonicalOpenAIUsage b hu]
    rcases count_canonicalOpenAIUsage b u hcached with h | h
    · rw [h]
      exact h1.trans hd.1
    · rw [h]
      exact overlay_le (h2.trans hd.2) (h1.trans hd.1)
  exact ⟨hle .imageTokens (.inr (.inr rfl)), hle .audioTokens (.inr (.inl rfl)), hle .textTokens (.inl rfl)⟩

theorem count_foldl_addGeminiInputTokenDetail (d : InputTokenDetails) (ds : List GeminiPromptTokensDetails) :
    (ds.foldl addGeminiInputTokenDetail d).imageTokens = d.imageTokens + modalityCount "IMAGE" ds ∧
      (ds.foldl addGeminiInputTokenDetail d).audioTokens = d.audioTokens + modalityCount "AUDIO" ds ∧
      (ds.foldl addGeminiInputTokenDetail d).textTokens = d.textTokens + modalityCount "TEXT" ds := by
  induction ds generalizing d with
  | nil => exact ⟨(add_zero _).symm, (add_zero _).symm, (add_zero _).symm⟩
  | cons e ds ih =>
    obtain ⟨hi, ha, ht⟩ := ih (addGeminiInputTokenDetail d e)
    rw [foldl_cons, hi, ha, ht, modalityCount_cons, modalityCount_cons, modalityCount_cons]
    unfold addGeminiInputTokenDetail
    split_ifs <;> simp_all [add_assoc]

def detailsTotal (ds : List GeminiPromptTokensDetails) : ℤ := (ds.map (·.tokenCount)).sum

/-- **The canonical usage of a Gemini report** bills no kind of input token beyond the prompt tokens. -/
theorem inputWithinPrompt_gemini (b : BillingUsage) {m : GeminiCounts}
    (hd : ∀ key, modalityCount key m.promptTokensDetails ≤ m.promptTokenCount ∧
      modalityCount key m.toolUsePromptTokensDetails ≤ m.toolUsePromptTokenCount) :
    (b.canonicalGeminiUsage m).InputWithinPrompt := by
  have hle : ∀ key, modalityCount key m.promptTokensDetails + modalityCount key m.toolUsePromptTokensDetails ≤
      m.promptTokenCount + m.toolUsePromptTokenCount := fun key => add_le_add (hd key).1 (hd key).2
  obtain ⟨hi, ha, ht⟩ := count_foldl_addGeminiInputTokenDetail
    (m.promptTokensDetails.foldl addGeminiInputTokenDetail { cachedTokens := m.cachedContentTokenCount })
    m.toolUsePromptTokensDetails
  obtain ⟨hi', ha', ht'⟩ := count_foldl_addGeminiInputTokenDetail { cachedTokens := m.cachedContentTokenCount }
    m.promptTokensDetails
  rw [hi', zero_add] at hi
  rw [ha', zero_add] at ha
  rw [ht', zero_add] at ht
  have hI := hle "IMAGE"
  have hA := hle "AUDIO"
  have hT := hle "TEXT"
  rw [← hi] at hI
  rw [← ha] at hA
  rw [← ht] at hT
  simp only [Usage.InputWithinPrompt, canonicalGeminiUsage]
  split_ifs
  · exact ⟨hI, hA, le_rfl⟩
  · exact ⟨hI, hA, hT⟩

variable {u : Usage}

theorem canonicalUsage_openAI {source : String} {c : UsageCounts}
    (h : (newOpenAIBillingUsage source c).bind (·.canonicalUsage) = some u) :
    ∃ b : BillingUsage, u = b.canonicalOpenAIUsage c := by
  unfold newOpenAIBillingUsage at h
  split_ifs at h with htok
  · have hsem : equalFold (GoText.trimSpace billingUsageSemanticOpenAI) billingUsageSemanticOpenAI = true := by
      decide
    simp only [bind_some, canonicalUsage, filter_some, htok, hsem, Bool.or_true,
      Bool.and_true, if_true, map_some] at h
    exact ⟨_, (Option.some.inj h).symm⟩
  · exact absurd h (by simp)

theorem BillingUsage.canonicalUsage_anthropic {b : BillingUsage} {c : ClaudeCounts}
    (hsem : b.semantic = billingUsageSemanticAnthropic) (ho : b.openAIUsage = none) (hc : b.claudeUsage = some c)
    (htok : hasClaudeUsageTokens c = true) : b.canonicalUsage = some (b.canonicalClaudeUsage c) := by
  have hfold : equalFold (GoText.trimSpace billingUsageSemanticAnthropic) billingUsageSemanticAnthropic = true := by
    decide
  simp only [canonicalUsage, ho, hc, hsem, filter_some, filter_none, map_none,
    htok, hfold, Bool.or_true, Bool.and_true, if_true, map_some]
  rfl

theorem canonicalUsage_claude {c : ClaudeCounts}
    (h : (newClaudeMessagesBillingUsage c).bind (·.canonicalUsage) = some u) :
    ∃ b : BillingUsage, u = b.canonicalClaudeUsage c := by
  unfold newClaudeMessagesBillingUsage at h
  split_ifs at h with htok
  · rw [bind_some, canonicalUsage_anthropic rfl rfl rfl htok] at h
    exact ⟨_, (Option.some.inj h).symm⟩
  · exact absurd h (by simp)

theorem canonicalUsage_gemini {c : GeminiCounts} (h : (newGeminiChatBillingUsage c).bind (·.canonicalUsage) = some u) :
    ∃ b : BillingUsage, u = b.canonicalGeminiUsage c := by
  unfold newGeminiChatBillingUsage at h
  split_ifs at h with htok
  · have hsem : equalFold (GoText.trimSpace billingUsageSemanticGemini) billingUsageSemanticGemini = true := by
      decide
    simp only [bind_some, canonicalUsage, filter_some, filter_none, map_none,
      htok, hsem, Bool.or_true, Bool.and_true, if_true, map_some] at h
    exact ⟨_, (Option.some.inj h).symm⟩
  · exact absurd h (by simp)

/-! ## Streams -/

def accumulateUsage (l : List Usage) : Option Usage :=
  l.foldl (fun t s => some (mergeUsageNonZero t (some s))) none

def accumulateClaudeUsage (l : List ClaudeUsage) : Option ClaudeUsage :=
  l.foldl (fun t s => some (mergeClaudeUsageNonZero t (some s))) none

def accumulateGeminiUsageMetadata (l : List GeminiUsageMetadata) : Option GeminiUsageMetadata :=
  l.foldl (fun t s => mergeGeminiUsageMetadataNonZero t (some s)) none

/-- What was accumulated from an OpenAI stream that ended with the report `last`. -/
structure Usage.Accumulated (acc last : Usage) : Prop where
  carries : acc.Carries last.toUsageCounts
  again : mergeUsageNonZero (some acc) (some last) =
    { acc with billingUsage := mergeBillingUsageNonZero acc.billingUsage last.billingUsage }
  within : last.DetailsWithin → ∀ source u,
    (newOpenAIBillingUsage source acc.toUsageCounts).bind (·.canonicalUsage) = some u → u.InputWithinPrompt

/-- What was accumulated from a Claude stream that ended with the report `last`. -/
structure ClaudeUsage.Accumulated (acc last : ClaudeUsage) : Prop where
  carries : acc.Carries last.toClaudeCounts
  again : mergeClaudeUsageNonZero (some acc) (some last) = acc
  within : ∀ u, (newClaudeMessagesBillingUsage acc.toClaudeCounts).bind (·.canonicalUsage) = some u →
    u.InputWithinPrompt

/-- What was accumulated from the Gemini stream `l` that ended with the report `last`. -/
structure GeminiUsageMetadata.Accumulated (acc : GeminiUsageMetadata) (l : List GeminiUsageMetadata)
    (last : GeminiUsageMetadata) : Prop where
  carries : acc.Carries last.toGeminiCounts
  details : ∀ g key, modalityCount key (acc.details g) = (l.map fun s => modalityCount key (s.details g)).sum
  again : last.parts ≤ last.totalTokenCount →
    ∃ acc', mergeGeminiUsageMetadataNonZero (some acc) (some last) = some acc' ∧ acc'.bare = acc.bare ∧
      acc'.billingUsage = mergeBillingUsageNonZero acc.billingUsage last.billingUsage
  within : (l.map fun s => detailsTotal s.promptTokensDetails).sum ≤ last.promptTokenCount →
    (l.map fun s => detailsTotal s.toolUsePromptTokensDetails).sum ≤ last.toolUsePromptTokenCount →
    ∀ u, (newGeminiChatBillingUsage acc.toGeminiCounts).bind (·.canonicalUsage) = some u → u.InputWithinPrompt

theorem UsageCounts.count_empty (c : UsageCounter) : ({} : UsageCounts).count c = 0 := by
  cases c with
  | promptTokensDetails d | inputTokensDetails d | completionTokenDetails d => cases d <;> rfl
  | _ => rfl

theorem UsageCounts.detailsWithin_of_carries {t s : UsageCounts} (h : t.Carries s) (hd : s.DetailsWithin) :
    t.DetailsWithin := by
  have hp := h.counters .promptTokens nofun
  have hi := h.counters .inputTokens nofun
  have h1 := h.counters (.promptTokensDetails .textTokens) nofun
  have h2 := h.counters (.promptTokensDetails .audioTokens) nofun
  have h3 := h.counters (.promptTokensDetails .imageTokens) nofun
  have h4 := h.counters (.inputTokensDetails .textTokens) nofun
  have h5 := h.counters (.inputTokensDetails .audioTokens) nofun
  have h6 := h.counters (.inputTokensDetails .imageTokens) nofun
  simp only [UsageCounts.count, InputTokenDetails.count] at hp hi h1 h2 h3 h4 h5 h6
  unfold DetailsWithin prompt InputTokenDetails.modalities at hd ⊢
  rw [hp, hi, h1, h2, h3, h4, h5, h6]
  exact hd

theorem accumulated_openAI (earlier : List Usage) (last : Usage)
    (h : Cumulative (fun s : Usage => s.count) (earlier ++ [last])) :
    ∃ acc, accumulateUsage (earlier ++ [last]) = some acc ∧ acc.Accumulated last := by
  have hlast : Counts (fun s : Usage => s.count) last := h.2 last (mem_append_right _ (mem_singleton_self _))
  have hcarries : ∃ acc, accumulateUsage (earlier ++ [last]) = some acc ∧ acc.Carries last.toUsageCounts := by
    refine foldl_latest (R := fun t s => ∃ acc : Usage, t = some acc ∧ acc.Carries s.toUsageCounts) ?_ ?_ earlier last h
    · intro s hs
      refine ⟨_, rfl, carries_merge (s := {}) (t := {}) ⟨fun _ _ => rfl, fun _ => rfl⟩ ?_ ?_⟩
      · exact fun c => (count_empty c).ge
      · exact fun c => (count_empty c).trans_le (hs c)
    · rintro u s _ ⟨acc, rfl, hacc⟩ hs hgrows
      exact ⟨_, rfl, carries_merge hacc hs hgrows⟩
  obtain ⟨acc, hacc, hcar⟩ := hcarries
  refine ⟨acc, hacc, hcar, ?_, fun hd source u hu => ?_⟩
  · -- the last merge was with the same report
    obtain ⟨t, ht⟩ : ∃ t, acc.toUsageCounts = mergeUsageCounts t last.toUsageCounts := by
      unfold accumulateUsage at hacc
      rw [foldl_append, foldl_cons, foldl_nil, Option.some.injEq] at hacc
      exact ⟨_, (congrArg Usage.toUsageCounts hacc).symm⟩
    have hagain : mergeUsageCounts acc.toUsageCounts last.toUsageCounts = acc.toUsageCounts := by
      rw [ht, mergeUsageCounts_again]
    simp [mergeUsageNonZero, hagain]
  · obtain ⟨b, rfl⟩ := canonicalUsage_openAI hu
    refine inputWithinPrompt_openAI b (fun c hc => ?_) (detailsWithin_of_carries hcar hd)
    rw [hcar.counters c hc]
    exact hlast c

theorem accumulated_claude (earlier : List ClaudeUsage) (last : ClaudeUsage)
    (h : Cumulative (fun s : ClaudeUsage => s.count) (earlier ++ [last])) :
    ∃ acc, accumulateClaudeUsage (earlier ++ [last]) = some acc ∧ acc.Accumulated last := by
  have hlast : Counts (fun s : ClaudeUsage => s.count) last :=
    h.2 last (mem_append_right _ (mem_singleton_self _))
  have hempty : ∀ c, ({} : ClaudeCounts).count c = 0 := by
    intro c
    cases c with
    | cacheCreation d | claudeCacheCreation d => cases d <;> rfl
    | serverToolUse t => cases t <;> rfl
    | _ => rfl
  have hcarries : ∃ acc, accumulateClaudeUsage (earlier ++ [last]) = some acc ∧ acc.Carries last.toClaudeCounts := by
    refine foldl_latest (R := fun t s => ∃ acc : ClaudeUsage, t = some acc ∧ acc.Carries s.toClaudeCounts) ?_ ?_
      earlier last h
    · intro s hs
      have hfirst : ({} : ClaudeCounts).Carries {} := fun c => by cases c <;> rfl
      refine ⟨_, rfl, carries_merge (s := {}) hfirst ?_ ?_⟩
      · exact fun c => (hempty c).ge
      · exact fun c => (hempty c).trans_le (hs c)
    · rintro u s _ ⟨acc, rfl, hacc⟩ hs hgrows
      exact ⟨_, rfl, carries_merge hacc hs hgrows⟩
  obtain ⟨acc, hacc, hcar⟩ := hcarries
  refine ⟨acc, hacc, hcar, ?_, fun u hu => ?_⟩
  · obtain ⟨t, rfl⟩ : ∃ t, acc = mergeClaudeUsageNonZero t (some last) := by
      unfold accumulateClaudeUsage at hacc
      rw [foldl_append, foldl_cons, foldl_nil, Option.some.injEq] at hacc
      exact ⟨_, hacc.symm⟩
    cases hb : last.billingUsage <;>
      simp only [mergeClaudeUsageNonZero, getD_some, mergeClaudeCounts_again, hb] <;> rfl
  · obtain ⟨b, rfl⟩ := canonicalUsage_claude hu
    have hinput : acc.inputTokens = last.inputTokens := hcar .inputTokens
    have hnonneg : 0 ≤ acc.inputTokens := hinput ▸ hlast .inputTokens
    exact ⟨hnonneg, hnonneg, hnonneg⟩

theorem accumulated_gemini (earlier : List GeminiUsageMetadata) (last : GeminiUsageMetadata)
    (h : Cumulative (fun s : GeminiUsageMetadata => s.count) (earlier ++ [last]))
    (hpos : ∀ s ∈ earlier ++ [last], ∀ g, ∀ d ∈ s.details g, 0 ≤ d.tokenCount) :
    ∃ acc, accumulateGeminiUsageMetadata (earlier ++ [last]) = some acc ∧ acc.Accumulated (earlier ++ [last]) last := by
  have hlast : Counts (fun s : GeminiUsageMetadata => s.count) last :=
    h.2 last (mem_append_right _ (mem_singleton_self _))
  have hcarries : ∃ acc, accumulateGeminiUsageMetadata (earlier ++ [last]) = some acc ∧
      acc.Carries last.toGeminiCounts := by
    refine foldl_latest (R := fun t s => ∃ acc : GeminiUsageMetadata, t = some acc ∧ acc.Carries s.toGeminiCounts)
      ?_ ?_ earlier last h
    · exact fun s _ => ⟨s, rfl, fun _ _ => rfl, fun _ => rfl⟩
    · rintro u s _ ⟨acc, rfl, hacc⟩ hs hgrows
      exact ⟨_, rfl, carries_merge hacc hs hgrows⟩
  obtain ⟨acc, hacc, hcar⟩ := hcarries
  have hdetails : ∀ g key, modalityCount key (acc.details g) =
      ((earlier ++ [last]).map fun s => modalityCount key (s.details g)).sum := by
    intro g key
    cases hl : earlier ++ [last] with
    | nil => exact absurd hl (by simp)
    | cons s l =>
      obtain ⟨acc', hacc', hsum⟩ := modalityCount_foldl key g s l fun x hx =>
        hpos x (by rw [hl]; exact mem_cons_of_mem _ hx) g
      have heq : some acc' = some acc := by
        rw [← hacc', ← hacc, hl]
        rfl
      cases heq
      rw [hsum, map_cons, sum_cons]
  refine ⟨acc, hacc, hcar, hdetails, fun hparts => ?_, fun hp hu u hsettled => ?_⟩
  · exact ⟨_, rfl, bare_mergeGeminiCounts_self hcar hlast hparts, rfl⟩
  · obtain ⟨b, rfl⟩ := canonicalUsage_gemini hsettled
    have hle : ∀ g key, modalityCount key (acc.details g) ≤
        ((earlier ++ [last]).map fun s => detailsTotal (s.details g)).sum := by
      intro g key
      rw [hdetails g key]
      refine sum_le_sum fun s hs => sum_le_sum fun d hd => ?_
      have h0 := hpos s hs g d hd
      split_ifs
      · exact le_rfl
      · exact h0
    refine inputWithinPrompt_gemini b fun key => ⟨?_, ?_⟩
    · have hprompt : acc.promptTokenCount = last.promptTokenCount := hcar.counters .promptTokenCount nofun
      rw [hprompt]
      exact (hle .promptTokensDetails key).trans hp
    · have htool : acc.toolUsePromptTokenCount = last.toolUsePromptTokenCount :=
        hcar.counters .toolUsePromptTokenCount nofun
      rw [htool]
      exact (hle .toolUsePromptTokensDetails key).trans hu

/-- **The accumulated usage of a stream is the last report of the provider**, in each of the three dialects. -/
theorem accumulated_stream_usage :
    (∀ (earlier : List Usage) (last : Usage), Cumulative (fun s : Usage => s.count) (earlier ++ [last]) →
      ∃ acc, accumulateUsage (earlier ++ [last]) = some acc ∧ acc.Accumulated last) ∧
    (∀ (earlier : List ClaudeUsage) (last : ClaudeUsage),
      Cumulative (fun s : ClaudeUsage => s.count) (earlier ++ [last]) →
      ∃ acc, accumulateClaudeUsage (earlier ++ [last]) = some acc ∧ acc.Accumulated last) ∧
    ∀ (earlier : List GeminiUsageMetadata) (last : GeminiUsageMetadata),
      Cumulative (fun s : GeminiUsageMetadata => s.count) (earlier ++ [last]) →
      (∀ s ∈ earlier ++ [last], ∀ g, ∀ d ∈ s.details g, 0 ≤ d.tokenCount) →
      ∃ acc, accumulateGeminiUsageMetadata (earlier ++ [last]) = some acc ∧
        acc.Accumulated (earlier ++ [last]) last :=
  ⟨accumulated_openAI, accumulated_claude, accumulated_gemini⟩

def imagePromptReport (candidates : ℤ) : GeminiUsageMetadata :=
  { promptTokenCount := 100, candidatesTokenCount := candidates, totalTokenCount := 100 + candidates
    promptTokensDetails := [⟨"IMAGE", 60⟩, ⟨"TEXT", 40⟩] }

/-- The first report has the details of the prompt, the second adds none. -/
theorem accumulated_stream_usage_of_increments :
    (∃ acc, accumulateUsage [{ promptTokens := 7 }, { promptTokens := 7, completionTokens := 2, totalTokens := 9 }] =
      some acc ∧ acc.Accumulated { promptTokens := 7, completionTokens := 2, totalTokens := 9 }) ∧
    (∃ acc, accumulateClaudeUsage [{ inputTokens := 7 }, { inputTokens := 7, outputTokens := 2 }] = some acc ∧
      acc.Accumulated { inputTokens := 7, outputTokens := 2 }) ∧
    ∃ acc, accumulateGeminiUsageMetadata
        [imagePromptReport 0, { promptTokenCount := 100, candidatesTokenCount := 5, totalTokenCount := 105 }] =
      some acc ∧ acc.Accumulated
        [imagePromptReport 0, { promptTokenCount := 100, candidatesTokenCount := 5, totalTokenCount := 105 }]
        { promptTokenCount := 100, candidatesTokenCount := 5, totalTokenCount := 105 } := by
  refine ⟨accumulated_stream_usage.1 [_] _ (cumulative_pair ?_ ?_),
    accumulated_stream_usage.2.1 [_] _ (cumulative_pair ?_ ?_),
    accumulated_stream_usage.2.2 [_] _ (cumulative_pair ?_ ?_) ?_⟩
  · intro c
    cases c <;> first | decide | (rename_i d; cases d <;> decide)
  · intro c
    cases c <;> first | decide | (rename_i d; cases d <;> decide)
  · intro c
    cases c <;> first | decide | (rename_i d; cases d <;> decide)
  · intro c
    cases c <;> first | decide | (rename_i d; cases d <;> decide)
  · intro c
    cases c <;> decide
  · intro c
    cases c <;> decide
  · intro s hs g
    rcases mem_cons.mp hs with rfl | hs
    · cases g <;> decide
    · rw [mem_singleton.mp hs]
      cases g <;> decide

/-- Two cumulative reports on one prompt: its details are counted twice. -/
theorem gemini_details_counted_twice :
    Cumulative (fun s : GeminiUsageMetadata => s.count) [imagePromptReport 0, imagePromptReport 5] ∧
    ∃ acc u, accumulateGeminiUsageMetadata [imagePromptReport 0, imagePromptReport 5] = some acc ∧
      modalityCount "IMAGE" acc.promptTokensDetails = 120 ∧
      modalityCount "IMAGE" (imagePromptReport 5).promptTokensDetails = 60 ∧
      mergeGeminiUsageMetadataNonZero (some acc) (some (imagePromptReport 5)) ≠ some acc ∧
      (newGeminiChatBillingUsage acc.toGeminiCounts).bind (·.canonicalUsage) = some u ∧
      u.promptTokens = 100 ∧ u.promptTokensDetails.imageTokens = 120 := by
  refine ⟨cumulative_pair (fun c => by cases c <;> decide) (fun c => by cases c <;> decide), ?_⟩
  let acc : GeminiUsageMetadata :=
    { imagePromptReport 5 with promptTokensDetails := [⟨"IMAGE", 120⟩, ⟨"TEXT", 80⟩] }
  have hu : ((newGeminiChatBillingUsage acc.toGeminiCounts).bind (·.canonicalUsage)).isSome = true := by
    decide
  obtain ⟨u, hu⟩ := isSome_iff_exists.mp hu
  refine ⟨acc, u, by decide, by decide, by decide, by decide, hu, ?_, ?_⟩
  · have hp : ((newGeminiChatBillingUsage acc.toGeminiCounts).bind (·.canonicalUsage)).map (·.promptTokens) =
        some 100 := by decide
    rw [hu] at hp
    exact Option.some.inj hp
  · have hi : ((newGeminiChatBillingUsage acc.toGeminiCounts).bind (·.canonicalUsage)).map
        (·.promptTokensDetails.imageTokens) = some 120 := by decide
    rw [hu] at hi
    exact Option.some.inj hi

end Desktop2Stereo.Accounting
