import Desktop2Stereo.Billing.UsageMerge

/-!
# Desktop2Stereo: the two accumulators of a Claude stream

* `Mirrors`: what the accumulator of the stream has in common with the merged reports;
* **`claude_stream_billed_as_merged`**: they are billed alike, but for the cache writes that no event splits.
-/

namespace Desktop2Stereo.Accounting

open Option ClaudeCounts

/-! ## What is billed -/

structure BilledCounts where
  input : ℤ := 0
  output : ℤ := 0
  cacheRead : ℤ := 0
  cacheCreation : ℤ := 0
  fiveMinutes : ℤ := 0
  oneHour : ℤ := 0
  deriving DecidableEq

namespace BilledCounts

def Nonneg (c : BilledCounts) : Prop :=
  0 ≤ c.input ∧ 0 ≤ c.output ∧ 0 ≤ c.cacheRead ∧ 0 ≤ c.cacheCreation ∧ 0 ≤ c.fiveMinutes ∧ 0 ≤ c.oneHour

instance : DecidablePred Nonneg := fun _ => inferInstanceAs (Decidable (_ ∧ _))

def overlay (c d : BilledCounts) : BilledCounts where
  input := Accounting.overlay c.input d.input
  output := Accounting.overlay c.output d.output
  cacheRead := Accounting.overlay c.cacheRead d.cacheRead
  cacheCreation := Accounting.overlay c.cacheCreation d.cacheCreation
  fiveMinutes := Accounting.overlay c.fiveMinutes d.fiveMinutes
  oneHour := Accounting.overlay c.oneHour d.oneHour

/-- The cache writes that are not split count as five-minute ones. -/
def normalized (c : BilledCounts) : BilledCounts :=
  let split := normalizeCacheCreationSplit c.cacheCreation c.fiveMinutes c.oneHour
  { c with fiveMinutes := split.1, oneHour := split.2 }

theorem Nonneg.overlay {c d : BilledCounts} (h : c.Nonneg) : (c.overlay d).Nonneg := by
  simp only [Nonneg, BilledCounts.overlay, Accounting.overlay] at h ⊢
  omega

theorem Nonneg.overlay_zero {c : BilledCounts} (h : c.Nonneg) : ({} : BilledCounts).overlay c = c := by
  cases c
  simp only [Nonneg, BilledCounts.overlay, Accounting.overlay, mk.injEq] at h ⊢
  omega

theorem Nonneg.normalized_eq_zero {c : BilledCounts} (h : c.Nonneg) : c.normalized = {} ↔ c = {} := by
  cases c
  simp only [Nonneg, normalized, normalizeCacheCreationSplit, mk.injEq] at h ⊢
  omega

end BilledCounts

def Usage.billed (u : Usage) : BilledCounts where
  input := u.promptTokens
  output := u.completionTokens
  cacheRead := u.promptTokensDetails.cachedTokens
  cacheCreation := u.promptTokensDetails.cachedCreationTokens
  fiveMinutes := u.claudeCacheCreation5mTokens
  oneHour := u.claudeCacheCreation1hTokens

def ClaudeCounts.reported (u : ClaudeCounts) : BilledCounts where
  input := u.inputTokens
  output := u.outputTokens
  cacheRead := u.cacheReadInputTokens
  cacheCreation := u.cacheCreationInputTokens
  fiveMinutes := u.getCacheCreation5mTokens
  oneHour := u.getCacheCreation1hTokens

def billedBy (b : Option BillingUsage) : Option BilledCounts := (b.bind (·.canonicalUsage)).map (·.billed)

/-- The flat fields say nothing that the object does not. -/
def ClaudeCounts.FlatFollows (u : ClaudeCounts) : Prop :=
  (u.claudeCacheCreation5mTokens = 0 ∨ u.claudeCacheCreation5mTokens = u.getCacheCreation5mTokens) ∧
    (u.claudeCacheCreation1hTokens = 0 ∨ u.claudeCacheCreation1hTokens = u.getCacheCreation1hTokens)

theorem ClaudeCounts.FlatFollows.billed {u : ClaudeCounts} (h : u.FlatFollows) (b : BillingUsage) :
    (b.canonicalClaudeUsage u).billed = u.reported := by
  simp only [Usage.billed, reported, BillingUsage.canonicalClaudeUsage, FlatFollows, getCacheCreation5mTokens,
    getCacheCreation1hTokens, BilledCounts.mk.injEq, true_and] at h ⊢
  cases hc : u.cacheCreation <;> simp_all

theorem ClaudeCounts.FlatFollows.silent {u : ClaudeCounts} (h : u.FlatFollows) :
    hasClaudeUsageTokens u = false ↔ u.reported = {} := by
  simp only [reported, hasClaudeUsageTokens, FlatFollows, getCacheCreation5mTokens, getCacheCreation1hTokens,
    BilledCounts.mk.injEq] at h ⊢
  cases hc : u.cacheCreation <;> simp_all <;> omega

theorem billedBy_newClaude {u : ClaudeCounts} (h : u.FlatFollows) (e : Bool) :
    billedBy ((newClaudeMessagesBillingUsage u).map fun b => { b with estimated := b.estimated || e }) =
      if u.reported = {} then none else some u.reported := by
  unfold billedBy newClaudeMessagesBillingUsage
  by_cases htok : hasClaudeUsageTokens u = true
  · have hne : u.reported ≠ {} := fun hz => absurd (h.silent.mpr hz) (by rw [htok]; decide)
    rw [if_pos htok, if_neg hne, map_some, bind_some,
      BillingUsage.canonicalUsage_anthropic rfl rfl rfl htok, map_some, h.billed]
  · rw [if_neg htok, if_pos (h.silent.mp (Bool.not_eq_true _ ▸ htok))]
    rfl

/-! ## Streams -/

/-- A report as a provider sends it: the cache writes are split in the object only. -/
structure ClaudeUsage.Plain (u : ClaudeUsage) : Prop where
  nonneg : u.reported.Nonneg
  flat5m : u.claudeCacheCreation5mTokens = 0
  flat1h : u.claudeCacheCreation1hTokens = 0
  sidecar : u.billingUsage = none

/-- The object of the report `v`, if it has one, takes no part of the split back to zero. -/
def ClaudeCounts.KeptBy (u v : ClaudeCounts) : Prop :=
  v.cacheCreation ≠ none → (0 < u.getCacheCreation5mTokens → 0 < v.getCacheCreation5mTokens) ∧
    (0 < u.getCacheCreation1hTokens → 0 < v.getCacheCreation1hTokens)

/-- The state that a `message_start` and `message_delta` events leave. -/
def streamed (start : Option ClaudeStartedMessage) (deltas : List (Option ClaudeUsage)) : ClaudeResponseInfo :=
  deltas.foldl (fun info u => (formatClaudeResponseInfo (.messageDelta u) info).2)
    (formatClaudeResponseInfo (.messageStart start) {}).2

def reportsOf (start : Option ClaudeStartedMessage) (deltas : List (Option ClaudeUsage)) : List ClaudeUsage :=
  (start.bind (·.usage)).toList ++ deltas.reduceOption

/-- The state after the reports `l`, beside what is merged from them. -/
structure Mirrors (l : List ClaudeUsage) (info : ClaudeResponseInfo) (acc : ClaudeCounts) : Prop where
  synthesized : (info.usage.billingUsage.isSome && !info.billingUsageSynthesized) = false
  billed : info.usage.billed = acc.reported
  nonneg : acc.reported.Nonneg
  flat : acc.FlatFollows
  kept : ∀ v, (∀ u ∈ l, u.KeptBy v) → acc.KeptBy v

variable {l : List ClaudeUsage} {info : ClaudeResponseInfo} {acc : ClaudeCounts} {u : ClaudeUsage}

theorem mirrors_empty : Mirrors [] {} {} :=
  ⟨rfl, rfl, by decide, ⟨.inl rfl, .inl rfl⟩, fun _ _ _ => ⟨(absurd · (lt_irrefl 0)), (absurd · (lt_irrefl 0))⟩⟩

theorem reported_merge (hacc : acc.reported.Nonneg) (hu : u.Plain) (hk : acc.KeptBy u.toClaudeCounts) :
    (mergeClaudeCounts acc u.toClaudeCounts).reported = acc.reported.overlay u.reported := by
  have hn := hu.nonneg
  simp only [reported, BilledCounts.overlay, mergeClaudeCounts, BilledCounts.Nonneg, KeptBy,
    getCacheCreation5mTokens, getCacheCreation1hTokens, BilledCounts.mk.injEq] at *
  cases hc : u.cacheCreation with
  | none => simp_all [overlay]
  | some c =>
    simp_all [overlay]
    omega

theorem Mirrors.reads {info' : ClaudeResponseInfo} (h : Mirrors l info acc) (hu : u.Plain)
    (hk : ∀ v ∈ l, v.KeptBy u.toClaudeCounts)
    (hs : (info'.usage.billingUsage.isSome && !info'.billingUsageSynthesized) = false)
    (hb : info'.usage.billed = info.usage.billed.overlay u.reported) :
    Mirrors (l ++ [u]) info' (mergeClaudeCounts acc u.toClaudeCounts) := by
  have hmerge := reported_merge h.nonneg hu (h.kept _ hk)
  refine ⟨hs, by rw [hb, h.billed, hmerge], hmerge ▸ h.nonneg.overlay, ?_, fun v hv => ?_⟩
  · have hflat := h.flat
    simp only [FlatFollows, mergeClaudeCounts, getCacheCreation5mTokens, getCacheCreation1hTokens] at hflat ⊢
    cases hc : u.cacheCreation with
    | none => simpa [hu.flat5m, hu.flat1h, overlay] using hflat
    | some c => simp
  · have hkept := h.kept v fun w hw => hv w (List.mem_append_left _ hw)
    have hlast := hv u (by simp)
    simp only [KeptBy, mergeClaudeCounts, getCacheCreation5mTokens, getCacheCreation1hTokens] at hkept hlast ⊢
    cases hc : u.cacheCreation with
    | none => simpa using hkept
    | some c => simpa [hc] using hlast

theorem update_plain (info : ClaudeResponseInfo) (hu : u.billingUsage = none) (terminal : Bool)
    (hs : (info.usage.billingUsage.isSome && !info.billingUsageSynthesized) = false) :
    ∃ b, updateClaudeStreamBillingUsage u info terminal =
      { info with usage := { info.usage with billingUsage := b }, billingUsageSynthesized := b.isSome } := by
  simp only [updateClaudeStreamBillingUsage, hu, hs, Bool.false_eq_true, if_false]
  exact ⟨_, rfl⟩

theorem Mirrors.delta (h : Mirrors l info acc) (hu : u.Plain) (hk : ∀ v ∈ l, v.KeptBy u.toClaudeCounts) :
    Mirrors (l ++ [u]) (formatClaudeResponseInfo (.messageDelta (some u)) info).2
      (mergeClaudeCounts acc u.toClaudeCounts) := by
  obtain ⟨b, hb⟩ := update_plain { info with usage := deltaClaudeUsage u info.usage } hu.sidecar true
    h.synthesized
  simp only [formatClaudeResponseInfo, elim_some, hb]
  exact h.reads hu hk (Bool.and_not_self _) rfl

theorem mirrors_start (start : Option ClaudeStartedMessage) (hplain : ∀ u ∈ start.bind (·.usage), u.Plain) :
    Mirrors (start.bind (·.usage)).toList (formatClaudeResponseInfo (.messageStart start) {}).2
      ((accumulateClaudeUsage (start.bind (·.usage)).toList).getD {}).toClaudeCounts := by
  rcases start with - | ⟨id, model, - | u⟩
  · exact mirrors_empty
  · exact { mirrors_empty with }
  · have hu : u.Plain := hplain u rfl
    obtain ⟨b, hb⟩ := update_plain { responseId := id, model, usage := startClaudeUsage u {} } hu.sidecar false
      rfl
    simp only [formatClaudeResponseInfo, elim_some, hb]
    exact mirrors_empty.reads hu (by simp) (Bool.and_not_self _) hu.nonneg.overlay_zero.symm

theorem mirrors_deltas (deltas : List (Option ClaudeUsage)) : ∀ {l info} {acc : Option ClaudeUsage},
    Mirrors l info (acc.getD {}).toClaudeCounts → (∀ u ∈ deltas.reduceOption, u.Plain) →
    (l ++ deltas.reduceOption).Pairwise (fun u v => u.KeptBy v.toClaudeCounts) →
    Mirrors (l ++ deltas.reduceOption)
      (deltas.foldl (fun info u => (formatClaudeResponseInfo (.messageDelta u) info).2) info)
      ((deltas.reduceOption.foldl (fun t s => some (mergeClaudeUsageNonZero t (some s))) acc).getD {}).toClaudeCounts := by
  induction deltas with
  | nil => exact fun h _ _ => by rwa [List.reduceOption_nil, List.append_nil]
  | cons u deltas ih =>
    intro l info acc h hplain hkept
    cases u with
    | none => exact ih { h with } hplain hkept
    | some u =>
      rw [List.reduceOption_cons_of_some] at hplain hkept ⊢
      have hk := fun v hv => (List.pairwise_append.mp hkept).2.2 v hv u List.mem_cons_self
      rw [List.append_cons] at hkept ⊢
      exact ih (h.delta (hplain u List.mem_cons_self) hk)
        (fun v hv => hplain v (List.mem_cons_of_mem u hv)) hkept

/-! ## The two snapshots -/

theorem reported_fromSemanticUsage {c : Usage} (h : c.billed.Nonneg) :
    (claudeUsageFromSemanticUsage c.toUsageCounts).reported = c.billed.normalized := by
  have hsplit : 0 ≤ c.billed.normalized.fiveMinutes ∧ 0 ≤ c.billed.normalized.oneHour := by
    simp only [BilledCounts.normalized, normalizeCacheCreationSplit, BilledCounts.Nonneg] at h ⊢
    omega
  simp only [reported, claudeUsageFromSemanticUsage, Usage.billed, BilledCounts.normalized,
    getCacheCreation5mTokens, getCacheCreation1hTokens, BilledCounts.mk.injEq,
    true_and] at hsplit ⊢
  split_ifs with hs
  · exact ⟨rfl, rfl⟩
  · simp only [map_none, getD_none]
    omega

theorem Mirrors.snapshot (h : Mirrors l info acc) :
    billedBy (finalizeClaudeStreamBillingUsage info).usage.billingUsage =
      (billedBy (newClaudeMessagesBillingUsage acc)).map (·.normalized) := by
  have hacc := billedBy_newClaude h.flat false
  simp only [Bool.or_false, map_id_fun', id] at hacc
  have hsynth := reported_fromSemanticUsage (c := info.usage) (h.billed ▸ h.nonneg)
  simp only [finalizeClaudeStreamBillingUsage, h.synthesized, Bool.false_eq_true, if_false,
    claudeBillingUsageFromSemanticUsage]
  rw [billedBy_newClaude ⟨.inl rfl, .inl rfl⟩, hacc, hsynth, h.billed, apply_ite (Option.map _)]
  simp [h.nonneg.normalized_eq_zero]

/-- **The stream is billed as its merged reports are, with the cache writes that no event splits as five-minute ones.**
Where the merged split stays within the total, the two parts add up to it. -/
theorem claude_stream_billed_as_merged (start : Option ClaudeStartedMessage) (deltas : List (Option ClaudeUsage))
    (hplain : ∀ u ∈ reportsOf start deltas, u.Plain)
    (hkept : (reportsOf start deltas).Pairwise fun u v => u.KeptBy v.toClaudeCounts) :
    let stream := billedBy (finalizeClaudeStreamBillingUsage (streamed start deltas)).usage.billingUsage
    let merged := billedBy (newClaudeMessagesBillingUsage
      ((accumulateClaudeUsage (reportsOf start deltas)).getD {}).toClaudeCounts)
    stream = merged.map (·.normalized) ∧
      ∀ m ∈ merged, m.fiveMinutes + m.oneHour ≤ m.cacheCreation →
        ∀ c ∈ stream, c.fiveMinutes + c.oneHour = c.cacheCreation := by
  intro stream merged
  have hstart := mirrors_start start fun u hu => hplain u (List.mem_append_left _ (mem_toList.mpr hu))
  have hrun := mirrors_deltas deltas hstart (fun u hu => hplain u (List.mem_append_right _ hu)) hkept
  have heq : stream = merged.map (·.normalized) := by
    simp only [stream, merged, accumulateClaudeUsage, reportsOf, List.foldl_append]
    exact hrun.snapshot
  refine ⟨heq, fun m hm hle c hc => ?_⟩
  rw [heq, mem_def.mp hm] at hc
  cases hc
  simp only [BilledCounts.normalized, normalizeCacheCreationSplit]
  omega

theorem claude_stream_billed_split_later :
    billedBy (finalizeClaudeStreamBillingUsage (streamed
      (some { usage := some { inputTokens := 9, cacheCreationInputTokens := 100 } })
      [none, some { outputTokens := 4, cacheCreation := some ⟨30, 70⟩ }])).usage.billingUsage =
        some ⟨9, 4, 0, 100, 30, 70⟩ := by
  refine (claude_stream_billed_as_merged _ _ (fun u hu => ?_) ?_).1.trans (by decide)
  · obtain rfl | rfl := List.mem_pair.mp hu
    all_goals exact ⟨by decide, rfl, rfl, rfl⟩
  · exact List.pairwise_pair.mpr fun _ => by decide

/-- The cache writes of a lone `message_start` without an object are five-minute ones for the stream only. -/
theorem claude_stream_billed_apart :
    billedBy (finalizeClaudeStreamBillingUsage (streamed
      (some { usage := some { cacheCreationInputTokens := 100 } }) [])).usage.billingUsage =
        some ⟨0, 0, 0, 100, 100, 0⟩ ∧
    billedBy (newClaudeMessagesBillingUsage ((accumulateClaudeUsage (reportsOf
      (some { usage := some { cacheCreationInputTokens := 100 } }) [])).getD {}).toClaudeCounts) =
        some ⟨0, 0, 0, 100, 0, 0⟩ := by
  decide

end Desktop2Stereo.Accounting
