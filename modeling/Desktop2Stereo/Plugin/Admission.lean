import Desktop2Stereo.Lib.Claims
import Desktop2Stereo.Plugin.Namespaces

/-!
# Admission of plugins to a generation

A plugin claims slots: the folded names of its models, its channel types, the shapes of its routes and its endpoints.
The indexes of a generation keep the first claim on each slot, and building a generation fails just when two claims on
one slot disagree. Hot updates are admitted greedily: first what is served unchanged, then changed and new plugins;
last, the current plugin of a key whose update was rejected. A changed or new plugin can have taken a slot of that
current plugin by then.

* `Takes`, `IndexOutcome`: one index step and a loop of them; **`indexPlugins_ok_iff`**;
* `admit_run`, `fallback_run`: the loops refine `Claims.greedy`;
* **`admission_retains_incumbents_iff`**.
-/

namespace Desktop2Stereo

open Checked Claims List RoutingIndexes KeyedMap LoadedPlugin Admission

/-! ## Claims -/

inductive RoutingSlot
  | model (folded : String)
  | channelType (n : ℤ)
  | route (indexKey : String)
  | endpoint (indexKey : String)
  deriving DecidableEq

inductive RoutingTerms
  | named (model : String)
  | exclusive
  | shared (legacy : Bool) (protocol : String)
  deriving DecidableEq

structure RoutingClaim where
  slot : RoutingSlot
  terms : RoutingTerms
  deriving DecidableEq

/-- One spelling of a model; legacy providers of one protocol share an endpoint; nothing else is shared. -/
def RoutingTerms.Agrees : RoutingTerms → RoutingTerms → Prop
  | .named a, .named b => a = b
  | .shared l p, .shared l' p' => l = true ∧ l' = true ∧ p = p'
  | _, _ => False

instance (t t' : RoutingTerms) : Decidable (t.Agrees t') := by
  cases t <;> cases t' <;> unfold RoutingTerms.Agrees <;> infer_instance

theorem RoutingTerms.Agrees.symm {a b : RoutingTerms} (h : a.Agrees b) : b.Agrees a := by
  cases a <;> cases b <;> simp_all [RoutingTerms.Agrees]

theorem RoutingTerms.Agrees.trans {a b c : RoutingTerms} (h : a.Agrees b) (h' : a.Agrees c) : b.Agrees c := by
  cases a <;> cases b <;> cases c <;> simp_all [RoutingTerms.Agrees]

def routeKey (route : Route) : String :=
  match routePathShape route.path with
  | .ok shape => route.method ++ " " ++ shape
  | .error _ => ""

def modelClaim (model : String) : RoutingClaim := ⟨.model (asciiFold model), .named model⟩

def channelClaim (n : ℤ) : Option RoutingClaim :=
  if n = 0 ∨ n = channelTypeTaskPlugin then none else some ⟨.channelType n, .exclusive⟩

def routeClaim (route : Route) : RoutingClaim := ⟨.route (routeKey route), .exclusive⟩

def endpointClaim (plugin : LoadedPlugin) (e : String × ProtocolBinding) : RoutingClaim :=
  ⟨.endpoint (endpointIndexKey e.1 e.2.operation.path e.2.model), .shared (decide plugin.Legacy) e.2.protocol⟩

/-- The claims of a plugin, in the order in which they are indexed. -/
def claims (p : LoadedPlugin) : List RoutingClaim :=
  p.manifest.models.map modelClaim ++ p.manifest.channelTypes.filterMap channelClaim ++
    p.manifest.routes.map routeClaim ++ (endpoints p).map (endpointClaim p)

def ConsistentClaims (l : List RoutingClaim) : Prop :=
  Claims.Consistent RoutingClaim.slot (fun a b => a.terms.Agrees b.terms) l

instance (l : List RoutingClaim) : Decidable (ConsistentClaims l) := by
  unfold ConsistentClaims Claims.Consistent
  infer_instance

def Coherent (p : LoadedPlugin) : Prop := ConsistentClaims (claims p)

instance : DecidablePred Coherent := fun p => by
  unfold Coherent
  infer_instance

def Conflict (p q : LoadedPlugin) : Prop :=
  ∃ a ∈ claims p, ∃ b ∈ claims q, a.slot = b.slot ∧ ¬ a.terms.Agrees b.terms

instance : DecidableRel Conflict := fun p q => by
  unfold Conflict
  infer_instance

theorem Conflict.symm {p q : LoadedPlugin} (h : Conflict p q) : Conflict q p := by
  obtain ⟨a, ha, b, hb, hslot, hne⟩ := h
  exact ⟨b, hb, a, ha, hslot.symm, fun h => hne h.symm⟩

/-- Plugins that can be served together. -/
def Compatible (plugins : List LoadedPlugin) : Prop :=
  (∀ p ∈ plugins, Coherent p) ∧ plugins.Pairwise fun p q => ¬ Conflict p q

variable {plugins : List LoadedPlugin}

theorem consistent_flatMap : ConsistentClaims (plugins.flatMap claims) ↔ Compatible plugins := by
  rw [ConsistentClaims, Claims.Consistent, pairwise_flatMap]
  refine and_congr Iff.rfl (List.Pairwise.iff fun {p q} => ?_)
  simp [Conflict]

variable {l l' : List LoadedPlugin}

theorem Compatible.perm (h : Compatible l) (hp : l.Perm l') : Compatible l' :=
  ⟨fun p hm => h.1 p (hp.mem_iff.mpr hm), (hp.pairwise_iff fun hn hc => hn hc.symm).mp h.2⟩

theorem Compatible.not_conflict (h : Compatible l) {p q : LoadedPlugin} (hp : p ∈ l) (hq : q ∈ l) (hne : p ≠ q) :
    ¬ Conflict p q := by
  have : Std.Symm fun p q : LoadedPlugin => ¬ Conflict p q := ⟨fun _ _ hn hc => hn hc.symm⟩
  exact h.2.forall hp hq hne

theorem Compatible.subset (h : Compatible l) (hnodup : l'.Nodup) (hsub : ∀ p ∈ l', p ∈ l) : Compatible l' :=
  ⟨fun p hp => h.1 p (hsub p hp), hnodup.pairwise_of_forall_ne fun p hp q hq => h.not_conflict (hsub p hp) (hsub q hq)⟩

/-! ## Indexes -/

def RoutingIndexes.terms (idx : RoutingIndexes) : RoutingSlot → Option RoutingTerms
  | .model folded => (idx.canonicalModelByFold.lookup folded).map .named
  | .channelType n => (idx.byChannelType.lookup n).map fun _ => .exclusive
  | .route indexKey => (idx.routeIndex.lookup indexKey).map fun _ => .exclusive
  | .endpoint indexKey =>
    (idx.protocolIndex.lookup indexKey).map fun b => .shared (decide b.plugin.Legacy) b.protocol

def Represents (idx : RoutingIndexes) (made : List RoutingClaim) : Prop :=
  ∀ k, idx.terms k = (holder RoutingClaim.slot made k).map RoutingClaim.terms

/-- One step makes one claim: it fails if the slot is held on terms that do not agree, and else the claim is added. -/
def Takes (idx : RoutingIndexes) (c : RoutingClaim) (r : Except RoutingErr RoutingIndexes) : Prop :=
  if ∀ t, idx.terms c.slot = some t → t.Agrees c.terms then
    ∃ idx', r = .ok idx' ∧ ∀ k, idx'.terms k = (idx.terms k).or (if c.slot = k then some c.terms else none)
  else ∃ e, r = .error e

variable {idx : RoutingIndexes} {c : RoutingClaim} {r : Except RoutingErr RoutingIndexes}

theorem takes_of_none (h : idx.terms c.slot = none)
    (hr : ∃ idx', r = .ok idx' ∧ ∀ k, idx'.terms k = (idx.terms k).or (if c.slot = k then some c.terms else none)) :
    Takes idx c r := by
  rw [Takes, if_pos fun t ht => by rw [h] at ht; cases ht]
  exact hr

theorem takes_of_agrees {t : RoutingTerms} (h : idx.terms c.slot = some t) (ht : t.Agrees c.terms)
    (hr : ∃ idx', r = .ok idx' ∧ ∀ k, idx'.terms k = idx.terms k) : Takes idx c r := by
  rw [Takes, if_pos fun t' ht' => by rw [h] at ht'; cases ht'; exact ht]
  obtain ⟨idx', rfl, hk⟩ := hr
  refine ⟨idx', rfl, fun k => ?_⟩
  rw [hk]
  split_ifs with hs
  · rw [← hs, h]
    rfl
  · rw [Option.or_none]

theorem takes_of_not {t : RoutingTerms} {e : RoutingErr} (h : idx.terms c.slot = some t) (ht : ¬ t.Agrees c.terms) :
    Takes idx c (.error e) := by
  rw [Takes, if_neg fun hall => ht (hall t h)]
  exact ⟨e, rfl⟩

theorem lookup_concat {α β : Type} [DecidableEq α] (l : List (α × β)) (a : α) (b : β) (k : α) :
    (l ++ [(a, b)]).lookup k = (l.lookup k).or (if a = k then some b else none) := by
  rw [lookup_append, lookup_cons]
  congr 1
  by_cases h : a = k
  · simp [h]
  · simp [h, beq_eq_false_iff_ne.mpr (Ne.symm h)]

section Steps

variable (plugin : LoadedPlugin) (idx : RoutingIndexes)

theorem terms_ownModel (model : String) (k : RoutingSlot) : (ownModel plugin idx model).terms k = idx.terms k := by
  unfold ownModel
  split
  · rfl
  · cases k <;> rfl

theorem canonical_ownModel (model : String) :
    (ownModel plugin idx model).canonicalModelByFold = idx.canonicalModelByFold := by
  unfold ownModel
  split <;> rfl

theorem takes_indexModel (model : String) : Takes idx (modelClaim model) (indexModel plugin idx model) := by
  unfold indexModel
  dsimp only
  rw [canonical_ownModel]
  cases h : idx.canonicalModelByFold.lookup (asciiFold model) with
  | none =>
    refine takes_of_none (by simp [modelClaim, terms, h]) ⟨_, rfl, fun k => ?_⟩
    rw [← terms_ownModel plugin idx model k]
    cases k with
    | model =>
      simp only [terms, lookup_concat, canonical_ownModel, modelClaim, RoutingSlot.model.injEq,
        Option.map_or]
      split_ifs <;> rfl
    | channelType | route | endpoint => simp [terms, modelClaim]
  | some existing =>
    have hheld : idx.terms (modelClaim model).slot = some (.named existing) := by
      simp [modelClaim, terms, h]
    dsimp only
    split_ifs with heq
    · exact takes_of_agrees hheld heq ⟨_, rfl, terms_ownModel plugin idx model⟩
    · exact takes_of_not hheld heq

theorem takes_indexChannelType {n : ℤ} {c : RoutingClaim} (hc : channelClaim n = some c) :
    Takes idx c (indexChannelType plugin idx n) := by
  unfold channelClaim at hc
  unfold indexChannelType
  split_ifs at hc ⊢ with hn
  cases hc
  cases h : idx.byChannelType.lookup n with
  | none =>
    refine takes_of_none (by simp [terms, h]) ⟨_, rfl, fun k => ?_⟩
    cases k with
    | channelType =>
      simp only [terms, lookup_concat, RoutingSlot.channelType.injEq, Option.map_or]
      split_ifs <;> rfl
    | model | route | endpoint => simp [terms]
  | some => exact takes_of_not (t := .exclusive) (by simp [terms, h]) (by simp [RoutingTerms.Agrees])

theorem takes_indexRoute {route : Route} (hr : route ∈ plugin.manifest.routes) :
    Takes idx (routeClaim route) (indexRoute plugin idx route) := by
  obtain ⟨_, hvalid⟩ := plugin.routesValid route hr
  obtain ⟨shape, hshape⟩ : ∃ shape, routePathShape route.path = .ok shape := by
    rw [routePathShape, (validateRoute_ok hvalid).1]
    exact ⟨_, rfl⟩
  have hkey : routeKey route = route.method ++ " " ++ shape := by rw [routeKey, hshape]
  unfold indexRoute
  rw [hshape]
  dsimp only
  rw [← hkey]
  cases h : idx.routeIndex.lookup (routeKey route) with
  | none =>
    refine takes_of_none (by simp [routeClaim, terms, h]) ⟨_, rfl, fun k => ?_⟩
    cases k with
    | route =>
      simp only [terms, lookup_concat, routeClaim, RoutingSlot.route.injEq, Option.map_or]
      split_ifs <;> rfl
    | model | channelType | endpoint => simp [terms, routeClaim]
  | some =>
    exact takes_of_not (t := .exclusive) (by simp [routeClaim, terms, h]) (by simp [RoutingTerms.Agrees])

theorem takes_indexEndpoint {e : String × ProtocolBinding} (he : e.2.plugin = plugin) :
    Takes idx (endpointClaim plugin e) (indexEndpoint plugin idx e) := by
  unfold indexEndpoint
  dsimp only
  have hadded : ∀ k, ({ idx with protocolIndex := idx.protocolIndex ++
      [(endpointIndexKey e.1 e.2.operation.path e.2.model, e.2)] } : RoutingIndexes).terms k =
      (idx.terms k).or (if (endpointClaim plugin e).slot = k then some (endpointClaim plugin e).terms else none) := by
    intro k
    cases k with
    | endpoint =>
      simp only [terms, lookup_concat, endpointClaim, RoutingSlot.endpoint.injEq, Option.map_or]
      split_ifs
      · simp [he]
      · rfl
    | model | channelType | route => simp [terms, endpointClaim]
  cases h : idx.protocolIndex.lookup (endpointIndexKey e.1 e.2.operation.path e.2.model) with
  | none => exact takes_of_none (by simp [endpointClaim, terms, h]) ⟨_, rfl, hadded⟩
  | some other =>
    have hheld : idx.terms (endpointClaim plugin e).slot = some (.shared (decide other.plugin.Legacy) other.protocol) := by
      simp [endpointClaim, terms, h]
    dsimp only
    split_ifs with hok
    · refine takes_of_agrees hheld ⟨decide_eq_true hok.1.2, decide_eq_true hok.1.1, hok.2.symm⟩ ⟨_, rfl, fun k => ?_⟩
      rw [hadded k]
      split_ifs with hk
      · rw [← hk, hheld]
        rfl
      · rw [Option.or_none]
    · refine takes_of_not hheld fun hag => hok ⟨⟨?_, ?_⟩, hag.2.2.symm⟩
      · exact of_decide_eq_true hag.2.1
      · exact of_decide_eq_true hag.1

end Steps

/-- What comes of making claims after others: the index of all of them, or an error where they do not agree. -/
def IndexOutcome (made : List RoutingClaim) (r : Except RoutingErr RoutingIndexes) (new : List RoutingClaim) : Prop :=
  (∃ idx, r = .ok idx ∧ Represents idx (made ++ new) ∧ ConsistentClaims (made ++ new)) ∨
    ((∃ e, r = .error e) ∧ ¬ ConsistentClaims (made ++ new))

section Outcomes

variable {made new : List RoutingClaim} {idx : RoutingIndexes} {r : Except RoutingErr RoutingIndexes}

theorem outcome_nil (hrep : Represents idx made) (hcons : ConsistentClaims made) : IndexOutcome made (.ok idx) [] := by
  rw [IndexOutcome, append_nil]
  exact .inl ⟨idx, rfl, hrep, hcons⟩

theorem Takes.outcome {c : RoutingClaim} (h : Takes idx c r) (hrep : Represents idx made) (hcons : ConsistentClaims made) :
    IndexOutcome made r [c] := by
  have hconcat : Claims.Consistent RoutingClaim.slot (fun a b => a.terms.Agrees b.terms) (made ++ [c]) ↔ _ :=
    consistent_concat fun hab hac => hab.trans hac
  have hterms : (∀ t, idx.terms c.slot = some t → t.Agrees c.terms) ↔
      ∀ a, holder RoutingClaim.slot made c.slot = some a → a.terms.Agrees c.terms := by
    rw [hrep c.slot]
    simp
  unfold Takes at h
  split_ifs at h with hok
  · obtain ⟨idx', rfl, hidx'⟩ := h
    refine .inl ⟨idx', rfl, fun k => ?_, hconcat.mpr ⟨hcons, hterms.mp hok⟩⟩
    rw [hidx' k, holder_concat, hrep k, Option.map_or]
    split_ifs <;> rfl
  · exact .inr ⟨h, fun hc => hok (hterms.mpr (hconcat.mp hc).2)⟩

theorem IndexOutcome.bind {f : RoutingIndexes → Except RoutingErr RoutingIndexes} {new' : List RoutingClaim}
    (h : IndexOutcome made r new)
    (hf : ∀ idx, Represents idx (made ++ new) → ConsistentClaims (made ++ new) → IndexOutcome (made ++ new) (f idx) new') :
    IndexOutcome made (r >>= f) (new ++ new') := by
  rw [IndexOutcome, ← append_assoc]
  rcases h with ⟨idx, rfl, hrep, hcons⟩ | ⟨⟨e, rfl⟩, hcons⟩
  · exact hf idx hrep hcons
  · exact .inr ⟨⟨e, rfl⟩, fun hc => hcons (pairwise_append.mp hc).1⟩

theorem outcome_foldlM {ι : Type} {f : RoutingIndexes → ι → Except RoutingErr RoutingIndexes}
    {g : ι → List RoutingClaim} {l : List ι}
    (hf : ∀ made idx i, i ∈ l → Represents idx made → ConsistentClaims made → IndexOutcome made (f idx i) (g i))
    (hrep : Represents idx made) (hcons : ConsistentClaims made) : IndexOutcome made (l.foldlM f idx) (l.flatMap g) := by
  induction l generalizing made idx with
  | nil => exact outcome_nil hrep hcons
  | cons i l ih =>
    rw [foldlM_cons, flatMap_cons]
    exact (hf made idx i mem_cons_self hrep hcons).bind fun idx' hrep' hcons' =>
      ih (fun made idx j hj => hf made idx j (mem_cons_of_mem i hj)) hrep' hcons'

end Outcomes

theorem plugin_of_endpoints {plugin : LoadedPlugin} {e : String × ProtocolBinding} (h : e ∈ endpoints plugin) :
    e.2.plugin = plugin := by
  simp only [endpoints, mem_flatMap] at h
  obtain ⟨_, -, operation, -, h⟩ := h
  by_cases hfield : operation.modelField = ""
  · rw [if_pos hfield] at h
    simp at h
  · rw [if_neg hfield] at h
    obtain ⟨_, -, h⟩ := mem_flatMap.mp h
    obtain ⟨_, -, rfl⟩ := mem_map.mp h
    rfl

theorem outcome_indexPlugin {made : List RoutingClaim} (plugin : LoadedPlugin) (hrep : Represents idx made)
    (hcons : ConsistentClaims made) : IndexOutcome made (indexPlugin idx plugin) (claims plugin) := by
  have hclaims : claims plugin = (plugin.manifest.models.flatMap fun m => [modelClaim m]) ++
      ((plugin.manifest.channelTypes.flatMap fun n => (channelClaim n).toList) ++
      ((plugin.manifest.routes.flatMap fun r => [routeClaim r]) ++
      (endpoints plugin).flatMap fun e => [endpointClaim plugin e])) := by
    simp only [claims, append_assoc, map_eq_flatMap, filterMap_eq_flatMap_toList]
  rw [hclaims, indexPlugin]
  refine (outcome_foldlM (fun _ _ model _ hr hc => (takes_indexModel plugin _ model).outcome hr hc) hrep hcons).bind
    fun idx1 hrep1 hcons1 => ?_
  refine (outcome_foldlM (fun made idx n _ hr hc => ?_) hrep1 hcons1).bind fun idx2 hrep2 hcons2 => ?_
  · cases hn : channelClaim n with
    | none =>
      have hskip : indexChannelType plugin idx n = .ok idx := by
        unfold channelClaim at hn
        unfold indexChannelType
        split_ifs at hn ⊢
        rfl
      rw [hskip]
      exact outcome_nil hr hc
    | some => exact (takes_indexChannelType plugin idx hn).outcome hr hc
  refine (outcome_foldlM (fun _ _ route hroute hr hc => (takes_indexRoute plugin _ hroute).outcome hr hc) hrep2 hcons2).bind
    fun idx3 hrep3 hcons3 => ?_
  exact outcome_foldlM (fun _ _ e he hr hc => (takes_indexEndpoint plugin _ (plugin_of_endpoints he)).outcome hr hc)
    hrep3 hcons3

/-- **The plugins can be indexed just when no two of their claims on one slot disagree.** -/
theorem indexPlugins_ok_iff : (∃ idx, indexPlugins plugins = .ok idx) ↔ Compatible plugins := by
  have hempty : Represents {} [] := fun k => by cases k <;> rfl
  have hout := outcome_foldlM (l := plugins) (f := indexPlugin) (g := claims)
    (fun _ _ p _ hr hc => outcome_indexPlugin p hr hc) hempty List.Pairwise.nil
  rw [IndexOutcome, nil_append, consistent_flatMap] at hout
  rcases hout with ⟨idx, hidx, -, hc⟩ | ⟨⟨e, he⟩, hc⟩
  · exact iff_of_true ⟨idx, hidx⟩ hc
  · refine iff_of_false (fun ⟨idx, hidx⟩ => ?_) hc
    rw [indexPlugins, he] at hidx
    cases hidx

/-! ## Building a generation -/

theorem build_cases (m : Layer) (number : ℕ) :
    (∃ g, buildRoutingGenerationFromPlugins m number = .ok g ∧ g.plugins = m.sorted ∧ g.number = number ∧
      Compatible m.values) ∨
    ((∃ e, buildRoutingGenerationFromPlugins m number = .error e) ∧ ¬ Compatible m.values) := by
  have hperm : Compatible m.sorted ↔ Compatible m.values :=
    ⟨fun h => h.perm m.perm_sorted, fun h => h.perm m.perm_sorted.symm⟩
  rw [← hperm, ← indexPlugins_ok_iff]
  unfold buildRoutingGenerationFromPlugins
  split
  next idx h => exact .inl ⟨_, rfl, rfl, rfl, idx, h⟩
  next e h => exact .inr ⟨⟨e, rfl⟩, fun ⟨idx, hidx⟩ => by rw [h] at hidx; cases hidx⟩

theorem RoutingGeneration.compatible (g : RoutingGeneration) : Compatible g.plugins :=
  indexPlugins_ok_iff.mp ⟨g.indexes, g.indexed⟩

theorem compatible_concat {c : LoadedPlugin} (h : Compatible l) :
    Compatible (l ++ [c]) ↔ Coherent c ∧ ∀ a ∈ l, ¬ Conflict a c := by
  unfold Compatible
  rw [pairwise_append]
  constructor
  · rintro ⟨hc, -, -, hp⟩
    exact ⟨hc c (mem_append_right l mem_cons_self), fun a ha => hp a ha c mem_cons_self⟩
  · rintro ⟨hc, hp⟩
    refine ⟨fun p hm => ?_, h.2, pairwise_singleton _ _, fun a ha b hb => mem_singleton.mp hb ▸ hp a ha⟩
    rcases mem_append.mp hm with hm | hm
    · exact h.1 p hm
    · exact mem_singleton.mp hm ▸ hc

/-! ## The loops of admission -/

def Admission.Serves (number : ℕ) (s : Admission) : Prop :=
  s.generation.plugins = s.accepted.sorted ∧ s.generation.number = number

theorem Admission.Serves.compatible {number : ℕ} {s : Admission} (h : s.Serves number) : Compatible s.accepted.values :=
  (h.1 ▸ s.generation.compatible).perm s.accepted.perm_sorted

section Admission

variable {number : ℕ} {s : Admission} {c : LoadedPlugin}

theorem try_cases (h : s.Serves number) (hkey : ∀ a ∈ s.accepted.values, a.key ≠ c.key) :
    ((Coherent c ∧ ∀ a ∈ s.accepted.values, ¬ Conflict a c) ∧
      ∃ g, buildRoutingGenerationFromPlugins (s.accepted.put c) number = .ok g ∧
        g.plugins = (s.accepted.put c).sorted ∧ g.number = number) ∨
    (¬ (Coherent c ∧ ∀ a ∈ s.accepted.values, ¬ Conflict a c) ∧
      ∃ e, buildRoutingGenerationFromPlugins (s.accepted.put c) number = .error e) := by
  rw [← compatible_concat h.compatible, ← values_put hkey]
  rcases build_cases (s.accepted.put c) number with ⟨g, hg, hplugins, hnumber, hc⟩ | ⟨he, hc⟩
  · exact .inl ⟨hc, g, hg, hplugins, hnumber⟩
  · exact .inr ⟨hc, he⟩

/-- What the first loop has done with some candidates. -/
structure Tried (number : ℕ) (s : Admission) (cs : List LoadedPlugin) (s' : Admission) : Prop where
  serves : s'.Serves number
  accepted : s'.accepted.values = greedy Coherent Conflict s.accepted.values cs
  rejected : s'.rejected = s.rejected ++ cs.filter fun c => c ∉ greedy Coherent Conflict s.accepted.values cs
  errors : s'.routingErrors.map Prod.fst = s.routingErrors.map Prod.fst ++
    (cs.filter fun c => c ∉ greedy Coherent Conflict s.accepted.values cs).map key

theorem admit_tried (h : s.Serves number) (hkey : ∀ a ∈ s.accepted.values, a.key ≠ c.key) :
    Tried number s [c] (s.consider number c) := by
  have hmem : c ∉ s.accepted.values := fun hc => hkey c hc rfl
  unfold consider
  dsimp only
  rcases try_cases h hkey with ⟨hfit, g, hg, hserves⟩ | ⟨hfit, e, he⟩
  · rw [hg]
    have hgreedy : greedy Coherent Conflict s.accepted.values [c] = s.accepted.values ++ [c] := by
      rw [greedy, if_pos hfit]
      rfl
    refine ⟨hserves, ?_, ?_, ?_⟩
    · rw [hgreedy]
      exact values_put hkey
    · simp [hgreedy]
    · simp [hgreedy]
  · rw [he]
    have hgreedy : greedy Coherent Conflict s.accepted.values [c] = s.accepted.values := by
      rw [greedy, if_neg hfit]
      rfl
    have herase : (s.accepted.put c).erase c.key = s.accepted := erase_put hkey
    refine ⟨?_, ?_, ?_, ?_⟩
    · rw [herase]
      exact h
    · rw [hgreedy, herase]
    · simp [hgreedy, hmem]
    · simp [hgreedy, hmem]

variable {cs : List LoadedPlugin}

theorem admit_run (h : s.Serves number) (hnodup : (cs.map key).Nodup)
    (hkey : ∀ c ∈ cs, ∀ a ∈ s.accepted.values, a.key ≠ c.key) :
    Tried number s cs (cs.foldl (consider number) s) := by
  induction cs generalizing s with
  | nil => exact ⟨h, rfl, by simp, by simp⟩
  | cons c cs ih =>
    obtain ⟨hc, hnodup⟩ := nodup_cons.mp hnodup
    have h1 := admit_tried h (hkey c mem_cons_self)
    have hmem : ∀ a ∈ greedy Coherent Conflict s.accepted.values [c], a ∈ s.accepted.values ∨ a = c := fun a ha =>
      (mem_of_greedy ha).imp_right mem_singleton.mp
    have hkey1 : ∀ d ∈ cs, ∀ a ∈ (s.consider number c).accepted.values, a.key ≠ d.key := by
      intro d hd a ha
      rw [h1.accepted] at ha
      rcases hmem a ha with ha | rfl
      · exact hkey d (mem_cons_of_mem c hd) a ha
      · exact fun heq => hc (heq ▸ mem_map_of_mem hd)
    have h2 := ih h1.serves hnodup hkey1
    have hgreedy : greedy Coherent Conflict s.accepted.values (c :: cs) =
        greedy Coherent Conflict (s.consider number c).accepted.values cs := by
      rw [h1.accepted, ← greedy_append]
      rfl
    -- whether `c` is rejected is decided at once
    have hfirst : c ∈ greedy Coherent Conflict s.accepted.values (c :: cs) ↔
        c ∈ greedy Coherent Conflict s.accepted.values [c] := by
      rw [hgreedy, h1.accepted]
      refine ⟨fun hm => (mem_of_greedy hm).resolve_right fun hm => hc (mem_map_of_mem hm), subset_greedy⟩
    have hfilter : ((c :: cs).filter fun d => d ∉ greedy Coherent Conflict s.accepted.values (c :: cs)) =
        ([c].filter fun d => d ∉ greedy Coherent Conflict s.accepted.values [c]) ++
          cs.filter fun d => d ∉ greedy Coherent Conflict (s.consider number c).accepted.values cs := by
      rw [filter_cons, filter_singleton, ← hgreedy]
      by_cases hm : c ∈ greedy Coherent Conflict s.accepted.values [c]
      · simp [hfirst, hm]
      · simp [hfirst, hm]
    refine ⟨h2.serves, hgreedy ▸ h2.accepted, ?_, ?_⟩
    · rw [hfilter, foldl_cons, h2.rejected, h1.rejected, append_assoc]
    · rw [hfilter, foldl_cons, h2.errors, h1.errors, map_append, append_assoc]

/-- The current plugin that is tried in the place of a rejected candidate. -/
def retained (current : Option RoutingGeneration) (retainCurrent : List String) (c : LoadedPlugin) : Option LoadedPlugin :=
  (current.bind fun g => g.get? c.key).filter fun i => c.key ∈ retainCurrent ∧ i ≠ c

variable {current : Option RoutingGeneration}

theorem incumbent_spec {key : String} {i : LoadedPlugin} :
    (current.bind fun g => g.get? key) = some i ↔ (∃ g, current = some g ∧ i ∈ g.plugins) ∧ i.key = key := by
  cases current with
  | none => simp
  | some g =>
    have h := get?_eq_some (m := (⟨g.plugins, g.nodup⟩ : Layer)) (k := key) (a := i)
    simpa [RoutingGeneration.get?, get?] using h

theorem retained_eq_some {retainCurrent : List String} {i : LoadedPlugin} :
    retained current retainCurrent c = some i ↔
      ((∃ g, current = some g ∧ i ∈ g.plugins) ∧ i.key = c.key) ∧ c.key ∈ retainCurrent ∧ i ≠ c := by
  rw [retained, Option.filter_eq_some_iff, incumbent_spec, decide_eq_true_eq]

/-- What the second loop has done with some rejected candidates. -/
structure Retried (number : ℕ) (s : Admission) (incumbents : List LoadedPlugin) (s' : Admission) : Prop where
  serves : s'.Serves number
  accepted : s'.accepted.values = greedy Coherent Conflict s.accepted.values incumbents
  errors : s'.routingErrors = s.routingErrors

theorem fallback_retried (h : s.Serves number) (hkey : ∀ a ∈ s.accepted.values, a.key ≠ c.key)
    (current : Option RoutingGeneration) (retainCurrent : List String) :
    Retried number s (retained current retainCurrent c).toList (s.fallback number current retainCurrent c) := by
  unfold fallback retained
  cases hi : current.bind fun g => g.get? c.key with
  | none => exact ⟨h, rfl, rfl⟩
  | some i =>
    have hikey : i.key = c.key := (incumbent_spec.mp hi).2
    by_cases hr : c.key ∉ retainCurrent ∨ i = c
    · have hfilter : (some i).filter (fun i => decide (c.key ∈ retainCurrent ∧ i ≠ c)) = none := by
        rw [Option.filter_some_neg]
        simpa [imp_iff_not_or] using hr
      rw [hfilter]
      simp only [if_pos hr]
      exact ⟨h, rfl, rfl⟩
    · have hfilter : (some i).filter (fun i => decide (c.key ∈ retainCurrent ∧ i ≠ c)) = some i := by
        rw [Option.filter_some_pos]
        simpa [not_or] using hr
      rw [hfilter]
      simp only [if_neg hr]
      rw [← hikey] at hkey ⊢
      rcases try_cases h hkey with ⟨hfit, g, hg, hserves⟩ | ⟨hfit, e, he⟩
      · rw [hg]
        refine ⟨hserves, ?_, rfl⟩
        rw [Option.toList_some, greedy, if_pos hfit]
        exact values_put hkey
      · rw [he]
        have herase : (s.accepted.put i).erase i.key = s.accepted := erase_put hkey
        refine ⟨?_, ?_, rfl⟩
        · rw [herase]
          exact h
        · rw [Option.toList_some, greedy, if_neg hfit, herase]
          rfl

theorem fallback_run (h : s.Serves number) (hnodup : (cs.map key).Nodup)
    (hkey : ∀ c ∈ cs, ∀ a ∈ s.accepted.values, a.key ≠ c.key) (current : Option RoutingGeneration)
    (retainCurrent : List String) :
    Retried number s (cs.filterMap (retained current retainCurrent))
      (cs.foldl (fallback number current retainCurrent) s) := by
  induction cs generalizing s with
  | nil => exact ⟨h, rfl, rfl⟩
  | cons c cs ih =>
    obtain ⟨hc, hnodup⟩ := nodup_cons.mp hnodup
    have h1 := fallback_retried h (hkey c mem_cons_self) current retainCurrent
    have hkey1 : ∀ d ∈ cs, ∀ a ∈ (s.fallback number current retainCurrent c).accepted.values, a.key ≠ d.key := by
      intro d hd a ha
      rw [h1.accepted] at ha
      rcases mem_of_greedy ha with ha | ha
      · exact hkey d (mem_cons_of_mem c hd) a ha
      · rw [(retained_eq_some.mp (Option.mem_toList.mp ha)).1.2]
        exact fun heq => hc (heq ▸ mem_map_of_mem hd)
    have h2 := ih h1.serves hnodup hkey1
    have hlist : (c :: cs).filterMap (retained current retainCurrent) =
        (retained current retainCurrent c).toList ++ cs.filterMap (retained current retainCurrent) := by
      rw [filterMap_cons]
      cases retained current retainCurrent c with
      | none => rfl
      | some => rfl
    refine ⟨h2.serves, ?_, h2.errors.trans h1.errors⟩
    rw [hlist, greedy_append, ← h1.accepted]
    exact h2.accepted

end Admission

/-! ## The generation that is built -/

section Built

variable (factory override : Layer) (overrideEnabled : Bool) (current : Option RoutingGeneration)
  (retainCurrent : List String)

abbrev candidatePlugins : List LoadedPlugin := (effectivePlugins factory override overrideEnabled).values

def admittedPlugins : List LoadedPlugin :=
  greedy Coherent Conflict [] (orderedCandidates (effectivePlugins factory override overrideEnabled) current)

def rejectedPlugins : List LoadedPlugin :=
  (orderedCandidates (effectivePlugins factory override overrideEnabled) current).filter fun c =>
    c ∉ admittedPlugins factory override overrideEnabled current

def triedIncumbents : List LoadedPlugin :=
  (rejectedPlugins factory override overrideEnabled current).filterMap (retained current retainCurrent)

variable {factory override overrideEnabled current retainCurrent}

theorem perm_orderedCandidates (candidates : Layer) : (orderedCandidates candidates current).Perm candidates.values := by
  have hrest := filter_append_perm (fun p : LoadedPlugin => decide ((current.bind fun g => g.get? p.key) ≠ none))
    (candidates.sorted.filter fun p => !decide ((current.bind fun g => g.get? p.key) = some p))
  have hall := filter_append_perm
    (fun p : LoadedPlugin => decide ((current.bind fun g => g.get? p.key) = some p)) candidates.sorted
  refine List.Perm.trans ?_ (hall.trans candidates.perm_sorted)
  unfold orderedCandidates
  dsimp only
  rw [append_assoc]
  refine List.Perm.append_left _ (List.Perm.trans ?_ hrest)
  rw [filter_filter, filter_filter]
  refine List.Perm.of_eq (congrArg₂ _ (filter_congr fun p _ => ?_) (filter_congr fun p _ => ?_))
  · simp
  · by_cases hp : (current.bind fun g => g.get? p.key) = none
    · simp [hp]
    · simp [hp]

variable {p : LoadedPlugin}

theorem mem_orderedCandidates {candidates : Layer} :
    p ∈ orderedCandidates candidates current ↔ p ∈ candidates.values := (perm_orderedCandidates candidates).mem_iff

theorem nodup_orderedCandidates (candidates : Layer) :
    ((orderedCandidates candidates current).map key).Nodup :=
  ((perm_orderedCandidates candidates).map key).nodup_iff.mpr candidates.nodup

theorem unchanged_admitted {g : RoutingGeneration} (hg : p ∈ g.plugins)
    (hp : p ∈ candidatePlugins factory override overrideEnabled) :
    p ∈ admittedPlugins factory override overrideEnabled (some g) := by
  have hsorted := nodup_sorted (effectivePlugins factory override overrideEnabled)
  have hcompatible : Compatible ((effectivePlugins factory override overrideEnabled).sorted.filter fun p =>
      ((some g).bind fun g => g.get? p.key) = some p) := by
    refine g.compatible.subset (hsorted.of_map.filter _) fun q hq => ?_
    obtain ⟨⟨_, hg', hmem⟩, -⟩ := incumbent_spec.mp (of_decide_eq_true (mem_filter.mp hq).2)
    exact Option.some.inj hg' ▸ hmem
  have hfirst := greedy_eq_append hcompatible.1 (show ([] ++ _).Pairwise _ from hcompatible.2)
  have hincumbent : ((some g).bind fun g => g.get? p.key) = some p := incumbent_spec.mpr ⟨⟨g, rfl, hg⟩, rfl⟩
  unfold admittedPlugins orderedCandidates
  dsimp only
  rw [append_assoc, greedy_append, hfirst]
  refine subset_greedy (mem_append_right [] (mem_filter.mpr ⟨mem_sorted.mpr hp, ?_⟩))
  exact decide_eq_true hincumbent

variable {c : LoadedPlugin}

theorem mem_rejectedPlugins : c ∈ rejectedPlugins factory override overrideEnabled current ↔
    c ∈ candidatePlugins factory override overrideEnabled ∧
      c ∉ admittedPlugins factory override overrideEnabled current := by
  rw [rejectedPlugins, mem_filter, mem_orderedCandidates, decide_eq_true_eq]

theorem nodup_rejectedPlugins : ((rejectedPlugins factory override overrideEnabled current).map key).Nodup :=
  (nodup_orderedCandidates _).sublist (filter_sublist.map _)

theorem key_ne_of_rejected {a : LoadedPlugin} (ha : a ∈ admittedPlugins factory override overrideEnabled current)
    (hc : c ∈ rejectedPlugins factory override overrideEnabled current) : a.key ≠ c.key := by
  obtain ⟨hc, hrejected⟩ := mem_rejectedPlugins.mp hc
  have hcandidate := mem_orderedCandidates.mp ((mem_of_greedy ha).resolve_left not_mem_nil)
  exact fun h => hrejected (eq_of_key hcandidate hc h ▸ ha)

variable {i : LoadedPlugin}

theorem mem_triedIncumbents :
    i ∈ triedIncumbents factory override overrideEnabled current retainCurrent ↔
      ∃ c ∈ rejectedPlugins factory override overrideEnabled current, retained current retainCurrent c = some i :=
  mem_filterMap

variable (factory override overrideEnabled current retainCurrent) in
theorem admitting_spec (number : ℕ) : ∃ g errors,
    buildRoutingGenerationAdmitting factory override overrideEnabled number current retainCurrent = .ok (g, errors) ∧
    (∀ p, p ∈ g.plugins ↔ p ∈ greedy Coherent Conflict (admittedPlugins factory override overrideEnabled current)
      (triedIncumbents factory override overrideEnabled current retainCurrent)) ∧
    errors.map Prod.fst = (rejectedPlugins factory override overrideEnabled current).map key ∧
    g.number = number := by
  obtain ⟨g0, hg0, hplugins, hnumber⟩ : ∃ g, buildRoutingGenerationFromPlugins .empty number = .ok g ∧
      g.plugins = (.empty : Layer).sorted ∧ g.number = number := by
    rcases build_cases .empty number with ⟨g0, hg0, hplugins, hnumber, -⟩ | ⟨-, hc⟩
    · exact ⟨g0, hg0, hplugins, hnumber⟩
    · exact absurd ⟨forall_mem_nil _, List.Pairwise.nil⟩ hc
  obtain ⟨tried, htried⟩ : ∃ tried, tried =
      (orderedCandidates (effectivePlugins factory override overrideEnabled) current).foldl (consider number)
        ⟨.empty, g0, [], []⟩ := ⟨_, rfl⟩
  have hrun : Tried number ⟨.empty, g0, [], []⟩
      (orderedCandidates (effectivePlugins factory override overrideEnabled) current) tried :=
    htried ▸ admit_run ⟨hplugins, hnumber⟩ (nodup_orderedCandidates _) fun c _ a ha => absurd ha not_mem_nil
  have haccepted : tried.accepted.values = admittedPlugins factory override overrideEnabled current := hrun.accepted
  have hrejected : tried.rejected = rejectedPlugins factory override overrideEnabled current := hrun.rejected
  have hfinal : Retried number tried (triedIncumbents factory override overrideEnabled current retainCurrent)
      (tried.rejected.foldl (fallback number current retainCurrent) tried) := by
    rw [hrejected]
    exact fallback_run hrun.serves nodup_rejectedPlugins
      (fun c hc a ha => key_ne_of_rejected (haccepted ▸ ha) hc) current retainCurrent
  obtain ⟨final, hfinal_def⟩ : ∃ final, final =
      tried.rejected.foldl (fallback number current retainCurrent) tried := ⟨_, rfl⟩
  rw [← hfinal_def] at hfinal
  refine ⟨{ final.generation with retainCurrent }, final.routingErrors, ?_, fun p => ?_, ?_, hfinal.serves.2⟩
  · unfold buildRoutingGenerationAdmitting
    rw [hg0, hfinal_def, htried]
    rfl
  · rw [← haccepted, ← hfinal.accepted, ← mem_sorted, ← hfinal.serves.1]
  · rw [hfinal.errors]
    exact hrun.errors

theorem served_of_triedIncumbents (hi : i ∈ triedIncumbents factory override overrideEnabled current retainCurrent) :
    ∃ served, current = some served ∧ i ∈ served.plugins := by
  obtain ⟨c, -, hc⟩ := mem_triedIncumbents.mp hi
  exact (retained_eq_some.mp hc).1.1

theorem nodup_triedIncumbents : (triedIncumbents factory override overrideEnabled current retainCurrent).Nodup := by
  refine pairwise_filterMap.mpr ((pairwise_map.mp nodup_rejectedPlugins).imp fun {c c'} hne i hi i' hi' heq => ?_)
  exact hne ((retained_eq_some.mp hi).1.2.symm.trans (heq ▸ (retained_eq_some.mp hi').1.2))

theorem mem_greedy_incumbents_iff (hc : c ∈ candidatePlugins factory override overrideEnabled) :
    c ∈ greedy Coherent Conflict (admittedPlugins factory override overrideEnabled current)
      (triedIncumbents factory override overrideEnabled current retainCurrent) ↔
    c ∈ admittedPlugins factory override overrideEnabled current := by
  refine ⟨fun h => (mem_of_greedy h).elim id fun hi => ?_, subset_greedy⟩
  obtain ⟨_, rfl, hserved⟩ := served_of_triedIncumbents hi
  exact unchanged_admitted hserved hc

def MayRetain (current : Option RoutingGeneration) (retainCurrent : List String) (c i : LoadedPlugin) : Prop :=
  c.key ∈ retainCurrent ∧ i.key = c.key ∧ ∃ served, current = some served ∧ i ∈ served.plugins

theorem MayRetain.retained (h : MayRetain current retainCurrent c i)
    (hc : c ∈ rejectedPlugins factory override overrideEnabled current) :
    retained current retainCurrent c = some i := by
  obtain ⟨hkey, hi, served, hserved, hmem⟩ := h
  refine retained_eq_some.mpr ⟨⟨⟨served, hserved, hmem⟩, hi⟩, hkey, ?_⟩
  rintro rfl
  obtain ⟨hcandidate, hrejected⟩ := mem_rejectedPlugins.mp hc
  subst hserved
  exact hrejected (unchanged_admitted hmem hcandidate)

end Built

def channelPlugin (object : ℕ) (key : String) (channelType : ℤ) : LoadedPlugin :=
  samplePlugin object { key, models := [key], channelTypes := [channelType] } (forall_mem_nil _)

/-- What is served while `a` handles the channel type 1 and `b` the channel type 2. -/
def twoChannels : Except RoutingErr RoutingGeneration :=
  buildRoutingGenerationFromPlugins ⟨[channelPlugin 1 "a" 1, channelPlugin 2 "b" 2], by decide⟩ 1

end Desktop2Stereo
