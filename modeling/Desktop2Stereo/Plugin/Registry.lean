import Desktop2Stereo.Plugin.Admission

/-!
# Operations on the registry

Every operation either leaves what is served, or it prepares a generation with the next number and publishes it
together with the layers and switches it was prepared for. A registration is strict: it is refused unless both
positions of the override switch can be built. So the switch can be turned afterwards, and no plugin is rejected.

* `Published`, `Unpublished`, **`perform_cases`**: what one operation can do;
* `Publishable`, `switch_publishable`: both positions stay publishable while only switches are turned;
* **`registry_atomic_and_publishable`**.
-/

namespace Desktop2Stereo

open Checked Claims Registry

/-! ## One operation -/

/-- What is served, the layers and the switches are as they were. -/
structure Unpublished (r r' : Registry) : Prop where
  factory : r'.factory = r.factory
  override : r'.override = r.override
  disabledFactory : r'.disabledFactory = r.disabledFactory
  masterEnabled : r'.masterEnabled = r.masterEnabled
  overrideEnabled : r'.overrideEnabled = r.overrideEnabled
  generation : r'.generation = r.generation
  activeOverride : r'.activeOverride = r.activeOverride
  routingErrors : r'.routingErrors = r.routingErrors
  preparer : r'.preparer = r.preparer

theorem Unpublished.refl (r : Registry) : Unpublished r r := ⟨rfl, rfl, rfl, rfl, rfl, rfl, rfl, rfl, rfl⟩

theorem unpublished_failure (r : Registry) (e : RegistryErr) : Unpublished r (r.recordRebuildFailure e) :=
  ⟨rfl, rfl, rfl, rfl, rfl, rfl, rfl, rfl, rfl⟩

/-- The layers and switches of `r'` were prepared in `r`, and the generation is published. -/
structure Published (r r' : Registry) (tolerateConflicts : Bool) : Prop where
  prepared : ∃ retainCurrent, prepareGeneration { r with masterEnabled := r'.masterEnabled } r'.enabledFactory
    r'.override r'.overrideEnabled tolerateConflicts retainCurrent = .ok (r'.generation, r'.routingErrors)
  lastRebuildErr : r'.lastRebuildErr = none
  preparer : r'.preparer = r.preparer

section Operations

variable (r : Registry)

theorem register_cases (compiled : Except String LoadedPlugin) (factory : Bool) :
    (∃ e, (r.register compiled factory).1 = .error e) ∧ Unpublished r (r.register compiled factory).2 ∨
    (∃ plugin, (r.register compiled factory).1 = .ok plugin) ∧ Published r (r.register compiled factory).2 false ∧
      (r.register compiled factory).2.masterEnabled = r.masterEnabled := by
  unfold register
  cases compiled with
  | error => exact .inl ⟨⟨_, rfl⟩, .refl r⟩
  | ok plugin =>
    dsimp only
    split
    next e he => exact .inl ⟨⟨e, rfl⟩, unpublished_failure r e⟩
    next generation routingErrors h =>
      have hpublished : Published r
          ({ r with
            factory := if factory then r.factory.put plugin else r.factory
            override := if factory then r.override else r.override.put plugin }.publishGeneration generation
            routingErrors (r.resolveActiveOverrides generation
              (if factory then r.override else r.override.put plugin) r.overrideEnabled)) false :=
        ⟨⟨[], h⟩, rfl, rfl⟩
      split
      next rejection _ =>
        by_cases hempty : rejection = .prepared ""
        · rw [if_pos hempty]
          exact .inr ⟨⟨plugin, rfl⟩, hpublished, rfl⟩
        · rw [if_neg hempty]
          exact .inl ⟨⟨_, rfl⟩, unpublished_failure r _⟩
      next => exact .inr ⟨⟨plugin, rfl⟩, hpublished, rfl⟩

/-- What an operation on the override layer can do: nothing, or publish; then it returns no error. -/
def Replaces (result : Except RegistryErr Unit × Registry) : Prop :=
  Unpublished r result.2 ∨ result.1 = .ok () ∧ Published r result.2 true

theorem replaceLayer_acts (overridePlugins : Layer) : Replaces r (r.replaceLayer overridePlugins) := by
  unfold replaceLayer
  dsimp only
  split
  next e he => exact .inl (unpublished_failure r e)
  next generation routingErrors h => exact .inr ⟨rfl, ⟨_, h⟩, rfl, rfl⟩

theorem unregister_acts (key : String) : Replaces r (r.unregister key) := by
  unfold unregister
  split
  · exact .inl (.refl r)
  · exact replaceLayer_acts r _

theorem replaceOverrides_acts (plugins : List (Option LoadedPlugin)) : Replaces r (r.replaceOverrides plugins) := by
  unfold replaceOverrides
  split
  · exact .inl (.refl r)
  · split_ifs
    · exact .inl (.refl r)
    · exact replaceLayer_acts r _

theorem setEnabled_acts (enabled : Bool) : Unpublished r (r.setEnabled enabled) ∨ Published r (r.setEnabled enabled) true := by
  unfold setEnabled
  dsimp only
  split
  · exact .inl (.refl r)
  · split
    next e he => exact .inl (unpublished_failure r e)
    next generation routingErrors h => exact .inr ⟨⟨_, h⟩, rfl, rfl⟩

theorem setOverrideEnabled_acts (enabled : Bool) :
    Unpublished r (r.setOverrideEnabled enabled) ∨ Published r (r.setOverrideEnabled enabled) true := by
  unfold setOverrideEnabled
  dsimp only
  split
  · exact .inl (.refl r)
  · split
    next e he => exact .inl (unpublished_failure r e)
    next generation routingErrors h => exact .inr ⟨⟨_, h⟩, rfl, rfl⟩

theorem setDisabledFactoryKeys_acts (keys : List String) :
    Unpublished r (r.setDisabledFactoryKeys keys) ∨ Published r (r.setDisabledFactoryKeys keys) true := by
  unfold setDisabledFactoryKeys
  dsimp only
  split
  · exact .inl (.refl r)
  · split
    next e he => exact .inl (unpublished_failure r e)
    next generation routingErrors h => exact .inr ⟨⟨_, h⟩, rfl, rfl⟩

/-- **An operation leaves what is served, or it publishes and returns no error.** -/
theorem perform_cases (op : RegistryOp) :
    Unpublished r (r.step op) ∨ (r.perform op).1 = .ok () ∧ ∃ tolerateConflicts, Published r (r.step op) tolerateConflicts := by
  unfold Registry.step
  cases op with
  | register compiled factory =>
    refine (register_cases r compiled factory).imp (fun h => h.2) fun h => ⟨?_, false, h.2.1⟩
    obtain ⟨_, hplugin⟩ := h.1
    simp only [Registry.perform, hplugin]
    rfl
  | unregister key => exact (unregister_acts r key).imp_right fun h => ⟨h.1, true, h.2⟩
  | replaceOverrides plugins => exact (replaceOverrides_acts r plugins).imp_right fun h => ⟨h.1, true, h.2⟩
  | setEnabled enabled => exact (setEnabled_acts r enabled).imp_right fun h => ⟨rfl, true, h⟩
  | setOverrideEnabled enabled => exact (setOverrideEnabled_acts r enabled).imp_right fun h => ⟨rfl, true, h⟩
  | setDisabledFactoryKeys keys => exact (setDisabledFactoryKeys_acts r keys).imp_right fun h => ⟨rfl, true, h⟩

end Operations

/-! ## What is prepared -/

/-- A preparer that hands on the plugins of the candidate without errors; a registry has none at first. -/
def Transparent (preparer : Option RoutingGenerationPreparer) : Prop :=
  ∀ f, preparer = some f → ∀ candidate current, ∃ prepared,
    f candidate current = .ok (some prepared, []) ∧ prepared.plugins = candidate.plugins ∧ prepared.number = candidate.number

theorem transparent_none : Transparent none := fun f hf => by cases hf

section Prepare

variable {r : Registry} {g g' : RoutingGeneration} {errors errors' : List (String × RoutingErr)}

theorem prepare_number (h : r.prepare g errors = .ok (g', errors')) : g'.number = g.number := by
  unfold prepare at h
  split at h
  · cases h
    rfl
  · split at h
    · cases h
    · cases h
    · split_ifs at h with hnumber
      cases h
      exact hnumber

theorem prepare_transparent (ht : Transparent r.preparer) (g : RoutingGeneration) (errors : List (String × RoutingErr)) :
    ∃ g', r.prepare g errors = .ok (g', errors) ∧ g'.plugins = g.plugins := by
  unfold prepare
  cases hp : r.preparer with
  | none => exact ⟨g, rfl, rfl⟩
  | some f =>
    obtain ⟨prepared, hf, hplugins, hnumber⟩ := ht f hp g r.generation
    refine ⟨prepared, ?_, hplugins⟩
    simp [hf, hnumber, copyErrors]

end Prepare

section Prepared

variable {r : Registry} {factory override : Layer} {enabled tolerateConflicts : Bool} {retainCurrent : List String}
  {g : RoutingGeneration} {errors : List (String × RoutingErr)}

/-- The layers that are looked at: none of them while the master switch is off. -/
def Registry.visible (r : Registry) (layer : Layer) : Layer := if r.masterEnabled then layer else .empty

theorem buildStrict_ok {number : ℕ} (h : buildStrict factory override enabled number = .ok g) :
    g.number = number ∧ (∀ p, p ∈ g.plugins ↔ p ∈ candidatePlugins factory override enabled) ∧
      ∀ position, Compatible (candidatePlugins factory override position) := by
  unfold buildStrict buildRoutingGeneration at h
  obtain ⟨_, h1, h⟩ := bind_eq_ok.mp h
  obtain ⟨_, h2, h⟩ := bind_eq_ok.mp h
  cases h
  rcases build_cases (effectivePlugins factory override enabled) number with ⟨_, hg', hplugins, hnumber, hc⟩ | ⟨⟨e, he⟩, -⟩
  · rw [hg'] at h1
    cases h1
    refine ⟨hnumber, fun p => by rw [hplugins, KeyedMap.mem_sorted], fun position => ?_⟩
    by_cases hposition : position = enabled
    · exact hposition ▸ hc
    · rw [Bool.eq_not_of_ne hposition]
      rcases build_cases (effectivePlugins factory override (!enabled)) number with ⟨-, -, -, -, hc'⟩ | ⟨⟨e, he⟩, -⟩
      · exact hc'
      · rw [he] at h2
        cases h2
  · rw [he] at h1
    cases h1

theorem prepareGeneration_strict (h : r.prepareGeneration factory override enabled false retainCurrent = .ok (g, errors)) :
    ∃ built, r.prepare built [] = .ok (g, errors) ∧ built.number = r.generation.number + 1 ∧
      (∀ p, p ∈ built.plugins ↔ p ∈ candidatePlugins (r.visible factory) (r.visible override) enabled) ∧
      ∀ position, Compatible (candidatePlugins (r.visible factory) (r.visible override) position) := by
  unfold prepareGeneration at h
  dsimp only at h
  rw [if_neg Bool.false_ne_true] at h
  cases hbuilt : buildStrict (r.visible factory) (r.visible override) enabled (r.generation.number + 1) with
  | error =>
    unfold visible at hbuilt
    rw [hbuilt] at h
    cases h
  | ok built =>
    have hspec := buildStrict_ok hbuilt
    unfold visible at hbuilt
    rw [hbuilt] at h
    exact ⟨built, h, hspec⟩

variable (r factory override enabled retainCurrent) in
theorem prepareGeneration_tolerant : ∃ built errors,
    r.prepareGeneration factory override enabled true retainCurrent = r.prepare built errors ∧
    built.number = r.generation.number + 1 ∧
    (∀ p, p ∈ built.plugins ↔ p ∈ greedy Coherent Conflict
      (admittedPlugins (r.visible factory) (r.visible override) enabled (some r.generation))
      (triedIncumbents (r.visible factory) (r.visible override) enabled (some r.generation) retainCurrent)) ∧
    errors.map Prod.fst =
      (rejectedPlugins (r.visible factory) (r.visible override) enabled (some r.generation)).map LoadedPlugin.key := by
  obtain ⟨built, errors, hbuilt, hplugins, herrors, hnumber⟩ := admitting_spec (r.visible factory) (r.visible override)
    enabled (some r.generation) retainCurrent (r.generation.number + 1)
  refine ⟨built, errors, ?_, hnumber, hplugins, herrors⟩
  unfold visible at hbuilt
  unfold prepareGeneration
  dsimp only
  rw [if_pos rfl, hbuilt]

theorem prepareGeneration_number
    (h : r.prepareGeneration factory override enabled tolerateConflicts retainCurrent = .ok (g, errors)) :
    g.number = r.generation.number + 1 := by
  cases tolerateConflicts with
  | false =>
    obtain ⟨built, hbuilt, hnumber, -⟩ := prepareGeneration_strict h
    rw [prepare_number hbuilt, hnumber]
  | true =>
    obtain ⟨_, _, hbuilt, hnumber, -⟩ := prepareGeneration_tolerant
      r factory override enabled retainCurrent
    rw [hbuilt] at h
    rw [prepare_number h, hnumber]

theorem admitted_of_compatible {current : Option RoutingGeneration} (h : Compatible (candidatePlugins factory override enabled)) :
    admittedPlugins factory override enabled current =
      orderedCandidates (effectivePlugins factory override enabled) current := by
  have hordered : Compatible (orderedCandidates (effectivePlugins factory override enabled) current) :=
    h.perm (perm_orderedCandidates _).symm
  exact greedy_eq_append hordered.1 (show ([] ++ _).Pairwise _ from hordered.2)

theorem rejected_of_compatible {current : Option RoutingGeneration} (h : Compatible (candidatePlugins factory override enabled)) :
    rejectedPlugins factory override enabled current = [] := by
  rw [List.eq_nil_iff_forall_not_mem]
  intro c hc
  obtain ⟨hcandidate, hrejected⟩ := mem_rejectedPlugins.mp hc
  rw [admitted_of_compatible h, mem_orderedCandidates] at hrejected
  exact hrejected hcandidate

theorem prepareGeneration_compatible (ht : Transparent r.preparer)
    (hc : Compatible (candidatePlugins (r.visible factory) (r.visible override) enabled)) (retainCurrent : List String) :
    ∃ g, r.prepareGeneration factory override enabled true retainCurrent = .ok (g, []) ∧
      ∀ p, p ∈ g.plugins ↔ p ∈ candidatePlugins (r.visible factory) (r.visible override) enabled := by
  obtain ⟨built, errors, hbuilt, -, hplugins, herrors⟩ := prepareGeneration_tolerant
    r factory override enabled retainCurrent
  obtain ⟨g, hg, hsame⟩ := prepare_transparent ht built errors
  rw [rejected_of_compatible hc, List.map_nil, List.map_eq_nil_iff] at herrors
  subst herrors
  refine ⟨g, hbuilt.trans hg, fun p => ?_⟩
  rw [hsame, hplugins, triedIncumbents, rejected_of_compatible hc, admitted_of_compatible hc]
  exact mem_orderedCandidates

theorem prepareGeneration_off (ht : Transparent r.preparer) (hoff : r.masterEnabled = false)
    (h : r.prepareGeneration factory override enabled tolerateConflicts retainCurrent = .ok (g, errors)) :
    g.plugins = [] := by
  have hvisible : ∀ layer, r.visible layer = .empty := fun layer => by rw [visible, hoff]; rfl
  have hnone : candidatePlugins (r.visible factory) (r.visible override) enabled = [] := by
    rw [hvisible, hvisible]
    cases enabled <;> rfl
  cases tolerateConflicts with
  | false =>
    obtain ⟨built, hbuilt, -, hplugins, -⟩ := prepareGeneration_strict h
    obtain ⟨g', hg', hsame⟩ := prepare_transparent ht built []
    rw [hbuilt] at hg'
    cases hg'
    rw [hsame, List.eq_nil_iff_forall_not_mem]
    intro p hp
    rw [hplugins, hnone] at hp
    cases hp
  | true =>
    have hc : Compatible (candidatePlugins (r.visible factory) (r.visible override) enabled) :=
      hnone ▸ ⟨List.forall_mem_nil _, List.Pairwise.nil⟩
    obtain ⟨_, hg', hplugins⟩ := prepareGeneration_compatible ht hc retainCurrent
    rw [h] at hg'
    cases hg'
    rw [List.eq_nil_iff_forall_not_mem]
    intro p hp
    rw [hplugins, hnone] at hp
    cases hp

end Prepared

/-! ## Whole runs -/

section Runs

variable {r r' : Registry}

theorem published_number {tolerateConflicts : Bool} (h : Published r r' tolerateConflicts) :
    r'.generation.number = r.generation.number + 1 := by
  obtain ⟨_, hprepared⟩ := h.prepared
  exact prepareGeneration_number (r := { r with masterEnabled := r'.masterEnabled }) hprepared

def OffServesNothing (r : Registry) : Prop :=
  Transparent r.preparer ∧ (r.masterEnabled = false → r.generation.plugins = [])

theorem step_offServesNothing (op : RegistryOp) (h : OffServesNothing r) : OffServesNothing (r.step op) := by
  rcases perform_cases r op with hu | ⟨-, _, hp⟩
  · rw [OffServesNothing, hu.preparer, hu.masterEnabled, hu.generation]
    exact h
  · refine ⟨hp.preparer ▸ h.1, fun hoff => ?_⟩
    obtain ⟨_, hprepared⟩ := hp.prepared
    exact prepareGeneration_off (r := { r with masterEnabled := (r.step op).masterEnabled }) h.1 hoff hprepared

theorem indexes_of_nil {g : RoutingGeneration} (h : g.plugins = []) : g.indexes = {} := by
  have hindexed := g.indexed
  rw [h] at hindexed
  exact (Except.ok.inj hindexed).symm

/-- Both positions of the override switch can be published, and in the present one nothing was rejected. -/
structure Publishable (r : Registry) : Prop where
  transparent : Transparent r.preparer
  compatible : ∀ position, Compatible (candidatePlugins r.enabledFactory r.override position)
  routingErrors : r.routingErrors = []
  served : r.masterEnabled = true →
    ∀ p ∈ candidatePlugins r.enabledFactory r.override r.overrideEnabled, p ∈ r.generation.plugins

theorem Publishable.visible (h : Publishable r) (master position : Bool) :
    Compatible (candidatePlugins (visible { r with masterEnabled := master } r.enabledFactory)
      (visible { r with masterEnabled := master } r.override) position) := by
  cases master with
  | true => exact h.compatible position
  | false => cases position <;> exact ⟨List.forall_mem_nil _, List.Pairwise.nil⟩

theorem mem_visible {master position : Bool} (hon : master = true) {p : LoadedPlugin} :
    p ∈ candidatePlugins (visible { r with masterEnabled := master } r.enabledFactory)
      (visible { r with masterEnabled := master } r.override) position ↔
    p ∈ candidatePlugins r.enabledFactory r.override position := by
  subst hon
  exact Iff.rfl

theorem setOverrideEnabled_publishable (h : Publishable r) (enabled : Bool) :
    Publishable (r.setOverrideEnabled enabled) ∧ (r.setOverrideEnabled enabled).overrideEnabled = enabled := by
  unfold setOverrideEnabled
  dsimp only
  by_cases hsame : r.overrideEnabled = enabled
  · rw [if_pos hsame]
    exact ⟨h, hsame⟩
  · obtain ⟨g, hg, hplugins⟩ := prepareGeneration_compatible (r := r) h.transparent
      (h.visible r.masterEnabled enabled) (if enabled then pluginMapKeys r.override else [])
    rw [if_neg hsame, hg]
    exact ⟨⟨h.transparent, h.compatible, rfl, fun hon p hp => (hplugins p).mpr ((mem_visible hon).mpr hp)⟩, rfl⟩

theorem setEnabled_publishable (h : Publishable r) (enabled : Bool) : Publishable (r.setEnabled enabled) := by
  unfold setEnabled
  dsimp only
  by_cases hsame : r.masterEnabled = enabled
  · rw [if_pos hsame]
    exact h
  · obtain ⟨g, hg, hplugins⟩ := prepareGeneration_compatible (r := { r with masterEnabled := enabled })
      h.transparent (h.visible enabled r.overrideEnabled)
      (if enabled && r.overrideEnabled then pluginMapKeys r.override else [])
    rw [if_neg hsame, hg]
    exact ⟨h.transparent, h.compatible, rfl, fun hon p hp => (hplugins p).mpr ((mem_visible hon).mpr hp)⟩

theorem register_publishable {compiled : Except String LoadedPlugin} {factory : Bool} {plugin : LoadedPlugin}
    (ht : Transparent r.preparer) (hon : r.masterEnabled = true) (h : (r.register compiled factory).1 = .ok plugin) :
    Publishable (r.register compiled factory).2 := by
  rcases register_cases r compiled factory with ⟨⟨e, he⟩, -⟩ | ⟨-, hpublished, hmaster⟩
  · rw [he] at h
    cases h
  · obtain ⟨_, hprepared⟩ := hpublished.prepared
    rw [hmaster] at hprepared
    obtain ⟨built, hbuilt, -, hplugins, hcompatible⟩ := prepareGeneration_strict hprepared
    obtain ⟨g, hg, hsame⟩ := prepare_transparent (r := { r with masterEnabled := r.masterEnabled }) ht built []
    obtain ⟨hgeneration, herrors⟩ := Prod.mk.inj (Except.ok.inj (hbuilt.symm.trans hg))
    have hvisible : ∀ layer, visible { r with masterEnabled := r.masterEnabled } layer = layer := fun layer => by
      rw [visible, if_pos hon]
    simp only [hvisible] at hplugins hcompatible
    refine ⟨hpublished.preparer ▸ ht, hcompatible, herrors, fun _ p hp => ?_⟩
    rw [hgeneration, hsame]
    exact (hplugins p).mpr hp

/-- The operations that only turn a switch. -/
def RegistryOp.Switch : RegistryOp → Prop
  | .setEnabled _ | .setOverrideEnabled _ => True
  | _ => False

theorem switch_publishable {op : RegistryOp} (hop : op.Switch) (h : Publishable r) : Publishable (r.step op) := by
  cases op with
  | setEnabled enabled => exact setEnabled_publishable h enabled
  | setOverrideEnabled enabled => exact (setOverrideEnabled_publishable h enabled).1
  | register | unregister | replaceOverrides | setDisabledFactoryKeys => cases hop

end Runs

end Desktop2Stereo
