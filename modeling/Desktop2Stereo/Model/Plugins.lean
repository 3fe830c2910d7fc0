import Desktop2Stereo.Lib.KeyedMap
import Desktop2Stereo.Model.Routes

/-!
# Desktop2Stereo: task plugins and their registry

Plugins come from a factory layer and an override layer. A generation is what is served: a set of plugins with the
indexes of their models, channel types, routes and endpoints. Operations on the registry build a generation from the
layers and publish it. A plugin object is compared by its identity.
-/

namespace Desktop2Stereo

open GoText

/-! ## Plugins -/

structure ProtocolClaim where
  name : String
  models : List String := []
  deriving DecidableEq

/-- The parts of a manifest that routing reads. -/
structure Meta where
  key : String
  channelTypes : List ℤ := []
  models : List String
  routes : List Route := []
  protocols : List ProtocolClaim := []
  deriving DecidableEq

/-- A compiled plugin: an object, and a manifest whose routes have passed `validateRoute`. -/
structure LoadedPlugin where
  object : ℕ
  manifest : Meta
  routesValid : ∀ route ∈ manifest.routes, ∃ declared, validateRoute declared = .ok route
  deriving DecidableEq

def LoadedPlugin.key (p : LoadedPlugin) : String := p.manifest.key

abbrev Layer := KeyedMap LoadedPlugin.key

structure HostProtocolOperation where
  name : String
  methods : List String
  path : String
  modelField : String := ""
  deriving DecidableEq

structure HostProtocolDefinition where
  name : String
  operations : List HostProtocolOperation

def hostProtocols : List HostProtocolDefinition :=
  [{ name := "openai_responses"
     operations := [
       { name := "create", methods := ["POST"], path := "/v1/responses", modelField := "model" },
       { name := "retrieve", methods := ["GET"], path := "/v1/responses/:response_id" }] },
   { name := "openai_video"
     operations := [
       { name := "create", methods := ["POST"], path := "/v1/videos", modelField := "model" },
       { name := "retrieve", methods := ["GET"], path := "/v1/videos/:task_id" },
       { name := "content", methods := ["GET", "HEAD"], path := "/v1/videos/:task_id/content" }] }]

/-- `HostProtocol`; an unknown protocol has no operations. -/
def hostProtocol (name : String) : HostProtocolDefinition :=
  (hostProtocols.find? fun d => d.name = name).getD { name := "", operations := [] }

def channelTypeTaskPlugin : ℤ := 61

/-! ## Indexes -/

structure RouteBinding where
  plugin : LoadedPlugin
  route : Route
  deriving DecidableEq

structure ProtocolBinding where
  plugin : LoadedPlugin
  protocol : String
  operation : HostProtocolOperation
  model : String
  deriving DecidableEq

inductive RoutingErr
  | model (key model otherKey existing : String)
  | channelType (key : String) (channelType : ℤ) (otherKey : String)
  | shape (e : RouteErr)
  | route (key method path otherKey otherPath : String)
  | protocol (key method path model otherKey : String)
  | rejected (key : String) (e : RoutingErr)
  | prepared (message : String)
  deriving DecidableEq

/-- The message, where `q` is the verb `%q`. -/
def RoutingErr.text (q : String → String) : RoutingErr → String
  | .model k m o e => s!"plugin {k} model {q m} conflicts with plugin {o} model {q e}"
  | .channelType k n o => s!"plugin {k} channelType {n} conflicts with plugin {o}"
  | .shape e => e.text q
  | .route k m p o op => s!"plugin {k} route {m} {p} conflicts with plugin {o} route {op}"
  | .protocol k m p n o => s!"plugin {k} protocol {m} {p} model {q n} conflicts with plugin {o}"
  | .rejected k e => s!"plugin {k} rejected from routing generation: {e.text q}"
  | .prepared m => m

/-- The indexes of a generation. An entry of `protocolIndex` is one binding; the first of a key parses the request. -/
structure RoutingIndexes where
  byModel : List (String × LoadedPlugin) := []
  canonicalModelByFold : List (String × String) := []
  byChannelType : List (ℤ × LoadedPlugin) := []
  routeIndex : List (String × RouteBinding) := []
  routes : List RouteBinding := []
  protocolIndex : List (String × ProtocolBinding) := []

def endpointIndexKey (method path model : String) : String := method ++ "\x00" ++ path ++ "\x00" ++ model

def LoadedPlugin.Legacy (p : LoadedPlugin) : Prop := p.manifest.channelTypes ≠ []

instance (p : LoadedPlugin) : Decidable p.Legacy := by
  unfold LoadedPlugin.Legacy
  infer_instance

section Indexing

variable (plugin : LoadedPlugin)

def ownModel (idx : RoutingIndexes) (model : String) : RoutingIndexes :=
  match idx.byModel.lookup model with
  | some _ => idx
  | none => { idx with byModel := idx.byModel ++ [(model, plugin)] }

def indexModel (idx : RoutingIndexes) (model : String) : Except RoutingErr RoutingIndexes :=
  let idx := ownModel plugin idx model
  match idx.canonicalModelByFold.lookup (asciiFold model) with
  | some existing =>
    if existing = model then .ok idx
    else
      let otherKey := ((idx.byModel.lookup existing).map LoadedPlugin.key).getD plugin.key
      .error (.model plugin.key model otherKey existing)
  | none => .ok { idx with canonicalModelByFold := idx.canonicalModelByFold ++ [(asciiFold model, model)] }

def indexChannelType (idx : RoutingIndexes) (channelType : ℤ) : Except RoutingErr RoutingIndexes :=
  if channelType = 0 ∨ channelType = channelTypeTaskPlugin then .ok idx
  else match idx.byChannelType.lookup channelType with
    | some other => .error (.channelType plugin.key channelType other.key)
    | none => .ok { idx with byChannelType := idx.byChannelType ++ [(channelType, plugin)] }

def indexRoute (idx : RoutingIndexes) (route : Route) : Except RoutingErr RoutingIndexes :=
  match routePathShape route.path with
  | .error e => .error (.shape e)
  | .ok shape =>
    let indexKey := route.method ++ " " ++ shape
    match idx.routeIndex.lookup indexKey with
    | some other => .error (.route plugin.key route.method route.path other.plugin.key other.route.path)
    | none =>
      let binding : RouteBinding := ⟨plugin, route⟩
      .ok { idx with routeIndex := idx.routeIndex ++ [(indexKey, binding)], routes := idx.routes ++ [binding] }

/-- The endpoints of a plugin, each with its method: the operations of its protocols that select by a model. -/
def endpoints : List (String × ProtocolBinding) :=
  plugin.manifest.protocols.flatMap fun claim =>
    let boundModels := if claim.models = [] then plugin.manifest.models else claim.models
    (hostProtocol claim.name).operations.flatMap fun operation =>
      if operation.modelField = "" then []
      else operation.methods.flatMap fun method =>
        boundModels.map fun model => (method, ⟨plugin, claim.name, operation, model⟩)

def indexEndpoint (idx : RoutingIndexes) (e : String × ProtocolBinding) : Except RoutingErr RoutingIndexes :=
  let indexKey := endpointIndexKey e.1 e.2.operation.path e.2.model
  let added := { idx with protocolIndex := idx.protocolIndex ++ [(indexKey, e.2)] }
  match idx.protocolIndex.lookup indexKey with
  | some other =>
    if (plugin.Legacy ∧ other.plugin.Legacy) ∧ e.2.protocol = other.protocol then .ok added
    else .error (.protocol plugin.key e.1 e.2.operation.path e.2.model other.plugin.key)
  | none => .ok added

end Indexing

/-- The body of the loop over the plugins. -/
def indexPlugin (idx : RoutingIndexes) (plugin : LoadedPlugin) : Except RoutingErr RoutingIndexes := do
  let idx ← plugin.manifest.models.foldlM (indexModel plugin) idx
  let idx ← plugin.manifest.channelTypes.foldlM (indexChannelType plugin) idx
  let idx ← plugin.manifest.routes.foldlM (indexRoute plugin) idx
  (endpoints plugin).foldlM (indexEndpoint plugin) idx

/-- The loop over the plugins. -/
def indexPlugins (plugins : List LoadedPlugin) : Except RoutingErr RoutingIndexes := plugins.foldlM indexPlugin {}

/-! ## Generations -/

/-- What is served. The indexes are those of the plugins, so a generation with a conflict cannot be built. -/
structure RoutingGeneration where
  number : ℕ
  plugins : List LoadedPlugin
  indexes : RoutingIndexes
  retainCurrent : List String := []
  nodup : (plugins.map LoadedPlugin.key).Nodup
  indexed : indexPlugins plugins = .ok indexes

/-- `(*RoutingGeneration).Get` -/
def RoutingGeneration.get? (g : RoutingGeneration) (key : String) : Option LoadedPlugin :=
  g.plugins.find? fun p => p.key = key

def buildRoutingGenerationFromPlugins (effective : Layer) (number : ℕ) : Except RoutingErr RoutingGeneration :=
  match h : indexPlugins effective.sorted with
  | .ok indexes => .ok { number, plugins := effective.sorted, indexes, nodup := effective.nodup_sorted, indexed := h }
  | .error e => .error e

def effectivePlugins (factory override : Layer) (overrideEnabled : Bool) : Layer :=
  if overrideEnabled then factory.copy override else factory

def buildRoutingGeneration (factory override : Layer) (overrideEnabled : Bool) (number : ℕ) :
    Except RoutingErr RoutingGeneration :=
  buildRoutingGenerationFromPlugins (effectivePlugins factory override overrideEnabled) number

/-! ## Admission -/

/-- The state of the two loops of `buildRoutingGenerationAdmitting`. -/
structure Admission where
  accepted : Layer
  generation : RoutingGeneration
  routingErrors : List (String × RoutingErr) := []
  rejected : List LoadedPlugin := []

/-- One candidate is tried with those that have been accepted. -/
def Admission.consider (number : ℕ) (s : Admission) (candidate : LoadedPlugin) : Admission :=
  let accepted := s.accepted.put candidate
  match buildRoutingGenerationFromPlugins accepted number with
  | .ok trial => { s with accepted, generation := trial }
  | .error e =>
    { s with
      accepted := accepted.erase candidate.key
      routingErrors := s.routingErrors ++ [(candidate.key, .rejected candidate.key e)]
      rejected := s.rejected ++ [candidate] }

/-- The current plugin of a key that was rejected is tried in its place. -/
def Admission.fallback (number : ℕ) (current : Option RoutingGeneration) (retainCurrent : List String) (s : Admission)
    (candidate : LoadedPlugin) : Admission :=
  match current.bind fun g => g.get? candidate.key with
  | none => s
  | some incumbent =>
    if candidate.key ∉ retainCurrent ∨ incumbent = candidate then s
    else
      let accepted := s.accepted.put incumbent
      match buildRoutingGenerationFromPlugins accepted number with
      | .ok fallback => { s with accepted, generation := fallback }
      | .error _ => { s with accepted := accepted.erase candidate.key }

/-- The candidates that the current generation has unchanged, those that it has in another version, and new ones. -/
def orderedCandidates (candidates : Layer) (current : Option RoutingGeneration) : List LoadedPlugin :=
  let incumbent := fun p : LoadedPlugin => current.bind fun g => g.get? p.key
  (candidates.sorted.filter fun p => incumbent p = some p) ++
    (candidates.sorted.filter fun p => incumbent p ≠ none ∧ incumbent p ≠ some p) ++
    candidates.sorted.filter fun p => incumbent p = none

def buildRoutingGenerationAdmitting (factory override : Layer) (overrideEnabled : Bool) (number : ℕ)
    (current : Option RoutingGeneration) (retainCurrent : List String) :
    Except RoutingErr (RoutingGeneration × List (String × RoutingErr)) := do
  let candidates := effectivePlugins factory override overrideEnabled
  let generation ← buildRoutingGenerationFromPlugins .empty number
  let tried := (orderedCandidates candidates current).foldl (Admission.consider number) ⟨.empty, generation, [], []⟩
  let final := tried.rejected.foldl (Admission.fallback number current retainCurrent) tried
  return ({ final.generation with retainCurrent }, final.routingErrors)

/-! ## The registry -/

inductive RegistryErr
  | compile (message : String)
  | routing (e : RoutingErr)
  | preparer (message : String)
  | nilGeneration
  | numberChanged (number prepared : ℕ)
  | nilPlugin
  | duplicateKey (key : String)

/-- The message, where `q` is the verb `%q`. -/
def RegistryErr.text (q : String → String) : RegistryErr → String
  | .compile m => m
  | .routing e => e.text q
  | .preparer m => m
  | .nilGeneration => "routing generation preparer returned a nil generation"
  | .numberChanged a b => s!"routing generation preparer changed generation number from {a} to {b}"
  | .nilPlugin => "cannot publish a nil plugin"
  | .duplicateKey k => s!"duplicate override plugin key {q k}"

inductive RebuildStatus
  | success | incomplete | failed
  deriving DecidableEq

/-- What a preparer makes of a candidate and the current generation: a generation, or none, and further errors. -/
abbrev RoutingGenerationPreparer :=
  RoutingGeneration → RoutingGeneration → Except String (Option RoutingGeneration × List (String × String))

structure Registry where
  factory : Layer := .empty
  override : Layer := .empty
  activeOverride : Layer := .empty
  disabledFactory : List String := []
  masterEnabled : Bool := true
  overrideEnabled : Bool := true
  generation : RoutingGeneration
  preparer : Option RoutingGenerationPreparer := none
  routingErrors : List (String × RoutingErr) := []
  lastRebuildErr : Option RegistryErr := none
  lastStatus : RebuildStatus := .success
  lastGeneration : ℕ := 0

def newRegistry : Registry where
  generation := { number := 0, plugins := [], indexes := {}, nodup := List.nodup_nil, indexed := rfl }

def filterDisabledFactory (factory : Layer) (disabled : List String) : Layer := factory.filter fun p => p.key ∉ disabled

def pluginMapKeys (plugins : Layer) : List String := plugins.values.map LoadedPlugin.key

def samePluginMap (left right : Layer) : Prop :=
  left.values.length = right.values.length ∧ ∀ p ∈ left.values, right.get? p.key = some p

instance (left right : Layer) : Decidable (samePluginMap left right) := by
  unfold samePluginMap
  infer_instance

/-- `maps.Copy` on errors. -/
def copyErrors (errors errors' : List (String × RoutingErr)) : List (String × RoutingErr) :=
  (errors.filter fun e => e.1 ∉ errors'.map Prod.fst) ++ errors'

namespace Registry

variable (r : Registry)

def enabledFactory : Layer := filterDisabledFactory r.factory r.disabledFactory

/-- The last part of `prepareGeneration`: the preparer, where there is one. -/
def prepare (generation : RoutingGeneration) (routingErrors : List (String × RoutingErr)) :
    Except RegistryErr (RoutingGeneration × List (String × RoutingErr)) :=
  match r.preparer with
  | none => .ok (generation, routingErrors)
  | some preparer =>
    match preparer generation r.generation with
    | .error e => .error (.preparer e)
    | .ok (none, _) => .error .nilGeneration
    | .ok (some prepared, errors) =>
      if prepared.number = generation.number then
        .ok (prepared, copyErrors routingErrors (errors.map fun e => (e.1, .prepared e.2)))
      else .error (.numberChanged generation.number prepared.number)

/-- The strict branch of `prepareGeneration`: both positions of the override switch have to build. -/
def buildStrict (factory override : Layer) (enabled : Bool) (number : ℕ) : Except RoutingErr RoutingGeneration := do
  let generation ← buildRoutingGeneration factory override enabled number
  let _ ← buildRoutingGeneration factory override (!enabled) number
  return generation

def prepareGeneration (factory override : Layer) (enabled tolerateConflicts : Bool) (retainCurrent : List String) :
    Except RegistryErr (RoutingGeneration × List (String × RoutingErr)) :=
  let factory := if r.masterEnabled then factory else .empty
  let override := if r.masterEnabled then override else .empty
  let number := r.generation.number + 1
  let built :=
    if tolerateConflicts then
      buildRoutingGenerationAdmitting factory override enabled number (some r.generation) retainCurrent
    else (buildStrict factory override enabled number).map fun generation => (generation, [])
  match built with
  | .error e => .error (.routing e)
  | .ok (generation, routingErrors) => r.prepare generation routingErrors

def resolveActiveOverrides (generation : RoutingGeneration) (override : Layer) (enabled : Bool) : Layer :=
  if enabled then
    (⟨generation.plugins, generation.nodup⟩ : Layer).filter fun p =>
      match override.get? p.key with
      | none => false
      | some desired => p = desired ∨ r.activeOverride.get? p.key = some p
  else .empty

def publishGeneration (generation : RoutingGeneration) (routingErrors : List (String × RoutingErr))
    (activeOverride : Layer) : Registry :=
  { r with
    generation, routingErrors, activeOverride
    lastRebuildErr := none
    lastStatus := if routingErrors = [] then .success else .incomplete
    lastGeneration := generation.number }

def recordRebuildFailure (e : RegistryErr) : Registry :=
  { r with lastRebuildErr := some e, lastStatus := .failed, lastGeneration := r.generation.number }

/-- `register`, with the result of `CompilePlugin`. -/
def register (compiled : Except String LoadedPlugin) (factory : Bool) : Except RegistryErr LoadedPlugin × Registry :=
  match compiled with
  | .error e => (.error (.compile e), r)
  | .ok plugin =>
    let factoryPlugins := if factory then r.factory.put plugin else r.factory
    let overridePlugins := if factory then r.override else r.override.put plugin
    let enabled := r.overrideEnabled
    match r.prepareGeneration (filterDisabledFactory factoryPlugins r.disabledFactory) overridePlugins enabled false [] with
    | .error e => (.error e, r.recordRebuildFailure e)
    | .ok (generation, routingErrors) =>
      match routingErrors.lookup plugin.key with
      | some rejection =>
        if rejection = .prepared "" then
          (.ok plugin, { r with factory := factoryPlugins, override := overridePlugins }.publishGeneration generation
            routingErrors (r.resolveActiveOverrides generation overridePlugins enabled))
        else (.error (.routing rejection), r.recordRebuildFailure (.routing rejection))
      | none =>
        (.ok plugin, { r with factory := factoryPlugins, override := overridePlugins }.publishGeneration generation
          routingErrors (r.resolveActiveOverrides generation overridePlugins enabled))

/-- A new override layer is published; conflicts are tolerated. -/
def replaceLayer (overridePlugins : Layer) : Except RegistryErr Unit × Registry :=
  let retainCurrent := if r.overrideEnabled then pluginMapKeys overridePlugins else []
  match r.prepareGeneration r.enabledFactory overridePlugins r.overrideEnabled true retainCurrent with
  | .error e => (.error e, r.recordRebuildFailure e)
  | .ok (generation, routingErrors) =>
    (.ok (), { r with override := overridePlugins }.publishGeneration generation routingErrors
      (r.resolveActiveOverrides generation overridePlugins r.overrideEnabled))

def unregister (key : String) : Except RegistryErr Unit × Registry :=
  match r.override.get? key with
  | none => (.ok (), r)
  | some _ => r.replaceLayer (r.override.erase key)

/-- The loop of `ReplaceOverrides` over its argument. -/
def collectOverrides : List (Option LoadedPlugin) → Layer → Except RegistryErr Layer
  | [], layer => .ok layer
  | none :: _, _ => .error .nilPlugin
  | some plugin :: rest, layer =>
    match layer.get? plugin.key with
    | some _ => .error (.duplicateKey plugin.key)
    | none => collectOverrides rest (layer.put plugin)

def replaceOverrides (plugins : List (Option LoadedPlugin)) : Except RegistryErr Unit × Registry :=
  match collectOverrides plugins .empty with
  | .error e => (.error e, r)
  | .ok overridePlugins => if samePluginMap r.override overridePlugins then (.ok (), r) else r.replaceLayer overridePlugins

def setEnabled (enabled : Bool) : Registry :=
  if r.masterEnabled = enabled then r
  else
    let switched := { r with masterEnabled := enabled }
    let retainCurrent := if enabled && r.overrideEnabled then pluginMapKeys r.override else []
    match switched.prepareGeneration r.enabledFactory r.override r.overrideEnabled true retainCurrent with
    | .error e => r.recordRebuildFailure e
    | .ok (generation, routingErrors) =>
      switched.publishGeneration generation routingErrors
        (r.resolveActiveOverrides generation r.override r.overrideEnabled)

def setOverrideEnabled (enabled : Bool) : Registry :=
  if r.overrideEnabled = enabled then r
  else
    let retainCurrent := if enabled then pluginMapKeys r.override else []
    match r.prepareGeneration r.enabledFactory r.override enabled true retainCurrent with
    | .error e => r.recordRebuildFailure e
    | .ok (generation, routingErrors) =>
      { r with overrideEnabled := enabled }.publishGeneration generation routingErrors
        (r.resolveActiveOverrides generation r.override enabled)

def setDisabledFactoryKeys (keys : List String) : Registry :=
  let next := ((keys.map trimSpace).filter (· ≠ "")).dedup
  if next.length = r.disabledFactory.length ∧ ∀ key ∈ next, key ∈ r.disabledFactory then r
  else
    let retainCurrent := if r.overrideEnabled then pluginMapKeys r.override else []
    match r.prepareGeneration (filterDisabledFactory r.factory next) r.override r.overrideEnabled true retainCurrent with
    | .error e => r.recordRebuildFailure e
    | .ok (generation, routingErrors) =>
      { r with disabledFactory := next }.publishGeneration generation routingErrors
        (r.resolveActiveOverrides generation r.override r.overrideEnabled)

end Registry

/-- The operations on a registry; a registration comes with the result of the compiler. -/
inductive RegistryOp
  | register (compiled : Except String LoadedPlugin) (factory : Bool)
  | unregister (key : String)
  | replaceOverrides (plugins : List (Option LoadedPlugin))
  | setEnabled (enabled : Bool)
  | setOverrideEnabled (enabled : Bool)
  | setDisabledFactoryKeys (keys : List String)

/-- What an operation returns, and the registry after it. -/
def Registry.perform (r : Registry) : RegistryOp → Except RegistryErr Unit × Registry
  | .register compiled factory => ((r.register compiled factory).1.map fun _ => (), (r.register compiled factory).2)
  | .unregister key => r.unregister key
  | .replaceOverrides plugins => r.replaceOverrides plugins
  | .setEnabled enabled => (.ok (), r.setEnabled enabled)
  | .setOverrideEnabled enabled => (.ok (), r.setOverrideEnabled enabled)
  | .setDisabledFactoryKeys keys => (.ok (), r.setDisabledFactoryKeys keys)

/-- The registry after an operation. -/
def Registry.step (r : Registry) (op : RegistryOp) : Registry := (r.perform op).2

end Desktop2Stereo
