import Desktop2Stereo.Lib.Checked
import Desktop2Stereo.Lib.GoText
import Desktop2Stereo.Lib.Segments

/-!
# Desktop2Stereo: the routes that a plugin declares

A route names a method and a path pattern of static segments, parameters `:name` and a last catch-all `*name`. Some
namespaces of the site are reserved; a pattern that reaches one of them is refused.
-/

namespace Desktop2Stereo

open Checked GoText Segments

/-! ## Data -/

inductive RouteType
  | submit | query | dynamic
  | other (name : String)
  deriving DecidableEq

structure Route where
  method : String
  path : String
  type : RouteType
  action : String := ""
  decode : String := ""
  render : String := ""
  taskIDParam : String := ""
  models : List String := []
  deriving DecidableEq

inductive RouteErr
  | methodSpelling (method : String)
  | methodUnsupported (method : String)
  | notRooted
  | root
  | encoded (path : String)
  | emptySegments (path : String)
  | dotSegments (path : String)
  | parameter (path segment : String)
  | repeated (path name : String)
  | catchAll (path : String)
  | segment (path segment : String)
  | reserved (path routeNamespace : String)
  | submitMembers (method path : String)
  | queryMembers (method path : String)
  | queryAction (method path : String)
  | queryParam (method path taskIDParam : String)
  | queryPath (method path taskIDParam : String)
  | dynamicMembers (method path : String)
  | typeUnsupported (method path type : String)
  | decodeName (method path decode : String)
  | renderName (method path render : String)
  | actionSpace (method path : String)
  | queryModels (method path : String)
  | modelNames (subject : String)
  | modelRepeated (subject : String)
  deriving DecidableEq

/-- The message, where `q` is the verb `%q`. -/
def RouteErr.text (q : String → String) : RouteErr → String
  | .methodSpelling m => s!"plugin route method {q m} must use canonical uppercase spelling"
  | .methodUnsupported m => s!"plugin route method {q m} is not supported"
  | .notRooted => "plugin route path must start with /"
  | .root => "plugin route path / is reserved"
  | .encoded p => s!"plugin route path {q p} must not contain a query, fragment, or percent-encoding"
  | .emptySegments p => s!"plugin route path {q p} must not contain empty segments"
  | .dotSegments p => s!"plugin route path {q p} must not contain dot segments"
  | .parameter p s => s!"plugin route path {q p} has invalid parameter {q s}"
  | .repeated p n => s!"plugin route path {q p} repeats parameter {q n}"
  | .catchAll p => s!"plugin route path {q p} has an invalid catch-all segment"
  | .segment p s => s!"plugin route path {q p} has invalid segment {q s}"
  | .reserved p n => s!"plugin route path {q p} intersects reserved namespace {n}"
  | .submitMembers m p => s!"submit route {m} {p} must declare decode and render and must not declare taskIdParam"
  | .queryMembers m p => s!"query route {m} {p} must declare render and must not declare decode"
  | .queryAction m p => s!"query route {m} {p} must not declare action"
  | .queryParam m p t => s!"query route {m} {p} has invalid taskIdParam {q t}"
  | .queryPath m p t => s!"query route {m} {p} must contain :{t}"
  | .dynamicMembers m p => s!"dynamic route {m} {p} must declare decode and render and must not declare taskIdParam"
  | .typeUnsupported m p t => s!"plugin route {m} {p} has unsupported type {q t}"
  | .decodeName m p d => s!"plugin route {m} {p} has invalid decode {q d}"
  | .renderName m p r => s!"plugin route {m} {p} has invalid render {q r}"
  | .actionSpace m p => s!"plugin route {m} {p} action must not have surrounding whitespace"
  | .queryModels m p => s!"query route {m} {p} must not declare models"
  | .modelNames s => s!"plugin {s} models must contain non-empty canonical names"
  | .modelRepeated s => s!"plugin {s} models must be unique case-insensitively"

/-! ## Names -/

def asciiFold (s : String) : String :=
  String.ofList (s.toList.map fun c => if 'A' ≤ c ∧ c ≤ 'Z' then Char.ofNat (c.toNat + 32) else c)

/-- A name that starts with a letter or one of `extra` and goes on with letters, digits and `extra`. -/
def isName (extra : List Char) (s : String) : Bool :=
  match s.toList with
  | [] => false
  | c :: l => (c.isAlpha || c ∈ extra) && l.all fun c => c.isAlphanum || c ∈ extra

/-- `pathNamePattern` -/
def isPathName : String → Bool := isName ['_']

/-- `memberNamePattern` -/
def isMemberName : String → Bool := isName ['_', '$']

/-- `staticSegment` -/
def isStaticSegment (s : String) : Bool :=
  s ≠ "" && s.toList.all fun c => c.isAlphanum || c ∈ ['.', '_', '~', '-']

/-! ## Paths -/

def normalizeRouteMethod (method : String) : Except RouteErr String :=
  let method := toUpper (trimSpace method)
  if method ∈ ["GET", "POST", "PUT", "PATCH", "DELETE"] then .ok method else .error (.methodUnsupported method)

/-- The loop of `NormalizeRoutePath` over the segments; `seen` are the names so far. -/
def checkSegments (routePath : String) : List String → List String → Except RouteErr Unit
  | [], _ => .ok ()
  | segment :: rest, seen =>
    let name := String.ofList (segment.toList.drop 1)
    if segment = "" ∧ rest = [] then .ok ()
    else if segment = "." ∨ segment = ".." then .error (.dotSegments routePath)
    else if hasPrefix ":" segment then
      if isPathName name = false then .error (.parameter routePath segment)
      else if name ∈ seen then .error (.repeated routePath name)
      else checkSegments routePath rest (name :: seen)
    else if hasPrefix "*" segment then
      if rest ≠ [] ∨ isPathName name = false then .error (.catchAll routePath)
      else if name ∈ seen then .error (.repeated routePath name)
      else checkSegments routePath rest (name :: seen)
    else if isStaticSegment segment = false then .error (.segment routePath segment)
    else checkSegments routePath rest seen

def normalizeRoutePath (routePath : String) : Except RouteErr String := do
  check (hasPrefix "/" routePath = true) .notRooted
  check (routePath ≠ "/") .root
  check (routePath.toList.any (· ∈ ['?', '#', '%']) = false) (.encoded routePath)
  check (¬ "//".toList <:+: routePath.toList) (.emptySegments routePath)
  checkSegments routePath (split '/' (trimPrefix "/" routePath)) []
  return routePath

def routePathShape (routePath : String) : Except RouteErr String := do
  let normalized ← normalizeRoutePath routePath
  let segments := (split '/' (trimPrefix "/" normalized)).map fun segment =>
    if hasPrefix ":" segment then ":" else if hasPrefix "*" segment then "*" else segment
  return "/" ++ join '/' segments

def pathHasParameter (routePath name : String) : Prop := ":" ++ name ∈ split '/' routePath

instance (routePath name : String) : Decidable (pathHasParameter routePath name) :=
  inferInstanceAs (Decidable (_ ∈ _))

/-! ## Reserved namespaces -/

def reservedRouteNamespaces : List String :=
  ["/api", "/assets", "/setup", "/v1/tasks", "/console", "/login", "/forbidden", "/sign-in", "/sign-up",
    "/forgot-password", "/oauth", "/otp", "/register", "/reset", "/privacy-policy", "/user-agreement", "/about",
    "/pricing", "/rankings", "/user", "/401", "/403", "/404", "/500", "/503", "/chat2link", "/system-settings",
    "/channels", "/chat", "/dashboard", "/errors", "/keys", "/models", "/playground", "/profile", "/redemption-codes",
    "/subscriptions", "/system-info", "/task-plugins", "/usage-logs", "/users", "/wallet"]

/-- The loop of `routePatternIntersectsNamespace`. -/
def segmentsIntersect : List String → List String → Bool
  | [], _ => true
  | _ :: _, [] => false
  | namespaceSegment :: ns, routeSegment :: rs =>
    if hasPrefix "*" routeSegment then true
    else if hasPrefix ":" routeSegment = false ∧ routeSegment ≠ namespaceSegment then false
    else segmentsIntersect ns rs

def routePatternIntersectsNamespace (routePath routeNamespace : String) : Bool :=
  segmentsIntersect (split '/' (trimPrefix "/" routeNamespace)) (split '/' (trim '/' (trimPrefix "/" routePath)))

def intersectingReservedNamespace (routePath : String) : Option String :=
  reservedRouteNamespaces.find? fun n => routePatternIntersectsNamespace routePath n

/-! ## Validation -/

/-- The loop of `validateModelScope`; `seen` are the folded names so far. -/
def validateModels (subject : String) : List String → List String → Except RouteErr Unit
  | [], _ => .ok ()
  | model :: rest, seen => do
    check (trimSpace model ≠ "" ∧ trimSpace model = model) (.modelNames subject)
    check (asciiFold model ∉ seen) (.modelRepeated subject)
    validateModels subject rest (asciiFold model :: seen)

def validateModelScope (models : List String) (subject : String) : Except RouteErr Unit := validateModels subject models []

/-- The checks of `validateRoute` by the type of the route; a query route gets its default parameter. -/
def validateRouteType (route : Route) : Except RouteErr Route :=
  match route.type with
  | .submit => do
    check (route.decode ≠ "" ∧ route.render ≠ "" ∧ route.taskIDParam = "") (.submitMembers route.method route.path)
    return route
  | .query => do
    check (route.decode = "" ∧ trimSpace route.render ≠ "") (.queryMembers route.method route.path)
    check (route.action = "") (.queryAction route.method route.path)
    let route := if route.taskIDParam = "" then { route with taskIDParam := "task_id" } else route
    check (isPathName route.taskIDParam = true) (.queryParam route.method route.path route.taskIDParam)
    check (pathHasParameter route.path route.taskIDParam) (.queryPath route.method route.path route.taskIDParam)
    return route
  | .dynamic => do
    check (route.decode ≠ "" ∧ route.render ≠ "" ∧ route.taskIDParam = "") (.dynamicMembers route.method route.path)
    return route
  | .other type => .error (.typeUnsupported route.method route.path type)

/-- The last checks of `validateRoute`. -/
def validateRouteMembers (route : Route) : Except RouteErr Unit := do
  check (route.decode ≠ "" → isMemberName route.decode = true) (.decodeName route.method route.path route.decode)
  check (route.render ≠ "" → isMemberName route.render = true) (.renderName route.method route.path route.render)
  check (trimSpace route.action = route.action) (.actionSpace route.method route.path)
  check (route.models ≠ [] → route.type ≠ .query) (.queryModels route.method route.path)
  validateModelScope route.models ("route " ++ route.method ++ " " ++ route.path)

def validateRoute (route : Route) : Except RouteErr Route := do
  check (route.method = toUpper (trimSpace route.method)) (.methodSpelling route.method)
  let method ← normalizeRouteMethod route.method
  let path ← normalizeRoutePath route.path
  match intersectingReservedNamespace path with
  | some n => .error (.reserved path n)
  | none => do
    let route ← validateRouteType { route with method, path }
    validateRouteMembers route
    return route

end Desktop2Stereo
