import Desktop2Stereo.Lib.Runs
import Desktop2Stereo.Model.Plugins

/-!
# Plugin routes and reserved namespaces

A request path matches a pattern segment by segment: a static segment is itself, a parameter is one segment, and a
catch-all is everything that is left, one segment at least. The test that refuses a pattern compares segments of the
pattern with those of a namespace. It finds exactly the patterns with a match in the namespace, so no route of a
published generation answers a request that belongs to the site.

* `segmentsIntersect_sound`, `segmentsIntersect_complete`: induction on both lists of segments;
* `isRoutePattern_of_normalize`: what `NormalizeRoutePath` accepts is a pattern;
* `routes_of_indexPlugins`: the routes of a generation are those of its plugins;
* **`routes_avoid_reserved_namespaces`**.
-/

namespace Desktop2Stereo

open Checked Segments List

/-! ## Matching -/

/-- A segment of a pattern that is not a catch-all covers a segment of a path. Routers differ on empty parameters. -/
def CoversSegment (allowEmpty : Bool) (pattern segment : String) : Prop :=
  if hasPrefix ":" pattern then allowEmpty = true ∨ segment ≠ "" else pattern = segment

def MatchSegments (allowEmpty : Bool) : List String → List String → Prop
  | [], [] => True
  | p :: ps, t :: ts => hasPrefix "*" p = true ∨ (CoversSegment allowEmpty p t ∧ MatchSegments allowEmpty ps ts)
  | _, _ => False

theorem matchSegments_cons {allowEmpty : Bool} {p t : String} {ps ts : List String} :
    MatchSegments allowEmpty (p :: ps) (t :: ts) ↔
      hasPrefix "*" p = true ∨ (CoversSegment allowEmpty p t ∧ MatchSegments allowEmpty ps ts) := by
  rw [MatchSegments]

def RouteMatches (allowEmpty : Bool) (routePath path : String) : Prop :=
  MatchSegments allowEmpty (split '/' routePath) (split '/' path)

/-- A rooted path whose segments are not empty, the last one apart, with a catch-all at its end only. -/
def IsRoutePattern (routePath : String) : Prop :=
  ∃ segments, split '/' routePath = "" :: segments ∧ segments ≠ [] ∧
    ∀ s ∈ segments.dropLast, s ≠ "" ∧ hasPrefix "*" s = false

/-- A rooted path without empty segments. -/
def IsRouteNamespace (routeNamespace : String) : Prop :=
  ∃ segments, split '/' routeNamespace = "" :: segments ∧ segments ≠ [] ∧ ∀ s ∈ segments, s ≠ ""

def InNamespace (path routeNamespace : String) : Prop :=
  path = routeNamespace ∨ ∃ rest, path = routeNamespace ++ "/" ++ rest

variable {routeNamespace : String}

theorem inNamespace_iff {path : String} :
    InNamespace path routeNamespace ↔ split '/' routeNamespace <+: split '/' path := by
  rw [← below_iff, InNamespace]
  refine or_congr_right ⟨?_, ?_⟩
  · rintro ⟨rest, rfl⟩
    refine ⟨rest.toList, String.toList_inj.mp ?_⟩
    simp
  · rintro ⟨r, rfl⟩
    refine ⟨String.ofList r, String.toList_inj.mp ?_⟩
    simp

/-! ## The test on segments -/

section Segments

variable {allowEmpty : Bool} {ns rs tail ts : List String}

def sampleSegment (s : String) : String := if hasPrefix ":" s then "x" else s

theorem matchSegments_sample (ps : List String) : MatchSegments allowEmpty ps (ps.map sampleSegment) := by
  induction ps with
  | nil => trivial
  | cons p ps ih =>
    refine .inr ⟨?_, ih⟩
    unfold CoversSegment sampleSegment
    split_ifs
    · exact .inr (by decide)
    · rfl

variable (allowEmpty) in
theorem segmentsIntersect_complete (hns : ∀ s ∈ ns, s ≠ "" ∧ '/' ∉ s.toList) (hfree : ∀ s ∈ rs ++ tail, '/' ∉ s.toList)
    (h : segmentsIntersect ns rs = true) :
    ∃ ts, (∀ s ∈ ts, '/' ∉ s.toList) ∧ ns <+: ts ∧ MatchSegments allowEmpty (rs ++ tail) ts := by
  induction ns generalizing rs with
  | nil =>
    refine ⟨(rs ++ tail).map sampleSegment, fun s hs => ?_, nil_prefix, matchSegments_sample _⟩
    obtain ⟨p, hp, rfl⟩ := mem_map.mp hs
    unfold sampleSegment
    split_ifs
    · decide
    · exact hfree p hp
  | cons n ns ih =>
    obtain ⟨hn, hns⟩ := forall_mem_cons.mp hns
    cases rs with
    | nil => cases h
    | cons r =>
      rw [segmentsIntersect] at h
      split_ifs at h with hstar hne
      · refine ⟨n :: ns, forall_mem_cons.mpr ⟨hn.2, fun s hs => (hns s hs).2⟩, prefix_rfl, .inl hstar⟩
      · obtain ⟨ts, hts, hpre, hmatch⟩ := ih hns (fun s hs => hfree s (mem_cons_of_mem r hs)) h
        refine ⟨n :: ts, forall_mem_cons.mpr ⟨hn.2, hts⟩, cons_prefix_cons.mpr ⟨rfl, hpre⟩, .inr ⟨?_, hmatch⟩⟩
        unfold CoversSegment
        split_ifs with hparam
        · exact .inr hn.1
        · by_contra hrn
          exact hne ⟨by simpa using hparam, hrn⟩

theorem segmentsIntersect_sound (hns : ∀ s ∈ ns, s ≠ "") (htail : tail = [] ∨ tail = [""]) (hpre : ns <+: ts)
    (h : MatchSegments allowEmpty (rs ++ tail) ts) : segmentsIntersect ns rs = true := by
  induction ns generalizing rs ts with
  | nil => rfl
  | cons n ns ih =>
    obtain ⟨hn, hns⟩ := forall_mem_cons.mp hns
    obtain ⟨us, rfl⟩ := hpre
    cases rs with
    | nil =>
      -- the pattern has ended; a slash at its end covers no segment of a namespace
      rcases htail with rfl | rfl
      · exact h.elim
      · rcases h with h | ⟨h, -⟩
        · exact absurd h (by decide)
        · exact absurd h.symm hn
    | cons =>
      rw [segmentsIntersect]
      split_ifs with hstar hne
      · rfl
      · rcases h with h | ⟨h, -⟩
        · exact absurd h hstar
        · unfold CoversSegment at h
          rw [if_neg (by simp [hne.1])] at h
          exact absurd h hne.2
      · rcases h with h | ⟨-, h⟩
        · exact absurd h hstar
        · exact ih hns (prefix_append ns us) h

end Segments

/-! ## The test on paths -/

variable {segments : List String}

variable {routePath : String}

theorem split_pattern (h : split '/' routePath = "" :: segments) (hne : segments ≠ [])
    (hfull : ∀ s ∈ segments.dropLast, s ≠ "") :
    ∃ tail, (tail = [] ∨ tail = [""]) ∧
      segments = split '/' (trim '/' (trimPrefix "/" routePath)) ++ tail := by
  have hfree : ∀ s ∈ segments, '/' ∉ s.toList := fun s hs => free_of_mem_split (h ▸ mem_cons_of_mem "" hs)
  have hjoin : trimPrefix "/" routePath = join '/' segments := by
    rw [← split_trimPrefix h hne, join_split]
  obtain ⟨xs, x, rfl⟩ : ∃ xs x, segments = xs ++ [x] := ⟨_, _, (dropLast_append_getLast hne).symm⟩
  rw [dropLast_concat] at hfull
  by_cases hx : x = ""
  · subst hx
    by_cases hxs : xs = []
    · subst hxs
      refine ⟨[], .inl rfl, ?_⟩
      rw [hjoin]
      simp [split, trim, join]
    · refine ⟨[""], .inr rfl, ?_⟩
      have hfree' : ∀ s ∈ xs, '/' ∉ s.toList := fun s hs => hfree s (mem_append_left _ hs)
      rw [hjoin, trim_join_concat hxs hfree' hfull, split_join hxs hfree']
  · refine ⟨[], .inl rfl, ?_⟩
    have hfull' : ∀ s ∈ xs ++ [x], s ≠ "" := by
      intro s hs
      rcases mem_append.mp hs with hs | hs
      · exact hfull s hs
      · rwa [mem_singleton.mp hs]
    rw [hjoin, trim_join hne hfree hfull', split_join hne hfree, append_nil]

theorem intersects_iff (allowEmpty : Bool) (hp : IsRoutePattern routePath) (hn : IsRouteNamespace routeNamespace) :
    routePatternIntersectsNamespace routePath routeNamespace = true ↔
      ∃ path, RouteMatches allowEmpty routePath path ∧ InNamespace path routeNamespace := by
  obtain ⟨ps, hps, hpne, hpfull⟩ := hp
  obtain ⟨ns, hns, hnne, hnfull⟩ := hn
  obtain ⟨_, htail, hsegments⟩ := split_pattern hps hpne fun s hs => (hpfull s hs).1
  have hpfree : ∀ s ∈ ps, '/' ∉ s.toList := fun s hs => free_of_mem_split (hps ▸ mem_cons_of_mem "" hs)
  have hnfree : ∀ s ∈ ns, '/' ∉ s.toList := fun s hs => free_of_mem_split (hns ▸ mem_cons_of_mem "" hs)
  rw [routePatternIntersectsNamespace, split_trimPrefix hns hnne]
  constructor
  · intro h
    rw [hsegments] at hpfree
    obtain ⟨ts, hfree, hpre, hmatch⟩ :=
      segmentsIntersect_complete allowEmpty (fun s hs => ⟨hnfull s hs, hnfree s hs⟩) hpfree h
    have hts : split '/' (join '/' ("" :: ts)) = "" :: ts :=
      split_join (cons_ne_nil "" ts) (forall_mem_cons.mpr ⟨by decide, hfree⟩)
    refine ⟨join '/' ("" :: ts), ?_, ?_⟩
    · rw [RouteMatches, hts, hps, hsegments]
      exact matchSegments_cons.mpr (.inr ⟨by rw [CoversSegment, if_neg (by decide)], hmatch⟩)
    · rw [inNamespace_iff, hts, hns]
      exact cons_prefix_cons.mpr ⟨rfl, hpre⟩
  · rintro ⟨_, hmatch, hin⟩
    rw [inNamespace_iff, hns] at hin
    obtain ⟨us, hus⟩ := hin
    rw [RouteMatches, hps, ← hus, hsegments] at hmatch
    rcases matchSegments_cons.mp hmatch with hmatch | ⟨-, hmatch⟩
    · exact absurd hmatch (by decide)
    · exact segmentsIntersect_sound hnfull htail (prefix_append ns us) hmatch

/-! ## Routes that have been validated -/

variable {seen : List String}

theorem checkSegments_cons_ok {s s' : String} {rest : List String}
    (h : checkSegments routePath (s :: s' :: rest) seen = .ok ()) :
    (s ≠ "" ∧ hasPrefix "*" s = false) ∧ ∃ seen', checkSegments routePath (s' :: rest) seen' = .ok () := by
  have hempty : hasPrefix ":" "" = false ∧ hasPrefix "*" "" = false ∧ isStaticSegment "" = false := by decide
  unfold checkSegments at h
  dsimp only at h
  rw [if_neg fun hlast => cons_ne_nil s' rest hlast.2] at h
  split_ifs at h with hdots hparam hname hseen hstar hall hseen' hstatic
  · refine ⟨⟨?_, ?_⟩, _, h⟩
    · rintro rfl
      exact Bool.false_ne_true (hempty.1.symm.trans hparam)
    · -- a segment does not begin with both marks
      obtain ⟨l, hl⟩ := hasPrefix_iff.mp hparam
      by_contra hc
      obtain ⟨_, hl'⟩ := hasPrefix_iff.mp (Bool.eq_true_of_not_eq_false hc)
      rw [← hl] at hl'
      exact absurd hl' (by simp)
  · exact absurd (Or.inl (cons_ne_nil s' rest)) hall
  · refine ⟨⟨?_, Bool.eq_false_of_not_eq_true hstar⟩, _, h⟩
    rintro rfl
    exact hstatic hempty.2.2

theorem checkSegments_ok (h : checkSegments routePath segments seen = .ok ()) :
    ∀ s ∈ segments.dropLast, s ≠ "" ∧ hasPrefix "*" s = false := by
  induction segments generalizing seen with
  | nil => simp
  | cons s rest ih =>
    cases rest with
    | nil => simp
    | cons s' rest =>
      obtain ⟨hs, _, hrest⟩ := checkSegments_cons_ok h
      rw [dropLast_cons_of_ne_nil (cons_ne_nil s' rest)]
      exact forall_mem_cons.mpr ⟨hs, ih hrest⟩

theorem isRoutePattern_of_normalize {normalized : String} (h : normalizeRoutePath routePath = .ok normalized) :
    normalized = routePath ∧ IsRoutePattern routePath := by
  unfold normalizeRoutePath at h
  simp only [bind_eq_ok, check_eq_ok] at h
  obtain ⟨_, hroot, _, -, _, -, _, -, _, hcheck, hret⟩ := h
  refine ⟨(Except.ok.inj hret).symm, ?_⟩
  obtain ⟨l, hl⟩ := hasPrefix_iff.mp hroot
  have hpath : routePath = String.ofList ("".toList ++ '/' :: l) := String.toList_inj.mp (by rw [← hl]; simp)
  have hsplit : split '/' routePath = "" :: split '/' (String.ofList l) := by
    rw [hpath, split_append]
    have hnil : split '/' "" = [""] := by simp [split]
    rw [hnil]
    rfl
  have hne := split_ne_nil '/' (String.ofList l)
  refine ⟨split '/' (String.ofList l), hsplit, hne, ?_⟩
  have htrim : split '/' (trimPrefix "/" routePath) = split '/' (String.ofList l) := split_trimPrefix hsplit hne
  rw [htrim] at hcheck
  exact checkSegments_ok hcheck

theorem validateRouteType_path {route route' : Route} (h : validateRouteType route = .ok route') :
    route'.path = route.path := by
  unfold validateRouteType at h
  split at h
  · simp only [bind_eq_ok, check_eq_ok] at h
    obtain ⟨_, -, h⟩ := h
    rw [← Except.ok.inj h]
  · simp only [bind_eq_ok, check_eq_ok] at h
    obtain ⟨_, -, _, -, _, -, _, -, h⟩ := h
    rw [← Except.ok.inj h]
    split_ifs <;> rfl
  · simp only [bind_eq_ok, check_eq_ok] at h
    obtain ⟨_, -, h⟩ := h
    rw [← Except.ok.inj h]
  · cases h

theorem validateRoute_ok {declared route : Route} (h : validateRoute declared = .ok route) :
    normalizeRoutePath route.path = .ok route.path ∧ intersectingReservedNamespace route.path = none := by
  unfold validateRoute at h
  simp only [bind_eq_ok, check_eq_ok] at h
  obtain ⟨_, -, _, -, _, hpath, h⟩ := h
  split at h
  · cases h
  next hnone =>
    simp only [bind_eq_ok] at h
    obtain ⟨_, htype, _, -, hret⟩ := h
    obtain ⟨rfl, -⟩ := isRoutePattern_of_normalize hpath
    rw [← Except.ok.inj hret, validateRouteType_path htype]
    exact ⟨hpath, hnone⟩

theorem isRouteNamespace_reserved (h : routeNamespace ∈ reservedRouteNamespaces) :
    IsRouteNamespace routeNamespace := by
  have hall : ∀ n ∈ reservedRouteNamespaces, (split '/' n).head? = some "" ∧ (split '/' n).tail ≠ [] ∧
      ∀ s ∈ (split '/' n).tail, s ≠ "" := by decide +kernel
  obtain ⟨hhead, htail, hfull⟩ := hall routeNamespace h
  exact ⟨(split '/' routeNamespace).tail, eq_cons_of_mem_head? hhead, htail, hfull⟩

/-! ## Generations -/

section Routes

variable {plugin : LoadedPlugin} {idx idx' : RoutingIndexes}

theorem ownModel_routes (model : String) : (ownModel plugin idx model).routes = idx.routes := by
  unfold ownModel
  split <;> rfl

theorem indexModel_routes {model : String} (h : indexModel plugin idx model = .ok idx') : idx'.routes = idx.routes := by
  unfold indexModel at h
  dsimp only at h
  repeat' split at h
  all_goals cases h <;> exact ownModel_routes model

theorem indexChannelType_routes {n : ℤ} (h : indexChannelType plugin idx n = .ok idx') : idx'.routes = idx.routes := by
  unfold indexChannelType at h
  repeat' split at h
  all_goals cases h <;> rfl

theorem indexEndpoint_routes {e : String × ProtocolBinding} (h : indexEndpoint plugin idx e = .ok idx') :
    idx'.routes = idx.routes := by
  unfold indexEndpoint at h
  dsimp only at h
  repeat' split at h
  all_goals cases h <;> rfl

theorem indexRoute_routes {route : Route} (h : indexRoute plugin idx route = .ok idx') :
    idx'.routes = idx.routes ++ [⟨plugin, route⟩] := by
  unfold indexRoute at h
  dsimp only at h
  repeat' split at h
  all_goals cases h <;> rfl

def RoutesOf (plugins : List LoadedPlugin) (idx : RoutingIndexes) : Prop :=
  ∀ b ∈ idx.routes, b.plugin ∈ plugins ∧ b.route ∈ b.plugin.manifest.routes

variable {plugins : List LoadedPlugin}

theorem indexPlugin_routes (hp : plugin ∈ plugins) (h : indexPlugin idx plugin = .ok idx') (hi : RoutesOf plugins idx) :
    RoutesOf plugins idx' := by
  unfold indexPlugin at h
  simp only [bind_eq_ok] at h
  obtain ⟨idx1, h1, idx2, h2, idx3, h3, h4⟩ := h
  have e1 : idx1.routes = idx.routes :=
    foldlM_invariant (I := fun x => x.routes = idx.routes) (fun _ _ _ _ hs hI => (indexModel_routes hs).trans hI) h1 rfl
  have e2 : idx2.routes = idx.routes :=
    foldlM_invariant (I := fun x => x.routes = idx.routes) (fun _ _ _ _ hs hI => (indexChannelType_routes hs).trans hI)
      h2 e1
  have hi2 : RoutesOf plugins idx2 := by
    unfold RoutesOf
    rw [e2]
    exact hi
  have hi3 : RoutesOf plugins idx3 := by
    refine foldlM_invariant (fun s route s' hroute hs hI b hb => ?_) h3 hi2
    rw [indexRoute_routes hs] at hb
    rcases mem_append.mp hb with hb | hb
    · exact hI b hb
    · rw [mem_singleton.mp hb]
      exact ⟨hp, hroute⟩
  have e4 : idx'.routes = idx3.routes :=
    foldlM_invariant (I := fun x => x.routes = idx3.routes) (fun _ _ _ _ hs hI => (indexEndpoint_routes hs).trans hI) h4 rfl
  unfold RoutesOf
  rw [e4]
  exact hi3

theorem routes_of_indexPlugins (h : indexPlugins plugins = .ok idx) : RoutesOf plugins idx :=
  foldlM_invariant (fun _ _ _ hp hs hI => indexPlugin_routes hp hs hI) h nofun

end Routes

/-- **A pattern meets a namespace just when a path in the namespace matches it; and no route of a published generation
matches a path in a reserved namespace.** The preparer of the registry is any. -/
theorem routes_avoid_reserved_namespaces (allowEmpty : Bool) :
    (∀ routePath routeNamespace, IsRoutePattern routePath → IsRouteNamespace routeNamespace →
      (routePatternIntersectsNamespace routePath routeNamespace = true ↔
        ∃ path, RouteMatches allowEmpty routePath path ∧ InNamespace path routeNamespace)) ∧
    ∀ (preparer : Option RoutingGenerationPreparer) (ops : List RegistryOp),
      ∀ binding ∈ (Runs.run Registry.step { newRegistry with preparer } ops).generation.indexes.routes,
      ∀ routeNamespace ∈ reservedRouteNamespaces, ∀ path, InNamespace path routeNamespace →
        ¬ RouteMatches allowEmpty binding.route.path path := by
  refine ⟨fun _ _ hp hn => intersects_iff allowEmpty hp hn, fun preparer ops binding hb routeNamespace hn path hin hm => ?_⟩
  have hroutes := routes_of_indexPlugins (Runs.run Registry.step { newRegistry with preparer } ops).generation.indexed
  obtain ⟨_, hvalid⟩ := binding.plugin.routesValid binding.route (hroutes binding hb).2
  obtain ⟨hnormal, hfree⟩ := validateRoute_ok hvalid
  have hpattern := (isRoutePattern_of_normalize hnormal).2
  have hmeets : routePatternIntersectsNamespace binding.route.path routeNamespace = true :=
    (intersects_iff allowEmpty hpattern (isRouteNamespace_reserved hn)).mpr ⟨path, hm, hin⟩
  exact List.find?_eq_none.mp hfree routeNamespace hn hmeets

def sampleRoute (path : String) : Route := { method := "POST", path, type := .submit, decode := "decode", render := "render" }

def samplePlugin (object : ℕ) (manifest : Meta) (h : ∀ route ∈ manifest.routes, validateRoute route = .ok route) :
    LoadedPlugin :=
  ⟨object, manifest, fun route hr => ⟨route, h route hr⟩⟩

def vendorPlugin : LoadedPlugin :=
  samplePlugin 1 { key := "vendor", models := ["m"], routes := [sampleRoute "/vendor/:name"] } (by decide +kernel)

theorem routes_avoid_reserved_namespaces_of_vendor :
    (∃ path, RouteMatches false "/v1/:kind/" path ∧ InNamespace path "/v1") ∧
    (Runs.run Registry.step { newRegistry with preparer := none } [.register (.ok vendorPlugin) false]).generation.indexes.routes =
      [⟨vendorPlugin, sampleRoute "/vendor/:name"⟩] ∧
    ¬ RouteMatches false "/vendor/:name" "/api/status" := by
  have hroutes : (Runs.run Registry.step { newRegistry with preparer := none }
      [.register (.ok vendorPlugin) false]).generation.indexes.routes =
        [⟨vendorPlugin, sampleRoute "/vendor/:name"⟩] := by decide +kernel
  have hp : IsRoutePattern "/v1/:kind/" := ⟨["v1", ":kind", ""], by decide +kernel, by decide, by decide +kernel⟩
  have hn : IsRouteNamespace "/v1" := ⟨["v1"], by decide +kernel, by decide, by decide⟩
  refine ⟨((routes_avoid_reserved_namespaces false).1 _ _ hp hn).mp (by decide +kernel), hroutes, ?_⟩
  exact (routes_avoid_reserved_namespaces false).2 none [.register (.ok vendorPlugin) false]
    ⟨vendorPlugin, sampleRoute "/vendor/:name"⟩ (by rw [hroutes]; exact mem_cons_self) "/api" (by decide)
    "/api/status" (.inr ⟨"status", by decide⟩)

end Desktop2Stereo
