import Desktop2Stereo.Model.GeminiSchema

/-!
# Cleaned schemas

Of the items of a schema that are lists in a list only the outer one is opened, so cleaning again can open another.

* **`cleaned_schema`**; `cleaned_again_differs`.
-/

namespace Desktop2Stereo

open GoText List

/-! ## Positions -/

/-- To the schema of a property, of the items (the first one of a list), or of an alternative. -/
inductive SchemaStep
  | property (name : String)
  | items
  | anyOf (i : ℕ)
deriving DecidableEq

def SchemaStep.key : SchemaStep → String
  | .property _ => "properties"
  | .items => "items"
  | .anyOf _ => "anyOf"

def SchemaStep.pick : SchemaStep → Json → Option Json
  | .property name, .obj props => props name
  | .items, .arr l => l.head?
  | .items, v => some v
  | .anyOf i, .arr nested => nested[i]?
  | _, _ => none

def Json.field (key : String) : Json → Option Json
  | .obj fields => fields key
  | _ => none

def Json.child (v : Json) (s : SchemaStep) : Option Json := (v.field s.key).bind s.pick

def Json.schemaAt : List SchemaStep → Json → Option Json
  | [], v => some v
  | s :: path, v => (v.child s).bind (schemaAt path)

/-- The cleaning of `v` with `n` levels left comes to `u`. -/
inductive Visits : ℕ → Json → Json → Prop
  | self (n : ℕ) (v : Json) : Visits (n + 1) v v
  | child {n : ℕ} {v w u : Json} {s : SchemaStep} : v.child s = some w → Visits n w u → Visits (n + 1) v u
  | element {n : ℕ} {items : List Json} {w u : Json} : w ∈ items → Visits n w u → Visits (n + 1) (.arr items) u

/-- No list of items that is opened begins with a list. -/
def ItemsOpened (n : ℕ) (v : Json) : Prop :=
  ∀ fields item rest, Visits n v (.obj fields) → fields "items" = some (.arr (item :: rest)) → ∀ l, item ≠ .arr l

/-- The type is no list, and not `null` in any case. -/
def CleanType (t : Json) : Prop := (∀ s, t = .str s → toLower (trimSpace s) ≠ "null") ∧ ∀ l, t ≠ .arr l

/-- Only allowed fields, and a type with the property `P`. -/
structure CleanFields (P : Json → Prop) (fields : Fields) : Prop where
  allowed : ∀ key, (fields key).isSome → key ∈ geminiOpenAPISchemaAllowedFields
  type : ∀ t, fields "type" = some t → P t

/-! ## Types -/

/-- Normalizing the type changes nothing. -/
def Normal (t : Json) : Prop := (∀ s, t = .str s → normalizeType s = some s) ∧ ∀ l, t ≠ .arr l

theorem normalizeType_again {s t : String} (h : normalizeType s = some t) : normalizeType t = some t := by
  have hs := h
  unfold normalizeType at h
  split at h <;> cases h
  on_goal 7 => exact hs
  all_goals decide

theorem Normal.clean {t : Json} (h : Normal t) : CleanType t := by
  refine ⟨fun s hs hnull => ?_, h.2⟩
  have := h.1 s hs
  unfold normalizeType at this
  rw [hnull] at this
  cases this

variable {schema : Fields} {key : String} {t : Json}

/-- What becomes of the type. -/
theorem normalize_cases (schema : Fields) : ∃ fields : Fields,
    (fields = schema ∨ fields = schema.set "nullable" (.bool true)) ∧
    (schema.normalizeTypeAndNullable = fields.delete "type" ∨
      (∃ s, normalizeType s = some s ∧ schema.normalizeTypeAndNullable = fields.set "type" (.str s)) ∨
      schema.normalizeTypeAndNullable = schema ∧ ∀ t, schema "type" = some t → Normal t) := by
  cases ht : schema "type" with
  | none => exact ⟨schema, .inl rfl, .inr (.inr ⟨by simp [Fields.normalizeTypeAndNullable, ht], by simp⟩)⟩
  | some t =>
    cases t with
    | str s =>
      cases hs : normalizeType s with
      | none => exact ⟨_, .inr rfl, .inl (by simp only [Fields.normalizeTypeAndNullable, ht, hs])⟩
      | some n => exact ⟨schema, .inl rfl, .inr (.inl ⟨n, normalizeType_again hs,
          by simp only [Fields.normalizeTypeAndNullable, ht, hs]⟩)⟩
    | arr types =>
      simp only [Fields.normalizeTypeAndNullable, ht]
      refine ⟨if none ∈ (types.filterMap Json.str?).map normalizeType then schema.set "nullable" (.bool true)
        else schema, by split_ifs <;> simp, ?_⟩
      split
      next chosen hchosen =>
        obtain ⟨s, -, hs⟩ := mem_map.mp (reduceOption_mem_iff.mp (mem_of_find?_eq_some hchosen))
        exact .inr (.inl ⟨chosen, normalizeType_again hs, rfl⟩)
      · exact .inl rfl
    | null | bool | number | obj =>
      exact ⟨schema, .inl rfl, .inr (.inr ⟨by simp [Fields.normalizeTypeAndNullable, ht], by simp [Normal]⟩)⟩

theorem normalize_other (ht : key ≠ "type") (hn : key ≠ "nullable") :
    schema.normalizeTypeAndNullable key = schema key := by
  obtain ⟨fields, hfields, h | ⟨_, _, h⟩ | ⟨h, _⟩⟩ := normalize_cases schema
  · rw [h]
    rcases hfields with rfl | rfl <;> simp [Fields.set, Fields.delete, ht, hn]
  · rw [h]
    rcases hfields with rfl | rfl <;> simp [Fields.set, ht, hn]
  · rw [h]

theorem normal_type (h : schema.normalizeTypeAndNullable "type" = some t) : Normal t := by
  obtain ⟨fields, -, hn | ⟨s, hs, hn⟩ | ⟨hn, hnormal⟩⟩ := normalize_cases schema
  · rw [hn] at h
    simp [Fields.delete] at h
  · rw [hn] at h
    obtain rfl : Json.str s = t := by simpa [Fields.set] using h
    exact ⟨by simpa using hs, by simp⟩
  · exact hnormal t (hn ▸ h)

theorem normalize_of_normal (h : ∀ t, schema "type" = some t → Normal t) :
    schema.normalizeTypeAndNullable = schema := by
  unfold Fields.normalizeTypeAndNullable
  split
  next typed ht =>
    rw [(h _ ht).1 typed rfl]
    exact Function.update_eq_self_iff.mpr ht.symm
  next typed ht => exact absurd rfl ((h _ ht).2 typed)
  · rfl

/-! ## Fields -/

variable {fields : Fields}

theorem cleanedMap_allowed (h : (cleanedMap fields key).isSome) : key ∈ geminiOpenAPISchemaAllowedFields := by
  by_cases ht : key = "type"
  · subst ht
    decide
  by_cases hn : key = "nullable"
  · subst hn
    decide
  unfold cleanedMap at h
  rw [normalize_other ht hn] at h
  by_contra hno
  simp [hno] at h

/-- The fields with schemas are kept. -/
theorem cleanedMap_schema (fields : Fields) {s : SchemaStep} : cleanedMap fields s.key = fields s.key := by
  unfold cleanedMap
  cases s <;> simp [SchemaStep.key, normalize_other, geminiOpenAPISchemaAllowedFields]

theorem CleanFields.again (h : CleanFields Normal fields) : cleanedMap fields = fields := by
  have hkeep : (fun key => if key ∈ geminiOpenAPISchemaAllowedFields then fields key else none) = fields := by
    funext key
    split_ifs with hkey
    · rfl
    · exact (Option.not_isSome_iff_eq_none.mp fun hsome => hkey (h.allowed key hsome)).symm
  unfold cleanedMap
  rw [hkeep, normalize_of_normal h.type]

theorem cleaned_map (fields : Fields) {g : String → Json → Json} (hg : ∀ v, g "type" v = v) :
    CleanFields Normal fun key => (cleanedMap fields key).map (g key) := by
  refine ⟨fun key hkey => cleanedMap_allowed (by simpa using hkey), fun t ht => ?_⟩
  obtain ⟨v, hv, rfl⟩ := Option.map_eq_some_iff.mp ht
  rw [hg]
  exact normal_type hv

theorem cleaned_delete (h : CleanFields Normal fields) (hkey : key ≠ "type") :
    CleanFields Normal (fields.delete key) := by
  refine ⟨fun key' hkey' => ?_, fun t ht => ?_⟩
  · by_cases heq : key' = key
    · simp [Fields.delete, heq] at hkey'
    · exact h.allowed key' (by simpa [Fields.delete, heq] using hkey')
  · exact h.type t (by simpa [Fields.delete, hkey.symm] using ht)

theorem cleaned_shallow (fields : Fields) : ∃ fields' : Fields, CleanFields Normal fields' ∧
    (Json.obj fields).cleanShallow = .obj fields' ∧ ∀ s : SchemaStep, fields' s.key = none := by
  have hmap := cleaned_map fields (g := fun _ v => v) (fun _ => rfl)
  simp only [Option.map_id'] at hmap
  refine ⟨_, ?_, rfl, fun s => ?_⟩
  · exact cleaned_delete (cleaned_delete (cleaned_delete hmap (by decide)) (by decide)) (by decide)
  · cases s <;> simp [Fields.delete, SchemaStep.key]

/-! ## Levels -/

variable {n : ℕ} {v w : Json} {s : SchemaStep}

theorem cleanField_other {f : Json → Json} (h : ∀ s : SchemaStep, s.key ≠ key) : cleanField f key v = v := by
  unfold cleanField
  split
  · exact absurd rfl (h (.property ""))
  · exact absurd rfl (h .items)
  · exact absurd rfl (h .items)
  · exact absurd rfl (h (.anyOf 0))
  · rfl

theorem key_ne_type (s : SchemaStep) : s.key ≠ "type" := by
  cases s <;> simp [SchemaStep.key]

theorem clean_obj (n : ℕ) (fields : Fields) : ∃ fields' : Fields,
    CleanFields Normal fields' ∧ (Json.obj fields).clean n = .obj fields' := by
  cases n with
  | zero =>
    obtain ⟨fields', hclean, heq, -⟩ := cleaned_shallow fields
    exact ⟨fields', hclean, heq⟩
  | succ n => exact ⟨_, cleaned_map fields fun _ => cleanField_other key_ne_type, rfl⟩

theorem clean_scalar (hobj : ∀ fields, v ≠ .obj fields) (harr : ∀ l, v ≠ .arr l) : v.clean n = v := by
  cases v with
  | obj fields => exact absurd rfl (hobj fields)
  | arr l => exact absurd rfl (harr l)
  | null | bool | number | str => cases n <;> rfl

/-! ## Cleaning again -/

theorem items_again (hw : ∀ l, w ≠ .arr l) (h : (w.clean n).clean n = w.clean n) :
    cleanField (Json.clean n) "items" (w.clean n) = w.clean n := by
  cases w with
  | obj fields =>
    obtain ⟨fields', -, heq⟩ := clean_obj n fields
    rw [heq] at h ⊢
    exact h
  | arr l => exact absurd rfl (hw l)
  | null | bool | number | str =>
    rw [clean_scalar (by simp) (by simp)]
    rfl

theorem cleanField_again (ih : ∀ w, ItemsOpened n w → (w.clean n).clean n = w.clean n)
    (h : ItemsOpened (n + 1) (.obj fields)) (hv : fields s.key = some v) :
    cleanField (Json.clean n) s.key (cleanField (Json.clean n) s.key v) = cleanField (Json.clean n) s.key v := by
  have hchild : ∀ (s' : SchemaStep) w, s'.key = s.key → s'.pick v = some w → (w.clean n).clean n = w.clean n := by
    intro s' w hkey hw
    refine ih w fun fields item rest hvisits => h fields item rest (.child (s := s') ?_ hvisits)
    rw [Json.child, Json.field, hkey, hv]
    exact hw
  cases s with
  | property =>
    cases v with
    | obj props =>
      refine congrArg Json.obj (funext fun name => ?_)
      show ((props name).map _).map _ = (props name).map _
      cases hw : props name with
      | none => rfl
      | some w => exact congrArg some (hchild (.property name) w rfl hw)
    | _ => rfl
  | items =>
    cases v with
    | obj fs => exact items_again (by simp) (hchild .items _ rfl rfl)
    | arr items =>
      cases items with
      | nil => rfl
      | cons item rest => exact items_again (h fields item rest (.self _ _) hv) (hchild .items item rfl rfl)
    | _ => rfl
  | anyOf =>
    cases v with
    | arr nested =>
      refine congrArg Json.arr ((map_map ..).trans (map_congr_left fun w hw => ?_))
      obtain ⟨i, hi⟩ := mem_iff_getElem?.mp hw
      exact hchild (.anyOf i) w rfl hi
    | _ => rfl

theorem clean_again (h : ItemsOpened n v) : (v.clean n).clean n = v.clean n := by
  induction n generalizing v with
  | zero =>
    cases v with
    | obj fields =>
      obtain ⟨fields', hclean, heq, hnone⟩ := cleaned_shallow fields
      have hdelete : ∀ s : SchemaStep, fields'.delete s.key = fields' := fun s =>
        Function.update_eq_self_iff.mpr (hnone s).symm
      show (Json.cleanShallow _).cleanShallow = Json.cleanShallow _
      rw [heq, Json.cleanShallow, hclean.again]
      have hp := hdelete (.property "")
      have hi := hdelete .items
      have ha := hdelete (.anyOf 0)
      simp only [SchemaStep.key] at hp hi ha
      rw [hp, hi, ha]
    | _ => rfl
  | succ n ih =>
    cases v with
    | obj fields =>
      have hclean := cleaned_map fields (g := cleanField (Json.clean n)) fun _ => cleanField_other key_ne_type
      simp only [Json.clean, hclean.again]
      refine congrArg Json.obj (funext fun key => ?_)
      by_cases hkey : ∃ s : SchemaStep, s.key = key
      · obtain ⟨s, rfl⟩ := hkey
        rw [cleanedMap_schema]
        cases hv : fields s.key with
        | none => rfl
        | some v => exact congrArg some (cleanField_again (fun w => ih) h hv)
      · cases cleanedMap fields key with
        | none => rfl
        | some v => exact congrArg some (cleanField_other fun s hs => hkey ⟨s, hs⟩)
    | arr items =>
      simp only [Json.clean, map_map]
      exact congrArg Json.arr (map_congr_left fun w hw =>
        ih fun fields item rest hv => h fields item rest (.element hw hv))
    | _ => rfl

/-! ## Positions of the cleaned schema -/

theorem field_clean (fields : Fields) :
    ((Json.obj fields).clean (n + 1)).field s.key = (fields s.key).map (cleanField (Json.clean n) s.key) := by
  rw [← cleanedMap_schema fields]
  rfl

/-- Of items that are a list once they are cleaned, the first one is the schema. -/
theorem pick_clean (p : Json) : s.pick (cleanField (Json.clean n) s.key p) =
    (s.pick p).bind fun u => if s = .items then SchemaStep.items.pick (u.clean n) else some (u.clean n) := by
  cases s with
  | property name =>
    cases p with
    | obj props => exact (Option.map_eq_bind ..)
    | _ => rfl
  | items =>
    cases p with
    | arr items => cases items <;> rfl
    | obj fs => rfl
    | null | bool | number | str => cases n <;> rfl
  | anyOf i =>
    cases p with
    | arr nested => exact getElem?_map.trans (Option.map_eq_bind ..)
    | _ => rfl

theorem pick_clean_obj (fields : Fields) :
    SchemaStep.items.pick ((Json.obj fields).clean n) = some ((Json.obj fields).clean n) := by
  obtain ⟨fields', -, heq⟩ := clean_obj n fields
  rw [heq]
  rfl

theorem first_clean (h : SchemaStep.items.pick (v.clean n) = some w) : ∃ m u, w = Json.clean m u := by
  cases v with
  | obj fields => exact ⟨n, .obj fields, Option.some.inj (h.symm.trans (pick_clean_obj fields))⟩
  | arr items =>
    cases n with
    | zero => cases h
    | succ n =>
      obtain ⟨u, -, rfl⟩ := Option.map_eq_some_iff.mp (head?_map.symm.trans h)
      exact ⟨n, u, rfl⟩
  | null | bool | number | str =>
    rw [clean_scalar (by simp) (by simp)] at h
    cases h
    exact ⟨0, _, (clean_scalar (by simp) (by simp)).symm⟩

theorem child_clean (h : (v.clean n).child s = some w) : ∃ m u, w = Json.clean m u := by
  obtain ⟨x, hx, hw⟩ := Option.bind_eq_some_iff.mp h
  cases v with
  | obj fields =>
    cases n with
    | zero =>
      obtain ⟨fields', -, heq, hnone⟩ := cleaned_shallow fields
      rw [Json.clean, heq, Json.field, hnone] at hx
      cases hx
    | succ n =>
      rw [field_clean] at hx
      obtain ⟨p, -, rfl⟩ := Option.map_eq_some_iff.mp hx
      obtain ⟨u, -, hu⟩ := Option.bind_eq_some_iff.mp ((pick_clean p).symm.trans hw)
      split_ifs at hu
      · exact first_clean hu
      · exact ⟨n, u, (Option.some.inj hu).symm⟩
  | arr | null | bool | number | str => cases n <;> cases hx

theorem child_clean_obj (h : v.child s = some (.obj fields)) :
    (v.clean (n + 1)).child s = some ((Json.obj fields).clean n) := by
  obtain ⟨p, hp, hw⟩ := Option.bind_eq_some_iff.mp h
  cases v with
  | obj fields' =>
    rw [Json.child, field_clean, show fields' s.key = some p from hp, Option.map_some, Option.bind_some, pick_clean, hw,
      Option.bind_some, pick_clean_obj, ite_self]
  | _ => cases hp

theorem schemaAt_clean {path : List SchemaStep} (h : (v.clean n).schemaAt path = some w) :
    ∃ m u, w = Json.clean m u := by
  induction path generalizing v n with
  | nil => exact ⟨n, v, (Option.some.inj h).symm⟩
  | cons s path ih =>
    obtain ⟨x, hx, hw⟩ := Option.bind_eq_some_iff.mp h
    obtain ⟨m, u, rfl⟩ := child_clean hx
    exact ih hw

theorem schemaAt_clean_obj {path : List SchemaStep} (h : v.schemaAt path = some (.obj fields)) :
    (v.clean (n + path.length)).schemaAt path = some ((Json.obj fields).clean n) := by
  induction path generalizing v with
  | nil => exact congrArg (Option.map (Json.clean n)) h
  | cons s path ih =>
    obtain ⟨x, hx, hw⟩ := Option.bind_eq_some_iff.mp h
    obtain ⟨fs, rfl⟩ : ∃ fs, x = .obj fs := by
      cases x with
      | obj fs => exact ⟨fs, rfl⟩
      | _ => cases path <;> cases hw
    exact Option.bind_eq_some_iff.mpr ⟨_, child_clean_obj hx, ih hw⟩

/-- **Every schema of the cleaned parameters is clean, the property names above the last level stay, and cleaning
again changes nothing, provided no list of items begins with a list.** -/
theorem cleaned_schema (p : Json) :
    (∀ path fields, (cleanFunctionParameters p).schemaAt path = some (.obj fields) → CleanFields CleanType fields) ∧
    (∀ path fields props, path.length < geminiFunctionSchemaMaxDepth → p.schemaAt path = some (.obj fields) →
      fields "properties" = some (.obj props) → ∃ fields' props',
        (cleanFunctionParameters p).schemaAt path = some (.obj fields') ∧ fields' "properties" = some (.obj props') ∧
        ∀ name, (props name).isSome → (props' name).isSome) ∧
    (ItemsOpened geminiFunctionSchemaMaxDepth p →
      cleanFunctionParameters (cleanFunctionParameters p) = cleanFunctionParameters p) := by
  refine ⟨fun path fields h => ?_, fun path fields props hn h hprops => ?_, clean_again⟩
  · obtain ⟨m, u, heq⟩ := schemaAt_clean h
    cases u with
    | obj fs =>
      obtain ⟨fields', hclean, hobj⟩ := clean_obj m fs
      cases heq.trans hobj
      exact ⟨hclean.1, fun t ht => (hclean.2 t ht).clean⟩
    | _ => cases m <;> cases heq
  · obtain ⟨n, hn⟩ := Nat.exists_eq_add_of_lt hn
    have hq := schemaAt_clean_obj (n := n + 1) h
    rw [show n + 1 + path.length = geminiFunctionSchemaMaxDepth by omega] at hq
    have hfield := field_clean (n := n) (s := .property "") fields
    rw [SchemaStep.key, hprops] at hfield
    exact ⟨_, _, hq, hfield, fun name => (by simp : (props name).isSome → ((props name).map _).isSome)⟩

theorem cleaned_schema_properties : ∃ fields' props', (cleanFunctionParameters (.obj fun key =>
    if key = "properties" then some (.obj fun _ => some .null) else none)).schemaAt [] = some (.obj fields') ∧
      fields' "properties" = some (.obj props') ∧ ∀ name : String, (some Json.null).isSome → (props' name).isSome :=
  (cleaned_schema _).2.1 [] _ _ (by decide) rfl rfl

/-- **Of items in a list within a list only one list is opened at a time.** -/
theorem cleaned_again_differs :
    ∃ p, cleanFunctionParameters (cleanFunctionParameters p) ≠ cleanFunctionParameters p := by
  refine ⟨.obj fun key => if key = "items" then some (.arr [.arr [.null]]) else none, fun h => ?_⟩
  have hfield := congrArg (Json.field SchemaStep.items.key) h
  simp only [cleanFunctionParameters, geminiFunctionSchemaMaxDepth] at hfield
  cases hfield

end Desktop2Stereo
