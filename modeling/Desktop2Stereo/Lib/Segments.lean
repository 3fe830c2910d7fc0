import Mathlib

/-!
# Texts cut at a separator

Go's `strings.Split`, `strings.Trim`, `strings.TrimPrefix` and `strings.HasPrefix` for one separator. A text and the
list of its segments determine each other, and a text begins with another text and the separator just when the
segments of the other are the first of its own.

* `split_join`, `join_split`, `split_append`: the two directions;
* `below_iff`: the texts below a text are those whose segments continue its segments;
* `split_trimPrefix`, `trim_join`, `trim_join_concat`: trimming, by the segments.
-/

namespace Segments

open List

/-- The segments of a text. -/
def split (c : Char) (s : String) : List String := (s.toList.splitOn c).map String.ofList

/-- Segments with the separator between them. -/
def join (c : Char) (segments : List String) : String := String.ofList ([c].intercalate (segments.map String.toList))

/-- A text without the separators at its ends. -/
def trim (c : Char) (s : String) : String := String.ofList ((s.toList.dropWhile (· = c)).rdropWhile (· = c))

/-- A text begins with another. -/
def hasPrefix (p s : String) : Bool := p.toList.isPrefixOf s.toList

/-- A text without another one that it begins with. -/
def trimPrefix (p s : String) : String := if hasPrefix p s then String.ofList (s.toList.drop p.length) else s

/-! ## Splitting and joining -/

private theorem not_mem_of_mem_splitOn {c : Char} {l : List Char} : ∀ {x}, x ∈ l.splitOn c → c ∉ x := by
  induction l with
  | nil => simp
  | cons a l ih =>
    intro x hx
    obtain ⟨y, _, hy⟩ := exists_cons_of_ne_nil (splitOn_ne_nil c l)
    rw [splitOn_cons_eq_if_modifyHead, hy] at hx
    rw [hy] at ih
    split_ifs at hx with ha
    · rcases mem_cons.mp hx with rfl | hx
      · exact not_mem_nil
      · exact ih hx
    · rcases mem_cons.mp hx with rfl | hx
      · have hac : c ≠ a := fun h => ha (by simp [h])
        exact not_mem_cons_of_ne_of_not_mem hac (ih mem_cons_self)
      · exact ih (mem_cons_of_mem y hx)

variable {c : Char} {s t : String} {segments : List String}

theorem split_ne_nil (c : Char) (s : String) : split c s ≠ [] := by
  simp [split, splitOn_ne_nil]

theorem free_of_mem_split (h : t ∈ split c s) : c ∉ t.toList := by
  obtain ⟨l, hl, rfl⟩ := mem_map.mp h
  rw [String.toList_ofList]
  exact not_mem_of_mem_splitOn hl

theorem join_split (c : Char) (s : String) : join c (split c s) = s := by
  have h : (split c s).map String.toList = s.toList.splitOn c := by simp [split]
  rw [join, h, intercalate_splitOn, String.ofList_toList]

theorem split_join (hne : segments ≠ []) (hfree : ∀ t ∈ segments, c ∉ t.toList) : split c (join c segments) = segments := by
  rw [split, join, String.toList_ofList, splitOn_intercalate c ?_ (by simpa using hne)]
  · simp
  · intro l hl
    obtain ⟨t, ht, rfl⟩ := mem_map.mp hl
    exact hfree t ht

theorem split_append (c : Char) (s : String) (l : List Char) :
    split c (String.ofList (s.toList ++ c :: l)) = split c s ++ split c (String.ofList l) := by
  rw [split, split, split, String.toList_ofList, String.toList_ofList, splitOn_append_cons_self, map_append]

theorem below_iff : (t = s ∨ ∃ r, t = String.ofList (s.toList ++ c :: r)) ↔ split c s <+: split c t := by
  constructor
  · rintro (rfl | ⟨r, rfl⟩)
    · exact prefix_rfl
    · rw [split_append]
      exact prefix_append _ _
  · rintro ⟨us, hus⟩
    cases us with
    | nil =>
      left
      rw [← join_split c t, ← hus, append_nil, join_split]
    | cons u us =>
      right
      refine ⟨(join c (u :: us)).toList, ?_⟩
      have hfree : ∀ x ∈ u :: us, c ∉ x.toList := fun x hx =>
        free_of_mem_split (hus ▸ mem_append_right _ hx)
      rw [← join_split c t, ← hus]
      have h := split_append c s (join c (u :: us)).toList
      rw [String.ofList_toList, split_join (cons_ne_nil u us) hfree] at h
      rw [← h, join_split]

/-! ## Trimming -/

theorem hasPrefix_iff {p : String} : hasPrefix p s = true ↔ p.toList <+: s.toList := isPrefixOf_iff_prefix

theorem join_append {a b : List String} (ha : a ≠ []) (hb : b ≠ []) :
    (join c (a ++ b)).toList = (join c a).toList ++ c :: (join c b).toList := by
  simp only [join, String.toList_ofList, map_append]
  induction a with
  | nil => exact absurd rfl ha
  | cons x xs ih =>
    cases xs with
    | nil =>
      obtain ⟨y, ys, rfl⟩ := exists_cons_of_ne_nil hb
      simp [intercalate_cons_cons]
    | cons y ys =>
      have h := ih (cons_ne_nil y ys)
      simp only [map_cons, cons_append, intercalate_cons_cons] at h ⊢
      rw [h]
      simp

theorem join_singleton (t : String) : join c [t] = t := by simp [join]

theorem split_trimPrefix (h : split c s = "" :: segments) (hne : segments ≠ []) :
    split c (trimPrefix (String.ofList [c]) s) = segments := by
  have hs : s.toList = c :: (join c segments).toList := by
    have hj := join_append (c := c) (cons_ne_nil "" []) hne
    rwa [singleton_append, ← h, join_split, join_singleton] at hj
  have hfree : ∀ t ∈ segments, c ∉ t.toList := fun t ht => free_of_mem_split (h ▸ mem_cons_of_mem "" ht)
  have htrim : trimPrefix (String.ofList [c]) s = join c segments := by
    rw [trimPrefix, if_pos (hasPrefix_iff.mpr (by simp [hs])), hs]
    simp
  rw [htrim, split_join hne hfree]

theorem ends_of_ne_empty (hne : segments ≠ []) (hfree : ∀ t ∈ segments, c ∉ t.toList) (hfull : ∀ t ∈ segments, t ≠ "") :
    (∃ a l, (join c segments).toList = a :: l ∧ a ≠ c) ∧ ∃ a l, (join c segments).toList = l ++ [a] ∧ a ≠ c := by
  constructor
  · obtain ⟨x, xs, rfl⟩ := exists_cons_of_ne_nil hne
    have hx : x.toList ≠ [] := by simpa using hfull x mem_cons_self
    obtain ⟨a, l, hl⟩ := exists_cons_of_ne_nil hx
    have ha : a ≠ c := fun h => hfree x mem_cons_self (by simp [hl, h])
    cases xs with
    | nil => exact ⟨a, l, by rw [join_singleton, hl], ha⟩
    | cons y ys =>
      refine ⟨a, l ++ c :: (join c (y :: ys)).toList, ?_, ha⟩
      have hj := join_append (c := c) (cons_ne_nil x []) (cons_ne_nil y ys)
      rw [singleton_append, join_singleton, hl] at hj
      rw [hj, cons_append]
  · obtain ⟨xs, x, rfl⟩ : ∃ xs x, segments = xs ++ [x] := ⟨_, _, (dropLast_append_getLast hne).symm⟩
    have hmem : x ∈ xs ++ [x] := mem_append_right xs mem_cons_self
    have hx : x.toList ≠ [] := by simpa using hfull x hmem
    obtain ⟨l, a, hl⟩ : ∃ l a, x.toList = l ++ [a] := ⟨_, _, (dropLast_append_getLast hx).symm⟩
    have ha : a ≠ c := fun h => hfree x hmem (by simp [hl, h])
    by_cases hxs : xs = []
    · exact ⟨a, l, by rw [hxs, nil_append, join_singleton, hl], ha⟩
    · refine ⟨a, (join c xs).toList ++ c :: l, ?_, ha⟩
      rw [join_append hxs (cons_ne_nil x []), join_singleton, hl]
      simp

theorem trim_join (hne : segments ≠ []) (hfree : ∀ t ∈ segments, c ∉ t.toList) (hfull : ∀ t ∈ segments, t ≠ "") :
    trim c (join c segments) = join c segments := by
  obtain ⟨⟨a, l, hl, ha⟩, b, _, hl', hb⟩ := ends_of_ne_empty hne hfree hfull
  have hleft : (join c segments).toList.dropWhile (· = c) = (join c segments).toList := by
    rw [hl, dropWhile_cons_of_neg (by simpa using ha)]
  rw [trim, hleft, hl', rdropWhile_concat_neg _ _ _ (by simpa using hb), ← hl', String.ofList_toList]

theorem trim_join_concat (hne : segments ≠ []) (hfree : ∀ t ∈ segments, c ∉ t.toList) (hfull : ∀ t ∈ segments, t ≠ "") :
    trim c (join c (segments ++ [""])) = join c segments := by
  obtain ⟨⟨a, l, hl, ha⟩, -⟩ := ends_of_ne_empty hne hfree hfull
  have hj : (join c (segments ++ [""])).toList = (join c segments).toList ++ [c] := by
    rw [join_append hne (cons_ne_nil "" []), join_singleton]
    rfl
  have hleft : ((join c segments).toList ++ [c]).dropWhile (· = c) = (join c segments).toList ++ [c] := by
    rw [hl, cons_append, dropWhile_cons_of_neg (by simpa using ha)]
  have h := trim_join hne hfree hfull
  rw [trim, hl, dropWhile_cons_of_neg (by simpa using ha), ← hl] at h
  rw [trim, hj, hleft, rdropWhile_concat_pos _ _ _ (by simp), h]

-- a match on the segments of a text that is not given would unfold them without end
attribute [irreducible] split

end Segments
