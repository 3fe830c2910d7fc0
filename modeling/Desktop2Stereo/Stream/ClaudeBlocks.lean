import Desktop2Stereo.Lib.Monitors
import Desktop2Stereo.Model.Streams

/-!
# The grammar of a Claude stream

A monitor for a whole stream: `message_start`, then blocks, each of which is started once, receives deltas of its type
and is stopped once, then `message_delta` when no block is open, and `message_stop`. Which blocks may be started next to
others is left to a policy.

* `Follows`: a list of events between two sets of blocks; `follows_start`, **`follows_stops`**.
-/

namespace Desktop2Stereo

open Monitors List

inductive BlockKind
  | text | thinking | toolUse
  deriving DecidableEq

def ContentBlock.kind : ContentBlock → BlockKind
  | .text => .text
  | .thinking => .thinking
  | .toolUse _ _ => .toolUse

def BlockDelta.kind : BlockDelta → BlockKind
  | .text _ | .citations _ => .text
  | .thinking _ => .thinking
  | .inputJson _ => .toolUse

structure Blocks where
  opened : List (ℤ × BlockKind) := []
  stopped : List ℤ := []
  deriving DecidableEq

namespace Blocks

def Fresh (b : Blocks) (i : ℤ) : Prop := i ∉ b.opened.map Prod.fst ∧ i ∉ b.stopped

instance (b : Blocks) (i : ℤ) : Decidable (b.Fresh i) := inferInstanceAs (Decidable (_ ∧ _))

def start (b : Blocks) (i : ℤ) (k : BlockKind) : Blocks := { b with opened := (i, k) :: b.opened }

def stop (b : Blocks) (i : ℤ) : Blocks where
  opened := b.opened.filter fun p => p.1 ≠ i
  stopped := i :: b.stopped

end Blocks

/-- How far a message is. -/
inductive Stage
  | before
  | within (b : Blocks)
  | ending
  | over
  deriving DecidableEq

/-- Whether a block may be started next to the others. -/
abbrev Policy := Blocks → ℤ → BlockKind → Bool

/-- What may come next. -/
def Stage.advance (may : Policy) : Stage → ClaudeResponse → Option Stage
  | .before, .messageStart _ _ _ => some (.within {})
  | .within b, .contentBlockStart i block =>
    if b.Fresh i ∧ may b i block.kind = true then some (.within (b.start i block.kind)) else none
  | .within b, .contentBlockDelta i delta => if (i, delta.kind) ∈ b.opened then some (.within b) else none
  | .within b, .contentBlockStop i => if i ∈ b.opened.map Prod.fst then some (.within (b.stop i)) else none
  | .within b, .messageDelta _ _ => if b.opened = [] then some .ending else none
  | .ending, .messageStop => some .over
  | _, _ => none

/-- A whole message. -/
def Accepts (may : Policy) (events : List ClaudeResponse) : Prop := follow (Stage.advance may) .before events = some .over

instance (may : Policy) (events : List ClaudeResponse) : Decidable (Accepts may events) :=
  inferInstanceAs (Decidable (_ = _))

def Follows (may : Policy) (b : Blocks) (events : List ClaudeResponse) (b' : Blocks) : Prop :=
  follow (Stage.advance may) (.within b) events = some (.within b')

section Follows

variable {may : Policy} {b b' b'' : Blocks} {events events' : List ClaudeResponse} {i : ℤ}

theorem follows_nil : Follows may b [] b := rfl

theorem Follows.append (h : Follows may b events b') (h' : Follows may b' events' b'') :
    Follows may b (events ++ events') b'' := by
  rw [Follows, follow_append, h]
  exact h'

theorem Follows.after {p : Stage} (hout : follow (Stage.advance may) p events' = some (.within b))
    (h : Follows may b events b') : follow (Stage.advance may) p (events' ++ events) = some (.within b') := by
  rw [follow_append, hout]
  exact h

theorem follows_start (block : ContentBlock) (hfresh : b.Fresh i) (hmay : may b i block.kind = true) :
    Follows may b [.contentBlockStart i block] (b.start i block.kind) := by
  unfold Follows follow
  simp [Stage.advance, hfresh, hmay]

theorem follows_deltas (deltas : List BlockDelta) (h : ∀ d ∈ deltas, (i, d.kind) ∈ b.opened) :
    Follows may b (deltas.map (.contentBlockDelta i)) b := by
  induction deltas with
  | nil => exact follows_nil
  | cons d deltas ih =>
    have hone : Follows may b [.contentBlockDelta i d] b := by
      unfold Follows follow
      simp [Stage.advance, h d mem_cons_self]
    exact hone.append (ih fun d' hd' => h d' (mem_cons_of_mem d hd'))

variable (may) in
theorem follows_stops {l : List ℤ} (hnodup : l.Nodup) (hopen : ∀ i ∈ l, i ∈ b.opened.map Prod.fst) :
    ∃ b', Follows may b (l.map .contentBlockStop) b' ∧ (∀ p, p ∈ b'.opened ↔ p ∈ b.opened ∧ p.1 ∉ l) ∧
      ∀ j, j ∈ b'.stopped ↔ j ∈ b.stopped ∨ j ∈ l := by
  induction l generalizing b with
  | nil => exact ⟨b, follows_nil, fun p => by simp, fun j => by simp⟩
  | cons i l ih =>
    obtain ⟨hi, hnodup⟩ := nodup_cons.mp hnodup
    have hone : Follows may b [.contentBlockStop i] (b.stop i) := by
      unfold Follows follow
      simp only [foldlM_cons, foldlM_nil, Stage.advance, hopen i mem_cons_self, if_true]
      rfl
    have hrest : ∀ j ∈ l, j ∈ (b.stop i).opened.map Prod.fst := by
      intro j hj
      obtain ⟨p, hp, rfl⟩ := mem_map.mp (hopen j (mem_cons_of_mem i hj))
      refine mem_map_of_mem (mem_filter.mpr ⟨hp, decide_eq_true fun heq => hi (heq ▸ hj)⟩)
    obtain ⟨b', hb', hopened, hstopped⟩ := ih hnodup hrest
    refine ⟨b', hone.append hb', fun p => ?_, fun j => ?_⟩
    · rw [hopened]
      simp only [Blocks.stop, mem_filter, decide_eq_true_eq, mem_cons, not_or, and_assoc, ne_eq]
    · rw [hstopped]
      simp only [Blocks.stop, mem_cons]
      tauto

end Follows

end Desktop2Stereo
