import Desktop2Stereo.Model.ChatToClaude
import Desktop2Stereo.Stream.ClaudeBlocks

/-!
# The Claude stream of a Chat stream obeys the grammar

The state of the converter says which blocks are open: one text or thinking block, or the tools of a group that have
been started. All blocks that were stopped have a lower index. Within a group of tools the blocks take their indices in
the order in which the calls appear and are started when their id and name are known.

* `Corresponds`: what the state says about the blocks; `appendStopOpenBlocks_follows`: all of them can be stopped;
* **`claude_stream_grammar`**, and `parallel_tools_out_of_order`: two calls whose names come in the other order.
-/

namespace Desktop2Stereo

open GoText Emitters Monitors ClaudeConvertInfo List ClaudeStreamToolCall

/-- A block is started above all that have been stopped; only tools are open together. -/
def grouped : Policy := fun b i k =>
  (∀ j ∈ b.stopped, j < i) ∧ ∀ p ∈ b.opened, p.2 = BlockKind.toolUse ∧ k = BlockKind.toolUse

/-- A block is started above all others; only tools are open together. -/
def increasing : Policy := fun b i k =>
  (∀ j ∈ b.stopped, j < i) ∧ ∀ p ∈ b.opened, p.1 < i ∧ p.2 = BlockKind.toolUse ∧ k = BlockKind.toolUse

namespace ClaudeConvertInfo

variable (s : ClaudeConvertInfo)

def openBlocks : List (ℤ × BlockKind) :=
  match s.lastMessagesType with
  | .none => []
  | .text => [(s.index, .text)]
  | .thinking => [(s.index, .thinking)]
  | .tools => (s.toolCalls.filter started).map fun tool => (tool.blockIndex, .toolUse)

/-- Every block with a lower index has been stopped. -/
def firstIndex : ℤ := if s.lastMessagesType = .tools then s.toolCallBaseIndex else s.index

/-- The index of the next block, once the open ones have been stopped. -/
def nextIndex : ℤ :=
  match s.lastMessagesType with
  | .none => s.index
  | .tools => s.toolCallBaseIndex + s.toolCalls.length
  | _ => s.index + 1

end ClaudeConvertInfo

/-- The blocks of the grammar are those of the state. -/
structure Corresponds (s : ClaudeConvertInfo) (b : Blocks) : Prop where
  opened : ∀ p, p ∈ b.opened ↔ p ∈ s.openBlocks
  stopped : ∀ j ∈ b.stopped, j < s.firstIndex
  numbered : s.toolCalls.map blockIndex =
    (List.range s.toolCalls.length).map fun n : ℕ => s.toolCallBaseIndex + n

/-- The events so far, and the blocks after them. -/
def Writing (s : ClaudeConvertInfo) (out : List ClaudeResponse) : Prop :=
  s.done = false ∧ ∃ b, follow (Stage.advance grouped) .before out = some (.within b) ∧ Corresponds s b

def Settled (s : ClaudeConvertInfo) : Prop := s.lastMessagesType = .tools → s.toolCalls ≠ []

section Tools

variable {b : Blocks} {uuid : ℤ → String} {tool : ClaudeStreamToolCall} {base : ℤ}

theorem grouped_tool {i : ℤ} (hstopped : ∀ j ∈ b.stopped, j < base) (htools : ∀ p ∈ b.opened, p.2 = .toolUse)
    (hi : base ≤ i) : grouped b i .toolUse = true :=
  decide_eq_true ⟨fun j hj => lt_of_lt_of_le (hstopped j hj) hi, fun p hp => ⟨htools p hp, rfl⟩⟩

theorem fresh_tool {i : ℤ} (hstopped : ∀ j ∈ b.stopped, j < base) (htools : ∀ p ∈ b.opened, p.2 = .toolUse)
    (hi : base ≤ i) (hnot : (i, BlockKind.toolUse) ∉ b.opened) : b.Fresh i := by
  refine ⟨fun hmem => ?_, fun hmem => absurd (hstopped i hmem) (by omega)⟩
  obtain ⟨⟨j, k⟩, hp, rfl⟩ := mem_map.mp hmem
  exact hnot (htools _ hp ▸ hp)

variable (tool) in
theorem follows_start_tool (hstopped : ∀ j ∈ b.stopped, j < base) (htools : ∀ p ∈ b.opened, p.2 = .toolUse)
    (hi : base ≤ tool.blockIndex) (hnot : (tool.blockIndex, BlockKind.toolUse) ∉ b.opened) :
    Follows grouped b tool.start.2 (b.start tool.blockIndex .toolUse) := by
  have hstart := follows_start (.toolUse tool.id tool.name) (fresh_tool hstopped htools hi hnot)
    (grouped_tool hstopped htools hi)
  show Follows grouped b ([_] ++ if tool.pendingArguments ≠ "" then [_] else []) _
  refine hstart.append ?_
  split_ifs
  · exact follows_deltas [.inputJson tool.pendingArguments] fun d hd =>
      mem_singleton.mp hd ▸ mem_cons_self
  · exact follows_nil

variable (uuid) in
theorem follows_startPending {tools : List ClaudeStreamToolCall}
    (hnodup : (tools.map blockIndex).Nodup) (hbase : ∀ t ∈ tools, base ≤ t.blockIndex)
    (hstopped : ∀ j ∈ b.stopped, j < base) (htools : ∀ p ∈ b.opened, p.2 = .toolUse)
    (hstarted : ∀ t ∈ tools, t.started = true ↔ (t.blockIndex, .toolUse) ∈ b.opened) :
    ∃ b', Follows grouped b (tools.flatMap fun t => (t.startPending uuid).2) b' ∧ b'.stopped = b.stopped ∧
      ∀ p, p ∈ b'.opened ↔ p ∈ b.opened ∨
        ∃ t ∈ tools, (t.startPending uuid).1.started = true ∧ p = (t.blockIndex, .toolUse) := by
  induction tools generalizing b with
  | nil => exact ⟨b, follows_nil, rfl, fun p => by simp⟩
  | cons t tools ih =>
    obtain ⟨ht, hnodup⟩ := nodup_cons.mp hnodup
    have hbase' := fun t' ht' => hbase t' (mem_cons_of_mem t ht')
    by_cases hskip : t.started = true ∨ t.name = ""
    · have hpending : t.startPending uuid = (t, []) := if_pos hskip
      obtain ⟨b', hb', hstopped', hopened'⟩ := ih hnodup hbase' hstopped htools fun t' ht' =>
        hstarted t' (mem_cons_of_mem t ht')
      refine ⟨b', by rwa [flatMap_cons, hpending], hstopped', fun p => ?_⟩
      rw [hopened', exists_mem_cons_iff, hpending]
      refine ⟨fun h => h.imp_right .inr, fun h => ?_⟩
      rcases h with h | ⟨h, rfl⟩ | h
      · exact .inl h
      · exact .inl ((hstarted t mem_cons_self).mp h)
      · exact .inr h
    · have hnot : (t.blockIndex, BlockKind.toolUse) ∉ b.opened := fun h =>
        hskip (.inl ((hstarted t mem_cons_self).mpr h))
      obtain ⟨u, hu, hindex⟩ : ∃ u : ClaudeStreamToolCall, t.startPending uuid = u.start ∧ u.blockIndex = t.blockIndex :=
        ⟨_, if_neg hskip, rfl⟩
      have hone := follows_start_tool u hstopped htools (hindex ▸ hbase t mem_cons_self) (hindex ▸ hnot)
      have htools' : ∀ p ∈ (b.start u.blockIndex .toolUse).opened, p.2 = .toolUse := by
        intro p hp
        rcases mem_cons.mp hp with rfl | hp
        · rfl
        · exact htools p hp
      have hstarted' : ∀ t' ∈ tools, t'.started = true ↔
          (t'.blockIndex, BlockKind.toolUse) ∈ (b.start u.blockIndex .toolUse).opened := by
        intro t' ht'
        have hne : t'.blockIndex ≠ u.blockIndex := fun heq => ht (by rw [← hindex, ← heq]; exact mem_map_of_mem ht')
        rw [hstarted t' (mem_cons_of_mem t ht'), Blocks.start, mem_cons]
        simp [hne]
      obtain ⟨b', hb', hstopped', hopened'⟩ := ih (b := b.start u.blockIndex .toolUse) hnodup hbase' hstopped htools' hstarted'
      refine ⟨b', ?_, hstopped', fun p => ?_⟩
      · rw [flatMap_cons, hu]
        exact hone.append hb'
      · rw [hopened', exists_mem_cons_iff, hu, hindex, Blocks.start, mem_cons]
        simp only [start, true_and]
        tauto

end Tools

/-! ## The end of the open blocks -/

section Stops

variable {s : ClaudeConvertInfo} {b : Blocks} {uuid : ℤ → String}

theorem nodup_blockIndex (h : Corresponds s b) : (s.toolCalls.map blockIndex).Nodup := by
  rw [h.numbered]
  refine List.Nodup.map (fun m n hmn => ?_) nodup_range
  omega

variable {tool : ClaudeStreamToolCall}

theorem blockIndex_of_mem (h : Corresponds s b) (ht : tool ∈ s.toolCalls) :
    s.toolCallBaseIndex ≤ tool.blockIndex ∧ tool.blockIndex < s.toolCallBaseIndex + s.toolCalls.length := by
  have hmem := mem_map_of_mem (f := blockIndex) ht
  rw [h.numbered] at hmem
  obtain ⟨n, hn, _⟩ := mem_map.mp hmem
  rw [mem_range] at hn
  omega

theorem mem_openBlocks_tools (h : s.lastMessagesType = .tools) {p : ℤ × BlockKind} :
    p ∈ s.openBlocks ↔ ∃ tool ∈ s.toolCalls, tool.started = true ∧ p = (tool.blockIndex, .toolUse) := by
  simp only [openBlocks, h, mem_map, mem_filter, and_assoc, eq_comm]

theorem started_iff (h : Corresponds s b) (htools : s.lastMessagesType = .tools) (ht : tool ∈ s.toolCalls) :
    tool.started = true ↔ (tool.blockIndex, .toolUse) ∈ b.opened := by
  rw [h.opened, mem_openBlocks_tools htools]
  refine ⟨fun hs => ⟨tool, ht, hs, rfl⟩, fun ⟨t, ht', hs, heq⟩ => ?_⟩
  have hindex : tool.blockIndex = t.blockIndex := congrArg Prod.fst heq
  rwa [inj_on_of_nodup_map (nodup_blockIndex h) ht ht' hindex]

theorem follows_stop_one {k : BlockKind} (hopened : ∀ p, p ∈ b.opened ↔ p = (s.index, k))
    (hstopped : ∀ j ∈ b.stopped, j < s.index) :
    ∃ b', Follows grouped b [.contentBlockStop s.index] b' ∧ b'.opened = [] ∧ ∀ j ∈ b'.stopped, j < s.index + 1 := by
  have hmem : ∀ i ∈ [s.index], i ∈ b.opened.map Prod.fst := fun i hi => by
    rw [mem_singleton.mp hi]
    exact mem_map_of_mem ((hopened (s.index, k)).mpr rfl)
  obtain ⟨b', hb', hopened', hstopped'⟩ := follows_stops grouped (nodup_singleton s.index) hmem
  refine ⟨b', hb', eq_nil_iff_forall_not_mem.mpr fun p hp => ?_, fun j hj => ?_⟩
  · obtain ⟨hp, hnot⟩ := (hopened' p).mp hp
    rw [(hopened p).mp hp] at hnot
    exact hnot (mem_singleton_self _)
  · rcases (hstopped' j).mp hj with hj | hj
    · have := hstopped j hj
      omega
    · rw [mem_singleton.mp hj]
      omega

theorem blockIndex_startPending (tool : ClaudeStreamToolCall) : (tool.startPending uuid).1.blockIndex = tool.blockIndex := by
  unfold startPending
  split_ifs <;> rfl

theorem follows_stop_tools (h : Corresponds s b) (htools : s.lastMessagesType = .tools) :
    ∃ b', Follows grouped b ((s.toolCalls.flatMap fun tool => (tool.startPending uuid).2) ++
        (((s.toolCalls.map fun tool => (tool.startPending uuid).1).filter started).map fun tool =>
          generateStopBlock tool.blockIndex)) b' ∧
      b'.opened = [] ∧ ∀ j ∈ b'.stopped, j < s.toolCallBaseIndex + s.toolCalls.length := by
  have hstopped : ∀ j ∈ b.stopped, j < s.toolCallBaseIndex := fun j hj => by
    have := h.stopped j hj
    rwa [firstIndex, if_pos htools] at this
  have hkinds : ∀ p ∈ b.opened, p.2 = .toolUse := by
    intro p hp
    obtain ⟨tool, -, -, rfl⟩ := (mem_openBlocks_tools htools).mp ((h.opened p).mp hp)
    rfl
  obtain ⟨b1, hb1, hstopped1, hopened1⟩ := follows_startPending uuid (nodup_blockIndex h)
    (fun t ht => (blockIndex_of_mem h ht).1) hstopped hkinds fun t ht => started_iff h htools ht
  have hall : ∀ p ∈ b1.opened, ∃ t ∈ s.toolCalls, (t.startPending uuid).1.started = true ∧ p = (t.blockIndex, .toolUse) := by
    intro p hp
    rcases (hopened1 p).mp hp with hp | hp
    · obtain ⟨tool, ht, hs, rfl⟩ := (mem_openBlocks_tools htools).mp ((h.opened p).mp hp)
      refine ⟨tool, ht, ?_, rfl⟩
      rw [startPending, if_pos (.inl hs)]
      exact hs
    · exact hp
  obtain ⟨l, hl⟩ : ∃ l, l = ((s.toolCalls.map fun tool => (tool.startPending uuid).1).filter
      started).map blockIndex := ⟨_, rfl⟩
  have hmem : ∀ i, i ∈ l ↔ ∃ t ∈ s.toolCalls, (t.startPending uuid).1.started = true ∧ i = t.blockIndex := by
    intro i
    rw [hl]
    simp only [mem_map, mem_filter]
    constructor
    · rintro ⟨_, ⟨⟨t, ht, rfl⟩, hs⟩, rfl⟩
      exact ⟨t, ht, hs, blockIndex_startPending t⟩
    · rintro ⟨t, ht, hs, rfl⟩
      exact ⟨_, ⟨⟨t, ht, rfl⟩, hs⟩, blockIndex_startPending t⟩
  have hnodup : l.Nodup := by
    have hsub : (l.Sublist (s.toolCalls.map blockIndex)) := by
      rw [hl]
      refine (filter_sublist.map _).trans ?_
      rw [map_map]
      simp only [Function.comp_def, blockIndex_startPending]
      exact List.Sublist.refl _
    exact (nodup_blockIndex h).sublist hsub
  obtain ⟨b2, hb2, hopened2, hstopped2⟩ := follows_stops grouped hnodup fun i hi => by
    obtain ⟨t, ht, hs, rfl⟩ := (hmem i).mp hi
    exact mem_map_of_mem ((hopened1 (t.blockIndex, .toolUse)).mpr (.inr ⟨t, ht, hs, rfl⟩))
  rw [hl, map_map] at hb2
  refine ⟨b2, hb1.append hb2, eq_nil_iff_forall_not_mem.mpr fun p hp => ?_, fun j hj => ?_⟩
  · obtain ⟨hp, hnot⟩ := (hopened2 p).mp hp
    obtain ⟨t, ht, hs, rfl⟩ := hall p hp
    exact hnot ((hmem _).mpr ⟨t, ht, hs, rfl⟩)
  · rcases (hstopped2 j).mp hj with hj | hj
    · rw [hstopped1] at hj
      have := hstopped j hj
      omega
    · obtain ⟨t, ht, -, rfl⟩ := (hmem j).mp hj
      exact (blockIndex_of_mem h ht).2

variable (uuid) in
theorem appendStopOpenBlocks_follows (h : Corresponds s b) (hsettled : Settled s) :
    ∃ b', Follows grouped b (appendStopOpenBlocks uuid s).2 b' ∧ b'.opened = [] ∧ ∀ j ∈ b'.stopped, j < s.nextIndex := by
  have hopened := h.opened
  have hstopped := h.stopped
  unfold appendStopOpenBlocks andThen startPendingToolBlocks stopOpenBlocks nextIndex
  unfold firstIndex at hstopped
  unfold openBlocks at hopened
  cases hlast : s.lastMessagesType with
  | none =>
    simp only [hlast, reduceCtorEq, not_false_eq_true, if_true, if_false, nil_append, ne_eq] at hopened hstopped ⊢
    exact ⟨b, follows_nil, eq_nil_iff_forall_not_mem.mpr fun p hp => not_mem_nil ((hopened p).mp hp), hstopped⟩
  | text | thinking =>
    simp only [hlast, reduceCtorEq, not_false_eq_true, if_true, if_false, nil_append, ne_eq,
      mem_singleton] at hopened hstopped ⊢
    exact follows_stop_one hopened hstopped
  | tools =>
    have hne : ¬ (s.toolCalls.map fun tool => (tool.startPending uuid).1) = [] := fun h =>
      hsettled hlast (map_eq_nil_iff.mp h)
    simp only [hlast, ne_eq, not_true_eq_false, if_false, if_neg hne]
    exact follows_stop_tools h hlast

end Stops

/-! ## The parts of a chunk -/

section Parts

variable {uuid : ℤ → String}

theorem done_appendStopOpenBlocks (s : ClaudeConvertInfo) : (appendStopOpenBlocks uuid s).1.done = s.done := by
  unfold appendStopOpenBlocks andThen startPendingToolBlocks
  dsimp only
  split_ifs <;> rfl

variable {s : ClaudeConvertInfo}

variable (uuid) in
theorem advance_appendStopOpenBlocks {b b' : Blocks} (h : Corresponds s b) (hnone : s.lastMessagesType ≠ .none)
    (hopened : b'.opened = []) (hstopped : ∀ j ∈ b'.stopped, j < s.nextIndex) :
    Corresponds (appendStopOpenBlocks uuid s).1.advance b' ∧
      (appendStopOpenBlocks uuid s).1.advance.lastMessagesType = .none := by
  have hnumbered := h.numbered
  unfold nextIndex at hstopped
  unfold appendStopOpenBlocks andThen startPendingToolBlocks advance
  cases hlast : s.lastMessagesType with
  | none => exact absurd hlast hnone
  | text | thinking =>
    simp only [hlast, ne_eq, reduceCtorEq, not_false_eq_true, if_true] at hstopped ⊢
    exact ⟨⟨fun p => by simp [hopened, openBlocks], by simpa [firstIndex] using hstopped, hnumbered⟩, trivial⟩
  | tools =>
    simp only [hlast, ne_eq, not_true_eq_false, if_false, length_map] at hstopped ⊢
    exact ⟨⟨fun p => by simp [hopened, openBlocks], by simpa [firstIndex] using hstopped, rfl⟩, trivial⟩

theorem done_advance (s : ClaudeConvertInfo) : s.advance.done = s.done := by
  unfold advance
  split <;> rfl

theorem stopOpenBlocksAndAdvance_writing : Ensures (fun s out => Writing s out ∧ Settled s) (stopOpenBlocksAndAdvance uuid)
    fun s out => Writing s out ∧ s.lastMessagesType = .none := by
  rintro s _ ⟨⟨hdone, b, hout, h⟩, hsettled⟩
  unfold stopOpenBlocksAndAdvance
  split_ifs with hnone
  · rw [append_nil]
    exact ⟨⟨hdone, b, hout, h⟩, hnone⟩
  · obtain ⟨b', hb', hopened, hstopped⟩ := appendStopOpenBlocks_follows uuid h hsettled
    obtain ⟨h', hlast⟩ := advance_appendStopOpenBlocks uuid h hnone hopened hstopped
    unfold andThen
    dsimp only
    rw [append_nil]
    refine ⟨⟨?_, b', hb'.after hout, h'⟩, hlast⟩
    rw [done_advance, done_appendStopOpenBlocks, hdone]

variable {type : LastMessageType} {block : ContentBlock}

theorem enterBlock_writing (htools : type ≠ .tools)
    (hopen : ∀ s : ClaudeConvertInfo, s.lastMessagesType = type → s.openBlocks = [(s.index, block.kind)]) :
    Ensures (fun s out => Writing s out ∧ Settled s) (enterBlock uuid type block)
      fun s out => Writing s out ∧ s.lastMessagesType = type := by
  intro s out h
  unfold enterBlock
  split_ifs with htype
  · rw [append_nil]
    exact ⟨h.1, htype⟩
  · refine stopOpenBlocksAndAdvance_writing.andThen (R := fun s out => Writing s out ∧ s.lastMessagesType = type) ?_ s out h
    rintro s _ ⟨⟨hdone, b, hout, h⟩, hnone⟩
    have hopened : b.opened = [] := by
      refine eq_nil_iff_forall_not_mem.mpr fun p hp => ?_
      have hp := (h.opened p).mp hp
      simp [openBlocks, hnone] at hp
    have hstopped : ∀ j ∈ b.stopped, j < s.index := by
      have := h.stopped
      rwa [firstIndex, hnone, if_neg (by decide)] at this
    have hfresh : b.Fresh s.index := by
      refine ⟨by simp [hopened], fun hmem => absurd (hstopped _ hmem) (lt_irrefl _)⟩
    have hmay : grouped b s.index block.kind = true :=
      decide_eq_true ⟨hstopped, fun p hp => by rw [hopened] at hp; cases hp⟩
    refine ⟨⟨hdone, _, (follows_start block hfresh hmay).after hout, fun p => ?_, ?_, h.numbered⟩, rfl⟩
    · rw [hopen _ rfl, Blocks.start, hopened]
    · rw [firstIndex, if_neg (by exact htools)]
      exact hstopped

theorem appendBlockDeltas_writing {deltas : List BlockDelta} (htools : type ≠ .tools)
    (hopen : ∀ s : ClaudeConvertInfo, s.lastMessagesType = type → s.openBlocks = [(s.index, block.kind)])
    (hkind : ∀ d ∈ deltas, d.kind = block.kind) :
    Ensures (fun s out => Writing s out ∧ Settled s) (appendBlockDeltas uuid type block deltas)
      fun s out => Writing s out ∧ Settled s := by
  refine (enterBlock_writing htools hopen).andThen ?_
  rintro s _ ⟨⟨hdone, b, hout, h⟩, htype⟩
  refine ⟨⟨hdone, b, Follows.after hout (follows_deltas deltas fun d hd => ?_), h⟩, fun htools' => absurd (htype ▸ htools') htools⟩
  rw [h.opened, hopen s htype, hkind d hd]
  exact mem_singleton_self _

theorem appendCitationDeltas_writing (raw : RawJson (List Annotation)) :
    Ensures (fun s out => Writing s out ∧ Settled s) (appendCitationDeltas uuid raw)
      fun s out => Writing s out ∧ Settled s := by
  refine Ensures.onlyIf fun _ => appendBlockDeltas_writing (by decide) (fun s h => by rw [openBlocks, h]; rfl) fun d hd => ?_
  obtain ⟨c, -, rfl⟩ := mem_map.mp hd
  rfl

theorem enterTools_writing : Ensures (fun s out => Writing s out ∧ Settled s) (enterTools uuid)
    fun s out => Writing s out ∧ s.lastMessagesType = .tools := by
  intro s out h
  unfold enterTools
  split_ifs with htools
  · rw [append_nil]
    exact ⟨h.1, htools⟩
  · refine stopOpenBlocksAndAdvance_writing.andThen (R := fun s out => Writing s out ∧ s.lastMessagesType = .tools) ?_ s out h
    rintro s _ ⟨⟨hdone, b, hout, h⟩, hnone⟩
    rw [append_nil]
    refine ⟨⟨hdone, b, hout, fun p => ?_, ?_, rfl⟩, rfl⟩
    · rw [h.opened]
      simp [openBlocks, hnone]
    · have := h.stopped
      rwa [firstIndex, hnone, if_neg (by decide)] at this

variable {n : ℕ} {toolIndex : ℤ}

theorem findTool_lt {incomingID : String} (h : s.findTool toolIndex incomingID = some n) :
    ∃ tool, s.toolCalls[n]? = some tool := by
  have hfilter := (Option.filter_eq_some_iff.mp h).2
  cases htool : s.toolCalls[n]? with
  | none =>
    rw [htool] at hfilter
    cases hfilter
  | some tool => exact ⟨tool, rfl⟩

variable {out : List ClaudeResponse}

theorem resolveTool_writing (toolIndex : ℤ) (incomingID : String) (h : Writing s out)
    (htools : s.lastMessagesType = .tools) :
    Writing (s.resolveTool toolIndex incomingID).1 out ∧ (s.resolveTool toolIndex incomingID).1.lastMessagesType = .tools ∧
      ∃ tool, (s.resolveTool toolIndex incomingID).1.toolCalls[(s.resolveTool toolIndex incomingID).2]? = some tool := by
  unfold resolveTool
  cases hfind : s.findTool toolIndex incomingID with
  | some => exact ⟨h, htools, findTool_lt hfind⟩
  | none =>
    obtain ⟨hdone, b, hout, h⟩ := h
    refine ⟨⟨hdone, b, hout, fun p => ?_, h.stopped, ?_⟩, htools, _, List.getElem?_concat_length⟩
    · rw [h.opened, mem_openBlocks_tools htools]
      refine Iff.trans ?_ (mem_openBlocks_tools (by exact htools)).symm
      simp only [mem_append, mem_singleton, or_and_right, exists_or]
      simp
    · show (s.toolCalls ++ [_]).map _ = (List.range (s.toolCalls ++ [_]).length).map _
      rw [map_append, h.numbered, length_append, length_singleton, range_succ, map_append]
      rfl

theorem follows_send {b : Blocks} {base : ℤ} (tool : ClaudeStreamToolCall) (arguments : String)
    (hstopped : ∀ j ∈ b.stopped, j < base) (htools : ∀ p ∈ b.opened, p.2 = .toolUse) (hi : base ≤ tool.blockIndex)
    (hstarted : tool.started = true ↔ (tool.blockIndex, .toolUse) ∈ b.opened) :
    ∃ b', Follows grouped b (tool.send arguments).2 b' ∧ b'.stopped = b.stopped ∧
      ∀ p, p ∈ b'.opened ↔ p ∈ b.opened ∨ (tool.send arguments).1.started = true ∧ p = (tool.blockIndex, .toolUse) := by
  unfold send
  split_ifs with hstart hdelta
  · refine ⟨_, follows_start_tool tool hstopped htools hi fun hmem => ?_, rfl, fun p => ?_⟩
    · rw [← hstarted, hstart.1] at hmem
      cases hmem
    · rw [Blocks.start, mem_cons]
      simp only [start, true_and]
      exact or_comm
  · refine ⟨b, follows_deltas [.inputJson arguments] fun d hd => ?_, rfl, fun p => ?_⟩
    · rw [mem_singleton.mp hd]
      exact hstarted.mp hdelta.1
    · exact ⟨.inl, fun h => h.elim id fun h => h.2 ▸ hstarted.mp h.1⟩
  · exact ⟨b, follows_nil, rfl, fun p => ⟨.inl, fun h => h.elim id fun h => h.2 ▸ hstarted.mp h.1⟩⟩

theorem set_eq_self {α : Type} {l : List α} {a : α} (h : l[n]? = some a) : l.set n a = l := by
  obtain ⟨hn, rfl⟩ := List.getElem?_eq_some_iff.mp h
  exact set_getElem_self hn

variable {tool : ClaudeStreamToolCall}

theorem exists_set_iff {tools : List ClaudeStreamToolCall} {u : ClaudeStreamToolCall} (hn : tools[n]? = some tool)
    (hindex : u.blockIndex = tool.blockIndex) (hstarted : tool.started = true → u.started = true) {p : ℤ × BlockKind} :
    (∃ t ∈ tools.set n u, t.started = true ∧ p = (t.blockIndex, .toolUse)) ↔
      (∃ t ∈ tools, t.started = true ∧ p = (t.blockIndex, .toolUse)) ∨ u.started = true ∧ p = (tool.blockIndex, .toolUse) := by
  have hlt : n < tools.length := (List.getElem?_eq_some_iff.mp hn).1
  constructor
  · rintro ⟨t, ht, hs, rfl⟩
    rcases mem_or_eq_of_mem_set ht with ht | rfl
    · exact .inl ⟨t, ht, hs, rfl⟩
    · exact .inr ⟨hs, by rw [hindex]⟩
  · rintro (⟨t, ht, hs, rfl⟩ | ⟨hs, rfl⟩)
    · obtain ⟨m, hm⟩ := List.getElem?_of_mem ht
      by_cases hmn : n = m
      · subst hmn
        obtain rfl : tool = t := Option.some.inj (hn.symm.trans hm)
        exact ⟨u, mem_set hlt u, hstarted hs, by rw [hindex]⟩
      · exact ⟨t, mem_of_getElem? (by rw [List.getElem?_set_ne hmn]; exact hm), hs, rfl⟩
    · exact ⟨u, mem_set hlt u, hs, by rw [hindex]⟩

theorem continueToolAt_writing {toolCall : ToolCallResponse} (h : Writing s out)
    (htools : s.lastMessagesType = .tools) (hn : s.toolCalls[n]? = some tool) :
    Writing (s.continueToolAt toolIndex toolCall n).1 (out ++ (s.continueToolAt toolIndex toolCall n).2) ∧
      (s.continueToolAt toolIndex toolCall n).1.lastMessagesType = .tools ∧
      (s.continueToolAt toolIndex toolCall n).1.toolCalls ≠ [] := by
  obtain ⟨hdone, b, hout, h⟩ := h
  have hmem : tool ∈ s.toolCalls := mem_of_getElem? hn
  have hstopped : ∀ j ∈ b.stopped, j < s.toolCallBaseIndex := fun j hj => by
    have := h.stopped j hj
    rwa [firstIndex, if_pos htools] at this
  have hkinds : ∀ p ∈ b.opened, p.2 = .toolUse := by
    intro p hp
    obtain ⟨tool, -, -, rfl⟩ := (mem_openBlocks_tools htools).mp ((h.opened p).mp hp)
    rfl
  have hstarted : tool.started = true ↔ (tool.blockIndex, .toolUse) ∈ b.opened := started_iff h htools hmem
  obtain ⟨b', hb', hstopped', hopened'⟩ := follows_send (tool.extend toolCall) toolCall.arguments
    hstopped hkinds (blockIndex_of_mem h hmem).1 hstarted
  have hindex : ((tool.extend toolCall).send toolCall.arguments).1.blockIndex = tool.blockIndex := by
    unfold send
    split_ifs <;> rfl
  have hkeeps : tool.started = true → ((tool.extend toolCall).send toolCall.arguments).1.started = true := by
    intro hs
    unfold send
    split_ifs
    · rfl
    · exact hs
    · exact hs
  unfold continueToolAt
  rw [hn]
  refine ⟨⟨hdone, b', hb'.after hout, fun p => ?_, ?_, ?_⟩, htools, ?_⟩
  · rw [hopened', h.opened, mem_openBlocks_tools htools]
    refine Iff.trans ?_ (mem_openBlocks_tools (by exact htools)).symm
    exact (exists_set_iff hn hindex hkeeps).symm
  · rw [hstopped']
    exact h.stopped
  · show (s.toolCalls.set n _).map _ = (List.range (s.toolCalls.set n _).length).map _
    rw [map_set, length_set, hindex, set_eq_self (by rw [List.getElem?_map, hn]; rfl), h.numbered]
  · intro hempty
    have hlt : n < s.toolCalls.length := (List.getElem?_eq_some_iff.mp hn).1
    have := congrArg List.length hempty
    rw [length_set, length_nil] at this
    omega

theorem appendToolCall_writing (call : ToolCallResponse × ℕ) :
    Ensures (fun s out => Writing s out ∧ s.lastMessagesType = .tools) (appendToolCall call)
      fun s out => (Writing s out ∧ s.lastMessagesType = .tools) ∧ s.toolCalls ≠ [] := by
  rintro s _ ⟨h, htools⟩
  obtain ⟨h', htools', _, hn⟩ := resolveTool_writing (call.1.index.getD call.2) (trimSpace call.1.id) h htools
  simp only [appendToolCall]
  exact and_assoc.mpr (continueToolAt_writing h' htools' hn)

theorem appendToolCalls_writing {toolCalls : List ToolCallResponse} (hne : toolCalls ≠ []) :
    Ensures (fun s out => Writing s out ∧ Settled s) (appendToolCalls uuid toolCalls)
      fun s out => Writing s out ∧ Settled s := by
  obtain ⟨_, _, rfl⟩ := exists_cons_of_ne_nil hne
  refine enterTools_writing.andThen (Ensures.andThen
    (Q := fun s out => (Writing s out ∧ s.lastMessagesType = .tools) ∧ s.toolCalls ≠ []) ?_ ?_)
  · refine (appendToolCall_writing _).andThen (Ensures.each fun c _ => ?_)
    exact fun s out h => appendToolCall_writing c s out h.1
  · rintro s _ ⟨⟨⟨hdone, b, hout, h⟩, htools⟩, hne⟩
    rw [append_nil]
    refine ⟨⟨hdone, b, hout, fun p => ?_, ?_, h.numbered⟩, fun _ => hne⟩
    · rw [h.opened, openBlocks, openBlocks]
      simp [htools]
    · have := h.stopped
      rw [firstIndex, if_pos htools] at this
      rwa [firstIndex, if_pos htools]

theorem appendDelta_writing (delta : ChoiceDelta) :
    Ensures (fun s out => Writing s out ∧ Settled s) (appendDelta uuid delta) fun s out => Writing s out ∧ Settled s := by
  unfold appendDelta
  split_ifs with htools hreasoning htext
  · exact appendToolCalls_writing htools
  · exact appendBlockDeltas_writing (by decide) (fun s h => by rw [openBlocks, h]; rfl) fun d hd =>
      mem_singleton.mp hd ▸ rfl
  · exact appendBlockDeltas_writing (by decide) (fun s h => by rw [openBlocks, h]; rfl) fun d hd =>
      mem_singleton.mp hd ▸ rfl
  · intro s out h
    rw [append_nil]
    exact h

end Parts

/-! ## Chunks -/

section Chunks

variable {uuid : ℤ → String}

/-- The message is going on, or it is over. -/
def Obeys (s : ClaudeConvertInfo) (out : List ClaudeResponse) : Prop :=
  (Writing s out ∧ Settled s) ∨ s.done = true ∧ Accepts grouped out

theorem terminate_obeys (stopReason : String) (usage : Option Usage) :
    Ensures (fun s out => Writing s out ∧ Settled s) (terminate uuid stopReason usage)
      fun s out => s.done = true ∧ Accepts grouped out := by
  rintro s out ⟨⟨_, b, hout, h⟩, hsettled⟩
  obtain ⟨_, hb', hopened, -⟩ := appendStopOpenBlocks_follows uuid h hsettled
  refine ⟨rfl, ?_⟩
  show follow _ _ (out ++ ((appendStopOpenBlocks uuid s).2 ++ [.messageDelta stopReason usage, .messageStop])) = _
  rw [← append_assoc, follow_append, hb'.after hout]
  simp [follow, Stage.advance, hopened]

variable {out : List ClaudeResponse} {s : ClaudeConvertInfo}

theorem clientVisible_writing (h : Writing s out ∧ Settled s) (incoming : Option Usage) :
    Writing (s.clientVisibleClaudeStreamUsage incoming).1 out ∧
      Settled (s.clientVisibleClaudeStreamUsage incoming).1 := by
  cases incoming with
  | none => exact h
  | some =>
    obtain ⟨⟨hdone, b, hout, h⟩, hsettled⟩ := h
    exact ⟨⟨hdone, b, hout, h.opened, h.stopped, h.numbered⟩, hsettled⟩

theorem finishChunk_obeys (chunk : ChatCompletionsStreamResponse) :
    Ensures (fun s out => Writing s out ∧ Settled s) (finishChunk uuid chunk) Obeys := by
  intro s out h
  have h' := clientVisible_writing h chunk.usage
  unfold finishChunk
  dsimp only
  split
  · rw [append_nil]
    exact .inl h'
  · exact .inr (terminate_obeys _ _ _ out h')

theorem choiceChunk_obeys (chunk : ChatCompletionsStreamResponse) (choice : StreamChoice) :
    Ensures (fun s out => Writing s out ∧ Settled s) (choiceChunk uuid chunk choice) Obeys := by
  refine Ensures.andThen (Q := fun s out => Writing s out ∧ Settled s) ?_
    ((appendDelta_writing choice.delta).andThen ((appendCitationDeltas_writing choice.delta.annotations).andThen ?_))
  · rintro s out ⟨⟨hdone, b, hout, h⟩, hsettled⟩
    rw [append_nil]
    exact ⟨⟨hdone, b, hout, h.opened, h.stopped, h.numbered⟩, hsettled⟩
  · intro s out h
    unfold onlyIf
    split_ifs
    · exact finishChunk_obeys chunk s out h
    · rw [append_nil]
      exact .inl h

theorem convertBody_obeys (chunk : ChatCompletionsStreamResponse) :
    Ensures (fun s out => Writing s out ∧ Settled s) (convertBody uuid chunk) Obeys := by
  unfold convertBody
  split
  · intro s out h
    have h' := clientVisible_writing h chunk.usage
    unfold endChunk
    dsimp only
    split
    · rw [append_nil]
      exact .inl h'
    · exact .inr (terminate_obeys _ _ _ out h')
  next choice _ _ => exact choiceChunk_obeys chunk choice

variable {estimate : ℤ}

theorem streamResponse_obeys {call : ℕ × ChatCompletionsStreamResponse} (hcount : 1 < call.1) :
    Ensures Obeys (streamResponseOpenAI2Claude uuid estimate call) Obeys := by
  intro s out h
  unfold streamResponseOpenAI2Claude
  rcases h with h | h
  · rw [if_neg (by rw [h.1.1]; decide)]
    unfold andThen onlyIf
    rw [if_neg (by omega)]
    exact convertBody_obeys call.2 s out h
  · rw [if_pos h.1, append_nil]
    exact .inr h

theorem streamResponse_start (chunk : ChatCompletionsStreamResponse) :
    Obeys (streamResponseOpenAI2Claude uuid estimate (1, chunk) {}).1
      (streamResponseOpenAI2Claude uuid estimate (1, chunk) {}).2 := by
  have hstart : ∀ usage tokens, Writing { usage := usage } [.messageStart chunk.id chunk.model tokens] ∧
      Settled { usage := usage } := fun usage tokens =>
    ⟨⟨rfl, {}, rfl, fun p => Iff.rfl, fun j hj => absurd hj not_mem_nil, rfl⟩, fun h => by cases h⟩
  have hfirst : Writing (startMessage estimate chunk {}).1 (startMessage estimate chunk {}).2 ∧
      Settled (startMessage estimate chunk {}).1 := by
    unfold startMessage
    split
    · exact hstart none estimate
    · exact hstart _ _
  exact convertBody_obeys chunk _ _ hfirst

end Chunks

/-- **The Claude events of a Chat stream obey the block grammar.** For every stream of chunks and its finalization the
events are those of one message. Every block is started once, receives deltas of its type and is stopped once, before
`message_delta`. A text or thinking block is open alone. A block is started with an index above those of all blocks that
have been stopped; it may be below that of a tool that is open. -/
theorem claude_stream_grammar (uuid : ℤ → String) (estimate : ℤ) (first : ChatCompletionsStreamResponse)
    (rest : List (ℕ × ChatCompletionsStreamResponse)) (hcount : ∀ call ∈ rest, 1 < call.1) :
    Accepts grouped (andThen (each (streamResponseOpenAI2Claude uuid estimate) ((1, first) :: rest))
      (finalizeStreamResponseOpenAI2Claude uuid) {}).2 := by
  have hrun : Obeys (each (streamResponseOpenAI2Claude uuid estimate) ((1, first) :: rest) {}).1
      (each (streamResponseOpenAI2Claude uuid estimate) ((1, first) :: rest) {}).2 :=
    Ensures.each (fun call hcall => streamResponse_obeys (hcount call hcall)) _ _ (streamResponse_start first)
  rcases hrun with h | h
  · unfold andThen finalizeStreamResponseOpenAI2Claude
    rw [if_neg (by rw [h.1.1]; decide)]
    exact (terminate_obeys _ _ _ _ h).2
  · unfold andThen finalizeStreamResponseOpenAI2Claude
    rw [if_pos h.1, append_nil]
    exact h.2

/-- Two calls; the name of the first comes after the second call. -/
def lateName : List (ℕ × ChatCompletionsStreamResponse) :=
  [(2, { choices := [{ delta := { toolCalls := [{ index := some 1, id := "b", name := "g", arguments := "1" }] } }] }),
    (3, { choices := [{ delta := { toolCalls := [{ index := some 0, name := "f", arguments := "2" }] } }] })]

def firstCall : ChatCompletionsStreamResponse :=
  { choices := [{ delta := { toolCalls := [{ index := some 0, id := "a" }] } }] }

theorem claude_stream_grammar_of_late_name :
    (∀ call ∈ lateName, 1 < call.1) ∧ Accepts grouped (andThen
      (each (streamResponseOpenAI2Claude (fun _ => "") 3) ((1, firstCall) :: lateName))
      (finalizeStreamResponseOpenAI2Claude fun _ => "") {}).2 :=
  ⟨by decide, claude_stream_grammar (fun _ => "") 3 firstCall lateName (by decide)⟩

/-- The block of the second call is started before that of the first, which has a lower index. Without a chunk there is
no `message_start`. -/
theorem parallel_tools_out_of_order :
    ¬ Accepts increasing (andThen (each (streamResponseOpenAI2Claude (fun _ => "") 3) ((1, firstCall) :: lateName))
      (finalizeStreamResponseOpenAI2Claude fun _ => "") {}).2 ∧
    (finalizeStreamResponseOpenAI2Claude (fun _ => "") {}).2 = [.messageDelta "end_turn" none, .messageStop] := by
  decide

end Desktop2Stereo
