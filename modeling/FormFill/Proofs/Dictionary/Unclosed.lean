import FormFill.Proofs.Dictionary.RoundTrip

/-!
# Unclosed blocks

In a draft of a dictionary document blocks may lack their ends. A block without an end goes on up to the
next end in the text: it takes over the options of the blocks on the way, and these are hidden. So the
closed blocks of a draft are what is read from it exactly if nothing ends behind an unclosed block.
-/

namespace FormFill.Dictionary

/-- A block with whether its end is printed. -/
structure DraftBlock where
  block : Block
  closed : Bool

namespace DraftBlock

def name (drafted : DraftBlock) : Text := drafted.block.name

/-- The named list of options that a block stands for. -/
def list (drafted : DraftBlock) : Text × List Choice := (drafted.name, drafted.block.choices)

end DraftBlock

/-- Blocks as they are printed. -/
def draftText (blocks : List DraftBlock) : Text :=
  blocks.flatMap fun drafted => drafted.block.text drafted.closed

/-- Whether nothing ends in blocks: none is closed, and no name holds the end of a block. -/
def NothingEnds (blocks : List DraftBlock) : Prop :=
  ∀ drafted ∈ blocks, drafted.closed = false ∧ ¬blockClosing <:+: drafted.name

theorem nothingEnds_cons {drafted : DraftBlock} {rest : List DraftBlock} :
    NothingEnds (drafted :: rest) ↔
      (drafted.closed = false ∧ ¬blockClosing <:+: drafted.name) ∧ NothingEnds rest :=
  List.forall_mem_cons

theorem draftText_cons_closed (block : Block) (rest : List DraftBlock) :
    draftText (⟨block, true⟩ :: rest) = block.text true ++ draftText rest := rfl

theorem draftText_cons_unclosed (block : Block) (rest : List DraftBlock) :
    draftText (⟨block, false⟩ :: rest) = block.opening ++ (block.inside ++ draftText rest) := by
  rw [draftText, List.flatMap_cons, ← draftText]
  simp [Block.text]

/-- The opening of a block, cut behind its quotes. -/
theorem Block.opening_eq (block : Block) : block.opening = block.gap.text ++
    ((blockOpening.dropLast ++ ['"']) ++ ((block.name ++ ['"']) ++ ['>'])) := by
  have hopening : blockOpening = blockOpening.dropLast ++ ['"'] := rfl
  rw [opening, ← hopening, nameClosing, List.append_assoc block.name]
  rfl

/-- The end of a block is behind its opening, in the name or behind the name, if no tag comes before. -/
theorem blockClosing_infix_opening_iff {front : Text} (hfront : '<' ∉ front) (block : Block)
    (rest : Text) : blockClosing <:+: front ++ (block.opening ++ rest) ↔
      blockClosing <:+: block.name ∨ blockClosing <:+: '>' :: rest := by
  have hquote : '"' ∉ blockClosing := by decide
  have hbegin : ¬blockClosing <:+: blockOpening.dropLast := by decide
  have htext : front ++ (block.opening ++ rest) = (front ++ block.gap.text) ++
      (blockOpening.dropLast ++ '"' :: (block.name ++ '"' :: ('>' :: rest))) := by
    simp [block.opening_eq]
  have hplain : '<' ∉ front ++ block.gap.text := List.not_mem_append hfront block.gap.noTag
  rw [htext, blockClosing_eq, Text.cons_infix_append_iff hplain, ← blockClosing_eq,
    Text.infix_append_cons_iff hquote, Text.infix_append_cons_iff hquote, or_iff_right hbegin]

/-- The end of a block stands in printed blocks only where one is closed or has a name that holds it. -/
theorem not_blockClosing_infix_iff {front : Text} (hfront : '<' ∉ front) (blocks : List DraftBlock)
    (last : Filler) :
    ¬blockClosing <:+: front ++ (draftText blocks ++ last.text) ↔ NothingEnds blocks := by
  induction blocks generalizing front with
  | nil =>
      refine iff_of_true (fun hwithin => ?_) (List.forall_mem_nil _)
      exact List.not_mem_append hfront last.noTag (hwithin.subset List.mem_cons_self)
  | cons drafted rest ih =>
      obtain ⟨block, closed⟩ := drafted
      cases closed with
      | true =>
          refine iff_of_false (fun hopen => hopen ?_) fun hends => ?_
          · have htext : front ++ (draftText (⟨block, true⟩ :: rest) ++ last.text) =
                (front ++ (block.opening ++ block.inside)) ++ blockClosing ++
                  (draftText rest ++ last.text) := by
              simp [draftText_cons_closed, Block.text]
            rw [htext]
            exact List.infix_append _ _ _
          · cases (nothingEnds_cons.mp hends).1.1
      | false =>
          have hinside : '<' ∉ '>' :: block.inside :=
            List.not_mem_cons_of_ne_of_not_mem (by decide) block.noTag_inside
          have hrest := ih hinside
          rw [draftText_cons_unclosed, List.append_assoc, blockClosing_infix_opening_iff hfront, not_or,
            List.append_assoc, ← List.cons_append, hrest, nothingEnds_cons]
          exact and_congr_left fun _ => (and_iff_right rfl).symm

theorem lists_opening_eq_nil (block : Block) {text : Text} (hopen : ¬blockClosing <:+: text) :
    lists (block.opening ++ text) = [] := by
  rw [lists, block.opening_append, blocks_append_of_not_mem block.gap.noTag,
    blocks_opening_eq_nil block.isName hopen, List.map_nil]

/-- Blocks behind whose unclosed ones nothing ends. -/
def StaysOpen (blocks : List DraftBlock) : Prop :=
  blocks.Pairwise fun first later =>
    first.closed = false → later.closed = false ∧ ¬blockClosing <:+: later.name

/-- The closed blocks with their own options. -/
def closedLists (blocks : List DraftBlock) : List (Text × List Choice) :=
  (blocks.filter (·.closed)).map DraftBlock.list

theorem NothingEnds.closedLists_eq {blocks : List DraftBlock} (h : NothingEnds blocks) :
    closedLists blocks = [] := by
  rw [closedLists, List.map_eq_nil_iff, List.filter_eq_nil_iff]
  intro drafted hmem hclosed
  rw [(h drafted hmem).1] at hclosed
  cases hclosed

/-- If nothing ends behind an unclosed block, the closed blocks are read. -/
theorem StaysOpen.lists_eq {blocks : List DraftBlock} (h : StaysOpen blocks) (last : Filler) :
    lists (draftText blocks ++ last.text) = closedLists blocks := by
  induction blocks with
  | nil => exact lists_filler last
  | cons drafted rest ih =>
      obtain ⟨hlater, hrest⟩ := List.pairwise_cons.mp h
      obtain ⟨block, closed⟩ := drafted
      cases closed with
      | true =>
          rw [draftText_cons_closed, List.append_assoc, lists_text, ih hrest]
          rfl
      | false =>
          have hends : NothingEnds rest := fun later hmem => hlater later hmem rfl
          have hopen := (not_blockClosing_infix_iff block.noTag_inside rest last).mpr hends
          have hnone : closedLists (⟨block, false⟩ :: rest) = closedLists rest := rfl
          rw [draftText_cons_unclosed, List.append_assoc, List.append_assoc,
            lists_opening_eq_nil block hopen, hnone, hends.closedLists_eq]

/-- If something ends behind an unclosed block, such a block is read. -/
theorem exists_unclosed_of_not_staysOpen {blocks : List DraftBlock} (h : ¬StaysOpen blocks)
    (last : Filler) : ∃ drafted ∈ blocks, drafted.closed = false ∧
      drafted.name ∈ Table.keys (lists (draftText blocks ++ last.text)) := by
  induction blocks with
  | nil => exact absurd List.Pairwise.nil h
  | cons drafted rest ih =>
      obtain ⟨block, closed⟩ := drafted
      cases closed with
      | true =>
          have hrest : ¬StaysOpen rest := fun hrest =>
            h (List.pairwise_cons.mpr ⟨fun _ _ => nofun, hrest⟩)
          obtain ⟨drafted, hmem, hclosed, hname⟩ := ih hrest
          refine ⟨drafted, List.mem_cons_of_mem _ hmem, hclosed, ?_⟩
          rw [draftText_cons_closed, List.append_assoc, lists_text]
          exact List.mem_cons_of_mem _ hname
      | false =>
          -- Here the block ends somewhere, or else nothing ends in the rest at all.
          have hends : ¬NothingEnds rest := fun hends => by
            refine h (List.pairwise_cons.mpr ⟨fun later hmem _ => hends later hmem, ?_⟩)
            exact List.pairwise_of_forall_mem_list fun _ _ later hmem _ => hends later hmem
          have hwithin := mt (not_blockClosing_infix_iff block.noTag_inside rest last).mp hends
          rw [← Text.splitAt?_eq_none_iff] at hwithin
          obtain ⟨⟨content, after⟩, hfound⟩ := Option.ne_none_iff_exists'.mp hwithin
          refine ⟨⟨block, false⟩, List.mem_cons_self, rfl, ?_⟩
          rw [draftText_cons_unclosed, List.append_assoc, List.append_assoc,
            lists_opening block hfound]
          exact List.mem_cons_self

/-- The lists of blocks that reach to the next ends: a block without an end takes over the options of the
blocks behind it up to one that is closed. `waiting` is the list of a block that is still open. -/
def gathered : (waiting : Option (Text × List Choice)) → List DraftBlock → List (Text × List Choice)
  | _, [] => []
  | waiting, drafted :: rest =>
    let current := waiting.elim drafted.list fun (name, choices) =>
      (name, choices ++ drafted.block.choices)
    if drafted.closed then current :: gathered none rest else gathered (some current) rest

/-- Each block gives one list at most. -/
theorem keys_gathered_sublist (waiting : Option (Text × List Choice)) (blocks : List DraftBlock) :
    (Table.keys (gathered waiting blocks)).Sublist
      ((waiting.map (·.1)).toList ++ blocks.map DraftBlock.name) := by
  induction blocks generalizing waiting with
  | nil => exact List.nil_sublist _
  | cons drafted rest ih =>
      obtain ⟨block, closed⟩ := drafted
      cases waiting with
      | none =>
          cases closed with
          | true => exact (ih none).cons_cons block.name
          | false => exact ih (some (block.name, block.choices))
      | some opened =>
          obtain ⟨name, choices⟩ := opened
          cases closed with
          | true => exact ((ih none).cons block.name).cons_cons name
          | false =>
              exact (ih (some (name, choices ++ block.choices))).trans
                ((List.sublist_cons_self block.name _).cons_cons name)

/-- A name in which nothing ends and no option begins. -/
structure IsPlain (name : Text) : Prop where
  noEnd : ¬blockClosing <:+: name
  noBar : '|' ∉ name

namespace Block

variable {block : Block}

theorem isOpenContent_opening (hname : IsPlain block.name) : IsOpenContent [] block.opening where
  passes := by
    have hquote : '"' ∉ blockClosing := by decide
    have hbegin : ¬blockClosing <:+: blockOpening.dropLast := by decide
    have hgap : Text.Passes blockClosing block.gap.text :=
      Text.Passes.of_not_mem block.gap.noTag blockClosing.tail
    have hlast : Text.Passes blockClosing ['>'] :=
      Text.Passes.of_not_mem (by decide) blockClosing.tail
    rw [opening_eq]
    exact hgap.append ((Text.Passes.concat hquote hbegin).append
      ((Text.Passes.concat hquote hname.noEnd).append hlast))
  all_append rest := by
    have hopening : '|' ∉ blockOpening := by decide
    have hclosing : '|' ∉ nameClosing := by decide
    rw [List.nil_append]
    exact Choice.all_append_of_not_mem (List.not_mem_append block.gap.noBar
      (List.not_mem_append hopening (List.not_mem_append hname.noBar hclosing))) rest

theorem isOpenContent (hname : IsPlain block.name) :
    IsOpenContent block.choices (block.opening ++ block.inside) :=
  (isOpenContent_opening hname).append block.isOpenContent_inside

end Block

/-- With plain names, blocks are read up to the next ends, at the beginning of a text and behind a block
that is still open. -/
theorem lists_eq_gathered {blocks : List DraftBlock}
    (hplain : ∀ drafted ∈ blocks, IsPlain drafted.name) (last : Filler) :
    lists (draftText blocks ++ last.text) = gathered none blocks ∧
      ∀ (block : Block) {choices : List Choice} {content : Text}, IsOpenContent choices content →
        lists (block.opening ++ (content ++ (draftText blocks ++ last.text))) =
          gathered (some (block.name, choices)) blocks := by
  induction blocks with
  | nil =>
      refine ⟨lists_filler last, fun block choices content hcontent => ?_⟩
      have hlast : ¬blockClosing <:+: last.text := fun hwithin =>
        last.noTag (hwithin.subset List.mem_cons_self)
      have hopen := hcontent.passes last.text
      rw [Text.splitAt?_eq_none_iff.mpr hlast, Option.map_none, Text.splitAt?_eq_none_iff] at hopen
      exact lists_opening_eq_nil block hopen
  | cons drafted rest ih =>
      obtain ⟨hname, hrest⟩ := List.forall_mem_cons.mp hplain
      obtain ⟨hfresh, hwaiting⟩ := ih hrest
      obtain ⟨next, closed⟩ := drafted
      have hnext := Block.isOpenContent hname
      cases closed with
      | true =>
          refine ⟨?_, fun block choices content hcontent => ?_⟩
          · rw [draftText_cons_closed, List.append_assoc, lists_text, hfresh]
            rfl
          · have htext : content ++ (draftText (⟨next, true⟩ :: rest) ++ last.text) =
                (content ++ (next.opening ++ next.inside)) ++
                  (blockClosing ++ (draftText rest ++ last.text)) := by
              simp [draftText_cons_closed, Block.text]
            rw [htext, lists_opening_closed block (hcontent.append hnext), hfresh]
            rfl
      | false =>
          refine ⟨?_, fun block choices content hcontent => ?_⟩
          · rw [draftText_cons_unclosed, List.append_assoc, List.append_assoc,
              hwaiting next next.isOpenContent_inside]
            rfl
          · have htext : content ++ (draftText (⟨next, false⟩ :: rest) ++ last.text) =
                (content ++ (next.opening ++ next.inside)) ++ (draftText rest ++ last.text) := by
              simp [draftText_cons_unclosed]
            rw [htext, hwaiting block (hcontent.append hnext)]
            rfl

/-- A dictionary document in which blocks may lack their ends. -/
structure Draft where
  blocks : List DraftBlock
  last : Filler
  nodup : (blocks.map DraftBlock.name).Nodup

namespace Draft

variable {draft : Draft}

def text (draft : Draft) : Text := draftText draft.blocks ++ draft.last.text

theorem read_of_staysOpen (h : StaysOpen draft.blocks) :
    Dictionary.read draft.text = closedLists draft.blocks := by
  have hkeys : (Table.keys (closedLists draft.blocks)).Sublist
      (draft.blocks.map DraftBlock.name) := by
    rw [Table.keys, closedLists, List.map_map]
    exact List.filter_sublist.map _
  rw [read_eq_setAll_lists, text, h.lists_eq, Table.setAll_of_nodup (draft.nodup.sublist hkeys)]

/-- Whether no unclosed block gets a key. -/
def NoUnclosedKey (draft : Draft) : Prop :=
  ∀ drafted ∈ draft.blocks, drafted.closed = false →
    drafted.name ∉ Table.keys (Dictionary.read draft.text)

theorem noUnclosedKey_of_read (h : Dictionary.read draft.text = closedLists draft.blocks) :
    draft.NoUnclosedKey := by
  intro drafted hmem hclosed hkey
  rw [h, Table.keys, closedLists, List.map_map, List.mem_map] at hkey
  obtain ⟨other, hother, hname⟩ := hkey
  obtain ⟨hmemOther, hclosedOther⟩ := List.mem_filter.mp hother
  have hsame := List.inj_on_of_nodup_map draft.nodup hmemOther hmem hname
  rw [hsame, hclosed] at hclosedOther
  cases hclosedOther

theorem staysOpen_of_noUnclosedKey (h : draft.NoUnclosedKey) : StaysOpen draft.blocks := by
  by_contra hends
  obtain ⟨drafted, hmem, hclosed, hkey⟩ := exists_unclosed_of_not_staysOpen hends draft.last
  refine h drafted hmem hclosed ?_
  rw [read_eq_setAll_lists, Table.keys_setAll, List.mem_eraseDups]
  exact hkey

/-- The closed blocks are read with their own options if and only if nothing ends behind an unclosed
block. -/
theorem read_eq_closedLists_iff (draft : Draft) :
    Dictionary.read draft.text = closedLists draft.blocks ↔ StaysOpen draft.blocks :=
  ⟨fun h => staysOpen_of_noUnclosedKey (noUnclosedKey_of_read h), read_of_staysOpen⟩

theorem read_eq_gathered (hplain : ∀ drafted ∈ draft.blocks, IsPlain drafted.name) :
    Dictionary.read draft.text = gathered none draft.blocks := by
  have hkeys := keys_gathered_sublist none draft.blocks
  rw [read_eq_setAll_lists, text, (lists_eq_gathered hplain draft.last).1,
    Table.setAll_of_nodup (draft.nodup.sublist hkeys)]

/-- What is read from a draft: blocks up to the next ends. -/
structure IsReadToEnds (draft : Draft) : Prop where
  read_iff : Dictionary.read draft.text = closedLists draft.blocks ↔ StaysOpen draft.blocks
  noKey_iff : draft.NoUnclosedKey ↔ StaysOpen draft.blocks
  gathers : (∀ drafted ∈ draft.blocks, IsPlain drafted.name) →
    Dictionary.read draft.text = gathered none draft.blocks

/-- The closed blocks of a draft are what is read from it, and its unclosed blocks get no key, exactly
if nothing ends behind an unclosed block. Where names are plain, an unclosed block gets the options of
the blocks behind it up to the next closed one. -/
theorem isReadToEnds (draft : Draft) : draft.IsReadToEnds where
  read_iff := draft.read_eq_closedLists_iff
  noKey_iff := ⟨staysOpen_of_noUnclosedKey, fun h => noUnclosedKey_of_read (read_of_staysOpen h)⟩
  gathers := read_eq_gathered

/-- The block `A` lacks its end, and the block `B` behind it has one. -/
def unclosedFirst : Draft where
  blocks := [
    ⟨⟨.empty, ['A'], ⟨by decide, by decide⟩,
      [⟨.empty, ⟨['1'], ['a']⟩,
        ⟨by decide, List.forall_mem_singleton.mpr (by decide), by decide, by decide⟩, by decide⟩],
      .empty⟩,
      false⟩,
    ⟨⟨.empty, ['B'], ⟨by decide, by decide⟩,
      [⟨.empty, ⟨['2'], ['b']⟩,
        ⟨by decide, List.forall_mem_singleton.mpr (by decide), by decide, by decide⟩, by decide⟩],
      .empty⟩,
      true⟩]
  last := .empty
  nodup := by decide

/-- An unclosed block is not always left out: here `A` is read, with the option of `B`, and `B` is not. -/
theorem not_forall_read_eq_closedLists :
    ¬∀ draft : Draft, Dictionary.read draft.text = closedLists draft.blocks := by
  intro hall
  have hopen := unclosedFirst.read_eq_closedLists_iff.mp (hall unclosedFirst)
  have hlater := (List.pairwise_cons.mp hopen).1 _ List.mem_cons_self rfl
  exact absurd hlater.1 (by decide)

end Draft

end FormFill.Dictionary
