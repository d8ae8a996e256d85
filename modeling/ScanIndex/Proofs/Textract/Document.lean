import ScanIndex.Proofs.Indexing.Recognition
import ScanIndex.Proofs.Transcript
import ScanIndex.Textract.Response

/-!
# Documents from answers of Textract

What an answer says is a page for each of its page blocks and on it a line for each child that names
a line block (`Response.trees`), and a document that is made from the answer says the same
(`Response.document_ofBlocks`).  All that `Response.pruned` leaves out of an answer has no effect.
-/

namespace ScanIndex.Textract

namespace ResponseBlock

/-- The number of a page block: the one that is reported if it is at least one, and
one otherwise. -/
def number (b : ResponseBlock) : Int64 := (b.page.filter fun n => 1 ≤ n).getD 1

/-- What a line block says: its text, or none, and the corners of its box, or of the one without
extent. -/
def said (b : ResponseBlock) : String × Corners :=
  (b.text.getD "", Corners.ofBox (b.box.getD .zero))

/-- The block without relationships that have no effect: those of other kinds than `CHILD`, and all
of a block that is not one of a page. -/
def pruned (b : ResponseBlock) : ResponseBlock where
  blockType := b.blockType
  id := b.id
  page := b.page
  text := b.text
  box := b.box
  relationships :=
    if b.blockType = .page then b.relationships.filter fun r => r.kind = "CHILD" else []

@[simp] theorem blockType_pruned (b : ResponseBlock) :
  b.pruned.blockType = b.blockType
  := rfl

@[simp] theorem id_pruned (b : ResponseBlock) :
  b.pruned.id = b.id
  := rfl

@[simp] theorem pruned_pruned (b : ResponseBlock) :
  b.pruned.pruned = b.pruned
  := by
  by_cases hpage : b.blockType = .page <;> simp [pruned, hpage]

theorem childIds_pruned {b : ResponseBlock} (h : b.blockType = .page) :
  childIds b.pruned.relationships = childIds b.relationships
  := by
  rw [pruned, if_pos h, childIds, childIds, List.filter_filter]
  simp

end ResponseBlock

namespace Response

/-- The page blocks of an answer, in their order. -/
def pages (r : Response) : List ResponseBlock := r.blocks.filter fun b => b.blockType = .page

/-- The last line block of an answer that carries the identifier. -/
def lastLine? (r : Response) (id : String) : Option ResponseBlock :=
  (r.blocks.filter fun b => b.blockType = .line && b.id = id).getLast?

/-- What an answer says, page block by page block. -/
def trees (r : Response) : List (Int64 × List (String × Corners)) :=
  r.pages.map fun p =>
    (p.number, ((childIds p.relationships).filterMap r.lastLine?).map ResponseBlock.said)

/-- The identifiers that the page blocks of an answer refer to. -/
def referenced (r : Response) : List String := r.pages.flatMap fun p => childIds p.relationships

/-- The block has an effect: it is one of a page, or one of a line that a page block refers to. -/
def heeds (r : Response) (b : ResponseBlock) : Bool :=
  b.blockType = .page || b.blockType = .line && r.referenced.contains b.id

/-- The answer without what has no effect: blocks of other types, line blocks that no page block
refers to, relationships of other kinds, and relationships of line blocks. -/
def pruned (r : Response) : Response where
  blocks := (r.blocks.filter r.heeds).map ResponseBlock.pruned

/-! ### Answers as blocks -/

theorem findLine?_toBlocks (r : Response) (id : String) :
  Block.findLine? r.toBlocks id = (r.lastLine? id).map ResponseBlock.toBlock
  := by
  rw [lastLine?, List.getLast?_eq_head?_reverse, ← List.filter_reverse, List.head?_filter,
    Block.findLine?, toBlocks, ← List.map_reverse, List.find?_map]
  rfl

theorem pageNumber_toBlock (b : ResponseBlock) :
  b.toBlock.pageNumber = b.number
  := by
  cases hpage : b.page with
  | none => simp [Block.pageNumber, ResponseBlock.toBlock, ResponseBlock.number, hpage]
  | some n =>
    by_cases hn : 1 ≤ n
    · simp [Block.pageNumber, ResponseBlock.toBlock, ResponseBlock.number, Option.filter, hpage, hn]
    · simp [Block.pageNumber, ResponseBlock.toBlock, ResponseBlock.number, Option.filter, hpage, hn]

/-- The blocks of an answer say what the answer does. -/
theorem trees_toBlocks (r : Response) :
  Block.trees r.toBlocks = r.trees
  := by
  have hlines (page : ResponseBlock) : (page.toBlock.childLines r.toBlocks).map Block.said
      = ((childIds page.relationships).filterMap r.lastLine?).map ResponseBlock.said := by
    have hfind : Block.findLine? r.toBlocks
        = fun id => (r.lastLine? id).map ResponseBlock.toBlock := by
      funext id
      apply r.findLine?_toBlocks id
    rw [Block.childLines, hfind, ← List.map_filterMap, List.map_map]
    rfl
  rw [Block.trees, toBlocks, List.filter_map, List.map_map, trees, pages]
  apply List.map_congr_left
  intro page _
  rw [Function.comp_apply, Block.tree, pageNumber_toBlock]
  exact congrArg _ (hlines page)

/-! ### Pruning -/

theorem pages_pruned (r : Response) :
  r.pruned.pages = r.pages.map ResponseBlock.pruned
  := by
  rw [pages, pruned, List.filter_map, List.filter_filter, pages]
  congr 1
  apply List.filter_congr
  intro b _
  cases htype : b.blockType <;> simp [heeds, htype]

theorem childIds_pruned_of_mem {r : Response} {page : ResponseBlock} (h : page ∈ r.pages) :
  childIds page.pruned.relationships = childIds page.relationships
  := by
  apply ResponseBlock.childIds_pruned
  simpa using List.of_mem_filter h

theorem referenced_pruned (r : Response) :
  r.pruned.referenced = r.referenced
  := by
  rw [referenced, pages_pruned, List.flatMap_map, referenced]
  apply List.flatMap_congr
  intro page hpage
  apply childIds_pruned_of_mem hpage

theorem heeds_pruned (r : Response) (b : ResponseBlock) :
  r.pruned.heeds b.pruned = r.heeds b
  := by
  rw [heeds, referenced_pruned]
  rfl

/-- Of a pruned answer nothing is left out. -/
theorem pruned_pruned (r : Response) :
  r.pruned.pruned = r.pruned
  := by
  have hheeds : r.pruned.heeds ∘ ResponseBlock.pruned = r.heeds := funext r.heeds_pruned
  have hpruned : ResponseBlock.pruned ∘ ResponseBlock.pruned = ResponseBlock.pruned :=
    funext ResponseBlock.pruned_pruned
  have hkept : (r.blocks.filter r.heeds).filter r.heeds = r.blocks.filter r.heeds := by
    simp only [List.filter_filter, Bool.and_self]
  calc r.pruned.pruned
    _ = ⟨(((r.blocks.filter r.heeds).map .pruned).filter r.pruned.heeds).map .pruned⟩ := rfl
    _ = ⟨(r.blocks.filter r.heeds).map .pruned⟩ := by
      rw [List.filter_map, hheeds, hkept, List.map_map, hpruned]

/-- The last line block of an identifier that a page block refers to is not left out. -/
theorem lastLine?_pruned {r : Response} {id : String} (h : id ∈ r.referenced) :
  r.pruned.lastLine? id = (r.lastLine? id).map ResponseBlock.pruned
  := by
  rw [lastLine?, pruned, List.filter_map, List.filter_filter, lastLine?, List.getLast?_map]
  congr 2
  apply List.filter_congr
  intro b _
  by_cases hid : b.id = id
  · subst hid
    cases htype : b.blockType <;> simp [heeds, htype, h]
  · simp [hid]

/-- A pruned answer says the same. -/
theorem trees_pruned (r : Response) :
  r.pruned.trees = r.trees
  := by
  rw [trees, pages_pruned, List.map_map, trees]
  apply List.map_congr_left
  intro page hpage
  have hlines : (childIds page.relationships).filterMap r.pruned.lastLine?
      = ((childIds page.relationships).filterMap r.lastLine?).map ResponseBlock.pruned := by
    rw [List.map_filterMap]
    apply List.filterMap_congr
    intro id hid
    apply lastLine?_pruned
    apply List.mem_flatMap.2 ⟨page, hpage, hid⟩
  rw [Function.comp_apply, childIds_pruned_of_mem hpage, hlines, List.map_map]
  rfl

/-- A document that is made from an answer has a page for each page block and on it a line for each
child that names a line block, the last one of its identifier.  What pruning leaves out has no
effect, and every node has an identifier of its own, of those that have been drawn. -/
theorem document_ofBlocks {ids : Supply} (hids : Function.Injective ids) (n : Nat) (f : File)
    (r : Response) :
  ∃ d k, Document.ofBlocks ids n f r.toBlocks = (d, k) ∧ d.file = f ∧ d.tree = r.trees
    ∧ (∀ r' : Response, r'.pruned = r.pruned → Document.ofBlocks ids n f r'.toBlocks = (d, k))
    ∧ k = n + (1 + d.pages.length + 2 * d.lineCount)
    ∧ d.nodeIds = (List.range' n (1 + d.pages.length + 2 * d.lineCount)).map ids ∧ d.nodeIds.Nodup
  := by
  cases hmade : Document.ofBlocks ids n f r.toBlocks with
  | mk d k =>
    obtain ⟨hdrawn, hnodes⟩ := Document.nodeIds_ofBlocks ids n f r.toBlocks hmade
    have htree := Document.tree_ofBlocks ids n f r.toBlocks
    rw [hmade, trees_toBlocks] at htree
    refine ⟨d, k, rfl, ?_, htree, ?_, hdrawn, hnodes, ?_⟩
    · rw [Document.ofBlocks] at hmade
      cases hmade
      rfl
    · intro r' hpruned
      rw [← hmade]
      apply Document.ofBlocks_congr
      rw [trees_toBlocks, trees_toBlocks, ← r'.trees_pruned, hpruned, r.trees_pruned]
    · rw [hnodes]
      apply List.Nodup.map hids List.nodup_range'

/-- A page block without a number of a page refers to one identifier twice, of which two line blocks
precede and follow it, and the rest of the answer has no effect. -/
theorem document_ofBlocks_repeated :
  ∃ (r r' : Response) (d : Document),
    r.blocks = [
        ⟨.line, "l", none, some "draft", none, []⟩,
        ⟨.page, "p", some 0, none, none,
          [⟨"CHILD", ["l", "m", "o"]⟩, ⟨"VALUE", ["n"]⟩, ⟨"CHILD", ["l"]⟩]⟩,
        ⟨.other, "o", none, some "word", none, []⟩,
        ⟨.line, "l", some 7, some "total", some ⟨0, 0, 9, 9⟩, [⟨"CHILD", ["n"]⟩]⟩,
        ⟨.line, "n", none, some "sum", none, []⟩]
      ∧ r'.blocks = [
        ⟨.line, "l", none, some "draft", none, []⟩,
        ⟨.page, "p", some 0, none, none, [⟨"CHILD", ["l", "m", "o"]⟩, ⟨"CHILD", ["l"]⟩]⟩,
        ⟨.line, "l", some 7, some "total", some ⟨0, 0, 9, 9⟩, []⟩]
      ∧ Document.ofBlocks .strokes 0 ⟨"b", "p.jpg"⟩ r.toBlocks = (d, 6)
      ∧ Document.ofBlocks .strokes 0 ⟨"b", "p.jpg"⟩ r'.toBlocks = (d, 6)
      ∧ d.tree
        = [(1, [("total", Corners.ofBox ⟨0, 0, 9, 9⟩), ("total", Corners.ofBox ⟨0, 0, 9, 9⟩)])]
      ∧ d.nodeIds.Nodup
  := by
  let r : Response := ⟨[
    ⟨.line, "l", none, some "draft", none, []⟩,
    ⟨.page, "p", some 0, none, none,
      [⟨"CHILD", ["l", "m", "o"]⟩, ⟨"VALUE", ["n"]⟩, ⟨"CHILD", ["l"]⟩]⟩,
    ⟨.other, "o", none, some "word", none, []⟩,
    ⟨.line, "l", some 7, some "total", some ⟨0, 0, 9, 9⟩, [⟨"CHILD", ["n"]⟩]⟩,
    ⟨.line, "n", none, some "sum", none, []⟩]⟩
  obtain ⟨d, k, hmade, -, htree, hsame, -, -, hids⟩ :=
    document_ofBlocks Supply.strokes_injective 0 ⟨"b", "p.jpg"⟩ r
  obtain rfl : 6 = k := congrArg Prod.snd hmade
  refine ⟨r, r.pruned, d, rfl, ?_, hmade, hsame _ r.pruned_pruned, ?_, hids⟩
  · simp [r, pruned, heeds, referenced, pages, ResponseBlock.pruned, childIds]
  · rw [htree]
    rfl

end Response

end ScanIndex.Textract
