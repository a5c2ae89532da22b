import BlogTheme.Engine.Basic
import BlogTheme.Proofs.Template.Tiling
import BlogTheme.Template.Json

/-!
# Trees read back from documents

The document of a tree is read as the same tree (`nodesOfJson?_toJson`), provided that the numbers
of its spans have 64 bits. Those of a parsed tree do unless its source is larger than any
(`fits_of_parse`).
-/

namespace BlogTheme.Template

open Text (maxNat64)

/-- The numbers of a span have 64 bits. -/
structure Span.Fits (s : Span) : Prop where
  start : s.start ≤ maxNat64
  stop : s.stop ≤ maxNat64
  line : s.line ≤ maxNat64
  column : s.column ≤ maxNat64

/-! ## Scalars, lists and fields -/

theorem natOf?_ofInt {n : Nat} (h : n ≤ maxNat64) : natOf? (.ofInt n) = some n := by
  have hbounds : (0 : Int) ≤ n ∧ (n : Int) ≤ 18446744073709551615 := by
    unfold maxNat64 at h
    omega
  rw [Json.ofInt, natOf?, if_pos hbounds]
  rfl

theorem int64Of?_ofInt (n : Int64) : int64Of? (.ofInt n.toInt) = some n := by
  have hbounds : Int64.minValue.toInt ≤ n.toInt ∧ n.toInt ≤ Int64.maxValue.toInt :=
    ⟨n.minValue_le_toInt, n.toInt_le⟩
  rw [Json.ofInt, int64Of?, if_pos hbounds, Int64.ofInt_toInt]

theorem listOf?_ofList {item : Json → Option α} {toJson : α → Json}
    (h : ∀ a, item (toJson a) = some a) (as : List α) :
    listOf? item (.ofList (as.map toJson)) = some as := by
  have hitems : as.mapM (item ∘ toJson) = some (as.map id) := mapM_eq_pure fun a _ => h a
  rw [Json.ofList, listOf?, List.mapM_map, hitems, List.map_id]

/-- A name that the fields of an object have once leads to its value. -/
theorem memberOnce?_of_mem {members : List (String × Json)} (h : (members.map Prod.fst).Nodup)
    {key : String} {value : Json} (hmem : (key, value) ∈ members) :
    memberOnce? (members.map fun (key, value) => (some key, value)) key = some value := by
  obtain ⟨before, after, rfl⟩ := List.append_of_mem hmem
  rw [List.map_append, List.map_cons, List.nodup_middle, List.nodup_cons, ← List.map_append] at h
  have hother : ∀ entry ∈ before ++ after, (some entry.1 == some key) = false := by
    intro entry hentry
    have hne : entry.1 ≠ key := fun heq => h.1 (List.mem_map.2 ⟨entry, hentry, heq⟩)
    simpa using hne
  have hnone (entries : List (String × Json)) (hsub : ∀ e ∈ entries, e ∈ before ++ after) :
      (entries.map fun (key, value) => (some key, value)).filter (·.1 == some key) = [] := by
    rw [List.filter_map, List.filter_eq_nil_iff.2, List.map_nil]
    exact fun entry hentry => by simpa using hother entry (hsub entry hentry)
  rw [memberOnce?, List.map_append, List.map_cons, List.filter_append, List.filter_cons_of_pos,
    hnone before fun _ => List.mem_append_left _, hnone after fun _ => List.mem_append_right _]
  · rfl
  · exact beq_self_eq_true _

/-- The fields of an object are found by their names. -/
theorem memberValues?_ofMembers {members : List (String × Json)}
    (h : (members.map Prod.fst).Nodup) :
    memberValues? (members.map Prod.fst) (.ofMembers members) =
      some (members.map Prod.snd) := by
  rw [Json.ofMembers, memberValues?, List.mapM_map]
  exact mapM_eq_pure fun _ hentry => memberOnce?_of_mem h hentry

/-! ## Arguments and invocations -/

theorem Argument.ofJson?_toJson (a : Argument) : ofJson? a.toJson = some a := by
  cases a with
  | path p => rfl
  | string s => rfl
  | number n => exact congrArg (Option.map Argument.number) (int64Of?_ofInt n)
  | boolean b => rfl

theorem hashEntryOfJson?_toJson (entry : String × Argument) :
    hashEntryOfJson? (hashEntryToJson entry) = some entry := by
  rw [hashEntryToJson, Json.ofList, hashEntryOfJson?, Argument.ofJson?_toJson]
  rfl

theorem Span.ofJson?_toJson {s : Span} (h : s.Fits) : ofJson? s.toJson = some s := by
  have hfields : fieldValues? ["start", "end", "line", "column"] s.toJson =
      some [.ofInt s.start, .ofInt s.stop, .ofInt s.line, .ofInt s.column] :=
    memberValues?_ofMembers (show ["start", "end", "line", "column"].Nodup by decide)
  rw [ofJson?, hfields]
  simp only [Option.bind_eq_bind, Option.bind_some, natOf?_ofInt h.start, natOf?_ofInt h.stop,
    natOf?_ofInt h.line, natOf?_ofInt h.column]
  rfl

theorem Invocation.ofJson?_toJson {i : Invocation} (h : i.span.Fits) :
    ofJson? i.toJson = some i := by
  have hfields : fieldValues? ["name", "params", "hash", "span"] i.toJson =
      some [.ofString i.name, .ofList (i.params.map Argument.toJson),
        .ofList (i.hash.map hashEntryToJson), i.span.toJson] :=
    memberValues?_ofMembers (show ["name", "params", "hash", "span"].Nodup by decide)
  rw [ofJson?, hfields]
  simp only [Option.bind_eq_bind, Option.bind_some, Span.ofJson?_toJson h,
    listOf?_ofList Argument.ofJson?_toJson, listOf?_ofList hashEntryOfJson?_toJson]
  rfl

/-! ## Nodes -/

/-- The spans of the invocations among some items fit. -/
def AllFit (items : List Item) : Prop :=
  ∀ i ∈ items.filterMap Item.invocation?, i.span.Fits

theorem allFit_append {items items' : List Item} :
    AllFit (items ++ items') ↔ AllFit items ∧ AllFit items' := by
  rw [AllFit, List.filterMap_append, List.forall_mem_append]
  rfl

theorem allFit_opening {i : Invocation} {items : List Item} :
    AllFit (.opening i :: items) ↔ i.span.Fits ∧ AllFit items :=
  List.forall_mem_cons

theorem expressionOfJson?_toJson {i : Invocation} (h : i.span.Fits) (escaped : Bool) :
    expressionOfJson? (.ofMembers [("invocation", i.toJson), ("escaped", .bool escaped)]) =
      some (.expression i escaped) := by
  have hfields : memberValues? ["invocation", "escaped"]
      (.ofMembers [("invocation", i.toJson), ("escaped", .bool escaped)]) =
        some [i.toJson, .bool escaped] :=
    memberValues?_ofMembers (show ["invocation", "escaped"].Nodup by decide)
  rw [expressionOfJson?, hfields]
  simp only [Option.bind_eq_bind, Option.bind_some, Invocation.ofJson?_toJson h]
  rfl

/-- The document of an inverse. -/
def inverseToJson : Option (List Node) → Json
  | none => .null
  | some nodes => .ofList (nodesToJson nodes)

theorem Node.toJson_block (i : Invocation) (body : List Node) (inverse : Option (List Node)) :
    (Node.block i body inverse).toJson = .ofMembers [("Block", .ofMembers [
      ("invocation", i.toJson), ("body", .ofList (nodesToJson body)),
      ("inverse", inverseToJson inverse)])] := by
  cases inverse <;> rw [toJson, inverseToJson]

/-- A block is read from its three fields. -/
theorem blockOfJson?_ofMembers {i : Invocation} (h : i.span.Fits) {body : List Node}
    {inverse : Option (List Node)} (hbody : nodeListOfJson? (nodesToJson body) = some body)
    (hinverse : inverseOfJson? (inverseToJson inverse) = some inverse) :
    blockOfJson? (.ofMembers [("invocation", i.toJson), ("body", .ofList (nodesToJson body)),
      ("inverse", inverseToJson inverse)]) = some (.block i body inverse) := by
  simp [Json.ofMembers, blockOfJson?, blockOfMembers?, Invocation.ofJson?_toJson h, Json.ofList,
    nodesOfJson?, hbody, hinverse, BlockDraft.node?]

mutual

theorem Node.ofJson?_toJson {node : Node} (h : AllFit node.items) :
    Node.ofJson? node.toJson = some node := by
  cases node with
  | text content =>
    rw [Node.toJson, Json.ofMembers]
    simp only [List.map_cons, List.map_nil, Node.ofJson?]
    rfl
  | expression i escaped =>
    have hspan : i.span.Fits := h i List.mem_cons_self
    rw [Node.toJson, Json.ofMembers]
    simp only [List.map_cons, List.map_nil, Node.ofJson?]
    exact expressionOfJson?_toJson hspan escaped
  | block i body inverse =>
    rw [Node.items, allFit_opening, allFit_append, allFit_append] at h
    obtain ⟨hspan, hbody, hinverse, -⟩ := h
    rw [Node.toJson_block, Json.ofMembers]
    simp only [List.map_cons, List.map_nil, Node.ofJson?]
    exact blockOfJson?_ofMembers hspan (nodeListOfJson?_toJson hbody)
      (inverseOfJson?_toJson hinverse)

theorem inverseOfJson?_toJson {inverse : Option (List Node)} (h : AllFit (inverseItems inverse)) :
    inverseOfJson? (inverseToJson inverse) = some inverse := by
  cases inverse with
  | none => rw [inverseToJson, inverseOfJson?]
  | some nodes =>
    have hnodes : AllFit (allItems nodes) := h
    rw [inverseToJson, Json.ofList, inverseOfJson?, nodeListOfJson?_toJson hnodes]
    rfl

theorem nodeListOfJson?_toJson {nodes : List Node} (h : AllFit (allItems nodes)) :
    nodeListOfJson? (nodesToJson nodes) = some nodes := by
  cases nodes with
  | nil => rw [nodesToJson, nodeListOfJson?]
  | cons node nodes =>
    rw [allItems, allFit_append] at h
    rw [nodesToJson, nodeListOfJson?, Node.ofJson?_toJson h.1, nodeListOfJson?_toJson h.2]
    rfl

end

/-! ## Parsed trees -/

theorem length_le_byteSize (cs : List Char) : cs.length ≤ byteSize cs := by
  induction cs with
  | nil => exact Nat.zero_le _
  | cons c cs ih =>
    have hc := c.utf8Size_pos
    rw [← List.singleton_append, byteSize_append, byteSize_singleton, List.length_append,
      List.length_singleton]
    omega

/-- Lines and columns are counted from 1, so one number more is needed than there are bytes. -/
theorem Span.Marks.fits {s : Span} {before text : List Char} (h : s.Marks before text)
    (hsize : byteSize (before ++ text) < maxNat64) : s.Fits := by
  rw [byteSize_append] at hsize
  have hlength := length_le_byteSize before
  have hlines : before.count '\n' ≤ before.length := List.count_le_length
  have hcolumns : (lastLine before).length ≤ before.length :=
    (List.rtakeWhile_suffix _ _).length_le
  constructor
  · rw [h.start]
    omega
  · rw [h.stop, byteSize_append]
    omega
  · rw [h.line]
    omega
  · rw [h.column]
    omega

theorem fits_of_parse {source name : String} {t : Template} (h : parse source name = .ok t)
    (hsize : source.utf8ByteSize < maxNat64) : ∀ i ∈ invocations t.body, i.span.Fits := by
  obtain ⟨hrest, hnest⟩ := segments_of_parse h
  obtain ⟨pieces, hpieces, htiles, hsource⟩ := Segment.sequence_tiles source.toList
  rw [hrest, List.append_nil] at hsource
  intro i hi
  rw [invocations_nest hnest, hpieces] at hi
  obtain ⟨p, hp, hi⟩ := List.mem_filterMap.1 hi
  obtain ⟨piece, hpiece, rfl⟩ := List.mem_map.1 hp
  obtain ⟨front, back, htext, hstands⟩ := htiles.standsBehind hpiece
  rw [(Placed.span_of_invocation? hi).1]
  refine hstands.span.fits ?_
  have htotal : byteSize source.toList = source.utf8ByteSize := by
    rw [byteSize, String.ofList_toList]
  rw [hsource, htext, ← List.append_assoc, byteSize_append] at htotal
  rw [List.nil_append]
  omega

/-- Every tree is read back from its document if the numbers of its spans have 64 bits, so trees
that differ have different documents. The tree of a source is read back as it was parsed, and so it
makes the same page. -/
theorem tree_read_back :
    (∀ nodes : List Node, (∀ i ∈ invocations nodes, i.span.Fits) →
      nodesOfJson? (.ofList (nodesToJson nodes)) = some nodes) ∧
    (∀ nodes nodes' : List Node, (∀ i ∈ invocations nodes, i.span.Fits) →
      (∀ i ∈ invocations nodes', i.span.Fits) → nodesToJson nodes = nodesToJson nodes' →
        nodes = nodes') ∧
    ∀ (source name : String) (t : Template), source.utf8ByteSize < maxNat64 →
      parse source name = .ok t →
        ∃ body, nodesOfJson? (.ofList (nodesToJson t.body)) = some body ∧
          ∀ (e : Engine) (theme : Theme) (request : Request),
            e.renderTemplate theme { name := t.name, body } request =
              e.renderTemplate theme t request := by
  have hread (nodes : List Node) (h : ∀ i ∈ invocations nodes, i.span.Fits) :
      nodesOfJson? (.ofList (nodesToJson nodes)) = some nodes := by
    rw [Json.ofList, nodesOfJson?]
    exact nodeListOfJson?_toJson h
  refine ⟨hread, fun nodes nodes' h h' heq => ?_, fun source name t hsize hparse => ?_⟩
  · exact Option.some.inj ((hread nodes h).symm.trans (heq ▸ hread nodes' h'))
  · exact ⟨t.body, hread t.body (fits_of_parse hparse hsize), fun _ _ _ => rfl⟩

/-- An inverse that is there but empty, a key that comes twice and the least number, and a source
with a block. -/
theorem tree_read_back_inverse :
    let i : Invocation :=
      { name := "if"
        params := [.number (-9223372036854775808)]
        hash := [("a", .path "b"), ("a", .string "c")]
        span := { start := 18446744073709551615, stop := 0, line := 1, column := 1 } }
    let nodes : List Node := [.block i [.block i [] none] (some [])]
    let source := "\x7b\x7b#if a\x7d\x7db\x7b\x7b/if\x7d\x7d"
    nodesOfJson? (.ofList (nodesToJson nodes)) = some nodes ∧
      nodesToJson [.block i [] none] ≠ nodesToJson [.block i [] (some [])] ∧
      ∃ t body, parse source "page" = .ok t ∧
        nodesOfJson? (.ofList (nodesToJson t.body)) = some body ∧
        ∀ (e : Engine) (theme : Theme) (request : Request),
          e.renderTemplate theme { name := t.name, body } request =
            e.renderTemplate theme t request := by
  intro i nodes source
  obtain ⟨hread, hinjective, hparsed⟩ := tree_read_back
  have hspan : i.span.Fits := ⟨by decide, by decide, by decide, by decide⟩
  have hfits (inner : List Node) (hinner : invocations inner ⊆ [i, i]) :
      ∀ j ∈ invocations inner, j.span.Fits := fun j hj => by
    have hj : j = i := by simpa using hinner hj
    exact hj ▸ hspan
  refine ⟨hread nodes (hfits _ (by decide)), fun heq => ?_, ?_⟩
  · have hsame := hinjective _ _ (hfits _ (by decide)) (hfits _ (by decide)) heq
    simp at hsame
  · have hok : (parseBody source.toList).toOption.isSome := by decide +kernel
    cases hbody : parseBody source.toList with
    | error f =>
      rw [hbody] at hok
      cases hok
    | ok body =>
      have hparse : parse source "page" = .ok { name := "page", body } :=
        parse_ok_iff.2 ⟨rfl, hbody⟩
      obtain ⟨body', hbody', hrender⟩ := hparsed source "page" _ (by decide) hparse
      exact ⟨_, body', hparse, hbody', hrender⟩

end BlogTheme.Template
