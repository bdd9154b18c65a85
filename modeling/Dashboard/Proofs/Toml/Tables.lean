import Dashboard.Proofs.Config.Tree
import Dashboard.Toml.Document
import Dashboard.Toml.Printer
import Mathlib.Data.List.Basic
import Mathlib.Data.Set.List

/-!
# The tables of a printed document

A document is built from its sections, one after the other. The sections of what stands under a key
only touch that key, so they build the value by themselves; a table comes out with its plain values
in front, which readers of typed data cannot tell from the order in which it was written.
-/

namespace Dashboard.Toml

/-! ### Changing what stands under a key -/

def keysOf (nodes : Nodes) : List String := nodes.map (·.1)

theorem keysOf_append (nodes nodes' : Nodes) :
    keysOf (nodes ++ nodes') = keysOf nodes ++ keysOf nodes' :=
  List.map_append

theorem alter_append {key : String} (change : Option Node → Option Node) {nodes : Nodes}
    (h : key ∉ keysOf nodes) (nodes' : Nodes) :
    alter key change (nodes ++ nodes') = (alter key change nodes').map (nodes ++ ·) := by
  induction nodes with
  | nil => simp
  | cons e nodes ih =>
    obtain ⟨hne, hrest⟩ := List.ne_and_not_mem_of_not_mem_cons h
    rw [List.cons_append, alter, if_neg fun heq => hne heq.symm, ih hrest, Option.map_map]
    rfl

/-- A new key comes last. -/
theorem alter_new {key : String} (change : Option Node → Option Node) {nodes : Nodes}
    (h : key ∉ keysOf nodes) :
    alter key change nodes = (change none).map fun n => nodes ++ [(key, n)] := by
  have := alter_append change h []
  rw [List.append_nil, alter, Option.map_map] at this
  exact this

/-- The last key is changed in its place. -/
theorem alter_last {key : String} (change : Option Node → Option Node) {nodes : Nodes}
    (h : key ∉ keysOf nodes) (n : Node) :
    alter key change (nodes ++ [(key, n)]) =
      (change (some n)).map fun n => nodes ++ [(key, n)] := by
  rw [alter_append change h, alter, if_pos rfl, Option.map_map]
  rfl

theorem addNode_new {key : String} (node : Node) {nodes : Nodes} (h : key ∉ keysOf nodes) :
    addNode key node nodes = some (nodes ++ [(key, node)]) :=
  alter_new _ h

/-! ### Plain values -/

/-- Entries as the keys and values of a section. -/
def pairsOf (entries : Entries) : List (List String × Value) := entries.map fun e => ([e.1], e.2)

/-- Plain values under construction. -/
def valueNodes (entries : Entries) : Nodes := entries.map fun e => (e.1, .value e.2)

theorem keysOf_valueNodes (entries : Entries) :
    keysOf (valueNodes entries) = entries.map (·.1) := by
  rw [keysOf, valueNodes, List.map_map]
  rfl

/-- Values under keys without points come behind each other. -/
theorem addValues_pairsOf {entries : Entries} {nodes : Nodes}
    (h : (keysOf nodes ++ entries.map (·.1)).Nodup) :
    addValues (pairsOf entries) nodes = some (nodes ++ valueNodes entries) := by
  induction entries generalizing nodes with
  | nil => rw [pairsOf, List.map_nil, addValues, valueNodes, List.map_nil, List.append_nil]
  | cons e entries ih =>
    rw [List.map_cons] at h
    have hnew : e.1 ∉ keysOf nodes := fun hmem =>
      (List.nodup_append.1 h).2.2 _ hmem _ List.mem_cons_self rfl
    rw [← List.singleton_append, ← List.append_assoc] at h
    have hadd : addValue [e.1] e.2 nodes = some (nodes ++ [(e.1, .value e.2)]) := addNode_new _ hnew
    rw [pairsOf, List.map_cons, addValues, hadd, Option.bind_some, ← pairsOf,
      ih (by rwa [keysOf_append]), List.append_assoc]
    rfl

theorem nodesToEntries_append (nodes nodes' : Nodes) :
    nodesToEntries (nodes ++ nodes') = nodesToEntries nodes ++ nodesToEntries nodes' := by
  induction nodes with
  | nil => rfl
  | cons e nodes ih => rw [List.cons_append, nodesToEntries, ih, nodesToEntries, List.cons_append]

theorem nodesToEntries_valueNodes (entries : Entries) :
    nodesToEntries (valueNodes entries) = entries := by
  induction entries with
  | nil => rfl
  | cons e entries ih =>
    rw [valueNodes, List.map_cons, nodesToEntries, ← valueNodes, ih, Node.toValue]

/-- The entries of a table between braces. -/
theorem braceEntries_pairsOf {entries : Entries} (h : (entries.map (·.1)).Nodup) :
    braceEntries (pairsOf entries) = some entries := by
  rw [braceEntries, addValues_pairsOf (by simpa [keysOf] using h), Option.map_some,
    List.nil_append, nodesToEntries_valueNodes]

/-! ### Sections below a key -/

/-- The header of the same table, seen from the table that holds it under `key`. -/
def Header.under (key : String) : Header → Header
  | .root => .table [key]
  | .table path => .table (key :: path)
  | .element path => .element (key :: path)

def Section.under (key : String) (s : Section) : Section := ⟨s.header.under key, s.pairs⟩

/-- Whether a header names a table below the one it is read in. -/
def Header.IsBelow : Header → Prop
  | .root => False
  | .table path => path ≠ []
  | .element path => path ≠ []

theorem Header.isBelow_under (key : String) (h : Header) : (h.under key).IsBelow := by
  cases h <;> exact List.cons_ne_nil _ _

theorem within_kind {dotted : Bool} {change : Nodes → Option Nodes} (path : List String)
    (kind kind' : TableKind) (nodes : Nodes) :
    within dotted (fun _ => change) path kind nodes =
      within dotted (fun _ => change) path kind' nodes := by
  cases path <;> rfl

/-- What a change further down does to the node under the first key of its path. -/
def changeBelow (change : Nodes → Option Nodes) : Option Node → Option Node
  | none => (change []).map (.table .implicit)
  | some (.value _) => none
  | some (.tables elements) =>
    match elements.getLast? with
    | none => none
    | some last => (change last).map fun last => .tables (elements.dropLast ++ [last])
  | some (.table kind inner) => (change inner).map (.table kind)

theorem within_cons (change : Nodes → Option Nodes) (key : String) (path : List String)
    (kind : TableKind) (nodes : Nodes) :
    within false (fun _ => change) (key :: path) kind nodes =
      alter key (changeBelow (within false (fun _ => change) path .explicit)) nodes := by
  rw [within]
  congr 1
  funext n
  match n with
  | none =>
    exact congrArg (Option.map (Node.table .implicit)) (within_kind path .implicit .explicit [])
  | some (.value v) => rfl
  | some (.tables elements) => rfl
  | some (.table kind inner) =>
    exact congrArg (Option.map (Node.table kind)) (within_kind path kind .explicit inner)

/-- A section below a key only changes what stands under that key. -/
theorem addSection_under {key : String} {s : Section} (hs : s.header.IsBelow) (nodes : Nodes) :
    addSection nodes (s.under key) =
      alter key (changeBelow fun inner => addSection inner s) nodes := by
  obtain ⟨header, pairs⟩ := s
  cases header with
  | root => exact hs.elim
  | table path | element path =>
    obtain ⟨path, last, rfl⟩ := (List.eq_nil_or_concat path).resolve_left hs
    simp only [Section.under, Header.under, addSection, List.concat_eq_append, ← List.cons_append,
      List.getLast?_append, List.getLast?_singleton, Option.some_or, Option.bind_some,
      List.dropLast_concat, within_cons]

section Fold

variable {key : String} {sections : List Section} {nodes : Nodes}

/-- Sections below a table at the end. -/
theorem foldlM_under_table (h : ∀ s ∈ sections, s.header.IsBelow) (hkey : key ∉ keysOf nodes)
    (kind : TableKind) (inner : Nodes) :
    (sections.map (.under key)).foldlM addSection (nodes ++ [(key, .table kind inner)]) =
      (sections.foldlM addSection inner).map fun inner => nodes ++ [(key, .table kind inner)] := by
  induction sections generalizing inner with
  | nil => rfl
  | cons s sections ih =>
    obtain ⟨hs, hrest⟩ := List.forall_mem_cons.1 h
    rw [List.map_cons, List.foldlM_cons, List.foldlM_cons, addSection_under hs,
      alter_last _ hkey, changeBelow]
    cases addSection inner s with
    | none => rfl
    | some inner' => exact ih hrest inner'

/-- Sections below the newest of several tables. -/
theorem foldlM_under_tables (h : ∀ s ∈ sections, s.header.IsBelow) (hkey : key ∉ keysOf nodes)
    (elements : List Nodes) (last : Nodes) :
    (sections.map (.under key)).foldlM addSection
        (nodes ++ [(key, .tables (elements ++ [last]))]) =
      (sections.foldlM addSection last).map fun last =>
        nodes ++ [(key, .tables (elements ++ [last]))] := by
  induction sections generalizing last with
  | nil => rfl
  | cons s sections ih =>
    obtain ⟨hs, hrest⟩ := List.forall_mem_cons.1 h
    rw [List.map_cons, List.foldlM_cons, List.foldlM_cons, addSection_under hs,
      alter_last _ hkey, changeBelow]
    simp only [List.getLast?_append, List.getLast?_singleton, Option.some_or, List.dropLast_concat]
    cases addSection last s with
    | none => rfl
    | some last' => exact ih hrest last'

/-- Sections below a key that does not exist yet. -/
theorem foldlM_under_new (h : ∀ s ∈ sections, s.header.IsBelow) (hne : sections ≠ [])
    (hkey : key ∉ keysOf nodes) :
    (sections.map (.under key)).foldlM addSection nodes =
      (sections.foldlM addSection []).map fun inner =>
        nodes ++ [(key, .table .implicit inner)] := by
  obtain ⟨s, sections, rfl⟩ := List.exists_cons_of_ne_nil hne
  obtain ⟨hs, hrest⟩ := List.forall_mem_cons.1 h
  rw [List.map_cons, List.foldlM_cons, List.foldlM_cons, addSection_under hs, alter_new _ hkey,
    changeBelow]
  cases addSection [] s with
  | none => rfl
  | some inner => exact foldlM_under_table hrest hkey .implicit inner

end Fold

/-! ### The sections of a printed document -/

/-- The section of a table itself. -/
def ownSection (header : Header) (entries : Entries) : Section :=
  ⟨header, pairsOf (entries.filter (·.2.isPlain))⟩

mutual

/-- The sections of what stands under a key, if it is written under headers. -/
def valueSections (key : String) : Value → List Section
  | .table entries =>
    (if entries.isEmpty || entries.any (·.2.isPlain) then [ownSection (.table [key]) entries]
      else []) ++ (entrySections entries).map (.under key)
  | .array items => if (Value.array items).isPlain then [] else elementSections key items
  | _ => []

def entrySections : List (String × Value) → List Section
  | [] => []
  | (k, v) :: rest => valueSections k v ++ entrySections rest

def elementSections (key : String) : List Value → List Section
  | [] => []
  | v :: rest =>
    (match v with
      | .table entries =>
        ownSection (.element [key]) entries :: (entrySections entries).map (.under key)
      | _ => []) ++ elementSections key rest

end

theorem entrySections_eq (entries : Entries) :
    entrySections entries = entries.flatMap fun e => valueSections e.1 e.2 := by
  induction entries with
  | nil => rfl
  | cons e entries ih => rw [entrySections, ih, List.flatMap_cons]

theorem elementSections_map_table (key : String) (tables : List Entries) :
    elementSections key (tables.map .table) = tables.flatMap fun entries =>
      ownSection (.element [key]) entries :: (entrySections entries).map (.under key) := by
  induction tables with
  | nil => rfl
  | cons entries tables ih => rw [List.map_cons, elementSections, ih, List.flatMap_cons]

theorem isBelow_of_mem_elementSections {key : String} {items : List Value} :
    ∀ s ∈ elementSections key items, s.header.IsBelow := by
  induction items with
  | nil => exact fun s hs => absurd hs List.not_mem_nil
  | cons v items ih =>
    intro s hs
    rw [elementSections.eq_def] at hs
    rcases List.mem_append.1 hs with hs | hs
    · split at hs
      · rcases List.mem_cons.1 hs with rfl | hs
        · exact List.cons_ne_nil _ _
        · obtain ⟨s, -, rfl⟩ := List.mem_map.1 hs
          exact Header.isBelow_under _ _
      · exact absurd hs List.not_mem_nil
    · exact ih s hs

theorem isBelow_of_mem_valueSections {key : String} {v : Value} :
    ∀ s ∈ valueSections key v, s.header.IsBelow := by
  intro s hs
  rw [valueSections.eq_def] at hs
  split at hs
  · rcases List.mem_append.1 hs with hs | hs
    · split at hs
      · obtain rfl := List.mem_singleton.1 hs
        exact List.cons_ne_nil _ _
      · exact absurd hs List.not_mem_nil
    · obtain ⟨s, -, rfl⟩ := List.mem_map.1 hs
      exact Header.isBelow_under _ _
  · split at hs
    · exact absurd hs List.not_mem_nil
    · exact isBelow_of_mem_elementSections s hs
  · exact absurd hs List.not_mem_nil

theorem isBelow_of_mem_entrySections {entries : Entries} :
    ∀ s ∈ entrySections entries, s.header.IsBelow := by
  intro s hs
  rw [entrySections_eq, List.mem_flatMap] at hs
  obtain ⟨e, -, hs⟩ := hs
  exact isBelow_of_mem_valueSections s hs

/-! ### What the sections build -/

open ConfigTree (ofToml entriesOfToml Alike)

/-- Plain entries, and those that are written under headers. -/
def plainEntries (entries : Entries) : Entries := entries.filter (·.2.isPlain)

def headedEntries (entries : Entries) : Entries := entries.filter (!·.2.isPlain)

/-- The sections of what stands under a key build a node there that is read as the value. -/
def BuildsNode (v : Value) : Prop :=
  ∃ n : Node, ofToml n.toValue = ofToml v ∧ ∀ (key : String) (nodes : Nodes), key ∉ keysOf nodes →
    (valueSections key v).foldlM addSection nodes = some (nodes ++ [(key, n)])

/-- The sections below a table fill it. -/
def BuildsTable (entries : Entries) : Prop :=
  ∃ inner : Nodes, entriesOfToml (nodesToEntries inner) = entriesOfToml entries ∧
    (entrySections entries).foldlM addSection (valueNodes (plainEntries entries)) = some inner

theorem valueSections_of_isPlain {v : Value} (h : v.isPlain = true) (key : String) :
    valueSections key v = [] := by
  cases v with
  | table entries => exact absurd h (by simp [Value.isPlain])
  | array items => rw [valueSections, if_pos h]
  | _ => rfl

theorem exists_nodes {entries : Entries} (h : ∀ e ∈ entries, e.2.isPlain = false → BuildsNode e.2)
    (hnodup : (entries.map (·.1)).Nodup) :
    ∃ built : Nodes, Alike (nodesToEntries built) (headedEntries entries) ∧
      ∀ nodes, (∀ e ∈ headedEntries entries, e.1 ∉ keysOf nodes) →
        (entrySections entries).foldlM addSection nodes = some (nodes ++ built) := by
  induction entries with
  | nil => exact ⟨[], .nil, fun nodes _ => by rw [List.append_nil]; rfl⟩
  | cons e entries ih =>
    obtain ⟨he, hrest⟩ := List.forall_mem_cons.1 h
    obtain ⟨hnew, hnodup⟩ := List.nodup_cons.1 hnodup
    obtain ⟨built, halike, hfold⟩ := ih hrest hnodup
    cases hplain : e.2.isPlain with
    | true =>
      have hheaded : headedEntries (e :: entries) = headedEntries entries :=
        List.filter_cons_of_neg (by simp [hplain])
      rw [hheaded]
      refine ⟨built, halike, fun nodes hnodes => ?_⟩
      rw [entrySections, valueSections_of_isPlain hplain, List.nil_append, hfold nodes hnodes]
    | false =>
      have hheaded : headedEntries (e :: entries) = e :: headedEntries entries :=
        List.filter_cons_of_pos (by simp [hplain])
      obtain ⟨n, hn, hnode⟩ := he hplain
      rw [hheaded]
      refine ⟨(e.1, n) :: built, .cons ⟨rfl, hn⟩ halike, fun nodes hnodes => ?_⟩
      obtain ⟨hkey, hnodes⟩ := List.forall_mem_cons.1 hnodes
      rw [entrySections, List.foldlM_append, hnode _ _ hkey]
      change (entrySections entries).foldlM addSection (nodes ++ [(e.1, n)]) = _
      rw [hfold, List.append_assoc, List.singleton_append]
      intro e' he' hmem
      rw [keysOf_append, List.mem_append] at hmem
      rcases hmem with hmem | hmem
      · exact hnodes e' he' hmem
      · exact hnew (List.mem_map.2 ⟨e', List.mem_of_mem_filter he', List.mem_singleton.1 hmem⟩)

theorem buildsTable_of_nodes {entries : Entries}
    (h : ∀ e ∈ entries, e.2.isPlain = false → BuildsNode e.2)
    (hnodup : (entries.map (·.1)).Nodup) : BuildsTable entries := by
  obtain ⟨built, halike, hfold⟩ := exists_nodes h hnodup
  have hperm : (plainEntries entries ++ headedEntries entries).Perm entries :=
    List.filter_append_perm _ _
  have hnodup' := ((hperm.map (·.1)).nodup_iff).2 hnodup
  refine ⟨valueNodes (plainEntries entries) ++ built, ?_, hfold _ fun e he hmem => ?_⟩
  · rw [nodesToEntries_append, nodesToEntries_valueNodes,
      ((Alike.refl _).append halike).entriesOfToml_eq]
    exact ConfigTree.entriesOfToml_perm hperm hnodup'
  · rw [keysOf_valueNodes] at hmem
    rw [List.map_append] at hnodup'
    exact (List.nodup_append.1 hnodup').2.2 _ hmem _ (List.mem_map_of_mem he) rfl

theorem addValues_own {entries : Entries} (hnodup : (entries.map (·.1)).Nodup) :
    addValues (pairsOf (plainEntries entries)) [] = some (valueNodes (plainEntries entries)) := by
  refine addValues_pairsOf ?_
  rw [keysOf, List.map_nil, List.nil_append]
  exact hnodup.sublist (List.filter_sublist.map _)

/-- The section of a table itself makes the table. -/
theorem addSection_own {entries : Entries} (hnodup : (entries.map (·.1)).Nodup) {key : String}
    {nodes : Nodes} (hkey : key ∉ keysOf nodes) :
    addSection nodes (ownSection (.table [key]) entries) =
      some (nodes ++ [(key, .table .explicit (valueNodes (plainEntries entries)))]) := by
  have hfind : nodes.find? (·.1 = key) = none := by
    rw [List.find?_eq_none]
    intro e he heq
    exact hkey (List.mem_map.2 ⟨e, he, by simpa using heq⟩)
  have htake : takeImplicit key nodes = some (nodes, []) := by rw [takeImplicit, hfind]
  change addTable key (pairsOf (plainEntries entries)) nodes = _
  rw [addTable, htake]
  simp only [Option.bind_eq_bind, Option.bind_some, addValues_own hnodup]
  exact addNode_new _ hkey

theorem BuildsTable.buildsNode {entries : Entries} (h : BuildsTable entries)
    (hnodup : (entries.map (·.1)).Nodup) : BuildsNode (.table entries) := by
  obtain ⟨inner, hread, hfold⟩ := h
  have hbelow : ∀ s ∈ entrySections entries, s.header.IsBelow := isBelow_of_mem_entrySections
  have hvalue (kind : TableKind) :
      ofToml (Node.table kind inner).toValue = ofToml (.table entries) := by
    rw [Node.toValue, ofToml, ofToml, hread]
  cases hown : entries.isEmpty || entries.any (·.2.isPlain) with
  | true =>
    refine ⟨.table .explicit inner, hvalue _, fun key nodes hkey => ?_⟩
    rw [valueSections, if_pos hown, List.singleton_append, List.foldlM_cons,
      addSection_own hnodup hkey]
    change ((entrySections entries).map (.under key)).foldlM addSection
      (nodes ++ [(key, .table .explicit (valueNodes (plainEntries entries)))]) = _
    rw [foldlM_under_table hbelow hkey, hfold, Option.map_some]
  | false =>
    -- no section of its own: the first section below makes the table
    rw [Bool.or_eq_false_iff] at hown
    have hplain : plainEntries entries = [] :=
      List.filter_eq_nil_iff.2 (List.any_eq_false.1 hown.2)
    rw [hplain] at hfold
    have hne : entrySections entries ≠ [] := by
      intro hnil
      rw [hnil] at hfold
      obtain rfl : [] = inner := Option.some.inj hfold
      exact ConfigTree.entriesOfToml_ne_nil (by simpa using hown.1) hread.symm
    refine ⟨.table .implicit inner, hvalue _, fun key nodes hkey => ?_⟩
    rw [valueSections, if_neg (by simp [hown]), List.nil_append,
      foldlM_under_new hbelow hne hkey]
    exact congrArg (Option.map _) hfold

/-- The section of a table under a repeated header adds the table. -/
theorem addSection_element {entries : Entries} (hnodup : (entries.map (·.1)).Nodup) (key : String)
    (nodes : Nodes) :
    addSection nodes (ownSection (.element [key]) entries) =
      alter key (fun
        | none => some (.tables [valueNodes (plainEntries entries)])
        | some (.tables elements) =>
          some (.tables (elements ++ [valueNodes (plainEntries entries)]))
        | some _ => none) nodes := by
  change addElement key (pairsOf (plainEntries entries)) nodes = _
  rw [addElement]
  simp only [Option.bind_eq_bind, addValues_own hnodup]
  rfl

/-- The sections of an array of tables build the tables behind each other. -/
theorem foldlM_elementSections {tables : List Entries} (h : ∀ t ∈ tables, BuildsTable t)
    (hnodup : ∀ t ∈ tables, (t.map (·.1)).Nodup) :
    ∃ built : List Nodes,
      ConfigTree.itemsOfToml (elementsToValues built) =
        ConfigTree.itemsOfToml (tables.map .table) ∧
      ∀ (key : String) (nodes : Nodes), key ∉ keysOf nodes → ∀ elements : List Nodes,
        (elementSections key (tables.map .table)).foldlM addSection
            (nodes ++ [(key, .tables elements)]) =
          some (nodes ++ [(key, .tables (elements ++ built))]) := by
  induction tables with
  | nil => exact ⟨[], rfl, fun key nodes _ elements => by rw [List.append_nil]; rfl⟩
  | cons t tables ih =>
    obtain ⟨⟨inner, hread, hfold⟩, hrest⟩ := List.forall_mem_cons.1 h
    obtain ⟨hnodup, hnodupRest⟩ := List.forall_mem_cons.1 hnodup
    obtain ⟨built, hbuilt, hfoldRest⟩ := ih hrest hnodupRest
    refine ⟨inner :: built, ?_, fun key nodes hkey elements => ?_⟩
    · rw [elementsToValues, ConfigTree.itemsOfToml, List.map_cons, ConfigTree.itemsOfToml, hbuilt,
        ofToml, ofToml, hread]
    · rw [List.map_cons, elementSections, List.foldlM_append, List.foldlM_cons,
        addSection_element hnodup, alter_last _ hkey]
      change (((entrySections t).map (.under key)).foldlM addSection
        (nodes ++ [(key, .tables (elements ++ [valueNodes (plainEntries t)]))])).bind _ = _
      rw [foldlM_under_tables isBelow_of_mem_entrySections hkey, hfold]
      have := hfoldRest key nodes hkey (elements ++ [inner])
      rw [List.append_assoc] at this
      exact this

theorem buildsNode_tables {tables : List Entries} (hne : tables ≠ [])
    (h : ∀ t ∈ tables, BuildsTable t) (hnodup : ∀ t ∈ tables, (t.map (·.1)).Nodup) :
    BuildsNode (.array (tables.map .table)) := by
  obtain ⟨built, hbuilt, hfold⟩ := foldlM_elementSections h hnodup
  have hplain : ¬(Value.array (tables.map .table)).isPlain = true := by
    simp [Value.isPlain, hne, Value.isTable]
  refine ⟨.tables built, ?_, fun key nodes hkey => ?_⟩
  · rw [Node.toValue, ofToml, ofToml, hbuilt]
  · -- the first table starts the array, as if it were there and empty
    have hfold := hfold key nodes hkey []
    obtain ⟨t, tables, rfl⟩ := List.exists_cons_of_ne_nil hne
    have hnodupT := hnodup t List.mem_cons_self
    rw [valueSections, if_neg hplain]
    rw [List.map_cons, elementSections, List.foldlM_append, List.foldlM_cons,
      addSection_element hnodupT] at hfold ⊢
    rw [alter_last _ hkey] at hfold
    rw [alter_new _ hkey]
    exact hfold

/-! ### Values that can be printed -/

/-- A value that can be printed: its numbers are finite, and the keys of its tables distinct. -/
inductive Value.Sound : Value → Prop
  | string (s : String) : Sound (.string s)
  | integer (n : Int) : Sound (.integer n)
  | float {x : Number.Binary64} (h : x.isFinite = true) : Sound (.float x)
  | boolean (b : Bool) : Sound (.boolean b)
  | array {items : List Value} (h : ∀ v ∈ items, Sound v) : Sound (.array items)
  | table {entries : Entries} (hnodup : (entries.map (·.1)).Nodup)
      (h : ∀ e ∈ entries, Sound e.2) : Sound (.table entries)

theorem exists_tables {items : List Value} (h : (Value.array items).isPlain = false) :
    ∃ tables : List Entries, tables ≠ [] ∧ items = tables.map .table := by
  simp only [Value.isPlain, Bool.or_eq_false_iff, Bool.not_eq_false', List.all_eq_true] at h
  obtain ⟨hne, hall⟩ := h
  have hrange : items ∈ Set.range (List.map Value.table) := by
    rw [Set.range_list_map]
    intro v hv
    have := hall v hv
    cases v with
    | table entries => exact ⟨entries, rfl⟩
    | _ => exact absurd this (by simp [Value.isTable])
  obtain ⟨tables, rfl⟩ := hrange
  refine ⟨tables, ?_, rfl⟩
  rintro rfl
  simp at hne

/-- Every printable value builds itself. -/
theorem Value.Sound.builds {v : Value} (h : v.Sound) :
    (v.isPlain = false → BuildsNode v) ∧ ∀ entries, v = .table entries → BuildsTable entries := by
  induction h with
  | array h ih =>
    refine ⟨fun hplain => ?_, fun entries heq => by cases heq⟩
    obtain ⟨tables, hne, rfl⟩ := exists_tables hplain
    refine buildsNode_tables hne (fun t ht => (ih _ (List.mem_map_of_mem ht)).2 t rfl)
      fun t ht => ?_
    cases h _ (List.mem_map_of_mem ht) with
    | table hnodup _ => exact hnodup
  | table hnodup h ih =>
    have htable := buildsTable_of_nodes (fun e he => (ih e he).1) hnodup
    refine ⟨fun _ => htable.buildsNode hnodup, fun entries heq => ?_⟩
    obtain rfl := Value.table.inj heq
    exact htable
  | _ =>
    exact ⟨fun hplain => absurd hplain (by simp [Value.isPlain]), fun entries heq => by cases heq⟩

/-- The sections of a printed document. -/
def documentSections (entries : Entries) : List Section :=
  ownSection .root entries :: entrySections entries

/-- The sections of a printed document build a document that is read as the one printed. -/
theorem foldlM_documentSections {entries : Entries} (h : (Value.table entries).Sound) :
    ∃ nodes, (documentSections entries).foldlM addSection [] = some nodes ∧
      entriesOfToml (nodesToEntries nodes) = entriesOfToml entries := by
  obtain ⟨inner, hread, hfold⟩ := h.builds.2 entries rfl
  cases h with
  | table hnodup _ =>
    refine ⟨inner, ?_, hread⟩
    have hown : addSection [] (ownSection .root entries) =
        some (valueNodes (plainEntries entries)) := addValues_own hnodup
    rw [documentSections, List.foldlM_cons, hown]
    exact hfold

end Dashboard.Toml
