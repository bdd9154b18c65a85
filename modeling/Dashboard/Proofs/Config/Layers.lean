import Dashboard.Proofs.Config.Load

/-!
# Stronger layers over weaker ones

What merged layers have at a path is settled path by path: it is what the stronger one has there,
over what the weaker one has if both are tables; where the stronger one has nothing, the weaker one
is seen, unless a value of the stronger one that is no table stands around the path. So layers that
differ only at and below some path differ nowhere else once they are merged with others, and from a
layer on that has a value there, which is no table, they do not differ at all.

A document may have a date where others have a table. A date is read as a table with one entry, and
so it is merged with that table and does not take its place.
-/

namespace Dashboard

open Data

namespace ConfigTree

variable {path : List String}

/-! ### What stands at a path -/

/-- The entries of a table. What is no table has none. -/
def entries : ConfigTree → List (String × ConfigTree)
  | table entries => entries
  | _ => []

/-- What stands under a key, an empty table if that is nothing. -/
def under (key : String) (t : ConfigTree) : ConfigTree :=
  (findEntry key t.entries).getD (table [])

/-- Whether a value that is no table stands at a path. -/
def LeafAt (path : List String) (t : ConfigTree) : Prop :=
  ∃ v, t.at? path = some v ∧ ∀ entries, v ≠ table entries

/-- Whether a value that is no table stands at a path or around it. -/
def Hides (path : List String) (t : ConfigTree) : Prop :=
  ∃ q, q <+: path ∧ t.LeafAt q

/-- Whether a value leaves open what stands at a path. -/
structure Silent (path : List String) (t : ConfigTree) : Prop where
  nothing : t.at? path = none
  visible : ¬t.Hides path

theorem at?_cons (key : String) (path : List String) (t : ConfigTree) :
    t.at? (key :: path) = (findEntry key t.entries).bind (at? path) := by
  cases t <;> rfl

theorem at?_under (key : String) {q : List String} (hq : q ≠ []) (t : ConfigTree) :
    (t.under key).at? q = t.at? (key :: q) := by
  obtain ⟨k, q, rfl⟩ := List.exists_cons_of_ne_nil hq
  rw [under, at?_cons key]
  cases findEntry key t.entries <;> rfl

theorem leafAt_under {key : String} {t : ConfigTree} :
    (t.under key).LeafAt path ↔ t.LeafAt (key :: path) := by
  rw [LeafAt, LeafAt, at?_cons, under]
  cases findEntry key t.entries with
  | none => cases path <;> simp [at?, findEntry]
  | some v => rfl

/-- Dates are the only values of documents, tables apart, that are read as tables. -/
theorem sorted_entries {t : ConfigTree} (h : t.Sorted) : EntriesSorted t.entries := by
  cases t with
  | table _ => exact sorted_table_iff.1 h
  | _ => exact .nil

theorem Sorted.under {t : ConfigTree} (h : t.Sorted) (key : String) : (t.under key).Sorted := by
  rw [ConfigTree.under]
  cases hfind : findEntry key t.entries with
  | none => exact sorted_table_iff.2 .nil
  | some v => exact sorted_of_findEntry (sorted_entries h).values hfind

/-! ### Merging, path by path -/

theorem merge_of_leaf {strong : ConfigTree} (h : ∀ entries, strong ≠ table entries)
    (weak : ConfigTree) : merge weak strong = strong := by
  cases strong with
  | table entries => exact absurd rfl (h entries)
  | _ => rfl

theorem merge_table {strong : List (String × ConfigTree)} (h : KeysIncrease strong)
    (weak : ConfigTree) : merge weak (table strong) = table (mergeEntries weak.entries strong) := by
  cases weak with
  | table _ => rfl
  | _ => exact (merge_empty h).symm

theorem merge_nothing {t : ConfigTree} (h : t.Sorted) : merge (table []) t = t := by
  cases t with
  | table entries => exact merge_empty (sorted_table_iff.1 h).increase
  | _ => rfl

/-- Under a key of the stronger layer stands what it has there over what the weaker one has. -/
theorem findEntry_mergeEntries_of_some {strong : List (String × ConfigTree)}
    (hstrong : EntriesSorted strong) {key : String} {v : ConfigTree}
    (h : findEntry key strong = some v) (weak : ConfigTree) :
    findEntry key (mergeEntries weak.entries strong) = some (merge (weak.under key) v) := by
  rw [findEntry_mergeEntries hstrong.increase, h, under]
  cases findEntry key weak.entries with
  | none => exact congrArg some (merge_nothing (sorted_of_findEntry hstrong.values h)).symm
  | some old => rfl

theorem hides_of_leaf {t : ConfigTree} (h : ∀ entries, t ≠ table entries) (path : List String) :
    t.Hides path :=
  ⟨[], List.nil_prefix, t, rfl, h⟩

theorem hides_table_cons {key : String} {entries : List (String × ConfigTree)} :
    (table entries).Hides (key :: path) ↔ ∃ v, findEntry key entries = some v ∧ v.Hides path := by
  constructor
  · rintro ⟨q, hq, v, hv, hleaf⟩
    cases q with
    | nil => exact absurd (Option.some.inj hv).symm (hleaf entries)
    | cons k q =>
      obtain ⟨rfl, hprefix⟩ := List.cons_prefix_cons.1 hq
      obtain ⟨w, hw, hat⟩ := Option.bind_eq_some_iff.1 hv
      exact ⟨w, hw, q, hprefix, v, hat, hleaf⟩
  · rintro ⟨w, hw, q, hq, v, hv, hleaf⟩
    exact ⟨key :: q, List.cons_prefix_cons.2 ⟨rfl, hq⟩, v,
      Option.bind_eq_some_iff.2 ⟨w, hw, hv⟩, hleaf⟩

open Classical in
/-- What merged layers have at a path. -/
theorem at?_merge {weak strong : ConfigTree} (hstrong : strong.Sorted) (path : List String) :
    (merge weak strong).at? path =
      match strong.at? path with
      | some new => some ((weak.at? path).elim new (merge · new))
      | none => if strong.Hides path then none else weak.at? path := by
  induction path generalizing weak strong with
  | nil => rfl
  | cons key path ih =>
    cases strong with
    | table strong =>
      have hentries := sorted_table_iff.1 hstrong
      rw [merge_table hentries.increase, at?, at?, hides_table_cons]
      cases hnew : findEntry key strong with
      | none =>
        rw [findEntry_mergeEntries hentries.increase, hnew, at?_cons]
        cases findEntry key weak.entries <;> simp
      | some new =>
        rw [findEntry_mergeEntries hentries.increase, hnew, at?_cons key path weak]
        have hsorted := sorted_of_findEntry hentries.values hnew
        cases findEntry key weak.entries with
        | none =>
          simp only [Option.bind_some, Option.bind_none, Option.elim_none]
          cases new.at? path <;> simp
        | some old =>
          simp only [Option.bind_some, ih hsorted, Option.some.injEq, exists_eq_left']
    | _ =>
      rw [merge_of_leaf (by simp), if_pos (hides_of_leaf (by simp) _)]
      rfl

theorem at?_merge_of_leafAt {weak strong : ConfigTree} (hstrong : strong.Sorted)
    (h : strong.LeafAt path) : (merge weak strong).at? path = strong.at? path := by
  obtain ⟨v, hv, hleaf⟩ := h
  rw [at?_merge hstrong, hv]
  cases weak.at? path with
  | none => rfl
  | some old => exact congrArg some (merge_of_leaf hleaf old)

theorem at?_merge_of_silent {weak strong : ConfigTree} (hstrong : strong.Sorted)
    (h : strong.Silent path) : (merge weak strong).at? path = weak.at? path := by
  rw [at?_merge hstrong, h.nothing]
  exact if_neg h.visible

/-! ### Layers that differ at a path -/

/-- Whether values have the same at every path that neither is below the given one, or it itself,
nor leads to it. -/
def AgreeOutside (path : List String) (t t' : ConfigTree) : Prop :=
  ∀ q, ¬path <+: q → ¬q <+: path → t.at? q = t'.at? q

/-- Whether the second value comes from the first by putting something else at or below a path, or
nothing. Around the path the tables stay: there may be a table where nothing was, for what comes
into it, but neither in place of what is no table nor the other way. -/
structure EditedAt (path : List String) (t t' : ConfigTree) : Prop where
  outside : AgreeOutside path t t'
  around : ∀ q, q <+: path → q ≠ path → (t.LeafAt q ↔ t'.LeafAt q)

theorem AgreeOutside.refl (path : List String) (t : ConfigTree) : AgreeOutside path t t :=
  fun _ _ _ => rfl

theorem EditedAt.refl (path : List String) (t : ConfigTree) : EditedAt path t t :=
  ⟨.refl path t, fun _ _ _ => Iff.rfl⟩

theorem EditedAt.symm {t t' : ConfigTree} (h : EditedAt path t t') : EditedAt path t' t :=
  ⟨fun q hbelow habove => (h.outside q hbelow habove).symm,
    fun q hq hne => (h.around q hq hne).symm⟩

theorem EditedAt.here (t t' : ConfigTree) : EditedAt [] t t' :=
  ⟨fun _ hbelow _ => absurd List.nil_prefix hbelow,
    fun _ hq hne => absurd (List.prefix_nil.1 hq) hne⟩

/-- An edit under a key of a table is one of the table. -/
theorem EditedAt.table {key : String} {entries entries' : List (String × ConfigTree)}
    (hrest : ∀ k, k ≠ key → findEntry k entries = findEntry k entries')
    (h : EditedAt path ((table entries).under key) ((table entries').under key)) :
    EditedAt (key :: path) (table entries) (table entries') := by
  constructor
  · intro q hbelow habove
    have hne : q ≠ [] := fun hnil => habove (hnil ▸ List.nil_prefix)
    obtain ⟨k, q, rfl⟩ := List.exists_cons_of_ne_nil hne
    by_cases hk : k = key
    · subst hk
      have hbelow' : ¬path <+: q := fun hpath => hbelow (List.cons_prefix_cons.2 ⟨rfl, hpath⟩)
      have habove' : ¬q <+: path := fun hpath => habove (List.cons_prefix_cons.2 ⟨rfl, hpath⟩)
      have hne : q ≠ [] := fun hnil => habove' (hnil ▸ List.nil_prefix)
      rw [← at?_under k hne, ← at?_under k hne]
      exact h.outside q hbelow' habove'
    · rw [at?, at?, hrest k hk]
  · intro q hq hne
    cases q with
    | nil => simp [LeafAt, at?]
    | cons k q =>
      obtain ⟨rfl, hprefix⟩ := List.cons_prefix_cons.1 hq
      rw [← leafAt_under, ← leafAt_under]
      exact h.around q hprefix fun heq => hne (congrArg _ heq)

theorem EditedAt.hides {t t' : ConfigTree} (h : EditedAt path t t') {q : List String}
    (hbelow : ¬path <+: q) (hhides : t.Hides q) : t'.Hides q := by
  obtain ⟨p, hp, hleaf⟩ := hhides
  refine ⟨p, hp, ?_⟩
  have hbelow' : ¬path <+: p := fun hpath => hbelow (hpath.trans hp)
  by_cases habove : p <+: path
  · exact (h.around p habove fun heq => hbelow' (heq ▸ List.prefix_rfl)).1 hleaf
  · rwa [LeafAt, ← h.outside p hbelow' habove]

theorem AgreeOutside.merge {weak weak' strong strong' : ConfigTree}
    (hweak : AgreeOutside path weak weak') (hstrong : EditedAt path strong strong')
    (hsorted : strong.Sorted) (hsorted' : strong'.Sorted) :
    AgreeOutside path (weak.merge strong) (weak'.merge strong') := by
  intro q hbelow habove
  have hhides : strong.Hides q ↔ strong'.Hides q :=
    ⟨hstrong.hides hbelow, hstrong.symm.hides hbelow⟩
  rw [at?_merge hsorted, at?_merge hsorted', hstrong.outside q hbelow habove,
    hweak q hbelow habove, hhides]

theorem AgreeOutside.under {key : String} {t t' : ConfigTree}
    (h : AgreeOutside (key :: path) t t') : AgreeOutside path (t.under key) (t'.under key) := by
  intro q hbelow habove
  have hne : q ≠ [] := fun hnil => habove (hnil ▸ List.nil_prefix)
  rw [at?_under key hne, at?_under key hne]
  exact h _ (fun hpath => hbelow (List.cons_prefix_cons.1 hpath).2)
    fun hpath => habove (List.cons_prefix_cons.1 hpath).2

theorem AgreeOutside.findEntry_eq {key k : String} {t t' : ConfigTree}
    (h : AgreeOutside (key :: path) t t') (hne : k ≠ key) :
    findEntry k t.entries = findEntry k t'.entries := by
  have hat := h [k] (fun hpath => hne (List.cons_prefix_cons.1 hpath).1.symm)
    fun hpath => hne (List.cons_prefix_cons.1 hpath).1
  have hself (o : Option ConfigTree) : o.bind (at? []) = o := by cases o <;> rfl
  rwa [at?_cons, at?_cons, hself, hself] at hat

/-- From a layer on that has a value at the path, which is no table, nothing differs. -/
theorem merge_eq_of_leafAt {weak weak' strong : ConfigTree} (hweak : weak.Sorted)
    (hweak' : weak'.Sorted) (hstrong : strong.Sorted) (hleaf : strong.LeafAt path)
    (h : AgreeOutside path weak weak') : merge weak strong = merge weak' strong := by
  induction path generalizing weak weak' strong with
  | nil =>
    obtain ⟨v, hv, hleaf⟩ := hleaf
    obtain rfl := Option.some.inj hv
    rw [merge_of_leaf hleaf, merge_of_leaf hleaf]
  | cons key path ih =>
    obtain ⟨v, hv, hleaf⟩ := hleaf
    cases strong with
    | table strong =>
      have hentries := sorted_table_iff.1 hstrong
      obtain ⟨new, hnew, hat⟩ := Option.bind_eq_some_iff.1 hv
      rw [merge_table hentries.increase, merge_table hentries.increase]
      refine congrArg table (KeysIncrease.ext
        ((sorted_entries hweak).merge hentries.values).increase
        ((sorted_entries hweak').merge hentries.values).increase fun k => ?_)
      by_cases hk : k = key
      · subst hk
        rw [findEntry_mergeEntries_of_some hentries hnew,
          findEntry_mergeEntries_of_some hentries hnew]
        exact congrArg some (ih (hweak.under k) (hweak'.under k)
          (sorted_of_findEntry hentries.values hnew) ⟨v, hat, hleaf⟩ h.under)
      · rw [findEntry_mergeEntries hentries.increase, findEntry_mergeEntries hentries.increase,
          h.findEntry_eq hk]
    | _ => cases hv

end ConfigTree

/-! ### All layers -/

namespace Layer

open ConfigTree (AgreeOutside EditedAt)

variable {path : List String} {lower lower' upper : List Layer} {top : Layer}

theorem mergeAll_append (lower upper : List Layer) :
    mergeAll (lower ++ upper) = upper.foldl (fun t l => t.merge l.tree) (mergeAll lower) :=
  List.foldl_append

theorem agreeOutside_mergeAll (hlower : ∀ l ∈ lower, l.tree.Sorted)
    (hlower' : ∀ l ∈ lower', l.tree.Sorted)
    (h : List.Forall₂ (fun l l' => EditedAt path l.tree l'.tree) lower lower') :
    AgreeOutside path (mergeAll lower) (mergeAll lower') := by
  have hfold {t t' : ConfigTree} (ht : AgreeOutside path t t') :
      AgreeOutside path (lower.foldl (fun t l => t.merge l.tree) t)
        (lower'.foldl (fun t l => t.merge l.tree) t') := by
    induction h generalizing t t' with
    | nil => exact ht
    | cons hedit _ ih =>
      obtain ⟨hl, hlower⟩ := List.forall_mem_cons.1 hlower
      obtain ⟨hl', hlower'⟩ := List.forall_mem_cons.1 hlower'
      exact ih hlower hlower' (ht.merge hedit hl hl')
  exact hfold (.refl path _)

theorem mergeAll_eq_of_leafAt (hlower : ∀ l ∈ lower, l.tree.Sorted)
    (hlower' : ∀ l ∈ lower', l.tree.Sorted) (htop : top.tree.Sorted) (hleaf : top.tree.LeafAt path)
    (h : List.Forall₂ (fun l l' => EditedAt path l.tree l'.tree) lower lower') :
    mergeAll (lower ++ top :: upper) = mergeAll (lower' ++ top :: upper) := by
  rw [mergeAll_append, mergeAll_append, List.foldl_cons, List.foldl_cons,
    ConfigTree.merge_eq_of_leafAt (sorted_mergeAll hlower) (sorted_mergeAll hlower') htop hleaf
      (agreeOutside_mergeAll hlower hlower' h)]

/-- What the strongest layer to settle a path has there is what all layers have there. -/
theorem at?_mergeAll (htop : top.tree.Sorted) (hleaf : top.tree.LeafAt path)
    (hupper : ∀ l ∈ upper, l.tree.Sorted) (hsilent : ∀ l ∈ upper, l.tree.Silent path) :
    (mergeAll (lower ++ top :: upper)).at? path = top.tree.at? path := by
  rw [mergeAll_append, List.foldl_cons]
  exact List.foldlRecOn _ _ (motive := fun t : ConfigTree => t.at? path = top.tree.at? path)
    (ConfigTree.at?_merge_of_leafAt htop hleaf)
    fun t ht l hl => (ConfigTree.at?_merge_of_silent (hupper l hl) (hsilent l hl)).trans ht

end Layer

/-! ### What is loaded -/

/-- An error without the place in the source that it points to. -/
def ConfigError.unplaced : ConfigError → ConfigError
  | unknownKey key suggestion valid _ => unknownKey key suggestion valid none
  | e => e

namespace Config

open ConfigTree (EditedAt)

theorem unplaced_misfitError (layers layers' : List Layer) (sources sources' : List ConfigSource)
    (e : DecodeError) :
    (misfitError layers sources e).unplaced = (misfitError layers' sources' e).unplaced := by
  delta misfitError
  cases e.misfit <;> rfl

/-- Layers that say the same together give the same configuration or errors of the same text. -/
theorem mapError_ofLayers {layers layers' : List Layer}
    (h : Layer.mergeAll layers = Layer.mergeAll layers') (sources sources' : List ConfigSource) :
    (ofLayers layers sources).mapError (List.map ConfigError.unplaced) =
      (ofLayers layers' sources').mapError (List.map ConfigError.unplaced) := by
  delta ofLayers
  rw [h]
  cases decoder (Layer.mergeAll layers') with
  | error e =>
    exact congrArg (fun e => Except.error [e])
      (unplaced_misfitError layers layers' sources sources' e)
  | ok c => rfl

/-- Once a layer has a value at a path, which is no table, what weaker layers have at or below the
path is not seen: with anything else in its place the same configuration is loaded, or the same
errors are reported, though they may point elsewhere. What is loaded is read from all layers
together, and if stronger layers leave the path open, that value stands there. -/
theorem load_masked {sources sources' : List ConfigSource} {env : List (String × String)}
    {documents documents' lower lower' upper : List Layer} {top : Layer} {path : List String}
    (hread : readSources sources = .ok documents) (hread' : readSources sources' = .ok documents')
    (hstack : stack documents env = lower ++ top :: upper)
    (hstack' : stack documents' env = lower' ++ top :: upper) (hleaf : top.tree.LeafAt path)
    (hedit : List.Forall₂ (fun l l' => EditedAt path l.tree l'.tree) lower lower') :
    (load sources env).mapError (List.map ConfigError.unplaced) =
      (load sources' env).mapError (List.map ConfigError.unplaced) ∧
    (∀ c, load sources env = .ok c ↔
      decoder (Layer.mergeAll (stack documents env)) = .ok c ∧ c.violations = []) ∧
    ((∀ l ∈ upper, l.tree.Silent path) →
      (Layer.mergeAll (stack documents env)).at? path = top.tree.at? path) := by
  have hsorted := sorted_stack hread env
  have hsorted' := sorted_stack hread' env
  rw [hstack] at hsorted
  rw [hstack'] at hsorted'
  obtain ⟨hlower, htop⟩ := List.forall_mem_append.1 hsorted
  obtain ⟨hlower', -⟩ := List.forall_mem_append.1 hsorted'
  obtain ⟨htop, hupper⟩ := List.forall_mem_cons.1 htop
  have hmerged : Layer.mergeAll (stack documents env) = Layer.mergeAll (stack documents' env) := by
    rw [hstack, hstack']
    exact Layer.mergeAll_eq_of_leafAt hlower hlower' htop hleaf hedit
  refine ⟨?_, fun c => ?_, fun hsilent => ?_⟩
  · rw [load_eq hread, load_eq hread']
    exact mapError_ofLayers hmerged sources sources'
  · rw [load_eq hread]
    exact ofLayers_eq_ok_iff
  · rw [hstack]
    exact Layer.at?_mergeAll htop hleaf hupper hsilent

/-- The document of the user and the local one. -/
def twoFiles (user near : String) : List ConfigSource :=
  [⟨".config/plugboard/plugboard.toml", true, some user⟩, ⟨"plugboard.toml", true, some near⟩]

/-- An array of the local document hides a table of the user's, and what else may stand there. -/
theorem load_masked_array :
    let sources := twoFiles "[settings.a]\nx = 1" "[settings]\na = [2]"
    let sources' := twoFiles "[settings]\na = 3" "[settings]\na = [2]"
    let env := [("PLUGBOARD_DASHBOARD_NAME", "lab")]
    ∃ documents, readSources sources = .ok documents ∧
      (load sources env).mapError (List.map ConfigError.unplaced) =
        (load sources' env).mapError (List.map ConfigError.unplaced) ∧
      (Layer.mergeAll (stack documents env)).at? ["settings", "a"] =
        some (.array [.signed 2]) := by
  have huser : Toml.parse? "[settings.a]\nx = 1" =
      some [("settings", .table [("a", .table [("x", .integer 1)])])] := by
    simp only [Toml.parse?, Toml.sections, String.reduceToList]
    rfl
  have huser' : Toml.parse? "[settings]\na = 3" =
      some [("settings", .table [("a", .integer 3)])] := by
    simp only [Toml.parse?, Toml.sections, String.reduceToList]
    rfl
  have hnear : Toml.parse? "[settings]\na = [2]" =
      some [("settings", .table [("a", .array [.integer 2])])] := by
    simp only [Toml.parse?, Toml.sections, String.reduceToList]
    rfl
  have htree : Environment.tree [("PLUGBOARD_DASHBOARD_NAME", "lab")] =
      .table [("dashboard", .table [("name", .string "lab")])] := rfl
  have hread {user : String} {entries : Toml.Entries} (h : Toml.parse? user = some entries) :
      readSources (twoFiles user "[settings]\na = [2]") =
        .ok [⟨some ".config/plugboard/plugboard.toml", .ofToml (.table entries)⟩,
          ⟨some "plugboard.toml", .table [("settings", .table [("a", .array [.signed 2])])]⟩] := by
    simp only [readSources, twoFiles, List.map, Layer.ofSource, h, hnear]
    rfl
  have hedit : EditedAt ["settings", "a"]
      (.table [("settings", .table [("a", .table [("x", .signed 1)])])])
      (.table [("settings", .table [("a", .signed 3)])]) := by
    refine .table (fun k hk => ?_) (.table (fun k hk => ?_) (.here _ _)) <;>
      simp [findEntry, hk.symm]
  have hstack (tree : ConfigTree) :
      stack [⟨some ".config/plugboard/plugboard.toml", tree⟩,
          ⟨some "plugboard.toml", .table [("settings", .table [("a", .array [.signed 2])])]⟩]
          [("PLUGBOARD_DASHBOARD_NAME", "lab")] =
        [Layer.defaults, ⟨some ".config/plugboard/plugboard.toml", tree⟩] ++
          ⟨some "plugboard.toml", .table [("settings", .table [("a", .array [.signed 2])])]⟩ ::
          [⟨none, .table [("dashboard", .table [("name", .string "lab")])]⟩] := by
    rw [stack, htree]
    rfl
  obtain ⟨hsame, -, hvalue⟩ := load_masked (hread huser) (hread huser') (hstack _) (hstack _)
    ⟨.array [.signed 2], rfl, by simp⟩ (.cons (.refl _ _) (.cons hedit .nil))
  refine ⟨_, hread huser, hsame, hvalue (List.forall_mem_singleton.2 ⟨rfl, fun h => ?_⟩)⟩
  obtain ⟨v, hv, -⟩ := ConfigTree.hides_table_cons.1 h
  cases hv

/-- A date of the local document is merged with a table of the user's, and differs with it. -/
theorem load_mixes_date :
    let near := "[settings]\na = 1979-05-27"
    let user : Toml.Entries := [("settings", .table [("a", .table [("x", .integer 1)])])]
    let user' : Toml.Entries := [("settings", .table [])]
    ∃ d c c', Toml.parse? near = some [("settings", .table [("a", .datetime d)])] ∧
      Toml.parse? "[settings.a]\nx = 1" = some user ∧ Toml.parse? "[settings]" = some user' ∧
      EditedAt ["settings", "a"] (.ofToml (.table user)) (.ofToml (.table user')) ∧
      load (twoFiles "[settings.a]\nx = 1" near) [] = .ok c ∧
      load (twoFiles "[settings]" near) [] = .ok c' ∧
      c.settings.get? "a" =
        some (.object [(Toml.Value.datetimeKey, .string "1979-05-27"), ("x", .integer 1)]) ∧
      c'.settings.get? "a" = some (.object [(Toml.Value.datetimeKey, .string "1979-05-27")]) := by
  have huser : Toml.parse? "[settings.a]\nx = 1" =
      some [("settings", .table [("a", .table [("x", .integer 1)])])] := by
    simp only [Toml.parse?, Toml.sections, String.reduceToList]
    rfl
  have huser' : Toml.parse? "[settings]" = some [("settings", .table [])] := by
    simp only [Toml.parse?, Toml.sections, String.reduceToList]
    rfl
  have hnear : Toml.parse? "[settings]\na = 1979-05-27" =
      some [("settings", .table [("a", .datetime ⟨some ⟨1979, 5, 27⟩, none, none⟩)])] := by
    simp only [Toml.parse?, Toml.sections, String.reduceToList]
    rfl
  have hedit : EditedAt ["settings", "a"]
      (.table [("settings", .table [("a", .table [("x", .signed 1)])])])
      (.table [("settings", .table [])]) := by
    refine .table (fun k hk => ?_) (.table (fun k hk => ?_) (.here _ _)) <;>
      simp [findEntry, hk.symm]
  refine ⟨_, { initial with settings := .ofList [("a", .object
      [(Toml.Value.datetimeKey, .string "1979-05-27"), ("x", .integer 1)])] },
    { initial with settings := .ofList [("a", .object
      [(Toml.Value.datetimeKey, .string "1979-05-27")])] },
    hnear, huser, huser', hedit, ?_, ?_, rfl, rfl⟩
  · simp only [load, readSources, twoFiles, Layer.ofSource, List.map, huser, hnear]
    rfl
  · simp only [load, readSources, twoFiles, Layer.ofSource, List.map, huser', hnear]
    rfl

end Config

end Dashboard
