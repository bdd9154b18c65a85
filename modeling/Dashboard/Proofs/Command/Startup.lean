import Dashboard.Command.Program
import Dashboard.Proofs.Plugin.Sharing

/-!
# What a startup leaves behind

The startup goes through the manifests one by one and stops at the first that fails. So the shared
table ends as the catalog followed by the plugins of the manifests before that one, or of all of
them. As the catalog comes first, no manifest can take the place of a built-in plugin as the
default.
-/

namespace Dashboard

/-! ### Manifests that pass and manifests that fail -/

/-- Every manifest gives its plugin, and no identifier occurs twice among these and what is already
registered. -/
structure Admits (registered : List PluginId) (files : List ManifestFile) (ds : List Descriptor) :
    Prop where
  loaded : files.map ManifestFile.descriptor = ds.map .ok
  distinct : (registered ++ ds.map Descriptor.id).Nodup

/-- Why a manifest fails: it cannot be read or is not accepted, or its plugin has an identifier that
is taken. -/
inductive Refuses (registered : List PluginId) (f : ManifestFile) : StartupError → Prop where
  | unreadable {e : ReadError} (h : f.content = .error e) :
    Refuses registered f (.unreadable f.path e)
  | invalid {text : String} {e : ManifestError} (htext : f.content = .ok text)
    (h : Manifest.parse text = .error e) : Refuses registered f (.manifest e)
  | taken {d : Descriptor} (h : f.descriptor = .ok d) (hid : d.id ∈ registered) :
    Refuses registered f (.registration (.duplicateId d.id))

theorem ManifestFile.descriptor_of_parse {f : ManifestFile} {text : String} {m : Manifest}
    (hcontent : f.content = .ok text) (hparse : Manifest.parse text = .ok m) :
    f.descriptor = .ok m.toDescriptor := by
  simp only [descriptor, hcontent, hparse]

theorem refuses_of_descriptor {registered : List PluginId} {f : ManifestFile} {e : StartupError}
    (h : f.descriptor = .error e) : Refuses registered f e := by
  unfold ManifestFile.descriptor at h
  split at h
  · cases h
    exact .unreadable ‹_›
  · split at h
    · cases h
      exact .invalid ‹_› ‹_›
    · cases h

theorem Admits.cons {registered : List PluginId} {f : ManifestFile} {files : List ManifestFile}
    {d : Descriptor} {ds : List Descriptor} (hf : f.descriptor = .ok d)
    (h : Admits (registered ++ [d.id]) files ds) : Admits registered (f :: files) (d :: ds) where
  loaded := by rw [List.map_cons, List.map_cons, hf, h.loaded]
  distinct := by simpa using h.distinct

theorem Admits.exists_cons {registered : List PluginId} {f : ManifestFile}
    {files : List ManifestFile} {ds : List Descriptor} (h : Admits registered (f :: files) ds) :
    ∃ d ds', ds = d :: ds' ∧ f.descriptor = .ok d ∧ d.id ∉ registered ∧
      Admits (registered ++ [d.id]) files ds' := by
  obtain ⟨hloaded, hdistinct⟩ := h
  cases ds with
  | nil => cases hloaded
  | cons d ds' =>
    obtain ⟨hd, hds⟩ := List.cons.inj hloaded
    have hnew : d.id ∉ registered := fun hid =>
      (List.nodup_append.1 hdistinct).2.2 d.id hid d.id (by simp) rfl
    exact ⟨d, ds', rfl, hd, hnew, hds, by simpa using hdistinct⟩

/-- Either all manifests pass, or there is a first one that fails. -/
theorem admits_or_refuses {registered : List PluginId} (hregistered : registered.Nodup)
    (files : List ManifestFile) :
    (∃ ds, Admits registered files ds) ∨
      ∃ before f after ds e, files = before ++ f :: after ∧ Admits registered before ds ∧
        Refuses (registered ++ ds.map Descriptor.id) f e := by
  have hnone : Admits registered [] [] := ⟨rfl, by simpa using hregistered⟩
  induction files generalizing registered with
  | nil => exact .inl ⟨[], hnone⟩
  | cons f files ih =>
    cases hf : f.descriptor with
    | error e =>
      exact .inr ⟨[], f, files, [], e, rfl, hnone, refuses_of_descriptor hf⟩
    | ok d =>
      by_cases hid : d.id ∈ registered
      · exact .inr ⟨[], f, files, [], _, rfl, hnone, .taken hf (by simpa using hid)⟩
      · have hnext : (registered ++ [d.id]).Nodup := by
          rw [List.nodup_append]
          refine ⟨hregistered, by simp, fun a ha b hb hab => hid ?_⟩
          rwa [← List.mem_singleton.1 hb, ← hab]
        rcases ih hnext ⟨rfl, by simpa using hnext⟩ with
          ⟨ds, hds⟩ | ⟨before, g, after, ds, e, rfl, hds, hg⟩
        · exact .inl ⟨d :: ds, hds.cons hf⟩
        · exact .inr ⟨f :: before, g, after, d :: ds, e, rfl, hds.cons hf, by simpa using hg⟩

namespace Registry

/-! ### A table of one's own -/

theorem registerAll_of_distinct {r : Registry} {ds : List Descriptor}
    (h : (r.ids ++ ds.map Descriptor.id).Nodup) :
    ∃ r', r.registerAll ds = (r', .ok ()) ∧ r'.descriptors = r.descriptors ++ ds := by
  induction ds generalizing r with
  | nil => exact ⟨r, rfl, by simp⟩
  | cons d ds ih =>
    have hd : d.id ∉ r.ids := fun hid =>
      (List.nodup_append.1 h).2.2 d.id hid d.id (by simp) rfl
    obtain ⟨r', hall, hdescriptors⟩ := ih (r := r.add d hd) (by simpa [add] using h)
    refine ⟨r', ?_, ?_⟩
    · rw [registerAll, register_of_not_mem hd]
      exact hall
    · rw [hdescriptors, descriptors_add, List.append_assoc, List.singleton_append]

theorem registerManifests_of_admits {r : Registry} {files : List ManifestFile}
    {ds : List Descriptor} (h : Admits r.ids files ds) (rest : List ManifestFile) :
    ∃ r' : Registry, r.registerManifests (files ++ rest) = r'.registerManifests rest ∧
      r'.ids = r.ids ++ ds.map Descriptor.id ∧ r'.descriptors = r.descriptors ++ ds := by
  induction files generalizing r ds with
  | nil =>
    obtain rfl : ds = [] := List.map_eq_nil_iff.1 h.loaded.symm
    exact ⟨r, rfl, by simp, by simp⟩
  | cons f files ih =>
    obtain ⟨d, ds', rfl, hf, hnew, hfiles⟩ := h.exists_cons
    obtain ⟨r', hrest, hids, hdescriptors⟩ := ih (r := r.add d hnew) hfiles
    refine ⟨r', ?_, ?_, ?_⟩
    · rw [← hrest, List.cons_append, registerManifests, registerManifest, hf]
      dsimp only
      rw [register_of_not_mem hnew]
      rfl
    · simp [hids, add]
    · rw [hdescriptors, descriptors_add, List.append_assoc, List.singleton_append]

theorem registerManifests_of_refuses {r : Registry} {f : ManifestFile} {e : StartupError}
    (h : Refuses r.ids f e) (rest : List ManifestFile) :
    r.registerManifests (f :: rest) = (r, .error e) := by
  rw [registerManifests, registerManifest]
  cases h with
  | unreadable h => rw [ManifestFile.descriptor, h]
  | invalid htext h =>
    rw [ManifestFile.descriptor, htext]
    dsimp only
    rw [h]
  | taken h hid =>
    rw [h]
    dsimp only
    rw [register_of_mem hid]
    rfl

theorem nodup_catalog : (catalog.map Descriptor.id).Nodup := by decide

/-- The catalog can be registered in a new table. -/
theorem registerCatalog_empty : ∃ r : Registry, empty.registerCatalog = (r, .ok catalog.length) ∧
    r.ids = catalog.map Descriptor.id ∧ r.descriptors = catalog := by
  have hdistinct : (empty.ids ++ catalog.map Descriptor.id).Nodup := nodup_catalog
  obtain ⟨r, hall, hdescriptors⟩ := registerAll_of_distinct hdistinct
  have hcatalog : r.descriptors = catalog := hdescriptors
  refine ⟨r, ?_, ?_, hcatalog⟩
  · simp only [registerCatalog, hall]
    rfl
  · rw [← map_id_descriptors, hcatalog]

/-- A startup in a new table registers the catalog and the manifests that pass, and goes on with the
others. -/
theorem startup_of_admits {files : List ManifestFile} {ds : List Descriptor}
    (h : Admits (catalog.map Descriptor.id) files ds) (rest : List ManifestFile) :
    ∃ r : Registry, empty.startup (files ++ rest) = r.registerManifests rest ∧
      r.ids = catalog.map Descriptor.id ++ ds.map Descriptor.id ∧
      r.descriptors = catalog ++ ds := by
  obtain ⟨start, hregister, hids, hdescriptors⟩ := registerCatalog_empty
  obtain ⟨r, hrun, hrids, hrdescriptors⟩ :=
    registerManifests_of_admits (r := start) (by rwa [hids]) rest
  refine ⟨r, ?_, by rw [hrids, hids], by rw [hrdescriptors, hdescriptors]⟩
  rw [startup, hregister]
  exact hrun

end Registry

/-! ### The shared table -/

namespace Shared

theorem current_registerManifests (s : Shared) (files : List ManifestFile) :
    ((s.registerManifests files).1.current, (s.registerManifests files).2) =
      s.current.registerManifests files := by
  induction files generalizing s with
  | nil => rfl
  | cons f files ih =>
    rw [registerManifests, Registry.registerManifests, Registry.registerManifest]
    cases f.descriptor with
    | error e => rfl
    | ok d =>
      have hregister := current_register s d
      unfold Registry.tryRegister at hregister
      dsimp only
      generalize s.register d = made at hregister
      obtain ⟨s', outcome⟩ := made
      cases htable : s.current.register d with
      | ok r =>
        rw [htable] at hregister
        obtain ⟨rfl, rfl⟩ := Prod.mk.inj hregister
        exact ih s'
      | error e =>
        rw [htable] at hregister
        obtain ⟨hcurrent, rfl⟩ := Prod.mk.inj hregister
        rw [← hcurrent]
        rfl

/-- A startup that no other thread gets in the way of is one in the published table, and answers
with what is published in the end. -/
theorem current_startup (s : Shared) (files : List ManifestFile) :
    (s.startup files).1.current = (s.current.startup files).1 ∧
      (s.startup files).2 =
        (s.current.startup files).2.map fun _ => (s.startup files).1.current := by
  have hcatalog := current_registerCatalog s
  rw [startup, Registry.startup]
  generalize s.registerCatalog = made at hcatalog
  obtain ⟨s', outcome⟩ := made
  rw [← hcatalog]
  cases outcome with
  | error e => exact ⟨rfl, rfl⟩
  | ok n =>
    have hmanifests := current_registerManifests s' files
    dsimp only
    rw [← hmanifests]
    generalize s'.registerManifests files = made
    obtain ⟨s'', outcome⟩ := made
    cases outcome <;> exact ⟨rfl, rfl⟩

end Shared

/-! ### The default -/

/-- Whether a registered plugin may be shown in a state. -/
def Descriptor.isEligibleIn (d : Descriptor) (s : Snapshot) : Bool :=
  s.activation.known.contains d.id && d.isEnabled s.flags s.settings

/-- Without an eligible selection the first eligible plugin is shown. -/
theorem Registry.target_of_not_selected {r : Registry} {s : Snapshot}
    (h : ∀ id, s.activation.selection = some id → id ∉ r.eligibleIn s) :
    r.target s = (r.descriptors.find? (·.isEligibleIn s)).map Descriptor.id := by
  have hhead : (r.eligibleIn s).head? =
      (r.descriptors.find? (·.isEligibleIn s)).map Descriptor.id := by
    rw [eligibleIn, eligible, List.head?_map, List.head?_filter]
    rfl
  rw [← hhead]
  exact resolve_of_not_mem_eligible h

/-! ### Every startup -/

/-- Starting from an empty shared table. When all manifests pass, the table is the catalog followed
by their plugins. Otherwise the error is that of the first manifest that fails, and the table holds
the catalog and the plugins of those before it. After a startup that succeeded, a built-in plugin is
the default whenever one is eligible. -/
theorem startup_exact (access : FileAccess) (c : Config) (extra : List String) :
    let files := Program.manifestFiles access c extra
    let ended := Shared.new.startup files
    let builtin := catalog.map Descriptor.id
    ((∃ ds, Admits builtin files ds) ∨
      ∃ before f after ds e, files = before ++ f :: after ∧ Admits builtin before ds ∧
        Refuses (builtin ++ ds.map Descriptor.id) f e) ∧
    (∀ ds, Admits builtin files ds →
      ended.2 = .ok ended.1.current ∧ ended.1.current.descriptors = catalog ++ ds ∧
        ended.1.list = builtin ++ ds.map Descriptor.id) ∧
    (∀ before f after ds e, files = before ++ f :: after → Admits builtin before ds →
      Refuses (builtin ++ ds.map Descriptor.id) f e →
      ended.2 = .error e ∧ ended.1.current.descriptors = catalog ++ ds ∧
        ended.1.list = builtin ++ ds.map Descriptor.id) ∧
    ∀ r s, ended.2 = .ok r →
      (∀ id, s.activation.selection = some id → id ∉ r.eligibleIn s) →
      (∃ d ∈ catalog, d.isEligibleIn s = true) →
      r.target s = (catalog.find? (·.isEligibleIn s)).map Descriptor.id := by
  intro files ended builtin
  obtain ⟨hcurrent, houtcome⟩ := Shared.current_startup .new files
  change ended.1.current = (Registry.empty.startup files).1 at hcurrent
  change ended.2 = (Registry.empty.startup files).2.map fun _ => ended.1.current at houtcome
  have hcases := admits_or_refuses Registry.nodup_catalog files
  have hpasses : ∀ ds, Admits builtin files ds →
      ended.2 = .ok ended.1.current ∧ ended.1.current.descriptors = catalog ++ ds ∧
        ended.1.list = builtin ++ ds.map Descriptor.id := by
    intro ds hds
    obtain ⟨r, hrun, hids, hdescriptors⟩ := Registry.startup_of_admits hds []
    rw [List.append_nil] at hrun
    rw [hrun] at hcurrent houtcome
    obtain rfl : ended.1.current = r := hcurrent
    exact ⟨houtcome, hdescriptors, hids⟩
  have hfails : ∀ before f after ds e, files = before ++ f :: after → Admits builtin before ds →
      Refuses (builtin ++ ds.map Descriptor.id) f e →
      ended.2 = .error e ∧ ended.1.current.descriptors = catalog ++ ds ∧
        ended.1.list = builtin ++ ds.map Descriptor.id := by
    intro before f after ds e hfiles hds hf
    obtain ⟨r, hrun, hids, hdescriptors⟩ := Registry.startup_of_admits hds (f :: after)
    rw [hfiles, hrun, Registry.registerManifests_of_refuses (hids ▸ hf)] at hcurrent houtcome
    obtain rfl : ended.1.current = r := hcurrent
    exact ⟨houtcome, hdescriptors, hids⟩
  refine ⟨hcases, hpasses, hfails, ?_⟩
  intro r s hr hselection hbuiltin
  -- A startup that succeeded had no manifest that failed.
  obtain ⟨ds, hds⟩ : ∃ ds, Admits builtin files ds := by
    rcases hcases with hds | ⟨before, f, after, ds, e, hfiles, hds, hf⟩
    · exact hds
    · rw [(hfails before f after ds e hfiles hds hf).1] at hr
      cases hr
  obtain ⟨hok, hall, -⟩ := hpasses ds hds
  obtain rfl : ended.1.current = r := Except.ok.inj (hok.symm.trans hr)
  rw [Registry.target_of_not_selected hselection, hall, List.find?_append]
  obtain ⟨d, hd⟩ := Option.isSome_iff_exists.1 (List.find?_isSome.2 hbuiltin)
  rw [hd, Option.some_or]

/-- A manifest file in the working directory that only names its plugin. -/
def ManifestFile.naming (id : String) : ManifestFile :=
  ⟨id ++ ".toml", .ok ("[plugin]\nid = \"" ++ id ++ "\"\nmount = \"none\"\n")⟩

/-- The file system that holds just some manifests. -/
def FileAccess.ofManifests (files : List ManifestFile) : FileAccess :=
  .ofContents (files.map fun f => (f.path, f.content))

/-- One configured manifest passes, and a further one has the identifier of a built-in plugin.
Without the further one, the plugin of the first manifest is not the default although it is known
and comes first in the listing of known plugins. -/
theorem startup_exact_taken :
    let access := FileAccess.ofManifests [.naming "own", .naming "text"]
    let c := { Config.initial with manifests := ["own.toml"] }
    let s := Snapshot.ofActivation ⟨[⟨"own"⟩, ⟨"images"⟩], none, none⟩
    (∃ r, (Shared.new.startup (Program.manifestFiles access c [])).2 = .ok r ∧
      r.ids = catalog.map Descriptor.id ++ [⟨"own"⟩] ∧ r.target s = some ⟨"images"⟩) ∧
    let ended := Shared.new.startup (Program.manifestFiles access c ["text.toml"])
    ended.2 = .error (.registration (.duplicateId ⟨"text"⟩)) ∧
      ended.1.list = catalog.map Descriptor.id ++ [⟨"own"⟩] := by
  intro access c s
  have hconfigured : Program.manifestFiles access c [] = [.naming "own"] := rfl
  have hmore : Program.manifestFiles access c ["text.toml"] = [.naming "own", .naming "text"] := rfl
  have hown : (ManifestFile.naming "own").descriptor =
      .ok { id := ⟨"own"⟩, displayName := "own" } :=
    ManifestFile.descriptor_of_parse (m := ⟨⟨"own"⟩, "own", .none, none, none, false, none⟩) rfl
      (by decide +kernel)
  have htext : (ManifestFile.naming "text").descriptor =
      .ok { id := ⟨"text"⟩, displayName := "text" } :=
    ManifestFile.descriptor_of_parse (m := ⟨⟨"text"⟩, "text", .none, none, none, false, none⟩) rfl
      (by decide +kernel)
  have hpasses : Admits (catalog.map Descriptor.id) [.naming "own"]
      [{ id := ⟨"own"⟩, displayName := "own" }] :=
    ⟨by rw [List.map_singleton, hown, List.map_singleton], by decide⟩
  obtain ⟨-, hall, -, hdefault⟩ := startup_exact access c []
  obtain ⟨-, -, hfirst, -⟩ := startup_exact access c ["text.toml"]
  rw [hconfigured] at hall hdefault ⊢
  rw [hmore] at hfirst ⊢
  obtain ⟨hok, -, hlist⟩ := hall _ hpasses
  obtain ⟨herror, -, hlist'⟩ := hfirst _ _ [] _ _ rfl hpasses (.taken htext (by decide))
  refine ⟨⟨_, hok, hlist, ?_⟩, herror, hlist'⟩
  exact hdefault _ s hok (fun id hid => by cases hid) ⟨catalog[1], by simp [catalog], by decide⟩

end Dashboard
