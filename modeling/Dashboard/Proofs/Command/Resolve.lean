import Dashboard.Proofs.Container.Drive

/-!
# Resolving is asking the resolver

What the command reports is known without running the container: the plugin is the resolver's answer
to the state with the selection put in, its descriptor is the registered one, and the attempts are
counted by comparing that answer with the one to the state as it was.
-/

namespace Dashboard

/-! ### Overrides -/

namespace FeatureFlags

def overriddenBy (f : FeatureFlags) (os : List FlagOverride) : FeatureFlags :=
  os.foldl (fun f o => f.withFlag o.name o.value) f

/-- Overrides are applied when all of them can be read, and the first that cannot is the error. -/
theorem override_eq (f : FeatureFlags) (texts : List String) :
    f.override texts = (texts.mapM FlagOverride.parse).map f.overriddenBy := by
  induction texts generalizing f with
  | nil => rfl
  | cons text texts ih =>
    rw [override, List.mapM_cons]
    cases FlagOverride.parse text with
    | error e => rfl
    | ok o =>
      simp only [ih]
      cases texts.mapM FlagOverride.parse with
      | error e => rfl
      | ok os => rfl

end FeatureFlags

/-! ### What is predicted -/

/-- The state after the user has chosen a plugin, if one is chosen. -/
def Snapshot.choosing (s : Snapshot) (select : Option PluginId) : Snapshot :=
  { s with activation := { s.activation with selection := select.or s.activation.selection } }

namespace Registry

variable {r : Registry} {s s' : Snapshot}

theorem target_congr (h : s.SameChoices s')
    (hselection : s'.activation.selection = s.activation.selection) : r.target s' = r.target s := by
  unfold target
  rw [h.known, h.flags, h.settings, hselection]

theorem resolve_ne_none {known : List PluginId} {flags : FeatureFlags} {settings : Settings}
    {id : PluginId} (h : id ∈ r.eligible known flags settings) (selection : Option PluginId) :
    r.resolve known flags settings selection ≠ none := by
  have hhead : (r.eligible known flags settings).head? ≠ none := by
    intro hnone
    rw [List.head?_eq_none_iff.1 hnone] at h
    cases h
  unfold resolve
  cases selection with
  | none => exact hhead
  | some other =>
    dsimp only
    split
    · simp
    · exact hhead

/-- Where the resolver has no answer, no selection helps. -/
theorem target_choosing_eq_none (h : r.target s = none) (select : Option PluginId) :
    r.target (s.choosing select) = none := by
  cases hchosen : r.target (s.choosing select) with
  | none => rfl
  | some id => exact absurd h (resolve_ne_none (mem_eligible_of_resolve hchosen) _)

/-- What resolving a state comes to. -/
def predicted (r : Registry) (s : Snapshot) (select : Option PluginId) : ResolveOutcome :=
  let first := r.target s
  let final := r.target (s.choosing select)
  let descriptor := final.bind r.get?
  { plugin := final
    displayName := descriptor.map (·.displayName)
    mount := descriptor.map (·.mount)
    generation := if first = none then 0 else if final = first then 1 else 2
    error := none }

end Registry

namespace Config

/-- The loop that drives a new container from a state ends by itself within two rounds, and so does
the one that follows a selection. -/
def LoopsEnd (c : Config) (r : Registry) (s : Snapshot) (select : Option PluginId)
    (order : Flights.Order) : Prop :=
  let fresh := Container.new r Headless.empty c.dashboard.container
  let first := fresh.drive order (.ofSnapshot s)
  (∃ n ≤ 2, Container.Drives n (fresh, .ofSnapshot s) first) ∧
    ∀ id, select = some id →
      let store := first.2.dispatch (.selected id)
      ∃ n ≤ 2, Container.Drives n (first.1, store) (first.1.drive order store)

theorem apply_selected (s : Snapshot) (id : PluginId) :
    (s.apply (.selected id)).activation.selection = some id ∧
      s.SameChoices (s.apply (.selected id)) := by
  simp only [Snapshot.apply, Snapshot.reduce]
  split
  · rename_i hselection
    exact ⟨hselection, .refl s⟩
  · exact ⟨rfl, rfl, rfl, rfl⟩

theorem outcomeOf_eq {r : Registry} {container : Container Headless} {plugin : Option PluginId}
    {n : Nat} (hplugin : container.phase.plugin? = plugin) (hgeneration : container.generation = n)
    (herror : container.lastError = none) :
    outcomeOf r container =
      { plugin := plugin
        displayName := (plugin.bind r.get?).map (·.displayName)
        mount := (plugin.bind r.get?).map (·.mount)
        generation := n
        error := none } := by
  rw [outcomeOf, hplugin, hgeneration, herror]

/-- Both loops end by themselves within two rounds, and the container then shows what the resolver
says. -/
theorem outcome_driveSelection (c : Config) (r : Registry) (s : Snapshot)
    (select : Option PluginId) (order : Flights.Order) :
    c.LoopsEnd r s select order ∧
      outcomeOf r (c.driveSelection r s select order) = r.predicted s select := by
  have hnew : Container.Rests _ (MemoryStore.ofSnapshot s).snapshot :=
    Container.rests_new r c.dashboard.container s
  obtain ⟨hends, hfirst⟩ := hnew.driven order
  dsimp only [LoopsEnd, driveSelection]
  generalize Container.drive _ order _ = first at hends hfirst
  obtain ⟨container, store⟩ := first
  obtain ⟨hrests, hplugin, hgeneration, hregistry, hchoices⟩ := hfirst
  have hgeneration : container.generation = 0 + if r.target s = none then 0 else 1 := hgeneration
  have hplugin : container.phase.plugin? = r.target s := hplugin
  cases select with
  | none =>
    refine ⟨⟨hends, fun _ hnone => nomatch hnone⟩, outcomeOf_eq hplugin ?_ hrests.lastError⟩
    have hsame : s.choosing none = s := rfl
    rw [hgeneration, hsame]
    by_cases hnone : r.target s = none
    · rw [if_pos hnone, if_pos hnone]
    · rw [if_neg hnone, if_neg hnone, if_pos rfl]
  | some id =>
    obtain ⟨hselection, hselected⟩ := apply_selected store.snapshot id
    rw [← store.snapshot_dispatch] at hselection hselected
    obtain ⟨hendsAgain, hsecond⟩ := (hrests.congr hselected).driven order
    have hfinal : container.registry.target (store.dispatch (.selected id)).snapshot =
        r.target (s.choosing (some id)) := by
      have hunchosen : (s.choosing (some id)).SameChoices s := ⟨rfl, rfl, rfl⟩
      have hkept : s.SameChoices (store.dispatch (.selected id)).snapshot :=
        hchoices.trans hselected
      rw [hregistry]
      exact Registry.target_congr (hunchosen.trans hkept) hselection
    refine ⟨⟨hends, fun id' hid' => ?_⟩,
      outcomeOf_eq (hsecond.plugin.trans hfinal) ?_ hsecond.rests.lastError⟩
    · cases hid'
      exact hendsAgain
    · rw [hsecond.generation, hfinal, hplugin, hgeneration]
      by_cases hnone : r.target s = none
      · rw [Registry.target_choosing_eq_none hnone, hnone]
        rfl
      · rw [if_neg hnone, if_neg hnone]
        by_cases hmoved : r.target (s.choosing (some id)) = r.target s
        · rw [if_pos hmoved, if_pos hmoved]
        · rw [if_neg hmoved, if_neg hmoved]

/-- The state to resolve, given the overrides of flags. -/
def overridden (c : Config) (r : Registry) (os : List FlagOverride) : Snapshot :=
  { c.initialSnapshot r.ids with flags := (c.initialSnapshot r.ids).flags.overriddenBy os }

/-- The command reports what the resolver says, unless an override cannot be read or, if all can,
the selection is not registered; and the plugin that it reports has a descriptor. Its loops end by
themselves, in whatever order the runtime polls mounts. -/
theorem resolve_eq_predicted (c : Config) (r : Registry) (o : ResolveOptions)
    (order : Flights.Order) :
    (c.resolve r o order =
      match o.flags.mapM FlagOverride.parse, o.select with
      | .error e, _ => .error (.flag e)
      | .ok os, none => .ok (r.predicted (c.overridden r os) none)
      | .ok os, some id =>
        if r.contains ⟨id⟩ then .ok (r.predicted (c.overridden r os) (some ⟨id⟩))
        else .error (.unknownPlugin id)) ∧
    (∀ s select, ((r.predicted s select).plugin.bind r.get?).map Descriptor.id =
      (r.predicted s select).plugin) ∧
    ∀ s select, c.LoopsEnd r s select order := by
  refine ⟨?_, fun s select => ?_, fun s select => (c.outcome_driveSelection r s select order).1⟩
  · have hsnapshot : c.resolveSnapshot r o.flags =
        (o.flags.mapM FlagOverride.parse).map (c.overridden r) := by
      simp only [resolveSnapshot, FeatureFlags.override_eq]
      cases o.flags.mapM FlagOverride.parse <;> rfl
    rw [resolve, hsnapshot]
    cases o.flags.mapM FlagOverride.parse with
    | error e => rfl
    | ok os => cases o.select <;> simp only [Except.map, (outcome_driveSelection ..).2]
  · cases htarget : r.target (s.choosing select) with
    | none => rw [Registry.predicted, htarget]; rfl
    | some id =>
      obtain ⟨d, hd, rfl⟩ := Registry.exists_get?_of_target htarget
      simp only [Registry.predicted, htarget, Option.bind_some, hd, Option.map_some]

/-- The bundle of the selected plugin is the second thing to be mounted. -/
example :
    let r : Registry := .plain (.bundle "bundle.js") [⟨"a"⟩, ⟨"b"⟩] (by decide)
    Config.initial.resolve r ⟨some "b", ["beta"]⟩ .newestFirst =
      .ok ⟨some ⟨"b"⟩, some "b", some (.bundle "bundle.js"), 2, none⟩ := by
  rfl

end Config

end Dashboard
