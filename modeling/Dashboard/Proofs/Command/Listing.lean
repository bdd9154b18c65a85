import Dashboard.Command.Listing
import Dashboard.Proofs.Command.Resolve

/-!
# The listing and the resolver

A listing works out by itself which plugins are enabled and known, and marks the ones that are both
as available. Those are the plugins the resolver chooses from, in the same order, so that what is
mounted in the end can be read off the listing.
-/

namespace Dashboard

namespace Config

variable {c : Config} {r : Registry}

/-- The rows of the plugins that a listing marks as available. -/
def availableRows (c : Config) (r : Registry) : List ListingRow :=
  (c.listing r).filter ListingRow.isAvailable

/-- The available row of the selection that the configuration restores, if there is one, and
otherwise the first available row. -/
def leadingRow? (c : Config) (r : Registry) : Option ListingRow :=
  let rows := c.availableRows r
  (rows.find? fun row => c.activation.lastSelection == some row.id.text).or rows.head?

theorem ids_availableRows (c : Config) (r : Registry) :
    (c.availableRows r).map (·.id) = r.eligibleIn (c.initialSnapshot r.ids) := by
  rw [availableRows, listing, List.filter_map, List.map_map, Registry.eligibleIn, Registry.eligible]
  refine congrArg (List.map Descriptor.id) (List.filter_congr fun d _ => ?_)
  exact Bool.and_comm _ _

/-- A row says of its plugin what the registry does. -/
theorem get?_of_mem_availableRows {row : ListingRow} (h : row ∈ c.availableRows r) :
    ∃ d, r.get? row.id = some d ∧ d.displayName = row.displayName ∧ d.mount = row.mount := by
  obtain ⟨d, hd, rfl⟩ := List.mem_map.1 (List.mem_of_mem_filter h)
  exact ⟨d, Registry.mem_descriptors.1 hd, rfl, rfl⟩

theorem mem_availableRows_of_leadingRow? {row : ListingRow} (h : c.leadingRow? r = some row) :
    row ∈ c.availableRows r := by
  rcases Option.or_eq_some_iff.1 h with hfound | ⟨-, hfirst⟩
  · exact List.mem_of_find?_eq_some hfound
  · exact List.mem_of_head? hfirst

/-- The resolver's answer to the configured state is the plugin of the leading row. -/
theorem target_initialSnapshot (c : Config) (r : Registry) :
    r.target (c.initialSnapshot r.ids) = (c.leadingRow? r).map (·.id) := by
  have hids := ids_availableRows c r
  have hselection : (c.initialSnapshot r.ids).activation.selection =
      c.activation.lastSelection.map PluginId.mk := rfl
  rw [leadingRow?]
  cases hfound : (c.availableRows r).find?
      fun row => c.activation.lastSelection == some row.id.text with
  | some row =>
    have hrow : c.activation.lastSelection = some row.id.text := by
      simpa using List.find?_some hfound
    have hmem : row.id ∈ r.eligibleIn (c.initialSnapshot r.ids) :=
      hids ▸ List.mem_map_of_mem (List.mem_of_find?_eq_some hfound)
    rw [hrow] at hselection
    exact Registry.target_of_selection hselection hmem
  | none =>
    rw [Option.none_or, ← List.head?_map, hids]
    apply Registry.resolve_of_not_mem_eligible
    intro id hid hmem
    have hrows : id ∈ (c.availableRows r).map (·.id) := by
      rw [hids]
      exact hmem
    obtain ⟨row, hrow, rfl⟩ := List.mem_map.1 hrows
    rw [hselection, Option.map_eq_some_iff] at hid
    obtain ⟨text, htext, htexts⟩ := hid
    have hother := List.find?_eq_none.1 hfound row hrow
    rw [htext, ← htexts] at hother
    exact hother (beq_self_eq_true _)

/-- What is available according to the listing is what the resolver may choose from, and what ends
up mounted, unless something else is asked for, is the plugin of the leading row. -/
theorem listing_agrees (c : Config) (r : Registry) (order : Flights.Order) :
    (c.availableRows r).map (·.id) = r.eligibleIn (c.initialSnapshot r.ids) ∧
    ∃ outcome, c.resolve r ⟨none, []⟩ order = .ok outcome ∧
      outcome.plugin = (c.leadingRow? r).map (·.id) ∧
      outcome.displayName = (c.leadingRow? r).map (·.displayName) ∧
      outcome.mount = (c.leadingRow? r).map (·.mount) := by
  refine ⟨ids_availableRows c r, r.predicted (c.initialSnapshot r.ids) none, ?_, ?_, ?_⟩
  · exact congrArg Except.ok (outcome_driveSelection c r (c.initialSnapshot r.ids) none order).2
  · exact target_initialSnapshot c r
  · have htarget : r.target ((c.initialSnapshot r.ids).choosing none) = _ :=
      target_initialSnapshot c r
    rw [Registry.predicted, htarget]
    cases hrow : c.leadingRow? r with
    | none => exact ⟨rfl, rfl⟩
    | some row =>
      obtain ⟨d, hd, hname, hmount⟩ :=
        get?_of_mem_availableRows (mem_availableRows_of_leadingRow? hrow)
      simp [hd, hname, hmount]

/-- The restored selection leads, whatever else is known and registered before it. -/
example :
    let c := { Config.initial with activation := ⟨some "b", ["b", "gone", "a"]⟩ }
    let r : Registry := .plain .none [⟨"a"⟩, ⟨"c"⟩, ⟨"b"⟩] (by decide)
    (c.availableRows r).map (·.id.text) = ["a", "b"] ∧
      (c.leadingRow? r).map (·.id.text) = some "b" := by
  decide

end Config

end Dashboard
