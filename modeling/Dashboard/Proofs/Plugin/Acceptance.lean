import Dashboard.Plugin.Manifest
import Dashboard.Proofs.Plugin.Gates
import Dashboard.Proofs.Toml.Keys

/-!
# Accepting a manifest

A manifest whose section has the right types is accepted exactly if the section passes four checks:
its identifier, the kind of mount, the text that this kind needs, and the version of the host. The
first check that fails gives the error. What is accepted carries over what the section says, and the
plugin is enabled when every gate that the section declares is open.
-/

namespace Dashboard

open Data

/-- The words for the kinds of mount are in lower case. -/
theorem MountKind.eqIgnoringCase_name (s : String) (kind : MountKind) :
    Text.eqIgnoringCase s kind.name = true ↔ Text.lowerAscii s = kind.name := by
  have hname : Text.lowerAscii kind.name = kind.name := by cases kind <;> decide
  rw [Text.eqIgnoringCase, beq_iff_eq, hname]

theorem MountKind.ofText?_eq_some_iff {s : String} {kind : MountKind} :
    ofText? s = some kind ↔ Text.lowerAscii s = kind.name := by
  have hinj {k k' : MountKind} (h : k.name = k'.name) : k = k' := by
    cases k <;> cases k' <;> first | rfl | exact absurd h (by decide)
  have hfound {k : MountKind} (h : ofText? s = some k) : Text.lowerAscii s = k.name :=
    (eqIgnoringCase_name s k).1
      (List.find?_some (p := fun k : MountKind => Text.eqIgnoringCase s k.name) h)
  refine ⟨hfound, fun h => ?_⟩
  cases hkind : ofText? s with
  | none =>
    have hmissed := List.find?_eq_none.1 hkind kind kind.mem_all
    exact absurd ((eqIgnoringCase_name s kind).2 h) hmissed
  | some found => exact congrArg some (hinj ((hfound hkind).symm.trans h))

/-- The one text that a mount point holds. -/
def MountPoint.text? : MountPoint → Option String
  | element elementName => some elementName
  | iframe modulePath => some modulePath
  | bundle url => some url
  | none => .none

namespace ManifestSection

/-! ### Sections as they are written -/

/-- The values that the section has under its keys. -/
inductive Holds (s : ManifestSection) : String → Toml.Value → Prop
  | id : s.Holds "id" (.string s.id)
  | displayName {text : String} (h : s.displayName = some text) :
    s.Holds "display_name" (.string text)
  | mount : s.Holds "mount" (.string s.mount)
  | elementName {text : String} (h : s.elementName = some text) :
    s.Holds "element_name" (.string text)
  | modulePath {text : String} (h : s.modulePath = some text) :
    s.Holds "module_path" (.string text)
  | url {text : String} (h : s.url = some text) : s.Holds "url" (.string text)
  | requiresFlag {text : String} (h : s.requiresFlag = some text) :
    s.Holds "requires_flag" (.string text)
  | requiresSetting {text : String} (h : s.requiresSetting = some text) :
    s.Holds "requires_setting" (.string text)
  | experimental : s.Holds "experimental" (.boolean s.experimental)
  | minHostVersion {text : String} (h : s.minHostVersion = some text) :
    s.Holds "min_host_version" (.string text)

/-- The entries of a table are the section, in any order. Only `experimental = false` may be left
out. -/
structure IsWritten (s : ManifestSection) (fields : Toml.Entries) : Prop where
  holds : ∀ e ∈ fields, s.Holds e.1 e.2
  complete : ∀ {key v}, s.Holds key v → (key, v) ∈ fields ∨ v = .boolean false

/-- The part of the section under the given keys. -/
def part (s : ManifestSection) (keys : List String) : ManifestSection where
  id := if "id" ∈ keys then s.id else ""
  displayName := if "display_name" ∈ keys then s.displayName else none
  mount := if "mount" ∈ keys then s.mount else ""
  elementName := if "element_name" ∈ keys then s.elementName else none
  modulePath := if "module_path" ∈ keys then s.modulePath else none
  url := if "url" ∈ keys then s.url else none
  requiresFlag := if "requires_flag" ∈ keys then s.requiresFlag else none
  requiresSetting := if "requires_setting" ∈ keys then s.requiresSetting else none
  experimental := if "experimental" ∈ keys then s.experimental else false
  minHostVersion := if "min_host_version" ∈ keys then s.minHostVersion else none

/-- Reading an entry adds what stands under its key. -/
theorem read_part {s : ManifestSection} {key : String} {v : Toml.Value} (h : s.Holds key v)
    (keys : List String) :
    ∃ f, (layout (σ := Toml.Value)).field? key = some f ∧
      f.read v (s.part keys) = .ok (s.part (key :: keys)) := by
  cases h <;> refine ⟨_, rfl, (Field.read_of (by rfl) _).trans ?_⟩ <;> simp [part, *]

theorem readEntries_part {s : ManifestSection} {fields : Toml.Entries}
    (h : ∀ e ∈ fields, s.Holds e.1 e.2) (keys : List String) :
    layout.readEntries (s.part keys) fields =
      .ok (s.part ((fields.map (·.1)).reverse ++ keys)) := by
  -- What was read so far is the part of the section under the keys that were read.
  induction fields generalizing keys with
  | nil => rfl
  | cons e fields ih =>
    obtain ⟨he, hfields⟩ := List.forall_mem_cons.1 h
    obtain ⟨f, hfield, hread⟩ := read_part he keys
    rw [Layout.readEntries, hfield]
    simp only [hread, ih hfields, List.map_cons, List.reverse_cons, List.append_assoc,
      List.singleton_append]

/-- The whole section is read when nothing but `experimental = false` is left out. -/
theorem part_eq_self {s : ManifestSection} {keys : List String}
    (h : ∀ {key v}, s.Holds key v → key ∈ keys ∨ v = .boolean false) : s.part keys = s := by
  have hgiven {key text : String} (hkey : s.Holds key (.string text)) : key ∈ keys :=
    (h hkey).resolve_right nofun
  have hoptional {key : String} {value : Option String}
      (hkey : ∀ {text}, value = some text → s.Holds key (.string text)) :
      (if key ∈ keys then value else none) = value := by
    cases value with
    | none => exact ite_self none
    | some text => exact if_pos (hgiven (hkey rfl))
  have hexperimental :
      (if "experimental" ∈ keys then s.experimental else false) = s.experimental := by
    rcases h .experimental with hkey | hoff
    · exact if_pos hkey
    · rw [Toml.Value.boolean.inj hoff, ite_self]
  rw [part, if_pos (hgiven .id), if_pos (hgiven .mount), hoptional .displayName,
    hoptional .elementName, hoptional .modulePath, hoptional .url, hoptional .requiresFlag,
    hoptional .requiresSetting, hexperimental, hoptional .minHostVersion]

theorem decode_of_isWritten {s : ManifestSection} {fields : Toml.Entries} (h : s.IsWritten fields) :
    layout.decode (Toml.Value.table fields) = .ok s := by
  have hread : layout.readEntries (layout (σ := Toml.Value)).initial fields = .ok s := by
    rw [show (layout (σ := Toml.Value)).initial = s.part [] from rfl, readEntries_part h.holds,
      part_eq_self]
    intro key v hkey
    refine (h.complete hkey).imp_left fun hmem => ?_
    rw [List.append_nil, List.mem_reverse]
    exact List.mem_map_of_mem hmem
  have hgiven {key text : String} (hkey : s.Holds key (.string text)) :
      fields.any (·.1 == key) = true :=
    List.any_eq_true.2 ⟨_, (h.complete hkey).resolve_right nofun, beq_self_eq_true key⟩
  show layout.ofMapping fields = .ok s
  rw [Layout.ofMapping, hread]
  simp [layout, Field.of, hgiven .id, hgiven .mount]

theorem readEntries_file {s : ManifestSection} {entries : Toml.Entries}
    (h : ∀ e ∈ entries, e.1 = "plugin" → layout.decode e.2 = .ok s) (a : ManifestSection) :
    fileLayout.readEntries a entries =
      .ok (if "plugin" ∈ entries.map (·.1) then s else a) := by
  induction entries generalizing a with
  | nil => rfl
  | cons e entries ih =>
    obtain ⟨key, v⟩ := e
    obtain ⟨he, hentries⟩ := List.forall_mem_cons.1 h
    rw [Layout.readEntries, List.map_cons]
    by_cases hkey : key = "plugin"
    · subst hkey
      have hfield : (fileLayout (σ := Toml.Value)).field? "plugin" =
          some (.of "plugin" .required layout.decode fun _ v => v) := rfl
      simp only [hfield, Field.read_of (he rfl), ih hentries, List.mem_cons_self, if_true, ite_self]
    · have hfield : (fileLayout (σ := Toml.Value)).field? key = none := by
        simp [Layout.field?, fileLayout, Field.of, Ne.symm hkey]
      have hstrict : (fileLayout (σ := Toml.Value)).strict = false := rfl
      simp only [hfield, hstrict, ih hentries, List.mem_cons, Ne.symm hkey, false_or, if_false,
        Bool.false_eq_true]

/-- The section of a document is read whatever else the document holds. -/
theorem decode_file {s : ManifestSection} {text : String} {entries fields : Toml.Entries}
    (htext : Toml.parse? text = some entries) (hplugin : ("plugin", .table fields) ∈ entries)
    (h : s.IsWritten fields) : fileLayout.decode (Toml.Value.table entries) = .ok s := by
  have hentry : ∀ e ∈ entries, e.1 = "plugin" → layout.decode e.2 = .ok s := by
    rintro ⟨key, v⟩ he rfl
    rw [Toml.eq_of_mem_of_parse? htext he hplugin, decode_of_isWritten h]
  have hgiven : entries.any (·.1 == "plugin") = true :=
    List.any_eq_true.2 ⟨_, hplugin, beq_self_eq_true _⟩
  show fileLayout.ofMapping entries = .ok s
  rw [Layout.ofMapping, readEntries_file hentry, if_pos (List.mem_map_of_mem hplugin)]
  simp [fileLayout, Field.of, hgiven]

/-! ### The checks of a section -/

/-- Not all of the identifier is blank. -/
def HasId (s : ManifestSection) : Prop := ∃ c ∈ s.id.toList, Text.isBlank c = false

/-- The section names the kind of mount, in any case of its letters. -/
def HasKind (s : ManifestSection) (kind : MountKind) : Prop :=
  Text.lowerAscii s.mount = kind.name

/-- The text that the kind needs is there and not blank. -/
def HasTarget (s : ManifestSection) (kind : MountKind) : Prop :=
  kind ≠ .none → ∃ text, s.target kind = some text ∧ ∃ c ∈ text.toList, Text.isBlank c = false

/-- What the section asks of the version of the host, if anything, is a requirement that this one
meets. -/
def AdmitsHost (s : ManifestSection) : Prop :=
  ∀ text, s.minHostVersion = some text →
    ∃ r, Version.Requirement.ofText text = .ok r ∧ r.accepts hostVersion = true

/-- What an accepted section is like. -/
structure IsWellFormed (s : ManifestSection) (kind : MountKind) : Prop where
  hasId : s.HasId
  hasKind : s.HasKind kind
  hasTarget : s.HasTarget kind
  admitsHost : s.AdmitsHost

/-- The error of the first check that the section does not pass. -/
inductive Fails (s : ManifestSection) : ManifestError → Prop
  | id (h : ¬s.HasId) : s.Fails .emptyId
  | mount (hid : s.HasId) (h : ∀ kind, ¬s.HasKind kind) : s.Fails (.unknownMount s.mount)
  | target {kind : MountKind} (hid : s.HasId) (hkind : s.HasKind kind) (h : ¬s.HasTarget kind) :
    s.Fails (.missingTarget kind)
  | requirement {kind : MountKind} {text : String} {e : Version.RequirementError} (hid : s.HasId)
    (hkind : s.HasKind kind) (htarget : s.HasTarget kind) (htext : s.minHostVersion = some text)
    (h : Version.Requirement.ofText text = .error e) : s.Fails (.invalidRequirement text e)
  | host {kind : MountKind} {text : String} {r : Version.Requirement} (hid : s.HasId)
    (hkind : s.HasKind kind) (htarget : s.HasTarget kind) (htext : s.minHostVersion = some text)
    (hr : Version.Requirement.ofText text = .ok r) (h : r.accepts hostVersion = false) :
    s.Fails (.unsupportedHost text)

theorem isWellFormed_or_fails (s : ManifestSection) :
    (∃ kind, s.IsWellFormed kind) ∨ ∃ e, s.Fails e := by
  -- The checks are made in their order, since an error presupposes that the earlier ones passed.
  by_cases hid : s.HasId
  swap
  · exact .inr ⟨_, .id hid⟩
  by_cases hkind : ∃ kind, s.HasKind kind
  swap
  · exact .inr ⟨_, .mount hid (not_exists.1 hkind)⟩
  obtain ⟨kind, hkind⟩ := hkind
  by_cases htarget : s.HasTarget kind
  swap
  · exact .inr ⟨_, .target hid hkind htarget⟩
  cases htext : s.minHostVersion with
  | none => exact .inl ⟨kind, hid, hkind, htarget, fun text h => by rw [htext] at h; cases h⟩
  | some text =>
    cases hr : Version.Requirement.ofText text with
    | error e => exact .inr ⟨_, .requirement hid hkind htarget htext hr⟩
    | ok r =>
      cases haccepts : r.accepts hostVersion with
      | false => exact .inr ⟨_, .host hid hkind htarget htext hr haccepts⟩
      | true =>
        refine .inl ⟨kind, hid, hkind, htarget, fun text' h => ?_⟩
        obtain rfl := Option.some.inj (htext.symm.trans h)
        exact ⟨r, hr, haccepts⟩

/-! ### Passing and failing the checks -/

variable {s : ManifestSection} {kind : MountKind}

theorem blank_id_iff : Text.blank s.id = false ↔ s.HasId := Text.blank_eq_false_iff

theorem kind_iff : MountKind.ofText? s.mount = some kind ↔ s.HasKind kind :=
  MountKind.ofText?_eq_some_iff

theorem mountPoint_of_hasTarget (h : s.HasTarget kind) :
    ∃ p, s.mountPoint kind = .ok p ∧ p.kind = kind ∧ p.text? = s.target kind := by
  by_cases hkind : kind = .none
  · subst hkind
    exact ⟨.none, rfl, rfl, rfl⟩
  · obtain ⟨text, htext, hsays⟩ := h hkind
    have hblank : Text.blank text = false := Text.blank_eq_false_iff.2 hsays
    refine ⟨.ofKind kind text, ?_, ?_⟩
    · rw [mountPoint, if_neg hkind, htext]
      exact if_neg (ne_true_of_eq_false hblank)
    · rw [htext]
      cases kind with
      | none => exact absurd rfl hkind
      | _ => exact ⟨rfl, rfl⟩

theorem mountPoint_of_not_hasTarget (h : ¬s.HasTarget kind) :
    s.mountPoint kind = .error (.missingTarget kind) := by
  have hkind : kind ≠ .none := fun hkind => h fun hne => absurd hkind hne
  rw [mountPoint, if_neg hkind]
  cases htext : s.target kind with
  | none => rfl
  | some text =>
    have hblank : Text.blank text = true := by
      by_contra hsays
      exact h fun _ => ⟨text, htext, Text.blank_eq_false_iff.1 (eq_false_of_ne_true hsays)⟩
    exact if_pos hblank

theorem checkHost_of_admitsHost (h : s.AdmitsHost) : checkHost s.minHostVersion = .ok () := by
  cases htext : s.minHostVersion with
  | none => rfl
  | some text =>
    obtain ⟨r, hr, haccepts⟩ := h text htext
    simp only [checkHost, hr, haccepts, if_true]

end ManifestSection

namespace Manifest

open ManifestSection

variable {s : ManifestSection}

/-- What the manifest carries over from the section, and when its plugin is enabled. -/
structure Carries (m : Manifest) (s : ManifestSection) : Prop where
  id : m.id = ⟨s.id⟩
  given_name : ∀ name, s.displayName = some name → Text.blank name = false → m.displayName = name
  own_name : (∀ name, s.displayName = some name → Text.blank name = true) → m.displayName = s.id
  mount : ∀ kind, s.HasKind kind → m.mount.kind = kind ∧ m.mount.text? = s.target kind
  descriptor : m.toDescriptor = ⟨m.id, m.displayName, m.mount, m.toDescriptor.predicate⟩
  enabled : ∀ flags settings, m.toDescriptor.isEnabled flags settings = true ↔
    (∀ name, s.requiresFlag = some name → flags.isSet name = true) ∧
      (∀ key, s.requiresSetting = some key → settings.get? key = some (.boolean true)) ∧
      (s.experimental = true → flags.isExperimental ⟨s.id⟩ = true)

theorem ofSection_of_fails {e : ManifestError} (h : s.Fails e) : ofSection s = .error e := by
  have hblank (h : s.HasId) : ¬Text.blank s.id = true := ne_true_of_eq_false (blank_id_iff.2 h)
  cases h with
  | id h =>
    have hblank : Text.blank s.id = true := by
      by_contra hsays
      exact h (blank_id_iff.1 (eq_false_of_ne_true hsays))
    rw [ofSection, if_pos hblank]
  | mount hid h =>
    have hkind : MountKind.ofText? s.mount = none := by
      by_contra hne
      obtain ⟨kind, hkind⟩ := Option.ne_none_iff_exists'.1 hne
      exact h kind (kind_iff.1 hkind)
    rw [ofSection, if_neg (hblank hid), hkind]
  | target hid hkind h =>
    rw [ofSection, if_neg (hblank hid), kind_iff.2 hkind]
    simp only [mountPoint_of_not_hasTarget h]
  | requirement hid hkind htarget htext h =>
    obtain ⟨p, hp, -⟩ := mountPoint_of_hasTarget htarget
    rw [ofSection, if_neg (hblank hid), kind_iff.2 hkind]
    simp only [hp, htext, checkHost, h]
  | host hid hkind htarget htext hr h =>
    obtain ⟨p, hp, -⟩ := mountPoint_of_hasTarget htarget
    rw [ofSection, if_neg (hblank hid), kind_iff.2 hkind]
    simp only [hp, htext, checkHost, hr, h, Bool.false_eq_true, if_false]

/-- The manifest that the section gives at a mount point. -/
def ofSectionAt (s : ManifestSection) (mount : MountPoint) : Manifest where
  id := ⟨s.id⟩
  displayName := (s.displayName.filter fun name => !Text.blank name).getD s.id
  mount := mount
  requiresFlag := s.requiresFlag
  requiresSetting := s.requiresSetting
  experimental := s.experimental
  minHostVersion := s.minHostVersion

theorem carries_ofSectionAt {kind : MountKind} {p : MountPoint} (hs : s.HasKind kind)
    (hkind : p.kind = kind) (htext : p.text? = s.target kind) : (ofSectionAt s p).Carries s where
  id := rfl
  given_name := by
    intro name hname hblank
    simp [ofSectionAt, hname, Option.filter, hblank]
  own_name := by
    intro hblank
    cases hname : s.displayName with
    | none => simp [ofSectionAt, hname]
    | some name => simp [ofSectionAt, hname, Option.filter, hblank name hname]
  mount := by
    intro kind' hkind'
    obtain rfl : kind = kind' := Option.some.inj ((kind_iff.2 hs).symm.trans (kind_iff.2 hkind'))
    exact ⟨hkind, htext⟩
  descriptor := rfl
  enabled := by
    intro flags settings
    rw [isEnabled_iff, isOpen_iff]
    simp only [ofSectionAt, Settings.isOn_eq_true]

theorem ofSection_of_isWellFormed {kind : MountKind} (h : s.IsWellFormed kind) :
    ∃ m, ofSection s = .ok m ∧ m.Carries s := by
  obtain ⟨p, hp, hkind, htext⟩ := mountPoint_of_hasTarget h.hasTarget
  refine ⟨ofSectionAt s p, ?_, carries_ofSectionAt h.hasKind hkind htext⟩
  rw [ofSection, if_neg (ne_true_of_eq_false (blank_id_iff.2 h.hasId)), kind_iff.2 h.hasKind]
  simp only [hp, checkHost_of_admitsHost h.admitsHost, ofSectionAt]

/-- How a manifest with the section is judged. -/
structure Judges (result : Except ManifestError Manifest) (s : ManifestSection) : Prop where
  accepts : (∃ m, result = .ok m) ↔ ∃ kind, s.IsWellFormed kind
  refuses : ∀ e, result = .error e ↔ s.Fails e
  carries : ∀ m, result = .ok m → m.Carries s

theorem judges_ofSection (s : ManifestSection) : Judges (ofSection s) s := by
  rcases s.isWellFormed_or_fails with ⟨kind, hwell⟩ | ⟨e, hfails⟩
  · obtain ⟨m, hm, hcarries⟩ := ofSection_of_isWellFormed hwell
    constructor
    · exact iff_of_true ⟨m, hm⟩ ⟨kind, hwell⟩
    · refine fun e => ⟨fun he => ?_, ofSection_of_fails⟩
      exact absurd (hm.symm.trans he) nofun
    · intro m' hm'
      exact Except.ok.inj (hm.symm.trans hm') ▸ hcarries
  · have herror := ofSection_of_fails hfails
    have hnot (m : Manifest) : ofSection s ≠ .ok m := fun hm => absurd (herror.symm.trans hm) nofun
    constructor
    · refine iff_of_false (fun ⟨m, hm⟩ => hnot m hm) fun ⟨kind, hwell⟩ => ?_
      obtain ⟨m, hm, -⟩ := ofSection_of_isWellFormed hwell
      exact hnot m hm
    · refine fun e' => ⟨fun he => ?_, ofSection_of_fails⟩
      exact Except.error.inj (herror.symm.trans he) ▸ hfails
    · exact fun m hm => absurd hm (hnot m)

/-- A manifest is judged by its section, however the document writes it. -/
theorem judges_parse {text : String} {entries fields : Toml.Entries}
    (htext : Toml.parse? text = some entries) (hplugin : ("plugin", .table fields) ∈ entries)
    (hs : s.IsWritten fields) : Judges (parse text) s := by
  rw [parse, htext]
  simp only [decode_file htext hplugin hs]
  exact judges_ofSection s

/-- A bundle that asks for a flag and for a version of the host. -/
def bundledText : String :=
  "[plugin]\nmin_host_version = \">=0.1\"\nid = \"clock\"\ndisplay_name = \" \"\n" ++
  "mount = \"Bundle\"\nurl = \"clock.js\"\nrequires_flag = \"beta\"\n"

def bundled : ManifestSection where
  id := "clock"
  displayName := some " "
  mount := "Bundle"
  elementName := none
  modulePath := none
  url := some "clock.js"
  requiresFlag := some "beta"
  requiresSetting := none
  experimental := false
  minHostVersion := some ">=0.1"

set_option maxRecDepth 4000 in
theorem judges_parse_bundled : Judges (parse bundledText) bundled := by
  have htext : Toml.parse? bundledText =
      some [("plugin", .table [("min_host_version", .string ">=0.1"), ("id", .string "clock"),
        ("display_name", .string " "), ("mount", .string "Bundle"), ("url", .string "clock.js"),
        ("requires_flag", .string "beta")])] := by
    unfold bundledText
    simp only [String.reduceAppend]
    simp only [Toml.parse?, Toml.sections, String.reduceToList]
    rfl
  refine judges_parse htext List.mem_cons_self ⟨?_, ?_⟩
  · simp only [List.forall_mem_cons]
    exact ⟨.minHostVersion rfl, .id, .displayName rfl, .mount, .url rfl, .requiresFlag rfl, nofun⟩
  · intro key v h
    cases h <;> simp_all [bundled]

end Manifest

end Dashboard
