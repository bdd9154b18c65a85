import Dashboard.Proofs.Config.Load
import Mathlib.Data.Finset.Card

/-!
# Which configurations are accepted

A configuration is accepted exactly if it keeps every rule, and otherwise each broken rule is
reported. All rules but one are reported once. The list of known plugins is scanned with the
identifiers seen so far, and every entry of it that is blank or comes again is reported. What
carries the count is an equation of the scan: the reports together with one for each identifier that
is new are one for each entry. Neither side of it depends on the order of the list.
-/

namespace Dashboard

open Data

/-! ### Blank texts -/

namespace Text

/-- Whether a text has a character that is not blank. -/
def NonBlank (s : String) : Prop := ∃ c ∈ s.toList, isBlank c = false

theorem blank_eq_false_iff {s : String} : blank s = false ↔ NonBlank s := by
  simp [blank_eq_all, NonBlank]

instance (s : String) : Decidable (NonBlank s) :=
  decidable_of_iff (blank s = false) blank_eq_false_iff

theorem blank_eq_true_iff {s : String} : blank s = true ↔ ¬NonBlank s := by
  rw [← blank_eq_false_iff, Bool.not_eq_false]

end Text

namespace Config

open Text (NonBlank)

/-! ### Rules -/

/-- The log level is a known one, but for blanks around it and the case of its letters. -/
def KnowsLevel (c : Config) : Prop :=
  ∃ level ∈ ["trace", "debug", "info", "warn", "error"],
    Text.eqIgnoringCase (Text.trimmed c.dashboard.logLevel) level = true

instance (c : Config) : Decidable c.KnowsLevel :=
  inferInstanceAs (Decidable (∃ level ∈ _, Text.eqIgnoringCase _ level = true))

/-- What a configuration has to be like. -/
structure IsWellFormed (c : Config) : Prop where
  level : c.KnowsLevel
  container : NonBlank c.dashboard.container
  flagNames : ∀ name ∈ c.flags.values.keys, NonBlank name
  experimental : ∀ id ∈ c.flags.experimental, NonBlank id
  selection : ∀ id ∈ c.activation.lastSelection, NonBlank id
  manifests : ∀ path ∈ c.manifests, NonBlank path
  known : ∀ id ∈ c.activation.knownPlugins, NonBlank id
  distinct : c.activation.knownPlugins.Nodup

/-- One for a broken rule. -/
def broken (rule : Prop) [Decidable rule] : ℕ := if rule then 0 else 1

/-- The identifiers of a list that are not blank. -/
def named (ids : List String) : List String := ids.filter (NonBlank ·)

/-- How many entries of a list that are not blank came before. -/
def repeats (ids : List String) : ℕ := (named ids).length - (named ids).toFinset.card

/-- How many errors the broken rules of a configuration give. -/
def breaches (c : Config) : ℕ :=
  broken c.KnowsLevel + broken (NonBlank c.dashboard.container)
    + broken (∀ name ∈ c.flags.values.keys, NonBlank name)
    + broken (∀ id ∈ c.flags.experimental, NonBlank id)
    + broken (∀ id ∈ c.activation.lastSelection, NonBlank id)
    + broken (∀ path ∈ c.manifests, NonBlank path)
    + (c.activation.knownPlugins.countP (¬NonBlank ·) + repeats c.activation.knownPlugins)

/-- The errors that a configuration deserves. -/
inductive Breaks (c : Config) : Violation → Prop
  | level (h : ¬c.KnowsLevel) : c.Breaks (.unknownLogLevel c.dashboard.logLevel)
  | container (h : ¬NonBlank c.dashboard.container) : c.Breaks .emptyContainer
  | flagName {name : String} (hmem : name ∈ c.flags.values.keys) (h : ¬NonBlank name) :
    c.Breaks .emptyFlagName
  | experimental {id : String} (hmem : id ∈ c.flags.experimental) (h : ¬NonBlank id) :
    c.Breaks .emptyExperimentalId
  | selection {id : String} (hmem : id ∈ c.activation.lastSelection) (h : ¬NonBlank id) :
    c.Breaks .emptySelection
  | known {id : String} (hmem : id ∈ c.activation.knownPlugins) (h : ¬NonBlank id) :
    c.Breaks .emptyKnownId
  | repeated {id : String} (h : NonBlank id) (hcount : 2 ≤ c.activation.knownPlugins.count id) :
    c.Breaks (.repeatedKnownId id)
  | manifest {path : String} (hmem : path ∈ c.manifests) (h : ¬NonBlank path) :
    c.Breaks .emptyManifestPath

/-- The same configuration with its lists in another order. -/
structure Rearranged (c c' : Config) : Prop where
  dashboard : c'.dashboard = c.dashboard
  values : c'.flags.values = c.flags.values
  experimental : c'.flags.experimental.Perm c.flags.experimental
  settings : c'.settings = c.settings
  selection : c'.activation.lastSelection = c.activation.lastSelection
  known : c'.activation.knownPlugins.Perm c.activation.knownPlugins
  manifests : c'.manifests.Perm c.manifests

/-! ### Rules that are reported once -/

theorem broken_eq_zero_iff {rule : Prop} [Decidable rule] : broken rule = 0 ↔ rule := by
  simp [broken]

theorem length_violationIf {condition : Bool} {rule : Prop} [Decidable rule]
    (h : condition = false ↔ rule) (v : Violation) :
    (violationIf condition v).length = broken rule := by
  rw [violationIf, broken]
  by_cases hrule : rule
  · rw [if_pos hrule, h.2 hrule]
    rfl
  · rw [if_neg hrule, eq_true_of_ne_false (mt h.1 hrule)]
    rfl

theorem hasKnownLogLevel_iff {c : Config} : c.hasKnownLogLevel = true ↔ c.KnowsLevel := by
  have hlower : ∀ level ∈ Violation.logLevels, Text.lowerAscii level = level := by decide
  rw [hasKnownLogLevel, List.contains_iff_mem]
  constructor
  · intro h
    exact ⟨_, h, by rw [Text.eqIgnoringCase, hlower _ h, beq_self_eq_true]⟩
  · rintro ⟨level, hmem, hlevel⟩
    rw [Text.eqIgnoringCase, beq_iff_eq, hlower level hmem] at hlevel
    exact hlevel ▸ hmem

theorem any_blank_eq_false_iff {texts : List String} :
    texts.any Text.blank = false ↔ ∀ s ∈ texts, NonBlank s := by
  simp only [List.any_eq_false, Bool.not_eq_true, Text.blank_eq_false_iff]

theorem any_blank_option_eq_false_iff {text : Option String} :
    text.any Text.blank = false ↔ ∀ s ∈ text, NonBlank s := by
  cases text <;> simp [Text.blank_eq_false_iff]

/-! ### Known plugins -/

/-- The identifiers of a list that are neither blank nor seen before. -/
def fresh (seen ids : List String) : Finset String := (named ids).toFinset \ seen.toFinset

variable {seen ids : List String} {id : String}

theorem named_cons_of_blank (h : ¬NonBlank id) : named (id :: ids) = named ids :=
  List.filter_cons_of_neg (by simpa using h)

theorem named_cons (h : NonBlank id) : named (id :: ids) = id :: named ids :=
  List.filter_cons_of_pos (by simpa using h)

theorem fresh_cons_of_blank (h : ¬NonBlank id) : fresh seen (id :: ids) = fresh seen ids := by
  rw [fresh, named_cons_of_blank h, fresh]

theorem fresh_cons_of_mem (h : NonBlank id) (hseen : id ∈ seen) :
    fresh seen (id :: ids) = fresh seen ids := by
  rw [fresh, named_cons h, List.toFinset_cons,
    Finset.insert_sdiff_of_mem _ (List.mem_toFinset.2 hseen), fresh]

theorem fresh_cons_of_not_mem (h : NonBlank id) (hseen : id ∉ seen) :
    (fresh seen (id :: ids)).val = id ::ₘ (fresh (id :: seen) ids).val := by
  have hnew : id ∉ fresh (id :: seen) ids := by simp [fresh]
  rw [← Finset.insert_val_of_notMem hnew]
  refine congrArg Finset.val (Finset.ext fun other => ?_)
  simp only [fresh, named_cons h, List.toFinset_cons, Finset.mem_sdiff, Finset.mem_insert,
    List.mem_toFinset]
  by_cases hother : other = id
  · simp [hother, hseen]
  · simp [hother]

/-- The reports about a list, together with one for each identifier that is new, are one for each
entry. -/
theorem knownIdViolations_add_fresh (seen ids : List String) :
    (knownIdViolations seen ids : Multiset Violation)
        + (fresh seen ids).val.map Violation.repeatedKnownId =
      Multiset.replicate (ids.countP (¬NonBlank ·)) .emptyKnownId
        + (named ids : Multiset String).map Violation.repeatedKnownId := by
  induction ids generalizing seen with
  | nil => simp [knownIdViolations, fresh, named]
  | cons id ids ih =>
    rw [knownIdViolations]
    by_cases hblank : NonBlank id
    · have hcount : (id :: ids).countP (¬NonBlank ·) = ids.countP (¬NonBlank ·) :=
        List.countP_cons_of_neg (by simpa using hblank)
      rw [if_neg (mt Text.blank_eq_true_iff.1 (not_not.2 hblank)), hcount, named_cons hblank,
        ← Multiset.cons_coe, Multiset.map_cons, Multiset.add_cons, ← ih]
      by_cases hseen : id ∈ seen
      · rw [if_pos (List.contains_iff_mem.2 hseen), fresh_cons_of_mem hblank hseen,
          ← Multiset.cons_coe, Multiset.cons_add, ih]
      · rw [if_neg (mt List.contains_iff_mem.1 hseen), fresh_cons_of_not_mem hblank hseen,
          Multiset.map_cons, Multiset.add_cons, ih, ih]
    · have hcount : (id :: ids).countP (¬NonBlank ·) = ids.countP (¬NonBlank ·) + 1 :=
        List.countP_cons_of_pos (by simpa using hblank)
      rw [if_pos (Text.blank_eq_true_iff.2 hblank), hcount, named_cons_of_blank hblank,
        fresh_cons_of_blank hblank, ← Multiset.cons_coe, Multiset.cons_add, ih,
        Multiset.replicate_succ, Multiset.cons_add]

theorem count_named (h : NonBlank id) : (named ids).count id = ids.count id :=
  List.count_filter (decide_eq_true h)

theorem mem_named : id ∈ named ids ↔ id ∈ ids ∧ NonBlank id := by
  rw [named, List.mem_filter, decide_eq_true_eq]

theorem emptyKnownId_mem_iff :
    .emptyKnownId ∈ knownIdViolations [] ids ↔ ∃ id ∈ ids, ¬NonBlank id := by
  have hcounts := congrArg (Multiset.count .emptyKnownId) (knownIdViolations_add_fresh [] ids)
  have hmap (m : Multiset String) : (m.map Violation.repeatedKnownId).count .emptyKnownId = 0 :=
    Multiset.count_eq_zero.2 (by simp)
  simp only [Multiset.count_add, hmap, Nat.add_zero, Multiset.coe_count,
    Multiset.count_replicate_self] at hcounts
  rw [← List.count_pos_iff, hcounts, List.countP_pos_iff]
  simp only [decide_eq_true_eq]

theorem repeatedKnownId_mem_iff :
    .repeatedKnownId id ∈ knownIdViolations [] ids ↔ NonBlank id ∧ 2 ≤ ids.count id := by
  have hcounts := congrArg (Multiset.count (.repeatedKnownId id))
    (knownIdViolations_add_fresh [] ids)
  have hinjective : Function.Injective Violation.repeatedKnownId :=
    fun _ _ => Violation.repeatedKnownId.inj
  have hfresh : (fresh [] ids).val.count id = if id ∈ named ids then 1 else 0 := by
    rw [Multiset.count_eq_of_nodup (fresh [] ids).nodup]
    simp [fresh]
  simp only [Multiset.count_add, Multiset.count_map_eq_count' _ _ hinjective, hfresh,
    Multiset.coe_count, Multiset.count_replicate, reduceCtorEq, if_false, Nat.zero_add] at hcounts
  rw [← List.count_pos_iff]
  by_cases hblank : NonBlank id
  · rw [count_named hblank] at hcounts
    by_cases hmem : id ∈ ids
    · rw [if_pos (mem_named.2 ⟨hmem, hblank⟩)] at hcounts
      have hpos := List.count_pos_iff.2 hmem
      simp only [hblank, true_and]
      omega
    · rw [if_neg (fun h => hmem (mem_named.1 h).1), List.count_eq_zero_of_not_mem hmem] at hcounts
      simp only [hblank, true_and, List.count_eq_zero_of_not_mem hmem]
      omega
  · have hnot : id ∉ named ids := fun h => hblank (mem_named.1 h).2
    rw [if_neg hnot, List.count_eq_zero_of_not_mem hnot] at hcounts
    simp only [hblank, false_and, iff_false]
    omega

theorem eq_of_mem_knownIdViolations {v : Violation} (h : v ∈ knownIdViolations [] ids) :
    v = .emptyKnownId ∨ ∃ id, v = .repeatedKnownId id := by
  have hmem : v ∈ (knownIdViolations [] ids : Multiset Violation)
      + (fresh [] ids).val.map Violation.repeatedKnownId :=
    Multiset.mem_add.2 (.inl (Multiset.mem_coe.2 h))
  rw [knownIdViolations_add_fresh, Multiset.mem_add] at hmem
  rcases hmem with hmem | hmem
  · exact .inl (Multiset.eq_of_mem_replicate hmem)
  · obtain ⟨id, -, rfl⟩ := Multiset.mem_map.1 hmem
    exact .inr ⟨id, rfl⟩

theorem length_knownIdViolations (ids : List String) :
    (knownIdViolations [] ids).length = ids.countP (¬NonBlank ·) + repeats ids := by
  have hcards := congrArg Multiset.card (knownIdViolations_add_fresh [] ids)
  have hfresh : (fresh [] ids).card = (named ids).toFinset.card := by simp [fresh]
  have hle : (named ids).toFinset.card ≤ (named ids).length := List.toFinset_card_le _
  simp only [Multiset.card_add, Multiset.card_map, Multiset.coe_card, Multiset.card_replicate,
    Finset.card_val, hfresh] at hcards
  rw [repeats]
  omega

theorem knownIdViolations_perm {ids ids' : List String} (h : ids'.Perm ids) :
    (knownIdViolations [] ids').Perm (knownIdViolations [] ids) := by
  have hnamed : (named ids').Perm (named ids) := h.filter _
  have hfresh : fresh [] ids' = fresh [] ids := by
    rw [fresh, fresh, List.toFinset_eq_of_perm _ _ hnamed]
  have hsums := knownIdViolations_add_fresh [] ids'
  rw [hfresh, h.countP_eq, Multiset.coe_eq_coe.2 hnamed,
    ← knownIdViolations_add_fresh [] ids] at hsums
  exact Multiset.coe_eq_coe.1 (Multiset.add_left_inj.1 hsums)

theorem repeats_eq_zero_iff : repeats ids = 0 ↔ (named ids).Nodup := by
  rw [repeats, Nat.sub_eq_zero_iff_le, List.card_toFinset, ← List.dedup_eq_self]
  constructor
  · exact (List.dedup_sublist _).eq_of_length_le
  · exact fun h => h.symm ▸ le_rfl

/-! ### Counting the errors -/

variable {c c' : Config}

theorem length_violations (c : Config) : c.violations.length = c.breaches := by
  have hlevel : (!c.hasKnownLogLevel) = false ↔ c.KnowsLevel := by
    rw [Bool.not_eq_false', hasKnownLogLevel_iff]
  simp only [violations, List.length_append, length_knownIdViolations,
    length_violationIf hlevel, length_violationIf Text.blank_eq_false_iff,
    length_violationIf any_blank_eq_false_iff, length_violationIf any_blank_option_eq_false_iff,
    breaches]
  omega

theorem breaches_eq_zero_iff : c.breaches = 0 ↔ c.IsWellFormed := by
  simp only [breaches, Nat.add_eq_zero_iff, broken_eq_zero_iff, List.countP_eq_zero,
    decide_eq_true_eq, not_not, repeats_eq_zero_iff]
  have hnamed (h : ∀ id ∈ c.activation.knownPlugins, NonBlank id) :
      named c.activation.knownPlugins = c.activation.knownPlugins :=
    List.filter_eq_self.2 fun id hid => decide_eq_true (h id hid)
  constructor
  · rintro ⟨⟨⟨⟨⟨⟨hlevel, hcontainer⟩, hnames⟩, hexperimental⟩, hselection⟩, hmanifests⟩, hknown,
      hdistinct⟩
    exact ⟨hlevel, hcontainer, hnames, hexperimental, hselection, hmanifests, hknown,
      hnamed hknown ▸ hdistinct⟩
  · intro h
    exact ⟨⟨⟨⟨⟨⟨h.level, h.container⟩, h.flagNames⟩, h.experimental⟩, h.selection⟩, h.manifests⟩,
      h.known, (hnamed h.known).symm ▸ h.distinct⟩

theorem violations_eq_nil_iff : c.violations = [] ↔ c.IsWellFormed := by
  rw [← List.length_eq_zero_iff, length_violations, breaches_eq_zero_iff]

theorem mem_violationIf {condition : Bool} {v w : Violation} :
    v ∈ violationIf condition w ↔ condition = true ∧ v = w := by
  cases condition <;> simp [violationIf]

theorem mem_violations_iff {v : Violation} : v ∈ c.violations ↔ c.Breaks v := by
  simp only [violations, List.mem_append, mem_violationIf, or_assoc]
  constructor
  · rintro (⟨h, rfl⟩ | ⟨h, rfl⟩ | ⟨h, rfl⟩ | ⟨h, rfl⟩ | ⟨h, rfl⟩ | h | ⟨h, rfl⟩)
    · refine .level fun hlevel => ?_
      rw [hasKnownLogLevel_iff.2 hlevel] at h
      cases h
    · exact .container (Text.blank_eq_true_iff.1 h)
    · obtain ⟨name, hmem, h⟩ := List.any_eq_true.1 h
      exact .flagName hmem (Text.blank_eq_true_iff.1 h)
    · obtain ⟨id, hmem, h⟩ := List.any_eq_true.1 h
      exact .experimental hmem (Text.blank_eq_true_iff.1 h)
    · obtain ⟨id, hmem, h⟩ := (Option.any_eq_true _ _).1 h
      exact .selection hmem (Text.blank_eq_true_iff.1 h)
    · rcases eq_of_mem_knownIdViolations h with rfl | ⟨id, rfl⟩
      · obtain ⟨id, hmem, h⟩ := emptyKnownId_mem_iff.1 h
        exact .known hmem h
      · obtain ⟨hblank, hcount⟩ := repeatedKnownId_mem_iff.1 h
        exact .repeated hblank hcount
    · obtain ⟨path, hmem, h⟩ := List.any_eq_true.1 h
      exact .manifest hmem (Text.blank_eq_true_iff.1 h)
  · intro h
    have hany {texts : List String} {text : String} (hmem : text ∈ texts) (h : ¬NonBlank text) :
        texts.any Text.blank = true :=
      List.any_eq_true.2 ⟨text, hmem, Text.blank_eq_true_iff.2 h⟩
    cases h with
    | level h => exact .inl ⟨by simpa [← hasKnownLogLevel_iff] using h, rfl⟩
    | container h => exact .inr (.inl ⟨Text.blank_eq_true_iff.2 h, rfl⟩)
    | flagName hmem h => exact .inr (.inr (.inl ⟨hany hmem h, rfl⟩))
    | experimental hmem h => exact .inr (.inr (.inr (.inl ⟨hany hmem h, rfl⟩)))
    | selection hmem h =>
      have hselection := (Option.any_eq_true _ _).2 ⟨_, hmem, Text.blank_eq_true_iff.2 h⟩
      exact .inr (.inr (.inr (.inr (.inl ⟨hselection, rfl⟩))))
    | known hmem h =>
      exact .inr (.inr (.inr (.inr (.inr (.inl (emptyKnownId_mem_iff.2 ⟨_, hmem, h⟩))))))
    | repeated hblank hcount =>
      exact .inr (.inr (.inr (.inr (.inr (.inl (repeatedKnownId_mem_iff.2 ⟨hblank, hcount⟩))))))
    | manifest hmem h => exact .inr (.inr (.inr (.inr (.inr (.inr ⟨hany hmem h, rfl⟩)))))

theorem any_blank_eq_of_perm {texts texts' : List String} (h : texts'.Perm texts) :
    texts'.any Text.blank = texts.any Text.blank := by
  rw [Bool.eq_iff_iff, List.any_eq_true, List.any_eq_true]
  simp only [h.mem_iff]

theorem violations_perm (h : c.Rearranged c') : c'.violations.Perm c.violations := by
  have hlevel : c'.hasKnownLogLevel = c.hasKnownLogLevel := by
    rw [hasKnownLogLevel, h.dashboard, hasKnownLogLevel]
  rw [violations, violations, hlevel, h.dashboard, h.values, h.selection,
    any_blank_eq_of_perm h.experimental, any_blank_eq_of_perm h.manifests]
  exact ((knownIdViolations_perm h.known).append_left _).append_right _

/-- The errors of a result. -/
def errorsOf : Except (List ConfigError) Config → List ConfigError
  | .ok _ => []
  | .error errors => errors

/-- The errors that the rules of a configuration give. -/
def complaints (c : Config) : List ConfigError := errorsOf c.check

theorem complaints_eq (c : Config) : c.complaints = c.violations.map .invalid := by
  rw [complaints, check_eq]
  by_cases h : c.violations = []
  · rw [if_pos h, h, errorsOf, List.map_nil]
  · rw [if_neg h, errorsOf]

theorem check_eq_ok_iff : c.check = .ok c ↔ c.IsWellFormed := by
  rw [check_eq, ← violations_eq_nil_iff]
  split <;> simp_all

theorem nodup_initialSnapshot (h : c.activation.knownPlugins.Nodup) {registered : List PluginId}
    (hregistered : registered.Nodup) : (c.initialSnapshot registered).activation.known.Nodup := by
  show (c.knownPlugins registered).Nodup
  rw [knownPlugins]
  split
  · exact hregistered
  · exact h.map fun _ _ heq => congrArg PluginId.text heq

/-- A configuration is accepted exactly if it keeps every rule. Otherwise each broken rule is one
error, but for the known plugins: there each blank entry and each entry that came before is one. In
whatever order the lists are, the errors are the same. What is accepted names no plugin twice. -/
theorem check_counts (c : Config) :
    (c.check = .ok c ↔ c.IsWellFormed) ∧
    (¬c.IsWellFormed → c.check = .error c.complaints ∧ c.complaints.length = c.breaches) ∧
    (∀ e, e ∈ c.complaints ↔ ∃ v, c.Breaks v ∧ e = .invalid v) ∧
    (∀ c', c.Rearranged c' → c'.complaints.Perm c.complaints) ∧
    ∀ registered : List PluginId, registered.Nodup → c.check = .ok c →
      (c.initialSnapshot registered).activation.known.Nodup := by
  refine ⟨check_eq_ok_iff, fun h => ⟨?_, ?_⟩, fun e => ?_, fun c' h => ?_,
    fun registered hregistered h => ?_⟩
  · rw [complaints_eq, check_eq, if_neg (mt violations_eq_nil_iff.1 h)]
  · rw [complaints_eq, List.length_map, length_violations]
  · rw [complaints_eq, List.mem_map]
    simp only [mem_violations_iff, eq_comm]
  · rw [complaints_eq, complaints_eq]
    exact (violations_perm h).map _
  · exact nodup_initialSnapshot (check_eq_ok_iff.1 h).distinct hregistered

/-- A configuration that breaks three rules, one of them three times. -/
def loud : Config :=
  { initial with
    dashboard := ⟨"lab", " Loud", "\t"⟩
    activation := ⟨some "a", ["a", "b", "a", " ", "a"]⟩ }

theorem check_counts_loud :
    loud.check = .error loud.complaints ∧ loud.complaints.length = 5 ∧
      .invalid (.repeatedKnownId "a") ∈ loud.complaints ∧
      ({ loud with activation := ⟨some "a", [" ", "a", "a", "a", "b"]⟩ } : Config).complaints.Perm
        loud.complaints ∧
      (initial.initialSnapshot [⟨"b"⟩, ⟨"a"⟩]).activation.known.Nodup := by
  have hbroken : ¬loud.IsWellFormed := fun h => absurd h.container (by decide)
  have hbreaches : loud.breaches = 5 := by decide +kernel
  have hwell : initial.IsWellFormed := by constructor <;> decide
  obtain ⟨-, hcount, hmem, hperm, -⟩ := check_counts loud
  refine ⟨(hcount hbroken).1, (hcount hbroken).2.trans hbreaches, ?_, ?_, ?_⟩
  · exact (hmem _).2 ⟨_, .repeated (by decide) (by decide), rfl⟩
  · exact hperm _ ⟨rfl, rfl, .rfl, rfl, rfl, by decide, .rfl⟩
  · obtain ⟨haccepts, -, -, -, hknown⟩ := check_counts initial
    exact hknown _ (by decide) (haccepts.2 hwell)

end Config

end Dashboard
