import Dashboard.Command.Flag
import Mathlib.Data.List.Basic

/-!
# The grammar of overrides

Which texts override a flag, and what they say, is stated without the parser: the first equals sign,
if there is one, stands between the name and the value. A text that breaks the grammar breaks it in
one of two ways, and a value that is neither `true` nor `false` is reported before a missing name.
A list of overrides is applied as a whole or not at all, and of several overrides of one flag the
last one counts.
-/

namespace Dashboard

open Data

/-- Trimming takes characters away and adds none. -/
theorem Text.trim_sublist (s : List Char) : (Text.trim s).Sublist s := by
  have hend : (Text.trimEnd (Text.trimStart s)).reverse.Sublist (Text.trimStart s).reverse := by
    rw [Text.trimEnd, List.reverse_reverse]
    exact List.dropWhile_sublist _
  exact (List.reverse_sublist.1 hend).trans (List.dropWhile_sublist _)

namespace FlagOverride

/-- How a value is written. -/
def literal : Bool → String
  | true => "true"
  | false => "false"

/-- What the texts that are overrides say. -/
inductive Reads : String → FlagOverride → Prop
  | name {name : String} (hmark : '=' ∉ name.toList) (hname : Text.trimmed name ≠ "") :
    Reads name ⟨Text.trimmed name, true⟩
  | value {name value : String} {b : Bool} (hmark : '=' ∉ name.toList)
      (hname : Text.trimmed name ≠ "") (hvalue : Text.trimmed value = literal b) :
    Reads (name ++ "=" ++ value) ⟨Text.trimmed name, b⟩

/-- Why the texts that are no overrides are refused. -/
inductive Refuses : String → FlagError → Prop
  | value {name value : String} (hmark : '=' ∉ name.toList)
      (hvalue : ∀ b, Text.trimmed value ≠ literal b) :
    Refuses (name ++ "=" ++ value) (.notBoolean name value)
  | name {name : String} (hmark : '=' ∉ name.toList) (hname : Text.trimmed name = "") :
    Refuses name (.noName name)
  | nameOfValue {name value : String} {b : Bool} (hmark : '=' ∉ name.toList)
      (hvalue : Text.trimmed value = literal b) (hname : Text.trimmed name = "") :
    Refuses (name ++ "=" ++ value) (.noName (name ++ "=" ++ value))

/-! ### The parser -/

theorem boolean?_eq_some_iff {s : List Char} {b : Bool} :
    boolean? s = some b ↔ String.ofList s = literal b := by
  rw [boolean?, ← String.toList_inj, String.toList_ofList]
  cases b with
  | true =>
    show _ ↔ s = ['t', 'r', 'u', 'e']
    grind
  | false =>
    show _ ↔ s = ['f', 'a', 'l', 's', 'e']
    grind

theorem boolean?_eq_none_iff {s : List Char} :
    boolean? s = none ↔ ∀ b, String.ofList s ≠ literal b := by
  simp only [Option.eq_none_iff_forall_ne_some, ne_eq, boolean?_eq_some_iff]

theorem cut?_of_mark {name value : String} (h : '=' ∉ name.toList) :
    Text.cut? '=' (name ++ "=" ++ value).toList = some (name.toList, value.toList) := by
  rw [String.toList_append, String.toList_append, List.append_assoc]
  exact Text.cut?_append '=' h value.toList

theorem cases_mark (text : String) :
    '=' ∉ text.toList ∨ ∃ name value : String, '=' ∉ name.toList ∧ text = name ++ "=" ++ value := by
  cases hcut : Text.cut? '=' text.toList with
  | none => exact .inl ((Text.cut?_eq_none_iff _ _).1 hcut)
  | some parts =>
    obtain ⟨name, value⟩ := parts
    obtain ⟨htext, hmark⟩ := Text.eq_append_of_cut? hcut
    refine .inr ⟨String.ofList name, String.ofList value, by rwa [String.toList_ofList], ?_⟩
    rw [← String.toList_inj, htext]
    simp only [String.toList_append, String.toList_ofList, List.append_assoc]
    rfl

theorem named_eq (text name : String) (b : Bool) :
    named text name.toList b =
      if Text.trimmed name = "" then .error (.noName text) else .ok ⟨Text.trimmed name, b⟩ := by
  have hempty : Text.trimmed name = "" ↔ (Text.trim name.toList).isEmpty = true := by
    rw [Text.trimmed, List.isEmpty_iff, ← String.toList_inj, String.toList_ofList]
    rfl
  by_cases hname : Text.trimmed name = ""
  · rw [if_pos hname]
    exact if_pos (hempty.1 hname)
  · rw [if_neg hname]
    exact if_neg (mt hempty.2 hname)

theorem parse_of_not_mem {text : String} (h : '=' ∉ text.toList) :
    parse text = named text text.toList true := by
  rw [parse, (Text.cut?_eq_none_iff _ _).2 h]

theorem parse_of_mark {name value : String} (h : '=' ∉ name.toList) :
    parse (name ++ "=" ++ value) =
      match boolean? (Text.trim value.toList) with
      | none => .error (.notBoolean name value)
      | some b => named (name ++ "=" ++ value) name.toList b := by
  rw [parse, cut?_of_mark h]
  show (match boolean? (Text.trim value.toList) with
    | none => Except.error
      (FlagError.notBoolean (String.ofList name.toList) (String.ofList value.toList))
    | some b => named (name ++ "=" ++ value) name.toList b) = _
  rw [String.ofList_toList, String.ofList_toList]

theorem Reads.parse {text : String} {o : FlagOverride} (h : Reads text o) :
    parse text = .ok o := by
  cases h with
  | name hmark hname => rw [parse_of_not_mem hmark, named_eq, if_neg hname]
  | value hmark hname hvalue =>
    rw [parse_of_mark hmark, boolean?_eq_some_iff.2 hvalue]
    simp only [named_eq, if_neg hname]

theorem Refuses.parse {text : String} {e : FlagError} (h : Refuses text e) :
    parse text = .error e := by
  cases h with
  | value hmark hvalue => rw [parse_of_mark hmark, boolean?_eq_none_iff.2 hvalue]
  | name hmark hname => rw [parse_of_not_mem hmark, named_eq, if_pos hname]
  | nameOfValue hmark hvalue hname =>
    rw [parse_of_mark hmark, boolean?_eq_some_iff.2 hvalue]
    simp only [named_eq, if_pos hname]

theorem reads_or_refuses (text : String) : (∃ o, Reads text o) ∨ ∃ e, Refuses text e := by
  rcases cases_mark text with hmark | ⟨name, value, hmark, rfl⟩
  · by_cases hname : Text.trimmed text = ""
    · exact .inr ⟨_, .name hmark hname⟩
    · exact .inl ⟨_, .name hmark hname⟩
  · by_cases hvalue : ∃ b, Text.trimmed value = literal b
    · obtain ⟨b, hvalue⟩ := hvalue
      by_cases hname : Text.trimmed name = ""
      · exact .inr ⟨_, .nameOfValue hmark hvalue hname⟩
      · exact .inl ⟨_, .value hmark hname hvalue⟩
    · exact .inr ⟨_, .value hmark (not_exists.1 hvalue)⟩

theorem parse_eq_ok_iff {text : String} {o : FlagOverride} :
    parse text = .ok o ↔ Reads text o := by
  refine ⟨fun h => ?_, Reads.parse⟩
  rcases reads_or_refuses text with ⟨o', ho⟩ | ⟨e, he⟩
  · exact Except.ok.inj (ho.parse.symm.trans h) ▸ ho
  · exact absurd (he.parse.symm.trans h) nofun

theorem parse_eq_error_iff {text : String} {e : FlagError} :
    parse text = .error e ↔ Refuses text e := by
  refine ⟨fun h => ?_, Refuses.parse⟩
  rcases reads_or_refuses text with ⟨o, ho⟩ | ⟨e', he⟩
  · exact absurd (ho.parse.symm.trans h) nofun
  · exact Except.error.inj (he.parse.symm.trans h) ▸ he

theorem Reads.unique {text : String} {o o' : FlagOverride} (h : Reads text o)
    (h' : Reads text o') : o = o' :=
  Except.ok.inj (h.parse.symm.trans h'.parse)

theorem Reads.not_mem_name {text : String} {o : FlagOverride} (h : Reads text o) :
    '=' ∉ o.name.toList := by
  have htrimmed {name : String} (hmark : '=' ∉ name.toList) :
      '=' ∉ (Text.trimmed name).toList := by
    rw [Text.trimmed, String.toList_ofList]
    exact fun hmem => hmark ((Text.trim_sublist _).subset hmem)
  cases h with
  | name hmark => exact htrimmed hmark
  | value hmark => exact htrimmed hmark

end FlagOverride

/-! ### Lists of overrides -/

namespace FeatureFlags

open FlagOverride

/-- The flags `f'` are the flags `f` with the overrides `texts`. -/
structure Overridden (f : FeatureFlags) (texts : List String) (f' : FeatureFlags) : Prop where
  experimental : f'.experimental = f.experimental
  /-- The last override of a flag gives its value. -/
  last : ∀ before text behind name value, texts = before ++ text :: behind →
    Reads text ⟨name, value⟩ → (∀ t ∈ behind, ∀ v, ¬Reads t ⟨name, v⟩) →
      f'.flags.get? name = some value
  /-- A flag without an override keeps what it has. -/
  base : ∀ name, (∀ t ∈ texts, ∀ v, ¬Reads t ⟨name, v⟩) → f'.flags.get? name = f.flags.get? name

theorem overridden_nil (f : FeatureFlags) : f.Overridden [] f where
  experimental := rfl
  last := by
    intro before text behind name value h
    exact absurd h (by simp)
  base _ _ := rfl

theorem Overridden.cons {f f' : FeatureFlags} {text : String} {texts : List String}
    {o : FlagOverride} (ho : Reads text o)
    (h : (f.withFlag o.name o.value).Overridden texts f') : f.Overridden (text :: texts) f' where
  experimental := h.experimental
  last := by
    intro before text' behind name value hsplit hreads hbehind
    cases before with
    | nil =>
      obtain ⟨rfl, rfl⟩ := List.cons.inj hsplit
      obtain rfl := ho.unique hreads
      rw [h.base name hbehind]
      exact KeyMap.get?_insert_self _ _ _
    | cons t before =>
      obtain ⟨rfl, rfl⟩ := List.cons.inj hsplit
      exact h.last before text' behind name value rfl hreads hbehind
  base := by
    intro name hnone
    obtain ⟨hfirst, hrest⟩ := List.forall_mem_cons.1 hnone
    have hne : name ≠ o.name := by
      rintro rfl
      exact hfirst o.value ho
    rw [h.base name hrest]
    exact KeyMap.get?_insert_of_ne _ _ hne

theorem override_cons_of_reads {f : FeatureFlags} {text : String} {o : FlagOverride}
    (h : Reads text o) (texts : List String) :
    f.override (text :: texts) = (f.withFlag o.name o.value).override texts := by
  rw [override, h.parse]

theorem override_of_reads {f : FeatureFlags} {texts : List String}
    (h : ∀ text ∈ texts, ∃ o, Reads text o) :
    ∃ f', f.override texts = .ok f' ∧ f.Overridden texts f' := by
  induction texts generalizing f with
  | nil => exact ⟨f, rfl, overridden_nil f⟩
  | cons text texts ih =>
    obtain ⟨⟨o, ho⟩, hrest⟩ := List.forall_mem_cons.1 h
    obtain ⟨f', hf', hoverridden⟩ := ih (f := f.withFlag o.name o.value) hrest
    exact ⟨f', (override_cons_of_reads ho texts).trans hf', hoverridden.cons ho⟩

/-- The first text of a list that is no override, with the reason. -/
def FirstRefused (texts : List String) (e : FlagError) : Prop :=
  ∃ before text behind, texts = before ++ text :: behind ∧
    (∀ t ∈ before, ∃ o, Reads t o) ∧ Refuses text e

theorem override_of_firstRefused {f : FeatureFlags} {texts : List String} {e : FlagError}
    (h : FirstRefused texts e) : f.override texts = .error e := by
  obtain ⟨before, text, behind, rfl, hbefore, hrefuses⟩ := h
  induction before generalizing f with
  | nil => rw [List.nil_append, override, hrefuses.parse]
  | cons t before ih =>
    obtain ⟨⟨o, ho⟩, hrest⟩ := List.forall_mem_cons.1 hbefore
    rw [List.cons_append, override_cons_of_reads ho]
    exact ih hrest

theorem all_read_or_firstRefused (texts : List String) :
    (∀ text ∈ texts, ∃ o, Reads text o) ∨ ∃ e, FirstRefused texts e := by
  induction texts with
  | nil => exact .inl (List.forall_mem_nil _)
  | cons text texts ih =>
    rcases reads_or_refuses text with hreads | ⟨e, he⟩
    · rcases ih with hrest | ⟨e, before, text', behind, rfl, hbefore, he⟩
      · exact .inl (List.forall_mem_cons.2 ⟨hreads, hrest⟩)
      · exact .inr ⟨e, text :: before, text', behind, rfl,
          List.forall_mem_cons.2 ⟨hreads, hbefore⟩, he⟩
    · exact .inr ⟨e, [], text, texts, rfl, List.forall_mem_nil _, he⟩

theorem override_eq_error_iff {f : FeatureFlags} {texts : List String} {e : FlagError} :
    f.override texts = .error e ↔ FirstRefused texts e := by
  refine ⟨fun h => ?_, override_of_firstRefused⟩
  rcases all_read_or_firstRefused texts with hall | ⟨e', he⟩
  · obtain ⟨f', hf', -⟩ := override_of_reads (f := f) hall
    exact absurd (hf'.symm.trans h) nofun
  · exact Except.error.inj ((override_of_firstRefused he).symm.trans h) ▸ he

end FeatureFlags

/-- Overrides are read as their grammar says. A list of them fails with the first that breaks the
grammar; else each flag has the value of its last override. -/
theorem FlagOverride.last_wins :
    (∀ text o, parse text = .ok o ↔ Reads text o) ∧
    (∀ text e, parse text = .error e ↔ Refuses text e) ∧
    (∀ text o, Reads text o → '=' ∉ o.name.toList) ∧
    ∀ (f : FeatureFlags) (texts : List String),
      (∀ e, f.override texts = .error e ↔ FeatureFlags.FirstRefused texts e) ∧
      ((∀ text ∈ texts, ∃ o, Reads text o) →
        ∃ f', f.override texts = .ok f' ∧ f.Overridden texts f') := by
  refine ⟨fun _ _ => parse_eq_ok_iff, fun _ _ => parse_eq_error_iff,
    fun _ _ => Reads.not_mem_name, fun f texts => ⟨fun e => ?_, ?_⟩⟩
  · exact FeatureFlags.override_eq_error_iff
  · exact FeatureFlags.override_of_reads

/-- Overrides of one flag, with others between them, over flags that are set before. -/
theorem FlagOverride.last_wins_repeated :
    let f : FeatureFlags := (FeatureFlags.empty.withFlag "gamma" true).withFlag "beta" true
    let texts := [" beta = false", "alpha", "beta=false", "beta", "alpha=false "]
    (∀ text ∈ texts, ∃ o, Reads text o) ∧
      ∃ f', f.override texts = .ok f' ∧ f'.flags.get? "alpha" = some false ∧
        f'.flags.get? "beta" = some true ∧ f'.flags.get? "gamma" = some true ∧
        f'.experimental = f.experimental := by
  intro f texts
  have hbetaOff : Reads " beta = false" ⟨"beta", false⟩ := parse_eq_ok_iff.1 (by decide +kernel)
  have halphaOn : Reads "alpha" ⟨"alpha", true⟩ := parse_eq_ok_iff.1 (by decide +kernel)
  have hbetaOff' : Reads "beta=false" ⟨"beta", false⟩ := parse_eq_ok_iff.1 (by decide +kernel)
  have hbetaOn : Reads "beta" ⟨"beta", true⟩ := parse_eq_ok_iff.1 (by decide +kernel)
  have halphaOff : Reads "alpha=false " ⟨"alpha", false⟩ := parse_eq_ok_iff.1 (by decide +kernel)
  have hother {text name : String} {o : FlagOverride} (h : Reads text o) (hne : o.name ≠ name) (v) :
      ¬Reads text ⟨name, v⟩ := fun h' => hne (congrArg FlagOverride.name (h.unique h'))
  have hread : ∀ text ∈ texts, ∃ o, Reads text o := by
    simp only [texts, List.forall_mem_cons]
    exact ⟨⟨_, hbetaOff⟩, ⟨_, halphaOn⟩, ⟨_, hbetaOff'⟩, ⟨_, hbetaOn⟩, ⟨_, halphaOff⟩, nofun⟩
  obtain ⟨f', hf', hoverridden⟩ := (last_wins.2.2.2 f texts).2 hread
  refine ⟨hread, f', hf', ?_, ?_, ?_, hoverridden.experimental⟩
  · exact hoverridden.last [" beta = false", "alpha", "beta=false", "beta"] _ [] _ _ rfl halphaOff
      nofun
  · refine hoverridden.last [" beta = false", "alpha", "beta=false"] _ ["alpha=false "] _ _ rfl
      hbetaOn ?_
    simpa using hother halphaOff (by decide)
  · refine (hoverridden.base "gamma" ?_).trans rfl
    simp only [texts, List.forall_mem_cons]
    exact ⟨hother hbetaOff (by decide), hother halphaOn (by decide), hother hbetaOff' (by decide),
      hother hbetaOn (by decide), hother halphaOff (by decide), nofun⟩

end Dashboard
