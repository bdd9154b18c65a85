import Dashboard.Proofs.Config.UnknownKey

/-!
# Which section a key is found in

The search for a key goes on to the end of the text and does not look at headers. So it stays in the
section it was asked about if and only if a line of this section starts with the key, or no line
behind the header does. Otherwise it ends in a later section, and a report points at the key there.
-/

namespace Dashboard

open Text

namespace KeyOffset

variable {text : List Char} {path : List String} {place : List Char}

/-- Whether a line is the header of another section than the one at `path`: but for blanks, it
starts with a bracket, and not with the header of that section. Outside of sections every header is
one of another. -/
def IsOtherHeader (path : List String) (line : List Char) : Prop :=
  (trim line).head? = some '[' ∧ (path = [] ∨ ¬(sectionHeader path).toList <+: trim line)

instance (path : List String) (line : List Char) : Decidable (IsOtherHeader path line) :=
  inferInstanceAs (Decidable (_ ∧ _))

/-- Whether `place` is in the section at `path`: it is behind the first place where the header of
the section stands, and no line between the two is the header of another section. -/
def InSection (text : List Char) (path : List String) (place : List Char) : Prop :=
  ∃ start, SearchedFrom text path start ∧ start <+: place ∧
    ∀ line before, LineAt line text before → IsOtherHeader path line → start <+: before →
      ¬before ++ line ++ ['\n'] <+: place

/-- Whether the search for the key `field` of the section at `path` finds no key of another. -/
def StaysInSection (text : String) (path : List String) (field : String) : Prop :=
  ∀ o, keyOffset? text path field = some o →
    ∃ place, place <+: text.toList ∧ o = byteLength place ∧ InSection text.toList path place

/-- Whether the key `field` starts the line that begins behind `before`, one of the lines behind the
header of the section at `path`. What is left of the header's own line counts as a line. -/
def StartsLineBehind (text : List Char) (path : List String) (field before : List Char) : Prop :=
  ∃ start b rest, text = start ++ rest ∧ SearchedFrom text path start ∧ before = start ++ b ∧
    StartsLineAt field rest b

theorem StartsLineBehind.beginning {field before : List Char}
    (h : StartsLineBehind text path field before) : before <+: text := by
  obtain ⟨start, b, rest, rfl, -, rfl, line, hline, -⟩ := h
  exact (List.prefix_append_right_inj start).2 ((List.prefix_append b line).trans hline.beginning)

/-- What is found stands in the first line behind the header that starts with the key. -/
theorem startsLineBehind_of_keyOffset? {text : String} {path : List String} {field : String}
    {o : Nat} (h : keyOffset? text path field = some o) :
    ∃ before blanks, Shortest (StartsLineBehind text.toList path field.toList) before ∧
      '\n' ∉ blanks ∧ before ++ blanks <+: text.toList ∧ o = byteLength (before ++ blanks) := by
  rw [keyOffset?_eq, Option.bind_eq_some_iff] at h
  obtain ⟨⟨n, rest⟩, hsearched, hfound⟩ := h
  obtain ⟨start, htext, hstart, rfl⟩ := searched?_eq_some_iff.1 hsearched
  obtain ⟨b, line, hfirst, hline, -, ho⟩ := startsLineAt_of_inLines? hfound
  refine ⟨start ++ b, line.takeWhile isBlank, ⟨?_, ?_⟩, ?_, ?_, ?_⟩
  · exact ⟨start, b, rest, htext, hstart, rfl, hfirst.holds⟩
  · rintro _ ⟨start', b', rest', htext', hstart', rfl, hb'⟩
    obtain rfl := hstart'.eq hstart
    obtain rfl := List.append_cancel_left (htext'.symm.trans htext)
    have hle : b.length ≤ b'.length := hfirst.le_length b' hb'
    rw [List.length_append, List.length_append]
    omega
  · exact fun hmem => hline.feed ((List.takeWhile_sublist _).subset hmem)
  · rw [htext, List.append_assoc, List.prefix_append_right_inj]
    exact ((List.prefix_append_right_inj b).2 (List.takeWhile_prefix _)).trans hline.beginning
  · rw [ho, List.append_assoc, byteLength_append start]

/-- If a line behind the header starts with the key, then something is found. -/
theorem exists_of_startsLineBehind {text : String} {path : List String} {field : String}
    {before : List Char} (h : StartsLineBehind text.toList path field.toList before) :
    ∃ o, keyOffset? text path field = some o := by
  obtain ⟨start, b, rest, htext, hstart, -, hb⟩ := h
  have hsearched := searched?_eq_some_iff.2 ⟨start, htext, hstart, rfl⟩
  rw [keyOffset?_eq, hsearched, Option.bind_some]
  cases hfound : inLines? field.toList (rest.length + 1) (byteLength start) rest with
  | none => exact absurd hb (not_startsLineAt_of_inLines? (Nat.lt_succ_self _) hfound b)
  | some o => exact ⟨o, rfl⟩

/-- What stands before a place of the section, but behind its header, is in the section. -/
theorem InSection.of_beginning (h : InSection text path place) {field before : List Char}
    (hbefore : StartsLineBehind text path field before) (hbeginning : before <+: place) :
    InSection text path before := by
  obtain ⟨start, hstart, -, hlines⟩ := h
  obtain ⟨start', b, rest, -, hstart', rfl, -⟩ := hbefore
  obtain rfl := hstart'.eq hstart
  refine ⟨start', hstart, List.prefix_append _ _, fun line before hline hheader hbehind hends => ?_⟩
  exact hlines line before hline hheader hbehind (hends.trans hbeginning)

/-- A place farther on in the same line is in the same section: no other line ends before it. -/
theorem InSection.append (h : InSection text path place) {blanks : List Char}
    (hblanks : '\n' ∉ blanks) : InSection text path (place ++ blanks) := by
  obtain ⟨start, hstart, hplace, hlines⟩ := h
  refine ⟨start, hstart, hplace.trans (List.prefix_append _ _), ?_⟩
  intro line before hline hheader hbehind hends
  have hnext : BeginsLine (before ++ line ++ ['\n']) := .inr (List.suffix_append _ _)
  exact hlines line before hline hheader hbehind (hnext.within hends hblanks)

/-- The search stays in the section it was asked about if and only if, where any line behind the
header starts with the key, a line of the section itself does. -/
theorem staysInSection_iff (text : String) (path : List String) (field : String) :
    StaysInSection text path field ↔
      ((∃ before, StartsLineBehind text.toList path field.toList before) →
        ∃ before, StartsLineBehind text.toList path field.toList before ∧
          InSection text.toList path before) := by
  constructor
  · rintro hstays ⟨before, hbefore⟩
    obtain ⟨o, ho⟩ := exists_of_startsLineBehind hbefore
    obtain ⟨first, blanks, hfirst, -, hfound, hoffset⟩ := startsLineBehind_of_keyOffset? ho
    obtain ⟨place, hplace, hoffset', hin⟩ := hstays o ho
    obtain rfl := eq_of_byteLength_eq hplace hfound (hoffset'.symm.trans hoffset)
    exact ⟨first, hfirst.holds, hin.of_beginning hfirst.holds (List.prefix_append _ _)⟩
  · intro howned o ho
    obtain ⟨first, blanks, hfirst, hblanks, hfound, hoffset⟩ := startsLineBehind_of_keyOffset? ho
    obtain ⟨own, hown, hin⟩ := howned ⟨first, hfirst.holds⟩
    have hbeginning : first <+: own := List.prefix_of_prefix_length_le hfirst.holds.beginning
      hown.beginning (hfirst.le_length own hown)
    have hfirstin := hin.of_beginning hfirst.holds hbeginning
    exact ⟨first ++ blanks, hfound, hoffset, hfirstin.append hblanks⟩

/-- A key that is found behind a later header is not one of the section. -/
theorem not_staysInSection {text : String} {path : List String} {field : String}
    {start place line before : List Char} (hplace : place <+: text.toList)
    (hfound : keyOffset? text path field = some (byteLength place))
    (hstart : SearchedFrom text.toList path start) (hline : LineAt line text.toList before)
    (hheader : IsOtherHeader path line) (hbehind : start <+: before)
    (hends : before ++ line ++ ['\n'] <+: place) : ¬StaysInSection text path field := by
  intro hstays
  obtain ⟨place', hplace', hoffset, start', hstart', -, hlines⟩ := hstays _ hfound
  obtain rfl := eq_of_byteLength_eq hplace hplace' hoffset
  obtain rfl := hstart'.eq hstart
  exact hlines line before hline hheader hbehind hends

end KeyOffset

namespace Config

open KeyOffset

/-- A report of a key that the dashboard does not have points at a key of the settings, and a key
outside of sections is found inside one. -/
theorem leaves_section :
    Toml.parse? "[dashboard.nam]\n[settings]\nnam = 1\n" =
        some [("dashboard", .table [("nam", .table [])]),
          ("settings", .table [("nam", .integer 1)])] ∧
      ¬StaysInSection "[dashboard.nam]\n[settings]\nnam = 1\n" ["dashboard", "nam"] "nam" ∧
      (∃ suggestion valid, ofText "[dashboard.nam]\n[settings]\nnam = 1\n" =
        .error [.unknownKey "nam" suggestion valid
          (some ⟨"<inline>", byteLength "[dashboard.nam]\n[settings]\n".toList, 3⟩)]) ∧
      ¬StaysInSection "[flags.values]\nname = true\n" [] "name" := by
  have hparse : Toml.parse? "[dashboard.nam]\n[settings]\nnam = 1\n" =
      some [("dashboard", .table [("nam", .table [])]),
        ("settings", .table [("nam", .integer 1)])] := by
    simp only [Toml.parse?, Toml.sections, String.reduceToList]
    rfl
  have hdecoder : decoder (Layer.mergeAll (documentLayers
      [("dashboard", .table [("nam", .table [])]), ("settings", .table [("nam", .integer 1)])])) =
      .error ⟨["dashboard", "nam"], .unknownField "nam" ["name", "log_level", "container"]⟩ := rfl
  have hload := ofText_of_unknown hparse hdecoder
  have hfound : keyOffset? "[dashboard.nam]\n[settings]\nnam = 1\n" ["dashboard", "nam"] "nam" =
      some (byteLength "[dashboard.nam]\n[settings]\n".toList) := by decide +kernel
  have htop : keyOffset? "[flags.values]\nname = true\n" [] "name" =
      some (byteLength "[flags.values]\n".toList) := by decide +kernel
  rw [hfound] at hload
  refine ⟨hparse, ?_, ⟨_, _, hload⟩, ?_⟩
  · have hstart : SearchedFrom "[dashboard.nam]\n[settings]\nnam = 1\n".toList
        ["dashboard", "nam"] "[dashboard.nam]".toList :=
      ⟨[], rfl, .nil ⟨"\n[settings]\nnam = 1\n".toList, rfl⟩⟩
    have hline : LineAt "[settings]".toList "[dashboard.nam]\n[settings]\nnam = 1\n".toList
        "[dashboard.nam]\n".toList :=
      ⟨.inr ⟨"[dashboard.nam]".toList, rfl⟩, by decide, "\nnam = 1\n".toList, rfl,
        .inr ⟨"nam = 1\n".toList, rfl⟩⟩
    exact not_staysInSection ⟨"nam = 1\n".toList, rfl⟩ hfound hstart hline (by decide)
      ⟨['\n'], rfl⟩ List.prefix_rfl
  · have hline : LineAt "[flags.values]".toList "[flags.values]\nname = true\n".toList [] :=
      ⟨.inl rfl, by decide, "\nname = true\n".toList, rfl, .inr ⟨"name = true\n".toList, rfl⟩⟩
    exact not_staysInSection ⟨"name = true\n".toList, rfl⟩ htop rfl hline (by decide)
      List.prefix_rfl List.prefix_rfl

end Config

end Dashboard
