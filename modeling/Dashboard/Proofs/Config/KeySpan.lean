import Dashboard.Proofs.Config.UnknownKey
import Mathlib.Order.Nat

/-!
# The bytes that a report points at

The search for a key adds up the lengths of lines and of blanks, in bytes. Of two beginnings of one
text the shorter has fewer bytes, so the first key in the text has the least offset, and it is this
offset that the sums come to. It stands between two characters, as does the end of the key, and the
bytes in between are those of the key: a report never points into a character, nor at another text.
-/

namespace Dashboard

open Data Text

/-- Whether the text has the bytes of `part` at `offset`, between two characters and two others. -/
structure ShowsAt (text part : String) (offset : Nat) : Prop where
  starts : (⟨offset⟩ : String.Pos.Raw).IsValid text
  ends : (⟨offset + part.utf8ByteSize⟩ : String.Pos.Raw).IsValid text
  bytes : text.toByteArray.extract offset (offset + part.utf8ByteSize) = part.toByteArray

namespace KeyOffset

/-! ### Beginnings and their bytes -/

theorem utf8ByteSize_ofList (s : List Char) : (String.ofList s).utf8ByteSize = byteLength s := by
  induction s with
  | nil => rfl
  | cons c s ih =>
    rw [← List.singleton_append, String.ofList_append, ← String.singleton_eq_ofList,
      String.utf8ByteSize_append, String.utf8ByteSize_singleton, ih, List.singleton_append,
      byteLength_cons]

theorem byteLength_toList (s : String) : byteLength s.toList = s.utf8ByteSize := by
  rw [← utf8ByteSize_ofList, String.ofList_toList]

theorem byteLength_le_iff {s a b : List Char} (ha : a <+: s) (hb : b <+: s) :
    byteLength a ≤ byteLength b ↔ a.length ≤ b.length := by
  constructor
  · intro h
    rcases List.prefix_or_prefix_of_prefix ha hb with hab | ⟨t, rfl⟩
    · exact hab.length_le
    · rw [byteLength_append] at h
      have ht : t = [] := eq_nil_of_byteLength_eq_zero (by omega)
      rw [ht, List.append_nil]
  · intro h
    obtain ⟨t, rfl⟩ := List.prefix_of_prefix_length_le ha hb h
    rw [byteLength_append]
    exact Nat.le_add_right _ _

/-- What stands behind a beginning of the text is shown at the length of the beginning. -/
theorem showsAt_of_append {text part : String} (before after : List Char)
    (h : text.toList = before ++ part.toList ++ after) : ShowsAt text part (byteLength before) := by
  have htext : text = String.ofList before ++ part ++ String.ofList after := by
    rw [← String.toList_inj, h]
    simp
  have hbefore : (String.ofList before).rawEndPos = ⟨byteLength before⟩ := by
    rw [← utf8ByteSize_ofList]
    rfl
  have hpart : (String.ofList before ++ part).rawEndPos =
      ⟨byteLength before + part.utf8ByteSize⟩ := by
    rw [← utf8ByteSize_ofList, ← String.utf8ByteSize_append]
    rfl
  refine ⟨?_, ?_, ?_⟩
  · rw [String.Pos.Raw.isValid_iff_exists_append]
    exact ⟨_, _, htext.trans String.append_assoc, hbefore.symm⟩
  · rw [String.Pos.Raw.isValid_iff_exists_append]
    exact ⟨_, _, htext, hpart.symm⟩
  · have hsize : byteLength before = (String.ofList before).toByteArray.size := by
      rw [String.size_toByteArray, utf8ByteSize_ofList]
    have hbytes : text.toByteArray = (String.ofList before).toByteArray ++
        (part.toByteArray ++ (String.ofList after).toByteArray) := by
      rw [htext, String.toByteArray_append, String.toByteArray_append, ByteArray.append_assoc]
    rw [hbytes]
    calc
      _ = (part.toByteArray ++ (String.ofList after).toByteArray).extract 0 part.utf8ByteSize :=
        ByteArray.extract_append_size_add' hsize
      _ = part.toByteArray := ByteArray.extract_append_eq_left String.size_toByteArray.symm

/-! ### The least offset -/

/-- Whether the key `field` of the section at `path` stands at a byte offset of the text: behind
the first header of the section, only blanks before it in its line, and an end of a key behind. -/
def KeyAtByte (text : String) (path : List String) (field : String) (o : Nat) : Prop :=
  ∃ start between rest, text.toList = start ++ rest ∧ SearchedFrom text.toList path start ∧
    KeyAt field.toList rest between ∧ o = byteLength (start ++ between)

theorem findsAt_iff_isLeast {text : String} {path : List String} {field : String} {o : Nat} :
    (∃ before, FindsAt text.toList path field.toList before ∧ o = byteLength before) ↔
      IsLeast {o | KeyAtByte text path field o} o := by
  constructor
  · rintro ⟨_, ⟨start, between, rest, htext, rfl, hstart, hbetween⟩, rfl⟩
    refine ⟨⟨start, between, rest, htext, hstart, hbetween.holds, rfl⟩, ?_⟩
    rintro _ ⟨start', between', rest', htext', hstart', hbetween', rfl⟩
    obtain rfl := hstart'.eq hstart
    obtain rfl := List.append_cancel_left (htext'.symm.trans htext)
    have hle := (byteLength_le_iff hbetween.holds.beginning hbetween'.beginning).2
      (hbetween.le_length between' hbetween')
    rw [byteLength_append, byteLength_append]
    exact Nat.add_le_add_left hle _
  · rintro ⟨⟨start, between, rest, htext, hstart, hbetween, rfl⟩, hleast⟩
    refine ⟨_, ⟨start, between, rest, htext, rfl, hstart, hbetween, fun other hother => ?_⟩, rfl⟩
    have hle : byteLength (start ++ between) ≤ byteLength (start ++ other) :=
      hleast ⟨start, other, rest, htext, hstart, hother, rfl⟩
    rw [byteLength_append, byteLength_append] at hle
    exact (byteLength_le_iff hbetween.beginning hother.beginning).1 (Nat.le_of_add_le_add_left hle)

theorem showsAt_of_keyOffset? {text : String} {path : List String} {field : String}
    (hfield : IsKey field.toList) {o : Nat} (h : keyOffset? text path field = some o) :
    ShowsAt text field o := by
  obtain ⟨_, ⟨start, between, rest, htext, rfl, -, hbetween⟩, rfl⟩ :=
    (keyOffset?_eq_some_iff hfield).1 h
  obtain ⟨after, rfl, -⟩ := hbetween.holds.follows
  refine showsAt_of_append _ after ?_
  rw [htext, List.append_assoc, List.append_assoc, List.append_assoc]

/-- What is searched for keys is the text from an offset between two characters to its end. -/
theorem showsAt_of_searched? {text : String} {path : List String} {n : Nat} {rest : List Char}
    (h : searched? text.toList path = some (n, rest)) :
    ShowsAt text (String.ofList rest) n ∧
      n + (String.ofList rest).utf8ByteSize = text.utf8ByteSize := by
  obtain ⟨start, htext, -, rfl⟩ := searched?_eq_some_iff.1 h
  constructor
  · refine showsAt_of_append _ [] ?_
    rw [String.toList_ofList, List.append_nil, htext]
  · rw [utf8ByteSize_ofList, ← byteLength_append, ← htext, byteLength_toList]

theorem keyOffset?_eq_none_iff {text : String} {path : List String} {field : String}
    (hfield : IsKey field.toList) :
    keyOffset? text path field = none ↔ ∀ o, ¬KeyAtByte text path field o := by
  constructor
  · intro h o ho
    classical
    have hleast := Nat.isLeast_find ⟨o, ho⟩
    rw [(keyOffset?_eq_some_iff hfield).2 (findsAt_iff_isLeast.2 hleast)] at h
    cases h
  · intro h
    refine Option.eq_none_iff_forall_ne_some.2 fun o ho => ?_
    have hleast := findsAt_iff_isLeast.1 ((keyOffset?_eq_some_iff hfield).1 ho)
    exact h o hleast.1

end KeyOffset

/-! ### Reports -/

namespace Config

theorem spanOf_eq_some {layers : List Layer} {sources : List ConfigSource} {path : List String}
    {key : String} {span : SourceSpan} (h : spanOf layers sources path key = some span) :
    ∃ source ∈ sources, ∃ text o, source.text = some text ∧ keyOffset? text path key = some o ∧
      span = ⟨source.name, o, key.utf8ByteSize⟩ := by
  have hsource : ∃ source ∈ sources, (source.text.bind fun text =>
      (keyOffset? text path key).bind fun o =>
        some (⟨source.name, o, key.utf8ByteSize⟩ : SourceSpan)) = some span := by
    dsimp only [spanOf] at h
    split at h
    · obtain ⟨source, hfound, hspan⟩ := Option.bind_eq_some_iff.1 h
      exact ⟨source, List.mem_of_find?_eq_some hfound, hspan⟩
    · exact ⟨_, List.mem_singleton_self _, h⟩
    · cases h
  obtain ⟨source, hmem, hspan⟩ := hsource
  obtain ⟨text, htext, hspan⟩ := Option.bind_eq_some_iff.1 hspan
  obtain ⟨o, ho, hspan⟩ := Option.bind_eq_some_iff.1 hspan
  exact ⟨source, hmem, text, o, htext, ho, (Option.some.inj hspan).symm⟩

theorem of_ofSource_error {source : ConfigSource} {e : ConfigError}
    (h : Layer.ofSource source = .error e) :
    e = .notText source.name ∨ e = .notToml source.name := by
  rw [Layer.ofSource] at h
  split at h
  · exact .inl (Except.error.inj h).symm
  · split at h
    · exact .inr (Except.error.inj h).symm
    · cases h

/-- A document that cannot be read is not reported for its keys. -/
theorem ne_unknownKey_of_readSources {sources : List ConfigSource} {errors : List ConfigError}
    (h : readSources sources = .error errors) {key : String} {suggestion : Option String}
    {valid : List String} {span : Option SourceSpan} :
    .unknownKey key suggestion valid span ∉ errors := by
  intro hmem
  rw [readSources] at h
  split at h
  · cases h
  · obtain rfl := Except.error.inj h
    obtain ⟨result, hresult, hsome⟩ := List.mem_filterMap.1 hmem
    obtain ⟨source, -, rfl⟩ := List.mem_map.1 hresult
    split at hsome
    · rename_i hsource
      obtain rfl := Option.some.inj hsome
      rcases of_ofSource_error hsource with herror | herror <;> cases herror
    · cases hsome

/-- The place of an unknown key is looked for with the path that the key is reported with. -/
theorem exists_spanOf_of_load {sources : List ConfigSource} {env : List (String × String)}
    {errors : List ConfigError} (h : load sources env = .error errors) {key : String}
    {suggestion : Option String} {valid : List String} {span : Option SourceSpan}
    (hmem : .unknownKey key suggestion valid span ∈ errors) :
    ∃ layers path, span = spanOf layers sources path key := by
  cases hdocuments : readSources sources with
  | error unread =>
    rw [load, hdocuments] at h
    obtain rfl := Except.error.inj h
    exact absurd hmem (ne_unknownKey_of_readSources hdocuments)
  | ok documents =>
    rw [load_eq hdocuments, ofLayers] at h
    split at h
    · obtain rfl := Except.error.inj h
      exact ⟨_, _, (of_misfitError_unknownKey (List.mem_singleton.1 hmem).symm).2.2⟩
    · rw [check_eq] at h
      split at h
      · cases h
      · obtain rfl := Except.error.inj h
        obtain ⟨v, -, hv⟩ := List.mem_map.1 hmem
        cases hv

end Config

/-! ### The whole search -/

namespace KeyOffset

/-- The offset of a key is the least byte offset at which it stands at the start of a line behind
the first header of its section. There is none if and only if the header or such a place is missing.
The bytes there are the key, the text is cut between characters, and what a report of the key shows
is the key. -/
theorem offset_least {field : String} (hfield : IsKey field.toList) (text : String)
    (path : List String) :
    (∀ o, keyOffset? text path field = some o ↔ IsLeast {o | KeyAtByte text path field o} o) ∧
    (keyOffset? text path field = none ↔
      (path ≠ [] ∧ ∀ before, ¬OccursAt (sectionHeader path).toList text.toList before) ∨
        ∀ o, ¬KeyAtByte text path field o) ∧
    (∀ o, keyOffset? text path field = some o → ShowsAt text field o) ∧
    (∀ n rest, searched? text.toList path = some (n, rest) →
      ShowsAt text (String.ofList rest) n ∧
        n + (String.ofList rest).utf8ByteSize = text.utf8ByteSize) ∧
    ∀ sources env errors suggestion valid span, Config.load sources env = .error errors →
      .unknownKey field suggestion valid (some span) ∈ errors →
      ∃ source ∈ sources, ∃ shown, source.text = some shown ∧ span.source = source.name ∧
        span.length = field.utf8ByteSize ∧ ShowsAt shown field span.offset := by
  refine ⟨fun o => ?_, ?_, fun o => showsAt_of_keyOffset? hfield,
    fun n rest => showsAt_of_searched?, ?_⟩
  · rw [keyOffset?_eq_some_iff hfield, findsAt_iff_isLeast]
  · rw [keyOffset?_eq_none_iff hfield]
    constructor
    · exact .inr
    · rintro (⟨hpath, hheader⟩ | hkey)
      · rintro o ⟨start, between, rest, -, hstart, -, -⟩
        obtain ⟨before, hbefore⟩ := hstart.occurs hpath
        exact hheader before hbefore
      · exact hkey
  · intro sources env errors suggestion valid span h hmem
    obtain ⟨layers, path, hspan⟩ := Config.exists_spanOf_of_load h hmem
    obtain ⟨source, hsource, shown, o, htext, ho, rfl⟩ := Config.spanOf_eq_some hspan.symm
    exact ⟨source, hsource, shown, htext, rfl, rfl, showsAt_of_keyOffset? hfield ho⟩

/-- A header in a comment, line ends of two characters, a wide blank and no line feed at the end. -/
theorem offset_least_wide :
    IsKey "é".toList ∧ keyOffset? "# ü [a]\r\nb = é\r\n\u3000é\t= 2" ["a"] "é" = some 21 ∧
      IsLeast {o | KeyAtByte "# ü [a]\r\nb = é\r\n\u3000é\t= 2" ["a"] "é" o} 21 ∧
      ShowsAt "# ü [a]\r\nb = é\r\n\u3000é\t= 2" "é" 21 := by
  have hfeed : '\n' ∉ "é".toList := by decide
  have hkey : IsKey "é".toList := ⟨hfeed, 'é', [], rfl, by decide⟩
  have hfound : keyOffset? "# ü [a]\r\nb = é\r\n\u3000é\t= 2" ["a"] "é" = some 21 := by
    decide +kernel
  obtain ⟨hleast, -, hshows, -, -⟩ :=
    offset_least hkey "# ü [a]\r\nb = é\r\n\u3000é\t= 2" ["a"]
  exact ⟨hkey, hfound, (hleast 21).1 hfound, hshows 21 hfound⟩

end KeyOffset

end Dashboard
