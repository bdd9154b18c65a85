import Dashboard.Proofs.Config.KeyLine

/-!
# Which place a key is found at

The search for a key goes line by line, and its offsets are sums of byte lengths. What it finds does
not depend on lines or sums: it is the shortest part of the text behind which a line starts, but for
blanks, with the key. The header of a section is found likewise, as the shortest part of the text
behind which it stands, wherever that is.
-/

namespace Dashboard

open Text

namespace KeyOffset

variable {field pattern s : List Char}

/-! ### Where a pattern stands -/

/-- Whether `pattern` stands in the text behind `before`. -/
def OccursAt (pattern s before : List Char) : Prop := before ++ pattern <+: s

theorem OccursAt.beginning {before : List Char} (h : OccursAt pattern s before) : before <+: s :=
  (List.prefix_append before pattern).trans h

theorem occursAt_cons {c : Char} (h : ¬pattern <+: c :: s) {before : List Char} :
    OccursAt pattern (c :: s) before ↔ ∃ b, before = c :: b ∧ OccursAt pattern s b := by
  cases before with
  | nil => simpa [OccursAt] using h
  | cons d b =>
    rw [OccursAt, List.cons_append, List.cons_prefix_cons]
    constructor
    · rintro ⟨rfl, hb⟩
      exact ⟨b, rfl, hb⟩
    · rintro ⟨b', hb', hb⟩
      obtain ⟨rfl, rfl⟩ := List.cons.inj hb'
      exact ⟨rfl, hb⟩

theorem of_afterFirst? {skipped o : Nat} {rest : List Char}
    (h : afterFirst? pattern skipped s = some (o, rest)) :
    ∃ before, s = before ++ pattern ++ rest ∧ Shortest (OccursAt pattern s) before ∧
      o = skipped + byteLength (before ++ pattern) := by
  induction s generalizing skipped with
  | nil =>
    rw [afterFirst?] at h
    split at h
    · rename_i hempty
      obtain ⟨rfl, rfl⟩ := Prod.mk.inj (Option.some.inj h)
      obtain rfl := List.isEmpty_iff.1 hempty
      exact ⟨[], rfl, .nil List.prefix_rfl, rfl⟩
    · cases h
  | cons c s ih =>
    rw [afterFirst?] at h
    split at h
    · rename_i hbegins
      obtain ⟨rfl, rfl⟩ := Prod.mk.inj (Option.some.inj h)
      have hbegins : pattern <+: c :: s := List.isPrefixOf_iff_prefix.1 hbegins
      refine ⟨[], ?_, .nil hbegins, rfl⟩
      exact (List.prefix_iff_eq_append.1 hbegins).symm
    · rename_i hbegins
      have hbegins : ¬pattern <+: c :: s := mt List.isPrefixOf_iff_prefix.2 hbegins
      obtain ⟨before, hs, hshortest, ho⟩ := ih h
      refine ⟨c :: before, by rw [hs]; rfl, ⟨?_, ?_⟩, ?_⟩
      · exact (occursAt_cons hbegins).2 ⟨before, rfl, hshortest.holds⟩
      · intro t ht
        obtain ⟨b, rfl, hb⟩ := (occursAt_cons hbegins).1 ht
        exact Nat.succ_le_succ (hshortest.le_length b hb)
      · rw [ho, List.cons_append, byteLength_cons]
        omega

theorem not_occursAt_of_afterFirst? {skipped : Nat} (h : afterFirst? pattern skipped s = none)
    (before : List Char) : ¬OccursAt pattern s before := by
  induction s generalizing skipped before with
  | nil =>
    rw [afterFirst?] at h
    split at h
    · cases h
    · rename_i hempty
      intro hoccurs
      have hnil := List.append_eq_nil_iff.1 (List.prefix_nil.1 hoccurs)
      exact hempty (List.isEmpty_iff.2 hnil.2)
  | cons c s ih =>
    rw [afterFirst?] at h
    split at h
    · cases h
    · rename_i hbegins
      intro hoccurs
      obtain ⟨b, rfl, hb⟩ := (occursAt_cons (mt List.isPrefixOf_iff_prefix.2 hbegins)).1 hoccurs
      exact ih h b hb

/-! ### Keys at the start of a line -/

/-- Whether nothing but blanks stands between the last line feed, or else the start, and the end. -/
def StartsLine (before : List Char) : Prop :=
  (before.reverse.takeWhile (· != '\n')).all isBlank = true

instance (before : List Char) : Decidable (StartsLine before) :=
  inferInstanceAs (Decidable (_ = true))

/-- Whether `field` stands as a key at the start of a line of the text, behind `before`. -/
structure KeyAt (field s before : List Char) : Prop where
  startsLine : StartsLine before
  follows : ∃ after, s = before ++ field ++ after ∧ endsKey after = true

/-- What may be looked for as a key: a text within a line that does not start with a blank. -/
structure IsKey (field : List Char) : Prop where
  feed : '\n' ∉ field
  solid : ∃ c t, field = c :: t ∧ isBlank c = false

theorem KeyAt.beginning {before : List Char} (h : KeyAt field s before) : before <+: s := by
  obtain ⟨after, rfl, -⟩ := h.follows
  exact List.append_assoc before field after ▸ List.prefix_append before _

theorem startsLine_of_all_blank {before : List Char} (h : before.all isBlank = true) :
    StartsLine before := by
  refine List.all_eq_true.2 fun c hc => ?_
  have hmem : c ∈ before.reverse := (List.takeWhile_sublist _).subset hc
  exact List.all_eq_true.1 h c (List.mem_reverse.1 hmem)

/-- What stands before a line feed does not matter to the lines behind it. -/
theorem startsLine_append_feed (line before : List Char) :
    StartsLine (line ++ '\n' :: before) ↔ StartsLine before := by
  have hcut : (line ++ '\n' :: before).reverse.takeWhile (· != '\n') =
      before.reverse.takeWhile (· != '\n') := by
    rw [List.reverse_append, List.reverse_cons, List.append_assoc, List.takeWhile_append]
    split
    · rename_i hlength
      rw [List.singleton_append, List.takeWhile_cons_of_neg (by decide), List.append_nil]
      exact ((List.takeWhile_sublist _).eq_of_length hlength).symm
    · rfl
  rw [StartsLine, hcut, StartsLine]

/-- What starts a line stands where the line begins, or behind blanks. -/
theorem startsLine_iff {before : List Char} :
    StartsLine before ↔ ∃ b blanks, before = b ++ blanks ∧ BeginsLine b ∧
      blanks.all isBlank = true ∧ '\n' ∉ blanks := by
  constructor
  · intro h
    refine ⟨(before.reverse.dropWhile (· != '\n')).reverse,
      (before.reverse.takeWhile (· != '\n')).reverse, ?_, ?_, ?_, ?_⟩
    · rw [← List.reverse_append, List.takeWhile_append_dropWhile, List.reverse_reverse]
    · cases hlines : before.reverse.dropWhile (· != '\n') with
      | nil => exact .inl rfl
      | cons c t =>
        have hc : (c != '\n') = false := by
          have hhead := List.head?_dropWhile_not (· != '\n') before.reverse
          rw [hlines] at hhead
          exact hhead
        obtain rfl : c = '\n' := by simpa using hc
        exact .inr ⟨t.reverse, (List.reverse_cons ..).symm⟩
    · rw [List.all_reverse]
      exact h
    · intro hmem
      have hne := List.mem_takeWhile_imp (List.mem_reverse.1 hmem)
      exact absurd hne (by decide)
  · rintro ⟨b, blanks, rfl, rfl | ⟨t, rfl⟩, hblanks, -⟩
    · exact startsLine_of_all_blank hblanks
    · rw [List.append_assoc, List.singleton_append, startsLine_append_feed]
      exact startsLine_of_all_blank hblanks

theorem takeWhile_append (hfield : IsKey field) {blanks : List Char}
    (hblanks : blanks.all isBlank = true) (after : List Char) :
    (blanks ++ field ++ after).takeWhile isBlank = blanks := by
  obtain ⟨c, t, rfl, hc⟩ := hfield.solid
  rw [List.append_assoc, List.takeWhile_append_of_pos (List.all_eq_true.1 hblanks)]
  simp [hc]

theorem trimStart_append (hfield : IsKey field) {blanks : List Char}
    (hblanks : blanks.all isBlank = true) (after : List Char) :
    trimStart (blanks ++ field ++ after) = field ++ after := by
  obtain ⟨c, t, rfl, hc⟩ := hfield.solid
  rw [trimStart, List.append_assoc, List.dropWhile_append,
    List.dropWhile_eq_nil_iff.2 (List.all_eq_true.1 hblanks)]
  simp [hc]

/-- A key stands at the start of a line if it starts the line, behind the blanks of that line. -/
theorem keyAt_iff (hfield : IsKey field) {before : List Char} :
    KeyAt field s before ↔ ∃ b line, LineAt line s b ∧
      startsWithKey field (trimStart line) = true ∧ before = b ++ line.takeWhile isBlank := by
  constructor
  · rintro ⟨hstarts, after, rfl, hends⟩
    obtain ⟨b, blanks, rfl, hb, hblanks, hfeed⟩ := startsLine_iff.1 hstarts
    obtain ⟨l, rest, rfl, hl, hrest⟩ := exists_line after
    refine ⟨b, blanks ++ field ++ l, ⟨hb, ?_, rest, by simp, hrest⟩, ?_, ?_⟩
    · simp [hfeed, hfield.feed, hl]
    · rw [trimStart_append hfield hblanks, startsWithKey_iff]
      exact ⟨l, rfl, endsKey_of_append hrest hends⟩
    · rw [takeWhile_append hfield hblanks]
  · rintro ⟨b, line, hline, hkey, rfl⟩
    obtain ⟨after, rfl, -⟩ := hline.follows
    obtain ⟨rest, hrest, hends⟩ := startsWithKey_iff.1 hkey
    have hsplit : line.takeWhile isBlank ++ trimStart line = line :=
      List.takeWhile_append_dropWhile
    refine ⟨startsLine_iff.2 ⟨b, _, rfl, hline.begins, ?_, ?_⟩, rest ++ after, ?_,
      endsKey_append hends after⟩
    · exact List.all_eq_true.2 fun c hc => List.mem_takeWhile_imp hc
    · exact fun hmem => hline.feed ((List.takeWhile_sublist _).subset hmem)
    · rw [hrest] at hsplit
      calc
        _ = b ++ (line.takeWhile isBlank ++ (field ++ rest)) ++ after := by rw [hsplit]
        _ = _ := by simp only [List.append_assoc]

/-- The key that starts the first of the lines with the key is the first key. -/
theorem Shortest.keyAt (hfield : IsKey field) {before line : List Char}
    (h : Shortest (StartsLineAt field s) before) (hline : LineAt line s before)
    (hkey : startsWithKey field (trimStart line) = true) :
    Shortest (KeyAt field s) (before ++ line.takeWhile isBlank) := by
  refine ⟨(keyAt_iff hfield).2 ⟨before, line, hline, hkey, rfl⟩, fun other hother => ?_⟩
  obtain ⟨b, line', hline', hkey', rfl⟩ := (keyAt_iff hfield).1 hother
  rcases Nat.eq_or_lt_of_le (h.le_length b ⟨line', hline', hkey'⟩) with hlength | hlength
  · have hb : before = b := (List.prefix_of_prefix_length_le
      ((List.prefix_append _ _).trans hline.beginning)
      ((List.prefix_append _ _).trans hline'.beginning) hlength.le).eq_of_length hlength
    subst hb
    rw [hline.eq hline']
  · have hends := hline.append_lt hline' hlength
    have hblanks : (line.takeWhile isBlank).length ≤ line.length :=
      (List.takeWhile_sublist _).length_le
    rw [List.length_append] at hends ⊢
    rw [List.length_append]
    omega

theorem inLines?_eq_some_iff (hfield : IsKey field) {fuel offset o : Nat}
    (hfuel : s.length < fuel) :
    inLines? field fuel offset s = some o ↔
      ∃ before, Shortest (KeyAt field s) before ∧ o = offset + byteLength before := by
  have hforward {o : Nat} (h : inLines? field fuel offset s = some o) :
      ∃ before, Shortest (KeyAt field s) before ∧ o = offset + byteLength before := by
    obtain ⟨b, line, hshortest, hline, hkey, ho⟩ := startsLineAt_of_inLines? h
    exact ⟨_, hshortest.keyAt hfield hline hkey, ho⟩
  constructor
  · exact hforward
  · rintro ⟨before, hbefore, rfl⟩
    cases h : inLines? field fuel offset s with
    | none =>
      obtain ⟨b, line, hline, hkey, -⟩ := (keyAt_iff hfield).1 hbefore.holds
      exact absurd ⟨line, hline, hkey⟩ (not_startsLineAt_of_inLines? hfuel h b)
    | some o =>
      obtain ⟨before', hbefore', rfl⟩ := hforward h
      rw [hbefore'.eq (fun t ht => KeyAt.beginning ht) hbefore]

/-! ### Below the header of a section -/

/-- Whether the keys of the section at `path` are looked for behind `start`: behind the first place
where the header of the section stands or, outside of sections, in the whole text. -/
def SearchedFrom (text : List Char) (path : List String) (start : List Char) : Prop :=
  if path = [] then start = []
  else ∃ before, start = before ++ (sectionHeader path).toList ∧
    Shortest (OccursAt (sectionHeader path).toList text) before

theorem SearchedFrom.eq {text : List Char} {path : List String} {a b : List Char}
    (ha : SearchedFrom text path a) (hb : SearchedFrom text path b) : a = b := by
  unfold SearchedFrom at ha hb
  split at ha
  · rw [if_pos ‹_›] at hb
    rw [ha, hb]
  · rw [if_neg ‹_›] at hb
    obtain ⟨a', rfl, ha'⟩ := ha
    obtain ⟨b', rfl, hb'⟩ := hb
    rw [ha'.eq (fun t ht => OccursAt.beginning ht) hb']

theorem SearchedFrom.occurs {text : List Char} {path : List String} {start : List Char}
    (h : SearchedFrom text path start) (hpath : path ≠ []) :
    ∃ before, OccursAt (sectionHeader path).toList text before := by
  rw [SearchedFrom, if_neg hpath] at h
  obtain ⟨before, -, hbefore⟩ := h
  exact ⟨before, hbefore.holds⟩

/-- What is searched for keys, and the number of bytes before it. -/
def searched? (text : List Char) (path : List String) : Option (Nat × List Char) :=
  if path.isEmpty then some (0, text) else afterFirst? (sectionHeader path).toList 0 text

theorem searched?_eq_some_iff {text : List Char} {path : List String} {n : Nat}
    {rest : List Char} :
    searched? text path = some (n, rest) ↔
      ∃ start, text = start ++ rest ∧ SearchedFrom text path start ∧ n = byteLength start := by
  by_cases hpath : path = []
  · simp only [searched?, SearchedFrom, hpath, List.isEmpty_nil, if_true, Option.some.injEq,
      Prod.mk.injEq]
    constructor
    · rintro ⟨rfl, rfl⟩
      exact ⟨[], rfl, rfl, rfl⟩
    · rintro ⟨_, rfl, rfl, rfl⟩
      exact ⟨rfl, rfl⟩
  · have hsearched : searched? text path = afterFirst? (sectionHeader path).toList 0 text :=
      if_neg (mt List.isEmpty_iff.1 hpath)
    have hforward {n : Nat} {rest : List Char}
        (h : afterFirst? (sectionHeader path).toList 0 text = some (n, rest)) :
        ∃ start, text = start ++ rest ∧ SearchedFrom text path start ∧ n = byteLength start := by
      obtain ⟨before, htext, hbefore, hn⟩ := of_afterFirst? h
      exact ⟨_, htext, (if_neg hpath).mpr ⟨before, rfl, hbefore⟩, by rw [hn, Nat.zero_add]⟩
    rw [hsearched]
    constructor
    · exact hforward
    · rintro ⟨start, htext, hstart, rfl⟩
      cases h : afterFirst? (sectionHeader path).toList 0 text with
      | none =>
        obtain ⟨before, hbefore⟩ := hstart.occurs hpath
        exact absurd hbefore (not_occursAt_of_afterFirst? h before)
      | some found =>
        obtain ⟨n, rest'⟩ := found
        obtain ⟨start', htext', hstart', rfl⟩ := hforward h
        obtain rfl := hstart'.eq hstart
        rw [List.append_cancel_left (htext'.symm.trans htext)]

theorem keyOffset?_eq (content : String) (path : List String) (field : String) :
    keyOffset? content path field = (searched? content.toList path).bind fun found =>
      inLines? field.toList (found.2.length + 1) found.1 found.2 := rfl

/-- Whether the search below the header of the section at `path` ends with the key behind `before`:
this is the first key at the start of a line behind the first place where the header stands. -/
def FindsAt (text : List Char) (path : List String) (field before : List Char) : Prop :=
  ∃ start between rest, text = start ++ rest ∧ before = start ++ between ∧
    SearchedFrom text path start ∧ Shortest (KeyAt field rest) between

theorem FindsAt.beginning {text : List Char} {path : List String} {field before : List Char}
    (h : FindsAt text path field before) : before <+: text := by
  obtain ⟨start, between, rest, rfl, rfl, -, hbetween⟩ := h
  exact (List.prefix_append_right_inj start).2 hbetween.holds.beginning

theorem keyOffset?_eq_some_iff {content : String} {path : List String} {field : String}
    (hfield : IsKey field.toList) {o : Nat} :
    keyOffset? content path field = some o ↔
      ∃ before, FindsAt content.toList path field.toList before ∧ o = byteLength before := by
  rw [keyOffset?_eq, Option.bind_eq_some_iff]
  constructor
  · rintro ⟨⟨n, rest⟩, hsearched, hfound⟩
    obtain ⟨start, htext, hstart, rfl⟩ := searched?_eq_some_iff.1 hsearched
    obtain ⟨between, hbetween, rfl⟩ :=
      (inLines?_eq_some_iff hfield (Nat.lt_succ_self _)).1 hfound
    exact ⟨start ++ between, ⟨start, between, rest, htext, rfl, hstart, hbetween⟩,
      (byteLength_append start between).symm⟩
  · rintro ⟨_, ⟨start, between, rest, htext, rfl, hstart, hbetween⟩, rfl⟩
    refine ⟨(byteLength start, rest), searched?_eq_some_iff.2 ⟨start, htext, hstart, rfl⟩, ?_⟩
    exact (inLines?_eq_some_iff hfield (Nat.lt_succ_self _)).2
      ⟨between, hbetween, byteLength_append start between⟩

/-- The key of another section is not found, and a sign of two bytes counts twice. -/
example : keyOffset? "b = 1\n# ä\n[a]\n  b = 2\n" ["a"] "b" = some 17 := by
  decide +kernel

theorem keyOffset?_eq_byteLength_iff {content : String} {path : List String} {field : String}
    (hfield : IsKey field.toList) {before : List Char} (hbefore : before <+: content.toList) :
    keyOffset? content path field = some (byteLength before) ↔
      FindsAt content.toList path field.toList before := by
  rw [keyOffset?_eq_some_iff hfield]
  constructor
  · rintro ⟨found, hfound, hlength⟩
    exact eq_of_byteLength_eq hbefore hfound.beginning hlength ▸ hfound
  · intro h
    exact ⟨before, h, rfl⟩

/-- A key of a section is found only if the header of the section stands somewhere. -/
theorem occursAt_of_keyOffset? {content : String} {path : List String} (hpath : path ≠ [])
    {field : String} {o : Nat} (h : keyOffset? content path field = some o) :
    ∃ before, OccursAt (sectionHeader path).toList content.toList before := by
  rw [keyOffset?_eq, Option.bind_eq_some_iff] at h
  obtain ⟨⟨n, rest⟩, hsearched, -⟩ := h
  obtain ⟨start, -, hstart, -⟩ := searched?_eq_some_iff.1 hsearched
  exact hstart.occurs hpath

end KeyOffset

end Dashboard
