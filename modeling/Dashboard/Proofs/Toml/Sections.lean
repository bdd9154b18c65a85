import Dashboard.Proofs.Toml.Values

/-!
# Reading a printed document

The text of a document is read line by line into the sections it was printed from, if their headers
and their values fit. A header that is too long or a value that does not fit ends the reading.
-/

namespace Dashboard.Toml

/-! ### The text of a section -/

def Header.text (path : List String) : Header → Option (List Char)
  | .root => none
  | .table rest => some ('[' :: pathText (path ++ rest) ++ [']'])
  | .element rest => some ("[[".toList ++ pathText (path ++ rest) ++ "]]".toList)

def linesText (pairs : List (List String × Value)) : List Char :=
  pairs.flatMap fun p => pathText p.1 ++ " = ".toList ++ valueText p.2 ++ ['\n']

/-- The text of a section of the table at `path`. -/
def Section.block (path : List String) (s : Section) : Block :=
  ⟨s.header.text path, linesText s.pairs⟩

theorem Section.block_under (path : List String) (key : String) (s : Section)
    (hs : s.header.IsBelow) : (s.under key).block path = s.block (path ++ [key]) := by
  obtain ⟨header, pairs⟩ := s
  cases header with
  | root => exact hs.elim
  | table rest | element rest => simp [Section.block, Section.under, Header.under, Header.text]

theorem plainLines_eq (entries : Entries) :
    plainLines entries = linesText (pairsOf (plainEntries entries)) := by
  rw [plainLines, linesText, pairsOf, List.flatMap_map]
  simp [plainEntries, pathText, List.intercalate]

theorem ownBlock_eq (path : List String) (key : String) (entries : Entries) :
    ownBlock (path ++ [key]) false entries =
      if entries.isEmpty || entries.any (·.2.isPlain) then
        [(ownSection (.table [key]) entries).block path]
      else [] := by
  rw [ownBlock, if_neg (by simp), if_neg (by decide), plainLines_eq]
  rfl

theorem ownBlock_repeated_eq (path : List String) (key : String) (entries : Entries) :
    ownBlock (path ++ [key]) true entries =
      [(ownSection (.element [key]) entries).block path] := by
  rw [ownBlock, if_neg (by simp), if_pos rfl, plainLines_eq]
  rfl

theorem map_block_under (path : List String) (key : String) (entries : Entries) :
    ((entrySections entries).map (.under key)).map (Section.block path) =
      (entrySections entries).map (Section.block (path ++ [key])) := by
  rw [List.map_map]
  exact List.map_congr_left fun s hs =>
    Section.block_under path key s (isBelow_of_mem_entrySections s hs)

mutual

theorem valueBlocks_eq (path : List String) (key : String) : ∀ v : Value,
    valueBlocks (path ++ [key]) v = (valueSections key v).map (Section.block path)
  | .table entries => by
    rw [valueBlocks, valueSections, List.map_append, map_block_under, ownBlock_eq,
      entryBlocks_eq (path ++ [key]) entries, apply_ite (List.map _)]
    rfl
  | .array items => by
    rw [valueBlocks, valueSections, elementBlocks_eq path key items, apply_ite (List.map _)]
    rfl
  | .string _ => rfl
  | .integer _ => rfl
  | .float _ => rfl
  | .boolean _ => rfl
  | .datetime _ => rfl

theorem entryBlocks_eq (path : List String) : ∀ entries : List (String × Value),
    entryBlocks path entries = (entrySections entries).map (Section.block path)
  | [] => rfl
  | (k, v) :: rest => by
    rw [entryBlocks, entrySections, valueBlocks_eq path k v, entryBlocks_eq path rest,
      List.map_append]

theorem elementBlocks_eq (path : List String) (key : String) : ∀ items : List Value,
    elementBlocks (path ++ [key]) items = (elementSections key items).map (Section.block path)
  | [] => rfl
  | .table entries :: rest => by
    rw [elementBlocks, elementSections, List.map_append, List.map_cons, map_block_under,
      ownBlock_repeated_eq, entryBlocks_eq (path ++ [key]) entries, elementBlocks_eq path key rest]
    rfl
  | .array _ :: rest => elementBlocks_eq path key rest
  | .string _ :: rest => elementBlocks_eq path key rest
  | .integer _ :: rest => elementBlocks_eq path key rest
  | .float _ :: rest => elementBlocks_eq path key rest
  | .boolean _ :: rest => elementBlocks_eq path key rest
  | .datetime _ :: rest => elementBlocks_eq path key rest

end

/-- A document is printed section by section. -/
theorem print_eq (entries : Entries) :
    print entries =
      String.ofList (joinBlocks true ((documentSections entries).map (Section.block []))) := by
  rw [print, documentSections, List.map_cons, entryBlocks_eq, ownBlock, if_pos (by rfl),
    plainLines_eq]
  rfl

/-! ### Reading the lines -/

/-- How many parts the path of a header has. -/
def Header.length : Header → ℕ
  | .root => 0
  | .table path => path.length
  | .element path => path.length

/-- Whether a section can be read back: its header has at most `parts` parts, and its values fit. -/
def Section.fits (parts : ℕ) (s : Section) : Bool :=
  s.header.length ≤ parts && s.pairs.all (fun p => p.2.fits nestingLimit)

/-- How many parts a header may have. -/
def headerLimit : ℕ := 79

/-- A section as it is printed: under a header that names a table, keys without points. -/
structure Section.IsPrinted (s : Section) : Prop where
  isBelow : s.header.IsBelow
  pairs : ∃ entries, s.pairs = pairsOf entries ∧ ∀ e ∈ entries, e.2.Sound

theorem endOfLine?_lineFeed (s : List Char) : endOfLine? ('\n' :: s) = some s := rfl

/-- A line with a key and its value. -/
theorem sectionsFrom_pair {v : Value} (hv : v.Sound) (key : String) (fuel : ℕ) (header : Header)
    (pairs : List (List String × Value)) (s : List Char) :
    sectionsFrom (fuel + 1) header pairs (pairText key v ('\n' :: s)) =
      if v.fits nestingLimit then sectionsFrom fuel header (([key], v) :: pairs) s else none := by
  have hpair := keyValue_pairText hv (value_valueText hv nestingLimit) key
    (c := '\n') (by decide) s
  obtain ⟨c, t, hkey, hc⟩ := keyText_eq_cons key
  have hne {d : Char} := keyText_head_ne hkey (d := d)
  have hskip : skipSpace (pairText key v ('\n' :: s)) = pairText key v ('\n' :: s) :=
    skipSpace_keyText key _
  obtain ⟨u, hu⟩ : ∃ u, pairText key v ('\n' :: s) = c :: u := ⟨_, by rw [pairText, hkey]; rfl⟩
  have hnewline : newline? (c :: u) = none :=
    newline?_eq_none (hne (by decide) (by decide) (by decide))
      (hne (by decide) (by decide) (by decide)) u
  rw [hu] at hpair hskip ⊢
  rw [sectionsFrom, hskip]
  split
  · rename_i h
    exact absurd h (List.cons_ne_nil _ _)
  · rename_i h
    exact absurd (List.cons.inj h).1 (hne (by decide) (by decide) (by decide))
  · rename_i h
    exact absurd (List.cons.inj h).1 (hne (by decide) (by decide) (by decide))
  · rw [hnewline]
    simp only [pairLine, hpair]
    cases v.fits nestingLimit with
    | false => rfl
    | true => rfl

theorem pathText_eq_cons {path : List String} (hne : path ≠ []) :
    ∃ c s, pathText path = c :: s ∧ c ≠ '[' := by
  obtain ⟨key, rest, rfl⟩ := List.exists_cons_of_ne_nil hne
  obtain ⟨c, s, hkey, -⟩ := keyText_eq_cons key
  have hc := keyText_head_ne hkey (d := '[') (by decide) (by decide) (by decide)
  cases rest with
  | nil => exact ⟨c, s, by simpa [pathText, List.intercalate] using hkey, hc⟩
  | cons next rest => exact ⟨c, _, by rw [pathText_cons_cons, hkey, List.cons_append], hc⟩

theorem headerLine_table {path : List String} (hne : path ≠ []) (s : List Char) :
    headerLine (pathText path ++ ']' :: '\n' :: s) =
      if path.length ≤ 79 then some (.table path, s) else none := by
  obtain ⟨c, t, htext, hc⟩ := pathText_eq_cons hne
  have hkey : dottedKey (pathText path ++ ']' :: '\n' :: s) =
      if path.length ≤ 79 then some (path, ']' :: '\n' :: s) else none :=
    keyParts_pathText (c := ']') hne (by decide)
      (fun h => absurd (Option.some.inj h) (by decide)) 79
  rw [htext, List.cons_append] at hkey ⊢
  rw [headerLine, hkey]
  · by_cases hlen : path.length ≤ 79 <;> simp [hlen, endOfLine?_lineFeed]
  · exact fun _ h => hc (List.cons.inj h).1

theorem headerLine_element {path : List String} (hne : path ≠ []) (s : List Char) :
    headerLine ('[' :: (pathText path ++ ']' :: ']' :: '\n' :: s)) =
      if path.length ≤ 79 then some (.element path, s) else none := by
  have hkey : dottedKey (pathText path ++ ']' :: ']' :: '\n' :: s) =
      if path.length ≤ 79 then some (path, ']' :: ']' :: '\n' :: s) else none :=
    keyParts_pathText (c := ']') hne (by decide)
      (fun h => absurd (Option.some.inj h) (by decide)) 79
  rw [headerLine, hkey]
  by_cases hlen : path.length ≤ 79 <;> simp [hlen, endOfLine?_lineFeed]

theorem sectionsFrom_bracket (fuel : ℕ) (header : Header) (pairs : List (List String × Value))
    (s : List Char) :
    sectionsFrom (fuel + 1) header pairs ('[' :: s) =
      match headerLine s with
      | none => none
      | some (next, rest) =>
        (sectionsFrom fuel next [] rest).map (Section.mk header pairs.reverse :: ·) := rfl

/-- A header line. -/
theorem sectionsFrom_header {h : Header} (hh : h.IsBelow) {text : List Char}
    (htext : h.text [] = some text) (fuel : ℕ) (header : Header)
    (pairs : List (List String × Value)) (s : List Char) :
    sectionsFrom (fuel + 1) header pairs (text ++ '\n' :: s) =
      if h.length ≤ headerLimit then
        (sectionsFrom fuel h [] s).map (⟨header, pairs.reverse⟩ :: ·)
      else none := by
  cases h with
  | root => exact hh.elim
  | table path =>
    obtain rfl := Option.some.inj htext
    have htext : '[' :: pathText ([] ++ path) ++ [']'] ++ '\n' :: s =
        '[' :: (pathText path ++ ']' :: '\n' :: s) := by simp
    rw [htext, sectionsFrom_bracket, headerLine_table hh]
    by_cases hlen : path.length ≤ 79 <;> simp [hlen, Header.length, headerLimit]
  | element path =>
    obtain rfl := Option.some.inj htext
    have htext : "[[".toList ++ pathText ([] ++ path) ++ "]]".toList ++ '\n' :: s =
        '[' :: '[' :: (pathText path ++ ']' :: ']' :: '\n' :: s) := by simp
    rw [htext, sectionsFrom_bracket, headerLine_element hh]
    by_cases hlen : path.length ≤ 79 <;> simp [hlen, Header.length, headerLimit]

/-- The empty line in front of a header. -/
theorem sectionsFrom_blank (first : Bool) (header : Header) (pairs : List (List String × Value))
    (s : List Char) {fuel : ℕ} (hfuel : ((if first then [] else ['\n']) ++ s).length < fuel) :
    ∃ fuel', s.length < fuel' ∧
      sectionsFrom fuel header pairs ((if first then [] else ['\n']) ++ s) =
        sectionsFrom fuel' header pairs s := by
  cases first with
  | true => exact ⟨fuel, hfuel, rfl⟩
  | false =>
    obtain ⟨fuel, rfl⟩ := Nat.exists_eq_succ_of_ne_zero (Nat.ne_of_gt (Nat.zero_lt_of_lt hfuel))
    exact ⟨fuel, Nat.lt_of_succ_lt_succ hfuel, rfl⟩

theorem linesText_pairsOf_cons (e : String × Value) (entries : Entries) (s : List Char) :
    linesText (pairsOf (e :: entries)) ++ s =
      pairText e.1 e.2 ('\n' :: (linesText (pairsOf entries) ++ s)) := by
  simp [linesText, pairsOf, pairText, pathText, List.intercalate]

/-- The lines below a header. -/
theorem sectionsFrom_lines {entries : Entries} (hs : ∀ e ∈ entries, e.2.Sound) (header : Header)
    (pairs : List (List String × Value)) (s : List Char) {fuel : ℕ}
    (hfuel : (linesText (pairsOf entries) ++ s).length < fuel) :
    ∃ fuel', s.length < fuel' ∧
      sectionsFrom fuel header pairs (linesText (pairsOf entries) ++ s) =
        if (pairsOf entries).all (fun p => p.2.fits nestingLimit) then
          sectionsFrom fuel' header ((pairsOf entries).reverse ++ pairs) s
        else none := by
  induction entries generalizing fuel pairs with
  | nil => exact ⟨fuel, hfuel, rfl⟩
  | cons e entries ih =>
    obtain ⟨he, hrest⟩ := List.forall_mem_cons.1 hs
    obtain ⟨fuel, rfl⟩ := Nat.exists_eq_succ_of_ne_zero (Nat.ne_of_gt (Nat.zero_lt_of_lt hfuel))
    rw [linesText_pairsOf_cons] at hfuel ⊢
    have hlen : (linesText (pairsOf entries) ++ s).length < fuel := by
      rw [pairText] at hfuel
      simp only [List.length_append, List.length_cons] at hfuel ⊢
      omega
    obtain ⟨fuel', hfuel', hread⟩ := ih hrest (([e.1], e.2) :: pairs) hlen
    refine ⟨fuel', hfuel', ?_⟩
    have hall : (pairsOf (e :: entries)).all (fun p => p.2.fits nestingLimit) =
        (e.2.fits nestingLimit && (pairsOf entries).all fun p => p.2.fits nestingLimit) := rfl
    have hreverse : (pairsOf (e :: entries)).reverse ++ pairs =
        (pairsOf entries).reverse ++ ([e.1], e.2) :: pairs := by simp [pairsOf]
    rw [sectionsFrom_pair he, hread, hall, hreverse]
    cases e.2.fits nestingLimit <;> rfl

/-- The sections behind the current one. -/
theorem sectionsFrom_joinBlocks {sections : List Section} (h : ∀ s ∈ sections, s.IsPrinted)
    (first : Bool) (header : Header) (pairs : List (List String × Value)) {fuel : ℕ}
    (hfuel : (joinBlocks first (sections.map (Section.block []))).length < fuel) :
    sectionsFrom fuel header pairs (joinBlocks first (sections.map (Section.block []))) =
      if sections.all (Section.fits headerLimit) then some (⟨header, pairs.reverse⟩ :: sections)
      else none := by
  induction sections generalizing fuel first header pairs with
  | nil =>
    obtain ⟨fuel, rfl⟩ := Nat.exists_eq_succ_of_ne_zero (Nat.ne_of_gt (Nat.zero_lt_of_lt hfuel))
    rfl
  | cons s sections ih =>
    obtain ⟨hs, hrest⟩ := List.forall_mem_cons.1 h
    obtain ⟨entries, hpairs, hsound⟩ := hs.pairs
    obtain ⟨text, htext⟩ : ∃ text, s.header.text [] = some text := by
      cases hheader : s.header with
      | root => exact (hheader ▸ hs.isBelow : Header.IsBelow .root).elim
      | table path => exact ⟨_, rfl⟩
      | element path => exact ⟨_, rfl⟩
    obtain ⟨tail, htail⟩ : ∃ tail, tail = joinBlocks false (sections.map (Section.block [])) :=
      ⟨_, rfl⟩
    have hjoin : joinBlocks first ((s :: sections).map (Section.block [])) =
        (if first then [] else ['\n']) ++
          (text ++ '\n' :: (linesText (pairsOf entries) ++ tail)) := by
      rw [List.map_cons, Section.block, htext, hpairs, joinBlocks, htail]
      simp
    rw [hjoin] at hfuel ⊢
    obtain ⟨fuel, hfuel, hblank⟩ := sectionsFrom_blank first header pairs _ hfuel
    obtain ⟨fuel, rfl⟩ := Nat.exists_eq_succ_of_ne_zero (Nat.ne_of_gt (Nat.zero_lt_of_lt hfuel))
    have hlen : (linesText (pairsOf entries) ++ tail).length < fuel := by
      simp only [List.length_append, List.length_cons] at hfuel ⊢
      omega
    obtain ⟨fuel', hfuel', hlines⟩ := sectionsFrom_lines hsound s.header [] tail hlen
    rw [htail] at hfuel'
    have hself : (⟨s.header, pairsOf entries⟩ : Section) = s := by rw [← hpairs]
    have hfits : s.fits headerLimit = (decide (s.header.length ≤ headerLimit) &&
        (pairsOf entries).all fun p => p.2.fits nestingLimit) := by
      rw [Section.fits, hpairs]
    rw [hblank, sectionsFrom_header hs.isBelow htext, hlines, List.append_nil, htail,
      ih hrest false s.header _ hfuel', List.reverse_reverse, hself, List.all_cons, hfits]
    by_cases hlen : s.header.length ≤ headerLimit <;>
      cases (pairsOf entries).all (fun p => p.2.fits nestingLimit) <;>
        cases sections.all (Section.fits headerLimit) <;> simp [hlen]

/-! ### Documents -/

theorem isPrinted_under {s : Section} (hs : s.IsPrinted) (key : String) : (s.under key).IsPrinted :=
  ⟨Header.isBelow_under key s.header, hs.pairs⟩

theorem sound_of_mem_plainEntries {entries : Entries} (hs : ∀ e ∈ entries, e.2.Sound) :
    ∀ e ∈ plainEntries entries, e.2.Sound :=
  fun e he => hs e (List.mem_of_mem_filter he)

theorem isPrinted_own (header : Header) (hheader : header.IsBelow) {entries : Entries}
    (hs : ∀ e ∈ entries, e.2.Sound) : (ownSection header entries).IsPrinted :=
  ⟨hheader, plainEntries entries, rfl, sound_of_mem_plainEntries hs⟩

/-- Every section of a printable value is printed under a header. -/
theorem Value.Sound.isPrinted {v : Value} (h : v.Sound) :
    (∀ key, ∀ s ∈ valueSections key v, s.IsPrinted) ∧
      ∀ entries, v = .table entries →
        (∀ e ∈ entries, e.2.Sound) ∧ ∀ s ∈ entrySections entries, s.IsPrinted := by
  induction h with
  | @table entries hnodup h ih =>
    have hentries : ∀ s ∈ entrySections entries, s.IsPrinted := by
      intro s hs
      rw [entrySections_eq, List.mem_flatMap] at hs
      obtain ⟨e, he, hs⟩ := hs
      exact (ih e he).1 e.1 s hs
    refine ⟨fun key s hs => ?_, fun entries' heq => Value.table.inj heq ▸ ⟨h, hentries⟩⟩
    rw [valueSections, List.mem_append] at hs
    rcases hs with hs | hs
    · split at hs
      · rw [List.mem_singleton.1 hs]
        exact isPrinted_own (.table [key]) (List.cons_ne_nil _ _) h
      · exact absurd hs List.not_mem_nil
    · obtain ⟨s, hmem, rfl⟩ := List.mem_map.1 hs
      exact isPrinted_under (hentries s hmem) key
  | @array items h ih =>
    refine ⟨fun key s hs => ?_, fun entries heq => by cases heq⟩
    rw [valueSections] at hs
    split at hs
    · exact absurd hs List.not_mem_nil
    · rename_i hplain
      obtain ⟨tables, -, rfl⟩ := exists_tables (Bool.not_eq_true _ ▸ hplain)
      rw [elementSections_map_table, List.mem_flatMap] at hs
      obtain ⟨t, ht, hs⟩ := hs
      obtain ⟨hsound, hentries⟩ := (ih _ (List.mem_map_of_mem ht)).2 t rfl
      rcases List.mem_cons.1 hs with rfl | hs
      · exact isPrinted_own (.element [key]) (List.cons_ne_nil _ _) hsound
      · obtain ⟨s, hmem, rfl⟩ := List.mem_map.1 hs
        exact isPrinted_under (hentries s hmem) key
  | _ => exact ⟨fun key s hs => absurd hs List.not_mem_nil, fun entries heq => by cases heq⟩

/-- Whether a document can be read back. -/
def documentFits (entries : Entries) : Bool :=
  (documentSections entries).all (Section.fits headerLimit)

theorem skipMark_of_head?_ne {s : List Char} (h : s.head? ≠ some '\uFEFF') : skipMark s = s := by
  rw [skipMark]
  rintro s rfl
  exact h rfl

theorem joinBlocks_document (entries : Entries) :
    joinBlocks true ((documentSections entries).map (Section.block [])) =
      linesText (pairsOf (plainEntries entries)) ++
        joinBlocks (linesText (pairsOf (plainEntries entries))).isEmpty
          ((entrySections entries).map (Section.block [])) :=
  rfl

/-- A printed document does not begin with a byte order mark. -/
theorem skipMark_document {entries : Entries} (h : ∀ s ∈ entrySections entries, s.IsPrinted) :
    skipMark (joinBlocks true ((documentSections entries).map (Section.block []))) =
      joinBlocks true ((documentSections entries).map (Section.block [])) := by
  refine skipMark_of_head?_ne ?_
  rw [joinBlocks_document]
  cases plainEntries entries with
  | cons e plain =>
    obtain ⟨c, s, hkey, -⟩ := keyText_eq_cons e.1
    have hc := keyText_head_ne hkey (d := '\uFEFF') (by decide) (by decide) (by decide)
    rw [linesText_pairsOf_cons, pairText, hkey]
    exact fun heq => hc (Option.some.inj heq)
  | nil =>
    cases hsections : entrySections entries with
    | nil => exact fun heq => by cases heq
    | cons s sections =>
      have hbelow := (h s (hsections ▸ List.mem_cons_self)).isBelow
      obtain ⟨header, pairs⟩ := s
      cases header with
      | root => exact hbelow.elim
      | table path => exact fun heq => absurd (Option.some.inj heq) (by decide)
      | element path => exact fun heq => absurd (Option.some.inj heq) (by decide)

/-- The sections of a printed document are read back if they fit, and the document is not read
otherwise. -/
theorem sections_print {entries : Entries} (h : (Value.table entries).Sound) :
    sections (print entries) =
      if documentFits entries then some (documentSections entries) else none := by
  obtain ⟨hsound, hprinted⟩ := h.isPrinted.2 entries rfl
  have hplain := sound_of_mem_plainEntries hsound
  have hfits : documentFits entries =
      ((pairsOf (plainEntries entries)).all (fun p => p.2.fits nestingLimit) &&
        (entrySections entries).all (Section.fits headerLimit)) := rfl
  rw [sections, print_eq, String.toList_ofList, skipMark_document hprinted, joinBlocks_document]
  obtain ⟨fuel, hfuel, hlines⟩ := sectionsFrom_lines hplain .root []
    (joinBlocks (linesText (pairsOf (plainEntries entries))).isEmpty
      ((entrySections entries).map (Section.block []))) (Nat.lt_succ_self _)
  rw [hlines, sectionsFrom_joinBlocks hprinted _ _ _ hfuel, hfits, List.append_nil,
    List.reverse_reverse]
  cases (pairsOf (plainEntries entries)).all (fun p => p.2.fits nestingLimit) <;>
    cases (entrySections entries).all (Section.fits headerLimit) <;> rfl

/-- A document that fits is read back as it was printed. -/
theorem parse?_print {entries : Entries} (h : (Value.table entries).Sound)
    (hfits : documentFits entries = true) :
    ∃ read, parse? (print entries) = some read ∧
      ConfigTree.entriesOfToml read = ConfigTree.entriesOfToml entries := by
  obtain ⟨nodes, hfold, hread⟩ := foldlM_documentSections h
  refine ⟨nodesToEntries nodes, ?_, hread⟩
  rw [parse?, sections_print h, if_pos hfits]
  simp [hfold]

/-- A document that does not fit cannot be read. -/
theorem parse?_print_eq_none {entries : Entries} (h : (Value.table entries).Sound)
    (hfits : documentFits entries = false) : parse? (print entries) = none := by
  rw [parse?, sections_print h, hfits]
  rfl

/-! ### How deep a document goes -/

/-- Whether an entry can be read back from below a header with `parts` parts to spare. -/
def entryFits (parts : ℕ) (e : String × Value) : Bool :=
  if e.2.isPlain then e.2.fits nestingLimit else (valueSections e.1 e.2).all (Section.fits parts)

theorem Section.fits_under {s : Section} (hs : s.header.IsBelow) (key : String) (parts : ℕ) :
    (s.under key).fits (parts + 1) = s.fits parts := by
  obtain ⟨header, pairs⟩ := s
  cases header with
  | root => exact hs.elim
  | table path | element path =>
    have hlen : decide ((key :: path).length ≤ parts + 1) = decide (path.length ≤ parts) :=
      decide_eq_decide.2 (by rw [List.length_cons, Nat.add_le_add_iff_right])
    exact congrArg (· && pairs.all fun p => p.2.fits nestingLimit) hlen

theorem Section.fits_zero {s : Section} (hs : s.header.IsBelow) : s.fits 0 = false := by
  obtain ⟨header, pairs⟩ := s
  cases header with
  | root => exact hs.elim
  | table path | element path =>
    change path ≠ [] at hs
    simp [Section.fits, Header.length, hs]

theorem all_fits_map_under (key : String) (parts : ℕ) {sections : List Section}
    (h : ∀ s ∈ sections, s.header.IsBelow) :
    (sections.map (.under key)).all (Section.fits (parts + 1)) =
      sections.all (Section.fits parts) := by
  induction sections with
  | nil => rfl
  | cons s sections ih =>
    obtain ⟨hs, hrest⟩ := List.forall_mem_cons.1 h
    rw [List.map_cons, List.all_cons, List.all_cons, ih hrest, Section.fits_under hs]

/-- The plain values and the sections of a table fit if its entries do. -/
theorem all_entryFits (parts : ℕ) (entries : Entries) :
    ((pairsOf (plainEntries entries)).all (fun p => p.2.fits nestingLimit) &&
      (entrySections entries).all (Section.fits parts)) = entries.all (entryFits parts) := by
  induction entries with
  | nil => rfl
  | cons e entries ih =>
    obtain ⟨key, v⟩ := e
    rw [List.all_cons, ← ih, entryFits, entrySections, List.all_append]
    cases hplain : v.isPlain with
    | true =>
      have hentries : plainEntries ((key, v) :: entries) = (key, v) :: plainEntries entries :=
        List.filter_cons_of_pos hplain
      rw [hentries, valueSections_of_isPlain hplain, if_pos rfl]
      exact Bool.and_assoc _ _ _
    | false =>
      have hentries : plainEntries ((key, v) :: entries) = plainEntries entries :=
        List.filter_cons_of_neg (by simp [hplain])
      rw [hentries, if_neg (by decide)]
      exact Bool.and_left_comm _ _ _

theorem all_valueSections_zero {v : Value} (hv : v.Sound) (hplain : v.isPlain = false)
    (key : String) : (valueSections key v).all (Section.fits 0) = false := by
  obtain ⟨n, -, hfold⟩ := hv.builds.1 hplain
  have hfold := hfold key [] List.not_mem_nil
  have hbelow : ∀ s ∈ valueSections key v, s.header.IsBelow := isBelow_of_mem_valueSections
  cases hsections : valueSections key v with
  | nil =>
    rw [hsections] at hfold
    exact absurd (Option.some.inj hfold) (by simp)
  | cons s sections =>
    have hs : s.header.IsBelow := hbelow s (hsections ▸ List.mem_cons_self)
    rw [List.all_cons, Section.fits_zero hs, Bool.false_and]

theorem all_valueSections_table (key : String) (parts : ℕ) (entries : Entries) :
    (valueSections key (.table entries)).all (Section.fits (parts + 1)) =
      entries.all (entryFits parts) := by
  rw [valueSections, List.all_append, all_fits_map_under _ _ isBelow_of_mem_entrySections,
    ← all_entryFits]
  congr 1
  split
  · have hlen : decide ((Header.table [key]).length ≤ parts + 1) = true := by simp [Header.length]
    rw [List.all_cons, List.all_nil, Bool.and_true, Section.fits]
    exact (congrArg (· && _) hlen).trans (Bool.true_and _)
  · rename_i hown
    have hplain : plainEntries entries = [] := List.filter_eq_nil_iff.2 fun e he hplain =>
      hown (by rw [Bool.or_eq_true]; exact .inr (List.any_eq_true.2 ⟨e, he, hplain⟩))
    rw [hplain]
    rfl

theorem all_valueSections_tables (key : String) (parts : ℕ) {tables : List Entries}
    (hne : tables ≠ []) :
    (valueSections key (.array (tables.map .table))).all (Section.fits (parts + 1)) =
      tables.all fun entries => entries.all (entryFits parts) := by
  have hplain : ¬(Value.array (tables.map .table)).isPlain = true := by
    simp [Value.isPlain, hne, Value.isTable]
  rw [valueSections, if_neg hplain, elementSections_map_table, List.all_flatMap]
  congr 1
  funext entries
  have hlen : decide ((Header.element [key]).length ≤ parts + 1) = true := by simp [Header.length]
  rw [List.all_cons, all_fits_map_under _ _ isBelow_of_mem_entrySections, ← all_entryFits,
    Section.fits]
  exact congrArg (· && _) ((congrArg (· && _) hlen).trans (Bool.true_and _))

theorem documentFits_eq (entries : Entries) :
    documentFits entries = entries.all (entryFits headerLimit) :=
  all_entryFits headerLimit entries

end Dashboard.Toml
