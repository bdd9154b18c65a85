import Dashboard.Config.KeyOffset
import Mathlib.Data.List.TakeWhile

/-!
# The lines that a key is looked for in

The search for a key goes line by line, and its offsets are sums of byte lengths. The lines of a
text are its first line and those of the rest, and the search takes them in this order. So it finds
the first line that starts, but for blanks, with the key, and the place behind these blanks. The
line feed that ends a line is no part of a key and does not end one.
-/

namespace Dashboard

open Text

namespace KeyOffset

variable {field line s before : List Char}

/-! ### Lengths in bytes -/

theorem foldl_utf8Size (s : List Char) (n : Nat) :
    s.foldl (fun n c => n + c.utf8Size) n = n + byteLength s := by
  induction s generalizing n with
  | nil => rfl
  | cons c s ih =>
    rw [byteLength, List.foldl_cons, List.foldl_cons, ih, ih]
    omega

@[simp] theorem byteLength_nil : byteLength [] = 0 := rfl

@[simp] theorem byteLength_cons (c : Char) (s : List Char) :
    byteLength (c :: s) = c.utf8Size + byteLength s := by
  rw [byteLength, List.foldl_cons, foldl_utf8Size, Nat.zero_add]

@[simp] theorem byteLength_append (s t : List Char) :
    byteLength (s ++ t) = byteLength s + byteLength t := by
  induction s with
  | nil => simp
  | cons c s ih => simp [ih, Nat.add_assoc]

theorem eq_nil_of_byteLength_eq_zero (h : byteLength s = 0) : s = [] := by
  cases s with
  | nil => rfl
  | cons c s =>
    have hc : 0 < c.utf8Size := c.utf8Size_pos
    rw [byteLength_cons] at h
    omega

/-- A beginning of a text is known by its length in bytes. -/
theorem eq_of_byteLength_eq {a b : List Char} (ha : a <+: s) (hb : b <+: s)
    (h : byteLength a = byteLength b) : a = b := by
  rcases List.prefix_or_prefix_of_prefix ha hb with ⟨t, rfl⟩ | ⟨t, rfl⟩
  · have ht : t = [] := eq_nil_of_byteLength_eq_zero (by rw [byteLength_append] at h; omega)
    rw [ht, List.append_nil]
  · have ht : t = [] := eq_nil_of_byteLength_eq_zero (by rw [byteLength_append] at h; omega)
    rw [ht, List.append_nil]

/-! ### The first of many places -/

/-- The text has the property, and no shorter text has it. -/
structure Shortest (P : List Char → Prop) (s : List Char) : Prop where
  holds : P s
  le_length : ∀ t, P t → s.length ≤ t.length

/-- Of the beginnings of a text only one is the shortest with a property. -/
theorem Shortest.eq {P : List Char → Prop} (hP : ∀ t, P t → t <+: s) {a b : List Char}
    (ha : Shortest P a) (hb : Shortest P b) : a = b := by
  have hlength : a.length = b.length :=
    Nat.le_antisymm (ha.le_length b hb.holds) (hb.le_length a ha.holds)
  exact (List.prefix_of_prefix_length_le (hP a ha.holds) (hP b hb.holds) hlength.le).eq_of_length
    hlength

theorem Shortest.nil {P : List Char → Prop} (h : P []) : Shortest P [] :=
  ⟨h, fun _ _ => Nat.zero_le _⟩

/-! ### The lines of a text -/

theorem splitLine_of_not_mem (h : '\n' ∉ s) : splitLine s = (s, []) := by
  induction s with
  | nil => rfl
  | cons c s ih =>
    obtain ⟨hc, hs⟩ := not_or.1 (mt List.mem_cons.2 h)
    rw [splitLine, ih hs]
    exact fun hc' => hc hc'.symm

theorem splitLine_append_feed {line : List Char} (h : '\n' ∉ line) (rest : List Char) :
    splitLine (line ++ '\n' :: rest) = (line ++ ['\n'], rest) := by
  induction line with
  | nil => rfl
  | cons c line ih =>
    obtain ⟨hc, hline⟩ := not_or.1 (mt List.mem_cons.2 h)
    rw [List.cons_append, splitLine, ih hline]
    · rfl
    · exact fun hc' => hc hc'.symm

/-- A text is one line, or it goes on behind the line feed that ends its first line. -/
theorem eq_line_or (s : List Char) :
    '\n' ∉ s ∨ ∃ line rest, '\n' ∉ line ∧ s = line ++ '\n' :: rest := by
  by_cases h : '\n' ∈ s
  · obtain ⟨line, rest, rfl, hline⟩ := List.eq_append_cons_of_mem h
    exact .inr ⟨line, rest, hline, rfl⟩
  · exact .inl h

/-- Whether a line ends before `after`. -/
def EndsLine (after : List Char) : Prop := after = [] ∨ ['\n'] <+: after

theorem EndsLine.eq_nil {after : List Char} (h : EndsLine after) (hfeed : '\n' ∉ after) :
    after = [] :=
  h.resolve_right fun hfirst => hfeed (hfirst.subset (List.mem_singleton_self _))

theorem exists_line (s : List Char) :
    ∃ line after, s = line ++ after ∧ '\n' ∉ line ∧ EndsLine after := by
  rcases eq_line_or s with h | ⟨line, rest, h, rfl⟩
  · exact ⟨s, [], (List.append_nil s).symm, h, .inl rfl⟩
  · exact ⟨line, '\n' :: rest, rfl, h, .inr ⟨rest, rfl⟩⟩

theorem takeWhile_line (hline : '\n' ∉ line) {after : List Char} (hafter : EndsLine after) :
    (line ++ after).takeWhile (· != '\n') = line := by
  have hsolid : ∀ c ∈ line, (c != '\n') = true :=
    fun c hc => bne_iff_ne.2 fun hfeed => hline (hfeed ▸ hc)
  rw [List.takeWhile_append_of_pos hsolid]
  rcases hafter with rfl | ⟨t, rfl⟩
  · exact List.append_nil line
  · simp

/-- Two first lines of one text are the same line. -/
theorem eq_of_endsLine {line' after after' : List Char} (hline : '\n' ∉ line)
    (hline' : '\n' ∉ line') (hafter : EndsLine after) (hafter' : EndsLine after')
    (h : line ++ after = line' ++ after') : line = line' := by
  rw [← takeWhile_line hline hafter, h, takeWhile_line hline' hafter']

/-- Whether a line begins behind `before`. -/
def BeginsLine (before : List Char) : Prop := before = [] ∨ ['\n'] <:+ before

theorem BeginsLine.eq_nil (h : BeginsLine before) (hfeed : '\n' ∉ before) : before = [] :=
  h.resolve_right fun hlast => hfeed (hlast.subset (List.mem_singleton_self _))

theorem BeginsLine.append_feed (h : BeginsLine before) (s : List Char) :
    BeginsLine (s ++ '\n' :: before) := by
  rcases h with rfl | ⟨t, rfl⟩
  · exact .inr (List.suffix_append _ _)
  · exact .inr ⟨s ++ '\n' :: t, by simp⟩

theorem beginsLine_of_append (h : BeginsLine (s ++ before)) : BeginsLine before := by
  rcases h with hnil | hlast
  · exact .inl (List.append_eq_nil_iff.1 hnil).2
  · rcases List.suffix_or_suffix_of_suffix hlast (List.suffix_append s before) with h | h
    · exact .inr h
    · rcases List.suffix_cons_iff.1 h with rfl | hnil
      · exact .inr List.suffix_rfl
      · exact .inl (List.suffix_nil.1 hnil)

/-- Within one line no other line begins. -/
theorem BeginsLine.within (h : BeginsLine before) {t : List Char} (hbefore : before <+: s ++ t)
    (ht : '\n' ∉ t) : before <+: s := by
  rcases List.prefix_or_prefix_of_prefix hbefore (List.prefix_append s t) with hs | ⟨u, rfl⟩
  · exact hs
  · have hu : u <+: t := (List.prefix_append_right_inj s).1 hbefore
    have hnil : u = [] := (beginsLine_of_append h).eq_nil fun hmem => ht (hu.subset hmem)
    simp [hnil]

/-- Whether `line` is a line of the text, without its line feed, and begins behind `before`. -/
structure LineAt (line s before : List Char) : Prop where
  begins : BeginsLine before
  feed : '\n' ∉ line
  follows : ∃ after, s = before ++ line ++ after ∧ EndsLine after

theorem LineAt.beginning (h : LineAt line s before) : before ++ line <+: s := by
  obtain ⟨after, rfl, -⟩ := h.follows
  exact List.prefix_append _ _

/-- Where a line begins there is only one. -/
theorem LineAt.eq {line' : List Char} (h : LineAt line s before) (h' : LineAt line' s before) :
    line = line' := by
  obtain ⟨after, rfl, hafter⟩ := h.follows
  obtain ⟨after', hs, hafter'⟩ := h'.follows
  rw [List.append_assoc, List.append_assoc, List.append_cancel_left_eq] at hs
  exact eq_of_endsLine h.feed h'.feed hafter hafter' hs

/-- A line ends before another begins. -/
theorem LineAt.append_lt {line' before' : List Char} (h : LineAt line s before)
    (h' : LineAt line' s before') (hlt : before.length < before'.length) :
    (before ++ line).length < before'.length := by
  by_contra hle
  have hbegins : before' <+: s := (List.prefix_append _ _).trans h'.beginning
  have hin : before' <+: before ++ line :=
    List.prefix_of_prefix_length_le hbegins h.beginning (Nat.le_of_not_lt hle)
  exact absurd (h'.begins.within hin h.feed).length_le (Nat.not_le_of_lt hlt)

/-- A text without line feeds is its only line. -/
theorem lineAt_iff_of_not_mem (hs : '\n' ∉ s) : LineAt line s before ↔ before = [] ∧ line = s := by
  constructor
  · rintro ⟨hbegins, -, after, rfl, hafter⟩
    simp only [List.mem_append, not_or] at hs
    obtain ⟨⟨hbefore, -⟩, hafter'⟩ := hs
    obtain rfl : before = [] := hbegins.eq_nil hbefore
    obtain rfl : after = [] := hafter.eq_nil hafter'
    simp
  · rintro ⟨rfl, rfl⟩
    exact ⟨.inl rfl, hs, [], by simp, .inl rfl⟩

/-- The lines of a text are its first line and those of the rest. -/
theorem lineAt_append_feed {first : List Char} (hfirst : '\n' ∉ first) (rest : List Char) :
    LineAt line (first ++ '\n' :: rest) before ↔
      before = [] ∧ line = first ∨ ∃ b, before = first ++ '\n' :: b ∧ LineAt line rest b := by
  constructor
  · rintro ⟨hbegins, hline, after, hs, hafter⟩
    rcases eq_line_or before with hbefore | ⟨l, b, hl, rfl⟩
    · obtain rfl : before = [] := hbegins.eq_nil hbefore
      exact .inl ⟨rfl, eq_of_endsLine hline hfirst hafter (.inr ⟨rest, rfl⟩) hs.symm⟩
    · rw [List.append_assoc, List.append_assoc, List.cons_append] at hs
      obtain rfl := eq_of_endsLine hfirst hl (.inr ⟨rest, rfl⟩) (.inr ⟨_, rfl⟩) hs
      obtain rfl := (List.cons.inj (List.append_cancel_left hs)).2
      rw [List.append_cons] at hbegins
      exact .inr ⟨b, rfl, beginsLine_of_append hbegins, hline, after,
        (List.append_assoc ..).symm, hafter⟩
  · rintro (⟨rfl, rfl⟩ | ⟨b, rfl, hbegins, hline, after, rfl, hafter⟩)
    · exact ⟨.inl rfl, hfirst, '\n' :: rest, by simp, .inr ⟨rest, rfl⟩⟩
    · exact ⟨hbegins.append_feed first, hline, after, by simp, hafter⟩

/-! ### Keys and line feeds -/

theorem endsKey_append {after : List Char} (h : endsKey after = true) (rest : List Char) :
    endsKey (after ++ rest) = true := by
  cases after with
  | nil => cases h
  | cons c after => exact h

/-- What ends a key stands in the same line. -/
theorem endsKey_of_append {after rest : List Char} (hrest : EndsLine rest)
    (h : endsKey (after ++ rest) = true) : endsKey after = true := by
  cases after with
  | nil =>
    rcases hrest with rfl | ⟨t, rfl⟩
    · cases h
    · cases h
  | cons c after => exact h

theorem startsWithKey_iff {key : List Char} :
    startsWithKey field key = true ↔ ∃ after, key = field ++ after ∧ endsKey after = true := by
  rw [startsWithKey, Bool.and_eq_true, List.isPrefixOf_iff_prefix]
  constructor
  · rintro ⟨hbegins, hends⟩
    exact ⟨_, (List.prefix_iff_eq_append.1 hbegins).symm, hends⟩
  · rintro ⟨after, rfl, hends⟩
    rw [List.drop_left]
    exact ⟨List.prefix_append _ _, hends⟩

/-- The line feed of a line neither is a part of its key nor ends it. -/
theorem startsWithKey_append_feed (key : List Char) :
    startsWithKey field (key ++ ['\n']) = startsWithKey field key := by
  rw [Bool.eq_iff_iff, startsWithKey_iff, startsWithKey_iff]
  constructor
  · rintro ⟨after, hs, hends⟩
    rcases List.append_eq_append_iff.1 hs with ⟨t, -, hfeed⟩ | ⟨t, rfl, rfl⟩
    · have hhead : t = [] ∧ after = ['\n'] ∨ t = ['\n'] ∧ after = [] :=
        List.append_eq_singleton_iff.1 hfeed.symm
      rcases hhead with ⟨-, rfl⟩ | ⟨-, rfl⟩ <;> cases hends
    · exact ⟨t, rfl, endsKey_of_append (.inr List.prefix_rfl) hends⟩
  · rintro ⟨after, rfl, hends⟩
    exact ⟨after ++ ['\n'], by simp, endsKey_append hends _⟩

theorem trimStart_append_feed (line : List Char) :
    trimStart (line ++ ['\n']) = [] ∧ trimStart line = [] ∨
      trimStart (line ++ ['\n']) = trimStart line ++ ['\n'] := by
  rw [trimStart, trimStart, List.dropWhile_append]
  split
  · rename_i h
    exact .inl ⟨rfl, List.isEmpty_iff.1 h⟩
  · exact .inr rfl

theorem startsWithKey_trimStart_append_feed (line : List Char) :
    startsWithKey field (trimStart (line ++ ['\n'])) = startsWithKey field (trimStart line) := by
  rcases trimStart_append_feed line with ⟨hfeed, h⟩ | hfeed
  · rw [hfeed, h]
  · rw [hfeed, startsWithKey_append_feed]

/-- The line feed is none of the blanks before a key. -/
theorem takeWhile_append_feed (h : startsWithKey field (trimStart line) = true) :
    (line ++ ['\n']).takeWhile isBlank = line.takeWhile isBlank := by
  rw [List.takeWhile_append]
  split
  · rename_i hlength
    have hblank : line.takeWhile isBlank = line :=
      (List.takeWhile_sublist _).eq_of_length hlength
    have hnil : trimStart line = [] :=
      List.dropWhile_eq_nil_iff.2 (List.takeWhile_eq_self_iff.1 hblank)
    obtain ⟨after, hafter, hends⟩ := startsWithKey_iff.1 h
    rw [hnil] at hafter
    obtain rfl := (List.append_eq_nil_iff.1 hafter.symm).2
    cases hends
  · rfl

theorem byteLength_sub_trimStart (line : List Char) :
    byteLength line - byteLength (trimStart line) = byteLength (line.takeWhile isBlank) := by
  have hsplit : line.takeWhile isBlank ++ trimStart line = line := List.takeWhile_append_dropWhile
  calc
    _ = byteLength (line.takeWhile isBlank ++ trimStart line) - byteLength (trimStart line) := by
      rw [hsplit]
    _ = byteLength (line.takeWhile isBlank) := by
      rw [byteLength_append]
      omega

/-! ### The first line with the key -/

/-- Whether the key starts a line of the text, the line that begins behind `before`. -/
def StartsLineAt (field s before : List Char) : Prop :=
  ∃ line, LineAt line s before ∧ startsWithKey field (trimStart line) = true

theorem startsLineAt_iff_of_not_mem (hs : '\n' ∉ s) :
    StartsLineAt field s before ↔ before = [] ∧ startsWithKey field (trimStart s) = true := by
  simp only [StartsLineAt, lineAt_iff_of_not_mem hs]
  constructor
  · rintro ⟨_, ⟨rfl, rfl⟩, h⟩
    exact ⟨rfl, h⟩
  · rintro ⟨rfl, h⟩
    exact ⟨s, ⟨rfl, rfl⟩, h⟩

theorem startsLineAt_append_feed {first : List Char} (hfirst : '\n' ∉ first) (rest : List Char) :
    StartsLineAt field (first ++ '\n' :: rest) before ↔
      before = [] ∧ startsWithKey field (trimStart first) = true ∨
        ∃ b, before = first ++ '\n' :: b ∧ StartsLineAt field rest b := by
  simp only [StartsLineAt, lineAt_append_feed hfirst]
  constructor
  · rintro ⟨line, ⟨rfl, rfl⟩ | ⟨b, rfl, hline⟩, h⟩
    · exact .inl ⟨rfl, h⟩
    · exact .inr ⟨b, rfl, line, hline, h⟩
  · rintro (⟨rfl, h⟩ | ⟨b, rfl, line, hline, h⟩)
    · exact ⟨first, .inl ⟨rfl, rfl⟩, h⟩
    · exact ⟨line, .inr ⟨b, rfl, hline⟩, h⟩

theorem inLines?_nil (fuel offset : Nat) : inLines? field fuel offset [] = none := by
  cases fuel <;> rfl

theorem inLines?_succ (field : List Char) (fuel offset : Nat) (s : List Char) :
    inLines? field (fuel + 1) offset s =
      if startsWithKey field (trimStart (splitLine s).1) = true then
        some (offset + (byteLength (splitLine s).1 - byteLength (trimStart (splitLine s).1)))
      else inLines? field fuel (offset + byteLength (splitLine s).1) (splitLine s).2 := by
  cases s with
  | nil => simp [inLines?_nil, splitLine, trimStart, startsWithKey, endsKey]
  | cons c s => rfl

/-- What is found is the first line that starts with the key, and the place behind its blanks. Only
that nothing is found needs enough fuel for all lines. -/
theorem startsLineAt_of_inLines? {fuel offset o : Nat}
    (h : inLines? field fuel offset s = some o) :
    ∃ before line, Shortest (StartsLineAt field s) before ∧ LineAt line s before ∧
      startsWithKey field (trimStart line) = true ∧
      o = offset + byteLength (before ++ line.takeWhile isBlank) := by
  induction fuel generalizing s offset with
  | zero => cases h
  | succ fuel ih =>
    rw [inLines?_succ] at h
    rcases eq_line_or s with hs | ⟨first, rest, hfirst, rfl⟩
    · rw [splitLine_of_not_mem hs, inLines?_nil] at h
      split at h
      · rename_i hstarts
        have hfirst : StartsLineAt field s [] :=
          (startsLineAt_iff_of_not_mem hs).2 ⟨rfl, hstarts⟩
        refine ⟨[], s, .nil hfirst, (lineAt_iff_of_not_mem hs).2 ⟨rfl, rfl⟩, hstarts, ?_⟩
        rw [← Option.some.inj h, byteLength_sub_trimStart, List.nil_append]
      · cases h
    · rw [splitLine_append_feed hfirst, startsWithKey_trimStart_append_feed,
        byteLength_sub_trimStart] at h
      split at h
      · rename_i hstarts
        have hline : LineAt first (first ++ '\n' :: rest) [] :=
          (lineAt_append_feed hfirst rest).2 (.inl ⟨rfl, rfl⟩)
        refine ⟨[], first, .nil ⟨first, hline, hstarts⟩, hline, hstarts, ?_⟩
        rw [← Option.some.inj h, takeWhile_append_feed hstarts, List.nil_append]
      · rename_i hstarts
        obtain ⟨before, line, hshortest, hline, hkey, ho⟩ := ih h
        refine ⟨first ++ '\n' :: before, line, ⟨?_, ?_⟩, ?_, hkey, ?_⟩
        · exact (startsLineAt_append_feed hfirst rest).2 (.inr ⟨before, rfl, hshortest.holds⟩)
        · intro t ht
          rcases (startsLineAt_append_feed hfirst rest).1 ht with ⟨-, ht⟩ | ⟨b, rfl, hb⟩
          · exact absurd ht hstarts
          · have hle : before.length ≤ b.length := hshortest.le_length b hb
            simpa using hle
        · exact (lineAt_append_feed hfirst rest).2 (.inr ⟨before, rfl, hline⟩)
        · rw [ho]
          simp [Nat.add_assoc]

theorem not_startsLineAt_of_inLines? {fuel offset : Nat} (hfuel : s.length < fuel)
    (h : inLines? field fuel offset s = none) (before : List Char) :
    ¬StartsLineAt field s before := by
  induction fuel generalizing s offset before with
  | zero => exact absurd hfuel (Nat.not_lt_zero _)
  | succ fuel ih =>
    rw [inLines?_succ] at h
    rcases eq_line_or s with hs | ⟨first, rest, hfirst, rfl⟩
    · rw [splitLine_of_not_mem hs] at h
      split at h
      · cases h
      · rename_i hstarts
        exact fun hline => hstarts ((startsLineAt_iff_of_not_mem hs).1 hline).2
    · rw [splitLine_append_feed hfirst, startsWithKey_trimStart_append_feed] at h
      split at h
      · cases h
      · rename_i hstarts
        rw [startsLineAt_append_feed hfirst]
        rintro (⟨-, hline⟩ | ⟨b, -, hline⟩)
        · exact hstarts hline
        · have hshorter : rest.length < fuel := by
            rw [List.length_append, List.length_cons] at hfuel
            omega
          exact ih hshorter h b hline

end KeyOffset

end Dashboard
