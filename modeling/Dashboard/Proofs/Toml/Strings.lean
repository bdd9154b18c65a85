import Dashboard.Proofs.Toml.Numbers

/-!
# Strings and keys in a document

In whatever quotes a text is written, it is read back. A character is read from its escape or as it
stands, by one step of the reader. Over several lines up to two quotation marks stand as they are,
so they are followed together: alone they would close the string.
-/

namespace Dashboard.Toml

/-! ### Escapes -/

theorem charOfHex?_hexCode :
    ∀ n < 128, (hexCode n).length = 4 ∧ charOfHex? (hexCode n) = some (Char.ofNat n) := by
  decide +kernel

theorem toNat_lt_of_needsEscape {c : Char} (h : needsEscape c = true) : c.toNat < 128 := by
  simp only [needsEscape, Bool.or_eq_true, Bool.and_eq_true, decide_eq_true_eq, beq_iff_eq] at h
  omega

theorem unicodeEscape_hexCode {c : Char} (h : needsEscape c = true) (s : List Char) :
    unicodeEscape 4 (hexCode c.toNat ++ s) = some (c, s) := by
  obtain ⟨hlen, hcode⟩ := charOfHex?_hexCode c.toNat (toNat_lt_of_needsEscape h)
  rw [unicodeEscape, if_neg (by rw [List.length_append]; omega), List.take_left' hlen,
    List.drop_left' hlen, hcode, Char.ofNat_toNat]
  rfl

/-- What can stand for itself. -/
theorem isVisible_of_not_needsEscape {c : Char} (h : needsEscape c = false) (hne : c ≠ '\n') :
    isVisible c = true := by
  simp only [needsEscape, Bool.or_eq_false_iff, Bool.and_eq_false_iff, decide_eq_false_iff_not,
    bne_eq_false_iff_eq, beq_eq_false_iff_ne] at h
  simp only [isVisible, Bool.or_eq_true, Bool.and_eq_true, decide_eq_true_eq, beq_iff_eq,
    bne_iff_ne]
  rcases h with ⟨(h | rfl) | rfl, h'⟩
  · exact .inr ⟨by omega, h'⟩
  · exact .inl rfl
  · exact absurd rfl hne

/-- A character that is written as an escape which is read as that character. -/
structure IsEscape (text : List Char) (c mark : Char) (s : List Char) : Prop where
  text_eq : text = '\\' :: mark :: s
  /-- The escape does not continue a line. -/
  isSpace_mark : isSpace mark = false
  mark_ne_lineFeed : mark ≠ '\n'
  mark_ne_return : mark ≠ '\r'
  escape_eq : ∀ t, escape (mark :: s ++ t) = some (c, t)

/-- Between double quotes a character is written as it stands or as an escape. -/
theorem escapedChar_cases (multiline : Bool) (c : Char) :
    (escapedChar multiline c = [c] ∧ needsEscape c = false ∧ c ≠ '\\' ∧
      (c = '\n' → multiline = true)) ∨
    ∃ mark s, IsEscape (escapedChar multiline c) c mark s := by
  rw [escapedChar]
  split_ifs with h1 h2 h3 h4 h5 h6 h7 h8
  · exact .inr ⟨'b', [], rfl, rfl, by decide, by decide, fun t => by rw [h1]; rfl⟩
  · exact .inr ⟨'t', [], rfl, rfl, by decide, by decide, fun t => by rw [h2]; rfl⟩
  · exact .inl ⟨by rw [h3], by rw [h3]; rfl, by rw [h3]; decide, fun _ => h4⟩
  · exact .inr ⟨'n', [], rfl, rfl, by decide, by decide, fun t => by rw [h3]; rfl⟩
  · exact .inr ⟨'f', [], rfl, rfl, by decide, by decide, fun t => by rw [h5]; rfl⟩
  · exact .inr ⟨'r', [], rfl, rfl, by decide, by decide, fun t => by rw [h6]; rfl⟩
  · exact .inr ⟨'\\', [], rfl, rfl, by decide, by decide, fun t => by rw [h7]; rfl⟩
  · exact .inr ⟨'u', hexCode c.toNat, rfl, rfl, by decide, by decide, unicodeEscape_hexCode h8⟩
  · exact .inl ⟨rfl, by simpa using h8, h7, fun h => absurd h h3⟩

theorem escapedText_cons {c : Char} (hc : c ≠ '"') (multiline : Bool) (quotes : ℕ) (s : List Char) :
    escapedText multiline quotes (c :: s) =
      escapedChar multiline c ++ escapedText multiline 0 s := by
  rw [escapedText]
  exact fun h => hc h

/-! ### Double quotes on one line -/

theorem basicTail_escapedChar {c : Char} (hc : c ≠ '"') (fuel : ℕ) (done t : List Char) :
    basicTail (fuel + 1) done (escapedChar false c ++ t) = basicTail fuel (c :: done) t := by
  rcases escapedChar_cases false c with ⟨htext, hplain, hslash, hline⟩ | ⟨mark, s, h⟩
  · have hvisible := isVisible_of_not_needsEscape hplain fun h => absurd (hline h) (by decide)
    rw [htext, List.singleton_append, basicTail]
    · exact if_pos hvisible
    · exact hc
    · exact hslash
  · rw [h.text_eq, List.cons_append, basicTail]
    simp only [h.escape_eq]

/-- A text between double quotes on one line is read up to its closing mark. -/
theorem basicTail_escapedText (s rest : List Char) {fuel : ℕ} (hfuel : s.length < fuel)
    (done : List Char) :
    basicTail fuel done (escapedText false 0 s ++ '"' :: rest) =
      some (String.ofList (done.reverse ++ s), rest) := by
  induction s generalizing fuel done with
  | nil =>
    obtain ⟨fuel, rfl⟩ := Nat.exists_eq_succ_of_ne_zero (Nat.ne_of_gt hfuel)
    rw [escapedText, List.nil_append, basicTail, List.append_nil]
  | cons c s ih =>
    obtain ⟨fuel, rfl⟩ := Nat.exists_eq_succ_of_ne_zero (Nat.ne_of_gt (Nat.zero_lt_of_lt hfuel))
    have hstep := ih (Nat.lt_of_succ_lt_succ hfuel) (c :: done)
    rw [List.reverse_cons, List.append_assoc, List.singleton_append] at hstep
    by_cases hc : c = '"'
    · subst hc
      exact hstep
    · rw [escapedText_cons hc, List.append_assoc, basicTail_escapedChar hc, hstep]

theorem length_le_escapedText (multiline : Bool) (quotes : ℕ) (s : List Char) :
    s.length ≤ (escapedText multiline quotes s).length := by
  induction s generalizing quotes with
  | nil => exact Nat.zero_le _
  | cons c s ih =>
    by_cases hc : c = '"'
    · subst hc
      have hraw := ih (quotes + 1)
      have hescaped := ih 0
      by_cases hquotes : quotes < (if multiline then 2 else 0)
      · rw [escapedText, if_pos hquotes]
        simp only [List.length_cons]
        omega
      · rw [escapedText, if_neg hquotes]
        simp only [List.length_cons]
        omega
    · have hchar : 1 ≤ (escapedChar multiline c).length := by
        rcases escapedChar_cases multiline c with ⟨h, -⟩ | ⟨_, _, h⟩
        · rw [h]
          rfl
        · rw [h.text_eq]
          simp
      have := ih 0
      rw [escapedText_cons hc, List.length_append, List.length_cons]
      omega

/-! ### Single quotes on one line -/

theorem literalTail_append {s : List Char} (hs : ∀ c ∈ s, c ≠ '\'' ∧ isVisible c = true)
    (rest done : List Char) :
    literalTail done (s ++ '\'' :: rest) = some (String.ofList (done.reverse ++ s), rest) := by
  induction s generalizing done with
  | nil => rw [List.nil_append, literalTail, List.append_nil]
  | cons c s ih =>
    obtain ⟨hc, hs⟩ := List.forall_mem_cons.1 hs
    rw [List.cons_append, literalTail, if_pos hc.2, ih hs, List.reverse_cons, List.append_assoc,
      List.singleton_append]
    exact fun h => hc.1 h

/-! ### Several lines -/

theorem newline?_eq_none {c : Char} (h : c ≠ '\n') (h' : c ≠ '\r') (s : List Char) :
    newline? (c :: s) = none := by
  rw [newline?]
  · exact fun _ h'' => h (List.cons.inj h'').1
  · exact fun _ h'' => h' (List.cons.inj h'').1

theorem ne_return_of_not_needsEscape {c : Char} (h : needsEscape c = false) : c ≠ '\r' := by
  rintro rfl
  exact absurd h (by decide)

theorem multilineBasicTail_escapedChar {c : Char} (hc : c ≠ '"') (fuel : ℕ) (done t : List Char) :
    multilineBasicTail (fuel + 1) done (escapedChar true c ++ t) =
      multilineBasicTail fuel (c :: done) t := by
  rcases escapedChar_cases true c with ⟨htext, hplain, hslash, -⟩ | ⟨mark, s, h⟩
  · rw [htext, List.singleton_append, multilineBasicTail]
    · by_cases hline : c = '\n'
      · subst hline
        rfl
      · rw [newline?_eq_none hline (ne_return_of_not_needsEscape hplain)]
        exact if_pos (isVisible_of_not_needsEscape hplain hline)
    · exact fun _ h _ => hc h
    · exact hslash
  · have hspace : skipSpace (mark :: s ++ t) = mark :: s ++ t := by
      rw [skipSpace, List.cons_append, List.dropWhile_cons_of_neg (by simp [h.isSpace_mark])]
    rw [h.text_eq, List.cons_append, multilineBasicTail]
    simp only [hspace, h.escape_eq]
    rw [List.cons_append, newline?_eq_none h.mark_ne_lineFeed h.mark_ne_return]

/-- Up to two marks of the text stand in front of the closing ones. -/
theorem closing_append {quote : Char} {rest : List Char} (h : rest.head? ≠ some quote)
    (done : List Char) {n : ℕ} (hn : n ≤ 2) :
    closing quote done (List.replicate n quote ++ rest) =
      (String.ofList (done.reverse ++ List.replicate n quote), rest) := by
  match n, hn with
  | 0, _ =>
    rw [List.replicate_zero, List.nil_append, List.append_nil]
    match rest with
    | [] => rfl
    | [c] => rw [closing, if_neg fun heq => h (congrArg some heq)]
    | c :: d :: rest => rw [closing, if_neg fun heq => h (congrArg some heq)]
  | 1, _ =>
    change closing quote done (quote :: rest) = (String.ofList (done.reverse ++ [quote]), rest)
    rw [← List.reverse_cons]
    match rest with
    | [] => rw [closing, if_pos rfl]
    | c :: rest => rw [closing, if_pos rfl, if_neg fun heq => h (congrArg some heq)]
  | 2, _ =>
    change closing quote done (quote :: quote :: rest) =
      (String.ofList (done.reverse ++ [quote, quote]), rest)
    rw [closing, if_pos rfl, if_pos rfl, List.reverse_cons, List.reverse_cons, List.append_assoc]
    rfl

/-- Marks of the text and closing marks look alike. -/
theorem replicate_append_closing (quote : Char) (n : ℕ) (rest : List Char) :
    List.replicate n quote ++ quote :: quote :: quote :: rest =
      quote :: quote :: quote :: (List.replicate n quote ++ rest) := by
  induction n with
  | zero => rfl
  | succ n ih => rw [List.replicate_succ, List.cons_append, ih, List.cons_append]

/-- If a mark that does not begin the closing ones is part of the text, so are two. -/
theorem tail_quotes {tail : ℕ → List Char → Reader String} {quote : Char}
    (hquote : ∀ fuel done {t}, (∀ u, t ≠ quote :: quote :: u) →
      tail (fuel + 1) done (quote :: t) = tail fuel (quote :: done) t)
    (fuel : ℕ) (done : List Char) {t : List Char} (ht : t.head? ≠ some quote) {n : ℕ}
    (hn : n ≤ 2) :
    tail (fuel + n) done (List.replicate n quote ++ t) =
      tail fuel (List.replicate n quote ++ done) t := by
  have hne (u : List Char) : t ≠ quote :: u := by
    rintro rfl
    exact ht rfl
  match n, hn with
  | 0, _ => rfl
  | 1, _ => exact hquote fuel done fun u => hne _
  | 2, _ =>
    refine (hquote (fuel + 1) done fun u h => hne u (List.cons.inj h).2).trans ?_
    exact hquote fuel (quote :: done) fun u => hne _

section Basic

/-- A quotation mark that does not begin the closing ones is part of the text. -/
theorem multilineBasicTail_quote (fuel : ℕ) (done : List Char) {t : List Char}
    (ht : ∀ u, t ≠ '"' :: '"' :: u) :
    multilineBasicTail (fuel + 1) done ('"' :: t) = multilineBasicTail fuel ('"' :: done) t := by
  rw [multilineBasicTail]
  · rw [newline?_eq_none (by decide) (by decide)]
    exact if_pos (by decide)
  · exact fun u _ h => ht u h
  · exact fun h => absurd h (by decide)

theorem head?_escapedChar_ne {c : Char} (hc : c ≠ '"') (multiline : Bool) (t : List Char) :
    (escapedChar multiline c ++ t).head? ≠ some '"' := by
  rcases escapedChar_cases multiline c with ⟨h, -⟩ | ⟨_, _, h⟩
  · rw [h]
    exact fun heq => hc (Option.some.inj heq)
  · rw [h.text_eq]
    exact fun heq => absurd (Option.some.inj heq) (by decide)

/-- A text between three double quotes is read up to the closing marks. The marks that have just
been written are not yet read. -/
theorem multilineBasicTail_escapedText (s : List Char) {rest : List Char}
    (hrest : rest.head? ≠ some '"') {quotes : ℕ} (hquotes : quotes ≤ 2) {fuel : ℕ}
    (hfuel : quotes + s.length < fuel) (done : List Char) :
    multilineBasicTail fuel done
        (List.replicate quotes '"' ++ (escapedText true quotes s ++ '"' :: '"' :: '"' :: rest)) =
      some (String.ofList (done.reverse ++ (List.replicate quotes '"' ++ s)), rest) := by
  induction s generalizing quotes fuel done with
  | nil =>
    obtain ⟨fuel, rfl⟩ := Nat.exists_eq_succ_of_ne_zero (Nat.ne_of_gt (Nat.zero_lt_of_lt hfuel))
    rw [escapedText, List.nil_append, replicate_append_closing, multilineBasicTail,
      closing_append hrest done hquotes, List.append_nil]
  | cons c s ih =>
    rw [List.length_cons] at hfuel
    by_cases hraw : c = '"' ∧ quotes < 2
    · obtain ⟨rfl, hlt⟩ := hraw
      have hfuel' : quotes + 1 + s.length < fuel := by omega
      have hstep := ih hlt hfuel' done
      rw [List.replicate_succ', List.append_assoc, List.append_assoc] at hstep
      rw [escapedText, if_pos (by exact hlt)]
      exact hstep
    · -- the marks so far are followed by something else: they are read, and then the character
      obtain ⟨text, htext, hhead, hread⟩ : ∃ text,
          escapedText true quotes (c :: s) = text ++ escapedText true 0 s ∧
          (∀ t, (text ++ t).head? ≠ some '"') ∧
          ∀ fuel done t, multilineBasicTail (fuel + 1) done (text ++ t) =
            multilineBasicTail fuel (c :: done) t := by
        by_cases hc : c = '"'
        · subst hc
          refine ⟨['\\', '"'], ?_, fun t => by simp, fun fuel done t => rfl⟩
          rw [escapedText, if_neg (by exact fun h => hraw ⟨rfl, h⟩)]
          rfl
        · exact ⟨_, escapedText_cons hc _ _ _, head?_escapedChar_ne hc _,
            multilineBasicTail_escapedChar hc⟩
      obtain ⟨fuel, rfl⟩ := Nat.exists_eq_add_of_le (show quotes + 1 ≤ fuel by omega)
      have hfuel' : 0 + s.length < fuel := by omega
      have hstep := ih (Nat.zero_le 2) hfuel' (c :: (List.replicate quotes '"' ++ done))
      rw [htext, List.append_assoc, show quotes + 1 + fuel = fuel + 1 + quotes by omega,
        tail_quotes multilineBasicTail_quote _ _ (hhead _) hquotes, hread]
      simpa using hstep

end Basic

section Literal

theorem multilineLiteralTail_quote (fuel : ℕ) (done : List Char) {t : List Char}
    (ht : ∀ u, t ≠ '\'' :: '\'' :: u) :
    multilineLiteralTail (fuel + 1) done ('\'' :: t) =
      multilineLiteralTail fuel ('\'' :: done) t := by
  rw [multilineLiteralTail]
  · rw [newline?_eq_none (by decide) (by decide)]
    exact if_pos (by decide)
  · exact fun u _ h => ht u h

theorem multilineLiteralTail_char {c : Char} (hc : c ≠ '\'') (hplain : needsEscape c = false)
    (fuel : ℕ) (done t : List Char) :
    multilineLiteralTail (fuel + 1) done (c :: t) = multilineLiteralTail fuel (c :: done) t := by
  rw [multilineLiteralTail]
  · by_cases hline : c = '\n'
    · subst hline
      rfl
    · rw [newline?_eq_none hline (ne_return_of_not_needsEscape hplain)]
      exact if_pos (isVisible_of_not_needsEscape hplain hline)
  · exact fun _ h _ => hc h

theorem le_longestRun (c : Char) (run longest : ℕ) (s : List Char) :
    max run longest ≤ longestRun c run longest s := by
  induction s generalizing run longest with
  | nil => exact le_rfl
  | cons d s ih =>
    rw [longestRun]
    split
    · exact le_trans (by omega) (ih (run + 1) longest)
    · exact le_trans (by omega) (ih 0 (max run longest))

/-- A text between three single quotes is read up to the closing marks, if it needs no escapes and
no three marks follow each other. -/
theorem multilineLiteralTail_append {s : List Char} (hs : ∀ c ∈ s, needsEscape c = false)
    {run longest : ℕ} (hrun : longestRun '\'' run longest s ≤ 2) {rest : List Char}
    (hrest : rest.head? ≠ some '\'') {fuel : ℕ} (hfuel : run + s.length < fuel)
    (done : List Char) :
    multilineLiteralTail fuel done
        (List.replicate run '\'' ++ (s ++ '\'' :: '\'' :: '\'' :: rest)) =
      some (String.ofList (done.reverse ++ (List.replicate run '\'' ++ s)), rest) := by
  have hle : run ≤ 2 := (le_max_left _ _).trans ((le_longestRun _ _ _ _).trans hrun)
  induction s generalizing run longest fuel done with
  | nil =>
    obtain ⟨fuel, rfl⟩ := Nat.exists_eq_succ_of_ne_zero (Nat.ne_of_gt (Nat.zero_lt_of_lt hfuel))
    rw [List.nil_append, replicate_append_closing, multilineLiteralTail,
      closing_append hrest done hle, List.append_nil]
  | cons c s ih =>
    obtain ⟨hplain, hrest'⟩ := List.forall_mem_cons.1 hs
    rw [List.length_cons] at hfuel
    rw [longestRun] at hrun
    by_cases hc : c = '\''
    · subst hc
      rw [if_pos rfl] at hrun
      have hle' : run + 1 ≤ 2 := (le_max_left _ _).trans ((le_longestRun _ _ _ _).trans hrun)
      have hfuel' : run + 1 + s.length < fuel := by omega
      have hstep := ih hrest' hrun hfuel' done hle'
      rw [List.replicate_succ', List.append_assoc, List.append_assoc] at hstep
      exact hstep
    · rw [if_neg hc] at hrun
      obtain ⟨fuel, rfl⟩ := Nat.exists_eq_add_of_le (show run + 1 ≤ fuel by omega)
      have hfuel' : 0 + s.length < fuel := by omega
      have hstep := ih hrest' hrun hfuel' (c :: (List.replicate run '\'' ++ done)) (Nat.zero_le _)
      rw [List.cons_append, show run + 1 + fuel = fuel + 1 + run by omega,
        tail_quotes multilineLiteralTail_quote _ _ (by simpa using hc) hle,
        multilineLiteralTail_char hc hplain]
      simpa using hstep

end Literal

/-! ### Strings -/

section Strings

variable {rest : List Char}

theorem basicTail_basicString (s rest : List Char) :
    basicTail ((escapedText false 0 s ++ '"' :: rest).length + 1) []
      (escapedText false 0 s ++ '"' :: rest) = some (String.ofList s, rest) := by
  have := length_le_escapedText false 0 s
  exact basicTail_escapedText s rest (by rw [List.length_append]; omega) []

theorem stringValue_basicString (s : List Char) (hrest : rest.head? ≠ some '"') :
    stringValue (basicString s ++ rest) = some (String.ofList s, rest) := by
  have htext : basicString s ++ rest = '"' :: (escapedText false 0 s ++ '"' :: rest) := by
    simp [basicString]
  rw [htext, stringValue, basicTail_basicString]
  -- two marks at the beginning are the whole string, and no third follows
  intro u h
  cases s with
  | nil =>
    have hrest' := (List.cons.inj h).2
    exact hrest (hrest' ▸ rfl)
  | cons c s =>
    by_cases hc : c = '"'
    · subst hc
      exact absurd (List.cons.inj h).1 (by decide)
    · rw [escapedText_cons hc, List.append_assoc] at h
      exact head?_escapedChar_ne hc false _ (congrArg List.head? h)

theorem stringValue_literalString {s : List Char} (hs : ∀ c ∈ s, c ≠ '\'' ∧ isVisible c = true)
    (hrest : rest.head? ≠ some '\'') :
    stringValue (literalString s ++ rest) = some (String.ofList s, rest) := by
  have htext : literalString s ++ rest = '\'' :: (s ++ '\'' :: rest) := by
    simp [literalString]
  rw [htext, stringValue, literalTail_append hs]
  · rfl
  · intro u h
    cases s with
    | nil =>
      have hrest' := (List.cons.inj h).2
      exact hrest (hrest' ▸ rfl)
    | cons c s => exact (hs c List.mem_cons_self).1 (List.cons.inj h).1

/-- A line end is written in front of a text with line ends, and it alone is skipped. -/
theorem skipFirstNewline_append {s body t : List Char}
    (h : s.contains '\n' = false → newline? (body ++ t) = none) :
    skipFirstNewline ((if s.contains '\n' then ['\n'] else []) ++ (body ++ t)) = body ++ t := by
  cases hline : s.contains '\n' with
  | true => rfl
  | false => rw [if_neg (by decide), List.nil_append, skipFirstNewline, h hline, Option.getD_none]

theorem multilineString_append (quote : Char) (s body rest : List Char) :
    multilineString quote s body ++ rest = quote :: quote :: quote ::
      ((if s.contains '\n' then ['\n'] else []) ++
        (body ++ quote :: quote :: quote :: rest)) := by
  simp [multilineString]

theorem newline?_escapedText {s : List Char} (h : s.contains '\n' = false) (t : List Char) :
    newline? (escapedText true 0 s ++ '"' :: t) = none := by
  cases s with
  | nil => exact newline?_eq_none (by decide) (by decide) _
  | cons c s =>
    by_cases hc : c = '"'
    · subst hc
      exact newline?_eq_none (by decide) (by decide) _
    · have hline : c ≠ '\n' := by
        rintro rfl
        simp at h
      rw [escapedText_cons hc]
      rcases escapedChar_cases true c with ⟨h, hplain, -⟩ | ⟨_, _, h⟩
      · rw [h]
        exact newline?_eq_none hline (ne_return_of_not_needsEscape hplain) _
      · rw [h.text_eq]
        exact newline?_eq_none (by decide) (by decide) _

theorem stringValue_multilineBasic (s : List Char) (hrest : rest.head? ≠ some '"') :
    stringValue (multilineString '"' s (escapedText true 0 s) ++ rest) =
      some (String.ofList s, rest) := by
  have hlen := length_le_escapedText true 0 s
  rw [multilineString_append, stringValue,
    skipFirstNewline_append fun h => newline?_escapedText h _]
  refine multilineBasicTail_escapedText s hrest (Nat.zero_le 2) ?_ []
  rw [List.length_append, List.length_append]
  omega

theorem stringValue_multilineLiteral {s : List Char} (hs : ∀ c ∈ s, needsEscape c = false)
    (hrun : longestRun '\'' 0 0 s ≤ 2) (hrest : rest.head? ≠ some '\'') :
    stringValue (multilineString '\'' s s ++ rest) = some (String.ofList s, rest) := by
  have hnewline (h : s.contains '\n' = false) (t : List Char) :
      newline? (s ++ '\'' :: t) = none := by
    cases s with
    | nil => exact newline?_eq_none (by decide) (by decide) _
    | cons c s =>
      refine newline?_eq_none ?_ (ne_return_of_not_needsEscape (hs c List.mem_cons_self)) _
      rintro rfl
      simp at h
  rw [multilineString_append, stringValue, skipFirstNewline_append fun h => hnewline h _]
  refine multilineLiteralTail_append hs hrun hrest ?_ []
  rw [List.length_append, List.length_append]
  omega

theorem notMem_of_longestRun_eq_zero {c : Char} {s : List Char} {longest : ℕ}
    (h : longestRun c 0 longest s = 0) : c ∉ s := by
  induction s generalizing longest with
  | nil => exact List.not_mem_nil
  | cons d s ih =>
    rw [longestRun] at h
    split at h
    · have := le_longestRun c (0 + 1) longest s
      omega
    · rename_i hne
      exact List.not_mem_cons_of_ne_of_not_mem (fun heq => hne heq.symm) (ih h)

/-- A text without line ends and single quotes that needs no escapes may stand as it is. -/
theorem literal_of_plain {s : List Char} (hescapes : s.any needsEscape = false)
    (hline : s.contains '\n' = false) (hquote : '\'' ∉ s) :
    ∀ c ∈ s, c ≠ '\'' ∧ isVisible c = true := by
  intro c hc
  have hplain : needsEscape c = false := by
    simpa using List.any_eq_false.1 hescapes c hc
  refine ⟨fun heq => hquote (heq ▸ hc), isVisible_of_not_needsEscape hplain ?_⟩
  rintro rfl
  simp [hc] at hline

/-- A string is read as it was written, in whatever quotes. -/
theorem stringValue_stringText (text : String) {c : Char} (hc : isValueEnd c = true)
    (s : List Char) : stringValue (stringText text ++ c :: s) = some (text, c :: s) := by
  have hdouble : (c :: s).head? ≠ some '"' := by
    simpa using ne_of_isValueEnd hc (by decide)
  have hsingle : (c :: s).head? ≠ some '\'' := by
    simpa using ne_of_isValueEnd hc (by decide)
  rw [stringText]
  conv_rhs => rw [← String.ofList_toList (s := text)]
  generalize text.toList = t
  split_ifs with h1 h2 h3 h4 h5
  · exact stringValue_basicString t hdouble
  · simp only [Bool.and_eq_true, Bool.not_eq_true', beq_iff_eq] at h2
    exact stringValue_literalString
      (literal_of_plain h2.1.1 h2.2 (notMem_of_longestRun_eq_zero h2.1.2)) hsingle
  · exact stringValue_multilineBasic t hdouble
  · simp only [Bool.and_eq_true, Bool.not_eq_true', decide_eq_true_eq] at h4
    exact stringValue_multilineLiteral (fun c hc => by simpa using List.any_eq_false.1 h4.1 c hc)
      h4.2 hsingle
  · exact stringValue_multilineBasic t hdouble
  · exact stringValue_basicString t hdouble

end Strings

/-! ### Keys -/

theorem takeWhile_append_cons {p : Char → Bool} {s : List Char} (hs : ∀ c ∈ s, p c = true)
    {c : Char} (hc : p c = false) (t : List Char) : (s ++ c :: t).takeWhile p = s := by
  rw [List.takeWhile_append_of_pos hs, List.takeWhile_cons_of_neg (by simp [hc]), List.append_nil]

/-- A key is read as it was written. -/
theorem simpleKey_keyText (key : String) {c : Char} (hc : isBareChar c = false) (s : List Char) :
    simpleKey (keyText key ++ c :: s) = some (key, c :: s) := by
  rw [keyText]
  conv_rhs => rw [← String.ofList_toList (s := key)]
  generalize key.toList = t
  have hbasic : simpleKey (basicString t ++ c :: s) = some (String.ofList t, c :: s) := by
    have htext : basicString t ++ c :: s = '"' :: (escapedText false 0 t ++ '"' :: c :: s) := by
      simp [basicString]
    rw [htext, simpleKey, basicTail_basicString]
  split_ifs with h1 h2 h3
  · rw [Bool.and_eq_true, List.all_eq_true] at h1
    have hword := takeWhile_append_cons h1.2 hc s
    have hne : t ≠ [] := by simpa using h1.1
    have hhead {d : Char} (hd : isBareChar d = false) (u : List Char) : t ++ c :: s ≠ d :: u := by
      obtain ⟨e, t, rfl⟩ := List.exists_cons_of_ne_nil hne
      intro h
      have he := h1.2 e List.mem_cons_self
      rw [(List.cons.inj h).1, hd] at he
      exact absurd he (by decide)
    rw [simpleKey]
    · simp [hword, hne]
    · exact hhead (by decide)
    · exact hhead (by decide)
  · exact hbasic
  · simp only [Bool.and_eq_true, Bool.not_eq_true', Bool.or_eq_false_iff] at h3
    have htext : literalString t ++ c :: s = '\'' :: (t ++ '\'' :: c :: s) := by
      simp [literalString]
    rw [htext, simpleKey, literalTail_append
      (literal_of_plain h3.1.1 h3.1.2 (by simpa using h3.2))]
    rfl
  · exact hbasic

end Dashboard.Toml
