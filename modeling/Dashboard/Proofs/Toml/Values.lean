import Dashboard.Proofs.Toml.Strings
import Dashboard.Proofs.Toml.Tables

/-!
# Values in a document

A printed value is read back if its arrays and tables are not nested too deep and its integers have
64 bits, and not read at all otherwise. Both directions follow the text from the left: an item, a
key or a mark is taken, and what is left is again printed text.
-/

namespace Dashboard.Toml

open Number

/-- Whether a value that stands next to its key can be read back: its arrays and tables are nested
at most `depth` deep, and its integers have 64 bits. -/
def Value.fits : ℕ → Value → Bool
  | _, .integer n => (inRange n).isSome
  | 0, .array _ => false
  | 0, .table _ => false
  | depth + 1, .array items => items.all (fits depth)
  | depth + 1, .table entries => entries.all fun e => fits depth e.2
  | _, _ => true

/-! ### How values begin -/

/-- How a value begins that is neither an array nor a table. -/
def isScalarStart (c : Char) : Bool :=
  c.isDigit || c == '-' || c == '"' || c == '\'' || c == 't' || c == 'f'

def isValueStart (c : Char) : Bool := isScalarStart c || c == '[' || c == '\x7b'

theorem ne_of_kind {p : Char → Bool} {c d : Char} (h : p c = true) (hd : p d = false) : c ≠ d :=
  ne_of_apply_ne p (by rw [h, hd]; decide)

theorem stringText_eq_cons (text : String) :
    ∃ c s, stringText text = c :: s ∧ (c = '"' ∨ c = '\'') := by
  have hbasic (s : List Char) : ∃ c t, basicString s = c :: t ∧ (c = '"' ∨ c = '\'') :=
    ⟨_, _, rfl, .inl rfl⟩
  rw [stringText]
  split_ifs
  · exact hbasic _
  · exact ⟨_, _, rfl, .inr rfl⟩
  · exact ⟨_, _, rfl, .inl rfl⟩
  · exact ⟨_, _, rfl, .inr rfl⟩
  · exact ⟨_, _, rfl, .inl rfl⟩
  · exact hbasic _

theorem signed_eq_cons {ds : List Char} (h : IsWhole ds) (negative : Bool) (s : List Char) :
    ∃ c t, signed negative (ds ++ s) = c :: t ∧ isScalarStart c = true := by
  cases negative with
  | true => exact ⟨_, _, rfl, rfl⟩
  | false =>
    obtain ⟨d, ds, rfl⟩ := List.exists_cons_of_ne_nil h.ne_nil
    exact ⟨d, ds ++ s, rfl, by simp [isScalarStart, h.isDigit d List.mem_cons_self]⟩

theorem integerText_eq_cons (n : ℤ) :
    ∃ c s, (integerText n).toList = c :: s ∧ isScalarStart c = true := by
  have := signed_eq_cons (isWhole_toDigits n.natAbs) (decide (n < 0)) []
  rwa [List.append_nil, ← toList_integerText] at this

theorem floatText_eq_cons {x : Binary64} (hx : x.isFinite = true) :
    ∃ c s, floatText x = c :: s ∧ isScalarStart c = true := by
  obtain ⟨whole, fraction, h⟩ := exists_isPointed (Decimal.shortest .upward x)
  have := signed_eq_cons h.isWhole x.isNegative ('.' :: fraction)
  rwa [← h.text_eq, ← floatText_eq hx] at this

/-- Whether a value is neither an array nor a table. -/
def Value.isScalar : Value → Bool
  | .array _ => false
  | .table _ => false
  | _ => true

theorem valueText_eq_cons_of_isScalar {v : Value} (hv : v.Sound) (hscalar : v.isScalar = true) :
    ∃ c s, valueText v = c :: s ∧ isScalarStart c = true := by
  cases hv with
  | string text =>
    obtain ⟨c, s, h, rfl | rfl⟩ := stringText_eq_cons text <;>
      exact ⟨_, s, by rw [valueText, h], rfl⟩
  | integer n =>
    rw [valueText]
    exact integerText_eq_cons n
  | float hx =>
    rw [valueText]
    exact floatText_eq_cons hx
  | boolean b => cases b <;> exact ⟨_, _, rfl, rfl⟩
  | array _ | table _ _ => simp [Value.isScalar] at hscalar

/-- The text of an array behind its opening bracket. -/
def arrayTail : List Value → List Char
  | [] => [']']
  | [v] => valueText v ++ [']']
  | items => itemLines items ++ ['\n', ']']

theorem valueText_array (items : List Value) :
    valueText (.array items) = '[' :: arrayTail items := by
  match items with
  | [] | [_] | _ :: _ :: _ => simp only [valueText, arrayTail, List.cons_append]

theorem itemLines_cons (v : Value) (items : List Value) :
    itemLines (v :: items) = "\n    ".toList ++ valueText v ++ ',' :: itemLines items := rfl

/-- The text of a table between braces behind its opening brace. -/
def braceTail : List (String × Value) → List Char
  | [] => ['\x7d']
  | entries => braceTexts entries ++ [' ', '\x7d']

theorem valueText_table (entries : Entries) :
    valueText (.table entries) = '\x7b' :: braceTail entries := by
  match entries with
  | [] | _ :: _ => simp only [valueText, braceTail, List.cons_append]

theorem valueText_eq_cons {v : Value} (hv : v.Sound) :
    ∃ c s, valueText v = c :: s ∧ isValueStart c = true := by
  cases hscalar : v.isScalar with
  | true =>
    obtain ⟨c, s, h, hc⟩ := valueText_eq_cons_of_isScalar hv hscalar
    exact ⟨c, s, h, by rw [isValueStart, hc]; rfl⟩
  | false =>
    cases v with
    | array items => exact ⟨_, _, valueText_array items, rfl⟩
    | table entries => exact ⟨_, _, valueText_table entries, rfl⟩
    | _ => simp [Value.isScalar] at hscalar

/-- The values for which `ok` holds are read back wherever a value may end, and the others are not
read. -/
def ReadsItem (item : Reader Value) (ok : Value → Bool) (v : Value) : Prop :=
  ∀ c s, isValueEnd c = true →
    item (valueText v ++ c :: s) = if ok v then some (v, c :: s) else none

/-! ### Scalars -/

theorem value_of_isScalarStart {c : Char} (hc : isScalarStart c = true) (depth : ℕ)
    (s : List Char) :
    value depth (c :: s) = scalar (c :: s) := by
  cases depth with
  | zero => rfl
  | succ depth =>
    rw [value]
    · exact fun _ h => ne_of_kind hc (by decide) (List.cons.inj h).1
    · exact fun _ h => ne_of_kind hc (by decide) (List.cons.inj h).1

/-- Brackets and braces begin no scalar. -/
theorem scalar_eq_none {c : Char} (hc : c = '[' ∨ c = '\x7b') (s : List Char) :
    scalar (c :: s) = none := by
  have hdate : datetime (c :: s) = none :=
    datetime_eq_none (List.forall_mem_nil _) (by rcases hc with rfl | rfl <;> decide) (.inl rfl)
  have htrue : word? "true" (c :: s) = none :=
    word?_eq_none s (by rcases hc with rfl | rfl <;> decide) (by decide)
  have hfalse : word? "false" (c :: s) = none :=
    word?_eq_none s (by rcases hc with rfl | rfl <;> decide) (by decide)
  rw [scalar]
  simp only [htrue, hfalse, hdate]
  rcases hc with rfl | rfl <;> rfl

theorem word?_append (word : String) (s : List Char) : word? word (word.toList ++ s) = some s := by
  rw [word?, List.take_left' String.length_toList, if_pos rfl, List.drop_left' String.length_toList]

theorem scalar_valueText {v : Value} (hv : v.Sound) (hscalar : v.isScalar = true) (depth : ℕ)
    {c : Char} (hc : isValueEnd c = true) (s : List Char) :
    scalar (valueText v ++ c :: s) = if v.fits depth then some (v, c :: s) else none := by
  cases hv with
  | string text =>
    have hread := stringValue_stringText text hc s
    obtain ⟨d, t, h, hd⟩ := stringText_eq_cons text
    rw [h, List.cons_append] at hread
    rw [valueText, h, List.cons_append, scalar, hread, if_pos (by simpa using hd)]
    simp [Value.fits]
  | integer n =>
    rw [valueText, scalar_integerText n hc, Value.fits]
    rw [inRange]
    split <;> rfl
  | float hx =>
    rw [valueText, scalar_floatText hx hc, Value.fits]
    · simp
    all_goals simp
  | boolean b =>
    have hfits : (Value.boolean b).fits depth = true := by simp [Value.fits]
    rw [hfits, if_pos rfl]
    cases b with
    | true =>
      change scalar ('t' :: ("rue".toList ++ c :: s)) = _
      have hword : word? "true" ('t' :: ("rue".toList ++ c :: s)) = some (c :: s) :=
        word?_append "true" (c :: s)
      rw [scalar, hword]
      rfl
    | false =>
      change scalar ('f' :: ("alse".toList ++ c :: s)) = _
      have hword : word? "false" ('f' :: ("alse".toList ++ c :: s)) = some (c :: s) :=
        word?_append "false" (c :: s)
      rw [scalar, word?_eq_none _ (by decide) (by decide), hword]
      rfl
  | array _ | table _ _ => simp [Value.isScalar] at hscalar

theorem value_valueText_of_isScalar {v : Value} (hv : v.Sound) (hscalar : v.isScalar = true)
    (depth : ℕ) : ReadsItem (value depth) (Value.fits depth) v := by
  intro c s hc
  obtain ⟨d, t, h, hd⟩ := valueText_eq_cons_of_isScalar hv hscalar
  rw [← scalar_valueText hv hscalar depth hc, h, List.cons_append, value_of_isScalarStart hd]

/-! ### Arrays -/

theorem skipFiller_of_isValueStart {c : Char} (hc : isValueStart c = true) (s : List Char) :
    skipFiller false (c :: s) = c :: s := by
  have hspace : isSpace c = false := by
    cases h : isSpace c with
    | false => rfl
    | true =>
      rw [isSpace, Bool.or_eq_true, beq_iff_eq, beq_iff_eq] at h
      rcases h with rfl | rfl <;> exact absurd hc (by decide)
  rw [skipFiller]
  · rw [hspace]
    rfl
  · exact ne_of_kind hc (by decide)
  · exact fun _ h => absurd h (ne_of_kind hc (by decide))
  · exact ne_of_kind hc (by decide)

section Items

variable {item : Reader Value} {ok : Value → Bool} {close : Char}

/-- The first item of an array, up to what follows it. -/
theorem arrayItems_valueText {v : Value} (hv : v.Sound) (hread : ReadsItem item ok v) (fuel : ℕ)
    {c : Char} (hc : c = ']' ∨ c = ',') (s : List Char) :
    arrayItems item (fuel + 1) (valueText v ++ c :: s) =
      if ok v then
        if c = ']' then some ([v], s)
        else (arrayItems item fuel s).map fun (vs, rest) => (v :: vs, rest)
      else none := by
  obtain ⟨d, t, htext, hd⟩ := valueText_eq_cons hv
  have hread := hread c s (by rcases hc with rfl | rfl <;> decide)
  have hne : d ≠ ']' := ne_of_kind hd (by decide)
  rw [htext, List.cons_append] at hread ⊢
  rw [arrayItems, skipFiller_of_isValueStart hd]
  split
  · rename_i h
    exact absurd (List.cons.inj h).1 hne
  · rw [hread]
    cases ok v with
    | false => rfl
    | true =>
      rcases hc with rfl | rfl
      · rfl
      · have hcomma : skipFiller false (',' :: s) = ',' :: s := rfl
        simp only [if_true, hcomma]
        cases arrayItems item fuel s <;> rfl

theorem arrayItems_itemLines {items : List Value} (hs : ∀ v ∈ items, v.Sound)
    (hread : ∀ v ∈ items, ReadsItem item ok v) {fuel : ℕ} (hfuel : items.length < fuel)
    (s : List Char) :
    arrayItems item fuel (itemLines items ++ '\n' :: ']' :: s) =
      if items.all ok then some (items, s) else none := by
  induction items generalizing fuel with
  | nil =>
    obtain ⟨fuel, rfl⟩ := Nat.exists_eq_succ_of_ne_zero (Nat.ne_of_gt hfuel)
    rfl
  | cons v items ih =>
    obtain ⟨fuel, rfl⟩ := Nat.exists_eq_succ_of_ne_zero (Nat.ne_of_gt (Nat.zero_lt_of_lt hfuel))
    obtain ⟨hv, hs⟩ := List.forall_mem_cons.1 hs
    obtain ⟨hreadV, hread⟩ := List.forall_mem_cons.1 hread
    have htext : itemLines (v :: items) ++ '\n' :: ']' :: s = '\n' :: ' ' :: ' ' :: ' ' :: ' ' ::
        (valueText v ++ ',' :: (itemLines items ++ '\n' :: ']' :: s)) := by
      simp [itemLines_cons]
    have hskip (t : List Char) :
        arrayItems item (fuel + 1) ('\n' :: ' ' :: ' ' :: ' ' :: ' ' :: t) =
          arrayItems item (fuel + 1) t := by
      rw [arrayItems, arrayItems]
      rfl
    rw [htext, hskip, arrayItems_valueText hv hreadV fuel (.inr rfl),
      if_neg (show ¬ ',' = ']' by decide), ih hs hread (Nat.lt_of_succ_lt_succ hfuel),
      List.all_cons]
    cases ok v <;> cases items.all ok <;> rfl

theorem length_le_itemLines (items : List Value) : items.length ≤ (itemLines items).length := by
  induction items with
  | nil => exact Nat.zero_le _
  | cons v items ih =>
    rw [itemLines_cons]
    simp only [List.length_append, List.length_cons]
    omega

/-- An array is read behind its opening bracket. -/
theorem arrayItems_arrayTail {items : List Value} (hs : ∀ v ∈ items, v.Sound)
    (hread : ∀ v ∈ items, ReadsItem item ok v) (s : List Char) :
    arrayItems item ((arrayTail items ++ s).length + 1) (arrayTail items ++ s) =
      if items.all ok then some (items, s) else none := by
  match items with
  | [] => rfl
  | [v] =>
    rw [arrayTail, List.append_assoc, List.singleton_append,
      arrayItems_valueText (hs v (List.mem_singleton_self v)) (hread v (List.mem_singleton_self v))
        _ (.inl rfl), if_pos rfl, List.all_cons, List.all_nil, Bool.and_true]
  | v :: w :: items =>
    have hlen := length_le_itemLines (v :: w :: items)
    rw [show arrayTail (v :: w :: items) = itemLines (v :: w :: items) ++ ['\n', ']'] from rfl,
      List.append_assoc]
    refine arrayItems_itemLines hs hread ?_ s
    rw [List.length_append]
    omega

end Items

/-! ### Tables between braces -/

theorem keyText_eq_cons (key : String) :
    ∃ c s, keyText key = c :: s ∧ (isBareChar c = true ∨ c = '"' ∨ c = '\'') := by
  rw [keyText]
  split_ifs with h
  · rw [Bool.and_eq_true, List.all_eq_true] at h
    obtain ⟨c, s, hs⟩ := List.exists_cons_of_ne_nil (show key.toList ≠ [] by simpa using h.1)
    exact ⟨c, s, hs, .inl (h.2 c (hs ▸ List.mem_cons_self))⟩
  · exact ⟨_, _, rfl, .inr (.inl rfl)⟩
  · exact ⟨_, _, rfl, .inr (.inr rfl)⟩
  · exact ⟨_, _, rfl, .inr (.inl rfl)⟩

theorem keyText_head_ne {key : String} {c d : Char} {s : List Char} (h : keyText key = c :: s)
    (hd : isBareChar d = false) (hd' : d ≠ '"') (hd'' : d ≠ '\'') : c ≠ d := by
  obtain ⟨c', s', h', hc⟩ := keyText_eq_cons key
  obtain rfl := (List.cons.inj (h.symm.trans h')).1
  rintro rfl
  rcases hc with hc | hc | hc
  · rw [hd] at hc
    exact absurd hc (by decide)
  · exact hd' hc
  · exact hd'' hc

theorem skipSpace_keyText (key : String) (s : List Char) :
    skipSpace (keyText key ++ s) = keyText key ++ s := by
  obtain ⟨c, t, h, -⟩ := keyText_eq_cons key
  have hspace := keyText_head_ne h (d := ' ') (by decide) (by decide) (by decide)
  have htab := keyText_head_ne h (d := '\t') (by decide) (by decide) (by decide)
  rw [h, List.cons_append, skipSpace, List.dropWhile_cons_of_neg (by simp [isSpace, hspace, htab])]

theorem pathText_cons_cons (key next : String) (path : List String) :
    pathText (key :: next :: path) = keyText key ++ '.' :: pathText (next :: path) := by
  simp [pathText, List.intercalate]

/-- A path is read if it has no more parts than are allowed. -/
theorem keyParts_pathText {path : List String} (hne : path ≠ []) {c : Char}
    (hc : isBareChar c = false) {s : List Char} (hdot : (skipSpace (c :: s)).head? ≠ some '.')
    (n : ℕ) :
    keyParts n (pathText path ++ c :: s) =
      if path.length ≤ n then some (path, skipSpace (c :: s)) else none := by
  induction path generalizing n with
  | nil => exact absurd rfl hne
  | cons key path ih =>
    cases n with
    | zero => rfl
    | succ n =>
      cases path with
      | nil =>
        rw [show pathText [key] = keyText key by simp [pathText, List.intercalate], keyParts,
          skipSpace_keyText, simpleKey_keyText key hc, if_pos (by simp)]
        dsimp only
        split
        · rename_i h
          exact absurd (congrArg List.head? h) hdot
        · rfl
      | cons next path =>
        rw [pathText_cons_cons, List.append_assoc, List.cons_append, keyParts, skipSpace_keyText,
          simpleKey_keyText key (by decide)]
        have hpoint (t : List Char) : skipSpace ('.' :: t) = '.' :: t := rfl
        simp only [hpoint, ih (List.cons_ne_nil _ _)]
        by_cases hlen : (next :: path).length ≤ n
        · rw [if_pos hlen, if_pos (show (key :: next :: path).length ≤ n + 1 by simpa using hlen)]
        · rw [if_neg hlen, if_neg (show ¬(key :: next :: path).length ≤ n + 1 by simpa using hlen)]

section Pairs

variable {item : Reader Value} {ok : Value → Bool}

/-- A key and its value. -/
def pairText (key : String) (v : Value) (s : List Char) : List Char :=
  keyText key ++ ' ' :: '=' :: ' ' :: (valueText v ++ s)

theorem skipSpace_valueText {v : Value} (hv : v.Sound) (s : List Char) :
    skipSpace (' ' :: (valueText v ++ s)) = valueText v ++ s := by
  obtain ⟨c, t, h, hc⟩ := valueText_eq_cons hv
  have hspace : c ≠ ' ' := ne_of_kind hc (by decide)
  have htab : c ≠ '\t' := ne_of_kind hc (by decide)
  rw [h, List.cons_append, skipSpace, List.dropWhile_cons_of_pos (by decide),
    List.dropWhile_cons_of_neg (by simp [isSpace, hspace, htab])]

theorem keyValue_pairText {v : Value} (hv : v.Sound) (hread : ReadsItem item ok v) (key : String)
    {c : Char} (hc : isValueEnd c = true) (s : List Char) :
    keyValue item (pairText key v (c :: s)) =
      if ok v then some (([key], v), skipSpace (c :: s)) else none := by
  have hkey : dottedKey (pairText key v (c :: s)) =
      some ([key], '=' :: ' ' :: (valueText v ++ c :: s)) := by
    rw [pairText, show keyText key = pathText [key] by simp [pathText, List.intercalate]]
    exact keyParts_pathText (c := ' ') (s := '=' :: ' ' :: (valueText v ++ c :: s))
      (List.cons_ne_nil _ _) (by decide)
      (fun h => absurd (Option.some.inj h) (show '=' ≠ '.' by decide)) 79
  rw [keyValue, hkey]
  simp only [skipSpace_valueText hv, hread c s hc]
  cases ok v <;> rfl

theorem bracePairs_skip (fuel : ℕ) (s : List Char) :
    bracePairs item (fuel + 1) (' ' :: s) = bracePairs item (fuel + 1) s := by
  have hkey : dottedKey (' ' :: s) = dottedKey s := rfl
  rw [bracePairs, bracePairs, keyValue, keyValue, hkey]

/-- The entries of a table between braces, without the space in front of the first. -/
def bracesText : List (String × Value) → List Char → List Char
  | [], s => s
  | [(k, v)], s => pairText k v (' ' :: '\x7d' :: s)
  | (k, v) :: rest, s => pairText k v (',' :: ' ' :: bracesText rest s)

theorem bracesText_singleton (k : String) (v : Value) (s : List Char) :
    bracesText [(k, v)] s = pairText k v (' ' :: '\x7d' :: s) := rfl

theorem bracesText_cons_cons (k : String) (v : Value) (e : String × Value) (entries : Entries)
    (s : List Char) :
    bracesText ((k, v) :: e :: entries) s =
      pairText k v (',' :: ' ' :: bracesText (e :: entries) s) := rfl

theorem braceTexts_append {entries : Entries} (hne : entries ≠ []) (s : List Char) :
    braceTexts entries ++ ' ' :: '\x7d' :: s = ' ' :: bracesText entries s := by
  induction entries with
  | nil => exact absurd rfl hne
  | cons e entries ih =>
    obtain ⟨k, v⟩ := e
    cases entries with
    | nil => simp [braceTexts, bracesText_singleton, pairText]
    | cons e entries =>
      have := ih (List.cons_ne_nil _ _)
      rw [bracesText_cons_cons, ← this]
      simp [braceTexts, pairText]

theorem bracePairs_bracesText {entries : Entries} (hne : entries ≠ [])
    (hs : ∀ e ∈ entries, e.2.Sound) (hread : ∀ e ∈ entries, ReadsItem item ok e.2) {fuel : ℕ}
    (hfuel : entries.length ≤ fuel) (s : List Char) :
    bracePairs item fuel (bracesText entries s) =
      if entries.all (fun e => ok e.2) then some (pairsOf entries, s) else none := by
  induction entries generalizing fuel with
  | nil => exact absurd rfl hne
  | cons e entries ih =>
    obtain ⟨fuel, rfl⟩ := Nat.exists_eq_succ_of_ne_zero (show fuel ≠ 0 by rintro rfl; simp at hfuel)
    obtain ⟨hv, hrest⟩ := List.forall_mem_cons.1 hs
    obtain ⟨hreadV, hreadRest⟩ := List.forall_mem_cons.1 hread
    obtain ⟨k, v⟩ := e
    cases entries with
    | nil =>
      rw [bracesText_singleton, bracePairs, keyValue_pairText hv hreadV k (by decide)]
      simp only [List.all_cons, List.all_nil, Bool.and_true]
      cases ok v <;> rfl
    | cons e entries =>
      have ih := ih (List.cons_ne_nil _ _) hrest hreadRest (Nat.le_of_succ_le_succ hfuel)
      obtain ⟨fuel, rfl⟩ := Nat.exists_eq_succ_of_ne_zero
        (show fuel ≠ 0 by rintro rfl; simp at hfuel)
      have hpair : bracePairs item (fuel + 2)
          (pairText k v (',' :: ' ' :: bracesText (e :: entries) s)) =
            if ok v then (bracePairs item (fuel + 1) (bracesText (e :: entries) s)).map
              fun r => (([k], v) :: r.1, r.2)
            else none := by
        rw [bracePairs, keyValue_pairText hv hreadV k (by decide), ← bracePairs_skip]
        cases ok v with
        | false => rfl
        | true =>
          have hcomma (t : List Char) : skipSpace (',' :: t) = ',' :: t := rfl
          simp only [if_true, hcomma]
          cases bracePairs item (fuel + 1) (' ' :: bracesText (e :: entries) s) <;> rfl
      have hall : ((k, v) :: e :: entries).all (fun e => ok e.2) =
          (ok v && (e :: entries).all fun e => ok e.2) := List.all_cons
      rw [bracesText_cons_cons, hpair, ih, hall]
      cases ok v <;> cases (e :: entries).all (fun e => ok e.2) <;> rfl

theorem length_le_bracesText (entries : Entries) (s : List Char) :
    entries.length ≤ (bracesText entries s).length := by
  induction entries with
  | nil => exact Nat.zero_le _
  | cons e entries ih =>
    obtain ⟨k, v⟩ := e
    cases entries with
    | nil =>
      rw [bracesText_singleton, pairText]
      simp only [List.length_append, List.length_cons, List.length_nil]
      omega
    | cons e entries =>
      rw [bracesText_cons_cons, pairText]
      simp only [List.length_append, List.length_cons] at ih ⊢
      omega

/-- A table between braces is read behind its opening brace. -/
theorem braceTable_braceTail {entries : Entries} (hnodup : (entries.map (·.1)).Nodup)
    (hs : ∀ e ∈ entries, e.2.Sound) (hread : ∀ e ∈ entries, ReadsItem item ok e.2)
    (s : List Char) :
    braceTable item (braceTail entries ++ s) =
      if entries.all (fun e => ok e.2) then some (.table entries, s) else none := by
  cases entries with
  | nil => rfl
  | cons e entries =>
    have hne : e :: entries ≠ [] := List.cons_ne_nil _ _
    have htext : braceTail (e :: entries) ++ s = ' ' :: bracesText (e :: entries) s := by
      rw [← braceTexts_append hne]
      simp [braceTail]
    obtain ⟨t, ht⟩ : ∃ t, bracesText (e :: entries) s = keyText e.1 ++ t := by
      cases entries with
      | nil => exact ⟨_, rfl⟩
      | cons e' entries => exact ⟨_, bracesText_cons_cons e.1 e.2 e' entries s⟩
    have hskip : skipSpace (' ' :: bracesText (e :: entries) s) = bracesText (e :: entries) s := by
      rw [ht]
      exact skipSpace_keyText _ _
    obtain ⟨c, u, hkey, -⟩ := keyText_eq_cons e.1
    have hclose := keyText_head_ne hkey (d := '\x7d') (by decide) (by decide) (by decide)
    have hfuel : (e :: entries).length ≤ (bracesText (e :: entries) s).length + 1 :=
      (length_le_bracesText _ _).trans (Nat.le_succ _)
    rw [braceTable, htext, hskip]
    split
    · rename_i h
      rw [ht, hkey] at h
      exact absurd (List.cons.inj h).1 hclose
    · rw [bracePairs_bracesText hne hs hread hfuel]
      cases (e :: entries).all fun e => ok e.2 with
      | false => rfl
      | true =>
        simp only [if_true, braceEntries_pairsOf hnodup]
        rfl

end Pairs

/-! ### Values -/

/-- A printed value is read back if it fits, and not read otherwise. -/
theorem value_valueText {v : Value} (hv : v.Sound) (depth : ℕ) :
    ReadsItem (value depth) (Value.fits depth) v := by
  induction hv generalizing depth with
  | @array items h ih =>
    intro c s hc
    rw [valueText_array, List.cons_append]
    cases depth with
    | zero => exact scalar_eq_none (.inl rfl) _
    | succ depth =>
      rw [value, arrayItems_arrayTail h fun v hv => ih v hv depth, Value.fits]
      cases items.all (Value.fits depth) <;> rfl
  | @table entries hnodup h ih =>
    intro c s hc
    rw [valueText_table, List.cons_append]
    cases depth with
    | zero => exact scalar_eq_none (.inr rfl) _
    | succ depth =>
      rw [value, braceTable_braceTail hnodup h fun e he => ih e he depth,
        Value.fits]
  | string text => exact value_valueText_of_isScalar (.string text) rfl depth
  | integer n => exact value_valueText_of_isScalar (.integer n) rfl depth
  | float hx => exact value_valueText_of_isScalar (.float hx) rfl depth
  | boolean b => exact value_valueText_of_isScalar (.boolean b) rfl depth

end Dashboard.Toml
