/-!
# Blank characters

A character is blank when it has the Unicode property `White_Space`. Names, identifiers and paths
count as empty when all their characters are blank, and trimming removes blanks from both ends.
-/

namespace Dashboard.Text

/-- Whether `c` has the Unicode property `White_Space`. -/
def isBlank (c : Char) : Bool :=
  let n := c.toNat
  (0x9 ≤ n && n ≤ 0xD) || n == 0x20 || n == 0x85 || n == 0xA0 || n == 0x1680
    || (0x2000 ≤ n && n ≤ 0x200A) || n == 0x2028 || n == 0x2029 || n == 0x202F || n == 0x205F
    || n == 0x3000

/-- The characters from the first one that is not blank. -/
def trimStart (s : List Char) : List Char := s.dropWhile isBlank

/-- The characters up to the last one that is not blank. -/
def trimEnd (s : List Char) : List Char := (s.reverse.dropWhile isBlank).reverse

/-- The characters from the first to the last one that is not blank. -/
def trim (s : List Char) : List Char := trimEnd (trimStart s)

def trimmed (s : String) : String := String.ofList (trim s.toList)

/-- Whether trimming leaves nothing of `s`. -/
def blank (s : String) : Bool := (trim s.toList).isEmpty

@[simp] theorem trim_nil : trim [] = [] := rfl

/-- What is left of a text after dropping its blank beginning is empty or starts with a character
that is not blank. -/
theorem trimStart_eq_nil_or_head (s : List Char) :
    trimStart s = [] ∧ s.all isBlank = true ∨
      ∃ c r, trimStart s = c :: r ∧ isBlank c = false ∧ s.all isBlank = false := by
  induction s with
  | nil => simp [trimStart]
  | cons c s ih =>
    by_cases hc : isBlank c = true
    · simpa [trimStart, hc] using ih
    · exact .inr ⟨c, s, by simp [trimStart, hc], by simpa using hc, by simp [hc]⟩

/-- Trimming leaves nothing exactly when nothing but blanks was there. -/
theorem trim_eq_nil_iff (s : List Char) : trim s = [] ↔ s.all isBlank = true := by
  rcases trimStart_eq_nil_or_head s with ⟨h, hs⟩ | ⟨c, r, h, hc, hs⟩
  · simp [trim, trimEnd, h, hs]
  · have hne : trimStart (c :: r).reverse ≠ [] := by
      rcases trimStart_eq_nil_or_head (c :: r).reverse with ⟨_, hall⟩ | ⟨d, q, hd, _, _⟩
      · rw [List.all_reverse] at hall
        simp [hc] at hall
      · rw [hd]
        exact List.cons_ne_nil d q
    rw [trim, trimEnd, List.reverse_eq_nil_iff, h, hs]
    exact iff_of_false hne Bool.false_ne_true

theorem blank_eq_all (s : String) : blank s = s.toList.all isBlank := by
  rw [Bool.eq_iff_iff, blank, List.isEmpty_iff, trim_eq_nil_iff]

end Dashboard.Text
