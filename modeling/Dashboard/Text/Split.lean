/-!
# Texts cut at a mark

Paths, keys and overrides are texts whose parts stand between marks. `cut?` takes a text apart at
the first mark, and `split` at every one; a text without a mark has one part, itself.
-/

namespace Dashboard.Text

/-- The text before the first mark and the text behind it. -/
def cut? (mark : Char) : List Char → Option (List Char × List Char)
  | [] => none
  | c :: s =>
    if c = mark then some ([], s)
    else (cut? mark s).map fun (before, behind) => (c :: before, behind)

def split (mark : Char) : List Char → List (List Char)
  | [] => [[]]
  | c :: s =>
    if c = mark then [] :: split mark s
    else match split mark s with
      | part :: rest => (c :: part) :: rest
      | [] => [[c]]

theorem cut?_eq_none_iff (mark : Char) (s : List Char) : cut? mark s = none ↔ mark ∉ s := by
  induction s with
  | nil => simp [cut?]
  | cons c s ih =>
    by_cases hc : c = mark
    · simp [cut?, hc]
    · simp [cut?, hc, ih, Ne.symm hc]

theorem cut?_append (mark : Char) {before : List Char} (h : mark ∉ before) (behind : List Char) :
    cut? mark (before ++ mark :: behind) = some (before, behind) := by
  induction before with
  | nil => simp [cut?]
  | cons c s ih =>
    obtain ⟨hc, hs⟩ := not_or.1 (mt List.mem_cons.2 h)
    simp [cut?, Ne.symm hc, ih hs]

/-- The first cut leaves no mark before it and loses nothing. -/
theorem eq_append_of_cut? {mark : Char} {s before behind : List Char}
    (h : cut? mark s = some (before, behind)) : s = before ++ mark :: behind ∧ mark ∉ before := by
  induction s generalizing before with
  | nil => simp [cut?] at h
  | cons c s ih =>
    by_cases hc : c = mark
    · simp only [cut?, hc, if_true, Option.some.injEq, Prod.mk.injEq] at h
      obtain ⟨rfl, rfl⟩ := h
      simp [hc]
    · simp only [cut?, hc, if_false, Option.map_eq_some_iff, Prod.mk.injEq] at h
      obtain ⟨⟨rest, tail⟩, hcut, rfl, rfl⟩ := h
      obtain ⟨rfl, hrest⟩ := ih hcut
      simp [Ne.symm hc, hrest]

end Dashboard.Text
