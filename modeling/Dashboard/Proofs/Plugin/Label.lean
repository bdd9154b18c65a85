import Dashboard.Plugin.Predicate

/-!
# What a label says

A label is all that a listing gives as the reason why a plugin is disabled. Alternatives stand in
parentheses, but neither a conjunction does nor what is negated, so that a `!` in front of a
conjunction reads as if it belonged to the first part alone. Read that way a label is unambiguous:
two predicates with one label have one reading, up to the grouping of conjunctions. They evaluate
alike if both mean what their label says.
-/

namespace Dashboard

namespace Predicate

/-! ### Predicates with plain names -/

/-- A name after which a label may go on: it holds neither a blank nor a closing parenthesis. -/
def IsName (name : String) : Prop := ∀ c ∈ name.toList, c ≠ ' ' ∧ c ≠ ')'

/-- Names of letters, digits, `_` and `-` are such names. -/
theorem isName_of_word {name : String}
    (h : name.toList.all (fun c => c.isAlphanum || c == '_' || c == '-') = true) :
    IsName name := by
  intro c hc
  have hword := List.all_eq_true.1 h c hc
  constructor
  · rintro rfl
    exact absurd hword (by decide)
  · rintro rfl
    exact absurd hword (by decide)

/-- The predicate is built from the named tests, and its names are plain. -/
def IsPlain : Predicate → Prop
  | always => True
  | never => True
  | flag name => IsName name
  | experimental id => IsName id.text
  | setting key => IsName key
  | and p q => p.IsPlain ∧ q.IsPlain
  | or p q => p.IsPlain ∧ q.IsPlain
  | not p => p.IsPlain
  | custom _ _ => False

def isAnd : Predicate → Bool
  | and _ _ => true
  | _ => false

theorem eq_and_of_isAnd {p : Predicate} (h : p.isAnd = true) : ∃ q r : Predicate, p = q.and r := by
  cases p with
  | and q r => exact ⟨q, r, rfl⟩
  | _ => cases h

/-! ### The reading of a label -/

/-- How a label reads that is followed by `&` and another one: conjunctions are grouped to the
right. -/
def joined : Predicate → Predicate → Predicate
  | and p q, r => and p (q.joined r)
  | p, r => and p r

/-- How a label reads that is preceded by `!`: only its first part is negated. -/
def negated : Predicate → Predicate
  | and p q => and p.not q
  | p => p.not

/-- How the label of the predicate reads. -/
def asRead : Predicate → Predicate
  | and p q => p.asRead.joined q.asRead
  | or p q => or p.asRead q.asRead
  | not p => p.asRead.negated
  | p => p

/-- The form of readings: conjunctions are grouped to the right, and none is negated. -/
def IsReading : Predicate → Prop
  | and p q => p.isAnd = false ∧ p.IsReading ∧ q.IsReading
  | or p q => p.IsReading ∧ q.IsReading
  | not p => p.isAnd = false ∧ p.IsReading
  | _ => True

theorem label_joined (p q : Predicate) : (p.joined q).label = p.label ++ " & " ++ q.label := by
  induction p with
  | and p r _ ih => simp only [joined, label, ih, String.append_assoc]
  | _ => rfl

theorem label_negated (p : Predicate) : p.negated.label = "!" ++ p.label := by
  cases p with
  | and p q => simp only [negated, label, String.append_assoc]
  | _ => rfl

theorem label_asRead (p : Predicate) : p.asRead.label = p.label := by
  induction p with
  | and p q ihp ihq => rw [asRead, label_joined, ihp, ihq, label]
  | or p q ihp ihq => rw [asRead, label, ihp, ihq, label]
  | not p ih => rw [asRead, label_negated, ih, label]
  | _ => rfl

theorem isPlain_joined {p q : Predicate} (hp : p.IsPlain) (hq : q.IsPlain) :
    (p.joined q).IsPlain := by
  induction p with
  | and p r _ ih => exact ⟨hp.1, ih hp.2⟩
  | _ => exact ⟨hp, hq⟩

theorem isPlain_negated {p : Predicate} (h : p.IsPlain) : p.negated.IsPlain := by
  cases p <;> exact h

theorem isPlain_asRead {p : Predicate} (h : p.IsPlain) : p.asRead.IsPlain := by
  induction p with
  | and p q ihp ihq => exact isPlain_joined (ihp h.1) (ihq h.2)
  | or p q ihp ihq => exact ⟨ihp h.1, ihq h.2⟩
  | not p ih => exact isPlain_negated (ih h)
  | _ => exact h

theorem isReading_joined {p q : Predicate} (hp : p.IsReading) (hq : q.IsReading) :
    (p.joined q).IsReading := by
  induction p with
  | and p r _ ih => exact ⟨hp.1, hp.2.1, ih hp.2.2⟩
  | _ => exact ⟨rfl, hp, hq⟩

theorem isReading_negated {p : Predicate} (h : p.IsReading) : p.negated.IsReading := by
  cases p with
  | and p q => exact ⟨rfl, ⟨h.1, h.2.1⟩, h.2.2⟩
  | _ => exact ⟨rfl, h⟩

theorem isReading_asRead (p : Predicate) : p.asRead.IsReading := by
  induction p with
  | and p q ihp ihq => exact isReading_joined ihp ihq
  | or p q ihp ihq => exact ⟨ihp, ihq⟩
  | not p ih => exact isReading_negated ih
  | _ => trivial

/-! ### Where a part of a label ends -/

/-- A part of a label that is no conjunction ends here. -/
def EndsPart (s : List Char) : Prop := ∀ c ∈ s.head?, c = ' ' ∨ c = ')'

/-- A label, or a part of it between parentheses, ends here. -/
structure EndsLabel (s : List Char) : Prop where
  part : EndsPart s
  no_more : ∀ t, s ≠ [' ', '&', ' '] ++ t

theorem endsPart_more (s : List Char) : EndsPart ([' ', '&', ' '] ++ s) := by simp [EndsPart]

theorem endsLabel_nil : EndsLabel [] := ⟨nofun, nofun⟩

theorem endsLabel_alternative (s : List Char) : EndsLabel ([' ', '|', ' '] ++ s) where
  part := by simp [EndsPart]
  no_more := by simp

theorem endsLabel_parenthesis (s : List Char) : EndsLabel (')' :: s) where
  part := by simp [EndsPart]
  no_more := by simp

/-- Where a name ends is told by what follows. -/
theorem names_eq {cs ds s t : List Char} (hcs : ∀ c ∈ cs, c ≠ ' ' ∧ c ≠ ')')
    (hds : ∀ c ∈ ds, c ≠ ' ' ∧ c ≠ ')') (hs : EndsPart s) (ht : EndsPart t)
    (h : cs ++ s = ds ++ t) : cs = ds ∧ s = t := by
  have hends {c : Char} {cs s : List Char} (hc : c ≠ ' ' ∧ c ≠ ')') : ¬EndsPart (c :: cs ++ s) := by
    intro hends
    exact (hends c rfl).elim hc.1 hc.2
  induction cs generalizing ds with
  | nil =>
    cases ds with
    | nil => exact ⟨rfl, h⟩
    | cons d ds =>
      rw [List.nil_append] at h
      exact absurd (h ▸ hs) (hends (hds d List.mem_cons_self))
  | cons c cs ih =>
    obtain ⟨hc, hcs⟩ := List.forall_mem_cons.1 hcs
    cases ds with
    | nil =>
      rw [List.nil_append] at h
      exact absurd (h ▸ ht) (hends hc)
    | cons d ds =>
      obtain ⟨rfl, hrest⟩ := List.cons.inj h
      obtain ⟨rfl, hst⟩ := ih hcs (List.forall_mem_cons.1 hds).2 hrest
      exact ⟨rfl, hst⟩

/-! ### Tests that are not composed -/

/-- The word in front of the name of a test. -/
def word : Predicate → List Char
  | always => ['a', 'l', 'w', 'a', 'y', 's']
  | never => ['n', 'e', 'v', 'e', 'r']
  | flag _ => ['f', 'l', 'a', 'g', ':']
  | experimental _ => ['e', 'x', 'p', 'e', 'r', 'i', 'm', 'e', 'n', 't', 'a', 'l', ':']
  | setting _ => ['s', 'e', 't', 't', 'i', 'n', 'g', ':']
  | _ => []

/-- The name that a test is about. -/
def name : Predicate → String
  | flag name => name
  | experimental id => id.text
  | setting key => key
  | _ => ""

def IsTest : Predicate → Prop
  | and _ _ | or _ _ | not _ | custom _ _ => False
  | _ => True

/-- A part of a plain label is a test, an alternative in parentheses or a negation. -/
theorem isTest_or_eq {p : Predicate} (hplain : p.IsPlain) (hand : p.isAnd = false) :
    p.IsTest ∨ (∃ q r : Predicate, p = q.or r) ∨ ∃ q : Predicate, p = q.not := by
  cases p with
  | and q r => cases hand
  | or q r => exact .inr (.inl ⟨q, r, rfl⟩)
  | not q => exact .inr (.inr ⟨q, rfl⟩)
  | custom text test => exact hplain.elim
  | _ => exact .inl trivial

theorem isName_of_isTest {p : Predicate} (h : p.IsTest) (hplain : p.IsPlain) : IsName p.name := by
  cases p with
  | and p q => exact h.elim
  | or p q => exact h.elim
  | not p => exact h.elim
  | custom text test => exact h.elim
  | always => exact isName_of_word rfl
  | never => exact isName_of_word rfl
  | _ => exact hplain

/-- The words of two tests differ in their first letters, if they differ. -/
theorem words_eq {p q : Predicate} (hp : p.IsTest) (hq : q.IsTest) {s t : List Char}
    (h : p.word ++ s = q.word ++ t) : p.word = q.word ∧ s = t := by
  cases p <;> cases q <;> simp_all [word, IsTest]

/-- The word of a test says which one it is, and its name what it is about. -/
theorem eq_of_word {p q : Predicate} (hp : p.IsTest) (hq : q.IsTest) (hword : p.word = q.word)
    (hname : p.name = q.name) : p = q := by
  cases p <;> cases q <;> simp_all [word, name, IsTest]
  exact congrArg PluginId.mk hname

/-- No word of a test starts like an alternative or a negation. -/
theorem word_ne_cons {p : Predicate} (h : p.IsTest) {c : Char} (hc : c = '(' ∨ c = '!')
    {s t : List Char} : p.word ++ s ≠ c :: t := by
  rcases hc with rfl | rfl <;> cases p <;> simp_all [word, IsTest]

/-! ### Reading back a label -/

/-- The label of the predicate, as it stands in front of more text. -/
def before (p : Predicate) (s : List Char) : List Char := p.label.toList ++ s

theorem before_of_isTest {p : Predicate} (h : p.IsTest) (s : List Char) :
    p.before s = p.word ++ (p.name.toList ++ s) := by
  cases p with
  | and p q => exact h.elim
  | or p q => exact h.elim
  | not p => exact h.elim
  | custom text test => exact h.elim
  | _ => simp [before, label, word, name]

theorem before_and (p q : Predicate) (s : List Char) :
    (p.and q).before s = p.before ([' ', '&', ' '] ++ q.before s) := by
  simp [before, label]

theorem before_or (p q : Predicate) (s : List Char) :
    (p.or q).before s = '(' :: p.before ([' ', '|', ' '] ++ q.before (')' :: s)) := by
  simp [before, label]

theorem before_not (p : Predicate) (s : List Char) : p.not.before s = '!' :: p.before s := by
  simp [before, label]

/-- The predicate is told by a text that starts with its label, up to where this part ends. -/
def ReadsAlone (p : Predicate) : Prop :=
  ∀ ⦃q : Predicate⦄ ⦃s t : List Char⦄, q.IsReading → q.IsPlain → q.isAnd = false →
    EndsPart s → EndsPart t → p.before s = q.before t → p = q ∧ s = t

/-- The predicate is told by a text that starts with its label, up to where the label ends. -/
def ReadsWhole (p : Predicate) : Prop :=
  ∀ ⦃q : Predicate⦄ ⦃s t : List Char⦄, q.IsReading → q.IsPlain →
    EndsLabel s → EndsLabel t → p.before s = q.before t → p = q ∧ s = t

theorem readsAlone_of_isTest {p : Predicate} (h : p.IsTest) (hplain : p.IsPlain) :
    p.ReadsAlone := by
  intro q s t _ hq hand hs ht heq
  rw [before_of_isTest h] at heq
  obtain htest | ⟨q, r, rfl⟩ | ⟨q, rfl⟩ := isTest_or_eq hq hand
  · rw [before_of_isTest htest] at heq
    obtain ⟨hword, hrest⟩ := words_eq h htest heq
    obtain ⟨hname, hend⟩ :=
      names_eq (isName_of_isTest h hplain) (isName_of_isTest htest hq) hs ht hrest
    exact ⟨eq_of_word h htest hword (String.toList_injective hname), hend⟩
  · exact absurd heq (before_or q r t ▸ word_ne_cons h (.inl rfl))
  · exact absurd heq (before_not q t ▸ word_ne_cons h (.inr rfl))

theorem readsAlone_not {p : Predicate} (h : p.ReadsAlone) : p.not.ReadsAlone := by
  intro q s t hq hplain hand hs ht heq
  rw [before_not] at heq
  obtain htest | ⟨q, r, rfl⟩ | ⟨q, rfl⟩ := isTest_or_eq hplain hand
  · rw [before_of_isTest htest] at heq
    exact absurd heq.symm (word_ne_cons htest (.inr rfl))
  · rw [before_or] at heq
    exact absurd (List.cons.inj heq).1 (by decide)
  · rw [before_not] at heq
    obtain ⟨rfl, hend⟩ := h hq.2 hplain hq.1 hs ht (List.cons.inj heq).2
    exact ⟨rfl, hend⟩

theorem readsAlone_or {p r : Predicate} (hp : p.ReadsWhole) (hr : r.ReadsWhole) :
    (p.or r).ReadsAlone := by
  intro q s t hq hplain hand hs ht heq
  rw [before_or] at heq
  obtain htest | ⟨q, u, rfl⟩ | ⟨q, rfl⟩ := isTest_or_eq hplain hand
  · rw [before_of_isTest htest] at heq
    exact absurd heq.symm (word_ne_cons htest (.inl rfl))
  · rw [before_or] at heq
    obtain ⟨rfl, hrest⟩ := hp hq.1 hplain.1 (endsLabel_alternative _) (endsLabel_alternative _)
      (List.cons.inj heq).2
    obtain ⟨rfl, hend⟩ := hr hq.2 hplain.2 (endsLabel_parenthesis _) (endsLabel_parenthesis _)
      (List.append_cancel_left hrest)
    exact ⟨rfl, (List.cons.inj hend).2⟩
  · rw [before_not] at heq
    exact absurd (List.cons.inj heq).1 (by decide)

theorem readsWhole_and {p r : Predicate} (hp : p.ReadsAlone) (hr : r.ReadsWhole) :
    (p.and r).ReadsWhole := by
  intro q s t hq hplain hs ht heq
  rw [before_and] at heq
  cases hand : q.isAnd with
  | false =>
    obtain ⟨-, hmore⟩ := hp hq hplain hand (endsPart_more _) ht.part heq
    exact absurd hmore.symm (ht.no_more _)
  | true =>
    obtain ⟨q, u, rfl⟩ := eq_and_of_isAnd hand
    rw [before_and] at heq
    obtain ⟨rfl, hrest⟩ := hp hq.2.1 hplain.1 hq.1 (endsPart_more _) (endsPart_more _) heq
    obtain ⟨rfl, hend⟩ := hr hq.2.2 hplain.2 hs ht (List.append_cancel_left hrest)
    exact ⟨rfl, hend⟩

/-- Where the label ends, a part of it does not go on as a conjunction. -/
theorem ReadsAlone.readsWhole {p : Predicate} (h : p.ReadsAlone) : p.ReadsWhole := by
  intro q s t hq hplain hs ht heq
  cases hand : q.isAnd with
  | false => exact h hq hplain hand hs.part ht.part heq
  | true =>
    obtain ⟨q, r, rfl⟩ := eq_and_of_isAnd hand
    rw [before_and] at heq
    obtain ⟨-, hmore⟩ := h hq.2.1 hplain.1 hq.1 hs.part (endsPart_more _) heq
    exact absurd hmore (hs.no_more _)

theorem reads {p : Predicate} (hreading : p.IsReading) (hplain : p.IsPlain) :
    (p.isAnd = false → p.ReadsAlone) ∧ p.ReadsWhole := by
  -- The two go together: a conjunction needs its first part alone, an alternative both parts whole.
  induction p with
  | and p r ihp ihr =>
    obtain ⟨hand, hp, hr⟩ := hreading
    exact ⟨nofun, readsWhole_and ((ihp hp hplain.1).1 hand) (ihr hr hplain.2).2⟩
  | or p r ihp ihr =>
    have h := readsAlone_or (ihp hreading.1 hplain.1).2 (ihr hreading.2 hplain.2).2
    exact ⟨fun _ => h, h.readsWhole⟩
  | not p ih =>
    have h := readsAlone_not ((ih hreading.2 hplain).1 hreading.1)
    exact ⟨fun _ => h, h.readsWhole⟩
  | custom text test => exact hplain.elim
  | _ =>
    have h := readsAlone_of_isTest (by trivial) hplain
    exact ⟨fun _ => h, h.readsWhole⟩

/-- A label has one reading. -/
theorem asRead_eq_of_label_eq {p q : Predicate} (hp : p.IsPlain) (hq : q.IsPlain)
    (h : p.label = q.label) : p.asRead = q.asRead := by
  have hwhole := (reads (isReading_asRead p) (isPlain_asRead hp)).2
  have hbefore : p.asRead.before [] = q.asRead.before [] := by
    rw [before, before, label_asRead, label_asRead, h]
  exact (hwhole (isReading_asRead q) (isPlain_asRead hq) endsLabel_nil endsLabel_nil hbefore).1

/-! ### What a label says -/

/-- What the label says is what the predicate tests: it evaluates as its label reads. -/
def IsAsLabelled (p : Predicate) (flags : FeatureFlags) (settings : Settings) : Prop :=
  p.eval flags settings = p.asRead.eval flags settings

/-- No conjunction in the predicate is negated. -/
def IsTight : Predicate → Prop
  | and p q => p.IsTight ∧ q.IsTight
  | or p q => p.IsTight ∧ q.IsTight
  | not p => p.isAnd = false ∧ p.IsTight
  | _ => True

theorem eval_joined (p q : Predicate) (flags : FeatureFlags) (settings : Settings) :
    (p.joined q).eval flags settings = (p.eval flags settings && q.eval flags settings) := by
  induction p with
  | and p r _ ih => simp only [joined, eval, ih, Bool.and_assoc]
  | _ => rfl

theorem negated_of_isAnd {p : Predicate} (h : p.isAnd = false) : p.negated = p.not := by
  cases p with
  | and p q => cases h
  | _ => rfl

theorem IsTight.isAnd_asRead {p : Predicate} (h : p.IsTight) (hand : p.isAnd = false) :
    p.asRead.isAnd = false := by
  induction p with
  | and p q => cases hand
  | not p ih => rw [asRead, negated_of_isAnd (ih h.2 h.1)]; rfl
  | _ => rfl

theorem IsTight.isAsLabelled {p : Predicate} (h : p.IsTight) (flags : FeatureFlags)
    (settings : Settings) : p.IsAsLabelled flags settings := by
  unfold IsAsLabelled
  induction p with
  | and p q ihp ihq => rw [asRead, eval_joined, eval, ihp h.1, ihq h.2]
  | or p q ihp ihq => rw [asRead, eval, eval, ihp h.1, ihq h.2]
  | not p ih => rw [asRead, negated_of_isAnd (h.2.isAnd_asRead h.1), eval, eval, ih h.2]
  | _ => rfl

/-- Two predicates with one label evaluate alike exactly if both or neither of them test what the
label says, and so they do wherever no conjunction is negated. -/
theorem eval_eq_iff_of_label_eq {p q : Predicate} (hp : p.IsPlain) (hq : q.IsPlain)
    (h : p.label = q.label) :
    (∀ flags settings, p.eval flags settings = q.eval flags settings ↔
        (p.IsAsLabelled flags settings ↔ q.IsAsLabelled flags settings)) ∧
      (p.IsTight → q.IsTight → ∀ flags settings,
        p.eval flags settings = q.eval flags settings) := by
  have hread : p.asRead = q.asRead := asRead_eq_of_label_eq hp hq h
  have halike (flags : FeatureFlags) (settings : Settings) :
      p.eval flags settings = q.eval flags settings ↔
        (p.IsAsLabelled flags settings ↔ q.IsAsLabelled flags settings) := by
    rw [IsAsLabelled, IsAsLabelled, hread]
    cases p.eval flags settings <;> cases q.eval flags settings <;>
      cases q.asRead.eval flags settings <;> decide
  refine ⟨halike, fun hp hq flags settings => (halike flags settings).2 ?_⟩
  exact iff_of_true (hp.isAsLabelled flags settings) (hq.isAsLabelled flags settings)

/-- A conjunction of three parts has one label, however it is grouped. -/
theorem eval_eq_grouped :
    (and (and (flag "beta") (setting "dark")) always).eval
        (FeatureFlags.empty.withFlag "beta" true) .empty =
      (and (flag "beta") (and (setting "dark") always)).eval
        (FeatureFlags.empty.withFlag "beta" true) .empty := by
  have hbeta : IsName "beta" := isName_of_word rfl
  have hdark : IsName "dark" := isName_of_word rfl
  exact (eval_eq_iff_of_label_eq (p := and (and (flag "beta") (setting "dark")) always)
    (q := and (flag "beta") (and (setting "dark") always))
    ⟨⟨hbeta, hdark⟩, trivial⟩ ⟨hbeta, hdark, trivial⟩ (by decide)).2
    ⟨⟨trivial, trivial⟩, trivial⟩ ⟨trivial, trivial, trivial⟩ _ _

/-- A conjunction whose first part is negated has the label of a negated conjunction. With no flag
set, one is off and the other one is on. -/
theorem label_eq_negated_conjunction :
    (and (flag "a").not (flag "b")).IsPlain ∧ (and (flag "a") (flag "b")).not.IsPlain ∧
      (and (flag "a").not (flag "b")).label = (and (flag "a") (flag "b")).not.label ∧
      (and (flag "a").not (flag "b")).eval .empty .empty = false ∧
      (and (flag "a") (flag "b")).not.eval .empty .empty = true := by
  have ha : IsName "a" := isName_of_word rfl
  have hb : IsName "b" := isName_of_word rfl
  exact ⟨⟨ha, hb⟩, ⟨ha, hb⟩, by decide⟩

end Predicate

end Dashboard
