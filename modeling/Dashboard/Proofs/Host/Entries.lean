import Dashboard.Proofs.Host.Units
import Mathlib.Data.List.Induction
import Mathlib.Data.List.Infix
import Mathlib.Data.List.Nodup

/-!
# The stage against the ledger

What is attached is compared with the units that have been attached and not unmounted. With the
scripted adapter an instance always knows whether it is attached, and unmounting it again does
nothing; but its entry is the oldest one of its plugin, and the order of the stage is wrong once a
unit is unmounted that an older one of its plugin and then one of another plugin precede. With the
headless adapter all is well exactly as long as no plugin has one instance that was unmounted and
another one that was not.
-/

namespace Dashboard

namespace Slots

namespace Ledger

/-! ### Taking the oldest entry -/

theorem append_cons_eq_iff {id : PluginId} {ids newer : List PluginId} :
    ids ++ id :: newer = id :: (ids ++ newer) ↔ ∀ other ∈ ids, other = id := by
  induction ids with
  | nil => simp
  | cons first ids ih =>
    rw [List.cons_append, List.cons_append, List.cons_eq_cons, List.forall_mem_cons]
    constructor
    · rintro ⟨rfl, hrest⟩
      exact ⟨rfl, ih.1 hrest⟩
    · rintro ⟨rfl, hrest⟩
      exact ⟨rfl, ih.2 hrest⟩

/-- The oldest entry of a plugin may stand for a given one exactly if all entries between the two
are of this plugin. -/
theorem erase_eq_append_iff {id : PluginId} {older : List (Nat × PluginId)}
    {newer : List PluginId} :
    (older.map Prod.snd ++ id :: newer).erase id = older.map Prod.snd ++ newer ↔
      ∀ before m between, older = before ++ (m, id) :: between → ∀ e ∈ between, e.2 = id := by
  induction older with
  | nil => simp
  | cons first older ih =>
    obtain ⟨k, other⟩ := first
    rw [List.map_cons, List.cons_append, List.cons_append]
    by_cases hid : other = id
    · subst hid
      rw [List.erase_cons_head, append_cons_eq_iff, List.forall_mem_map]
      constructor
      · intro hall before m between hsplit e he
        refine hall e ?_
        cases before with
        | nil => exact (List.cons.inj hsplit).2 ▸ he
        | cons first before =>
          rw [(List.cons.inj hsplit).2]
          exact List.mem_append_right _ (List.mem_cons_of_mem _ he)
      · intro hall
        exact hall [] k older rfl
    · rw [List.erase_cons_tail (by simpa using hid), List.cons_eq_cons, and_iff_right rfl, ih]
      constructor
      · intro hall before m between hsplit
        cases before with
        | nil => exact absurd (congrArg Prod.snd (List.cons.inj hsplit).1) hid
        | cons first before => exact hall before m between (List.cons.inj hsplit).2
      · intro hall before m between hsplit
        exact hall ((k, other) :: before) m between (by rw [hsplit, List.cons_append])

variable {H : Type} {l : Ledger H} {n : Nat} {id : PluginId}

theorem filter_ne_eq_self {entries : List (Nat × PluginId)} (h : n ∉ entries.map Prod.fst) :
    entries.filter (·.1 ≠ n) = entries := by
  refine List.filter_eq_self.2 fun e he => ?_
  have hne : e.1 ≠ n := fun heq => h (heq ▸ List.mem_map_of_mem he)
  simpa using hne

theorem Kept.not_mem_slots (h : l.Kept) (hn : ∀ id, l.slots.unit? n ≠ some ⟨id, true⟩) :
    n ∉ l.present.map Prod.fst := by
  intro hmem
  obtain ⟨⟨m, id⟩, hentry, rfl⟩ := List.mem_map.1 hmem
  exact hn id ((h.present m id).1 hentry)

/-- Without the entry of one slot the units before and behind it remain. -/
theorem Kept.filter_ne (h : l.Kept) {older newer : List (Nat × PluginId)}
    (hsplit : l.present = older ++ (n, id) :: newer) :
    l.present.filter (·.1 ≠ n) = older ++ newer := by
  have hnodup := h.nodup
  rw [hsplit, List.map_append, List.map_cons, List.nodup_middle, List.nodup_cons,
    ← List.map_append] at hnodup
  rw [hsplit, List.filter_append, List.filter_cons_of_neg (by simp), ← List.filter_append,
    filter_ne_eq_self hnodup.1]

variable [Adapter H]

/-! ### Agreement -/

/-- The stage holds the plugins of the units that have not been unmounted, oldest first. -/
def Agrees (l : Ledger H) : Prop := l.slots.attached = l.ids

/-- What every instance owes its holder. -/
structure Honest (l : Ledger H) : Prop where
  /-- An instance is attached until it is unmounted. -/
  isAttached : ∀ n i, l.slots.unit? n = some i →
    (Adapter.isAttached l.slots.host i = true ↔ (n, i.plugin) ∈ l.present)
  /-- To unmount an instance again does nothing to what is attached. -/
  again : ∀ n id, (n, id) ∈ l.gone → (l.slots.unmount n).attached = l.slots.attached

/-- What is to be expected of an adapter and its instances. -/
structure Exact (l : Ledger H) : Prop extends l.Honest where
  agrees : l.Agrees

/-- What a mount brings to the stage it brings to the ledger. -/
theorem exists_entered {s : Slots H} (harrives : l.slots.Arrives n s) :
    ∃ new, s.attached = l.slots.attached ++ new ∧
      (l.enter n s).slots = s ∧ (l.enter n s).ids = l.ids ++ new := by
  cases harrives with
  | quiet hunits hstage =>
    refine ⟨[], ?_⟩
    rw [enter_of_quiet hunits, List.append_nil, List.append_nil]
    exact ⟨hstage, rfl, rfl⟩
  | unit new hfree hunits hstage =>
    have hunit : s.unit? n = some ⟨new, true⟩ := by rw [hunits, Function.update_self]
    refine ⟨[new], hstage, ?_⟩
    rw [enter_of_unit hfree hunit]
    exact ⟨rfl, List.map_append⟩

theorem Agrees.enter {s : Slots H} (h : l.Agrees) (harrives : l.slots.Arrives n s) :
    (l.enter n s).Agrees := by
  obtain ⟨new, hattached, hslots, hids⟩ := exists_entered harrives
  rw [Agrees, hslots, hids, hattached]
  exact congrArg (· ++ new) h

theorem Agrees.adapter {change : H → H} (h : l.Agrees)
    (hchange : (Call.adapter change).KeepsStage) : (l.apply (.adapter change)).Agrees := by
  show (Adapter.stage (change l.slots.host)).attached = l.ids
  rw [hchange]
  exact h

/-- Something that holds at the start and is kept by every call of a run holds all along the run. -/
theorem run_induction {P : Ledger H → Prop} {calls : List (Call H)} (hstart : P l)
    (hstep : ∀ before c, before ++ [c] <+: calls → P (l.run before) → P ((l.run before).apply c)) :
    ∀ before, before <+: calls → P (l.run before) := by
  intro before
  induction before using List.reverseRecOn with
  | nil => exact fun _ => hstart
  | append_singleton before c ih =>
    intro hfront
    rw [run_concat]
    exact hstep before c hfront (ih ((List.prefix_append before [c]).trans hfront))

/-! ### The scripted adapter -/

/-- If the call unmounts a unit that an older one of its plugin precedes, all units between the two
are of this plugin too. -/
def InTurn (l : Ledger H) : Call H → Prop
  | .unmount n => ∀ older m between id newer,
    l.present = older ++ (m, id) :: (between ++ (n, id) :: newer) → ∀ e ∈ between, e.2 = id
  | _ => True

omit [Adapter H] in
theorem inTurn_of_not_mem (h : n ∉ l.present.map Prod.fst) : l.InTurn (.unmount n) := by
  intro older m between id newer hsplit
  have hmem : (n, id) ∈ l.present := by simp [hsplit]
  exact absurd (List.mem_map_of_mem hmem) h

/-- A call on the slot of a unit that was unmounted, or on one without a unit, changes nothing. -/
theorem ids_unmount_of_not_mem (h : n ∉ l.present.map Prod.fst) :
    (l.apply (.unmount n)).ids = l.ids :=
  congrArg (List.map Prod.snd) (filter_ne_eq_self h)

/-- Taking the oldest entry away is right exactly if all units from there on up to the unmounted one
are of its plugin. -/
theorem Kept.erase_eq_iff (h : l.Kept) {older newer : List (Nat × PluginId)}
    (hsplit : l.present = older ++ (n, id) :: newer) :
    l.ids.erase id = (l.apply (.unmount n)).ids ↔
      ∀ before m between, older = before ++ (m, id) :: between → ∀ e ∈ between, e.2 = id := by
  have hids : l.ids = older.map Prod.snd ++ id :: newer.map Prod.snd := by
    rw [ids, hsplit, List.map_append, List.map_cons]
  have hids' : (l.apply (.unmount n)).ids = older.map Prod.snd ++ newer.map Prod.snd := by
    show (l.present.filter (·.1 ≠ n)).map Prod.snd = _
    rw [h.filter_ne hsplit, List.map_append]
  rw [hids, hids', erase_eq_append_iff]

theorem Kept.inTurn_iff (h : l.Kept) (hentry : (n, id) ∈ l.present) :
    l.InTurn (.unmount n) ↔ l.ids.erase id = (l.apply (.unmount n)).ids := by
  constructor
  · intro hturn
    obtain ⟨older, newer, hsplit⟩ := List.append_of_mem hentry
    refine (h.erase_eq_iff hsplit).2 fun before m between holder => ?_
    refine hturn before m between id newer ?_
    rw [hsplit, holder, List.append_assoc, List.cons_append]
  · intro herase before m between other newer hsplit
    have hother : (n, other) ∈ l.present := by simp [hsplit]
    obtain rfl : other = id := by
      have hunit := (h.present n other).1 hother
      rw [(h.present n id).1 hentry] at hunit
      exact (congrArg Instance.plugin (Option.some.inj hunit)).symm
    have hsplit' : l.present = (before ++ (m, other) :: between) ++ (n, other) :: newer := by
      rw [hsplit, List.append_assoc, List.cons_append]
    exact (h.erase_eq_iff hsplit').1 herase before m between rfl

theorem scripted_attached_of_mem {l : Ledger Scripted} (h : l.Kept) (hentry : (n, id) ∈ l.present) :
    (l.apply (.unmount n)).slots.attached = l.slots.attached.erase id :=
  attached_unmount ((h.present n id).1 hentry)

theorem scripted_attached_of_not_mem {l : Ledger Scripted} (h : l.Kept)
    (hn : n ∉ l.present.map Prod.fst) :
    (l.apply (.unmount n)).slots.attached = l.slots.attached := by
  show (l.slots.unmount n).attached = _
  cases hunit : l.slots.unit? n with
  | none => rw [unmount_of_free hunit]
  | some i =>
    have hgone : ¬i.live = true := fun hlive =>
      hn (List.mem_map_of_mem ((h.live_iff hunit).2 hlive))
    rw [attached_unmount hunit]
    exact if_neg hgone

theorem scripted_agrees_apply_iff {l : Ledger Scripted} (h : l.Kept) (hagrees : l.Agrees)
    {c : Call Scripted} (hc : c.KeepsStage) : (l.apply c).Agrees ↔ l.InTurn c := by
  cases c with
  | mount id point => exact iff_of_true (hagrees.enter (arrives_mount l.slots id point)) trivial
  | poll n => exact iff_of_true (hagrees.enter (arrives_poll l.slots n)) trivial
  | adapter change => exact iff_of_true (hagrees.adapter hc) trivial
  | unmount n =>
    have hattached : l.slots.attached = l.ids := hagrees
    rw [Agrees]
    by_cases hn : n ∈ l.present.map Prod.fst
    · obtain ⟨⟨m, id⟩, hentry, rfl⟩ := List.mem_map.1 hn
      rw [h.inTurn_iff hentry, scripted_attached_of_mem h hentry, hattached]
    · rw [scripted_attached_of_not_mem h hn, ids_unmount_of_not_mem hn]
      exact iff_of_true hattached (inTurn_of_not_mem hn)

/-- Whatever the order of the stage, it holds as many entries of a plugin as there are units. -/
theorem scripted_perm_apply {l : Ledger Scripted} (h : l.Kept)
    (hperm : l.slots.attached.Perm l.ids) {c : Call Scripted} (hc : c.KeepsStage) :
    (l.apply c).slots.attached.Perm (l.apply c).ids := by
  have henter {n : Nat} {s : Slots Scripted} (harrives : l.slots.Arrives n s) :
      (l.enter n s).slots.attached.Perm (l.enter n s).ids := by
    obtain ⟨new, hattached, hslots, hids⟩ := exists_entered harrives
    rw [hslots, hids, hattached]
    exact hperm.append_right new
  cases c with
  | mount id point => exact henter (arrives_mount l.slots id point)
  | poll n => exact henter (arrives_poll l.slots n)
  | adapter change =>
    have hstage : (l.apply (.adapter change)).slots.attached = l.slots.attached :=
      congrArg Stage.attached (hc l.slots.host)
    exact hstage ▸ hperm
  | unmount n =>
    by_cases hn : n ∈ l.present.map Prod.fst
    · obtain ⟨⟨m, id⟩, hentry, rfl⟩ := List.mem_map.1 hn
      obtain ⟨older, newer, hsplit⟩ := List.append_of_mem hentry
      have hids : l.ids.Perm (id :: (l.apply (.unmount m)).ids) := by
        show (l.present.map Prod.snd).Perm (id :: (l.present.filter (·.1 ≠ m)).map Prod.snd)
        rw [h.filter_ne hsplit, hsplit, List.map_append, List.map_append, List.map_cons]
        exact List.perm_middle
      have herase := (hperm.trans hids).erase id
      rwa [List.erase_cons_head, ← scripted_attached_of_mem h hentry] at herase
    · rwa [scripted_attached_of_not_mem h hn, ids_unmount_of_not_mem hn]

theorem scripted_honest {l : Ledger Scripted} (h : l.Kept) : l.Honest where
  isAttached _ _ hi := (h.live_iff hi).symm
  again n id hgone := by
    rw [attached_unmount ((h.gone n id).1 hgone)]
    exact if_neg Bool.false_ne_true

/-! ### The headless adapter -/

/-- No plugin has a unit that was unmounted and another one that was not. -/
def Apart (l : Ledger H) : Prop := ∀ e ∈ l.present, ∀ e' ∈ l.gone, e.2 ≠ e'.2

omit [Adapter H] in
theorem Apart.not_mem_ids {l : Ledger H} (h : l.Apart) {n : Nat} {id : PluginId}
    (hgone : (n, id) ∈ l.gone) : id ∉ l.ids := by
  intro hmem
  obtain ⟨e, he, heq⟩ := List.mem_map.1 hmem
  exact h e he _ hgone heq

theorem headless_agrees_apply {l : Ledger Headless} (h : l.Kept) (hagrees : l.Agrees)
    (hapart : l.Apart) {c : Call Headless} (hc : c.KeepsStage) (hafter : (l.apply c).Apart) :
    (l.apply c).Agrees := by
  have hattached : l.slots.attached = l.ids := hagrees
  cases c with
  | mount id point => exact hagrees.enter (arrives_mount l.slots id point)
  | poll n => exact hagrees.enter (arrives_poll l.slots n)
  | adapter change => exact hagrees.adapter hc
  | unmount n =>
    show (l.slots.unmount n).attached = (l.apply (.unmount n)).ids
    cases hunit : l.slots.unit? n with
    | none =>
      have hn := h.not_mem_slots (n := n) fun id => by rw [hunit]; exact nofun
      rw [unmount_of_free hunit, hattached, ids_unmount_of_not_mem hn]
    | some i =>
      have hstage : (l.slots.unmount n).attached = l.ids.erase i.plugin := by
        rw [attached_unmount hunit, hattached]
        rfl
      rw [hstage]
      by_cases hlive : i.live = true
      · -- The unit is the only one of its plugin, so its entry is the oldest one.
        obtain ⟨older, newer, hsplit⟩ := List.append_of_mem ((h.live_iff hunit).2 hlive)
        refine (h.erase_eq_iff hsplit).2 fun before m between holder e he => ?_
        have hleft : (m, i.plugin) ∈ (l.apply (.unmount n)).present := by
          show _ ∈ l.present.filter (·.1 ≠ n)
          rw [h.filter_ne hsplit, holder]
          simp
        have hgone : (n, i.plugin) ∈ (l.apply (.unmount n)).gone := by
          show _ ∈ l.gone ++ l.present.filter (·.1 = n)
          simp [hsplit]
        exact (hafter _ hleft _ hgone rfl).elim
      · -- Another unit of the plugin could not be told from this one, but there is none.
        have hgone : (n, i.plugin) ∈ l.gone := (h.gone_iff hunit).2 (Bool.not_eq_true _ ▸ hlive)
        have hn : n ∉ l.present.map Prod.fst := h.not_mem_slots fun id => by
          rw [hunit]
          rintro heq
          exact hlive (congrArg Instance.live (Option.some.inj heq))
        rw [List.erase_of_not_mem (hapart.not_mem_ids hgone), ids_unmount_of_not_mem hn]

theorem headless_exact {l : Ledger Headless} (h : l.Kept) (hagrees : l.Agrees)
    (hapart : l.Apart) : l.Exact where
  agrees := hagrees
  isAttached n i hi := by
    have hattached : l.slots.attached = l.ids := hagrees
    show l.slots.attached.contains i.plugin = true ↔ _
    rw [List.contains_iff_mem, hattached]
    constructor
    · intro hmem
      by_contra hmissing
      have hgone : i.live = false := Bool.not_eq_true _ ▸ mt (h.live_iff hi).2 hmissing
      exact hapart.not_mem_ids ((h.gone_iff hi).2 hgone) hmem
    · exact fun hmem => List.mem_map_of_mem hmem
  again n id hgone := by
    have hattached : l.slots.attached = l.ids := hagrees
    have hstage : (l.slots.unmount n).attached = l.slots.attached.erase id :=
      attached_unmount ((h.gone n id).1 hgone)
    rw [hstage, hattached, List.erase_of_not_mem (hapart.not_mem_ids hgone)]

/-- Headless instances of one plugin cannot be told apart. -/
theorem headless_apart {l : Ledger Headless} (h : l.Kept) (hexact : l.Exact) : l.Apart := by
  rintro ⟨n, id⟩ hpresent ⟨m, other⟩ hgone heq
  obtain rfl : id = other := heq
  have hattached : Adapter.isAttached l.slots.host ⟨id, true⟩ = true :=
    (hexact.isAttached n _ ((h.present n id).1 hpresent)).2 hpresent
  have hunit := (h.gone m id).1 hgone
  have hpresent' : (m, id) ∈ l.present := (hexact.isAttached m _ hunit).1 hattached
  rw [(h.present m id).1 hpresent'] at hunit
  cases hunit

/-! ### Runs -/

theorem headless_along_iff {calls : List (Call Headless)} (hcalls : ∀ c ∈ calls, c.KeepsStage) :
    (∀ before, before <+: calls → ((start .empty).run before).Exact) ↔
      ∀ before, before <+: calls → ((start .empty).run before).Apart := by
  have hkept (before : List (Call Headless)) : ((start .empty).run before).Kept :=
    (kept_start Headless.empty).run before
  constructor
  · exact fun hexact before hbefore => headless_apart (hkept before) (hexact before hbefore)
  · intro hapart
    have hagrees : ∀ before, before <+: calls → ((start Headless.empty).run before).Agrees := by
      refine run_induction rfl fun before c hfront hagrees => ?_
      have hc : c.KeepsStage := hcalls c (hfront.subset (by simp))
      have hafter := hapart _ hfront
      rw [run_concat] at hafter
      exact headless_agrees_apply (hkept before) hagrees
        (hapart before ((List.prefix_append before [c]).trans hfront)) hc hafter
    exact fun before hbefore =>
      headless_exact (hkept before) (hagrees before hbefore) (hapart before hbefore)

section Scripted

variable (script : List (PluginId × Behavior)) {calls : List (Call Scripted)}

theorem attached_ofScript : (start (Scripted.ofScript script)).slots.attached = [] :=
  congrArg Stage.attached (Scripted.stage_ofScript script)

theorem scripted_perm_along (hcalls : ∀ c ∈ calls, c.KeepsStage) :
    ∀ before, before <+: calls →
      ((start (.ofScript script)).run before).slots.attached.Perm
        ((start (.ofScript script)).run before).ids := by
  refine run_induction (P := fun l => l.slots.attached.Perm l.ids) ?_ ?_
  · exact List.Perm.of_eq (attached_ofScript script)
  · intro before c hfront hperm
    have hkept := (kept_start (Scripted.ofScript script)).run before
    exact scripted_perm_apply hkept hperm (hcalls c (hfront.subset (by simp)))

theorem scripted_along_iff (hcalls : ∀ c ∈ calls, c.KeepsStage) :
    (∀ before, before <+: calls → ((start (.ofScript script)).run before).Exact) ↔
      ∀ before c, before ++ [c] <+: calls →
        ((start (.ofScript script)).run before).InTurn c := by
  have hkept (before : List (Call Scripted)) : ((start (.ofScript script)).run before).Kept :=
    (kept_start (Scripted.ofScript script)).run before
  have hkeeps {before : List (Call Scripted)} {c : Call Scripted}
      (hfront : before ++ [c] <+: calls) : c.KeepsStage := hcalls c (hfront.subset (by simp))
  constructor
  · intro hexact before c hfront
    have hbefore := hexact before ((List.prefix_append before [c]).trans hfront)
    have hafter := (hexact _ hfront).agrees
    rw [run_concat] at hafter
    exact (scripted_agrees_apply_iff (hkept before) hbefore.agrees (hkeeps hfront)).1 hafter
  · intro hturn before hbefore
    refine ⟨scripted_honest (hkept before), ?_⟩
    refine run_induction (attached_ofScript script) ?_ before hbefore
    intro before c hfront hagrees
    exact (scripted_agrees_apply_iff (hkept before) hagrees (hkeeps hfront)).2
      (hturn before c hfront)

end Scripted

/-- A headless adapter and its instances are as expected exactly as long as no plugin has one
instance that was unmounted and another one that was not. Instances of a scripted adapter always
are, and its stage holds the right plugins; they stand in the right order exactly as long as every
unit is unmounted in its turn. -/
theorem exact_along_iff {calls : List (Call Headless)} (hcalls : ∀ c ∈ calls, c.KeepsStage)
    (script : List (PluginId × Behavior)) {scripted : List (Call Scripted)}
    (hscripted : ∀ c ∈ scripted, c.KeepsStage) :
    ((∀ before, before <+: calls → ((start .empty).run before).Exact) ↔
        ∀ before, before <+: calls → ((start .empty).run before).Apart) ∧
      (∀ before, before <+: scripted →
        ((start (.ofScript script)).run before).Honest ∧
          ((start (.ofScript script)).run before).slots.attached.Perm
            ((start (.ofScript script)).run before).ids) ∧
      ((∀ before, before <+: scripted → ((start (.ofScript script)).run before).Exact) ↔
        ∀ before c, before ++ [c] <+: scripted →
          ((start (.ofScript script)).run before).InTurn c) := by
  refine ⟨headless_along_iff hcalls, fun before hbefore => ⟨?_, ?_⟩, ?_⟩
  · exact scripted_honest ((kept_start (Scripted.ofScript script)).run before)
  · exact scripted_perm_along script hscripted before hbefore
  · exact scripted_along_iff script hscripted

/-- Two units of one plugin: with the headless adapter the entry of the second one goes when the
first one is unmounted again, and with the scripted adapter a unit of another plugin that was
attached between them ends up in front of the first one. -/
theorem twins_not_exact :
    ¬((start Headless.empty).run
        [.mount ⟨"a"⟩ .none, .mount ⟨"a"⟩ .none, .unmount 0, .unmount 0]).Exact ∧
      ¬((start Scripted.empty).run
        [.mount ⟨"a"⟩ .none, .mount ⟨"b"⟩ .none, .mount ⟨"a"⟩ .none, .unmount 2]).Exact := by
  constructor
  · intro h
    have hagrees : ([] : List PluginId) = [⟨"a"⟩] := h.agrees
    cases hagrees
  · intro h
    have hagrees : [⟨"b"⟩, ⟨"a"⟩] = [⟨"a"⟩, (⟨"b"⟩ : PluginId)] := h.agrees
    exact absurd hagrees (by decide)

/-- Units of different plugins, one of them fetched first, are unmounted once and again. -/
def fetched : List (Call Headless) :=
  [.mount ⟨"a"⟩ (.bundle "a.js"), .mount ⟨"b"⟩ .none, .poll 0, .poll 0, .unmount 1, .unmount 1,
   .unmount 0]

/-- A plugin is mounted before and after another one. -/
def surrounded : List (Call Scripted) :=
  [.mount ⟨"a"⟩ .none, .mount ⟨"b"⟩ .none, .mount ⟨"a"⟩ .none]

theorem exact_along_iff_mixed :
    (∀ before, before <+: fetched → ((start .empty).run before).Exact) ∧
      ¬∀ before, before <+: surrounded ++ [.unmount 2] →
        ((start (.ofScript [])).run before).Exact := by
  have hkeeps : ∀ c ∈ fetched, c.KeepsStage := by simp [fetched, Call.KeepsStage]
  have hkeeps' : ∀ c ∈ surrounded ++ [.unmount 2], c.KeepsStage := by
    simp [surrounded, Call.KeepsStage]
  have hapart : ∀ before, before <+: fetched → ((start Headless.empty).run before).Apart := by
    intro before hbefore
    rw [← List.mem_inits] at hbefore
    revert before
    simp only [fetched, List.inits, List.map, List.forall_mem_cons]
    refine ⟨?_, ?_, ?_, ?_, ?_, ?_, ?_, ?_, List.forall_mem_nil _⟩ <;> unfold Apart <;> decide
  obtain ⟨hheadless, -, hscripted⟩ := exact_along_iff hkeeps [] hkeeps'
  refine ⟨hheadless.2 hapart, fun hexact => ?_⟩
  have hturn := hscripted.1 hexact surrounded _ (List.prefix_refl _)
  have hother : (⟨"b"⟩ : PluginId) = ⟨"a"⟩ :=
    hturn [] 0 [(1, ⟨"b"⟩)] ⟨"a"⟩ [] rfl (1, ⟨"b"⟩) List.mem_cons_self
  exact absurd hother (by decide)

end Ledger

end Slots

end Dashboard
