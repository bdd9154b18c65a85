import Dashboard.Proofs.Host.Lawful

/-!
# Independent adapters

At an independent adapter no mount decides what becomes of another. What was asked about some mounts
in flight, and what was unmounted, can be told from the answers about these mounts alone, and a new
mount never takes the key of an earlier one. The headless and the scripted adapter are independent,
also while the gates of the scripted adapter are opened and its script is changed.
-/

namespace Dashboard

/-- The laws that keep the mounts at an adapter apart. -/
class IndependentAdapter (H : Type) [Adapter H] where
  /-- No mount was given this key or a later one so far. -/
  nextKey : H → Nat
  /-- The states differ in what is attached and in what became of the mounts with the given keys,
  but in nothing else. -/
  AlikeBut : (Nat → Prop) → H → H → Prop
  equivalence (keys : Nat → Prop) : Equivalence (AlikeBut keys)
  mono {keys keys' : Nat → Prop} {h h' : H} :
    AlikeBut keys h h' → (∀ k, keys k → keys' k) → AlikeBut keys' h h'
  nextKey_eq {keys : Nat → Prop} {h h' : H} : AlikeBut keys h h' → nextKey h = nextKey h'
  nextKey_mount (h : H) (ctx : MountContext) : nextKey h ≤ nextKey (Adapter.mount h ctx).1
  fresh {h h' : H} {ctx : MountContext} {t : Ticket} :
    Adapter.mount h ctx = (h', .pending t) → nextKey h ≤ t.key ∧ t.key < nextKey h'
  mount_alike {keys : Nat → Prop} {h h' : H} (ctx : MountContext) : AlikeBut keys h h' →
    (Adapter.mount h ctx).2 = (Adapter.mount h' ctx).2 ∧
      AlikeBut keys (Adapter.mount h ctx).1 (Adapter.mount h' ctx).1
  poll_alike {keys : Nat → Prop} {h h' : H} {t : Ticket} : AlikeBut keys h h' → ¬ keys t.key →
    (Adapter.poll h t).2 = (Adapter.poll h' t).2 ∧
      AlikeBut keys (Adapter.poll h t).1 (Adapter.poll h' t).1
  poll_own (h : H) (t : Ticket) : AlikeBut (· = t.key) h (Adapter.poll h t).1
  cancel_own (h : H) (t : Ticket) : AlikeBut (· = t.key) h (Adapter.cancel h t)
  unmount (h : H) (i : Instance) : AlikeBut (fun _ => False) h (Adapter.unmount h i).1

namespace IndependentAdapter

variable {H : Type} [Adapter H] [IndependentAdapter H] {keys : Nat → Prop} {h h' h'' : H}

theorem refl (keys : Nat → Prop) (h : H) : AlikeBut keys h h := (equivalence keys).refl h

theorem symm (halike : AlikeBut keys h h') : AlikeBut keys h' h := (equivalence keys).symm halike

theorem trans (hleft : AlikeBut keys h h') (hright : AlikeBut keys h' h'') : AlikeBut keys h h'' :=
  (equivalence keys).trans hleft hright

theorem unmount_self (keys : Nat → Prop) (h : H) (i : Instance) :
    AlikeBut keys h (Adapter.unmount h i).1 :=
  mono (unmount h i) fun _ hk => hk.elim

end IndependentAdapter

namespace Headless

structure AlikeBut (keys : Nat → Prop) (h h' : Headless) : Prop where
  nextKey : h.nextKey = h'.nextKey
  fetched : ∀ k, ¬ keys k → h.fetched.count k = h'.fetched.count k

theorem AlikeBut.contains {keys : Nat → Prop} {h h' : Headless} (halike : AlikeBut keys h h')
    {k : Nat} (hk : ¬ keys k) : h.fetched.contains k = h'.fetched.contains k := by
  have hcount := halike.fetched k hk
  rw [Bool.eq_iff_iff, List.contains_iff_mem, List.contains_iff_mem, ← List.count_pos_iff,
    ← List.count_pos_iff, hcount]

instance : IndependentAdapter Headless where
  nextKey := nextKey
  AlikeBut := AlikeBut
  equivalence keys :=
    { refl := fun _ => ⟨rfl, fun _ _ => rfl⟩
      symm := fun h => ⟨h.nextKey.symm, fun k hk => (h.fetched k hk).symm⟩
      trans := fun h h' =>
        ⟨h.nextKey.trans h'.nextKey, fun k hk => (h.fetched k hk).trans (h'.fetched k hk)⟩ }
  mono halike hkeys := ⟨halike.nextKey, fun k hk => halike.fetched k fun hkey => hk (hkeys k hkey)⟩
  nextKey_eq := AlikeBut.nextKey
  nextKey_mount h ctx := by
    change h.nextKey ≤ (mount h ctx).1.nextKey
    unfold mount
    cases ctx.mount <;> simp [attach]
  fresh {h h' ctx t} hmount := by
    change mount h ctx = _ at hmount
    unfold mount at hmount
    cases hpoint : ctx.mount <;> simp only [hpoint, attach] at hmount
    case bundle =>
      obtain ⟨rfl, hpending⟩ := Prod.mk.inj hmount
      cases MountRequest.pending.inj hpending
      exact ⟨Nat.le_refl _, Nat.lt_succ_self _⟩
    all_goals simp at hmount
  mount_alike {keys h h'} ctx halike := by
    change (mount h ctx).2 = (mount h' ctx).2 ∧ AlikeBut keys (mount h ctx).1 (mount h' ctx).1
    unfold mount
    cases ctx.mount
    case bundle =>
      exact ⟨by rw [halike.nextKey], by simp only [halike.nextKey], halike.fetched⟩
    all_goals exact ⟨rfl, halike.nextKey, halike.fetched⟩
  poll_alike {keys h h' t} halike hkey := by
    change (poll h t).2 = (poll h' t).2 ∧ AlikeBut keys (poll h t).1 (poll h' t).1
    unfold poll
    rw [halike.contains hkey]
    split
    · refine ⟨rfl, halike.nextKey, fun k hk => ?_⟩
      simp only [attach, List.count_erase, halike.fetched k hk]
    · refine ⟨rfl, halike.nextKey, fun k hk => ?_⟩
      simp only [List.count_cons, halike.fetched k hk]
  poll_own h t := by
    change AlikeBut _ h (poll h t).1
    unfold poll
    split
    · refine ⟨rfl, fun k hk => ?_⟩
      simp only [attach, List.count_erase_of_ne hk]
    · refine ⟨rfl, fun k hk => ?_⟩
      simp only [List.count_cons_of_ne (Ne.symm hk)]
  cancel_own h t := ⟨rfl, fun k hk => (List.count_erase_of_ne hk).symm⟩
  unmount h i := by
    change AlikeBut _ h (unmount h i).1
    unfold unmount
    split <;> exact ⟨rfl, fun _ _ => rfl⟩

end Headless

namespace Scripted

structure AlikeBut (keys : Nat → Prop) (s s' : Scripted) : Prop where
  behaviors : s.behaviors = s'.behaviors
  gates : s.gates = s'.gates
  handles : s.handles = s'.handles
  nextKey : s.nextKey = s'.nextKey
  listening : ∀ k, ¬ keys k → s.listening.count k = s'.listening.count k
  outcomes : ∀ k, ¬ keys k → s.outcomes.lookup k = s'.outcomes.lookup k

variable {keys : Nat → Prop} {s s' : Scripted}

theorem lookup_outcomes_cancel_of_ne (s : Scripted) {t : Ticket} {k : Nat} (hk : k ≠ t.key) :
    (s.cancel t).outcomes.lookup k = s.outcomes.lookup k := by
  unfold cancel
  induction s.outcomes with
  | nil => rfl
  | cons o outcomes ih =>
    by_cases ho : o.1 = t.key
    · have hko : (k == o.1) = false := beq_eq_false_iff_ne.2 (ho ▸ hk)
      rw [List.filter_cons_of_neg (by simp [ho]), ih, List.lookup_cons, hko]
    · rw [List.filter_cons_of_pos (by simp [ho]), List.lookup_cons, List.lookup_cons]
      split
      · rfl
      · exact ih

theorem alikeBut_cancel (s : Scripted) (t : Ticket) : AlikeBut (· = t.key) s (s.cancel t) where
  behaviors := rfl
  gates := rfl
  handles := rfl
  nextKey := rfl
  listening _ hk := (List.count_erase_of_ne hk).symm
  outcomes _ hk := (s.lookup_outcomes_cancel_of_ne hk).symm

theorem AlikeBut.symm (h : AlikeBut keys s s') : AlikeBut keys s' s where
  behaviors := h.behaviors.symm
  gates := h.gates.symm
  handles := h.handles.symm
  nextKey := h.nextKey.symm
  listening k hk := (h.listening k hk).symm
  outcomes k hk := (h.outcomes k hk).symm

theorem AlikeBut.trans {s'' : Scripted} (h : AlikeBut keys s s') (h' : AlikeBut keys s' s'') :
    AlikeBut keys s s'' where
  behaviors := h.behaviors.trans h'.behaviors
  gates := h.gates.trans h'.gates
  handles := h.handles.trans h'.handles
  nextKey := h.nextKey.trans h'.nextKey
  listening k hk := (h.listening k hk).trans (h'.listening k hk)
  outcomes k hk := (h.outcomes k hk).trans (h'.outcomes k hk)

theorem AlikeBut.mono {keys' : Nat → Prop} (h : AlikeBut keys s s')
    (hkeys : ∀ k, keys k → keys' k) : AlikeBut keys' s s' :=
  { h with
    listening := fun k hk => h.listening k fun hkey => hk (hkeys k hkey)
    outcomes := fun k hk => h.outcomes k fun hkey => hk (hkeys k hkey) }

theorem AlikeBut.attach (h : AlikeBut keys s s') (id : PluginId) :
    AlikeBut keys (s.attach id).1 (s'.attach id).1 := { h with }

theorem AlikeBut.cancel (h : AlikeBut keys s s') (t : Ticket) :
    AlikeBut keys (s.cancel t) (s'.cancel t) :=
  { h with
    listening := fun k hk => by
      simp only [Scripted.cancel, List.count_erase, h.listening k hk]
    outcomes := fun k hk => by
      by_cases hkt : k = t.key
      · subst hkt
        have hgone (s : Scripted) : (s.cancel t).outcomes.lookup t.key = none := by
          rw [List.lookup_eq_none_iff]
          intro o ho
          have hne : (o.1 != t.key) = true := (List.mem_filter.1 ho).2
          simpa [beq_eq_false_iff_ne, ne_comm] using hne
        rw [hgone, hgone]
      · rw [lookup_outcomes_cancel_of_ne s hkt, lookup_outcomes_cancel_of_ne s' hkt]
        exact h.outcomes k hk }

instance : IndependentAdapter Scripted where
  nextKey := nextKey
  AlikeBut := AlikeBut
  equivalence keys :=
    { refl := fun _ => ⟨rfl, rfl, rfl, rfl, fun _ _ => rfl, fun _ _ => rfl⟩
      symm := AlikeBut.symm
      trans := AlikeBut.trans }
  mono := AlikeBut.mono
  nextKey_eq := AlikeBut.nextKey
  nextKey_mount s ctx := by
    change s.nextKey ≤ (mount s ctx).1.nextKey
    unfold mount
    dsimp only
    split <;> simp [attach]
  fresh {s s' ctx t} hmount := by
    change mount s ctx = _ at hmount
    unfold mount at hmount
    dsimp only at hmount
    split at hmount
    · simp [attach] at hmount
    · simp at hmount
    · obtain ⟨rfl, hpending⟩ := Prod.mk.inj hmount
      cases MountRequest.pending.inj hpending
      exact ⟨Nat.le_refl _, Nat.lt_succ_self _⟩
  mount_alike {keys s s'} ctx halike := by
    change (mount s ctx).2 = (mount s' ctx).2 ∧ AlikeBut keys (mount s ctx).1 (mount s' ctx).1
    have hasked : AlikeBut keys
        { s with stage := s.stage.request ctx.plugin, handles := ctx.handle :: s.handles }
        { s' with stage := s'.stage.request ctx.plugin, handles := ctx.handle :: s'.handles } :=
      { halike with handles := congrArg (ctx.handle :: ·) halike.handles }
    have hbehavior : s.behaviors.lookup ctx.plugin = s'.behaviors.lookup ctx.plugin := by
      rw [halike.behaviors]
    simp only [mount, behavior, hbehavior]
    split
    · exact ⟨rfl, hasked.attach ctx.plugin⟩
    · exact ⟨rfl, hasked⟩
    · refine ⟨by rw [halike.nextKey], { hasked with gates := ?_, nextKey := ?_, listening := ?_ }⟩
      · simp only [halike.gates, halike.nextKey]
      · simp only [halike.nextKey]
      · intro k hk
        simp only [List.count_cons, halike.nextKey, halike.listening k hk]
  poll_alike {keys s s' t} halike hkey := by
    change (poll s t).2 = (poll s' t).2 ∧ AlikeBut keys (poll s t).1 (poll s' t).1
    unfold poll
    rw [halike.outcomes t.key hkey]
    split
    · exact ⟨rfl, halike⟩
    · exact ⟨rfl, halike.cancel t⟩
    · exact ⟨rfl, (halike.cancel t).attach t.plugin⟩
  poll_own s t := by
    change AlikeBut _ s (poll s t).1
    have hcancel := s.alikeBut_cancel t
    unfold poll
    split
    · exact ⟨rfl, rfl, rfl, rfl, fun _ _ => rfl, fun _ _ => rfl⟩
    · exact hcancel
    · exact { hcancel with }
  cancel_own := alikeBut_cancel
  unmount s i := by
    change AlikeBut _ s (unmount s i).1
    unfold unmount
    split <;> exact ⟨rfl, rfl, rfl, rfl, fun _ _ => rfl, fun _ _ => rfl⟩

/-- A gate that only one of the two states has a mount for belongs to a mount that may differ. -/
theorem AlikeBut.openGate (h : AlikeBut keys s s') (id : PluginId) (failure : Option String) :
    AlikeBut keys (s.openGate id failure).1 (s'.openGate id failure).1 := by
  unfold Scripted.openGate
  rw [h.gates]
  cases hgate : s'.gates.find? (·.plugin == id) with
  | none => exact h
  | some gate =>
    have hopened : AlikeBut keys { s with gates := s'.gates.erase gate }
        { s' with gates := s'.gates.erase gate } := { h with gates := rfl }
    dsimp only
    by_cases hkey : keys gate.key
    · have hlookup (outcomes : List (Nat × Option String)) (k : Nat) (hk : ¬ keys k) :
          ((gate.key, failure) :: outcomes).lookup k = outcomes.lookup k := by
        have hne : (k == gate.key) = false := beq_eq_false_iff_ne.2 fun heq => hk (heq ▸ hkey)
        rw [List.lookup_cons, hne]
      split <;> split
      · exact { hopened with
          outcomes := fun k hk => by rw [hlookup _ k hk, hlookup _ k hk]; exact h.outcomes k hk }
      · exact { hopened with
          outcomes := fun k hk => by rw [hlookup _ k hk]; exact h.outcomes k hk }
      · exact { hopened with
          outcomes := fun k hk => by rw [hlookup _ k hk]; exact h.outcomes k hk }
      · exact hopened
    · have hlistening : s.listening.contains gate.key = s'.listening.contains gate.key := by
        have hcount := h.listening gate.key hkey
        rw [Bool.eq_iff_iff, List.contains_iff_mem, List.contains_iff_mem, ← List.count_pos_iff,
          ← List.count_pos_iff, hcount]
      rw [hlistening]
      split
      · exact { hopened with
          outcomes := fun k hk => by
            rw [List.lookup_cons, List.lookup_cons, h.outcomes k hk] }
      · exact hopened

theorem nextKey_openGate (s : Scripted) (id : PluginId) (failure : Option String) :
    (s.openGate id failure).1.nextKey = s.nextKey := by
  unfold openGate
  split
  · rfl
  · dsimp only
    split <;> rfl

end Scripted

end Dashboard
