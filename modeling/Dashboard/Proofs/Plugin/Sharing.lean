import Dashboard.Plugin.Shared
import Dashboard.Proofs.Plugin.Resolution
import Mathlib.Data.List.Nodup
import Mathlib.Data.List.Pairwise

/-!
# Registering side by side

Any number of threads may register plugins at the same time. Whatever the interleaving of their
steps, the table and what the calls return are those of registering the plugins one after another,
in the order in which the calls succeed in publishing. What a single thread may expect of the table
follows from that order alone.
-/

namespace Dashboard

/-- A plugin and what came of its registration. -/
abbrev Registered := Descriptor × Except PluginError Unit

def Registered.accepted? : Registered → Option Descriptor
  | (d, .ok ()) => some d
  | (_, .error _) => none

namespace Registry

/-! ### One after another -/

/-- Registers descriptors one after another, whether or not some are refused. -/
def registerEach (r : Registry) : List Descriptor → Registry × List (Except PluginError Unit)
  | [] => (r, [])
  | d :: ds =>
    let first := r.tryRegister d
    let rest := first.1.registerEach ds
    (rest.1, first.2 :: rest.2)

theorem registerEach_concat (r : Registry) (ds : List Descriptor) (d : Descriptor) :
    r.registerEach (ds ++ [d]) =
      (((r.registerEach ds).1.tryRegister d).1,
        (r.registerEach ds).2 ++ [((r.registerEach ds).1.tryRegister d).2]) := by
  induction ds generalizing r with
  | nil => rfl
  | cons first ds ih =>
    rw [List.cons_append, registerEach, registerEach, ih]
    rfl

theorem ids_tryRegister (r : Registry) (d : Descriptor) : r.ids <+: (r.tryRegister d).1.ids := by
  by_cases h : d.id ∈ r.ids
  · exact (tryRegister_of_mem h).symm ▸ List.prefix_refl _
  · exact (tryRegister_of_new h).symm ▸ List.prefix_append _ _

theorem mem_ids_tryRegister (r : Registry) (d : Descriptor) :
    d.id ∈ (r.tryRegister d).1.ids := by
  by_cases h : d.id ∈ r.ids
  · rwa [tryRegister_of_mem h]
  · simp [tryRegister_of_new h, add]

/-- A registration adds the plugin if it is accepted and nothing otherwise. -/
theorem descriptors_tryRegister (r : Registry) (d : Descriptor) :
    (r.tryRegister d).1.descriptors =
      r.descriptors ++ (Registered.accepted? (d, (r.tryRegister d).2)).toList := by
  by_cases h : d.id ∈ r.ids
  · simp [tryRegister_of_mem h, Registered.accepted?]
  · obtain ⟨houtcome, hdescriptors⟩ := tryRegister_of_not_mem h
    rw [hdescriptors, houtcome, Registered.accepted?, Option.toList_some]

theorem ids_registerEach (r : Registry) (ds : List Descriptor) :
    r.ids <+: (r.registerEach ds).1.ids := by
  induction ds generalizing r with
  | nil => exact List.prefix_refl _
  | cons d ds ih => exact (ids_tryRegister r d).trans (ih _)

theorem mem_ids_registerEach (r : Registry) {ds : List Descriptor} {d : Descriptor} (hd : d ∈ ds) :
    d.id ∈ (r.registerEach ds).1.ids := by
  induction ds generalizing r with
  | nil => cases hd
  | cons first ds ih =>
    rcases List.mem_cons.1 hd with rfl | hd
    · exact (ids_registerEach _ ds).subset (mem_ids_tryRegister r d)
    · exact ih _ hd

/-- The table holds the plugins that were accepted, in that order. -/
theorem descriptors_registerEach {r r' : Registry} {cs : List Registered}
    (h : r.registerEach (cs.map Prod.fst) = (r', cs.map Prod.snd)) :
    r'.descriptors = r.descriptors ++ cs.filterMap Registered.accepted? := by
  induction cs generalizing r with
  | nil =>
    obtain rfl : r = r' := congrArg Prod.fst h
    exact (List.append_nil _).symm
  | cons c cs ih =>
    obtain ⟨hr', houtcomes⟩ := Prod.mk.inj h
    obtain ⟨hfirst, hrest⟩ := List.cons.inj houtcomes
    have hdescriptors := descriptors_tryRegister r c.1
    rw [hfirst] at hdescriptors
    rw [ih (Prod.ext hr' hrest), hdescriptors, List.append_assoc]
    cases hc : Registered.accepted? c <;> simp [hc]

end Registry

namespace Shared

/-! ### Runs -/

/-- What threads do to the shared registry. -/
inductive Event where
  | call (d : Descriptor)
  | load (call : Nat)
  | publish (call : Nat)
  | snapshot
  | reset

/-- What the call that an event begins is given. -/
def Event.given? : Event → Option Descriptor
  | call d => some d
  | _ => none

def step (s : Shared) : Event → Shared
  | .call d => s.call d
  | .load n => s.load n
  | .publish n => s.publish n
  | .snapshot => s.takeSnapshot
  | .reset => s.reset

def run (s : Shared) (es : List Event) : Shared := es.foldl step s

@[simp] theorem run_nil (s : Shared) : s.run [] = s := rfl

@[simp] theorem run_cons (s : Shared) (e : Event) (es : List Event) :
    s.run (e :: es) = (s.step e).run es := rfl

/-- The call that succeeds in publishing in an event. -/
def served? (s : Shared) : Event → Option Nat
  | .publish n =>
    match s.registrations[n]? with
    | some (.tried _ seen _ _) => if seen = s.published then some n else none
    | _ => none
  | _ => none

/-- The calls that succeed in publishing during some events, in order. -/
def served (s : Shared) : List Event → List Nat
  | [] => []
  | e :: es => (s.served? e).toList ++ (s.step e).served es

/-! ### Tables stay as they are -/

theorem table_of_extends {s s' : Shared} (h : s.tables <+: s'.tables) {place : Nat}
    (hplace : place < s.tables.length) : s'.table place = s.table place := by
  obtain ⟨more, hmore⟩ := h
  simp only [table, ← hmore, List.getD_eq_getElem?_getD, List.getElem?_append_left hplace]

/-- The table at `next` and the outcome come of trying a plugin on the table at `seen`. -/
structure Fits (s : Shared) (d : Descriptor) (seen next : Nat)
    (outcome : Except PluginError Unit) : Prop where
  source : seen < s.tables.length
  target : next < s.tables.length
  register : (s.table seen).tryRegister d = (s.table next, outcome)

theorem Fits.mono {s s' : Shared} {d : Descriptor} {seen next : Nat}
    {outcome : Except PluginError Unit} (h : s.Fits d seen next outcome)
    (htables : s.tables <+: s'.tables) : s'.Fits d seen next outcome where
  source := Nat.lt_of_lt_of_le h.source htables.length_le
  target := Nat.lt_of_lt_of_le h.target htables.length_le
  register := by
    rw [table_of_extends htables h.source, table_of_extends htables h.target]
    exact h.register

/-! ### What a step can do -/

/-- Everything that an event can make of the shared registry. -/
inductive Outcome (s : Shared) : Event → Shared → Prop where
  | called (d : Descriptor) : Outcome s (.call d) (s.call d)
  /-- The event does not apply. -/
  | idle {e : Event} (hgiven : e.given? = none) (hserved : s.served? e = none) : Outcome s e s
  | tried {n : Nat} {d : Descriptor} {tables : List Registry} {next : Nat}
      {outcome : Except PluginError Unit} {s' : Shared}
      (hn : s.registrations[n]? = some (.begun d)) (htables : s.tables <+: tables)
      (hs' : s' = { s with
        tables := tables
        registrations := s.registrations.set n (.tried d s.published next outcome) })
      (hfits : s'.Fits d s.published next outcome) : Outcome s (.load n) s'
  | late {n : Nat} {d : Descriptor} {seen next : Nat} {outcome : Except PluginError Unit}
      (hn : s.registrations[n]? = some (.tried d seen next outcome))
      (hserved : s.served? (.publish n) = none) :
      Outcome s (.publish n) { s with registrations := s.registrations.set n (.begun d) }
  | served {n : Nat} {d : Descriptor} {next : Nat} {outcome : Except PluginError Unit}
      (hn : s.registrations[n]? = some (.tried d s.published next outcome))
      (hserved : s.served? (.publish n) = some n) :
      Outcome s (.publish n)
        { s with published := next, registrations := s.registrations.set n (.returned d outcome) }
  | snapshot : Outcome s .snapshot s.takeSnapshot
  | reset : Outcome s .reset s.reset

theorem load_outcome {s : Shared} (hpublished : s.published < s.tables.length) {n : Nat}
    {d : Descriptor} (hn : s.registrations[n]? = some (.begun d)) :
    Outcome s (.load n) (s.load n) := by
  simp only [load, hn]
  cases hregister : s.current.register d with
  | ok made =>
    refine .tried hn (List.prefix_append _ _) rfl ⟨?_, ?_, ?_⟩
    · exact Nat.lt_of_lt_of_le hpublished (List.prefix_append _ _).length_le
    · simp
    · rw [table_of_extends (List.prefix_append _ _) hpublished]
      change s.current.tryRegister d = _
      rw [Registry.tryRegister, hregister]
      simp [table]
  | error e =>
    refine .tried hn (List.prefix_refl _) rfl ⟨hpublished, hpublished, ?_⟩
    change s.current.tryRegister d = _
    rw [Registry.tryRegister, hregister]
    rfl

theorem publish_outcome {s : Shared} {n : Nat} {d : Descriptor} {seen next : Nat}
    {outcome : Except PluginError Unit}
    (hn : s.registrations[n]? = some (.tried d seen next outcome)) :
    Outcome s (.publish n) (s.publish n) := by
  simp only [publish, hn]
  split
  · rename_i hseen
    subst hseen
    exact .served hn (by simp only [served?, hn, if_true])
  · rename_i hseen
    exact .late hn (by simp only [served?, hn, if_neg hseen])

theorem step_outcome {s : Shared} (hpublished : s.published < s.tables.length) (e : Event) :
    Outcome s e (s.step e) := by
  cases e with
  | call d => exact .called d
  | snapshot => exact .snapshot
  | reset => exact .reset
  | load n =>
    rcases hn : s.registrations[n]? with _ | (d | ⟨d, seen, next, outcome⟩ | ⟨d, outcome⟩)
    case some.begun => exact load_outcome hpublished hn
    all_goals
      rw [step, load, hn]
      exact .idle rfl rfl
  | publish n =>
    rcases hn : s.registrations[n]? with _ | (d | ⟨d, seen, next, outcome⟩ | ⟨d, outcome⟩)
    case some.tried => exact publish_outcome hn
    all_goals
      rw [step, publish, hn]
      exact .idle rfl (by rw [served?, hn])

/-! ### The places in use -/

structure Valid (s : Shared) : Prop where
  published : s.published < s.tables.length
  tried : ∀ d seen next outcome,
    .tried d seen next outcome ∈ s.registrations → s.Fits d seen next outcome
  kept : ∀ place ∈ s.snapshots, place < s.tables.length

theorem valid_new : new.Valid where
  published := Nat.one_pos
  tried _ _ _ _ h := nomatch h
  kept _ h := nomatch h

/-- Places stay valid when tables are added and the new places are valid. -/
theorem Valid.extend {s s' : Shared} (h : s.Valid) (htables : s.tables <+: s'.tables)
    (hpublished : s'.published < s'.tables.length)
    (htried : ∀ d seen next outcome, .tried d seen next outcome ∈ s'.registrations →
      .tried d seen next outcome ∈ s.registrations ∨ s'.Fits d seen next outcome)
    (hkept : ∀ place ∈ s'.snapshots, place ∈ s.snapshots ∨ place < s'.tables.length) :
    s'.Valid where
  published := hpublished
  tried d seen next outcome hr :=
    (htried d seen next outcome hr).elim (fun hr => (h.tried _ _ _ _ hr).mono htables) id
  kept place hplace := (hkept place hplace).elim
    (fun hplace => Nat.lt_of_lt_of_le (h.kept place hplace) htables.length_le) id

theorem Valid.step {s : Shared} (h : s.Valid) (e : Event) : (s.step e).Valid := by
  have hout := step_outcome h.published e
  generalize s.step e = s' at hout
  cases hout with
  | idle => exact h
  | called d =>
    refine h.extend (List.prefix_refl _) h.published (fun _ _ _ _ hr => .inl ?_) fun _ => .inl
    simpa [call] using hr
  | tried hn htables hs' hfits =>
    refine h.extend (hs' ▸ htables) (hs' ▸ hfits.source) (fun _ _ _ _ hr => ?_)
      fun _ hplace => .inl (by rwa [hs'] at hplace)
    subst hs'
    refine (List.mem_or_eq_of_mem_set hr).imp_right fun hnew => ?_
    obtain ⟨rfl, rfl, rfl, rfl⟩ := Registration.tried.inj hnew
    exact hfits
  | late hn =>
    refine h.extend (List.prefix_refl _) h.published (fun _ _ _ _ hr => .inl ?_) fun _ => .inl
    simpa using List.mem_or_eq_of_mem_set hr
  | served hn =>
    have hfits := h.tried _ _ _ _ (List.mem_of_getElem? hn)
    refine h.extend (List.prefix_refl _) hfits.target (fun _ _ _ _ hr => .inl ?_) fun _ => .inl
    simpa using List.mem_or_eq_of_mem_set hr
  | snapshot =>
    refine h.extend (List.prefix_refl _) h.published (fun _ _ _ _ => .inl) fun place hplace => ?_
    refine (List.mem_append.1 hplace).imp_right fun hnew => ?_
    exact (List.mem_singleton.1 hnew).symm ▸ h.published
  | reset =>
    refine h.extend (List.prefix_append _ _) ?_ (fun _ _ _ _ => .inl) fun _ => .inl
    simp [Shared.reset]

theorem Valid.run {s : Shared} (h : s.Valid) (es : List Event) : (s.run es).Valid := by
  induction es generalizing s with
  | nil => exact h
  | cons e es ih => exact ih (h.step e)

/-! ### What was taken stays -/

theorem tables_step {s : Shared} (h : s.Valid) (e : Event) : s.tables <+: (s.step e).tables := by
  have hout := step_outcome h.published e
  generalize s.step e = s' at hout
  cases hout with
  | tried hn htables hs' => exact hs' ▸ htables
  | reset => exact List.prefix_append _ _
  | _ => exact List.prefix_refl _

theorem snapshots_step {s : Shared} (h : s.Valid) {e : Event} (he : e ≠ .snapshot) :
    (s.step e).snapshots = s.snapshots := by
  have hout := step_outcome h.published e
  generalize s.step e = s' at hout
  cases hout with
  | tried hn _ hs' => rw [hs']
  | snapshot => exact absurd rfl he
  | _ => rfl

/-! ### What a step means to the callers -/

theorem returned?_set {s s' : Shared} {n : Nat} {r r' : Registration}
    (hn : s.registrations[n]? = some r) (h : s'.registrations = s.registrations.set n r') :
    s'.returned? = Function.update s.returned? n r'.result? := by
  funext m
  obtain ⟨hlt, -⟩ := List.getElem?_eq_some_iff.1 hn
  by_cases hm : m = n
  · subst hm
    simp [returned?, h, hlt]
  · simp [returned?, h, hm, List.getElem?_set_ne (Ne.symm hm)]

theorem returned?_call (s : Shared) (d : Descriptor) : (s.call d).returned? = s.returned? := by
  funext m
  simp only [returned?, call, List.getElem?_append]
  split
  · rfl
  · rename_i hm
    rw [List.getElem?_eq_none (Nat.le_of_not_lt hm), List.getElem?_singleton]
    split <;> rfl

/-- Either nothing is to be seen of a step, or one call returns in it and the published table
becomes what registering its plugin makes of it. -/
theorem step_cases {s : Shared} (h : s.Valid) {e : Event} (he : e ≠ .reset) :
    (s.served? e = none ∧ (s.step e).current = s.current ∧ (s.step e).returned? = s.returned?) ∨
      ∃ n d outcome, s.served? e = some n ∧ s.returned? n = none ∧
        s.current.tryRegister d = ((s.step e).current, outcome) ∧
        (s.step e).returned? = Function.update s.returned? n (some (d, outcome)) := by
  have hquiet {n : Nat} {r r' : Registration} {s' : Shared} (hn : s.registrations[n]? = some r)
      (hs' : s'.registrations = s.registrations.set n r') (hr : r.result? = r'.result?) :
      s'.returned? = s.returned? := by
    rw [returned?_set hn hs', ← hr]
    exact Function.update_eq_self_iff.2 (by rw [returned?, hn]; rfl)
  have htables := tables_step h e
  have hout := step_outcome h.published e
  generalize s.step e = s' at hout htables
  cases hout with
  | called d => exact .inl ⟨rfl, rfl, returned?_call s d⟩
  | idle _ hserved => exact .inl ⟨hserved, rfl, rfl⟩
  | tried hn _ hs' =>
    have hset := congrArg Shared.registrations hs'
    refine .inl ⟨rfl, ?_, hquiet hn hset rfl⟩
    rw [current, hs']
    exact table_of_extends (hs' ▸ htables) h.published
  | late hn hserved => exact .inl ⟨hserved, rfl, hquiet hn rfl rfl⟩
  | @served n d next outcome hn hserved =>
    -- The table it had tried its plugin on is the published one: tables are told apart by place.
    have hregister := (h.tried _ _ _ _ (List.mem_of_getElem? hn)).register
    refine .inr ⟨n, d, outcome, hserved, ?_, hregister, ?_⟩
    · rw [returned?, hn]
      rfl
    · change _ = Function.update s.returned? n (Registration.returned d outcome).result?
      exact returned?_set hn rfl
  | snapshot => exact .inl ⟨rfl, rfl, rfl⟩
  | reset => exact absurd rfl he

/-! ### One order for all -/

/-- What the calls in an order were given and what they have returned. -/
def returns (s : Shared) (order : List Nat) : List Registered := order.filterMap s.returned?

/-- The calls that have returned, in this order, account for the published table and for all they
have returned. -/
structure Linear (s : Shared) (order : List Nat) : Prop where
  nodup : order.Nodup
  mem : ∀ n, n ∈ order ↔ (s.returned? n).isSome
  replay : Registry.empty.registerEach ((s.returns order).map Prod.fst) =
    (s.current, (s.returns order).map Prod.snd)

theorem linear_new : new.Linear [] where
  nodup := List.nodup_nil
  mem _ := by simp [returned?, new]
  replay := rfl

theorem Linear.step {s : Shared} {order : List Nat} (h : s.Linear order) (hs : s.Valid)
    {e : Event} (he : e ≠ .reset) : (s.step e).Linear (order ++ (s.served? e).toList) := by
  obtain ⟨hserved, hcurrent, hreturned⟩ | ⟨n, d, outcome, hserved, hopen, htable, hreturned⟩ :=
    step_cases hs he
  · rw [hserved, Option.toList_none, List.append_nil]
    refine ⟨h.nodup, fun n => hreturned ▸ h.mem n, ?_⟩
    rw [returns, hreturned, hcurrent]
    exact h.replay
  · -- The call had not returned before, so it is new to the order and changes no earlier answer.
    have hn : n ∉ order := fun hn => by simp [h.mem, hopen] at hn
    have hreturns : (s.step e).returns (order ++ [n]) = s.returns order ++ [(d, outcome)] := by
      rw [returns, List.filterMap_append, hreturned]
      refine congrArg₂ _ (List.filterMap_congr fun m hm => ?_) (by simp)
      exact Function.update_of_ne (ne_of_mem_of_not_mem hm hn) _ _
    rw [hserved, Option.toList_some]
    refine ⟨?_, fun m => ?_, ?_⟩
    · exact List.concat_eq_append ▸ h.nodup.concat hn
    · by_cases hm : m = n
      · simp [hm, hreturned]
      · simp [hm, hreturned, h.mem]
    · rw [hreturns, List.map_append, List.map_append, List.map_singleton, List.map_singleton,
        Registry.registerEach_concat, h.replay]
      simp only [htable]

theorem Linear.run {s : Shared} {order : List Nat} (h : s.Linear order) (hs : s.Valid)
    {es : List Event} (hes : ∀ e ∈ es, e ≠ .reset) : (s.run es).Linear (order ++ s.served es) := by
  induction es generalizing s order with
  | nil => rwa [served, List.append_nil]
  | cons e es ih =>
    obtain ⟨he, hes⟩ := List.forall_mem_cons.1 hes
    rw [served, ← List.append_assoc]
    exact ih (h.step hs he) (hs.step e) hes

/-! ### What the order says -/

def accepted? (s : Shared) (call : Nat) : Option Descriptor :=
  (s.returned? call).bind Registered.accepted?

theorem accepted?_eq_some {s : Shared} {n : Nat} {d : Descriptor} :
    s.accepted? n = some d ↔ s.returned? n = some (d, .ok ()) := by
  unfold accepted?
  rcases s.returned? n with _ | ⟨d', _ | _⟩ <;> simp [Registered.accepted?]

/-- The published table holds the accepted plugins in the order of their calls. -/
theorem Linear.descriptors {s : Shared} {order : List Nat} (h : s.Linear order) :
    s.current.descriptors = order.filterMap s.accepted? :=
  (Registry.descriptors_registerEach h.replay).trans List.filterMap_filterMap

theorem Linear.mem_descriptors {s : Shared} {order : List Nat} (h : s.Linear order)
    {d : Descriptor} : d ∈ s.current.descriptors ↔ ∃ n, s.accepted? n = some d := by
  rw [h.descriptors, List.mem_filterMap]
  refine exists_congr fun n => and_iff_right_of_imp fun hn => ?_
  rw [h.mem, accepted?_eq_some.1 hn]
  rfl

theorem Linear.get? {s : Shared} {order : List Nat} (h : s.Linear order) {n : Nat} {d : Descriptor}
    (hn : s.accepted? n = some d) : s.get? d.id = some d :=
  Registry.mem_descriptors.1 (h.mem_descriptors.2 ⟨n, hn⟩)

theorem Linear.accepted?_inj {s : Shared} {order : List Nat} (h : s.Linear order) {n m : Nat}
    {d d' : Descriptor} (hn : s.accepted? n = some d) (hm : s.accepted? m = some d')
    (hid : d.id = d'.id) : n = m := by
  have hmem {n : Nat} {d : Descriptor} (hn : s.accepted? n = some d) : n ∈ order := by
    rw [h.mem, accepted?_eq_some.1 hn]
    rfl
  have hunique := s.current.unique
  -- The identifiers in the table are distinct, and the table lists the accepted calls in order.
  rw [h.descriptors, List.Nodup, List.pairwise_map, List.pairwise_filterMap] at hunique
  have hsymm : Std.Symm fun n m =>
      ∀ d, s.accepted? n = some d → ∀ d', s.accepted? m = some d' → d.id ≠ d'.id :=
    ⟨fun _ _ h d hd d' hd' => (h d' hd' d hd).symm⟩
  by_contra hne
  exact hunique.forall (hmem hn) (hmem hm) hne d hn d' hm hid

/-- Whenever a call has returned, some call has registered the identifier. -/
theorem Linear.exists_accepted? {s : Shared} {order : List Nat} (h : s.Linear order) {n : Nat}
    {c : Registered} (hn : s.returned? n = some c) :
    ∃ m d, s.accepted? m = some d ∧ d.id = c.1.id := by
  have hc : c.1 ∈ (s.returns order).map Prod.fst := by
    refine List.mem_map_of_mem (List.mem_filterMap.2 ⟨n, ?_, hn⟩)
    rw [h.mem, hn]
    rfl
  have hid := Registry.mem_ids_registerEach .empty hc
  rw [h.replay, ← Registry.map_id_descriptors] at hid
  obtain ⟨d, hd, hid⟩ := List.mem_map.1 hid
  obtain ⟨m, hm⟩ := h.mem_descriptors.1 hd
  exact ⟨m, d, hm, hid⟩

/-! ### What a call was given -/

def given (s : Shared) : List Descriptor := s.registrations.map Registration.given

theorem given_set {s s' : Shared} {n : Nat} {r r' : Registration}
    (hn : s.registrations[n]? = some r) (h : s'.registrations = s.registrations.set n r')
    (hr : r.given = r'.given) : s'.given = s.given := by
  obtain ⟨hlt, hget⟩ := List.getElem?_eq_some_iff.1 hn
  have hn' : n < (s.registrations.map Registration.given).length := by simpa using hlt
  rw [given, h, List.map_set, ← hr, ← hget, ← List.getElem_map Registration.given (h := hn'),
    List.set_getElem_self, given]

theorem given_step {s : Shared} (h : s.Valid) (e : Event) :
    (s.step e).given = s.given ++ e.given?.toList := by
  have hout := step_outcome h.published e
  generalize s.step e = s' at hout
  have hnil : s.given = s.given ++ [] := (List.append_nil _).symm
  cases hout with
  | called d => exact List.map_append
  | idle hgiven => rwa [hgiven]
  | tried hn _ hs' => exact Eq.trans (given_set hn (congrArg registrations hs') rfl) hnil
  | late hn => exact Eq.trans (given_set hn rfl rfl) hnil
  | served hn => exact Eq.trans (given_set hn rfl rfl) hnil
  | _ => exact hnil

theorem given_run {s : Shared} (h : s.Valid) (es : List Event) :
    (s.run es).given = s.given ++ es.filterMap Event.given? := by
  induction es generalizing s with
  | nil => exact (List.append_nil _).symm
  | cons e es ih =>
    rw [run_cons, ih (h.step e), given_step h e, List.append_assoc]
    cases he : e.given? <;> simp [he]

theorem getElem?_given_of_returned? {s : Shared} {n : Nat} {c : Registered}
    (hn : s.returned? n = some c) : s.given[n]? = some c.1 := by
  obtain ⟨r, hr, hresult⟩ := Option.bind_eq_some_iff.1 hn
  rw [given, List.getElem?_map, hr]
  cases r with
  | returned d outcome => exact congrArg (some ∘ Prod.fst) (Option.some.inj hresult)
  | _ => cases hresult

/-! ### Snapshots -/

theorem list_step {s : Shared} (h : s.Valid) {e : Event} (he : e ≠ .reset) :
    s.list <+: (s.step e).list := by
  obtain ⟨-, hcurrent, -⟩ | ⟨n, d, outcome, -, -, htable, -⟩ := step_cases h he
  · have hlist : (s.step e).list = s.list := congrArg Registry.ids hcurrent
    exact hlist ▸ List.prefix_refl _
  · have hids := Registry.ids_tryRegister s.current d
    rwa [htable] at hids

/-- The lists of the kept tables extend one another, and the published list extends all of them. -/
structure Recorded (s : Shared) : Prop where
  ordered : s.snapshots.Pairwise fun a b => (s.table a).ids <+: (s.table b).ids
  recent : ∀ place ∈ s.snapshots, (s.table place).ids <+: s.list

theorem recorded_new : new.Recorded where
  ordered := List.Pairwise.nil
  recent _ h := nomatch h

theorem Recorded.step {s : Shared} (h : s.Recorded) (hs : s.Valid) {e : Event} (he : e ≠ .reset) :
    (s.step e).Recorded := by
  have htable : ∀ place ∈ s.snapshots, (s.step e).table place = s.table place := fun place hplace =>
    table_of_extends (tables_step hs e) (hs.kept place hplace)
  have hrecent : ∀ place ∈ s.snapshots, ((s.step e).table place).ids <+: (s.step e).list := by
    intro place hplace
    rw [htable place hplace]
    exact (h.recent place hplace).trans (list_step hs he)
  by_cases hsnapshot : e = .snapshot
  · -- The new snapshot is the published table, which every older one is a prefix of.
    subst hsnapshot
    constructor
    · refine List.pairwise_append.2 ⟨h.ordered, List.pairwise_singleton _ _, ?_⟩
      intro a ha b hb
      exact List.mem_singleton.1 hb ▸ hrecent a ha
    · intro place hplace
      rcases List.mem_append.1 hplace with hold | hnew
      · exact hrecent place hold
      · exact List.mem_singleton.1 hnew ▸ List.prefix_refl _
  · rw [← snapshots_step hs hsnapshot] at htable hrecent
    refine ⟨?_, hrecent⟩
    rw [snapshots_step hs hsnapshot] at htable ⊢
    refine h.ordered.imp_of_mem fun ha hb hab => ?_
    rwa [htable _ ha, htable _ hb]

theorem Recorded.run {s : Shared} (h : s.Recorded) (hs : s.Valid) {es : List Event}
    (hes : ∀ e ∈ es, e ≠ .reset) : (s.run es).Recorded := by
  induction es generalizing s with
  | nil => exact h
  | cons e es ih =>
    obtain ⟨he, hes⟩ := List.forall_mem_cons.1 hes
    exact ih (h.step hs he) (hs.step e) hes

theorem tables_run {s : Shared} (h : s.Valid) (es : List Event) :
    s.tables <+: (s.run es).tables := by
  induction es generalizing s with
  | nil => exact List.prefix_refl _
  | cons e es ih => exact (tables_step h e).trans (ih (h.step e))

theorem snapshots_run {s : Shared} (h : s.Valid) (es : List Event) :
    s.snapshots <+: (s.run es).snapshots := by
  induction es generalizing s with
  | nil => exact List.prefix_refl _
  | cons e es ih =>
    refine List.IsPrefix.trans ?_ (ih (h.step e))
    by_cases he : e = .snapshot
    · exact he ▸ List.prefix_append _ _
    · exact snapshots_step h he ▸ List.prefix_refl _

/-! ### One thread alone -/

theorem returned?_load_publish {s : Shared} {n : Nat} {d : Descriptor}
    (hn : s.registrations[n]? = some (.begun d)) : (((s.load n).publish n).returned? n).isSome := by
  obtain ⟨hlt, -⟩ := List.getElem?_eq_some_iff.1 hn
  rw [load, hn]
  dsimp only
  cases s.current.register d <;> simp [publish, returned?, hlt, Registration.result?]

/-- A call that no other one gets in the way of returns, however far it has come. -/
theorem returned?_alone {s : Shared} {n : Nat} (hn : n < s.registrations.length) :
    ((((s.publish n).load n).publish n).returned? n).isSome := by
  have hpublished : (∃ d, (s.publish n).registrations[n]? = some (.begun d)) ∨
      ∃ d outcome, (s.publish n).registrations[n]? = some (.returned d outcome) := by
    rcases hr : s.registrations[n]? with _ | (d | ⟨d, seen, next, outcome⟩ | ⟨d, outcome⟩)
    · exact absurd hn (Nat.not_lt.2 (List.getElem?_eq_none_iff.1 hr))
    · exact .inl ⟨d, by rw [publish, hr]; exact hr⟩
    · simp only [publish, hr]
      split
      · exact .inr ⟨d, outcome, by simp [hn]⟩
      · exact .inl ⟨d, by simp [hn]⟩
    · exact .inr ⟨d, outcome, by rw [publish, hr]; exact hr⟩
  obtain ⟨d, hbegun⟩ | ⟨d, outcome, hreturned⟩ := hpublished
  · exact returned?_load_publish hbegun
  · generalize s.publish n = s' at hreturned
    rw [load, hreturned, publish, hreturned, returned?, hreturned]
    rfl

/-- While no other thread registers, a registration is that of the published table. -/
theorem current_register (s : Shared) (d : Descriptor) :
    ((s.register d).1.current, (s.register d).2) = s.current.tryRegister d := by
  have hbegun : (s.call d).registrations[s.registrations.length]? = some (.begun d) := by
    simp [call]
  have hcurrent : (s.call d).current = s.current := rfl
  rw [register, load, hbegun, Registry.tryRegister]
  dsimp only
  rw [hcurrent]
  cases s.current.register d <;>
    simp [publish, call, returned?, current, table, Registration.result?]

theorem current_registerAll (s : Shared) (ds : List Descriptor) :
    ((s.registerAll ds).1.current, (s.registerAll ds).2) = s.current.registerAll ds := by
  induction ds generalizing s with
  | nil => rfl
  | cons d ds ih =>
    have hregister := current_register s d
    rw [registerAll, Registry.registerAll]
    unfold Registry.tryRegister at hregister
    generalize s.register d = made at hregister
    obtain ⟨s', outcome⟩ := made
    cases htable : s.current.register d with
    | ok r =>
      rw [htable] at hregister
      obtain ⟨rfl, rfl⟩ := Prod.mk.inj hregister
      exact ih s'
    | error e =>
      rw [htable] at hregister
      obtain ⟨hcurrent, rfl⟩ := Prod.mk.inj hregister
      rw [← hcurrent]

/-- The catalog is registered in the shared registry as it is in one of a thread's own. -/
theorem current_registerCatalog (s : Shared) :
    (s.registerCatalog.1.current, s.registerCatalog.2) = s.current.registerCatalog := by
  rw [Registry.registerCatalog, ← current_registerAll s]
  rfl

/-! ### All threads -/

/-- Whatever the interleaving, the calls that have returned account for the published table and for
their outcomes one after another, in the order in which they published. Each that was accepted is
found under its identifier, and exactly one call of an identifier is. The tables that readers keep
extend one another, and neither later registrations nor resets change them. A call that no other one
gets in the way of returns. -/
theorem registrations_linearize (es fs : List Event) :
    let s := new.run es
    let order := new.served es
    ((∀ e ∈ es, e ≠ .reset) →
      order.Nodup ∧ (∀ n, n ∈ order ↔ (s.returned? n).isSome) ∧
      Registry.empty.registerEach ((s.returns order).map Prod.fst) =
        (s.current, (s.returns order).map Prod.snd) ∧
      (∀ n d outcome, s.returned? n = some (d, outcome) →
        (es.filterMap Event.given?)[n]? = some d ∧
        ∃! m, ∃ d', s.returned? m = some (d', .ok ()) ∧ d'.id = d.id) ∧
      (∀ n d, s.returned? n = some (d, .ok ()) → s.get? d.id = some d) ∧
      s.snapshots.Pairwise (fun a b => (s.table a).ids <+: (s.table b).ids) ∧
      ∀ place ∈ s.snapshots, (s.table place).ids <+: s.list) ∧
    s.snapshots <+: (s.run fs).snapshots ∧
    (∀ place ∈ s.snapshots, (s.run fs).table place = s.table place) ∧
    ∀ n < s.registrations.length, ((((s.publish n).load n).publish n).returned? n).isSome := by
  intro s order
  have hs : s.Valid := valid_new.run es
  have hkept : ∀ place ∈ s.snapshots, (s.run fs).table place = s.table place :=
    fun place hplace => table_of_extends (tables_run hs fs) (hs.kept place hplace)
  refine ⟨fun hes => ?_, snapshots_run hs fs, hkept, fun n hn => returned?_alone hn⟩
  have hlinear : s.Linear order := linear_new.run valid_new hes
  have hrecorded : s.Recorded := recorded_new.run valid_new hes
  refine ⟨hlinear.nodup, hlinear.mem, hlinear.replay, fun n d outcome hn => ⟨?_, ?_⟩,
    fun n d hn => hlinear.get? (accepted?_eq_some.2 hn), hrecorded.ordered, hrecorded.recent⟩
  · have hgiven := getElem?_given_of_returned? hn
    rwa [show s.given = es.filterMap Event.given? from given_run valid_new es] at hgiven
  · obtain ⟨m, d', hm, hid⟩ := hlinear.exists_accepted? hn
    refine ⟨m, ⟨d', accepted?_eq_some.1 hm, hid⟩, ?_⟩
    rintro k ⟨c, hk, hkid⟩
    exact hlinear.accepted?_inj (accepted?_eq_some.2 hk) hm (hkid.trans hid.symm)

/-- Two calls register one identifier and a third another one, all after a look at the empty table.
The second call is the first to publish; the other two start over, and one of them is refused. -/
theorem registrations_linearize_raced :
    let first : Descriptor := { id := ⟨"a"⟩, displayName := "First" }
    let second : Descriptor := { id := ⟨"a"⟩, displayName := "Second" }
    let other : Descriptor := { id := ⟨"b"⟩, displayName := "Other" }
    let es : List Event :=
      [.call first, .call second, .call other, .load 0, .load 1, .load 2, .snapshot, .publish 1,
        .publish 0, .load 0, .publish 0, .publish 2, .load 2, .snapshot, .publish 2, .snapshot]
    let s := new.run es
    (∀ e ∈ es, e ≠ .reset) ∧ new.served es = [1, 0, 2] ∧
      Registry.empty.registerEach [second, first, other] =
        (s.current, [.ok (), .error (.duplicateId ⟨"a"⟩), .ok ()]) ∧
      s.get? ⟨"a"⟩ = some second ∧
      (∃! n, ∃ d, s.returned? n = some (d, .ok ()) ∧ d.id = ⟨"a"⟩) ∧
      s.snapshots.map (fun place => (s.table place).ids) = [[], [⟨"a"⟩], [⟨"a"⟩, ⟨"b"⟩]] ∧
      ∀ place ∈ s.snapshots, (s.run [.reset]).table place = s.table place := by
  intro first second other es s
  have hes : ∀ e ∈ es, e ≠ .reset := by simp [es]
  have hserved : new.served es = [1, 0, 2] := by decide
  have hne : ((⟨"b"⟩ : PluginId) == ⟨"a"⟩) = false := by decide
  have hregistrations : s.registrations = [.returned first (.error (.duplicateId ⟨"a"⟩)),
      .returned second (.ok ()), .returned other (.ok ())] := by
    simp [s, es, first, second, other, step, new, call, load, publish, takeSnapshot, current, table,
      Registry.register, Registry.contains, Registry.add, Registry.empty, List.lookup_cons, hne]
  have hreturns : s.returns [1, 0, 2] =
      [(second, .ok ()), (first, .error (.duplicateId ⟨"a"⟩)), (other, .ok ())] := by
    simp [returns, returned?, hregistrations, Registration.result?]
  have hreturned : s.returned? 1 = some (second, .ok ()) := by
    simp [returned?, hregistrations, Registration.result?]
  obtain ⟨hafter, -, hkept, -⟩ := registrations_linearize es [.reset]
  obtain ⟨-, -, hreplay, hcalls, hget, -⟩ := hafter hes
  rw [hserved, hreturns] at hreplay
  exact ⟨hes, hserved, hreplay, hget 1 second hreturned, (hcalls 1 second (.ok ()) hreturned).2,
    by decide, hkept⟩

end Shared

end Dashboard
