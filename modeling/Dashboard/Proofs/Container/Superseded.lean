import Dashboard.Proofs.Container.Board
import Dashboard.Proofs.Container.Twins

/-!
# Superseded mounts leave no trace

A mount that settles when the container no longer waits for it might as well have settled later or
not at all: the container, the store and what is attached do not depend on it, at the end of a run
or in between. So once the store is at rest, the order in which the mounts in flight settle does not
matter either.
-/

namespace Dashboard

namespace Board

open Container (Superseded Twins)

variable {H : Type}

/-- The attempt of the mount was made, and no other mount in flight belongs to it. -/
def Made (b : Board H) (m : InFlight) : Prop :=
  m.generation ≤ b.container.generation ∧
    ∀ n ∈ b.container.flights.toList, n.generation = m.generation → n = m

/-- Of two mounts at least one is superseded, unless they are the one that is waited for. -/
theorem Made.eq_or_superseded {b : Board H} (hb : b.container.Coherent) {m n : InFlight}
    (hm : b.Made m) (hn : b.Made n) :
    m = n ∨ b.container.Superseded m ∨ b.container.Superseded n := by
  by_cases hawaits : ∃ id, b.container.Awaits m.generation id
  · by_cases hawaits' : ∃ id, b.container.Awaits n.generation id
    · -- The attempt that is waited for has a mount in flight, and both are that mount.
      obtain ⟨id, hup, hphase⟩ := hawaits
      obtain ⟨id', -, hphase'⟩ := hawaits'
      obtain ⟨o, ho, hgeneration⟩ := hb.attended id m.generation hphase
      have hsame : m.generation = n.generation :=
        (Phase.mounting.inj (hphase.symm.trans hphase')).2
      have hom := hm.2 o ho hgeneration
      have hon := hn.2 o ho (hgeneration.trans hsame)
      exact .inl (hom.symm.trans hon)
    · exact .inr (.inr ⟨hn.1, fun id hid => hawaits' ⟨id, hid⟩⟩)
  · exact .inr (.inl ⟨hm.1, fun id hid => hawaits ⟨id, hid⟩⟩)

variable [Adapter H]

theorem Made.look {b : Board H} {m : InFlight} (h : b.Made m) (n : InFlight) :
    (b.step (.inside (.look n))).Made m := by
  have hout := Container.step_outcome b.container (.look n)
  change m.generation ≤ (b.container.step (.look n)).1.generation ∧
    ∀ o ∈ (b.container.step (.look n)).1.flights.toList, o.generation = m.generation → o = m
  generalize b.container.step (.look n) = after at hout
  obtain ⟨hissued, honly⟩ := h
  cases hout with
  | absent => exact ⟨hissued, honly⟩
  | confirmed hflights | refused hflights =>
    exact ⟨hissued, fun o ho => honly o (hflights.mem_iff.2 (List.mem_cons_of_mem n ho))⟩
  | unsettled hflights => exact ⟨hissued, fun o ho => honly o (hflights.mem_iff.2 ho)⟩
  | stale hflights =>
    rename_i result _ _
    cases result <;>
      exact ⟨hissued, fun o ho => honly o (hflights.mem_iff.2 (List.mem_cons_of_mem n ho))⟩

/-! ### Runs with fewer polls -/

/-- What a run does besides polling mounts that were superseded when it polled them. -/
inductive Thins : Board H → List (Event H) → List (Event H) → List InFlight → Prop where
  | nil (b : Board H) : Thins b [] [] []
  | keep {b : Board H} (e : Event H) {es kept : List (Event H)} {dropped : List InFlight}
      (hrest : Thins (b.step e) es kept dropped) : Thins b (e :: es) (e :: kept) dropped
  | drop {b : Board H} {m : InFlight} {es kept : List (Event H)} {dropped : List InFlight}
      (hm : b.container.Superseded m) (hrest : Thins (b.step (.inside (.look m))) es kept dropped) :
      Thins b (.inside (.look m) :: es) kept (m :: dropped)

theorem Thins.refl (b : Board H) (es : List (Event H)) : Thins b es es [] := by
  induction es generalizing b with
  | nil => exact .nil b
  | cons e es ih => exact .keep e (ih (b.step e))

theorem Thins.append {b : Board H} {es kept fs kept' : List (Event H)}
    {dropped dropped' : List InFlight} (hes : Thins b es kept dropped)
    (hfs : Thins (b.run es) fs kept' dropped') :
    Thins b (es ++ fs) (kept ++ kept') (dropped ++ dropped') := by
  induction hes with
  | nil => exact hfs
  | keep e hrest ih => exact .keep e (ih hfs)
  | drop hm hrest ih => exact .drop hm (ih hfs)

theorem superseded_run {b : Board H} {m : InFlight} (hm : b.container.Superseded m)
    (es : List (Event H)) : (b.run es).container.Superseded m := by
  rw [container_run]
  exact hm.run (b.trail es)

/-- Polls of some mounts, one after another. -/
def looks (ms : List InFlight) : List (Event H) := ms.map fun m => .inside (.look m)

theorem run_looks_cons (b : Board H) (m : InFlight) (ms : List InFlight) :
    b.run (looks (m :: ms)) = (b.step (.inside (.look m))).run (looks ms) := rfl

/-! ### Agreement -/

/-- The boards agree in everything but the mounts in flight, and what was attached and detached
since, of the mounts that were dropped. -/
structure Agree (dropped : List InFlight) (b b' : Board H) : Prop where
  container : ∃ host flights, b'.container = { b.container with host := host, flights := flights }
  store : b.store = b'.store
  told : b.told = b'.told
  attached : (Adapter.stage b.container.host).attached = (Adapter.stage b'.container.host).attached
  mounts : (Adapter.stage b.container.host).mounts = (Adapter.stage b'.container.host).mounts
  flights : ∀ m, m ∉ dropped →
    (m ∈ b.container.flights.toList ↔ m ∈ b'.container.flights.toList)
  attachments : ∀ id, (∀ m ∈ dropped, m.ticket.plugin ≠ id) →
    (Adapter.stage b.container.host).attachments.count id =
      (Adapter.stage b'.container.host).attachments.count id
  detachments : ∀ id, (∀ m ∈ dropped, m.ticket.plugin ≠ id) →
    (Adapter.stage b.container.host).detachments.count id =
      (Adapter.stage b'.container.host).detachments.count id

variable {dropped dropped' : List InFlight} {b b' b'' : Board H}

theorem Agree.refl (dropped : List InFlight) (b : Board H) : Agree dropped b b :=
  ⟨⟨_, _, rfl⟩, rfl, rfl, rfl, rfl, fun _ _ => Iff.rfl, fun _ _ => rfl, fun _ _ => rfl⟩

theorem Agree.symm (h : Agree dropped b b') : Agree dropped b' b where
  container := by
    obtain ⟨host, flights, hb'⟩ := h.container
    exact ⟨b.container.host, b.container.flights, by rw [hb']⟩
  store := h.store.symm
  told := h.told.symm
  attached := h.attached.symm
  mounts := h.mounts.symm
  flights m hm := (h.flights m hm).symm
  attachments id hid := (h.attachments id hid).symm
  detachments id hid := (h.detachments id hid).symm

theorem Agree.mono (h : Agree dropped b b') (hsub : ∀ m ∈ dropped, m ∈ dropped') :
    Agree dropped' b b' :=
  { h with
    flights := fun m hm => h.flights m fun hmem => hm (hsub m hmem)
    attachments := fun id hid => h.attachments id fun m hm => hid m (hsub m hm)
    detachments := fun id hid => h.detachments id fun m hm => hid m (hsub m hm) }

theorem Agree.trans (h : Agree dropped b b') (h' : Agree dropped b' b'') : Agree dropped b b'' where
  container := by
    obtain ⟨_, _, hb'⟩ := h.container
    obtain ⟨host, flights, hb''⟩ := h'.container
    exact ⟨host, flights, by rw [hb'', hb']⟩
  store := h.store.trans h'.store
  told := h.told.trans h'.told
  attached := h.attached.trans h'.attached
  mounts := h.mounts.trans h'.mounts
  flights m hm := (h.flights m hm).trans (h'.flights m hm)
  attachments id hid := (h.attachments id hid).trans (h'.attachments id hid)
  detachments id hid := (h.detachments id hid).trans (h'.detachments id hid)

/-! ### Two boards side by side -/

variable [IndependentAdapter H]

def Event.Fair : Event H → Prop
  | .inside e => e.Fair
  | _ => True

/-- One board has taken some steps more than the other, all of them polls of mounts that were
superseded by then. -/
structure Mirror (dropped : List InFlight) (b b' : Board H) : Prop where
  twins : Twins dropped b.container b'.container
  store : b.store = b'.store
  told : b.told = b'.told
  sound : b.container.Sound
  sound' : b'.container.Sound
  superseded : ∀ m ∈ dropped, b.container.Superseded m

theorem Mirror.refl {b : Board H} (hb : b.container.Sound) : Mirror [] b b :=
  ⟨.refl [] b.container, rfl, rfl, hb, hb, fun _ hm => nomatch hm⟩

theorem fair_look (m : InFlight) : (Container.Event.look m : Container.Event H).Fair :=
  ⟨trivial, trivial, fun _ he => nomatch he⟩

theorem fair_looks (ms : List InFlight) : ∀ e ∈ (looks ms : List (Event H)), e.Fair := by
  intro e he
  obtain ⟨m, -, rfl⟩ := List.mem_map.1 he
  exact fair_look m

theorem Mirror.agree (h : Mirror dropped b b') : Agree dropped b b' := by
  have hstage := h.twins.paired.stage
  have hshows := h.sound.tidy.stage
  have hshows' := h.sound'.tidy.stage
  obtain ⟨host, flights, hb'⟩ := h.twins.same
  have hattached : (Adapter.stage b.container.host).attached =
      (Adapter.stage b'.container.host).attached := by
    rw [hshows.attached, hshows'.attached, hb']
  have hcount (id : PluginId) (hid : ∀ m ∈ dropped, m.ticket.plugin ≠ id) :=
    hstage.attachments id fun ⟨m, hm, heq⟩ => hid m hm heq
  refine ⟨h.twins.same, h.store, h.told, hattached, hstage.mounts, h.twins.flights, hcount, ?_⟩
  intro id hid
  -- The books balance on both sides: what was attached and is gone was detached.
  have hbooks := hshows.balanced id
  have hbooks' := hshows'.balanced id
  have hattachments := hcount id hid
  rw [← hattached] at hbooks'
  omega

variable [LawfulAdapter H]

theorem Mirror.inner (h : Mirror dropped b b') {e : Container.Event H} (he : e.Fair) :
    Mirror dropped (b.inner e) (b'.inner e) := by
  obtain ⟨htwins, hsaid⟩ := h.twins.step h.sound h.sound' h.superseded he
  exact
    { twins := htwins
      store := by rw [Board.inner, Board.inner, hsaid, h.store]
      told := by rw [Board.inner, Board.inner, h.told]
      sound := h.sound.step he.stage he.keys
      sound' := h.sound'.step he.stage he.keys
      superseded := fun m hm => (h.superseded m hm).step e }

theorem Mirror.step (h : Mirror dropped b b') {e : Event H} (he : e.Fair) :
    Mirror dropped (b.step e) (b'.step e) := by
  cases e with
  | apply a =>
    have hstore : (b.store.apply a).1 = (b'.store.apply a).1 := by rw [h.store]
    exact { h with store := hstore }
  | deliver =>
    have hinner : Mirror dropped (b.inner (.deliver b.store.snapshot))
        (b'.inner (.deliver b.store.snapshot)) := h.inner ⟨trivial, trivial, fun _ he => nomatch he⟩
    rw [Board.step, Board.step, ← h.store]
    exact hinner
  | inside e => exact h.inner he

theorem Mirror.drop (h : Mirror dropped b b') {m : InFlight} (hm : b.container.Superseded m) :
    Mirror (m :: dropped) (b.step (.inside (.look m))) b' := by
  obtain ⟨htwins, hsaid⟩ := h.twins.look_superseded h.sound.ticketed hm
  exact
    { twins := htwins
      store := by
        rw [Board.step, Board.inner, hsaid]
        exact h.store
      told := h.told
      sound := h.sound.step trivial trivial
      sound' := h.sound'
      superseded := fun n hn => by
        rcases List.mem_cons.1 hn with rfl | hn
        · exact hm.step _
        · exact (h.superseded n hn).step _ }

theorem Mirror.run (h : Mirror dropped b b') {es kept : List (Event H)} {more : List InFlight}
    (hthins : Thins b es kept more) (hes : ∀ e ∈ es, e.Fair) :
    Mirror (more.reverse ++ dropped) (b.run es) (b'.run kept) := by
  induction hthins generalizing dropped b' with
  | nil => exact h
  | keep e hrest ih =>
    exact ih (h.step (hes e List.mem_cons_self)) fun e' he' => hes e' (List.mem_cons_of_mem e he')
  | drop hm hrest ih =>
    have hdropped := ih (h.drop hm) fun e' he' => hes e' (List.mem_cons_of_mem _ he')
    rw [List.reverse_cons, List.append_assoc]
    exact hdropped

/-! ### Dropping and moving -/

theorem agree_of_thins {b : Board H} (hb : b.container.Sound) {es kept : List (Event H)}
    (hthins : Thins b es kept dropped) (hes : ∀ e ∈ es, e.Fair) :
    Agree dropped (b.run es) (b.run kept) := by
  have hmirror := (Mirror.refl hb).run hthins hes
  refine hmirror.agree.mono fun m hm => ?_
  rw [List.append_nil] at hm
  exact List.mem_reverse.1 hm

theorem agree_move {b : Board H} (hb : b.container.Sound) {m : InFlight}
    (hm : b.container.Superseded m) {es fs : List (Event H)} (hes : ∀ e ∈ es, e.Fair)
    (hfs : ∀ e ∈ fs, e.Fair) :
    Agree [m] (b.run (.inside (.look m) :: (es ++ fs)))
      (b.run (es ++ .inside (.look m) :: fs)) := by
  have hboth : ∀ e ∈ es ++ fs, e.Fair := List.forall_mem_append.2 ⟨hes, hfs⟩
  have hlook : (Event.inside (.look m) : Event H).Fair := fair_look m
  -- With the poll left out the two runs are the same.
  have hnow : Thins b (.inside (.look m) :: (es ++ fs)) (es ++ fs) [m] := .drop hm (.refl _ _)
  have hlater : Thins b (es ++ .inside (.look m) :: fs) (es ++ fs) [m] :=
    (Thins.refl b es).append (.drop (superseded_run hm es) (.refl _ _))
  refine (agree_of_thins hb hnow ?_).trans (agree_of_thins hb hlater ?_).symm
  · exact List.forall_mem_cons.2 ⟨hlook, hboth⟩
  · exact List.forall_mem_append.2 ⟨hes, List.forall_mem_cons.2 ⟨hlook, hfs⟩⟩

/-! ### Any order -/

theorem agree_looks {ms ms' : List InFlight} (h : ms.Perm ms') {b : Board H}
    (hb : b.container.Sound) (hmade : ∀ m ∈ ms, b.Made m) :
    Agree ms (b.run (looks ms)) (b.run (looks ms')) := by
  induction h generalizing b with
  | nil => exact Agree.refl _ _
  | cons m _ ih =>
    rw [run_looks_cons, run_looks_cons]
    have hrest := ih (b := b.step (.inside (.look m))) (hb.step trivial trivial) fun n hn =>
      (hmade n (List.mem_cons_of_mem m hn)).look m
    exact hrest.mono fun n hn => List.mem_cons_of_mem m hn
  | swap m n ms =>
    have hm := hmade m (by simp)
    have hn := hmade n (by simp)
    have hpolls (ms : List InFlight) : ∀ e ∈ (looks ms : List (Event H)), e.Fair := fair_looks ms
    rcases Made.eq_or_superseded hb.coherent hm hn with rfl | hm | hn
    · exact Agree.refl _ _
    · have hmoved := agree_move hb hm (hpolls [n]) (hpolls ms)
      exact hmoved.symm.mono (by simp)
    · have hmoved := agree_move hb hn (hpolls [m]) (hpolls ms)
      exact hmoved.mono (by simp)
  | @trans ms ms' ms'' hperm _ ih ih' =>
    have hleft := ih hb hmade
    have hright := ih' hb fun m hm => hmade m (hperm.mem_iff.2 hm)
    exact hleft.trans (hright.mono fun m hm => hperm.mem_iff.2 hm)

theorem sound_run {b : Board H} (hb : b.container.Sound) {es : List (Event H)}
    (hes : ∀ e ∈ es, e.Fair) : (b.run es).container.Sound :=
  ((Mirror.refl hb).run (Thins.refl b es) hes).sound

/-- Over every run, polls of superseded mounts can be left out and can be put off, and the mounts
that are in flight at its end can be polled in any order. -/
theorem superseded_transparent (registry : Registry) (host : H) (region : String) (s : Snapshot)
    (hhost : Adapter.stage host = .empty) {es : List (Event H)} (hes : ∀ e ∈ es, e.Fair) :
    let start := new registry host region s
    (∀ kept dropped, Thins start es kept dropped → Agree dropped (start.run es) (start.run kept)) ∧
    (∀ before m middle after, es = before ++ .inside (.look m) :: (middle ++ after) →
      (start.run before).container.Superseded m →
        Agree [m] (start.run es) (start.run (before ++ (middle ++ .inside (.look m) :: after)))) ∧
    (∀ ms ms', ms.Perm ms' → (∀ m ∈ ms, m ∈ (start.run es).container.flights.toList) →
      Agree ms ((start.run es).run (looks ms)) ((start.run es).run (looks ms'))) := by
  intro start
  have hstart : start.container.Sound := Container.sound_new registry host region hhost
  refine ⟨fun kept dropped hthins => agree_of_thins hstart hthins hes, ?_, ?_⟩
  · rintro before m middle after rfl hm
    obtain ⟨hbefore, hlater⟩ := List.forall_mem_append.1 hes
    obtain ⟨-, hlater⟩ := List.forall_mem_cons.1 hlater
    obtain ⟨hmiddle, hafter⟩ := List.forall_mem_append.1 hlater
    rw [run_append, run_append]
    exact agree_move (sound_run hstart hbefore) hm hmiddle hafter
  · intro ms ms' hperm hflight
    have hend := sound_run hstart hes
    refine agree_looks hperm hend fun m hm => ?_
    refine ⟨hend.coherent.issued m (hflight m hm), fun n hn hgeneration => ?_⟩
    exact hend.coherent.eq_of_generation hn (hflight m hm) hgeneration

/-- `a`, `b` and `a` again are chosen, and the gates of both mounts of `a` are opened. -/
def switches : List (Event Scripted) :=
  [.deliver, .apply (.selected ⟨"b"⟩), .deliver, .apply (.selected ⟨"a"⟩), .deliver,
    .inside (.adapter fun h => (h.openGate ⟨"a"⟩ none).1),
    .inside (.adapter fun h => (h.openGate ⟨"a"⟩ none).1)]

def firstMount : InFlight := ⟨1, ⟨⟨"a"⟩, 0⟩⟩

def secondMount : InFlight := ⟨3, ⟨⟨"a"⟩, 1⟩⟩

def detached (b : Board Scripted) : List PluginId := b.container.host.stage.detachments

/-- Whether the first mount of `a` settles before the second one, after it or never, `a` is
mounted under the third generation. -/
theorem superseded_transparent_switches :
    let registry : Registry := .plain .none [⟨"a"⟩, ⟨"b"⟩] (by decide)
    let host := Scripted.ofScript [(⟨"a"⟩, .gated)]
    let start := new registry host "main" (.ofActivation ⟨[⟨"a"⟩, ⟨"b"⟩], none, none⟩)
    let early := switches ++ looks [firstMount, secondMount]
    let late := switches ++ looks [secondMount, firstMount]
    let never := switches ++ looks [secondMount]
    (∀ e ∈ early, e.Fair) ∧ (start.run early).container.phase = .mounted ⟨"a"⟩ 3 ∧
      Agree [firstMount] (start.run early) (start.run late) ∧
      Agree [firstMount] (start.run early) (start.run never) ∧
      (start.run early).detached = [⟨"b"⟩, ⟨"a"⟩] ∧ (start.run never).detached = [⟨"b"⟩] := by
  intro registry host start early late never
  have hes : ∀ e ∈ early, e.Fair := by
    simp only [early, switches, looks, List.map_cons, List.map_nil, List.cons_append,
      List.nil_append, List.forall_mem_cons, List.not_mem_nil, false_implies, implies_true,
      and_true]
    exact ⟨trivial, trivial, trivial, trivial, trivial, Container.fair_openGate _ _,
      Container.fair_openGate _ _, fair_look _, fair_look _⟩
  have hfirst : (start.run switches).container.Superseded firstMount := by
    have hphase : (start.run switches).container.phase = .mounting ⟨"a"⟩ 3 := by decide
    refine ⟨by decide, fun id hid => ?_⟩
    exact absurd (Phase.mounting.inj (hphase.symm.trans hid.2)).2 (by decide)
  have hthins : Thins start early never [firstMount] :=
    (Thins.refl start switches).append (.drop hfirst (.refl _ _))
  obtain ⟨hdrop, hmove, -⟩ := superseded_transparent registry host "main"
    (.ofActivation ⟨[⟨"a"⟩, ⟨"b"⟩], none, none⟩) (Scripted.stage_ofScript _) hes
  exact ⟨hes, by decide, hmove switches firstMount (looks [secondMount]) [] rfl hfirst,
    hdrop never [firstMount] hthins, by decide, by decide⟩

end Board

end Dashboard
