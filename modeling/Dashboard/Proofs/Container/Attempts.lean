import Dashboard.Proofs.Container.Coherence
import Dashboard.Proofs.Container.Ledger
import Dashboard.Proofs.Container.Operation

/-!
# Mount attempts

Every mount that a container asks for is an attempt with a generation of its own, larger than those
of all attempts before. A container that is mounting or showing a plugin is at its newest attempt,
and it listens to the handle of that attempt only. The requests that come through any other handle,
from a mount that was superseded, taken down or never settled, find nothing to act on.
-/

namespace Dashboard

/-- An adapter, and what it was asked to mount so far. -/
structure Logged (H : Type) where
  host : H
  requests : List MountContext

namespace Logged

variable {H : Type}

def of (host : H) : Logged H := ⟨host, []⟩

variable [Adapter H]

instance : Adapter (Logged H) where
  name := Adapter.name H
  mount w ctx :=
    let answer := Adapter.mount w.host ctx
    (⟨answer.1, w.requests ++ [ctx]⟩, answer.2)
  poll w t :=
    let answer := Adapter.poll w.host t
    ({ w with host := answer.1 }, answer.2)
  cancel w t := { w with host := Adapter.cancel w.host t }
  unmount w i :=
    let answer := Adapter.unmount w.host i
    ({ w with host := answer.1 }, answer.2)
  isAttached w i := Adapter.isAttached w.host i
  stage w := Adapter.stage w.host

def projection : Projection (Logged H) H where
  below := host
  lift change w := { w with host := change w.host }
  below_lift _ _ := rfl
  mount _ _ := rfl
  poll _ _ := rfl
  cancel _ _ := rfl
  unmount _ _ := rfl

def ledger : Ledger (Logged H) MountContext where
  entries := requests
  entry _ ctx := ctx
  mount _ _ := rfl
  poll _ _ := rfl
  cancel _ _ := rfl
  unmount _ _ := rfl

end Logged

namespace Container

variable {H : Type}

/-- The attempt that the container is busy with: the last mount that it asked for, unless it is
idle. -/
def attempt? (c : Container (Logged H)) : Option MountContext :=
  if c.phase = .idle then none else c.host.requests.getLast?

variable [Adapter H]

/-! ### Generations grow -/

theorem generation_step (c : Container H) (e : Event H) :
    c.generation ≤ (c.step e).1.generation ∧ (c.step e).1.generation ≤ c.generation + 1 := by
  have hout := step_outcome c e
  generalize c.step e = after at hout
  cases hout with
  | @stale m host flights result => cases result <;> exact ⟨Nat.le_refl _, Nat.le_succ _⟩
  | emptied | took | failed | launched | deactivated | ended =>
    exact ⟨Nat.le_succ _, Nat.le_refl _⟩
  | _ => exact ⟨Nat.le_refl _, Nat.le_succ _⟩

theorem generation_run_looks (c : Container H) (looks : List InFlight) :
    (c.run (looks.map .look)).generation = c.generation := by
  induction looks generalizing c with
  | nil => rfl
  | cons m looks ih =>
    have hout := step_outcome c (.look m)
    rw [List.map_cons, run_cons, ih]
    generalize c.step (.look m) = after at hout
    cases hout with
    | @stale m host flights result => cases result <;> rfl
    | _ => rfl

/-! ### Emptying the mailbox -/

/-- The requests that are accepted when they are handled in turn. -/
def acceptedOf (c : Container H) : List DeactivationRequest → List DeactivationRequest
  | [] => []
  | r :: rs => (if c.accepts r then [r] else []) ++ (c.onDeactivated r).acceptedOf rs

theorem onDeactivated_of_idle {c : Container H} (hphase : c.phase = .idle)
    (rs : List DeactivationRequest) : rs.foldl onDeactivated c = c ∧ c.acceptedOf rs = [] := by
  induction rs with
  | nil => exact ⟨rfl, rfl⟩
  | cons r rs ih =>
    have hrefused := accepts_of_idle hphase r
    have hsame : c.onDeactivated r = c := by rw [onDeactivated_eq, hrefused]; rfl
    rw [List.foldl_cons, acceptedOf, hsame, hrefused]
    exact ih

/-- Of several requests the first one from the current attempt is accepted, and no other. -/
theorem foldl_onDeactivated (c : Container H) (rs : List DeactivationRequest) :
    rs.foldl onDeactivated c = (if rs.any c.accepts then c.deactivated else c) ∧
      c.acceptedOf rs = (rs.find? c.accepts).toList := by
  induction rs with
  | nil => exact ⟨rfl, rfl⟩
  | cons r rs ih =>
    rw [List.foldl_cons, acceptedOf, onDeactivated_eq]
    cases haccepts : c.accepts r with
    | true =>
      -- The accepted request leaves the container idle, so it is deaf to the others.
      obtain ⟨hfold, hnone⟩ := onDeactivated_of_idle (c := c.deactivated) rfl rs
      simp [haccepts, hfold, hnone]
    | false => simpa [haccepts] using ih

theorem processDeactivations_eq (c : Container H) :
    c.processDeactivations.1 =
      { (if c.mailbox.queue.any c.accepts then c.deactivated else c) with
        mailbox := { c.mailbox with queue := [] } } := by
  have hfold := (foldl_onDeactivated
    { c with mailbox := { c.mailbox with queue := [] } } c.mailbox.queue).1
  refine hfold.trans ?_
  change (if c.mailbox.queue.any c.accepts then _ else _) = _
  split <;> rfl

theorem generation_perform (c : Container H) (o : Operation H) :
    c.generation ≤ (c.perform o).generation ∧ (c.perform o).generation ≤ c.generation + 1 := by
  cases o with
  | event e => exact generation_step c e
  | settle polls =>
    obtain ⟨looks, hlooks, -⟩ := c.settleBy_eq_run polls
    rw [perform, hlooks, generation_run_looks]
    exact ⟨Nat.le_refl _, Nat.le_succ _⟩
  | process =>
    rw [perform, processDeactivations_eq]
    split
    · exact ⟨Nat.le_succ _, Nat.le_refl _⟩
    · exact ⟨Nat.le_refl _, Nat.le_succ _⟩

theorem generation_performAll (c : Container H) (os : List (Operation H)) :
    c.generation ≤ (c.performAll os).generation ∧
      (c.performAll os).generation ≤ c.generation + os.length := by
  induction os generalizing c with
  | nil => exact ⟨Nat.le_refl _, Nat.le_refl _⟩
  | cons o os ih =>
    have hfirst := c.generation_perform o
    have hrest := ih (c.perform o)
    rw [performAll_cons, List.length_cons]
    omega

/-! ### The log of all attempts -/

/-- What holds between a container and the log of its attempts after any run. -/
structure Attempts (c : Container (Logged H)) : Prop where
  issued : ∀ ctx ∈ c.host.requests, ctx.generation ≤ c.generation
  increasing : c.host.requests.Pairwise fun older newer => older.generation < newer.generation
  own : ∀ ctx ∈ c.host.requests, ctx.handle = ⟨ctx.plugin, ctx.generation, true⟩
  newest : c.phase ≠ .idle → ∃ ctx, c.host.requests.getLast? = some ctx ∧
    c.phase.plugin? = some ctx.plugin ∧ c.phase.generation? = some ctx.generation

omit [Adapter H] in
theorem attempts_new (registry : Registry) (host : H) (region : String) :
    (new registry (Logged.of host) region).Attempts where
  issued _ h := nomatch h
  increasing := List.Pairwise.nil
  own _ h := nomatch h
  newest h := absurd rfl h

omit [Adapter H] in
theorem Attempts.congr {c c' : Container (Logged H)} (h : c.Attempts)
    (hrequests : c'.host.requests = c.host.requests) (hgeneration : c.generation ≤ c'.generation)
    (hphase : c'.phase ≠ .idle → c.phase ≠ .idle ∧
      c'.phase.plugin? = c.phase.plugin? ∧ c'.phase.generation? = c.phase.generation?) :
    c'.Attempts where
  issued ctx hctx := Nat.le_trans (h.issued ctx (hrequests ▸ hctx)) hgeneration
  increasing := hrequests ▸ h.increasing
  own ctx hctx := h.own ctx (hrequests ▸ hctx)
  newest hbusy := by
    obtain ⟨hbefore, hplugin, hattempt⟩ := hphase hbusy
    rw [hrequests, hplugin, hattempt]
    exact h.newest hbefore

theorem Attempts.launch {c c' : Container (Logged H)} (h : c.Attempts) {d : Descriptor}
    {s : Snapshot}
    (hrequests : c'.host.requests = c.host.requests ++ [(c.cleared s).mountContext d])
    (hgeneration : c'.generation = c.generation + 1)
    (hphase : c'.phase ≠ .idle →
      c'.phase.plugin? = some d.id ∧ c'.phase.generation? = some (c.generation + 1)) :
    c'.Attempts where
  issued ctx hctx := by
    rw [hrequests] at hctx
    rw [hgeneration]
    rcases List.mem_append.1 hctx with hold | hnew
    · exact Nat.le_succ_of_le (h.issued ctx hold)
    · exact Nat.le_of_eq (List.mem_singleton.1 hnew ▸ rfl)
  increasing := by
    rw [hrequests, List.pairwise_append]
    refine ⟨h.increasing, List.pairwise_singleton _ _, fun older hold newer hnew => ?_⟩
    rw [List.mem_singleton.1 hnew]
    exact Nat.lt_succ_of_le (h.issued older hold)
  own ctx hctx := by
    rw [hrequests] at hctx
    rcases List.mem_append.1 hctx with hold | hnew
    · exact h.own ctx hold
    · exact List.mem_singleton.1 hnew ▸ rfl
  newest hbusy := ⟨_, by rw [hrequests, List.getLast?_concat], hphase hbusy⟩

theorem requests_step (c : Container (Logged H)) (e : Event H) :
    (c.step (e.lift Logged.projection)).1.host.requests =
      c.host.requests ++ (c.request? (e.lift Logged.projection)).toList := by
  have hkept := Logged.ledger.kept_lift Logged.projection (fun _ _ => rfl) e
  exact (Logged.ledger.entries_step c hkept).trans (congrArg _ (List.map_id _))

theorem Attempts.step {c : Container (Logged H)} (h : c.Attempts) (e : Event H) :
    (c.step (e.lift Logged.projection)).1.Attempts := by
  have hrequests := requests_step c e
  have hgeneration := (generation_step c (e.lift Logged.projection)).1
  have hout := step_outcome c (e.lift Logged.projection)
  generalize e.lift Logged.projection = lifted at hout hrequests hgeneration
  generalize c.step lifted = after at hout hrequests hgeneration
  have hquiet (hnone : c.request? lifted = none) : after.1.host.requests = c.host.requests := by
    rw [hrequests, hnone, Option.toList_none, List.append_nil]
  cases hout with
  | unheard | absent | ignored | gone => exact h
  | unmoved hheard htarget =>
    refine h.congr (hquiet ?_) hgeneration fun hbusy => ⟨hbusy, rfl, rfl⟩
    rw [request?, launch?_eq_none_of_target htarget, Option.map_none]
  | emptied hheard htarget =>
    refine h.congr (hquiet ?_) hgeneration fun hbusy => absurd rfl hbusy
    simp [request?, launch?, htarget]
  | took hlaunch | launched hlaunch =>
    rw [request?, hlaunch] at hrequests
    exact h.launch hrequests rfl fun _ => ⟨rfl, rfl⟩
  | failed hlaunch =>
    rw [request?, hlaunch] at hrequests
    exact h.launch hrequests rfl fun hbusy => absurd rfl hbusy
  | confirmed _ hawaits =>
    refine h.congr (hquiet rfl) hgeneration fun _ => ?_
    rw [hawaits.2]
    exact ⟨by simp, rfl, rfl⟩
  | @stale m host flights result =>
    cases result <;> exact h.congr (hquiet rfl) hgeneration fun hbusy => ⟨hbusy, rfl, rfl⟩
  | unsettled | woken | adapter | mailbox =>
    exact h.congr (hquiet rfl) hgeneration fun hbusy => ⟨hbusy, rfl, rfl⟩
  | refused | deactivated | ended =>
    exact h.congr (hquiet rfl) hgeneration fun hbusy => absurd rfl hbusy

theorem Attempts.run {c : Container (Logged H)} (h : c.Attempts) (es : List (Event H)) :
    (c.run (es.map (.lift Logged.projection))).Attempts := by
  induction es generalizing c with
  | nil => exact h
  | cons e es ih => exact ih (h.step e)

theorem Attempts.performAll {c : Container (Logged H)} (h : c.Attempts) (hc : c.Coherent)
    (os : List (Operation H)) :
    (c.performAll (os.map (.lift Logged.projection))).Attempts ∧
      (c.performAll (os.map (.lift Logged.projection))).Coherent := by
  induction os generalizing c with
  | nil => exact ⟨h, hc⟩
  | cons o os ih =>
    obtain ⟨es, hes⟩ := perform_lift_eq_run Logged.projection c o
    rw [List.map_cons, performAll_cons, hes]
    exact ih (h.run es) (hc.run _)

/-! ### What a generation identifies -/

omit [Adapter H] in
/-- The attempt that a busy container is at is the one whose generation its phase carries. -/
theorem Attempts.attempt?_eq_some_iff {c : Container (Logged H)} (h : c.Attempts)
    {ctx : MountContext} (hctx : ctx ∈ c.host.requests) :
    c.attempt? = some ctx ↔ c.phase.generation? = some ctx.generation := by
  unfold attempt?
  split
  · rename_i hidle
    simp [hidle, Phase.generation?]
  · rename_i hbusy
    obtain ⟨last, hlast, -, hgeneration⟩ := h.newest hbusy
    rw [hlast, hgeneration, Option.some.injEq, Option.some.injEq]
    refine ⟨fun heq => heq ▸ rfl, fun hsame => ?_⟩
    -- Generations grow, so no request before the last one has the generation of the last one.
    obtain ⟨earlier, hsplit⟩ := List.getLast?_eq_some_iff.1 hlast
    rw [hsplit] at hctx
    rcases List.mem_append.1 hctx with hold | hnew
    · have hincreasing := h.increasing
      rw [hsplit, List.pairwise_append] at hincreasing
      have hless := hincreasing.2.2 ctx hold last (List.mem_singleton.2 rfl)
      omega
    · exact (List.mem_singleton.1 hnew).symm

omit [Adapter H] in
theorem Attempts.mem_of_attempt? {c : Container (Logged H)} {ctx : MountContext}
    (hattempt : c.attempt? = some ctx) : c.phase ≠ .idle ∧ ctx ∈ c.host.requests := by
  unfold attempt? at hattempt
  split at hattempt
  · cases hattempt
  · exact ⟨‹_›, List.mem_of_getLast? hattempt⟩

/-- What generations say about a container and everything that was ever mounted through it. -/
structure Identified (c : Container (Logged H)) : Prop where
  /-- Every mount is asked for with a larger generation than all mounts before. -/
  increasing : c.host.requests.Pairwise fun older newer => older.generation < newer.generation
  /-- The mounts in flight have different generations. -/
  distinct : (c.flights.toList.map InFlight.generation).Nodup
  /-- A container that is mounting or showing a plugin does so under its own generation. -/
  current : ∀ g, c.phase.generation? = some g → g = c.generation
  /-- A container that is mounting a plugin has that attempt in flight. -/
  attended : ∀ id g, c.phase = .mounting id g → ∃ m ∈ c.flights.toList, m.generation = g
  /-- A container that is mounting or showing a plugin is at an attempt, and its phase names it. -/
  busy : c.phase ≠ .idle → ∃ ctx, c.attempt? = some ctx ∧
    c.phase.plugin? = some ctx.plugin ∧ c.phase.generation? = some ctx.generation
  /-- A request through the handle of the current attempt takes down the container's target. -/
  heard : ∀ ctx, c.attempt? = some ctx → c.phase.plugin? = some ctx.handle.plugin ∧
    c.accepts ctx.handle.request = true ∧ c.onDeactivated ctx.handle.request = c.deactivated
  /-- A request through any other handle changes nothing. -/
  ignored : ∀ ctx ∈ c.host.requests, c.attempt? ≠ some ctx →
    c.accepts ctx.handle.request = false ∧ c.onDeactivated ctx.handle.request = c
  /-- Nor does any request at all that carries another generation. -/
  foreign : ∀ r, (∀ ctx, c.attempt? = some ctx → r.generation ≠ ctx.generation) →
    c.accepts r = false ∧ c.onDeactivated r = c
  /-- Of all requests in the mailbox at most one is accepted. -/
  single : (c.acceptedOf c.mailbox.queue).length ≤ 1
  /-- All requests in the mailbox together do what the accepted one does. -/
  processed : c.processDeactivations.1 =
    { (if c.mailbox.queue.any c.accepts then c.deactivated else c) with
      mailbox := { c.mailbox with queue := [] } }

theorem Attempts.identified {c : Container (Logged H)} (h : c.Attempts) (hc : c.Coherent) :
    c.Identified := by
  have hbusy (hphase : c.phase ≠ .idle) : ∃ ctx, c.attempt? = some ctx ∧
      c.phase.plugin? = some ctx.plugin ∧ c.phase.generation? = some ctx.generation := by
    obtain ⟨last, hlast, hnames⟩ := h.newest hphase
    exact ⟨last, by rw [attempt?, if_neg hphase, hlast], hnames⟩
  have hrefused {r : DeactivationRequest} (hother : c.phase.generation? ≠ some r.generation) :
      c.accepts r = false ∧ c.onDeactivated r = c := by
    have haccepts : c.accepts r = false := by simp [accepts, hother]
    exact ⟨haccepts, by rw [onDeactivated_eq, haccepts]; rfl⟩
  have hgeneration {ctx : MountContext} (hctx : ctx ∈ c.host.requests) :
      ctx.handle.request.generation = ctx.generation := by rw [h.own ctx hctx]; rfl
  constructor
  case increasing => exact h.increasing
  case distinct => exact hc.distinct
  case current => exact hc.latest
  case attended => exact hc.attended
  case processed => exact c.processDeactivations_eq
  case busy => exact hbusy
  case heard =>
    intro ctx hattempt
    obtain ⟨hphase, hctx⟩ := Attempts.mem_of_attempt? hattempt
    have haccepts : c.accepts ctx.handle.request = true := by
      simp [accepts, hc.up hphase, (h.attempt?_eq_some_iff hctx).1 hattempt, hgeneration hctx]
    refine ⟨?_, haccepts, by rw [onDeactivated_eq, if_pos haccepts]⟩
    obtain ⟨last, hlast, hplugin, -⟩ := hbusy hphase
    obtain rfl : last = ctx := Option.some.inj (hlast.symm.trans hattempt)
    rw [hplugin, h.own last hctx]
  case ignored =>
    intro ctx hctx hattempt
    refine hrefused fun hphase => hattempt ?_
    exact (h.attempt?_eq_some_iff hctx).2 (hgeneration hctx ▸ hphase)
  case foreign =>
    intro r hr
    refine hrefused fun hgiven => ?_
    have hphase : c.phase ≠ .idle := fun hidle => by simp [hidle, Phase.generation?] at hgiven
    obtain ⟨last, hlast, -, hlatest⟩ := hbusy hphase
    exact hr last hlast (Option.some.inj (hgiven.symm.trans hlatest))
  case single =>
    rw [(c.foldl_onDeactivated c.mailbox.queue).2]
    cases c.mailbox.queue.find? c.accepts with
    | none => exact Nat.zero_le 1
    | some r => exact Nat.le_refl 1

/-- After any operations, generations identify the attempts, they were raised at most once by each
operation, and no further operation lowers them. The log makes no difference to the container. -/
theorem generations_performAll (registry : Registry) (host : H) (region : String)
    (os more : List (Operation H)) :
    let c := (new registry host region).performAll os
    let logged := (new registry (Logged.of host) region).performAll
      (os.map (.lift Logged.projection))
    logged.project Logged.projection = c ∧ logged.Identified ∧ c.generation ≤ os.length ∧
      c.generation ≤ (c.performAll more).generation := by
  intro c logged
  obtain ⟨hattempts, hcoherent⟩ := (attempts_new registry host region).performAll
    (coherent_new registry (Logged.of host) region) os
  have hbound := ((new registry host region).generation_performAll os).2
  exact ⟨performAll_project Logged.projection _ os, hattempts.identified hcoherent,
    Nat.le_trans hbound (Nat.le_of_eq (Nat.zero_add _)), (c.generation_performAll more).1⟩

/-- When `b` has replaced `a`, of four waiting requests the first one of `b` is accepted. -/
example :
    let registry : Registry := .plain .none [⟨"a"⟩, ⟨"b"⟩] (by decide)
    let c := (new registry Scripted.empty "main").performAll
      [.event (.deliver (.ofActivation ⟨[⟨"a"⟩, ⟨"b"⟩], none, some ⟨"a"⟩⟩)),
        .event (.deliver (.ofActivation ⟨[⟨"a"⟩, ⟨"b"⟩], none, some ⟨"b"⟩⟩))]
    c.acceptedOf [⟨⟨"a"⟩, 1⟩, ⟨⟨"b"⟩, 2⟩, ⟨⟨"b"⟩, 2⟩, ⟨⟨"a"⟩, 1⟩] = [⟨⟨"b"⟩, 2⟩] := by
  decide

end Container

end Dashboard
