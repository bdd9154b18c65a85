import Dashboard.Command.Resolve
import Dashboard.Proofs.Container.Run

/-!
# Rounds of a loop

The loop of the command delivers the state of the store and waits for a mount to settle, until no
mount is in flight any more. Its rounds have no bound of their own, and which mounts are polled
during a wait, how often and in which order, is for the runtime to choose. A loop that ends has to
end for every choice: `EndsWithin` bounds the rounds and the polls of each wait at once, and a loop
with a bound that is large enough is then one of the runs of the loop without a bound.
-/

namespace Dashboard

namespace Flights

/-- Mounts in flight are polled more often than there are such mounts. -/
def OutlastedBy (f : Flights) (polls : List InFlight) : Prop :=
  f.size < polls.length ∧ ∀ m ∈ polls, m ∈ f.toList

theorem Order.outlasts (order : Order) {f : Flights} (hflying : f.toList ≠ []) :
    f.OutlastedBy (order.polls f) where
  left := by
    have hpositive : 0 < f.size := List.length_pos_iff.2 hflying
    have htwice : (order.polls f).length = f.size + f.size :=
      (order.polls_perm f).length_eq.trans List.length_append
    omega
  right m hm := (List.mem_append.1 ((order.polls_perm f).mem_iff.1 hm)).elim id id

end Flights

namespace Container

variable {H : Type} [Adapter H] {P Q : Container H × MemoryStore → Prop}
  {x y : Container H × MemoryStore} {c d : Container H} {store : MemoryStore}
  {said : List Action} {n : Nat}

/-- The container after it was told the state of its store, and the store after that. -/
def tell (x : Container H × MemoryStore) : Container H × MemoryStore :=
  let (c, said) := x.1.step (.deliver x.2.snapshot)
  (c, x.2.dispatchAll said)

/-- One round of the loop: the state is delivered, and the next mount to settle is waited for. -/
def round (polls : List InFlight) (x : Container H × MemoryStore) :
    (Container H × MemoryStore) × Settling :=
  let (c, store) := tell x
  let (c, said, settling) := c.settleBy polls
  ((c, store.dispatchAll said), settling)

/-- A run of the loop: it goes on while mounts settle and ends when none is in flight. -/
inductive Drives : Nat → Container H × MemoryStore → Container H × MemoryStore → Prop
  | last {x y : Container H × MemoryStore} {polls : List InFlight}
      (h : round polls x = (y, .nothing)) : Drives 1 x y
  | again {n : Nat} {x y z : Container H × MemoryStore} {polls : List InFlight}
      (h : round polls x = (y, .settled)) (hrest : Drives n y z) : Drives (n + 1) x z

/-- However mounts are polled, the loop ends within a number of rounds, and `P` holds at its end. A
wait in which nothing has settled goes on, and one poll more than there are mounts in flight is
enough to end it. -/
inductive EndsWithin (P : Container H × MemoryStore → Prop) : Nat → Container H × MemoryStore → Prop
  | round {n : Nat} {x : Container H × MemoryStore}
      (nothing : ∀ polls y, round polls x = (y, .nothing) → P y)
      (settled : ∀ polls y, round polls x = (y, .settled) → EndsWithin P n y)
      (waiting : ∀ polls y, round polls x = (y, .waiting) →
        ¬(tell x).1.flights.OutlastedBy polls) : EndsWithin P (n + 1) x

theorem EndsWithin.mono {m : Nat} (h : EndsWithin P n x) (hn : n ≤ m) (hP : ∀ y, P y → Q y) :
    EndsWithin Q m x := by
  induction h generalizing m with
  | round hnothing _ hwaiting ih =>
    obtain ⟨m, rfl⟩ := Nat.exists_eq_add_of_le' (Nat.le_trans (Nat.le_add_left 1 _) hn)
    exact .round (fun polls y hround => hP y (hnothing polls y hround))
      (fun polls y hround => ih polls y hround (Nat.le_of_succ_le_succ hn)) hwaiting

/-! ### One round -/

theorem endsWithin_of_round
    (h : ∀ polls y settling, round polls x = (y, settling) →
      match settling with
      | .nothing => P y
      | .settled => EndsWithin P n y
      | .waiting => ¬(tell x).1.flights.OutlastedBy polls) : EndsWithin P (n + 1) x :=
  .round (fun polls y hround => h polls y .nothing hround)
    (fun polls y hround => h polls y .settled hround)
    (fun polls y hround => h polls y .waiting hround)

theorem settleBy_of_landed (hlanded : c.flights.toList = []) (polls : List InFlight) :
    c.settleBy polls = (c, [], .nothing) :=
  if_pos (List.isEmpty_iff.2 hlanded)

theorem tell_eq (hdeliver : c.onStateChange store.snapshot = (d, said)) :
    tell (c, store) = (d, store.dispatchAll said) := by
  simp only [tell, step, hdeliver]

theorem round_of_tell (htell : tell x = (d, store)) (polls : List InFlight) :
    round polls x =
      (((d.settleBy polls).1, store.dispatchAll (d.settleBy polls).2.1),
        (d.settleBy polls).2.2) := by
  simp only [round, htell]

/-- With nothing in flight the round is the last one. -/
theorem endsWithin_of_landed (htell : tell x = y) (hlanded : y.1.flights.toList = []) (hP : P y) :
    EndsWithin P (n + 1) x := by
  refine endsWithin_of_round fun polls z settling hround => ?_
  rw [round_of_tell htell, settleBy_of_landed hlanded] at hround
  cases hround
  exact hP

/-- With a mount in flight that is bound to settle the round is followed by another one. -/
theorem endsWithin_of_settled {after : Container H} (htell : tell x = (d, store))
    (hsettles : ∀ polls, d.settleBy polls = (after, said, .settled) ∨
      (d.settleBy polls).2.2 = .waiting ∧ ¬d.flights.OutlastedBy polls)
    (hrest : EndsWithin P n (after, store.dispatchAll said)) : EndsWithin P (n + 1) x := by
  refine endsWithin_of_round fun polls z settling hround => ?_
  rw [round_of_tell htell] at hround
  rcases hsettles polls with hsettled | ⟨hwaits, hpolls⟩
  · rw [hsettled] at hround
    cases hround
    exact hrest
  · obtain rfl : settling = .waiting := (congrArg Prod.snd hround).symm.trans hwaits
    rw [htell]
    exact hpolls

/-! ### Loops with a bound -/

/-- The loop with a bound on its rounds, against the store in memory. -/
def rounds (order : Flights.Order) (n : Nat) (x : Container H × MemoryStore) :
    Container H × MemoryStore :=
  driveRounds order MemoryStore.snapshot MemoryStore.dispatchAll n x.1 x.2

theorem drive_eq (c : Container Headless) (order : Flights.Order) (store : MemoryStore) :
    c.drive order store = rounds order (c.flights.size + 2) (c, store) := rfl

theorem rounds_succ (order : Flights.Order) (n : Nat) (x : Container H × MemoryStore) :
    rounds order (n + 1) x =
      match round (order.polls (tell x).1.flights) x with
      | (y, .settled) => rounds order n y
      | (y, _) => y := by
  obtain ⟨c, store⟩ := x
  simp only [rounds, driveRounds, round, tell, step, settleNext]
  rcases c.onStateChange store.snapshot with ⟨d, said⟩
  rcases d.settleBy (order.polls d.flights) with ⟨e, confirmed, settling⟩
  cases settling <;> rfl

/-- Only where mounts are in flight is anything waited for. -/
theorem flying_of_waiting {polls : List InFlight} (h : round polls x = (y, .waiting)) :
    (tell x).1.flights.toList ≠ [] := by
  intro hlanded
  simp only [round, settleBy_of_landed hlanded] at h
  cases h

/-- A bound that is large enough does not show: the loop has ended before. -/
theorem EndsWithin.drives {m : Nat} (h : EndsWithin P n x) (order : Flights.Order) (hn : n ≤ m) :
    (∃ k ≤ n, Drives k x (rounds order m x)) ∧ P (rounds order m x) := by
  induction h generalizing m with
  | @round n x hnothing _ hwaiting ih =>
    obtain ⟨m, rfl⟩ := Nat.exists_eq_add_of_le' (Nat.le_trans (Nat.le_add_left 1 n) hn)
    rw [rounds_succ]
    rcases hround : Container.round (order.polls (tell x).1.flights) x with ⟨y, settling⟩
    cases settling with
    | nothing => exact ⟨⟨1, Nat.le_add_left 1 n, .last hround⟩, hnothing _ y hround⟩
    | settled =>
      obtain ⟨⟨k, hk, hdrives⟩, hend⟩ := ih _ y hround (Nat.le_of_succ_le_succ hn)
      exact ⟨⟨k + 1, Nat.succ_le_succ hk, .again hround hdrives⟩, hend⟩
    | waiting => exact absurd (order.outlasts (flying_of_waiting hround)) (hwaiting _ y hround)

end Container

end Dashboard
