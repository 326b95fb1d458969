import Mathlib.Logic.Relation
import Throughput.Proofs.Probe.Masking

/-!
# Peers that can not be reached yet

An error that only says that the peer is not there yet, on the way to an entry of the script. The
probe calls again and gets the entry when it would have got it anyway: both timers run on, and no
stamp changes. Every other error that comes in time is the end of the run.
-/

namespace Throughput

/-- The second script says once more, on the way to one entry of the first, that the peer can not be
reached. The entry comes after what is left of its delay. -/
inductive Interrupts : List Delivery → List Delivery → Prop
  | head (early late : Nat) (fault : SocketFault) (cause : String) (reception : Reception)
      (rest : List Delivery) (hfault : fault.isUnreachable = true) :
      Interrupts (⟨early + late, reception⟩ :: rest)
        (⟨early, .failure fault cause⟩ :: ⟨late, reception⟩ :: rest)
  | cons (delivery : Delivery) {plain interrupted : List Delivery}
      (hrest : Interrupts plain interrupted) :
      Interrupts (delivery :: plain) (delivery :: interrupted)

/-- How errors end a run whose probe stopped before `rest`, no later than at `limit`: one of another
kind that comes in time is the end of the run, and nothing else makes it fail in this way. -/
structure ProbeRun.FailsAt (run : ProbeRun) (limit : Nat) (rest : List Receipt) : Prop where
  failed : ∀ receipt cause, rest.head? = some receipt → receipt.fatal? = some cause →
    receipt.time < limit → run.outcome = .error (.socket cause) ∧ run.elapsed = receipt.time
  only : ∀ cause, run.outcome = .error (.socket cause) →
    ∃ receipt, rest.head? = some receipt ∧ receipt.fatal? = some cause ∧ receipt.time < limit

/-- How listening ended, apart from how often the probe had to call. -/
def Listening.unpolled (listening : Listening) : Listening :=
  { listening with polled := [] }

namespace Probe

section Listen

variable {timers : ProbeTimers} {cancelAt : Option Nat} {probe : Probe} {now : Nat}

theorem unpolled_expire (probe : Probe) (cancelAt : Option Nat) (now : Nat) :
    (probe.expire cancelAt now).unpolled =
      ⟨probe, [], max now (probe.deadline cancelAt).1, (probe.deadline cancelAt).2⟩ := by
  rw [expire_eq]
  split
  · next hstop => rw [Listening.unpolled, Nat.max_eq_left hstop]
  · next hstop => rw [Listening.unpolled, Nat.max_eq_right (Nat.le_of_lt (Nat.not_le.mp hstop))]

/-- A probe that calls again before its deadline is not late for what comes next. -/
theorem unpolled_listen_head {early late : Nat} {fault : SocketFault} {cause : String}
    {reception : Reception} {rest : List Delivery} (hfault : fault.isUnreachable = true) :
    (listen timers cancelAt probe now
        (⟨early, .failure fault cause⟩ :: ⟨late, reception⟩ :: rest)).unpolled =
      (listen timers cancelAt probe now (⟨early + late, reception⟩ :: rest)).unpolled := by
  rcases Nat.lt_or_ge (now + early) (probe.deadline cancelAt).1 with htimely | hlate
  · rw [listen_take _ htimely]
    simp only [hfault, if_true]
    change (listen timers cancelAt probe (now + early) (⟨late, reception⟩ :: rest)).unpolled = _
    rcases Nat.lt_or_ge (now + early + late) (probe.deadline cancelAt).1 with hnext | hnext
    · rw [listen_take rest hnext, listen_take rest (Nat.add_assoc now early late ▸ hnext),
        ← Nat.add_assoc]
    · rw [listen_eq_expire (by simpa using hnext),
        listen_eq_expire (by simpa [← Nat.add_assoc] using hnext), unpolled_expire,
        unpolled_expire, Nat.max_eq_right (Nat.le_of_lt htimely), Nat.max_eq_right (by omega)]
  · rw [listen_eq_expire (by simpa using hlate), listen_eq_expire (by simp; omega)]

/-- What is not affected by an interruption comes before it or after it. -/
theorem unpolled_listen {plain interrupted : List Delivery}
    (hscript : Interrupts plain interrupted) (probe : Probe) (now : Nat) :
    (listen timers cancelAt probe now interrupted).unpolled =
      (listen timers cancelAt probe now plain).unpolled := by
  induction hscript generalizing probe now with
  | head early late fault cause reception rest hfault => exact unpolled_listen_head hfault
  | cons delivery hrest ih =>
    rcases Nat.lt_or_ge (now + delivery.delay) (probe.deadline cancelAt).1 with htimely | hlate
    · rw [listen_take _ htimely, listen_take _ htimely]
      cases delivery.reception with
      | datagram datagram => exact ih _ _
      | failure fault cause =>
        dsimp only
        cases fault.isUnreachable with
        | true => exact ih probe _
        | false => rfl
    · rw [listen_eq_expire (by simpa using hlate), listen_eq_expire (by simpa using hlate)]

theorem unpolled_listen_of_reflTransGen {plain interrupted : List Delivery}
    (hscript : Relation.ReflTransGen Interrupts plain interrupted) (probe : Probe) (now : Nat) :
    (listen timers cancelAt probe now interrupted).unpolled =
      (listen timers cancelAt probe now plain).unpolled := by
  induction hscript with
  | refl => rfl
  | tail _ hlast ih => exact (unpolled_listen hlast probe now).trans ih

end Listen

section Run

variable {definition : TrainsDefinition} {timers : ProbeTimers} {conditions : Conditions}
  {left right : List Delivery}

theorem states_of_admitted {deliveries : List Delivery}
    (hbudget : conditions.budget.exhausted = false) :
    (run definition timers conditions deliveries).states =
      statesOf (listened definition timers conditions deliveries) := by
  simp only [run, hbudget]
  rfl

/-- How often a probe had to call does not show in what its run leaves behind. -/
theorem run_congr (h : (listened definition timers conditions left).unpolled =
      (listened definition timers conditions right).unpolled) :
    (run definition timers conditions left).toRun =
        (run definition timers conditions right).toRun ∧
      (run definition timers conditions left).states =
        (run definition timers conditions right).states := by
  cases hbudget : conditions.budget.exhausted with
  | true => simp only [run, hbudget, if_true, and_self]
  | false =>
    let close (listening : Listening) : Run TrainsResult :=
      .close .trains (conclude definition.packetSize.toNat listening) listening.time
        (charge conditions.budget listening) (Journal.ofObserved conditions.observed).start
    rw [run_of_admitted hbudget, run_of_admitted hbudget, states_of_admitted hbudget,
      states_of_admitted hbudget]
    exact ⟨(congrArg close h :), (congrArg statesOf h :)⟩

theorem deadline_ne_failed (probe : Probe) (cancelAt : Option Nat) (cause : String) :
    (probe.deadline cancelAt).2 ≠ .failed cause := by
  have htimer : probe.timer.2 ≠ .failed cause := by
    unfold timer
    split
    · split <;> simp
    · simp
  unfold deadline
  split
  · split
    · simp
    · exact htimer
  · exact htimer

theorem ending_of_conclude {packetSize : Nat} {listening : Listening} {cause : String}
    (h : conclude packetSize listening = .error (.socket cause)) :
    listening.ending = .failed cause := by
  rw [conclude] at h
  split at h
  · cases h
  · next hending =>
    cases h
    exact hending
  · cases h
  · cases h

/-- Only an error of another kind makes a run fail, and it does so at once. -/
theorem run_failsAt (deliveries : List Delivery) (hbudget : conditions.budget.exhausted = false) :
    ∃ taken rest,
      Hears (timers.limitUntil (cancelTime conditions.cancellation))
        (Receipt.ofDeliveries 0 deliveries) taken rest ∧
      (run definition timers conditions deliveries).FailsAt
        (timers.limitUntil (cancelTime conditions.cancellation) (Heard.ofReceipts taken)) rest := by
  obtain ⟨taken, rest, hhears, hends⟩ := exists_hears definition timers conditions deliveries
  have hfailed := hends.failed
  have hexpired := hends.expired
  rw [deadline_until] at hfailed hexpired
  refine ⟨taken, rest, hhears, ?_, ?_⟩
  · intro receipt cause hhead hfatal htimely
    obtain ⟨htime, hending⟩ := hfailed receipt cause hhead hfatal htimely
    rw [run_of_admitted hbudget]
    exact ⟨by simp only [Run.close, conclude, hending], htime⟩
  · intro cause houtcome
    rw [run_of_admitted hbudget] at houtcome
    have hending := ending_of_conclude houtcome
    rcases hhears.late_or_fatal with hlate | ⟨receipt, other, hhead, hfatal, htimely⟩
    · exact absurd ((hexpired hlate).2.symm.trans hending) (deadline_ne_failed _ _ cause)
    · obtain rfl := ReceptionEnd.failed.inj
        ((hfailed receipt other hhead hfatal htimely).2.symm.trans hending)
      exact ⟨receipt, hhead, hfatal, htimely⟩

variable {plain interrupted : List Delivery}

/-- A script that says in between that the peer can not be reached, however often, makes the same
run: nothing that it leaves behind differs, and neither do the timers and the epoch of its probe.
Any other error ends the run when it comes. -/
theorem run_interrupted (hscript : Relation.ReflTransGen Interrupts plain interrupted) :
    (run definition timers conditions interrupted).toRun =
        (run definition timers conditions plain).toRun ∧
      (run definition timers conditions interrupted).states =
        (run definition timers conditions plain).states ∧
      (listened definition timers conditions interrupted).probe =
        (listened definition timers conditions plain).probe ∧
      (conditions.budget.exhausted = false → ∃ taken rest,
        Hears (timers.limitUntil (cancelTime conditions.cancellation))
          (Receipt.ofDeliveries 0 interrupted) taken rest ∧
        (run definition timers conditions interrupted).FailsAt
          (timers.limitUntil (cancelTime conditions.cancellation) (Heard.ofReceipts taken))
          rest) := by
  have hsame : (listened definition timers conditions interrupted).unpolled =
      (listened definition timers conditions plain).unpolled :=
    unpolled_listen_of_reflTransGen hscript _ 0
  obtain ⟨hrun, hstates⟩ := run_congr hsame
  exact ⟨hrun, hstates, (congrArg Listening.probe hsame :), run_failsAt interrupted⟩

/-- A probe that finds nobody there before its first datagram, and again when its quiet period
ends. -/
theorem run_interrupted_twice :
    let first : Delivery := ⟨10, .datagram (TrainRecord.encode ⟨0, 0, 0⟩ 12)⟩
    let second : Delivery := ⟨1000000005, .datagram (TrainRecord.encode ⟨9, 0, 1⟩ 12)⟩
    let interrupted : List Delivery :=
      [⟨4, .failure .connectionRefused "nobody there"⟩,
        ⟨6, .datagram (TrainRecord.encode ⟨0, 0, 0⟩ 12)⟩,
        ⟨1000000000, .failure .connectionReset "gone"⟩,
        ⟨5, .datagram (TrainRecord.encode ⟨9, 0, 1⟩ 12)⟩]
    let conditions : Conditions := ⟨.limited (.ofAvailable 1000), .after 2000000000, true⟩
    Relation.ReflTransGen Interrupts [first, second] interrupted ∧
      (run .initial .initial conditions interrupted).toRun =
          (run .initial .initial conditions [first, second]).toRun ∧
        (run .initial .initial conditions interrupted).states =
          (run .initial .initial conditions [first, second]).states ∧
        (listened .initial .initial conditions interrupted).probe =
          (listened .initial .initial conditions [first, second]).probe ∧
        (conditions.budget.exhausted = false → ∃ taken rest,
          Hears (ProbeTimers.initial.limitUntil (some 2000000000))
            (Receipt.ofDeliveries 0 interrupted) taken rest ∧
          (run .initial .initial conditions interrupted).FailsAt
            (ProbeTimers.initial.limitUntil (some 2000000000) (Heard.ofReceipts taken))
            rest) := by
  intro first second interrupted conditions
  have hscript : Relation.ReflTransGen Interrupts [first, second] interrupted :=
    .tail (.single (.head 4 6 .connectionRefused "nobody there" _ _ rfl))
      (.cons _ (.cons _ (.head 1000000000 5 .connectionReset "gone" _ _ rfl)))
  exact ⟨hscript, @run_interrupted .initial .initial conditions _ _ hscript⟩

end Run

end Probe

end Throughput
