import Throughput.Proofs.Budget
import Throughput.Proofs.Probe.Outcome

/-!
# What a probe run is charged

A run that ends with a result pays for every datagram that it took. A run that is cancelled or fails
pays for none, however much it took before.
-/

namespace Throughput

namespace ProbeTimers

/-- The time at which a probe that hears nothing more comes to its end, which a cancellation may
bring forward. -/
def limitUntil (timers : ProbeTimers) (cancelAt : Option Nat) (heard : List Heard) : Nat :=
  match cancelAt with
  | some time => min time (timers.limit heard)
  | none => timers.limit heard

end ProbeTimers

/-- How a run ends whose probe took `taken` and stopped before `rest`, and what it pays. -/
structure ProbeRun.Pays (run : ProbeRun) (definition : TrainsDefinition) (timers : ProbeTimers)
    (conditions : Conditions) (taken rest : List Receipt) : Prop where
  failed : ∀ receipt cause, rest.head? = some receipt → receipt.fatal? = some cause →
    receipt.time < timers.limitUntil (Probe.cancelTime conditions.cancellation)
      (Heard.ofReceipts taken) →
    run.outcome = .error (.socket cause)
  cancelled : ∀ time, Probe.cancelTime conditions.cancellation = some time →
    time ≤ timers.limit (Heard.ofReceipts taken) → (∀ receipt ∈ rest.head?, time ≤ receipt.time) →
    run.outcome = .error .cancelled
  concluded : (∀ time, Probe.cancelTime conditions.cancellation = some time →
      timers.limit (Heard.ofReceipts taken) < time) →
    (∀ receipt ∈ rest.head?, timers.limit (Heard.ofReceipts taken) ≤ receipt.time) →
    run.outcome = .ok (.ofHeard definition (Heard.ofReceipts taken))
  charged : ∀ result, run.outcome = .ok result →
    run.budget = (conditions.budget.charge (Heard.traffic (Heard.ofReceipts taken))).1
  grows : ∀ result allowance, run.outcome = .ok result → conditions.budget = .limited allowance →
    Heard.traffic (Heard.ofReceipts taken) ≤ allowance.remaining →
    run.budget = .limited
      (allowance.withUsed (allowance.used + Heard.traffic (Heard.ofReceipts taken)))
  free : ∀ e, run.outcome = .error e → run.budget = conditions.budget

namespace Probe

variable {definition : TrainsDefinition} {timers : ProbeTimers} {conditions : Conditions}
  {deliveries : List Delivery} {cancelAt : Option Nat} {iterations : UInt16} {heard : List Heard}

theorem deadline_cancelled {time : Nat} (hbefore : time ≤ timers.limit heard) :
    (ofHeard iterations timers heard).deadline (some time) = (time, .cancelled) :=
  deadline_of_le_timer (by rwa [timer_ofHeard])

theorem deadline_timer (hlater : ∀ time, cancelAt = some time → timers.limit heard < time) :
    (ofHeard iterations timers heard).deadline cancelAt =
      (timers.limit heard, if heard = [] then .inactive else .quiet) := by
  cases cancelAt with
  | none => exact deadline_ofHeard iterations heard
  | some time =>
    have hafter := hlater time rfl
    rw [deadline_of_timer_lt (by rwa [timer_ofHeard]), timer_ofHeard]

theorem deadline_until :
    ((ofHeard iterations timers heard).deadline cancelAt).1 =
      timers.limitUntil cancelAt heard := by
  cases cancelAt with
  | none => rw [deadline_ofHeard, ProbeTimers.limitUntil]
  | some time => rw [deadline_eq_min, timer_ofHeard, ProbeTimers.limitUntil]

section Charge

variable {listening : Listening} {packetSize : Nat} (budget : Budget)

theorem charge_of_ok {result : TrainsResult} (hok : conclude packetSize listening = .ok result) :
    charge budget listening = (budget.charge listening.probe.bytes).1 := by
  rw [conclude] at hok
  rw [charge]
  cases hending : listening.ending with
  | inactive | quiet => rfl
  | cancelled | failed =>
    rw [hending] at hok
    cases hok

theorem charge_of_error {e : MeasureError} (herror : conclude packetSize listening = .error e) :
    charge budget listening = budget := by
  rw [conclude] at herror
  rw [charge]
  cases hending : listening.ending with
  | inactive | quiet =>
    rw [hending] at herror
    cases herror
  | cancelled | failed => rfl

end Charge

/-- A run ends as its probe stops listening. -/
theorem run_listened (definition : TrainsDefinition) (timers : ProbeTimers)
    (deliveries : List Delivery) (hbudget : conditions.budget.exhausted = false)
    {listening : Listening}
    (hlistening : listen timers (cancelTime conditions.cancellation)
      (ofIterations definition.iterations timers) 0 deliveries = listening) :
    (run definition timers conditions deliveries).outcome =
        conclude definition.packetSize.toNat listening ∧
      (run definition timers conditions deliveries).budget =
        charge conditions.budget listening := by
  subst hlistening
  simp only [run, hbudget]
  exact ⟨rfl, rfl⟩

section Ending

variable {listening : Listening} {rest : List Receipt}
  (hends : listening.EndsWith (ofHeard definition.iterations timers heard) cancelAt rest)
include hends

theorem conclude_failed {receipt : Receipt} {cause : String} (hhead : rest.head? = some receipt)
    (hfatal : receipt.fatal? = some cause)
    (htimely : receipt.time < timers.limitUntil cancelAt heard) :
    conclude definition.packetSize.toNat listening = .error (.socket cause) := by
  rw [← deadline_until] at htimely
  rw [conclude, (hends.failed receipt cause hhead hfatal htimely).2]

theorem conclude_cancelled {time : Nat} (hcancel : cancelAt = some time)
    (hbefore : time ≤ timers.limit heard) (hlate : ∀ receipt ∈ rest.head?, time ≤ receipt.time) :
    conclude definition.packetSize.toNat listening = .error .cancelled := by
  have hexpired := hends.expired
  rw [hcancel, deadline_cancelled hbefore] at hexpired
  rw [conclude, (hexpired hlate).2]

theorem conclude_timer (hlater : ∀ time, cancelAt = some time → timers.limit heard < time)
    (hlate : ∀ receipt ∈ rest.head?, timers.limit heard ≤ receipt.time) :
    conclude definition.packetSize.toNat listening = .ok (.ofHeard definition heard) := by
  have hexpired := hends.expired
  rw [deadline_timer hlater] at hexpired
  exact conclude_of_timer hends.reached (hexpired hlate).2

end Ending

variable (definition timers conditions) in
/-- Listening to a script from the start. -/
def listened (deliveries : List Delivery) : Listening :=
  listen timers (cancelTime conditions.cancellation) (ofIterations definition.iterations timers) 0
    deliveries

theorem exists_hears (definition : TrainsDefinition) (timers : ProbeTimers)
    (conditions : Conditions) (deliveries : List Delivery) :
    ∃ taken rest,
      Hears (timers.limitUntil (cancelTime conditions.cancellation))
        (Receipt.ofDeliveries 0 deliveries) taken rest ∧
      (listened definition timers conditions deliveries).EndsWith
        (ofHeard definition.iterations timers (Heard.ofReceipts taken))
        (cancelTime conditions.cancellation) rest := by
  have hstart : 0 ≤ ((ofHeard definition.iterations timers []).deadline
      (cancelTime conditions.cancellation)).1 := Nat.zero_le _
  obtain ⟨taken, rest, hhears, hends⟩ := listen_ofHeard deliveries [] 0 hstart
  simp only [List.nil_append, deadline_until, ofHeard_nil] at hhears hends
  exact ⟨taken, rest, hhears, hends⟩

theorem exists_listening (hbudget : conditions.budget.exhausted = false) :
    ∃ taken rest listening,
      Hears (timers.limitUntil (cancelTime conditions.cancellation))
        (Receipt.ofDeliveries 0 deliveries) taken rest ∧
      listening.EndsWith (ofHeard definition.iterations timers (Heard.ofReceipts taken))
        (cancelTime conditions.cancellation) rest ∧
      (run definition timers conditions deliveries).outcome =
        conclude definition.packetSize.toNat listening ∧
      (run definition timers conditions deliveries).budget =
        charge conditions.budget listening := by
  obtain ⟨taken, rest, hhears, hends⟩ := exists_hears definition timers conditions deliveries
  exact ⟨taken, rest, _, hhears, hends, run_listened definition timers deliveries hbudget rfl⟩

theorem admitted_of_ok {result : TrainsResult}
    (hok : (run definition timers conditions deliveries).outcome = .ok result) :
    conditions.budget.exhausted = false := by
  rw [run] at hok
  split at hok
  · cases hok
  · next hbudget => exact Bool.eq_false_iff.mpr hbudget

theorem run_budget_of_ok {taken rest : List Receipt} {result : TrainsResult}
    (hhears : Hears (timers.limitUntil (cancelTime conditions.cancellation))
      (Receipt.ofDeliveries 0 deliveries) taken rest)
    (hok : (run definition timers conditions deliveries).outcome = .ok result) :
    (run definition timers conditions deliveries).budget =
      (conditions.budget.charge (Heard.traffic (Heard.ofReceipts taken))).1 := by
  obtain ⟨taken', rest', listening, hhears', hends, houtcome, hpaid⟩ :=
    exists_listening (admitted_of_ok hok)
  obtain rfl : taken' = taken := hhears.unique hhears'
  rw [hpaid, charge_of_ok _ (houtcome.symm.trans hok), hends.reached]
  rfl

/-- A run pays for exactly what it took if it ends with a result, and for nothing if it is cancelled
or fails. -/
theorem run_pays (hbudget : conditions.budget.exhausted = false) :
    ∃ taken rest,
      Hears (timers.limitUntil (cancelTime conditions.cancellation))
        (Receipt.ofDeliveries 0 deliveries) taken rest ∧
      (run definition timers conditions deliveries).Pays definition timers conditions taken
        rest := by
  obtain ⟨taken, rest, listening, hhears, hends, houtcome, hpaid⟩ := exists_listening hbudget
  have hcharged : ∀ result, (run definition timers conditions deliveries).outcome = .ok result →
      (run definition timers conditions deliveries).budget =
        (conditions.budget.charge (Heard.traffic (Heard.ofReceipts taken))).1 :=
    fun _ => run_budget_of_ok hhears
  refine ⟨taken, rest, hhears, ?_, ?_, ?_, hcharged, ?_, ?_⟩
  · intro receipt cause hhead hfatal htimely
    exact houtcome.trans (conclude_failed hends hhead hfatal htimely)
  · intro time hcancel hbefore hlate
    exact houtcome.trans (conclude_cancelled hends hcancel hbefore hlate)
  · intro hlater hlate
    exact houtcome.trans (conclude_timer hends hlater hlate)
  · intro result allowance hok hlimited hfits
    rw [hcharged result hok, hlimited]
    exact Budget.charge_limited_of_le hfits
  · intro e herror
    rw [hpaid, charge_of_error _ (houtcome.symm.trans herror)]

/-- A probe that is cancelled between two datagrams. -/
theorem run_pays_cancelled :
    (Budget.limited (.ofAvailable 1000)).exhausted = false ∧
      ∃ taken rest,
        Hears (ProbeTimers.initial.limitUntil (some 500))
          (Receipt.ofDeliveries 0 [⟨0, .datagram (TrainRecord.encode ⟨0, 0, 0⟩ 12)⟩,
            ⟨900, .datagram (TrainRecord.encode ⟨0, 0, 1⟩ 12)⟩]) taken rest ∧
        (run .initial .initial ⟨.limited (.ofAvailable 1000), .after 500, true⟩
          [⟨0, .datagram (TrainRecord.encode ⟨0, 0, 0⟩ 12)⟩,
            ⟨900, .datagram (TrainRecord.encode ⟨0, 0, 1⟩ 12)⟩]).Pays .initial .initial
          ⟨.limited (.ofAvailable 1000), .after 500, true⟩ taken rest :=
  ⟨rfl, @run_pays .initial .initial ⟨.limited (.ofAvailable 1000), .after 500, true⟩ _ rfl⟩

/-- A datagram that came before the cancellation is not paid for. -/
theorem not_run_pays_always :
    ¬ ∀ (definition : TrainsDefinition) (timers : ProbeTimers) (conditions : Conditions)
        (deliveries : List Delivery) (taken rest : List Receipt),
      conditions.budget.exhausted = false →
      Hears (timers.limitUntil (cancelTime conditions.cancellation))
        (Receipt.ofDeliveries 0 deliveries) taken rest →
      (run definition timers conditions deliveries).budget =
        (conditions.budget.charge (Heard.traffic (Heard.ofReceipts taken))).1 := by
  intro hpays
  let datagram := TrainRecord.encode ⟨0, 0, 0⟩ 12
  let conditions : Conditions := ⟨.limited (.ofAvailable 1000), .after 500000000, true⟩
  have hhears : Hears (ProbeTimers.initial.limitUntil (some 500000000))
      (Receipt.ofDeliveries 0 [⟨0, .datagram datagram⟩]) [⟨0, .datagram datagram⟩] [] :=
    .cons rfl (by decide) (.of_stop (by simp [Receipt.ofDeliveries]))
  have htraffic : Heard.traffic (Heard.ofReceipts [⟨0, .datagram datagram⟩]) = 12 := by decide
  have hfree : (run .initial .initial conditions [⟨0, .datagram datagram⟩]).budget =
      .limited (.ofAvailable 1000) := by
    refine (run_listened .initial .initial [⟨0, .datagram datagram⟩] rfl rfl).2.trans ?_
    dsimp only [conditions, datagram]
    cbv
  have hcharged := hpays .initial .initial conditions [⟨0, .datagram datagram⟩] _ _ rfl hhears
  rw [hfree, htraffic] at hcharged
  revert hcharged
  decide

end Probe

end Throughput
