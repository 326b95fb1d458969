import Throughput.Proofs.Probe.Listening

/-!
# The outcome of a probe run

A run that is not cancelled is told by its receipts alone: which ones are taken, how it ends, when
it ends, and which rates it reports.
-/

namespace Throughput

def TrainsResult.ofHeard (definition : TrainsDefinition) (heard : List Heard) : TrainsResult :=
  .ofRates <| (List.range definition.iterations.toNat).map fun index =>
    .ofTrain (Buckets.trainOf (Heard.records heard) index) definition.packetSize.toNat

theorem TrainsResult.ofHeard_nil (definition : TrainsDefinition) :
    ofHeard definition [] = .none := by
  have hempty : ((List.range definition.iterations.toNat).map fun index =>
      TrainRate.ofTrain (Buckets.trainOf (Heard.records []) index) definition.packetSize.toNat) =
        List.replicate definition.iterations.toNat .empty := by
    rw [List.eq_replicate_iff]
    simp [Heard.records, TrainRate.ofTrain]
  rw [ofHeard, hempty]
  simp [ofRates, TrainRate.rates?, none]

/-- What a run comes to whose probe took `taken` and stopped before `rest`. -/
structure ProbeRun.Answers (run : ProbeRun) (definition : TrainsDefinition) (timers : ProbeTimers)
    (taken rest : List Receipt) : Prop where
  failed : ∀ receipt cause, rest.head? = some receipt → receipt.fatal? = some cause →
    receipt.time < timers.limit (Heard.ofReceipts taken) →
      run.outcome = .error (.socket cause) ∧ run.elapsed = receipt.time
  evaluated : (∀ receipt ∈ rest.head?, timers.limit (Heard.ofReceipts taken) ≤ receipt.time) →
    run.outcome = .ok (.ofHeard definition (Heard.ofReceipts taken)) ∧
      run.elapsed = timers.limit (Heard.ofReceipts taken)
  silent : ∀ result, Heard.ofReceipts taken = [] → run.outcome = .ok result →
    result = .none ∧ run.elapsed = timers.inactivity

namespace Probe

variable {definition : TrainsDefinition} {timers : ProbeTimers} {conditions : Conditions}
  {deliveries : List Delivery}

theorem deadline_ofHeard (iterations : UInt16) (heard : List Heard) :
    (ofHeard iterations timers heard).deadline none =
      (timers.limit heard, if heard = [] then .inactive else .quiet) := by
  rw [deadline, timer_ofHeard]

def listening (definition : TrainsDefinition) (timers : ProbeTimers) (deliveries : List Delivery) :
    Listening :=
  listen timers none (ofIterations definition.iterations timers) 0 deliveries

theorem run_outcome (hbudget : conditions.budget.exhausted = false)
    (hcancel : conditions.cancellation = .never) :
    (run definition timers conditions deliveries).outcome =
      conclude definition.packetSize.toNat (listening definition timers deliveries) := by
  simp [run, hbudget, hcancel, cancelTime, listening, Run.close]

theorem run_elapsed (hbudget : conditions.budget.exhausted = false)
    (hcancel : conditions.cancellation = .never) :
    (run definition timers conditions deliveries).elapsed =
      (listening definition timers deliveries).time := by
  simp [run, hbudget, hcancel, cancelTime, listening, Run.close]

theorem rates_ofHeard (timers : ProbeTimers) (heard : List Heard) :
    TrainsResult.ofRates
        ((ofHeard definition.iterations timers heard).buckets.rates definition.packetSize.toNat) =
      .ofHeard definition heard := by
  rw [ofHeard, Buckets.insertAll_ofIterations, Buckets.rates, List.map_map]
  rfl

theorem conclude_of_timer {listening : Listening} {heard : List Heard}
    (hreached : listening.probe = ofHeard definition.iterations timers heard)
    (hending : listening.ending = if heard = [] then .inactive else .quiet) :
    conclude definition.packetSize.toNat listening = .ok (.ofHeard definition heard) := by
  rw [← rates_ofHeard timers, ← hreached, conclude, hending]
  by_cases hheard : heard = [] <;> simp [hheard]

section Ending

variable {heard : List Heard} {rest : List Receipt}
  (hends : (listening definition timers deliveries).EndsWith
    (ofHeard definition.iterations timers heard) none rest)

include hends

theorem listening_failed {receipt : Receipt} {cause : String} (hhead : rest.head? = some receipt)
    (hfatal : receipt.fatal? = some cause) (htimely : receipt.time < timers.limit heard) :
    (listening definition timers deliveries).time = receipt.time ∧
      (listening definition timers deliveries).ending = .failed cause := by
  refine hends.failed receipt cause hhead hfatal ?_
  rwa [deadline_ofHeard]

theorem listening_expired (hlate : ∀ receipt ∈ rest.head?, timers.limit heard ≤ receipt.time) :
    (listening definition timers deliveries).time = timers.limit heard ∧
      (listening definition timers deliveries).ending =
        if heard = [] then .inactive else .quiet := by
  have hexpired := hends.expired
  rw [deadline_ofHeard] at hexpired
  exact hexpired hlate

theorem conclude_expired (hlate : ∀ receipt ∈ rest.head?, timers.limit heard ≤ receipt.time) :
    conclude definition.packetSize.toNat (listening definition timers deliveries) =
      .ok (.ofHeard definition heard) :=
  conclude_of_timer hends.reached (listening_expired hends hlate).2

end Ending

end Probe

end Throughput
