import Throughput.Proofs.Cancellation

/-!
# Runs that are turned away

A run is turned away at its door if the budget is used up, if it was cancelled beforehand, or, for a
download, if its host has no address. The first of these reasons is the one that counts. Such a run
takes no time, opens and reads nothing, and leaves the budget as it was. Any other run goes in.
-/

namespace Throughput

/-- A run that ended before it had done anything. -/
structure Run.TurnedAway {α : Type} (run : Run α) (e : MeasureError) (budget : Budget) : Prop where
  outcome : run.outcome = .error e
  elapsed : run.elapsed = 0
  untouched : run.budget = budget

/-- No connection was opened and no request was sent. -/
structure DownloadRun.TurnedAway (run : DownloadRun) (e : MeasureError) (budget : Budget) : Prop
    extends Run.TurnedAway run.toRun e budget where
  accepted : run.accepted = 0
  request : run.request = none

/-- No datagram was asked for. -/
structure ProbeRun.TurnedAway (run : ProbeRun) (e : MeasureError) (budget : Budget) : Prop
    extends Run.TurnedAway run.toRun e budget where
  polled : run.polled = []
  states : run.states = [.idle, .finished]

/-- A name that cannot be looked up, or has no address. -/
def Resolution.Fails (resolution : Resolution) (cause : String) : Prop :=
  resolution = .error cause ∨ resolution = .ok [] ∧ cause = "no addresses"

namespace Download

theorem resolve_of_fails {resolution : Resolution} {cause : String} (h : resolution.Fails cause)
    (target : Target) : resolve target resolution = .error (.resolution target.host cause) := by
  rcases h with rfl | ⟨rfl, rfl⟩ <;> rfl

/-- Which downloads are turned away and why, in the order of the reasons. -/
structure Screened (definition : DownloadDefinition) (target : Target) (surroundings : Surroundings)
    (conditions : Conditions) : Prop where
  exhausted : conditions.budget.exhausted = true →
    (run definition target surroundings conditions).TurnedAway
      (.budgetExhausted conditions.budget.remaining) conditions.budget
  cancelled : conditions.budget.exhausted = false → conditions.cancellation = .beforeStart →
    (run definition target surroundings conditions).TurnedAway .cancelled conditions.budget
  unresolved : conditions.budget.exhausted = false → conditions.cancellation ≠ .beforeStart →
    ∀ cause, surroundings.resolution.Fails cause →
      (run definition target surroundings conditions).TurnedAway (.resolution target.host cause)
        conditions.budget
  admitted : conditions.budget.exhausted = false → conditions.cancellation ≠ .beforeStart →
    ∀ address others, surroundings.resolution = .ok (address :: others) →
      surroundings.network.accepts address = true →
      (run definition target surroundings conditions).accepted = definition.threads.toNat ∧
        (run definition target surroundings conditions).request.isSome = true

theorem turnedAway_unstarted (conditions : Conditions) (e : MeasureError) :
    (unstarted conditions e).TurnedAway e conditions.budget :=
  { outcome := rfl, elapsed := rfl, untouched := rfl, accepted := rfl, request := rfl }

theorem screened (definition : DownloadDefinition) (target : Target) (surroundings : Surroundings)
    (conditions : Conditions) : Screened definition target surroundings conditions := by
  refine ⟨fun hspent => ?_, fun hopen hcancel => ?_, fun hopen hcancel cause hfails => ?_,
    fun hopen hcancel address others hresolution haccepts => ?_⟩
  · rw [run, runDialed, if_pos hspent]
    exact { outcome := rfl, elapsed := rfl, untouched := rfl, accepted := rfl, request := rfl }
  · rw [run, runDialed, if_neg (Bool.eq_false_iff.mp hopen), if_pos hcancel]
    exact turnedAway_unstarted conditions .cancelled
  · rw [run, runDialed, if_neg (Bool.eq_false_iff.mp hopen), if_neg hcancel,
      resolve_of_fails hfails]
    exact turnedAway_unstarted conditions _
  · have hresolve : resolve target surroundings.resolution = .ok address := by
      rw [hresolution]
      rfl
    have hrun := @run_eq_ended definition _ _ _ _ hopen hcancel conditions.observed _ hresolve
    rw [haccepts] at hrun
    change run definition target surroundings conditions = _ at hrun
    rw [hrun]
    have hopened : Handshake.failed
        (Dialing.prompt.handshakes definition.threads.toNat true) = false := by
      rw [handshakes_prompt, Handshake.failed]
      cases definition.threads.toNat <;> simp
    constructor
    · simp [ended, handshakes_prompt, List.countP_replicate]
    · simp [ended, hopened, latest_prompt]

end Download

namespace Probe

/-- A probe that may still listen for a while asks for a datagram. -/
theorem head?_polled_listen {timers : ProbeTimers} {cancelAt : Option Nat} {probe : Probe}
    {now : Nat} (deliveries : List Delivery) (hopen : now < (probe.deadline cancelAt).1) :
    (listen timers cancelAt probe now deliveries).polled.head? = some probe.state := by
  have hexpire : (probe.expire cancelAt now).polled.head? = some probe.state := by
    rw [expire_eq, if_neg (Nat.not_le.mpr hopen)]
    rfl
  cases deliveries with
  | nil => exact hexpire
  | cons delivery deliveries =>
    rw [listen]
    split
    · exact hexpire
    · split
      · rfl
      · split <;> rfl

theorem deadline_pos (iterations : UInt16) (timers : ProbeTimers) {cancelAt : Option Nat}
    (hcancel : cancelAt ≠ some 0) : 0 < ((ofIterations iterations timers).deadline cancelAt).1 := by
  have htimer : 0 < (ofIterations iterations timers).timer.1 :=
    Nat.zero_lt_of_lt timers.quiet_lt_inactivity
  cases cancelAt with
  | none => exact htimer
  | some time =>
    rw [deadline_eq_min]
    exact Nat.lt_min.mpr ⟨Nat.pos_of_ne_zero fun hzero => hcancel (congrArg some hzero), htimer⟩

/-- A cancellation at the start comes before anything else, even a datagram of the same instant. -/
theorem listen_cancelled (probe : Probe) (timers : ProbeTimers) (deliveries : List Delivery) :
    listen timers (some 0) probe 0 deliveries = ⟨probe, [], 0, .cancelled⟩ := by
  have hdeadline := deadline_of_le_timer (Nat.zero_le probe.timer.1)
  have hlate : ∀ delivery ∈ deliveries.head?, (probe.deadline (some 0)).1 ≤ 0 + delivery.delay := by
    intro delivery _
    rw [hdeadline]
    exact Nat.zero_le _
  rw [listen_eq_expire hlate, expire_eq, hdeadline]
  rfl

/-- Which probes are turned away and why, in the order of the reasons. -/
structure Screened (definition : TrainsDefinition) (timers : ProbeTimers) (conditions : Conditions)
    (deliveries : List Delivery) : Prop where
  exhausted : conditions.budget.exhausted = true →
    (run definition timers conditions deliveries).TurnedAway
      (.budgetExhausted conditions.budget.remaining) conditions.budget
  cancelled : conditions.budget.exhausted = false → conditions.cancellation = .beforeStart →
    (run definition timers conditions deliveries).TurnedAway .cancelled conditions.budget
  admitted : conditions.budget.exhausted = false → cancelTime conditions.cancellation ≠ some 0 →
    (run definition timers conditions deliveries).polled.head? = some .idle

theorem screened (definition : TrainsDefinition) (timers : ProbeTimers) (conditions : Conditions)
    (deliveries : List Delivery) : Screened definition timers conditions deliveries := by
  have hrun (hopen : conditions.budget.exhausted = false) :=
    run_eq_ended hopen definition timers conditions.cancellation conditions.observed deliveries
  change _ → run definition timers conditions deliveries = _ at hrun
  refine ⟨fun hspent => ?_, fun hopen hcancel => ?_, fun hopen hcancel => ?_⟩
  · rw [run, if_pos hspent]
    exact { outcome := rfl, elapsed := rfl, untouched := rfl, polled := rfl, states := rfl }
  · rw [hrun hopen, hcancel, cancelTime, listen_cancelled]
    exact { outcome := rfl, elapsed := rfl, untouched := rfl, polled := rfl, states := rfl }
  · rw [hrun hopen]
    exact head?_polled_listen deliveries (deadline_pos definition.iterations timers hcancel)

end Probe

/-- A run of either engine that is turned away leaves everything as it was. -/
theorem runs_screened (conditions : Conditions) :
    (∀ definition target surroundings,
      Download.Screened definition target surroundings conditions) ∧
    ∀ definition timers deliveries, Probe.Screened definition timers conditions deliveries :=
  ⟨fun definition target surroundings =>
      Download.screened definition target surroundings conditions,
    fun definition timers deliveries => Probe.screened definition timers conditions deliveries⟩

/-- The budget is named even where the run was cancelled too and the host has no address. -/
theorem runs_screened_all_reasons :
    let target : Target := ⟨"::1", 80, "/"⟩
    let surroundings : Surroundings :=
      ⟨.ok [], .ideal, [[⟨100, .send 1000⟩]], 1000000000, ⟨2024, 1, 1, 12, 0, 0, 0⟩⟩
    let spent : Budget := .limited ⟨500, 700, true⟩
    spent.exhausted = true ∧ surroundings.resolution.Fails "no addresses" ∧
      (Download.run .initial target surroundings ⟨spent, .beforeStart, true⟩).TurnedAway
        (.budgetExhausted 0) spent ∧
      (Download.run .initial target surroundings ⟨.unlimited, .beforeStart, true⟩).TurnedAway
        .cancelled .unlimited ∧
      (Download.run .initial target surroundings ⟨.unlimited, .never, true⟩).TurnedAway
        (.resolution "::1" "no addresses") .unlimited ∧
      (Probe.run .initial .initial ⟨spent, .beforeStart, true⟩ [⟨0, .datagram [1]⟩]).TurnedAway
        (.budgetExhausted 0) spent := by
  intro target surroundings spent
  have hfails : surroundings.resolution.Fails "no addresses" := .inr ⟨rfl, rfl⟩
  have hspent := runs_screened ⟨spent, .beforeStart, true⟩
  exact ⟨rfl, hfails, (hspent.1 .initial target surroundings).exhausted rfl,
    ((runs_screened ⟨.unlimited, .beforeStart, true⟩).1 .initial target surroundings).cancelled
      rfl rfl,
    ((runs_screened ⟨.unlimited, .never, true⟩).1 .initial target surroundings).unresolved
      rfl Cancellation.noConfusion "no addresses" hfails,
    (hspent.2 .initial .initial [⟨0, .datagram [1]⟩]).exhausted rfl⟩

end Throughput
