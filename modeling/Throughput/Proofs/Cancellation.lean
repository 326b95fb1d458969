import Throughput.Proofs.Download.Cutting
import Throughput.Proofs.Probe.Cutting

/-!
# Cancelling a run

A cancellation is a clean cut. A run that ends before it is as if nobody had cancelled it. Any other
run ends with it at once, and nothing that would have come later has any part in its answer.
-/

namespace Throughput

/-- A run that was cut off at some time, as its caller and its observer see it. -/
structure Run.CutOff {α : Type} (run : Run α) (observed : Bool) (time : Nat) : Prop where
  outcome : run.outcome = .error .cancelled
  elapsed : run.elapsed = time
  events : run.journal.events =
    if observed then
      [.statusChanged .running, .started, .statusChanged .error, .error "measurement cancelled"]
    else []

theorem Run.cutOff_close {α : Type} (wrap : α → MeasurementResult) (left : Budget)
    (observed : Bool) (time : Nat) :
    (close wrap (.error .cancelled) time left (Journal.ofObserved observed).start).CutOff
      observed time :=
  ⟨rfl, rfl, by cases observed <;> rfl⟩

namespace Probe

/-- A probe under an open budget that listened so long. -/
def ended (definition : TrainsDefinition) (budget : Budget) (observed : Bool)
    (listening : Listening) : ProbeRun :=
  { Run.close .trains (conclude definition.packetSize.toNat listening) listening.time
      (charge budget listening) (Journal.ofObserved observed).start with
    states := statesOf listening
    polled := listening.polled }

theorem finalState_ended (definition : TrainsDefinition) (budget : Budget) (observed : Bool)
    (listening : Listening) : (ended definition budget observed listening).finalState = .finished :=
  List.getLastD_concat

theorem statesOf_untimed (listening : Listening) :
    statesOf listening.untimed = statesOf listening := by
  have hsame : evaluates listening.untimed = evaluates listening := rfl
  rw [statesOf, statesOf, hsame]
  cases evaluates listening <;> rfl

/-- The timers of a probe have no part in its answer. -/
theorem ended_untimed (definition : TrainsDefinition) (budget : Budget) (observed : Bool)
    (listening : Listening) :
    ended definition budget observed listening.untimed =
      ended definition budget observed listening := by
  rw [ended, statesOf_untimed]
  rfl

/-- A probe that is cancelled at some time, or not at all. -/
structure CutsCleanly (definition : TrainsDefinition) (timers : ProbeTimers)
    (deliveries : List Delivery) (budget : Budget) (observed : Bool) (time : Nat) : Prop where
  kept : (run definition timers ⟨budget, .never, observed⟩ deliveries).elapsed < time →
    run definition timers ⟨budget, .after time, observed⟩ deliveries =
      run definition timers ⟨budget, .never, observed⟩ deliveries
  cut : time ≤ (run definition timers ⟨budget, .never, observed⟩ deliveries).elapsed →
    (run definition timers ⟨budget, .after time, observed⟩ deliveries).CutOff observed time ∧
      (run definition timers ⟨budget, .after time, observed⟩ deliveries).finalState = .finished
  blind : ∀ (others : ProbeTimers) (later : List Delivery),
    SameUntil time timers.inactivity others.inactivity →
    SameUntil time timers.quiet others.quiet →
    Receipt.upTo time (Receipt.ofDeliveries 0 deliveries) =
      Receipt.upTo time (Receipt.ofDeliveries 0 later) →
    run definition timers ⟨budget, .after time, observed⟩ deliveries =
      run definition others ⟨budget, .after time, observed⟩ later

theorem run_eq_ended {budget : Budget} (hbudget : budget.exhausted = false)
    (definition : TrainsDefinition) (timers : ProbeTimers) (cancellation : Cancellation)
    (observed : Bool) (deliveries : List Delivery) :
    run definition timers ⟨budget, cancellation, observed⟩ deliveries =
      ended definition budget observed (listen timers (cancelTime cancellation)
        (.ofIterations definition.iterations timers) 0 deliveries) :=
  if_neg (by rw [hbudget]; exact Bool.false_ne_true)

theorem cutsCleanly {budget : Budget} (hbudget : budget.exhausted = false)
    (definition : TrainsDefinition) (timers : ProbeTimers) (deliveries : List Delivery)
    (observed : Bool) (time : Nat) :
    CutsCleanly definition timers deliveries budget observed time := by
  have hcut : Listening.CutAt time _ _ :=
    @cutAt_listen (.ofIterations definition.iterations timers) 0 time timers deliveries
      (Nat.zero_le _) (Nat.zero_le _)
  refine ⟨?_, ?_, ?_⟩ <;> simp only [run_eq_ended hbudget, cancelTime]
  · intro hbefore
    rw [hcut.kept hbefore]
  · intro hafter
    obtain ⟨htime, hending⟩ := hcut.cancelled hafter
    refine ⟨?_, finalState_ended ..⟩
    rw [ended, conclude, hending, htime]
    exact Run.cutOff_close _ _ _ _
  · intro others later hinactivity hquiet hsame
    have halike := alike_ofIterations definition.iterations hinactivity
    rw [← ended_untimed, halike.listen hquiet hsame, ended_untimed]

end Probe

namespace Action

/-- What is done up to some time. -/
def upTo (time : Nat) (actions : List Action) : List Action :=
  actions.filter fun action => action.time ≤ time

end Action

namespace Agenda

theorem ofScripts_take (workers : Nat) (scripts : List (List Action)) :
    ofScripts (scripts.take workers) =
      (List.range workers).flatMap fun id => ofActions id (scripts[id]?.getD []) := by
  induction workers with
  | zero => rfl
  | succ workers ih =>
    rw [List.range_succ, List.flatMap_append, ← ih, List.take_add_one, ofScripts, ofScripts,
      List.zipIdx_append, List.flatMap_append]
    congr 1
    cases hscript : scripts[workers]? with
    | none => simp [ofActions, hscript]
    | some actions =>
      obtain ⟨hlt, -⟩ := List.getElem?_eq_some_iff.mp hscript
      simp [Nat.min_eq_left (Nat.le_of_lt hlt), hscript]

theorem upTo_ofActions (id time : Nat) (actions : List Action) :
    (ofActions id actions).upTo time = ofActions id (Action.upTo time actions) := by
  refine filter_keys_flatMap (fun action appointment hmem => ?_) (· ≤ time) actions
  obtain ⟨reading, -, rfl⟩ := List.mem_map.mp hmem
  rfl

theorem upTo_ofScripts {workers time : Nat} {left right : List (List Action)}
    (hsame : ∀ id < workers,
      Action.upTo time (left[id]?.getD []) = Action.upTo time (right[id]?.getD [])) :
    (ofScripts (left.take workers)).upTo time = (ofScripts (right.take workers)).upTo time := by
  rw [ofScripts_take, ofScripts_take, upTo, upTo, List.filter_flatMap, List.filter_flatMap]
  refine List.flatMap_congr fun id hmem => ?_
  change (ofActions id _).upTo time = (ofActions id _).upTo time
  rw [upTo_ofActions, upTo_ofActions, hsame id (List.mem_range.mp hmem)]

theorem upTo_forAll {time left right : Nat} (hsame : SameUntil time left right)
    (workers : List Nat) (happening : Happening) :
    (forAll workers left happening).upTo time = (forAll workers right happening).upTo time := by
  rcases hsame with rfl | ⟨hleft, hright⟩
  · rfl
  · have hnone : ∀ moment, time < moment → (forAll workers moment happening).upTo time = [] := by
      intro moment hlate
      rw [upTo, List.filter_eq_nil_iff]
      intro appointment hmem
      obtain ⟨id, -, rfl⟩ := List.mem_map.mp hmem
      simpa using hlate
    rw [hnone left hleft, hnone right hright]

end Agenda

/-- Surroundings that differ at most in what happens after some time. -/
structure Surroundings.AgreesUntil (time : Nat) (left right : Surroundings) : Prop where
  resolution : left.resolution = right.resolution
  network : left.network = right.network
  clock : left.clock = right.clock
  scripts : ∀ id : Nat,
    Action.upTo time (left.scripts[id]?.getD []) = Action.upTo time (right.scripts[id]?.getD [])
  firstByteTimeout : SameUntil time left.firstByteTimeout right.firstByteTimeout

theorem Surroundings.AgreesUntil.upTo_plan {time : Nat} {left right : Surroundings}
    (h : left.AgreesUntil time right) (workers : Nat) :
    (left.plan workers).upTo time = (right.plan workers).upTo time := by
  have hsort (agenda : Agenda) : agenda.sort.upTo time = (agenda.upTo time).sort :=
    filter_keys_sortBy (· ≤ time) agenda
  have htimeouts :
      (Agenda.forAll (List.range workers) left.firstByteTimeout (.read .timeout)).upTo time =
        (Agenda.forAll (List.range workers) right.firstByteTimeout (.read .timeout)).upTo time :=
    Agenda.upTo_forAll h.firstByteTimeout _ _
  have hscripts : (Agenda.ofScripts (left.scripts.take workers)).upTo time =
      (Agenda.ofScripts (right.scripts.take workers)).upTo time :=
    Agenda.upTo_ofScripts fun id _ => h.scripts id
  rw [Surroundings.plan, Surroundings.plan, Agenda.plan, Agenda.plan, hsort, hsort]
  simp only [Agenda.upTo, List.filter_append] at htimeouts hscripts ⊢
  rw [htimeouts, hscripts]

namespace Download

/-- A download that is cancelled at some time, or not at all. -/
structure CutsCleanly (definition : DownloadDefinition) (target : Target)
    (surroundings : Surroundings) (budget : Budget) (observed : Bool) (time : Nat) : Prop where
  kept : (run definition target surroundings ⟨budget, .never, observed⟩).elapsed ≤ time →
    run definition target surroundings ⟨budget, .after time, observed⟩ =
      run definition target surroundings ⟨budget, .never, observed⟩
  cut : time < (run definition target surroundings ⟨budget, .never, observed⟩).elapsed →
    (run definition target surroundings ⟨budget, .after time, observed⟩).CutOff observed time
  stopped : time < (run definition target surroundings ⟨budget, .never, observed⟩).elapsed →
    ∃ address, resolve target surroundings.resolution = .ok address ∧
      surroundings.network.accepts address = true ∧
      (carry definition surroundings true (.after time)).reports.map Worker.id =
        List.range definition.threads.toNat ∧
      ∀ worker ∈ (carry definition surroundings true (.after time)).reports,
        worker.holdsStream = false ∧ worker.state ≠ .downloading
  blind : ∀ others : Surroundings, surroundings.AgreesUntil time others →
    run definition target surroundings ⟨budget, .after time, observed⟩ =
      run definition target others ⟨budget, .after time, observed⟩

section CutsCleanly

variable {definition : DownloadDefinition} {target : Target} {surroundings : Surroundings}
  {budget : Budget} {observed : Bool} {time : Nat}

/-- Nothing is left to cancel of a run that ends as it starts. -/
theorem CutsCleanly.of_instant
    (hinstant : (run definition target surroundings ⟨budget, .never, observed⟩).elapsed = 0)
    (hsame : run definition target surroundings ⟨budget, .after time, observed⟩ =
      run definition target surroundings ⟨budget, .never, observed⟩)
    (hblind : ∀ others : Surroundings, surroundings.AgreesUntil time others →
      run definition target surroundings ⟨budget, .after time, observed⟩ =
        run definition target others ⟨budget, .after time, observed⟩) :
    CutsCleanly definition target surroundings budget observed time where
  kept := fun _ => hsame
  cut := fun hlonger => absurd (hinstant ▸ hlonger) (Nat.not_lt_zero time)
  stopped := fun hlonger => absurd (hinstant ▸ hlonger) (Nat.not_lt_zero time)
  blind := hblind

end CutsCleanly

theorem carry_blind {time : Nat} {left right : Surroundings} (h : left.AgreesUntil time right)
    {definition : DownloadDefinition} (hworkers : 0 < definition.threads.toNat) (accepted : Bool) :
    carry definition left accepted (.after time) =
      carry definition right accepted (.after time) := by
  rw [carry_after hworkers, carry_after hworkers, h.upTo_plan]

theorem ended_congr {left right : Surroundings} (hclock : left.clock = right.clock)
    (definition : DownloadDefinition) (target : Target) (handshakes : List Handshake)
    (budget : Budget) (observed : Bool) (ending : DownloadEnd) :
    ended definition target left handshakes budget observed ending =
      ended definition target right handshakes budget observed ending := by
  simp only [ended, hclock]

section Open

variable {definition : DownloadDefinition} {target : Target} {surroundings : Surroundings}
  {budget : Budget} {cancellation : Cancellation} (hbudget : budget.exhausted = false)
  (hcancel : cancellation ≠ .beforeStart) (observed : Bool)
include hbudget hcancel

theorem run_eq_unstarted (definition : DownloadDefinition) {e : MeasureError}
    (hresolve : resolve target surroundings.resolution = .error e) :
    run definition target surroundings ⟨budget, cancellation, observed⟩ =
      unstarted ⟨budget, .never, observed⟩ e := by
  simp only [run, runDialed, hbudget, hcancel, hresolve, Bool.false_eq_true, if_false]
  rfl

theorem run_eq_ended {address : Address.Socket}
    (hresolve : resolve target surroundings.resolution = .ok address) :
    run definition target surroundings ⟨budget, cancellation, observed⟩ =
      ended definition target surroundings
        (Dialing.prompt.handshakes definition.threads.toNat (surroundings.network.accepts address))
        budget observed
        (carry definition surroundings (surroundings.network.accepts address) cancellation) :=
  runDialed_eq_ended hresolve hbudget hcancel .prompt

end Open

/-- A run that is cut off has all its workers stopped, and a report of each of them. -/
theorem stopped_carried (definition : DownloadDefinition) (done : Agenda) (time : Nat)
    (windowStart : Except MeasureError Nat) :
    (DownloadEnd.reports ⟨carried definition done, time, windowStart⟩).map Worker.id =
        List.range definition.threads.toNat ∧
      ∀ worker ∈ DownloadEnd.reports ⟨carried definition done, time, windowStart⟩,
        worker.holdsStream = false ∧ worker.state ≠ .downloading := by
  rw [reports_carried, List.map_map]
  constructor
  · calc
      _ = (List.range definition.threads.toNat).map id :=
        List.map_congr_left fun id _ => (Worker.reported_stopped id _).1
      _ = _ := List.map_id _
  · intro worker hmem
    obtain ⟨id, -, rfl⟩ := List.mem_map.mp hmem
    exact (Worker.reported_stopped id _).2

theorem cutsCleanly {definition : DownloadDefinition} {target : Target}
    (hvalid : definition.validate = .ok target) {budget : Budget}
    (hbudget : budget.exhausted = false) (surroundings : Surroundings) (observed : Bool)
    (time : Nat) : CutsCleanly definition target surroundings budget observed time := by
  have hbounded := DownloadDefinition.bounded_of_validate hvalid
  have hcut := cutAt_carry hbounded surroundings time
  have hnever : Cancellation.never ≠ .beforeStart := Cancellation.noConfusion
  have hafter : Cancellation.after time ≠ .beforeStart := Cancellation.noConfusion
  have hblind : ∀ others : Surroundings, surroundings.AgreesUntil time others →
      run definition target surroundings ⟨budget, .after time, observed⟩ =
        run definition target others ⟨budget, .after time, observed⟩ := by
    intro others hsame
    have hcarry := carry_blind hsame hbounded.threads_pos
    simp only [carry] at hcarry
    simp only [run, runDialed, hsame.resolution, hsame.network, hcarry, ended_congr hsame.clock]
  cases hresolve : resolve target surroundings.resolution with
  | error e =>
    have hwhole := run_eq_unstarted hbudget hnever observed definition hresolve
    have hcancelled := run_eq_unstarted hbudget hafter observed definition hresolve
    exact .of_instant (by rw [hwhole]; rfl) (by rw [hwhole, hcancelled]) hblind
  | ok address =>
    have hwhole := @run_eq_ended definition _ _ _ _ hbudget hnever observed _ hresolve
    have hcancelled := @run_eq_ended definition _ _ _ _ hbudget hafter observed _ hresolve
    cases haccepts : surroundings.network.accepts address with
    | false =>
      rw [haccepts, carry_eq_refused hbounded.threads_pos] at hwhole hcancelled
      exact .of_instant (by rw [hwhole]; rfl) (by rw [hwhole, hcancelled]) hblind
    | true =>
      rw [haccepts] at hwhole hcancelled
      refine ⟨fun hbefore => ?_, fun hlonger => ?_, fun hlonger => ?_, hblind⟩
      · rw [hwhole] at hbefore
        rw [hwhole, hcancelled, hcut.kept hbefore]
      · rw [hwhole] at hlonger
        rw [hcancelled, hcut.cancelled hlonger]
        exact Run.cutOff_close _ _ _ _
      · rw [hwhole] at hlonger
        rw [hcut.cancelled hlonger]
        exact ⟨address, hresolve, haccepts, stopped_carried _ _ _ _⟩

end Download

/-- A cancellation of either engine is a clean cut. -/
theorem cancellation_cuts {budget : Budget} (hbudget : budget.exhausted = false) (observed : Bool)
    (time : Nat) :
    (∀ definition target surroundings, definition.validate = .ok target →
      Download.CutsCleanly definition target surroundings budget observed time) ∧
    ∀ definition timers deliveries,
      Probe.CutsCleanly definition timers deliveries budget observed time :=
  ⟨fun _ _ surroundings hvalid =>
      Download.cutsCleanly hvalid hbudget surroundings observed time,
    fun definition timers deliveries =>
      Probe.cutsCleanly hbudget definition timers deliveries observed time⟩

/-- A download is cancelled in its window, and a probe between two datagrams. -/
theorem cancellation_cuts_both :
    let definition : DownloadDefinition :=
      { DownloadDefinition.initial with url := "http://[::1]/", threads := 2 }
    let target : Target := ⟨"::1", 80, "/"⟩
    let surroundings : Surroundings :=
      ⟨.ok [.v4 ⟨127, 0, 0, 1⟩ 80], .ideal,
        [[⟨100, .send 1000⟩, ⟨3000000000, .send 500⟩, ⟨5000000000, .send 90000⟩], [⟨50, .reset⟩]],
        1000000000, ⟨2024, 1, 1, 12, 0, 0, 0⟩⟩
    let deliveries : List Delivery :=
      [⟨5, .datagram (TrainRecord.encode ⟨0, 0, 0⟩ 12)⟩, ⟨900000000, .datagram [1]⟩]
    (Budget.unlimited.exhausted = false ∧ definition.validate = .ok target) ∧
      (Download.run definition target surroundings
        ⟨.unlimited, .after 4000000000, true⟩).CutOff true 4000000000 ∧
      (Probe.run .initial .initial ⟨.unlimited, .after 500000000, true⟩ deliveries).CutOff true
        500000000 := by
  intro definition target surroundings deliveries
  have hvalid : definition.validate = .ok target := by cbv
  have hlong : 4000000000 < (Download.carry definition surroundings true .never).time := by
    dsimp only [definition, surroundings]
    cbv
  have hdownload : 4000000000 <
      (Download.run definition target surroundings ⟨.unlimited, .never, true⟩).elapsed := by
    rw [@Download.run_eq_ended definition target surroundings .unlimited .never rfl
      Cancellation.noConfusion true (.v4 ⟨127, 0, 0, 1⟩ 80) rfl]
    exact hlong
  have hprobe : 500000000 ≤
      (Probe.run .initial .initial ⟨.unlimited, .never, true⟩ deliveries).elapsed := by
    dsimp only [deliveries]
    cbv
  exact ⟨⟨rfl, hvalid⟩,
    ((cancellation_cuts rfl true 4000000000).1 definition target surroundings hvalid).cut hdownload,
    (((cancellation_cuts rfl true 500000000).2 .initial .initial deliveries).cut hprobe).1⟩

end Throughput
