import Throughput.Proofs.Probe.Unreachable

/-!
# The states of a probe

A probe is idle until the first datagram reaches it, and receives from then on. It evaluates what it
has heard only on the way to a result, and every run comes to its end. Each call for a datagram sees
the state that the calls before have led to.
-/

namespace Throughput

def ProbeState.ofHeard (heard : List Heard) : ProbeState :=
  if heard.isEmpty then .idle else .receiving

/-- What a probe goes through that has heard these datagrams, by whether it comes to a result. -/
def ProbeState.trace (heard : List Heard) (concluded : Bool) : List ProbeState :=
  if heard.isEmpty then [.idle, .finished]
  else if concluded then [.idle, .receiving, .evaluating, .finished]
  else [.idle, .receiving, .finished]

/-- The states that a run goes through, and those that its calls see, if its probe took `taken`. -/
structure ProbeRun.Traced (run : ProbeRun) (taken : List Receipt) : Prop where
  shape : run.states = [.idle, .finished] ∨ run.states = [.idle, .receiving, .finished] ∨
    run.states = [.idle, .receiving, .evaluating, .finished]
  received : .receiving ∈ run.states ↔ Heard.ofReceipts taken ≠ []
  /-- There is a call for each receipt, and perhaps one more that brings nothing or an error. -/
  polled : ∃ pending ≤ 1, run.polled = (List.range (taken.length + pending)).map fun calls =>
    .ofHeard (Heard.ofReceipts (taken.take calls))
  evaluated : run.states = [.idle, .receiving, .evaluating, .finished] ↔
    (∃ result, run.outcome = .ok result) ∧ Heard.ofReceipts taken ≠ []
  broken : run.states = [.idle, .receiving, .finished] → ∃ e, run.outcome = .error e
  finished : run.finalState = .finished

namespace ProbeRun

theorem Traced.of_trace {run : ProbeRun} {taken : List Receipt} {concluded : Bool}
    (hstates : run.states = ProbeState.trace (Heard.ofReceipts taken) concluded)
    (houtcome : concluded = true ↔ ∃ result, run.outcome = .ok result)
    (hpolled : ∃ pending ≤ 1, run.polled = (List.range (taken.length + pending)).map fun calls =>
      .ofHeard (Heard.ofReceipts (taken.take calls))) : run.Traced taken := by
  have hfailed : concluded = false → ∃ e, run.outcome = .error e := by
    rintro rfl
    cases houtcome' : run.outcome with
    | error e => exact ⟨e, rfl⟩
    | ok result => cases houtcome.mpr ⟨result, houtcome'⟩
  cases hheard : Heard.ofReceipts taken with
  | nil =>
    replace hstates : run.states = [.idle, .finished] := by
      rw [hstates, hheard]
      rfl
    refine ⟨.inl hstates, ?_, hpolled, ?_, ?_, ?_⟩ <;> simp [hstates, hheard, finalState]
  | cons first later =>
    cases concluded with
    | false =>
      replace hstates : run.states = [.idle, .receiving, .finished] := by
        rw [hstates, hheard]
        rfl
      refine ⟨.inr (.inl hstates), ?_, hpolled, ?_, fun _ => hfailed rfl, ?_⟩ <;>
        simp [hstates, hheard, finalState, ← houtcome]
    | true =>
      replace hstates : run.states = [.idle, .receiving, .evaluating, .finished] := by
        rw [hstates, hheard]
        rfl
      refine ⟨.inr (.inr hstates), ?_, hpolled, ?_, ?_, ?_⟩ <;>
        simp [hstates, hheard, finalState, ← houtcome]

end ProbeRun

namespace Probe

variable {iterations : UInt16} {timers : ProbeTimers} {cancelAt : Option Nat}

/-! ### What the calls see -/

theorem state_ofHeard (heard : List Heard) :
    (ofHeard iterations timers heard).state = .ofHeard heard := by
  cases heard <;> rfl

section Polled

variable {heard : List Heard} {now : Nat} {deliveries : List Delivery}

theorem polled_expire (probe : Probe) (cancelAt : Option Nat) (now : Nat) :
    ∃ pending ≤ 1, (probe.expire cancelAt now).polled = List.replicate pending probe.state := by
  rw [expire_eq]
  split
  · exact ⟨0, Nat.zero_le 1, rfl⟩
  · exact ⟨1, Nat.le_refl 1, rfl⟩

/-- A probe that takes nothing more calls at most once. -/
theorem polled_listen_of_stop
    (hstop : ∀ receipt ∈ (Receipt.ofDeliveries now deliveries).head?,
      receipt.time < timers.limitUntil cancelAt heard → receipt.fatal?.isSome) :
    ∃ pending ≤ 1, (listen timers cancelAt (ofHeard iterations timers heard) now
      deliveries).polled = List.replicate pending (.ofHeard heard) := by
  rw [← @state_ofHeard iterations timers]
  cases deliveries with
  | nil => exact polled_expire _ cancelAt now
  | cons delivery deliveries =>
    rcases Nat.lt_or_ge (now + delivery.delay)
      ((ofHeard iterations timers heard).deadline cancelAt).1 with htimely | hlate
    · have hfatal := hstop _ rfl (by rwa [← @deadline_until timers cancelAt iterations])
      cases hreception : delivery.reception with
      | datagram datagram => simp [Receipt.fatal?, hreception] at hfatal
      | failure fault cause =>
        have hother : fault.isUnreachable = false := by
          by_contra hunreachable
          simp [Receipt.fatal?, hreception, hunreachable] at hfatal
        rw [listen_failure deliveries htimely hreception, hother]
        exact ⟨1, Nat.le_refl 1, rfl⟩
    · rw [listen_eq_expire (by simpa using hlate)]
      exact polled_expire _ cancelAt now

/-- A receipt that is taken has a call of its own, and the next one sees what it has led to. -/
theorem polled_listen_take {delivery : Delivery} (deliveries : List Delivery)
    (htimely : now + delivery.delay < timers.limitUntil cancelAt heard)
    (hharmless : (Receipt.mk (now + delivery.delay) delivery.reception).fatal? = none) :
    (listen timers cancelAt (ofHeard iterations timers heard) now (delivery :: deliveries)).polled =
      .ofHeard heard :: (listen timers cancelAt
        (ofHeard iterations timers
          (heard ++ (Receipt.mk (now + delivery.delay) delivery.reception).heard?.toList))
        (now + delivery.delay) deliveries).polled := by
  rw [← @deadline_until timers cancelAt iterations] at htimely
  rw [← @state_ofHeard iterations timers]
  cases hreception : delivery.reception with
  | datagram datagram =>
    rw [listen_datagram deliveries htimely hreception]
    rfl
  | failure fault cause =>
    have hunreachable : fault.isUnreachable = true := by
      by_contra hother
      simp [Receipt.fatal?, hreception, hother] at hharmless
    rw [listen_failure deliveries htimely hreception, hunreachable]
    simp only [Receipt.heard?, Option.toList_none, List.append_nil]
    rfl

/-- Every call sees what the receipts before it have led to. -/
theorem polled_listen {taken rest : List Receipt}
    (hhears : Hears (fun later => timers.limitUntil cancelAt (heard ++ later))
      (Receipt.ofDeliveries now deliveries) taken rest) :
    ∃ pending ≤ 1, (listen timers cancelAt (ofHeard iterations timers heard) now
      deliveries).polled = (List.range (taken.length + pending)).map fun calls =>
        .ofHeard (heard ++ Heard.ofReceipts (taken.take calls)) := by
  induction taken generalizing heard now deliveries with
  | nil =>
    obtain rfl : Receipt.ofDeliveries now deliveries = rest := hhears.split
    obtain ⟨pending, hpending, hpolled⟩ :=
      @polled_listen_of_stop iterations timers cancelAt heard now deliveries
        (by simpa [Heard.ofReceipts] using hhears.stops)
    exact ⟨pending, hpending, by simpa [Heard.ofReceipts] using hpolled⟩
  | cons receipt taken ih =>
    have hsplit := hhears.split
    cases deliveries with
    | nil => cases hsplit
    | cons delivery deliveries =>
      obtain ⟨rfl, -⟩ := List.cons.inj hsplit
      obtain ⟨pending, hpending, hpolled⟩ := ih hhears.tail_after
      have hcalls : (Receipt.mk (now + delivery.delay) delivery.reception :: taken).length +
          pending = taken.length + pending + 1 := by
        rw [List.length_cons]
        omega
      refine ⟨pending, hpending, ?_⟩
      rw [polled_listen_take deliveries hhears.timely_head (hhears.harmless _ List.mem_cons_self),
        hpolled, hcalls, List.range_succ_eq_map, List.map_cons, List.map_map]
      refine congrArg₂ List.cons (congrArg ProbeState.ofHeard (List.append_nil heard).symm)
        (List.map_congr_left fun calls _ => ?_)
      change _ = ProbeState.ofHeard (heard ++ Heard.ofReceipts (_ :: taken.take calls))
      rw [Heard.ofReceipts_cons, List.append_assoc]

end Polled

/-! ### What a run goes through -/

section Ending

variable {listening : Listening} {heard : List Heard} {packetSize : Nat}

/-- A probe that nothing more reaches is cancelled, or else its timer ends it. -/
theorem ending_of_late {rest : List Receipt}
    (hends : listening.EndsWith (ofHeard iterations timers heard) cancelAt rest)
    (hlate : ∀ receipt ∈ rest.head?, timers.limitUntil cancelAt heard ≤ receipt.time) :
    listening.ending = .cancelled ∨
      listening.ending = if heard = [] then .inactive else .quiet := by
  have hexpired := hends.expired
  rw [deadline_until] at hexpired
  obtain ⟨-, hending⟩ := hexpired hlate
  rw [hending]
  cases cancelAt with
  | none => exact .inr (by rw [deadline_ofHeard])
  | some time =>
    rcases Nat.lt_or_ge (timers.limit heard) time with hafter | hbefore
    · refine .inr ?_
      rw [deadline_of_timer_lt (by rwa [timer_ofHeard]), timer_ofHeard]
    · exact .inl (by rw [deadline_cancelled hbefore])

theorem statesOf_of_error {e : MeasureError}
    (hreached : listening.probe = ofHeard iterations timers heard)
    (herror : conclude packetSize listening = .error e) :
    statesOf listening = ProbeState.trace heard false := by
  have hevaluates : evaluates listening = false := by
    rw [conclude] at herror
    rw [evaluates]
    cases hending : listening.ending with
    | inactive | quiet =>
      rw [hending] at herror
      cases herror
    | cancelled | failed => rfl
  rw [statesOf, hevaluates, hreached]
  cases heard <;> rfl

theorem statesOf_of_timer (hreached : listening.probe = ofHeard iterations timers heard)
    (hending : listening.ending = if heard = [] then .inactive else .quiet) :
    statesOf listening = ProbeState.trace heard true := by
  rw [statesOf, evaluates, hending, hreached]
  cases heard <;> rfl

end Ending

section Run

variable {definition : TrainsDefinition} {conditions : Conditions} {deliveries : List Delivery}

theorem states_of_exhausted (hbudget : conditions.budget.exhausted = true) :
    (run definition timers conditions deliveries).states = [.idle, .finished] ∧
      (run definition timers conditions deliveries).polled = [] := by
  simp only [run, hbudget]
  exact ⟨rfl, rfl⟩

theorem polled_of_admitted (hbudget : conditions.budget.exhausted = false) :
    (run definition timers conditions deliveries).polled =
      (listened definition timers conditions deliveries).polled := by
  simp only [run, hbudget]
  rfl

theorem exists_states_run (hbudget : conditions.budget.exhausted = false)
    {taken rest : List Receipt}
    (hhears : Hears (timers.limitUntil (cancelTime conditions.cancellation))
      (Receipt.ofDeliveries 0 deliveries) taken rest) :
    ∃ concluded,
      (run definition timers conditions deliveries).states =
        ProbeState.trace (Heard.ofReceipts taken) concluded ∧
      (concluded = true ↔
        ∃ result, (run definition timers conditions deliveries).outcome = .ok result) := by
  obtain ⟨taken', rest', hhears', hends⟩ := exists_hears definition timers conditions deliveries
  obtain rfl : taken' = taken := hhears.unique hhears'
  rw [states_of_admitted hbudget, run_of_admitted hbudget]
  change ∃ concluded, _ ∧ (_ ↔ ∃ result, conclude _ (listened _ _ _ _) = _)
  cases houtcome : conclude definition.packetSize.toNat
      (listened definition timers conditions deliveries) with
  | error e => exact ⟨false, statesOf_of_error hends.reached houtcome, by simp⟩
  | ok result =>
    refine ⟨true, ?_, by simp⟩
    rcases hhears'.late_or_fatal with hlate | ⟨receipt, cause, hhead, hfatal, htimely⟩
    · rcases ending_of_late hends hlate with hcancelled | htimer
      · rw [conclude, hcancelled] at houtcome
        cases houtcome
      · exact statesOf_of_timer hends.reached htimer
    · rw [conclude_failed hends hhead hfatal htimely] at houtcome
      cases houtcome

end Run

end Probe

end Throughput
