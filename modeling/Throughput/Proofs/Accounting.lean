import Throughput.Proofs.Download.Traffic
import Throughput.Proofs.Probe.Charging

/-!
# Accounts

How the budget stands after a run that ended with a result. What the run has read is used up if it
still fits, and is forgiven as a whole if it does not.
-/

namespace Throughput

/-- A run of either engine that ended with a result: what it started under, the budget that it left,
and how many bytes it had read. -/
inductive Measured : Conditions → Budget → Nat → Prop
  | download {definition : DownloadDefinition} {target : Target} {surroundings : Surroundings}
      {conditions : Conditions} {address : Address.Socket} {result : DownloadResult} :
      definition.validate = .ok target →
      Download.resolve target surroundings.resolution = .ok address →
      (Download.run definition target surroundings conditions).outcome = .ok result →
      Measured conditions (Download.run definition target surroundings conditions).budget
        (surroundings.trafficFrom definition
          (Download.run definition target surroundings conditions).elapsed address)
  | probe {definition : TrainsDefinition} {timers : ProbeTimers} {conditions : Conditions}
      {deliveries : List Delivery} {taken rest : List Receipt} {result : TrainsResult} :
      Hears (timers.limitUntil (Probe.cancelTime conditions.cancellation))
        (Receipt.ofDeliveries 0 deliveries) taken rest →
      (Probe.run definition timers conditions deliveries).outcome = .ok result →
      Measured conditions (Probe.run definition timers conditions deliveries).budget
        (Heard.traffic (Heard.ofReceipts taken))

/-- Neither engine starts a run under this budget. -/
def Budget.Refuses (budget : Budget) : Prop :=
  ∀ conditions : Conditions, conditions.budget = budget →
    (∀ definition target surroundings,
      (Download.run definition target surroundings conditions).outcome =
        .error (.budgetExhausted 0)) ∧
    ∀ definition timers deliveries,
      (Probe.run definition timers conditions deliveries).outcome = .error (.budgetExhausted 0)

/-- How an active allowance stands after a run that has read so many bytes. -/
structure Allowance.Settles (before after : Allowance) (bytes : Nat) : Prop where
  fits : bytes ≤ before.remaining → after.remaining = before.remaining - bytes
  exceeds : before.remaining < bytes → after = before
  spent : bytes = before.remaining → (Budget.limited after).Refuses
  left : bytes ≠ before.remaining → after.exhausted = false

theorem Budget.refuses_of_exhausted {budget : Budget} (h : budget.exhausted = true) :
    budget.Refuses := by
  rintro conditions rfl
  have hnothing : conditions.budget.remaining = 0 := by
    rw [exhausted, Bool.and_eq_true] at h
    exact of_decide_eq_true h.2
  constructor
  · intro definition target surroundings
    simp only [Download.run, Download.runDialed, h, if_true, Run.refused, Run.close, hnothing]
  · intro definition timers deliveries
    simp only [Probe.run, h, if_true, Run.refused, Run.close, hnothing]

theorem Measured.charged {conditions : Conditions} {budget : Budget} {bytes : Nat}
    (h : Measured conditions budget bytes) :
    conditions.budget.exhausted = false ∧ budget = (conditions.budget.charge bytes).1 := by
  cases h with
  | download hvalid hresolve hok =>
    obtain ⟨hbudget, hcancel, -⟩ := Download.admitted_of_ok hok
    exact ⟨hbudget, Download.run_budget hvalid hresolve hbudget hcancel⟩
  | probe hhears hok => exact ⟨Probe.admitted_of_ok hok, Probe.run_budget_of_ok hhears hok⟩

/-- After a run with a result an active allowance has less by what was read if that still fitted,
and is as before otherwise. Only what fits exactly uses it up, so that nothing is started under it
any more. -/
theorem measured_settles {conditions : Conditions} {budget : Budget} {bytes : Nat}
    {allowance : Allowance} (h : Measured conditions budget bytes)
    (hlimited : conditions.budget = .limited allowance) (hactive : allowance.active = true) :
    ∃ after, budget = .limited after ∧ allowance.Settles after bytes := by
  obtain ⟨hbudget, hcharged⟩ := h.charged
  rw [hlimited] at hbudget hcharged
  have hleft : allowance.remaining ≠ 0 := by
    intro hnone
    exact Bool.false_ne_true (hbudget.symm.trans ((Allowance.exhausted_iff hactive).mpr hnone))
  rcases Nat.lt_or_ge allowance.remaining bytes with hexceeds | hfits
  · rw [Budget.charge_limited_of_lt hexceeds] at hcharged
    refine ⟨allowance, hcharged, fun hle => ?_, fun _ => rfl, fun heq => ?_, fun _ => hbudget⟩
    · exact absurd hexceeds (Nat.not_lt.mpr hle)
    · exact absurd heq (Nat.ne_of_gt hexceeds)
  · rw [Budget.charge_limited_of_le hfits] at hcharged
    let after := allowance.withUsed (allowance.used + bytes)
    have hremaining : after.remaining = allowance.remaining - bytes :=
      allowance.remaining_withUsed bytes
    have hspent : after.exhausted = true ↔ bytes = allowance.remaining := by
      have hstill : after.active = true := hactive
      rw [Allowance.exhausted_iff hstill, hremaining]
      omega
    refine ⟨after, hcharged, fun _ => hremaining, fun hlt => ?_, fun heq => ?_, fun hne => ?_⟩
    · exact absurd hlt (Nat.not_lt.mpr hfits)
    · exact Budget.refuses_of_exhausted (hspent.mpr heq)
    · exact Bool.eq_false_iff.mpr fun hexhausted => hne (hspent.mp hexhausted)

theorem Measured.of_quiet {definition : TrainsDefinition} {timers : ProbeTimers}
    {conditions : Conditions} {deliveries : List Delivery} {taken rest : List Receipt}
    (hbudget : conditions.budget.exhausted = false) (hcancel : conditions.cancellation = .never)
    (hhears : Hears (timers.limitUntil none) (Receipt.ofDeliveries 0 deliveries) taken rest)
    (hquiet : (Probe.listening definition timers deliveries).ending = .quiet) :
    Measured conditions (Probe.run definition timers conditions deliveries).budget
      (Heard.traffic (Heard.ofReceipts taken)) := by
  have hconclude := @Probe.run_outcome definition timers conditions deliveries hbudget hcancel
  rw [Probe.conclude, hquiet] at hconclude
  have hheard : Hears (timers.limitUntil (Probe.cancelTime conditions.cancellation))
      (Receipt.ofDeliveries 0 deliveries) taken rest := by rwa [hcancel]
  exact .probe hheard hconclude

/-- A probe that hears a record and a stray byte, and has no byte left then. -/
theorem measured_settles_exactly :
    let deliveries : List Delivery :=
      [⟨5, .failure .connectionRefused "nobody there"⟩,
        ⟨10, .datagram (TrainRecord.encode ⟨0, 0, 0⟩ 12)⟩, ⟨20, .datagram [1]⟩]
    let conditions : Conditions := ⟨.limited (.ofAvailable 13), .never, true⟩
    let run := Probe.run .initial .initial conditions deliveries
    Measured conditions run.budget 13 ∧
      ∃ after, run.budget = .limited after ∧ (Allowance.ofAvailable 13).Settles after 13 ∧
        (Budget.limited after).Refuses := by
  intro deliveries conditions run
  let receipts := Receipt.ofDeliveries 0 deliveries
  have hhears : Hears (ProbeTimers.initial.limitUntil none) receipts receipts [] := by
    refine .cons rfl (by decide) (.cons rfl (by decide) (.cons rfl (by decide) (.of_stop ?_)))
    simp [Receipt.ofDeliveries]
  have htraffic : Heard.traffic (Heard.ofReceipts receipts) = 13 := by decide
  have hquiet : (Probe.listening .initial .initial deliveries).ending = .quiet := by
    dsimp only [deliveries]
    cbv
  have hmeasured : Measured conditions run.budget 13 := htraffic ▸ .of_quiet rfl rfl hhears hquiet
  obtain ⟨after, hafter, hsettles⟩ := measured_settles hmeasured rfl rfl
  exact ⟨hmeasured, after, hafter, hsettles, hsettles.spent rfl⟩

/-- A datagram of twelve bytes leaves an allowance of ten as it was. -/
theorem not_measured_used_up :
    ¬ ∀ (conditions : Conditions) (budget : Budget) (bytes : Nat) (allowance : Allowance),
      Measured conditions budget bytes → conditions.budget = .limited allowance →
      allowance.active = true → allowance.used ≤ allowance.available →
      budget.remaining = allowance.remaining - bytes := by
  intro hused
  let deliveries : List Delivery := [⟨0, .datagram (TrainRecord.encode ⟨0, 0, 0⟩ 12)⟩]
  let conditions : Conditions := ⟨.limited (.ofAvailable 10), .never, true⟩
  let receipts := Receipt.ofDeliveries 0 deliveries
  have hhears : Hears (ProbeTimers.initial.limitUntil none) receipts receipts [] := by
    refine .cons rfl (by decide) (.of_stop ?_)
    simp [Receipt.ofDeliveries]
  have htraffic : Heard.traffic (Heard.ofReceipts receipts) = 12 := by decide
  have hquiet : (Probe.listening .initial .initial deliveries).ending = .quiet := by
    dsimp only [deliveries]
    cbv
  have hmeasured : Measured conditions
      (Probe.run .initial .initial conditions deliveries).budget 12 :=
    htraffic ▸ .of_quiet rfl rfl hhears hquiet
  have hremaining := hused conditions _ 12 (.ofAvailable 10) hmeasured rfl rfl (by decide)
  rw [hmeasured.charged.2] at hremaining
  revert hremaining
  decide

end Throughput
