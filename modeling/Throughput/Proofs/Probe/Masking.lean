import Throughput.Proofs.Probe.Noise

/-!
# Runs over a noisy line

A run with noise ends as it would have ended without: at the same time, for the same reason and with
the same rates. The noise is paid for, as far as it was taken, and leaves no other trace.
-/

namespace Throughput

/-! ### Limits and receipts -/

namespace ProbeTimers

variable {timers : ProbeTimers} {cancelAt : Option Nat}

theorem limit_congr {left right : List Heard}
    (h : left.getLast?.map Heard.time = right.getLast?.map Heard.time) :
    timers.limit left = timers.limit right := by
  unfold limit
  cases hleft : left.getLast? <;> cases hright : right.getLast? <;> simp_all

theorem limitUntil_congr {left right : List Heard}
    (h : left.getLast?.map Heard.time = right.getLast?.map Heard.time) :
    timers.limitUntil cancelAt left = timers.limitUntil cancelAt right := by
  unfold limitUntil
  rw [limit_congr h]

/-- A probe that hears something in time goes on to listen. -/
theorem lt_limitUntil_concat (hquiet : 0 < timers.quiet) {heard : List Heard} {last : Heard}
    (htimely : last.time < timers.limitUntil cancelAt heard) :
    last.time < timers.limitUntil cancelAt (heard ++ [last]) := by
  have hlimit : timers.limit (heard ++ [last]) = last.time + timers.quiet := by
    simp [limit]
  cases cancelAt with
  | none =>
    rw [limitUntil, hlimit]
    omega
  | some time =>
    rw [limitUntil] at htimely ⊢
    omega

end ProbeTimers

namespace Receipt

/-- Receipts of datagrams that come on one instant. -/
def allAt (time : Nat) (datagrams : List Datagram) : List Receipt :=
  datagrams.map fun datagram => ⟨time, .datagram datagram⟩

theorem ofReceipts_allAt_append (time : Nat) (datagrams : List Datagram) (later : List Receipt) :
    Heard.ofReceipts (allAt time datagrams ++ later) =
      Heard.allAt time datagrams ++ Heard.ofReceipts later := by
  simp [Heard.ofReceipts, allAt, Heard.allAt, heard?, List.filterMap_append, List.filterMap_map,
    Function.comp_def]

theorem ofDeliveries_noise (now : Nat) (datagrams : List Datagram) (later : List Delivery) :
    ofDeliveries now ((datagrams.map fun datagram => ⟨0, .datagram datagram⟩) ++ later) =
      allAt now datagrams ++ ofDeliveries now later := by
  induction datagrams with
  | nil => rfl
  | cons datagram datagrams ih =>
    rw [List.map_cons, List.cons_append, ofDeliveries, Nat.add_zero, ih]
    rfl

theorem ofDeliveries_noisy (now : Nat) (noisy : NoisyDelivery) (later : List Delivery) :
    ofDeliveries now (noisy.deliveries ++ later) =
      ⟨now + noisy.delivery.delay, noisy.delivery.reception⟩ ::
        (allAt (now + noisy.delivery.delay) noisy.noise ++
          ofDeliveries (now + noisy.delivery.delay) later) := by
  rw [NoisyDelivery.deliveries, List.cons_append, ofDeliveries, ofDeliveries_noise]

end Receipt

namespace Hears

variable {receipts taken rest : List Receipt}

section Cons

variable {limit : List Heard → Nat} {heard : List Heard} {receipt : Receipt}

theorem tail (h : Hears limit (receipt :: receipts) (receipt :: taken) rest) :
    Hears (fun later => limit (receipt.heard?.toList ++ later)) receipts taken rest where
  split := (List.cons.inj h.split).2
  harmless := fun taking hmem => h.harmless taking (List.mem_cons_of_mem _ hmem)
  timely := by
    intro before taking after hsplit
    have htimely := h.timely (receipt :: before) taking after (by rw [hsplit]; rfl)
    rwa [Heard.ofReceipts_cons] at htimely
  stops := by
    intro stopping hmem htimely
    rw [← Heard.ofReceipts_cons] at htimely
    exact h.stops stopping hmem htimely

/-- What comes after a receipt adds to what was heard before. -/
theorem tail_after
    (h : Hears (fun later => limit (heard ++ later)) (receipt :: receipts) (receipt :: taken)
      rest) :
    Hears (fun later => limit (heard ++ receipt.heard?.toList ++ later)) receipts taken rest := by
  simpa only [List.append_assoc] using h.tail

theorem cons_after (hharmless : receipt.fatal? = none) (htimely : receipt.time < limit heard)
    (h : Hears (fun later => limit (heard ++ receipt.heard?.toList ++ later)) receipts taken
      rest) :
    Hears (fun later => limit (heard ++ later)) (receipt :: receipts) (receipt :: taken) rest :=
  .cons hharmless (by simpa using htimely) (by simpa only [List.append_assoc] using h)

theorem timely_head
    (h : Hears (fun later => limit (heard ++ later)) (receipt :: receipts) (receipt :: taken)
      rest) :
    receipt.time < limit heard := by
  have htimely := h.timely [] receipt taken rfl
  rwa [Heard.ofReceipts, List.filterMap_nil, List.append_nil] at htimely

end Cons

section Noise

variable {timers : ProbeTimers} {cancelAt : Option Nat} {heard : List Heard}

/-- Datagrams on the instant of the last one are taken, and put nothing off. -/
theorem allAt {last : Heard} (datagrams : List Datagram)
    (htimely : last.time < timers.limitUntil cancelAt (heard ++ [last]))
    (h : Hears (fun later => timers.limitUntil cancelAt (heard ++ [last] ++ later)) receipts taken
      rest) :
    Hears (fun later => timers.limitUntil cancelAt (heard ++ [last] ++ later))
      (Receipt.allAt last.time datagrams ++ receipts) (Receipt.allAt last.time datagrams ++ taken)
      rest := by
  induction datagrams with
  | nil => exact h
  | cons datagram datagrams ih =>
    refine .cons rfl (by simpa using htimely) ?_
    have hsame (later : List Heard) :
        timers.limitUntil cancelAt (heard ++ [last] ++ (⟨last.time, datagram⟩ :: later)) =
          timers.limitUntil cancelAt (heard ++ [last] ++ later) :=
      ProbeTimers.limitUntil_congr (Heard.lastTime_insert heard later rfl)
    simp only [Receipt.heard?, Option.toList_some, List.singleton_append, hsame]
    exact ih

variable {iterations : UInt16} {entry : NoisyDelivery} {now : Nat}

/-- Noise does not hold up what comes behind it. -/
theorem after_noise (hquiet : 0 < timers.quiet) (hentry : entry.Harmless iterations)
    (htimely : now + entry.delivery.delay < timers.limitUntil cancelAt heard)
    (h : Hears
      (fun later => timers.limitUntil cancelAt (heard ++
        (Receipt.mk (now + entry.delivery.delay) entry.delivery.reception).heard?.toList ++ later))
      receipts taken rest) :
    Hears
      (fun later => timers.limitUntil cancelAt (heard ++
        (Receipt.mk (now + entry.delivery.delay) entry.delivery.reception).heard?.toList ++ later))
      (Receipt.allAt (now + entry.delivery.delay) entry.noise ++ receipts)
      (Receipt.allAt (now + entry.delivery.delay) entry.noise ++ taken) rest := by
  cases hreception : entry.delivery.reception with
  | datagram datagram =>
    rw [hreception] at h
    exact allAt entry.noise (ProbeTimers.lt_limitUntil_concat hquiet htimely) h
  | failure fault cause =>
    rw [hreception] at h
    rwa [hentry.noise_of_failure hreception]

/-- What is taken of a script with noise is what is taken without, and the noise behind that. -/
theorem noisy (hquiet : 0 < timers.quiet) {entries : List NoisyDelivery}
    (hentries : ∀ entry ∈ entries, entry.Harmless iterations)
    (h : Hears (fun later => timers.limitUntil cancelAt (heard ++ later))
      (Receipt.ofDeliveries now (entries.map NoisyDelivery.delivery)) taken rest) :
    ∃ taken' rest',
      Hears (fun later => timers.limitUntil cancelAt (heard ++ later))
        (Receipt.ofDeliveries now (entries.flatMap NoisyDelivery.deliveries)) taken' rest' ∧
      rest'.head? = rest.head? ∧
      Heard.Noisy iterations ((entries.take taken.length).map NoisyDelivery.size).sum
        (Heard.ofReceipts taken) (Heard.ofReceipts taken') := by
  induction entries generalizing heard now taken with
  | nil =>
    have hsplit := h.split
    rw [List.map_nil, Receipt.ofDeliveries] at hsplit
    obtain ⟨rfl, rfl⟩ := List.nil_eq_append_iff.mp hsplit
    exact ⟨[], [], h, rfl, .nil⟩
  | cons entry entries ih =>
    rw [List.flatMap_cons, Receipt.ofDeliveries_noisy]
    rw [List.map_cons, Receipt.ofDeliveries] at h
    cases taken with
    | nil =>
      obtain rfl := h.split
      exact ⟨[], _, .of_stop h.stops, rfl, .nil⟩
    | cons receipt taken =>
      obtain ⟨rfl, -⟩ := List.cons.inj h.split
      obtain ⟨hentry, hothers⟩ := List.forall_mem_cons.mp hentries
      have htimely := h.timely_head
      obtain ⟨taken', rest', hhears, hhead, hnoisy⟩ := ih hothers h.tail_after
      refine ⟨_, rest', .cons_after (h.harmless _ List.mem_cons_self) htimely
        (after_noise hquiet hentry htimely hhears), hhead, ?_⟩
      rw [Heard.ofReceipts_cons, Heard.ofReceipts_cons, Receipt.ofReceipts_allAt_append]
      exact hnoisy.entry hentry _

end Noise

end Hears

/-! ### Two runs -/

/-- Two ways to listen that stop before the same receipt, at the same deadline, end alike. -/
theorem Listening.EndsWith.agree {left right : Listening} {probe other : Probe}
    {cancelAt : Option Nat} {rest others : List Receipt} (hleft : left.EndsWith probe cancelAt rest)
    (hright : right.EndsWith other cancelAt others)
    (hdeadline : other.deadline cancelAt = probe.deadline cancelAt)
    (hhead : others.head? = rest.head?)
    (hstop : (∀ receipt ∈ rest.head?, (probe.deadline cancelAt).1 ≤ receipt.time) ∨
      ∃ receipt cause, rest.head? = some receipt ∧ receipt.fatal? = some cause ∧
        receipt.time < (probe.deadline cancelAt).1) :
    right.time = left.time ∧ right.ending = left.ending := by
  rcases hstop with hlate | ⟨receipt, cause, hfirst, hfatal, htimely⟩
  · obtain ⟨htime, hending⟩ := hleft.expired hlate
    obtain ⟨htime', hending'⟩ := hright.expired (by rwa [hhead, hdeadline])
    exact ⟨by rw [htime, htime', hdeadline], by rw [hending, hending', hdeadline]⟩
  · obtain ⟨htime, hending⟩ := hleft.failed receipt cause hfirst hfatal htimely
    obtain ⟨htime', hending'⟩ :=
      hright.failed receipt cause (hhead.trans hfirst) hfatal (by rwa [hdeadline])
    exact ⟨htime'.trans htime.symm, hending'.trans hending.symm⟩

/-- What a run leaves behind when `noise` bytes of noise come in, next to what it leaves without
them. Both took `bytes` bytes besides. -/
structure ProbeRun.Masks (clean noisy : ProbeRun) (budget : Budget) (bytes noise : Nat) : Prop where
  outcome : noisy.outcome = clean.outcome
  elapsed : noisy.elapsed = clean.elapsed
  journal : noisy.journal = clean.journal
  charged : ∀ result, clean.outcome = .ok result →
    clean.budget = (budget.charge bytes).1 ∧ noisy.budget = (budget.charge (bytes + noise)).1
  grows : ∀ result allowance, clean.outcome = .ok result → budget = .limited allowance →
    bytes + noise ≤ allowance.remaining →
      clean.budget = .limited (allowance.withUsed (allowance.used + bytes)) ∧
        noisy.budget = .limited (allowance.withUsed (allowance.used + bytes + noise))
  free : ∀ e, clean.outcome = .error e → clean.budget = budget ∧ noisy.budget = budget

namespace Probe

variable {definition : TrainsDefinition} {timers : ProbeTimers} {conditions : Conditions}
  {iterations : UInt16} {cancelAt : Option Nat}

section Heard

variable {noise : Nat} {clean noisy : List Heard}

theorem deadline_noisy (h : Heard.Noisy iterations noise clean noisy) :
    (ofHeard iterations timers noisy).deadline cancelAt =
      (ofHeard iterations timers clean).deadline cancelAt := by
  have htimer : (ofHeard iterations timers noisy).timer =
      (ofHeard iterations timers clean).timer := by
    simp only [timer_ofHeard, ProbeTimers.limit_congr h.last, h.eq_nil_iff]
  cases cancelAt <;> simp only [deadline, htimer]

theorem conclude_noisy {left right : Listening}
    (hleft : left.probe = ofHeard definition.iterations timers clean)
    (hright : right.probe = ofHeard definition.iterations timers noisy)
    (hending : right.ending = left.ending)
    (h : Heard.Noisy definition.iterations noise clean noisy) :
    conclude definition.packetSize.toNat right = conclude definition.packetSize.toNat left := by
  unfold conclude
  rw [hending, hleft, hright, rates_ofHeard, rates_ofHeard,
    TrainsResult.ofHeard_congr h.records_known]

end Heard

/-! ### The same run -/

theorem run_of_admitted {deliveries : List Delivery}
    (hbudget : conditions.budget.exhausted = false) :
    (run definition timers conditions deliveries).toRun =
      .close .trains
        (conclude definition.packetSize.toNat (listened definition timers conditions deliveries))
        (listened definition timers conditions deliveries).time
        (charge conditions.budget (listened definition timers conditions deliveries))
        (Journal.ofObserved conditions.observed).start := by
  simp only [run, hbudget]
  rfl

theorem run_of_exhausted {deliveries : List Delivery}
    (hbudget : conditions.budget.exhausted = true) :
    (run definition timers conditions deliveries).toRun = .refused .trains conditions := by
  simp only [run, hbudget, if_true]

theorem run_budget_of_error {deliveries : List Delivery} {e : MeasureError}
    (herror : (run definition timers conditions deliveries).outcome = .error e) :
    (run definition timers conditions deliveries).budget = conditions.budget := by
  cases hbudget : conditions.budget.exhausted with
  | true =>
    rw [run_of_exhausted hbudget]
    rfl
  | false =>
    rw [run_of_admitted hbudget] at herror ⊢
    exact charge_of_error conditions.budget herror

section Noise

variable {entries : List NoisyDelivery} {taken rest : List Receipt}

/-- The probe that listens to the noise hears what the other one hears, and stops when it does. -/
theorem listened_noisy (hquiet : 0 < timers.quiet)
    (hentries : ∀ entry ∈ entries, entry.Harmless definition.iterations)
    (hhears : Hears (timers.limitUntil (cancelTime conditions.cancellation))
      (Receipt.ofDeliveries 0 (entries.map NoisyDelivery.delivery)) taken rest)
    (hends : (listened definition timers conditions (entries.map NoisyDelivery.delivery)).EndsWith
      (ofHeard definition.iterations timers (Heard.ofReceipts taken))
      (cancelTime conditions.cancellation) rest) :
    ∃ taken' rest',
      Hears (timers.limitUntil (cancelTime conditions.cancellation))
        (Receipt.ofDeliveries 0 (entries.flatMap NoisyDelivery.deliveries)) taken' rest' ∧
      Heard.Noisy definition.iterations
        ((entries.take taken.length).map NoisyDelivery.size).sum (Heard.ofReceipts taken)
        (Heard.ofReceipts taken') ∧
      (listened definition timers conditions (entries.flatMap NoisyDelivery.deliveries)).time =
        (listened definition timers conditions (entries.map NoisyDelivery.delivery)).time ∧
      conclude definition.packetSize.toNat
          (listened definition timers conditions (entries.flatMap NoisyDelivery.deliveries)) =
        conclude definition.packetSize.toNat
          (listened definition timers conditions (entries.map NoisyDelivery.delivery)) := by
  obtain ⟨taken', rest', hhears', hhead, hnoisy⟩ :=
    @Hears.noisy _ _ timers (cancelTime conditions.cancellation) [] _ _ hquiet _ hentries hhears
  obtain ⟨reached, others, hreached, hends'⟩ :=
    exists_hears definition timers conditions (entries.flatMap NoisyDelivery.deliveries)
  obtain rfl : reached = taken' := hhears'.unique hreached
  obtain rfl : others = rest' := List.append_cancel_left (hreached.split.symm.trans hhears'.split)
  have hstop := hhears.late_or_fatal
  simp only [← @deadline_until _ _ definition.iterations] at hstop
  obtain ⟨htime, hending⟩ := hends.agree hends' (deadline_noisy hnoisy) hhead hstop
  exact ⟨reached, others, hreached, hnoisy, htime,
    conclude_noisy hends.reached hends'.reached hending hnoisy⟩

/-- Noise changes neither how a run ends nor when, and it is charged as it was taken. -/
theorem run_masks (hquiet : 0 < timers.quiet)
    (hentries : ∀ entry ∈ entries, entry.Harmless definition.iterations) :
    ∃ taken rest,
      Hears (timers.limitUntil (cancelTime conditions.cancellation))
        (Receipt.ofDeliveries 0 (entries.map NoisyDelivery.delivery)) taken rest ∧
      (run definition timers conditions (entries.map NoisyDelivery.delivery)).Masks
        (run definition timers conditions (entries.flatMap NoisyDelivery.deliveries))
        conditions.budget (Heard.traffic (Heard.ofReceipts taken))
        ((entries.take taken.length).map NoisyDelivery.size).sum := by
  obtain ⟨taken, rest, hhears, hends⟩ :=
    exists_hears definition timers conditions (entries.map NoisyDelivery.delivery)
  obtain ⟨taken', rest', hhears', hnoisy, htime, hconclude⟩ :=
    listened_noisy hquiet hentries hhears hends
  set clean := run definition timers conditions (entries.map NoisyDelivery.delivery) with hclean
  set noisy := run definition timers conditions (entries.flatMap NoisyDelivery.deliveries)
    with hnoise
  have hsame : noisy.outcome = clean.outcome ∧ noisy.elapsed = clean.elapsed ∧
      noisy.journal = clean.journal := by
    cases hbudget : conditions.budget.exhausted with
    | true =>
      rw [hclean, hnoise, run_of_exhausted hbudget, run_of_exhausted hbudget]
      exact ⟨rfl, rfl, rfl⟩
    | false =>
      rw [hclean, hnoise, run_of_admitted hbudget, run_of_admitted hbudget, htime, hconclude]
      exact ⟨rfl, rfl, rfl⟩
  obtain ⟨houtcome, helapsed, hjournal⟩ := hsame
  have hcharged : ∀ result, clean.outcome = .ok result →
      clean.budget = (conditions.budget.charge (Heard.traffic (Heard.ofReceipts taken))).1 ∧
        noisy.budget = (conditions.budget.charge (Heard.traffic (Heard.ofReceipts taken) +
          ((entries.take taken.length).map NoisyDelivery.size).sum)).1 := by
    intro result hok
    rw [← hnoisy.bytes]
    exact ⟨run_budget_of_ok hhears hok, run_budget_of_ok hhears' (houtcome.trans hok)⟩
  refine ⟨taken, rest, hhears, houtcome, helapsed, hjournal, hcharged, ?_, ?_⟩
  · intro result allowance hok hlimited hfits
    obtain ⟨hpaid, hpaid'⟩ := hcharged result hok
    rw [hpaid, hpaid', hlimited, Budget.charge_limited_of_le (Nat.le_of_add_right_le hfits),
      Budget.charge_limited_of_le hfits, Nat.add_assoc]
    exact ⟨rfl, rfl⟩
  · intro e herror
    exact ⟨run_budget_of_error herror, run_budget_of_error (houtcome.trans herror)⟩

/-- A datagram of one byte and the record of an eleventh train, behind the first packet of two. -/
theorem run_masks_two_datagrams :
    let entries : List NoisyDelivery :=
      [⟨⟨10, .datagram (TrainRecord.encode ⟨0, 0, 0⟩ 12)⟩,
          [[1], TrainRecord.encode ⟨0, 10, 0⟩ 12]⟩,
        ⟨⟨5, .failure .connectionRefused "nobody there"⟩, []⟩,
        ⟨⟨20, .datagram (TrainRecord.encode ⟨9, 0, 1⟩ 12)⟩, []⟩]
    let conditions : Conditions := ⟨.limited (.ofAvailable 1000), .never, true⟩
    (0 < ProbeTimers.initial.quiet ∧
      ∀ entry ∈ entries, entry.Harmless TrainsDefinition.initial.iterations) ∧
      ∃ taken rest,
        Hears (ProbeTimers.initial.limitUntil none)
          (Receipt.ofDeliveries 0 (entries.map NoisyDelivery.delivery)) taken rest ∧
        (run .initial .initial conditions (entries.map NoisyDelivery.delivery)).Masks
          (run .initial .initial conditions (entries.flatMap NoisyDelivery.deliveries))
          conditions.budget (Heard.traffic (Heard.ofReceipts taken))
          ((entries.take taken.length).map NoisyDelivery.size).sum := by
  intro entries conditions
  have hquiet : 0 < ProbeTimers.initial.quiet := by decide
  have hentries : ∀ entry ∈ entries, entry.Harmless TrainsDefinition.initial.iterations := by
    simp only [entries, List.forall_mem_cons]
    refine ⟨⟨?_, fun _ => ⟨_, rfl⟩⟩, ⟨?_, fun h => absurd rfl h⟩, ⟨?_, fun h => absurd rfl h⟩, ?_⟩
    · simp only [List.forall_mem_cons]
      exact ⟨Or.inl (by decide), Or.inr ⟨⟨0, 10, 0⟩, by decide, by decide⟩, by simp⟩
    all_goals simp
  exact ⟨⟨hquiet, hentries⟩, @run_masks .initial .initial conditions entries hquiet hentries⟩

end Noise

end Probe

end Throughput
