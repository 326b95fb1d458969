import Throughput.Proofs.Probe.Hearing

/-!
# How long a probe listens

What a probe takes from a script, told without its loop. It takes receipts as long as each comes
before the limit that the datagrams so far have set, and stops at the first one that does not, or
that is an error of its own. The limit is the inactivity timeout until something is heard, and the
quiet period after the last datagram from then on.
-/

namespace Throughput

/-- The receipts that are taken under a limit, and the others. -/
structure Hears (limit : List Heard → Nat) (receipts taken rest : List Receipt) : Prop where
  split : receipts = taken ++ rest
  harmless : ∀ receipt ∈ taken, receipt.fatal? = none
  timely : ∀ before receipt after, taken = before ++ receipt :: after →
    receipt.time < limit (Heard.ofReceipts before)
  stops : ∀ receipt ∈ rest.head?, receipt.time < limit (Heard.ofReceipts taken) →
    receipt.fatal?.isSome

namespace Hears

variable {limit : List Heard → Nat} {receipts taken rest : List Receipt} {receipt : Receipt}

theorem of_stop
    (hstop : ∀ receipt ∈ receipts.head?, receipt.time < limit [] → receipt.fatal?.isSome) :
    Hears limit receipts [] receipts where
  split := rfl
  harmless := by simp
  timely := by simp
  stops := hstop

theorem cons (hharmless : receipt.fatal? = none) (htimely : receipt.time < limit [])
    (hrest : Hears (fun later => limit (receipt.heard?.toList ++ later)) receipts taken rest) :
    Hears limit (receipt :: receipts) (receipt :: taken) rest := by
  refine ⟨by rw [hrest.split]; rfl, ?_, ?_, ?_⟩
  · intro taking hmem
    rcases List.mem_cons.mp hmem with rfl | hmem
    · exact hharmless
    · exact hrest.harmless taking hmem
  · intro before taking after hsplit
    cases before with
    | nil =>
      obtain ⟨rfl, -⟩ := List.cons.inj hsplit
      exact htimely
    | cons first before =>
      obtain ⟨rfl, htail⟩ := List.cons.inj hsplit
      rw [Heard.ofReceipts_cons]
      exact hrest.timely before taking after htail
  · intro stopping hmem
    rw [Heard.ofReceipts_cons]
    exact hrest.stops stopping hmem

/-- What is taken first is followed by nothing that could have been taken as well. -/
theorem not_longer {more others : List Receipt} (hhears : Hears limit receipts taken rest)
    (hlonger : Hears limit receipts (taken ++ receipt :: more) others) : False := by
  have hhead : rest.head? = some receipt := by
    have hsplit : taken ++ rest = taken ++ (receipt :: more ++ others) := by
      rw [← hhears.split, hlonger.split, List.append_assoc]
    rw [List.append_cancel_left hsplit]
    rfl
  have htimely := hlonger.timely taken receipt more rfl
  have hfatal := hhears.stops receipt hhead htimely
  rw [hlonger.harmless receipt (by simp)] at hfatal
  cases hfatal

/-- A limit settles which receipts are taken. -/
theorem unique {taken' rest' : List Receipt} (hhears : Hears limit receipts taken rest)
    (hhears' : Hears limit receipts taken' rest') : taken' = taken := by
  have hprefix : taken <+: receipts := ⟨rest, hhears.split.symm⟩
  have hprefix' : taken' <+: receipts := ⟨rest', hhears'.split.symm⟩
  rcases List.prefix_or_prefix_of_prefix hprefix hprefix' with ⟨more, rfl⟩ | ⟨more, rfl⟩
  · cases more with
    | nil => exact List.append_nil taken
    | cons receipt more => exact (hhears.not_longer hhears').elim
  · cases more with
    | nil => exact (List.append_nil taken').symm
    | cons receipt more => exact (hhears'.not_longer hhears).elim

theorem late_or_fatal (hhears : Hears limit receipts taken rest) :
    (∀ receipt ∈ rest.head?, limit (Heard.ofReceipts taken) ≤ receipt.time) ∨
      ∃ receipt cause, rest.head? = some receipt ∧ receipt.fatal? = some cause ∧
        receipt.time < limit (Heard.ofReceipts taken) := by
  cases hhead : rest.head? with
  | none => exact Or.inl (by simp)
  | some receipt =>
    by_cases htimely : receipt.time < limit (Heard.ofReceipts taken)
    · obtain ⟨cause, hcause⟩ := Option.isSome_iff_exists.mp (hhears.stops receipt hhead htimely)
      exact Or.inr ⟨receipt, cause, rfl, hcause, htimely⟩
    · exact Or.inl (by simpa using htimely)

end Hears

/-- How listening ends when the probe has stopped before `rest`: with an error that comes in time,
or else when the deadline of the probe is reached. -/
structure Listening.EndsWith (listening : Listening) (probe : Probe) (cancelAt : Option Nat)
    (rest : List Receipt) : Prop where
  reached : listening.probe = probe
  failed : ∀ receipt cause, rest.head? = some receipt → receipt.fatal? = some cause →
    receipt.time < (probe.deadline cancelAt).1 →
      listening.time = receipt.time ∧ listening.ending = .failed cause
  expired : (∀ receipt ∈ rest.head?, (probe.deadline cancelAt).1 ≤ receipt.time) →
    listening.time = (probe.deadline cancelAt).1 ∧
      listening.ending = (probe.deadline cancelAt).2

theorem Listening.EndsWith.after {listening : Listening} {probe : Probe} {cancelAt : Option Nat}
    {rest : List Receipt} (h : listening.EndsWith probe cancelAt rest) (state : ProbeState) :
    (listening.after state).EndsWith probe cancelAt rest :=
  ⟨h.reached, h.failed, h.expired⟩

namespace Probe

variable {iterations : UInt16} {timers : ProbeTimers} {cancelAt : Option Nat}

section Deadline

variable {probe : Probe} {now time : Nat}

theorem deadline_of_timer_lt (h : probe.timer.1 < time) :
    probe.deadline (some time) = probe.timer :=
  if_neg (Nat.not_le.mpr h)

theorem deadline_of_le_timer (h : time ≤ probe.timer.1) :
    probe.deadline (some time) = (time, .cancelled) :=
  if_pos h

theorem deadline_eq_min (probe : Probe) (time : Nat) :
    (probe.deadline (some time)).1 = min time probe.timer.1 := by
  rcases Nat.lt_or_ge probe.timer.1 time with hbefore | hafter
  · rw [deadline_of_timer_lt hbefore, Nat.min_eq_right (Nat.le_of_lt hbefore)]
  · rw [deadline_of_le_timer hafter, Nat.min_eq_left hafter]

theorem expire_eq (probe : Probe) (cancelAt : Option Nat) (now : Nat) :
    probe.expire cancelAt now =
      if (probe.deadline cancelAt).1 ≤ now then ⟨probe, [], now, (probe.deadline cancelAt).2⟩
      else ⟨probe, [probe.state], (probe.deadline cancelAt).1, (probe.deadline cancelAt).2⟩ :=
  rfl

theorem time_expire {cancelAt : Option Nat} (hnow : now ≤ (probe.deadline cancelAt).1) :
    (probe.expire cancelAt now).time = (probe.deadline cancelAt).1 := by
  rw [expire_eq]
  by_cases hstop : (probe.deadline cancelAt).1 ≤ now
  · rw [if_pos hstop]
    exact Nat.le_antisymm hnow hstop
  · rw [if_neg hstop]

theorem ending_expire (probe : Probe) (cancelAt : Option Nat) (now : Nat) :
    (probe.expire cancelAt now).ending = (probe.deadline cancelAt).2 := by
  rw [expire_eq]
  split <;> rfl

/-- Deliveries of which the first comes too late are not taken. -/
theorem listen_eq_expire {cancelAt : Option Nat} {deliveries : List Delivery}
    (hlate : ∀ delivery ∈ deliveries.head?,
      (probe.deadline cancelAt).1 ≤ now + delivery.delay) :
    listen timers cancelAt probe now deliveries = probe.expire cancelAt now := by
  cases deliveries with
  | nil => rfl
  | cons delivery deliveries => exact if_pos (hlate delivery rfl)

theorem listen_take {cancelAt : Option Nat} {delivery : Delivery} (deliveries : List Delivery)
    (htimely : now + delivery.delay < (probe.deadline cancelAt).1) :
    listen timers cancelAt probe now (delivery :: deliveries) =
      match delivery.reception with
      | .datagram datagram =>
        (listen timers cancelAt (probe.receive timers (now + delivery.delay) datagram)
          (now + delivery.delay) deliveries).after probe.state
      | .failure fault cause =>
        if fault.isUnreachable then
          (listen timers cancelAt probe (now + delivery.delay) deliveries).after probe.state
        else ⟨probe, [probe.state], now + delivery.delay, .failed cause⟩ :=
  if_neg (Nat.not_le.mpr htimely)

end Deadline

theorem le_deadline {probe next : Probe} {time : Nat} (hbefore : time < (probe.deadline cancelAt).1)
    (htimer : time ≤ next.timer.1) : time ≤ (next.deadline cancelAt).1 := by
  cases cancelAt with
  | none => exact htimer
  | some cancel =>
    rw [deadline_eq_min] at hbefore ⊢
    omega

theorem endsWith_expire {probe : Probe} {now : Nat} {rest : List Receipt}
    (hnow : now ≤ (probe.deadline cancelAt).1)
    (hlate : ∀ receipt ∈ rest.head?, (probe.deadline cancelAt).1 ≤ receipt.time) :
    (probe.expire cancelAt now).EndsWith probe cancelAt rest where
  reached := by
    rw [expire_eq]
    split <;> rfl
  failed := by
    intro receipt cause hhead _ htimely
    exact absurd (hlate receipt hhead) (Nat.not_le.mpr htimely)
  expired := fun _ => ⟨time_expire hnow, ending_expire probe cancelAt now⟩

section Delivery

variable {heard : List Heard} {delivery : Delivery} {now : Nat}

theorem listen_datagram {datagram : Datagram} (deliveries : List Delivery)
    (htimely : now + delivery.delay < ((ofHeard iterations timers heard).deadline cancelAt).1)
    (hreception : delivery.reception = .datagram datagram) :
    listen timers cancelAt (ofHeard iterations timers heard) now (delivery :: deliveries) =
      (listen timers cancelAt
        (ofHeard iterations timers (heard ++ [⟨now + delivery.delay, datagram⟩]))
        (now + delivery.delay) deliveries).after (ofHeard iterations timers heard).state := by
  rw [listen_take deliveries htimely, hreception, ← receive_ofHeard]

theorem listen_failure {fault : SocketFault} {cause : String} (deliveries : List Delivery)
    (htimely : now + delivery.delay < ((ofHeard iterations timers heard).deadline cancelAt).1)
    (hreception : delivery.reception = .failure fault cause) :
    listen timers cancelAt (ofHeard iterations timers heard) now (delivery :: deliveries) =
      if fault.isUnreachable then
        (listen timers cancelAt (ofHeard iterations timers heard) (now + delivery.delay)
          deliveries).after (ofHeard iterations timers heard).state
      else
        ⟨ofHeard iterations timers heard, [(ofHeard iterations timers heard).state],
          now + delivery.delay, .failed cause⟩ := by
  rw [listen_take deliveries htimely, hreception]

theorem listen_late (deliveries : List Delivery)
    (hnow : now ≤ ((ofHeard iterations timers heard).deadline cancelAt).1)
    (hlate : ((ofHeard iterations timers heard).deadline cancelAt).1 ≤ now + delivery.delay) :
    Hears (fun later => ((ofHeard iterations timers (heard ++ later)).deadline cancelAt).1)
        (Receipt.ofDeliveries now (delivery :: deliveries)) []
        (Receipt.ofDeliveries now (delivery :: deliveries)) ∧
      (listen timers cancelAt (ofHeard iterations timers heard) now
        (delivery :: deliveries)).EndsWith (ofHeard iterations timers heard) cancelAt
        (Receipt.ofDeliveries now (delivery :: deliveries)) := by
  constructor
  · apply Hears.of_stop
    simp only [Receipt.ofDeliveries, List.head?_cons, Option.mem_some_iff, List.append_nil]
    rintro receipt rfl htimely
    exact absurd hlate (Nat.not_le.mpr htimely)
  · rw [listen_eq_expire (by simpa using hlate)]
    apply endsWith_expire hnow
    simpa [Receipt.ofDeliveries] using hlate

theorem listen_fatal {fault : SocketFault} {cause : String} (deliveries : List Delivery)
    (htimely : now + delivery.delay < ((ofHeard iterations timers heard).deadline cancelAt).1)
    (hreception : delivery.reception = .failure fault cause)
    (hfatal : fault.isUnreachable = false) :
    Hears (fun later => ((ofHeard iterations timers (heard ++ later)).deadline cancelAt).1)
        (Receipt.ofDeliveries now (delivery :: deliveries)) []
        (Receipt.ofDeliveries now (delivery :: deliveries)) ∧
      (listen timers cancelAt (ofHeard iterations timers heard) now
        (delivery :: deliveries)).EndsWith (ofHeard iterations timers heard) cancelAt
        (Receipt.ofDeliveries now (delivery :: deliveries)) := by
  have hhead : (Receipt.ofDeliveries now (delivery :: deliveries)).head? =
      some ⟨now + delivery.delay, .failure fault cause⟩ := by
    rw [Receipt.ofDeliveries, hreception]
    rfl
  constructor
  · apply Hears.of_stop
    simp [hhead, Receipt.fatal?, hfatal]
  · rw [listen_failure deliveries htimely hreception, hfatal]
    refine ⟨rfl, ?_, ?_⟩
    · intro receipt other hfirst hcause _
      obtain rfl := Option.some.inj (hhead.symm.trans hfirst)
      simp_all [Receipt.fatal?]
    · intro hlate
      exact absurd htimely (Nat.not_lt.mpr (hlate _ hhead))

end Delivery

/-- Listening goes on from what was heard to what is taken after that. -/
theorem listen_ofHeard (deliveries : List Delivery) (heard : List Heard) (now : Nat)
    (hnow : now ≤ ((ofHeard iterations timers heard).deadline cancelAt).1) :
    ∃ taken rest,
      Hears (fun later => ((ofHeard iterations timers (heard ++ later)).deadline cancelAt).1)
        (Receipt.ofDeliveries now deliveries) taken rest ∧
      (listen timers cancelAt (ofHeard iterations timers heard) now deliveries).EndsWith
        (ofHeard iterations timers (heard ++ Heard.ofReceipts taken)) cancelAt rest := by
  -- What was heard before is general, since each datagram adds to it.
  induction deliveries generalizing heard now with
  | nil =>
    refine ⟨[], [], .of_stop (by simp [Receipt.ofDeliveries]), ?_⟩
    simpa [listen, Heard.ofReceipts] using endsWith_expire hnow (by simp)
  | cons delivery deliveries ih =>
    by_cases hlate : ((ofHeard iterations timers heard).deadline cancelAt).1 ≤ now + delivery.delay
    · obtain ⟨hhears, hends⟩ := listen_late deliveries hnow hlate
      exact ⟨[], _, hhears, by simpa [Heard.ofReceipts] using hends⟩
    have htimely := Nat.not_le.mp hlate
    cases hreception : delivery.reception with
    | datagram datagram =>
      have hnext : now + delivery.delay ≤
          ((ofHeard iterations timers (heard ++ [⟨now + delivery.delay, datagram⟩])).deadline
            cancelAt).1 := by
        refine le_deadline htimely ?_
        simp [timer_ofHeard, ProbeTimers.limit]
      obtain ⟨taken, rest, hhears, hends⟩ := ih _ _ hnext
      refine ⟨⟨now + delivery.delay, .datagram datagram⟩ :: taken, rest, ?_, ?_⟩
      · rw [Receipt.ofDeliveries, hreception]
        refine .cons rfl (by simpa using htimely) ?_
        simpa [Receipt.heard?] using hhears
      · rw [listen_datagram deliveries htimely hreception]
        rw [Heard.ofReceipts_cons, ← List.append_assoc]
        exact hends.after _
    | failure fault cause =>
      cases hfault : fault.isUnreachable with
      | true =>
        obtain ⟨taken, rest, hhears, hends⟩ :=
          ih heard (now + delivery.delay) (Nat.le_of_lt htimely)
        refine ⟨⟨now + delivery.delay, .failure fault cause⟩ :: taken, rest, ?_, ?_⟩
        · rw [Receipt.ofDeliveries, hreception]
          refine .cons (by simp [Receipt.fatal?, hfault]) (by simpa using htimely) ?_
          simpa [Receipt.heard?] using hhears
        · rw [listen_failure deliveries htimely hreception, hfault, Heard.ofReceipts_cons]
          exact hends.after _
      | false =>
        obtain ⟨hhears, hends⟩ := listen_fatal deliveries htimely hreception hfault
        exact ⟨[], _, hhears, by simpa [Heard.ofReceipts] using hends⟩

end Probe

end Throughput
