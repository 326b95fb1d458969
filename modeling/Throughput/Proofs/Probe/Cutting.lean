import Throughput.Proofs.Probe.Listening

/-!
# Cutting off a probe

A cancellation changes nothing for a probe that has stopped before. Any other probe stops with it,
and what would have come later has no part in where the probe stands then: neither a delivery nor a
timer that would have fired.
-/

namespace Throughput

/-- Two moments that are the same, or both later than a given time. -/
def SameUntil (time left right : Nat) : Prop :=
  left = right ∨ time < left ∧ time < right

namespace Receipt

variable {now time : Nat} {delivery : Delivery} {deliveries : List Delivery}

theorem le_time_of_mem {receipt : Receipt} (hmem : receipt ∈ ofDeliveries now deliveries) :
    now ≤ receipt.time := by
  induction deliveries generalizing now with
  | nil => cases hmem
  | cons delivery deliveries ih =>
    rcases List.mem_cons.mp hmem with rfl | hlater
    · exact Nat.le_add_right now delivery.delay
    · exact Nat.le_trans (Nat.le_add_right now delivery.delay) (ih hlater)

/-- What comes up to a time. -/
def upTo (time : Nat) (receipts : List Receipt) : List Receipt :=
  receipts.filter fun receipt => receipt.time ≤ time

theorem upTo_cons (htimely : now + delivery.delay ≤ time) :
    upTo time (ofDeliveries now (delivery :: deliveries)) =
      ⟨now + delivery.delay, delivery.reception⟩ ::
        upTo time (ofDeliveries (now + delivery.delay) deliveries) :=
  List.filter_cons_of_pos (decide_eq_true htimely)

theorem upTo_late (hlate : time < now + delivery.delay) :
    upTo time (ofDeliveries now (delivery :: deliveries)) = [] := by
  rw [upTo, List.filter_eq_nil_iff]
  intro receipt hmem
  have hle : now + delivery.delay ≤ receipt.time := by
    rcases List.mem_cons.mp hmem with rfl | hlater
    · exact Nat.le_refl _
    · exact le_time_of_mem hlater
  simpa using Nat.lt_of_lt_of_le hlate hle

/-- Deliveries that agree up to a time begin with the same one if it comes by then. -/
theorem exists_cons_of_upTo {others : List Delivery} (htimely : now + delivery.delay ≤ time)
    (hsame : upTo time (ofDeliveries now (delivery :: deliveries)) =
      upTo time (ofDeliveries now others)) :
    ∃ rest, others = delivery :: rest ∧
      upTo time (ofDeliveries (now + delivery.delay) deliveries) =
        upTo time (ofDeliveries (now + delivery.delay) rest) := by
  rw [upTo_cons htimely] at hsame
  cases others with
  | nil => cases hsame
  | cons other rest =>
    rcases Nat.lt_or_ge time (now + other.delay) with hlate | hother
    · rw [upTo_late hlate] at hsame
      cases hsame
    · rw [upTo_cons hother] at hsame
      obtain ⟨hhead, hrest⟩ := List.cons.inj hsame
      obtain ⟨hdelay, hreception⟩ := Receipt.mk.inj hhead
      have heq : delivery = other := by
        cases delivery
        cases other
        exact congrArg₂ Delivery.mk (Nat.add_left_cancel hdelay) hreception
      subst heq
      exact ⟨rest, rfl, hrest⟩

theorem late_of_upTo {bound : Nat} {others : List Delivery} (hbound : bound ≤ time)
    (hsame : upTo time (ofDeliveries now deliveries) = upTo time (ofDeliveries now others))
    (hlate : ∀ delivery ∈ deliveries.head?, bound ≤ now + delivery.delay) :
    ∀ delivery ∈ others.head?, bound ≤ now + delivery.delay := by
  intro delivery hhead
  by_contra hearly
  obtain ⟨rest, rfl⟩ := List.head?_eq_some_iff.mp hhead
  obtain ⟨more, rfl, -⟩ := exists_cons_of_upTo (by omega) hsame.symm
  exact hearly (hlate delivery rfl)

end Receipt

/-- A probe that listens until it stops of itself, and the same probe cancelled at some time. -/
structure Listening.CutAt (time : Nat) (whole cut : Listening) : Prop where
  kept : whole.time < time → cut = whole
  cancelled : time ≤ whole.time → cut.time = time ∧ cut.ending = .cancelled

theorem Listening.CutAt.after {time : Nat} {whole cut : Listening} (h : whole.CutAt time cut)
    (state : ProbeState) : (whole.after state).CutAt time (cut.after state) where
  kept := fun hbefore => congrArg (Listening.after state) (h.kept hbefore)
  cancelled := h.cancelled

namespace Probe

section Cut

variable {timers : ProbeTimers} {probe : Probe} {now time : Nat}

/-- A probe that has just received something waits for the quiet period. -/
theorem timer_receive (timers : ProbeTimers) (probe : Probe) (now : Nat) (datagram : Datagram) :
    (probe.receive timers now datagram).timer = (now + timers.quiet, .quiet) :=
  if_pos (Nat.add_lt_add_left timers.quiet_lt_inactivity now)

theorem le_timer_receive (timers : ProbeTimers) (probe : Probe) (now : Nat) (datagram : Datagram) :
    now ≤ (probe.receive timers now datagram).timer.1 := by
  rw [timer_receive]
  exact Nat.le_add_right now timers.quiet

theorem cutAt_expire (hnow : now ≤ probe.timer.1) (htime : now ≤ time) :
    (probe.expire none now).CutAt time (probe.expire (some time) now) where
  kept := by
    rw [time_expire hnow]
    intro hbefore
    rw [expire_eq, expire_eq, deadline_of_timer_lt hbefore]
    rfl
  cancelled := by
    rw [time_expire hnow]
    intro hafter
    have hdeadline : probe.deadline (some time) = (time, .cancelled) := deadline_of_le_timer hafter
    rw [time_expire (by rwa [hdeadline]), ending_expire, hdeadline]
    exact ⟨rfl, rfl⟩

/-- A probe does not stop before its timer fires or something comes. -/
theorem le_time_listen {bound : Nat} (timers : ProbeTimers) (deliveries : List Delivery)
    (hnow : now ≤ probe.timer.1) (htimer : bound ≤ probe.timer.1)
    (hhead : ∀ delivery ∈ deliveries.head?, bound ≤ now + delivery.delay) :
    bound ≤ (listen timers none probe now deliveries).time := by
  -- What comes first is the bound from then on.
  induction deliveries generalizing probe now bound with
  | nil =>
    rw [listen, time_expire hnow]
    exact htimer
  | cons delivery deliveries ih =>
    have hbound : bound ≤ now + delivery.delay := hhead delivery rfl
    rcases Nat.lt_or_ge (now + delivery.delay) probe.timer.1 with htimely | hlate
    · rw [listen_take deliveries htimely]
      have hnext : ∀ next ∈ deliveries.head?,
          now + delivery.delay ≤ now + delivery.delay + next.delay :=
        fun next _ => Nat.le_add_right _ next.delay
      cases delivery.reception with
      | datagram datagram =>
        have htimer := le_timer_receive timers probe (now + delivery.delay) datagram
        exact Nat.le_trans hbound (ih htimer htimer hnext)
      | failure fault cause =>
        dsimp only
        cases fault.isUnreachable with
        | true =>
          have htimer := Nat.le_of_lt htimely
          exact Nat.le_trans hbound (ih htimer htimer hnext)
        | false => exact hbound
    · rw [listen_eq_expire (by simpa [deadline] using hlate), time_expire hnow]
      exact htimer

/-- A cancellation stops a probe that goes on for longer, and no other. -/
theorem cutAt_listen (timers : ProbeTimers) (deliveries : List Delivery)
    (hnow : now ≤ probe.timer.1) (htime : now ≤ time) :
    (listen timers none probe now deliveries).CutAt time
      (listen timers (some time) probe now deliveries) := by
  -- Both take the same deliveries until the timer or the cancellation comes first.
  induction deliveries generalizing probe now with
  | nil => exact cutAt_expire hnow htime
  | cons delivery deliveries ih =>
    have hdeadline := probe.deadline_eq_min time
    rcases Nat.lt_or_ge (now + delivery.delay) probe.timer.1 with htimely | hlate
    · rcases Nat.lt_or_ge (now + delivery.delay) time with hbefore | hcancelled
      · rw [listen_take deliveries htimely, listen_take deliveries (by omega)]
        cases delivery.reception with
        | datagram datagram =>
          have hnext := le_timer_receive timers probe (now + delivery.delay) datagram
          exact (ih hnext (Nat.le_of_lt hbefore)).after probe.state
        | failure fault cause =>
          dsimp only
          cases fault.isUnreachable with
          | true => exact (ih (Nat.le_of_lt htimely) (Nat.le_of_lt hbefore)).after probe.state
          | false => exact ⟨fun _ => rfl, fun hafter => absurd hafter (Nat.not_le.mpr hbefore)⟩
      · have hwhole : time ≤ (listen timers none probe now (delivery :: deliveries)).time :=
          le_time_listen timers _ hnow (by omega) (by simpa using hcancelled)
        have hdue : time ≤ probe.timer.1 := by omega
        rw [@listen_eq_expire timers probe now (some time) _ (by simp; omega)]
        refine ⟨fun hbefore => absurd hwhole (Nat.not_le.mpr hbefore), fun _ => ?_⟩
        exact (cutAt_expire hnow htime).cancelled (by rwa [time_expire hnow])
    · rw [listen_eq_expire (by simpa [deadline] using hlate), listen_eq_expire (by simp; omega)]
      exact cutAt_expire hnow htime

end Cut

/-! ### What a cancelled probe does not see -/

/-- A probe apart from its timers. -/
def untimed (probe : Probe) : Probe :=
  { probe with inactiveAt := 0, quietAt := none }

/-- Probes that differ at most in timers that fire after the cancellation. -/
structure Alike (time : Nat) (left right : Probe) : Prop where
  untimed : left.untimed = right.untimed
  deadline : left.deadline (some time) = right.deadline (some time)

section Alike

variable {time : Nat}

theorem deadline_congr {left right : Probe} {ending : ReceptionEnd} {first second : Nat}
    (hleft : left.timer = (first, ending)) (hright : right.timer = (second, ending))
    (hsame : SameUntil time first second) :
    left.deadline (some time) = right.deadline (some time) := by
  rcases hsame with rfl | ⟨hfirst, hsecond⟩
  · rw [deadline, deadline, hleft, hright]
  · rw [deadline_of_le_timer (by rw [hleft]; exact Nat.le_of_lt hfirst),
      deadline_of_le_timer (by rw [hright]; exact Nat.le_of_lt hsecond)]

theorem alike_ofIterations (iterations : UInt16) {timers others : ProbeTimers}
    (hinactivity : SameUntil time timers.inactivity others.inactivity) :
    Alike time (ofIterations iterations timers) (ofIterations iterations others) :=
  ⟨rfl, deadline_congr rfl rfl hinactivity⟩

variable {timers others : ProbeTimers} {left right : Probe} (halike : Alike time left right)
include halike

theorem Alike.state : left.state = right.state :=
  congrArg (·.state) halike.untimed

theorem Alike.receive (hquiet : SameUntil time timers.quiet others.quiet) (now : Nat)
    (datagram : Datagram) :
    Alike time (left.receive timers now datagram) (right.receive others now datagram) where
  untimed := by
    have hbuckets : left.buckets = right.buckets := congrArg (·.buckets) halike.untimed
    have hepoch : left.epoch = right.epoch := congrArg (·.epoch) halike.untimed
    have hbytes : left.bytes = right.bytes := congrArg (·.bytes) halike.untimed
    have hstates : left.states = right.states := congrArg (·.states) halike.untimed
    have hawaken : left.awaken.states = right.awaken.states := by
      rw [awaken, awaken, hepoch]
      split
      · exact congrArg (· ++ [ProbeState.receiving]) hstates
      · exact hstates
    simp only [Probe.untimed, Probe.receive, hbuckets, hepoch, hbytes, hawaken]
  deadline := by
    refine deadline_congr (timer_receive ..) (timer_receive ..) ?_
    rcases hquiet with hsame | ⟨hleft, hright⟩
    · exact Or.inl (congrArg (now + ·) hsame)
    · exact Or.inr ⟨Nat.lt_add_left now hleft, Nat.lt_add_left now hright⟩

end Alike

end Probe

/-- Where a probe stopped, apart from its timers. -/
def Listening.untimed (listening : Listening) : Listening :=
  { listening with probe := listening.probe.untimed }

namespace Probe

section Blind

variable {time now : Nat} {timers others : ProbeTimers} {left right : Probe}

theorem Alike.expire (halike : Alike time left right) (now : Nat) :
    (left.expire (some time) now).untimed = (right.expire (some time) now).untimed := by
  rw [expire_eq, expire_eq, halike.deadline, halike.state]
  split <;> simp only [Listening.untimed, halike.untimed]

theorem untimed_after {state : ProbeState} {whole other : Listening}
    (hsame : whole.untimed = other.untimed) :
    (whole.after state).untimed = (other.after state).untimed :=
  congrArg (Listening.after state) hsame

theorem Alike.listen_late (halike : Alike time left right) {deliveries later : List Delivery}
    (hsame : Receipt.upTo time (Receipt.ofDeliveries now deliveries) =
      Receipt.upTo time (Receipt.ofDeliveries now later))
    (hlate : ∀ delivery ∈ deliveries.head?,
      (left.deadline (some time)).1 ≤ now + delivery.delay) :
    (listen timers (some time) left now deliveries).untimed =
      (listen others (some time) right now later).untimed := by
  have hbound : (left.deadline (some time)).1 ≤ time := by
    rw [deadline_eq_min]
    exact Nat.min_le_left _ _
  have hlater := Receipt.late_of_upTo hbound hsame hlate
  rw [halike.deadline] at hlater
  rw [listen_eq_expire hlate, listen_eq_expire hlater]
  exact halike.expire now

/-- What comes after a cancellation is not heard, and timers that would fire after it have no
effect. -/
theorem Alike.listen (hquiet : SameUntil time timers.quiet others.quiet)
    (halike : Alike time left right) {deliveries later : List Delivery}
    (hsame : Receipt.upTo time (Receipt.ofDeliveries now deliveries) =
      Receipt.upTo time (Receipt.ofDeliveries now later)) :
    (listen timers (some time) left now deliveries).untimed =
      (listen others (some time) right now later).untimed := by
  induction deliveries generalizing left right now later with
  | nil => exact halike.listen_late hsame (by simp)
  | cons delivery deliveries ih =>
    rcases Nat.lt_or_ge (now + delivery.delay) (left.deadline (some time)).1 with htimely | hlate
    · have hbefore : now + delivery.delay ≤ time := by
        have hmin := left.deadline_eq_min time
        omega
      obtain ⟨rest, rfl, hrest⟩ := Receipt.exists_cons_of_upTo hbefore hsame
      rw [listen_take deliveries htimely, listen_take rest (halike.deadline ▸ htimely),
        halike.state]
      cases delivery.reception with
      | datagram datagram => exact untimed_after (ih (halike.receive hquiet _ _) hrest)
      | failure fault cause =>
        dsimp only
        cases fault.isUnreachable with
        | true => exact untimed_after (ih halike hrest)
        | false => simp [Listening.untimed, halike.untimed]
    · exact halike.listen_late hsame (by simpa using hlate)

end Blind

end Probe

end Throughput
