import Throughput.Proofs.Definition
import Throughput.Proofs.Probe.Outcome
import Throughput.Proofs.Sender

/-!
# A probe that hears a sender

What a probe files of the packets of a sender with the same definition. The packets of one train come
together, and the next train comes a gap later. A gap that is shorter than the quiet period goes
unnoticed; a longer one, and one that lasts just as long, ends the run after the first train.
-/

namespace Throughput

/-- The deliveries of a channel that takes no time, loses nothing and keeps the order. -/
def Delivery.ofDepartures (now : Nat) : List Departure → List Delivery
  | [] => []
  | departure :: rest =>
    ⟨departure.time - now, .datagram departure.datagram⟩ :: ofDepartures departure.time rest

def Departure.receipt (departure : Departure) : Receipt :=
  ⟨departure.time, .datagram departure.datagram⟩

def Departure.heard (departure : Departure) : Heard :=
  ⟨departure.time, departure.datagram⟩

theorem Receipt.ofDeliveries_ofDepartures {now : Nat} {departures : List Departure}
    (hnow : ∀ departure ∈ departures, now ≤ departure.time)
    (hordered : departures.Pairwise fun left right => left.time ≤ right.time) :
    ofDeliveries now (Delivery.ofDepartures now departures) =
      departures.map Departure.receipt := by
  induction departures generalizing now with
  | nil => rfl
  | cons departure rest ih =>
    obtain ⟨hlater, hrest⟩ := List.pairwise_cons.mp hordered
    have htime : now + (departure.time - now) = departure.time :=
      Nat.add_sub_cancel' (hnow departure List.mem_cons_self)
    simp only [Delivery.ofDepartures, ofDeliveries, htime, ih hlater hrest]
    rfl

theorem Heard.ofReceipts_receipt (departures : List Departure) :
    ofReceipts (departures.map Departure.receipt) = departures.map Departure.heard := by
  rw [ofReceipts, List.filterMap_map, ← List.filterMap_eq_map]
  rfl

namespace TrainsDefinition

variable (definition : TrainsDefinition)

/-- The buckets that hold the first trains in full and nothing else. -/
def filed (count : Nat) : Buckets where
  trains := (List.range definition.iterations.toNat).map fun iteration =>
    if iteration < count then
      (List.range definition.trainLength.toNat).map fun sequence =>
        { sequence := UInt16.ofNat sequence
          sent := Numeric.clampWord64 (definition.trainTime iteration)
          received := Numeric.clampWord64 (definition.trainTime iteration)
          order := UInt32.ofNat (iteration * definition.trainLength.toNat + sequence) }
    else []
  received := UInt32.ofNat (count * definition.trainLength.toNat)

/-- The record at a place, and when the probe hears it. -/
def stampedAt (place : Nat) : StampedRecord :=
  let stamp := Numeric.clampWord64 (definition.trainTime (place / definition.trainLength.toNat))
  ⟨⟨stamp, UInt16.ofNat (place / definition.trainLength.toNat),
    UInt16.ofNat (place % definition.trainLength.toNat)⟩, stamp⟩

theorem trainTime_mono {early late : Nat} (h : early ≤ late) :
    definition.trainTime early ≤ definition.trainTime late :=
  Nat.mul_le_mul_right _ h

theorem pairwise_firstTrains (hlength : 0 < definition.trainLength.toNat) (count : Nat) :
    (definition.firstTrains count).Pairwise fun left right => left.time ≤ right.time := by
  rw [definition.firstTrains_eq hlength, List.pairwise_map]
  refine List.pairwise_lt_range.imp fun {early late} hlt => ?_
  exact definition.trainTime_mono (Nat.div_le_div_right (Nat.le_of_lt hlt))

theorem records_firstTrains (hlength : 0 < definition.trainLength.toNat) (count : Nat) :
    Heard.records ((definition.firstTrains count).map Departure.heard) =
      (List.range (count * definition.trainLength.toNat)).map definition.stampedAt := by
  have hstamped : ∀ place, Heard.stamped? 0 (definition.departureAt place).heard =
      some (definition.stampedAt place) := by
    intro place
    rw [Heard.stamped?, Departure.heard, departureAt, departure, TrainRecord.decode_encode]
    rfl
  rw [definition.firstTrains_eq hlength, List.map_map]
  cases hplaces : count * definition.trainLength.toNat with
  | zero => rfl
  | succ places =>
    have hfirst : (definition.departureAt 0).heard.time = 0 := by
      simp [Departure.heard, departureAt, departure, trainTime]
    rw [List.range_succ_eq_map, List.map_cons, Heard.records, ← List.map_cons,
      ← List.range_succ_eq_map, Function.comp_apply, hfirst, List.filterMap_map,
      ← List.filterMap_eq_map]
    exact List.filterMap_congr fun place _ => hstamped place

/-- The places of one train. -/
theorem filter_places (hlength : 0 < definition.trainLength.toNat) (count iteration : Nat) :
    (List.range (count * definition.trainLength.toNat)).filter
        (fun place => place / definition.trainLength.toNat = iteration) =
      if iteration < count then
        (List.range definition.trainLength.toNat).map
          (iteration * definition.trainLength.toNat + ·)
      else [] := by
  induction count with
  | zero => simp
  | succ count ih =>
    have hplaces : ∀ sequence ∈ List.range definition.trainLength.toNat,
        (count * definition.trainLength.toNat + sequence) / definition.trainLength.toNat =
          count := by
      intro sequence hmem
      rw [Nat.mul_comm, Nat.mul_add_div hlength, Nat.div_eq_of_lt (List.mem_range.mp hmem),
        Nat.add_zero]
    rw [Nat.succ_mul, List.range_add, List.filter_append, ih, List.filter_map]
    rcases Nat.lt_trichotomy iteration count with hbefore | rfl | hafter
    · rw [if_pos hbefore, if_pos (Nat.lt_succ_of_lt hbefore), List.filter_eq_nil_iff.mpr,
        List.map_nil, List.append_nil]
      intro sequence hmem
      simpa [hplaces sequence hmem] using Nat.ne_of_gt hbefore
    · rw [if_neg (Nat.lt_irrefl iteration), if_pos (Nat.lt_succ_self iteration), List.nil_append,
        List.filter_eq_self.mpr]
      intro sequence hmem
      simp [hplaces sequence hmem]
    · rw [if_neg (Nat.not_lt_of_gt hafter), if_neg (Nat.not_lt.mpr hafter), List.nil_append,
        List.filter_eq_nil_iff.mpr, List.map_nil]
      intro sequence hmem
      simpa [hplaces sequence hmem] using Nat.ne_of_lt hafter

theorem trainOf_stampedAt (hlength : 0 < definition.trainLength.toNat) {count : Nat}
    (hcount : count ≤ definition.iterations.toNat) (iteration : Nat) :
    Buckets.trainOf ((List.range (count * definition.trainLength.toNat)).map definition.stampedAt)
        iteration =
      if iteration < count then
        (List.range definition.trainLength.toNat).map fun sequence =>
          { sequence := UInt16.ofNat sequence
            sent := Numeric.clampWord64 (definition.trainTime iteration)
            received := Numeric.clampWord64 (definition.trainTime iteration)
            order := UInt32.ofNat (iteration * definition.trainLength.toNat + sequence) }
      else [] := by
  have hindexed : ((List.range (count * definition.trainLength.toNat)).map
      definition.stampedAt).zipIdx = (List.range (count * definition.trainLength.toNat)).map
        fun place => (definition.stampedAt place, place) := by
    apply List.ext_getElem <;> simp
  have hfiled : ∀ place ∈ List.range (count * definition.trainLength.toNat),
      decide ((definition.stampedAt place).record.iteration.toNat = iteration) =
        decide (place / definition.trainLength.toNat = iteration) := by
    intro place hmem
    have htrain : place / definition.trainLength.toNat < count :=
      Nat.div_lt_of_lt_mul (Nat.mul_comm count _ ▸ List.mem_range.mp hmem)
    have hword := definition.iterations.toNat_lt
    have hsame : (definition.stampedAt place).record.iteration.toNat =
        place / definition.trainLength.toNat :=
      UInt16.toNat_ofNat_of_lt' (show _ < 65536 by omega)
    rw [hsame]
  rw [Buckets.trainOf, hindexed, List.filter_map, List.map_map]
  simp only [Function.comp_def]
  rw [List.filter_congr hfiled, definition.filter_places hlength]
  split
  · rw [List.map_map]
    refine List.map_congr_left fun sequence hmem => ?_
    have hsequence := List.mem_range.mp hmem
    simp only [Function.comp_apply, StampedRecord.arrival, stampedAt]
    rw [Nat.mul_comm iteration, Nat.mul_add_div hlength, Nat.mul_add_mod,
      Nat.div_eq_of_lt hsequence, Nat.mod_eq_of_lt hsequence, Nat.add_zero]
  · rfl

/-- Filing the first trains, record by record, files them in full. -/
theorem insertAll_firstTrains (hlength : 0 < definition.trainLength.toNat) {count : Nat}
    (hcount : count ≤ definition.iterations.toNat) :
    (Buckets.ofIterations definition.iterations).insertAll
        (Heard.records ((definition.firstTrains count).map Departure.heard)) =
      definition.filed count := by
  rw [Buckets.insertAll_ofIterations, definition.records_firstTrains hlength, filed,
    List.length_map, List.length_range, Buckets.mk.injEq]
  refine ⟨List.map_congr_left fun iteration _ => ?_, rfl⟩
  exact definition.trainOf_stampedAt hlength hcount iteration

/-- What a probe gets that starts together with the sender. -/
def deliveries : List Delivery :=
  Delivery.ofDepartures 0 (Sender.run definition .never .listening).sent

theorem receipts_deliveries (hlength : 0 < definition.trainLength.toNat) :
    Receipt.ofDeliveries 0 definition.deliveries =
      (definition.firstTrains definition.iterations.toNat).map Departure.receipt := by
  rw [deliveries, Sender.run_listening]
  exact Receipt.ofDeliveries_ofDepartures (fun _ _ => Nat.zero_le _)
    (definition.pairwise_firstTrains hlength _)

/-- When a probe gives up that has heard the packets of the first places. -/
theorem limit_places (timers : ProbeTimers) (places : Nat) :
    timers.limit (((List.range places).map definition.departureAt).map Departure.heard) =
      if places = 0 then timers.inactivity
      else definition.trainTime ((places - 1) / definition.trainLength.toNat) + timers.quiet := by
  rw [ProbeTimers.limit, List.getLast?_map, List.getLast?_map, List.getLast?_range]
  by_cases hplaces : places = 0
  · rw [if_pos hplaces, if_pos hplaces]
    rfl
  · rw [if_neg hplaces, if_neg hplaces]
    rfl

theorem limit_firstTrains (hlength : 0 < definition.trainLength.toNat) (timers : ProbeTimers)
    {count : Nat} (hcount : 0 < count) :
    timers.limit ((definition.firstTrains count).map Departure.heard) =
      definition.trainTime (count - 1) + timers.quiet := by
  have hplaces : 0 < count * definition.trainLength.toNat := Nat.mul_pos hcount hlength
  have hlast : (count * definition.trainLength.toNat - 1) / definition.trainLength.toNat =
      count - 1 := by
    rw [Nat.div_eq_iff hlength, Nat.sub_mul, Nat.one_mul]
    have hone : definition.trainLength.toNat ≤ count * definition.trainLength.toNat :=
      Nat.le_mul_of_pos_left _ hcount
    omega
  rw [definition.firstTrains_eq hlength, definition.limit_places, if_neg (Nat.ne_of_gt hplaces),
    hlast]

/-- The next packet comes before a probe gives up that has heard the places before it. -/
theorem time_lt_limit {timers : ProbeTimers} (hquiet : 0 < timers.quiet) {count : Nat}
    (hgap : count = 1 ∨ definition.trainGap.toNat * nanosPerMilli < timers.quiet) {place : Nat}
    (hplace : place < count * definition.trainLength.toNat) :
    (definition.departureAt place).time <
      timers.limit (((List.range place).map definition.departureAt).map Departure.heard) := by
  have htime : (definition.departureAt place).time =
      place / definition.trainLength.toNat * (definition.trainGap.toNat * nanosPerMilli) := rfl
  rw [definition.limit_places, htime]
  cases place with
  | zero =>
    rw [if_pos rfl, Nat.zero_div, Nat.zero_mul]
    exact Nat.lt_of_le_of_lt (Nat.zero_le _) timers.quiet_lt_inactivity
  | succ place =>
    rw [if_neg (Nat.succ_ne_zero place), Nat.succ_sub_one, trainTime, Nat.succ_div]
    split
    · next hnext =>
      rcases hgap with rfl | hshort
      · rw [Nat.one_mul] at hplace
        exact absurd (Nat.le_of_dvd (Nat.succ_pos place) hnext) (Nat.not_le.mpr hplace)
      · rw [Nat.add_mul, Nat.one_mul]
        exact Nat.add_lt_add_left hshort _
    · exact Nat.lt_add_of_pos_right hquiet

theorem firstTrains_split (hlength : 0 < definition.trainLength.toNat) {count : Nat}
    (hcount : count ≤ definition.iterations.toNat) :
    definition.firstTrains definition.iterations.toNat = definition.firstTrains count ++
      ((List.range ((definition.iterations.toNat - count) * definition.trainLength.toNat)).map
        (count * definition.trainLength.toNat + ·)).map definition.departureAt := by
  have hplaces : definition.iterations.toNat * definition.trainLength.toNat =
      count * definition.trainLength.toNat +
        (definition.iterations.toNat - count) * definition.trainLength.toNat := by
    rw [← Nat.add_mul, Nat.add_sub_cancel' hcount]
  rw [definition.firstTrains_eq hlength, definition.firstTrains_eq hlength, hplaces,
    List.range_add, List.map_append]

end TrainsDefinition

theorem map_range_eq_append_cons {α : Type} {f : Nat → α} {count : Nat} {before after : List α}
    {a : α} (h : (List.range count).map f = before ++ a :: after) :
    before.length < count ∧ before = (List.range before.length).map f ∧ a = f before.length := by
  have hlength : before.length < count := by
    have hall := congrArg List.length h
    simp only [List.length_map, List.length_range, List.length_append, List.length_cons] at hall
    omega
  have hbefore := congrArg (List.take before.length) h
  rw [List.take_left, ← List.map_take, List.take_range, Nat.min_eq_left (Nat.le_of_lt hlength)]
    at hbefore
  have ha : ((List.range count).map f)[before.length]? = some a := by simp [h]
  rw [List.getElem?_map, List.getElem?_range hlength, Option.map_some] at ha
  exact ⟨hlength, hbefore.symm, (Option.some.inj ha).symm⟩

namespace Probe

variable {definition : TrainsDefinition}

/-- A probe takes the first trains and no other one, if the gap before each of them is too short to
be noticed and the one after them is not. -/
theorem hears_firstTrains (hlength : 0 < definition.trainLength.toNat) {timers : ProbeTimers}
    (hquiet : 0 < timers.quiet) {count : Nat} (hpos : 0 < count)
    (hcount : count ≤ definition.iterations.toNat)
    (hgap : count = 1 ∨ definition.trainGap.toNat * nanosPerMilli < timers.quiet)
    (hlast : count = definition.iterations.toNat ∨
      timers.quiet ≤ definition.trainGap.toNat * nanosPerMilli) :
    ∃ rest, Hears timers.limit (Receipt.ofDeliveries 0 definition.deliveries)
        ((definition.firstTrains count).map Departure.receipt) rest ∧
      ∀ receipt ∈ rest.head?,
        timers.limit ((definition.firstTrains count).map Departure.heard) ≤ receipt.time := by
  have hsplit := definition.firstTrains_split hlength hcount
  generalize hrest : ((List.range ((definition.iterations.toNat - count) *
    definition.trainLength.toNat)).map (count * definition.trainLength.toNat + ·)).map
      definition.departureAt = rest at hsplit
  have hlate : ∀ receipt ∈ (rest.map Departure.receipt).head?,
      timers.limit ((definition.firstTrains count).map Departure.heard) ≤ receipt.time := by
    intro receipt hmem
    subst hrest
    simp only [List.head?_map, List.head?_range, Option.mem_def] at hmem
    split at hmem
    · simp at hmem
    · next hmore =>
      have hlong : timers.quiet ≤ definition.trainGap.toNat * nanosPerMilli := by
        refine hlast.resolve_left fun hall => hmore ?_
        rw [hall, Nat.sub_self, Nat.zero_mul]
      simp only [Option.map_some, Option.some.injEq] at hmem
      have htime : receipt.time = definition.trainTime count := by
        rw [← hmem, Departure.receipt, TrainsDefinition.departureAt, Nat.add_zero,
          Nat.mul_div_cancel _ hlength]
        rfl
      rw [definition.limit_firstTrains hlength timers hpos, htime]
      calc
        _ ≤ definition.trainTime (count - 1) + definition.trainGap.toNat * nanosPerMilli :=
          Nat.add_le_add_left hlong _
        _ = definition.trainTime (count - 1 + 1) := by
          rw [TrainsDefinition.trainTime, TrainsDefinition.trainTime, Nat.add_mul, Nat.one_mul]
        _ = definition.trainTime count := by rw [Nat.sub_add_cancel hpos]
  refine ⟨rest.map Departure.receipt, ⟨?_, ?_, ?_, ?_⟩, hlate⟩
  · rw [definition.receipts_deliveries hlength, hsplit, List.map_append]
  · intro receipt hmem
    obtain ⟨departure, -, rfl⟩ := List.mem_map.mp hmem
    rfl
  · intro before receipt after htaken
    rw [definition.firstTrains_eq hlength, List.map_map] at htaken
    obtain ⟨hplace, hbefore, hreceipt⟩ := map_range_eq_append_cons htaken
    rw [hbefore, ← List.map_map, Heard.ofReceipts_receipt, hreceipt]
    exact definition.time_lt_limit hquiet hgap hplace
  · intro receipt hmem hearly
    rw [Heard.ofReceipts_receipt] at hearly
    exact absurd hearly (Nat.not_lt.mpr (hlate receipt hmem))

/-- The probe has filed the first trains in full when it stops, which it does a quiet period after the
last of them, and that is the end of its run. -/
structure HearsTrains (definition : TrainsDefinition) (timers : ProbeTimers) (count : Nat) :
    Prop where
  filed : (listening definition timers definition.deliveries).probe.buckets =
    definition.filed count
  ending : (listening definition timers definition.deliveries).ending = .quiet
  time : (listening definition timers definition.deliveries).time =
    definition.trainTime (count - 1) + timers.quiet
  outcome : ∀ conditions : Conditions, conditions.budget.exhausted = false →
    conditions.cancellation = .never →
    (run definition timers conditions definition.deliveries).outcome =
        .ok (.ofRates ((definition.filed count).rates definition.packetSize.toNat)) ∧
      (run definition timers conditions definition.deliveries).elapsed =
        definition.trainTime (count - 1) + timers.quiet

theorem hearsTrains (hbounded : definition.Bounded) {timers : ProbeTimers}
    (hquiet : 0 < timers.quiet) {count : Nat} (hpos : 0 < count)
    (hcount : count ≤ definition.iterations.toNat)
    (hgap : count = 1 ∨ definition.trainGap.toNat * nanosPerMilli < timers.quiet)
    (hlast : count = definition.iterations.toNat ∨
      timers.quiet ≤ definition.trainGap.toNat * nanosPerMilli) :
    HearsTrains definition timers count := by
  have hlength : 0 < definition.trainLength.toNat :=
    Nat.lt_of_lt_of_le (by decide) hbounded.le_trainLength
  obtain ⟨expected, hexpected, hlate⟩ :=
    hears_firstTrains hlength hquiet hpos hcount hgap hlast
  obtain ⟨taken, rest, hhears, hends⟩ :=
    @listen_ofHeard definition.iterations timers none definition.deliveries [] 0 (Nat.zero_le _)
  simp only [List.nil_append, deadline_ofHeard, ofHeard_nil] at hhears hends
  obtain rfl : taken = (definition.firstTrains count).map Departure.receipt :=
    hexpected.unique hhears
  obtain rfl : expected = rest :=
    List.append_cancel_left (hexpected.split.symm.trans hhears.split)
  rw [Heard.ofReceipts_receipt] at hends
  have hne : (definition.firstTrains count).map Departure.heard ≠ [] := by
    rw [definition.firstTrains_eq hlength]
    simp [Nat.ne_of_gt hpos, Nat.ne_of_gt hlength]
  obtain ⟨htime, hending⟩ := listening_expired hends hlate
  rw [definition.limit_firstTrains hlength timers hpos] at htime
  rw [if_neg hne] at hending
  have hfiled : (listening definition timers definition.deliveries).probe.buckets =
      definition.filed count := by
    rw [← definition.insertAll_firstTrains hlength hcount]
    exact congrArg Probe.buckets hends.reached
  refine ⟨hfiled, hending, htime, ?_⟩
  intro conditions hbudget hcancel
  refine ⟨?_, (run_elapsed hbudget hcancel).trans htime⟩
  rw [run_outcome hbudget hcancel, conclude, hending, hfiled]

theorem report_departures (hbounded : definition.Bounded) :
    SendReport.ofDepartures definition.departures =
      ⟨definition.iterations.toNat * definition.trainLength.toNat,
        definition.iterations.toNat * definition.trainLength.toNat *
          definition.packetSize.toNat⟩ := by
  have hlength : 0 < definition.trainLength.toNat :=
    Nat.lt_of_lt_of_le (by decide) hbounded.le_trainLength
  have hsize : ∀ place, (definition.departureAt place).datagram.length =
      definition.packetSize.toNat :=
    fun _ => definition.length_departure hbounded.le_packetSize _ _
  have hdepartures : definition.departures =
      definition.firstTrains definition.iterations.toNat := rfl
  rw [hdepartures, definition.firstTrains_eq hlength, SendReport.ofDepartures, List.map_map]
  simp [Function.comp_def, hsize]

/-- A sender and a probe with one definition and the default timers. The sender sends every packet.
The probe files all of them, train by train, if there is only one train or the gap is shorter than a
second. A gap of a second or more is the silence after which the probe evaluates what it has, which
then is the first train. -/
theorem sender_heard (hvalid : definition.validate = .ok definition) :
    (Sender.run definition .never .listening).outcome =
        .ok ⟨definition.iterations.toNat * definition.trainLength.toNat,
          definition.iterations.toNat * definition.trainLength.toNat *
            definition.packetSize.toNat⟩ ∧
      (definition.trainGap.toNat < 1000 ∨ definition.iterations.toNat = 1 →
        HearsTrains definition .initial definition.iterations.toNat) ∧
      (1000 ≤ definition.trainGap.toNat → HearsTrains definition .initial 1) := by
  have hbounded := TrainsDefinition.bounded_of_validate hvalid
  have hquiet : ProbeTimers.initial.quiet = 1000 * nanosPerMilli := rfl
  have hpos : 0 < ProbeTimers.initial.quiet := by decide
  have hmilli : 0 < nanosPerMilli := by decide
  refine ⟨?_, ?_, ?_⟩
  · rw [Sender.run_listening, report_departures hbounded]
  · intro hshort
    refine hearsTrains hbounded hpos hbounded.iterations_pos (Nat.le_refl _) ?_ (Or.inl rfl)
    rcases hshort with hgap | hone
    · rw [hquiet]
      exact Or.inr (Nat.mul_lt_mul_of_pos_right hgap hmilli)
    · exact Or.inl hone
  · intro hlong
    refine hearsTrains hbounded hpos Nat.one_pos hbounded.iterations_pos (Or.inl rfl) (Or.inr ?_)
    rw [hquiet]
    exact Nat.mul_le_mul_right nanosPerMilli hlong

/-- Two trains of two packets, a second apart but for a millisecond. -/
theorem sender_heard_just_in_time :
    TrainsDefinition.validate ⟨2, 2, 12, 999⟩ = .ok ⟨2, 2, 12, 999⟩ ∧
      (Sender.run ⟨2, 2, 12, 999⟩ .never .listening).outcome = .ok ⟨4, 48⟩ ∧
      HearsTrains ⟨2, 2, 12, 999⟩ .initial 2 := by
  have hvalid : TrainsDefinition.validate ⟨2, 2, 12, 999⟩ = .ok ⟨2, 2, 12, 999⟩ := rfl
  obtain ⟨hsent, hshort, -⟩ := sender_heard hvalid
  exact ⟨hvalid, hsent, hshort (Or.inl (by decide))⟩

/-- Of two trains that are a second apart the probe files only the first. -/
theorem not_sender_heard_always :
    ¬ ∀ definition : TrainsDefinition, definition.validate = .ok definition →
      (listening definition .initial definition.deliveries).probe.buckets =
        definition.filed definition.iterations.toNat := by
  intro hall
  have hvalid : TrainsDefinition.validate ⟨2, 2, 12, 1000⟩ = .ok ⟨2, 2, 12, 1000⟩ := rfl
  have hfirst : HearsTrains ⟨2, 2, 12, 1000⟩ .initial 1 :=
    hearsTrains (TrainsDefinition.bounded_of_validate hvalid) (by decide) (by decide) (by decide)
      (Or.inl rfl) (Or.inr (by decide))
  have hboth := hall ⟨2, 2, 12, 1000⟩ hvalid
  rw [hfirst.filed] at hboth
  revert hboth
  decide

end Probe

end Throughput
