import Throughput.Proofs.Download.Opening
import Throughput.Proofs.Download.Plan

/-!
# Agendas in parts

The agenda of a run falls into the answers of its workers, their requests, and what comes after
these. A run that is cancelled before the last answer does not get beyond some of the answers.
-/

namespace Throughput

open Handshake

namespace Handshake

variable {handshakes : List Handshake}

theorem getElem?_served (scripts : List (List Action)) (id : Nat) :
    (Agenda.served handshakes scripts)[id]?.getD [] =
      if connects handshakes id then scripts[id]?.getD [] else [] := by
  rw [Agenda.served, List.getElem?_zipWith, connects]
  cases handshakes[id]? with
  | none => rfl
  | some handshake =>
    cases scripts[id]? <;> cases hok : handshake.accepted <;> simp [hok]

theorem time_le_latest {entry : Handshake × Nat} (hmem : entry ∈ ordered handshakes) :
    entry.1.time ≤ latest handshakes :=
  le_latest (List.mem_of_getElem? (mem_ordered.mp hmem))

end Handshake

namespace Agenda

variable {handshakes : List Handshake}

theorem delay_append (lag : Nat) (left right : Agenda) :
    delay lag (left ++ right) = delay lag left ++ delay lag right :=
  List.map_append

theorem sort_delay (lag : Nat) (agenda : Agenda) :
    sort (delay lag agenda) = delay lag agenda.sort :=
  (map_sortBy (fun _ _ => Nat.add_le_add_iff_right) agenda).symm

theorem sort_append {early late : Agenda}
    (hle : ∀ first ∈ early, ∀ second ∈ late, first.time ≤ second.time) :
    sort (early ++ late) = early.sort ++ late.sort :=
  sortBy_append hle

theorem sort_forAll (workers : List Nat) (time : Nat) (happening : Happening) :
    sort (forAll workers time happening) = forAll workers time happening := by
  refine List.mergeSort_of_pairwise (List.pairwise_map.mpr ?_)
  exact List.pairwise_of_forall fun _ _ => decide_eq_true (Nat.le_refl time)

theorem sort_ofHandshakes (handshakes : List Handshake) :
    sort (ofHandshakes handshakes) = (ordered handshakes).map .answers := by
  have hmap := @map_sortBy _ _ (fun entry : Handshake × Nat => entry.1.time) Appointment.time
    Appointment.answers (fun _ _ => Iff.rfl) handshakes.zipIdx
  exact hmap.symm

theorem le_time_of_mem_delay {lag : Nat} {agenda : Agenda} :
    ∀ appointment ∈ delay lag agenda, lag ≤ appointment.time := by
  intro appointment hmem
  obtain ⟨earlier, -, rfl⟩ := List.mem_map.mp hmem
  exact Nat.le_add_left lag earlier.time

theorem sort_answers_append {late : Agenda}
    (hlate : ∀ appointment ∈ late, latest handshakes ≤ appointment.time) :
    sort (ofHandshakes handshakes ++ late) = (ordered handshakes).map .answers ++ late.sort := by
  rw [sort_append, sort_ofHandshakes]
  intro first hfirst second hsecond
  have hordered : first ∈ (ordered handshakes).map .answers := by
    rw [← sort_ofHandshakes]
    exact List.mem_mergeSort.mpr hfirst
  obtain ⟨entry, hentry, rfl⟩ := List.mem_map.mp hordered
  exact Nat.le_trans (time_le_latest hentry) (hlate second hsecond)

variable (timeout : Nat) (scripts : List (List Action))

/-- Unless it is cancelled before, the requests of a run go out, and the rest is counted from
there. -/
theorem ofRun_eq {cancelAt : Option Nat}
    (hcancel : ∀ time, cancelAt = some time → latest handshakes ≤ time) :
    ofRun handshakes timeout scripts cancelAt =
      overture handshakes ++ delay (latest handshakes)
        (plan (connected handshakes) timeout (served handshakes scripts)
          (cancelAt.map (· - latest handshakes))) := by
  have hlater : ofCancel cancelAt =
      delay (latest handshakes) (ofCancel (cancelAt.map (· - latest handshakes))) := by
    cases cancelAt with
    | none => rfl
    | some time =>
      have htime : time - latest handshakes + latest handshakes = time :=
        Nat.sub_add_cancel (hcancel time rfl)
      simp only [ofCancel, delay, Option.map_some, List.map_cons, List.map_nil, htime]
  have hwritten : delay (latest handshakes) (forAll (connected handshakes) 0 (.written true)) =
      forAll (connected handshakes) (latest handshakes) (.written true) := by
    simp only [delay, forAll, List.map_map, Function.comp_def, Nat.zero_add]
  have hfirst : ∀ later : Agenda,
      ∀ first ∈ forAll (connected handshakes) 0 (.written true), ∀ second ∈ later,
        first.time ≤ second.time := by
    intro later first hmem second _
    obtain ⟨id, -, rfl⟩ := List.mem_map.mp hmem
    exact Nat.zero_le _
  rw [ofRun, hlater, List.append_assoc, ← delay_append,
    sort_answers_append le_time_of_mem_delay, sort_delay, List.append_assoc, List.append_assoc,
    sort_append (hfirst _), sort_forAll, delay_append, hwritten, overture, plan, List.append_assoc,
    List.append_assoc]

/-- Nobody sends a request if all is over before the last answer. -/
theorem ofRun_cut {time : Nat} (hbefore : time < latest handshakes) :
    ∃ rest, ofRun handshakes timeout scripts (some time) =
      ((ordered handshakes).filter fun entry => entry.1.time ≤ time).map .answers ++
        ⟨time, .cancel⟩ :: rest := by
  let later := delay (latest handshakes) (forAll (connected handshakes) 0 (.written true) ++
    forAll (connected handshakes) timeout (.read .timeout) ++ ofScripts (served handshakes scripts))
  have hconcat := @sortBy_concat _ Appointment.time (ofHandshakes handshakes ++ later)
    ⟨time, .cancel⟩
  have hsorted : sortBy Appointment.time (ofHandshakes handshakes ++ later) =
      (ordered handshakes).map .answers ++ later.sort :=
    sort_answers_append le_time_of_mem_delay
  have hnone : later.sort.filter (fun appointment => appointment.time ≤ time) = [] := by
    refine List.filter_eq_nil_iff.mpr fun appointment hmem => ?_
    have hle := le_time_of_mem_delay appointment (List.mem_mergeSort.mp hmem)
    simpa using Nat.lt_of_lt_of_le hbefore hle
  rw [hsorted, List.filter_append, hnone, List.append_nil, List.filter_map] at hconcat
  exact ⟨_, hconcat⟩

/-- Every worker connects and sends its request at once. -/
def opening (workers : Nat) (accepted : Bool) : Agenda :=
  forAll (List.range workers) 0 (.connected accepted) ++
    forAll (List.range workers) 0 (.written accepted)

end Agenda

/-! ### Answers that come at once -/

section Prompt

variable (workers : Nat) (accepted : Bool)

theorem handshakes_prompt :
    Dialing.prompt.handshakes workers accepted = List.replicate workers ⟨0, accepted⟩ := by
  simp only [Dialing.prompt, Dialing.handshakes, List.getElem?_nil, Option.getD_none]
  rw [List.map_const', List.length_range]
  rfl

theorem latest_prompt : latest (Dialing.prompt.handshakes workers accepted) = 0 := by
  rw [handshakes_prompt]
  refine Nat.le_zero.mp (latest_le fun handshake hmem => ?_)
  rw [List.eq_of_mem_replicate hmem]

theorem connected_prompt : connected (Dialing.prompt.handshakes workers accepted) =
    if accepted then List.range workers else [] := by
  have hconnects : ∀ id ∈ List.range workers,
      connects (List.replicate workers ⟨0, accepted⟩) id = accepted := by
    intro id hmem
    simp [connects, List.mem_range.mp hmem]
  rw [handshakes_prompt, connected, List.length_replicate, List.filter_congr hconnects]
  cases accepted <;> simp

theorem ordered_prompt :
    (ordered (Dialing.prompt.handshakes workers accepted)).map .answers =
      Agenda.forAll (List.range workers) 0 (.connected accepted) := by
  have hanswers : Agenda.ofHandshakes (List.replicate workers ⟨0, accepted⟩) =
      Agenda.forAll (List.range workers) 0 (.connected accepted) := by
    apply List.ext_getElem
    · simp [Agenda.ofHandshakes, Agenda.forAll]
    · intro index hleft hright
      simp [Agenda.ofHandshakes, Agenda.forAll]
  rw [← Agenda.sort_ofHandshakes, handshakes_prompt, hanswers, Agenda.sort_forAll]

theorem served_prompt (scripts : List (List Action)) :
    Agenda.served (Dialing.prompt.handshakes workers true) scripts = scripts.take workers := by
  rw [handshakes_prompt, Agenda.served]
  induction scripts generalizing workers with
  | nil => simp
  | cons actions rest ih =>
    cases workers with
    | zero => rfl
    | succ workers => simpa [List.replicate_succ] using ih workers

theorem delay_zero (agenda : Agenda) : Agenda.delay 0 agenda = agenda :=
  List.map_id agenda

theorem overture_prompt :
    Agenda.overture (Dialing.prompt.handshakes workers true) = Agenda.opening workers true := by
  rw [Agenda.overture, ordered_prompt, latest_prompt, connected_prompt, if_pos rfl, Agenda.opening]

theorem ofRun_prompt (timeout : Nat) (scripts : List (List Action)) (cancelAt : Option Nat) :
    Agenda.ofRun (Dialing.prompt.handshakes workers true) timeout scripts cancelAt =
      Agenda.opening workers true ++
        Agenda.plan (List.range workers) timeout (scripts.take workers) cancelAt := by
  rw [Agenda.ofRun_eq, overture_prompt, latest_prompt, delay_zero, connected_prompt, if_pos rfl,
    served_prompt]
  · cases cancelAt <;> rfl
  · intro time _
    rw [latest_prompt]
    exact Nat.zero_le time

end Prompt

end Throughput
