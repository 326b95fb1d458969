import Throughput.Proofs.Download.Mirror

/-!
# Interchangeable workers

A run takes no notice of which of its connections gets which script. When the scripts are permuted,
the run ends at the same time, fails alike or lists the same workers in their new order. Nor does it
take notice of the order in which workers read that do so on one instant.
-/

namespace Throughput

open Agenda

/-! ### Scripts in another order -/

/-- The surroundings in which each worker has the script of the one that it is mapped to. -/
def Surroundings.permute (surroundings : Surroundings) {workers : Nat}
    (σ : Equiv.Perm (Fin workers)) : Surroundings :=
  { surroundings with
    scripts := List.ofFn fun id => surroundings.scripts[(σ id).val]?.getD [] }

/-- The workers whose first byte comes in time, in ascending order. -/
def Surroundings.contributing (surroundings : Surroundings) (workers : Nat) : List (Fin workers) :=
  (List.finRange workers).filter fun id => (surroundings.firstByte id).isOk

/-- A permutation of the workers as a map of their numbers. -/
def renumber {workers : Nat} (σ : Equiv.Perm (Fin workers)) (id : Nat) : Nat :=
  if hid : id < workers then σ ⟨id, hid⟩ else id

section Renumber

variable {workers : Nat} (σ : Equiv.Perm (Fin workers))

@[simp]
theorem renumber_coe (id : Fin workers) : renumber σ id = σ id :=
  dif_pos id.isLt

theorem range_perm_renumber :
    (List.range workers).Perm ((List.range workers).map (renumber σ)) := by
  have hrange : (List.range workers).map (renumber σ) =
      ((List.finRange workers).map σ).map Fin.val := by
    rw [← List.map_coe_finRange_eq_range, List.map_map, List.map_map]
    exact List.map_congr_left fun id _ => renumber_coe σ id
  rw [hrange]
  conv_lhs => rw [← List.map_coe_finRange_eq_range]
  exact σ.map_finRange_perm.symm.map Fin.val

variable (surroundings : Surroundings)

theorem scripts_permute (id : Fin workers) :
    (surroundings.permute σ).scripts[id.val]?.getD [] =
      surroundings.scripts[(σ id).val]?.getD [] := by
  simp [Surroundings.permute]

theorem readings_permute (id : Fin workers) :
    ((surroundings.permute σ).plan workers).readings id =
      (surroundings.plan workers).readings (σ id) :=
  Surroundings.readings_plan_congr id.isLt (σ id).isLt rfl (scripts_permute σ surroundings id)

theorem mirrors_permute :
    Mirrors workers (surroundings.plan workers) workers ((surroundings.permute σ).plan workers)
      (renumber σ) [] where
  workers := range_perm_renumber σ
  readings := by
    intro id hid
    have hsame := readings_permute σ surroundings ⟨id, hid⟩
    rwa [← renumber_coe] at hsame
  silent := by simp
  early := by simp

theorem downloads_plan :
    (surroundings.plan workers).downloads workers =
      (surroundings.contributing workers).map fun id : Fin workers =>
        (surroundings.plan workers).readings id.val := by
  rw [downloads, surroundings.downloading_plan, Surroundings.downloading,
    ← List.map_coe_finRange_eq_range, List.filter_map, List.map_map]
  rfl

theorem downloads_permute :
    ((surroundings.permute σ).plan workers).downloads workers =
      ((surroundings.permute σ).contributing workers).map fun id : Fin workers =>
        (surroundings.plan workers).readings (σ id).val := by
  rw [downloads_plan]
  exact List.map_congr_left fun id _ => readings_permute σ surroundings id

end Renumber

/-! ### Outcomes -/

/-- Two outcomes with the same error, or with results that list the same workers: the first one
those of `first`, the second one those to which `second` is mapped. -/
structure Interchanged {workers : Nat} (σ : Equiv.Perm (Fin workers))
    (first second : List (Fin workers)) (outcome other : Except MeasureError DownloadResult) :
    Prop where
  failed : ∀ e, other = .error e ↔ outcome = .error e
  measured : ∀ result, outcome = .ok result → ∃ rate slots,
    result = .ofRates (first.map rate) (first.map slots) ∧
      other = .ok (.ofRates (second.map fun id => rate (σ id)) (second.map fun id => slots (σ id)))

theorem Interchanged.of_error {workers : Nat} (σ : Equiv.Perm (Fin workers))
    (first second : List (Fin workers)) (e : MeasureError) :
    Interchanged σ first second (.error e) (.error e) where
  failed := fun _ => Iff.rfl
  measured := by
    intro result hok
    cases hok

theorem Interchanged.of_ok {workers : Nat} (σ : Equiv.Perm (Fin workers))
    (first second : List (Fin workers)) (rate : Fin workers → Float)
    (slots : Fin workers → List Float) :
    Interchanged σ first second (.ok (.ofRates (first.map rate) (first.map slots)))
      (.ok (.ofRates (second.map fun id => rate (σ id)) (second.map fun id => slots (σ id)))) where
  failed := by
    intro e
    constructor <;> intro hfailed <;> cases hfailed
  measured := by
    intro result hok
    cases hok
    exact ⟨rate, slots, rfl, rfl⟩

/-- The outcome of a run does not depend on the order of its workers. -/
theorem DownloadDefinition.interchanged_conclude (definition : DownloadDefinition) (window : Window)
    {workers : Nat} (σ : Equiv.Perm (Fin workers)) (first second : List (Fin workers))
    (readings : Fin workers → Readings)
    (hperm : (first.map readings).Perm (second.map fun id => readings (σ id))) :
    Interchanged σ first second (definition.conclude window (first.map readings))
      (definition.conclude window (second.map fun id => readings (σ id))) := by
  have hnone : second.map (fun id => readings (σ id)) = [] ↔ first.map readings = [] := by
    rw [← List.length_eq_zero_iff, ← List.length_eq_zero_iff, hperm.length_eq]
  simp only [conclude, hnone, ← hperm.all_eq, List.map_map]
  split
  · exact .of_error σ first second .transfer
  · split
    · exact .of_ok σ first second (fun id => (readings id).rate definition window)
        fun id => (readings id).slots definition window
    · exact .of_error σ first second .untrustworthy

/-! ### Ties -/

/-- An agenda on which everything happens at the same time and every worker reads the same, while
workers that read on one instant may do so in another order. -/
structure Agenda.Reorders (workers : Nat) (agenda other : Agenda) : Prop where
  perm : other.Perm agenda
  ascending : Ascending Appointment.time other
  readings : ∀ id < workers, other.readings id = agenda.readings id

namespace Agenda.Reorders

variable {definition : DownloadDefinition} {agenda other : Agenda}

theorem complete {workers : Nat} (h : agenda.Reorders workers other)
    (hcomplete : agenda.Complete workers) : other.Complete workers where
  ascending := h.ascending
  reads := fun appointment hmem => hcomplete.reads appointment (h.perm.mem_iff.mp hmem)
  answered := by
    intro id hid
    rw [h.readings id hid]
    exact hcomplete.answered id hid

theorem mirrors {workers : Nat} (h : agenda.Reorders workers other) :
    Mirrors workers agenda workers other id [] where
  workers := by simp
  readings := h.readings
  silent := by simp
  early := by simp

theorem answer_eq (h : agenda.Reorders definition.threads.toNat other)
    (hascending : Ascending Appointment.time agenda) (cancelAt : Option Nat) :
    other.answer definition cancelAt = agenda.answer definition cancelAt := by
  have hordered : agenda.downloading definition.threads.toNat =
      (other.downloading definition.threads.toNat).map id := by
    rw [List.map_id]
    exact List.filter_congr fun id hmem => by rw [h.readings id (List.mem_range.mp hmem)]
  exact h.mirrors.answer_eq hascending hordered cancelAt

end Agenda.Reorders

namespace Download

section Bounded

variable {definition : DownloadDefinition} (hbounded : definition.Bounded)
  (surroundings : Surroundings) (cancellation : Cancellation)
include hbounded

/-- The order in which workers read on one instant does not show in the answer. -/
theorem answer_reordered {agenda : Agenda}
    (h : (surroundings.plan definition.threads.toNat).Reorders definition.threads.toNat agenda) :
    ((ofDefinition definition).advance 0 (opening definition.threads.toNat true ++
        agenda.withCancel (cancelTime cancellation))).answer definition =
      (carry definition surroundings true cancellation).answer definition := by
  have hcomplete := surroundings.complete_plan definition.threads.toNat
  rw [(passes_opening definition hbounded.threads_pos).advance 0 _ |>.1,
    answer_advance (h.complete hcomplete) hbounded.threads_pos hbounded.targetTime_pos,
    h.answer_eq hcomplete.ascending, answer_carry hbounded]

end Bounded

end Download

/-! ### Runs -/

section Permuted

variable {workers : Nat} {σ : Equiv.Perm (Fin workers)} {first second : List (Fin workers)}

/-- What a permutation of the scripts leaves of an answer. -/
structure Answer.Permuted (σ : Equiv.Perm (Fin workers)) (first second : List (Fin workers))
    (answer other : Answer) : Prop where
  time : other.time = answer.time
  traffic : other.traffic = answer.traffic
  outcome : Interchanged σ first second answer.outcome other.outcome

/-- What a permutation of the scripts leaves of a run. -/
structure Run.Permuted (σ : Equiv.Perm (Fin workers)) (first second : List (Fin workers))
    (run other : Run DownloadResult) : Prop where
  elapsed : other.elapsed = run.elapsed
  budget : other.budget = run.budget
  outcome : Interchanged σ first second run.outcome other.outcome

theorem Run.Permuted.of_error {failed : Run DownloadResult} {e : MeasureError}
    (herror : failed.outcome = .error e) : Permuted σ first second failed failed where
  elapsed := rfl
  budget := rfl
  outcome := by
    rw [herror]
    exact .of_error σ first second e

theorem Answer.Permuted.run {answer other : Answer} (h : Permuted σ first second answer other)
    (conditions : Conditions) :
    Run.Permuted σ first second (answer.run conditions) (other.run conditions) where
  elapsed := h.time
  budget := congrArg (fun bytes => (conditions.budget.charge bytes).1) h.traffic
  outcome := h.outcome

end Permuted

section Scripts

variable {definition : DownloadDefinition} (σ : Equiv.Perm (Fin definition.threads.toNat))
  (surroundings : Surroundings)

theorem outcome_permute :
    Interchanged σ (surroundings.contributing definition.threads.toNat)
      ((surroundings.permute σ).contributing definition.threads.toNat)
      ((surroundings.plan definition.threads.toNat).outcome definition)
      (((surroundings.permute σ).plan definition.threads.toNat).outcome definition) := by
  have hmirrors := mirrors_permute σ surroundings
  have hperm := hmirrors.downloads_perm
  have hother : ((surroundings.permute σ).plan definition.threads.toNat).outcome definition =
      definition.conclude ((surroundings.plan definition.threads.toNat).window definition)
        (((surroundings.permute σ).plan definition.threads.toNat).downloads
          definition.threads.toNat) := hmirrors.outcome_eq
  rw [downloads_permute, downloads_plan] at hperm
  rw [hother, outcome, downloads_permute, downloads_plan]
  exact definition.interchanged_conclude _ σ _ _
    (fun id => (surroundings.plan definition.threads.toNat).readings id.val) hperm

theorem answer_permute (cancelAt : Option Nat) :
    Answer.Permuted σ (surroundings.contributing definition.threads.toNat)
      ((surroundings.permute σ).contributing definition.threads.toNat)
      ((surroundings.plan definition.threads.toNat).answer definition cancelAt)
      (((surroundings.permute σ).plan definition.threads.toNat).answer definition cancelAt) := by
  have hmirrors := mirrors_permute σ surroundings
  have hcomplete := surroundings.complete_plan definition.threads.toNat
  have hend : ((surroundings.permute σ).plan definition.threads.toNat).endOf definition =
      (surroundings.plan definition.threads.toNat).endOf definition := hmirrors.endOf_eq
  have htraffic := hmirrors.trafficUntil_eq hcomplete.ascending
  simp only [answer, hend]
  split
  · next time _ => exact ⟨rfl, htraffic time, .of_error σ _ _ .cancelled⟩
  · exact ⟨rfl, htraffic _, outcome_permute σ surroundings⟩

namespace Download

variable (hbounded : definition.Bounded) (target : Target) (conditions : Conditions)
include hbounded

theorem run_permute :
    Run.Permuted σ (surroundings.contributing definition.threads.toNat)
      ((surroundings.permute σ).contributing definition.threads.toNat)
      (run definition target surroundings conditions).toRun
      (run definition target (surroundings.permute σ) conditions).toRun := by
  have hother : (run definition target (surroundings.permute σ) conditions).toRun =
      runWith target surroundings.resolution surroundings.network conditions
        (((surroundings.permute σ).plan definition.threads.toNat).answer definition
          (cancelTime conditions.cancellation)) := toRun_eq hbounded target _ conditions
  rw [toRun_eq hbounded, hother]
  rcases runWith_cases target surroundings.resolution surroundings.network conditions with
    ⟨failed, e, herror, hfailed⟩ | hcarried
  · rw [hfailed, hfailed]
    exact .of_error herror
  · rw [hcarried, hcarried]
    exact (answer_permute σ surroundings _).run conditions

theorem traffic_permute (accepted : Bool) (cancellation : Cancellation) :
    (carry definition (surroundings.permute σ) accepted cancellation).traffic =
      (carry definition surroundings accepted cancellation).traffic := by
  cases accepted with
  | false => rw [traffic_refused hbounded.threads_pos, traffic_refused hbounded.threads_pos]
  | true =>
    have hsame := (answer_permute σ surroundings (cancelTime cancellation)).traffic
    rwa [← answer_carry hbounded, ← answer_carry hbounded] at hsame

end Download

end Scripts

namespace Download

/-- A run whose workers are interchangeable. -/
structure Interchangeable (definition : DownloadDefinition) (target : Target)
    (surroundings : Surroundings) (conditions : Conditions) : Prop where
  permuted : ∀ σ : Equiv.Perm (Fin definition.threads.toNat),
    Run.Permuted σ (surroundings.contributing definition.threads.toNat)
      ((surroundings.permute σ).contributing definition.threads.toNat)
      (run definition target surroundings conditions).toRun
      (run definition target (surroundings.permute σ) conditions).toRun
  traffic : ∀ (σ : Equiv.Perm (Fin definition.threads.toNat)) (accepted : Bool),
    (carry definition (surroundings.permute σ) accepted conditions.cancellation).traffic =
      (carry definition surroundings accepted conditions.cancellation).traffic
  /-- The order of what happens on one instant does not show. -/
  ties : ∀ agenda,
    (surroundings.plan definition.threads.toNat).Reorders definition.threads.toNat agenda →
      ((ofDefinition definition).advance 0 (opening definition.threads.toNat true ++
          agenda.withCancel (cancelTime conditions.cancellation))).answer definition =
        (carry definition surroundings true conditions.cancellation).answer definition

/-- The workers of every run are interchangeable. -/
theorem run_interchangeable {definition : DownloadDefinition} {target : Target}
    (hvalid : definition.validate = .ok target) (surroundings : Surroundings)
    (conditions : Conditions) : Interchangeable definition target surroundings conditions := by
  have hbounded := DownloadDefinition.bounded_of_validate hvalid
  exact
    { permuted := fun σ => run_permute σ surroundings hbounded target conditions
      traffic := fun σ accepted =>
        traffic_permute σ surroundings hbounded accepted conditions.cancellation
      ties := fun _ h => answer_reordered hbounded surroundings conditions.cancellation h }

/-- Of two servers that both send on two instants, the second may come first on either. -/
theorem run_interchangeable_two_servers :
    let definition : DownloadDefinition :=
      { DownloadDefinition.initial with url := "http://[::1]/", threads := 2 }
    let target : Target := ⟨"::1", 80, "/"⟩
    let surroundings : Surroundings :=
      ⟨.ok [.v4 ⟨127, 0, 0, 1⟩ 80], .ideal,
        [[⟨50, .send 1000⟩, ⟨3000000000, .close⟩], [⟨50, .send 500⟩, ⟨3000000000, .reset⟩]],
        1000000000, ⟨2024, 1, 1, 12, 0, 0, 0⟩⟩
    let agenda : Agenda :=
      [.reads 1 ⟨50, .bytes 500⟩, .reads 0 ⟨50, .bytes 1000⟩, .reads 0 ⟨1000000000, .timeout⟩,
        .reads 1 ⟨1000000000, .timeout⟩, .reads 1 ⟨3000000000, .broken⟩,
        .reads 0 ⟨3000000000, .bytes 0⟩]
    (definition.validate = .ok target ∧ (surroundings.plan 2).Reorders 2 agenda) ∧
      Interchangeable definition target surroundings ⟨.unlimited, .after 4000000000, true⟩ := by
  intro definition target surroundings agenda
  have hvalid : definition.validate = .ok target := by cbv
  have hplan : surroundings.plan 2 =
      [.reads 0 ⟨50, .bytes 1000⟩, .reads 1 ⟨50, .bytes 500⟩, .reads 0 ⟨1000000000, .timeout⟩,
        .reads 1 ⟨1000000000, .timeout⟩, .reads 0 ⟨3000000000, .bytes 0⟩,
        .reads 1 ⟨3000000000, .broken⟩] := by
    dsimp only [surroundings]
    cbv
  have hreorders : (surroundings.plan 2).Reorders 2 agenda := by
    rw [hplan]
    exact ⟨by decide, by decide, by decide⟩
  exact ⟨⟨hvalid, hreorders⟩, run_interchangeable hvalid surroundings _⟩

end Download

end Throughput
