import Throughput.Proofs.Download.Overture
import Throughput.Proofs.Download.Ending

/-!
# Carrying a download to its end

Once its requests are out, a run goes through what the servers do, up to where it ends.
-/

namespace Throughput

open Handshake

namespace Download

/-- What the coordinator of a run is told. -/
def heard (definition : DownloadDefinition) (surroundings : Surroundings) (accepted : Bool)
    (cancellation : Cancellation) : List WorkerEvent :=
  (ofDefinition definition).log <|
    .ofRun (Dialing.prompt.handshakes definition.threads.toNat accepted)
      surroundings.firstByteTimeout surroundings.scripts (cancelTime cancellation)

theorem length_handshakes (dialing : Dialing) (workers : Nat) (accepted : Bool) :
    (dialing.handshakes workers accepted).length = workers := by
  rw [Dialing.handshakes, List.length_map, List.length_range]

theorem connected_mem_prompt {workers id : Nat} {ok : Bool} :
    .connected id ok ∈ answers (Dialing.prompt.handshakes workers true) ↔
      id < workers ∧ ok = true := by
  rw [connected_mem_answers, handshakes_prompt, List.getElem?_replicate]
  by_cases hid : id < workers
  · simp [hid, eq_comm]
  · simp [hid]

/-- Where all are connected at once, nothing has been read when the requests are out. -/
theorem awaiting_prompt (definition : DownloadDefinition) :
    awaiting definition (Dialing.prompt.handshakes definition.threads.toNat true) =
      carried definition [] := by
  have hsaid : ∀ event, event ∈ Agenda.said definition.threads.toNat [] ↔
      event ∈ answers (Dialing.prompt.handshakes definition.threads.toNat true) := by
    intro event
    have hnothing : ∀ id, Task.said id (Agenda.readings id []) = [.connected id true] :=
      fun _ => rfl
    rw [Agenda.mem_said, hnothing, List.mem_singleton]
    constructor
    · rintro ⟨hworker, heq⟩
      rw [heq]
      exact connected_mem_prompt.mpr ⟨hworker, rfl⟩
    · intro hmem
      obtain ⟨entry, -, rfl⟩ := List.mem_map.mp hmem
      obtain ⟨hworker, hok⟩ := connected_mem_prompt.mp hmem
      rw [WorkerEvent.answer, hok]
      exact ⟨hworker, rfl⟩
  have hwindow : Agenda.window? definition [] = none :=
    Agenda.window?_of_silent (List.filter_eq_nil_iff.mpr fun _ _ => Bool.false_ne_true)
  refine Download.ext rfl ?_ (List.map_congr_left fun id hmem => ?_)
  · simp only [awaiting, staged, carried, Tracker.ofLog_congr hsaid, hwindow]
  · have hconnects : connects
        (Dialing.prompt.handshakes definition.threads.toNat true) id = true := by
      rw [← mem_connected, connected_prompt, if_pos rfl]
      exact hmem
    rw [if_pos hconnects, latest_prompt]
    rfl

/-- Once all are connected and have sent their requests, nothing has been read yet. -/
theorem passes_opening (definition : DownloadDefinition)
    (hworkers : 0 < definition.threads.toNat) :
    Passes (ofDefinition definition) (Agenda.opening definition.threads.toNat true)
      (answers (Dialing.prompt.handshakes definition.threads.toNat true))
      (carried definition []) := by
  have hsome : connected (Dialing.prompt.handshakes definition.threads.toNat true) ≠ [] := by
    rw [connected_prompt, if_pos rfl, Ne, List.range_eq_nil]
    exact hworkers.ne'
  have hpasses := passes_overture (length_handshakes _ _ _) hworkers hsome
  rwa [overture_prompt, awaiting_prompt] at hpasses

variable {definition : DownloadDefinition} (hworkers : 0 < definition.threads.toNat)
  (surroundings : Surroundings) (cancellation : Cancellation)
include hworkers

theorem advance_refused (rest : Agenda) :
    (ofDefinition definition).advance 0 (Agenda.opening definition.threads.toNat false ++ rest) =
      ⟨greeted definition (answers (Dialing.prompt.handshakes definition.threads.toNat false)), 0,
        .error .connection⟩ := by
  have hnone : connected (Dialing.prompt.handshakes definition.threads.toNat false) = [] :=
    connected_prompt _ false
  have hended := advance_unconnected (length_handshakes _ _ _) hworkers hnone 0
    (Agenda.forAll (List.range definition.threads.toNat) 0 (.written false) ++ rest)
  rwa [ordered_prompt, latest_prompt, ← List.append_assoc, ← Agenda.opening] at hended

/-- A run goes through its agenda, which begins with the answers and the requests. -/
theorem carry_eq_opening (accepted : Bool) :
    carry definition surroundings accepted cancellation =
      (ofDefinition definition).advance 0 (Agenda.opening definition.threads.toNat accepted ++
        Agenda.plan (List.range definition.threads.toNat) surroundings.firstByteTimeout
          (surroundings.scripts.take definition.threads.toNat) (cancelTime cancellation)) := by
  cases accepted with
  | true => rw [carry, carryDialed, ofRun_prompt]
  | false =>
    have hnone : connected (Dialing.prompt.handshakes definition.threads.toNat false) = [] :=
      connected_prompt _ false
    rw [advance_refused hworkers, carry, carryDialed, Agenda.ofRun_eq, Agenda.overture,
      List.append_assoc, advance_unconnected (length_handshakes _ _ _) hworkers hnone,
      latest_prompt]
    intro time _
    rw [latest_prompt]
    exact Nat.zero_le time

theorem carry_eq_refused :
    carry definition surroundings false cancellation =
      ⟨greeted definition (answers (Dialing.prompt.handshakes definition.threads.toNat false)), 0,
        .error .connection⟩ := by
  rw [carry_eq_opening hworkers, advance_refused hworkers]

theorem carry_refused :
    (carry definition surroundings false cancellation).windowStart = .error .connection :=
  congrArg DownloadEnd.windowStart (carry_eq_refused hworkers surroundings cancellation)

/-- Once the requests are out, a run goes through what the servers do. -/
theorem carry_eq_advance :
    carry definition surroundings true cancellation =
        (carried definition []).advance
          (timeAfter 0 (Agenda.opening definition.threads.toNat true))
          (Agenda.plan (List.range definition.threads.toNat) surroundings.firstByteTimeout
            (surroundings.scripts.take definition.threads.toNat) (cancelTime cancellation)) ∧
      heard definition surroundings true cancellation =
        answers (Dialing.prompt.handshakes definition.threads.toNat true) ++
          (carried definition []).log
            (Agenda.plan (List.range definition.threads.toNat) surroundings.firstByteTimeout
              (surroundings.scripts.take definition.threads.toNat) (cancelTime cancellation)) := by
  rw [carry_eq_opening hworkers, heard, ofRun_prompt]
  exact (passes_opening definition hworkers).advance 0 _

theorem carry_ends (htarget : 0 < definition.targetTime.toNat) :
    ∃ now done rest,
      Agenda.plan (List.range definition.threads.toNat) surroundings.firstByteTimeout
          (surroundings.scripts.take definition.threads.toNat) (cancelTime cancellation) =
        done ++ rest ∧
      Ends definition now done rest (carry definition surroundings true cancellation) ∧
      ∀ id ok, .firstByte id ok ∈ heard definition surroundings true cancellation ↔
        .firstByte id ok ∈ done.said definition.threads.toNat := by
  let agenda := Agenda.plan (List.range definition.threads.toNat) surroundings.firstByteTimeout
    (surroundings.scripts.take definition.threads.toNat) (cancelTime cancellation)
  obtain ⟨hcarry, hheard⟩ := carry_eq_advance hworkers surroundings cancellation
  have hascending : Ascending Appointment.time agenda := Agenda.ascending_plan ..
  obtain ⟨done, rest, hagenda, hends, hsaid⟩ := exists_ends hworkers htarget
    (timeAfter 0 (Agenda.opening definition.threads.toNat true)) hascending
    (Agenda.plain_plan _ _ _ _)
  refine ⟨_, done, rest, hagenda, hcarry ▸ hends, fun id ok => ?_⟩
  -- Nothing has been read while the workers were greeted.
  have hgreeting : .firstByte id ok ∉
      answers (Dialing.prompt.handshakes definition.threads.toNat true) := by
    simp [answers]
  have hnothing : .firstByte id ok ∉ Agenda.said definition.threads.toNat [] := by
    simp [Agenda.firstByte_mem_said, Agenda.readings]
  rw [hheard, List.mem_append, hsaid, or_iff_right hgreeting, or_iff_right hnothing]

omit hworkers in
/-- A run that is not turned away leaves behind what it is carried to. -/
theorem runDialed_eq_ended {target : Target} {surroundings : Surroundings}
    {conditions : Conditions} {address : Address.Socket}
    (hresolve : resolve target surroundings.resolution = .ok address)
    (hbudget : conditions.budget.exhausted = false)
    (hcancel : conditions.cancellation ≠ .beforeStart) (dialing : Dialing) :
    runDialed dialing definition target surroundings conditions =
      ended definition target surroundings
        (dialing.handshakes definition.threads.toNat (surroundings.network.accepts address))
        conditions.budget conditions.observed
        (carryDialed dialing definition surroundings (surroundings.network.accepts address)
          conditions.cancellation) := by
  simp only [runDialed, hbudget, hcancel, hresolve, Bool.false_eq_true, if_false]

omit hworkers in
/-- A run that got as far as its connections ends as it is carried to its end. -/
theorem run_carried {target : Target} {surroundings : Surroundings} {conditions : Conditions}
    {address : Address.Socket} (hresolve : resolve target surroundings.resolution = .ok address)
    (hbudget : conditions.budget.exhausted = false)
    (hcancel : conditions.cancellation ≠ .beforeStart) {ending : DownloadEnd}
    (hending : carry definition surroundings (surroundings.network.accepts address)
      conditions.cancellation = ending) :
    (run definition target surroundings conditions).outcome =
        (ending.windowStart.bind fun start =>
          DownloadResult.reduce definition start ending.reports) ∧
      (run definition target surroundings conditions).elapsed = ending.time ∧
      (run definition target surroundings conditions).budget =
        (conditions.budget.charge ending.traffic).1 := by
  subst hending
  rw [run, runDialed_eq_ended hresolve hbudget hcancel]
  exact ⟨rfl, rfl, rfl⟩

omit hworkers in
theorem admitted_of_ok {target : Target} {surroundings : Surroundings} {conditions : Conditions}
    {result : DownloadResult}
    (hok : (run definition target surroundings conditions).outcome = .ok result) :
    conditions.budget.exhausted = false ∧ conditions.cancellation ≠ .beforeStart ∧
      ∃ address, resolve target surroundings.resolution = .ok address := by
  rw [run, runDialed] at hok
  split at hok
  · cases hok
  · next hbudget =>
    split at hok
    · cases hok
    · next hcancel =>
      split at hok
      · cases hok
      · next address hresolve =>
        exact ⟨Bool.eq_false_iff.mpr hbudget, hcancel, address, hresolve⟩

end Download

end Throughput
