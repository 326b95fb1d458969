import Throughput.Proofs.Download.Dialing
import Throughput.Proofs.Download.Mirror

/-!
# The workers that are connected

A run whose workers dial is told from one in which all are connected at once. It has those workers
that got their connection, and begins when the last worker has learnt whether it did. So what is
known of runs in which everybody is answered at once holds of every run.
-/

namespace Throughput

open Agenda Handshake

namespace Handshake

variable {handshakes : List Handshake}

/-- The number that the worker has among all, which has this one among those that are connected. -/
def numberOf (handshakes : List Handshake) (id : Nat) : Nat :=
  (connected handshakes)[id]?.getD 0

theorem map_numberOf :
    (List.range (connected handshakes).length).map (numberOf handshakes) =
      connected handshakes := by
  apply List.ext_getElem
  · simp
  · intro index hleft hright
    simp [numberOf, hright]

theorem connects_numberOf {id : Nat} (hid : id < (connected handshakes).length) :
    connects handshakes (numberOf handshakes id) = true := by
  rw [numberOf, List.getElem?_eq_getElem hid]
  exact mem_connected.mp (List.getElem_mem hid)

theorem length_connected :
    (connected handshakes).length = handshakes.countP accepted := by
  have hmap : (List.range handshakes.length).map (connects handshakes) =
      handshakes.map accepted := by
    apply List.ext_getElem
    · simp
    · intro index hleft hright
      rw [List.length_map] at hright
      simp [connects, hright]
  have hcount := congrArg (List.countP id) hmap
  rw [List.countP_map, List.countP_map] at hcount
  rw [connected, ← List.countP_eq_length_filter]
  exact hcount

theorem connected_eq_nil : connected handshakes = [] ↔ handshakes.any accepted = false := by
  rw [← List.length_eq_zero_iff, length_connected, List.countP_eq_zero, List.any_eq_false]

theorem countP_of_latest_le {time : Nat} (hlate : latest handshakes ≤ time) :
    (handshakes.countP fun handshake => handshake.accepted && handshake.time ≤ time) =
      (connected handshakes).length := by
  rw [length_connected]
  refine List.countP_congr fun handshake hmem => ?_
  have hle : handshake.time ≤ time := Nat.le_trans (le_latest hmem) hlate
  simp [hle]

/-- The workers that are connected keep their order. -/
theorem pairwise_numberOf :
    ((List.range (connected handshakes).length).map (numberOf handshakes)).Pairwise (· < ·) := by
  rw [map_numberOf]
  exact List.pairwise_lt_range.filter _

theorem range_perm_connected :
    (List.range handshakes.length).Perm (unconnected handshakes ++ connected handshakes) :=
  (List.perm_append_comm.trans (List.filter_append_perm _ _)).symm

end Handshake

namespace Attempt

theorem time_handshake_le (timeout : Nat) (listening : Bool) (attempt : Attempt) :
    (attempt.handshake timeout listening).time ≤ timeout := by
  cases attempt with
  | answered delay =>
    rw [handshake]
    split
    · next hbefore => exact Nat.le_of_lt hbefore
    · exact Nat.le_refl _
  | refused delay => exact Nat.min_le_right _ _
  | lost => exact Nat.le_refl _

theorem listening_of_accepted {timeout : Nat} {listening : Bool} {attempt : Attempt}
    (haccepted : (attempt.handshake timeout listening).accepted = true) : listening = true := by
  cases attempt with
  | answered delay =>
    rw [handshake] at haccepted
    split at haccepted
    · exact haccepted
    · cases haccepted
  | refused delay => cases haccepted
  | lost => cases haccepted

end Attempt

/-- The surroundings of the workers that are connected. -/
def Surroundings.ofConnected (surroundings : Surroundings) (handshakes : List Handshake) :
    Surroundings :=
  { surroundings with
    scripts := (connected handshakes).map fun id => surroundings.scripts[id]?.getD [] }

def DownloadDefinition.ofConnected (definition : DownloadDefinition)
    (handshakes : List Handshake) : DownloadDefinition :=
  definition.withThreads (UInt32.ofNat (connected handshakes).length)

/-- The cancellation as a run sees it that begins so much later. -/
def Cancellation.since (lag : Nat) : Cancellation → Cancellation
  | .after time => .after (time - lag)
  | .never => .never
  | .beforeStart => .beforeStart

namespace Download

theorem cancelTime_since (lag : Nat) (cancellation : Cancellation) :
    cancelTime (cancellation.since lag) = (cancelTime cancellation).map (· - lag) := by
  cases cancellation <;> rfl

theorem since_eq_beforeStart {lag : Nat} {cancellation : Cancellation} :
    cancellation.since lag = .beforeStart ↔ cancellation = .beforeStart := by
  cases cancellation <;> simp [Cancellation.since]

section Mirror

variable {definition : DownloadDefinition} {handshakes : List Handshake}
  (hlength : handshakes.length = definition.threads.toNat)
  (hsome : connected handshakes ≠ []) (surroundings : Surroundings)
include hlength

theorem threads_ofConnected :
    (definition.ofConnected handshakes).threads.toNat = (connected handshakes).length := by
  have hle : (connected handshakes).length ≤ definition.threads.toNat := by
    rw [← hlength, length_connected]
    exact List.countP_le_length
  exact UInt32.toNat_ofNat_of_lt' (Nat.lt_of_le_of_lt hle definition.threads.toNat_lt)

include hsome

theorem mirrors_connected :
    Mirrors definition.threads.toNat
      (foretold handshakes surroundings.firstByteTimeout surroundings.scripts)
      (definition.ofConnected handshakes).threads.toNat
      ((surroundings.ofConnected handshakes).plan
        (definition.ofConnected handshakes).threads.toNat)
      (numberOf handshakes) (unconnected handshakes) := by
  rw [threads_ofConnected hlength]
  refine ⟨?_, fun id hid => ?_, fun id hmem => ?_, fun id hmem => ?_⟩
  · rw [map_numberOf, ← hlength]
    exact range_perm_connected
  · have hscript : ((surroundings.ofConnected handshakes).scripts.take
        (connected handshakes).length)[id]?.getD [] =
          surroundings.scripts[numberOf handshakes id]?.getD [] := by
      rw [List.getElem?_take_of_lt hid]
      simp [Surroundings.ofConnected, numberOf, hid]
    rw [readings_foretold, if_pos (connects_numberOf hid), Surroundings.plan,
      readings_plan_sorted _ _ _ List.nodup_range (List.mem_range.mpr hid), hscript]
    rfl
  · obtain ⟨hid, hlost⟩ := mem_unconnected.mp hmem
    rw [readings_foretold, hlost, if_neg Bool.false_ne_true, if_pos hid]
    rfl
  · obtain ⟨hid, hlost⟩ := mem_unconnected.mp hmem
    refine ⟨0, List.length_pos_of_ne_nil hsome, ?_⟩
    rw [readings_foretold, hlost, if_neg Bool.false_ne_true, if_pos hid]
    exact Nat.zero_le _

theorem downloading_connected :
    downloading definition.threads.toNat
        (foretold handshakes surroundings.firstByteTimeout surroundings.scripts) =
      (downloading (definition.ofConnected handshakes).threads.toNat
        ((surroundings.ofConnected handshakes).plan
          (definition.ofConnected handshakes).threads.toNat)).map (numberOf handshakes) := by
  have hmirrors := mirrors_connected hlength hsome surroundings
  have hlt : ∀ left right : Nat, left < right → right < left → left = right := by omega
  refine hmirrors.downloading_perm.eq_of_pairwise (fun left right _ _ => hlt left right) ?_ ?_
  · exact List.pairwise_lt_range.filter _
  · rw [threads_ofConnected hlength]
    exact pairwise_numberOf.sublist (List.filter_sublist.map _)

variable (hbounded : definition.Bounded) {cancelAt : Option Nat}
  (hcancel : ∀ time, cancelAt = some time → latest handshakes ≤ time)
include hbounded hcancel

/-- The answer of a run is that of its connected workers, which they get by so much later. -/
theorem answer_delayed :
    DownloadEnd.answer definition ((ofDefinition definition).advance 0
        (ofRun handshakes surroundings.firstByteTimeout surroundings.scripts cancelAt)) =
      let answer := Agenda.answer (definition.ofConnected handshakes)
        ((surroundings.ofConnected handshakes).plan
          (definition.ofConnected handshakes).threads.toNat)
        (cancelAt.map (· - latest handshakes))
      { answer with time := answer.time + latest handshakes } := by
  have hcomplete := complete_foretold hlength surroundings.firstByteTimeout surroundings.scripts
  have htrails := trails_advance hlength hsome surroundings.firstByteTimeout surroundings.scripts
    hbounded.threads_pos hcancel
  rw [htrails.answer_eq,
    answer_advance hcomplete hbounded.threads_pos hbounded.targetTime_pos,
    ← (mirrors_connected hlength hsome surroundings).answer_eq hcomplete.ascending
      (downloading_connected hlength hsome surroundings)]
  rfl

end Mirror

theorem latest_handshakes_le (dialing : Dialing) (workers : Nat) (listening : Bool) :
    latest (dialing.handshakes workers listening) ≤ dialing.timeout := by
  refine latest_le fun handshake hmem => ?_
  obtain ⟨id, -, rfl⟩ := List.mem_map.mp hmem
  exact Attempt.time_handshake_le _ _ _

/-- Of three workers one is answered in time, one too late and one not at all. -/
example : Dialing.handshakes ⟨500, [.answered 20, .answered 700, .lost]⟩ 3 true =
    [⟨20, true⟩, ⟨500, false⟩, ⟨500, false⟩] := by
  decide

/-- Nobody is connected where nobody listens. -/
theorem listening_of_connected {dialing : Dialing} {workers : Nat} {listening : Bool}
    (hsome : connected (dialing.handshakes workers listening) ≠ []) : listening = true := by
  obtain ⟨id, hmem⟩ := List.exists_mem_of_ne_nil _ hsome
  obtain ⟨handshake, hget, haccepted⟩ :=
    Option.map_eq_some_iff.mp (connects_eq_true.mp (mem_connected.mp hmem))
  obtain ⟨other, -, rfl⟩ := List.mem_map.mp (List.mem_of_getElem? hget)
  exact Attempt.listening_of_accepted haccepted

/-- How a run goes whose workers dial. -/
structure Dialed (dialing : Dialing) (definition : DownloadDefinition) (target : Target)
    (surroundings : Surroundings) (conditions : Conditions) (handshakes : List Handshake) :
    Prop where
  timely : latest handshakes ≤ dialing.timeout
  cancelled : ∀ time, cancelTime conditions.cancellation = some time → time < latest handshakes →
    runDialed dialing definition target surroundings conditions =
      { Answer.run conditions ⟨.error .cancelled, time, 0⟩ with
        accepted := handshakes.countP fun handshake => handshake.accepted && handshake.time ≤ time
        request := none }
  unconnected : connected handshakes = [] →
    (∀ time, cancelTime conditions.cancellation = some time → latest handshakes ≤ time) →
    runDialed dialing definition target surroundings conditions =
      { Answer.run conditions ⟨.error .connection, latest handshakes, 0⟩ with
        accepted := 0
        request := none }
  delayed : connected handshakes ≠ [] →
    (∀ time, cancelTime conditions.cancellation = some time → latest handshakes ≤ time) →
    (definition.ofConnected handshakes).validate = .ok target ∧
      runDialed dialing definition target surroundings conditions =
        let prompt := run (definition.ofConnected handshakes) target
          (surroundings.ofConnected handshakes)
          { conditions with cancellation := conditions.cancellation.since (latest handshakes) }
        { prompt with elapsed := prompt.elapsed + latest handshakes }

theorem answer_greeted (definition : DownloadDefinition) (log : List WorkerEvent) (time : Nat)
    (e : MeasureError) :
    DownloadEnd.answer definition ⟨greeted definition log, time, .error e⟩ =
      ⟨.error e, time, 0⟩ := by
  rw [DownloadEnd.answer, traffic_greeted]
  rfl

section Run

variable {definition : DownloadDefinition} {target : Target} {surroundings : Surroundings}
  {conditions : Conditions} {handshakes : List Handshake}

/-- All that are connected have their connections, and the request is out. -/
theorem ended_requested {ending : DownloadEnd} {answer : Answer}
    (hanswer : ending.answer definition = answer) (hsome : connected handshakes ≠ [])
    (hlate : latest handshakes ≤ answer.time) :
    ended definition target surroundings handshakes conditions.budget conditions.observed ending =
      { answer.run conditions with
        accepted := (connected handshakes).length
        request := some (Request.text target
          (if definition.avoidCaches then some surroundings.clock else none)) } := by
  have hopened : failed handshakes = false := by
    simp [failed, eq_true_of_ne_false (mt connected_eq_nil.mpr hsome)]
  rw [ended_eq, hanswer, countP_of_latest_le hlate, hopened, decide_eq_false (Nat.not_lt.mpr hlate)]
  rfl

variable {address : Address.Socket} (hlength : handshakes.length = definition.threads.toNat)
  (hlate : ∀ time, cancelTime conditions.cancellation = some time → latest handshakes ≤ time)
include hlength hlate

theorem ended_unconnected (hworkers : 0 < definition.threads.toNat)
    (hnone : connected handshakes = []) :
    ended definition target surroundings handshakes conditions.budget conditions.observed
        ((ofDefinition definition).advance 0 (ofRun handshakes surroundings.firstByteTimeout
          surroundings.scripts (cancelTime conditions.cancellation))) =
      { Answer.run conditions ⟨.error .connection, latest handshakes, 0⟩ with
        accepted := 0
        request := none } := by
  have hfailed : failed handshakes = true := by
    have hsome : handshakes ≠ [] := List.ne_nil_of_length_pos (hlength ▸ hworkers)
    simp [failed, connected_eq_nil.mp hnone, hsome]
  rw [ofRun_eq _ _ hlate, overture, List.append_assoc,
    advance_unconnected hlength hworkers hnone, ended_eq, answer_greeted, hfailed]
  simp only [countP_of_latest_le (Nat.le_refl _), hnone]
  rfl

/-- The run of the connected workers, all of whom get their answers at once. -/
theorem ended_delayed (hbounded : definition.Bounded)
    (hvalid : (definition.ofConnected handshakes).validate = .ok target)
    (hresolve : resolve target surroundings.resolution = .ok address)
    (hbudget : conditions.budget.exhausted = false)
    (hcancel : conditions.cancellation ≠ .beforeStart)
    (haccepts : surroundings.network.accepts address = true)
    (hsome : connected handshakes ≠ []) :
    ended definition target surroundings handshakes conditions.budget conditions.observed
        ((ofDefinition definition).advance 0 (ofRun handshakes surroundings.firstByteTimeout
          surroundings.scripts (cancelTime conditions.cancellation))) =
      let prompt := run (definition.ofConnected handshakes) target
        (surroundings.ofConnected handshakes)
        { conditions with cancellation := conditions.cancellation.since (latest handshakes) }
      { prompt with elapsed := prompt.elapsed + latest handshakes } := by
  have hrun := @runDialed_eq_ended (definition.ofConnected handshakes) target
    (surroundings.ofConnected handshakes)
    { conditions with cancellation := conditions.cancellation.since (latest handshakes) } address
    hresolve hbudget (mt since_eq_beforeStart.mp hcancel) .prompt
  have hprompt := answer_carry (DownloadDefinition.bounded_of_validate hvalid)
    (surroundings.ofConnected handshakes) (conditions.cancellation.since (latest handshakes))
  have hconnected : connected (Dialing.prompt.handshakes
      (definition.ofConnected handshakes).threads.toNat true) =
        List.range (connected handshakes).length := by
    rw [connected_prompt, if_pos rfl, threads_ofConnected hlength]
  have haccepted : (surroundings.ofConnected handshakes).network.accepts address = true := haccepts
  rw [haccepted, ← carry, ended_requested hprompt] at hrun
  · rw [ended_requested (answer_delayed hlength hsome surroundings hbounded hlate) hsome
      (Nat.le_add_left _ _), run, hrun, hconnected, List.length_range, cancelTime_since]
    rfl
  · rwa [hconnected, Ne, List.range_eq_nil, List.length_eq_zero_iff]
  · rw [latest_prompt]
    exact Nat.zero_le _

end Run

/-- A run whose workers dial is the run of those that are connected, begun when the last worker has
learnt whether it is. If nobody is connected, or the run is cancelled before, it ends there. -/
theorem runDialed_conforms (dialing : Dialing) {definition : DownloadDefinition} {target : Target}
    {surroundings : Surroundings} {conditions : Conditions} {address : Address.Socket}
    (hvalid : definition.validate = .ok target)
    (hresolve : resolve target surroundings.resolution = .ok address)
    (hbudget : conditions.budget.exhausted = false)
    (hcancel : conditions.cancellation ≠ .beforeStart) :
    Dialed dialing definition target surroundings conditions
      (dialing.handshakes definition.threads.toNat (surroundings.network.accepts address)) := by
  have hbounded := DownloadDefinition.bounded_of_validate hvalid
  have hrun := @runDialed_eq_ended definition _ _ _ _ hresolve hbudget hcancel dialing
  have hlength := length_handshakes dialing definition.threads.toNat
    (surroundings.network.accepts address)
  have hlistening := @listening_of_connected dialing definition.threads.toNat
    (surroundings.network.accepts address)
  have htimely := latest_handshakes_le dialing definition.threads.toNat
    (surroundings.network.accepts address)
  rw [carryDialed] at hrun
  generalize dialing.handshakes definition.threads.toNat (surroundings.network.accepts address) =
    handshakes at *
  refine ⟨htimely, fun time hafter hbefore => ?_, fun hnone hlate => ?_, fun hsome hlate => ?_⟩
  · have hended := advance_cancelled hlength hbounded.threads_pos surroundings.firstByteTimeout
      surroundings.scripts hbefore
    rw [hafter, hended, ended_eq, answer_greeted] at hrun
    rw [hrun]
    simp [hbefore]
  · rw [hrun]
    exact ended_unconnected hlength hlate hbounded.threads_pos hnone
  · have haccepts := hlistening hsome
    have hconnected : (definition.ofConnected handshakes).validate = .ok target := by
      have hthreads := @threads_ofConnected definition _ hlength
      refine DownloadDefinition.validate_withThreads hvalid ?_ ?_
      · change 0 < (definition.ofConnected handshakes).threads.toNat
        rw [hthreads]
        exact List.length_pos_of_ne_nil hsome
      · change (definition.ofConnected handshakes).threads.toNat ≤ _
        rw [hthreads, ← hlength, length_connected]
        exact List.countP_le_length
    rw [hrun]
    exact ⟨hconnected, ended_delayed hlength hlate hbounded hconnected hresolve hbudget hcancel
      haccepts hsome⟩

end Download

end Throughput
