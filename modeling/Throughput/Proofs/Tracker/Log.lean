import Mathlib.Data.List.Induction
import Mathlib.Data.List.Nodup
import Throughput.Tracker

/-!
# Logs of worker events

Which workers have reported what in a log, and which events may come next in one. Each worker first
says whether it is connected. One that is, and knows that all the others have answered too, says
whether its first byte came. One whose first byte came may say that the server closed its
connection.
-/

namespace Throughput

namespace WorkerEvent

def worker : WorkerEvent → Nat
  | .connected worker _ | .firstByte worker _ | .disconnected worker => worker

def isConnected : WorkerEvent → Bool
  | .connected _ _ => true
  | .firstByte _ _ | .disconnected _ => false

def isFirstByte : WorkerEvent → Bool
  | .firstByte _ _ => true
  | .connected _ _ | .disconnected _ => false

end WorkerEvent

/-- The workers below `workers` whose event is in the log, in ascending order. -/
def reporters (workers : Nat) (event : Nat → WorkerEvent) (log : List WorkerEvent) : List Nat :=
  (List.range workers).filter fun worker => event worker ∈ log

section Reporters

variable {workers worker : Nat} {event other : Nat → WorkerEvent} {log : List WorkerEvent}

theorem mem_reporters : worker ∈ reporters workers event log ↔
    worker < workers ∧ event worker ∈ log := by
  simp [reporters]

theorem pairwise_reporters : (reporters workers event log).Pairwise (· < ·) :=
  List.pairwise_lt_range.filter _

@[simp]
theorem reporters_nil : reporters workers event [] = [] := by
  simp [reporters]

theorem reporters_ne_nil : reporters workers event log ≠ [] ↔
    ∃ worker < workers, event worker ∈ log := by
  simp [reporters]

theorem reporters_concat_of_ne {last : WorkerEvent} (hne : ∀ worker, event worker ≠ last) :
    reporters workers event (log ++ [last]) = reporters workers event log := by
  apply List.filter_congr
  intro worker _
  simp [hne worker]

theorem length_reporters_concat (hworker : worker < workers) (hfresh : event worker ∉ log)
    (hinjective : Function.Injective event) :
    (reporters workers event (log ++ [event worker])).length =
      (reporters workers event log).length + 1 := by
  have hnodup : ∀ log, (reporters workers event log).Nodup := fun log =>
    pairwise_reporters.imp Nat.ne_of_lt
  have hperm : (reporters workers event (log ++ [event worker])).Perm
      (worker :: reporters workers event log) := by
    rw [List.perm_ext_iff_of_nodup (hnodup _)
      (List.nodup_cons.mpr ⟨fun hmem => hfresh (mem_reporters.mp hmem).2, hnodup _⟩)]
    intro candidate
    rw [List.mem_cons, mem_reporters, mem_reporters, List.mem_append, List.mem_singleton,
      hinjective.eq_iff]
    constructor
    · rintro ⟨hcandidate, hmem | rfl⟩
      · exact Or.inr ⟨hcandidate, hmem⟩
      · exact Or.inl rfl
    · rintro (rfl | ⟨hcandidate, hmem⟩)
      · exact ⟨hworker, Or.inr rfl⟩
      · exact ⟨hcandidate, Or.inl hmem⟩
  simpa using hperm.length_eq

theorem length_reporters_report {report : Nat → Bool → WorkerEvent} {ok : Bool}
    (hinjective : Function.Injective2 report) (hworker : worker < workers)
    (hfresh : report worker ok ∉ log) (result : Bool) :
    (reporters workers (report · result) (log ++ [report worker ok])).length =
      (reporters workers (report · result) log).length + (ok == result).toNat := by
  by_cases hresult : ok = result
  · subst hresult
    rw [length_reporters_concat hworker hfresh (hinjective.left ok)]
    simp
  · rw [reporters_concat_of_ne fun worker heq => hresult (hinjective heq).2.symm]
    simp [hresult]

theorem length_reporters_add (hexclusive : ∀ worker, event worker ∈ log → other worker ∉ log) :
    (reporters workers event log).length + (reporters workers other log).length =
      ((List.range workers).filter fun worker =>
        event worker ∈ log ∨ other worker ∈ log).length := by
  unfold reporters
  induction List.range workers with
  | nil => rfl
  | cons worker rest ih =>
    have hworker := hexclusive worker
    by_cases hevent : event worker ∈ log <;> by_cases hother : other worker ∈ log <;>
      simp_all <;> omega

section Base

variable {base : Nat → WorkerEvent}
  (hexclusive : ∀ worker, event worker ∈ log → other worker ∉ log)
  (hbase : ∀ worker, event worker ∈ log ∨ other worker ∈ log → base worker ∈ log)

include hbase in
theorem either_sublist_reporters :
    ((List.range workers).filter fun worker => event worker ∈ log ∨ other worker ∈ log).Sublist
      (reporters workers base log) := by
  apply List.monotone_filter_right
  intro worker
  simpa using hbase worker

include hexclusive hbase

theorem length_reporters_add_le :
    (reporters workers event log).length + (reporters workers other log).length ≤
      (reporters workers base log).length := by
  rw [length_reporters_add hexclusive]
  exact (either_sublist_reporters hbase).length_le

/-- Among the workers with a base report, all have made one of two exclusive reports exactly if
these are as many. -/
theorem length_reporters_add_eq_iff :
    (reporters workers event log).length + (reporters workers other log).length =
        (reporters workers base log).length ↔
      ∀ worker < workers, base worker ∈ log → event worker ∈ log ∨ other worker ∈ log := by
  rw [length_reporters_add hexclusive, (either_sublist_reporters hbase).length_eq]
  constructor
  · intro heq worker hworker hmem
    have := mem_reporters.mpr ⟨hworker, hmem⟩
    rw [← heq] at this
    simpa [hworker] using this
  · intro hall
    apply List.filter_congr
    intro worker hworker
    have := hall worker (List.mem_range.mp hworker)
    exact decide_eq_decide.mpr ⟨hbase worker, this⟩

end Base

/-- If only workers with a base report have made another, all of them have made it exactly if these
are as many. -/
theorem length_reporters_le_iff (hbase : ∀ worker, other worker ∈ log → event worker ∈ log) :
    (reporters workers event log).length ≤ (reporters workers other log).length ↔
      ∀ worker < workers, event worker ∈ log → other worker ∈ log := by
  have hsublist : (reporters workers other log).Sublist (reporters workers event log) := by
    apply List.monotone_filter_right
    intro worker
    simpa using hbase worker
  constructor
  · intro hle worker hworker hmem
    have hsame := hsublist.eq_of_length_le hle
    exact (mem_reporters.mp (hsame ▸ mem_reporters.mpr ⟨hworker, hmem⟩)).2
  · intro hall
    have hsame : reporters workers event log = reporters workers other log := by
      apply List.filter_congr
      intro worker hmem
      exact decide_eq_decide.mpr ⟨hall worker (List.mem_range.mp hmem), hbase worker⟩
    exact Nat.le_of_eq (congrArg List.length hsame)

end Reporters

def Handshaken (workers : Nat) (log : List WorkerEvent) : Prop :=
  ∀ worker < workers, .connected worker true ∈ log ∨ .connected worker false ∈ log

/-- Every connected worker, of which there is one at least, has said whether its first byte came. -/
def Settled (workers : Nat) (log : List WorkerEvent) : Prop :=
  Handshaken workers log ∧ (∃ worker < workers, .connected worker true ∈ log) ∧
    ∀ worker < workers, .connected worker true ∈ log →
      .firstByte worker true ∈ log ∨ .firstByte worker false ∈ log

/-- Every worker whose first byte came was closed by the server, and no other byte can come. -/
def AllGone (workers : Nat) (log : List WorkerEvent) : Prop :=
  Settled workers log ∧
    ∀ worker < workers, .firstByte worker true ∈ log → .disconnected worker ∈ log

instance (workers : Nat) (log : List WorkerEvent) : Decidable (Handshaken workers log) :=
  inferInstanceAs (Decidable (∀ worker < workers, _))

instance (workers : Nat) (log : List WorkerEvent) : Decidable (Settled workers log) :=
  inferInstanceAs (Decidable (_ ∧ (∃ worker < workers, _) ∧ ∀ worker < workers, _))

instance (workers : Nat) (log : List WorkerEvent) : Decidable (AllGone workers log) :=
  inferInstanceAs (Decidable (_ ∧ ∀ worker < workers, _))

/-- The event may come next. -/
def Admits (workers : Nat) (log : List WorkerEvent) : WorkerEvent → Prop
  | .connected worker _ => worker < workers ∧ ∀ ok, .connected worker ok ∉ log
  | .firstByte worker _ => Handshaken workers log ∧ .connected worker true ∈ log ∧
      ∀ ok, .firstByte worker ok ∉ log
  | .disconnected worker => .firstByte worker true ∈ log ∧ .disconnected worker ∉ log

theorem Admits.not_handshaken {workers worker : Nat} {log : List WorkerEvent} {ok : Bool}
    (h : Admits workers log (.connected worker ok)) : ¬ Handshaken workers log := by
  obtain ⟨hworker, hfresh⟩ := h
  intro hhand
  exact (hhand worker hworker).elim (hfresh true) (hfresh false)

/-- A log whose every event may come after the ones before. -/
inductive Orderly (workers : Nat) : List WorkerEvent → Prop
  | nil : Orderly workers []
  | concat {log : List WorkerEvent} {event : WorkerEvent} : Orderly workers log →
      Admits workers log event → Orderly workers (log ++ [event])

/-- What an orderly log says of one worker does not contradict itself. -/
structure Consistent (workers : Nat) (log : List WorkerEvent) : Prop where
  below : ∀ worker ok, .connected worker ok ∈ log → worker < workers
  connected : ∀ worker, .connected worker true ∈ log → .connected worker false ∉ log
  begun : ∀ worker ok, .firstByte worker ok ∈ log →
    Handshaken workers log ∧ .connected worker true ∈ log
  firstByte : ∀ worker, .firstByte worker true ∈ log → .firstByte worker false ∉ log
  disconnected : ∀ worker, .disconnected worker ∈ log → .firstByte worker true ∈ log

theorem Consistent.connected_of_firstByte {workers : Nat} {log : List WorkerEvent}
    (h : Consistent workers log) (worker : Nat)
    (hmem : .firstByte worker true ∈ log ∨ .firstByte worker false ∈ log) :
    .connected worker true ∈ log := by
  rcases hmem with hmem | hmem
  · exact (h.begun worker true hmem).2
  · exact (h.begun worker false hmem).2

theorem injective_connected : Function.Injective2 WorkerEvent.connected :=
  fun _ _ _ _ heq => WorkerEvent.connected.inj heq

theorem injective_firstByte : Function.Injective2 WorkerEvent.firstByte :=
  fun _ _ _ _ heq => WorkerEvent.firstByte.inj heq

theorem Handshaken.append {workers : Nat} {log : List WorkerEvent} (h : Handshaken workers log)
    (after : List WorkerEvent) : Handshaken workers (log ++ after) := by
  intro worker hworker
  rcases h worker hworker with hmem | hmem
  · exact Or.inl (List.mem_append_left _ hmem)
  · exact Or.inr (List.mem_append_left _ hmem)

theorem Consistent.concat {workers : Nat} {log : List WorkerEvent} {event : WorkerEvent}
    (h : Consistent workers log) (hadmits : Admits workers log event) :
    Consistent workers (log ++ [event]) := by
  have hkept : Handshaken workers log → Handshaken workers (log ++ [event]) :=
    fun hand => hand.append [event]
  obtain ⟨hbelow, hconnected, hbegun, hfirstByte, hdisconnected⟩ := h
  cases event with
  | connected id result =>
    obtain ⟨hid, hfresh⟩ := hadmits
    constructor <;> grind
  | firstByte id result =>
    obtain ⟨hhand, hup, hfresh⟩ := hadmits
    constructor <;> grind
  | disconnected id =>
    obtain ⟨hdown, hfresh⟩ := hadmits
    constructor <;> grind

theorem Orderly.consistent {workers : Nat} {log : List WorkerEvent} (h : Orderly workers log) :
    Consistent workers log := by
  induction h with
  | nil => constructor <;> simp
  | concat _ hadmits ih => exact ih.concat hadmits

theorem orderly_concat {workers : Nat} {log : List WorkerEvent} {event : WorkerEvent} :
    Orderly workers (log ++ [event]) ↔ Orderly workers log ∧ Admits workers log event := by
  constructor
  · intro h
    generalize hlog : log ++ [event] = whole at h
    cases h with
    | nil => simp at hlog
    | concat hbefore hadmits =>
      obtain ⟨rfl, hlast⟩ := List.append_inj' hlog rfl
      cases hlast
      exact ⟨hbefore, hadmits⟩
  · rintro ⟨hlog, hadmits⟩
    exact hlog.concat hadmits

theorem Orderly.of_append {workers : Nat} {log after : List WorkerEvent}
    (h : Orderly workers (log ++ after)) : Orderly workers log := by
  induction after using List.reverseRecOn with
  | nil => simpa using h
  | append_singleton after event ih =>
    rw [← List.append_assoc, orderly_concat] at h
    exact ih h.1

end Throughput
