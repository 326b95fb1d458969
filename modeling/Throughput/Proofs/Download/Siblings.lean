import Throughput.Proofs.Download.Mirror

/-!
# Workers without one of their siblings

A worker that fails before its first byte does not disturb the others. Unless it is the last of all
to have its first-byte outcome, the run is as if that connection had never been made.
-/

namespace Throughput

open Agenda

/-- The surroundings without one of their connections. -/
def Surroundings.without (surroundings : Surroundings) (worker : Nat) : Surroundings :=
  { surroundings with scripts := surroundings.scripts.eraseIdx worker }

/-- The definition with one worker less. -/
def DownloadDefinition.fewer (definition : DownloadDefinition) : DownloadDefinition :=
  definition.withThreads (definition.threads - 1)

/-- The number that a worker had before one of them was taken away. -/
def skip (worker id : Nat) : Nat :=
  if id < worker then id else id + 1

section Skip

variable {worker : Nat}

theorem skip_lt {left right : Nat} (h : left < right) : skip worker left < skip worker right := by
  simp only [skip]
  split <;> split <;> omega

theorem skip_ne (id : Nat) : skip worker id ≠ worker := by
  rw [skip]
  split <;> omega

theorem exists_skip {workers other : Nat} (hother : other < workers + 1)
    (hworker : worker < workers + 1) (hne : other ≠ worker) :
    ∃ id < workers, skip worker id = other := by
  rcases Nat.lt_or_gt_of_ne hne with hbefore | hafter
  · exact ⟨other, by omega, if_pos hbefore⟩
  · refine ⟨other - 1, by omega, ?_⟩
    rw [skip, if_neg (by omega)]
    omega

/-- Every number but one is the old number of some worker. -/
theorem range_perm_skip {workers : Nat} (hworker : worker < workers + 1) :
    (List.range (workers + 1)).Perm ([worker] ++ (List.range workers).map (skip worker)) := by
  have hnodup : ([worker] ++ (List.range workers).map (skip worker)).Nodup := by
    refine List.nodup_cons.mpr ⟨?_, ?_⟩
    · intro hmem
      obtain ⟨id, -, hskip⟩ := List.mem_map.mp hmem
      exact skip_ne id hskip
    · exact (List.pairwise_lt_range.map (skip worker) fun _ _ => skip_lt).imp Nat.ne_of_lt
  refine (List.perm_ext_iff_of_nodup List.nodup_range hnodup).mpr fun id => ?_
  rw [List.mem_range, List.singleton_append, List.mem_cons, List.mem_map]
  constructor
  · intro hid
    rw [or_iff_not_imp_left]
    intro hne
    obtain ⟨other, hother, hskip⟩ := exists_skip hid hworker hne
    exact ⟨other, List.mem_range.mpr hother, hskip⟩
  · rintro (rfl | ⟨other, hother, rfl⟩)
    · exact hworker
    · have hlast := List.mem_range.mp hother
      rw [skip]
      split <;> omega

end Skip

section Without

variable {surroundings : Surroundings} {workers worker other time : Nat}
  (hworker : worker < workers + 1) (hother : other < workers + 1) (hne : other ≠ worker)
  (hfailed : surroundings.firstByte worker = .failed time)
  (hearly : time ≤ (surroundings.firstByte other).time)
include hworker hother hne hfailed hearly

theorem mirrors_without :
    Mirrors (workers + 1) (surroundings.plan (workers + 1)) workers
      ((surroundings.without worker).plan workers) (skip worker) [worker] where
  workers := range_perm_skip hworker
  readings := by
    intro id hid
    have hold : skip worker id < workers + 1 := by
      rw [skip]
      split <;> omega
    refine Surroundings.readings_plan_congr hid hold rfl ?_
    rw [Surroundings.without, List.getElem?_eraseIdx, skip]
    split <;> rfl
  silent := by
    intro id hmem
    obtain rfl := List.mem_singleton.mp hmem
    rw [(surroundings.readings_plan_eq hworker).2.1, hfailed]
    rfl
  early := by
    intro id hmem
    obtain rfl := List.mem_singleton.mp hmem
    obtain ⟨present, hpresent, rfl⟩ := exists_skip hother hworker hne
    refine ⟨present, hpresent, ?_⟩
    rw [(surroundings.readings_plan_eq hworker).2.2.1,
      (surroundings.readings_plan_eq hother).2.2.1, hfailed]
    exact hearly

theorem downloading_without :
    (surroundings.plan (workers + 1)).downloading (workers + 1) =
      (((surroundings.without worker).plan workers).downloading workers).map (skip worker) := by
  have hmirrors := mirrors_without hworker hother hne hfailed hearly
  have hlt : ∀ left right : Nat, left < right → right < left → left = right := by omega
  refine hmirrors.downloading_perm.eq_of_pairwise (fun left right _ _ => hlt left right) ?_ ?_
  · exact List.pairwise_lt_range.filter _
  · exact (List.pairwise_lt_range.filter _).map (skip worker) fun _ _ => skip_lt

end Without

theorem DownloadDefinition.validate_fewer {definition : DownloadDefinition} {target : Target}
    (hvalid : definition.validate = .ok target) (hthreads : 1 < definition.threads.toNat) :
    definition.fewer.threads.toNat + 1 = definition.threads.toNat ∧
      definition.fewer.validate = .ok target := by
  have hbounded := bounded_of_validate hvalid
  have hfewer : (definition.threads - 1).toNat = definition.threads.toNat - 1 :=
    UInt32.toNat_sub_of_le _ _ (UInt32.le_iff_toNat_le.mpr hbounded.threads_pos)
  refine ⟨?_, validate_withThreads hvalid (by omega) (by omega)⟩
  rw [fewer, withThreads, hfewer]
  omega

namespace Download

section Alone

variable {definition : DownloadDefinition} {target : Target} {surroundings : Surroundings}
  {worker other time : Nat}

/-- A worker that fails before its first byte, and not after all others have their first-byte
outcome, makes no difference to its siblings. -/
theorem run_without (conditions : Conditions) (hvalid : definition.validate = .ok target)
    (hworker : worker < definition.threads.toNat) (hother : other < definition.threads.toNat)
    (hne : other ≠ worker) (hfailed : surroundings.firstByte worker = .failed time)
    (hearly : time ≤ (surroundings.firstByte other).time) :
    definition.fewer.validate = .ok target ∧
      (run definition.fewer target (surroundings.without worker) conditions).toRun =
        (run definition target surroundings conditions).toRun := by
  have hbounded := DownloadDefinition.bounded_of_validate hvalid
  obtain ⟨hthreads, hfewer⟩ := DownloadDefinition.validate_fewer hvalid (by omega)
  refine ⟨hfewer, ?_⟩
  have hcomplete := surroundings.complete_plan definition.threads.toNat
  rw [← hthreads] at hworker hother
  have hmirrors := mirrors_without hworker hother hne hfailed hearly
  have hordered := downloading_without hworker hother hne hfailed hearly
  rw [hthreads] at hmirrors hordered
  rw [toRun_eq (DownloadDefinition.bounded_of_validate hfewer), toRun_eq hbounded]
  exact congrArg (runWith target surroundings.resolution surroundings.network conditions)
    (hmirrors.answer_eq hcomplete.ascending hordered (cancelTime conditions.cancellation))

end Alone

/-- The second of three servers resets its stream on the instant on which the last of the others
sends its first bytes. -/
theorem run_without_second :
    let definition : DownloadDefinition :=
      { DownloadDefinition.initial with url := "http://[::1]/", threads := 3 }
    let target : Target := ⟨"::1", 80, "/"⟩
    let surroundings : Surroundings :=
      ⟨.ok [.v4 ⟨127, 0, 0, 1⟩ 80], .ideal,
        [[⟨50, .send 1000⟩, ⟨3000000000, .close⟩], [⟨100, .reset⟩], [⟨100, .send 500⟩]],
        1000000000, ⟨2024, 1, 1, 12, 0, 0, 0⟩⟩
    let conditions : Conditions := ⟨.unlimited, .never, true⟩
    (definition.validate = .ok target ∧ 1 < definition.threads.toNat ∧
        2 < definition.threads.toNat ∧ 2 ≠ 1 ∧ surroundings.firstByte 1 = .failed 100 ∧
        100 ≤ (surroundings.firstByte 2).time) ∧
      definition.fewer.validate = .ok target ∧
      (run definition.fewer target (surroundings.without 1) conditions).toRun =
        (run definition target surroundings conditions).toRun := by
  intro definition target surroundings conditions
  have hvalid : definition.validate = .ok target := by cbv
  have hfailed : surroundings.firstByte 1 = .failed 100 := by
    dsimp only [surroundings]
    cbv
  have hearly : 100 ≤ (surroundings.firstByte 2).time := by
    dsimp only [surroundings]
    cbv
  exact ⟨⟨hvalid, by decide, by decide, by decide, hfailed, hearly⟩,
    run_without conditions hvalid (by decide) (by decide) (by decide) hfailed hearly⟩

end Download

end Throughput
