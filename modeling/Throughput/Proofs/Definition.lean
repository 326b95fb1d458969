import Throughput.Definition

/-!
# Bounds of definitions

What is known of a definition that was validated.
-/

namespace Throughput

/-- The bounds that a download keeps. -/
structure DownloadDefinition.Bounded (definition : DownloadDefinition) : Prop where
  threads_pos : 0 < definition.threads.toNat
  threads_le : definition.threads.toNat ≤ 16
  rampUp_le : definition.rampUp.toNat ≤ 10000
  le_targetTime : 1000 ≤ definition.targetTime.toNat
  targetTime_le : definition.targetTime.toNat ≤ 60000
  le_slotLength : 100 ≤ definition.slotLength.toNat
  slotLength_le : definition.slotLength.toNat ≤ definition.targetTime.toNat

theorem DownloadDefinition.bounded_of_validate {definition : DownloadDefinition} {target : Target}
    (h : definition.validate = .ok target) : definition.Bounded := by
  rw [validate] at h
  split at h
  · cases h
  · next hthreads =>
    split at h
    · cases h
    · next hrampUp =>
      split at h
      · cases h
      · next htarget =>
        split at h
        · cases h
        · next hslot =>
          simp only [not_or, UInt32.not_lt, UInt64.not_lt, UInt32.le_iff_toNat_le,
            UInt64.le_iff_toNat_le] at hthreads hrampUp htarget hslot
          constructor
          · exact hthreads.1
          · exact hthreads.2
          · exact hrampUp
          · exact htarget.1
          · exact htarget.2
          · exact hslot.1
          · exact hslot.2

/-- The bounds that packet trains keep. The gap has none. -/
structure TrainsDefinition.Bounded (definition : TrainsDefinition) : Prop where
  iterations_pos : 0 < definition.iterations.toNat
  iterations_le : definition.iterations.toNat ≤ 1000
  le_trainLength : 2 ≤ definition.trainLength.toNat
  trainLength_le : definition.trainLength.toNat ≤ 10000
  le_packetSize : 12 ≤ definition.packetSize.toNat
  packetSize_le : definition.packetSize.toNat ≤ 65507

theorem TrainsDefinition.bounded_of_validate {definition checked : TrainsDefinition}
    (h : definition.validate = .ok checked) : definition.Bounded := by
  rw [validate] at h
  split at h
  · cases h
  · next hiterations =>
    split at h
    · cases h
    · next hlength =>
      split at h
      · cases h
      · next hsize =>
        simp only [not_or, UInt16.not_lt, UInt64.not_lt, UInt16.le_iff_toNat_le,
          UInt64.le_iff_toNat_le] at hiterations hlength hsize
        constructor
        · exact hiterations.1
        · exact hiterations.2
        · exact hlength.1
        · exact hlength.2
        · exact hsize.1
        · exact hsize.2

theorem DownloadDefinition.Bounded.targetTime_pos {definition : DownloadDefinition}
    (h : definition.Bounded) : 0 < definition.targetTime.toNat :=
  Nat.lt_of_lt_of_le (by decide) h.le_targetTime

end Throughput
