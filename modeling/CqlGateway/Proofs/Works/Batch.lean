import Mathlib.Algebra.Order.Floor.Div
import Mathlib.Data.Rat.Floor
import CqlGateway.Works.Batch

/-! Batches have room for a hit and for no more hits than can be counted. They do not shrink, and
they grow by no more than the policy lets them. Within these limits a batch is what the hits so far
make it, as if numbers had no largest one.
-/

namespace CqlGateway.BatchPolicy

variable {policy : BatchPolicy} {previous missing fetched found : Nat}

-----------------------------------------------------------------------------------------
-- Limits
-----------------------------------------------------------------------------------------

theorem first_pos (policy : BatchPolicy) (target : Nat) : 0 < policy.first target := by
  unfold first
  omega

theorem first_le_maxRows (policy : BatchPolicy) (target : Nat)
    : policy.first target ≤ max policy.maxRows 1 := by
  unfold first
  omega

theorem first_le_countLimit {target : Nat} (counted : target ≤ countLimit)
    : policy.first target ≤ countLimit := by
  have limit : 1 ≤ countLimit := by decide
  unfold first
  omega

/-- A batch with room for a hit can grow to one with room for it. -/
theorem reach_pos (some : 0 < previous) : 0 < policy.reach previous := by
  have product : 0 < previous * max policy.growthCap 1 := Nat.mul_pos some (by omega)
  have limit : 0 < countLimit := by decide
  exact Nat.lt_min.mpr ⟨product, limit⟩

/-- No batch is empty, since batches do not shrink to nothing. -/
theorem next_pos (policy : BatchPolicy) (some : 0 < previous) (missing fetched found : Nat)
    : 0 < policy.next previous missing fetched found := by
  have reach : 0 < policy.reach previous := reach_pos some
  unfold next
  omega

/-- No batch is smaller than the one before, as far as rows are counted. -/
theorem le_next (policy : BatchPolicy) (counted : previous ≤ countLimit)
    (missing fetched found : Nat)
    : previous ≤ policy.next previous missing fetched found := by
  have grown : previous ≤ previous * max policy.growthCap 1 :=
    Nat.le_mul_of_pos_right previous (by omega)
  have reach : previous ≤ policy.reach previous := Nat.le_min.mpr ⟨grown, counted⟩
  unfold next
  omega

theorem next_le_reach (policy : BatchPolicy) (previous missing fetched found : Nat)
    : policy.next previous missing fetched found ≤ policy.reach previous := by
  unfold next
  omega

theorem next_le_mul (policy : BatchPolicy) (previous missing fetched found : Nat)
    : policy.next previous missing fetched found ≤ previous * max policy.growthCap 1 :=
  Nat.le_trans (policy.next_le_reach ..) (Nat.min_le_left ..)

theorem next_le_countLimit (policy : BatchPolicy) (previous missing fetched found : Nat)
    : policy.next previous missing fetched found ≤ countLimit :=
  Nat.le_trans (policy.next_le_reach ..) (Nat.min_le_right ..)

theorem next_le_maxRows (policy : BatchPolicy) (previous missing fetched found : Nat)
    : policy.next previous missing fetched found ≤ max policy.maxRows previous := by
  unfold next
  omega

-----------------------------------------------------------------------------------------
-- Estimates
-----------------------------------------------------------------------------------------

theorem ceilDiv_le_iff {numerator denominator bound : Nat} (some : 0 < denominator)
    : ceilDiv numerator denominator ≤ bound ↔ numerator ≤ denominator * bound :=
  ceilDiv_le_iff_le_mul some

/-- Several batches that are full of hits before the last of them has one are no more than what the
hits are divided into.
-/
theorem lt_ceilDiv {batches rows hits : Nat} (some : 0 < rows) (before : batches * rows < hits)
    : batches < ceilDiv hits rows := by
  rw [← Nat.not_le, ceilDiv_le_iff some, Nat.mul_comm, Nat.not_le]
  exact before

theorem ceilDiv_eq_ceil {denominator : Nat} (numerator : Nat) (some : 0 < denominator)
    : ceilDiv numerator denominator = ⌈(numerator : ℚ) / denominator⌉₊ := by
  have positive : (0 : ℚ) < denominator := Nat.cast_pos.mpr some
  refine eq_of_forall_ge_iff fun bound => ?_
  rw [ceilDiv_le_iff some, Nat.ceil_le, div_le_iff₀ positive, Nat.mul_comm]
  norm_cast

/-- A quotient grows with what is divided, and with less to divide it by. -/
theorem ceilDiv_le_ceilDiv {numerator larger denominator smaller : Nat}
    (more : numerator ≤ larger) (some : 0 < smaller) (less : smaller ≤ denominator)
    : ceilDiv numerator denominator ≤ ceilDiv larger smaller := by
  refine (ceilDiv_le_iff (Nat.lt_of_lt_of_le some less)).mpr ?_
  calc
    numerator ≤ larger := more
    _ ≤ smaller * ceilDiv larger smaller := (ceilDiv_le_iff some).mp le_rfl
    _ ≤ denominator * ceilDiv larger smaller := Nat.mul_le_mul_right _ less

/-- More missing works and more hits for the works that were found make a larger estimate. -/
theorem estimate_le_estimate {moreMissing moreFetched : Nat} (works : missing ≤ moreMissing)
    (hits : fetched ≤ moreFetched)
    : policy.estimate previous missing fetched found
      ≤ policy.estimate previous moreMissing moreFetched found := by
  unfold estimate
  split
  · exact le_rfl
  · next some =>
      refine ceilDiv_le_ceilDiv ?_ (Nat.pos_of_ne_zero some) le_rfl
      exact min_le_min (Nat.mul_le_mul works hits) le_rfl

-----------------------------------------------------------------------------------------
-- The next batch
-----------------------------------------------------------------------------------------

theorem next_le_next {moreMissing moreFetched lessFound : Nat}
    (more : policy.estimate previous missing fetched found
      ≤ policy.estimate previous moreMissing moreFetched lessFound)
    : policy.next previous missing fetched found
      ≤ policy.next previous moreMissing moreFetched lessFound := by
  unfold next
  omega

/-- Without any work the batch grows as far as it can. -/
theorem next_le_next_zero
    : policy.next previous missing fetched found ≤ policy.next previous missing fetched 0 := by
  have reach : policy.estimate previous missing fetched 0 = policy.reach previous := if_pos rfl
  unfold next
  omega

/-- More works among the same hits make no larger batch. -/
theorem antitone_next (policy : BatchPolicy) (previous missing fetched : Nat)
    : Antitone fun found => policy.next previous missing fetched found := by
  intro lessFound found less
  rcases Nat.eq_zero_or_pos lessFound with rfl | some
  · exact next_le_next_zero
  · refine next_le_next ?_
    unfold estimate
    rw [if_neg (Nat.ne_of_gt some), if_neg (Nat.ne_of_gt (Nat.lt_of_lt_of_le some less))]
    exact ceilDiv_le_ceilDiv le_rfl some less

/-- Where the hits that the missing works should take can be counted, the product that the batch may
grow to need not be: the policy's largest batch is below the largest count.
-/
theorem next_eq_min (counted : previous ≤ countLimit) (rows : policy.maxRows ≤ countLimit)
    (countable : missing * fetched ≤ countLimit)
    : policy.next previous missing fetched found
      = min (previous * max policy.growthCap 1)
          (min (max policy.maxRows previous)
            (max previous
              (if found = 0 then
                previous * max policy.growthCap 1
              else
                ⌈(missing * fetched : ℚ) / found⌉₊))) := by
  unfold next estimate reach saturatingMul
  split
  · omega
  · next some =>
      rw [Nat.min_eq_left countable, ceilDiv_eq_ceil _ (Nat.pos_of_ne_zero some), Nat.cast_mul]
      omega

/-- A batch is never smaller than the one before and passes neither the policy's largest batch nor
its growth, unless it was past them already. It does not get smaller with more missing works or with
more hits, nor larger with more works among these hits, and is largest if no work was found. Where
the hits that the missing works should take can be counted, it is the estimate within these limits,
in numbers without a largest one.
-/
theorem next_bounded_monotone_exact (policy : BatchPolicy) {previous : Nat}
    (counted : previous ≤ countLimit) (rows : policy.maxRows ≤ countLimit)
    (missing fetched found : Nat)
    : (previous ≤ policy.next previous missing fetched found
        ∧ policy.next previous missing fetched found
          ≤ max previous (min policy.maxRows (previous * max policy.growthCap 1)))
      ∧ Monotone (fun missing => policy.next previous missing fetched found)
      ∧ Monotone (fun fetched => policy.next previous missing fetched found)
      ∧ Antitone (fun found => policy.next previous missing fetched found)
      ∧ (missing * fetched ≤ countLimit
        → policy.next previous missing fetched found
          = min (previous * max policy.growthCap 1)
              (min (max policy.maxRows previous)
                (max previous
                  (if found = 0 then
                    previous * max policy.growthCap 1
                  else
                    ⌈(missing * fetched : ℚ) / found⌉₊)))) := by
  refine ⟨⟨policy.le_next counted missing fetched found, ?_⟩, ?_, ?_,
    policy.antitone_next previous missing fetched, next_eq_min counted rows⟩
  · have ofRows := policy.next_le_maxRows previous missing fetched found
    have ofGrowth := policy.next_le_mul previous missing fetched found
    omega
  · exact fun _ _ works => next_le_next (estimate_le_estimate works le_rfl)
  · exact fun _ _ hits => next_le_next (estimate_le_estimate le_rfl hits)

/-- A policy that does not limit growth. -/
def unboundedGrowth : BatchPolicy :=
  {
    maxRows := 1000
    growthCap := countLimit
  }

/-- The product that the batch may grow to cannot be counted, and has no part in it. -/
theorem next_bounded_monotone_exact_unboundedGrowth
    : (20 ≤ countLimit ∧ unboundedGrowth.maxRows ≤ countLimit ∧ 8 * 20 ≤ countLimit)
      ∧ countLimit < 20 * max unboundedGrowth.growthCap 1
      ∧ unboundedGrowth.next 20 8 20 3 = 54
      ∧ unboundedGrowth.next 20 8 20 3
        = min (20 * max unboundedGrowth.growthCap 1)
            (min (max unboundedGrowth.maxRows 20)
              (max 20
                (if 3 = 0 then
                  20 * max unboundedGrowth.growthCap 1
                else
                  ⌈((8 : ℕ) * (20 : ℕ) : ℚ) / (3 : ℕ)⌉₊))) := by
  have counted : 20 ≤ countLimit := by decide
  have rows : unboundedGrowth.maxRows ≤ countLimit := by decide
  have countable : 8 * 20 ≤ countLimit := by decide
  exact ⟨⟨counted, rows, countable⟩, by decide, by decide,
    (next_bounded_monotone_exact unboundedGrowth counted rows 8 20 3).2.2.2.2 countable⟩

end CqlGateway.BatchPolicy
