import PocketCalc.Proofs.Binary.Bits
import PocketCalc.Proofs.Binary.Single
import PocketCalc.Proofs.Reduction

/-!
# One operand

What begins a rule leaves its first operand as it is: negative zero before a sum, one before a
product, and nothing before a difference or a quotient. So a rule that is given one operand answers
it, whatever it is (`Reduction.rule_singleton`), and only the check at the end can refuse it.

**The law** (`Reduction.reduce_singleton`): a finite operand is reduced to itself, bit for bit, and
one that is infinite or undefined is out of range. A shown result is such an operand.
-/

namespace PocketCalc.Reduction

variable {op : Operator} {x : Binary32}

/-- **A rule answers its only operand**, also one that is infinite or undefined. -/
theorem rule_singleton {apply : List Binary32 → Except ReduceError Binary32}
    (hrule : rule op = some apply) (x : Binary32) : apply [x] = .ok x := by
  cases op with
  | add => cases hrule; exact congrArg Except.ok (Binary32.negativeZero_add x)
  | subtract => cases hrule; rfl
  | multiply => cases hrule; exact congrArg Except.ok (Binary32.one_mul x)
  | divide => cases hrule; rfl
  | percent => cases hrule

theorem exists_rule (hasRule : op ≠ .percent) : ∃ apply, rule op = some apply := by
  cases op with
  | percent => exact absurd rfl hasRule
  | _ => exact ⟨_, rfl⟩

/-- What is left to be said of one operand is whether it is in range. -/
theorem reduce_single (hasRule : op ≠ .percent) (x : Binary32) : reduce op [x] = inRange x := by
  obtain ⟨apply, hrule⟩ := exists_rule hasRule
  rw [reduce_of_rule hrule, rule_singleton hrule]
  rfl

theorem inRange_of_isFinite (finite : x.isFinite) : inRange x = .ok x := if_pos finite

theorem inRange_of_not_isFinite (infinite : ¬ x.isFinite) : inRange x = .error .outOfRange :=
  if_neg infinite

/-- **One operand is reduced to itself.** Every operator with a rule answers a finite number with
that number, of the two zeros the one that it was given, and refuses all others as out of range. In
words: a word with an exponent field that is not all ones is answered bit for bit, and any other is
out of range, the infinities and every word of a number that is none. -/
theorem reduce_singleton (hasRule : op ≠ .percent) :
    (∀ x : Binary32, x.isFinite → reduce op [x] = .ok x) ∧
      (∀ x : Binary32, x = .nan ∨ (∃ negative, x = .infinite negative) →
        reduce op [x] = .error .outOfRange) ∧
      ∀ word : UInt32,
        (Binary32.exponentField word ≠ 255 →
          (reduce op [.ofBits word]).map Binary32.toBits = .ok word) ∧
        (Binary32.exponentField word = 255 → reduce op [.ofBits word] = .error .outOfRange) := by
  simp only [reduce_single hasRule]
  refine ⟨fun x finite => inRange_of_isFinite finite, fun x undefined => ?_, fun word => ⟨?_, ?_⟩⟩
  · have infinite : x.isFinite = false := Binary32.isFinite_eq_false_iff.mpr undefined
    exact inRange_of_not_isFinite (by rw [infinite]; exact Bool.false_ne_true)
  · intro field
    have finite := (Binary32.isFinite_ofBits word).mpr field
    rw [inRange_of_isFinite finite, Except.map, Binary32.toBits_ofBits_of_isFinite finite]
  · intro field
    exact inRange_of_not_isFinite fun finite => (Binary32.isFinite_ofBits word).mp finite field

/-- Negative zero keeps its bits in a sum, and the least number in a product; and the words after
the largest number, an infinity and a value that is no number, are out of range. -/
theorem reduce_singleton_edges :
    (Operator.add ≠ .percent ∧ Binary32.exponentField 0x80000000 ≠ 255 ∧
        (reduce .add [.ofBits 0x80000000]).map Binary32.toBits = .ok 0x80000000) ∧
      (Operator.multiply ≠ .percent ∧ Binary32.exponentField 0x00000001 ≠ 255 ∧
        (reduce .multiply [.ofBits 0x00000001]).map Binary32.toBits = .ok 0x00000001) ∧
      (Binary32.exponentField 0x7f800000 = 255 ∧
        reduce .add [.ofBits 0x7f800000] = .error .outOfRange) ∧
      Binary32.exponentField 0x7f800001 = 255 ∧
        reduce .multiply [.ofBits 0x7f800001] = .error .outOfRange := by
  have hadd : Operator.add ≠ .percent := by decide
  have hmultiply : Operator.multiply ≠ .percent := by decide
  have hzero : Binary32.exponentField 0x80000000 ≠ 255 := by decide
  have hleast : Binary32.exponentField 0x00000001 ≠ 255 := by decide
  have hinfinity : Binary32.exponentField 0x7f800000 = 255 := by decide
  have hnan : Binary32.exponentField 0x7f800001 = 255 := by decide
  have sums := (reduce_singleton hadd).2.2
  have products := (reduce_singleton hmultiply).2.2
  exact ⟨⟨hadd, hzero, (sums _).1 hzero⟩, ⟨hmultiply, hleast, (products _).1 hleast⟩,
    ⟨hinfinity, (sums _).2 hinfinity⟩, hnan, (products _).2 hnan⟩

end PocketCalc.Reduction
