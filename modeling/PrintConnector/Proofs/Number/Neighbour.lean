import Mathlib.Tactic.GCongr
import Mathlib.Tactic.Linarith
import Mathlib.Tactic.Ring

namespace PrintConnector.Number

variable {a b c d top bottom : Nat}

/-- Two fractions `a / b` and `c / d` are neighbours if `b * c = a * d + 1`.  What lies strictly
between them has parts that are no less than the sums of theirs. -/
theorem le_top_of_between (neighbours : b * c = a * d + 1) (above : a * bottom < top * b)
    (below : top * d < c * bottom) : a + c ≤ top := by
  obtain ⟨up, beyond⟩ := Nat.exists_eq_add_of_lt above
  obtain ⟨down, under⟩ := Nat.exists_eq_add_of_lt below
  have sum : top = a * (down + 1) + c * (up + 1) := by
    have sum : top * (b * c) = top * (a * d) + a * (down + 1) + c * (up + 1) := by
      calc top * (b * c) = c * (top * b) := by ring
        _ = a * (c * bottom) + c * (up + 1) := by rw [beyond]; ring
        _ = top * (a * d) + a * (down + 1) + c * (up + 1) := by rw [under]; ring
    rw [neighbours] at sum
    linarith
  rw [sum]
  gcongr
  all_goals exact Nat.le_mul_of_pos_right _ (Nat.succ_pos _)

/-- The other way up, the neighbours change places. -/
theorem le_bottom_of_between (neighbours : b * c = a * d + 1) (above : a * bottom < top * b)
    (below : top * d < c * bottom) : b + d ≤ bottom := by
  have turned : c * b = d * a + 1 := by rw [Nat.mul_comm c, neighbours, Nat.mul_comm a]
  have turnedAbove : d * top < bottom * c := by rwa [Nat.mul_comm d, Nat.mul_comm bottom]
  have turnedBelow : bottom * a < b * top := by rwa [Nat.mul_comm bottom, Nat.mul_comm b]
  have sums := le_top_of_between turned turnedAbove turnedBelow
  rwa [Nat.add_comm]

/-- A fraction below another that is no greater than a third one. -/
theorem lt_of_lt_of_le_fraction (ratio : Nat × Nat) (beyond : a * ratio.2 < b * ratio.1)
    (within : bottom * ratio.1 ≤ top * ratio.2) (nonzero : 0 < bottom) :
    a * bottom < top * b := by
  apply lt_of_mul_lt_mul_right _ (Nat.zero_le ratio.2)
  calc a * bottom * ratio.2 = bottom * (a * ratio.2) := by ring
    _ < bottom * (b * ratio.1) := by gcongr
    _ = b * (bottom * ratio.1) := by ring
    _ ≤ b * (top * ratio.2) := by gcongr
    _ = top * b * ratio.2 := by ring

/-- Two fractions, the lower one first. -/
structure Bracket where
  low : Nat × Nat
  high : Nat × Nat

namespace Bracket

/-- Neighbours whose sums are out of bounds: `2 ^ 25` for the upper parts, `2 ^ 24` for
the lower ones. -/
def isEmpty : Bracket → Bool
  | ⟨(a, b), (c, d)⟩ => b * c == a * d + 1 && (2 ^ 25 ≤ a + c || 2 ^ 24 ≤ b + d)

def spans (low high : Nat × Nat) : Bracket → Bool
  | ⟨(a, b), (c, d)⟩ => a * low.2 < b * low.1 && d * high.1 < c * high.2

/-- Moves either fraction toward the other as far as the bounds allow, in so many
rounds or until their parts are large.  Nothing rests on how it moves them: what it finds
is checked. -/
def narrow (low high : Nat × Nat) : Nat → Bracket → Bracket
  | 0, bracket => bracket
  | fuel + 1, ⟨(a, b), (c, d)⟩ =>
    if 2 ^ 25 ≤ a + c || 2 ^ 24 ≤ b + d then ⟨(a, b), (c, d)⟩
    else
      let up := (b * low.1 - a * low.2 - 1) / (c * low.2 - d * low.1)
      let a := a + up * c
      let b := b + up * d
      let down := (c * high.2 - d * high.1 - 1) / (b * high.1 - a * high.2)
      narrow low high fuel ⟨(a, b), (c + down * a, d + down * b)⟩

/-- A fraction within bounds does not lie in an empty bracket. -/
theorem not_between {bracket : Bracket} (empty : bracket.isEmpty = true) (upper : top < 2 ^ 25)
    (lower : bottom < 2 ^ 24) (above : bracket.low.1 * bottom < top * bracket.low.2) :
    bracket.high.1 * bottom ≤ top * bracket.high.2 := by
  by_contra below
  have below := not_le.mp below
  obtain ⟨⟨a, b⟩, ⟨c, d⟩⟩ := bracket
  simp only [isEmpty, Bool.and_eq_true, Bool.or_eq_true, beq_iff_eq, decide_eq_true_eq] at empty
  have tops := le_top_of_between empty.1 above below
  have bottoms := le_bottom_of_between empty.1 above below
  omega

end Bracket

/-- The fraction `upper / lower` is in its lowest terms, and twice it is out of bounds. -/
theorem eq_of_lowest {upper lower : Nat} (coprime : lower.Coprime upper) (positive : 0 < lower)
    (same : top * lower = upper * bottom) (nonzero : 0 < bottom) (less : top < 2 * upper) :
    top = upper ∧ bottom = lower := by
  obtain ⟨factor, rfl⟩ : lower ∣ bottom :=
    coprime.dvd_of_dvd_mul_left ⟨top, by rw [← same, Nat.mul_comm]⟩
  obtain rfl : top = upper * factor := by
    apply Nat.eq_of_mul_eq_mul_right positive
    rw [same]
    ring
  have once : factor < 2 := Nat.lt_of_mul_lt_mul_left (Nat.mul_comm 2 upper ▸ less)
  have factor_pos : 0 < factor := Nat.pos_of_mul_pos_left nonzero
  obtain rfl : factor = 1 := by omega
  simp

/-- Two multiples of a number that are closer than it are the same. -/
theorem eq_of_close_multiples {common one other : Nat} (divides : common ∣ one)
    (divides' : common ∣ other) (above : one < other + common) (below : other < one + common) :
    one = other := by
  obtain ⟨left, rfl⟩ := divides
  obtain ⟨right, rfl⟩ := divides'
  rw [← Nat.mul_succ] at above below
  have less := Nat.lt_of_mul_lt_mul_left above
  have more := Nat.lt_of_mul_lt_mul_left below
  have same : left = right := by omega
  rw [same]

end PrintConnector.Number
