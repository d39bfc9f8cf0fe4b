/-!
Closed intervals of rates or channel counts, the unit of negotiation. An interval whose lower bound
exceeds its upper bound is a regular value and has no members.
-/

namespace DuplexAudio

/-- The closed range from `lower` to `upper`; `integer` says that only integral values are legal. -/
structure Interval where
  lower : UInt32
  upper : UInt32
  integer : Bool := true
  deriving DecidableEq, Repr, Inhabited

namespace Interval

def single (value : UInt32) : Interval := { lower := value, upper := value }

/-- The canonical interval without members, the seed from which a hull grows. -/
def empty : Interval := { lower := 4294967295, upper := 0 }

def full : Interval := { lower := 0, upper := 4294967295 }

def isEmpty (interval : Interval) : Bool := interval.upper < interval.lower

def isSingle (interval : Interval) : Bool := interval.lower == interval.upper

instance : Membership UInt32 Interval :=
  ⟨fun interval value => interval.lower ≤ value ∧ value ≤ interval.upper⟩

theorem mem_iff {interval : Interval} {value : UInt32} :
    value ∈ interval ↔ interval.lower ≤ value ∧ value ≤ interval.upper := Iff.rfl

instance (value : UInt32) (interval : Interval) : Decidable (value ∈ interval) :=
  inferInstanceAs (Decidable (_ ∧ _))

/-- Every member of `inner` is a member of `outer`, decided on the bounds. -/
def includes (outer inner : Interval) : Bool :=
  inner.isEmpty || (decide (inner.lower ∈ outer) && decide (inner.upper ∈ outer))

def cover (interval : Interval) (value : UInt32) : Interval :=
  { interval with lower := min interval.lower value, upper := max interval.upper value }

def hull (values : List UInt32) : Interval := values.foldl cover empty

def intersect (left right : Interval) : Interval where
  lower := max left.lower right.lower
  upper := min left.upper right.upper
  integer := left.integer || right.integer

/-- Narrows to the common part, and says whether the interval changed. An interval that is already
empty stays as it is. -/
def refine (interval other : Interval) : Interval × Bool :=
  let common := interval.intersect other
  if common.isEmpty && interval.isEmpty then (interval, false)
  else (common, common != interval)

def narrow (interval other : Interval) : Interval := (interval.refine other).1

theorem isEmpty_iff {interval : Interval} :
    interval.isEmpty = true ↔ interval.upper < interval.lower := by
  simp [isEmpty]

theorem refine_changed_iff (interval other : Interval) :
    (interval.refine other).2 = true ↔ interval.narrow other ≠ interval := by
  by_cases h : ((interval.intersect other).isEmpty && interval.isEmpty) = true <;>
    simp [narrow, refine, h]

theorem toNat_max (left right : UInt32) : (max left right).toNat = max left.toNat right.toNat := by
  show (if left ≤ right then right else left).toNat = _
  split <;> rename_i h <;> rw [UInt32.le_iff_toNat_le] at h <;> omega

theorem toNat_min (left right : UInt32) : (min left right).toNat = min left.toNat right.toNat := by
  show (if left ≤ right then left else right).toNat = _
  split <;> rename_i h <;> rw [UInt32.le_iff_toNat_le] at h <;> omega

theorem mem_intersect {left right : Interval} {value : UInt32} :
    value ∈ left.intersect right ↔ value ∈ left ∧ value ∈ right := by
  simp only [mem_iff, intersect, UInt32.le_iff_toNat_le, toNat_max, toNat_min]
  omega

/-- How much a proposal can still lose in this interval: its members, and the freedom to take a
value that is not integral. -/
def slack (interval : Interval) : Nat :=
  (interval.upper.toNat + 1 - interval.lower.toNat) + if interval.integer then 0 else 1

/-- Narrowing to another interval either changes nothing or uses up some of the slack. -/
theorem narrow_eq_self_or_slack_lt (interval other : Interval) :
    interval.narrow other = interval ∨ (interval.narrow other).slack < interval.slack := by
  by_cases hempty : interval.isEmpty = true
  · left
    have hcommon : (interval.intersect other).isEmpty = true := by
      rw [isEmpty_iff, UInt32.lt_iff_toNat_lt] at hempty ⊢
      simp only [intersect, toNat_max, toNat_min]
      omega
    simp [narrow, refine, hempty, hcommon]
  · have hnarrow : interval.narrow other = interval.intersect other := by
      simp [narrow, refine, hempty]
    rw [hnarrow]
    rw [isEmpty_iff, UInt32.lt_iff_toNat_lt] at hempty
    obtain ⟨lower, upper, integer⟩ := interval
    by_cases hlower : lower.toNat < other.lower.toNat
    · right
      cases integer <;> cases hother : other.integer <;>
        simp_all [slack, intersect, toNat_max, toNat_min] <;> omega
    · by_cases hupper : other.upper.toNat < upper.toNat
      · right
        cases integer <;> cases hother : other.integer <;>
          simp_all [slack, intersect, toNat_max, toNat_min] <;> omega
      · have hmax : max lower other.lower = lower :=
          UInt32.toNat_inj.1 (by rw [toNat_max]; omega)
        have hmin : min upper other.upper = upper :=
          UInt32.toNat_inj.1 (by rw [toNat_min]; omega)
        cases integer <;> cases hother : other.integer <;>
          simp [slack, intersect, hmax, hmin, hother]

def display (interval : Interval) : String :=
  if interval.isEmpty then "[empty]"
  else if interval.isSingle then s!"[{interval.lower}]"
  else s!"[{interval.lower}, {interval.upper}]"

end Interval
end DuplexAudio
