import DuplexAudio.Proofs.Interval.Values

/-!
Intervals as an algebra of sets. The common part is computed on the bounds and the flag, so its laws
hold for every way to write an interval without values; and narrowing tells whether it changed
anything, by which a negotiation knows that it has come to rest.
-/

namespace DuplexAudio.Interval

/-! ### The common part -/

theorem intersect_comm (left right : Interval) : left.intersect right = right.intersect left := by
  simp only [intersect, Interval.mk.injEq, ← UInt32.toNat_inj, toNat_max, toNat_min]
  exact ⟨Nat.max_comm _ _, Nat.min_comm _ _, Bool.or_comm _ _⟩

theorem intersect_assoc (left right other : Interval) :
    (left.intersect right).intersect other = left.intersect (right.intersect other) := by
  simp only [intersect, Interval.mk.injEq, ← UInt32.toNat_inj, toNat_max, toNat_min]
  exact ⟨Nat.max_assoc _ _ _, Nat.min_assoc _ _ _, Bool.or_assoc _ _ _⟩

theorem intersect_self (interval : Interval) : interval.intersect interval = interval := by
  obtain ⟨lower, upper, integer⟩ := interval
  simp only [intersect, Interval.mk.injEq, ← UInt32.toNat_inj, toNat_max, toNat_min]
  exact ⟨Nat.max_self _, Nat.min_self _, Bool.or_self _⟩

theorem intersect_intersect_self (interval other : Interval) :
    (interval.intersect other).intersect other = interval.intersect other := by
  rw [intersect_assoc, intersect_self]

/-! ### Narrowing and its report -/

section Narrowing

variable {interval other : Interval}

theorem refine_of_isEmpty (hempty : interval.isEmpty = true) (other : Interval) :
    interval.refine other = (interval, false) := by
  have hcommon : (interval.intersect other).isEmpty = true :=
    isEmpty_of_le (fun _ hmem => (mem_intersect.1 hmem).1) hempty
  rw [refine, if_pos (by rw [hcommon, hempty]; rfl)]

theorem narrow_of_isEmpty (hempty : interval.isEmpty = true) (other : Interval) :
    interval.narrow other = interval := by
  rw [narrow, refine_of_isEmpty hempty]

theorem narrow_eq_intersect (hsome : interval.isEmpty = false) (other : Interval) :
    interval.narrow other = interval.intersect other := by
  simp [narrow, refine, hsome]

theorem narrow_narrow (interval other : Interval) :
    (interval.narrow other).narrow other = interval.narrow other := by
  cases hinterval : interval.isEmpty with
  | true => rw [narrow_of_isEmpty hinterval, narrow_of_isEmpty hinterval]
  | false =>
    cases hnarrow : (interval.narrow other).isEmpty with
    | true => exact narrow_of_isEmpty hnarrow other
    | false =>
      rw [narrow_eq_intersect hnarrow, narrow_eq_intersect hinterval, intersect_intersect_self]

theorem isEmpty_intersect_eq_isEmpty_narrow (interval other : Interval) :
    (interval.intersect other).isEmpty = (interval.narrow other).isEmpty := by
  rw [Bool.eq_iff_iff, isEmpty_iff_forall_not_mem, isEmpty_iff_forall_not_mem]
  simp only [mem_intersect, mem_narrow]

/-- An interval that loses no value can still change by its flag, but only while it has values. -/
theorem narrow_ne_self_iff : interval.narrow other ≠ interval ↔
    (∃ value ∈ interval, value ∉ interval.narrow other) ∨
      ((interval.intersect other).isEmpty = false ∧
        interval.integer = false ∧ (interval.narrow other).integer = true) := by
  constructor
  · intro hchanged
    have hsome : interval.isEmpty = false := by
      rw [← Bool.not_eq_true]
      exact fun hempty => hchanged (narrow_of_isEmpty hempty other)
    by_cases hlost : ∃ value ∈ interval, value ∉ interval.narrow other
    · exact .inl hlost
    · -- With every value kept the bounds agree, so it is the flag that changed.
      right
      have hkept : interval ≤ interval.narrow other := by
        intro value hmem
        by_contra hgone
        exact hlost ⟨value, hmem, hgone⟩
      have hflag : (interval.narrow other).integer ≠ interval.integer := by
        intro hsame
        exact hchanged
          (eq_of_le_of_le hsome hkept (narrow_le interval other) hsame.symm).symm
      have hloose : interval.integer = false := by
        rw [← Bool.not_eq_true]
        exact fun hinteger =>
          hflag ((integer_narrow_of_integer hinteger other).trans hinteger.symm)
      rw [hloose, Bool.ne_false_iff] at hflag
      refine ⟨?_, hloose, hflag⟩
      rw [isEmpty_intersect_eq_isEmpty_narrow]
      exact isEmpty_eq_false_of_mem (hkept _ (lower_mem hsome))
  · rintro (⟨value, hmem, hgone⟩ | ⟨-, hloose, hinteger⟩) hsame
    · exact hgone (hsame.symm ▸ hmem)
    · rw [hsame, hloose] at hinteger
      cases hinteger

end Narrowing

/-! ### The laws together -/

/-- What the operations on two intervals do to their values, and when narrowing one by the other
reports a change. -/
structure SetLaws (left right : Interval) : Prop where
  mem_intersect_iff : ∀ value, value ∈ left.intersect right ↔ value ∈ left ∧ value ∈ right
  includes_iff : left.includes right = true ↔ ∀ value ∈ right, value ∈ left
  commutative : left.intersect right = right.intersect left
  associative : ∀ other,
    (left.intersect right).intersect other = left.intersect (right.intersect other)
  idempotent : left.intersect left = left
  mem_refine_iff : ∀ value, value ∈ (left.refine right).1 ↔ value ∈ left ∧ value ∈ right
  reported_iff_changed : (left.refine right).2 = true ↔ (left.refine right).1 ≠ left
  changed_iff : (left.refine right).1 ≠ left ↔
    (∃ value ∈ left, value ∉ (left.refine right).1) ∨
      ((left.intersect right).isEmpty = false ∧
        left.integer = false ∧ (left.refine right).1.integer = true)
  empty_unchanged : left.isEmpty = true → left.refine right = (left, false)
  settled : ((left.refine right).1.refine right).2 = false

/-- **Intervals behave as the sets of their values,** however they are written: crossed bounds and
the flag make no exception to any law. -/
theorem operations_follow_values (left right : Interval) : SetLaws left right where
  mem_intersect_iff _ := mem_intersect
  includes_iff := includes_iff_le
  commutative := intersect_comm left right
  associative := intersect_assoc left right
  idempotent := intersect_self left
  mem_refine_iff _ := mem_narrow
  reported_iff_changed := refine_changed_iff left right
  changed_iff := narrow_ne_self_iff
  empty_unchanged hempty := refine_of_isEmpty hempty right
  settled := by
    rw [← Bool.not_eq_true, refine_changed_iff]
    exact fun hchanged => hchanged (narrow_narrow left right)

/-- An interval with crossed bounds is kept as it is, though the other one would set its flag, while
one with values takes over the flag and reports that. -/
theorem operations_follow_values_crossed :
    (Interval.mk 7 3 false).isEmpty = true ∧
      (Interval.mk 7 3 false).refine .full = (Interval.mk 7 3 false, false) ∧
      ((Interval.mk 3 7 false).refine .full).2 = true := by
  have hcrossed := operations_follow_values (Interval.mk 7 3 false) .full
  have hopen := operations_follow_values (Interval.mk 3 7 false) .full
  have hempty : (Interval.mk 7 3 false).isEmpty = true := by decide
  refine ⟨hempty, hcrossed.empty_unchanged hempty, ?_⟩
  exact hopen.reported_iff_changed.2 (hopen.changed_iff.2 (.inr (by decide)))

end DuplexAudio.Interval
