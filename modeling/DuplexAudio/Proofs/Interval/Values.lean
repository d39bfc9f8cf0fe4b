import DuplexAudio.Interval.Basic
import Mathlib.Order.Monotone.Defs

/-!
Intervals as sets of values. Intervals are ordered by their values alone, so that all intervals
without members are equivalent and a hull is the least interval around the values it covers.
-/

namespace DuplexAudio.Interval

/-- `inner ≤ outer` says that every value of `inner` is one of `outer`. -/
instance : Preorder Interval where
  le inner outer := ∀ value ∈ inner, value ∈ outer
  le_refl _ _ h := h
  le_trans _ _ _ hab hbc value h := hbc value (hab value h)

/-! ### Emptiness and bounds -/

theorem not_mem_of_isEmpty {interval : Interval} (hempty : interval.isEmpty = true)
    (value : UInt32) : value ∉ interval := by
  rintro ⟨hlower, hupper⟩
  rw [isEmpty_iff] at hempty
  exact absurd (UInt32.le_trans hlower hupper) (UInt32.not_le.2 hempty)

theorem isEmpty_eq_false_iff {interval : Interval} :
    interval.isEmpty = false ↔ interval.lower ≤ interval.upper := by
  rw [← Bool.not_eq_true, isEmpty_iff, UInt32.not_lt]

theorem isEmpty_eq_false_of_mem {interval : Interval} {value : UInt32} (hmem : value ∈ interval) :
    interval.isEmpty = false :=
  isEmpty_eq_false_iff.2 (UInt32.le_trans hmem.1 hmem.2)

theorem isEmpty_iff_forall_not_mem {interval : Interval} :
    interval.isEmpty = true ↔ ∀ value, value ∉ interval := by
  constructor
  · exact not_mem_of_isEmpty
  · intro hnone
    rw [isEmpty_iff, ← UInt32.not_le]
    exact fun hle => hnone interval.lower ⟨UInt32.le_refl _, hle⟩

theorem lower_mem {interval : Interval} (hsome : interval.isEmpty = false) :
    interval.lower ∈ interval :=
  ⟨UInt32.le_refl _, isEmpty_eq_false_iff.1 hsome⟩

theorem upper_mem {interval : Interval} (hsome : interval.isEmpty = false) :
    interval.upper ∈ interval :=
  ⟨isEmpty_eq_false_iff.1 hsome, UInt32.le_refl _⟩

theorem isEmpty_of_le {inner outer : Interval} (hle : inner ≤ outer)
    (hempty : outer.isEmpty = true) : inner.isEmpty = true :=
  isEmpty_iff_forall_not_mem.2 fun value hmem =>
    not_mem_of_isEmpty hempty value (hle value hmem)

/-- Membership decided on the two bounds of the inner interval. -/
theorem includes_iff_le {outer inner : Interval} : outer.includes inner = true ↔ inner ≤ outer := by
  simp only [includes, Bool.or_eq_true, Bool.and_eq_true, decide_eq_true_eq]
  constructor
  · rintro (hempty | ⟨hlower, hupper⟩) value hmem
    · exact absurd hmem (not_mem_of_isEmpty hempty value)
    · exact ⟨UInt32.le_trans hlower.1 hmem.1, UInt32.le_trans hmem.2 hupper.2⟩
  · intro hle
    cases hempty : inner.isEmpty with
    | true => exact Or.inl rfl
    | false => exact Or.inr ⟨hle _ (lower_mem hempty), hle _ (upper_mem hempty)⟩

theorem bounds_eq_of_le_of_le {left right : Interval} (hsome : left.isEmpty = false)
    (hle : left ≤ right) (hge : right ≤ left) :
    left.lower = right.lower ∧ left.upper = right.upper := by
  have hright : right.isEmpty = false := isEmpty_eq_false_of_mem (hle _ (lower_mem hsome))
  have hlower := (hle _ (lower_mem hsome)).1
  have hlower' := (hge _ (lower_mem hright)).1
  have hupper := (hle _ (upper_mem hsome)).2
  have hupper' := (hge _ (upper_mem hright)).2
  exact ⟨UInt32.le_antisymm hlower' hlower, UInt32.le_antisymm hupper hupper'⟩

theorem eq_of_le_of_le {left right : Interval} (hsome : left.isEmpty = false)
    (hle : left ≤ right) (hge : right ≤ left) (hinteger : left.integer = right.integer) :
    left = right := by
  obtain ⟨hlower, hupper⟩ := bounds_eq_of_le_of_le hsome hle hge
  calc left = ⟨left.lower, left.upper, left.integer⟩ := rfl
    _ = right := by rw [hlower, hupper, hinteger]

theorem mem_single {value other : UInt32} : other ∈ single value ↔ other = value := by
  simp only [mem_iff, single]
  constructor
  · rintro ⟨hle, hge⟩
    exact UInt32.le_antisymm hge hle
  · rintro rfl
    exact ⟨UInt32.le_refl _, UInt32.le_refl _⟩

theorem mem_full (value : UInt32) : value ∈ full :=
  ⟨UInt32.le_iff_toNat_le.2 (Nat.zero_le _),
    UInt32.le_iff_toNat_le.2 (Nat.le_of_lt_succ value.toNat_lt)⟩

theorem isSingle_single (value : UInt32) : (single value).isSingle = true :=
  beq_self_eq_true value

theorem eq_single_of_forall_mem_iff {interval : Interval} {value : UInt32}
    (hmem : ∀ other, other ∈ interval ↔ other = value) (hinteger : interval.integer = true) :
    interval = single value := by
  have hsome : interval.isEmpty = false := isEmpty_eq_false_of_mem ((hmem value).2 rfl)
  refine eq_of_le_of_le hsome (fun other hother => ?_) (fun other hother => ?_) hinteger
  · exact mem_single.2 ((hmem other).1 hother)
  · exact (hmem other).2 (mem_single.1 hother)

theorem intersect_single {interval : Interval} {value : UInt32} (hmem : value ∈ interval) :
    (single value).intersect interval = single value := by
  refine eq_single_of_forall_mem_iff (fun other => ?_) rfl
  rw [mem_intersect, mem_single]
  exact ⟨fun hboth => hboth.1, fun hsame => ⟨hsame, hsame ▸ hmem⟩⟩

theorem intersect_eq_self {interval other : Interval} (hsome : interval.isEmpty = false)
    (hinteger : interval.integer = true) (hle : interval ≤ other) :
    interval.intersect other = interval := by
  symm
  refine eq_of_le_of_le hsome (fun value hmem => ?_) (fun value hmem => ?_) ?_
  · exact mem_intersect.2 ⟨hmem, hle value hmem⟩
  · exact (mem_intersect.1 hmem).1
  · simp [intersect, hinteger]

/-! ### Narrowing -/

/-- Keeping an empty interval as it is makes no difference to the values. -/
theorem mem_narrow {interval other : Interval} {value : UInt32} :
    value ∈ interval.narrow other ↔ value ∈ interval ∧ value ∈ other := by
  simp only [narrow, refine]
  split
  · next hboth =>
    rw [Bool.and_eq_true] at hboth
    have hnone := not_mem_of_isEmpty hboth.2 value
    exact ⟨fun hmem => absurd hmem hnone, fun hmem => absurd hmem.1 hnone⟩
  · exact mem_intersect

theorem narrow_le (interval other : Interval) : interval.narrow other ≤ interval :=
  fun _ hmem => (mem_narrow.1 hmem).1

theorem narrow_mono {inner outer inner' outer' : Interval} (hle : inner ≤ outer)
    (hle' : inner' ≤ outer') : inner.narrow inner' ≤ outer.narrow outer' := by
  intro value hmem
  obtain ⟨hinner, hinner'⟩ := mem_narrow.1 hmem
  exact mem_narrow.2 ⟨hle value hinner, hle' value hinner'⟩

/-- Once a proposal was narrowed to integral values it stays so. -/
theorem integer_narrow_of_integer {interval : Interval} (hinteger : interval.integer = true)
    (other : Interval) : (interval.narrow other).integer = true := by
  simp only [narrow, refine]
  split
  · exact hinteger
  · simp [intersect, hinteger]

theorem integer_narrow {interval other : Interval} (hsome : interval.isEmpty = false)
    (hinteger : other.integer = true) : (interval.narrow other).integer = true := by
  simp [narrow, refine, hsome, intersect, hinteger]

/-! ### Hulls -/

theorem le_lower_empty (value : UInt32) : value ≤ empty.lower :=
  UInt32.le_iff_toNat_le.2 (Nat.le_of_lt_succ value.toNat_lt)

theorem upper_empty_le (value : UInt32) : empty.upper ≤ value :=
  UInt32.le_iff_toNat_le.2 (Nat.zero_le _)

/-- Growing an interval step by step, each bound is its own or the one of some covered value. -/
theorem mem_foldl_cover {values : List UInt32} {interval : Interval} {value : UInt32} :
    value ∈ values.foldl cover interval ↔
      (interval.lower ≤ value ∨ ∃ below ∈ values, below ≤ value) ∧
        (value ≤ interval.upper ∨ ∃ above ∈ values, value ≤ above) := by
  induction values generalizing interval with
  | nil => simp [mem_iff]
  | cons first rest ih =>
    have hlower : (interval.cover first).lower ≤ value ↔
        interval.lower ≤ value ∨ first ≤ value := by
      simp only [cover, UInt32.le_iff_toNat_le, toNat_min]
      omega
    have hupper : value ≤ (interval.cover first).upper ↔
        value ≤ interval.upper ∨ value ≤ first := by
      simp only [cover, UInt32.le_iff_toNat_le, toNat_max]
      omega
    rw [List.foldl_cons, ih, hlower, hupper]
    simp only [List.mem_cons, exists_eq_or_imp, or_assoc]

/-- A value lies in a hull if it lies between two of the covered values. The seed drops out: a value
at one of its bounds can only be the outermost covered value itself. -/
theorem mem_hull {values : List UInt32} {value : UInt32} :
    value ∈ hull values ↔ (∃ below ∈ values, below ≤ value) ∧ ∃ above ∈ values, value ≤ above := by
  rw [hull, mem_foldl_cover]
  constructor
  · rintro ⟨hlower, hupper⟩
    rcases hlower with hlower | hbelow
    · rcases hupper with hupper | ⟨above, habove, hle⟩
      · have habsurd := UInt32.le_trans hlower hupper
        exact absurd habsurd (by decide)
      · have hmax : above ≤ value := UInt32.le_trans (le_lower_empty above) hlower
        exact ⟨⟨above, habove, hmax⟩, ⟨above, habove, hle⟩⟩
    · rcases hupper with hupper | habove
      · obtain ⟨below, hmem, hle⟩ := hbelow
        have hzero : value ≤ below := UInt32.le_trans hupper (upper_empty_le below)
        exact ⟨⟨below, hmem, hle⟩, ⟨below, hmem, hzero⟩⟩
      · exact ⟨hbelow, habove⟩
  · rintro ⟨hbelow, habove⟩
    exact ⟨Or.inr hbelow, Or.inr habove⟩

theorem mem_hull_map_filter {α : Type} {items : List α} {keep : α → Bool} {number : α → UInt32}
    {value : UInt32} :
    value ∈ hull ((items.filter keep).map number) ↔
      (∃ item ∈ items, keep item = true ∧ number item ≤ value) ∧
        ∃ item ∈ items, keep item = true ∧ value ≤ number item := by
  rw [mem_hull]
  simp only [List.mem_map, List.mem_filter]
  constructor
  · rintro ⟨⟨_, ⟨below, ⟨hbelow, hkeep⟩, rfl⟩, hle⟩, ⟨_, ⟨above, ⟨habove, hkeep'⟩, rfl⟩, hge⟩⟩
    exact ⟨⟨below, hbelow, hkeep, hle⟩, ⟨above, habove, hkeep', hge⟩⟩
  · rintro ⟨⟨below, hbelow, hkeep, hle⟩, ⟨above, habove, hkeep', hge⟩⟩
    exact ⟨⟨_, ⟨below, ⟨hbelow, hkeep⟩, rfl⟩, hle⟩, ⟨_, ⟨above, ⟨habove, hkeep'⟩, rfl⟩, hge⟩⟩

theorem hull_map_filter_mono {α : Type} {items : List α} {keep keep' : α → Bool}
    {number : α → UInt32} (hkeep : ∀ item ∈ items, keep item = true → keep' item = true) :
    hull ((items.filter keep).map number) ≤ hull ((items.filter keep').map number) := by
  intro value hmem
  obtain ⟨⟨below, hbelow, hkept, hle⟩, ⟨above, habove, hkept', hge⟩⟩ := mem_hull_map_filter.1 hmem
  exact mem_hull_map_filter.2
    ⟨⟨below, hbelow, hkeep below hbelow hkept, hle⟩,
      ⟨above, habove, hkeep above habove hkept', hge⟩⟩

theorem mem_hull_of_mem {values : List UInt32} {value : UInt32} (hmem : value ∈ values) :
    value ∈ hull values :=
  mem_hull.2 ⟨⟨value, hmem, UInt32.le_refl _⟩, ⟨value, hmem, UInt32.le_refl _⟩⟩

theorem integer_foldl_cover {values : List UInt32} {interval : Interval} :
    (values.foldl cover interval).integer = interval.integer := by
  induction values generalizing interval with
  | nil => rfl
  | cons first rest ih => exact ih

theorem integer_hull (values : List UInt32) : (hull values).integer = true :=
  integer_foldl_cover

/-- A hull depends only on which values it covers. -/
theorem hull_congr {values others : List UInt32}
    (hsame : ∀ value, value ∈ values ↔ value ∈ others) : hull values = hull others := by
  have hmem : ∀ value, value ∈ hull values ↔ value ∈ hull others := by
    intro value
    simp only [mem_hull, hsame]
  cases values with
  | nil =>
    have hnone : others = [] := List.eq_nil_iff_forall_not_mem.2 fun value hother =>
      List.not_mem_nil ((hsame value).2 hother)
    rw [hnone]
  | cons first rest =>
    have hsome : (hull (first :: rest)).isEmpty = false :=
      isEmpty_eq_false_of_mem (mem_hull_of_mem List.mem_cons_self)
    exact eq_of_le_of_le hsome (fun value => (hmem value).1) (fun value => (hmem value).2)
      ((integer_hull _).trans (integer_hull _).symm)

/-- Nothing is left out, and each bound of an interval with values is reached. -/
structure IsHullOf (interval : Interval) (covered : UInt32 → Prop) : Prop where
  covers : ∀ value, covered value → value ∈ interval
  lower_covered : interval.isEmpty = false → covered interval.lower
  upper_covered : interval.isEmpty = false → covered interval.upper

theorem IsHullOf.isEmpty_iff {interval : Interval} {covered : UInt32 → Prop}
    (hhull : interval.IsHullOf covered) :
    interval.isEmpty = true ↔ ∀ value, ¬ covered value := by
  constructor
  · exact fun hempty value hcovered => not_mem_of_isEmpty hempty value (hhull.covers value hcovered)
  · intro hnone
    by_contra hsome
    exact hnone _ (hhull.lower_covered (Bool.eq_false_iff.2 hsome))

theorem isHullOf_hull {values : List UInt32} {covered : UInt32 → Prop}
    (hvalues : ∀ value, value ∈ values ↔ covered value) : (hull values).IsHullOf covered := by
  refine ⟨fun value hcovered => mem_hull_of_mem ((hvalues value).2 hcovered), fun hsome => ?_,
    fun hsome => ?_⟩
  · obtain ⟨⟨below, hbelow, hle⟩, -⟩ := mem_hull.1 (lower_mem hsome)
    have heq : below = (hull values).lower := UInt32.le_antisymm hle (mem_hull_of_mem hbelow).1
    exact heq ▸ (hvalues below).1 hbelow
  · obtain ⟨-, ⟨above, habove, hge⟩⟩ := mem_hull.1 (upper_mem hsome)
    have heq : above = (hull values).upper := UInt32.le_antisymm (mem_hull_of_mem habove).2 hge
    exact heq ▸ (hvalues above).1 habove

theorem IsHullOf.congr {interval other : Interval} {covered : UInt32 → Prop}
    (hhull : interval.IsHullOf covered) (hsame : ∀ value, value ∈ interval ↔ value ∈ other) :
    other.IsHullOf covered := by
  have hbounds (hsome : other.isEmpty = false) : interval.isEmpty = false ∧
      other.lower = interval.lower ∧ other.upper = interval.upper :=
    ⟨isEmpty_eq_false_of_mem ((hsame _).2 (lower_mem hsome)),
      bounds_eq_of_le_of_le hsome (fun value => (hsame value).2) fun value => (hsame value).1⟩
  refine ⟨fun value hcovered => (hsame value).1 (hhull.covers value hcovered), fun hsome => ?_,
    fun hsome => ?_⟩
  · obtain ⟨hsome', hlower, -⟩ := hbounds hsome
    exact hlower ▸ hhull.lower_covered hsome'
  · obtain ⟨hsome', -, hupper⟩ := hbounds hsome
    exact hupper ▸ hhull.upper_covered hsome'

/-- Narrowing to a hull of values inside leaves that hull. -/
theorem isHullOf_narrow_hull {interval : Interval} {values : List UInt32}
    {covered : UInt32 → Prop} (hvalues : ∀ value, value ∈ values ↔ covered value)
    (hinside : ∀ value ∈ values, value ∈ interval) :
    (interval.narrow (hull values)).IsHullOf covered := by
  refine (isHullOf_hull hvalues).congr fun value => ?_
  rw [mem_narrow, iff_and_self, mem_hull]
  rintro ⟨⟨below, hbelow, hle⟩, ⟨above, habove, hge⟩⟩
  exact ⟨UInt32.le_trans (hinside below hbelow).1 hle, UInt32.le_trans hge (hinside above habove).2⟩

theorem hull_eq_single {values : List UInt32} {value : UInt32} (hmem : value ∈ values)
    (hall : ∀ other ∈ values, other = value) : hull values = single value := by
  refine eq_single_of_forall_mem_iff (fun other => ⟨fun hother => ?_, fun hsame => ?_⟩)
    (integer_hull values)
  · obtain ⟨⟨below, hbelow, hle⟩, ⟨above, habove, hge⟩⟩ := mem_hull.1 hother
    rw [hall below hbelow] at hle
    rw [hall above habove] at hge
    exact UInt32.le_antisymm hge hle
  · exact hsame ▸ mem_hull_of_mem hmem

end DuplexAudio.Interval
