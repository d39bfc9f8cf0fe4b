/-!
Computations that may fail: what the success of a sequence, or of a pass along a list, says about
its parts.
-/

namespace DuplexAudio

theorem exists_of_bind_eq_ok {ε α β : Type} {first : Except ε α} {rest : α → Except ε β}
    {result : β} (hbind : first >>= rest = .ok result) :
    ∃ value, first = .ok value ∧ rest value = .ok result := by
  cases first with
  | error fault => cases hbind
  | ok value => exact ⟨value, rfl, hbind⟩

section

variable {ε ε' α : Type} {f : ε → ε'}

theorem mapError_error (fault : ε) : (.error fault : Except ε α).mapError f = .error (f fault) :=
  rfl

theorem mapError_ok (value : α) : (.ok value : Except ε α).mapError f = .ok value :=
  rfl

theorem mapError_eq_ok_iff {result : Except ε α} {value : α} :
    result.mapError f = .ok value ↔ result = .ok value := by
  cases result with
  | error fault => simp [mapError_error]
  | ok other => rw [mapError_ok, Except.ok.injEq, Except.ok.injEq]

end

theorem exists_map_eq_ok_iff {ε α β : Type} {result : Except ε α} {f : α → β} :
    (∃ value, result.map f = .ok value) ↔ ∃ value, result = .ok value := by
  cases result <;> simp [Except.map]

/-! ### Along a list -/

variable {ε α : Type}

theorem mapM_eq_ok_iff {β : Type} {f : α → Except ε β} {g : α → β} {fits : α → Prop}
    (hf : ∀ value result, f value = .ok result ↔ fits value ∧ result = g value)
    {values : List α} {results : List β} :
    values.mapM f = .ok results ↔ (∀ value ∈ values, fits value) ∧ results = values.map g := by
  induction values generalizing results with
  | nil => simp [pure, Except.pure, eq_comm]
  | cons first rest ih =>
    rw [List.mapM_cons, List.forall_mem_cons, List.map_cons]
    cases hfirst : f first with
    | error fault =>
      have hunfit : ¬ fits first := fun hfit => by
        rw [(hf first (g first)).2 ⟨hfit, rfl⟩] at hfirst
        cases hfirst
      simp [bind, Except.bind, hunfit]
    | ok result =>
      obtain ⟨hfit, rfl⟩ := (hf first result).1 hfirst
      cases hrest : rest.mapM f with
      | error fault =>
        have hunfit : ¬ ∀ value ∈ rest, fits value := fun hall => by
          rw [ih.2 ⟨hall, rfl⟩] at hrest
          cases hrest
        simp [bind, Except.bind, hunfit]
      | ok mapped =>
        obtain ⟨hall, rfl⟩ := ih.1 hrest
        simp only [bind, Except.bind, pure, Except.pure, Except.ok.injEq, hfit, true_and]
        exact ⟨fun heq => ⟨hall, heq.symm⟩, fun heq => heq.2.symm⟩

theorem exists_filterAuxM_eq_ok_iff {f : α → Except ε Bool} {values : List α} (seen : List α) :
    (∃ kept, values.filterAuxM f seen = .ok kept) ↔
      ∀ value ∈ values, ∃ keep, f value = .ok keep := by
  induction values generalizing seen with
  | nil => exact iff_of_true ⟨seen, rfl⟩ nofun
  | cons first rest ih =>
    rw [List.filterAuxM, List.forall_mem_cons]
    cases hfirst : f first with
    | error fault => simp [bind, Except.bind]
    | ok keep =>
      rw [and_iff_right ⟨keep, rfl⟩]
      exact ih (cond keep (first :: seen) seen)

theorem exists_filterM_eq_ok_iff {f : α → Except ε Bool} {values : List α} :
    (∃ kept, values.filterM f = .ok kept) ↔ ∀ value ∈ values, ∃ keep, f value = .ok keep := by
  rw [← exists_filterAuxM_eq_ok_iff []]
  exact exists_map_eq_ok_iff (f := List.reverse)

theorem filterAuxM_eq_ok {f : α → Except ε Bool} {keep : α → Bool} {values : List α}
    (hf : ∀ value ∈ values, f value = .ok (keep value)) (seen : List α) :
    values.filterAuxM f seen = .ok ((values.filter keep).reverse ++ seen) := by
  induction values generalizing seen with
  | nil => rfl
  | cons first rest ih =>
    rw [List.forall_mem_cons] at hf
    rw [List.filterAuxM, hf.1]
    change rest.filterAuxM f (cond (keep first) (first :: seen) seen) = _
    rw [ih hf.2]
    cases hkeep : keep first <;> simp [hkeep]

theorem filterM_eq_ok {f : α → Except ε Bool} {keep : α → Bool} {values : List α}
    (hf : ∀ value ∈ values, f value = .ok (keep value)) :
    values.filterM f = .ok (values.filter keep) := by
  rw [List.filterM, filterAuxM_eq_ok hf]
  simp [bind, Except.bind, pure, Except.pure]

end DuplexAudio
