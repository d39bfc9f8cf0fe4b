import DuplexAudio.Document.Records
import DuplexAudio.Proofs.Fallible
import Mathlib.Data.List.Pairwise

/-!
Documents with the same content: members may be listed in another order, and absent ones may be
missing altogether. A record does not depend on that, because each of its fields stores a part of the
draft of its own.
-/

namespace DuplexAudio

/-! ### Content -/

mutual

/-- The second document says what the first one does. -/
inductive SameContent : Document → Document → Prop
  | boolean (value : Bool) : SameContent (.boolean value) (.boolean value)
  | integer (value : Int) : SameContent (.integer value) (.integer value)
  | text (value : String) : SameContent (.text value) (.text value)
  | sequence {items others : List Document} (hitems : SameItems items others) :
    SameContent (.sequence items) (.sequence others)
  | mapping {members present listed : List (Option String × Document)}
    (hmembers : SameMembers members present) (hlisted : present.Perm listed) :
    SameContent (.mapping members) (.mapping listed)

inductive SameItems : List Document → List Document → Prop
  | nil : SameItems [] []
  | cons {item other : Document} {items others : List Document} (hitem : SameContent item other)
    (hitems : SameItems items others) : SameItems (item :: items) (other :: others)

/-- Member by member; an absent one is left out. -/
inductive SameMembers :
    List (Option String × Document) → List (Option String × Document) → Prop
  | nil : SameMembers [] []
  | absent {key : Option String} {members others : List (Option String × Document)}
    (hmembers : SameMembers members others) : SameMembers ((key, .null) :: members) others
  | cons {key : Option String} {value other : Document}
    {members others : List (Option String × Document)} (hvalue : SameContent value other)
    (hmembers : SameMembers members others) :
    SameMembers ((key, value) :: members) ((key, other) :: others)

end

/-! ### Order -/

namespace Document

variable {Draft : Type} {fields : List (RecordField Draft)} {seen : List String}
  {draft final : Draft} {members : List (Option String × Document)}

/-- Which of two fields is stored first makes no difference to a draft that takes both. -/
def Independent (first second : RecordField Draft) : Prop :=
  ∀ draft part other final,
    (first.store draft part).bind (second.store · other) = .ok final ↔
      (second.store draft other).bind (first.store · part) = .ok final

instance : Std.Symm (Independent : RecordField Draft → RecordField Draft → Prop) where
  symm _ _ hfields draft part other final := (hfields draft other part final).symm

theorem storeMembers_cons_eq_ok_iff {key : Option String} {value : Document} :
    storeMembers fields seen draft ((key, value) :: members) = .ok final ↔
      ∃ name, key = some name ∧
        ((fields.find? (·.name == name) = none ∧ value.intact = true ∧
            storeMembers fields seen draft members = .ok final) ∨
          ∃ field next, fields.find? (·.name == name) = some field ∧ name ∉ seen ∧
            field.store draft value = .ok next ∧
            storeMembers fields (name :: seen) next members = .ok final) := by
  cases key with
  | none => simp [storeMembers]
  | some name =>
    rw [storeMembers]
    constructor
    · intro hstored
      refine ⟨name, rfl, ?_⟩
      split at hstored
      · next hfind =>
        split at hstored
        · next hintact => exact .inl ⟨hfind, hintact, hstored⟩
        · cases hstored
      · next field hfind =>
        split at hstored
        · cases hstored
        next hseen =>
        split at hstored
        · cases hstored
        next next hstore =>
        exact .inr ⟨field, next, hfind, by simpa using hseen, hstore, hstored⟩
    · rintro ⟨_, ⟨⟩, ⟨hfind, hintact, hrest⟩ | ⟨field, next, hfind, hname, hstore, hrest⟩⟩
      · simp only [hfind, hintact, if_true]
        exact hrest
      · simp only [hfind, List.contains_iff_mem, hname, if_false, hstore]
        exact hrest

/-- Only which keys have been seen matters. -/
theorem storeMembers_congr {others : List String} (hseen : ∀ name, name ∈ seen ↔ name ∈ others) :
    storeMembers fields seen draft members = .ok final →
      storeMembers fields others draft members = .ok final := by
  induction members generalizing seen others draft with
  | nil => exact id
  | cons member members ih =>
    obtain ⟨key, value⟩ := member
    rw [storeMembers_cons_eq_ok_iff, storeMembers_cons_eq_ok_iff]
    rintro ⟨name, rfl, ⟨hfind, hintact, hrest⟩ | ⟨field, next, hfind, hname, hstore, hrest⟩⟩
    · exact ⟨name, rfl, .inl ⟨hfind, hintact, ih hseen hrest⟩⟩
    · refine ⟨name, rfl, .inr ⟨field, next, hfind, mt (hseen name).2 hname, hstore, ih ?_ hrest⟩⟩
      intro other
      rw [List.mem_cons, List.mem_cons, hseen other]

theorem name_of_find? {name : String} {field : RecordField Draft}
    (hfind : fields.find? (·.name == name) = some field) : field ∈ fields ∧ field.name = name :=
  ⟨List.mem_of_find?_eq_some hfind, by simpa using List.find?_some hfind⟩

theorem storeMembers_swap (hfields : fields.Pairwise Independent)
    {first second : Option String × Document}
    (hstored : storeMembers fields seen draft (first :: second :: members) = .ok final) :
    storeMembers fields seen draft (second :: first :: members) = .ok final := by
  obtain ⟨firstKey, firstValue⟩ := first
  obtain ⟨secondKey, secondValue⟩ := second
  simp only [storeMembers_cons_eq_ok_iff] at hstored ⊢
  obtain ⟨name, rfl, ⟨hfind, hintact, other, rfl, hrest⟩ |
    ⟨field, next, hfind, hname, hstore, other, rfl, hrest⟩⟩ := hstored
  · refine ⟨other, rfl, ?_⟩
    rcases hrest with ⟨hfind', hintact', hrest⟩ | ⟨field', next', hfind', hname', hstore', hrest⟩
    · exact .inl ⟨hfind', hintact', name, rfl, .inl ⟨hfind, hintact, hrest⟩⟩
    · exact .inr ⟨field', next', hfind', hname', hstore', name, rfl,
        .inl ⟨hfind, hintact, hrest⟩⟩
  · refine ⟨other, rfl, ?_⟩
    rcases hrest with ⟨hfind', hintact', hrest⟩ | ⟨field', next', hfind', hname', hstore', hrest⟩
    · exact .inl ⟨hfind', hintact', name, rfl, .inr ⟨field, next, hfind, hname, hstore, hrest⟩⟩
    · -- Both are fields of the record, and not the same one, or the key would come again.
      rw [List.mem_cons, not_or] at hname'
      obtain ⟨hmem, hfield⟩ := name_of_find? hfind
      obtain ⟨hmem', hfield'⟩ := name_of_find? hfind'
      have hdiffer : field ≠ field' := by
        rintro rfl
        exact hname'.1 (hfield'.symm.trans hfield)
      have hboth : (field.store draft firstValue).bind (field'.store · secondValue) =
          .ok next' := by
        rw [hstore]
        exact hstore'
      obtain ⟨middle, hmiddle, hlast⟩ := exists_of_bind_eq_ok
        ((hfields.forall hmem hmem' hdiffer draft firstValue secondValue next').1 hboth)
      refine .inr ⟨field', middle, hfind', hname'.2, hmiddle, name, rfl,
        .inr ⟨field, next', hfind, ?_, hlast, ?_⟩⟩
      · rw [List.mem_cons, not_or]
        exact ⟨Ne.symm hname'.1, hname⟩
      · exact storeMembers_congr (fun key => (List.Perm.swap name other seen).mem_iff) hrest

/-- **The order of the members does not matter** to a record whose fields are independent. -/
theorem storeMembers_perm (hfields : fields.Pairwise Independent)
    {others : List (Option String × Document)} (hperm : members.Perm others)
    (hstored : storeMembers fields seen draft members = .ok final) :
    storeMembers fields seen draft others = .ok final := by
  induction hperm generalizing seen draft with
  | nil => exact hstored
  | cons member hperm ih =>
    obtain ⟨key, value⟩ := member
    rw [storeMembers_cons_eq_ok_iff] at hstored ⊢
    obtain ⟨name, rfl, ⟨hfind, hintact, hrest⟩ | ⟨field, next, hfind, hname, hstore, hrest⟩⟩ :=
      hstored
    · exact ⟨name, rfl, .inl ⟨hfind, hintact, ih hrest⟩⟩
    · exact ⟨name, rfl, .inr ⟨field, next, hfind, hname, hstore, ih hrest⟩⟩
  | trans _ _ ih ih' => exact ih' (ih hstored)
  | swap second first rest => exact storeMembers_swap hfields hstored

end Document
end DuplexAudio
