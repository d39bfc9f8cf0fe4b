import DuplexAudio.Document.Reader
import DuplexAudio.Proofs.Fallible
import Mathlib.Logic.Relation

/-!
Where the contents of a record come from: a draft changes only when a field stores a part of the
document in it. What every such store keeps holds of the draft that the record is completed from.
-/

namespace DuplexAudio.Document

/-- What a sequence or a mapping immediately consists of. -/
def parts : Document → List Document
  | .sequence items => items
  | .mapping members => members.map (·.2)
  | _ => []

/-- The part is the document itself, or lies in it at some depth. -/
def Within : Document → Document → Prop :=
  Relation.ReflTransGen fun part whole => part ∈ whole.parts

theorem Within.refl (document : Document) : document.Within document :=
  Relation.ReflTransGen.refl

theorem Within.of_mem_parts {part child document : Document} (hpart : part.Within child)
    (hchild : child ∈ document.parts) : part.Within document :=
  Relation.ReflTransGen.tail hpart hchild

/-! ### Drafts -/

variable {Draft α : Type} {fields : List (RecordField Draft)} {kept : Draft → Prop}
  {draft final : Draft}

/-- Whichever field stores one of the parts, the draft keeps the property. -/
def StoresKeep (fields : List (RecordField Draft)) (kept : Draft → Prop)
    (parts : List Document) : Prop :=
  ∀ field ∈ fields, ∀ part ∈ parts, ∀ draft next,
    kept draft → field.store draft part = .ok next → kept next

theorem storeMembers_keeps {members : List (Option String × Document)} {seen : List String}
    (hstores : StoresKeep fields kept (members.map (·.2))) (hdraft : kept draft)
    (hstored : storeMembers fields seen draft members = .ok final) : kept final := by
  induction members generalizing seen draft with
  | nil =>
    cases hstored
    exact hdraft
  | cons member rest ih =>
    have hrest : StoresKeep fields kept (rest.map (·.2)) := fun field hfield part hpart =>
      hstores field hfield part (List.mem_cons_of_mem _ hpart)
    obtain ⟨_ | key, value⟩ := member
    · cases hstored
    rw [storeMembers] at hstored
    split at hstored
    · -- An unknown key leaves the draft as it is.
      split at hstored
      · exact ih hrest hdraft hstored
      · cases hstored
    · next field hfound =>
      split at hstored
      · cases hstored
      split at hstored
      · cases hstored
      · next next hstore =>
        have hnext : kept next := hstores field (List.mem_of_find?_eq_some hfound) value
          List.mem_cons_self draft next hdraft hstore
        exact ih hrest hnext hstored

theorem storeItems_keeps {dialect : Dialect} {items : List Document}
    (hstores : StoresKeep fields kept items) (hdraft : kept draft)
    (hstored : storeItems dialect draft fields items = .ok final) : kept final := by
  induction fields generalizing draft items with
  | nil =>
    cases items with
    | nil =>
      cases hstored
      exact hdraft
    | cons item rest =>
      rw [storeItems] at hstored
      split at hstored
      · cases hstored
        exact hdraft
      · cases hstored
  | cons field fields ih =>
    cases items with
    | nil =>
      rw [storeItems] at hstored
      split at hstored
      · exact ih (fun _ _ _ hpart => absurd hpart List.not_mem_nil) hdraft hstored
      · cases hstored
    | cons item rest =>
      rw [storeItems] at hstored
      split at hstored
      · cases hstored
      · next next hstore =>
        have hnext : kept next := hstores field List.mem_cons_self item List.mem_cons_self draft
          next hdraft hstore
        have hrest : StoresKeep fields kept rest := fun field hfield part hpart =>
          hstores field (List.mem_cons_of_mem _ hfield) part (List.mem_cons_of_mem _ hpart)
        exact ih hrest hnext hstored

/-- A record that is read was completed from a draft that every store kept right. -/
theorem readRecord_keeps {dialect : Dialect} {complete : Draft → Except ReadFault α}
    {document : Document} {value : α} (hstores : StoresKeep fields kept document.parts)
    (hdraft : kept draft) (hread : readRecord dialect fields draft complete document = .ok value) :
    ∃ final, kept final ∧ complete final = .ok value := by
  cases document with
  | mapping members =>
    obtain ⟨final, hstored, hcomplete⟩ := exists_of_bind_eq_ok hread
    exact ⟨final, storeMembers_keeps hstores hdraft hstored, hcomplete⟩
  | sequence items =>
    obtain ⟨final, hstored, hcomplete⟩ := exists_of_bind_eq_ok hread
    exact ⟨final, storeItems_keeps hstores hdraft hstored, hcomplete⟩
  | _ => cases hread

end DuplexAudio.Document
