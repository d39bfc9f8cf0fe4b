import DuplexAudio.Proofs.Document.Content
import DuplexAudio.Proofs.Mode.Partition

/-!
What is saved can be had again: a document with the content that a value was written as is read as
that value, in either notation and whatever the order of its members.
-/

namespace DuplexAudio

open Document

/-- Whatever has the content of a written value is read as the value. -/
def Restores {α : Type} (write : α → Document) (reader : Reader α) : Prop :=
  ∀ ⦃value document⦄, SameContent (write value) document → reader document = .ok value

/-! ### Parts of records -/

theorem restores_word : Restores word readWord := by
  rintro value document ⟨⟩
  have hread : readNatural UInt32.size (word value) = .ok value.toNat := if_pos value.toNat_lt
  rw [readWord]
  change (readNatural UInt32.size (word value)).map _ = _
  rw [hread, Except.map, UInt32.ofNat_toNat]

theorem restores_text : Restores .text readText := by
  rintro value document ⟨⟩
  rfl

theorem Restores.list {α : Type} {write : α → Document} {reader : Reader α}
    (hitem : Restores write reader) :
    Restores (fun values => .sequence (values.map write)) (readList reader) := by
  rintro values document ⟨⟩
  next others hitems =>
  change others.mapM reader = .ok values
  induction values generalizing others with
  | nil =>
    cases hitems
    rfl
  | cons value values ih =>
    obtain _ | ⟨hfirst, hrest⟩ := hitems
    rw [List.mapM_cons, hitem hfirst, ih hrest]
    rfl

theorem Restores.nullable {α : Type} {write : α → Document} {reader : Reader α}
    (hvalue : Restores write reader) {value : α} {document : Document}
    (hsame : SameContent (write value) document) :
    readNullable reader document = .ok (some value) := by
  have hread := hvalue hsame
  generalize write value = written at hsame
  unfold readNullable
  split
  · cases hsame
  · rw [hread]
    rfl

section Record

variable {Draft α β γ : Type} {fields : List (RecordField Draft)} {seen : List String}
  {draft empty final : Draft} {complete : Draft → Except ReadFault α} {dialect : Dialect}

/-- Fields that set different parts of the draft are independent. -/
theorem independent_of_commute {first second : RecordField Draft} {readFirst : Reader β}
    {readSecond : Reader γ} {setFirst : Draft → β → Draft} {setSecond : Draft → γ → Draft}
    (hfirst : ∀ draft part, first.store draft part =
      readFirst part >>= fun value => pure (setFirst draft value))
    (hsecond : ∀ draft part, second.store draft part =
      readSecond part >>= fun value => pure (setSecond draft value))
    (hcommute : ∀ draft value other,
      setSecond (setFirst draft value) other = setFirst (setSecond draft other) value) :
    Independent first second := by
  intro draft part other final
  simp only [hfirst, hsecond]
  cases readFirst part <;> cases readSecond other <;>
    simp [bind, Except.bind, pure, Except.pure, hcommute]

/-- The members leave the draft as `final`, in whichever way they are written down. -/
def StoresAs (fields : List (RecordField Draft)) (seen : List String) (draft : Draft)
    (members : List (Option String × Document)) (final : Draft) : Prop :=
  ∀ present, SameMembers members present → storeMembers fields seen draft present = .ok final

theorem StoresAs.nil : StoresAs fields seen draft [] draft := by
  rintro present ⟨⟩
  rfl

theorem StoresAs.cons {field : RecordField Draft} {name : String} {reader : Reader β}
    {written : Document} {value : β} {set : β → Draft} {members : List (Option String × Document)}
    (hfind : fields.find? (·.name == name) = some field) (hname : name ∉ seen)
    (hstore : ∀ part, field.store draft part = reader part >>= fun value => pure (set value))
    (hvalue : ∀ part, SameContent written part → reader part = .ok value) (hnull : written ≠ .null)
    (hrest : StoresAs fields (name :: seen) (set value) members final) :
    StoresAs fields seen draft ((some name, written) :: members) final := by
  rintro present hpresent
  obtain _ | ⟨_⟩ | ⟨hpart, hmembers⟩ := hpresent
  · exact absurd rfl hnull
  · rw [storeMembers_cons_eq_ok_iff]
    refine ⟨name, rfl, .inr ⟨field, set value, hfind, hname, ?_, hrest _ hmembers⟩⟩
    rw [hstore, hvalue _ hpart]
    rfl

theorem StoresAs.absent {key : Option String} {members : List (Option String × Document)}
    (hrest : StoresAs fields seen draft members final) :
    StoresAs fields seen draft ((key, .null) :: members) final := by
  rintro present hpresent
  obtain _ | ⟨hmembers⟩ | ⟨hpart, -⟩ := hpresent
  · exact hrest _ hmembers
  · cases hpart

/-- Two fields that set different parts of the draft. -/
theorem pairwise_of_commute {first second : RecordField Draft} {readFirst : Reader β}
    {readSecond : Reader γ} {setFirst : Draft → β → Draft} {setSecond : Draft → γ → Draft}
    (hfirst : ∀ draft part, first.store draft part =
      readFirst part >>= fun value => pure (setFirst draft value))
    (hsecond : ∀ draft part, second.store draft part =
      readSecond part >>= fun value => pure (setSecond draft value))
    (hcommute : ∀ draft value other,
      setSecond (setFirst draft value) other = setFirst (setSecond draft other) value) :
    [first, second].Pairwise Independent :=
  List.pairwise_pair.2 (independent_of_commute hfirst hsecond hcommute)

/-- A record is read from its members in any order. -/
theorem readRecord_of_storesAs (hfields : fields.Pairwise Independent)
    {members : List (String × Document)} {document : Document} {value : α}
    (hsame : SameContent (record members) document)
    (hstores : StoresAs fields [] empty (members.map fun (key, value) => (some key, value)) final)
    (hcomplete : complete final = .ok value) :
    readRecord dialect fields empty complete document = .ok value := by
  obtain ⟨_⟩ | ⟨_⟩ | ⟨_⟩ | ⟨_⟩ | ⟨hmembers, hlisted⟩ := hsame
  rw [readRecord, storeMembers_perm hfields hlisted (hstores _ hmembers)]
  exact hcomplete

end Record

namespace OperatingMode

theorem independent_fields : fields.Pairwise Independent := by
  simp only [fields, List.pairwise_cons, List.forall_mem_cons, List.not_mem_nil, false_imp_iff,
    implies_true, List.Pairwise.nil, and_true]
  refine ⟨⟨?_, ?_, ?_⟩, ⟨?_, ?_⟩, ?_⟩ <;>
    exact independent_of_commute (fun _ _ => rfl) (fun _ _ => rfl) fun _ _ _ => rfl

theorem restores (dialect : Dialect) : Restores schema.write (schema.read dialect) := by
  intro mode document hsame
  refine readRecord_of_storesAs independent_fields hsame
    (.cons rfl (by decide) (fun _ => rfl) (fun _ => (restores_word ·)) nofun
    (.cons rfl (by decide) (fun _ => rfl) (fun _ => (restores_word ·)) nofun
    (.cons rfl (by decide) (fun _ => rfl) (fun _ => (restores_word.list ·)) nofun
    (.cons rfl (by decide) (fun _ => rfl) (fun _ => (restores_word ·)) nofun .nil)))) rfl

end OperatingMode

/-- The modes of a table pass the check again that made them a table. -/
theorem ModeTable.restores (dialect : Dialect) : Restores schema.write (schema.read dialect) := by
  intro table document hsame
  have hmodes : readList (OperatingMode.schema.read dialect) document = .ok table.modes :=
    (OperatingMode.restores dialect).list hsame
  have htable : ofModes? table.modes = .ok table := ofModes?_eq_ok_iff.2 rfl
  change (readList _ document >>= fun modes => (ofModes? modes).mapError .invalidTable) = _
  rw [hmodes]
  exact mapError_eq_ok_iff.2 htable

namespace StreamFormats

theorem independent_fields (dialect : Dialect) : (fields dialect).Pairwise Independent :=
  pairwise_of_commute (fun _ _ => rfl) (fun _ _ => rfl) fun _ _ _ => rfl

theorem restores (dialect : Dialect) : Restores schema.write (schema.read dialect) := by
  intro formats document hsame
  exact readRecord_of_storesAs (independent_fields dialect) hsame
    (.cons rfl (by decide) (fun _ => rfl) (fun _ => (ModeTable.restores dialect ·)) nofun
    (.cons rfl (by decide) (fun _ => rfl) (fun _ => (ModeTable.restores dialect ·)) nofun .nil)) rfl

end StreamFormats

namespace DeviceProfile

theorem independent_fields (dialect : Dialect) : (fields dialect).Pairwise Independent :=
  pairwise_of_commute (fun _ _ => rfl) (fun _ _ => rfl) fun _ _ _ => rfl

theorem restores (dialect : Dialect) : Restores schema.write (schema.read dialect) := by
  intro profile document hsame
  exact readRecord_of_storesAs (independent_fields dialect) hsame
    (.cons rfl (by decide) (fun _ => rfl) (fun _ => (restores_text ·)) nofun
    (.cons rfl (by decide) (fun _ => rfl) (fun _ => (StreamFormats.restores dialect ·)) nofun
      .nil)) rfl

end DeviceProfile

namespace AppSettings

theorem independent_fields : fields.Pairwise Independent :=
  pairwise_of_commute (fun _ _ => rfl) (fun _ _ => rfl) fun _ _ _ => rfl

/-- A default profile that is missing is left out, and what is left out is missing. -/
theorem restores (dialect : Dialect) : Restores schema.write (schema.read dialect) := by
  intro app document hsame
  obtain ⟨profileDir, _ | profile⟩ := app
  · exact readRecord_of_storesAs independent_fields hsame
      (.cons rfl (by decide) (fun _ => rfl) (fun _ => (restores_text ·)) nofun
      (.absent .nil)) rfl
  · exact readRecord_of_storesAs independent_fields hsame
      (.cons rfl (by decide) (fun _ => rfl) (fun _ => (restores_text ·)) nofun
      (.cons rfl (by decide) (fun _ => rfl) (fun _ => (restores_text.nullable ·)) nofun .nil)) rfl

end AppSettings

namespace Configuration

theorem independent_fields (dialect : Dialect) : (fields dialect).Pairwise Independent :=
  pairwise_of_commute (fun _ _ => rfl) (fun _ _ => rfl) fun _ _ _ => rfl

theorem restores (dialect : Dialect) : Restores schema.write (schema.read dialect) := by
  intro configuration document hsame
  exact readRecord_of_storesAs (independent_fields dialect) hsame
    (.cons rfl (by decide) (fun _ => rfl) (fun _ => (AppSettings.restores dialect ·)) nofun
    (.cons rfl (by decide) (fun _ => rfl) (fun _ => (DeviceProfile.restores dialect ·)) nofun
      .nil)) rfl

end Configuration
end DuplexAudio
