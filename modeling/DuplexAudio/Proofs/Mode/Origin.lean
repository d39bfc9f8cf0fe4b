import DuplexAudio.Document.Records
import DuplexAudio.Json.Reader
import DuplexAudio.Proofs.Document.Provenance
import DuplexAudio.Proofs.Mode.Partition
import DuplexAudio.Toml.Reader

/-!
Where mode tables come from. A text never yields a table by another way than the check: whatever
value is decoded, and however deep a table lies in it, its modes stand in the text and were
accepted.
-/

namespace DuplexAudio

/-! ### Written forms -/

/-- The forms in which values are written as text. -/
inductive WrittenForm
  | json
  | toml

namespace WrittenForm

variable {α : Type} {schema : Schema α} {text : String} {value : α}

def dialect : WrittenForm → Dialect
  | .json => Json.dialect
  | .toml => Toml.dialect

def decode (schema : Schema α) (text : String) : WrittenForm → Except ReadFault α
  | .json => Json.decode schema text
  | .toml => Toml.decode schema text

/-- The document that a text says, or the part of it up to where it stops making sense. -/
def document? (text : String) : WrittenForm → Option Document
  | .json => some (Json.readValue (2 * text.toList.length + 2) text.toList).1
  | .toml => ((Toml.statements? text.toList).bind Toml.Tree.ofStatements?).map (·.document)

/-- A decoded value was read from the document of the text. -/
theorem exists_document_of_decode_eq_ok (form : WrittenForm)
    (hdecode : form.decode schema text = .ok value) :
    ∃ document, form.document? text = some document ∧
      schema.read form.dialect document = .ok value := by
  cases form with
  | json =>
    refine ⟨_, rfl, ?_⟩
    obtain ⟨read, hread, hrest⟩ := exists_of_bind_eq_ok hdecode
    split at hrest
    · split at hrest
      · cases hrest
        exact hread
      · cases hrest
    · cases hrest
  | toml =>
    simp only [decode, Toml.decode] at hdecode
    split at hdecode
    · next tree htree => exact ⟨tree.document, by simp [document?, htree], hdecode⟩
    · cases hdecode

end WrittenForm

/-! ### Tables in documents -/

namespace ModeTable

variable {dialect : Dialect} {table : ModeTable} {part document : Document}

/-- The table is what the check makes of modes that stand together in the document. -/
def DrawnFrom (dialect : Dialect) (document : Document) (table : ModeTable) : Prop :=
  ∃ part modes, part.Within document ∧
    Document.readList (OperatingMode.schema.read dialect) part = .ok modes ∧
    ofModes? modes = .ok table

theorem DrawnFrom.of_mem_parts (hdrawn : table.DrawnFrom dialect part)
    (hpart : part ∈ document.parts) : table.DrawnFrom dialect document := by
  obtain ⟨inner, modes, hinner, hread, hcheck⟩ := hdrawn
  exact ⟨inner, modes, hinner.of_mem_parts hpart, hread, hcheck⟩

end ModeTable

/-- Every table of a value that the schema reads is drawn from the document. -/
def Schema.DrawsTables {α : Type} (schema : Schema α) (tables : α → List ModeTable) : Prop :=
  ∀ dialect document value, schema.read dialect document = .ok value →
    ∀ table ∈ tables value, table.DrawnFrom dialect document

theorem ModeTable.schema_drawsTables : ModeTable.schema.DrawsTables ([·]) := by
  intro dialect document value hread table htable
  obtain rfl := List.mem_singleton.1 htable
  obtain ⟨modes, hmodes, hcheck⟩ := exists_of_bind_eq_ok hread
  cases hchecked : ofModes? modes with
  | error fault =>
    rw [hchecked] at hcheck
    cases hcheck
  | ok checked =>
    rw [hchecked] at hcheck
    cases hcheck
    exact ⟨document, modes, .refl document, hmodes, hchecked⟩

/-- A field that stores what it reads by the schema brings in no other tables. -/
theorem Schema.DrawsTables.of_store {α Draft : Type} {schema : Schema α}
    {tables : α → List ModeTable} {dialect : Dialect} {part : Document} {update : α → Draft}
    {next : Draft} (hdraws : schema.DrawsTables tables)
    (hstore : (do return update (← schema.read dialect part)) = Except.ok next) :
    ∃ value, next = update value ∧ ∀ table ∈ tables value, table.DrawnFrom dialect part := by
  obtain ⟨value, hread, hnext⟩ := exists_of_bind_eq_ok hstore
  cases hnext
  exact ⟨value, rfl, hdraws dialect part value hread⟩

/-! ### Records around tables -/

section Records

variable {Draft α : Type} {fields : Dialect → List (Document.RecordField Draft)}

/-- A record draws its tables from the document if a stored field brings in no table but those
drawn from its part, and completing the draft brings in none at all. -/
theorem readRecord_drawsTables {write : α → Document} {draft : Draft}
    {complete : Draft → Except ReadFault α} (draftTables : Draft → List ModeTable)
    (tables : α → List ModeTable) (hdraft : draftTables draft = [])
    (hfields : ∀ dialect, ∀ field ∈ fields dialect, ∀ part draft next,
      field.store draft part = .ok next → ∀ table ∈ draftTables next,
        table ∈ draftTables draft ∨ table.DrawnFrom dialect part)
    (hcomplete : ∀ final value, complete final = .ok value →
      ∀ table ∈ tables value, table ∈ draftTables final) :
    (Schema.mk write fun dialect =>
      Document.readRecord dialect (fields dialect) draft complete).DrawsTables tables := by
  intro dialect document value hread table htable
  have hstores : Document.StoresKeep (fields dialect)
      (fun draft => ∀ table ∈ draftTables draft, table.DrawnFrom dialect document)
      document.parts := by
    intro field hfield part hpart draft next hkept hstore table htable
    rcases hfields dialect field hfield part draft next hstore table htable with hold | hdrawn
    · exact hkept table hold
    · exact hdrawn.of_mem_parts hpart
  have hstart : ∀ table ∈ draftTables draft, table.DrawnFrom dialect document := by
    simp [hdraft]
  obtain ⟨final, hfinal, hvalue⟩ := Document.readRecord_keeps hstores hstart hread
  exact hfinal table (hcomplete final value hvalue table htable)

end Records

namespace StreamFormats

def tables (formats : StreamFormats) : List ModeTable := [formats.transmit, formats.receive]

def Draft.tables (draft : Draft) : List ModeTable :=
  draft.transmit.toList ++ draft.receive.toList

theorem schema_drawsTables : schema.DrawsTables tables := by
  refine readRecord_drawsTables Draft.tables tables rfl ?_ ?_
  · intro dialect field hfield part draft next hstore table htable
    simp only [fields, List.mem_cons, List.not_mem_nil, or_false] at hfield
    rcases hfield with rfl | rfl
    · obtain ⟨transmit, rfl, hdrawn⟩ := ModeTable.schema_drawsTables.of_store hstore
      rcases List.mem_append.1 htable with hnew | hold
      · exact .inr (hdrawn table hnew)
      · exact .inl (List.mem_append_right _ hold)
    · obtain ⟨receive, rfl, hdrawn⟩ := ModeTable.schema_drawsTables.of_store hstore
      rcases List.mem_append.1 htable with hold | hnew
      · exact .inl (List.mem_append_left _ hold)
      · exact .inr (hdrawn table hnew)
  · rintro ⟨_ | transmit, _ | receive⟩ value hcomplete table htable
    all_goals cases hcomplete
    exact htable

end StreamFormats

namespace DeviceProfile

def tables (profile : DeviceProfile) : List ModeTable := profile.formats.tables

def Draft.tables (draft : Draft) : List ModeTable := draft.formats.toList.flatMap (·.tables)

theorem schema_drawsTables : schema.DrawsTables tables := by
  refine readRecord_drawsTables Draft.tables tables rfl ?_ ?_
  · intro dialect field hfield part draft next hstore table htable
    simp only [fields, List.mem_cons, List.not_mem_nil, or_false] at hfield
    rcases hfield with rfl | rfl
    · obtain ⟨name, -, hnext⟩ := exists_of_bind_eq_ok hstore
      cases hnext
      exact .inl htable
    · obtain ⟨formats, rfl, hdrawn⟩ := StreamFormats.schema_drawsTables.of_store hstore
      have hnew : table ∈ formats.tables := by simpa [Draft.tables] using htable
      exact .inr (hdrawn table hnew)
  · rintro ⟨_ | name, _ | formats⟩ value hcomplete table htable
    all_goals cases hcomplete
    have hkept : table ∈ formats.tables := htable
    simpa [Draft.tables] using hkept

end DeviceProfile

namespace Configuration

def tables (configuration : Configuration) : List ModeTable := configuration.device.tables

def Draft.tables (draft : Draft) : List ModeTable := draft.device.toList.flatMap (·.tables)

theorem schema_drawsTables : schema.DrawsTables tables := by
  refine readRecord_drawsTables Draft.tables tables rfl ?_ ?_
  · intro dialect field hfield part draft next hstore table htable
    simp only [fields, List.mem_cons, List.not_mem_nil, or_false] at hfield
    rcases hfield with rfl | rfl
    · obtain ⟨app, -, hnext⟩ := exists_of_bind_eq_ok hstore
      cases hnext
      exact .inl htable
    · obtain ⟨device, rfl, hdrawn⟩ := DeviceProfile.schema_drawsTables.of_store hstore
      have hnew : table ∈ device.tables := by simpa [Draft.tables] using htable
      exact .inr (hdrawn table hnew)
  · rintro ⟨_ | app, _ | device⟩ value hcomplete table htable
    all_goals cases hcomplete
    have hkept : table ∈ device.tables := htable
    simpa [Draft.tables] using hkept

end Configuration

/-! ### Every table -/

/-- No table is decoded from a text, by the schema, that was not drawn from its document. -/
def Schema.DecodesCheckedTables {α : Type} (schema : Schema α) (tables : α → List ModeTable) :
    Prop :=
  ∀ (form : WrittenForm) text value, form.decode schema text = .ok value →
    ∃ document, form.document? text = some document ∧
      ∀ table ∈ tables value, table.DrawnFrom form.dialect document

theorem Schema.DrawsTables.decodesCheckedTables {α : Type} {schema : Schema α}
    {tables : α → List ModeTable} (hdraws : schema.DrawsTables tables) :
    schema.DecodesCheckedTables tables := by
  intro form text value hdecode
  obtain ⟨document, hdocument, hread⟩ := form.exists_document_of_decode_eq_ok hdecode
  exact ⟨document, hdocument, hdraws form.dialect document value hread⟩

/-- The check accepts exactly the partitions and hands them on unchanged. Every table is one, also
where a constructor bypasses the check, so the check would accept it again and every rate has one
place in it. Decoding never bypasses the check. -/
theorem ModeTable.valid_however_made :
    (∀ modes, (∃ table, ofModes? modes = .ok table) ↔ Valid modes) ∧
    (∀ modes table, ofModes? modes = .ok table → table.modes = modes) ∧
    (∀ table : ModeTable,
      Valid table.modes ∧ ofModes? table.modes = .ok table ∧
      ∀ rate, table.modes.filter (·.supportsRate rate) = (table.modeForRate? rate).toList ∧
        (table.modeForRate? rate = none ↔ ∀ mode ∈ table.modes, rate ∉ mode.rates)) ∧
    schema.DecodesCheckedTables ([·]) ∧
    StreamFormats.schema.DecodesCheckedTables StreamFormats.tables ∧
    DeviceProfile.schema.DecodesCheckedTables DeviceProfile.tables ∧
    Configuration.schema.DecodesCheckedTables Configuration.tables := by
  refine ⟨fun modes => exists_ofModes?_eq_ok_iff, fun modes table => ofModes?_eq_ok_iff.1,
    fun table => ?_, schema_drawsTables.decodesCheckedTables,
    StreamFormats.schema_drawsTables.decodesCheckedTables,
    DeviceProfile.schema_drawsTables.decodesCheckedTables,
    Configuration.schema_drawsTables.decodesCheckedTables⟩
  have hlookup : ∀ rate,
      table.modes.filter (·.supportsRate rate) = (table.modeForRate? rate).toList ∧
        (table.modeForRate? rate = none ↔ ∀ mode ∈ table.modes, rate ∉ mode.rates) :=
    fun rate => ⟨table.filter_supportsRate rate, modeForRate?_eq_none_iff⟩
  exact ⟨table.valid_modes, ofModes?_eq_ok_iff.2 rfl, hlookup⟩

end DuplexAudio
