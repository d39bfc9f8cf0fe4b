import DuplexAudio.Proofs.Document.Saved
import DuplexAudio.Proofs.Toml.Growth

/-!
Saving and loading: every profile and every configuration has a text, and reading the text yields
the value again.
-/

namespace DuplexAudio.Toml

section Render

variable {depth : Nat} {members : List (Option String × Document)}

theorem Sectioned.sections_sound (hsound : Sectioned depth members) (hdepth : depth ≤ maxDepth) :
    ∀ part ∈ sections members, part.Sound := by
  intro part hpart
  rw [sections] at hpart
  rcases List.mem_append.1 hpart with hroot | hbelow
  · split at hroot
    · cases hroot
    · rw [List.mem_singleton.1 hroot]
      exact ⟨nofun, Nat.zero_le _, hsound.plainEntries_sound⟩
  · obtain ⟨⟨way, -, hpath, hlength, hbare⟩, hentries⟩ := hsound.sections_below [] part hbelow
    rw [List.nil_append] at hpath
    exact ⟨hpath ▸ hbare, hpath ▸ Nat.le_trans hlength hdepth, hentries⟩

theorem flatMap_sections (members : List (Option String × Document)) :
    (sections members).flatMap Section.statements =
      assignments (plainEntries members) ++
        (subsections [] members).flatMap Section.statements := by
  rw [sections, List.flatMap_append]
  split
  · next hempty =>
    rw [List.isEmpty_iff.1 hempty]
    rfl
  · simp [Section.statements]

/-- **The text of a document has its content.** -/
theorem ofStatements?_writeSections (hsound : Sectioned depth members) (hdepth : depth ≤ maxDepth) :
    ∃ tree, (statements? (writeSections (sections members))).bind Tree.ofStatements? = some tree ∧
      SameContent (.mapping members) tree.document := by
  obtain ⟨inner, last, hrun, hsame⟩ := hsound.grows.table hsound .root
  rw [statements?_writeSections (hsound.sections_sound hdepth), flatMap_sections]
  exact ⟨⟨inner, last⟩, hrun, hsame⟩

theorem exists_decode_encode {α : Type} {schema : Schema α}
    (hrestores : Restores schema.write (schema.read dialect)) {value : α}
    (hwrite : schema.write value = .mapping members) (hsound : Sectioned depth members)
    (hdepth : depth ≤ maxDepth) :
    ∃ text, encode? schema value = some text ∧ decode schema text = .ok value := by
  obtain ⟨tree, htree, hsame⟩ := ofStatements?_writeSections hsound hdepth
  refine ⟨String.ofList (writeSections (sections members)), ?_, ?_⟩
  · rw [encode?, hwrite]
    rfl
  · rw [decode, String.toList_ofList, htree]
    exact hrestores (hwrite ▸ hsame)

end Render

/-! ### The saved records -/

theorem sectioned_mode (mode : OperatingMode) :
    ∃ members, OperatingMode.schema.write mode = .mapping members ∧ Sectioned 0 members := by
  refine ⟨_, rfl, ?_⟩
  have hrates : IsPlain (.sequence (mode.rates.map Document.word)) := .sequence fun item hitem => by
    obtain ⟨rate, -, rfl⟩ := List.mem_map.1 hitem
    exact .word rate
  exact .plain (by decide) (.scalar (.word _)) (by simp)
    (.plain (by decide) (.scalar (.word _)) (by simp)
    (.plain (by decide) hrates (by simp)
    (.plain (by decide) (.scalar (.word _)) (by simp) (.nil 0))))

/-- A table without modes stands among the plain values; any other gets a section for each mode. -/
theorem Sectioned.modeTable {key : String} {rest : List (Option String × Document)}
    (table : ModeTable) (hkey : IsBareKey key) (hnew : some key ∉ rest.map Prod.fst)
    (hrest : Sectioned 1 rest) :
    Sectioned 1 ((some key, ModeTable.schema.write table) :: rest) := by
  by_cases hempty : table.modes = []
  · have hwrite : ModeTable.schema.write table = .sequence [] :=
      congrArg (Document.sequence <| List.map OperatingMode.schema.write ·) hempty
    rw [hwrite]
    exact .plain hkey (.sequence nofun) hnew hrest
  · choose members hwrite hsound using sectioned_mode
    have hitems : ModeTable.schema.write table =
        .sequence ((table.modes.map members).map .mapping) := by
      refine congrArg Document.sequence ?_
      rw [List.map_map]
      exact List.map_congr_left fun mode _ => hwrite mode
    rw [hitems]
    refine .elements hkey (by simpa using hempty) (fun table hmem => ?_) hnew hrest
    obtain ⟨mode, -, rfl⟩ := List.mem_map.1 hmem
    exact hsound mode

theorem sectioned_formats (formats : StreamFormats) :
    ∃ members, StreamFormats.schema.write formats = .mapping members ∧ Sectioned 1 members :=
  ⟨_, rfl, .modeTable _ (by decide) (by simp) (.modeTable _ (by decide) (by simp) (.nil 1))⟩

theorem sectioned_profile (profile : DeviceProfile) :
    ∃ members, DeviceProfile.schema.write profile = .mapping members ∧ Sectioned 2 members := by
  obtain ⟨formats, hwrite, hsound⟩ := sectioned_formats profile.formats
  refine ⟨_, rfl, ?_⟩
  simp only [List.map_cons, List.map_nil, hwrite]
  exact .plain (by decide) (.scalar (.text _)) (by simp)
    (.table (by decide) hsound (by simp) (.nil 2))

theorem sectioned_app (app : AppSettings) :
    ∃ members, AppSettings.schema.write app = .mapping members ∧ Sectioned 2 members := by
  obtain ⟨profileDir, _ | profile⟩ := app
  · exact ⟨_, rfl, .plain (by decide) (.scalar (.text _)) (by simp) (.absent (by simp) (.nil 2))⟩
  · exact ⟨_, rfl, .plain (by decide) (.scalar (.text _)) (by simp)
      (.plain (by decide) (.scalar (.text _)) (by simp) (.nil 2))⟩

theorem sectioned_configuration (configuration : Configuration) :
    ∃ members, Configuration.schema.write configuration = .mapping members ∧
      Sectioned 3 members := by
  obtain ⟨app, happ, happSound⟩ := sectioned_app configuration.app
  obtain ⟨device, hdevice, hdeviceSound⟩ := sectioned_profile configuration.device
  refine ⟨_, rfl, ?_⟩
  simp only [List.map_cons, List.map_nil, happ, hdevice]
  exact .table (by decide) happSound (by simp)
    (.table (by decide) hdeviceSound (by simp) (.nil 3))

theorem exists_decode_encode_profile (profile : DeviceProfile) :
    ∃ text, encode? DeviceProfile.schema profile = some text ∧
      decode DeviceProfile.schema text = .ok profile := by
  obtain ⟨members, hwrite, hsound⟩ := sectioned_profile profile
  exact exists_decode_encode (DeviceProfile.restores dialect) hwrite hsound (by decide)

theorem exists_decode_encode_configuration (configuration : Configuration) :
    ∃ text, encode? Configuration.schema configuration = some text ∧
      decode Configuration.schema text = .ok configuration := by
  obtain ⟨members, hwrite, hsound⟩ := sectioned_configuration configuration
  exact exists_decode_encode (Configuration.restores dialect) hwrite hsound (by decide)

end DuplexAudio.Toml
