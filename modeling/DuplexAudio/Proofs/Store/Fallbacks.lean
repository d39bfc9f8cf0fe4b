import DuplexAudio.Proofs.Store.Place
import DuplexAudio.Proofs.Store.Reload
import DuplexAudio.Store.ConfigDirectory

/-!
Loading the main configuration when its file is missing or damaged. What the user wrote stays as it
is and is kept a second time if it cannot be read, and a configuration that loading has written is
the one that is loaded from then on. The two fallbacks differ in one thing, the directory of the
profiles.
-/

namespace DuplexAudio

/-- The bytes are a text, and the text says what the configuration is. -/
def Configuration.DecodesFrom (configuration : Configuration) (bytes : ByteArray) : Prop :=
  ∃ text, String.fromUTF8? bytes = some text ∧
    Toml.decode Configuration.schema text = .ok configuration

theorem Configuration.exists_encode_decodesFrom (configuration : Configuration) :
    ∃ text, Toml.encode? Configuration.schema configuration = some text ∧
      configuration.DecodesFrom text.toUTF8 := by
  obtain ⟨text, hencode, hdecode⟩ := Toml.exists_decode_encode_configuration configuration
  exact ⟨text, hencode, text, FileTree.fromUTF8?_toUTF8 text, hdecode⟩

theorem FileTree.loadToml_eq_ok_iff_decodesFrom {tree : FileTree} {current : Location}
    {path : String} {bytes : ByteArray} {configuration : Configuration}
    (hread : tree.read current path = .ok bytes) :
    tree.loadToml Configuration.schema current path = .ok configuration ↔
      configuration.DecodesFrom bytes := by
  rw [loadToml, readText, hread]
  cases hdecode : String.fromUTF8? bytes with
  | none => simp [bind, Except.bind, hdecode, Configuration.DecodesFrom, throw, throwThe,
      MonadExceptOf.throw]
  | some text =>
    simp only [bind, Except.bind, hdecode, pure, Except.pure, mapError_eq_ok_iff,
      Configuration.DecodesFrom, Option.some.injEq, exists_eq_left']

namespace ConfigDirectory

variable {directory : ConfigDirectory} {tree : FileTree} {bytes : ByteArray}
  {configuration : Configuration}

/-! ### The files -/

theorem isFileName_config : FilePath.IsFileName "config.toml" := by decide

theorem isFileName_backup : FilePath.IsFileName "config.toml.corrupt" := by decide

/-- The copy of a damaged file lies beside it. -/
theorem backupPath_eq (directory : ConfigDirectory) :
    directory.backupPath = PathText.join directory.path "config.toml.corrupt" := by
  rw [backupPath, configPath, PathText.join_append _ _ (by decide)]
  rfl

theorem read_config_of_write_backup {content : ByteArray} {written : FileTree}
    (hread : tree.read directory.current directory.configPath = .ok bytes)
    (hwrite : tree.write directory.current directory.backupPath content = .ok written) :
    written.read directory.current directory.configPath = .ok bytes := by
  refine FileTree.read_write_of_ne hread hwrite fun location hconfig hbackup => ?_
  rw [backupPath_eq] at hbackup
  have hsame := FileTree.file_eq_of_resolve_join isFileName_config isFileName_backup hconfig hbackup
  revert hsame
  decide

/-! ### The outcomes of loading -/

theorem load_of_decodesFrom
    (hread : tree.read directory.current directory.configPath = .ok bytes)
    (hdecodes : configuration.DecodesFrom bytes) : directory.load tree = (configuration, tree) := by
  have hexists : directory.doesExist tree = true := FileTree.doesExist_of_read hread
  have hload := (FileTree.loadToml_eq_ok_iff_decodesFrom hread).2 hdecodes
  rw [load, if_pos hexists, hload]

theorem load_of_damaged
    (hread : tree.read directory.current directory.configPath = .ok bytes)
    (hdamaged : ∀ configuration : Configuration, ¬ configuration.DecodesFrom bytes) :
    directory.load tree = (.factory, directory.backUp tree) := by
  have hexists : directory.doesExist tree = true := FileTree.doesExist_of_read hread
  rw [load, if_pos hexists]
  cases hload : tree.loadToml Configuration.schema directory.current directory.configPath with
  | ok configuration =>
    exact absurd ((FileTree.loadToml_eq_ok_iff_decodesFrom hread).1 hload) (hdamaged configuration)
  | error fault => rfl

theorem load_of_missing (hmissing : directory.doesExist tree = false) :
    directory.load tree = (directory.initial, (directory.save tree directory.initial).2) := by
  rw [load, hmissing]
  rfl

/-- Keeping a copy of the file does not touch the file. -/
theorem read_config_backUp
    (hread : tree.read directory.current directory.configPath = .ok bytes) :
    (directory.backUp tree).read directory.current directory.configPath = .ok bytes := by
  rw [backUp, FileTree.copy_of_read hread]
  cases hwrite : tree.write directory.current directory.backupPath bytes with
  | error fault => exact hread
  | ok written => exact read_config_of_write_backup hread hwrite

theorem read_backup_backUp {copied : FileTree}
    (hread : tree.read directory.current directory.configPath = .ok bytes)
    (hcopy : tree.copy directory.current directory.configPath directory.backupPath = .ok copied) :
    (directory.backUp tree).read directory.current directory.backupPath = .ok bytes := by
  rw [backUp, hcopy]
  rw [FileTree.copy_of_read hread] at hcopy
  exact FileTree.read_write hcopy

/-- Where the directory can be made and the file be written, saving writes the configuration. -/
theorem exists_read_save {made : FileTree}
    (hmade : tree.createAll directory.current directory.path = (.ok (), made))
    (hwrites : ∀ content, ∃ written,
      made.write directory.current directory.configPath content = .ok written)
    (configuration : Configuration) :
    ∃ bytes, (directory.save tree configuration).2.read directory.current directory.configPath =
      .ok bytes ∧ configuration.DecodesFrom bytes := by
  obtain ⟨text, hencode, hdecodes⟩ := configuration.exists_encode_decodesFrom
  obtain ⟨written, hwrite⟩ := hwrites text.toUTF8
  obtain ⟨location, hresolve, -, -, -⟩ := FileTree.write_eq_ok_iff.1 hwrite
  have hends : "config.toml".toList = "config.tom".toList ++ ['l'] := rfl
  have hcontaining : made.createAll directory.current
      (PathText.containing directory.configPath) = (.ok (), made) :=
    FileTree.createAll_containing_join isFileName_config (by decide) hends (by decide) hresolve
  have hsaved : made.saveToml Configuration.schema configuration directory.current
      directory.configPath = (.ok (), written) :=
    FileTree.saveToml_eq_ok_iff.2 ⟨made, text, hcontaining, hencode, hwrite⟩
  refine ⟨text.toUTF8, ?_, hdecodes⟩
  rw [save, hmade]
  simp only [hsaved]
  exact FileTree.read_write hwrite

/-- The file system allows what loading may have to do: to make the directory, to write the
configuration into it, and to copy the file of the configuration aside. -/
structure Allowed (directory : ConfigDirectory) (tree : FileTree) : Prop where
  make : (tree.createAll directory.current directory.path).1 = .ok ()
  write : ∀ content, ∃ written, (tree.createAll directory.current directory.path).2.write
    directory.current directory.configPath content = .ok written
  copy : ∀ bytes, tree.read directory.current directory.configPath = .ok bytes →
    ∃ copied, tree.copy directory.current directory.configPath directory.backupPath = .ok copied

/-- **Nothing is lost by loading.** A file that is there stays as it is, byte for byte. If it can be
decoded, it is what is loaded, and nothing is written; if it cannot, its bytes are kept beside it. If
there is none, one is made that decodes to what was loaded, so that loading again, with the same file
there, yields the same and writes nothing. -/
theorem load_keeps_data (hallowed : directory.Allowed tree) :
    (∀ bytes, tree.read directory.current directory.configPath = .ok bytes →
      (directory.load tree).2.read directory.current directory.configPath = .ok bytes ∧
      (∀ configuration : Configuration, configuration.DecodesFrom bytes →
        directory.load tree = (configuration, tree)) ∧
      ((∀ configuration : Configuration, ¬ configuration.DecodesFrom bytes) →
        (directory.load tree).2.read directory.current directory.backupPath = .ok bytes)) ∧
    (directory.doesExist tree = false → ∃ bytes,
      (directory.load tree).2.read directory.current directory.configPath = .ok bytes ∧
      (directory.load tree).1.DecodesFrom bytes ∧
      ∀ later : FileTree, later.read directory.current directory.configPath = .ok bytes →
        directory.load later = ((directory.load tree).1, later)) := by
  constructor
  · intro bytes hread
    refine ⟨?_, fun configuration => load_of_decodesFrom hread, fun hdamaged => ?_⟩
    · by_cases hdecodes : ∃ configuration : Configuration, configuration.DecodesFrom bytes
      · obtain ⟨configuration, hdecodes⟩ := hdecodes
        rw [load_of_decodesFrom hread hdecodes]
        exact hread
      · rw [load_of_damaged hread (not_exists.1 hdecodes)]
        exact read_config_backUp hread
    · obtain ⟨copied, hcopy⟩ := hallowed.copy bytes hread
      rw [load_of_damaged hread hdamaged]
      exact read_backup_backUp hread hcopy
  · intro hmissing
    obtain ⟨bytes, hread, hdecodes⟩ :=
      exists_read_save (Prod.ext hallowed.make rfl) hallowed.write directory.initial
    rw [load_of_missing hmissing]
    exact ⟨bytes, hread, hdecodes, fun later hlater => load_of_decodesFrom hlater hdecodes⟩

/-- A directory with a damaged configuration: its only byte is no text. -/
def damagedFiles : FileTree where
  nodes := [(["cfg"], .directory), (["cfg", "config.toml"], .file ⟨#[0xFF]⟩)]

theorem not_decodesFrom_damaged (configuration : Configuration) :
    ¬ configuration.DecodesFrom ⟨#[0xFF]⟩ := by
  rintro ⟨text, htext, -⟩
  have hnone : String.fromUTF8? ⟨#[0xFF]⟩ = none := by decide +kernel
  cases hnone.symm.trans htext

theorem load_keeps_data_damaged :
    let directory : ConfigDirectory := { path := "cfg" }
    directory.Allowed damagedFiles ∧ directory.Allowed {} ∧
      (directory.load damagedFiles).2.read [] directory.configPath = .ok ⟨#[0xFF]⟩ ∧
      (directory.load damagedFiles).2.read [] directory.backupPath = .ok ⟨#[0xFF]⟩ ∧
      directory.load (directory.load {}).2 = ((directory.load {}).1, (directory.load {}).2) := by
  intro directory
  have hread : damagedFiles.read directory.current directory.configPath = .ok ⟨#[0xFF]⟩ := by
    decide +kernel
  have hunread : ({} : FileTree).read directory.current directory.configPath =
      .error .notFound := by
    decide +kernel
  have hrewritten : ((damagedFiles.createAll directory.current directory.path).2.write
      directory.current directory.configPath .empty).isOk = true := by
    decide +kernel
  have hwritten : ((({} : FileTree).createAll directory.current directory.path).2.write
      directory.current directory.configPath .empty).isOk = true := by
    decide +kernel
  have hcopied : (damagedFiles.write directory.current directory.backupPath .empty).isOk = true := by
    decide +kernel
  have hdamaged : directory.Allowed damagedFiles := {
    make := by decide +kernel
    write := FileTree.exists_write_of_isOk hrewritten
    copy := fun bytes hbytes => by
      rw [FileTree.copy_of_read hbytes]
      exact FileTree.exists_write_of_isOk hcopied bytes }
  have hmissing : directory.Allowed {} := {
    make := by decide +kernel
    write := FileTree.exists_write_of_isOk hwritten
    copy := fun bytes hbytes => by cases hunread.symm.trans hbytes }
  obtain ⟨hkept, -⟩ := load_keeps_data hdamaged
  obtain ⟨-, hmade⟩ := load_keeps_data hmissing
  obtain ⟨hconfig, -, hbackup⟩ := hkept _ hread
  obtain ⟨bytes, hcreated, -, hlater⟩ := hmade (by decide +kernel)
  exact ⟨hdamaged, hmissing, hconfig, hbackup not_decodesFrom_damaged, hlater _ hcreated⟩

/-! ### The two fallbacks -/

/-- Only the empty path takes nothing into the path of a file in it. -/
theorem initial_eq_factory_iff :
    .factory = directory.initial ↔ directory.path = "" := by
  have hfactory : Configuration.factory = directory.initial ↔
      "profiles" = PathText.join directory.path "profiles" := by
    constructor
    · intro hsame
      exact congrArg (·.app.profileDir) hsame
    · intro hsame
      rw [initial, ← hsame]
      rfl
  rw [hfactory]
  constructor
  · intro hsame
    by_contra hpath
    have hlength : "profiles".toList.length =
        (PathText.join directory.path "profiles").toList.length :=
      congrArg (·.toList.length) hsame
    rw [PathText.toList_join hpath (by decide), List.length_append] at hlength
    obtain ⟨text, hbase, -⟩ := PathText.exists_base_eq directory.path
    rw [hbase, List.length_append, List.length_singleton] at hlength
    omega
  · intro hpath
    rw [hpath, PathText.join_empty]

/-- **Where the fallbacks part.** After a missing file and after a damaged one the same device is
loaded, with no default profile either way. But the profiles are looked for in the directory of the
configuration in the first case and where the program happens to run in the second, so that the two
agree for the empty path alone. -/
theorem fallbacks_agree_iff {damaged missing : FileTree}
    (hread : damaged.read directory.current directory.configPath = .ok bytes)
    (hdamaged : ∀ configuration : Configuration, ¬ configuration.DecodesFrom bytes)
    (hmissing : directory.doesExist missing = false) :
    (directory.load damaged).1.device = (directory.load missing).1.device ∧
    (directory.load damaged).1.app.defaultProfile = none ∧
    (directory.load missing).1.app.defaultProfile = none ∧
    (directory.load damaged).1.app.profileDir = "profiles" ∧
    (directory.load missing).1.app.profileDir = PathText.join directory.path "profiles" ∧
    ((directory.load damaged).1 = (directory.load missing).1 ↔ directory.path = "") := by
  rw [load_of_damaged hread hdamaged, load_of_missing hmissing]
  exact ⟨rfl, rfl, rfl, rfl, rfl, initial_eq_factory_iff⟩

/-- A configuration where the program happens to run: the profiles are beside it either way. -/
theorem fallbacks_agree_iff_here :
    let directory : ConfigDirectory := { path := "", current := ["cfg"] }
    damagedFiles.read directory.current directory.configPath = .ok ⟨#[0xFF]⟩ ∧
      (∀ configuration : Configuration, ¬ configuration.DecodesFrom ⟨#[0xFF]⟩) ∧
      directory.doesExist {} = false ∧
      (directory.load damagedFiles).1 = (directory.load {}).1 := by
  intro directory
  have hread : damagedFiles.read directory.current directory.configPath = .ok ⟨#[0xFF]⟩ := by
    decide +kernel
  have hmissing : directory.doesExist {} = false := by decide +kernel
  obtain ⟨-, -, -, -, -, hagree⟩ := fallbacks_agree_iff hread not_decodesFrom_damaged hmissing
  exact ⟨hread, not_decodesFrom_damaged, hmissing, hagree.2 rfl⟩

/-- A damaged configuration anywhere else sends the program to other profiles than a missing one. -/
theorem fallbacks_part_elsewhere :
    let directory : ConfigDirectory := { path := "cfg" }
    damagedFiles.read directory.current directory.configPath = .ok ⟨#[0xFF]⟩ ∧
      (∀ configuration : Configuration, ¬ configuration.DecodesFrom ⟨#[0xFF]⟩) ∧
      directory.doesExist {} = false ∧
      (directory.load damagedFiles).1.app.profileDir = "profiles" ∧
      (directory.load {}).1.app.profileDir = "cfg/profiles" ∧
      (directory.load damagedFiles).1 ≠ (directory.load {}).1 := by
  intro directory
  have hread : damagedFiles.read directory.current directory.configPath = .ok ⟨#[0xFF]⟩ := by
    decide +kernel
  have hmissing : directory.doesExist {} = false := by decide +kernel
  rw [load_of_damaged hread not_decodesFrom_damaged, load_of_missing hmissing]
  refine ⟨hread, not_decodesFrom_damaged, hmissing, rfl, by decide, ?_⟩
  exact mt initial_eq_factory_iff.1 (by decide)

end ConfigDirectory
end DuplexAudio
