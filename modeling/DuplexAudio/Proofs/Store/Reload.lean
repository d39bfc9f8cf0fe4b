import DuplexAudio.Device.Reload
import DuplexAudio.Proofs.Device.Onward
import DuplexAudio.Proofs.Store.Tree
import DuplexAudio.Proofs.Toml.RoundTrip

/-!
A profile that was saved to a file is the one that is loaded from it, and the formats that a device
reloads from it are the ones it opens its next substream with.
-/

namespace DuplexAudio

namespace FileTree

theorem saveToml_eq_ok_iff {α : Type} {schema : Schema α} {value : α} {files saved : FileTree}
    {current : Location} {path : String} :
    files.saveToml schema value current path = (.ok (), saved) ↔
      ∃ made text, files.createAll current (PathText.containing path) = (.ok (), made) ∧
        Toml.encode? schema value = some text ∧
        made.write current path text.toUTF8 = .ok saved := by
  unfold saveToml
  rcases files.createAll current (PathText.containing path) with ⟨fault | ⟨⟩, made⟩
  · simp
  cases Toml.encode? schema value with
  | none => simp
  | some text =>
    simp only [Prod.mk.injEq, true_and, Option.some.injEq, exists_and_left, exists_eq_left']
    cases made.write current path text.toUTF8 <;> simp

/-- What was saved is loaded, for every value whose text is read back. -/
theorem loadToml_of_saveToml {α : Type} {schema : Schema α} {value : α} {files saved : FileTree}
    {current : Location} {path : String}
    (hread : ∃ text, Toml.encode? schema value = some text ∧ Toml.decode schema text = .ok value)
    (hsaved : files.saveToml schema value current path = (.ok (), saved)) :
    saved.loadToml schema current path = .ok value := by
  obtain ⟨text, hencode, hdecode⟩ := hread
  obtain ⟨made, written, -, hwritten, hwrite⟩ := saveToml_eq_ok_iff.1 hsaved
  obtain rfl : text = written := Option.some.inj (hencode.symm.trans hwritten)
  rw [loadToml, readText_write hwrite]
  exact mapError_eq_ok_iff.2 hdecode

end FileTree

namespace Device

/-- With the lock free and the formats at hand, opening settles what the offer settles. -/
theorem openPcm_fst_of_ready {device : Device} (hfree : device.lock.held = false)
    (havailable : device.source.failing = false) (direction : Direction) :
    (device.openPcm direction).1 =
      (device.offer device.source.formats direction).map fun constraints =>
        { id := device.nextId, constraints } := by
  cases hoffer : device.offer device.source.formats direction with
  | error fault =>
    rw [openPcm_of_offer_eq_error hfree havailable hoffer]
    rfl
  | ok constraints =>
    rw [openPcm_of_offer_eq_ok hfree havailable hoffer]
    rfl

end Device

/-- **Saving loses nothing.** Every profile and every configuration is written as a text that is read
as the same value. A device that reloads a saved profile gets exactly that profile, and negotiates
its next substream on exactly the saved tables. -/
theorem saved_values_restored :
    (∀ profile, ∃ text, Toml.encode? DeviceProfile.schema profile = some text ∧
      Toml.decode DeviceProfile.schema text = .ok profile) ∧
    (∀ configuration, ∃ text, Toml.encode? Configuration.schema configuration = some text ∧
      Toml.decode Configuration.schema text = .ok configuration) ∧
    ∀ (profile : DeviceProfile) (files saved : FileTree) (current : Location) (path : String)
      (device : Device),
      files.saveToml DeviceProfile.schema profile current path = (.ok (), saved) →
        let reloaded : Device := { device with source.formats := profile.formats }
        device.reloadFormats saved current path = (.ok profile, reloaded) ∧
        ∀ direction,
          (device.lock.held = false → device.source.failing = false →
            (reloaded.openPcm direction).1 =
              (device.offer profile.formats direction).map fun constraints =>
                { id := device.nextId, constraints }) ∧
          ∀ constraints, device.offer profile.formats direction = .ok constraints →
            constraints.table = profile.formats.forDirection direction := by
  refine ⟨Toml.exists_decode_encode_profile, Toml.exists_decode_encode_configuration, ?_⟩
  intro profile files saved current path device hsaved reloaded
  have hload := FileTree.loadToml_of_saveToml (Toml.exists_decode_encode_profile profile) hsaved
  refine ⟨?_, fun direction => ⟨fun hfree havailable => ?_, fun constraints hoffer => ?_⟩⟩
  · rw [Device.reloadFormats, hload]
  · have hready : reloaded.lock.held = false := hfree
    exact Device.openPcm_fst_of_ready hready havailable direction
  · obtain ⟨window, rates, -, -, -, rfl⟩ := Device.offer_eq_ok_iff.1 hoffer
    rfl

/-- The stereo profile, saved to a new directory and reloaded by a device with other formats. -/
theorem saved_values_restored_stereo :
    ∃ saved, ({} : FileTree).saveToml DeviceProfile.schema .stereo [] "profiles/stereo.toml" =
        (.ok (), saved) ∧
      Device.reloadFormats (.attach "factory" DeviceProfile.factory.formats {} false) saved []
          "profiles/stereo.toml" =
        (.ok .stereo, .attach "factory" DeviceProfile.stereo.formats {} false) ∧
      ∃ pcm, ((Device.attach "factory" DeviceProfile.stereo.formats {} false).openPcm .capture).1 =
        .ok pcm ∧ pcm.constraints.table = DeviceProfile.stereo.formats.transmit := by
  have hsaved : (({} : FileTree).saveToml DeviceProfile.schema .stereo []
      "profiles/stereo.toml").1 = .ok () := by
    decide +kernel
  have hoffer : ((Device.attach "factory" DeviceProfile.factory.formats {} false).offer
      DeviceProfile.stereo.formats .capture).isOk = true := by
    decide +kernel
  obtain ⟨hreload, hopen⟩ := saved_values_restored.2.2 .stereo {} _ [] "profiles/stereo.toml"
    (.attach "factory" DeviceProfile.factory.formats {} false) (Prod.ext hsaved rfl)
  refine ⟨_, Prod.ext hsaved rfl, hreload, ?_⟩
  obtain ⟨hready, htable⟩ := hopen .capture
  cases hresult : (Device.attach "factory" DeviceProfile.factory.formats {} false).offer
      DeviceProfile.stereo.formats .capture with
  | error fault =>
    rw [hresult] at hoffer
    cases hoffer
  | ok constraints =>
    rw [hresult] at hready
    exact ⟨_, hready rfl rfl, htable constraints hresult⟩

end DuplexAudio
