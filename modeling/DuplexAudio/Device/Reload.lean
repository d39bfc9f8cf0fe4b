import DuplexAudio.Device.Basic
import DuplexAudio.Store.ProfileDirectory

/-!
Packet formats that follow a profile file.
-/

namespace DuplexAudio.Device

/-- Re-reads the formats from a profile file; a fault leaves them as they were. A substream that is
open keeps what it was opened with. -/
def reloadFormats (device : Device) (files : FileTree) (current : Location) (path : String) :
    Except StoreFault DeviceProfile × Device :=
  match files.loadToml DeviceProfile.schema current path with
  | .error fault => (.error fault, device)
  | .ok profile => (.ok profile, { device with source.formats := profile.formats })

end DuplexAudio.Device
