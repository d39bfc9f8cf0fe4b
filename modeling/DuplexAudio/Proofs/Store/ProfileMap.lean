import DuplexAudio.Proofs.Store.Place
import DuplexAudio.Proofs.Text.ByteOrder
import DuplexAudio.Proofs.Toml.RoundTrip
import Mathlib.Logic.Function.Basic

/-!
A directory of profiles is a finite map from names to profiles. Each name has a file of its own in
the directory, and the file holds the text of its profile; the map says which files there are.
-/

namespace DuplexAudio

namespace ProfileDirectory

/-! ### Names and their files -/

/-- A text that can be the name of a profile: it is one name on the way along a path. -/
def IsName (name : String) : Prop := name ≠ "" ∧ '/' ∉ name.toList ∧ '\x00' ∉ name.toList

instance (name : String) : Decidable (IsName name) := inferInstanceAs (Decidable (_ ∧ _ ∧ _))

theorem slash_not_mem_file {name : String} (hslash : '/' ∉ name.toList) :
    '/' ∉ (name ++ ".toml").toList := by
  rw [String.toList_append, List.mem_append, not_or]
  exact ⟨hslash, by decide⟩

/-- The file of a profile has a name of its own, also if the profile has an empty one. -/
theorem isFileName_file {name : String} (hslash : '/' ∉ name.toList) :
    FilePath.IsFileName (name ++ ".toml") := by
  have hlong : 5 ≤ (name ++ ".toml").length := by
    rw [String.length_append]
    exact Nat.le_add_left _ _
  refine FilePath.isFileName_of_not_mem (slash_not_mem_file hslash) ?_ ?_ ?_
  all_goals
    intro heq
    rw [heq] at hlong
    revert hlong
    decide

/-- The name of a profile comes back from the name of its file. -/
theorem profileName?_file {name : String} (hname : name ≠ "") :
    profileName? (name ++ ".toml") = some name := by
  have hsplit : PathText.splitExtension (name ++ ".toml").toList =
      some (name.toList, ['t', 'o', 'm', 'l']) := by
    rw [String.toList_append]
    exact PathText.splitExtension_append (by simpa using hname) (by decide) (by decide)
  rw [profileName?, hsplit]
  simp

theorem filter_files (names : List String) (name : String) :
    (names.map (· ++ ".toml")).filter (· != name ++ ".toml") =
      (names.filter (· != name)).map (· ++ ".toml") := by
  rw [List.filter_map]
  congr 2
  funext other
  rw [Function.comp_apply, Bool.eq_iff_iff, bne_iff_ne, bne_iff_ne, ne_eq,
    String.append_left_inj]

/-- Sorted names ascend in the order of their bytes. -/
theorem pairwise_bytes_mergeSort {names : List String} (hnodup : names.Nodup) :
    (names.mergeSort (· ≤ ·)).Pairwise fun first second =>
      first.toUTF8.data.toList < second.toUTF8.data.toList := by
  have hsorted : (names.mergeSort (· ≤ ·)).Pairwise fun first second =>
      decide (first ≤ second) = true := by
    refine List.pairwise_mergeSort (fun first second third => ?_) (fun first second => ?_) names
    · simp only [decide_eq_true_eq]
      exact String.le_trans
    · simpa only [Bool.or_eq_true, decide_eq_true_eq] using String.le_total first second
  have hdistinct : (names.mergeSort (· ≤ ·)).Nodup :=
    (List.mergeSort_perm names _).nodup_iff.2 hnodup
  refine hsorted.imp₂ (fun first second hle hne => ?_) hdistinct
  have hlt : first < second := Decidable.by_contra fun hlt =>
    hne (String.le_antisymm (of_decide_eq_true hle) (String.not_lt.1 hlt))
  exact Text.bytes_lt_of_lt hlt

variable (directory : ProfileDirectory)

/-- The directory as the file of a profile has it. -/
def home : String := PathText.containing (directory.profilePath "")

/-- Neither the file of a profile nor the way to it has a name longer than a file system takes. -/
def Fits (name : String) : Prop :=
  (name ++ ".toml").utf8ByteSize ≤ FileTree.maxNameSize ∧
    (directory.profilePath name).utf8ByteSize ≤ FileTree.maxPathSize

instance (name : String) : Decidable (directory.Fits name) := inferInstanceAs (Decidable (_ ∧ _))

variable {directory}

theorem containing_profilePath {name : String} (hpath : directory.path ≠ "")
    (hslash : '/' ∉ name.toList) :
    PathText.containing (directory.profilePath name) = directory.home := by
  have hlast : ∀ name : String, (name ++ ".toml").toList = (name ++ ".tom").toList ++ ['l'] := by
    intro name
    rw [String.toList_append, String.toList_append, List.append_assoc]
    rfl
  rw [home, profilePath, profilePath,
    PathText.containing_join hpath (slash_not_mem_file hslash) (hlast name) (by decide),
    PathText.containing_join hpath (slash_not_mem_file (by decide)) (hlast "") (by decide)]

theorem slash_profilePath {name : String} (hslash : '/' ∉ name.toList) :
    (FilePath.ofText (directory.profilePath name)).slash = false :=
  congrArg FilePath.slash (FilePath.ofText_join_of_isFileName _ (isFileName_file hslash))

/-- A directory that is there lists what its files are named after. -/
theorem list_of_resolve {tree : FileTree} {place : Location}
    (hresolve : tree.resolve directory.current directory.path = .ok place)
    (hnode : tree.node? place = some .directory) :
    directory.list tree =
      .ok (((tree.children place).filterMap profileName?).mergeSort (· ≤ ·)) := by
  have hfind := FileTree.find_directory_of_resolve hresolve hnode
  have hlist := FileTree.list_eq_ok_iff.2 ⟨place, hresolve, hnode, rfl⟩
  rw [list, if_pos (FileTree.doesExist_iff.2 ⟨place, .directory, hfind⟩), hlist]

/-! ### A directory that stands -/

/-- The directory stands at `place`, and its files are those of the profiles. -/
structure Holds (directory : ProfileDirectory) (place : Location) (tree : FileTree)
    (profiles : String → Option DeviceProfile) : Prop where
  made : tree.createAll directory.current directory.home = (.ok (), tree)
  leads : tree.resolve directory.current directory.path = .ok place
  isDirectory : tree.node? place = some .directory
  children : ∃ names : List String, names.Nodup ∧
    tree.children place = names.map (· ++ ".toml") ∧
    ∀ name, name ∈ names ↔ ∃ profile, profiles name = some profile
  stored : ∀ name profile, profiles name = some profile →
    IsName name ∧ directory.Fits name ∧ ∃ text,
      Toml.encode? DeviceProfile.schema profile = some text ∧
      tree.node? (place ++ [name ++ ".toml"]) = some (.file text.toUTF8)

namespace Holds

variable {place : Location} {tree : FileTree} {profiles : String → Option DeviceProfile}
  {name : String} {profile : DeviceProfile} (hholds : directory.Holds place tree profiles)

include hholds

theorem path_ne : directory.path ≠ "" := (FileTree.resolve_eq_ok_iff.1 hholds.leads).2.1

theorem node?_eq_none (hnone : profiles name = none) :
    tree.node? (place ++ [name ++ ".toml"]) = none := by
  obtain ⟨names, -, hchildren, hmem⟩ := hholds.children
  rw [← Option.not_isSome_iff_eq_none, Option.isSome_iff_exists, ← FileTree.mem_children_iff,
    hchildren, List.mem_map]
  rintro ⟨other, hother, heq⟩
  obtain rfl := (String.append_left_inj ".toml").1 heq
  obtain ⟨profile, hprofile⟩ := (hmem other).1 hother
  rw [hnone] at hprofile
  cases hprofile

/-- Nothing in place of a file of a profile is a directory. -/
theorem node?_ne_directory : tree.node? (place ++ [name ++ ".toml"]) ≠ some .directory := by
  cases hprofile : profiles name with
  | none =>
    rw [hholds.node?_eq_none hprofile]
    nofun
  | some profile =>
    obtain ⟨-, -, text, -, hnode⟩ := hholds.stored name profile hprofile
    rw [hnode]
    nofun

theorem resolve_profilePath (hname : IsName name) :
    tree.resolve directory.current (directory.profilePath name) =
      if directory.Fits name then .ok (place ++ [name ++ ".toml"]) else .error .invalidFilename := by
  have hfile := isFileName_file hname.2.1
  have hleads := FileTree.leads_of_resolve hholds.leads hholds.isDirectory
  obtain ⟨hnul, -, -, -⟩ := FileTree.resolve_eq_ok_iff.1 hholds.leads
  have htext : (directory.profilePath name).toList =
      PathText.base directory.path ++ (name.toList ++ ".toml".toList) := by
    rw [profilePath, PathText.toList_join hholds.path_ne
        (PathText.head?_ne_slash (slash_not_mem_file hname.2.1)), String.toList_append]
  have hnul : '\x00' ∉ (directory.profilePath name).toList := by
    rw [htext, List.mem_append, List.mem_append, not_or, not_or]
    exact ⟨PathText.not_mem_base (by decide) hnul, hname.2.2, by decide⟩
  have hempty : directory.profilePath name ≠ "" := by
    rw [ne_eq, ← String.toList_eq_nil_iff, htext]
    simp
  have hfollow : tree.follow directory.current (FilePath.ofText (directory.profilePath name)) =
      FileTree.arrive place (some (name ++ ".toml")) :=
    FileTree.follow_join hfile hleads
  rw [FileTree.resolve_eq hnul hempty, hfollow, FileTree.arrive]
  by_cases hsize : FileTree.maxPathSize < (directory.profilePath name).utf8ByteSize
  · rw [if_pos hsize, if_neg fun hfits => Nat.not_lt.2 hfits.2 hsize]
  rw [if_neg hsize]
  by_cases hlong : FileTree.maxNameSize < (name ++ ".toml").utf8ByteSize
  · rw [if_pos hlong, if_neg fun hfits => Nat.not_lt.2 hfits.1 hlong]
  · rw [if_neg hlong, if_pos ⟨Nat.not_lt.1 hlong, Nat.not_lt.1 hsize⟩]

theorem find_profilePath (hname : IsName name) (hfits : directory.Fits name) :
    tree.find directory.current (directory.profilePath name) =
      .ok (place ++ [name ++ ".toml"], tree.node? (place ++ [name ++ ".toml"])) := by
  refine FileTree.find_of_resolve ?_ (slash_profilePath hname.2.1)
  rw [hholds.resolve_profilePath hname, if_pos hfits]

theorem find_profilePath_of_not_fits (hname : IsName name) (hfits : ¬ directory.Fits name) :
    tree.find directory.current (directory.profilePath name) = .error .invalidFilename := by
  refine FileTree.find_of_resolve_eq_error ?_
  rw [hholds.resolve_profilePath hname, if_neg hfits]

theorem contains_eq (hname : IsName name) :
    directory.contains tree name = (profiles name).isSome := by
  rw [contains, FileTree.doesExist]
  cases hprofile : profiles name with
  | none =>
    by_cases hfits : directory.Fits name
    · rw [hholds.find_profilePath hname hfits, hholds.node?_eq_none hprofile]
      rfl
    · rw [hholds.find_profilePath_of_not_fits hname hfits]
      rfl
  | some profile =>
    obtain ⟨-, hfits, text, -, hnode⟩ := hholds.stored name profile hprofile
    rw [hholds.find_profilePath hname hfits, hnode]
    rfl

theorem load_eq (hname : IsName name) :
    directory.load tree name = (profiles name).elim (.error (.profileNotFound name)) .ok := by
  rw [load, hholds.contains_eq hname]
  cases hprofile : profiles name with
  | none => rfl
  | some profile =>
    obtain ⟨-, hfits, text, hencode, hnode⟩ := hholds.stored name profile hprofile
    obtain ⟨written, hwritten, hdecode⟩ := Toml.exists_decode_encode_profile profile
    obtain rfl : text = written := Option.some.inj (hencode.symm.trans hwritten)
    have hread : tree.readText directory.current (directory.profilePath name) = .ok text := by
      refine FileTree.readText_of_read ?_
      rw [FileTree.read, hholds.find_profilePath hname hfits, hnode]
      rfl
    rw [FileTree.loadToml, hread]
    exact mapError_eq_ok_iff.2 hdecode

omit hholds in
theorem of_keeps {other : FileTree} {changed : String → Option DeviceProfile}
    (hholds : directory.Holds place tree profiles) (hkeeps : tree.Keeps other)
    (hchildren : ∃ names : List String, names.Nodup ∧
      other.children place = names.map (· ++ ".toml") ∧
      ∀ name, name ∈ names ↔ ∃ profile, changed name = some profile)
    (hstored : ∀ name profile, changed name = some profile →
      IsName name ∧ directory.Fits name ∧ ∃ text,
        Toml.encode? DeviceProfile.schema profile = some text ∧
        other.node? (place ++ [name ++ ".toml"]) = some (.file text.toUTF8)) :
    directory.Holds place other changed where
  made := FileTree.createAll_again hholds.made hkeeps
  leads := hkeeps.resolve_eq_ok hholds.leads
  isDirectory := hkeeps _ hholds.isDirectory
  children := hchildren
  stored := hstored

/-- Saving puts a profile in place of what its name stood for. -/
theorem save (hname : IsName name) (hfits : directory.Fits name) (profile : DeviceProfile) :
    ∃ saved, directory.save tree name profile = (.ok (), saved) ∧
      directory.Holds place saved (Function.update profiles name (some profile)) := by
  obtain ⟨text, hencode, -⟩ := Toml.exists_decode_encode_profile profile
  have hwrite : tree.write directory.current (directory.profilePath name) text.toUTF8 =
      .ok (tree.insert (place ++ [name ++ ".toml"]) (.file text.toUTF8)) := by
    refine FileTree.write_eq_ok_iff.2 ⟨_, ?_, hholds.node?_ne_directory,
      slash_profilePath hname.2.1, rfl⟩
    rw [hholds.resolve_profilePath hname, if_pos hfits]
  refine ⟨tree.insert (place ++ [name ++ ".toml"]) (.file text.toUTF8), ?_,
    hholds.of_keeps (FileTree.keeps_insert hholds.node?_ne_directory _) ?_ ?_⟩
  · rw [ProfileDirectory.save, FileTree.saveToml,
      containing_profilePath hholds.path_ne hname.2.1, hholds.made]
    simp only [hencode, hwrite]
  · obtain ⟨names, hnodup, hchildren, hmem⟩ := hholds.children
    refine ⟨names.filter (· != name) ++ [name], ?_, ?_, fun other => ?_⟩
    · refine List.nodup_append.2 ⟨hnodup.filter _, by simp, fun other hother last hlast => ?_⟩
      rw [List.mem_singleton.1 hlast]
      exact bne_iff_ne.1 (List.mem_filter.1 hother).2
    · rw [FileTree.children_insert, hchildren, filter_files, List.map_append, List.map_singleton]
    · rw [List.mem_append, List.mem_filter, hmem]
      by_cases hother : other = name <;> simp [hother]
  · intro other stored hstored
    by_cases hother : other = name
    · subst hother
      rw [Function.update_self, Option.some.injEq] at hstored
      subst hstored
      exact ⟨hname, hfits, text, hencode, FileTree.node?_insert_self (by simp) tree _⟩
    · rw [Function.update_of_ne hother] at hstored
      rw [FileTree.node?_insert_of_ne (by simpa using hother) tree]
      exact hholds.stored other stored hstored

theorem save_of_not_fits (hname : IsName name) (hfits : ¬ directory.Fits name)
    (profile : DeviceProfile) :
    directory.save tree name profile = (.error (.file .invalidFilename), tree) := by
  obtain ⟨text, hencode, -⟩ := Toml.exists_decode_encode_profile profile
  rw [ProfileDirectory.save, FileTree.saveToml,
    containing_profilePath hholds.path_ne hname.2.1, hholds.made]
  simp only [hencode, FileTree.write, hholds.find_profilePath_of_not_fits hname hfits]
  rfl

/-- Deleting takes a profile away and leaves the others. -/
theorem delete (hname : IsName name) (hprofile : profiles name = some profile) :
    ∃ removed, directory.delete tree name = (.ok (), removed) ∧
      directory.Holds place removed (Function.update profiles name none) := by
  obtain ⟨-, hfits, text, hencode, hnode⟩ := hholds.stored name profile hprofile
  refine ⟨tree.remove (place ++ [name ++ ".toml"]), ?_,
    hholds.of_keeps (FileTree.keeps_remove hholds.node?_ne_directory) ?_ ?_⟩
  · rw [ProfileDirectory.delete, hholds.contains_eq hname, hprofile, FileTree.unlink,
      hholds.find_profilePath hname hfits, hnode]
    rfl
  · obtain ⟨names, hnodup, hchildren, hmem⟩ := hholds.children
    refine ⟨names.filter (· != name), ?_, ?_, fun other => ?_⟩
    · exact hnodup.filter _
    · rw [FileTree.children_remove, hchildren, filter_files]
    · rw [List.mem_filter, hmem]
      by_cases hother : other = name <;> simp [hother]
  · intro other stored hstored
    by_cases hother : other = name
    · rw [hother, Function.update_self] at hstored
      cases hstored
    · rw [Function.update_of_ne hother] at hstored
      rw [FileTree.node?_remove_of_ne (by simpa using hother) tree]
      exact hholds.stored other stored hstored

/-- The names of all profiles come back from the files, and are sorted then. -/
theorem list_eq : ∃ names, directory.list tree = .ok names ∧
    names.Pairwise (fun first second => first.toUTF8.data.toList < second.toUTF8.data.toList) ∧
    ∀ name, name ∈ names ↔ ∃ profile, profiles name = some profile := by
  obtain ⟨names, hnodup, hchildren, hmem⟩ := hholds.children
  have hnames : (names.map (· ++ ".toml")).filterMap profileName? = names := by
    rw [List.filterMap_map]
    refine Eq.trans (List.filterMap_congr fun name hname => ?_) List.filterMap_some
    obtain ⟨profile, hprofile⟩ := (hmem name).1 hname
    exact profileName?_file (hholds.stored name profile hprofile).1.1
  refine ⟨names.mergeSort (· ≤ ·), ?_, pairwise_bytes_mergeSort hnodup, fun name => ?_⟩
  · rw [list_of_resolve hholds.leads hholds.isDirectory, hchildren, hnames]
  · rw [List.mem_mergeSort, hmem]

end Holds

/-! ### A directory that is not made yet -/

/-- The directory is missing or empty: it can be made, and nothing is in it once it is. A path such as
`a.toml/..` names no missing directory, but one that `a.toml` is put into on the way there. -/
def Vacant (directory : ProfileDirectory) (tree : FileTree) : Prop :=
  (tree.createAll directory.current directory.home).1 = .ok () ∧
    (tree.createAll directory.current directory.home).2.list directory.current directory.path =
      .ok []

instance (directory : ProfileDirectory) (tree : FileTree) : Decidable (directory.Vacant tree) :=
  inferInstanceAs (Decidable (_ ∧ _))

section Vacant

variable {tree made : FileTree} {place : Location}

theorem exists_holds_none
    (hmade : made.createAll directory.current directory.home = (.ok (), made))
    (hlist : made.list directory.current directory.path = .ok []) :
    ∃ place, directory.Holds place made fun _ => none := by
  obtain ⟨place, hleads, hnode, hchildren⟩ := FileTree.list_eq_ok_iff.1 hlist
  exact ⟨place, {
    made := hmade
    leads := hleads
    isDirectory := hnode
    children := ⟨[], .nil, hchildren.symm, by simp⟩
    stored := nofun }⟩

theorem Vacant.exists_holds (hvacant : directory.Vacant tree) :
    ∃ place made, tree.createAll directory.current directory.home = (.ok (), made) ∧
      directory.Holds place made fun _ => none := by
  rcases hcreate : tree.createAll directory.current directory.home with ⟨outcome, made⟩
  rw [Vacant, hcreate] at hvacant
  obtain ⟨hok, hlist⟩ := hvacant
  obtain rfl : outcome = .ok () := hok
  obtain ⟨place, hholds⟩ :=
    exists_holds_none (FileTree.createAll_again hcreate (.refl made)) hlist
  exact ⟨place, made, rfl, hholds⟩

variable (hcreate : tree.createAll directory.current directory.home = (.ok (), made))
  (hholds : directory.Holds place made fun _ => none)

include hcreate hholds

theorem contains_of_createAll {name : String} (hname : IsName name) :
    directory.contains tree name = false := by
  have hextends := (FileTree.gains_of_createAll hcreate).toExtends
  rw [← Bool.not_eq_true, contains, FileTree.doesExist_iff]
  rintro ⟨location, node, hfind⟩
  obtain ⟨hresolve, hnode⟩ := FileTree.resolve_of_find hfind
  have hmade := hextends.keeps.resolve_eq_ok hresolve
  rw [hholds.resolve_profilePath hname] at hmade
  split at hmade
  · cases hmade
    have hnone : made.node? (place ++ [name ++ ".toml"]) = none := hholds.node?_eq_none rfl
    rw [hextends _ node hnode] at hnone
    cases hnone
  · cases hmade

theorem list_of_createAll : directory.list tree = .ok [] := by
  have hextends := (FileTree.gains_of_createAll hcreate).toExtends
  rw [list]
  split
  · next hexists =>
    obtain ⟨location, node, hfind⟩ := FileTree.doesExist_iff.1 hexists
    obtain ⟨hresolve, hnode⟩ := FileTree.resolve_of_find hfind
    obtain rfl : place = location := Except.ok.inj
      (hholds.leads.symm.trans (hextends.keeps.resolve_eq_ok hresolve))
    obtain rfl : node = .directory := Option.some.inj
      ((hextends _ node hnode).symm.trans hholds.isDirectory)
    have hchildren : tree.children place = [] := by
      rw [List.eq_nil_iff_forall_not_mem]
      intro file hmem
      obtain ⟨names, -, hfiles, hnames⟩ := hholds.children
      obtain ⟨present, hpresent⟩ := FileTree.mem_children_iff.1 hmem
      have hmade := FileTree.mem_children_iff.2 ⟨present, hextends _ present hpresent⟩
      rw [hfiles, List.mem_map] at hmade
      obtain ⟨name, hname, -⟩ := hmade
      obtain ⟨profile, hprofile⟩ := (hnames name).1 hname
      cases hprofile
    rw [FileTree.list_eq_ok_iff.2 ⟨place, hresolve, hnode, hchildren.symm⟩]
    simp
  · rfl

theorem save_of_createAll {name : String} (hslash : '/' ∉ name.toList) (profile : DeviceProfile) :
    directory.save tree name profile = directory.save made name profile := by
  rw [save, save, FileTree.saveToml, FileTree.saveToml,
    containing_profilePath hholds.path_ne hslash, hcreate, hholds.made]

end Vacant

/-! ### Requests -/

/-- What a directory of profiles is asked for. -/
inductive Request
  | save (name : String) (profile : DeviceProfile)
  | load (name : String)
  | delete (name : String)
  | contains (name : String)
  | list

def Request.IsNamed : Request → Prop
  | .save name _ | .load name | .delete name | .contains name => IsName name
  | .list => True

instance (request : Request) : Decidable request.IsNamed :=
  match request with
  | .save name _ | .load name | .delete name | .contains name =>
    inferInstanceAs (Decidable (IsName name))
  | .list => .isTrue trivial

/-- The files after a request. Only saving and deleting change them. -/
def serve (directory : ProfileDirectory) (tree : FileTree) : Request → FileTree
  | .save name profile => (directory.save tree name profile).2
  | .delete name => (directory.delete tree name).2
  | .load _ | .contains _ | .list => tree

/-- The map after a request. A name that the file system does not take is never in it. -/
def update (directory : ProfileDirectory) (profiles : String → Option DeviceProfile) :
    Request → String → Option DeviceProfile
  | .save name profile =>
    if directory.Fits name then Function.update profiles name (some profile) else profiles
  | .delete name => Function.update profiles name none
  | .load _ | .contains _ | .list => profiles

/-- What the directory answers is what the map says. -/
structure Reflects (directory : ProfileDirectory) (tree : FileTree)
    (profiles : String → Option DeviceProfile) : Prop where
  load : ∀ name, IsName name →
    directory.load tree name = (profiles name).elim (.error (.profileNotFound name)) .ok
  contains : ∀ name, IsName name → directory.contains tree name = (profiles name).isSome
  save : ∀ name profile, IsName name → (directory.save tree name profile).1 =
    if directory.Fits name then .ok () else .error (.file .invalidFilename)
  delete : ∀ name profile, IsName name → profiles name = some profile →
    (directory.delete tree name).1 = .ok ()
  delete_none : ∀ name, IsName name → profiles name = none →
    directory.delete tree name = (.error (.profileNotFound name), tree)
  list : ∃ names, directory.list tree = .ok names ∧
    names.Pairwise (fun first second => first.toUTF8.data.toList < second.toUTF8.data.toList) ∧
    ∀ name, name ∈ names ↔ ∃ profile, profiles name = some profile

/-- Until the first profile is saved nothing happens to the files. -/
def Stands (directory : ProfileDirectory) (start tree : FileTree)
    (profiles : String → Option DeviceProfile) : Prop :=
  (tree = start ∧ profiles = fun _ => none) ∨ ∃ place, directory.Holds place tree profiles

section Requests

variable {start tree : FileTree} {profiles : String → Option DeviceProfile}

theorem delete_eq_of_contains {name : String} (hcontains : directory.contains tree name = false) :
    directory.delete tree name = (.error (.profileNotFound name), tree) := by
  rw [delete, hcontains]
  rfl

theorem Holds.reflects {place : Location} (hholds : directory.Holds place tree profiles) :
    directory.Reflects tree profiles where
  load _ := hholds.load_eq
  contains _ := hholds.contains_eq
  save name profile hname := by
    split
    · next hfits =>
      obtain ⟨saved, hsave, -⟩ := hholds.save hname hfits profile
      rw [hsave]
    · next hfits => rw [hholds.save_of_not_fits hname hfits]
  delete name profile hname hprofile := by
    obtain ⟨removed, hdelete, -⟩ := hholds.delete hname hprofile
    rw [hdelete]
  delete_none name hname hprofile := by
    refine delete_eq_of_contains ?_
    rw [hholds.contains_eq hname, hprofile]
    rfl
  list := hholds.list_eq

theorem Vacant.reflects (hvacant : directory.Vacant tree) :
    directory.Reflects tree fun _ => none := by
  obtain ⟨place, made, hcreate, hholds⟩ := hvacant.exists_holds
  exact {
    load := fun name hname => by
      rw [load, contains_of_createAll hcreate hholds hname]
      rfl
    contains := fun name hname => contains_of_createAll hcreate hholds hname
    save := fun name profile hname => by
      rw [save_of_createAll hcreate hholds hname.2.1, hholds.reflects.save name profile hname]
    delete := nofun
    delete_none := fun name hname _ =>
      delete_eq_of_contains (contains_of_createAll hcreate hholds hname)
    list := ⟨[], list_of_createAll hcreate hholds, .nil, by simp⟩ }

/-- **One request.** The files and the map change alike. -/
theorem Holds.serve {place : Location} (hholds : directory.Holds place tree profiles)
    {request : Request} (hnamed : request.IsNamed) :
    directory.Holds place (directory.serve tree request) (directory.update profiles request) := by
  cases request with
  | save name profile =>
    rw [ProfileDirectory.serve, update]
    split
    · next hfits =>
      obtain ⟨saved, hsave, hsaved⟩ := hholds.save hnamed hfits profile
      rw [hsave]
      exact hsaved
    · next hfits =>
      rw [hholds.save_of_not_fits hnamed hfits]
      exact hholds
  | delete name =>
    rw [ProfileDirectory.serve, update]
    cases hprofile : profiles name with
    | none =>
      rw [hholds.reflects.delete_none name hnamed hprofile, ← hprofile, Function.update_eq_self]
      exact hholds
    | some profile =>
      obtain ⟨removed, hdelete, hremoved⟩ := hholds.delete hnamed hprofile
      rw [hdelete]
      exact hremoved
  | load | contains | list => exact hholds

theorem Stands.serve (hvacant : directory.Vacant start)
    (hstands : directory.Stands start tree profiles) {request : Request}
    (hnamed : request.IsNamed) :
    directory.Stands start (directory.serve tree request) (directory.update profiles request) := by
  rcases hstands with ⟨rfl, rfl⟩ | ⟨place, hholds⟩
  · cases request with
    | save name profile =>
      -- the first save makes the directory, and is then one in a directory that stands
      obtain ⟨place, made, hcreate, hholds⟩ := hvacant.exists_holds
      have hserved := hholds.serve hnamed
      rw [ProfileDirectory.serve, ← save_of_createAll hcreate hholds hnamed.2.1] at hserved
      exact .inr ⟨place, hserved⟩
    | delete name =>
      rw [ProfileDirectory.serve, hvacant.reflects.delete_none name hnamed rfl]
      exact .inl ⟨rfl, Function.update_eq_self name _⟩
    | load | contains | list => exact .inl ⟨rfl, rfl⟩
  · exact .inr ⟨place, hholds.serve hnamed⟩

theorem stands_foldl (hvacant : directory.Vacant start) {requests : List Request}
    (hnamed : ∀ request ∈ requests, request.IsNamed)
    (hstands : directory.Stands start tree profiles) :
    directory.Stands start (requests.foldl directory.serve tree)
      (requests.foldl directory.update profiles) := by
  induction requests generalizing tree profiles with
  | nil => exact hstands
  | cons request requests ih =>
    rw [List.forall_mem_cons] at hnamed
    exact ih hnamed.2 (hstands.serve hvacant hnamed.1)

end Requests

/-- **A finite map.** A directory that was missing or empty answers every request, after any others
before it, as the map does that these built up: a profile is there from when it is saved under its
name until that name is deleted, whatever happens to other names. -/
theorem reflects_foldl {directory : ProfileDirectory} {start : FileTree} {requests : List Request}
    (hvacant : directory.Vacant start) (hnamed : ∀ request ∈ requests, request.IsNamed) :
    directory.Reflects (requests.foldl directory.serve start)
      (requests.foldl directory.update fun _ => none) := by
  rcases stands_foldl hvacant hnamed (.inl ⟨rfl, rfl⟩) with ⟨htree, hprofiles⟩ | ⟨place, hholds⟩
  · rw [htree, hprofiles]
    exact hvacant.reflects
  · exact hholds.reflects

/-- Names with points: one profile is saved and deleted again, and two others are left. -/
theorem reflects_foldl_points :
    let directory : ProfileDirectory := { path := "profiles" }
    let files := [.save "a.toml" .factory, .save ".." .stereo, .delete "a.toml", .save "." .factory,
      .list].foldl directory.serve {}
    directory.Vacant {} ∧ directory.load files ".." = .ok .stereo ∧
      directory.load files "a.toml" = .error (.profileNotFound "a.toml") ∧
      ∃ names, directory.list files = .ok names ∧ "." ∈ names ∧ "a.toml" ∉ names := by
  intro directory files
  have hvacant : directory.Vacant {} := by decide +kernel
  have hreflects : directory.Reflects files _ := reflects_foldl hvacant (by
    simp only [List.forall_mem_cons]
    exact ⟨by decide, by decide, by decide, by decide, trivial, nofun⟩)
  generalize hprofiles : ([.save "a.toml" .factory, .save ".." .stereo, .delete "a.toml",
    .save "." .factory, .list] : List Request).foldl directory.update (fun _ => none) = profiles
    at hreflects
  have hpoint : profiles "." = some .factory := by rw [← hprofiles]; decide +kernel
  have hpoints : profiles ".." = some .stereo := by rw [← hprofiles]; decide +kernel
  have hletter : profiles "a.toml" = none := by rw [← hprofiles]; decide +kernel
  refine ⟨hvacant, ?_, ?_, ?_⟩
  · rw [hreflects.load ".." (by decide), hpoints]
    rfl
  · rw [hreflects.load "a.toml" (by decide), hletter]
    rfl
  obtain ⟨names, hlist, -, hmem⟩ := hreflects.list
  exact ⟨names, hlist, (hmem ".").2 ⟨.factory, hpoint⟩, fun hname => by
    obtain ⟨profile, hprofile⟩ := (hmem "a.toml").1 hname
    rw [hletter] at hprofile
    cases hprofile⟩

end ProfileDirectory
end DuplexAudio
