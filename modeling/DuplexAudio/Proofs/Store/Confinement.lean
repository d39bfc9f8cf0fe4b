import DuplexAudio.Proofs.Store.ProfileMap
import DuplexAudio.Proofs.Store.Reload

/-!
Where profiles are saved. A name without slashes stands for a file of its own directly in the
directory of the profiles, and the listing shows it. A name with slashes is followed as a path,
wherever that leads.
-/

namespace DuplexAudio.ProfileDirectory

variable {directory : ProfileDirectory} {tree saved : FileTree} {place : Location} {name : String}
  {profile : DeviceProfile}

/-! ### The file of a profile -/

/-- The profile is in a file directly in its directory, which is at `place`, and every other file is
as it was. -/
structure SavedIn (directory : ProfileDirectory) (tree saved : FileTree) (place : Location)
    (name : String) (profile : DeviceProfile) : Prop where
  leads : saved.Leads directory.current directory.path place
  stored : ∃ text, Toml.encode? DeviceProfile.schema profile = some text ∧
    saved.find directory.current (directory.profilePath name) =
      .ok (place ++ [name ++ ".toml"], some (.file text.toUTF8))
  others : ∀ there content, there ≠ place ++ [name ++ ".toml"] →
    (saved.node? there = some (.file content) ↔ tree.node? there = some (.file content))

/-- Saving makes the directories that are missing on the way, and then writes one file. -/
theorem save_cases (hsave : directory.save tree name profile = (.ok (), saved)) :
    ∃ made text location, tree.GainsDirectories made ∧
      Toml.encode? DeviceProfile.schema profile = some text ∧
      made.resolve directory.current (directory.profilePath name) = .ok location ∧
      made.node? location ≠ some .directory ∧
      (FilePath.ofText (directory.profilePath name)).slash = false ∧
      saved = made.insert location (.file text.toUTF8) := by
  obtain ⟨made, text, hcreate, hencode, hwrite⟩ := FileTree.saveToml_eq_ok_iff.1 hsave
  obtain ⟨location, hwritten⟩ := FileTree.write_eq_ok_iff.1 hwrite
  exact ⟨made, text, location, FileTree.gains_of_createAll hcreate, hencode, hwritten⟩

theorem exists_savedIn (hslash : '/' ∉ name.toList)
    (hsave : directory.save tree name profile = (.ok (), saved)) :
    ∃ place, directory.SavedIn tree saved place name profile := by
  obtain ⟨made, text, location, hgains, hencode, hresolve, hnode, hfile, rfl⟩ := save_cases hsave
  obtain ⟨-, -, -, place, hleads, rfl⟩ :=
    (FileTree.resolve_join_eq_ok_iff (isFileName_file hslash)).1 hresolve
  have hkeeps := FileTree.keeps_insert hnode (.file text.toUTF8)
  have hroot : place ++ [name ++ ".toml"] ≠ [] := by simp
  have hstored := FileTree.node?_insert_self hroot made (.file text.toUTF8)
  refine ⟨place, hleads.of_keeps hkeeps, ⟨text, hencode, ?_⟩, fun there content hthere => ?_⟩
  · rw [FileTree.find_of_resolve (hkeeps.resolve_eq_ok hresolve) hfile, hstored]
  · rw [FileTree.node?_insert_of_ne hthere, hgains.node?_file_iff]

theorem slashFree_save (hfree : tree.SlashFree)
    (hsave : directory.save tree name profile = (.ok (), saved)) : saved.SlashFree := by
  obtain ⟨made, text, location, hgains, -, hresolve, -, -, rfl⟩ := save_cases hsave
  exact (hfree.of_gains hgains).insert hresolve _

/-! ### The listing -/

theorem profileName?_eq_some {file : String} (hname : profileName? file = some name) :
    name ≠ "" ∧ name.toList <+: file.toList := by
  unfold profileName? at hname
  split at hname
  · next stem extension hsplit =>
    obtain ⟨hstem, hstarts⟩ := PathText.stem_of_splitExtension hsplit
    split at hname
    · obtain rfl := Option.some.inj hname
      exact ⟨by simpa using hstem, by simpa using hstarts⟩
    · cases hname
  · cases hname

theorem SavedIn.mem_list (hsaved : directory.SavedIn tree saved place name profile)
    (hname : name ≠ "") (hslash : '/' ∉ name.toList) (hpath : directory.path ≠ "") :
    ∃ names, directory.list saved = .ok names ∧ name ∈ names := by
  obtain ⟨text, -, hfind⟩ := hsaved.stored
  obtain ⟨hresolve, hnode⟩ := FileTree.resolve_of_find hfind
  obtain ⟨hnul, -, hsize, -⟩ := FileTree.resolve_eq_ok_iff.1 hresolve
  have hstarts := PathText.isPrefix_join directory.path
    (PathText.head?_ne_slash (slash_not_mem_file hslash))
  have hdirectory := hsaved.leads.resolve_eq_ok (fun hmem => hnul (hstarts.subset hmem)) hpath
    (Nat.le_trans (PathText.utf8ByteSize_le_of_isPrefix hstarts) hsize)
  refine ⟨_, list_of_resolve hdirectory hsaved.leads.node?, ?_⟩
  rw [List.mem_mergeSort, List.mem_filterMap]
  exact ⟨name ++ ".toml", FileTree.mem_children_iff.2 ⟨_, hnode⟩, profileName?_file hname⟩

/-- What the listing shows is the name of something in a directory that the path leads to. -/
theorem exists_file_of_mem_list {names : List String} (hlist : directory.list tree = .ok names)
    (hmem : name ∈ names) :
    directory.path ≠ "" ∧ ∃ place file node,
      tree.node? (place ++ [file]) = some node ∧ profileName? file = some name := by
  rw [list] at hlist
  split at hlist
  · cases hfiles : tree.list directory.current directory.path with
    | error fault =>
      rw [hfiles] at hlist
      cases hlist
    | ok files =>
      rw [hfiles] at hlist
      cases hlist
      obtain ⟨place, hresolve, -, rfl⟩ := FileTree.list_eq_ok_iff.1 hfiles
      obtain ⟨-, hpath, -, -⟩ := FileTree.resolve_eq_ok_iff.1 hresolve
      rw [List.mem_mergeSort, List.mem_filterMap] at hmem
      obtain ⟨file, hfile, hname⟩ := hmem
      obtain ⟨node, hnode⟩ := FileTree.mem_children_iff.1 hfile
      exact ⟨hpath, place, file, node, hnode, hname⟩
  · cases hlist
    cases hmem

/-- The listing shows no other names. -/
theorem of_mem_list {names : List String} (hfree : tree.SlashFree)
    (hlist : directory.list tree = .ok names) (hmem : name ∈ names) :
    '/' ∉ name.toList ∧ name ≠ "" ∧ directory.path ≠ "" := by
  obtain ⟨hpath, place, file, node, hnode, hfile⟩ := exists_file_of_mem_list hlist hmem
  obtain ⟨hname, hstarts⟩ := profileName?_eq_some hfile
  have hslash := hfree _ node hnode file (List.mem_append_right _ List.mem_cons_self)
  exact ⟨fun hmem => hslash (hstarts.subset hmem), hname, hpath⟩

/-! ### Names with slashes -/

theorem profilePath_join (directory : ProfileDirectory) (outer inner : String) :
    directory.profilePath (PathText.join outer inner) =
      { directory with path := PathText.join directory.path outer }.profilePath inner := by
  rw [profilePath, profilePath, PathText.join_append outer inner (by decide), PathText.join_assoc]

/-- **Where a profile is saved.** Under a name without slashes, in a file directly in the directory
of the profiles: no other file changes, and the listing shows the name, unless it or the path of the
directory is empty. The listing shows no name that has slashes. Different names without slashes stand
for different files, in whatever directories. A name with slashes is followed as a path, and the part
after its last slash is the name of the profile where that leads. -/
theorem saved_directly_inside (directory : ProfileDirectory) :
    (∀ tree saved name profile, '/' ∉ name.toList →
      directory.save tree name profile = (.ok (), saved) →
        (∃ place, directory.SavedIn tree saved place name profile) ∧
        (name ≠ "" → directory.path ≠ "" →
          ∃ names, directory.list saved = .ok names ∧ name ∈ names)) ∧
    (∀ tree saved name profile names listed, tree.SlashFree →
      directory.save tree name profile = (.ok (), saved) → directory.list saved = .ok names →
        listed ∈ names → '/' ∉ listed.toList ∧ listed ≠ "" ∧ directory.path ≠ "") ∧
    (∀ (other : ProfileDirectory) (tree there : FileTree) first second location,
      '/' ∉ first.toList → '/' ∉ second.toList →
        tree.resolve directory.current (directory.profilePath first) = .ok location →
        there.resolve other.current (other.profilePath second) = .ok location → first = second) ∧
    ∀ name, ∃ outer inner, name = PathText.join outer inner ∧ '/' ∉ inner.toList ∧
      ∀ tree profile, directory.save tree name profile =
        { directory with path := PathText.join directory.path outer }.save tree inner profile := by
  refine ⟨?_, ?_, ?_, ?_⟩
  · intro tree saved name profile hslash hsave
    obtain ⟨place, hsaved⟩ := exists_savedIn hslash hsave
    exact ⟨⟨place, hsaved⟩, fun hname => hsaved.mem_list hname hslash⟩
  · intro tree saved name profile names listed hfree hsave hlist hmem
    exact of_mem_list (slashFree_save hfree hsave) hlist hmem
  · intro other tree there first second location hfirst hsecond hresolve hsame
    have hfiles := FileTree.file_eq_of_resolve_join (isFileName_file hfirst)
      (isFileName_file hsecond) hresolve hsame
    exact (String.append_left_inj ".toml").1 hfiles
  · intro name
    obtain ⟨outer, inner, rfl, hslash⟩ := PathText.exists_eq_join name
    refine ⟨outer, inner, rfl, hslash, fun tree profile => ?_⟩
    rw [save, save, profilePath_join]

/-- A plain name and one with a slash, each saved where nothing was before. -/
theorem saved_directly_inside_interface :
    let directory : ProfileDirectory := { path := "profiles" }
    (∃ saved place names, directory.save {} "interface" .stereo = (.ok (), saved) ∧
      directory.SavedIn {} saved place "interface" .stereo ∧
      directory.list saved = .ok names ∧ "interface" ∈ names ∧
      saved.resolve [] (directory.profilePath "interface") = .ok ["profiles", "interface.toml"] ∧
      saved.resolve [] (directory.profilePath "stereo") ≠ .ok ["profiles", "interface.toml"]) ∧
    ∃ saved, directory.save {} "./interface" .stereo = (.ok (), saved) ∧
      directory.list saved = .ok ["interface"] ∧
      ∀ names, directory.list saved = .ok names → "./interface" ∉ names := by
  intro directory
  obtain ⟨hinside, hlisted, hdistinct, -⟩ := saved_directly_inside directory
  constructor
  · have hok : (directory.save {} "interface" .stereo).1 = .ok () := by decide +kernel
    have hresolve : (directory.save {} "interface" .stereo).2.resolve []
        (directory.profilePath "interface") = .ok ["profiles", "interface.toml"] := by
      decide +kernel
    rcases hsave : directory.save {} "interface" .stereo with ⟨outcome, saved⟩
    rw [hsave] at hok hresolve
    obtain rfl : outcome = .ok () := hok
    obtain ⟨⟨place, hsaved⟩, hlist⟩ := hinside {} saved _ _ (by decide) hsave
    obtain ⟨names, hnames, hmem⟩ := hlist (by decide) (by decide)
    refine ⟨saved, place, names, rfl, hsaved, hnames, hmem, hresolve, fun hsame => ?_⟩
    have hname := hdistinct directory saved saved "interface" "stereo" _ (by decide) (by decide)
      hresolve hsame
    exact absurd hname (by decide)
  · have hok : (directory.save {} "./interface" .stereo).1 = .ok () := by decide +kernel
    have hlist : directory.list (directory.save {} "./interface" .stereo).2 =
        .ok ["interface"] := by
      decide +kernel
    rcases hsave : directory.save {} "./interface" .stereo with ⟨outcome, saved⟩
    rw [hsave] at hok hlist
    obtain rfl : outcome = .ok () := hok
    refine ⟨saved, rfl, hlist, fun names hnames hmem => ?_⟩
    obtain ⟨hslash, -, -⟩ :=
      hlisted {} saved _ _ names _ FileTree.slashFree_empty hsave hnames hmem
    exact hslash (by decide)

/-- Names that leave the directory, that the listing leaves out, and that stand for the file of
another. -/
theorem saved_elsewhere :
    let directory : ProfileDirectory := { path := "profiles" }
    let here : ProfileDirectory := { path := "" }
    let outside := directory.save {} "../a" .stereo
    let unnamed := directory.save {} "" .stereo
    let unlisted := here.save {} "a" .stereo
    let shared := directory.save {} "a" .stereo
    (outside.1 = .ok () ∧ outside.2.resolve [] directory.path = .ok ["profiles"] ∧
      outside.2.resolve [] (directory.profilePath "../a") = .ok ["a.toml"] ∧
      directory.list outside.2 = .ok []) ∧
    (unnamed.1 = .ok () ∧ directory.list unnamed.2 = .ok []) ∧
    (unlisted.1 = .ok () ∧ here.list unlisted.2 = .ok []) ∧
    shared.1 = .ok () ∧
      shared.2.resolve [] (directory.profilePath "a") = .ok ["profiles", "a.toml"] ∧
      shared.2.resolve [] (directory.profilePath "./a") = .ok ["profiles", "a.toml"] := by
  decide +kernel

end DuplexAudio.ProfileDirectory
