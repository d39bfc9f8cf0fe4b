import DuplexAudio.Proofs.Store.Path
import DuplexAudio.Proofs.Store.Tree

/-!
Where paths lead in a tree of files. A path leads to the place at the end of all its names, and a
file in a directory is at the place that the path of the directory leads to, whichever way that is
written.
-/

namespace DuplexAudio.FileTree

variable {tree other : FileTree} {current place location : Location} {text path file : String}

/-- The names of a path lead to a place, one directory after another. The empty path, which is none
for the file system, has no names and stays where it sets out from. -/
def Leads (tree : FileTree) (current : Location) (text : String) (place : Location) : Prop :=
  ∃ start, tree.setOut current (.ofText text) = .ok start ∧
    tree.walk start (FilePath.steps text) = .ok place

theorem setOut_congr {first second : FilePath} (hsame : first.absolute = second.absolute) :
    tree.setOut current first = tree.setOut current second := by
  rw [setOut, setOut, hsame]

theorem leads_congr (hhead : text.toList.head? = path.toList.head?)
    (hsteps : FilePath.steps text = FilePath.steps path) :
    tree.Leads current text place ↔ tree.Leads current path place := by
  have habsolute : (FilePath.ofText text).absolute = (FilePath.ofText path).absolute :=
    congrArg (· == some '/') hhead
  rw [Leads, Leads, setOut_congr habsolute, hsteps]

namespace Leads

theorem node? (hleads : tree.Leads current text place) : tree.node? place = some .directory := by
  obtain ⟨start, hstart, hwalk⟩ := hleads
  exact (grounded_of_setOut hstart).walk hwalk place List.prefix_rfl

theorem of_keeps (hkeeps : tree.Keeps other) (hleads : tree.Leads current text place) :
    other.Leads current text place := by
  obtain ⟨start, hstart, hwalk⟩ := hleads
  exact ⟨start, hkeeps.setOut_eq_ok hstart, hkeeps.walk_eq_ok hwalk⟩

/-- A path that a file system takes resolves to the place it leads to. -/
theorem resolve_eq_ok (hleads : tree.Leads current text place) (hnul : '\x00' ∉ text.toList)
    (hempty : text ≠ "") (hsize : text.utf8ByteSize ≤ maxPathSize) :
    tree.resolve current text = .ok place := by
  obtain ⟨start, hstart, hwalk⟩ := hleads
  rw [FilePath.steps_eq, walk_append_eq_ok_iff] at hwalk
  obtain ⟨parent, hparent, hlast⟩ := hwalk
  refine resolve_eq_ok_iff.2 ⟨hnul, hempty, hsize,
    follow_eq_ok_iff.2 ⟨start, parent, hstart, hparent, ?_⟩⟩
  cases hname : (FilePath.ofText text).last with
  | none =>
    rw [hname] at hlast
    exact hlast
  | some name =>
    rw [hname] at hlast
    obtain ⟨hshort, -, hend⟩ :=
      (walk_cons_eq_ok_iff (FilePath.last_ne_points hname)).1 hlast
    exact arrive_eq_ok_iff.2 ⟨hshort, (Except.ok.inj hend).symm⟩

end Leads

theorem leads_of_resolve (hresolve : tree.resolve current text = .ok place)
    (hnode : tree.node? place = some .directory) : tree.Leads current text place := by
  obtain ⟨-, -, -, hfollow⟩ := resolve_eq_ok_iff.1 hresolve
  obtain ⟨start, parent, hstart, hparent, harrive⟩ := follow_eq_ok_iff.1 hfollow
  refine ⟨start, hstart, ?_⟩
  rw [FilePath.steps_eq, walk_append _ hparent]
  cases hlast : (FilePath.ofText text).last with
  | none =>
    rw [hlast] at harrive
    exact harrive
  | some name =>
    rw [hlast] at harrive
    obtain ⟨hsize, rfl⟩ := arrive_eq_ok_iff.1 harrive
    exact (walk_cons_eq_ok_iff (FilePath.last_ne_points hlast)).2 ⟨hsize, hnode, rfl⟩

/-! ### Names without slashes -/

/-- No file and no directory has a name with a slash in it. -/
def SlashFree (tree : FileTree) : Prop :=
  ∀ location node, tree.node? location = some node → ∀ name ∈ location, '/' ∉ name.toList

theorem slashFree_empty : SlashFree {} := by
  intro location node hnode name hmem
  cases location with
  | nil => cases hmem
  | cons => cases hnode

namespace SlashFree

variable (hfree : tree.SlashFree)

include hfree

/-- Paths are taken apart at their slashes, so they lead to no name that has one. -/
theorem resolve (hresolve : tree.resolve current text = .ok location) :
    ∀ name ∈ location, '/' ∉ name.toList := by
  obtain ⟨-, -, -, hfollow⟩ := resolve_eq_ok_iff.1 hresolve
  obtain ⟨start, parent, hstart, hparent, harrive⟩ := follow_eq_ok_iff.1 hfollow
  have hnode := (grounded_of_setOut hstart).walk hparent parent List.prefix_rfl
  cases hlast : (FilePath.ofText text).last with
  | none =>
    rw [hlast] at harrive
    cases harrive
    exact hfree location _ hnode
  | some last =>
    rw [hlast] at harrive
    obtain ⟨-, rfl⟩ := arrive_eq_ok_iff.1 harrive
    intro name hmem
    rcases List.mem_append.1 hmem with hbefore | hends
    · exact hfree parent _ hnode name hbefore
    · rw [List.mem_singleton.1 hends]
      exact FilePath.slash_not_mem_of_last hlast

theorem insert (hresolve : tree.resolve current text = .ok location) (node : FileNode) :
    (tree.insert location node).SlashFree := by
  intro there present hpresent
  by_cases hthere : there = location
  · rw [hthere]
    exact hfree.resolve hresolve
  · rw [node?_insert_of_ne hthere] at hpresent
    exact hfree there present hpresent

theorem of_gains (hgains : tree.GainsDirectories other) : other.SlashFree := by
  induction hgains with
  | refl => exact hfree
  | make _ hresolve _ ih => exact ih.insert hresolve .directory

end SlashFree

/-! ### Files in a directory -/

section Join

variable (hfile : FilePath.IsFileName file)

include hfile

theorem setOut_join : tree.setOut current (.ofText (PathText.join path file)) =
    tree.setOut current (.ofText path) := by
  have habsolute := congrArg FilePath.absolute (FilePath.ofText_join_of_isFileName path hfile)
  exact setOut_congr habsolute

theorem follow_join (hleads : tree.Leads current path place) :
    tree.follow current (.ofText (PathText.join path file)) = arrive place (some file) := by
  obtain ⟨start, hstart, hwalk⟩ := hleads
  rw [follow_eq_bind, setOut_join hfile, hstart, FilePath.ofText_join_of_isFileName path hfile]
  change (tree.walk start _ >>= _) = _
  rw [hwalk]
  rfl

/-- What resolves to a file in a directory is at the place that the directory's path leads to. -/
theorem resolve_join_eq_ok_iff :
    tree.resolve current (PathText.join path file) = .ok location ↔
      '\x00' ∉ (PathText.join path file).toList ∧
      (PathText.join path file).utf8ByteSize ≤ maxPathSize ∧
      file.utf8ByteSize ≤ maxNameSize ∧
      ∃ place, tree.Leads current path place ∧ location = place ++ [file] := by
  rw [resolve_eq_ok_iff]
  constructor
  · rintro ⟨hnul, -, hsize, hfollow⟩
    obtain ⟨start, parent, hstart, hparent, harrive⟩ := follow_eq_ok_iff.1 hfollow
    rw [setOut_join hfile] at hstart
    rw [FilePath.ofText_join_of_isFileName path hfile] at hparent harrive
    obtain ⟨hshort, hlocation⟩ := arrive_eq_ok_iff.1 harrive
    exact ⟨hnul, hsize, hshort, parent, ⟨start, hstart, hparent⟩, hlocation⟩
  · rintro ⟨hnul, hsize, hshort, place, hleads, hlocation⟩
    refine ⟨hnul, ?_, hsize, ?_⟩
    · intro hempty
      have hlast := congrArg FilePath.last (FilePath.ofText_join_of_isFileName path hfile)
      rw [hempty] at hlast
      cases hlast
    · rw [follow_join hfile hleads]
      exact arrive_eq_ok_iff.2 ⟨hshort, hlocation⟩

end Join

/-- Files of different names are at different places, whatever directories they are in. -/
theorem file_eq_of_resolve_join {there : Location} {outer inner : String}
    (hfile : FilePath.IsFileName file) (hinner : FilePath.IsFileName inner)
    (hresolve : tree.resolve current (PathText.join path file) = .ok location)
    (hsame : other.resolve there (PathText.join outer inner) = .ok location) : file = inner := by
  obtain ⟨-, -, -, place, -, hplace⟩ := (resolve_join_eq_ok_iff hfile).1 hresolve
  obtain ⟨-, -, -, home, -, hhome⟩ := (resolve_join_eq_ok_iff hinner).1 hsame
  have hends : place ++ [file] = home ++ [inner] := hplace.symm.trans hhome
  exact List.singleton_inj.1 (List.append_inj_right' hends rfl)

/-- The directory around a file stands wherever the path of the file leads through it. -/
theorem createAll_containing_join (hfile : FilePath.IsFileName file) (hslash : '/' ∉ file.toList)
    {last : Char} {front : List Char} (hlast : file.toList = front ++ [last]) (hpoint : last ≠ '.')
    (hresolve : tree.resolve current (PathText.join path file) = .ok location) :
    tree.createAll current (PathText.containing (PathText.join path file)) = (.ok (), tree) := by
  by_cases hpath : path = ""
  · rw [hpath, PathText.join_empty, PathText.containing_of_not_mem hslash hlast hpoint]
    rfl
  obtain ⟨hnul, hsize, -, place, hleads, -⟩ := (resolve_join_eq_ok_iff hfile).1 hresolve
  have hshort := FilePath.shortens_containing_join hpath hslash hlast hpoint
  have houter := (leads_congr hshort.head?_eq hshort.steps_eq).2 hleads
  have hstarts := hshort.isPrefix.trans
    (PathText.isPrefix_join path (PathText.head?_ne_slash hslash))
  have hfound := houter.resolve_eq_ok (fun hmem => hnul (hstarts.subset hmem)) hshort.ne_empty
    (Nat.le_trans (PathText.utf8ByteSize_le_of_isPrefix hstarts) hsize)
  exact createAll_of_isDirectory (isDirectory_iff.2 ⟨place, hfound, houter.node?⟩)

end DuplexAudio.FileTree
