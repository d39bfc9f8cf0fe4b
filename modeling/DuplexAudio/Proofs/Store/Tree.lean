import DuplexAudio.Proofs.Fallible
import DuplexAudio.Store.FileTree

/-!
What the operations on a file tree keep. None of them takes a directory away, so a path that led
somewhere goes on to lead there, and a file that was written is found again.
-/

namespace DuplexAudio.FileTree

variable {tree other : FileTree} {current location : Location} {node : FileNode}

/-! ### Nodes -/

theorem node?_of_ne_nil (hlocation : location ≠ []) (tree : FileTree) :
    tree.node? location = tree.nodes.lookup location := by
  have hempty : location.isEmpty = false := by simpa using hlocation
  rw [node?, hempty]
  rfl

theorem lookup_remove_self (location : Location) (tree : FileTree) :
    (tree.remove location).nodes.lookup location = none := by
  rw [List.lookup_eq_none_iff]
  intro entry hmem
  have hne : entry.1 ≠ location := by simpa using (List.mem_filter.1 hmem).2
  exact bne_iff_ne.2 hne.symm

theorem lookup_remove_of_ne {there : Location} (hne : there ≠ location) (tree : FileTree) :
    (tree.remove location).nodes.lookup there = tree.nodes.lookup there := by
  rw [remove]
  induction tree.nodes with
  | nil => rfl
  | cons entry nodes ih =>
    obtain ⟨place, node⟩ := entry
    rw [List.filter_cons, List.lookup_cons]
    split
    · rw [List.lookup_cons, ih]
    · next hplace =>
      obtain rfl : place = location := by simpa using hplace
      rw [ih, beq_eq_false_iff_ne.2 hne]

theorem node?_insert_self (hlocation : location ≠ []) (tree : FileTree) (node : FileNode) :
    (tree.insert location node).node? location = some node := by
  rw [node?_of_ne_nil hlocation, insert, List.lookup_append, lookup_remove_self]
  simp

theorem node?_insert_of_ne {there : Location} (hne : there ≠ location) (tree : FileTree)
    (node : FileNode) : (tree.insert location node).node? there = tree.node? there := by
  by_cases hroot : there = []
  · rw [hroot]
    rfl
  rw [node?_of_ne_nil hroot, node?_of_ne_nil hroot, insert, List.lookup_append,
    lookup_remove_of_ne hne, List.lookup_cons, beq_eq_false_iff_ne.2 hne]
  exact Option.or_none

theorem node?_remove_of_ne {there : Location} (hne : there ≠ location) (tree : FileTree) :
    (tree.remove location).node? there = tree.node? there := by
  by_cases hroot : there = []
  · rw [hroot]
    rfl
  rw [node?_of_ne_nil hroot, node?_of_ne_nil hroot, lookup_remove_of_ne hne]

/-! ### Directories -/

/-- Every directory of the first tree is one of the second. -/
def Keeps (tree other : FileTree) : Prop :=
  ∀ location, tree.node? location = some .directory → other.node? location = some .directory

theorem Keeps.refl (tree : FileTree) : tree.Keeps tree := fun _ => id

theorem keeps_insert (hnode : tree.node? location ≠ some .directory) (node : FileNode) :
    tree.Keeps (tree.insert location node) := by
  intro there hdirectory
  rw [node?_insert_of_ne _ tree node, hdirectory]
  rintro rfl
  exact hnode hdirectory

theorem keeps_remove (hnode : tree.node? location ≠ some .directory) :
    tree.Keeps (tree.remove location) := by
  intro there hdirectory
  rw [node?_remove_of_ne _ tree, hdirectory]
  rintro rfl
  exact hnode hdirectory

/-! ### Ways -/

theorem walk_cons_of_ne {name : String} (hname : name ≠ "..") (start : Location)
    (names : List String) :
    tree.walk start (name :: names) =
      if maxNameSize < name.utf8ByteSize then .error .invalidFilename
      else match tree.node? (start ++ [name]) with
        | none => .error .notFound
        | some (.file _) => .error .notADirectory
        | some .directory => tree.walk (start ++ [name]) names :=
  walk.eq_3 tree start name names hname

theorem walk_cons_eq_ok_iff {name : String} (hname : name ≠ "..") {start : Location}
    {names : List String} :
    tree.walk start (name :: names) = .ok location ↔
      name.utf8ByteSize ≤ maxNameSize ∧ tree.node? (start ++ [name]) = some .directory ∧
        tree.walk (start ++ [name]) names = .ok location := by
  rw [walk_cons_of_ne hname]
  by_cases hsize : maxNameSize < name.utf8ByteSize
  · simp [hsize, Nat.not_le.2 hsize]
  · rw [if_neg hsize]
    cases hnode : tree.node? (start ++ [name]) with
    | none => simp
    | some node => cases node <;> simp [Nat.not_lt.1 hsize]

theorem walk_append {start middle : Location} {names : List String} (rest : List String)
    (hwalk : tree.walk start names = .ok middle) :
    tree.walk start (names ++ rest) = tree.walk middle rest := by
  induction names generalizing start with
  | nil =>
    cases hwalk
    rfl
  | cons name names ih =>
    by_cases hname : name = ".."
    · subst hname
      exact ih hwalk
    · obtain ⟨hsize, hnode, hrest⟩ := (walk_cons_eq_ok_iff hname).1 hwalk
      rw [List.cons_append, walk_cons_of_ne hname, if_neg (Nat.not_lt.2 hsize), hnode]
      exact ih hrest

theorem walk_append_eq_ok_iff {start : Location} {names rest : List String} :
    tree.walk start (names ++ rest) = .ok location ↔
      ∃ middle, tree.walk start names = .ok middle ∧ tree.walk middle rest = .ok location := by
  constructor
  · intro hwalk
    induction names generalizing start with
    | nil => exact ⟨start, rfl, hwalk⟩
    | cons name names ih =>
      by_cases hname : name = ".."
      · subst hname
        exact ih hwalk
      · obtain ⟨hsize, hnode, hrest⟩ := (walk_cons_eq_ok_iff hname).1 hwalk
        obtain ⟨middle, hmiddle, hlast⟩ := ih hrest
        exact ⟨middle, (walk_cons_eq_ok_iff hname).2 ⟨hsize, hnode, hmiddle⟩, hlast⟩
  · rintro ⟨middle, hnames, hrest⟩
    rw [walk_append rest hnames, hrest]

/-- All that the location lies in, and the location itself, are directories. -/
def Grounded (tree : FileTree) (location : Location) : Prop :=
  ∀ front, front <+: location → tree.node? front = some .directory

theorem grounded_root (tree : FileTree) : tree.Grounded [] := by
  intro front hfront
  rw [List.prefix_nil.1 hfront]
  rfl

/-- Walking along a path never leaves the directories. -/
theorem Grounded.walk {start : Location} {names : List String} (hstart : tree.Grounded start)
    (hwalk : tree.walk start names = .ok location) : tree.Grounded location := by
  induction names generalizing start with
  | nil =>
    cases hwalk
    exact hstart
  | cons name names ih =>
    by_cases hname : name = ".."
    · subst hname
      exact ih (fun front hfront => hstart front (hfront.trans (List.dropLast_prefix start))) hwalk
    · obtain ⟨-, hnode, hrest⟩ := (walk_cons_eq_ok_iff hname).1 hwalk
      refine ih (fun front hfront => ?_) hrest
      rcases List.prefix_concat_iff.1 hfront with rfl | hbefore
      · exact hnode
      · exact hstart front hbefore

/-- Where a path sets out from. -/
def setOut (tree : FileTree) (current : Location) (path : FilePath) : Except FileFault Location :=
  if path.absolute then .ok [] else tree.walk [] current

/-- Where a path ends whose way leads to `parent`. -/
def arrive (parent : Location) (last : Option String) : Except FileFault Location :=
  match last with
  | none => .ok parent
  | some name =>
    if maxNameSize < name.utf8ByteSize then .error .invalidFilename else .ok (parent ++ [name])

theorem follow_eq_bind (tree : FileTree) (current : Location) (path : FilePath) :
    tree.follow current path =
      tree.setOut current path >>= fun start =>
        tree.walk start path.way >>= fun parent => arrive parent path.last := by
  have harrive : ∀ parent, arrive parent path.last = (do
      match path.last with
      | none => return parent
      | some name =>
        if maxNameSize < name.utf8ByteSize then throw .invalidFilename
        else return parent ++ [name]) := by
    intro parent
    cases path.last <;> rfl
  unfold follow
  cases habsolute : path.absolute <;> simp only [setOut, habsolute, harrive] <;> rfl

theorem follow_eq_ok_iff {path : FilePath} :
    tree.follow current path = .ok location ↔
      ∃ start parent, tree.setOut current path = .ok start ∧
        tree.walk start path.way = .ok parent ∧ arrive parent path.last = .ok location := by
  rw [follow_eq_bind]
  constructor
  · intro hfollow
    obtain ⟨start, hstart, hrest⟩ := exists_of_bind_eq_ok hfollow
    obtain ⟨parent, hparent, harrive⟩ := exists_of_bind_eq_ok hrest
    exact ⟨start, parent, hstart, hparent, harrive⟩
  · rintro ⟨start, parent, hstart, hparent, harrive⟩
    rw [hstart]
    change (tree.walk start _ >>= _) = _
    rw [hparent]
    exact harrive

theorem arrive_eq_ok_iff {parent : Location} {name : String} :
    arrive parent (some name) = .ok location ↔
      name.utf8ByteSize ≤ maxNameSize ∧ location = parent ++ [name] := by
  rw [arrive]
  split
  · next hsize => simp [Nat.not_le.2 hsize]
  · next hsize => simp [Nat.not_lt.1 hsize, eq_comm]

theorem grounded_of_setOut {path : FilePath} {start : Location}
    (hstart : tree.setOut current path = .ok start) : tree.Grounded start := by
  rw [FileTree.setOut] at hstart
  split at hstart
  · cases hstart
    exact grounded_root tree
  · exact (grounded_root tree).walk hstart

theorem resolve_eq {text : String} (hnul : '\x00' ∉ text.toList) (hempty : text ≠ "") :
    tree.resolve current text =
      if maxPathSize < text.utf8ByteSize then .error .invalidFilename
      else tree.follow current (.ofText text) := by
  unfold resolve
  by_cases hsize : maxPathSize < text.utf8ByteSize
  · simp [hnul, hempty, hsize, throw, throwThe, MonadExceptOf.throw, bind, Except.bind]
  · simp [hnul, hempty, hsize]

theorem resolve_eq_ok_iff {text : String} :
    tree.resolve current text = .ok location ↔
      '\x00' ∉ text.toList ∧ text ≠ "" ∧ text.utf8ByteSize ≤ maxPathSize ∧
        tree.follow current (.ofText text) = .ok location := by
  by_cases hnul : '\x00' ∈ text.toList
  · simp [resolve, hnul, throw, throwThe, MonadExceptOf.throw, bind, Except.bind]
  by_cases hempty : text = ""
  · simp [resolve, hempty, throw, throwThe, MonadExceptOf.throw, bind, Except.bind]
  rw [resolve_eq hnul hempty]
  by_cases hsize : maxPathSize < text.utf8ByteSize
  · simp [hsize, Nat.not_le.2 hsize]
  · simp [hnul, hempty, hsize, Nat.not_lt.1 hsize]

namespace Keeps

variable (hkeeps : tree.Keeps other)

include hkeeps

theorem walk_eq_ok {start : Location} {names : List String}
    (hwalk : tree.walk start names = .ok location) : other.walk start names = .ok location := by
  induction names generalizing start with
  | nil => exact hwalk
  | cons name names ih =>
    by_cases hname : name = ".."
    · subst hname
      exact ih hwalk
    · obtain ⟨hsize, hnode, hrest⟩ := (walk_cons_eq_ok_iff hname).1 hwalk
      exact (walk_cons_eq_ok_iff hname).2 ⟨hsize, hkeeps _ hnode, ih hrest⟩

theorem setOut_eq_ok {path : FilePath} {start : Location}
    (hstart : tree.setOut current path = .ok start) : other.setOut current path = .ok start := by
  unfold setOut at hstart ⊢
  split at hstart
  · next habsolute => rw [if_pos habsolute, hstart]
  · next habsolute => rw [if_neg habsolute, hkeeps.walk_eq_ok hstart]

/-- A path that leads somewhere goes on to lead there. -/
theorem resolve_eq_ok {text : String} (hresolve : tree.resolve current text = .ok location) :
    other.resolve current text = .ok location := by
  obtain ⟨hnul, hempty, hsize, hfollow⟩ := resolve_eq_ok_iff.1 hresolve
  obtain ⟨start, parent, hstart, hparent, harrive⟩ := follow_eq_ok_iff.1 hfollow
  exact resolve_eq_ok_iff.2 ⟨hnul, hempty, hsize, follow_eq_ok_iff.2
    ⟨start, parent, hkeeps.setOut_eq_ok hstart, hkeeps.walk_eq_ok hparent, harrive⟩⟩

end Keeps

/-! ### Files -/

section Files

variable {text : String} {content : ByteArray}

theorem find_of_resolve (hresolve : tree.resolve current text = .ok location)
    (hslash : (FilePath.ofText text).slash = false) :
    tree.find current text = .ok (location, tree.node? location) := by
  unfold find
  rw [hresolve]
  cases hnode : tree.node? location with
  | none => simp [bind, Except.bind, hnode, pure, Except.pure]
  | some node => cases node <;> simp [bind, Except.bind, hnode, hslash, pure, Except.pure]

theorem find_directory_of_resolve (hresolve : tree.resolve current text = .ok location)
    (hnode : tree.node? location = some .directory) :
    tree.find current text = .ok (location, some .directory) := by
  unfold find
  rw [hresolve]
  simp [bind, Except.bind, hnode, pure, Except.pure]

theorem find_of_resolve_eq_error {fault : FileFault}
    (hresolve : tree.resolve current text = .error fault) :
    tree.find current text = .error fault := by
  unfold find
  rw [hresolve]
  rfl

theorem resolve_of_find {found : Option FileNode}
    (hfind : tree.find current text = .ok (location, found)) :
    tree.resolve current text = .ok location ∧ tree.node? location = found := by
  cases hresolve : tree.resolve current text with
  | error fault =>
    rw [find_of_resolve_eq_error hresolve] at hfind
    cases hfind
  | ok place =>
    unfold find at hfind
    rw [hresolve] at hfind
    cases hnode : tree.node? place with
    | none =>
      simp [bind, Except.bind, hnode, pure, Except.pure] at hfind
      simp [← hfind.1, hnode, hfind.2]
    | some node =>
      cases node with
      | directory =>
        simp [bind, Except.bind, hnode, pure, Except.pure] at hfind
        simp [← hfind.1, hnode, hfind.2]
      | file content =>
        cases hslash : (FilePath.ofText text).slash <;>
          simp [bind, Except.bind, hnode, hslash, pure, Except.pure, throw, throwThe,
            MonadExceptOf.throw] at hfind
        simp [← hfind.1, hnode, hfind.2]

theorem doesExist_iff :
    tree.doesExist current text = true ↔
      ∃ location node, tree.find current text = .ok (location, some node) := by
  rw [doesExist]
  constructor
  · intro hexists
    split at hexists
    · next location node hfind => exact ⟨location, node, hfind⟩
    · cases hexists
  · rintro ⟨location, node, hfind⟩
    rw [hfind]

theorem write_eq_ok_iff {written : FileTree} :
    tree.write current text content = .ok written ↔
      ∃ location, tree.resolve current text = .ok location ∧
        tree.node? location ≠ some .directory ∧ (FilePath.ofText text).slash = false ∧
        written = tree.insert location (.file content) := by
  unfold write find
  cases hresolve : tree.resolve current text with
  | error fault => simp [bind, Except.bind]
  | ok location =>
    cases hslash : (FilePath.ofText text).slash <;> rcases hnode : tree.node? location with _ | _ | _ <;>
      simp [bind, Except.bind, hnode, pure, Except.pure, throw, throwThe,
        MonadExceptOf.throw, eq_comm]

/-- Whether a file can be written does not depend on what is written into it. -/
theorem exists_write_of_isOk (hwrites : (tree.write current text content).isOk = true)
    (other : ByteArray) : ∃ written, tree.write current text other = .ok written := by
  cases hwrite : tree.write current text content with
  | error fault =>
    rw [hwrite] at hwrites
    cases hwrites
  | ok written =>
    obtain ⟨location, hresolve, hnode, hslash, -⟩ := write_eq_ok_iff.1 hwrite
    exact ⟨_, write_eq_ok_iff.2 ⟨location, hresolve, hnode, hslash, rfl⟩⟩

theorem read_eq_ok_iff :
    tree.read current text = .ok content ↔
      ∃ location, tree.resolve current text = .ok location ∧
        tree.node? location = some (.file content) ∧ (FilePath.ofText text).slash = false := by
  unfold read find
  cases hresolve : tree.resolve current text with
  | error fault => simp [bind, Except.bind]
  | ok location =>
    cases hslash : (FilePath.ofText text).slash <;>
      rcases hnode : tree.node? location with _ | _ | _ <;>
        simp [bind, Except.bind, hnode, pure, Except.pure, throw, throwThe, MonadExceptOf.throw]

theorem doesExist_of_read (hread : tree.read current text = .ok content) :
    tree.doesExist current text = true := by
  obtain ⟨location, hresolve, hnode, hslash⟩ := read_eq_ok_iff.1 hread
  exact doesExist_iff.2 ⟨location, _, hnode ▸ find_of_resolve hresolve hslash⟩

/-- **Written and read again.** What a write put into a file is what a read finds. -/
theorem read_write {written : FileTree} (hwrite : tree.write current text content = .ok written) :
    written.read current text = .ok content := by
  obtain ⟨location, hresolve, hnode, hslash, rfl⟩ := write_eq_ok_iff.1 hwrite
  have hroot : location ≠ [] := by
    rintro rfl
    exact hnode rfl
  exact read_eq_ok_iff.2 ⟨location, (keeps_insert hnode _).resolve_eq_ok hresolve,
    node?_insert_self hroot tree _, hslash⟩

/-- Writing to one file leaves every other one as it was. -/
theorem read_write_of_ne {written : FileTree} {file : String} {kept : ByteArray}
    (hread : tree.read current file = .ok kept)
    (hwrite : tree.write current text content = .ok written)
    (hne : ∀ location, tree.resolve current file = .ok location →
      tree.resolve current text ≠ .ok location) :
    written.read current file = .ok kept := by
  obtain ⟨location, hfile, hkept, hslash⟩ := read_eq_ok_iff.1 hread
  obtain ⟨target, htext, hnode, -, rfl⟩ := write_eq_ok_iff.1 hwrite
  refine read_eq_ok_iff.2 ⟨location, (keeps_insert hnode _).resolve_eq_ok hfile, ?_, hslash⟩
  rw [node?_insert_of_ne, hkept]
  rintro rfl
  exact hne location hfile htext

theorem copy_of_read {target : String} (hread : tree.read current text = .ok content) :
    tree.copy current text target = tree.write current target content := by
  obtain ⟨location, hresolve, hnode, hslash⟩ := read_eq_ok_iff.1 hread
  rw [copy, find_of_resolve hresolve hslash, hnode]
  rfl

theorem readText_eq_ok_iff {content : String} :
    tree.readText current text = .ok content ↔
      ∃ bytes, tree.read current text = .ok bytes ∧ String.fromUTF8? bytes = some content := by
  rw [readText]
  cases tree.read current text with
  | error fault => simp [bind, Except.bind]
  | ok bytes =>
    cases hdecode : String.fromUTF8? bytes <;>
      simp [bind, Except.bind, hdecode, pure, Except.pure, throw, throwThe, MonadExceptOf.throw]

theorem fromUTF8?_toUTF8 (content : String) :
    String.fromUTF8? content.toUTF8 = some content := by
  rw [String.fromUTF8?, String.toUTF8_eq_toByteArray, dif_pos content.isValidUTF8]
  rfl

theorem readText_of_read {content : String}
    (hread : tree.read current text = .ok content.toUTF8) :
    tree.readText current text = .ok content :=
  readText_eq_ok_iff.2 ⟨content.toUTF8, hread, fromUTF8?_toUTF8 content⟩

theorem readText_write {written : FileTree} {content : String}
    (hwrite : tree.write current text content.toUTF8 = .ok written) :
    written.readText current text = .ok content :=
  readText_of_read (read_write hwrite)

end Files

/-! ### Making directories -/

/-- Every node of the first tree is one of the second. -/
def Extends (tree other : FileTree) : Prop :=
  ∀ location node, tree.node? location = some node → other.node? location = some node

theorem Extends.refl (tree : FileTree) : tree.Extends tree := fun _ _ => id

theorem Extends.trans {third : FileTree} (hfirst : tree.Extends other)
    (hsecond : other.Extends third) : tree.Extends third :=
  fun location node hnode => hsecond location node (hfirst location node hnode)

theorem Extends.keeps (hextends : tree.Extends other) : tree.Keeps other :=
  fun location => hextends location .directory

theorem extends_insert (hnew : tree.node? location = none) (node : FileNode) :
    tree.Extends (tree.insert location node) := by
  intro there present hpresent
  rw [node?_insert_of_ne _ tree node, hpresent]
  rintro rfl
  rw [hnew] at hpresent
  cases hpresent

/-- Directories have been made where paths led and nothing was; nothing else has happened. -/
inductive GainsDirectories (tree : FileTree) : FileTree → Prop
  | refl : GainsDirectories tree tree
  | make {other : FileTree} {current location : Location} {text : String}
    (hgains : GainsDirectories tree other) (hresolve : other.resolve current text = .ok location)
    (hnew : other.node? location = none) :
    GainsDirectories tree (other.insert location .directory)

namespace GainsDirectories

variable {third : FileTree}

theorem trans (hfirst : tree.GainsDirectories other) (hsecond : other.GainsDirectories third) :
    tree.GainsDirectories third := by
  induction hsecond with
  | refl => exact hfirst
  | make _ hresolve hnew ih => exact ih.make hresolve hnew

theorem toExtends (hgains : tree.GainsDirectories other) : tree.Extends other := by
  induction hgains with
  | refl => exact .refl tree
  | make _ _ hnew ih => exact ih.trans (extends_insert hnew .directory)

theorem node?_file_iff (hgains : tree.GainsDirectories other) {content : ByteArray} :
    other.node? location = some (.file content) ↔ tree.node? location = some (.file content) := by
  induction hgains with
  | refl => exact Iff.rfl
  | @make other _ place _ _ _ hnew ih =>
    rw [← ih]
    by_cases hplace : location = place
    · subst hplace
      have hroot : location ≠ [] := by
        rintro rfl
        cases hnew
      rw [node?_insert_self hroot, hnew]
      simp
    · rw [node?_insert_of_ne hplace]

end GainsDirectories

section Making

variable {text : String} {made : FileTree}

theorem isDirectory_iff :
    tree.isDirectory current text = true ↔
      ∃ location, tree.resolve current text = .ok location ∧
        tree.node? location = some .directory := by
  rw [isDirectory]
  constructor
  · intro hdirectory
    split at hdirectory
    · next location hfind => exact ⟨location, resolve_of_find hfind⟩
    · cases hdirectory
  · rintro ⟨location, hresolve, hnode⟩
    rw [find_directory_of_resolve hresolve hnode]

theorem Keeps.isDirectory (hkeeps : tree.Keeps other)
    (hdirectory : tree.isDirectory current text = true) : other.isDirectory current text = true := by
  obtain ⟨location, hresolve, hnode⟩ := isDirectory_iff.1 hdirectory
  exact isDirectory_iff.2 ⟨location, hkeeps.resolve_eq_ok hresolve, hkeeps _ hnode⟩

theorem makeDirectory_eq_ok_iff :
    tree.makeDirectory current text = .ok made ↔
      ∃ location, tree.resolve current text = .ok location ∧ tree.node? location = none ∧
        made = tree.insert location .directory := by
  unfold makeDirectory
  cases hresolve : tree.resolve current text with
  | error fault => simp [bind, Except.bind]
  | ok location =>
    cases hnode : tree.node? location <;>
      simp [bind, Except.bind, hnode, pure, Except.pure, throw, throwThe, MonadExceptOf.throw, eq_comm]

theorem ensureDirectory_eq_ok (hensure : tree.ensureDirectory current text = .ok made) :
    tree.GainsDirectories made ∧ made.isDirectory current text = true := by
  rw [ensureDirectory] at hensure
  split at hensure
  · next hmake =>
    cases hensure
    obtain ⟨location, hresolve, hnew, rfl⟩ := makeDirectory_eq_ok_iff.1 hmake
    have hgains : tree.GainsDirectories (tree.insert location .directory) :=
      .make .refl hresolve hnew
    have hroot : location ≠ [] := by
      rintro rfl
      cases hnew
    exact ⟨hgains, isDirectory_iff.2 ⟨location, hgains.toExtends.keeps.resolve_eq_ok hresolve,
      node?_insert_self hroot tree .directory⟩⟩
  · split at hensure
    · next hdirectory =>
      cases hensure
      exact ⟨.refl, hdirectory⟩
    · cases hensure

theorem ensureDirectory_of_isDirectory (hdirectory : tree.isDirectory current text = true) :
    tree.ensureDirectory current text = .ok tree := by
  obtain ⟨location, hresolve, hnode⟩ := isDirectory_iff.1 hdirectory
  have hmake : tree.makeDirectory current text = .error .alreadyExists := by
    unfold makeDirectory
    rw [hresolve]
    simp [bind, Except.bind, hnode, throw, throwThe, MonadExceptOf.throw]
  rw [ensureDirectory, hmake]
  exact if_pos hdirectory

/-- Making directories takes nothing away, and if it succeeds, the directory is there. -/
theorem ensureDirectories_spec (depth : Nat) (tree : FileTree) (current : Location)
    (text : String) :
    tree.GainsDirectories (ensureDirectories depth tree current text).2 ∧
      ((ensureDirectories depth tree current text).1 = .ok () → text ≠ "" →
        (ensureDirectories depth tree current text).2.isDirectory current text = true) := by
  induction depth generalizing tree text with
  | zero =>
    unfold ensureDirectories
    split
    · next hempty => exact ⟨.refl, fun _ hne => absurd (String.isEmpty_iff.1 hempty) hne⟩
    split
    · next hensure =>
      obtain ⟨hgains, hdirectory⟩ := ensureDirectory_eq_ok hensure
      exact ⟨hgains, fun _ _ => hdirectory⟩
    · next heq => cases heq
    · exact ⟨.refl, nofun⟩
  | succ depth ih =>
    unfold ensureDirectories
    split
    · next hempty => exact ⟨.refl, fun _ hne => absurd (String.isEmpty_iff.1 hempty) hne⟩
    split
    · next hensure =>
      obtain ⟨hgains, hdirectory⟩ := ensureDirectory_eq_ok hensure
      exact ⟨hgains, fun _ _ => hdirectory⟩
    · next heq =>
      cases heq
      obtain ⟨houter, -⟩ := ih tree (PathText.containing text)
      split
      · next hfailed =>
        rw [hfailed] at houter
        exact ⟨houter, nofun⟩
      · next hmade =>
        rw [hmade] at houter
        split
        · next hensure =>
          obtain ⟨hgains, hdirectory⟩ := ensureDirectory_eq_ok hensure
          exact ⟨houter.trans hgains, fun _ _ => hdirectory⟩
        · exact ⟨houter, nofun⟩
    · exact ⟨.refl, nofun⟩

theorem gains_of_createAll {outcome : Except FileFault Unit}
    (hcreate : tree.createAll current text = (outcome, made)) : tree.GainsDirectories made := by
  obtain ⟨hgains, -⟩ := ensureDirectories_spec text.length tree current text
  rwa [← createAll, hcreate] at hgains

theorem createAll_of_isDirectory (hdirectory : tree.isDirectory current text = true) :
    tree.createAll current text = (.ok (), tree) := by
  rw [createAll, ensureDirectories.eq_def, ensureDirectory_of_isDirectory hdirectory]
  split <;> rfl

/-- Once they are made, directories need not be made again. -/
theorem createAll_again (hcreate : tree.createAll current text = (.ok (), made))
    (hkeeps : made.Keeps other) : other.createAll current text = (.ok (), other) := by
  by_cases hempty : text = ""
  · rw [hempty]
    rfl
  have hmade := (ensureDirectories_spec text.length tree current text).2
  rw [← createAll, hcreate] at hmade
  exact createAll_of_isDirectory (hkeeps.isDirectory (hmade rfl hempty))

end Making

/-! ### Listings -/

section Children

variable {directory : Location} {file : String}

theorem child_eq_some_iff {place : Location} :
    (if place.dropLast = directory then place.getLast? else none) = some file ↔
      place = directory ++ [file] := by
  constructor
  · intro hchild
    split at hchild
    · next hdrop =>
      obtain ⟨front, rfl⟩ := List.getLast?_eq_some_iff.1 hchild
      rw [List.dropLast_concat] at hdrop
      rw [hdrop]
    · cases hchild
  · rintro rfl
    rw [List.dropLast_concat, if_pos rfl, List.getLast?_concat]

theorem children_remove (tree : FileTree) (directory : Location) (file : String) :
    (tree.remove (directory ++ [file])).children directory =
      (tree.children directory).filter (· != file) := by
  rw [children, children, remove, List.filterMap_filter, List.filter_filterMap]
  congr 1
  funext (place, node)
  cases hchild : if place.dropLast = directory then place.getLast? else none with
  | none => simp [hchild]
  | some name =>
    obtain rfl := child_eq_some_iff.1 hchild
    by_cases hname : name = file <;> simp [hname, Option.filter]

theorem children_insert (tree : FileTree) (directory : Location) (file : String)
    (node : FileNode) :
    (tree.insert (directory ++ [file]) node).children directory =
      (tree.children directory).filter (· != file) ++ [file] := by
  rw [← children_remove, children, insert, List.filterMap_append]
  simp [children]

theorem mem_children_iff :
    file ∈ tree.children directory ↔ ∃ node, tree.node? (directory ++ [file]) = some node := by
  rw [node?_of_ne_nil (by simp), children, List.mem_filterMap]
  constructor
  · rintro ⟨⟨place, node⟩, hmem, hchild⟩
    obtain rfl := child_eq_some_iff.1 hchild
    rw [← Option.isSome_iff_exists, List.lookup_isSome_iff]
    exact ⟨_, hmem, beq_self_eq_true _⟩
  · rintro ⟨node, hnode⟩
    obtain ⟨before, after, hnodes, -⟩ := List.lookup_eq_some_iff.1 hnode
    exact ⟨(directory ++ [file], node), by simp [hnodes], child_eq_some_iff.2 rfl⟩

theorem list_eq_ok_iff {text : String} {files : List String} :
    tree.list current text = .ok files ↔
      ∃ location, tree.resolve current text = .ok location ∧
        tree.node? location = some .directory ∧ files = tree.children location := by
  constructor
  · intro hlist
    unfold list at hlist
    obtain ⟨⟨location, found⟩, hfind, hfound⟩ := exists_of_bind_eq_ok hlist
    obtain ⟨hresolve, hnode⟩ := resolve_of_find hfind
    split at hfound
    · next heq =>
      cases heq
      cases hfound
      exact ⟨location, hresolve, hnode, rfl⟩
    all_goals cases hfound
  · rintro ⟨location, hresolve, hnode, rfl⟩
    rw [list, find_directory_of_resolve hresolve hnode]
    rfl

end Children

end DuplexAudio.FileTree
