import DuplexAudio.Store.ProfileDirectory
import Mathlib.Data.List.Basic

/-!
Paths of the files in one directory: they share their way, and differ in the name at its end. The
name of a profile comes back from its file name, whatever points it has in it.
-/

namespace DuplexAudio

namespace PathText

theorem splitSlashes_ne_nil (text : List Char) : splitSlashes text ≠ [] := by
  unfold splitSlashes
  split
  · simp
  · split
    · simp
    · split <;> simp

theorem splitSlashes_append (first second : List Char) :
    splitSlashes (first ++ '/' :: second) = splitSlashes first ++ splitSlashes second := by
  induction first with
  | nil => simp [splitSlashes]
  | cons c first ih =>
    rw [List.cons_append, splitSlashes, splitSlashes]
    split
    · rw [ih, List.cons_append]
    · rw [ih]
      obtain ⟨stretch, others, hcons⟩ := List.exists_cons_of_ne_nil (splitSlashes_ne_nil first)
      rw [hcons]
      rfl

theorem splitSlashes_of_not_mem {text : List Char} (hslash : '/' ∉ text) :
    splitSlashes text = [text] := by
  induction text with
  | nil => rfl
  | cons c text ih =>
    rw [List.mem_cons, not_or] at hslash
    rw [splitSlashes, if_neg (Ne.symm hslash.1), ih hslash.2]

theorem slash_not_mem_of_mem_splitSlashes {text stretch : List Char}
    (hmem : stretch ∈ splitSlashes text) : '/' ∉ stretch := by
  induction text generalizing stretch with
  | nil =>
    rw [List.mem_singleton.1 hmem]
    exact List.not_mem_nil
  | cons c text ih =>
    rw [splitSlashes] at hmem
    split at hmem
    · rcases List.mem_cons.1 hmem with rfl | hrest
      · exact List.not_mem_nil
      · exact ih hrest
    · next hslash =>
      obtain ⟨first, others, hcons⟩ := List.exists_cons_of_ne_nil (splitSlashes_ne_nil text)
      rw [hcons] at hmem ih
      rcases List.mem_cons.1 hmem with rfl | hrest
      · rw [List.mem_cons, not_or]
        exact ⟨Ne.symm hslash, ih List.mem_cons_self⟩
      · exact ih (List.mem_cons_of_mem _ hrest)

/-- The name of a file is what stands before its extension, even if the name has points itself. -/
theorem splitExtension_append {stem extension : List Char} (hstem : stem ≠ [])
    (hextension : '.' ∉ extension) (hne : extension ≠ []) :
    splitExtension (stem ++ '.' :: extension) = some (stem, extension) := by
  have htake : ((stem ++ '.' :: extension).reverse.takeWhile (· != '.')).reverse = extension := by
    rw [List.reverse_append, List.reverse_cons, List.append_assoc, List.takeWhile_append_of_pos]
    · simp
    · intro c hmem
      rw [List.mem_reverse] at hmem
      rw [bne_iff_ne]
      rintro rfl
      exact hextension hmem
  have hlength : (stem ++ '.' :: extension).length - extension.length - 1 = stem.length := by
    simp
    omega
  have hdots : stem ++ '.' :: extension ≠ ['.', '.'] := by
    intro heq
    have hstemLength := List.length_pos_iff.2 hstem
    have hextensionLength := List.length_pos_iff.2 hne
    have htotal := congrArg List.length heq
    simp only [List.length_append, List.length_cons, List.length_nil] at htotal
    omega
  unfold splitExtension
  simp only [htake, hlength, List.take_left]
  simp [hstem, hdots]

theorem stem_of_splitExtension {name stem extension : List Char}
    (hsplit : splitExtension name = some (stem, extension)) : stem ≠ [] ∧ stem <+: name := by
  unfold splitExtension at hsplit
  simp only at hsplit
  split at hsplit
  · next hparts =>
    obtain ⟨rfl, -⟩ := Prod.mk.inj (Option.some.inj hsplit)
    simp only [Bool.and_eq_true, Bool.not_eq_true', List.isEmpty_eq_false_iff] at hparts
    exact ⟨hparts.1.2, List.take_prefix _ _⟩
  · cases hsplit

theorem trimReversed_suffix (text : List Char) : trimReversed text <:+ text := by
  fun_induction trimReversed text with
  | case1 rest ih => exact ih.trans (List.suffix_cons _ _)
  | case2 rest ih => exact ih.trans ((List.suffix_cons _ _).trans (List.suffix_cons _ _))
  | case3 text => exact List.suffix_rfl

/-- Only a path that begins with a slash has no names that are left over. -/
theorem getLast?_of_trimReversed_eq_nil {text : List Char} (hne : text ≠ [])
    (htrim : trimReversed text = []) : text.getLast? = some '/' := by
  fun_induction trimReversed text with
  | case1 rest ih =>
    rcases List.eq_nil_or_concat rest with rfl | ⟨front, last, rfl⟩
    · rfl
    · rw [List.getLast?_cons, ih (by simp) htrim]
      rfl
  | case2 rest ih =>
    rcases List.eq_nil_or_concat rest with rfl | ⟨front, last, rfl⟩
    · rfl
    · rw [List.getLast?_cons, List.getLast?_cons, ih (by simp) htrim]
      rfl
  | case3 text => exact absurd htrim hne

/-- The text up to a file in the directory: one slash stands between the two, if the path does not
bring it along. -/
def base (path : String) : List Char :=
  if path.toList.getLast? = some '/' then path.toList else path.toList ++ ['/']

theorem not_mem_base {path : String} {c : Char} (hslash : c ≠ '/') (hmem : c ∉ path.toList) :
    c ∉ base path := by
  rw [base]
  split
  · exact hmem
  · simp [hmem, hslash]

theorem head?_ne_slash {file : List Char} (hslash : '/' ∉ file) : file.head? ≠ some '/' :=
  fun hhead => hslash (List.mem_of_head? hhead)

theorem join_empty (file : String) : join "" file = file := by
  rw [join]
  split
  · rfl
  · exact String.empty_append

theorem toList_join {path file : String} (hpath : path ≠ "")
    (hrelative : file.toList.head? ≠ some '/') :
    (join path file).toList = base path ++ file.toList := by
  have hhead : (file.toList.head? == some '/') = false := beq_eq_false_iff_ne.2 hrelative
  have hempty : path.isEmpty = false := by simpa using hpath
  rw [join, hhead, hempty, base]
  by_cases hslash : path.toList.getLast? = some '/'
  · simp [hslash]
  · simp [hslash]

/-- A path is its text up to the last slash, and perhaps that slash. -/
theorem exists_base_eq (path : String) :
    ∃ text, base path = text ++ ['/'] ∧ (path.toList = text ∨ path.toList = text ++ ['/']) := by
  rw [base]
  split
  · next hslash =>
    obtain ⟨text, htext⟩ := List.getLast?_eq_some_iff.1 hslash
    exact ⟨text, htext, .inr htext⟩
  · exact ⟨path.toList, rfl, .inl rfl⟩

theorem head?_join {path file : String} (hpath : path ≠ "")
    (hrelative : file.toList.head? ≠ some '/') :
    (join path file).toList.head? = path.toList.head? := by
  have hne : path.toList ≠ [] := by simpa using hpath
  rw [toList_join hpath hrelative, base]
  split
  · exact List.head?_append_of_ne_nil _ hne
  · rw [List.append_assoc, List.head?_append_of_ne_nil _ hne]

theorem join_of_absolute {path file : String} (habsolute : file.toList.head? = some '/') :
    join path file = file := by
  rw [join, habsolute]
  rfl

theorem base_join {path file : String} (hpath : path ≠ "") (hfile : file ≠ "")
    (hrelative : file.toList.head? ≠ some '/') :
    base (join path file) = base path ++ base file := by
  have hne : file.toList ≠ [] := by simpa using hfile
  rw [base, toList_join hpath hrelative, List.getLast?_append_of_ne_nil _ hne]
  conv_rhs => rw [base.eq_1 file]
  split
  · rfl
  · rw [List.append_assoc]

theorem base_join_empty {path : String} (hpath : path ≠ "") : base (join path "") = base path := by
  have hjoin : (join path "").toList = base path := by
    rw [toList_join hpath (by decide)]
    exact List.append_nil _
  obtain ⟨text, hbase, -⟩ := exists_base_eq path
  rw [base, hjoin, hbase, List.getLast?_concat, if_pos rfl]

theorem join_ne_empty {path file : String} (hpath : path ≠ "")
    (hrelative : file.toList.head? ≠ some '/') : join path file ≠ "" := by
  intro hempty
  have hjoin := toList_join hpath hrelative
  obtain ⟨text, hbase, -⟩ := exists_base_eq path
  rw [hempty, hbase] at hjoin
  simp at hjoin

theorem join_assoc (first second third : String) :
    join (join first second) third = join first (join second third) := by
  -- an absolute part replaces all before it, an empty one adds at most a slash
  by_cases hthird : third.toList.head? = some '/'
  · rw [join_of_absolute hthird, join_of_absolute hthird, join_of_absolute hthird]
  by_cases hfirst : first = ""
  · rw [hfirst, join_empty, join_empty]
  by_cases hempty : second = ""
  · have hjoined : join first "" ≠ "" := join_ne_empty hfirst (by decide)
    rw [hempty, join_empty, ← String.toList_inj, toList_join hjoined hthird,
      base_join_empty hfirst, toList_join hfirst hthird]
  by_cases hsecond : second.toList.head? = some '/'
  · have hjoined : (join second third).toList.head? = some '/' := by
      rw [head?_join hempty hthird, hsecond]
    rw [join_of_absolute hsecond, join_of_absolute hjoined]
  have hjoined : (join second third).toList.head? ≠ some '/' := by
    rwa [head?_join hempty hthird]
  have hne : join first second ≠ "" := join_ne_empty hfirst hsecond
  rw [← String.toList_inj, toList_join hne hthird, base_join hfirst hempty hsecond,
    toList_join hfirst hjoined, toList_join hempty hthird, List.append_assoc]

theorem join_append (path file : String) {suffix : String}
    (hsuffix : suffix.toList.head? ≠ some '/') :
    join path file ++ suffix = join path (file ++ suffix) := by
  have hhead : ((file ++ suffix).toList.head? == some '/') =
      (file.toList.head? == some '/') := by
    rw [String.toList_append, List.head?_append]
    cases file.toList.head? with
    | none => exact beq_eq_false_iff_ne.2 hsuffix
    | some c => rfl
  rw [join, join, hhead]
  split
  · rfl
  split
  · exact String.append_assoc
  · exact String.append_assoc

/-- Every path is a name without slashes in the directory that the text before the name stands for. -/
theorem exists_eq_join (text : String) :
    ∃ outer inner, text = join outer inner ∧ '/' ∉ inner.toList := by
  by_cases hslash : '/' ∈ text.toList
  · obtain ⟨name, way, htext, hname⟩ := List.eq_append_cons_of_mem (List.mem_reverse.2 hslash)
    have hinner : '/' ∉ (String.ofList name.reverse).toList := by simpa using hname
    refine ⟨String.ofList (way.reverse ++ ['/']), String.ofList name.reverse, ?_, hinner⟩
    rw [← String.toList_inj, toList_join (by simp) (head?_ne_slash hinner), base,
      ← List.reverse_inj, htext]
    simp
  · exact ⟨"", text, (join_empty text).symm, hslash⟩

theorem trimReversed_base (path : String) :
    trimReversed (base path).reverse = trimReversed path.toList.reverse := by
  rw [base]
  split
  · rfl
  · rw [List.reverse_append, List.reverse_singleton, List.singleton_append, trimReversed]

theorem isPrefix_join (path : String) {file : String} (hrelative : file.toList.head? ≠ some '/') :
    path.toList <+: (join path file).toList := by
  by_cases hpath : path = ""
  · rw [hpath]
    exact List.nil_prefix
  rw [toList_join hpath hrelative, base]
  split
  · exact List.prefix_append _ _
  · rw [List.append_assoc]
    exact List.prefix_append _ _

theorem utf8ByteSize_le_of_isPrefix {first second : String}
    (hstarts : first.toList <+: second.toList) : first.utf8ByteSize ≤ second.utf8ByteSize := by
  obtain ⟨rest, hrest⟩ := hstarts
  have hsecond : second = first ++ String.ofList rest := by
    rw [← String.toList_inj, String.toList_append, String.toList_ofList, hrest]
  rw [hsecond, String.utf8ByteSize_append]
  exact Nat.le_add_right _ _

/-- Without the name of the file at its end a path goes up to the slash before. -/
theorem dropWhile_trimReversed_append {file : List Char} (hfile : '/' ∉ file) {last : Char}
    {front : List Char} (hlast : file = front ++ [last]) (hpoint : last ≠ '.') (outer : List Char) :
    (trimReversed (file.reverse ++ outer)).dropWhile (· != '/') =
      outer.dropWhile (· != '/') := by
  have hslash : last ≠ '/' := by
    rintro rfl
    exact hfile (hlast ▸ List.mem_append_right _ List.mem_cons_self)
  have htrim : trimReversed (file.reverse ++ outer) = file.reverse ++ outer := by
    rw [hlast, List.reverse_append, List.reverse_singleton, List.singleton_append,
      List.cons_append, trimReversed]
    · exact fun _ heq => hslash (List.cons.inj heq).1
    · exact fun _ heq => hpoint (List.cons.inj heq).1
  rw [htrim, List.dropWhile_append_of_pos]
  intro c hmem
  rw [bne_iff_ne]
  rintro rfl
  exact hfile (List.mem_reverse.1 hmem)

/-- A file that is named alone lies in no directory of the path. -/
theorem containing_of_not_mem {file : String} (hfile : '/' ∉ file.toList) {last : Char}
    {front : List Char} (hlast : file.toList = front ++ [last]) (hpoint : last ≠ '.') :
    containing file = "" := by
  have hdrop := dropWhile_trimReversed_append hfile hlast hpoint []
  have hhead : (file.toList.head? == some '/') = false :=
    beq_eq_false_iff_ne.2 (head?_ne_slash hfile)
  rw [List.append_nil, List.dropWhile_nil] at hdrop
  rw [containing, hdrop, hhead]
  rfl

theorem containing_join {path file : String} (hpath : path ≠ "") (hfile : '/' ∉ file.toList)
    {last : Char} {front : List Char} (hlast : file.toList = front ++ [last]) (hpoint : last ≠ '.') :
    containing (join path file) =
      if (trimReversed (base path).reverse).isEmpty && path.toList.head? == some '/' then "/"
      else String.ofList (trimReversed (base path).reverse).reverse := by
  obtain ⟨text, hbase, hcases⟩ := exists_base_eq path
  have hdrop : (trimReversed (join path file).toList.reverse).dropWhile (· != '/') =
      (base path).reverse := by
    rw [toList_join hpath (head?_ne_slash hfile), List.reverse_append,
      dropWhile_trimReversed_append hfile hlast hpoint, hbase]
    simp
  have hhead : (join path file).toList.head? = path.toList.head? :=
    head?_join hpath (head?_ne_slash hfile)
  rw [containing]
  simp only [hdrop, hhead]

end PathText

namespace FilePath

/-- The names that a written path consists of. -/
def written (text : String) : List String :=
  ((PathText.splitSlashes text.toList).filter (· != [])).map String.ofList

/-- The names to walk along all the way. -/
def steps (text : String) : List String := (written text).filter (· != ".")

theorem written_join (path : String) {file : String}
    (hrelative : file.toList.head? ≠ some '/') :
    written (PathText.join path file) = written path ++ written file := by
  by_cases hpath : path = ""
  · rw [hpath, PathText.join_empty]
    rfl
  obtain ⟨text, hbase, hcases⟩ := PathText.exists_base_eq path
  have hsplit : PathText.splitSlashes (PathText.join path file).toList =
      PathText.splitSlashes text ++ PathText.splitSlashes file.toList := by
    rw [PathText.toList_join hpath hrelative, hbase, List.append_assoc, List.singleton_append,
      PathText.splitSlashes_append]
  have hfilter : (PathText.splitSlashes path.toList).filter (· != []) =
      (PathText.splitSlashes text).filter (· != []) := by
    rcases hcases with htext | htext
    · rw [htext]
    · rw [htext, PathText.splitSlashes_append]
      simp [PathText.splitSlashes]
  rw [written, hsplit, List.filter_append, List.map_append, written, hfilter]
  rfl

theorem ofText_eq (text : String) :
    ofText text =
      let last := (written text).getLast?.filter fun name => name != "." && name != ".."
      { absolute := text.toList.head? == some '/'
        way := (if last.isSome then (written text).dropLast else written text).filter (· != ".")
        last
        slash := (PathText.splitSlashes text.toList).getLast? == some [] } :=
  rfl

theorem last_of_getLast? {text name : String} (hlast : (written text).getLast? = some name)
    (hpoint : name ≠ ".") (hpoints : name ≠ "..") : (ofText text).last = some name := by
  rw [ofText_eq]
  simp only [hlast]
  simp [hpoint, hpoints]

/-- A path is the names on its way and the one at its end, which is no point. -/
theorem written_of_last {text name : String} (hlast : (ofText text).last = some name) :
    ∃ front, written text = front ++ [name] ∧ name ≠ "." ∧ name ≠ ".." ∧
      (ofText text).way = front.filter (· != ".") := by
  have hfilter := hlast
  rw [ofText_eq] at hfilter ⊢
  simp only at hfilter ⊢
  obtain ⟨hwritten, hpoints⟩ := Option.filter_eq_some_iff.1 hfilter
  obtain ⟨front, hfront⟩ := List.getLast?_eq_some_iff.1 hwritten
  rw [Bool.and_eq_true_iff, bne_iff_ne, bne_iff_ne] at hpoints
  refine ⟨front, hfront, hpoints.1, hpoints.2, ?_⟩
  rw [hfilter, hfront, List.dropLast_concat]
  rfl

theorem slash_not_mem_of_last {text name : String} (hlast : (ofText text).last = some name) :
    '/' ∉ name.toList := by
  obtain ⟨front, hwritten, -⟩ := written_of_last hlast
  have hmem : name ∈ written text := hwritten ▸ List.mem_append_right _ List.mem_cons_self
  obtain ⟨stretch, hstretch, rfl⟩ := List.mem_map.1 hmem
  rw [String.toList_ofList]
  exact PathText.slash_not_mem_of_mem_splitSlashes (List.mem_filter.1 hstretch).1

/-- A relative path in a directory goes on where the way to the directory ends. -/
theorem ofText_join (path : String) {file name : String}
    (hrelative : file.toList.head? ≠ some '/') (hlast : (ofText file).last = some name) :
    ofText (PathText.join path file) =
      { absolute := path.toList.head? == some '/'
        way := steps path ++ (ofText file).way
        last := some name
        slash := (ofText file).slash } := by
  obtain ⟨front, hwritten, hpoint, hpoints, hway⟩ := written_of_last hlast
  have hjoined : written (PathText.join path file) = written path ++ front ++ [name] := by
    rw [written_join path hrelative, hwritten, List.append_assoc]
  have hname : (ofText (PathText.join path file)).last = some name :=
    last_of_getLast? (by rw [hjoined, List.getLast?_concat]) hpoint hpoints
  obtain ⟨before, hbefore, -, -, hbeforeWay⟩ := written_of_last hname
  obtain rfl : written path ++ front = before :=
    List.append_cancel_right (hjoined.symm.trans hbefore)
  have habsolute : (ofText (PathText.join path file)).absolute =
      (path.toList.head? == some '/') := by
    by_cases hpath : path = ""
    · rw [hpath, PathText.join_empty]
      exact beq_eq_false_iff_ne.2 hrelative
    · exact congrArg (· == some '/') (PathText.head?_join hpath hrelative)
  have hslash : (ofText (PathText.join path file)).slash = (ofText file).slash := by
    by_cases hpath : path = ""
    · rw [hpath, PathText.join_empty]
    · obtain ⟨text, hbase, -⟩ := PathText.exists_base_eq path
      refine congrArg (· == some []) ?_
      rw [PathText.toList_join hpath hrelative, hbase, List.append_assoc, List.singleton_append,
        PathText.splitSlashes_append,
        List.getLast?_append_of_ne_nil _ (PathText.splitSlashes_ne_nil _)]
  rw [List.filter_append, ← hway] at hbeforeWay
  rw [← habsolute, ← hslash, ← hname, steps, ← hbeforeWay]

/-- The text is one name and not a point, so it names something in a directory. -/
def IsFileName (file : String) : Prop :=
  ofText file = { absolute := false, way := [], last := some file, slash := false }

instance (file : String) : Decidable (IsFileName file) := inferInstanceAs (Decidable (_ = _))

theorem isFileName_of_not_mem {file : String} (hfile : '/' ∉ file.toList) (hne : file ≠ "")
    (hpoint : file ≠ ".") (hpoints : file ≠ "..") : IsFileName file := by
  have hsplit : PathText.splitSlashes file.toList = [file.toList] :=
    PathText.splitSlashes_of_not_mem hfile
  have hwritten : written file = [file] := by
    rw [written, hsplit, List.filter_cons_of_pos (by simpa using hne)]
    simp
  have hhead : (file.toList.head? == some '/') = false :=
    beq_eq_false_iff_ne.2 (PathText.head?_ne_slash hfile)
  rw [IsFileName, ofText_eq, hsplit, hwritten, hhead]
  simp [hpoint, hpoints, hne]

/-- A file in a directory: the way to the directory and the name of the file. -/
theorem ofText_join_of_isFileName (path : String) {file : String} (hfile : IsFileName file) :
    ofText (PathText.join path file) =
      { absolute := path.toList.head? == some '/'
        way := steps path
        last := some file
        slash := false } := by
  have hrelative : file.toList.head? ≠ some '/' :=
    beq_eq_false_iff_ne.1 (congrArg FilePath.absolute hfile)
  rw [ofText_join path hrelative (congrArg FilePath.last hfile), hfile, List.append_nil]

theorem last_ne_points {text name : String} (hlast : (ofText text).last = some name) :
    name ≠ ".." := by
  obtain ⟨-, -, -, hpoints, -⟩ := written_of_last hlast
  exact hpoints

/-- A directory is reached by walking along all the names of its path. -/
theorem steps_eq (path : String) :
    steps path = (ofText path).way ++ (ofText path).last.toList := by
  cases hlast : (ofText path).last with
  | some name =>
    obtain ⟨front, hwritten, hpoint, -, hway⟩ := written_of_last hlast
    rw [steps, hwritten, hway, List.filter_append, List.filter_cons_of_pos (by simpa using hpoint)]
    rfl
  | none =>
    rw [ofText_eq] at hlast ⊢
    simp only at hlast ⊢
    rw [hlast]
    simp [steps]

/-! ### The directory around a file -/

theorem steps_append_slash (text : List Char) :
    steps (String.ofList (text ++ ['/'])) = steps (String.ofList text) := by
  simp [steps, written, PathText.splitSlashes_append, PathText.splitSlashes]

theorem steps_append_point (text : List Char) :
    steps (String.ofList (text ++ ['/', '.'])) = steps (String.ofList text) := by
  have hpoint : PathText.splitSlashes ['.'] = [['.']] := by decide
  simp [steps, written, PathText.splitSlashes_append, hpoint]

theorem steps_trimReversed (text : List Char) :
    steps (String.ofList (PathText.trimReversed text).reverse) =
      steps (String.ofList text.reverse) := by
  fun_induction PathText.trimReversed text with
  | case1 rest ih => rw [ih, List.reverse_cons, steps_append_slash]
  | case2 rest ih =>
    rw [ih, List.reverse_cons, List.reverse_cons, List.append_assoc]
    exact (steps_append_point rest.reverse).symm
  | case3 => rfl

/-- A shorter way to write the same way: a part of the path from its start, with all its names. -/
structure Shortens (outer path : String) : Prop where
  ne_empty : outer ≠ ""
  isPrefix : outer.toList <+: path.toList
  steps_eq : steps outer = steps path

theorem Shortens.head?_eq {outer path : String} (hshort : Shortens outer path) :
    outer.toList.head? = path.toList.head? := by
  obtain ⟨rest, hrest⟩ := hshort.isPrefix
  rw [← hrest, List.head?_append_of_ne_nil]
  simpa using hshort.ne_empty

theorem shortens_containing_join {path file : String} (hpath : path ≠ "")
    (hfile : '/' ∉ file.toList) {last : Char} {front : List Char}
    (hlast : file.toList = front ++ [last]) (hpoint : last ≠ '.') :
    Shortens (PathText.containing (PathText.join path file)) path := by
  have hsteps := steps_trimReversed path.toList.reverse
  rw [List.reverse_reverse, String.ofList_toList] at hsteps
  have hsuffix := PathText.trimReversed_suffix path.toList.reverse
  rw [PathText.containing_join hpath hfile hlast hpoint, PathText.trimReversed_base]
  cases hends : PathText.trimReversed path.toList.reverse with
  | nil =>
    -- nothing but slashes and points: the path is the root
    have hne : path.toList.reverse ≠ [] := by simpa using hpath
    have hslash := PathText.getLast?_of_trimReversed_eq_nil hne hends
    rw [List.getLast?_reverse] at hslash
    obtain ⟨rest, hrest⟩ := List.head?_eq_some_iff.1 hslash
    rw [hends] at hsteps
    have hroot : (List.isEmpty ([] : List Char) && path.toList.head? == some '/') = true := by
      simp [hslash]
    rw [if_pos hroot]
    refine ⟨by decide, ?_, hsteps⟩
    rw [hrest]
    exact ⟨rest, rfl⟩
  | cons c rest =>
    rw [hends] at hsteps hsuffix
    rw [if_neg (by simp)]
    refine ⟨by simp, ?_, hsteps⟩
    rw [String.toList_ofList, ← List.reverse_suffix, List.reverse_reverse]
    exact hsuffix

end FilePath
end DuplexAudio
