import DuplexAudio.Proofs.Document.Content
import DuplexAudio.Proofs.Toml.Statements
import Mathlib.Data.List.Nodup

/-!
How a tree grows from the sections of a document: each section works on one table that its path
leads to, and leaves the rest of the tree as it is. In the end the tree has the content of the
document.
-/

namespace DuplexAudio.Toml

/-! ### Entries -/

namespace Entries

variable {key other : String} {node replacement : Node} {entries : Entries}

theorem lookup_put_self (key : String) (node : Node) (entries : Entries) :
    (put key node entries).lookup key = some node := by
  induction entries with
  | nil => simp [put]
  | cons entry entries ih =>
    obtain ⟨name, value⟩ := entry
    rw [put]
    split
    · simp
    · split
      · simp
      · next hne _ => rw [List.lookup_cons, beq_eq_false_iff_ne.2 hne, ih]

theorem put_put (key : String) (node replacement : Node) (entries : Entries) :
    put key replacement (put key node entries) = put key replacement entries := by
  induction entries with
  | nil => simp [put]
  | cons entry entries ih =>
    obtain ⟨name, value⟩ := entry
    rw [put, put]
    split
    · simp [put]
    · next hne =>
      split
      · simp [put]
      · next hlt => simp [put, hne, hlt, ih]

theorem lookup_eq_none_of_not_mem (hnew : key ∉ entries.map Prod.fst) :
    entries.lookup key = none := by
  rw [List.lookup_eq_none_iff]
  intro entry hmem
  exact bne_iff_ne.2 fun heq => hnew (List.mem_map.2 ⟨entry, hmem, heq.symm⟩)

theorem put_perm (hnew : entries.lookup key = none) (node : Node) :
    (put key node entries).Perm ((key, node) :: entries) := by
  induction entries with
  | nil => exact .refl _
  | cons entry entries ih =>
    obtain ⟨name, value⟩ := entry
    have hne : key ≠ name := by
      rintro rfl
      simp at hnew
    rw [List.lookup_cons, beq_eq_false_iff_ne.2 hne] at hnew
    rw [put, if_neg hne]
    split
    · exact .refl _
    · exact ((ih hnew).cons _).trans (.swap _ _ _)

/-- The way to a table may be walked in two parts. -/
theorem descend_append (dotted : Bool) (change : Origin → Entries → Option Entries)
    (origin : Origin) (entries : Entries) (path rest : List String) :
    descend dotted change origin entries (path ++ rest) =
      descend dotted (fun origin inner => descend dotted change origin inner rest) origin entries
        path := by
  induction path generalizing origin entries with
  | nil => rfl
  | cons key path ih => simp only [List.cons_append, descend, ih]

/-- On the way through a missing table, it might as well be there without entries. -/
theorem descend_missing (hnew : entries.lookup key = none)
    (change : Origin → Entries → Option Entries) (origin : Origin) (path : List String) :
    descend false change origin entries (key :: path) =
      descend false change origin (put key (.table .implicit []) entries) (key :: path) := by
  rw [descend, descend, hnew, lookup_put_self]
  simp [put_put]

end Entries

/-! ### One table of a tree -/

/-- The path leads to a table in the tree `plug inner`, whose entries are `inner`, and changing that
table changes nothing else. -/
def Reaches (plug : Entries → Entries) (path : List String) (origin : Origin) : Prop :=
  ∀ inner change, Entries.descend false change .explicit (plug inner) path =
    (change origin inner).map plug

namespace Reaches

variable {plug : Entries → Entries} {path : List String} {origin : Origin} {key : String}

theorem root : Reaches id [] .explicit := fun _ _ => Option.map_id_apply.symm

theorem table (hreach : Reaches plug path origin) (key : String) {inside : Origin}
    (hinside : inside ≠ .inline) (outer : Entries) :
    Reaches (fun inner => plug (outer.put key (.table inside inner))) (path ++ [key]) inside := by
  intro inner change
  rw [Entries.descend_append, hreach]
  simp only [Entries.descend, Entries.lookup_put_self, hinside]
  simp [Entries.put_put, Function.comp_def]

theorem element (hreach : Reaches plug path origin) (key : String) (done : List Entries)
    (outer : Entries) :
    Reaches (fun inner => plug (outer.put key (.elements (done ++ [inner])))) (path ++ [key])
      .explicit := by
  intro inner change
  rw [Entries.descend_append, hreach]
  simp only [Entries.descend, Entries.lookup_put_self]
  simp [Entries.put_put, Function.comp_def]

/-! ### Statements -/

variable (hreach : Reaches plug path origin) {outer : Entries}

include hreach

theorem apply_openTable (hnew : outer.lookup key = none) (current : List String) :
    Tree.apply ⟨plug outer, current⟩ (.openTable (path ++ [key])) =
      some ⟨plug (outer.put key (.table .explicit [])), path ++ [key]⟩ := by
  simp [Tree.apply, hreach outer, Entries.openTable, hnew]

theorem apply_openElement_first (hnew : outer.lookup key = none) (current : List String) :
    Tree.apply ⟨plug outer, current⟩ (.openElement (path ++ [key])) =
      some ⟨plug (outer.put key (.elements [[]])), path ++ [key]⟩ := by
  simp [Tree.apply, hreach outer, Entries.openElement, hnew]

theorem apply_openElement_next (done : List Entries) (current : List String) :
    Tree.apply ⟨plug (outer.put key (.elements done)), current⟩ (.openElement (path ++ [key])) =
      some ⟨plug (outer.put key (.elements (done ++ [[]]))), path ++ [key]⟩ := by
  simp [Tree.apply, hreach (outer.put key (.elements done)), Entries.openElement,
    Entries.lookup_put_self, Entries.put_put]

theorem apply_assign {inner : Entries} (hnew : inner.lookup key = none) (node : Node) :
    Tree.apply ⟨plug inner, path⟩ (.assign [key] node) = some ⟨plug (inner.put key node), path⟩ := by
  simp [Tree.apply, hreach inner, Entries.assign, Entries.descend, hnew]

end Reaches

/-! ### Documents with a written form -/

/-- The members of a table that can be written: keys that need no quotes and do not come again, and
values that are absent, plain, tables or arrays of tables, nested no deeper than `depth`. -/
inductive Sectioned : Nat → List (Option String × Document) → Prop
  | nil (depth : Nat) : Sectioned depth []
  | absent {depth : Nat} {key : Option String} {rest : List (Option String × Document)}
    (hnew : key ∉ rest.map Prod.fst) (hrest : Sectioned depth rest) :
    Sectioned depth ((key, .null) :: rest)
  | plain {depth : Nat} {key : String} {value : Document}
    {rest : List (Option String × Document)} (hkey : IsBareKey key) (hvalue : IsPlain value)
    (hnew : some key ∉ rest.map Prod.fst) (hrest : Sectioned depth rest) :
    Sectioned depth ((some key, value) :: rest)
  | table {depth : Nat} {key : String} {members rest : List (Option String × Document)}
    (hkey : IsBareKey key) (hmembers : Sectioned depth members)
    (hnew : some key ∉ rest.map Prod.fst) (hrest : Sectioned (depth + 1) rest) :
    Sectioned (depth + 1) ((some key, .mapping members) :: rest)
  | elements {depth : Nat} {key : String} {tables : List (List (Option String × Document))}
    {rest : List (Option String × Document)} (hkey : IsBareKey key) (hne : tables ≠ [])
    (htables : ∀ members ∈ tables, Sectioned depth members)
    (hnew : some key ∉ rest.map Prod.fst) (hrest : Sectioned (depth + 1) rest) :
    Sectioned (depth + 1) ((some key, .sequence (tables.map .mapping)) :: rest)

theorem isMapping_of_isScalar {value : Document} (hvalue : IsScalar value) :
    isMapping value = false := by
  cases hvalue <;> rfl

theorem IsPlain.isPlainValue_eq_true {value : Document} (hvalue : IsPlain value) :
    isPlainValue value = true := by
  cases hvalue with
  | scalar hscalar => cases hscalar <;> rfl
  | @sequence items hitems =>
    match items with
    | [] => rfl
    | first :: rest => simp [isPlainValue, isMapping_of_isScalar (hitems first List.mem_cons_self)]

theorem isPlainValue_elements {tables : List (List (Option String × Document))}
    (hne : tables ≠ []) : isPlainValue (.sequence (tables.map .mapping)) = false := by
  have hall : (tables.map Document.mapping).all isMapping = true := by simp [isMapping]
  rw [isPlainValue, hall]
  simpa using hne

section Written

variable {path : List String} {key : Option String} {value : Document}
  {members rest : List (Option String × Document)}

theorem subsections_plain (hvalue : IsPlain value) :
    subsections path ((key, value) :: rest) = subsections path rest := by
  cases hvalue with
  | scalar hscalar => cases hscalar <;> rw [subsections] <;> simp
  | @sequence items hitems =>
    cases items with
    | nil => simp [subsections, elementSections]
    | cons first others =>
      simp [subsections, isMapping_of_isScalar (hitems first List.mem_cons_self)]

theorem subsections_absent :
    subsections path ((key, .null) :: rest) = subsections path rest := by
  rw [subsections] <;> simp

theorem subsections_elements (tables : List (List (Option String × Document))) :
    subsections path ((key, .sequence (tables.map .mapping)) :: rest) =
      elementSections (path ++ [key.getD ""]) (tables.map .mapping) ++ subsections path rest := by
  have hall : (tables.map Document.mapping).all isMapping = true := by simp [isMapping]
  rw [subsections, if_pos hall]

theorem plainEntries_cons_of_plain (hvalue : isPlainValue value = true) :
    plainEntries ((key, value) :: rest) = (key.getD "", value) :: plainEntries rest := by
  simp [plainEntries, hvalue]

theorem plainEntries_cons_of_not (hvalue : isPlainValue value = false) :
    plainEntries ((key, value) :: rest) = plainEntries rest := by
  simp [plainEntries, hvalue]

theorem mem_of_mem_plainEntries {entry : String × Document} (hmem : entry ∈ plainEntries members) :
    ∃ member ∈ members, isPlainValue member.2 = true ∧ entry = (member.1.getD "", member.2) := by
  obtain ⟨member, hmember, rfl⟩ := List.mem_map.1 hmem
  obtain ⟨hmember, hplain⟩ := List.mem_filter.1 hmember
  exact ⟨member, hmember, hplain, rfl⟩

namespace Sectioned

variable {depth : Nat}

theorem keys_nodup (hmembers : Sectioned depth members) : (members.map Prod.fst).Nodup := by
  induction hmembers with
  | nil => exact .nil
  | absent hnew _ ih => exact List.nodup_cons.2 ⟨hnew, ih⟩
  | plain _ _ hnew _ ih => exact List.nodup_cons.2 ⟨hnew, ih⟩
  | table _ _ hnew _ _ ih => exact List.nodup_cons.2 ⟨hnew, ih⟩
  | elements _ _ _ hnew _ _ ih => exact List.nodup_cons.2 ⟨hnew, ih⟩

theorem of_mem (hmembers : Sectioned depth members) {key : Option String} {value : Document}
    (hmem : (key, value) ∈ members) (hplain : isPlainValue value = true) :
    (∃ name, key = some name ∧ IsBareKey name) ∧ IsPlain value := by
  induction hmembers with
  | nil => cases hmem
  | absent _ _ ih =>
    rcases List.mem_cons.1 hmem with heq | hmem
    · cases heq
      cases hplain
    · exact ih hmem
  | plain hkey hvalue _ _ ih =>
    rcases List.mem_cons.1 hmem with heq | hmem
    · cases heq
      exact ⟨⟨_, rfl, hkey⟩, hvalue⟩
    · exact ih hmem
  | table _ _ _ _ _ ih =>
    rcases List.mem_cons.1 hmem with heq | hmem
    · cases heq
      cases hplain
    · exact ih hmem
  | elements _ hne _ _ _ _ ih =>
    rcases List.mem_cons.1 hmem with heq | hmem
    · cases heq
      rw [isPlainValue_elements hne] at hplain
      cases hplain
    · exact ih hmem

theorem plainEntries_sound (hmembers : Sectioned depth members) :
    ∀ entry ∈ plainEntries members, IsBareKey entry.1 ∧ IsPlain entry.2 := by
  intro entry hentry
  obtain ⟨⟨key, value⟩, hmem, hplain, rfl⟩ := mem_of_mem_plainEntries hentry
  obtain ⟨⟨name, rfl, hkey⟩, hvalue⟩ := hmembers.of_mem hmem hplain
  exact ⟨hkey, hvalue⟩

/-- The keys of the plain values are keys of the table, in the same order. -/
theorem plainEntries_keys (hmembers : Sectioned depth members) :
    ((plainEntries members).map fun entry => some entry.1) =
      (members.filter fun member => isPlainValue member.2).map Prod.fst := by
  rw [plainEntries, List.map_map]
  refine List.map_congr_left fun (key, value) hmember => ?_
  obtain ⟨hmem, hplain⟩ := List.mem_filter.1 hmember
  obtain ⟨⟨name, rfl, -⟩, -⟩ := hmembers.of_mem hmem hplain
  rfl

theorem plainEntries_nodup (hmembers : Sectioned depth members) :
    ((plainEntries members).map Prod.fst).Nodup := by
  have hkeys : (((plainEntries members).map Prod.fst).map some).Nodup := by
    rw [List.map_map]
    exact hmembers.plainEntries_keys ▸ hmembers.keys_nodup.sublist (List.filter_sublist.map _)
  exact List.Nodup.of_map some hkeys

end Sectioned

/-- A key comes either with a plain value or with another one. -/
theorem Sectioned.not_mem_plainEntries {depth : Nat} (hmembers : Sectioned depth members)
    {key : String} (hmem : (some key, value) ∈ members) (hplain : isPlainValue value = false) :
    key ∉ (plainEntries members).map Prod.fst := by
  intro hkey
  obtain ⟨entry, hentry, rfl⟩ := List.mem_map.1 hkey
  obtain ⟨⟨name, other⟩, hother, hplain', rfl⟩ := mem_of_mem_plainEntries hentry
  obtain ⟨⟨name, rfl, -⟩, -⟩ := hmembers.of_mem hother hplain'
  cases List.inj_on_of_nodup_map hmembers.keys_nodup hother hmem rfl
  rw [hplain] at hplain'
  cases hplain'

/-! ### Sections with a written form -/

/-- The section is for a table below the path, no more than `depth` keys down, and can be written. -/
structure Section.Below (path : List String) (depth : Nat) (part : Section) : Prop where
  way : ∃ way, way ≠ [] ∧ part.path = path ++ way ∧ way.length ≤ depth ∧ ∀ key ∈ way, IsBareKey key
  entries : ∀ entry ∈ part.entries, IsBareKey entry.1 ∧ IsPlain entry.2

theorem Section.Below.of_inner {part : Section} {depth : Nat} {key : String}
    (hbelow : part.Below (path ++ [key]) depth) (hkey : IsBareKey key) :
    part.Below path (depth + 1) := by
  obtain ⟨⟨way, -, hpath, hlength, hbare⟩, hentries⟩ := hbelow
  refine ⟨⟨key :: way, List.cons_ne_nil _ _, ?_, Nat.succ_le_succ hlength, ?_⟩, hentries⟩
  · rw [hpath, List.append_assoc]
    rfl
  · exact List.forall_mem_cons.2 ⟨hkey, hbare⟩

theorem Section.Below.own {part : Section} {depth : Nat} {key : String} (hkey : IsBareKey key)
    (hpath : part.path = path ++ [key]) (hmembers : Sectioned depth members)
    (hentries : part.entries = plainEntries members) : part.Below path (depth + 1) :=
  ⟨⟨[key], List.cons_ne_nil _ _, hpath, Nat.le_add_left 1 depth, List.forall_mem_singleton.2 hkey⟩,
    hentries ▸ hmembers.plainEntries_sound⟩

theorem mem_elementSections {part : Section} {tables : List (List (Option String × Document))}
    (hpart : part ∈ elementSections path (tables.map .mapping)) :
    ∃ members ∈ tables,
      part = { isElement := true, path, entries := plainEntries members } ∨
        part ∈ subsections path members := by
  induction tables with
  | nil => simp [elementSections] at hpart
  | cons members tables ih =>
    rw [List.map_cons, elementSections, List.mem_cons, List.mem_append] at hpart
    rcases hpart with hown | hbelow | hrest
    · exact ⟨members, List.mem_cons_self, .inl hown⟩
    · exact ⟨members, List.mem_cons_self, .inr hbelow⟩
    · obtain ⟨other, hmem, hother⟩ := ih hrest
      exact ⟨other, List.mem_cons_of_mem _ hmem, hother⟩

theorem Sectioned.sections_below {depth : Nat} (hmembers : Sectioned depth members) (path : List String) :
    ∀ part ∈ subsections path members, part.Below path depth := by
  induction hmembers generalizing path with
  | nil => simp [subsections]
  | absent _ _ ih =>
    rw [subsections_absent]
    exact ih path
  | plain _ hvalue _ _ ih =>
    rw [subsections_plain hvalue]
    exact ih path
  | @table depth key members rest hkey hmembers _ _ ih ihrest =>
    rw [subsections]
    intro part hpart
    rcases List.mem_append.1 hpart with hinner | hrest
    · have hcases : part = { path := path ++ [key], entries := plainEntries members } ∨
          part ∈ subsections (path ++ [key]) members := by
        simp only [Option.getD_some] at hinner
        split at hinner
        · exact .inr hinner
        · exact List.mem_cons.1 hinner
      rcases hcases with rfl | hinner
      · exact .own hkey rfl hmembers rfl
      · exact (ih _ part hinner).of_inner hkey
    · exact ihrest path part hrest
  | @elements depth key tables rest hkey _ htables _ _ ih ihrest =>
    rw [subsections_elements]
    intro part hpart
    rcases List.mem_append.1 hpart with helements | hrest
    · obtain ⟨members, hmem, rfl | hinner⟩ := mem_elementSections helements
      · exact .own hkey rfl (htables members hmem) rfl
      · exact (ih members hmem _ part hinner).of_inner hkey
    · exact ihrest path part hrest

end Written

/-! ### Growth -/

section Run

variable {tree middle : Tree} {first second : List Statement} {statement : Statement}

theorem foldlM_append_of_eq_some (hfirst : first.foldlM Tree.apply tree = some middle) :
    (first ++ second).foldlM Tree.apply tree = second.foldlM Tree.apply middle := by
  rw [List.foldlM_append, hfirst]
  rfl

theorem foldlM_cons_of_eq_some (hfirst : tree.apply statement = some middle) :
    (statement :: second).foldlM Tree.apply tree = second.foldlM Tree.apply middle := by
  rw [List.foldlM_cons, hfirst]
  rfl

end Run

section Growth

variable {plug : Entries → Entries} {path : List String} {origin : Origin} {key : String}
  {outer final : Entries} {members rest : List (Option String × Document)}

theorem Reaches.run_assignments (hreach : Reaches plug path origin) (inner : Entries)
    {entries : List (String × Document)} (hnodup : (entries.map Prod.fst).Nodup)
    (hnew : ∀ entry ∈ entries, entry.1 ∉ inner.map Prod.fst) :
    ∃ grown, (assignments entries).foldlM Tree.apply ⟨plug inner, path⟩ = some ⟨plug grown, path⟩ ∧
      grown.Perm (entries.map (fun entry => (entry.1, .ofPlain entry.2)) ++ inner) := by
  induction entries generalizing inner with
  | nil => exact ⟨inner, rfl, .refl _⟩
  | cons entry entries ih =>
    rw [List.forall_mem_cons] at hnew
    rw [List.map_cons, List.nodup_cons] at hnodup
    have hmissing := Entries.lookup_eq_none_of_not_mem hnew.1
    have hput := Entries.put_perm hmissing (.ofPlain entry.2)
    have hnext : ∀ other ∈ entries,
        other.1 ∉ (inner.put entry.1 (.ofPlain entry.2)).map Prod.fst := by
      intro other hother hmem
      rw [(hput.map Prod.fst).mem_iff, List.map_cons, List.mem_cons] at hmem
      rcases hmem with heq | hmem
      · exact hnodup.1 (heq ▸ List.mem_map_of_mem hother)
      · exact hnew.2 other hother hmem
    obtain ⟨grown, hrun, hgrown⟩ := ih _ hnodup.2 hnext
    refine ⟨grown, (foldlM_cons_of_eq_some (hreach.apply_assign hmissing _)).trans hrun, ?_⟩
    exact (hgrown.trans (hput.append_left _)).trans List.perm_middle

/-- Without its header, a table comes about by the first statement about a table below it. -/
theorem Reaches.run_missing (hreach : Reaches plug path origin) (hnew : outer.lookup key = none)
    {parts : List Section} (hne : parts ≠ [])
    (hbelow : ∀ part ∈ parts, ∃ way, way ≠ [] ∧ part.path = path ++ [key] ++ way)
    (current other : List String) :
    (parts.flatMap Section.statements).foldlM Tree.apply ⟨plug outer, current⟩ =
      (parts.flatMap Section.statements).foldlM Tree.apply
        ⟨plug (outer.put key (.table .implicit [])), other⟩ := by
  obtain ⟨part, parts, rfl⟩ := List.exists_cons_of_ne_nil hne
  obtain ⟨way, hway, hpath⟩ := hbelow part List.mem_cons_self
  have hdrop : part.path.dropLast = path ++ key :: way.dropLast := by
    rw [hpath, List.dropLast_append_of_ne_nil hway, List.append_assoc]
    rfl
  have hdescend : ∀ change,
      Entries.descend false change .explicit (plug outer) part.path.dropLast =
        Entries.descend false change .explicit (plug (outer.put key (.table .implicit [])))
          part.path.dropLast := by
    intro change
    rw [hdrop, Entries.descend_append, hreach, Entries.descend_append, hreach,
      Entries.descend_missing hnew]
  have hroot : part.path.isEmpty = false := by simp [hpath]
  rw [List.flatMap_cons, Section.statements, hroot]
  simp only [Bool.false_eq_true, if_false, List.cons_append, List.append_assoc,
    List.foldlM_cons]
  cases part.isElement <;> simp [Tree.apply, hdescend]

/-- What the plain values contribute to the content of a table. -/
def plainContents (members : List (Option String × Document)) : List (Option String × Document) :=
  (plainEntries members).map fun entry => (some entry.1, entry.2)

/-- The entries grew by nodes with the content of the members that are not plain. -/
def Growth (members : List (Option String × Document)) (outer final : Entries) : Prop :=
  ∃ added contents, final.Perm (added ++ outer) ∧ SameMembers members contents ∧
    contents.Perm (Toml.members added ++ plainContents members)

/-- None of the members that get sections is among the entries yet. -/
def Fresh (members : List (Option String × Document)) (outer : Entries) : Prop :=
  ∀ member ∈ members, isPlainValue member.2 = false →
    ∀ key, member.1 = some key → key ∉ outer.map Prod.fst

theorem Fresh.tail {member : Option String × Document} (hfresh : Fresh (member :: rest) outer) :
    Fresh rest outer :=
  fun other hmem => hfresh other (List.mem_cons_of_mem member hmem)

theorem Fresh.put {value : Document} (hfresh : Fresh ((some key, value) :: rest) outer)
    (hkey : some key ∉ rest.map Prod.fst) (hmissing : outer.lookup key = none) (node : Node) :
    Fresh rest (outer.put key node) := by
  intro member hmem hplain other hother hput
  rw [((Entries.put_perm hmissing node).map Prod.fst).mem_iff, List.map_cons, List.mem_cons] at hput
  rcases hput with rfl | hput
  · exact hkey (hother ▸ List.mem_map_of_mem hmem)
  · exact hfresh.tail member hmem hplain other hother hput

/-- Wherever the table is, the sections below it let it grow by its sub-tables. -/
def Grows (members : List (Option String × Document)) : Prop :=
  ∀ ⦃plug path origin⦄, Reaches plug path origin → ∀ outer, Fresh members outer →
    ∀ current, ∃ final last,
      ((subsections path members).flatMap Section.statements).foldlM Tree.apply
          ⟨plug outer, current⟩ = some ⟨plug final, last⟩ ∧ Growth members outer final

theorem documents_map_leaf (items : List Document) : documents (items.map .leaf) = items := by
  induction items with
  | nil => rfl
  | cons item items ih =>
    rw [List.map_cons, documents, Node.document, ih]

theorem IsPlain.document_ofPlain {value : Document} (hvalue : IsPlain value) :
    (Node.ofPlain value).document = value := by
  cases hvalue with
  | scalar hscalar => rw [hscalar.ofPlain_eq, Node.document]
  | sequence hitems => rw [Node.ofPlain, Node.document, documents_map_leaf]

theorem IsScalar.sameContent {value : Document} (hvalue : IsScalar value) :
    SameContent value value := by
  cases hvalue with
  | text value => exact .text value
  | natural value => exact .integer value

theorem IsPlain.sameContent {value : Document} (hvalue : IsPlain value) :
    SameContent value value := by
  cases hvalue with
  | scalar hscalar => exact hscalar.sameContent
  | @sequence items hitems =>
    refine .sequence ?_
    induction items with
    | nil => exact .nil
    | cons item items ih =>
      rw [List.forall_mem_cons] at hitems
      exact .cons hitems.1.sameContent (ih hitems.2)

theorem members_eq_map (entries : Entries) :
    Toml.members entries = entries.map fun entry => (some entry.1, entry.2.document) := by
  induction entries with
  | nil => rfl
  | cons entry entries ih => rw [Toml.members, ih, List.map_cons]

theorem members_append (entries others : Entries) :
    Toml.members (entries ++ others) = Toml.members entries ++ Toml.members others := by
  simp only [members_eq_map, List.map_append]

theorem members_perm {entries others : Entries} (hperm : entries.Perm others) :
    (Toml.members entries).Perm (Toml.members others) := by
  simp only [members_eq_map]
  exact hperm.map _

theorem Growth.nil (outer : Entries) : Growth [] outer outer :=
  ⟨[], [], .refl _, .nil, .refl _⟩

theorem Growth.absent {name : Option String} (hrest : Growth rest outer final) :
    Growth ((name, .null) :: rest) outer final := by
  obtain ⟨added, contents, hfinal, hcontents, hperm⟩ := hrest
  exact ⟨added, contents, hfinal, hcontents.absent, hperm⟩

theorem Growth.plain {value : Document} (hvalue : IsPlain value) (hrest : Growth rest outer final) :
    Growth ((some key, value) :: rest) outer final := by
  obtain ⟨added, contents, hfinal, hcontents, hperm⟩ := hrest
  refine ⟨added, (some key, value) :: contents, hfinal, .cons hvalue.sameContent hcontents, ?_⟩
  rw [plainContents, plainEntries_cons_of_plain hvalue.isPlainValue_eq_true]
  exact (hperm.cons _).trans List.perm_middle.symm

/-- One more member, which is a node of its own. -/
theorem Growth.node {value : Document} (node : Node) (hplain : isPlainValue value = false)
    (hnew : outer.lookup key = none) (hvalue : SameContent value node.document)
    (hrest : Growth rest (outer.put key node) final) :
    Growth ((some key, value) :: rest) outer final := by
  obtain ⟨added, contents, hfinal, hcontents, hperm⟩ := hrest
  refine ⟨(key, node) :: added, (some key, node.document) :: contents, ?_,
    .cons hvalue hcontents, ?_⟩
  · exact (hfinal.trans ((Entries.put_perm hnew node).append_left added)).trans List.perm_middle
  · rw [plainContents, plainEntries_cons_of_not hplain]
    exact hperm.cons _

/-- A table that is empty at first gets the content of its members. -/
theorem Grows.table {depth : Nat} (hgrows : Grows members) (hsound : Sectioned depth members)
    (hreach : Reaches plug path origin) :
    ∃ inner current,
      (assignments (plainEntries members) ++
          (subsections path members).flatMap Section.statements).foldlM Tree.apply ⟨plug [], path⟩ =
        some ⟨plug inner, current⟩ ∧
      SameContent (.mapping members) (.mapping (Toml.members inner)) := by
  obtain ⟨assigned, hassigned, hplain⟩ :=
    hreach.run_assignments [] hsound.plainEntries_nodup nofun
  rw [List.append_nil] at hplain
  have hfresh : Fresh members assigned := by
    rintro ⟨_, value⟩ hmem hvalue key rfl hkey
    rw [(hplain.map Prod.fst).mem_iff, List.map_map] at hkey
    exact hsound.not_mem_plainEntries hmem hvalue hkey
  obtain ⟨inner, current, hrun, added, contents, hinner, hcontents, hperm⟩ :=
    hgrows hreach assigned hfresh path
  refine ⟨inner, current, (foldlM_append_of_eq_some hassigned).trans hrun,
    .mapping hcontents (hperm.trans ?_)⟩
  have hassignedContents : (Toml.members assigned).Perm (plainContents members) := by
    rw [members_eq_map]
    refine (hplain.map _).trans (.of_eq ?_)
    rw [List.map_map, plainContents]
    refine List.map_congr_left fun entry hentry => ?_
    exact congrArg (some entry.1, ·) (hsound.plainEntries_sound entry hentry).2.document_ofPlain
  calc Toml.members added ++ plainContents members
    List.Perm _ (Toml.members added ++ Toml.members assigned) := hassignedContents.symm.append_left _
    List.Perm _ (Toml.members inner) := by
      rw [← members_append]
      exact (members_perm hinner).symm

theorem statements_elementSections_cons (items : List Document) :
    (elementSections (path ++ [key]) (.mapping members :: items)).flatMap Section.statements =
      .openElement (path ++ [key]) :: (assignments (plainEntries members) ++
        (subsections (path ++ [key]) members).flatMap Section.statements) ++
        (elementSections (path ++ [key]) items).flatMap Section.statements := by
  simp [elementSections, Section.statements]

/-- Each element of an array of tables is opened after the last one and gets its content. -/
theorem Reaches.run_elements (hreach : Reaches plug path origin) {depth : Nat} {start : Entries}
    {first : List (Option String × Document)} {tables : List (List (Option String × Document))}
    (htables : ∀ members ∈ first :: tables, Sectioned depth members ∧ Grows members)
    (done : List Entries)
    (hopen : ∀ current, Tree.apply ⟨start, current⟩ (.openElement (path ++ [key])) =
      some ⟨plug (outer.put key (.elements (done ++ [[]]))), path ++ [key]⟩)
    (current : List String) :
    ∃ made last,
      ((elementSections (path ++ [key]) ((first :: tables).map .mapping)).flatMap
          Section.statements).foldlM Tree.apply ⟨start, current⟩ =
        some ⟨plug (outer.put key (.elements (done ++ made))), last⟩ ∧
      SameItems ((first :: tables).map .mapping) (tableDocuments made) := by
  induction tables generalizing first start done current with
  | nil =>
    obtain ⟨hsound, hgrows⟩ := htables first List.mem_cons_self
    obtain ⟨inner, last, hrun, hsame⟩ := hgrows.table hsound (hreach.element key done outer)
    refine ⟨[inner], last, ?_, .cons hsame .nil⟩
    rw [List.map_singleton, statements_elementSections_cons, elementSections, List.flatMap_nil,
      List.append_nil]
    exact (foldlM_cons_of_eq_some (hopen current)).trans hrun
  | cons second tables ih =>
    rw [List.forall_mem_cons] at htables
    obtain ⟨⟨hsound, hgrows⟩, htables⟩ := htables
    obtain ⟨inner, middle, hrun, hsame⟩ := hgrows.table hsound (hreach.element key done outer)
    obtain ⟨made, last, hmade, hrest⟩ :=
      ih htables _ (hreach.apply_openElement_next (done ++ [inner])) middle
    refine ⟨inner :: made, last, ?_, .cons hsame hrest⟩
    rw [List.map_cons, statements_elementSections_cons]
    rw [List.append_assoc, List.singleton_append] at hmade
    exact (foldlM_append_of_eq_some
      ((foldlM_cons_of_eq_some (hopen current)).trans hrun)).trans hmade

/-- The sections of a sub-table make it a new entry, with or without a header. -/
theorem Reaches.run_table (hreach : Reaches plug path origin) {depth : Nat}
    (hsound : Sectioned depth members) (hgrows : Grows members) (hnew : outer.lookup key = none)
    (current : List String) :
    ∃ node last,
      ((if (plainEntries members).isEmpty && !(subsections (path ++ [key]) members).isEmpty then
            subsections (path ++ [key]) members
          else { path := path ++ [key], entries := plainEntries members } ::
            subsections (path ++ [key]) members).flatMap
          Section.statements).foldlM Tree.apply ⟨plug outer, current⟩ =
        some ⟨plug (outer.put key node), last⟩ ∧
      SameContent (.mapping members) node.document := by
  split
  · next hbare =>
    rw [Bool.and_eq_true, List.isEmpty_iff, Bool.not_eq_true', List.isEmpty_eq_false_iff] at hbare
    obtain ⟨inner, last, hrun, hsame⟩ := hgrows.table hsound
      (hreach.table key (by decide : Origin.implicit ≠ .inline) outer)
    rw [hbare.1] at hrun
    have hbelow : ∀ part ∈ subsections (path ++ [key]) members,
        ∃ way, way ≠ [] ∧ part.path = path ++ [key] ++ way := by
      intro part hpart
      obtain ⟨way, hne, hpath, -⟩ := (hsound.sections_below _ part hpart).way
      exact ⟨way, hne, hpath⟩
    exact ⟨.table .implicit inner, last,
      (hreach.run_missing hnew hbare.2 hbelow current (path ++ [key])).trans hrun, hsame⟩
  · obtain ⟨inner, last, hrun, hsame⟩ := hgrows.table hsound
      (hreach.table key (by decide : Origin.explicit ≠ .inline) outer)
    refine ⟨.table .explicit inner, last, ?_, hsame⟩
    have hstatements :
        (Section.mk false (path ++ [key]) (plainEntries members)).statements =
          .openTable (path ++ [key]) :: assignments (plainEntries members) := by
      simp [Section.statements]
    rw [List.flatMap_cons, hstatements]
    exact (foldlM_cons_of_eq_some (hreach.apply_openTable hnew current)).trans hrun

/-- **Growth.** The sections of a document's sub-tables bring their content into the tree. -/
theorem Sectioned.grows {depth : Nat} (hsound : Sectioned depth members) : Grows members := by
  induction hsound with
  | nil =>
    intro plug path origin hreach outer hfresh current
    exact ⟨outer, current, by simp [subsections], .nil outer⟩
  | absent _ _ ih =>
    intro plug path origin hreach outer hfresh current
    obtain ⟨final, last, hrun, hgrowth⟩ := ih hreach outer hfresh.tail current
    refine ⟨final, last, ?_, hgrowth.absent⟩
    rw [subsections_absent]
    exact hrun
  | plain _ hvalue _ _ ih =>
    intro plug path origin hreach outer hfresh current
    obtain ⟨final, last, hrun, hgrowth⟩ := ih hreach outer hfresh.tail current
    refine ⟨final, last, ?_, hgrowth.plain hvalue⟩
    rw [subsections_plain hvalue]
    exact hrun
  | @table depth key members rest _ hmembers hkey _ ih ihrest =>
    intro plug path origin hreach outer hfresh current
    have hmissing := Entries.lookup_eq_none_of_not_mem (hfresh _ List.mem_cons_self rfl key rfl)
    obtain ⟨node, middle, hrun, hsame⟩ := hreach.run_table hmembers ih hmissing current
    obtain ⟨final, last, hrest, hgrowth⟩ :=
      ihrest hreach (outer.put key node) (hfresh.put hkey hmissing node) middle
    refine ⟨final, last, ?_, hgrowth.node _ rfl hmissing hsame⟩
    rw [subsections, List.flatMap_append]
    exact (foldlM_append_of_eq_some hrun).trans hrest
  | @elements depth key tables rest _ hne htables hkey _ ih ihrest =>
    intro plug path origin hreach outer hfresh current
    have hplain := isPlainValue_elements hne
    have hmissing := Entries.lookup_eq_none_of_not_mem (hfresh _ List.mem_cons_self hplain key rfl)
    obtain ⟨first, tables, rfl⟩ := List.exists_cons_of_ne_nil hne
    obtain ⟨made, middle, hrun, hsame⟩ := hreach.run_elements
      (fun members hmem => ⟨htables members hmem, ih members hmem⟩) []
      (hreach.apply_openElement_first hmissing) current
    obtain ⟨final, last, hrest, hgrowth⟩ := ihrest hreach (outer.put key (.elements made))
      (hfresh.put hkey hmissing (.elements made)) middle
    refine ⟨final, last, ?_, hgrowth.node (.elements made) hplain hmissing (.sequence hsame)⟩
    rw [subsections_elements, List.flatMap_append]
    exact (foldlM_append_of_eq_some hrun).trans hrest

end Growth

end DuplexAudio.Toml
