import NodeKit.Proofs.Disk.Walk

/-!
# The files that a walk meets

A visit to a file names it by a path. Here it is the location that the path leads to
that counts: a walk from a folder comes to the locations of the files below it that
no glob keeps it from, and no walk comes to a location twice. So a walk lists files,
and what a run does to one of them is of no account for the others.
-/
namespace NodeKit.Disk

/-- The location of the file that a visit is to, if it is to one. -/
def fileAt? (disk : Disk) : Visit → Option Location
  | .file path =>
    match disk.resolve true path with
    | .ok (location, .file _) => some location
    | _ => none
  | _ => none

variable {globs : List Glob} {disk : Disk} {location : Location}

lemma fileAt?_eq_some {visit : Visit} :
    disk.fileAt? visit = some location ↔
      ∃ path content, visit = .file path ∧
        disk.resolve true path = .ok (location, .file content) := by
  cases visit with
  | folder path => simp [fileAt?]
  | excluded path => simp [fileAt?]
  | unreadable path fault => simp [fileAt?]
  | file path =>
    cases hresolve : disk.resolve true path with
    | error fault => simp [fileAt?, hresolve]
    | ok found =>
      obtain ⟨reached, node⟩ := found
      cases node <;> simp [fileAt?, hresolve]

section

variable {root : Text} {home : Location} {entries : Entries}
  (hplain : disk.top.Plain) (hroot : disk.resolve true root = .ok (home, .folder entries))
include hplain hroot

lemma at?_home_append (names : List Text) :
    disk.top.at? (home ++ names) = (Node.folder entries).at? names := by
  obtain ⟨-, -, hhome⟩ := (resolve_eq_ok hplain).1 hroot
  rw [Node.at?_append, hhome]
  rfl

lemma names_ne_nil {names : List Text} {content : ByteArray}
    (hcontent : disk.contentAt? (home ++ names) = some content) : names ≠ [] := by
  obtain ⟨-, -, hhome⟩ := (resolve_eq_ok hplain).1 hroot
  rintro rfl
  rw [contentAt?_eq_some, List.append_nil, hhome] at hcontent
  cases hcontent

lemma exists_getLast? {names : List Text} {content : ByteArray}
    (hcontent : disk.contentAt? (home ++ names) = some content) :
    ∃ name, names.getLast? = some name :=
  Option.ne_none_iff_exists'.1
    (mt List.getLast?_eq_none_iff.1 (names_ne_nil hplain hroot hcontent))

/-- The extension of what is below a folder is that of its last name. -/
lemma hasExtension_below {names : List Text} {node : Node} {name : Text}
    (hnode : disk.top.at? (home ++ names) = some node) (hlast : names.getLast? = some name)
    (extension : Text) :
    Path.hasExtension (Path.below root names) extension = Path.hasExtension name extension := by
  obtain ⟨-, -, hhome⟩ := (resolve_eq_ok hplain).1 hroot
  obtain ⟨front, rfl⟩ := List.getLast?_eq_some_iff.1 hlast
  rw [at?_home_append hplain hroot] at hnode
  have hname : Path.IsName name := (hplain.at? hhome).isName_of_at? hnode (by simp)
  rw [Path.below_concat, Path.hasExtension_join hname]

/-- A walk from a folder visits the files below it that no glob keeps it from. -/
lemma file_mem_walk {path : Text} :
    .file path ∈ disk.walk globs root ↔
      ∃ names content, Reaches globs [] names ∧ path = Path.below root names ∧
        disk.contentAt? (home ++ names) = some content := by
  obtain ⟨-, -, hhome⟩ := (resolve_eq_ok hplain).1 hroot
  have hfolder : (Node.folder entries).Plain := hplain.at? hhome
  rw [walk_eq_of_resolve hplain hroot, List.mem_cons, mem_walkEntries hfolder (by simp)]
  constructor
  · rintro (hself | ⟨names, node, hne, hnode, hreaches, hvisit⟩)
    · cases hself
    · cases node with
      | folder below => cases hvisit
      | link target => cases hfolder.at? hnode
      | file content =>
        obtain rfl := Visit.file.inj hvisit
        refine ⟨names, content, hreaches, rfl, ?_⟩
        rw [contentAt?_eq_some, at?_home_append hplain hroot, hnode]
  · rintro ⟨names, content, hreaches, rfl, hcontent⟩
    have hne : names ≠ [] := names_ne_nil hplain hroot hcontent
    rw [contentAt?_eq_some, at?_home_append hplain hroot] at hcontent
    exact .inr ⟨names, .file content, hne, hcontent, hreaches, rfl⟩

lemma fileAt?_below {names : List Text} {content : ByteArray}
    (hcontent : disk.contentAt? (home ++ names) = some content) :
    disk.fileAt? (.file (Path.below root names)) = some (home ++ names) := by
  rw [contentAt?_eq_some, at?_home_append hplain hroot] at hcontent
  exact fileAt?_eq_some.2 ⟨_, content, rfl, resolve_below hplain hroot hcontent⟩

/-- A visit to a file is on the path of its names below the root. -/
lemma names_of_fileAt? {visit : Visit} (hvisit : visit ∈ disk.walk globs root)
    (hfile : disk.fileAt? visit = some location) :
    ∃ names content, Reaches globs [] names ∧
      visit = .file (Path.below root names) ∧ location = home ++ names ∧
      disk.contentAt? location = some content := by
  obtain ⟨path, _, rfl, -⟩ := fileAt?_eq_some.1 hfile
  obtain ⟨names, content, hreaches, rfl, hcontent⟩ := (file_mem_walk hplain hroot).1 hvisit
  obtain rfl : home ++ names = location :=
    Option.some.inj ((fileAt?_below hplain hroot hcontent).symm.trans hfile)
  exact ⟨names, content, hreaches, rfl, rfl, hcontent⟩

/-- The locations that a walk from a folder comes to. -/
lemma mem_files :
    location ∈ (disk.walk globs root).filterMap disk.fileAt? ↔
      ∃ names content, location = home ++ names ∧ Reaches globs [] names ∧
        disk.contentAt? location = some content := by
  rw [List.mem_filterMap]
  constructor
  · rintro ⟨visit, hvisit, hfile⟩
    obtain ⟨names, content, hreaches, -, hlocation, hcontent⟩ :=
      names_of_fileAt? hplain hroot hvisit hfile
    exact ⟨names, content, hlocation, hreaches, hcontent⟩
  · rintro ⟨names, content, rfl, hreaches, hcontent⟩
    exact ⟨_, (file_mem_walk hplain hroot).2 ⟨names, content, hreaches, rfl, hcontent⟩,
      fileAt?_below hplain hroot hcontent⟩

lemma nodup_files_of_folder : ((disk.walk globs root).filterMap disk.fileAt?).Nodup := by
  obtain ⟨-, -, hhome⟩ := (resolve_eq_ok hplain).1 hroot
  have hwalk : disk.walk globs root = .folder root :: walkEntries globs root [] entries :=
    walk_eq_of_resolve hplain hroot
  have hpaths : (walkEntries globs root [] entries).Pairwise fun one other =>
      one.path ≠ other.path := List.pairwise_map.1 (nodup_walkEntries (hplain.at? hhome))
  have hentries : (disk.walk globs root).filterMap disk.fileAt? =
      (walkEntries globs root [] entries).filterMap disk.fileAt? := by
    rw [hwalk]
    exact List.filterMap_cons_none rfl
  rw [hentries, List.Nodup, List.pairwise_filterMap]
  apply hpaths.imp_of_mem
  intro one other hone hother hne location hlocation location' hlocation' hsame
  subst hsame
  have hmem {visit : Visit} (h : visit ∈ walkEntries globs root [] entries) :
      visit ∈ disk.walk globs root := hwalk ▸ List.mem_cons_of_mem _ h
  obtain ⟨names, _, -, rfl, rfl, -⟩ := names_of_fileAt? hplain hroot (hmem hone) hlocation
  obtain ⟨names', _, -, rfl, hnames, -⟩ :=
    names_of_fileAt? hplain hroot (hmem hother) hlocation'
  obtain rfl : names = names' := List.append_cancel_left hnames
  exact hne rfl

end

/-! ## Walks from anywhere -/

section

variable {root : Text} (hplain : disk.top.Plain)
include hplain

lemma walk_of_error {fault : PathFault} (hroot : disk.resolve true root = .error fault) :
    disk.walk globs root = [.unreadable root fault] := by
  have hfalse : disk.resolve false root = .error fault := by
    by_cases hempty : root = []
    · simpa [resolve, hempty] using hroot
    · rwa [resolve_eq_trail hplain _ hempty] at hroot ⊢
  simp [walk, hfalse]

lemma walk_of_file {content : ByteArray}
    (hroot : disk.resolve true root = .ok (location, .file content)) :
    disk.walk globs root = [.file root] := by
  have hfalse : disk.resolve false root = .ok (location, .file content) :=
    (resolve_eq_ok hplain).2 ((resolve_eq_ok hplain).1 hroot)
  simp [walk, hfalse]

/-- No walk comes to a file twice. -/
lemma nodup_files (globs : List Glob) (root : Text) :
    ((disk.walk globs root).filterMap disk.fileAt?).Nodup := by
  cases hroot : disk.resolve true root with
  | error fault => simp [walk_of_error hplain hroot, List.filterMap_cons, fileAt?]
  | ok found =>
    obtain ⟨home, node⟩ := found
    cases node with
    | file content => simp [walk_of_file hplain hroot, fileAt?, hroot]
    | folder entries => exact nodup_files_of_folder hplain hroot
    | link target => cases hplain.at? ((resolve_eq_ok hplain).1 hroot).2.2

/-- A walk from something that is there meets nothing unreadable. -/
lemma unreadable_notMem_walk {found : Location × Node} (hroot : disk.resolve true root = .ok found)
    (path : Text) (fault : PathFault) : .unreadable path fault ∉ disk.walk globs root := by
  obtain ⟨home, node⟩ := found
  obtain ⟨-, -, hhome⟩ := (resolve_eq_ok hplain).1 hroot
  cases node with
  | link target => cases hplain.at? hhome
  | file content => simp [walk_of_file hplain hroot]
  | folder entries =>
    rw [walk_eq_of_resolve hplain hroot, List.mem_cons, mem_walkEntries (hplain.at? hhome) (by simp)]
    rintro (h | ⟨names, node, -, -, -, h⟩)
    · cases h
    · cases node <;> cases h

/-- What a walk visits as a file is one. -/
lemma exists_fileAt? {path : Text} (h : .file path ∈ disk.walk globs root) :
    ∃ location content, disk.resolve true path = .ok (location, .file content) := by
  cases hroot : disk.resolve true root with
  | error fault => simp [walk_of_error hplain hroot] at h
  | ok found =>
    obtain ⟨home, node⟩ := found
    cases node with
    | link target => cases hplain.at? ((resolve_eq_ok hplain).1 hroot).2.2
    | file content =>
      rw [walk_of_file hplain hroot, List.mem_singleton] at h
      cases h
      exact ⟨home, content, hroot⟩
    | folder entries =>
      obtain ⟨names, _, -, rfl, hcontent⟩ := (file_mem_walk hplain hroot).1 h
      obtain ⟨path, content, hpath, hresolve⟩ :=
        fileAt?_eq_some.1 (fileAt?_below hplain hroot hcontent)
      cases hpath
      exact ⟨_, content, hresolve⟩

end

end NodeKit.Disk
