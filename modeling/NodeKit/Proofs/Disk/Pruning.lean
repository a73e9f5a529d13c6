import NodeKit.Proofs.Disk.Files

/-!
# What pruning leaves

Pruning acts on folders, while the rule that it comes to speaks of single entries: an
entry is reached when no glob matches the names of it or of a folder on the way to it.
So of the globs only the set of entries that they let through can be seen. In particular
two lists of globs that let the same files through have the same files visited, in the
same order, even if one of them has folders entered that the other passes over.
-/
namespace NodeKit

/-- Whether a visit is one that a run counts: to a file, or to a root that cannot be opened. -/
def Visit.isCounted : Visit → Bool
  | .folder _ | .excluded _ => false
  | .file _ | .unreadable _ _ => true

/-- Whether a walk comes to a location: it visits what is there, under a path that leads there. -/
def Disk.Reached (disk : Disk) (globs : List Glob) (root : Text) (location : Location) : Prop :=
  ∃ path node, .ofNode path node ∈ disk.walk globs root ∧
    disk.resolve true path = .ok (location, node)

variable {globs others : List Glob} {path name : Text} {lead names : List Text}
  {entries : Entries} {node : Node}

lemma excludes_eq_false :
    excludes globs names = false ↔ ∀ glob ∈ globs, glob.matchesPath names = false := by
  simp [excludes]

@[simp] lemma Visit.ofNode_ne_excluded (path other : Text) (node : Node) :
    Visit.ofNode path node ≠ .excluded other := by
  cases node <;> simp [Visit.ofNode]

/-- More globs let less through. -/
lemma Reaches.of_subset (hsubset : globs ⊆ others) (h : Reaches others lead names) :
    Reaches globs lead names := by
  intro front hne hfront
  rw [excludes_eq_false]
  intro glob hglob
  exact excludes_eq_false.1 (h front hne hfront) glob (hsubset hglob)

/-! ## The entries that are reached -/

/-- A walk from a folder comes to what is below it and let through, and to the folder itself. -/
lemma Disk.reached_iff {disk : Disk} {root : Text} {home location : Location}
    (hplain : disk.top.Plain) (hroot : disk.resolve true root = .ok (home, .folder entries)) :
    disk.Reached globs root location ↔
      ∃ names node, location = home ++ names ∧ disk.top.at? location = some node ∧
        Reaches globs [] names := by
  obtain ⟨-, -, hhome⟩ := (resolve_eq_ok hplain).1 hroot
  have hat := at?_home_append hplain hroot
  unfold Reached
  rw [walk_eq_of_resolve hplain hroot]
  constructor
  · rintro ⟨path, node, hvisit, hresolve⟩
    rcases List.mem_cons.1 hvisit with hself | hbelow
    · have hpath : path = root :=
        (Visit.path_ofNode path node).symm.trans (congrArg Visit.path hself)
      rw [hpath, hroot] at hresolve
      cases hresolve
      exact ⟨[], .folder entries, (List.append_nil home).symm, hhome, reaches_nil globs []⟩
    · obtain ⟨names, child, -, hchild, hreaches, hofNode⟩ :=
        (mem_walkEntries (hplain.at? hhome) (Visit.ofNode_ne_excluded path · node)).1 hbelow
      have hpath : path = Path.below root names := by
        simpa using congrArg Visit.path hofNode
      rw [hpath, resolve_below hplain hroot hchild] at hresolve
      cases hresolve
      exact ⟨names, node, rfl, (hat names).trans hchild, hreaches⟩
  · rintro ⟨names, node, rfl, hnode, hreaches⟩
    rw [hat] at hnode
    refine ⟨Path.below root names, node, ?_, resolve_below hplain hroot hnode⟩
    by_cases hempty : names = []
    · subst hempty
      cases hnode
      exact List.mem_cons_self
    · exact List.mem_cons_of_mem _ ((mem_walkEntries (hplain.at? hhome)
        (Visit.ofNode_ne_excluded _ · node)).2 ⟨names, node, hempty, hnode, hreaches, rfl⟩)

/-! ## The files that are visited -/

lemma Node.ne_nil_of_at?_folder {content : ByteArray}
    (h : (Node.folder entries).at? names = some (.file content)) : names ≠ [] := by
  rintro rfl
  cases h

/-- No file is visited in a folder when none below it is let through. -/
lemma filter_walkEntries_eq_nil (hplain : (Node.folder entries).Plain)
    (h : ∀ names content, (Node.folder entries).at? names = some (.file content) →
      ¬ Reaches globs lead names) :
    (walkEntries globs path lead entries).filter Visit.isCounted = [] := by
  rw [List.filter_eq_nil_iff]
  intro visit hvisit hcounted
  have hmet : ∀ path, visit ≠ .excluded path := by
    rintro path rfl
    cases hcounted
  obtain ⟨names, node, -, hnode, hreaches, rfl⟩ := (mem_walkEntries hplain hmet).1 hvisit
  cases node with
  | folder entries => cases hcounted
  | link target => cases hplain.at? hnode
  | file content => exact h names content hnode hreaches

lemma filter_visitsOf_eq_nil (hplain : node.Plain)
    (h : ∀ names content, node.at? names = some (.file content) →
      ¬ Reaches globs lead (name :: names)) :
    (visitsOf globs path lead name node).filter Visit.isCounted = [] := by
  unfold visitsOf
  split
  · rfl
  · next hexcludes =>
    have hpasses : excludes globs (lead ++ [name]) = false := by simpa using hexcludes
    have hbelow : (walkEntries globs (Path.join path name) (lead ++ [name])
        (node.entries?.getD [])).filter Visit.isCounted = [] := by
      apply filter_walkEntries_eq_nil hplain.folder_entries
      intro names content hcontent hreaches
      rw [Node.at?_folder_entries node (Node.ne_nil_of_at?_folder hcontent)] at hcontent
      exact h names content hcontent (reaches_cons.2 ⟨hpasses, hreaches⟩)
    have hself : (Visit.ofNode (Path.join path name) node).isCounted = false := by
      cases hplain with
      | file content =>
        exact absurd (reaches_cons.2 ⟨hpasses, reaches_nil _ _⟩) (h [] content rfl)
      | folder => rfl
    rw [List.filter_cons_of_neg (by simp [hself]), hbelow]

/-- Globs that let the same files through have the same files visited in the same order. -/
lemma filter_walkEntries_congr (hplain : (Node.folder entries).Plain)
    (h : ∀ names content, (Node.folder entries).at? names = some (.file content) →
      (Reaches globs lead names ↔ Reaches others lead names)) :
    (walkEntries globs path lead entries).filter Visit.isCounted =
      (walkEntries others path lead entries).filter Visit.isCounted := by
  induction entries using Entries.induction generalizing path lead with
  | nil => simp
  | cons name node rest ihBelow ihBehind =>
    obtain ⟨-, hnode⟩ := hplain.head
    have hinside : ∀ names content, node.at? names = some (.file content) →
        (Reaches globs lead (name :: names) ↔ Reaches others lead (name :: names)) := by
      intro names content hcontent
      exact h (name :: names) content
        ((Node.at?_folder_cons hplain.nodup (by simp)).2 (Or.inl ⟨names, rfl, hcontent⟩))
    have hbehind : ∀ names content, (Node.folder rest).at? names = some (.file content) →
        (Reaches globs lead names ↔ Reaches others lead names) := by
      intro names content hcontent
      exact h names content ((Node.at?_folder_cons hplain.nodup
        (Node.ne_nil_of_at?_folder hcontent)).2 (Or.inr hcontent))
    rw [walkEntries_cons, walkEntries_cons, List.filter_append, List.filter_append,
      ihBehind hplain.tail hbehind]
    congr 1
    -- an entry without a file that is let through may be passed over by one list only
    by_cases hfile : ∃ names content, node.at? names = some (.file content) ∧
        Reaches globs lead (name :: names)
    · obtain ⟨names, content, hcontent, hreaches⟩ := hfile
      have hpasses := (reaches_cons.1 hreaches).1
      have hpasses' := (reaches_cons.1 ((hinside names content hcontent).1 hreaches)).1
      unfold visitsOf
      rw [hpasses, hpasses', if_neg Bool.false_ne_true, if_neg Bool.false_ne_true,
        List.filter_cons, List.filter_cons, ihBelow hnode.folder_entries]
      intro names content hcontent
      rw [Node.at?_folder_entries node (Node.ne_nil_of_at?_folder hcontent)] at hcontent
      have hsame := hinside names content hcontent
      rwa [reaches_cons, reaches_cons, hpasses, hpasses', eq_self, true_and, true_and] at hsame
    · have hnone : ∀ names content, node.at? names = some (.file content) →
          ¬ Reaches globs lead (name :: names) := by
        intro names content hcontent hreaches
        exact hfile ⟨names, content, hcontent, hreaches⟩
      rw [filter_visitsOf_eq_nil hnode hnone, filter_visitsOf_eq_nil hnode]
      intro names content hcontent
      exact mt (hinside names content hcontent).2 (hnone names content hcontent)

lemma Disk.filter_walk_congr {disk : Disk} {root : Text} {home : Location}
    (hplain : disk.top.Plain) (hroot : disk.resolve true root = .ok (home, .folder entries))
    (h : ∀ names content, disk.contentAt? (home ++ names) = some content →
      (Reaches globs [] names ↔ Reaches others [] names)) :
    (disk.walk globs root).filter Visit.isCounted =
      (disk.walk others root).filter Visit.isCounted := by
  obtain ⟨-, -, hhome⟩ := (resolve_eq_ok hplain).1 hroot
  have hentries : (walkEntries globs root [] entries).filter Visit.isCounted =
      (walkEntries others root [] entries).filter Visit.isCounted := by
    apply filter_walkEntries_congr (hplain.at? hhome)
    intro names content hcontent
    apply h names content
    rwa [contentAt?_eq_some, at?_home_append hplain hroot]
  rw [walk_eq_of_resolve hplain hroot, walk_eq_of_resolve hplain hroot,
    List.filter_cons, List.filter_cons, hentries]

end NodeKit
