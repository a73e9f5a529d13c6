import NodeKit.Disk.Walk
import NodeKit.Proofs.Disk.Resolve

/-!
# What a walk meets

A walk prunes: it does not enter a folder that a glob matches. So it meets exactly
those entries for which no glob matches the names up to them, at any depth, and it
meets each of them once. The listing order decides nothing but the order of the
visits.
-/
namespace NodeKit

/-- Whether no glob matches any of the names below a folder on the way to its last. `lead` are
the names of the folder itself. -/
def Reaches (globs : List Glob) (lead names : List Text) : Prop :=
  ∀ front, front ≠ [] → front <+: names → excludes globs (lead ++ front) = false

/-- The visit that a node gets when no glob matches it. -/
def Visit.ofNode (path : Text) : Node → Visit
  | .folder _ => .folder path
  | _ => .file path

/-- The visits that one entry of a folder comes to. -/
def visitsOf (globs : List Glob) (path : Text) (lead : List Text) (name : Text) (node : Node) :
    List Visit :=
  if excludes globs (lead ++ [name]) then [.excluded (Path.join path name)]
  else Visit.ofNode (Path.join path name) node ::
    walkEntries globs (Path.join path name) (lead ++ [name]) (node.entries?.getD [])

/-- The path of a visit. -/
def Visit.path : Visit → Text
  | .folder path => path
  | .file path => path
  | .excluded path => path
  | .unreadable path _ => path

variable {globs : List Glob} {path name : Text} {lead names : List Text} {entries : Entries}
  {node : Node}

/-- Induction over everything in a folder: the entries below an entry and the entries behind it. -/
theorem Entries.induction {P : Entries → Prop} (nil : P [])
    (cons : ∀ name node rest, P (node.entries?.getD []) → P rest → P ((name, node) :: rest)) :
    ∀ entries, P entries
  | [] => nil
  | (name, .file content) :: rest => cons name (.file content) rest nil (induction nil cons rest)
  | (name, .link target) :: rest => cons name (.link target) rest nil (induction nil cons rest)
  | (name, .folder entries) :: rest =>
    cons name (.folder entries) rest (induction nil cons entries) (induction nil cons rest)

@[simp] lemma walkEntries_nil (globs : List Glob) (path : Text) (lead : List Text) :
    walkEntries globs path lead [] = [] := by
  simp [walkEntries]

lemma walkEntries_cons (globs : List Glob) (path : Text) (lead : List Text) (name : Text)
    (node : Node) (rest : Entries) :
    walkEntries globs path lead ((name, node) :: rest) =
      visitsOf globs path lead name node ++ walkEntries globs path lead rest := by
  cases node <;> simp [walkEntries, visitsOf, Visit.ofNode, Node.entries?]

lemma reaches_nil (globs : List Glob) (lead : List Text) : Reaches globs lead [] := by
  intro front hne hfront
  exact absurd (List.prefix_nil.1 hfront) hne

lemma reaches_cons :
    Reaches globs lead (name :: names) ↔
      excludes globs (lead ++ [name]) = false ∧ Reaches globs (lead ++ [name]) names := by
  constructor
  · intro h
    refine ⟨h [name] (by simp) (by simp), ?_⟩
    intro front _ hfront
    rw [List.append_assoc, List.singleton_append]
    exact h (name :: front) (by simp) (List.cons_prefix_cons.2 ⟨rfl, hfront⟩)
  · rintro ⟨hname, hrest⟩ front hne hfront
    obtain ⟨first, front, rfl⟩ := List.exists_cons_of_ne_nil hne
    obtain ⟨rfl, hbehind⟩ := List.cons_prefix_cons.1 hfront
    by_cases hempty : front = []
    · subst hempty
      exact hname
    · have htail := hrest front hempty hbehind
      rwa [List.append_assoc, List.singleton_append] at htail

namespace Node

/-- What is below a folder is at the name of an entry or below it. -/
lemma at?_folder_cons {child : Node}
    (hnodup : (((name, node) :: entries).map Prod.fst).Nodup) (hne : names ≠ []) :
    (Node.folder ((name, node) :: entries)).at? names = some child ↔
      (∃ rest, names = name :: rest ∧ node.at? rest = some child) ∨
        (Node.folder entries).at? names = some child := by
  obtain ⟨first, rest, rfl⟩ := List.exists_cons_of_ne_nil hne
  obtain ⟨hfresh, -⟩ := List.nodup_cons.1 hnodup
  by_cases hfirst : first = name
  · subst hfirst
    have hnone : entries.lookup first = none := by
      refine List.lookup_eq_none_iff.2 fun entry hentry => ?_
      have hne : entry.1 ≠ first := by
        rintro rfl
        exact hfresh (List.mem_map.2 ⟨entry, hentry, rfl⟩)
      simpa using Ne.symm hne
    simp [hnone, at?, entries?]
  · have hb : (first == name) = false := by simpa using hfirst
    simp [at?, entries?, List.lookup_cons, hb, hfirst]

lemma at?_folder_entries (node : Node) (hne : names ≠ []) :
    (Node.folder (node.entries?.getD [])).at? names = node.at? names := by
  obtain ⟨first, rest, rfl⟩ := List.exists_cons_of_ne_nil hne
  cases node <;> simp [at?, entries?]

lemma Plain.folder_entries (hplain : node.Plain) :
    (Node.folder (node.entries?.getD [])).Plain := by
  cases hplain with
  | file content => exact .folder (by simp [entries?]) (by simp [entries?]) (by simp [entries?])
  | folder hnodup hnamed hentries => exact .folder hnodup hnamed hentries

lemma Plain.head {entry : Text × Node} (hplain : (Node.folder (entry :: entries)).Plain) :
    Path.IsName entry.1 ∧ entry.2.Plain :=
  ⟨hplain.named List.mem_cons_self, hplain.of_mem List.mem_cons_self⟩

lemma Plain.tail {entry : Text × Node} (hplain : (Node.folder (entry :: entries)).Plain) :
    (Node.folder entries).Plain :=
  .folder (List.nodup_cons.1 hplain.nodup).2
    (fun _ h => hplain.named (List.mem_cons_of_mem _ h))
    (fun _ h => hplain.of_mem (List.mem_cons_of_mem _ h))

end Node

/-- Pruning comes to the declarative rule: an entry is met when no glob matches the names up to
it. -/
lemma mem_walkEntries (hplain : (Node.folder entries).Plain) {visit : Visit}
    (hvisit : ∀ path, visit ≠ .excluded path) :
    visit ∈ walkEntries globs path lead entries ↔
      ∃ names node, names ≠ [] ∧ (Node.folder entries).at? names = some node ∧
        Reaches globs lead names ∧ visit = .ofNode (Path.below path names) node := by
  induction entries using Entries.induction generalizing path lead with
  | nil =>
    constructor
    · intro h
      simp at h
    · rintro ⟨names, node, hne, hnode, -⟩
      obtain ⟨name, rest, rfl⟩ := List.exists_cons_of_ne_nil hne
      cases hnode
  | cons name node rest ihBelow ihBehind =>
    have hbelow := @ihBelow (Path.join path name) (lead ++ [name])
      hplain.head.2.folder_entries
    have hbehind := @ihBehind path lead hplain.tail
    rw [walkEntries_cons, List.mem_append, hbehind]
    constructor
    · rintro (hmem | ⟨names, child, hne, hchild, hreaches, hofNode⟩)
      · unfold visitsOf at hmem
        split at hmem
        · exact absurd (List.mem_singleton.1 hmem) (hvisit _)
        · next hexcludes =>
          have hpasses : excludes globs (lead ++ [name]) = false := by simpa using hexcludes
          rcases List.mem_cons.1 hmem with hself | hmem
          · exact ⟨[name], node, by simp, by simp [Node.at?, Node.entries?],
              reaches_cons.2 ⟨hpasses, reaches_nil _ _⟩, hself⟩
          · obtain ⟨names, child, hne, hchild, hreaches, hofNode⟩ := hbelow.1 hmem
            rw [Node.at?_folder_entries node hne] at hchild
            exact ⟨name :: names, child, by simp,
              (Node.at?_folder_cons hplain.nodup (by simp)).2 (Or.inl ⟨names, rfl, hchild⟩),
              reaches_cons.2 ⟨hpasses, hreaches⟩, hofNode⟩
      · exact ⟨names, child, hne, (Node.at?_folder_cons hplain.nodup hne).2 (Or.inr hchild),
          hreaches, hofNode⟩
    · rintro ⟨names, child, hne, hchild, hreaches, hofNode⟩
      rcases (Node.at?_folder_cons hplain.nodup hne).1 hchild with ⟨below, rfl, hinside⟩ | hbehind
      · left
        obtain ⟨hpasses, hreaches⟩ := reaches_cons.1 hreaches
        unfold visitsOf
        rw [hpasses, if_neg (by simp), List.mem_cons]
        by_cases hempty : below = []
        · subst hempty
          cases hinside
          exact Or.inl hofNode
        · rw [← Node.at?_folder_entries node hempty] at hinside
          exact Or.inr (hbelow.2 ⟨below, child, hempty, hinside, hreaches, hofNode⟩)
      · exact Or.inr ⟨names, child, hne, hbehind, hreaches, hofNode⟩

@[simp] lemma Visit.path_ofNode (path : Text) (node : Node) :
    (Visit.ofNode path node).path = path := by
  cases node <;> rfl

/-- The visits of an entry are on its own path and below it. -/
lemma parts_of_mem_visitsOf (hname : Path.IsName name) {visit : Visit}
    (hbelow : ∀ below ∈ walkEntries globs (Path.join path name) (lead ++ [name])
      (node.entries?.getD []), ∃ rest,
        Path.parts below.path = Path.parts (Path.join path name) ++ rest)
    (h : visit ∈ visitsOf globs path lead name node) :
    ∃ rest, Path.parts visit.path = Path.parts path ++ name :: rest := by
  have hparts : Path.parts (Path.join path name) = Path.parts path ++ [name] :=
    Path.parts_join hname
  unfold visitsOf at h
  split at h
  · obtain rfl := List.mem_singleton.1 h
    exact ⟨[], hparts⟩
  · rcases List.mem_cons.1 h with rfl | h
    · exact ⟨[], by rw [Visit.path_ofNode, hparts]⟩
    · obtain ⟨rest, hrest⟩ := hbelow visit h
      exact ⟨rest, by rw [hrest, hparts, List.append_assoc, List.singleton_append]⟩

lemma parts_of_mem_walkEntries (hplain : (Node.folder entries).Plain) {visit : Visit}
    (h : visit ∈ walkEntries globs path lead entries) :
    ∃ name ∈ entries.map Prod.fst, ∃ rest,
      Path.parts visit.path = Path.parts path ++ name :: rest := by
  induction entries using Entries.induction generalizing path lead visit with
  | nil => simp at h
  | cons name node rest ihBelow ihBehind =>
    obtain ⟨hname, hnode⟩ := hplain.head
    rw [walkEntries_cons] at h
    rcases List.mem_append.1 h with hself | hbehind
    · refine ⟨name, List.mem_cons_self, parts_of_mem_visitsOf hname ?_ hself⟩
      intro below hbelow
      obtain ⟨first, -, further, hparts⟩ := ihBelow hnode.folder_entries hbelow
      exact ⟨first :: further, hparts⟩
    · obtain ⟨other, hother, further, hparts⟩ := ihBehind hplain.tail hbehind
      exact ⟨other, List.mem_cons_of_mem _ hother, further, hparts⟩

/-- Nothing is met twice. -/
lemma nodup_walkEntries (hplain : (Node.folder entries).Plain) :
    ((walkEntries globs path lead entries).map Visit.path).Nodup := by
  induction entries using Entries.induction generalizing path lead with
  | nil => simp
  | cons name node rest ihBelow ihBehind =>
    obtain ⟨hname, hnode⟩ := hplain.head
    have hbelow : ∀ below ∈ walkEntries globs (Path.join path name) (lead ++ [name])
        (node.entries?.getD []), ∃ first rest,
          Path.parts below.path = Path.parts (Path.join path name) ++ first :: rest := by
      intro below hmem
      obtain ⟨first, -, rest, hparts⟩ := parts_of_mem_walkEntries hnode.folder_entries hmem
      exact ⟨first, rest, hparts⟩
    rw [walkEntries_cons, List.map_append, List.nodup_append]
    refine ⟨?_, ihBehind hplain.tail, ?_⟩
    · unfold visitsOf
      split
      · simp
      · rw [List.map_cons, List.nodup_cons, Visit.path_ofNode]
        refine ⟨?_, ihBelow hnode.folder_entries⟩
        intro hself
        obtain ⟨visit, hvisit, hpath⟩ := List.mem_map.1 hself
        obtain ⟨first, further, hparts⟩ := hbelow visit hvisit
        rw [hpath] at hparts
        simp at hparts
    · intro one hone other hother
      obtain ⟨visit, hvisit, rfl⟩ := List.mem_map.1 hone
      obtain ⟨visit', hvisit', rfl⟩ := List.mem_map.1 hother
      obtain ⟨further, hparts⟩ := parts_of_mem_visitsOf hname (fun below h => by
        obtain ⟨first, rest, hrest⟩ := hbelow below h
        exact ⟨first :: rest, hrest⟩) hvisit
      obtain ⟨first, hfirst, further', hparts'⟩ := parts_of_mem_walkEntries hplain.tail hvisit'
      intro hsame
      rw [hsame, hparts'] at hparts
      obtain ⟨rfl, -⟩ := List.cons.inj (List.append_cancel_left hparts)
      exact (List.nodup_cons.1 hplain.nodup).1 hfirst

lemma walkEntries_append (globs : List Glob) (path : Text) (lead : List Text)
    (entries behind : Entries) :
    walkEntries globs path lead (entries ++ behind) =
      walkEntries globs path lead entries ++ walkEntries globs path lead behind := by
  induction entries with
  | nil => simp
  | cons entry entries ih =>
    obtain ⟨name, node⟩ := entry
    rw [List.cons_append, walkEntries_cons, walkEntries_cons, ih, List.append_assoc]

/-- A walk does not see the bytes of the files that it meets. -/
lemma walkEntries_put {old new : ByteArray} {location : Location}
    (h : node.at? location = some (.file old)) :
    walkEntries globs path lead ((node.put (.file new) location).entries?.getD []) =
      walkEntries globs path lead (node.entries?.getD []) := by
  induction location generalizing node path lead with
  | nil =>
    cases h
    rfl
  | cons name rest ih =>
    obtain ⟨entries, next, rfl, hnext, hold⟩ := Node.at?_cons_eq_some.1 h
    obtain ⟨front, behind, rfl, hput⟩ :=
      Entries.put_eq_of_lookup (next.put (.file new) rest) hnext
    have hofNode (path : Text) :
        Visit.ofNode path (next.put (.file new) rest) = .ofNode path next := by
      cases rest with
      | nil =>
        cases hold
        rfl
      | cons =>
        obtain ⟨_, _, rfl, -⟩ := Node.at?_cons_eq_some.1 hold
        rfl
    have hentries : ((Node.folder (front ++ (name, next) :: behind)).put (.file new)
        (name :: rest)).entries?.getD [] =
          front ++ (name, next.put (.file new) rest) :: behind := by
      simp only [Node.put, Node.entries?, Option.getD_some, hnext, hput]
    have hself : (Node.folder (front ++ (name, next) :: behind)).entries?.getD [] =
        front ++ (name, next) :: behind := rfl
    rw [hentries, hself, walkEntries_append, walkEntries_append, walkEntries_cons,
      walkEntries_cons, visitsOf, visitsOf, ih hold, hofNode]

namespace Disk

variable {disk : Disk} {root : Text} {home location : Location}

lemma walk_eq_of_resolve {followLast : Bool} (hplain : disk.top.Plain)
    (hroot : disk.resolve followLast root = .ok (home, .folder entries)) :
    disk.walk globs root = .folder root :: walkEntries globs root [] entries := by
  have hfalse : disk.resolve false root = .ok (home, .folder entries) :=
    (resolve_eq_ok hplain).2 ((resolve_eq_ok hplain).1 hroot)
  simp [walk, hfalse]

/-- Overwriting a file changes no walk from a folder. -/
lemma walk_store (hplain : disk.top.Plain) {followLast : Bool}
    (hroot : disk.resolve followLast root = .ok (home, .folder entries)) {old : ByteArray}
    (h : disk.top.at? location = some (.file old)) (content : ByteArray) :
    (disk.store location content).walk globs root = disk.walk globs root := by
  obtain ⟨-, -, hhome⟩ := (resolve_eq_ok hplain).1 hroot
  have hne : home ≠ location := by
    rintro rfl
    rw [hhome] at h
    cases h
  have hframe := Node.at?_put_of_ne
    (fun node => (node.kind, walkEntries globs root [] (node.entries?.getD []))) (.file content)
    (fun _ _ _ h => congrArg (Prod.mk Node.Kind.folder) (walkEntries_put h)) rfl h hne
  rw [hhome] at hframe
  obtain ⟨folder, hfolder, hsame⟩ := Option.map_eq_some_iff.1 hframe
  obtain ⟨hkind, hwalk⟩ := Prod.ext_iff.1 hsame
  cases folder with
  | file => cases hkind
  | link => cases hkind
  | folder entries' =>
    have hroot' := resolve_of_sameShape hplain (plain_store h content hplain)
      (sameShape_store h content) hroot hfolder
    rw [walk_eq_of_resolve (plain_store h content hplain) hroot', walk_eq_of_resolve hplain hroot]
    exact congrArg _ hwalk

end Disk

end NodeKit
