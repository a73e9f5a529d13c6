import NodeKit.Disk.Basic
import NodeKit.Proofs.Disk.Path

/-!
# Disks without links

A plain disk holds files and folders, and no folder lists a name twice. What stands
at a location is then described by its kind and, for a file, by its bytes. Where a
path leads depends on the kinds alone, so overwriting files never redirects a path.
-/
namespace NodeKit

/-- Files and folders only, every name admissible and listed once. -/
inductive Node.Plain : Node → Prop where
  | file (content : ByteArray) : Node.Plain (.file content)
  | folder {entries : Entries} (nodup : (entries.map Prod.fst).Nodup)
      (named : ∀ entry ∈ entries, Path.IsName entry.1)
      (plain : ∀ entry ∈ entries, Node.Plain entry.2) : Node.Plain (.folder entries)

inductive Node.Kind where
  | file
  | link
  | folder
deriving DecidableEq, Repr

def Node.kind : Node → Node.Kind
  | .file _ => .file
  | .link _ => .link
  | .folder _ => .folder

/-- The bytes of a file; none for anything else. -/
def Node.content? : Node → Option ByteArray
  | .file content => some content
  | _ => none

namespace Entries

variable {entries : Entries} {name : Text} {node : Node}

lemma mem_of_lookup (h : entries.lookup name = some node) : (name, node) ∈ entries := by
  obtain ⟨front, behind, hentries, -⟩ := List.lookup_eq_some_iff.1 h
  simp [hentries]

/-- The entries around the one with a name, which are kept when its node is replaced. -/
lemma put_eq_of_lookup {old : Node} (node : Node) (h : entries.lookup name = some old) :
    ∃ front behind, entries = front ++ (name, old) :: behind ∧
      put name node entries = front ++ (name, node) :: behind := by
  induction entries with
  | nil => cases h
  | cons entry entries ih =>
    obtain ⟨first, child⟩ := entry
    by_cases hfirst : first = name
    · subst hfirst
      obtain rfl : child = old := by simpa using h
      exact ⟨[], entries, rfl, by simp [put]⟩
    · have hb : (name == first) = false := by simpa using Ne.symm hfirst
      rw [List.lookup_cons, hb] at h
      obtain ⟨front, behind, rfl, hput⟩ := ih h
      exact ⟨(first, child) :: front, behind, rfl, by simp [put, hfirst, hput]⟩

lemma put_self (h : entries.lookup name = some node) : put name node entries = entries := by
  obtain ⟨front, behind, hentries, hput⟩ := put_eq_of_lookup node h
  rw [hput, hentries]

end Entries

namespace Node

variable {node new child : Node} {location : Location} {entries : Entries}

lemma Plain.nodup (hplain : (Node.folder entries).Plain) : (entries.map Prod.fst).Nodup := by
  cases hplain with
  | folder hnodup _ _ => exact hnodup

lemma Plain.named (hplain : (Node.folder entries).Plain) {entry : Text × Node}
    (hentry : entry ∈ entries) : Path.IsName entry.1 := by
  cases hplain with
  | folder _ hnamed _ => exact hnamed entry hentry

lemma Plain.of_mem (hplain : (Node.folder entries).Plain) {entry : Text × Node}
    (hentry : entry ∈ entries) : entry.2.Plain := by
  cases hplain with
  | folder _ _ hentries => exact hentries entry hentry

lemma at?_cons_eq_some {name : Text} {rest : Location} :
    node.at? (name :: rest) = some child ↔
      ∃ entries next, node = .folder entries ∧ entries.lookup name = some next ∧
        next.at? rest = some child := by
  cases node <;> simp [at?, entries?, Option.bind_eq_some_iff]

lemma at?_append (node : Node) (location rest : Location) :
    node.at? (location ++ rest) = (node.at? location).bind (·.at? rest) := by
  induction location generalizing node with
  | nil => rfl
  | cons name location ih =>
    simp only [List.cons_append, at?, ih, Option.bind_assoc]

lemma Plain.at? (hplain : node.Plain) (h : node.at? location = some child) : child.Plain := by
  induction location generalizing node with
  | nil =>
    cases h
    exact hplain
  | cons name rest ih =>
    obtain ⟨entries, next, rfl, hnext, hchild⟩ := at?_cons_eq_some.1 h
    exact ih (hplain.of_mem (Entries.mem_of_lookup hnext)) hchild

lemma Plain.isName_of_at? (hplain : node.Plain) (h : node.at? location = some child)
    {name : Text} (hname : name ∈ location) : Path.IsName name := by
  induction location generalizing node with
  | nil => cases hname
  | cons first rest ih =>
    obtain ⟨entries, next, rfl, hnext, hchild⟩ := at?_cons_eq_some.1 h
    have hmem := Entries.mem_of_lookup hnext
    rcases List.mem_cons.1 hname with rfl | hname
    · exact hplain.named hmem
    · exact ih (hplain.of_mem hmem) hchild hname

/-- A plain node stays plain when another one takes the place of something in it. -/
lemma Plain.put {old : Node} (hplain : node.Plain) (hnew : new.Plain)
    (h : node.at? location = some old) : (node.put new location).Plain := by
  induction location generalizing node with
  | nil => exact hnew
  | cons name rest ih =>
    obtain ⟨entries, next, rfl, hnext, hold⟩ := at?_cons_eq_some.1 h
    cases hplain with
    | folder hnodup hnamed hentries =>
      have hput : (next.put new rest).Plain :=
        ih (hentries _ (Entries.mem_of_lookup hnext)) hold
      obtain ⟨front, behind, rfl, hchanged⟩ := Entries.put_eq_of_lookup
        (next.put new rest) hnext
      have heq : (Node.folder (front ++ (name, next) :: behind)).put new (name :: rest) =
          .folder (front ++ (name, next.put new rest) :: behind) := by
        simp only [Node.put, entries?, Option.getD_some, hnext, hchanged]
      rw [heq]
      refine .folder (by simpa using hnodup) ?_ ?_
      · simpa [or_imp, forall_and] using hnamed
      · intro entry hentry
        rcases List.mem_append.1 hentry with hfront | hbehind
        · exact hentries entry (List.mem_append_left _ hfront)
        · rcases List.mem_cons.1 hbehind with rfl | hbehind
          · exact hput
          · exact hentries entry (by simp [hbehind])

/-- Putting back what is there changes nothing. -/
lemma put_self (h : node.at? location = some child) : node.put child location = node := by
  induction location generalizing node with
  | nil =>
    cases h
    rfl
  | cons name rest ih =>
    obtain ⟨entries, next, rfl, hnext, hchild⟩ := at?_cons_eq_some.1 h
    simp only [Node.put, entries?, Option.getD_some, hnext, ih hchild, Entries.put_self hnext]

/-- What stands elsewhere stays as it is, as far as `f` sees it, when `f` does not see what
changes below a folder. -/
lemma at?_put_of_ne {α : Type} (f : Node → α) (new : Node) {old : ByteArray}
    (hf : ∀ entries name rest, (Node.folder entries).at? (name :: rest) = some (.file old) →
      f ((Node.folder entries).put new (name :: rest)) = f (.folder entries))
    (hnew : new.entries? = none) (h : node.at? location = some (.file old))
    {other : Location} (hne : other ≠ location) :
    ((node.put new location).at? other).map f = (node.at? other).map f := by
  induction location generalizing node other with
  | nil =>
    obtain ⟨name, rest, rfl⟩ := List.exists_cons_of_ne_nil hne
    cases h
    rw [Node.put, Node.at?, hnew]
    rfl
  | cons name rest ih =>
    obtain ⟨entries, next, rfl, hnext, hold⟩ := at?_cons_eq_some.1 h
    cases other with
    | nil => exact congrArg some (hf entries name rest h)
    | cons other others =>
      by_cases hname : other = name
      · subst hname
        have hne : others ≠ rest := by simpa using hne
        simpa [Node.put, Node.at?, entries?, hnext] using ih hold hne
      · simp [Node.put, Node.at?, entries?, Entries.lookup_put_of_ne hname]

end Node

namespace Disk

/-- What kind of node stands at a location, if any. -/
def kindAt? (disk : Disk) (location : Location) : Option Node.Kind :=
  (disk.top.at? location).map Node.kind

/-- The bytes of the file at a location, if there is one. -/
def contentAt? (disk : Disk) (location : Location) : Option ByteArray :=
  (disk.top.at? location).bind Node.content?

variable {disk : Disk} {location : Location}

lemma contentAt?_eq_some {content : ByteArray} :
    disk.contentAt? location = some content ↔ disk.top.at? location = some (.file content) := by
  unfold contentAt?
  cases disk.top.at? location with
  | none => simp
  | some node => cases node <;> simp [Node.content?]

lemma kindAt?_eq_file :
    disk.kindAt? location = some .file ↔ ∃ content, disk.contentAt? location = some content := by
  unfold kindAt? contentAt?
  cases disk.top.at? location with
  | none => simp
  | some node => cases node <;> simp [Node.kind, Node.content?]

lemma kindAt?_eq_folder :
    disk.kindAt? location = some .folder ↔
      ∃ entries, disk.top.at? location = some (.folder entries) := by
  unfold kindAt?
  cases disk.top.at? location with
  | none => simp
  | some node => cases node <;> simp [Node.kind]

/-- One disk with other bytes in its files. -/
structure SameShape (disk other : Disk) : Prop where
  current_eq : other.current = disk.current
  kindAt?_eq : other.kindAt? = disk.kindAt?

lemma SameShape.refl (disk : Disk) : disk.SameShape disk := ⟨rfl, rfl⟩

lemma SameShape.symm {other : Disk} (h : disk.SameShape other) : other.SameShape disk :=
  ⟨h.current_eq.symm, h.kindAt?_eq.symm⟩

lemma SameShape.trans {other further : Disk} (h : disk.SameShape other)
    (h' : other.SameShape further) : disk.SameShape further :=
  ⟨h'.current_eq.trans h.current_eq, h'.kindAt?_eq.trans h.kindAt?_eq⟩

/-- The same disk, with the entries of every folder listed in any order. -/
structure Relists (listed disk : Disk) : Prop extends disk.SameShape listed where
  plain : listed.top.Plain
  contentAt?_eq : listed.contentAt? = disk.contentAt?

lemma Relists.refl (hplain : disk.top.Plain) : disk.Relists disk :=
  ⟨.refl disk, hplain, rfl⟩

/-- The disk with other bytes in a file. -/
def store (disk : Disk) (location : Location) (content : ByteArray) : Disk :=
  { disk with top := disk.top.put (.file content) location }

lemma store_self {content : ByteArray} (h : disk.contentAt? location = some content) :
    disk.store location content = disk := by
  have hput := Node.put_self (contentAt?_eq_some.1 h)
  unfold store
  rw [hput]

section

variable {old : ByteArray} (h : disk.top.at? location = some (.file old)) (content : ByteArray)
include h

lemma plain_store (hplain : disk.top.Plain) : (disk.store location content).top.Plain :=
  hplain.put (.file content) h

lemma sameShape_store : disk.SameShape (disk.store location content) := by
  refine ⟨rfl, ?_⟩
  funext other
  by_cases hother : other = location
  · subst hother
    simp [kindAt?, store, h, Node.kind]
  · exact Node.at?_put_of_ne Node.kind _ (fun _ _ _ _ => rfl) rfl h hother

lemma contentAt?_store (other : Location) :
    (disk.store location content).contentAt? other =
      if other = location then some content else disk.contentAt? other := by
  split
  · next hother =>
    subst hother
    simp [contentAt?, store, Node.content?]
  · next hother =>
    have hcontent := Node.at?_put_of_ne Node.content? (.file content)
      (fun _ _ _ _ => rfl) rfl h hother
    have hbind := congrArg (·.bind id) hcontent
    simp only [Option.bind_map, Function.id_comp] at hbind
    exact hbind

end

end Disk

end NodeKit
