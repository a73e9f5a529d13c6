import NodeKit.Proofs.Disk.Path
import NodeKit.Proofs.Text.Words

/-!
# Names at the end of a path, and their extensions

The last name on a path is what stands behind its last separator, apart from
separators and single dots at the end. Its extension is what stands behind its last
dot, so that asking for an extension is asking how the name ends, but not for every
extension and not for every name (`hasExtension_extent`).
-/
namespace NodeKit.Path

/-! ## The last name -/

/-- The path ends in the name, and behind it there are only separators and single dots. -/
structure EndsIn (path name : Text) : Prop where
  isName : IsName name
  ends : ∃ (front : Text) (behind : List Text),
    path = front ++ (name ++ behind.flatMap ('/' :: ·)) ∧
      (front = [] ∨ front.getLast? = some '/') ∧ ∀ part ∈ behind, part = [] ∨ part = ['.']

/-- The parts of a path without the single dots. -/
def names (path : Text) : List Text := (parts path).filter (· ≠ ['.'])

lemma names_eq (path : Text) :
    names path = (path.splitOn '/').filter fun part => part ≠ [] ∧ part ≠ ['.'] := by
  rw [names, parts, List.filter_filter]
  refine List.filter_congr fun part _ => ?_
  rw [Bool.eq_iff_iff]
  simp [and_comm]

lemma names_append_cons (front behind : Text) :
    names (front ++ '/' :: behind) = names front ++ names behind := by
  rw [names, parts_append_cons, List.filter_append, names, names]

lemma names_of_isName {name : Text} (hname : IsName name) : names name = [name] := by
  rw [names, parts_of_notMem hname.ne_nil hname.separator_notMem]
  simp [hname.ne_dot]

/-- Separators and single dots at the end add no names. -/
lemma names_append_flatMap {behind : List Text}
    (h : ∀ part ∈ behind, part = [] ∨ part = ['.']) (path : Text) :
    names (path ++ behind.flatMap ('/' :: ·)) = names path := by
  induction behind generalizing path with
  | nil => simp
  | cons part rest ih =>
    obtain ⟨hpart, hrest⟩ := List.forall_mem_cons.1 h
    have hnone : names part = [] := by rcases hpart with rfl | rfl <;> decide
    rw [List.flatMap_cons, List.cons_append, names_append_cons, ih hrest, hnone, List.append_nil]

lemma fileName?_eq_some_iff_names {path name : Text} :
    fileName? path = some name ↔ (names path).getLast? = some name ∧ name ≠ ['.', '.'] := by
  unfold fileName?
  rw [← names]
  cases (names path).getLast? with
  | none => simp
  | some last =>
    by_cases hdots : last = ['.', '.']
    · simp [hdots, eq_comm]
    · simp only [if_neg hdots, Option.some.injEq]
      constructor
      · rintro rfl
        exact ⟨rfl, hdots⟩
      · exact And.left

lemma joinWith_around (separator : Char) (above below : List Text) (part : Text) :
    Text.joinWith [separator] (above ++ part :: below) =
      above.flatMap (· ++ [separator]) ++ (part ++ below.flatMap (separator :: ·)) := by
  induction above generalizing part below with
  | nil =>
    induction below generalizing part with
    | nil => simp [Text.joinWith]
    | cons next below ih =>
      have hrest := ih next
      rw [List.nil_append, List.flatMap_nil, List.nil_append] at hrest ⊢
      rw [Text.joinWith_cons_of_ne_nil _ _ (List.cons_ne_nil next below), hrest]
      simp
  | cons first above ih =>
    have hne : above ++ part :: below ≠ [] := by simp
    rw [List.cons_append, Text.joinWith_cons_of_ne_nil _ _ hne, ih]
    simp

/-- The last name on a path is the name that it ends in. -/
lemma fileName?_eq_some_iff {path name : Text} :
    fileName? path = some name ↔ EndsIn path name := by
  rw [fileName?_eq_some_iff_names]
  constructor
  · rintro ⟨hlast, hdots⟩
    obtain ⟨earlier, hnames⟩ := List.getLast?_eq_some_iff.1 hlast
    rw [names_eq] at hnames
    obtain ⟨above, rest, hsplit, -, hrest⟩ := List.filter_eq_append_iff.1 hnames
    obtain ⟨skipped, behind, rfl, -, hname, hbehind⟩ := List.filter_eq_cons_iff.1 hrest
    have hjoin : Text.joinWith ['/'] (path.splitOn '/') = path := List.intercalate_splitOn '/'
    have hmem : name ∈ path.splitOn '/' := by simp [hsplit]
    have hname : name ≠ [] ∧ name ≠ ['.'] := by simpa using hname
    refine ⟨⟨hname.1, Text.notMem_of_mem_splitOn hmem, hname.2, hdots⟩,
      (above ++ skipped).flatMap (· ++ ['/']), behind, ?_, ?_, ?_⟩
    · rw [← joinWith_around, List.append_assoc, ← hsplit, hjoin]
    · rcases List.eq_nil_or_concat (above ++ skipped) with hnil | ⟨init, last, hconcat⟩
      · exact Or.inl (by rw [hnil]; rfl)
      · exact Or.inr (by simp [hconcat])
    · intro part hpart
      have hnot := List.filter_eq_nil_iff.1 hbehind part hpart
      by_contra hother
      exact hnot (by simpa using hother)
  · rintro ⟨hname, front, behind, rfl, hfront, hbehind⟩
    refine ⟨?_, hname.ne_dots⟩
    rcases hfront with rfl | hfront
    · rw [List.nil_append, names_append_flatMap hbehind, names_of_isName hname]
      rfl
    · obtain ⟨init, rfl⟩ := List.getLast?_eq_some_iff.1 hfront
      rw [List.append_assoc, List.singleton_append, names_append_cons,
        names_append_flatMap hbehind, names_of_isName hname]
      simp

/-! ## What stands behind the last dot -/

lemma nameExtension?_of_notMem {name : Text} (h : '.' ∉ name) : nameExtension? name = none := by
  have htake : name.reverse.takeWhile (· ≠ '.') = name.reverse := by
    refine List.takeWhile_eq_self_iff.2 fun c hc => decide_eq_true ?_
    rintro rfl
    exact h (List.mem_reverse.1 hc)
  rw [nameExtension?, htake, List.reverse_reverse, if_neg (by omega)]

/-- The last dot of a name is the one that no other dot stands behind. -/
lemma nameExtension?_append_cons (stem : Text) {behind : Text} (h : '.' ∉ behind) :
    nameExtension? (stem ++ '.' :: behind) = if stem = [] then none else some behind := by
  have hall : ∀ c ∈ behind.reverse, decide (c ≠ '.') = true := by
    intro c hc
    rw [decide_eq_true_eq]
    rintro rfl
    exact h (List.mem_reverse.1 hc)
  have htake : (stem ++ '.' :: behind).reverse.takeWhile (· ≠ '.') = behind.reverse := by
    rw [List.reverse_append, List.reverse_cons, List.append_assoc,
      List.takeWhile_append_of_pos hall]
    simp
  rw [nameExtension?, htake, List.reverse_reverse]
  by_cases hstem : stem = []
  · simp [hstem]
  · have hpositive : 0 < stem.length := List.length_pos_iff.2 hstem
    rw [if_neg hstem, if_pos]
    simp only [List.length_append, List.length_cons]
    omega

/-- The extension of a name is what stands behind its last dot, if something stands in front of
that dot. -/
lemma nameExtension?_eq_some_iff {name extension : Text} :
    nameExtension? name = some extension ↔
      '.' ∉ extension ∧ ∃ stem, stem ≠ [] ∧ name = stem ++ '.' :: extension := by
  constructor
  · intro h
    by_cases hdot : '.' ∈ name
    · obtain ⟨behind, front, hname, hnone⟩ := List.eq_append_cons_of_mem (List.mem_reverse.2 hdot)
      have hname : name = front.reverse ++ '.' :: behind.reverse := by
        simpa using congrArg List.reverse hname
      have hnone : '.' ∉ behind.reverse := by simpa using hnone
      rw [hname, nameExtension?_append_cons _ hnone] at h
      split_ifs at h with hstem
      obtain rfl := Option.some.inj h
      exact ⟨hnone, _, hstem, hname⟩
    · rw [nameExtension?_of_notMem hdot] at h
      cases h
  · rintro ⟨hnone, stem, hstem, rfl⟩
    rw [nameExtension?_append_cons stem hnone, if_neg hstem]

/-! ## Asking for an extension -/

/-- Dots in front of an extension that has none there itself do not count. -/
lemma dropWhile_dots {dots extension : Text} (hdots : ∀ c ∈ dots, c = '.')
    (hextension : extension.head? ≠ some '.') :
    (dots ++ extension).dropWhile (· = '.') = extension := by
  have hall : ∀ c ∈ dots, decide (c = '.') = true := fun c hc => decide_eq_true (hdots c hc)
  rw [List.dropWhile_append_of_pos hall]
  cases extension with
  | nil => rfl
  | cons c extension =>
    have hc : c ≠ '.' := fun hc => hextension (by rw [hc]; rfl)
    simp [hc]

/-- A path that ends in a name has an extension when the name ends with a dot and the extension,
unless the extension has a dot inside or the name is nothing more than the dot and the extension.
Dots in front of the extension make no difference. -/
theorem hasExtension_extent {path name dots extension : Text} (hname : EndsIn path name)
    (hdots : ∀ c ∈ dots, c = '.') (hextension : extension.head? ≠ some '.') :
    (hasExtension path (dots ++ extension) = true ↔
      '.' :: extension <:+ name ∧ '.' ∉ extension ∧ name ≠ '.' :: extension) ∧
    hasExtension path (dots ++ extension) = hasExtension path extension := by
  have hasked (dots : Text) (hdots : ∀ c ∈ dots, c = '.') :
      hasExtension path (dots ++ extension) = decide (nameExtension? name = some extension) := by
    rw [hasExtension, extension?, fileName?_eq_some_iff.2 hname, dropWhile_dots hdots hextension]
    rfl
  refine ⟨?_, (hasked dots hdots).trans (hasked [] (by simp)).symm⟩
  rw [hasked dots hdots, decide_eq_true_eq, nameExtension?_eq_some_iff]
  constructor
  · rintro ⟨hnone, stem, hstem, rfl⟩
    exact ⟨List.suffix_append _ _, hnone, by simpa using hstem⟩
  · rintro ⟨⟨stem, rfl⟩, hnone, hmore⟩
    refine ⟨hnone, stem, ?_, rfl⟩
    rintro rfl
    exact hmore rfl

/-- A folder whose path goes on behind its name, and an extension with a dot in front. -/
theorem hasExtension_extent_trailingDot :
    let path : Text := "Nodes/A.B.cs/./"
    EndsIn path "A.B.cs" ∧ hasExtension path ".cs" = true ∧ hasExtension path "B" = false := by
  intro path
  have hname : EndsIn path "A.B.cs" :=
    ⟨by decide, "Nodes/", [['.'], []], by decide, by decide, by decide⟩
  refine ⟨hname, ?_, ?_⟩
  · have hdotted : hasExtension path (['.'] ++ ['c', 's']) = true :=
      (hasExtension_extent hname (by simp) (by decide)).1.2
        ⟨⟨"A.B", rfl⟩, by decide, by decide⟩
    exact hdotted
  · rw [Bool.eq_false_iff]
    intro h
    have hplain : hasExtension path ([] ++ ['B']) = true := h
    have hends := ((hasExtension_extent hname (by simp) (by decide)).1.1 hplain).1
    exact absurd hends (by decide)

/-- A name can end with a dot and the extension without having it: the extension has a dot inside,
or nothing stands in front of the dot. -/
theorem not_hasExtension_of_suffix :
    let name : Text := "AddNode.designer.cs"
    (EndsIn ("Nodes/" ++ name) name ∧ '.' :: "designer.cs".toList <:+ name ∧
      hasExtension ("Nodes/" ++ name) "designer.cs" = false) ∧
    EndsIn "Nodes/.cs" ".cs" ∧ '.' :: "cs".toList <:+ ".cs".toList ∧
      hasExtension "Nodes/.cs" "cs" = false := by
  refine ⟨⟨⟨by decide, "Nodes/", [], by decide, by decide, by decide⟩, ⟨"AddNode", rfl⟩, ?_⟩,
    ⟨by decide, "Nodes/", [], by decide, by decide, by decide⟩, ⟨[], rfl⟩, ?_⟩
  · decide +kernel
  · decide +kernel

end NodeKit.Path
