import NodeKit.Disk.Path
import Mathlib.Data.List.Basic

/-!
# Going one name further

A file system gives a name to everything in a folder, and such a name is one step
of a path. Joining it to the path of the folder adds that step, whatever the path
itself looks like: relative or absolute, with dots, with empty parts, with or
without a separator at its end.
-/
namespace NodeKit.Path

/-- What a file system admits as a name in a folder. -/
structure IsName (name : Text) : Prop where
  ne_nil : name ≠ []
  separator_notMem : '/' ∉ name
  ne_dot : name ≠ ['.']
  ne_dots : name ≠ ['.', '.']

instance (name : Text) : Decidable (IsName name) :=
  decidable_of_iff (name ≠ [] ∧ '/' ∉ name ∧ name ≠ ['.'] ∧ name ≠ ['.', '.'])
    ⟨fun ⟨hne, hsep, hdot, hdots⟩ => ⟨hne, hsep, hdot, hdots⟩,
      fun h => ⟨h.ne_nil, h.separator_notMem, h.ne_dot, h.ne_dots⟩⟩

section

variable {path name : Text}

lemma parts_append_cons (front behind : Text) :
    parts (front ++ '/' :: behind) = parts front ++ parts behind := by
  unfold parts
  rw [List.splitOn_append_cons_self, List.filter_append]

lemma parts_of_notMem (hne : path ≠ []) (hsep : '/' ∉ path) : parts path = [path] := by
  unfold parts
  rw [List.splitOn_eq_singleton hsep]
  simp [hne]

lemma parts_join (hname : IsName name) : parts (join path name) = parts path ++ [name] := by
  have hparts : parts name = [name] := parts_of_notMem hname.ne_nil hname.separator_notMem
  unfold join
  split
  · next hlast =>
    obtain ⟨front, rfl⟩ := List.getLast?_eq_some_iff.1 hlast
    have hempty : parts [] = [] := rfl
    rw [List.append_assoc, List.singleton_append, parts_append_cons, parts_append_cons, hparts,
      hempty, List.append_nil]
  · rw [parts_append_cons, hparts]

lemma getLast?_join (hname : IsName name) : (join path name).getLast? = name.getLast? := by
  have hlast : name.getLast? ≠ none := by simpa using hname.ne_nil
  obtain ⟨c, hc⟩ := Option.ne_none_iff_exists'.1 hlast
  unfold join
  split <;> simp [List.getLast?_append, List.getLast?_cons, hc]

lemma join_ne_nil (hname : IsName name) : join path name ≠ [] := by
  have hlast : (join path name).getLast? ≠ none := by
    rw [getLast?_join hname]
    simpa using hname.ne_nil
  simpa using hlast

lemma isAbsolute_join (hpath : path ≠ []) : isAbsolute (join path name) = isAbsolute path := by
  obtain ⟨c, path, rfl⟩ := List.exists_cons_of_ne_nil hpath
  unfold join
  split <;> simp [isAbsolute]

/-- The steps of a path, without the one for a separator at its end. -/
def moves (path : Text) : List Step := (parts path).map Step.ofPart

lemma steps_eq_moves (path : Text) :
    steps path = moves path ∨ steps path = moves path ++ [.here] := by
  unfold steps moves
  split
  · exact Or.inr rfl
  · exact Or.inl (List.append_nil _)

lemma Step.ofPart_of_isName (hname : IsName name) : Step.ofPart name = .into name := by
  simp [Step.ofPart, hname.ne_dot, hname.ne_dots]

lemma steps_join (hname : IsName name) : steps (join path name) = moves path ++ [.into name] := by
  have hlast : (join path name).getLast? ≠ some '/' := by
    rw [getLast?_join hname]
    exact fun h => hname.separator_notMem (List.mem_of_getLast? h)
  simp [steps, moves, hlast, parts_join hname, Step.ofPart_of_isName hname]

lemma fileName?_of_isName (hname : IsName name)
    (hparts : (parts path).getLast? = some name) : fileName? path = some name := by
  obtain ⟨front, hfront⟩ := List.getLast?_eq_some_iff.1 hparts
  simp [fileName?, hfront, List.filter_append, hname.ne_dot, hname.ne_dots]

/-- The extension of a path depends on its last name alone. -/
lemma hasExtension_join (hname : IsName name) (extension : Text) :
    hasExtension (join path name) extension = hasExtension name extension := by
  have hjoin : fileName? (join path name) = some name :=
    fileName?_of_isName hname (by rw [parts_join hname]; simp)
  have hself : fileName? name = some name := by
    apply fileName?_of_isName hname
    rw [parts_of_notMem hname.ne_nil hname.separator_notMem]
    rfl
  simp [hasExtension, extension?, hjoin, hself]

end

/-- The path of the names, one below the other, below a folder. -/
def below (path : Text) (names : List Text) : Text := names.foldl join path

@[simp] lemma below_nil (path : Text) : below path [] = path := rfl

@[simp] lemma below_cons (path name : Text) (names : List Text) :
    below path (name :: names) = below (join path name) names := rfl

lemma below_concat (path name : Text) (names : List Text) :
    below path (names ++ [name]) = join (below path names) name := by
  simp [below, List.foldl_append]

end NodeKit.Path
