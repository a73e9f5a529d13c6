import NodeKit.Proofs.Text.Blank

/-!
# Words and the lines they are put into

Words are runs without blanks. A line of words with one space between neighbours
has those words and no others, and lines without line feeds are found again after
they have been joined.
-/
namespace NodeKit.Text

/-- A text that a line can give back as one of its words. -/
structure IsWord (t : Text) : Prop where
  ne_nil : t ≠ []
  not_isBlank : ∀ c ∈ t, ¬ isBlank c

lemma isWord_iff {t : Text} : (!t.isEmpty && t.all (!isBlank ·)) = true ↔ IsWord t := by
  rw [Bool.and_eq_true, List.all_eq_true]
  constructor
  · intro h
    exact ⟨by simpa using h.1, by simpa using h.2⟩
  · intro h
    exact ⟨by simpa using h.ne_nil, by simpa using h.not_isBlank⟩

instance (t : Text) : Decidable (IsWord t) := decidable_of_iff _ isWord_iff

lemma isWord_of_mem_words {t word : Text} (h : word ∈ words t) : IsWord word :=
  ⟨ne_nil_of_mem_words h, fun _ => not_isBlank_of_mem_words h⟩

lemma IsWord.append {s t : Text} (hs : IsWord s) (ht : IsWord t) : IsWord (s ++ t) := by
  refine ⟨List.append_ne_nil_of_left_ne_nil hs.ne_nil t, fun c hc => ?_⟩
  rcases List.mem_append.1 hc with hc | hc
  · exact hs.not_isBlank c hc
  · exact ht.not_isBlank c hc

lemma IsWord.lf_notMem {t : Text} (h : IsWord t) : '\n' ∉ t :=
  fun hc => h.not_isBlank _ hc (by decide)

lemma words_of_allBlank {t : Text} (h : trimStart t = []) : words t = [] := by
  unfold words
  split
  · rfl
  · next hstart => rw [h] at hstart; cases hstart

lemma words_of_trimStart {t rest : Text} {c : Char} (h : trimStart t = c :: rest) :
    words t = (c :: rest.takeWhile (!isBlank ·)) :: words (rest.dropWhile (!isBlank ·)) := by
  rw [words]
  split
  · next hstart => rw [h] at hstart; cases hstart
  · next hstart =>
    rw [h] at hstart
    cases hstart
    rfl

@[simp] lemma words_nil : words [] = [] := words_of_allBlank rfl

/-- A word that the text starts with and that ends there or at a blank is its first word. -/
lemma words_append {word rest : Text} (hword : IsWord word)
    (hrest : ∀ c ∈ rest.head?, isBlank c) : words (word ++ rest) = word :: words rest := by
  obtain ⟨c, word, rfl⟩ := List.exists_cons_of_ne_nil hword.ne_nil
  have hc : ¬ isBlank c := hword.not_isBlank c List.mem_cons_self
  have hall : ∀ d ∈ word, (!isBlank d) = true := by
    intro d hd
    simpa using hword.not_isBlank d (List.mem_cons_of_mem _ hd)
  have hstart : trimStart (c :: word ++ rest) = c :: (word ++ rest) := by
    simp [trimStart, hc]
  have htake : rest.takeWhile (!isBlank ·) = [] := by
    cases rest with
    | nil => rfl
    | cons d rest => simp [hrest d rfl]
  have hdrop : rest.dropWhile (!isBlank ·) = rest := by
    cases rest with
    | nil => rfl
    | cons d rest => simp [hrest d rfl]
  rw [words_of_trimStart hstart, List.takeWhile_append_of_pos hall,
    List.dropWhile_append_of_pos hall, htake, hdrop, List.append_nil]

lemma words_blank {c : Char} (hc : isBlank c) (rest : Text) : words (c :: rest) = words rest := by
  have hstart : trimStart (c :: rest) = trimStart rest := by simp [trimStart, hc]
  cases hrest : trimStart rest with
  | nil => rw [words_of_allBlank hrest, words_of_allBlank (hstart.trans hrest)]
  | cons d behind => rw [words_of_trimStart hrest, words_of_trimStart (hstart.trans hrest)]

/-- A word in front of a space is the first word. -/
lemma words_append_space {word : Text} (hword : IsWord word) (rest : Text) :
    words (word ++ ' ' :: rest) = word :: words rest := by
  have hspace : isBlank ' ' := by decide
  rw [words_append hword (by simpa using hspace), words_blank hspace]

/-- A line of words gives its words back. -/
lemma words_joinWith {ws : List Text} (h : ∀ word ∈ ws, IsWord word) :
    words (joinWith [' '] ws) = ws := by
  induction ws with
  | nil => exact words_nil
  | cons word ws ih =>
    obtain ⟨hword, hrest⟩ := List.forall_mem_cons.1 h
    by_cases hws : ws = []
    · subst hws
      have hsingle : joinWith [' '] [word] = word ++ [] := by simp [joinWith]
      rw [hsingle, words_append hword (by simp), words_nil]
    · rw [joinWith_cons_of_ne_nil _ _ hws, List.append_assoc, List.singleton_append,
        words_append_space hword, ih hrest]

/-! ## Lines -/

/-- What stands between the line feeds. -/
def lines (t : Text) : List Text := t.splitOn '\n'

@[simp] lemma joinLines_singleton (part : Text) : joinLines [part] = part := by
  simp [joinLines, joinWith]

lemma joinLines_cons (part : Text) {rest : List Text} (h : rest ≠ []) :
    joinLines (part :: rest) = part ++ '\n' :: joinLines rest := by
  rw [joinLines, joinWith_cons_of_ne_nil _ _ h, List.append_assoc]
  rfl

lemma lines_ne_nil (t : Text) : lines t ≠ [] := List.splitOn_ne_nil '\n' t

/-- Nothing but the line feeds is left out of the lines. -/
lemma joinLines_lines (t : Text) : joinLines (lines t) = t := List.intercalate_splitOn '\n'

/-- A separator does not stand in what it separates. -/
lemma notMem_of_mem_splitOn {separator : Char} {t part : Text} (h : part ∈ t.splitOn separator) :
    separator ∉ part := by
  induction t generalizing part with
  | nil =>
    obtain rfl : part = [] := by simpa using h
    simp
  | cons c t ih =>
    obtain ⟨first, rest, hsplit⟩ := List.exists_cons_of_ne_nil (List.splitOn_ne_nil separator t)
    have hstep : (c :: t).splitOn separator = if c = separator then [] :: first :: rest
        else (c :: first) :: rest := by
      rw [List.splitOn_cons_eq_if_modifyHead, hsplit]
      simp
    rw [hsplit] at ih
    rw [hstep] at h
    split_ifs at h with hc
    · rcases List.mem_cons.1 h with rfl | h
      · simp
      · exact ih h
    · rcases List.mem_cons.1 h with rfl | h
      · simpa [Ne.symm hc] using ih List.mem_cons_self
      · exact ih (List.mem_cons_of_mem _ h)

lemma lf_notMem_of_mem_lines {t line : Text} (h : line ∈ lines t) : '\n' ∉ line :=
  notMem_of_mem_splitOn h

/-- Joined texts have the lines of each of them. -/
lemma lines_joinLines {parts : List Text} (h : parts ≠ []) :
    lines (joinLines parts) = parts.flatMap lines := by
  induction parts with
  | nil => exact absurd rfl h
  | cons part parts ih =>
    by_cases hparts : parts = []
    · subst hparts
      simp
    · rw [joinLines_cons part hparts, lines, List.splitOn_append_cons_self, List.flatMap_cons,
        ← ih hparts]
      rfl

/-- Lines without line feeds are found again. -/
lemma lines_joinLines_of_notMem {parts : List Text} (hne : parts ≠ [])
    (h : ∀ part ∈ parts, '\n' ∉ part) : lines (joinLines parts) = parts :=
  List.splitOn_intercalate '\n' h hne

lemma lines_joinLines_map {α : Type} {line : α → Text} {l : List α} (hne : l ≠ [])
    (h : ∀ a ∈ l, '\n' ∉ line a) : lines (joinLines (l.map line)) = l.map line := by
  refine lines_joinLines_of_notMem (by simpa using hne) fun part hpart => ?_
  obtain ⟨a, ha, rfl⟩ := List.mem_map.1 hpart
  exact h a ha

/-- A blank line between two parts is the only line that joining them adds. -/
lemma mem_lines_joinWith {parts : List Text} {line : Text}
    (h : line ∈ lines (joinWith "\n\n" parts)) : line = [] ∨ ∃ part ∈ parts, line ∈ lines part := by
  induction parts with
  | nil => exact Or.inl (by simpa [lines, joinWith] using h)
  | cons part parts ih =>
    by_cases hparts : parts = []
    · subst hparts
      exact Or.inr ⟨part, by simp, by simpa [joinWith] using h⟩
    · have hsplit : lines (joinWith "\n\n" (part :: parts)) =
          lines part ++ [] :: lines (joinWith "\n\n" parts) := by
        have hbreaks : joinWith "\n\n" (part :: parts) =
            part ++ '\n' :: ([] ++ '\n' :: joinWith "\n\n" parts) := by
          rw [joinWith_cons_of_ne_nil _ _ hparts, List.append_assoc]
          rfl
        rw [hbreaks, lines, List.splitOn_append_cons_self, List.splitOn_append_cons_self]
        rfl
      rw [hsplit] at h
      rcases List.mem_append.1 h with hfirst | hrest
      · exact Or.inr ⟨part, by simp, hfirst⟩
      · rcases List.mem_cons.1 hrest with hblank | hlater
        · exact Or.inl hblank
        · obtain hblank | ⟨other, hother, hline⟩ := ih hlater
          · exact Or.inl hblank
          · exact Or.inr ⟨other, List.mem_cons_of_mem _ hother, hline⟩

end NodeKit.Text
