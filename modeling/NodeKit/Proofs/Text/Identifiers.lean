import NodeKit.Proofs.Text.Tokens

/-!
# Identifiers

The identifiers of a text are its maximal runs of letters, digits and underscores. Two
texts put side by side have the identifiers of both, unless the first one ends in the
middle of what the second one goes on with. Then, and only then, two identifiers
become one (`identifiers_append`, `identifiers_append_of_touch`).
-/
namespace NodeKit.Text

/-- ASCII letters, ASCII digits and the underscore. -/
def isIdentifierChar (c : Char) : Bool := c.isAlphanum || c = '_'

/-- The maximal runs of identifier characters, in order. -/
def identifiers (t : Text) : List Text := (t.splitOnP (!isIdentifierChar ·)).filter (· ≠ [])

/-- One text ends in an identifier character, and the other one begins with one. -/
def Touch (s t : Text) : Prop :=
  s.getLast?.any isIdentifierChar ∧ t.head?.any isIdentifierChar

instance (s t : Text) : Decidable (Touch s t) := inferInstanceAs (Decidable (_ ∧ _))

variable {s t : Text} {c : Char}

lemma touch_iff : Touch s t ↔ ∃ c d, s.getLast? = some c ∧ t.head? = some d ∧
    isIdentifierChar c ∧ isIdentifierChar d := by
  simp only [Touch, Option.any_eq_true]
  constructor
  · rintro ⟨⟨c, hlast, hc⟩, d, hhead, hd⟩
    exact ⟨c, d, hlast, hhead, hc, hd⟩
  · rintro ⟨c, d, hlast, hhead, hc, hd⟩
    exact ⟨⟨c, hlast, hc⟩, d, hhead, hd⟩

@[simp] lemma identifiers_nil : identifiers [] = [] := rfl

/-- Any other character parts the identifiers in front of it from those behind it. -/
lemma identifiers_append_cons (hc : isIdentifierChar c = false) (s t : Text) :
    identifiers (s ++ c :: t) = identifiers s ++ identifiers t := by
  unfold identifiers
  rw [List.splitOnP_append_cons s t (by simpa using hc), List.filter_append]

lemma identifiers_cons (hc : isIdentifierChar c = false) (t : Text) :
    identifiers (c :: t) = identifiers t :=
  identifiers_append_cons hc [] t

lemma identifiers_concat (hc : isIdentifierChar c = false) (s : Text) :
    identifiers (s ++ [c]) = identifiers s := by
  rw [identifiers_append_cons hc, identifiers_nil, List.append_nil]

lemma identifiers_run (hne : t ≠ []) (h : ∀ c ∈ t, isIdentifierChar c) :
    identifiers t = [t] := by
  have hnone : ∀ c ∈ t, (!isIdentifierChar c) = false := by simpa using h
  simp [identifiers, List.splitOnP_eq_singleton hnone, hne]

/-- Texts that do not touch keep their identifiers side by side. -/
theorem identifiers_append (h : ¬ Touch s t) :
    identifiers (s ++ t) = identifiers s ++ identifiers t := by
  cases t with
  | nil => simp
  | cons d t =>
    by_cases hd : isIdentifierChar d
    · rcases List.eq_nil_or_concat s with rfl | ⟨init, c, rfl⟩
      · rfl
      · have hc : isIdentifierChar c = false := by
          by_contra hc
          exact h (touch_iff.2 ⟨c, d, by simp, rfl, by simpa using hc, hd⟩)
        rw [List.concat_eq_append, identifiers_concat hc, List.append_assoc,
          List.singleton_append, identifiers_append_cons hc]
    · have hd : isIdentifierChar d = false := by simpa using hd
      rw [identifiers_append_cons hd, identifiers_cons hd]

/-- A text that begins with an identifier character begins with an identifier. -/
lemma exists_first_run (hhead : t.head? = some c) (hc : isIdentifierChar c) :
    ∃ run behind, t = run ++ behind ∧ run ≠ [] ∧ (∀ d ∈ run, isIdentifierChar d) ∧
      ∀ d, behind.head? = some d → isIdentifierChar d = false := by
  obtain ⟨rest, rfl⟩ := List.head?_eq_some_iff.1 hhead
  refine ⟨(c :: rest).takeWhile isIdentifierChar, (c :: rest).dropWhile isIdentifierChar,
    List.takeWhile_append_dropWhile.symm, by simp [hc], ?_, fun d hd => ?_⟩
  · exact fun d hd => List.all_eq_true.1 List.all_takeWhile d hd
  · have hnot := List.head?_dropWhile_not isIdentifierChar (c :: rest)
    rw [hd] at hnot
    simpa using hnot

/-- A text that ends in an identifier character ends in an identifier. -/
lemma exists_last_run (hlast : s.getLast? = some c) (hc : isIdentifierChar c) :
    ∃ front run, s = front ++ run ∧ run ≠ [] ∧ (∀ d ∈ run, isIdentifierChar d) ∧
      ∀ d, front.getLast? = some d → isIdentifierChar d = false := by
  have hhead : s.reverse.head? = some c := by simpa using hlast
  obtain ⟨run, behind, hs, hne, hrun, hbehind⟩ := exists_first_run hhead hc
  refine ⟨behind.reverse, run.reverse, ?_, by simpa using hne, by simpa using hrun, ?_⟩
  · rw [← List.reverse_append, ← hs, List.reverse_reverse]
  · simpa using hbehind

/-- When texts touch, the last identifier of the one and the first of the other become one. -/
theorem identifiers_append_of_touch (h : Touch s t) : ∃ front a b behind,
    identifiers s = front ++ [a] ∧ identifiers t = b :: behind ∧
      identifiers (s ++ t) = front ++ (a ++ b) :: behind := by
  obtain ⟨c, d, hlast, hhead, hc, hd⟩ := touch_iff.1 h
  obtain ⟨front, a, rfl, ha, harun, hfront⟩ := exists_last_run hlast hc
  obtain ⟨b, behind, rfl, hb, hbrun, hbehind⟩ := exists_first_run hhead hd
  have hleft (x : Text) : identifiers (front ++ x) = identifiers front ++ identifiers x := by
    refine identifiers_append fun htouch => ?_
    obtain ⟨e, -, hlast, -, he, -⟩ := touch_iff.1 htouch
    simp [hfront e hlast] at he
  have hright (x : Text) : identifiers (x ++ behind) = identifiers x ++ identifiers behind := by
    refine identifiers_append fun htouch => ?_
    obtain ⟨-, e, -, hhead, -, he⟩ := touch_iff.1 htouch
    simp [hbehind e hhead] at he
  have hrun : ∀ e ∈ a ++ b, isIdentifierChar e := by
    intro e he
    exact (List.mem_append.1 he).elim (harun e) (hbrun e)
  refine ⟨identifiers front, a, b, identifiers behind, ?_, ?_, ?_⟩
  · rw [hleft, identifiers_run ha harun]
  · rw [hright, identifiers_run hb hbrun]
    rfl
  · rw [← List.append_assoc, List.append_assoc front, hright, hleft,
      identifiers_run (List.append_ne_nil_of_left_ne_nil ha b) hrun, List.append_assoc]
    rfl

/-! ## Trimming -/

lemma isIdentifierChar_of_isBlank (h : isBlank c) : isIdentifierChar c = false := by
  have hall : whiteSpace.all (!isIdentifierChar ·) := by decide
  simpa using List.all_eq_true.1 hall c (isBlank_iff_mem_whiteSpace.1 h)

lemma identifiers_of_allBlank (h : allBlank t) : identifiers t = [] := by
  induction t with
  | nil => rfl
  | cons c t ih =>
    obtain ⟨hc, ht⟩ := List.forall_mem_cons.1 (allBlank_iff.1 h)
    rw [identifiers_cons (isIdentifierChar_of_isBlank hc), ih (allBlank_iff.2 ht)]

lemma not_touch_of_allBlank_left (h : allBlank s) (t : Text) : ¬ Touch s t := by
  intro htouch
  obtain ⟨c, -, hlast, -, hc, -⟩ := touch_iff.1 htouch
  have hblank := allBlank_iff.1 h c (List.mem_of_getLast? hlast)
  simp [isIdentifierChar_of_isBlank hblank] at hc

lemma not_touch_of_allBlank_right (s : Text) (h : allBlank t) : ¬ Touch s t := by
  intro htouch
  obtain ⟨-, d, -, hhead, -, hd⟩ := touch_iff.1 htouch
  have hblank := allBlank_iff.1 h d (List.mem_of_head? hhead)
  simp [isIdentifierChar_of_isBlank hblank] at hd

/-- Blanks in front add no identifier. -/
lemma identifiers_allBlank_append (h : allBlank s) (t : Text) :
    identifiers (s ++ t) = identifiers t := by
  rw [identifiers_append (not_touch_of_allBlank_left h t), identifiers_of_allBlank h,
    List.nil_append]

@[simp] lemma identifiers_trimStart (t : Text) : identifiers (trimStart t) = identifiers t := by
  rw [← identifiers_allBlank_append (allBlank_indentation t), indentation_append_trimStart]

@[simp] lemma identifiers_trimEnd (t : Text) : identifiers (trimEnd t) = identifiers t := by
  obtain ⟨blanks, hblanks, ht⟩ := exists_eq_trimEnd_append t
  have happend := identifiers_append (not_touch_of_allBlank_right (trimEnd t) hblanks)
  rw [identifiers_of_allBlank hblanks, List.append_nil, ← ht] at happend
  exact happend.symm

end NodeKit.Text
