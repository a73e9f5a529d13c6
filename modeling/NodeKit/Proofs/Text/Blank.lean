import NodeKit.Text.Blank
import Mathlib.Data.List.TakeWhile

/-!
# What trimming leaves

Trimming takes blanks off one end and nothing else: the result starts or ends with
a character that is not blank, and is empty only when there is no such character.
-/
namespace NodeKit.Text

lemma allBlank_iff {t : Text} : allBlank t ↔ ∀ c ∈ t, isBlank c := by
  simp [allBlank]

lemma not_isBlank_of_head?_trimStart {t : Text} {c : Char}
    (h : (trimStart t).head? = some c) : isBlank c = false := by
  have hhead := List.head?_dropWhile_not isBlank t
  rw [show (t.dropWhile isBlank).head? = some c from h] at hhead
  simpa using hhead

lemma not_isBlank_of_getLast?_trimEnd {t : Text} {c : Char}
    (h : (trimEnd t).getLast? = some c) : isBlank c = false := by
  rw [trimEnd, List.getLast?_reverse] at h
  exact not_isBlank_of_head?_trimStart h

lemma trimStart_eq_nil_iff {t : Text} : trimStart t = [] ↔ allBlank t := by
  rw [trimStart, List.dropWhile_eq_nil_iff, allBlank_iff]

lemma trimEnd_eq_nil_iff {t : Text} : trimEnd t = [] ↔ allBlank t := by
  rw [trimEnd, List.reverse_eq_nil_iff, List.dropWhile_eq_nil_iff, allBlank_iff]
  simp

lemma trimStart_eq_self {t : Text} (h : ∀ c, t.head? = some c → isBlank c = false) :
    trimStart t = t := by
  cases t with
  | nil => rfl
  | cons c t => simp [trimStart, h c rfl]

lemma trimEnd_eq_self {t : Text} (h : ∀ c, t.getLast? = some c → isBlank c = false) :
    trimEnd t = t := by
  have hreverse : trimStart t.reverse = t.reverse :=
    trimStart_eq_self fun c hc => h c (by simpa using hc)
  rw [trimEnd, show t.reverse.dropWhile isBlank = t.reverse from hreverse, List.reverse_reverse]

lemma allBlank_indentation (t : Text) : allBlank (indentation t) := List.all_takeWhile

/-- Trimming at the end takes off the blanks that stand there. -/
lemma exists_eq_trimEnd_append (t : Text) :
    ∃ blanks, allBlank blanks ∧ t = trimEnd t ++ blanks := by
  refine ⟨(t.reverse.takeWhile isBlank).reverse, ?_, ?_⟩
  · simp [allBlank]
  · rw [trimEnd, ← List.reverse_append, List.takeWhile_append_dropWhile, List.reverse_reverse]

lemma trimStart_suffix (t : Text) : trimStart t <:+ t := List.dropWhile_suffix _

lemma trimStart_sublist (t : Text) : (trimStart t).Sublist t :=
  (trimStart_suffix t).sublist

lemma trimEnd_sublist (t : Text) : (trimEnd t).Sublist t := by
  obtain ⟨blanks, -, ht⟩ := exists_eq_trimEnd_append t
  have hsub := List.sublist_append_left (trimEnd t) blanks
  rwa [← ht] at hsub

lemma trimEnd_of_allBlank {t : Text} (h : allBlank t) : trimEnd t = [] :=
  trimEnd_eq_nil_iff.2 h

@[simp] lemma indentation_trimStart (t : Text) : indentation (trimStart t) = [] := by
  cases h : trimStart t with
  | nil => rfl
  | cons c rest =>
    have hc : isBlank c = false := not_isBlank_of_head?_trimStart (t := t) (by rw [h]; rfl)
    simp [indentation, hc]

lemma indentation_append {s : Text} (h : allBlank s) (t : Text) :
    indentation (s ++ t) = s ++ indentation t :=
  List.takeWhile_append_of_pos (allBlank_iff.1 h)

/-! ## What is not blank -/

/-- The characters that are not blank, in order. -/
def nonBlank (t : Text) : Text := t.filter (!isBlank ·)

@[simp] lemma nonBlank_append (s t : Text) : nonBlank (s ++ t) = nonBlank s ++ nonBlank t :=
  List.filter_append ..

lemma nonBlank_of_allBlank {t : Text} (h : allBlank t) : nonBlank t = [] := by
  rw [nonBlank, List.filter_eq_nil_iff]
  intro c hc
  simpa using allBlank_iff.1 h c hc

@[simp] lemma nonBlank_trimStart (t : Text) : nonBlank (trimStart t) = nonBlank t := by
  have ht := congrArg nonBlank (indentation_append_trimStart t)
  rwa [nonBlank_append, nonBlank_of_allBlank (allBlank_indentation t)] at ht

@[simp] lemma nonBlank_trimEnd (t : Text) : nonBlank (trimEnd t) = nonBlank t := by
  obtain ⟨blanks, hblanks, ht⟩ := exists_eq_trimEnd_append t
  have ht := congrArg nonBlank ht
  rw [nonBlank_append, nonBlank_of_allBlank hblanks, List.append_nil] at ht
  exact ht.symm

lemma count_nonBlank {c : Char} (hc : isBlank c = false) (t : Text) :
    (nonBlank t).count c = t.count c :=
  List.count_filter (by simpa using hc)

/-! ## Edged texts -/

/-- Begins and ends with a character that is not blank. -/
structure Edged (t : Text) : Prop where
  head : ∃ c, t.head? = some c ∧ isBlank c = false
  last : ∃ c, t.getLast? = some c ∧ isBlank c = false

/-- Only the blanks around an edged text are trimmed. -/
lemma trim_around {t front behind : Text} (ht : Edged t) (hfront : allBlank front)
    (hbehind : allBlank behind) : trim (front ++ (t ++ behind)) = t := by
  obtain ⟨c, hc, hcblank⟩ := ht.head
  obtain ⟨z, hz, hzblank⟩ := ht.last
  have hstart : trimStart (front ++ (t ++ behind)) = t ++ behind := by
    rw [trimStart, List.dropWhile_append_of_pos (allBlank_iff.1 hfront)]
    refine trimStart_eq_self fun d hd => ?_
    rw [List.head?_append, hc] at hd
    cases hd
    exact hcblank
  have hend : trimEnd t = t := by
    refine trimEnd_eq_self fun d hd => ?_
    rw [hz] at hd
    cases hd
    exact hzblank
  have hblank : ∀ d ∈ behind.reverse, isBlank d := fun d hd =>
    allBlank_iff.1 hbehind d (List.mem_reverse.1 hd)
  rw [trim, hstart, trimEnd, List.reverse_append, List.dropWhile_append_of_pos hblank]
  exact hend

lemma Edged.trim {t : Text} (h : Edged t) : Text.trim t = t := by
  have htrim := @trim_around t [] [] h rfl rfl
  rwa [List.append_nil] at htrim

lemma Edged.joinWith {separator : Text} {parts : List Text} (hne : parts ≠ [])
    (h : ∀ part ∈ parts, Edged part) : Edged (Text.joinWith separator parts) := by
  induction parts with
  | nil => exact absurd rfl hne
  | cons part parts ih =>
    obtain ⟨hpart, hparts⟩ := List.forall_mem_cons.1 h
    by_cases hempty : parts = []
    · subst hempty
      simpa [Text.joinWith] using hpart
    · obtain ⟨c, hc, hcblank⟩ := hpart.head
      obtain ⟨z, hz, hzblank⟩ := (ih hempty hparts).last
      rw [joinWith_cons_of_ne_nil _ _ hempty, List.append_assoc]
      refine ⟨⟨c, ?_, hcblank⟩, ⟨z, ?_, hzblank⟩⟩
      · rw [List.head?_append, hc]
        rfl
      · rw [List.getLast?_append, List.getLast?_append, hz]
        rfl

end NodeKit.Text
