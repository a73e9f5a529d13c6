import NodeKit.Proofs.Refactoring.HoistContent

/-!
# Hoisting a second time

A hoist writes its two arguments out again, and closes the gap that the call left.
Either can make a new call: a category that is a call itself stands in front of a
semicolon again, and the code on both sides of the cut can read as a call once it
is joined. `hoist_twice` says that these are the only two ways, so that a text
with one call is left alone by a second hoist exactly when neither occurs.
-/
namespace NodeKit.Refactoring

/-- The title ends at the first comma with a space behind it. -/
lemma CallSite.title_ne {t : Text} (site : CallSite t) (front behind : Text) :
    site.title ≠ front ++ (", ".toList ++ behind) := by
  intro htitle
  obtain ⟨title, category, heq, hlftitle, hlfcategory⟩ :=
    fits_callPattern.1 (Pattern.fits_of_find? site.found)
  obtain ⟨rfl, rfl⟩ : site.title = title ∧ site.category = category := by simpa using heq
  let rest : Pattern := [.fixed ", ", .gap, .fixed ");"]
  have hcall : callPattern = .fixed "Initialize(" :: .gap :: rest := rfl
  let left := ", ".toList ++ (site.category ++ (");".toList ++
    (site.after ++ (site.ending.units Breaks.text ++ site.below))))
  have hhere := Pattern.matchHere_of_find? site.found
  have hgap : Pattern.matchHere (.gap :: rest) (front ++ ((", ".toList ++ behind) ++ left)) =
      some ([front ++ (", ".toList ++ behind), site.category],
        site.after ++ (site.ending.units Breaks.text ++ site.below)) := by
    rw [fill_callPattern, hcall, List.append_assoc, Pattern.matchHere_fixed, htitle] at hhere
    simpa only [List.append_assoc, left] using hhere
  have hfits : Pattern.Fits rest [behind ++ (", ".toList ++ site.category)] := by
    rw [htitle] at hlftitle
    simp only [List.mem_append, not_or] at hlftitle
    exact ⟨by simp [hlftitle.2.2, hlfcategory], rfl⟩
  refine Pattern.gap_least hgap (by simp) hfits
    (site.after ++ (site.ending.units Breaks.text ++ site.below)) ?_
  simp [Pattern.fill, rest, left]

/-- In front of text without a capital `I` no call begins. -/
lemma occursIn_call_append {front : Text} (h : 'I' ∉ front) (t : Text) :
    callPattern.occursIn (front ++ t) ↔ callPattern.occursIn t :=
  Pattern.occursIn_append_of_notMem h

lemma HeaderSite.notMem_indent {t : Text} (site : HeaderSite t) : 'I' ∉ site.indent := by
  intro hmem
  exact absurd (Text.allBlank_iff.1 site.allBlank_indent _ hmem) (by decide)

/-- The member that holds the title makes no call. -/
lemma not_occursIn_titleLine {t e : Text} (site : CallSite t) (place : HeaderSite e) :
    ¬ callPattern.occursIn (place.indent ++ titleMember site.title) := by
  have hlead : 'I' ∉ place.indent ++ "protected override string Title => ".toList := by
    simp [place.notMem_indent]
  rw [titleMember_eq, List.append_assoc, ← List.append_assoc, occursIn_call_append hlead]
  intro hoccurs
  obtain ⟨front, gaps, behind, hfits, heq⟩ := Pattern.occursIn_iff.1 hoccurs
  obtain ⟨first, second, rfl, -, -⟩ := fits_callPattern.1 hfits
  obtain ⟨init, last, hinit⟩ : ∃ init last,
      second ++ (");".toList ++ behind) = init ++ [last] := by
    rcases List.eq_nil_or_concat (second ++ (");".toList ++ behind)) with hnil | ⟨init, last, h⟩
    · simp at hnil
    · exact ⟨init, last, by simpa using h⟩
  have hsplit : site.title ++ ";".toList =
      (front ++ "Initialize(".toList ++ first ++ (", ".toList ++ init)) ++ [last] := by
    rw [fill_callPattern] at heq
    simp only [List.append_assoc, ← hinit]
    simpa only [List.append_assoc] using heq
  exact site.title_ne _ _ (List.append_inj_left' hsplit rfl)

/-- The member that holds the category makes a call when the category does in front of a
semicolon. -/
lemma occursIn_categoryLine {e : Text} (place : HeaderSite e) (category : Text) :
    callPattern.occursIn (place.indent ++ categoryMember category) ↔
      callPattern.occursIn (category ++ ";".toList) := by
  have hlead : 'I' ∉ place.indent ++ "protected override NodeCategory Category => ".toList := by
    simp [place.notMem_indent]
  rw [categoryMember_eq, List.append_assoc, ← List.append_assoc, occursIn_call_append hlead]

lemma occursIn_withMembers {t : Text} (place : HeaderSite t) (title category : Text) :
    callPattern.occursIn (place.withMembers title category) ↔
      callPattern.occursIn t ∨ callPattern.occursIn (place.indent ++ titleMember title) ∨
        callPattern.occursIn (place.indent ++ categoryMember category) := by
  have htext : callPattern.occursIn t ↔
      callPattern.occursIn (place.above ++ place.header) ∨ callPattern.occursIn place.below := by
    rw [← Pattern.occursIn_append_ending withinLine_callPattern fun h => (place.cut.last h).2,
      List.append_assoc, ← place.text]
  have hbreak (s below : Text) : callPattern.occursIn (s ++ (place.lineBreak ++ below)) ↔
      callPattern.occursIn s ∨ callPattern.occursIn below := by
    apply Pattern.occursIn_append_ending withinLine_callPattern
    intro h
    split_ifs at h with hstop
    exact absurd h hstop
  rw [HeaderSite.withMembers, ← List.append_assoc place.above, hbreak, hbreak,
    Pattern.occursIn_append_ending withinLine_callPattern fun h => (place.cut.last h).2, htext]
  simp only [or_assoc, or_comm, or_left_comm]

lemma occursIn_edited {t : Text} (site : CallSite t) : callPattern.occursIn site.edited ↔
    (∃ rest, cutSpan site.before site.after = some rest ∧ callPattern.occursIn rest) ∨
      callPattern.occursIn site.below := by
  have habove := site.not_occursIn_above
  unfold CallSite.edited
  cases h : cutSpan site.before site.after with
  | none =>
    simp [Pattern.occursIn_above_append withinLine_callPattern site.cut.above_ends, habove]
  | some rest =>
    simp [Pattern.occursIn_above_append withinLine_callPattern site.cut.above_ends, habove,
      Pattern.occursIn_append_ending withinLine_callPattern fun h => (site.cut.last h).2]

/-- A second hoist leaves the output of the first one alone exactly when no call stands in what is
left of the call's line, nor in the category with a semicolon behind it. -/
theorem hoist_twice {t u : Text} (hone : callPattern.countMatches t = 1) (hok : hoist t = .ok u) :
    Nonempty (CallSite t) ∧ ∀ site : CallSite t, hoist u = .ok u ↔
      (∀ rest, cutSpan site.before site.after = some rest → ¬ callPattern.occursIn rest) ∧
        ¬ callPattern.occursIn (site.category ++ ";") := by
  obtain ⟨found, hfound, hafter⟩ :=
    (Pattern.countMatches_eq_one_iff withinLine_callPattern).1 hone
  obtain ⟨someSite, -⟩ := CallSite.exists_of_find? hfound
  refine ⟨⟨someSite⟩, fun site => ?_⟩
  obtain ⟨place, rfl⟩ := (hoist_eq_ok_iff site).1 hok
  have hsite : found.after = site.after ++ (site.ending.units Breaks.text ++ site.below) := by
    rw [site.found] at hfound
    cases hfound
    rfl
  have hbelow : ¬ callPattern.occursIn site.below := by
    intro h
    have hoccurs := Pattern.occursIn_append h (site.after ++ site.ending.units Breaks.text) []
    rw [List.append_nil, List.append_assoc, ← hsite] at hoccurs
    exact hafter hoccurs
  rw [hoist_eq_self_iff, occursIn_withMembers, occursIn_edited, occursIn_categoryLine]
  have htitle := not_occursIn_titleLine site place
  simp only [hbelow, htitle, Bool.false_eq_true, or_false, false_or, not_or, not_exists, not_and]

/-- Code beside a commented call: nothing is left for a second hoist. -/
theorem hoist_twice_comment :
    let t : Text := "public class A \x7b\nf(); // Initialize(x, g(y)); z\n\x7d"
    let u : Text := "public class A \x7b\n    protected override string Title => x;\n" ++
      "    protected override NodeCategory Category => g(y);\nf(); // z\n\x7d"
    callPattern.countMatches t = 1 ∧ hoist t = .ok u ∧ Nonempty (CallSite t) ∧
      ∀ site : CallSite t, hoist u = .ok u ↔
        (∀ rest, cutSpan site.before site.after = some rest → ¬ callPattern.occursIn rest) ∧
          ¬ callPattern.occursIn (site.category ++ ";") := by
  have hone : callPattern.countMatches "public class A \x7b\nf(); // Initialize(x, g(y)); z\n\x7d" =
      1 := by
    refine (Pattern.countMatches_eq_one_iff withinLine_callPattern).2
      ⟨⟨"public class A \x7b\nf(); // ", ["x", "g(y)"], " z\n\x7d"⟩, ?_, ?_⟩
    · decide +kernel
    · decide +kernel
  have hok : hoist "public class A \x7b\nf(); // Initialize(x, g(y)); z\n\x7d" =
      .ok ("public class A \x7b\n    protected override string Title => x;\n" ++
        "    protected override NodeCategory Category => g(y);\nf(); // z\n\x7d") := by
    decide +kernel
  exact ⟨hone, hok, hoist_twice hone hok⟩

/-- A category that is a call is hoisted by the second run, although the text has one call. -/
theorem hoist_twice_nested_call :
    let t : Text := "public class A \x7b\nInitialize(x, Initialize(y, z));\n\x7d"
    let u : Text := "public class A \x7b\n    protected override string Title => x;\n" ++
      "    protected override NodeCategory Category => Initialize(y, z);\n\x7d"
    callPattern.countMatches t = 1 ∧ hoist t = .ok u ∧ hoist u ≠ .ok u := by
  refine ⟨?_, ?_, ?_⟩
  · refine (Pattern.countMatches_eq_one_iff withinLine_callPattern).2
      ⟨⟨"public class A \x7b\n", ["x", "Initialize(y, z)"], "\n\x7d"⟩, ?_, ?_⟩
    · decide +kernel
    · decide +kernel
  · decide +kernel
  · decide +kernel

end NodeKit.Refactoring
