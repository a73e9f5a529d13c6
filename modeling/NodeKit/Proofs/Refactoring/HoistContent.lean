import NodeKit.Proofs.Refactoring.Hoist

/-!
# What a hoist keeps of a text

The output of a hoist is the input with the call cut out of its line and two lines
added below the first class header; everything else stays where it was
(`hoist_content`). Counting one character at a time, only the call's own characters
are lost and only the fixed text of the members is gained.
-/
namespace NodeKit.Refactoring

/-- The output `u` in terms of the input `t`, cut at the call that was found.

`above`, `ending` and `below` are the text around the line of the call, and `before` and `after`
the code beside the call on that line. `edited` is the text without the call; `higher`, `stop` and
`lower` are what stands around its first header. -/
def HoistedFrom (t : Text) (found : PatternMatch) (u : Text) : Prop :=
  ∃ above before title category after ending below edited higher header stop lower,
    let call := callPattern.fill [title, category]
    let term := Ending.units Breaks.text ending
    let stopUnits := Ending.units Breaks.text stop
    let indent := Text.indentation header ++ "    "
    let first := indent ++ ("protected override string Title => " ++ title ++ ";")
    let second := indent ++ ("protected override NodeCategory Category => " ++ category ++ ";")
    found = ⟨above ++ before, [title, category], after ++ (term ++ below)⟩ ∧
    t = above ++ ((before ++ call ++ after) ++ (term ++ below)) ∧
    Line.Cut Breaks.text above (before ++ call ++ after) ending below ∧
    (Text.allBlank before ∧ Text.allBlank after → edited = above ++ below) ∧
    (¬ (Text.allBlank before ∧ Text.allBlank after) →
      ∃ rest, cutSpan before after = some rest ∧ edited = above ++ (rest ++ (term ++ below))) ∧
    edited = higher ++ (header ++ (stopUnits ++ lower)) ∧
    Line.Cut Breaks.text higher header stop lower ∧
    headerPattern.occursIn header ∧
    (∀ line ∈ Text.splitLines higher, ¬ headerPattern.occursIn line.body) ∧
    (stop ≠ .unterminated →
      u = higher ++ header ++ stopUnits ++ first ++ stopUnits ++ second ++ stopUnits ++ lower) ∧
    (stop = .unterminated → u = higher ++ header ++ "\n" ++ first ++ "\n" ++ second)

/-- A hoist moves the first call of the text and leaves all else as it was. -/
theorem hoist_content {t u : Text} {found : PatternMatch}
    (hcall : callPattern.find? t = some found) (hok : hoist t = .ok u) :
    HoistedFrom t found u := by
  obtain ⟨site, hgaps, hbefore, hafter⟩ := CallSite.exists_of_find? hcall
  obtain ⟨place, rfl⟩ := (hoist_eq_ok_iff site).1 hok
  refine ⟨site.above, site.before, site.title, site.category, site.after, site.ending, site.below,
    site.edited, place.above, place.header, place.ending, place.below, ?_, site.text, site.cut,
    ?_, ?_, place.text, place.cut, place.isHeader, place.first, ?_, ?_⟩
  · obtain ⟨before, gaps, after⟩ := found
    simp only at hgaps hbefore hafter
    rw [hgaps, hbefore, hafter]
  · intro hblank
    rw [CallSite.edited, cutSpan_eq_none_iff.2 hblank]
  · intro hcode
    obtain ⟨rest, hrest⟩ := Option.ne_none_iff_exists'.1 (mt cutSpan_eq_none_iff.1 hcode)
    exact ⟨rest, hrest, by rw [CallSite.edited, hrest]⟩
  · intro hstop
    have hbreak : place.lineBreak = place.ending.units Breaks.text := by
      rw [HeaderSite.lineBreak, if_neg hstop]
    simp only [HeaderSite.withMembers, hbreak, HeaderSite.indent, memberIndent,
      titleMember_eq, categoryMember_eq, List.append_assoc]
  · intro hstop
    have hbreak : place.lineBreak = "\n" := by rw [HeaderSite.lineBreak, if_pos hstop]; rfl
    have hbelow : place.ending.units Breaks.text ++ place.below = [] := by
      rw [hstop, (place.cut.last hstop).2]
      rfl
    simp only [HeaderSite.withMembers, hbreak, hbelow, HeaderSite.indent, memberIndent,
      titleMember_eq, categoryMember_eq, List.append_assoc, List.append_nil]

/-- A call beside other code, above a header on an unterminated last line. -/
theorem hoist_content_last_line :
    let t : Text := "x(); Initialize(T, g(c)); // k\r\npublic class A \x7b"
    let found : PatternMatch :=
      ⟨"x(); ", ["T", "g(c)"], " // k\r\npublic class A \x7b"⟩
    let u : Text := "x(); // k\r\npublic class A \x7b\n" ++
      "    protected override string Title => T;\n" ++
      "    protected override NodeCategory Category => g(c);"
    callPattern.find? t = some found ∧ hoist t = .ok u ∧ HoistedFrom t found u := by
  have hcall : callPattern.find? "x(); Initialize(T, g(c)); // k\r\npublic class A \x7b" =
      some ⟨"x(); ", ["T", "g(c)"], " // k\r\npublic class A \x7b"⟩ := by decide +kernel
  have hok : hoist "x(); Initialize(T, g(c)); // k\r\npublic class A \x7b" =
      .ok ("x(); // k\r\npublic class A \x7b\n" ++
        "    protected override string Title => T;\n" ++
        "    protected override NodeCategory Category => g(c);") := by decide +kernel
  exact ⟨hcall, hok, hoist_content hcall hok⟩

/-! ## Counting characters -/

section count

variable {c : Char} (hc : Text.isBlank c = false)
include hc

lemma count_of_allBlank {t : Text} (h : Text.allBlank t) : t.count c = 0 := by
  refine List.count_eq_zero.2 fun hmem => ?_
  have hblank := Text.allBlank_iff.1 h c hmem
  rw [hc] at hblank
  cases hblank

lemma count_units (ending : Ending) : (ending.units Breaks.text).count c = 0 :=
  count_of_allBlank hc (by cases ending <;> decide)

/-- Cutting takes only blanks. -/
lemma count_cutSpan (before after : Text) :
    ((cutSpan before after).getD []).count c = before.count c + after.count c := by
  rw [← Text.count_nonBlank hc, nonBlank_cutSpan, List.count_append, Text.count_nonBlank hc,
    Text.count_nonBlank hc]

lemma count_edited {t : Text} (site : CallSite t) :
    site.edited.count c + site.call.count c = t.count c := by
  have htext := congrArg (List.count c) site.text
  have hcut := count_cutSpan hc site.before site.after
  have hunits := count_units hc site.ending
  simp only [List.count_append] at htext
  unfold CallSite.edited
  cases h : cutSpan site.before site.after with
  | none =>
    simp only [h, Option.getD_none, List.count_nil] at hcut
    simp only [List.count_append]
    omega
  | some rest =>
    simp only [h, Option.getD_some] at hcut
    simp only [List.count_append]
    omega

lemma count_withMembers {t : Text} (site : HeaderSite t) (title category : Text) :
    (site.withMembers title category).count c =
      t.count c + (titleMember title).count c + (categoryMember category).count c := by
  have htext := congrArg (List.count c) site.text
  have hbreak : site.lineBreak.count c = 0 := count_units hc _
  have hindent : site.indent.count c = 0 := count_of_allBlank hc site.allBlank_indent
  simp only [HeaderSite.withMembers, List.count_append, hbreak, hindent] at htext ⊢
  omega

end count

lemma count_call {c : Char} (hc : c = '(' ∨ c = ')') (title category : Text) :
    (callPattern.fill [title, category]).count c = title.count c + category.count c + 1 := by
  rw [fill_callPattern]
  rcases hc with rfl | rfl <;> simp [Nat.add_assoc]

lemma count_titleMember {c : Char} (hc : c = '(' ∨ c = ')') (title : Text) :
    (titleMember title).count c = title.count c := by
  rw [titleMember_eq]
  rcases hc with rfl | rfl <;> simp

lemma count_categoryMember {c : Char} (hc : c = '(' ∨ c = ')') (category : Text) :
    (categoryMember category).count c = category.count c := by
  rw [categoryMember_eq]
  rcases hc with rfl | rfl <;> simp

/-- Every hoist uses up one opening and one closing parenthesis. -/
theorem count_hoist {t u : Text} (site : CallSite t) (hok : hoist t = .ok u) {c : Char}
    (hc : c = '(' ∨ c = ')') : u.count c + 1 = t.count c := by
  obtain ⟨place, rfl⟩ := (hoist_eq_ok_iff site).1 hok
  have hblank : Text.isBlank c = false := by rcases hc with rfl | rfl <;> decide
  have hedited := count_edited hblank site
  have hmembers := count_withMembers hblank place site.title site.category
  rw [CallSite.call, count_call hc] at hedited
  rw [count_titleMember hc, count_categoryMember hc] at hmembers
  omega

/-- A hoist leaves exactly the texts without a call as they are. -/
theorem hoist_eq_self_iff {t : Text} : hoist t = .ok t ↔ ¬ callPattern.occursIn t := by
  constructor
  · intro hok hoccurs
    obtain ⟨site⟩ := CallSite.nonempty_iff.2 hoccurs
    have := count_hoist site hok (Or.inl rfl)
    omega
  · exact hoist_of_not_occursIn

end NodeKit.Refactoring
