import NodeKit.Proofs.Refactoring.Hoist
import NodeKit.Proofs.Refactoring.Signature
import NodeKit.Proofs.Text.Variant

/-!
# Changing a signature before or after a hoist

A change of a signature goes line by line. The two signatures cannot be confused with
what a hoist looks for or with what it writes (`ClearOfHoist`), so the change leads
from a call site to a call site and from a header site to a header site, and a hoist
does the same at either. It can be made before the hoist or after it
(`hoist_apply_comm`), if it leaves the line of the call alone: a hoist writes parts of
that line somewhere else.
-/
namespace NodeKit.Refactoring

open Text

namespace SignatureChange

lemma apply_eq_self {change : SignatureChange} {t : Text} (h : ¬ change.old <:+: t) :
    change.apply t = t :=
  replaceAll_eq_self h

/-- A change whose signatures lie in a line and cannot overlap what a hoist looks for or writes.
They end in a parenthesis as a call does, and only what stands in front of it is apart from both
patterns. -/
structure ClearOfHoist (change : SignatureChange) : Prop where
  old_begins : change.old.dropLast.head? = some 'p'
  new_begins : change.new.dropLast.head? = some 'p'
  old_ends : change.old.getLast? = some ')'
  new_ends : change.new.getLast? = some ')'
  old_inLine : '\n' ∉ change.old ∧ '\r' ∉ change.old
  new_inLine : '\n' ∉ change.new ∧ '\r' ∉ change.new
  old_apart : ∀ pattern ∈ [callPattern, headerPattern], pattern.ApartFrom change.old.dropLast
  new_apart : ∀ pattern ∈ [callPattern, headerPattern], pattern.ApartFrom change.new.dropLast
  notWithin_titleMember : NoStart change.old "protected override string Title => "
  notWithin_categoryMember : NoStart change.old "protected override NodeCategory Category => "
  semicolon_notMem : ';' ∉ change.old

namespace ClearOfHoist

variable {change : SignatureChange} (h : change.ClearOfHoist)
include h

lemma old_ne_nil : change.old ≠ [] := by
  intro hnil
  simpa [hnil] using h.old_ends

lemma words_ne_nil : change.old.dropLast ≠ [] ∧ change.new.dropLast ≠ [] := by
  constructor
  · intro hnil
    simpa [hnil] using h.old_begins
  · intro hnil
    simpa [hnil] using h.new_begins

/-- The parenthesis at the end is no part of what changes. -/
lemma variant (t : Text) :
    Variant change.old.dropLast change.new.dropLast t (change.apply t) := by
  have hold : change.old.dropLast ++ [')'] = change.old :=
    List.dropLast_append_getLast? _ h.old_ends
  have hnew : change.new.dropLast ++ [')'] = change.new :=
    List.dropLast_append_getLast? _ h.new_ends
  have hvariant : Variant change.old.dropLast change.new.dropLast t
      (replaceAll (change.old.dropLast ++ [')']) (change.new.dropLast ++ [')']) t) :=
    Variant.replaceAll (by simp) t
  rwa [hold, hnew] at hvariant

/-- No call and no header comes or goes. -/
lemma occursIn_apply_iff {pattern : Pattern} (hpattern : pattern ∈ [callPattern, headerPattern])
    {t : Text} : pattern.occursIn (change.apply t) ↔ pattern.occursIn t := by
  have hlfold : '\n' ∉ change.old.dropLast := mt List.mem_of_mem_dropLast h.old_inLine.1
  have hlfnew : '\n' ∉ change.new.dropLast := mt List.mem_of_mem_dropLast h.new_inLine.1
  have hold := h.old_apart pattern hpattern
  have hnew := h.new_apart pattern hpattern
  obtain ⟨lead, rest, rfl⟩ : ∃ lead rest, pattern = .fixed lead :: rest := by
    rcases List.mem_pair.1 hpattern with rfl | rfl
    · exact ⟨_, _, rfl⟩
    · exact ⟨_, _, rfl⟩
  exact (Pattern.occursIn_variant_iff h.words_ne_nil.1 h.words_ne_nil.2 hlfold hlfnew hold hnew
    (h.variant t)).symm

/-! ### Line by line -/

lemma apply_above_append {above : Text} (hends : above = [] ∨ above.getLast? = some '\n')
    (t : Text) : change.apply (above ++ t) = change.apply above ++ change.apply t :=
  replaceAll_above_append h.old_ne_nil h.old_inLine.1 hends t

lemma apply_append_ending {ending : Ending} {s below : Text}
    (hlast : ending = .unterminated → below = []) :
    change.apply (s ++ (ending.units Breaks.text ++ below)) =
      change.apply s ++ (ending.units Breaks.text ++ change.apply below) :=
  replaceAll_append_ending h.old_ne_nil h.old_inLine.1 h.old_inLine.2 hlast

lemma indentation_apply (t : Text) : indentation (change.apply t) = indentation t := by
  obtain ⟨old, hold⟩ := List.head?_eq_some_iff.1 h.old_begins
  obtain ⟨new, hnew⟩ := List.head?_eq_some_iff.1 h.new_begins
  have hvariant := h.variant t
  rw [hold, hnew] at hvariant
  exact (hvariant.indentation_eq (by decide) (by decide)).symm

/-- A line is changed into a line. -/
lemma cut_apply {above body below : Text} {ending : Ending}
    (hcut : Line.Cut Breaks.text above body ending below) :
    Line.Cut Breaks.text (change.apply above) (change.apply body) ending (change.apply below) where
  above_ends := replaceAll_ends h.old_ne_nil h.old_inLine.1 hcut.above_ends
  lf_notMem := (h.variant body).notMem (mt List.mem_of_mem_dropLast h.new_inLine.1) hcut.lf_notMem
  bare := by
    intro hending hlast
    have hcr : '\r' ∉ change.new.dropLast := mt List.mem_of_mem_dropLast h.new_inLine.2
    exact hcut.bare hending ((h.variant body).symm.getLast?_eq h.words_ne_nil.2 hcr hlast)
  last := by
    intro hstop
    obtain ⟨hbody, hbelow⟩ := hcut.last hstop
    refine ⟨fun hnil => hbody ?_, ?_⟩
    · have hvariant := (h.variant body).symm
      rw [hnil] at hvariant
      exact hvariant.eq_nil h.words_ne_nil.2
    · rw [hbelow]
      exact replaceAll_nil

/-- A new member holds the old signature only inside its argument. -/
lemma apply_member {indent lead argument : Text} (hindent : allBlank indent)
    (hlead : NoStart change.old lead) (hargument : ¬ change.old <:+: argument) :
    change.apply (indent ++ (lead ++ argument ++ ";".toList)) =
      indent ++ (lead ++ argument ++ ";".toList) := by
  -- The signature begins with a letter, and the indentation holds only blanks.
  have hnostart : NoStart change.old indent := by
    obtain ⟨rest, hrest⟩ := List.head?_eq_some_iff.1 h.old_begins
    have hold : change.old = 'p' :: (rest ++ [')']) := by
      rw [← List.dropLast_append_getLast? _ h.old_ends, hrest]
      rfl
    rw [hold]
    refine noStart_of_notMem fun hmem => ?_
    exact absurd (allBlank_iff.1 hindent _ hmem) (by decide)
  have hend : replaceAll change.old change.new (argument ++ ";".toList) =
      argument ++ ";".toList := by
    refine (replaceAll_append_cons h.old_ne_nil h.semicolon_notMem argument []).trans ?_
    rw [replaceAll_eq_self hargument, replaceAll_nil]
    rfl
  rw [List.append_assoc, SignatureChange.apply, replaceAll_append_of_noStart hnostart,
    replaceAll_append_of_noStart hlead, hend]

end ClearOfHoist

end SignatureChange

/-! ## Call sites -/

namespace CallSite

variable {change : SignatureChange} {t : Text} (site : CallSite t)

lemma infix_line : site.title <:+: site.before ++ site.call ++ site.after ∧
    site.category <:+: site.before ++ site.call ++ site.after := by
  constructor
  · exact ⟨site.before ++ "Initialize(".toList,
      ", ".toList ++ (site.category ++ (");".toList ++ site.after)),
      by simp [call, fill_callPattern]⟩
  · exact ⟨site.before ++ ("Initialize(".toList ++ (site.title ++ ", ".toList)),
      ");".toList ++ site.after, by simp [call, fill_callPattern]⟩

variable (h : change.ClearOfHoist)
  (hline : ¬ change.old <:+: site.before ++ site.call ++ site.after)
include h hline

lemma apply_text : change.apply t = change.apply site.above ++
    ((site.before ++ site.call ++ site.after) ++
      (site.ending.units Breaks.text ++ change.apply site.below)) := by
  refine (congrArg change.apply site.text).trans ?_
  rw [h.apply_above_append site.cut.above_ends,
    h.apply_append_ending fun hstop => (site.cut.last hstop).2, SignatureChange.apply_eq_self hline]

/-- The call site after a change that leaves its line alone. -/
def changed : CallSite (change.apply t) where
  above := change.apply site.above
  before := site.before
  title := site.title
  category := site.category
  after := site.after
  ending := site.ending
  below := change.apply site.below
  found := by
    -- Nothing above makes a call in either text, so the line still holds the first one.
    have hcut := h.cut_apply site.cut
    have hnone : ¬ callPattern.occursIn (change.apply site.above) :=
      mt (h.occursIn_apply_iff (by simp)).1 site.not_occursIn_above
    rw [site.apply_text h hline]
    exact site.find?_moved hcut.above_ends hnone fun hstop => (hcut.last hstop).2
  cut := by
    have hcut := h.cut_apply site.cut
    have hbody : change.apply (site.before ++ callPattern.fill [site.title, site.category] ++
        site.after) = site.before ++ callPattern.fill [site.title, site.category] ++ site.after :=
      SignatureChange.apply_eq_self hline
    rwa [hbody] at hcut

/-- Cutting the call out comes to the same before and after the change. -/
lemma edited_changed (hrest : ∀ rest, cutSpan site.before site.after = some rest →
    ¬ change.old <:+: rest) : (site.changed h hline).edited = change.apply site.edited := by
  have hsame : cutSpan (site.changed h hline).before (site.changed h hline).after =
    cutSpan site.before site.after := rfl
  unfold edited
  rw [hsame]
  cases hcut : cutSpan site.before site.after with
  | none => exact (h.apply_above_append site.cut.above_ends site.below).symm
  | some rest =>
    simp only
    rw [h.apply_above_append site.cut.above_ends,
      h.apply_append_ending fun hstop => (site.cut.last hstop).2,
      SignatureChange.apply_eq_self (hrest rest hcut)]
    rfl

end CallSite

/-! ## Header sites -/

namespace HeaderSite

variable {change : SignatureChange} {t : Text}

/-- The header site after a change. -/
def changed (place : HeaderSite t) (h : change.ClearOfHoist) : HeaderSite (change.apply t) where
  above := change.apply place.above
  header := change.apply place.header
  ending := place.ending
  below := change.apply place.below
  text := by
    refine (congrArg change.apply place.text).trans ?_
    rw [h.apply_above_append place.cut.above_ends,
      h.apply_append_ending fun hstop => (place.cut.last hstop).2]
  cut := h.cut_apply place.cut
  isHeader := (h.occursIn_apply_iff (by simp)).2 place.isHeader
  first := by
    intro line hline hoccurs
    have habove : headerPattern.occursIn (change.apply place.above) :=
      (Pattern.occursIn_lines withinLine_headerPattern _).2 ⟨line, hline, hoccurs⟩
    exact place.not_occursIn_above ((h.occursIn_apply_iff (by simp)).1 habove)

/-- Putting members in comes to the same before and after the change. -/
lemma withMembers_changed (place : HeaderSite t) (h : change.ClearOfHoist) {title category : Text}
    (htitle : ¬ change.old <:+: title) (hcategory : ¬ change.old <:+: category) :
    (place.changed h).withMembers title category =
      change.apply (place.withMembers title category) := by
  have hindent : (place.changed h).indent = place.indent :=
    congrArg (· ++ memberIndent) (h.indentation_apply place.header)
  have hbreak (s below : Text) : change.apply (s ++ (place.lineBreak ++ below)) =
      change.apply s ++ (place.lineBreak ++ change.apply below) := by
    apply h.apply_append_ending
    intro hstop
    split_ifs at hstop with hlast
    exact absurd hstop hlast
  have hfirst := h.apply_member place.allBlank_indent h.notWithin_titleMember htitle
  have hsecond := h.apply_member place.allBlank_indent h.notWithin_categoryMember hcategory
  rw [← titleMember_eq] at hfirst
  rw [← categoryMember_eq] at hsecond
  unfold withMembers
  rw [h.apply_above_append place.cut.above_ends, hbreak, hbreak,
    h.apply_append_ending fun hstop => (place.cut.last hstop).2, hfirst, hsecond, hindent]
  rfl

end HeaderSite

/-! ## The hoist -/

/-- A change that is clear of the hoist can be made before it or after it, if it leaves the line of
the call alone, and what is left of that line too. -/
theorem SignatureChange.ClearOfHoist.hoist_apply {change : SignatureChange}
    (h : change.ClearOfHoist) {t : Text}
    (hfree : ∀ site : CallSite t, ¬ change.old <:+: site.before ++ site.call ++ site.after ∧
      ∀ rest, cutSpan site.before site.after = some rest → ¬ change.old <:+: rest) :
    hoist (change.apply t) = (hoist t).map change.apply := by
  by_cases hcall : callPattern.occursIn t
  · obtain ⟨site⟩ := CallSite.nonempty_iff.2 hcall
    obtain ⟨hline, hrest⟩ := hfree site
    have hedited := site.edited_changed h hline hrest
    by_cases hheader : headerPattern.occursIn site.edited
    · obtain ⟨place⟩ := HeaderSite.nonempty_iff.2 hheader
      have hok : hoist t = .ok (place.withMembers site.title site.category) :=
        (hoist_eq_ok_iff site).2 ⟨place, rfl⟩
      have hchanged : hoist (change.apply t) =
          .ok ((place.changed h).withMembers site.title site.category) := by
        rw [hoist_eq_ok_iff (site.changed h hline), hedited]
        exact ⟨place.changed h, rfl⟩
      have htitle : ¬ change.old <:+: site.title := mt (·.trans site.infix_line.1) hline
      have hcategory : ¬ change.old <:+: site.category := mt (·.trans site.infix_line.2) hline
      rw [hok, hchanged, place.withMembers_changed h htitle hcategory]
      rfl
    · have hnone : ¬ headerPattern.occursIn (site.changed h hline).edited := by
        rwa [hedited, h.occursIn_apply_iff (by simp)]
      rw [hoist_of_not_occursIn_edited site hheader, hoist_of_not_occursIn_edited _ hnone]
      rfl
  · have hnone : ¬ callPattern.occursIn (change.apply t) := by
      rwa [h.occursIn_apply_iff (by simp)]
    rw [hoist_of_not_occursIn hcall, hoist_of_not_occursIn hnone]
    rfl

/-- Every condition is about fixed texts, and is decided for both changes. -/
lemma clearOfHoist_of_mem {change : SignatureChange} (hchange : change ∈ signatureChanges) :
    change.ClearOfHoist := by
  constructor
  all_goals
    revert change
    decide +kernel

/-- Either signature can be changed before a hoist or after it, and both ways fail alike or leave the
same text, if the old signature stands neither in the line of the call nor in what is left of it. -/
theorem hoist_apply_comm {change : SignatureChange} (hchange : change ∈ signatureChanges) {t : Text}
    (hfree : ∀ site : CallSite t, ¬ change.old <:+: site.before ++ site.call ++ site.after ∧
      ∀ rest, cutSpan site.before site.after = some rest → ¬ change.old <:+: rest) :
    hoist (change.apply t) = (hoist t).map change.apply :=
  (clearOfHoist_of_mem hchange).hoist_apply hfree

/-- A signature below the line of the call, which keeps code on both sides of the call. -/
theorem hoist_apply_comm_getNodeData :
    let t : Text := "public class A \x7b\n  A() \x7b Initialize(T, c); \x7d\n" ++
      "  public override JObject GetNodeData() \x7b \x7d\n\x7d"
    let u : Text := "public class A \x7b\n    protected override string Title => T;\n" ++
      "    protected override NodeCategory Category => c;\n  A() \x7b \x7d\n" ++
      "  protected internal override JObject GetNodeData() \x7b \x7d\n\x7d"
    getNodeDataChange ∈ signatureChanges ∧
      (∀ site : CallSite t, ¬ getNodeDataChange.old <:+: site.before ++ site.call ++ site.after ∧
        ∀ rest, cutSpan site.before site.after = some rest → ¬ getNodeDataChange.old <:+: rest) ∧
      hoist (getNodeDataChange.apply t) = (hoist t).map getNodeDataChange.apply ∧
      hoist (getNodeDataChange.apply t) = .ok u := by
  intro t u
  have hfree : ∀ site : CallSite t,
      ¬ getNodeDataChange.old <:+: site.before ++ site.call ++ site.after ∧
        ∀ rest, cutSpan site.before site.after = some rest → ¬ getNodeDataChange.old <:+: rest := by
    intro site
    obtain rfl := site.eq ⟨"public class A \x7b\n", "  A() \x7b ", "T", "c", " \x7d", .lf,
      "  public override JObject GetNodeData() \x7b \x7d\n\x7d", by decide +kernel,
      ⟨by decide, by decide +kernel, by decide +kernel, by simp⟩⟩
    refine ⟨by decide +kernel, fun rest hrest => ?_⟩
    have hleft : cutSpan "  A() \x7b " " \x7d" = some "  A() \x7b \x7d" := by decide +kernel
    obtain rfl := Option.some.inj (hleft.symm.trans hrest)
    decide +kernel
  have hok : hoist (getNodeDataChange.apply t) = .ok u := by decide +kernel
  exact ⟨by decide, hfree, hoist_apply_comm (by decide) hfree, hok⟩

end NodeKit.Refactoring
