import NodeKit.Proofs.Refactoring.Hoist
import NodeKit.Proofs.Text.Identifiers

/-!
# What a cut leaves of a line

Cutting a stretch of code out of a line takes nothing else but blanks away, and the
indentation of the line stays. The blanks that go can be the only ones between two
identifiers, which then become one: this happens exactly when the code behind the cut
begins with an identifier character and the code in front of it, blanks aside, ends in
one (`cutSpan_keeps_code`).
-/
namespace NodeKit.Refactoring

section

variable {before after rest : Text}

/-- As far as identifiers go, a cut trims the code in front of it and no other. -/
lemma identifiers_cutSpan (before after : Text) :
    Text.identifiers ((cutSpan before after).getD []) =
      Text.identifiers (Text.trimEnd before ++ after) := by
  cases h : cutSpan before after with
  | none =>
    obtain ⟨hbefore, hafter⟩ := cutSpan_eq_none_iff.1 h
    rw [Text.trimEnd_of_allBlank hbefore, List.nil_append, Text.identifiers_of_allBlank hafter]
    rfl
  | some rest =>
    rcases cutSpan_eq_some h with ⟨hbefore, -, rfl⟩ | ⟨-, rfl⟩
    · rw [Option.getD_some, Text.trimEnd_of_allBlank hbefore, List.nil_append,
        Text.identifiers_allBlank_append hbefore, Text.identifiers_trimStart]
    · rfl

lemma indentation_cutSpan (hbefore : Text.allBlank before) (h : cutSpan before after = some rest) :
    Text.indentation rest = before := by
  rcases cutSpan_eq_some h with ⟨-, -, rfl⟩ | ⟨hcode, -⟩
  · rw [Text.indentation_append hbefore, Text.indentation_trimStart, List.append_nil]
  · exact absurd hbefore hcode

end

/-- The cut of a stretch out of a line, by its byte offsets. What is not blank and the indentation
stay. The identifiers stay too, unless the last one in front and the first one behind are run
together, when nothing but blanks of the front stood between them. -/
theorem cutSpan_keeps_code (before call after : Text) :
    let left := (cutSpan before after).getD []
    aroundBytes? (Text.byteLength before) (Text.byteLength (before ++ call))
        (before ++ call ++ after) = some (before, after) ∧
      Text.nonBlank left = Text.nonBlank before ++ Text.nonBlank after ∧
      (∀ rest, Text.allBlank before → cutSpan before after = some rest →
        Text.indentation rest = before) ∧
      (¬ Text.Touch (Text.trimEnd before) after →
        Text.identifiers left = Text.identifiers before ++ Text.identifiers after) ∧
      (Text.Touch (Text.trimEnd before) after → ∃ front a b behind,
        Text.identifiers before = front ++ [a] ∧ Text.identifiers after = b :: behind ∧
          Text.identifiers left = front ++ (a ++ b) :: behind) := by
  have hidentifiers := identifiers_cutSpan before after
  refine ⟨?_, nonBlank_cutSpan before after, fun rest => indentation_cutSpan, fun happart => ?_,
    fun htouch => ?_⟩
  · rw [List.append_assoc]
    exact aroundBytes?_placed (Nat.zero_add _).symm (Nat.zero_add _).symm
  · rw [hidentifiers, Text.identifiers_append happart, Text.identifiers_trimEnd]
  · rw [hidentifiers, ← Text.identifiers_trimEnd before]
    exact Text.identifiers_append_of_touch htouch

/-- A comment behind the cut stays on its line, and takes no blank of the indentation away. -/
theorem cutSpan_keeps_code_comment :
    let before : Text := "    "
    let call : Text := "Initialize(T, c);"
    let after : Text := "  // set_1"
    let rest : Text := "    // set_1"
    Text.allBlank before ∧ cutSpan before after = some rest ∧
      ¬ Text.Touch (Text.trimEnd before) after ∧
      aroundBytes? (Text.byteLength before) (Text.byteLength (before ++ call))
        (before ++ call ++ after) = some (before, after) ∧
      Text.nonBlank rest = Text.nonBlank before ++ Text.nonBlank after ∧
      Text.indentation rest = before ∧
      Text.identifiers rest = Text.identifiers before ++ Text.identifiers after := by
  intro before call after rest
  have hbefore : Text.allBlank before := by decide
  have hcut : cutSpan before after = some rest := by decide +kernel
  have happart : ¬ Text.Touch (Text.trimEnd before) after := by decide +kernel
  obtain ⟨haround, hcode, hindentation, hidentifiers, -⟩ := cutSpan_keeps_code before call after
  rw [hcut] at hcode hidentifiers
  exact ⟨hbefore, hcut, happart, haround, hcode, hindentation rest hbefore hcut,
    hidentifiers happart⟩

/-- The blank between a keyword and the call is the only one between two keywords once the call is
gone, and it goes too. -/
theorem cutSpan_joins_keywords :
    let t : Text := "public class A \x7b\n    do Initialize(T, c);while (x);\n\x7d"
    let u : Text := "public class A \x7b\n    protected override string Title => T;\n" ++
      "    protected override NodeCategory Category => c;\n    dowhile (x);\n\x7d"
    let before : Text := "    do "
    let after : Text := "while (x);"
    let rest : Text := "    dowhile (x);"
    hoist t = .ok u ∧ cutSpan before after = some rest ∧
      Text.identifiers rest ≠ Text.identifiers before ++ Text.identifiers after := by
  refine ⟨?_, ?_, ?_⟩
  · decide +kernel
  · decide +kernel
  · decide +kernel

end NodeKit.Refactoring
