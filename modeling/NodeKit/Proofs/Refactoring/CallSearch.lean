import NodeKit.Proofs.Refactoring.Hoist
import NodeKit.Proofs.Text.Search

/-!
# The call as three searches

The call is matched by a pattern with two lazy gaps. The match is what three forward
searches find in the first line that has room for all of them: the opening of the call,
then the comma behind it, then the end behind that (`callPattern_searches`). A header is
found in a line by two searches in the same way.
-/
namespace NodeKit.Refactoring

/-- The fixed words of a call, in order. -/
def callWords : List Text := ["Initialize(", ", ", ");"]

/-- The fixed words of a class header, in order. -/
def headerWords : List Text := ["public class ", " \x7b"]

lemma callPattern_eq : callPattern = Pattern.spaced callWords := rfl

lemma headerPattern_eq : headerPattern = Pattern.spaced headerWords := rfl

/-- A call found by searching. The lines of the text above the one with the call do not hold the
three words in order. In that one each word is taken at its first place behind the word before. -/
structure SearchedCall (t : Text) where
  above : List Text
  line : Text
  below : List Text
  lines : Text.lines t = above ++ line :: below
  above_notInOrder : ∀ other ∈ above, ¬ Text.InOrder callWords other
  front : Text
  arguments : Text
  opening : line.dropInfix? "Initialize(" = some (front, arguments)
  title : Text
  rest : Text
  comma : arguments.dropInfix? ", " = some (title, rest)
  category : Text
  behind : Text
  closing : rest.dropInfix? ");" = some (category, behind)

namespace SearchedCall

variable {t : Text}

/-- The text around the call, and its two arguments. -/
def found (call : SearchedCall t) : PatternMatch where
  before := Text.joinLines (call.above ++ [call.front])
  gaps := [call.title, call.category]
  after := Text.joinLines (call.behind :: call.below)

lemma lf_notMem_line (call : SearchedCall t) : '\n' ∉ call.line :=
  Text.lf_notMem_of_mem_lines (t := t) (by simp [call.lines])

end SearchedCall

/-- On a line the match is what the three searches find. -/
lemma find?_line_eq_some {line front title category behind : Text} (hline : '\n' ∉ line) :
    callPattern.find? line = some ⟨front, [title, category], behind⟩ ↔
      ∃ arguments rest, line.dropInfix? "Initialize(" = some (front, arguments) ∧
        arguments.dropInfix? ", " = some (title, rest) ∧
        rest.dropInfix? ");" = some (category, behind) := by
  rw [callPattern_eq, callWords, Pattern.find?_spaced_eq_some hline]
  simp only [Text.search?_eq_some, Text.search?_nil, Option.some.injEq, Prod.mk.injEq, true_and]
  constructor
  · rintro ⟨arguments, hopening, rest, hcomma, left, hclosing, rfl⟩
    exact ⟨arguments, rest, hopening, hcomma, hclosing⟩
  · rintro ⟨arguments, rest, hopening, hcomma, hclosing⟩
    exact ⟨arguments, hopening, rest, hcomma, behind, hclosing, rfl⟩

lemma occursIn_line_iff {line : Text} (hline : '\n' ∉ line) :
    callPattern.occursIn line ↔ Text.InOrder callWords line := by
  rw [callPattern_eq]
  exact Pattern.occursIn_spaced_iff hline

lemma find?_lines (t : Text) : callPattern.find? t =
    (firstAround? callPattern.occursIn (Text.lines t)).bind fun place =>
      (callPattern.find? place.focus).map fun found =>
        ⟨Text.joinLines (place.above ++ [found.before]), found.gaps,
          Text.joinLines (found.after :: place.below)⟩ := by
  rw [← Pattern.find?_joinLines feedFree_callPattern (Text.lines_ne_nil t), Text.joinLines_lines]

/-- The match of a call is the call that the searches find. -/
theorem find?_eq_some_iff_searched {t : Text} {found : PatternMatch} :
    callPattern.find? t = some found ↔ ∃ call : SearchedCall t, found = call.found := by
  rw [find?_lines]
  constructor
  · intro h
    obtain ⟨place, hplace, hfound⟩ := Option.bind_eq_some_iff.1 h
    obtain ⟨⟨front, gaps, behind⟩, hinner, rfl⟩ := Option.map_eq_some_iff.1 hfound
    obtain ⟨hlines, -, habove⟩ := firstAround?_eq_some hplace
    have hlf : ∀ line ∈ place.above ++ place.focus :: place.below, '\n' ∉ line :=
      fun line hline => Text.lf_notMem_of_mem_lines (hlines ▸ hline)
    obtain ⟨title, category, rfl, -, -⟩ := fits_callPattern.1 (Pattern.fits_of_find? hinner)
    obtain ⟨arguments, rest, hopening, hcomma, hclosing⟩ :=
      (find?_line_eq_some (hlf _ (by simp))).1 hinner
    refine ⟨⟨place.above, place.focus, place.below, hlines, fun other hother => ?_, front,
      arguments, hopening, title, rest, hcomma, category, behind, hclosing⟩, rfl⟩
    rw [← occursIn_line_iff (hlf _ (by simp [hother]))]
    exact habove other hother
  · rintro ⟨call, rfl⟩
    have habove : ∀ other ∈ call.above, ¬ callPattern.occursIn other := by
      intro other hother
      have hmem : other ∈ Text.lines t := by simp [call.lines, hother]
      rw [occursIn_line_iff (Text.lf_notMem_of_mem_lines hmem)]
      exact call.above_notInOrder other hother
    have hfind := (find?_line_eq_some call.lf_notMem_line).2
      ⟨call.arguments, call.rest, call.opening, call.comma, call.closing⟩
    have hfocus : callPattern.occursIn call.line := by
      rw [Pattern.occursIn, hfind]
      rfl
    rw [call.lines, firstAround?_append habove hfocus, Option.bind_some, hfind]
    rfl

/-- There is a call when some line holds its words in order. -/
lemma occursIn_iff_inOrder {t : Text} :
    callPattern.occursIn t ↔ ∃ line ∈ Text.lines t, Text.InOrder callWords line := by
  have hlines := Pattern.occursIn_joinLines feedFree_callPattern (Text.lines_ne_nil t)
  rw [Text.joinLines_lines] at hlines
  rw [hlines]
  refine exists_congr fun line => and_congr_right fun hline => ?_
  exact occursIn_line_iff (Text.lf_notMem_of_mem_lines hline)

/-- The first call of a text is the one that three searches find in the first line with its words
in order, so neither argument reaches over the word behind it or the end of the line. A header is
found in a line by two searches. -/
theorem callPattern_searches (t : Text) :
    (callPattern.occursIn t ↔ ∃ line ∈ Text.lines t, Text.InOrder callWords line) ∧
    (∀ found, callPattern.find? t = some found ↔ ∃ call : SearchedCall t, found = call.found) ∧
    (∀ call : SearchedCall t, ¬ ", ".toList <:+: call.title ∧ ¬ ");".toList <:+: call.category ∧
      '\n' ∉ call.title ∧ '\n' ∉ call.category ∧ '\n' ∉ callPattern.fill call.found.gaps) ∧
    ∀ body, '\n' ∉ body → (headerPattern.occursIn body ↔ Text.InOrder headerWords body) := by
  refine ⟨occursIn_iff_inOrder, fun found => find?_eq_some_iff_searched, fun call => ?_,
    fun body hbody => ?_⟩
  · have hfits := Pattern.fits_of_find? (find?_eq_some_iff_searched.2 ⟨call, rfl⟩)
    obtain ⟨hne, hlf, -⟩ := withinLine_callPattern _ hfits
    obtain ⟨title, category, hgaps, htitle, hcategory⟩ := fits_callPattern.1 hfits
    obtain ⟨rfl, rfl⟩ : call.title = title ∧ call.category = category := by
      simpa [SearchedCall.found] using hgaps
    exact ⟨Text.not_infix_of_dropInfix? (by simp) call.comma,
      Text.not_infix_of_dropInfix? (by simp) call.closing, htitle, hcategory, hlf⟩
  · rw [headerPattern_eq]
    exact Pattern.occursIn_spaced_iff hbody

/-- A line with the opening alone is passed over, and the arguments are cut at the first comma and
the first end behind it. The two blanks of a header may not be the same one. -/
theorem callPattern_searches_secondLine :
    let t : Text := "// Initialize(\nInitialize(x; Initialize(,, g(a, b)););\nInitialize(c, d);"
    let found : PatternMatch :=
      ⟨"// Initialize(\n", ["x; Initialize(,", "g(a, b)"], ");\nInitialize(c, d);"⟩
    let body : Text := "public class \x7b"
    callPattern.find? t = some found ∧ (∃ call : SearchedCall t, found = call.found) ∧
      '\n' ∉ body ∧ ¬ headerPattern.occursIn body ∧ ¬ Text.InOrder headerWords body := by
  intro t found body
  have hfind : callPattern.find? t = some found := by decide +kernel
  have hbody : '\n' ∉ body := by decide
  have hheader : ¬ headerPattern.occursIn body := by decide +kernel
  obtain ⟨-, hcall, -, hbodies⟩ := callPattern_searches t
  exact ⟨hfind, (hcall found).1 hfind, hbody, hheader, mt (hbodies body hbody).2 hheader⟩

end NodeKit.Refactoring
