import NodeKit.Proofs.Refactoring.Hoist

/-!
# How a hoist fails

The hoist finds a call in the whole text and takes its byte offsets back to a line and to
the code beside the call on that line. An offset inside a terminator lies in no line, a
call that runs over the end of its line has no code behind it there, and an offset inside
a character is no place to cut. None of this comes up (`CallSite.liesIn`), so a missing
class header is all that a hoist can fail of.
-/
namespace NodeKit.Refactoring

/-- A match in the body of the one line that holds its first byte, with the code beside it.
Both offsets lie between two characters of that line, and slicing there gives that code. -/
structure LiesIn (pattern : Pattern) (t : Text) (found : PatternMatch) (placed : PlacedLine)
    (before after : Text) : Prop where
  only : (Line.placeFrom 0 (Text.splitLines t)).filter (·.holds found.start) = [placed]
  body : placed.line.body = before ++ (pattern.fill found.gaps ++ after)
  start : found.start = placed.start + Text.byteLength before
  stop : found.stop pattern = placed.start + Text.byteLength (before ++ pattern.fill found.gaps)
  around : aroundBytes? (found.start - placed.start) (found.stop pattern - placed.start)
    placed.line.body = some (before, after)

variable {t : Text} {found : PatternMatch}

namespace CallSite

/-- The call lies in the line that it is cut from. -/
theorem liesIn (site : CallSite t) (h : callPattern.find? t = some found) :
    LiesIn callPattern t found site.placed site.before site.after := by
  obtain rfl := Option.some.inj (site.found.symm.trans h)
  obtain ⟨first, behind, hplaced, -, -, hholds, hfirst, hbehind⟩ := site.placeFrom_eq
  have honly : (first ++ site.placed :: behind).filter
      (·.holds (Text.byteLength (site.above ++ site.before))) = [site.placed] := by
    rw [List.filter_append, List.filter_eq_nil_iff.2 hfirst, List.filter_cons, if_pos hholds,
      List.filter_eq_nil_iff.2 hbehind, List.nil_append]
  rw [← hplaced] at honly
  exact ⟨honly, rfl, site.byteLength_start, site.byteLength_stop,
    aroundBytes?_placed site.byteLength_start site.byteLength_stop⟩

end CallSite

/-- The only error of a hoist with a call. -/
lemma CallSite.hoist_eq_error_iff (site : CallSite t) {e : Error} : hoist t = .error e ↔
    e = .patternNotFound headerPattern.source "locating the class header" ∧
      ¬ headerPattern.occursIn site.edited := by
  by_cases hheader : headerPattern.occursIn site.edited
  · obtain ⟨place⟩ := HeaderSite.nonempty_iff.2 hheader
    have hok := (hoist_eq_ok_iff site).2 ⟨place, rfl⟩
    simp [hok, hheader]
  · rw [hoist_of_not_occursIn_edited site hheader]
    simp [hheader, eq_comm]

/-- The offsets of a call lead to the one line that it lies in, and cut that line at the call. So
the one failure of a hoist is that no line is a class header once the call is cut out. -/
theorem hoist_error_iff_noHeader (t : Text) :
    (∀ found, callPattern.find? t = some found → ∃ title category placed before after above below,
      findCall? t = some ⟨title, category, found.start, found.stop callPattern⟩ ∧
      LiesIn callPattern t found placed before after ∧
      Text.splitLines t = above ++ placed.line :: below ∧
      removeCall? ⟨title, category, found.start, found.stop callPattern⟩ t = some (above ++
        ((cutSpan before after).map fun body => Line.mk body placed.line.ending).toList ++ below)) ∧
    ∀ e, hoist t = .error e ↔
      e = .patternNotFound headerPattern.source "locating the class header" ∧
        ∃ call lines, findCall? t = some call ∧ removeCall? call t = some lines ∧
          ∀ line ∈ lines, ¬ headerPattern.occursIn line.body := by
  refine ⟨fun found h => ?_, fun e => ?_⟩
  · obtain ⟨site, -⟩ := CallSite.exists_of_find? h
    have hlies := site.liesIn h
    obtain rfl := Option.some.inj (site.found.symm.trans h)
    refine ⟨site.title, site.category, site.placed, site.before, site.after,
      Text.splitLines site.above, Text.splitLines site.below, site.findCall?_eq, hlies, ?_, ?_⟩
    · simpa [CallSite.placed] using site.splitLines_eq
    · exact site.removeCall?_eq.trans (congrArg some site.splitLines_edited)
  · by_cases hoccurs : callPattern.occursIn t
    · obtain ⟨site⟩ := CallSite.nonempty_iff.2 hoccurs
      rw [site.hoist_eq_error_iff, Pattern.occursIn_lines withinLine_headerPattern,
        site.findCall?_eq]
      simp only [Option.some.injEq, exists_and_left, exists_eq_left', site.removeCall?_eq,
        not_exists, not_and]
    · simp [hoist_of_not_occursIn hoccurs, findCall?_eq_none_iff.2 hoccurs]

/-- Returns and characters of several bytes in front of the call and inside it, empty lines above
it, the terminator directly behind it, and no class header below. -/
theorem hoist_error_iff_noHeader_returns :
    let t : Text := "// é\r\n\n\r\n\tö\rInitialize(\"ä\r\", €);\r\nclass A \x7b"
    let found : PatternMatch := ⟨"// é\r\n\n\r\n\tö\r", ["\"ä\r\"", "€"], "\r\nclass A \x7b"⟩
    let lines : List (Line Char) :=
      [⟨"// é", .crlf⟩, ⟨[], .lf⟩, ⟨[], .crlf⟩, ⟨"\tö", .crlf⟩, ⟨"class A \x7b", .unterminated⟩]
    callPattern.find? t = some found ∧
      (∃ placed before after, LiesIn callPattern t found placed before after) ∧
      removeCall? ⟨"\"ä\r\"", "€", 14, 37⟩ t = some lines ∧
      hoist t = .error (.patternNotFound headerPattern.source "locating the class header") := by
  intro t found lines
  obtain ⟨hlies, herror⟩ := hoist_error_iff_noHeader t
  have hfind : callPattern.find? t = some found := by decide +kernel
  obtain ⟨-, -, placed, before, after, -, -, -, hline, -⟩ := hlies found hfind
  have hcall : findCall? t = some ⟨"\"ä\r\"", "€", 14, 37⟩ := by decide +kernel
  have hlines : removeCall? ⟨"\"ä\r\"", "€", 14, 37⟩ t = some lines := by decide +kernel
  have hheader : ∀ line ∈ lines, ¬ headerPattern.occursIn line.body := by decide +kernel
  exact ⟨hfind, ⟨placed, before, after, hline⟩, hlines,
    (herror _).2 ⟨rfl, _, lines, hcall, hlines, hheader⟩⟩

end NodeKit.Refactoring
