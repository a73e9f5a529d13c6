import NodeKit.Refactoring.Hoist
import NodeKit.Proofs.Text.Blank
import NodeKit.Proofs.Text.Pattern

/-!
# A hoist as an edit of the text

The hoist works with byte offsets and lists of lines. Here it is read as an edit of
the text itself. A call site is the text cut around its first call and the line that
holds it, a header site is a text cut around its first class header, and
`hoist_eq_ok_iff` says that a hoist takes the call out at the one and puts the
members in at the other.
-/
namespace NodeKit.Refactoring

/-! ## What the two patterns match -/

lemma fits_callPattern {gaps : List Text} : callPattern.Fits gaps ↔
    ∃ title category, gaps = [title, category] ∧ '\n' ∉ title ∧ '\n' ∉ category := by
  rcases gaps with _ | ⟨title, _ | ⟨category, rest⟩⟩
  · simp [callPattern, Pattern.Fits]
  · simp [callPattern, Pattern.Fits]
  · simp only [callPattern, Pattern.Fits, List.cons.injEq]
    grind

lemma fill_callPattern (title category : Text) : callPattern.fill [title, category] =
    "Initialize(".toList ++ (title ++ (", ".toList ++ (category ++ ");".toList))) := by
  simp [callPattern, Pattern.fill]

lemma getLast?_fill_callPattern (title category : Text) :
    (callPattern.fill [title, category]).getLast? = some ';' := by
  simp only [fill_callPattern, List.getLast?_append]
  rfl

lemma withinLine_callPattern : callPattern.WithinLine := by
  intro gaps hfits
  obtain ⟨title, category, rfl, htitle, hcategory⟩ := fits_callPattern.1 hfits
  refine ⟨by simp [fill_callPattern], by simp [fill_callPattern, htitle, hcategory], ?_⟩
  simp [getLast?_fill_callPattern]

lemma feedFree_callPattern : callPattern.FeedFree := by
  intro lead hlead
  simp only [callPattern, List.mem_cons, PatternPiece.fixed.injEq, reduceCtorEq, List.not_mem_nil,
    false_or, or_false] at hlead
  rcases hlead with rfl | rfl | rfl <;> decide

lemma withinLine_headerPattern : headerPattern.WithinLine := by
  intro gaps hfits
  rcases gaps with _ | ⟨name, rest⟩
  · simp [headerPattern, Pattern.Fits] at hfits
  · obtain ⟨hname, rfl⟩ : '\n' ∉ name ∧ rest = [] := by
      simpa [headerPattern, Pattern.Fits] using hfits
    have hfill : headerPattern.fill [name] =
        "public class ".toList ++ (name ++ " \x7b".toList) := by
      simp [headerPattern, Pattern.fill]
    have hlast : (headerPattern.fill [name]).getLast? = some '\x7b' := by
      simp only [hfill, List.getLast?_append]
      rfl
    exact ⟨by simp [hfill], by simp [hfill, hname], by simp [hlast]⟩

/-! ## Cutting the call out of its line -/

section cutSpan

variable {before after rest : Text}

lemma cutSpan_eq_none_iff :
    cutSpan before after = none ↔ Text.allBlank before ∧ Text.allBlank after := by
  unfold cutSpan
  split_ifs with hboth hbefore
  · simpa using hboth
  · simpa [hbefore] using hboth
  · simp [hbefore]

lemma cutSpan_eq_some (h : cutSpan before after = some rest) :
    (Text.allBlank before ∧ ¬ Text.allBlank after ∧ rest = before ++ Text.trimStart after) ∨
      (¬ Text.allBlank before ∧ rest = Text.trimEnd before ++ after) := by
  unfold cutSpan at h
  split at h
  · cases h
  · next hboth =>
    split at h
    · next hbefore =>
      cases h
      exact Or.inl ⟨hbefore, fun hafter => hboth (by simp [hbefore, hafter]), rfl⟩
    · next hbefore =>
      cases h
      exact Or.inr ⟨hbefore, rfl⟩

lemma cutSpan_sublist (h : cutSpan before after = some rest) : rest.Sublist (before ++ after) := by
  rcases cutSpan_eq_some h with ⟨-, -, rfl⟩ | ⟨-, rfl⟩
  · exact List.Sublist.append_left (Text.trimStart_sublist after) before
  · exact List.Sublist.append_right (Text.trimEnd_sublist before) after

/-- A cut keeps everything but blanks. -/
lemma nonBlank_cutSpan (before after : Text) : Text.nonBlank ((cutSpan before after).getD []) =
    Text.nonBlank before ++ Text.nonBlank after := by
  cases h : cutSpan before after with
  | none =>
    obtain ⟨hbefore, hafter⟩ := cutSpan_eq_none_iff.1 h
    rw [Text.nonBlank_of_allBlank hbefore, Text.nonBlank_of_allBlank hafter]
    rfl
  | some rest =>
    rcases cutSpan_eq_some h with ⟨-, -, rfl⟩ | ⟨-, rfl⟩ <;> simp

lemma cutSpan_ne_nil (h : cutSpan before after = some rest) : rest ≠ [] := by
  rcases cutSpan_eq_some h with ⟨-, hafter, rfl⟩ | ⟨hbefore, rfl⟩
  · simp [mt Text.trimStart_eq_nil_iff.1 hafter]
  · simp [mt Text.trimEnd_eq_nil_iff.1 hbefore]

/-- A blank at the end of what is left stood at the end of the line. -/
lemma getLast?_of_cutSpan {c : Char} (h : cutSpan before after = some rest)
    (hlast : rest.getLast? = some c) (hc : Text.isBlank c) : after.getLast? = some c := by
  rcases cutSpan_eq_some h with ⟨-, hafter, rfl⟩ | ⟨hbefore, rfl⟩
  · obtain ⟨skipped, hskipped⟩ := Text.trimStart_suffix after
    have hne : Text.trimStart after ≠ [] := mt Text.trimStart_eq_nil_iff.1 hafter
    obtain ⟨d, hd⟩ := Option.ne_none_iff_exists'.1 (mt List.getLast?_eq_none_iff.1 hne)
    rw [List.getLast?_append, hd] at hlast
    rw [← hskipped, List.getLast?_append, hd]
    exact hlast
  · rw [List.getLast?_append] at hlast
    cases ha : after.getLast? with
    | some d => simpa [ha] using hlast
    | none =>
      rw [ha] at hlast
      have := Text.not_isBlank_of_getLast?_trimEnd hlast
      simp [hc] at this

end cutSpan

/-- Offsets that are counted from the start of the line cut where they were taken. -/
lemma aroundBytes?_placed {before mid after : Text} {place start stop : Nat}
    (hstart : start = place + Text.byteLength before)
    (hstop : stop = place + Text.byteLength (before ++ mid)) :
    aroundBytes? (start - place) (stop - place) (before ++ (mid ++ after)) =
      some (before, after) := by
  have hbehind := Text.splitAtByte?_byteLength (before ++ mid) after
  rw [List.append_assoc] at hbehind
  rw [aroundBytes?, hstart, hstop, Nat.add_sub_cancel_left, Nat.add_sub_cancel_left,
    Text.splitAtByte?_byteLength, hbehind]

/-- A text around its first call: the lines above, the code on the line in front of the call, the
two arguments, the code behind it, the terminator of the line, and the lines below. -/
structure CallSite (t : Text) where
  above : Text
  before : Text
  title : Text
  category : Text
  after : Text
  ending : Ending
  below : Text
  found : callPattern.find? t = some
    ⟨above ++ before, [title, category], after ++ (ending.units Breaks.text ++ below)⟩
  cut : Line.Cut Breaks.text above (before ++ callPattern.fill [title, category] ++ after)
    ending below

namespace CallSite

variable {t : Text}

/-- Every call lies in one line. -/
theorem exists_of_find? {found : PatternMatch} (h : callPattern.find? t = some found) :
    ∃ site : CallSite t, found.gaps = [site.title, site.category] ∧
      found.before = site.above ++ site.before ∧
      found.after = site.after ++ (site.ending.units Breaks.text ++ site.below) := by
  obtain ⟨front, gaps, behind⟩ := found
  have hfits := Pattern.fits_of_find? h
  obtain ⟨title, category, rfl, -, -⟩ := fits_callPattern.1 hfits
  obtain ⟨hne, hlf, hcr⟩ := withinLine_callPattern _ hfits
  obtain ⟨above, before, after, ending, below, rfl, rfl, hcut⟩ :=
    Line.exists_cut Breaks.text front behind hne hlf hcr
  exact ⟨⟨above, before, title, category, after, ending, below, h, hcut⟩, rfl, rfl, rfl⟩

/-- A call site is there when a call is. -/
lemma nonempty_iff : Nonempty (CallSite t) ↔ callPattern.occursIn t := by
  constructor
  · rintro ⟨site⟩
    simp [Pattern.occursIn, site.found]
  · intro hoccurs
    obtain ⟨found, hfound⟩ := Option.isSome_iff_exists.1 hoccurs
    obtain ⟨site, -⟩ := exists_of_find? hfound
    exact ⟨site⟩

/-- The call itself. -/
def call (site : CallSite t) : Text := callPattern.fill [site.title, site.category]

lemma text (site : CallSite t) : t = site.above ++ ((site.before ++ site.call ++ site.after) ++
    (site.ending.units Breaks.text ++ site.below)) := by
  have h := Pattern.find?_eq_some site.found
  simpa [call] using h

/-- The lines above the call make no call. -/
lemma not_occursIn_above (site : CallSite t) :
    ¬ callPattern.occursIn site.above := by
  intro hoccurs
  obtain ⟨front, gaps, behind, hfits, habove⟩ := Pattern.occursIn_iff.1 hoccurs
  have htext := site.text
  rw [habove, List.append_assoc, List.append_assoc] at htext
  have hle := Pattern.length_before_le site.found hfits htext
  have hpos := List.length_pos_iff.2 (withinLine_callPattern gaps hfits).1
  have hlength := congrArg List.length habove
  simp only [List.length_append] at hle hlength
  omega

lemma splitLines_eq (site : CallSite t) : Text.splitLines t = Text.splitLines site.above ++
    ⟨site.before ++ site.call ++ site.after, site.ending⟩ :: Text.splitLines site.below := by
  have h := Line.split_cut (by decide) site.cut
  rwa [show callPattern.fill [site.title, site.category] = site.call from rfl, ← site.text] at h

lemma lf_notMem (site : CallSite t) : '\n' ∉ site.title ∧ '\n' ∉ site.category := by
  obtain ⟨title, category, heq, htitle, hcategory⟩ :=
    fits_callPattern.1 (Pattern.fits_of_find? site.found)
  obtain ⟨rfl, rfl⟩ : site.title = title ∧ site.category = category := by simpa using heq
  exact ⟨htitle, hcategory⟩

/-- A text has one call site. -/
lemma eq (site other : CallSite t) : site = other := by
  have hfound := Option.some.inj (site.found.symm.trans other.found)
  have hlines := site.splitLines_eq.symm.trans other.splitLines_eq
  obtain ⟨above, before, title, category, after, ending, below, found, cut⟩ := site
  obtain ⟨above', before', title', category', after', ending', below', found', cut'⟩ := other
  simp only [PatternMatch.mk.injEq, List.cons.injEq, and_true] at hfound
  obtain ⟨hfront, ⟨rfl, rfl⟩, -⟩ := hfound
  obtain ⟨rfl, rfl⟩ := Line.last_break_eq cut.above_ends (fun h => cut.lf_notMem (by simp [h]))
    cut'.above_ends (fun h => cut'.lf_notMem (by simp [h])) hfront
  simp only [call, List.append_cancel_left_eq, List.cons.injEq, Line.mk.injEq] at hlines
  obtain ⟨⟨rfl, rfl⟩, hbelow⟩ := hlines
  have hjoin := congrArg (Line.join Breaks.text) hbelow
  simp only [Text.splitLines, Line.join_split] at hjoin
  subst hjoin
  rfl

/-- The text without the call. The line goes as a whole when only blanks are left of it. -/
def edited (site : CallSite t) : Text :=
  match cutSpan site.before site.after with
  | none => site.above ++ site.below
  | some rest => site.above ++ (rest ++ (site.ending.units Breaks.text ++ site.below))

/-- What is left of the line is a line again. -/
lemma cut_rest (site : CallSite t) {rest : Text} (h : cutSpan site.before site.after = some rest) :
    Line.Cut Breaks.text site.above rest site.ending site.below where
  above_ends := site.cut.above_ends
  lf_notMem := by
    intro hlf
    have hmem := (cutSpan_sublist h).subset hlf
    exact site.cut.lf_notMem (by simp at hmem ⊢; tauto)
  bare := by
    intro hending hlast
    have hafter := getLast?_of_cutSpan h hlast (by decide)
    exact site.cut.bare hending (by rw [List.getLast?_append, hafter]; rfl)
  last := fun hu => ⟨cutSpan_ne_nil h, (site.cut.last hu).2⟩

lemma splitLines_edited (site : CallSite t) : Text.splitLines site.edited =
    Text.splitLines site.above ++
      ((cutSpan site.before site.after).map fun body => Line.mk body site.ending).toList ++
      Text.splitLines site.below := by
  unfold edited Text.splitLines
  cases h : cutSpan site.before site.after with
  | none => simpa using Line.split_append site.cut.above_ends site.below
  | some rest => simpa using Line.split_cut (by decide) (site.cut_rest h)

/-- The line of the call, at its place in the text. -/
def placed (site : CallSite t) : PlacedLine :=
  ⟨Text.byteLength site.above, ⟨site.before ++ (site.call ++ site.after), site.ending⟩⟩

lemma byteLength_start (site : CallSite t) : Text.byteLength (site.above ++ site.before) =
    site.placed.start + Text.byteLength site.before :=
  Text.byteLength_append ..

lemma byteLength_stop (site : CallSite t) :
    Text.byteLength (site.above ++ site.before) + Text.byteLength site.call =
      site.placed.start + Text.byteLength (site.before ++ site.call) := by
  simp [placed, Nat.add_assoc]

/-- Of all the lines, the one with the call alone holds the byte where the call starts. -/
lemma placeFrom_eq (site : CallSite t) : ∃ first behind,
    Line.placeFrom 0 (Text.splitLines t) = first ++ site.placed :: behind ∧
      first.map PlacedLine.line = Text.splitLines site.above ∧
      behind.map PlacedLine.line = Text.splitLines site.below ∧
      site.placed.holds (Text.byteLength (site.above ++ site.before)) ∧
      (∀ line ∈ first, ¬ line.holds (Text.byteLength (site.above ++ site.before))) ∧
      ∀ line ∈ behind, ¬ line.holds (Text.byteLength (site.above ++ site.before)) := by
  have hcall : site.call ++ site.after ≠ [] := by simp [call, fill_callPattern]
  have hcut := site.cut
  rw [List.append_assoc] at hcut
  have htext := site.text
  rw [List.append_assoc site.before] at htext
  have hplaced := Line.placeFrom_cut hcall hcut
  rwa [← htext] at hplaced

/-- Taking the call out of the lines is taking it out of the text. -/
theorem removeCall?_eq (site : CallSite t) :
    removeCall? ⟨site.title, site.category, Text.byteLength (site.above ++ site.before),
        Text.byteLength (site.above ++ site.before) + Text.byteLength site.call⟩ t =
      some (Text.splitLines site.edited) := by
  obtain ⟨first, behind, hplaced, hfirst, hbehind, hholds, hnone, -⟩ := site.placeFrom_eq
  have hline : lineAt? (Text.byteLength (site.above ++ site.before)) t =
      some ⟨first, site.placed, behind⟩ := by
    rw [lineAt?, hplaced]
    exact firstAround?_append hnone hholds behind
  have haround : aroundBytes?
      (Text.byteLength (site.above ++ site.before) - site.placed.start)
      (Text.byteLength (site.above ++ site.before) + Text.byteLength site.call -
        site.placed.start) site.placed.line.body = some (site.before, site.after) :=
    aroundBytes?_placed site.byteLength_start site.byteLength_stop
  simp only [removeCall?, hline, Option.bind_some, haround, Option.map_some, hfirst, hbehind,
    site.splitLines_edited]
  rfl

lemma findCall?_eq (site : CallSite t) : findCall? t =
    some ⟨site.title, site.category, Text.byteLength (site.above ++ site.before),
      Text.byteLength (site.above ++ site.before) + Text.byteLength site.call⟩ := by
  simp only [findCall?, site.found]
  rfl

/-- The match in a line with a call, below and above any text. -/
lemma find?_line_iff (site : CallSite t) {above below : Text}
    (hends : above = [] ∨ above.getLast? = some '\n') (hnone : ¬ callPattern.occursIn above)
    {cr tail : Text} (htail : site.ending.units Breaks.text ++ below = cr ++ tail)
    (hhead : tail = [] ∨ tail.head? = some '\n') :
    callPattern.find? (above ++ ((site.before ++ site.call ++ site.after) ++
        (site.ending.units Breaks.text ++ below))) =
      some ⟨above ++ site.before, [site.title, site.category],
        site.after ++ (site.ending.units Breaks.text ++ below)⟩ ↔
    callPattern.find? (site.before ++ site.call ++ site.after ++ cr) =
      some ⟨site.before, [site.title, site.category], site.after ++ cr⟩ := by
  have hbefore : site.before.length ≤
      (site.before ++ site.call ++ site.after ++ cr).length := by
    simp only [List.length_append]
    omega
  rw [← Pattern.find?_line_iff feedFree_callPattern hhead hbefore, htail,
    Pattern.find?_above_append feedFree_callPattern hends hnone, Option.map_eq_some_iff]
  simp only [List.append_assoc]
  constructor
  · rintro ⟨found, hfound, heq⟩
    obtain ⟨before, gaps, after⟩ := found
    simp only [PatternMatch.mk.injEq, List.append_cancel_left_eq] at heq
    obtain ⟨rfl, rfl, rfl⟩ := heq
    exact hfound
  · exact fun hfound => ⟨_, hfound, rfl⟩

/-- A line with a call has the same match below and above other text. -/
lemma find?_moved (site : CallSite t) {above below : Text}
    (hends : above = [] ∨ above.getLast? = some '\n') (hnone : ¬ callPattern.occursIn above)
    (hbelow : site.ending = .unterminated → below = []) :
    callPattern.find? (above ++ ((site.before ++ site.call ++ site.after) ++
        (site.ending.units Breaks.text ++ below))) =
      some ⟨above ++ site.before, [site.title, site.category],
        site.after ++ (site.ending.units Breaks.text ++ below)⟩ := by
  obtain ⟨cr, hcr⟩ := Ending.exists_return Breaks.text site.ending
  obtain ⟨tail, htail, hhead⟩ := hcr site.below fun hu => (site.cut.last hu).2
  obtain ⟨tail', htail', hhead'⟩ := hcr below hbelow
  refine (site.find?_line_iff hends hnone htail' hhead').2 ?_
  refine (site.find?_line_iff site.cut.above_ends site.not_occursIn_above htail hhead).1 ?_
  exact (congrArg callPattern.find? site.text).symm.trans site.found

end CallSite

/-! ## Putting the members in -/

lemma titleMember_eq (title : Text) : titleMember title =
    "protected override string Title => ".toList ++ title ++ ";".toList := rfl

lemma categoryMember_eq (category : Text) : categoryMember category =
    "protected override NodeCategory Category => ".toList ++ category ++ ";".toList := rfl

/-- A text around its first class header. -/
structure HeaderSite (t : Text) where
  above : Text
  header : Text
  ending : Ending
  below : Text
  text : t = above ++ (header ++ (ending.units Breaks.text ++ below))
  cut : Line.Cut Breaks.text above header ending below
  isHeader : headerPattern.occursIn header
  first : ∀ line ∈ Text.splitLines above, ¬ headerPattern.occursIn line.body

namespace HeaderSite

variable {t : Text}

/-- The leading blanks of the members. -/
def indent (site : HeaderSite t) : Text := Text.indentation site.header ++ memberIndent

/-- The terminator behind the header and the first member. -/
def lineBreak (site : HeaderSite t) : Text :=
  (if site.ending = .unterminated then Ending.lf else site.ending).units Breaks.text

/-- The text with the two members directly below the header. -/
def withMembers (site : HeaderSite t) (title category : Text) : Text :=
  site.above ++ (site.header ++ (site.lineBreak ++
    (site.indent ++ titleMember title ++ (site.lineBreak ++
      (site.indent ++ categoryMember category ++
        (site.ending.units Breaks.text ++ site.below))))))

lemma splitLines_eq (site : HeaderSite t) : Text.splitLines t =
    Text.splitLines site.above ++ ⟨site.header, site.ending⟩ :: Text.splitLines site.below := by
  have h := Line.split_cut (by decide) site.cut
  rwa [← site.text] at h

lemma allBlank_indent (site : HeaderSite t) : Text.allBlank site.indent := by
  have hmember : Text.allBlank memberIndent := by decide
  simp only [Text.allBlank, indent, List.all_append, Bool.and_eq_true] at hmember ⊢
  exact ⟨Text.allBlank_indentation site.header, hmember⟩

lemma lf_notMem_indent (site : HeaderSite t) : '\n' ∉ site.indent := by
  intro hmem
  rcases List.mem_append.1 hmem with hindent | hmember
  · exact site.cut.lf_notMem ((List.takeWhile_sublist _).subset hindent)
  · exact absurd hmember (by decide)

theorem insertMembers?_eq (site : HeaderSite t) (title category : Text) :
    (insertMembers? title category (Text.splitLines t)).map Text.ofLines =
      some (site.withMembers title category) := by
  have hfirst : firstAround? (fun line : Line Char => headerPattern.occursIn line.body)
      (Text.splitLines site.above ++ ⟨site.header, site.ending⟩ :: Text.splitLines site.below) =
      some ⟨Text.splitLines site.above, ⟨site.header, site.ending⟩, Text.splitLines site.below⟩ :=
    firstAround?_append site.first site.isHeader _
  have hjoin (s : Text) : (Text.splitLines s).flatMap (Line.whole Breaks.text) = s :=
    Line.join_split Breaks.text s
  rw [insertMembers?, site.splitLines_eq, hfirst]
  simp [Text.ofLines, Line.join, hjoin, Line.whole, withMembers, indent, lineBreak]

/-- The lines above the header hold none. -/
lemma not_occursIn_above (site : HeaderSite t) : ¬ headerPattern.occursIn site.above := by
  rw [Pattern.occursIn_lines withinLine_headerPattern]
  rintro ⟨line, hline, hoccurs⟩
  exact site.first line hline hoccurs

/-- A header site is there when a header is. -/
lemma nonempty_iff : Nonempty (HeaderSite t) ↔ headerPattern.occursIn t := by
  rw [Pattern.occursIn_lines withinLine_headerPattern]
  constructor
  · rintro ⟨site⟩
    exact ⟨⟨site.header, site.ending⟩, by simp [site.splitLines_eq], site.isHeader⟩
  · rintro ⟨line, hline, hoccurs⟩
    let test (line : Line Char) : Bool := headerPattern.occursIn line.body
    have hsome : (firstAround? test (Text.splitLines t)).isSome :=
      firstAround?_isSome hline hoccurs
    obtain ⟨found, hfound⟩ := Option.isSome_iff_exists.1 hsome
    obtain ⟨hsplit, hheader, hfirst⟩ := firstAround?_eq_some hfound
    obtain ⟨htext, hcut, habove, -⟩ := Line.cut_of_split_eq (by decide) hsplit
    refine ⟨⟨_, found.focus.body, found.focus.ending, _, htext, hcut, hheader, ?_⟩⟩
    rw [Text.splitLines, habove]
    exact hfirst

lemma exists_of_insertMembers? {title category : Text} {lines : List (Line Char)}
    (h : insertMembers? title category (Text.splitLines t) = some lines) :
    Nonempty (HeaderSite t) := by
  obtain ⟨found, hfound, -⟩ := Option.map_eq_some_iff.1 h
  obtain ⟨hsplit, hheader, -⟩ := firstAround?_eq_some hfound
  rw [nonempty_iff, Pattern.occursIn_lines withinLine_headerPattern]
  exact ⟨found.focus, by simp [hsplit], hheader⟩

end HeaderSite

/-! ## The whole hoist -/

/-- A call is found where its pattern matches. -/
lemma findCall?_eq_none_iff {t : Text} : findCall? t = none ↔ ¬ callPattern.occursIn t := by
  constructor
  · intro hnone hoccurs
    obtain ⟨site⟩ := CallSite.nonempty_iff.2 hoccurs
    simp [site.findCall?_eq] at hnone
  · intro h
    have hfind : callPattern.find? t = none := by simpa [Pattern.occursIn] using h
    simp [findCall?, hfind]

lemma hoist_of_not_occursIn {t : Text} (h : ¬ callPattern.occursIn t) : hoist t = .ok t := by
  simp [hoist, findCall?_eq_none_iff.2 h]

/-- A hoist takes the call out and puts the members in below the first header that is left. -/
theorem hoist_eq_ok_iff {t : Text} (site : CallSite t) {u : Text} : hoist t = .ok u ↔
    ∃ place : HeaderSite site.edited, u = place.withMembers site.title site.category := by
  simp only [hoist, site.findCall?_eq, site.removeCall?_eq]
  constructor
  · intro h
    cases hmembers : insertMembers? site.title site.category (Text.splitLines site.edited) with
    | none => simp [hmembers] at h
    | some lines =>
      obtain ⟨place⟩ := HeaderSite.exists_of_insertMembers? hmembers
      have heq := place.insertMembers?_eq site.title site.category
      rw [hmembers] at h heq
      exact ⟨place, by simpa using (Except.ok.inj h).symm.trans (Option.some.inj heq)⟩
  · rintro ⟨place, rfl⟩
    obtain ⟨lines, hmembers, hlines⟩ :=
      Option.map_eq_some_iff.1 (place.insertMembers?_eq site.title site.category)
    simp [hmembers, hlines]

/-- Without a header there is no place for the members. -/
lemma hoist_of_not_occursIn_edited {t : Text} (site : CallSite t)
    (h : ¬ headerPattern.occursIn site.edited) : hoist t =
      .error (.patternNotFound headerPattern.source "locating the class header") := by
  simp only [hoist, site.findCall?_eq, site.removeCall?_eq]
  cases hmembers : insertMembers? site.title site.category (Text.splitLines site.edited) with
  | none => rfl
  | some lines =>
    exact absurd (HeaderSite.nonempty_iff.1 (HeaderSite.exists_of_insertMembers? hmembers)) h

end NodeKit.Refactoring
