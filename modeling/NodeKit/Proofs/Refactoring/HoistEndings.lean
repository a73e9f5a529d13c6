import NodeKit.Proofs.Refactoring.Hoist
import Mathlib.Data.List.Basic

/-!
# Line endings of a hoisted text

The new members end as the class header does, so a text whose lines all end in CRLF
keeps that through a hoist. The one exception is a header on an unterminated last
line: it has no terminator to take over, and each member is put behind a line feed
alone. The second of the two is always bare, and the first one is unless the header
itself ends in a carriage return (`allCrlf_hoist`).
-/
namespace NodeKit

/-! ## Texts whose lines end in CRLF -/

namespace Text

/-- Every line feed has a carriage return directly in front of it. -/
def AllCrlf (t : Text) : Prop :=
  ∀ front behind, t = front ++ '\n' :: behind → front.getLast? = some '\r'

lemma allCrlf_of_notMem {t : Text} (h : '\n' ∉ t) : AllCrlf t := by
  rintro front behind rfl
  simp at h

lemma AllCrlf.append {s t : Text} (hs : AllCrlf s) (ht : AllCrlf t) (hhead : t.head? ≠ some '\n') :
    AllCrlf (s ++ t) := by
  intro front behind h
  rcases List.append_eq_append_iff.1 h with ⟨skipped, rfl, hrest⟩ | ⟨left, hleft, hrest⟩
  · rw [List.getLast?_append, ht skipped behind hrest]
    rfl
  · cases left with
    | nil =>
      rw [List.nil_append] at hrest
      simp [← hrest] at hhead
    | cons c left =>
      obtain ⟨rfl, -⟩ := List.cons.inj hrest
      exact hs front left hleft

/-- Behind a text with CRLF endings come two more lines, each of them behind a line feed. Only these
two line feeds can be bare. -/
lemma AllCrlf.append_lines {s first second front behind : Text} (hs : AllCrlf s)
    (hfirst : '\n' ∉ first) (hsecond : '\n' ∉ second)
    (h : s ++ '\n' :: (first ++ '\n' :: second) = front ++ '\n' :: behind) :
    front = s ∨ front = s ++ '\n' :: first ∨ front.getLast? = some '\r' := by
  rcases List.append_eq_append_iff.1 h with ⟨skipped, rfl, hrest⟩ | ⟨left, hleft, hrest⟩
  · cases skipped with
    | nil => exact Or.inl (List.append_nil s)
    | cons c skipped =>
      obtain ⟨rfl, hlines⟩ := List.cons.inj hrest
      obtain ⟨rfl, -⟩ := (List.append_cons_inj_of_notMem hfirst hsecond).1 hlines
      exact Or.inr (Or.inl rfl)
  · cases left with
    | nil => exact Or.inl (by simpa using hleft.symm)
    | cons c left =>
      obtain ⟨rfl, -⟩ := List.cons.inj hrest
      exact Or.inr (Or.inr (hs front left hleft))

lemma allCrlf_units {ending : Ending} (h : ending ≠ .lf) :
    AllCrlf (ending.units Breaks.text) := by
  cases ending with
  | unterminated => exact allCrlf_of_notMem (by decide)
  | lf => exact absurd rfl h
  | crlf =>
    intro front behind hsplit
    rcases front with _ | ⟨c, front⟩
    · exact absurd (List.cons.inj hsplit).1 (by decide)
    · rcases front with _ | ⟨d, front⟩
      · obtain ⟨rfl, -⟩ := List.cons.inj hsplit
        rfl
      · simp [Ending.units] at hsplit

/-- Lines that do not end in a bare line feed make up such a text. -/
lemma allCrlf_ofLines {lines : List (Line Char)}
    (h : ∀ line ∈ lines, '\n' ∉ line.body ∧ line.ending ≠ .lf) :
    AllCrlf (ofLines lines) ∧ (ofLines lines).head? ≠ some '\n' := by
  induction lines with
  | nil => exact ⟨allCrlf_of_notMem (by simp [ofLines]), by simp [ofLines]⟩
  | cons line lines ih =>
    obtain ⟨⟨hbody, hending⟩, hrest⟩ := List.forall_mem_cons.1 h
    obtain ⟨hlines, hhead⟩ := ih hrest
    have hunits : (line.ending.units Breaks.text ++ ofLines lines).head? ≠ some '\n' := by
      cases hcase : line.ending with
      | unterminated => exact hhead
      | lf => exact absurd hcase hending
      | crlf => simp [Ending.units, Breaks.text]
    have hbehind : AllCrlf (line.ending.units Breaks.text ++ ofLines lines) :=
      (allCrlf_units hending).append hlines hhead
    have heq : ofLines (line :: lines) =
        line.body ++ (line.ending.units Breaks.text ++ ofLines lines) := by
      simp [ofLines, Line.whole]
    rw [heq]
    refine ⟨(allCrlf_of_notMem hbody).append hbehind hunits, ?_⟩
    cases hcase : line.body with
    | nil => exact hunits
    | cons c body =>
      rw [hcase] at hbody
      simpa using fun hc => hbody (by simp [hc])

/-- No line of such a text ends in a bare line feed. -/
lemma allCrlf_iff {t : Text} : AllCrlf t ↔ ∀ line ∈ splitLines t, line.ending ≠ .lf := by
  constructor
  · intro h line hline hlf
    obtain ⟨above, below, hsplit⟩ := List.append_of_mem hline
    obtain ⟨ht, hcut, -⟩ := Line.cut_of_split_eq (by decide) hsplit
    have hlast : (Line.join Breaks.text above ++ line.body).getLast? = some '\r' := by
      refine h _ (Line.join Breaks.text below) ?_
      rw [ht, hlf]
      simp [Ending.units, Breaks.text]
    cases hbody : line.body.getLast? with
    | some c =>
      rw [List.getLast?_append, hbody] at hlast
      exact hcut.bare hlf (hbody.trans hlast)
    | none =>
      rw [List.getLast?_append, hbody] at hlast
      rcases hcut.above_ends with hnil | hends
      · rw [hnil] at hlast
        cases hlast
      · rw [hends] at hlast
        exact absurd hlast (by decide)
  · intro h
    have hlines : AllCrlf (ofLines (splitLines t)) :=
      (allCrlf_ofLines fun line hline => ⟨Line.lf_notMem_body hline, h line hline⟩).1
    rwa [show ofLines (splitLines t) = t from Line.join_split Breaks.text t] at hlines

instance (t : Text) : Decidable (AllCrlf t) := decidable_of_iff' _ allCrlf_iff

end Text

/-! ## The endings that a hoist leaves -/

namespace Refactoring

open Text

/-- Taking the call out leaves the terminators of the other lines alone. -/
lemma CallSite.allCrlf_edited {t : Text} (site : CallSite t) (h : AllCrlf t) :
    AllCrlf site.edited := by
  rw [allCrlf_iff, site.splitLines_eq] at h
  rw [allCrlf_iff, site.splitLines_edited]
  intro line hline
  rcases List.mem_append.1 hline with hfront | hbelow
  · rcases List.mem_append.1 hfront with habove | hrest
    · exact h line (by simp [habove])
    · obtain ⟨body, -, rfl⟩ := Option.map_eq_some_iff.1 (Option.mem_toList.1 hrest)
      exact h ⟨site.before ++ site.call ++ site.after, site.ending⟩ (by simp)
  · exact h line (by simp [hbelow])

namespace HeaderSite

variable {t : Text} {title category : Text}

lemma lf_notMem_titleLine (place : HeaderSite t) (h : '\n' ∉ title) :
    '\n' ∉ place.indent ++ titleMember title := by
  simp [titleMember_eq, place.lf_notMem_indent, h]

lemma lf_notMem_categoryLine (place : HeaderSite t) (h : '\n' ∉ category) :
    '\n' ∉ place.indent ++ categoryMember category := by
  simp [categoryMember_eq, place.lf_notMem_indent, h]

/-- Members behind a header that ends in CRLF end in CRLF. -/
lemma allCrlf_withMembers (place : HeaderSite t) (h : AllCrlf t)
    (hstop : place.ending ≠ .unterminated) (htitle : '\n' ∉ title) (hcategory : '\n' ∉ category) :
    AllCrlf (place.withMembers title category) := by
  rw [allCrlf_iff, place.splitLines_eq] at h
  have hending : place.ending ≠ .lf := h ⟨place.header, place.ending⟩ (by simp)
  have hlines : place.withMembers title category = ofLines (splitLines place.above ++
      [⟨place.header, place.ending⟩, ⟨place.indent ++ titleMember title, place.ending⟩,
        ⟨place.indent ++ categoryMember category, place.ending⟩] ++ splitLines place.below) := by
    have hjoin (s : Text) : (splitLines s).flatMap (Line.whole Breaks.text) = s :=
      Line.join_split Breaks.text s
    simp [ofLines, Line.join, hjoin, Line.whole, withMembers, lineBreak, hstop]
  rw [hlines]
  refine (allCrlf_ofLines fun line hline => ?_).1
  simp only [List.mem_append, List.mem_cons, List.not_mem_nil, or_false] at hline
  rcases hline with (habove | rfl | rfl | rfl) | hbelow
  · exact ⟨Line.lf_notMem_body habove, h line (by simp [habove])⟩
  · exact ⟨place.cut.lf_notMem, hending⟩
  · exact ⟨place.lf_notMem_titleLine htitle, hending⟩
  · exact ⟨place.lf_notMem_categoryLine hcategory, hending⟩
  · exact ⟨Line.lf_notMem_body hbelow, h line (by simp [hbelow])⟩

/-- The text ends with a header that has no terminator. -/
lemma text_of_unterminated (place : HeaderSite t) (hstop : place.ending = .unterminated) :
    place.above ++ place.header = t := by
  have h := place.text
  rw [hstop, (place.cut.last hstop).2] at h
  simpa [Ending.units] using h.symm

/-- Members behind a header without a terminator are put behind line feeds. -/
lemma withMembers_of_unterminated (place : HeaderSite t) (hstop : place.ending = .unterminated) :
    place.withMembers title category = t ++ '\n' :: ((place.indent ++ titleMember title) ++
      '\n' :: (place.indent ++ categoryMember category)) := by
  have htext := place.text_of_unterminated hstop
  rw [withMembers, lineBreak, hstop, (place.cut.last hstop).2, if_pos rfl,
    ← List.append_assoc place.above, htext]
  simp [Ending.units, Breaks.text]

/-- Of these line feeds the one behind the first member is bare, and the one behind the header is
unless the header ends in a carriage return. -/
lemma bare_withMembers_iff (place : HeaderSite t) (hstop : place.ending = .unterminated)
    (h : AllCrlf t) (htitle : '\n' ∉ title) (hcategory : '\n' ∉ category) {front behind : Text}
    (hsplit : place.withMembers title category = front ++ '\n' :: behind) :
    front.getLast? ≠ some '\r' ↔ front = t ++ '\n' :: (place.indent ++ titleMember title) ∨
      front = t ∧ place.header.getLast? ≠ some '\r' := by
  have hmember : (t ++ '\n' :: (place.indent ++ titleMember title)).getLast? = some ';' := by
    rw [titleMember_eq, List.getLast?_append, List.getLast?_cons, List.getLast?_append,
      List.getLast?_append]
    rfl
  have hheader : t.getLast? = place.header.getLast? := by
    obtain ⟨c, hc⟩ := Option.ne_none_iff_exists'.1
      (mt List.getLast?_eq_none_iff.1 (place.cut.last hstop).1)
    have hlast := congrArg List.getLast? (place.text_of_unterminated hstop)
    rw [← hlast, List.getLast?_append, hc]
    rfl
  rw [place.withMembers_of_unterminated hstop] at hsplit
  constructor
  · intro hbare
    rcases h.append_lines (place.lf_notMem_titleLine htitle)
      (place.lf_notMem_categoryLine hcategory) hsplit with rfl | rfl | hreturn
    · exact Or.inr ⟨rfl, hheader ▸ hbare⟩
    · exact Or.inl rfl
    · exact absurd hreturn hbare
  · rintro (rfl | ⟨rfl, hbare⟩)
    · rw [hmember]
      decide
    · rwa [hheader]

lemma not_allCrlf_withMembers (place : HeaderSite t) (hstop : place.ending = .unterminated)
    (h : AllCrlf t) (htitle : '\n' ∉ title) (hcategory : '\n' ∉ category) :
    ¬ AllCrlf (place.withMembers title category) := by
  intro hall
  have hsplit : place.withMembers title category =
      (t ++ '\n' :: (place.indent ++ titleMember title)) ++
        '\n' :: (place.indent ++ categoryMember category) := by
    rw [place.withMembers_of_unterminated hstop]
    simp
  have hbare := place.bare_withMembers_iff hstop h htitle hcategory hsplit
  exact hbare.2 (Or.inl rfl) (hall _ _ hsplit)

end HeaderSite

/-- A hoist keeps a text with CRLF endings one, unless the header that is left without the call
stands on an unterminated last line. Then the text without the call still is one, and the two
members follow it, each behind one line feed. The second of these is bare, and the first one is
unless the header ends in a carriage return. -/
theorem allCrlf_hoist {t u : Text} (hcrlf : AllCrlf t) (hok : hoist t = .ok u) :
    (AllCrlf u ↔ ¬ ∃ (site : CallSite t) (place : HeaderSite site.edited),
      place.ending = .unterminated) ∧
    ∀ (site : CallSite t) (place : HeaderSite site.edited), place.ending = .unterminated →
      let indent := indentation place.header ++ "    "
      let first := indent ++ ("protected override string Title => " ++ site.title ++ ";")
      let second := indent ++
        ("protected override NodeCategory Category => " ++ site.category ++ ";")
      AllCrlf site.edited ∧ '\n' ∉ first ∧ '\n' ∉ second ∧
        u = site.edited ++ '\n' :: (first ++ '\n' :: second) ∧
        ∀ front behind, u = front ++ '\n' :: behind →
          (front.getLast? ≠ some '\r' ↔ front = site.edited ++ '\n' :: first ∨
            front = site.edited ∧ place.header.getLast? ≠ some '\r') := by
  have hedited (site : CallSite t) : AllCrlf site.edited := site.allCrlf_edited hcrlf
  have hu (site : CallSite t) (place : HeaderSite site.edited) :
      u = place.withMembers site.title site.category :=
    Except.ok.inj (hok.symm.trans ((hoist_eq_ok_iff site).2 ⟨place, rfl⟩))
  constructor
  · constructor
    · rintro hkept ⟨site, place, hstop⟩
      obtain ⟨htitle, hcategory⟩ := site.lf_notMem
      rw [hu site place] at hkept
      exact place.not_allCrlf_withMembers hstop (hedited site) htitle hcategory hkept
    · intro hnone
      by_cases hoccurs : callPattern.occursIn t
      · obtain ⟨site⟩ := CallSite.nonempty_iff.2 hoccurs
        obtain ⟨place, rfl⟩ := (hoist_eq_ok_iff site).1 hok
        have hstop : place.ending ≠ .unterminated := fun hstop => hnone ⟨site, place, hstop⟩
        exact place.allCrlf_withMembers (hedited site) hstop site.lf_notMem.1 site.lf_notMem.2
      · obtain rfl := Except.ok.inj (hok.symm.trans (hoist_of_not_occursIn hoccurs))
        exact hcrlf
  · intro site place hstop
    obtain ⟨htitle, hcategory⟩ := site.lf_notMem
    obtain rfl := hu site place
    exact ⟨hedited site, place.lf_notMem_titleLine htitle,
      place.lf_notMem_categoryLine hcategory, place.withMembers_of_unterminated hstop,
      fun _ _ hsplit => place.bare_withMembers_iff hstop (hedited site) htitle hcategory hsplit⟩

/-- A call beside other code on the last line, below a header with a terminator, and a header on an
unterminated last line that ends in a carriage return. -/
theorem allCrlf_hoist_last_lines :
    let t : Text := "public class A \x7b\r\nf(); Initialize(T, c); // k"
    let u : Text := "public class A \x7b\r\n    protected override string Title => T;\r\n" ++
      "    protected override NodeCategory Category => c;\r\nf(); // k"
    let s : Text := "Initialize(T, c);\r\npublic class A \x7b\r"
    let left : Text := "public class A \x7b\r"
    let first : Text := "    protected override string Title => T;"
    let second : Text := "    protected override NodeCategory Category => c;"
    let v : Text := left ++ '\n' :: (first ++ '\n' :: second)
    (AllCrlf t ∧ hoist t = .ok u ∧ AllCrlf u ∧
        ¬ ∃ (site : CallSite t) (place : HeaderSite site.edited), place.ending = .unterminated) ∧
      AllCrlf s ∧ hoist s = .ok v ∧ ¬ AllCrlf v ∧
      (∃ (site : CallSite s) (place : HeaderSite site.edited), site.edited = left ∧
        place.header = left ∧ place.ending = .unterminated) ∧
      ∀ front behind, v = front ++ '\n' :: behind →
        (front.getLast? ≠ some '\r' ↔ front = left ++ '\n' :: first) := by
  intro t u s left first second v
  have hcrlf : AllCrlf t := by decide +kernel
  have hok : hoist t = .ok u := by decide +kernel
  have hkept : AllCrlf u := by decide +kernel
  have hcrlf' : AllCrlf s := by decide +kernel
  have hok' : hoist s = .ok v := by decide +kernel
  let site : CallSite s := ⟨[], [], "T", "c", [], .crlf, left, by decide +kernel,
    ⟨Or.inl rfl, by decide, by simp, by simp⟩⟩
  let place : HeaderSite site.edited := ⟨[], left, .unterminated, [], by decide +kernel,
    ⟨Or.inl rfl, by decide, by simp, by decide⟩, by decide +kernel, by decide +kernel⟩
  have hlast : place.header.getLast? = some '\r' := by decide
  obtain ⟨-, -, -, -, hbare⟩ := (allCrlf_hoist hcrlf' hok').2 site place rfl
  refine ⟨⟨hcrlf, hok, hkept, (allCrlf_hoist hcrlf hok).1.1 hkept⟩, hcrlf', hok',
    fun hall => (allCrlf_hoist hcrlf' hok').1.1 hall ⟨site, place, rfl⟩,
    ⟨site, place, rfl, rfl, rfl⟩, fun front behind hsplit => ?_⟩
  exact (hbare front behind hsplit).trans (or_iff_left fun h => h.2 hlast)

/-- A header on an unterminated last line brings bare line feeds into a text whose one line feed is
part of CRLF. -/
theorem not_allCrlf_hoist_last_header :
    let t : Text := "Initialize(T, c);\r\npublic class A \x7b"
    let u : Text := "public class A \x7b\n    protected override string Title => T;\n" ++
      "    protected override NodeCategory Category => c;"
    '\n' ∈ t ∧ AllCrlf t ∧ hoist t = .ok u ∧ ¬ AllCrlf u := by
  decide +kernel

end Refactoring

end NodeKit
