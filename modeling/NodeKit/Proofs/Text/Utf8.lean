import NodeKit.Proofs.Text.Lines

/-!
# Lines of the UTF-8 form

A byte below 128 stands for a character of its own and is no part of any other. So the
bytes of a text are cut into lines where the text is, and one cut can stand for the
other (`cutAtFeeds_bytes`).
-/
namespace NodeKit.Text

lemma bytes_injective : Function.Injective bytes := by
  intro s t h
  have hdecode := decode?_bytes s
  rw [h, decode?_bytes] at hdecode
  exact (Option.some.inj hdecode).symm

/-- A byte below 128 is a whole character. -/
lemma utf8EncodeChar_of_mem {c : Char} {b : UInt8} (hmem : b ∈ String.utf8EncodeChar c)
    (hb : b.toNat < 128) : String.utf8EncodeChar c = [b] ∧ c.toNat = b.toNat := by
  have hc : c.toNat = c.val.toNat := rfl
  simp only [String.utf8EncodeChar] at hmem ⊢
  split_ifs at hmem ⊢ with hone htwo hthree
  · obtain rfl := List.mem_singleton.1 hmem
    refine ⟨rfl, ?_⟩
    rw [UInt8.toNat_ofNat']
    omega
  -- every byte of a longer form has its highest bit set
  all_goals
    exfalso
    simp only [List.mem_cons, List.not_mem_nil, or_false] at hmem
    rcases hmem with rfl | rfl | rfl | rfl <;> rw [UInt8.toNat_ofNat'] at hb <;> omega

/-- A character whose form is a single byte is not in the text when the byte is not in its form. -/
lemma notMem_bytes {t : Text} {c : Char} {b : UInt8} (hb : b.toNat < 128)
    (hc : c.toNat = b.toNat) (h : c ∉ t) : b ∉ bytes t := by
  intro hmem
  obtain ⟨d, hd, hbyte⟩ := List.mem_flatMap.1 hmem
  obtain ⟨-, hcode⟩ := utf8EncodeChar_of_mem hbyte hb
  obtain rfl : d = c := Char.toNat_inj.1 (hcode.trans hc.symm)
  exact h hd

lemma lf_notMem_bytes {t : Text} (h : '\n' ∉ t) : 10 ∉ bytes t :=
  notMem_bytes (by decide) (by decide) h

/-- The carriage return at the end of a line is the byte at the end of its UTF-8 form. -/
lemma withoutReturn_bytes (line : Text) :
    Line.withoutReturn Breaks.bytes (bytes line) = bytes (Line.withoutReturn Breaks.text line) := by
  rcases List.eq_nil_or_concat line with rfl | ⟨front, c, hline⟩
  · rfl
  · rw [List.concat_eq_append] at hline
    subst hline
    by_cases hc : c = '\r'
    · subst hc
      have hbytes : bytes ['\r'] = [13] := rfl
      simp [Line.withoutReturn, Breaks.bytes, Breaks.text, hbytes]
    · have hlast : (bytes (front ++ [c])).getLast? ≠ some 13 := by
        intro hlast
        obtain ⟨b, hb⟩ := Option.ne_none_iff_exists'.1
          (mt List.getLast?_eq_none_iff.1 (String.utf8EncodeChar_ne_nil (c := c)))
        have hsingle : bytes [c] = String.utf8EncodeChar c := by simp [bytes]
        rw [bytes_append, hsingle, List.getLast?_append, hb] at hlast
        obtain rfl : b = 13 := Option.some.inj hlast
        obtain ⟨-, hcode⟩ := utf8EncodeChar_of_mem (List.mem_of_getLast? hb) (by decide)
        exact hc (Char.toNat_inj.1 hcode)
      have hreturn : (front ++ [c]).getLast? ≠ some '\r' := by simpa using hc
      rw [Line.withoutReturn, Line.withoutReturn]
      exact (if_neg hlast).trans (congrArg bytes (if_neg hreturn)).symm

/-- The lines of the UTF-8 form are the UTF-8 forms of the lines. -/
theorem cutAtFeeds_bytes (t : Text) :
    Line.cutAtFeeds Breaks.bytes (bytes t) = (Line.cutAtFeeds Breaks.text t).map bytes := by
  by_cases hfeed : '\n' ∈ t
  · obtain ⟨line, rest, ht, hline⟩ := List.eq_append_cons_of_mem hfeed
    have hrest := cutAtFeeds_bytes rest
    have hbytes : bytes t = bytes line ++ 10 :: bytes rest := by
      rw [ht]
      exact bytes_append line ('\n' :: rest)
    have hcutBytes : Line.cutAtFeeds Breaks.bytes (bytes line ++ 10 :: bytes rest) = _ :=
      Line.cutAtFeeds_append (lf_notMem_bytes hline) (bytes rest)
    have hcutText : Line.cutAtFeeds Breaks.text (line ++ '\n' :: rest) = _ :=
      Line.cutAtFeeds_append hline rest
    rw [hbytes, hcutBytes, withoutReturn_bytes, hrest, ht, hcutText, List.map_cons]
  · cases t with
    | nil => rfl
    | cons c rest =>
      have hne : bytes (c :: rest) ≠ [] := by
        intro hnil
        have hlength := length_bytes (c :: rest)
        have hpos := c.utf8Size_pos
        rw [hnil, byteLength_cons, List.length_nil] at hlength
        omega
      rw [Line.cutAtFeeds_of_notMem (lf_notMem_bytes hfeed) hne,
        Line.cutAtFeeds_of_notMem hfeed (List.cons_ne_nil c rest), List.map_singleton]
termination_by t.length
decreasing_by
  rw [ht, List.length_append, List.length_cons]
  omega

end NodeKit.Text
