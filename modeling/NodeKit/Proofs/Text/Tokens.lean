import NodeKit.Proofs.Text.Words

/-!
# Words as tokens

A second account of the words of a line. The white space is written out character
by character, the line is cut at each of them, and the pieces that are not empty
are its tokens. Reading words from left to right finds exactly these
(`words_eq_tokens`).
-/
namespace NodeKit.Text

/-- The characters with the White_Space property, in order. -/
def whiteSpace : List Char :=
  ['\t', '\n', '\x0B', '\x0C', '\r', ' ', '\u0085', '\u00A0', '\u1680', '\u2000', '\u2001',
    '\u2002', '\u2003', '\u2004', '\u2005', '\u2006', '\u2007', '\u2008', '\u2009', '\u200A',
    '\u2028', '\u2029', '\u202F', '\u205F', '\u3000']

lemma isBlank_iff_mem_whiteSpace {c : Char} : isBlank c ↔ c ∈ whiteSpace := by
  have hcode (d : Char) : c = d ↔ c.toNat = d.toNat := Char.toNat_inj.symm
  simp only [whiteSpace, List.mem_cons, List.not_mem_nil, or_false, hcode]
  simp [isBlank]
  omega

/-- What stands between white space, where that is not empty. -/
def tokens (line : Text) : List Text := (line.splitOnP (· ∈ whiteSpace)).filter (· ≠ [])

@[simp] lemma tokens_nil : tokens [] = [] := rfl

/-- White space parts the tokens in front of it from those behind it. -/
lemma tokens_append_cons {c : Char} (hc : isBlank c) (front behind : Text) :
    tokens (front ++ c :: behind) = tokens front ++ tokens behind := by
  have hmem : c ∈ whiteSpace := isBlank_iff_mem_whiteSpace.1 hc
  unfold tokens
  rw [List.splitOnP_append_cons front behind (by simpa using hmem), List.filter_append]

lemma tokens_blank {c : Char} (hc : isBlank c) (rest : Text) : tokens (c :: rest) = tokens rest :=
  tokens_append_cons hc [] rest

lemma tokens_trimStart (t : Text) : tokens (trimStart t) = tokens t := by
  induction t with
  | nil => rfl
  | cons c t ih =>
    by_cases hc : isBlank c
    · rw [tokens_blank hc, ← ih]
      simp [trimStart, hc]
    · simp [trimStart, hc]

lemma tokens_word {word : Text} (hword : IsWord word) : tokens word = [word] := by
  have hnone : ∀ c ∈ word, decide (c ∈ whiteSpace) = false := by
    intro c hc
    simpa [← isBlank_iff_mem_whiteSpace] using hword.not_isBlank c hc
  simp [tokens, List.splitOnP_eq_singleton hnone, hword.ne_nil]

/-- A word that the line starts with and that ends there or at a blank is its first token. -/
lemma tokens_append {word rest : Text} (hword : IsWord word)
    (hrest : ∀ c ∈ rest.head?, isBlank c) : tokens (word ++ rest) = word :: tokens rest := by
  have hsingle := tokens_word hword
  cases rest with
  | nil => simpa using hsingle
  | cons c rest =>
    have hc : isBlank c := hrest c rfl
    rw [tokens_append_cons hc, hsingle, tokens_blank hc]
    rfl

/-- The words of a line are its tokens. -/
theorem words_eq_tokens (t : Text) : words t = tokens t := by
  fun_induction words t with
  | case1 t hstart => rw [← tokens_trimStart, hstart, tokens_nil]
  | case2 t c rest hstart ih =>
    have hword : IsWord (c :: rest.takeWhile (!isBlank ·)) :=
      isWord_of_mem_words (t := t) (by rw [words_of_trimStart hstart]; exact List.mem_cons_self)
    have hbehind : ∀ d ∈ (rest.dropWhile (!isBlank ·)).head?, isBlank d := by
      intro d hd
      have hnot := List.head?_dropWhile_not (!isBlank ·) rest
      rw [Option.mem_def.1 hd] at hnot
      simpa using hnot
    have hsplit : c :: rest =
        (c :: rest.takeWhile (!isBlank ·)) ++ rest.dropWhile (!isBlank ·) := by
      rw [List.cons_append, List.takeWhile_append_dropWhile]
    rw [ih, ← tokens_append hword hbehind, ← hsplit, ← hstart, tokens_trimStart]

end NodeKit.Text
