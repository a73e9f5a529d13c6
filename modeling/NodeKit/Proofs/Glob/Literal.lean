import NodeKit.Glob.Matching
import NodeKit.Glob.Reading
import NodeKit.Proofs.Text.Utf8
import Mathlib.Data.List.Basic

/-!
# Patterns that spell a path

A pattern without special characters stands for the one path that it spells. With `/**`
behind it, it stands for the paths below that one and no longer for the path itself. In
both cases nothing is said of paths that only begin with the same characters: a separator
is a byte of its own, so the names of a path can be told apart in its bytes.
-/
namespace NodeKit

/-- The characters that a pattern does not take as they are. -/
def globSpecials : List Char := ['?', '*', '[', ']', '\x7b', '\x7d', '\\']

/-- Whether every character of the text stands for itself in a pattern. -/
def Text.IsLiteral (t : Text) : Prop := ∀ c ∈ t, c ∉ globSpecials

instance (t : Text) : Decidable t.IsLiteral :=
  inferInstanceAs (Decidable (∀ c ∈ t, c ∉ globSpecials))

/-- Literal tokens, one for each character. -/
def Glob.spelling (t : Text) : Glob := t.map .char

variable {t : Text} {tokens : List GlobToken} {finished : List (List GlobToken)}
  {names others : List Text}

/-! ## Reading -/

lemma readGlob_literal {c : Char} (hc : c ∉ globSpecials) (previous : Option Char) (rest : Text) :
    readGlob ⟨⟨finished, tokens⟩, []⟩ previous (c :: rest) =
      readGlob ⟨⟨finished, .char c :: tokens⟩, []⟩ (some c) rest := by
  rw [readGlob.eq_def]
  split <;> simp_all [globSpecials, GlobReader.push, GlobReader.insideBraces]

lemma readGlob_append (ht : t.IsLiteral) (previous : Option Char) (rest : Text) :
    readGlob ⟨⟨finished, tokens⟩, []⟩ previous (t ++ rest) =
      readGlob ⟨⟨finished, (Glob.spelling t).reverse ++ tokens⟩, []⟩ (t.getLast?.or previous)
        rest := by
  induction t generalizing tokens previous with
  | nil => rfl
  | cons c t ih =>
    obtain ⟨hc, ht⟩ := List.forall_mem_cons.1 ht
    have hprevious : t.getLast?.or (some c) = (c :: t).getLast?.or previous := by
      cases hlast : t.getLast? <;> simp [List.getLast?_cons, hlast]
    rw [List.cons_append, readGlob_literal hc, ih ht, hprevious]
    simp [Glob.spelling]

lemma readGlob_nil (previous : Option Char) :
    readGlob ⟨⟨finished, tokens⟩, []⟩ previous [] = .ok tokens.reverse := by
  simp [readGlob, GlobReader.insideBraces]

lemma ofPattern_literal (ht : t.IsLiteral) : Glob.ofPattern t = .ok (Glob.spelling t) := by
  have hread := @readGlob_append t [] [] ht none []
  rw [List.append_nil, readGlob_nil, List.append_nil, List.reverse_reverse] at hread
  exact hread

/-- The separator in front of a closing `**` goes into its token. -/
lemma ofPattern_below (ht : t.IsLiteral) :
    Glob.ofPattern (t ++ "/**") = .ok (Glob.spelling t ++ [.everythingBelow]) := by
  have hlead : Text.IsLiteral (t ++ ['/']) :=
    List.forall_mem_append.2 ⟨ht, by simp [globSpecials]⟩
  have hread := @readGlob_append _ [] [] hlead none ['*', '*']
  have hstars : readGlob ⟨⟨[], .char '/' :: (Glob.spelling t).reverse⟩, []⟩ (some '/') ['*', '*'] =
      .ok (Glob.spelling t ++ [.everythingBelow]) := by
    rw [readGlob.eq_def]
    simp [GlobReader.doubleStar, GlobReader.replaceLast, readGlob_nil]
  rw [List.append_assoc] at hread
  refine hread.trans ?_
  simpa [Glob.spelling] using hstars

/-! ## Matching -/

lemma tokensRests_append (tokens more : List GlobToken) (rests : List (List UInt8)) :
    tokensRests (tokens ++ more) rests = tokensRests more (tokensRests tokens rests) := by
  induction tokens generalizing rests with
  | nil => rw [List.nil_append, tokensRests]
  | cons token tokens ih => rw [List.cons_append, tokensRests, tokensRests, ih]

lemma mem_tokensRests_spelling {r : List UInt8} {rests : List (List UInt8)} :
    r ∈ tokensRests (Glob.spelling t) rests ↔ Text.bytes t ++ r ∈ rests := by
  induction t generalizing rests with
  | nil => simp [Glob.spelling, tokensRests]
  | cons c t ih =>
    have hbytes : Text.bytes (c :: t) = String.utf8EncodeChar c ++ Text.bytes t := rfl
    have hcons : tokensRests (Glob.spelling (c :: t)) rests =
        tokensRests (Glob.spelling t) (rests.flatMap (GlobToken.rests (.char c))).eraseDups := by
      rw [Glob.spelling, List.map_cons, tokensRests]
      rfl
    rw [hcons, ih, List.mem_eraseDups, List.mem_flatMap, hbytes]
    simp [GlobToken.rests, mem_restAfter]

lemma mem_rests_everythingBelow {r s : List UInt8} :
    r ∈ GlobToken.rests .everythingBelow s ↔ ∃ between, s = separator :: (between ++ r) := by
  simp [GlobToken.rests, mem_restAfter, mem_suffixes, List.IsSuffix, eq_comm]

lemma matchesBytes_iff {glob : Glob} (hglob : glob ≠ [.leadingFolders]) {s : List UInt8} :
    glob.matchesBytes s = true ↔ [] ∈ tokensRests glob [s] := by
  unfold Glob.matchesBytes
  split
  · exact absurd rfl hglob
  · simp

lemma matchesBytes_spelling {s : List UInt8} :
    (Glob.spelling t).matchesBytes s = true ↔ s = Text.bytes t := by
  have hglob : Glob.spelling t ≠ [.leadingFolders] := by
    cases t <;> simp [Glob.spelling]
  rw [matchesBytes_iff hglob, mem_tokensRests_spelling, List.append_nil, List.mem_singleton,
    eq_comm]

lemma matchesBytes_below {s : List UInt8} :
    Glob.matchesBytes (Glob.spelling t ++ [.everythingBelow]) s = true ↔
      ∃ behind, s = Text.bytes t ++ separator :: behind := by
  have hglob : Glob.spelling t ++ [.everythingBelow] ≠ [.leadingFolders] := by
    cases t <;> simp [Glob.spelling]
  rw [matchesBytes_iff hglob, tokensRests_append]
  simp [tokensRests, mem_rests_everythingBelow, mem_tokensRests_spelling, eq_comm]

/-! ## Paths -/

lemma bytes_joinWith (names : List Text) :
    Text.bytes (Text.joinWith ['/'] names) = [separator].intercalate (names.map Text.bytes) := by
  induction names with
  | nil => rfl
  | cons name names ih =>
    cases names with
    | nil => simp [Text.joinWith]
    | cons next rest =>
      rw [Text.joinWith_cons_of_ne_nil _ _ (by simp), Text.bytes_append, Text.bytes_append, ih]
      simp [List.intercalate, separator, Text.bytes, String.utf8EncodeChar]

lemma joinWith_append (hne : names ≠ []) (hne' : others ≠ []) :
    Text.joinWith ['/'] (names ++ others) =
      Text.joinWith ['/'] names ++ '/' :: Text.joinWith ['/'] others := by
  induction names with
  | nil => exact absurd rfl hne
  | cons name names ih =>
    by_cases hempty : names = []
    · subst hempty
      simpa [Text.joinWith] using Text.joinWith_cons_of_ne_nil ['/'] name hne'
    · rw [List.cons_append, Text.joinWith_cons_of_ne_nil _ _ (by simp [hempty]), ih hempty,
        Text.joinWith_cons_of_ne_nil _ _ hempty]
      simp only [List.append_assoc]

/-- The names of a path can be read off its bytes. -/
lemma splitOn_bytes (hne : names ≠ []) (hnames : ∀ name ∈ names, '/' ∉ name) :
    (Text.bytes (Text.joinWith ['/'] names)).splitOn separator = names.map Text.bytes := by
  rw [bytes_joinWith]
  apply List.splitOn_intercalate
  · simpa using fun name hname => Text.notMem_bytes (by decide) (by decide) (hnames name hname)
  · simpa using hne

lemma matchesPath_spelling (hne : names ≠ []) (hnames : ∀ name ∈ names, '/' ∉ name)
    (hne' : others ≠ []) (hothers : ∀ name ∈ others, '/' ∉ name) :
    (Glob.spelling (Text.joinWith ['/'] names)).matchesPath others = true ↔ others = names := by
  rw [Glob.matchesPath, matchesBytes_spelling]
  constructor
  · intro h
    have hsplit := congrArg (List.splitOn separator) h
    rw [splitOn_bytes hne' hothers, splitOn_bytes hne hnames] at hsplit
    exact List.map_injective_iff.2 Text.bytes_injective hsplit
  · rintro rfl
    rfl

lemma matchesPath_below (hne : names ≠ []) (hnames : ∀ name ∈ names, '/' ∉ name)
    (hne' : others ≠ []) (hothers : ∀ name ∈ others, '/' ∉ name) :
    Glob.matchesPath (Glob.spelling (Text.joinWith ['/'] names) ++ [.everythingBelow]) others =
        true ↔
      ∃ below, below ≠ [] ∧ others = names ++ below := by
  rw [Glob.matchesPath, matchesBytes_below]
  constructor
  · rintro ⟨behind, h⟩
    have hsplit := congrArg (List.splitOn separator) h
    rw [List.splitOn_append_cons_self, splitOn_bytes hne' hothers, splitOn_bytes hne hnames,
      List.map_eq_append_iff] at hsplit
    obtain ⟨front, below, rfl, hfront, hbelow⟩ := hsplit
    obtain rfl := List.map_injective_iff.2 Text.bytes_injective hfront
    refine ⟨below, ?_, rfl⟩
    rintro rfl
    exact List.splitOn_ne_nil _ _ hbelow.symm
  · rintro ⟨below, hbelow, rfl⟩
    exact ⟨Text.bytes (Text.joinWith ['/'] below), by
      rw [joinWith_append hne hbelow, Text.bytes_append]
      rfl⟩

end NodeKit
