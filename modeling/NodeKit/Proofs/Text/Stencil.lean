import NodeKit.Text.Basic
import Mathlib.Data.List.Infix

/-!
# Stencils

A stencil is a text with holes, and a word is put into every hole. Which words can be
told from the text around them is a matter of overlap: `NoStart w v` says that `w`
cannot begin inside `v`, whatever stands behind `v`. A word that cannot overlap what
fills the holes is found only where the stencil itself spells it (`exists_split_fill`),
so it stays where it is when the holes are filled with something else.
-/
namespace NodeKit

/-! ## Words that cannot overlap -/

namespace Text

/-- Neither text is the beginning of the other. -/
def Diverge (s t : Text) : Prop := ¬ s <+: t ∧ ¬ t <+: s

instance (s t : Text) : Decidable (Diverge s t) := inferInstanceAs (Decidable (_ ∧ _))

/-- Texts that diverge are not found at one place. -/
lemma Diverge.append_ne {s t : Text} (h : Diverge s t) (x y : Text) : s ++ x ≠ t ++ y := by
  intro heq
  have hs : s <+: t ++ y := ⟨x, heq⟩
  exact (List.prefix_or_prefix_of_prefix hs (List.prefix_append t y)).elim h.1 h.2

/-- The text `w` cannot begin inside `v`, whatever stands behind `v`. -/
def NoStart (w v : Text) : Prop := ∀ z ∈ v.tails, z ≠ [] → Diverge w z

instance (w v : Text) : Decidable (NoStart w v) := inferInstanceAs (Decidable (∀ z ∈ v.tails, _))

lemma NoStart.diverge {w v z : Text} (h : NoStart w v) (hz : z ≠ []) (hsuffix : z <:+ v) :
    Diverge w z := h z ((List.mem_tails _ _).2 hsuffix) hz

lemma NoStart.suffix {w v u : Text} (h : NoStart w v) (hu : u <:+ v) : NoStart w u :=
  fun _ hz hne => h.diverge hne (((List.mem_tails _ _).1 hz).trans hu)

lemma NoStart.tail {w v : Text} {c : Char} (h : NoStart w (c :: v)) : NoStart w v :=
  h.suffix (List.suffix_cons c v)

@[simp] lemma noStart_nil (w : Text) : NoStart w [] := by
  intro z hz hne
  exact absurd (by simpa using hz) hne

/-- Nothing begins in a text that has not its first character. -/
lemma noStart_of_notMem {c : Char} {w v : Text} (h : c ∉ v) : NoStart (c :: w) v := by
  intro z hz hne
  obtain ⟨d, z, rfl⟩ := List.exists_cons_of_ne_nil hne
  have hd : d ∈ v := ((List.mem_tails _ _).1 hz).subset List.mem_cons_self
  have hcd : c ≠ d := fun heq => h (heq ▸ hd)
  exact ⟨fun hp => hcd (List.cons_prefix_cons.1 hp).1,
    fun hp => hcd (List.cons_prefix_cons.1 hp).1.symm⟩

/-- An occurrence of `w` does not overlap one of `v`, unless that reaches over the whole of it. -/
structure Apart (v w : Text) : Prop where
  notWithin : NoStart w v
  notInto : NoStart v w.tail

lemma apart_iff {v w : Text} : Apart v w ↔ NoStart w v ∧ NoStart v w.tail :=
  ⟨fun h => ⟨h.notWithin, h.notInto⟩, fun h => ⟨h.1, h.2⟩⟩

instance (v w : Text) : Decidable (Apart v w) := decidable_of_iff' _ apart_iff

end Text

/-! ## Holes -/

/-- A text with holes, each with a label. -/
abbrev Stencil (κ : Type) := List (Char ⊕ κ)

namespace Stencil

open Text

variable {κ : Type}

/-- The stencil without a hole. -/
def ofText (t : Text) : Stencil κ := t.map .inl

/-- The text with a word in every hole. -/
def fill (word : κ → Text) : Stencil κ → Text
  | [] => []
  | .inl c :: m => c :: fill word m
  | .inr k :: m => word k ++ fill word m

@[simp] lemma fill_nil (word : κ → Text) : fill word [] = [] := rfl

@[simp] lemma fill_char (word : κ → Text) (c : Char) (m : Stencil κ) :
    fill word (.inl c :: m) = c :: fill word m := rfl

@[simp] lemma fill_hole (word : κ → Text) (k : κ) (m : Stencil κ) :
    fill word (.inr k :: m) = word k ++ fill word m := rfl

@[simp] lemma fill_append (word : κ → Text) (m n : Stencil κ) :
    fill word (m ++ n) = fill word m ++ fill word n := by
  induction m with
  | nil => rfl
  | cons cell m ih => cases cell <;> simp [ih]

@[simp] lemma fill_ofText (word : κ → Text) (t : Text) : fill word (ofText t) = t := by
  induction t with
  | nil => rfl
  | cons c t ih => exact congrArg (c :: ·) ih

@[simp] lemma ofText_nil : (ofText [] : Stencil κ) = [] := rfl

@[simp] lemma ofText_cons (c : Char) (t : Text) :
    (ofText (c :: t) : Stencil κ) = .inl c :: ofText t := rfl

/-- The number of holes whose label passes the test. -/
def holes (test : κ → Bool) (m : Stencil κ) : ℕ := m.countP (Sum.elim (fun _ => false) test)

@[simp] lemma holes_nil (test : κ → Bool) : holes test [] = 0 := rfl

@[simp] lemma holes_char (test : κ → Bool) (c : Char) (m : Stencil κ) :
    holes test (.inl c :: m) = holes test m := rfl

@[simp] lemma holes_hole (test : κ → Bool) (k : κ) (m : Stencil κ) :
    holes test (.inr k :: m) = holes test m + if test k then 1 else 0 :=
  List.countP_cons

/-- What the stencil spells is in the filled text. -/
lemma infix_fill (word : κ → Text) {w : Text} {m : Stencil κ} (h : ofText w <:+: m) :
    w <:+: fill word m := by
  obtain ⟨above, below, rfl⟩ := h
  exact ⟨fill word above, fill word below, by simp⟩

/-- A word that no filled hole begins inside of stands in front only when the stencil spells it. -/
lemma exists_prefix_fill {word : κ → Text} {w : Text} (h : ∀ k, NoStart (word k) w) {m : Stencil κ}
    {behind : Text} (hfill : fill word m = w ++ behind) :
    ∃ rest, m = ofText w ++ rest ∧ fill word rest = behind := by
  induction w generalizing m with
  | nil => exact ⟨m, rfl, hfill⟩
  | cons c w ih =>
    rcases m with _ | ⟨d | k, m⟩
    · cases hfill
    · obtain ⟨rfl, hrest⟩ := List.cons.inj hfill
      obtain ⟨rest, rfl, hbehind⟩ := ih (fun k => (h k).tail) hrest
      exact ⟨rest, rfl, hbehind⟩
    · have hdiverge : Diverge (word k) (c :: w) := (h k).diverge (by simp) (List.suffix_refl _)
      exact absurd hfill (hdiverge.append_ne _ _)

/-- A word that cannot overlap the filled holes stands where the stencil spells it. -/
theorem exists_split_fill {word : κ → Text} {w : Text} (h : ∀ k, Apart (word k) w) (hne : w ≠ [])
    {m : Stencil κ} {front behind : Text} (hfill : fill word m = front ++ (w ++ behind)) :
    ∃ above below, m = above ++ (ofText w ++ below) ∧ fill word above = front ∧
      fill word below = behind := by
  obtain ⟨c, w, rfl⟩ := List.exists_cons_of_ne_nil hne
  induction m generalizing front with
  | nil => simp at hfill
  | cons cell m ih =>
    cases cell with
    | inl d =>
      cases front with
      | nil =>
        obtain ⟨rfl, hrest⟩ := List.cons.inj hfill
        obtain ⟨rest, rfl, hbehind⟩ := exists_prefix_fill (fun k => (h k).notInto) hrest
        exact ⟨[], rest, rfl, rfl, hbehind⟩
      | cons a front =>
        obtain ⟨rfl, hrest⟩ := List.cons.inj hfill
        obtain ⟨above, below, rfl, rfl, hbehind⟩ := ih hrest
        exact ⟨.inl d :: above, below, rfl, rfl, hbehind⟩
    | inr k =>
      rcases List.append_eq_append_iff.1 hfill with ⟨left, rfl, hrest⟩ | ⟨z, hword, hrest⟩
      · obtain ⟨above, below, rfl, rfl, hbehind⟩ := ih hrest
        exact ⟨.inr k :: above, below, rfl, rfl, hbehind⟩
      · cases z with
        | nil =>
          have hstart : fill word m = [] ++ (c :: w ++ behind) := hrest.symm
          obtain ⟨above, below, rfl, habove, hbehind⟩ := ih hstart
          exact ⟨.inr k :: above, below, rfl, by simp [hword, habove], hbehind⟩
        | cons d z =>
          have hdiverge : Diverge (c :: w) (d :: z) :=
            (h k).notWithin.diverge (by simp) (hword ▸ List.suffix_append front _)
          exact absurd hrest (hdiverge.append_ne _ _)

end Stencil

end NodeKit
