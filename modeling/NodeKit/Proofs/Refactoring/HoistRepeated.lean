import NodeKit.Proofs.Refactoring.HoistContent
import NodeKit.Refactoring.Files

/-!
# Hoisting again and again

A hoist can leave as many calls as there were: a category that is a call is written out
again, and the code around the gap may join into one. What does go down is the number of
parentheses. Of the ones in the text only those of the call itself get lost, so that
there are never more hoists than opening parentheses.
-/
namespace NodeKit.Refactoring

/-- A number of hoists, each of which changes the text, lead from one text to another. -/
inductive Hoists : Nat → Text → Text → Prop
  | none (t : Text) : Hoists 0 t t
  | more {n : Nat} {t next u : Text} (hok : hoist t = .ok next) (hchanged : next ≠ t)
    (hrest : Hoists n next u) : Hoists (n + 1) t u

/-- Whether no hoist changes the text any more. -/
def HoistedOut (t : Text) : Prop := hoist t = .ok t ∨ ∃ e, hoist t = .error e

variable {t u : Text} {c : Char}

lemma count_hoist_of_occursIn (hoccurs : callPattern.occursIn t) (hok : hoist t = .ok u)
    (hc : c = '(' ∨ c = ')') : u.count c + 1 = t.count c := by
  obtain ⟨site⟩ := CallSite.nonempty_iff.2 hoccurs
  exact count_hoist site hok hc

/-- A hoist that changes the text has found a call. -/
lemma occursIn_of_hoist_ne (hok : hoist t = .ok u) (hchanged : u ≠ t) :
    callPattern.occursIn t := by
  by_contra hnone
  exact hchanged (Except.ok.inj (hok.symm.trans (hoist_of_not_occursIn hnone)))

/-- There are as many hoists as parentheses of either kind got lost. -/
lemma Hoists.count_add {n : Nat} (h : Hoists n t u) (hc : c = '(' ∨ c = ')') :
    u.count c + n = t.count c := by
  induction h with
  | none t => rfl
  | more hok hchanged _ ih =>
    have hstep := count_hoist_of_occursIn (occursIn_of_hoist_ne hok hchanged) hok hc
    omega

/-- Hoisting comes to an end. The induction is on the opening parentheses that are left. -/
lemma exists_hoists (t : Text) : ∃ n u, Hoists n t u ∧ HoistedOut u := by
  induction hcount : t.count '(' using Nat.strong_induction_on generalizing t with
  | _ left ih =>
    cases hok : hoist t with
    | error e => exact ⟨0, t, .none t, .inr ⟨e, hok⟩⟩
    | ok next =>
      by_cases hsame : next = t
      · subst hsame
        exact ⟨0, next, .none next, .inl hok⟩
      · have hstep := count_hoist_of_occursIn (occursIn_of_hoist_ne hok hsame) hok (.inl rfl)
        obtain ⟨n, u, hhoists, hout⟩ := ih (next.count '(') (by omega) next rfl
        exact ⟨n + 1, u, .more hok hsame hhoists, hout⟩

/-- A file is planned to stay as it is when its text holds no call. -/
lemma plan_unchanged_iff {disk : Disk} {path : Text} (hread : disk.readText path = .ok t) :
    plan .titleCategory disk path = .ok (.unchanged path) ↔ ¬ callPattern.occursIn t := by
  rw [← hoist_eq_self_iff]
  have happly : Mode.titleCategory.apply t = hoist t := rfl
  cases hok : hoist t with
  | error e => simp [plan, hread, happly, hok]
  | ok new => by_cases hsame : new = t <;> simp [plan, hread, happly, hok, hsame]

/-- Every hoist uses up one opening and one closing parenthesis. So a text that a hoist leaves
alone, and a file that is reported as unchanged, holds no call, and hoisting again and again comes
to an end, with a text that stays as it is or with an error, after at most as many hoists as the
text has opening parentheses. -/
theorem hoist_progress :
    (∀ t u, callPattern.occursIn t → hoist t = .ok u →
      u.count '(' + 1 = t.count '(' ∧ u.count ')' + 1 = t.count ')') ∧
    (∀ t, hoist t = .ok t ↔ ¬ callPattern.occursIn t) ∧
    (∀ disk path t, disk.readText path = .ok t →
      (plan .titleCategory disk path = .ok (.unchanged path) ↔ ¬ callPattern.occursIn t)) ∧
    (∀ n t u, Hoists n t u → u.count '(' + n = t.count '(' ∧ u.count ')' + n = t.count ')') ∧
    (∀ t, ∃ n u, Hoists n t u ∧ HoistedOut u ∧ n ≤ t.count '(') := by
  refine ⟨fun t u hoccurs hok => ?_, fun t => hoist_eq_self_iff,
    fun disk path t hread => plan_unchanged_iff hread, fun n t u hhoists => ?_, fun t => ?_⟩
  · exact ⟨count_hoist_of_occursIn hoccurs hok (.inl rfl),
      count_hoist_of_occursIn hoccurs hok (.inr rfl)⟩
  · exact ⟨hhoists.count_add (.inl rfl), hhoists.count_add (.inr rfl)⟩
  · obtain ⟨n, u, hhoists, hout⟩ := exists_hoists t
    have hcount := hhoists.count_add (.inl rfl)
    exact ⟨n, u, hhoists, hout, by omega⟩

/-- A category that is a call: the hoist leaves a call, and yet there is one parenthesis less. -/
theorem hoist_progress_nestedCall :
    let t : Text := "Initialize(x, Initialize(y, z));\npublic class A \x7b"
    let u : Text := "public class A \x7b\n    protected override string Title => x;\n" ++
      "    protected override NodeCategory Category => Initialize(y, z);"
    let disk : Disk := ⟨.folder [(['A'], .file (Text.encode u))], []⟩
    Hoists 1 t u ∧ u.count '(' + 1 = t.count '(' ∧ u.count ')' + 1 = t.count ')' ∧
      plan .titleCategory disk ['A'] ≠ .ok (.unchanged ['A']) := by
  intro t u disk
  obtain ⟨hstep, -, hplan, hcount, -⟩ := hoist_progress
  have hok : hoist t = .ok u := by decide +kernel
  have hhoists : Hoists 1 t u := .more hok (by decide +kernel) (.none u)
  have hread : disk.readText ['A'] = .ok u := by
    have hbytes : disk.readBytes ['A'] = .ok (Text.encode u) := rfl
    rw [Disk.readText, hbytes]
    simp only [Text.decode?_encode]
  refine ⟨hhoists, (hcount 1 t u hhoists).1, (hstep t u (by decide +kernel) hok).2, ?_⟩
  rw [ne_eq, hplan disk ['A'] u hread]
  decide +kernel

end NodeKit.Refactoring
