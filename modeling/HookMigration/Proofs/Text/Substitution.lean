import Mathlib.Data.List.Infix

/-!
# Substitution

`substitute old new` puts one list in the place of another, wherever it occurs, from left to right;
what was put in is not looked at again.  `substituteAll` repeats this until nothing is left to
replace.

A text may be written word by word, one word for each letter of some list.  Then a substitution in
the text is one among the letters (`Aligned.substitute_flatMap`, `Aligned.substituteAll_flatMap`),
if the replaced letters are `Aligned`: their words occur in such a text only where the letters do,
and never from the middle of a word on.
-/

namespace HookMigration.Text

variable {α β : Type}

/-! ## Word by word -/

/-- In texts that are written word by word, the words of `old` are found only where `old` is. -/
structure Aligned (word : β → List α) (old : List β) : Prop where
  ne_nil : old.flatMap word ≠ []
  atStart : ∀ xs : List β, old.flatMap word <+: xs.flatMap word → old <+: xs
  inside : ∀ b (xs : List β) x y, word b = x ++ y → x ≠ [] → y ≠ [] →
    ¬old.flatMap word <+: y ++ xs.flatMap word

theorem infix_append_iff_of_skip {old word rest : List α}
    (hword : ∀ x y, word = x ++ y → y ≠ [] → ¬old <+: y ++ rest) :
    old <:+: word ++ rest ↔ old <:+: rest := by
  induction word with
  | nil => rfl
  | cons c others ih =>
      have hnone : ¬old <+: c :: (others ++ rest) := hword [] (c :: others) rfl (by simp)
      rw [List.cons_append, List.infix_cons_iff, or_iff_right hnone, ih]
      intro x y hothers hne
      exact hword (c :: x) y (by rw [hothers, List.cons_append]) hne

namespace Aligned

variable {word : β → List α} {old : List β}

theorem letters_ne_nil (h : Aligned word old) : old ≠ [] := by
  rintro rfl
  exact h.ne_nil rfl

/-- Nothing is found in a word with which `old` does not begin. -/
theorem skip (h : Aligned word old) {b : β} {rest : List β} (hnone : ¬old <+: b :: rest) :
    ∀ x y, word b = x ++ y → y ≠ [] → ¬old.flatMap word <+: y ++ rest.flatMap word := by
  intro x y hword hne hprefix
  by_cases hx : x = []
  · apply hnone
    apply h.atStart
    rw [List.flatMap_cons, hword, hx]
    exact hprefix
  · exact h.inside b rest x y hword hx hne hprefix

theorem infix_flatMap_iff (h : Aligned word old) (xs : List β) :
    old.flatMap word <:+: xs.flatMap word ↔ old <:+: xs := by
  induction xs with
  | nil =>
      rw [List.flatMap_nil, List.infix_nil, List.infix_nil]
      exact iff_of_false h.ne_nil h.letters_ne_nil
  | cons b rest ih =>
      by_cases hprefix : old <+: b :: rest
      · obtain ⟨others, hrest⟩ := hprefix
        rw [← hrest, List.flatMap_append]
        exact iff_of_true (List.prefix_append _ _).isInfix (List.prefix_append _ _).isInfix
      · rw [List.flatMap_cons, infix_append_iff_of_skip (h.skip hprefix), ih,
          List.infix_cons_iff, or_iff_right hprefix]

end Aligned

/-! ## One occurrence after the other -/

variable [DecidableEq α] [DecidableEq β] {old new xs rest : List α}

/-- `new` in the place of each occurrence of `old`, which is not empty. -/
def substitute (old new : List α) : List α → List α
  | [] => []
  | x :: rest =>
    if old <+: x :: rest then new ++ substitute old new (rest.drop (old.length - 1))
    else x :: substitute old new rest
termination_by xs => xs.length
decreasing_by
  all_goals simp only [List.length_cons, List.length_drop]
  all_goals omega

theorem substitute_append (hold : old ≠ []) (rest : List α) :
    substitute old new (old ++ rest) = new ++ substitute old new rest := by
  obtain ⟨x, others, rfl⟩ := List.exists_cons_of_ne_nil hold
  rw [List.cons_append, substitute, if_pos (by simp)]
  simp

theorem substitute_of_skip {word : List α}
    (hword : ∀ x y, word = x ++ y → y ≠ [] → ¬old <+: y ++ rest) :
    substitute old new (word ++ rest) = word ++ substitute old new rest := by
  induction word with
  | nil => rfl
  | cons c others ih =>
      have hnone : ¬old <+: c :: (others ++ rest) := hword [] (c :: others) rfl (by simp)
      rw [List.cons_append, substitute, if_neg hnone, ih, List.cons_append]
      intro x y hothers hne
      exact hword (c :: x) y (by rw [hothers, List.cons_append]) hne

/-- One letter is replaced wherever it stands. -/
theorem substitute_singleton (a : α) (new xs : List α) :
    substitute [a] new xs = xs.flatMap fun x => if x = a then new else [x] := by
  induction xs with
  | nil => simp [substitute]
  | cons x others ih =>
      rw [List.flatMap_cons, ← ih]
      by_cases hx : x = a
      · rw [if_pos hx, hx]
        exact substitute_append (by simp) others
      · rw [substitute, if_neg (by simpa using Ne.symm hx), if_neg hx]
        rfl

/-- Substitution in the text is substitution among the letters. -/
theorem Aligned.substitute_flatMap {word : β → List α} {old : List β} (h : Aligned word old)
    (new xs : List β) :
    substitute (old.flatMap word) (new.flatMap word) (xs.flatMap word) =
      (substitute old new xs).flatMap word := by
  fun_induction substitute old new xs with
  | case1 => simp [substitute]
  | case2 b rest hprefix ih =>
      obtain ⟨others, hrest⟩ := hprefix
      have htail : rest.drop (old.length - 1) = others := by
        obtain ⟨c, cs, rfl⟩ := List.exists_cons_of_ne_nil h.letters_ne_nil
        rw [List.cons_append, List.cons.injEq] at hrest
        rw [← hrest.2]
        simp
      rw [htail] at ih ⊢
      rw [← hrest, List.flatMap_append, substitute_append h.ne_nil, ih, List.flatMap_append]
  | case3 b rest hprefix ih =>
      rw [List.flatMap_cons, substitute_of_skip (h.skip hprefix), ih, List.flatMap_cons]

/-! ## Until nothing is left to replace -/

theorem length_substitute_le (hshorter : new.length ≤ old.length) (xs : List α) :
    (substitute old new xs).length ≤ xs.length := by
  fun_induction substitute old new xs with
  | case1 => exact Nat.le_refl 0
  | case2 x rest hprefix ih =>
      have hlength := hprefix.length_le
      simp only [List.length_append, List.length_cons, List.length_drop] at hlength ih ⊢
      omega
  | case3 x rest hprefix ih => exact Nat.succ_le_succ ih

theorem length_substitute_lt (hshorter : new.length < old.length) (h : old <:+: xs) :
    (substitute old new xs).length < xs.length := by
  fun_induction substitute old new xs with
  | case1 =>
      obtain rfl := List.infix_nil.1 h
      exact absurd hshorter (Nat.not_lt_zero _)
  | case2 x rest hprefix ih =>
      have hlength := hprefix.length_le
      have hrest := length_substitute_le (Nat.le_of_lt hshorter) (rest.drop (old.length - 1))
      simp only [List.length_append, List.length_cons, List.length_drop] at hlength hrest ⊢
      omega
  | case3 x rest hprefix ih =>
      apply Nat.succ_lt_succ
      apply ih
      exact (List.infix_cons_iff.1 h).resolve_left hprefix

/-- `new` in the place of `old`, again and again until there is no occurrence. -/
def substituteAll (old new : List α) (hshorter : new.length < old.length) (xs : List α) : List α :=
  if old <:+: xs then substituteAll old new hshorter (substitute old new xs) else xs
termination_by xs.length
decreasing_by exact length_substitute_lt hshorter ‹_›

theorem Aligned.substituteAll_flatMap {word : β → List α} {old new : List β}
    (h : Aligned word old) (hletters : new.length < old.length)
    (hwords : (new.flatMap word).length < (old.flatMap word).length) (xs : List β) :
    substituteAll (old.flatMap word) (new.flatMap word) hwords (xs.flatMap word) =
      (substituteAll old new hletters xs).flatMap word := by
  fun_induction substituteAll old new hletters xs with
  | case1 xs hinfix ih =>
      rw [substituteAll, if_pos ((h.infix_flatMap_iff xs).2 hinfix), h.substitute_flatMap, ih]
  | case2 xs hinfix =>
      rw [substituteAll, if_neg (mt (h.infix_flatMap_iff xs).1 hinfix)]

end HookMigration.Text
