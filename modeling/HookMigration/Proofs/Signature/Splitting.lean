import HookMigration.Proofs.Text.Runs
import HookMigration.Signature.Split

/-!
# Where a parameter list is cut

`splitList` goes through a list with a signed depth of brackets and cuts it at every comma that it
meets at depth zero.  A cut leaves the depth at zero, so the pieces can be told without a depth that
is carried along: a comma inside of a piece is shielded, which is to say that it stands at a depth
other than zero of the piece, and a piece that a cut follows closes as many brackets as it opens.
`Cuts` says this of a text and its pieces; every text has pieces in this sense (`exists_cuts`), and
`splitList` gives them without a last one of blanks (`splitList_of_cuts`).

The splitter between the type and the name of a parameter works in the same way, with blanks in the
place of commas; so what is shielded is a parameter.
-/

namespace HookMigration.Signature

open Text

variable {cs piece rest current : List Char} {pieces before : List (List Char)} {depth : Int}

@[simp] theorem depthOf_nil : depthOf [] = 0 := rfl

@[simp] theorem depthOf_cons (c : Char) (cs : List Char) :
    depthOf (c :: cs) = depthStep c + depthOf cs := rfl

@[simp] theorem depthOf_append (cs ds : List Char) :
    depthOf (cs ++ ds) = depthOf cs + depthOf ds := by
  induction cs with
  | nil => simp
  | cons c others ih => simp [ih, Int.add_assoc]

/-- No character of a class stands at depth zero, if the text begins at the given depth. -/
def Shielded (p : Char → Bool) (depth : Int) (cs : List Char) : Prop :=
  ∀ before c after, cs = before ++ c :: after → p c = true → depth + depthOf before ≠ 0

/-- Commas. -/
def isComma (c : Char) : Bool :=
  c == ','

/-- A text is cut into pieces at its commas outside of brackets. -/
inductive Cuts : (text : List Char) → (pieces : List (List Char)) → Prop
  | last {piece : List Char} (hshielded : Shielded isComma 0 piece) : Cuts piece [piece]
  | cons {piece rest : List Char} {pieces : List (List Char)} (hshielded : Shielded isComma 0 piece)
      (hlevel : depthOf piece = 0) (hrest : Cuts rest pieces) :
      Cuts (piece ++ ',' :: rest) (piece :: pieces)

/-- Pieces without a last one of blanks. -/
def withoutBlankLast (pieces : List (List Char)) : List (List Char) :=
  if pieces.getLast?.any isBlankText then pieces.dropLast else pieces

/-! ## One character at a time -/

section Shielded

variable {p : Char → Bool}

theorem shielded_of_forall (h : ∀ c ∈ cs, p c = false) (depth : Int) : Shielded p depth cs := by
  rintro before c after rfl hc
  simp [h c (by simp)] at hc

theorem shielded_nil (depth : Int) : Shielded p depth [] :=
  shielded_of_forall (by simp) depth

theorem shielded_append {a b : List Char} :
    Shielded p depth (a ++ b) ↔ Shielded p depth a ∧ Shielded p (depth + depthOf a) b := by
  constructor
  · intro h
    constructor
    · rintro before c after rfl hc
      exact h before c (after ++ b) (by simp) hc
    · rintro before c after rfl hc
      have hdepth := h (a ++ before) c after (by simp) hc
      rwa [depthOf_append, ← Int.add_assoc] at hdepth
  · rintro ⟨ha, hb⟩ before c after heq hc
    rcases List.append_eq_append_iff.1 heq with ⟨between, rfl, rfl⟩ | ⟨between, rfl, hrest⟩
    · -- the character belongs to the second text
      rw [depthOf_append, ← Int.add_assoc]
      exact hb between c after rfl hc
    · cases between with
      | nil =>
          obtain rfl : c :: after = b := by simpa using hrest
          simpa using hb [] c after rfl hc
      | cons d others =>
          obtain ⟨rfl, -⟩ : c = d ∧ after = others ++ b := by simpa using hrest
          exact ha before c others rfl hc

theorem shielded_cons {c : Char} :
    Shielded p depth (c :: cs) ↔
      ¬(p c = true ∧ depth = 0) ∧ Shielded p (depth + depthStep c) cs := by
  have hone : Shielded p depth [c] ↔ ¬(p c = true ∧ depth = 0) := by
    constructor
    · rintro h ⟨hc, rfl⟩
      exact h [] c [] rfl hc rfl
    · rintro h before d after heq hd
      cases before with
      | nil =>
          obtain ⟨rfl, -⟩ : c = d ∧ [] = after := by simpa using heq
          simpa using fun hzero => h ⟨hd, hzero⟩
      | cons e others => simp at heq
  rw [← List.singleton_append, shielded_append, hone]
  simp

end Shielded

/-- The splitter goes through a text without a comma at depth zero as a whole. -/
theorem splitFrom_append (h : Shielded isComma depth piece) (current rest : List Char) :
    splitFrom current depth (piece ++ rest) =
      splitFrom (piece.reverse ++ current) (depth + depthOf piece) rest := by
  induction piece generalizing current depth with
  | nil => simp
  | cons c others ih =>
      obtain ⟨hfirst, hothers⟩ := shielded_cons.1 h
      rw [List.cons_append, splitFrom, if_neg (by simpa [isComma] using hfirst), ih hothers]
      simp [Int.add_assoc]

theorem splitList_shielded (h : Shielded isComma 0 piece) :
    splitList piece = if isBlankText piece then [] else [piece] := by
  have hsplit := splitFrom_append h [] []
  rw [List.append_nil, List.append_nil] at hsplit
  rw [splitList, hsplit, splitFrom, List.reverse_reverse, isBlankText, List.all_reverse]
  rfl

/-- A comma at depth zero cuts off the piece before it. -/
theorem splitList_append_comma (h : Shielded isComma 0 piece) (hlevel : depthOf piece = 0)
    (rest : List Char) : splitList (piece ++ ',' :: rest) = piece :: splitList rest := by
  rw [splitList, splitFrom_append h, hlevel, splitFrom, if_pos ⟨rfl, rfl⟩]
  simp [splitList]

/-! ## The pieces of a text -/

theorem Cuts.ne_nil (h : Cuts cs pieces) : pieces ≠ [] := by
  cases h <;> simp

theorem Cuts.intercalate_eq (h : Cuts cs pieces) : [','].intercalate pieces = cs := by
  induction h with
  | last hshielded => simp
  | cons hshielded hlevel hrest ih =>
      rw [List.intercalate_cons_of_ne_nil hrest.ne_nil, ih]
      simp

theorem shielded_or_exists_cut (depth : Int) (cs : List Char) :
    Shielded isComma depth cs ∨ ∃ piece rest, cs = piece ++ ',' :: rest ∧
      Shielded isComma depth piece ∧ depth + depthOf piece = 0 := by
  induction cs generalizing depth with
  | nil => exact .inl (shielded_nil depth)
  | cons c others ih =>
      by_cases hcut : isComma c = true ∧ depth = 0
      · obtain ⟨hcomma, rfl⟩ := hcut
        obtain rfl : c = ',' := by simpa [isComma] using hcomma
        exact .inr ⟨[], others, rfl, shielded_nil 0, rfl⟩
      · rcases ih (depth + depthStep c) with hshielded | ⟨piece, rest, rfl, hshielded, hlevel⟩
        · exact .inl (shielded_cons.2 ⟨hcut, hshielded⟩)
        · refine .inr ⟨c :: piece, rest, rfl, shielded_cons.2 ⟨hcut, hshielded⟩, ?_⟩
          rw [depthOf_cons, ← Int.add_assoc, hlevel]

theorem exists_cuts (cs : List Char) : ∃ pieces, Cuts cs pieces := by
  induction hlength : cs.length using Nat.strong_induction_on generalizing cs with
  | _ n ih =>
      rcases shielded_or_exists_cut 0 cs with hshielded | ⟨piece, rest, rfl, hshielded, hlevel⟩
      · exact ⟨[cs], .last hshielded⟩
      · have hshorter : rest.length < n := by
          rw [← hlength, List.length_append, List.length_cons]
          omega
        obtain ⟨pieces, hpieces⟩ := ih _ hshorter rest rfl
        exact ⟨piece :: pieces, .cons hshielded (by simpa using hlevel) hpieces⟩

theorem withoutBlankLast_cons (piece : List Char) (h : pieces ≠ []) :
    withoutBlankLast (piece :: pieces) = piece :: withoutBlankLast pieces := by
  obtain ⟨second, others, rfl⟩ := List.exists_cons_of_ne_nil h
  unfold withoutBlankLast
  rw [List.getLast?_cons_cons]
  split_ifs <;> simp

/-- The splitter gives the pieces of a text, unless the last one is blank. -/
theorem splitList_of_cuts (h : Cuts cs pieces) : splitList cs = withoutBlankLast pieces := by
  induction h with
  | last hshielded => simp [splitList_shielded hshielded, withoutBlankLast]
  | cons hshielded hlevel hrest ih =>
      rw [splitList_append_comma hshielded hlevel, ih, withoutBlankLast_cons _ hrest.ne_nil]

/-- A piece that is left is a piece that is not the last or not blank. -/
theorem exists_withoutBlankLast_eq_iff :
    (∃ after, withoutBlankLast pieces = before ++ piece :: after) ↔
      ∃ after, pieces = before ++ piece :: after ∧ ¬(after = [] ∧ isBlankText piece = true) := by
  unfold withoutBlankLast
  split_ifs with hblank
  · obtain ⟨last, hpieces, hlast⟩ := (Option.any_eq_true _ _).1 hblank
    obtain ⟨others, rfl⟩ := List.getLast?_eq_some_iff.1 hpieces
    rw [List.dropLast_concat]
    constructor
    · rintro ⟨after, rfl⟩
      exact ⟨after ++ [last], by simp, by simp⟩
    · rintro ⟨after, heq, hkept⟩
      rcases List.eq_nil_or_concat after with rfl | ⟨after, last', rfl⟩
      · -- the piece would be the blank one
        obtain rfl : last = piece := List.singleton_inj.1 (List.append_inj' heq rfl).2
        exact absurd ⟨rfl, hlast⟩ hkept
      · have heq : others ++ [last] = (before ++ piece :: after) ++ [last'] := by simpa using heq
        exact ⟨after, (List.append_inj' heq rfl).1⟩
  · constructor
    · rintro ⟨after, rfl⟩
      refine ⟨after, rfl, ?_⟩
      rintro ⟨rfl, hpiece⟩
      simp [hpiece] at hblank
    · rintro ⟨after, heq, -⟩
      exact ⟨after, heq⟩

theorem intercalate_concat (h : pieces ≠ []) (piece : List Char) :
    [','].intercalate (pieces ++ [piece]) = [','].intercalate pieces ++ ',' :: piece := by
  induction pieces with
  | nil => exact absurd rfl h
  | cons first others ih =>
      by_cases hothers : others = []
      · simp [hothers]
      · rw [List.cons_append, List.intercalate_cons_of_ne_nil (by simp), ih hothers,
          List.intercalate_cons_of_ne_nil hothers]
        simp

/-- The pieces of a list that ends in no blank make it up again, but for a comma at its end. -/
theorem eq_intercalate_splitList (hne : cs ≠ []) (hlast : cs.getLast?.any isBlank = false) :
    splitList cs ≠ [] ∧
      (cs = [','].intercalate (splitList cs) ∨ cs = [','].intercalate (splitList cs) ++ [',']) := by
  obtain ⟨pieces, hcuts⟩ := exists_cuts cs
  have htext := hcuts.intercalate_eq
  rw [splitList_of_cuts hcuts]
  unfold withoutBlankLast
  split_ifs with hblank
  · obtain ⟨last, hpieces, hblanks⟩ := (Option.any_eq_true _ _).1 hblank
    obtain ⟨others, rfl⟩ := List.getLast?_eq_some_iff.1 hpieces
    rw [List.dropLast_concat]
    by_cases hothers : others = []
    · -- a text that is one blank piece is empty
      obtain rfl : last = cs := by simpa [hothers] using htext
      exact absurd (eq_nil_of_isBlankText hblanks hlast) hne
    · rw [intercalate_concat hothers] at htext
      have hnil : last = [] := by
        refine eq_nil_of_isBlankText hblanks ?_
        by_cases hempty : last = []
        · simp [hempty]
        · rw [← htext, List.getLast?_append_of_ne_nil _ (by simp),
            List.getLast?_cons_of_ne_nil hempty] at hlast
          exact hlast
      rw [hnil] at htext
      exact ⟨hothers, .inr htext.symm⟩
  · exact ⟨hcuts.ne_nil, .inl htext.symm⟩

end HookMigration.Signature
