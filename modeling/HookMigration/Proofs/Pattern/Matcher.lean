import HookMigration.Pattern.Matching
import HookMigration.Proofs.Pattern.Notation
import HookMigration.Proofs.Text.Runs

/-!
# The matcher against the meaning of expressions

`Pattern.matchAhead?` tries the ways in which a pattern can match one after the other.  What it
finds is a match in the sense of `Regex.Matches` (`matchAhead?_sound`), and it finds one wherever
there is any (`matchAhead?_complete`).  Which of several matches it prefers is left open here; where
an expression can match in one way only, the two statements together leave no choice.

Both are proved along the atoms and parts.  The matcher runs in continuations, so each statement is
about what is left to do after an atom: a success of the whole gives a stretch that the atom takes
and a success of the rest behind it, and conversely.
-/

namespace HookMigration.Pattern

open Regex

variable {α : Type} {p : Char → Bool} {next : List Char → List Char → Option α}
  {behind ahead taken after : List Char} {result : α}

/-! ## Runs -/

/-- What is found behind a run is found behind some characters of the class. -/
theorem takeRun_sound (h : takeRun p next behind ahead = some result) :
    ∃ taken after, ahead = taken ++ after ∧ taken.all p = true ∧
      next (taken.reverse ++ behind) after = some result := by
  induction ahead generalizing behind with
  | nil => exact ⟨[], [], rfl, rfl, h⟩
  | cons c rest ih =>
      simp only [takeRun] at h
      split_ifs at h with hc
      · cases hrun : takeRun p next (c :: behind) rest with
        | none =>
            -- The longer runs all fail, so this one ends here.
            rw [hrun] at h
            exact ⟨[], c :: rest, rfl, rfl, h⟩
        | some found =>
            obtain rfl : found = result := by simpa [hrun] using h
            obtain ⟨taken, after, rfl, hall, hnext⟩ := ih hrun
            exact ⟨c :: taken, after, rfl, by simp [hc, hall], by simpa using hnext⟩
      · exact ⟨[], c :: rest, rfl, rfl, h⟩

/-- A run may be taken further than asked for, but then what comes next is found there. -/
theorem takeRun_complete (hall : taken.all p = true)
    (hnext : (next (taken.reverse ++ behind) after).isSome = true) :
    (takeRun p next behind (taken ++ after)).isSome = true := by
  induction taken generalizing behind with
  | nil =>
      cases after with
      | nil => exact hnext
      | cons c rest =>
          simp only [List.nil_append, takeRun]
          split_ifs
          · cases takeRun p next (c :: behind) rest with
            | none => exact hnext
            | some found => rfl
          · exact hnext
  | cons c others ih =>
      simp only [List.all_cons, Bool.and_eq_true] at hall
      have hrun : (takeRun p next (c :: behind) (others ++ after)).isSome = true :=
        ih hall.2 (by simpa using hnext)
      obtain ⟨found, hfound⟩ := Option.isSome_iff_exists.1 hrun
      simp [takeRun, hall.1, hfound]

theorem takeSome_sound (h : takeSome p next behind ahead = some result) :
    ∃ taken after, ahead = taken ++ after ∧ taken.all p = true ∧ 1 ≤ taken.length ∧
      next (taken.reverse ++ behind) after = some result := by
  cases ahead with
  | nil => simp [takeSome] at h
  | cons c rest =>
      simp only [takeSome] at h
      split_ifs at h with hc
      obtain ⟨taken, after, rfl, hall, hnext⟩ := takeRun_sound h
      exact ⟨c :: taken, after, rfl, by simp [hc, hall], by simp, by simpa using hnext⟩

theorem takeSome_complete (hall : taken.all p = true) (hlength : 1 ≤ taken.length)
    (hnext : (next (taken.reverse ++ behind) after).isSome = true) :
    (takeSome p next behind (taken ++ after)).isSome = true := by
  cases taken with
  | nil => simp at hlength
  | cons c others =>
      simp only [List.all_cons, Bool.and_eq_true] at hall
      have hrun : (takeRun p next (c :: behind) (others ++ after)).isSome = true :=
        takeRun_complete hall.2 (by simpa using hnext)
      simpa [takeSome, hall.1] using hrun

/-! ## Atoms -/

theorem run_sound {a : Atom} (h : a.run next behind ahead = some result) :
    ∃ taken after, ahead = taken ++ after ∧ a.item.Takes behind.reverse taken after ∧
      next (taken.reverse ++ behind) after = some result := by
  cases a with
  | boundary =>
      simp only [Atom.run] at h
      split_ifs at h with hboundary
      exact ⟨[], ahead, rfl, ⟨rfl, by simpa [isBoundary] using hboundary⟩, h⟩
  | literal c =>
      cases ahead with
      | nil => simp [Atom.run, takeChar] at h
      | cons d rest =>
          simp only [Atom.run, takeChar] at h
          split_ifs at h with hc
          exact ⟨[d], rest, rfl, ⟨by simp [CharClass.holds, hc], by simp [Count.Allows]⟩, h⟩
  | blanks =>
      obtain ⟨taken, after, hahead, hall, hnext⟩ := takeRun_sound h
      exact ⟨taken, after, hahead, ⟨hall, trivial⟩, hnext⟩
  | someBlanks | word =>
      obtain ⟨taken, after, hahead, hall, hlength, hnext⟩ := takeSome_sound h
      exact ⟨taken, after, hahead, ⟨hall, hlength⟩, hnext⟩

theorem run_complete {a : Atom} (htakes : a.item.Takes behind.reverse taken after)
    (hnext : (next (taken.reverse ++ behind) after).isSome = true) :
    (a.run next behind (taken ++ after)).isSome = true := by
  cases a with
  | boundary =>
      obtain ⟨rfl, hboundary⟩ := htakes
      have hset : isBoundary behind after = true := by simpa [isBoundary] using hboundary
      simpa [Atom.run, hset] using hnext
  | literal c =>
      obtain ⟨hall, hlength⟩ := htakes
      obtain ⟨d, rfl⟩ := List.length_eq_one_iff.1 hlength
      obtain rfl : d = c := by simpa [CharClass.holds] using hall
      simpa [Atom.run, takeChar] using hnext
  | blanks => exact takeRun_complete htakes.1 hnext
  | someBlanks | word => exact takeSome_complete htakes.1 htakes.2 hnext

theorem runAtoms_sound {atoms : List Atom} (h : runAtoms next atoms behind ahead = some result) :
    ∃ taken after, ahead = taken ++ after ∧
      ItemsTake behind.reverse (atoms.map Atom.item) taken after ∧
      next (taken.reverse ++ behind) after = some result := by
  induction atoms generalizing behind ahead with
  | nil => exact ⟨[], ahead, rfl, rfl, h⟩
  | cons a others ih =>
      obtain ⟨first, rest, rfl, htakes, hrest⟩ := run_sound h
      obtain ⟨second, after, rfl, hothers, hnext⟩ := ih hrest
      refine ⟨first ++ second, after, by simp, ⟨first, second, rfl, htakes, ?_⟩, ?_⟩
      · simpa using hothers
      · simpa using hnext

theorem runAtoms_complete {atoms : List Atom}
    (htake : ItemsTake behind.reverse (atoms.map Atom.item) taken after)
    (hnext : (next (taken.reverse ++ behind) after).isSome = true) :
    (runAtoms next atoms behind (taken ++ after)).isSome = true := by
  induction atoms generalizing behind taken with
  | nil =>
      obtain rfl : taken = [] := htake
      exact hnext
  | cons a others ih =>
      obtain ⟨first, second, rfl, htakes, hothers⟩ := htake
      rw [List.append_assoc]
      refine run_complete htakes (ih ?_ ?_)
      · simpa using hothers
      · simpa using hnext

/-! ## Parts -/

/-- The text between two places is what was taken on the way. -/
theorem takenBetween_append (behind taken : List Char) :
    takenBetween behind (taken.reverse ++ behind) = taken := by
  simp [takenBetween]

/-- The captured texts by label. -/
def labelled (captures : Captures) : Regex.Captures :=
  captures.map fun capture => (capture.1.label, capture.2)

theorem runParts_sound {parts : List Part} {captures : Captures} {final : List Char}
    (h : runParts parts behind ahead = some (captures, final)) :
    ∃ taken after, ahead = taken ++ after ∧ final = taken.reverse ++ behind ∧
      Regex.Matches (parts.map Part.piece) behind.reverse taken after (labelled captures) := by
  -- The characters behind the place are kept in reverse, the ones of a match are not.
  induction parts generalizing behind ahead captures with
  | nil =>
      obtain ⟨rfl, rfl⟩ : [] = captures ∧ behind = final := by simpa [runParts] using h
      exact ⟨[], ahead, rfl, rfl, rfl, rfl⟩
  | cons part others ih =>
      cases part with
      | atom a =>
          obtain ⟨first, rest, rfl, htakes, hrest⟩ := run_sound h
          obtain ⟨second, after, rfl, rfl, hothers⟩ := ih hrest
          refine ⟨first ++ second, after, by simp, by simp, first, second, rfl, htakes, ?_⟩
          simpa using hothers
      | capture slot body =>
          obtain ⟨first, rest, rfl, htake, hrest⟩ := runAtoms_sound h
          obtain ⟨⟨captures', final'⟩, hothers, hfound⟩ := Option.map_eq_some_iff.1 hrest
          obtain ⟨rfl, rfl⟩ :
              (slot, takenBetween behind (first.reverse ++ behind)) :: captures' = captures ∧
                final' = final := by
            simpa using hfound
          obtain ⟨second, after, rfl, rfl, hmatches⟩ := ih hothers
          refine ⟨first ++ second, after, by simp, by simp, first, second, labelled captures', rfl,
            ?_, htake, ?_⟩
          · simp [labelled, takenBetween_append]
          · simpa using hmatches

theorem runParts_complete {parts : List Part} {captures : Regex.Captures}
    (h : Regex.Matches (parts.map Part.piece) behind.reverse taken after captures) :
    (runParts parts behind (taken ++ after)).isSome = true := by
  induction parts generalizing behind taken captures with
  | nil => rfl
  | cons part others ih =>
      cases part with
      | atom a =>
          obtain ⟨first, second, rfl, htakes, hothers⟩ := h
          rw [List.append_assoc]
          exact run_complete htakes (ih (by simpa using hothers))
      | capture slot body =>
          obtain ⟨first, second, captures', rfl, rfl, htake, hothers⟩ := h
          rw [List.append_assoc]
          refine runAtoms_complete htake ?_
          rw [Option.isSome_map]
          exact ih (by simpa using hothers)

/-! ## Patterns -/

variable {before before' : List Char} {captures : Regex.Captures}

theorem getLast?_append_congr (h : before.getLast? = before'.getLast?) (first : List Char) :
    (before ++ first).getLast? = (before' ++ first).getLast? := by
  rw [List.getLast?_append, List.getLast?_append, h]

theorem takes_congr_before (h : before.getLast? = before'.getLast?) {i : Item}
    (htakes : i.Takes before taken after) : i.Takes before' taken after := by
  cases i with
  | boundary => exact ⟨htakes.1, h ▸ htakes.2⟩
  | run cls count => exact htakes

theorem itemsTake_congr_before (h : before.getLast? = before'.getLast?) {items : List Item}
    (htake : ItemsTake before items taken after) : ItemsTake before' items taken after := by
  induction items generalizing before before' taken with
  | nil => exact htake
  | cons i rest ih =>
      obtain ⟨first, second, rfl, htakes, hrest⟩ := htake
      exact ⟨first, second, rfl, takes_congr_before h htakes,
        ih (getLast?_append_congr h first) hrest⟩

/-- Of the text before a match only the last character matters. -/
theorem matches_congr_before (h : before.getLast? = before'.getLast?) {r : Regex}
    (hmatches : r.Matches before taken after captures) :
    r.Matches before' taken after captures := by
  induction r generalizing before before' taken captures with
  | nil => exact hmatches
  | cons piece rest ih =>
      cases piece with
      | item i =>
          obtain ⟨first, second, rfl, htakes, hrest⟩ := hmatches
          exact ⟨first, second, rfl, takes_congr_before h htakes,
            ih (getLast?_append_congr h first) hrest⟩
      | group label body =>
          obtain ⟨first, second, captures', rfl, rfl, htake, hrest⟩ := hmatches
          exact ⟨first, second, captures', rfl, rfl, itemsTake_congr_before h htake,
            ih (getLast?_append_congr h first) hrest⟩

theorem getLast?_toList (before : Option Char) : before.toList.getLast? = before := by
  cases before <;> rfl

theorem getLast?_toList_reverse (before : List Char) :
    before.getLast?.toList.reverse.getLast? = before.getLast? := by
  cases before.getLast? <;> rfl

/-- What the matcher finds is a match. -/
theorem matchAhead?_sound {p : Pattern} {m : Match}
    (h : p.matchAhead? before.getLast? ahead = some m) :
    ∃ after, ahead = m.matched ++ after ∧
      p.regex.Matches before m.matched after (labelled m.captures) := by
  obtain ⟨⟨captures, final⟩, hrun, rfl⟩ := Option.map_eq_some_iff.1 h
  obtain ⟨taken, after, rfl, rfl, hmatches⟩ := runParts_sound hrun
  simp only [takenBetween_append]
  exact ⟨after, rfl, matches_congr_before (getLast?_toList_reverse before) hmatches⟩

/-- Where there is a match, the matcher finds one. -/
theorem matchAhead?_complete {p : Pattern} (h : p.regex.Matches before taken after captures) :
    ∃ m, p.matchAhead? before.getLast? (taken ++ after) = some m := by
  rw [← Option.isSome_iff_exists, matchAhead?, Option.isSome_map]
  exact runParts_complete (matches_congr_before (getLast?_toList_reverse before).symm h)

end HookMigration.Pattern
