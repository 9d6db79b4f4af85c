import HookMigration.Text.Trim
import Mathlib.Data.List.DropRight

/-!
# Runs of characters

A run of characters of one class in front of a character outside the class can be cut off in one
way only.  `run_unique` says so for runs at the beginning of a text and `run_unique_right` for runs
at its end; every statement that a text can be read in one way comes down to these two.

Trimming is the special case of blanks: it leaves a text alone whose ends are no blanks, and so a
second trimming changes nothing.
-/

namespace HookMigration.Text

variable {p : Char → Bool} {u v a b cs : List Char}

/-! ## Cutting off a run -/

theorem takeWhile_run_append (hu : u.all p = true) (ha : a.head?.any p = false) :
    (u ++ a).takeWhile p = u := by
  rw [List.takeWhile_append_of_pos (List.all_eq_true.1 hu)]
  cases a with
  | nil => simp
  | cons c rest =>
      have hc : p c = false := by simpa using ha
      simp [hc]

theorem dropWhile_run_append (hu : u.all p = true) (ha : a.head?.any p = false) :
    (u ++ a).dropWhile p = a := by
  rw [List.dropWhile_append_of_pos (List.all_eq_true.1 hu)]
  cases a with
  | nil => simp
  | cons c rest =>
      have hc : p c = false := by simpa using ha
      simp [hc]

/-- Two ways to cut a run off a text are the same. -/
theorem run_unique (hu : u.all p = true) (hv : v.all p = true) (ha : a.head?.any p = false)
    (hb : b.head?.any p = false) (h : u ++ a = v ++ b) : u = v ∧ a = b := by
  constructor
  · rw [← takeWhile_run_append hu ha, h, takeWhile_run_append hv hb]
  · rw [← dropWhile_run_append hu ha, h, dropWhile_run_append hv hb]

/-- Two ways to cut a run off the end of a text are the same. -/
theorem run_unique_right (hu : u.all p = true) (hv : v.all p = true)
    (ha : a.getLast?.any p = false) (hb : b.getLast?.any p = false) (h : a ++ u = b ++ v) :
    a = b ∧ u = v := by
  have hreverse : u.reverse ++ a.reverse = v.reverse ++ b.reverse := by
    simpa using congrArg List.reverse h
  obtain ⟨hrun, hrest⟩ := run_unique (p := p) (by simpa using hu) (by simpa using hv)
    (by simpa using ha) (by simpa using hb) hreverse
  exact ⟨List.reverse_injective hrest, List.reverse_injective hrun⟩

/-- The digits of a number are a run. -/
theorem all_isDigit_toDigits (n : Nat) : (Nat.toDigits 10 n).all Char.isDigit = true := by
  rw [List.all_eq_true]
  intro c hc
  exact Nat.isDigit_of_mem_toDigits (by decide) (by decide) hc

/-! ## Trimming -/

theorem head?_trimStart (cs : List Char) : (trimStart cs).head?.any isBlank = false := by
  have h := List.head?_dropWhile_not isBlank cs
  unfold trimStart
  cases hcs : (cs.dropWhile isBlank).head? with
  | none => rfl
  | some c => simpa [hcs] using h

theorem trimStart_eq_self (h : cs.head?.any isBlank = false) : trimStart cs = cs :=
  dropWhile_run_append (u := []) rfl h

theorem trimEnd_eq_rdropWhile (cs : List Char) : trimEnd cs = cs.rdropWhile isBlank := rfl

theorem trimEnd_eq_self (h : cs.getLast?.any isBlank = false) : trimEnd cs = cs := by
  rw [trimEnd_eq_rdropWhile, List.rdropWhile_eq_self_iff]
  intro hne
  rw [List.getLast?_eq_some_getLast hne] at h
  simpa using h

theorem getLast?_trimEnd (cs : List Char) : (trimEnd cs).getLast?.any isBlank = false := by
  by_cases hne : trimEnd cs = []
  · simp [hne]
  · rw [List.getLast?_eq_some_getLast hne]
    simpa [trimEnd_eq_rdropWhile] using List.rdropWhile_last_not isBlank cs hne

theorem head?_trimEnd (h : cs.head?.any isBlank = false) :
    (trimEnd cs).head?.any isBlank = false := by
  obtain ⟨rest, hrest⟩ := List.rdropWhile_prefix isBlank (l := cs)
  rw [← trimEnd_eq_rdropWhile] at hrest
  cases htrim : trimEnd cs with
  | nil => rfl
  | cons c others =>
      rw [htrim] at hrest
      subst hrest
      simpa using h

theorem head?_trim (cs : List Char) : (trim cs).head?.any isBlank = false :=
  head?_trimEnd (head?_trimStart cs)

theorem getLast?_trim (cs : List Char) : (trim cs).getLast?.any isBlank = false :=
  getLast?_trimEnd _

/-- A text whose ends are no blanks is trimmed already. -/
theorem trim_eq_self (hhead : cs.head?.any isBlank = false)
    (hlast : cs.getLast?.any isBlank = false) : trim cs = cs := by
  rw [trim, trimStart_eq_self hhead, trimEnd_eq_self hlast]

@[simp] theorem trim_trim (cs : List Char) : trim (trim cs) = trim cs :=
  trim_eq_self (head?_trim cs) (getLast?_trim cs)

@[simp] theorem toList_trimmed (s : String) : (trimmed s).toList = trim s.toList := by
  simp [trimmed]

/-! ## Blanks around a text -/

theorem trimStart_append (h : u.all isBlank = true) (cs : List Char) :
    trimStart (u ++ cs) = trimStart cs :=
  List.dropWhile_append_of_pos (List.all_eq_true.1 h)

theorem trimEnd_append (h : u.all isBlank = true) (cs : List Char) :
    trimEnd (cs ++ u) = trimEnd cs := by
  rw [trimEnd, trimEnd, List.reverse_append, List.dropWhile_append_of_pos]
  simpa using h

theorem trim_append_left (h : u.all isBlank = true) (cs : List Char) :
    trim (u ++ cs) = trim cs := by
  rw [trim, trim, trimStart_append h]

theorem trimStart_eq_nil_iff : trimStart cs = [] ↔ cs.all isBlank = true := by
  rw [trimStart, List.dropWhile_eq_nil_iff, List.all_eq_true]

theorem trim_append_right (h : u.all isBlank = true) (cs : List Char) :
    trim (cs ++ u) = trim cs := by
  cases hcs : trimStart cs with
  | nil =>
      -- There are only blanks, on both sides.
      have hnil : trimStart (cs ++ u) = [] := by
        rw [trimStart_eq_nil_iff, List.all_append, trimStart_eq_nil_iff.1 hcs, h, Bool.and_self]
      rw [trim, trim, hcs, hnil]
  | cons c rest =>
      have happend : trimStart (cs ++ u) = trimStart cs ++ u := by
        have hne : cs.dropWhile isBlank ≠ [] := by
          intro hnil
          rw [trimStart, hnil] at hcs
          exact absurd hcs (by simp)
        rw [trimStart, List.dropWhile_append, if_neg (by simpa using hne)]
        rfl
      rw [trim, trim, happend, trimEnd_append h]

/-- A text is its trimmed text with blanks on both sides. -/
theorem exists_trim_eq (cs : List Char) :
    ∃ lead trail, lead.all isBlank = true ∧ trail.all isBlank = true ∧
      cs = lead ++ (trim cs ++ trail) := by
  have hlead : (cs.takeWhile isBlank).all isBlank = true := List.all_takeWhile
  have htrail : ((trimStart cs).reverse.takeWhile isBlank).reverse.all isBlank = true := by
    rw [List.all_reverse]
    exact List.all_takeWhile
  refine ⟨_, _, hlead, htrail, ?_⟩
  have hcut : trim cs ++ ((trimStart cs).reverse.takeWhile isBlank).reverse = trimStart cs := by
    rw [trim, trimEnd, ← List.reverse_append, List.takeWhile_append_dropWhile, List.reverse_reverse]
  rw [hcut]
  exact (List.takeWhile_append_dropWhile ..).symm

/-- A text of blanks that ends in no blank is empty. -/
theorem eq_nil_of_isBlankText (h : isBlankText cs = true)
    (hlast : cs.getLast?.any isBlank = false) : cs = [] := by
  by_contra hne
  rw [List.getLast?_eq_some_getLast hne, Option.any_some] at hlast
  have hblank := List.all_eq_true.1 h _ (List.getLast_mem hne)
  exact absurd hblank (by simp [hlast])

/-- A text whose ends are no blanks is what is left of it between blanks. -/
theorem trim_between (hu : u.all isBlank = true) (hv : v.all isBlank = true)
    (hhead : cs.head?.any isBlank = false) (hlast : cs.getLast?.any isBlank = false) :
    trim (u ++ (cs ++ v)) = cs := by
  rw [trim_append_left hu, trim_append_right hv, trim_eq_self hhead hlast]

end HookMigration.Text
