import HookMigration.Runs
import Mathlib.Data.List.Basic

/-!
# Writing files

To write a file is to replace its bytes: no file or folder comes or goes, and every other file keeps
its bytes (`file?_write`).  So what is read at a place does not depend on writes at other places, and
writes at different places may be exchanged (`write_comm`).

Paths are looked up by what files and folders there are, so a write changes none of what they find
(`find_write`).

A file is a text exactly if its bytes are the encoding of one (`textAt_eq_ok_iff`), and different
texts have different encodings; so to write a text changes a file exactly if it held another text.
-/

namespace HookMigration.FileTree

variable {t : FileTree} {place other : Place} {text : String}

theorem files_write (t : FileTree) (place : Place) (text : String) :
    (t.write place text).files.map Prod.fst = t.files.map Prod.fst := by
  unfold write
  rw [List.map_map]
  refine List.map_congr_left fun file _ => ?_
  simp only [Function.comp_apply]
  split_ifs <;> rfl

theorem file?_write (t : FileTree) (place : Place) (text : String) (other : Place) :
    (t.write place text).file? other =
      if other = place then (t.file? other).map fun _ => text.toUTF8 else t.file? other := by
  unfold file? write
  simp only
  induction t.files with
  | nil => simp
  | cons file rest ih =>
      obtain ⟨key, bytes⟩ := file
      rw [List.map_cons]
      by_cases hkey : other = key
      · subst hkey
        by_cases hplace : other = place
        · simp [hplace]
        · simp [hplace]
      · have hne : (other == key) = false := by simpa using hkey
        have hfirst : (if key = place then (key, text.toUTF8) else (key, bytes)).1 = key := by
          split_ifs <;> rfl
        rw [List.lookup_cons, hfirst, hne, List.lookup_cons, hne]
        exact ih

theorem file?_write_of_ne (h : other ≠ place) : (t.write place text).file? other = t.file? other := by
  rw [file?_write, if_neg h]

@[simp] theorem isFolder_write (t : FileTree) (place : Place) (text : String) (other : Place) :
    (t.write place text).isFolder other = t.isFolder other := by
  have hany : ∀ t : FileTree,
      (t.files.any fun file => other.isPrefixOf file.1 && other != file.1) =
        (t.files.map Prod.fst).any fun file => other.isPrefixOf file && other != file := by
    intro t
    rw [List.any_map]
    rfl
  have hfiles : ((t.write place text).files.any fun file =>
      other.isPrefixOf file.1 && other != file.1) =
        t.files.any fun file => other.isPrefixOf file.1 && other != file.1 := by
    rw [hany, hany, files_write]
  exact congrArg (other.isPrefixOf t.home || t.folders.any (other.isPrefixOf ·) || ·) hfiles

theorem textAt_write_of_ne (h : other ≠ place) :
    (t.write place text).textAt other = t.textAt other := by
  unfold textAt
  rw [file?_write_of_ne h, isFolder_write]

theorem write_comm (t : FileTree) (h : place ≠ other) (text text' : String) :
    (t.write place text).write other text' = (t.write other text').write place text := by
  unfold write
  simp only [List.map_map]
  congr 1
  refine List.map_congr_left fun file _ => ?_
  obtain ⟨key, bytes⟩ := file
  simp only [Function.comp_apply]
  by_cases hplace : key = place
  · have hother : key ≠ other := by
      rintro rfl
      exact h hplace.symm
    simp [hplace, h]
  · by_cases hother : key = other
    · simp [hother, Ne.symm h]
    · simp [hplace, hother]

/-! ## Texts and their bytes -/

theorem toUTF8_injective : Function.Injective String.toUTF8 := by
  intro text text' h
  exact String.toByteArray_inj.1 h

/-- A file is a text exactly if its bytes are the encoding of one. -/
theorem textAt_eq_ok_iff : t.textAt place = .ok text ↔ t.file? place = some text.toUTF8 := by
  unfold textAt
  cases hfile : t.file? place with
  | none => simp
  | some bytes =>
      have hread : String.fromUTF8? bytes = some text ↔ bytes = text.toUTF8 := by
        unfold String.fromUTF8?
        constructor
        · intro h
          split_ifs at h
          rw [← Option.some.inj h]
          rfl
        · rintro rfl
          rw [String.toUTF8_eq_toByteArray, dif_pos text.isValidUTF8]
          rfl
      rw [Option.some.injEq, ← hread]
      simp only
      split
      next text' htext => simp [htext]
      next htext => simp [htext]

theorem textAt_write_self (h : t.isFile place = true) (text : String) :
    (t.write place text).textAt place = .ok text := by
  rw [textAt_eq_ok_iff, file?_write, if_pos rfl]
  obtain ⟨bytes, hbytes⟩ := Option.isSome_iff_exists.1 h
  rw [hbytes]
  rfl

/-! ## Paths -/

@[simp] theorem isFile_write (t : FileTree) (place : Place) (text : String) (other : Place) :
    (t.write place text).isFile other = t.isFile other := by
  unfold isFile
  rw [file?_write]
  split_ifs <;> simp

@[simp] theorem walk_write (t : FileTree) (place : Place) (text : String) (start : Place)
    (pieces : List String) : (t.write place text).walk start pieces = t.walk start pieces := by
  induction pieces generalizing start with
  | nil => rfl
  | cons piece rest ih => simp only [walk, isFolder_write, blockedAt, isFile_write, ih]

@[simp] theorem origin_write (t : FileTree) (place : Place) (text : String) (absolute : Bool) :
    (t.write place text).origin absolute = t.origin absolute := rfl

@[simp] theorem find_write (t : FileTree) (place : Place) (text path : String) :
    (t.write place text).find path = t.find path := by
  simp only [find, walk_write, existsAt, isFile_write, isFolder_write, origin_write]
  rfl

@[simp] theorem holds_write (t : FileTree) (place : Place) (text path : String) :
    (t.write place text).holds path = t.holds path := by
  simp only [holds, find_write]

theorem readText_of_find {path : String} (h : t.find path = .ok place) :
    t.readText path = t.textAt place := by
  unfold readText
  rw [h]
  rfl

end HookMigration.FileTree
