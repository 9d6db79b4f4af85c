import HookMigration.Proofs.Text.Edits
import Mathlib.Data.List.Induction

/-!
# The place behind a text

A cursor that has moved over a text knows how many bytes the text has, how many lines it ends, and
how many characters its last line holds (`advanceOver_start`).  Seeking a byte offset gives the same
cursor if the offset is where a beginning of the text ends (`seek?_append`), and a beginning of a
text is told by its number of bytes (`eq_of_byteLength_eq`).  Line and column keep the order of the
bytes (`place_lt_of_byteLength_lt`).
-/

namespace HookMigration.Text

variable {front front' back text : List Char}

/-! ## Bytes -/

@[simp] theorem byteLength_nil : byteLength [] = 0 := rfl

@[simp] theorem byteLength_cons (c : Char) (cs : List Char) :
    byteLength (c :: cs) = c.utf8Size + byteLength cs := rfl

@[simp] theorem byteLength_append (cs ds : List Char) :
    byteLength (cs ++ ds) = byteLength cs + byteLength ds := by
  induction cs with
  | nil => simp
  | cons c rest ih => simp [ih, Nat.add_assoc]

theorem byteLength_pos (h : text ≠ []) : 0 < byteLength text := by
  obtain ⟨c, rest, rfl⟩ := List.exists_cons_of_ne_nil h
  have hsize := c.utf8Size_pos
  simp only [byteLength_cons]
  omega

/-- A longer beginning of a text has more bytes. -/
theorem byteLength_lt_of_length_lt (h : front <+: text) (h' : front' <+: text)
    (hlt : front.length < front'.length) : byteLength front < byteLength front' := by
  obtain ⟨rest, rfl⟩ := List.prefix_of_prefix_length_le h h' (Nat.le_of_lt hlt)
  have hrest : rest ≠ [] := by
    rintro rfl
    simp at hlt
  have hpos := byteLength_pos hrest
  simp only [byteLength_append]
  omega

/-- Beginnings of a text with as many bytes are the same. -/
theorem eq_of_byteLength_eq (h : front <+: text) (h' : front' <+: text)
    (hbytes : byteLength front = byteLength front') : front = front' := by
  rcases Nat.lt_trichotomy front.length front'.length with hlt | heq | hgt
  · exact absurd hbytes (Nat.ne_of_lt (byteLength_lt_of_length_lt h h' hlt))
  · exact (List.prefix_of_prefix_length_le h h' (Nat.le_of_eq heq)).eq_of_length heq
  · exact absurd hbytes.symm (Nat.ne_of_lt (byteLength_lt_of_length_lt h' h hgt))

/-! ## Lines and columns -/

/-- The number of characters behind the last line end of a text. -/
def columnOf (front : List Char) : Nat :=
  (front.reverse.takeWhile (· ≠ '\n')).length

theorem columnOf_concat (front : List Char) (c : Char) :
    columnOf (front ++ [c]) = if c = '\n' then 0 else columnOf front + 1 := by
  simp only [columnOf, List.reverse_append, List.reverse_singleton, List.singleton_append,
    List.takeWhile_cons]
  by_cases hc : c = '\n' <;> simp [hc]

theorem count_concat (front : List Char) (c : Char) :
    (front ++ [c]).count '\n' = if c = '\n' then front.count '\n' + 1 else front.count '\n' := by
  by_cases hc : c = '\n' <;> simp [hc]

/-- Behind a text stands the cursor with its bytes, its lines and its column. -/
theorem advanceOver_start (front : List Char) :
    Cursor.start.advanceOver front = ⟨byteLength front, front.count '\n', columnOf front⟩ := by
  induction front using List.reverseRecOn with
  | nil => rfl
  | append_singleton rest c ih =>
      rw [Cursor.advanceOver_append, ih, columnOf_concat, count_concat]
      simp only [Cursor.advanceOver_cons, Cursor.advanceOver_nil, Cursor.advance,
        byteLength_append, byteLength_cons, byteLength_nil, Nat.add_zero]
      split_ifs <;> rfl

/-- Seeking the bytes of the text ahead moves the cursor over it. -/
theorem seek?_append (cursor : Cursor) (front back : List Char) :
    cursor.seek? (cursor.offset + byteLength front) (front ++ back) =
      some (cursor.advanceOver front) := by
  induction front generalizing cursor with
  | nil => cases back <;> simp [Cursor.seek?]
  | cons c rest ih =>
      have hsize := c.utf8Size_pos
      have hpassed : cursor.offset ≠ cursor.offset + byteLength (c :: rest) := by
        simp only [byteLength_cons]
        omega
      have hrest := ih (cursor.advance c)
      rw [Cursor.offset_advance, Nat.add_assoc] at hrest
      rw [List.cons_append, Cursor.seek?, if_neg hpassed]
      exact hrest

/-- Line and column of the place behind a beginning of a text. -/
theorem lineColumn?_eq_some {source : String} (h : source.toList = front ++ back) :
    lineColumn? source (byteLength front) = some (front.count '\n', columnOf front) := by
  have hseek := seek?_append Cursor.start front back
  have hstart : Cursor.start.offset + byteLength front = byteLength front := Nat.zero_add _
  rw [hstart] at hseek
  rw [lineColumn?, h, hseek, advanceOver_start]
  rfl

/-! ## The order of places -/

/-- What follows on the last line of a text moves the column, and the end of a line starts it anew. -/
theorem columnOf_append_of_not_mem (front : List Char) {more : List Char} (h : '\n' ∉ more) :
    columnOf (front ++ more) = columnOf front + more.length := by
  induction more using List.reverseRecOn with
  | nil => simp
  | append_singleton rest c ih =>
      have hrest : '\n' ∉ rest := by
        intro hmem
        exact h (List.mem_append_left _ hmem)
      have hc : c ≠ '\n' := by
        rintro rfl
        exact h (List.mem_append_right _ List.mem_cons_self)
      rw [← List.append_assoc, columnOf_concat, if_neg hc, ih hrest, List.length_append,
        List.length_singleton]
      omega

/-- A place further on in a text lies on a later line, or further on in the same line. -/
theorem place_lt_of_byteLength_lt (h : front <+: text) (h' : front' <+: text)
    (hlt : byteLength front < byteLength front') :
    front.count '\n' < front'.count '\n' ∨
      front.count '\n' = front'.count '\n' ∧ columnOf front < columnOf front' := by
  have hlength : front.length < front'.length := by
    by_contra hshort
    obtain ⟨more, rfl⟩ := List.prefix_of_prefix_length_le h' h (Nat.le_of_not_lt hshort)
    rw [byteLength_append] at hlt
    omega
  obtain ⟨more, rfl⟩ := List.prefix_of_prefix_length_le h h' (Nat.le_of_lt hlength)
  rw [List.count_append]
  by_cases hline : '\n' ∈ more
  · have hpos := List.count_pos_iff.2 hline
    left
    omega
  · right
    rw [List.count_eq_zero_of_not_mem hline, columnOf_append_of_not_mem front hline]
    rw [List.length_append] at hlength
    omega

end HookMigration.Text
