import HookMigration.Proofs.Records.Edits
import HookMigration.Text.LineIndex

/-!
# The places that a line index finds

A place in a text is told by a line and by the characters in front of it on this line (`StandsAt`).
Every character boundary stands at one place, and the index of a text finds the place of exactly the
boundaries (`LineIndex.position?_correct`).

The table of an index holds, for each line, the bytes of all lines before it.  So it increases, and
the entries up to an offset are one for each line end in front of the offset, and one for the first
line: the last of them is where the line of the offset begins, whether the search hits it or not.
-/

namespace HookMigration

namespace Text

variable {text front back before inLine : List Char} {bytes offset line column : Nat}

/-- A text behind which a line begins. -/
def BeginsLine (before : List Char) : Prop :=
  before = [] ∨ ∃ lines, before = lines ++ ['\n']

/-- A byte offset of a text stands on a line, both counted from zero, behind a number of characters
of this line. -/
def StandsAt (text : List Char) (offset line column : Nat) : Prop :=
  ∃ before inLine back, text = before ++ (inLine ++ back) ∧ BeginsLine before ∧ '\n' ∉ inLine ∧
    byteLength (before ++ inLine) = offset ∧ before.count '\n' = line ∧ inLine.length = column

/-! ## Bytes -/

theorem byteLength_toList (s : String) : byteLength s.toList = s.utf8ByteSize := by
  have h : ∀ cs : List Char, byteLength cs = (String.ofList cs).utf8ByteSize := by
    intro cs
    induction cs with
    | nil => simp
    | cons c rest ih => simp [ih, String.ofList_cons]
  rw [h, String.ofList_toList]

/-- An offset is a character boundary exactly if a beginning of the text has as many bytes. -/
theorem isValid_iff {s : String} :
    (⟨offset⟩ : String.Pos.Raw).IsValid s ↔
      ∃ front back, s.toList = front ++ back ∧ byteLength front = offset := by
  rw [String.Pos.Raw.isValid_iff_exists_append]
  constructor
  · rintro ⟨s₁, s₂, rfl, hoffset⟩
    refine ⟨s₁.toList, s₂.toList, String.toList_append, ?_⟩
    rw [byteLength_toList]
    exact (congrArg String.Pos.Raw.byteIdx hoffset).symm
  · rintro ⟨front, back, htext, rfl⟩
    refine ⟨String.ofList front, String.ofList back, ?_, ?_⟩
    · rw [← String.toList_inj, htext, String.toList_append, String.toList_ofList,
        String.toList_ofList]
    · have hbytes := byteLength_toList (String.ofList front)
      rw [String.toList_ofList] at hbytes
      rw [hbytes]
      rfl

theorem splitBytes?_byteLength (front back : List Char) :
    splitBytes? (byteLength front) (front ++ back) = some (front, back) := by
  induction front with
  | nil => cases back <;> rfl
  | cons c rest ih =>
      have hsize := c.utf8Size_pos
      obtain ⟨bytes, hbytes⟩ : ∃ bytes, byteLength (c :: rest) = bytes + 1 :=
        ⟨byteLength (c :: rest) - 1, by simp only [byteLength_cons]; omega⟩
      have hrest : bytes + 1 - c.utf8Size = byteLength rest := by
        rw [← hbytes, byteLength_cons, Nat.add_sub_cancel_left]
      have hle : c.utf8Size ≤ bytes + 1 := by
        rw [← hbytes, byteLength_cons]
        exact Nat.le_add_right _ _
      rw [hbytes, List.cons_append, splitBytes?, if_pos hle, hrest, ih, Option.map_some]

theorem append_of_splitBytes? (h : splitBytes? bytes text = some (front, back)) :
    text = front ++ back ∧ byteLength front = bytes := by
  induction text generalizing bytes front with
  | nil =>
      cases bytes with
      | zero =>
          obtain ⟨rfl, rfl⟩ : [] = front ∧ [] = back := by simpa [splitBytes?] using h
          exact ⟨rfl, rfl⟩
      | succ bytes => simp [splitBytes?] at h
  | cons c rest ih =>
      cases bytes with
      | zero =>
          obtain ⟨rfl, rfl⟩ : [] = front ∧ c :: rest = back := by simpa [splitBytes?] using h
          exact ⟨rfl, rfl⟩
      | succ bytes =>
          rw [splitBytes?] at h
          split_ifs at h with hle
          obtain ⟨⟨others, left⟩, hsplit, hparts⟩ := Option.map_eq_some_iff.1 h
          obtain ⟨rfl, rfl⟩ : c :: others = front ∧ left = back := by simpa using hparts
          obtain ⟨rfl, hothers⟩ := ih hsplit
          refine ⟨rfl, ?_⟩
          rw [byteLength_cons, hothers]
          omega

/-! ## The table of the lines -/

theorem lineStartsFrom_append (offset : Nat) (front back : List Char) :
    lineStartsFrom offset (front ++ back) =
      lineStartsFrom offset front ++ lineStartsFrom (offset + byteLength front) back := by
  induction front generalizing offset with
  | nil => rfl
  | cons c rest ih =>
      rw [List.cons_append, lineStartsFrom, lineStartsFrom, ih, byteLength_cons, Nat.add_assoc]
      split_ifs <;> rfl

theorem length_lineStartsFrom (offset : Nat) (cs : List Char) :
    (lineStartsFrom offset cs).length = cs.count '\n' := by
  induction cs generalizing offset with
  | nil => rfl
  | cons c rest ih =>
      rw [lineStartsFrom]
      split_ifs with hc
      · rw [List.length_cons, ih, hc, List.count_cons_self]
      · rw [ih, List.count_cons_of_ne hc]

theorem bounds_of_mem_lineStartsFrom {n : Nat} {cs : List Char}
    (h : n ∈ lineStartsFrom offset cs) : offset < n ∧ n ≤ offset + byteLength cs := by
  induction cs generalizing offset with
  | nil => simp [lineStartsFrom] at h
  | cons c rest ih =>
      have hsize := c.utf8Size_pos
      rw [byteLength_cons]
      rw [lineStartsFrom] at h
      split_ifs at h with hc
      · rcases List.mem_cons.1 h with rfl | h
        · omega
        · have hbounds := ih h
          omega
      · have hbounds := ih h
        omega

/-- The table is made of the lines before a place, the line of the place, and the lines behind. -/
theorem starts_ofText (hbegins : BeginsLine before) (hline : '\n' ∉ inLine) (back : List Char) :
    ∃ earlier later,
      (LineIndex.ofText (before ++ (inLine ++ back))).starts =
        earlier ++ byteLength before :: later ∧
      earlier.length = before.count '\n' ∧ (∀ n ∈ earlier, n < byteLength before) ∧
      ∀ n ∈ later, byteLength (before ++ inLine) < n := by
  have hnone : ∀ offset, lineStartsFrom offset inLine = [] := by
    intro offset
    rw [← List.length_eq_zero_iff, length_lineStartsFrom, List.count_eq_zero]
    exact hline
  have hlater : ∀ n ∈ lineStartsFrom (byteLength before + byteLength inLine) back,
      byteLength (before ++ inLine) < n := by
    intro n hn
    rw [byteLength_append]
    exact (bounds_of_mem_lineStartsFrom hn).1
  rcases hbegins with rfl | ⟨lines, rfl⟩
  · refine ⟨[], _, ?_, rfl, by simp, hlater⟩
    rw [LineIndex.ofText, List.nil_append, List.nil_append, lineStartsFrom_append, hnone]
    simp
  · -- the line end behind the other lines makes the entry
    refine ⟨0 :: lineStartsFrom 0 lines, _, ?_, ?_, ?_, hlater⟩
    · rw [LineIndex.ofText, lineStartsFrom_append, lineStartsFrom_append, lineStartsFrom_append,
        hnone, List.nil_append, Nat.zero_add, Nat.zero_add, byteLength_append, lineStartsFrom,
        if_pos rfl, lineStartsFrom, byteLength_cons, byteLength_nil, Nat.add_zero]
      simp
    · rw [List.length_cons, length_lineStartsFrom, List.count_append, List.count_singleton_self]
    · intro n hn
      have hpos : 0 < byteLength ['\n'] := byteLength_pos (List.cons_ne_nil _ _)
      rw [byteLength_append]
      rcases List.mem_cons.1 hn with rfl | hn
      · omega
      · have hbounds := bounds_of_mem_lineStartsFrom hn
        omega

/-- The search finds the last line that begins up to the offset. -/
theorem lineAt_eq {index : LineIndex} {earlier later : List Nat} {start : Nat}
    (hstarts : index.starts = earlier ++ start :: later) (hearlier : ∀ n ∈ earlier, n < start)
    (hstart : start ≤ offset) (hlater : ∀ n ∈ later, offset < n) :
    index.lineAt offset = earlier.length := by
  rw [LineIndex.lineAt, searchTable, hstarts]
  rcases Nat.eq_or_lt_of_le hstart with rfl | hlt
  · -- the offset is the beginning of the line
    have hfound : (earlier ++ start :: later).idxOf? start = some earlier.length := by
      rw [List.idxOf?_eq_some_iff]
      refine ⟨by simp, by simp, fun i hi heq => ?_⟩
      rw [List.getElem_append_left hi] at heq
      exact Nat.ne_of_lt (hearlier _ (List.getElem_mem hi)) heq
    rw [hfound]
  · have hnone : (earlier ++ start :: later).idxOf? offset = none := by
      rw [List.idxOf?_eq_none_iff, List.mem_append, List.mem_cons]
      rintro (hmem | rfl | hmem)
      · exact absurd (hearlier _ hmem) (by omega)
      · exact Nat.lt_irrefl _ hlt
      · exact Nat.lt_irrefl _ (hlater _ hmem)
    have hbefore : earlier.countP (· < offset) = earlier.length := by
      rw [List.countP_eq_length]
      intro n hn
      simpa using (hearlier n hn).trans hlt
    have hbehind : later.countP (· < offset) = 0 := by
      rw [List.countP_eq_zero]
      intro n hn
      simpa using Nat.le_of_lt (hlater n hn)
    have hcount : (earlier ++ start :: later).countP (· < offset) = earlier.length + 1 := by
      simp [List.countP_append, hbefore, hbehind, hlt]
    rw [hnone, hcount]
    rfl

/-! ## Places -/

/-- A beginning of a text is whole lines and a beginning of a line. -/
theorem exists_line (front : List Char) :
    ∃ before inLine, front = before ++ inLine ∧ BeginsLine before ∧ '\n' ∉ inLine := by
  induction front using List.reverseRecOn with
  | nil => exact ⟨[], [], rfl, .inl rfl, by simp⟩
  | append_singleton rest c ih =>
      by_cases hc : c = '\n'
      · exact ⟨rest ++ [c], [], by simp, .inr ⟨rest, by rw [hc]⟩, by simp⟩
      · obtain ⟨before, inLine, rfl, hbegins, hline⟩ := ih
        exact ⟨before, inLine ++ [c], by simp, hbegins, by simp [hline, Ne.symm hc]⟩

theorem columnOf_append_line (hbegins : BeginsLine before) (hline : '\n' ∉ inLine) :
    columnOf (before ++ inLine) = inLine.length := by
  have hzero : columnOf before = 0 := by
    rcases hbegins with rfl | ⟨lines, rfl⟩
    · rfl
    · rw [columnOf_concat, if_pos rfl]
  rw [columnOf_append_of_not_mem before hline, hzero, Nat.zero_add]

theorem count_append_line (hline : '\n' ∉ inLine) :
    (before ++ inLine).count '\n' = before.count '\n' := by
  rw [List.count_append, List.count_eq_zero_of_not_mem hline, Nat.add_zero]

theorem standsAt_behind (h : text = front ++ back) :
    StandsAt text (byteLength front) (front.count '\n') (columnOf front) := by
  obtain ⟨before, inLine, rfl, hbegins, hline⟩ := exists_line front
  exact ⟨before, inLine, back, by rw [h, List.append_assoc], hbegins, hline, rfl,
    (count_append_line hline).symm, (columnOf_append_line hbegins hline).symm⟩

/-- What stands at a place is a boundary, and the text in front of it tells the place. -/
theorem StandsAt.exists_front (h : StandsAt text offset line column) :
    ∃ front back, text = front ++ back ∧ byteLength front = offset ∧ front.count '\n' = line ∧
      columnOf front = column := by
  obtain ⟨before, inLine, back, rfl, hbegins, hline, rfl, rfl, rfl⟩ := h
  exact ⟨before ++ inLine, back, by rw [List.append_assoc], rfl, count_append_line hline,
    columnOf_append_line hbegins hline⟩

namespace LineIndex

theorem slice?_eq (index : LineIndex) (h : index.text = before ++ (inLine ++ back)) :
    index.slice? (byteLength before) (byteLength (before ++ inLine)) = some inLine := by
  have hbytes : byteLength (before ++ inLine) - byteLength before = byteLength inLine := by
    rw [byteLength_append, Nat.add_sub_cancel_left]
  have hle : byteLength before ≤ byteLength (before ++ inLine) := by
    rw [byteLength_append]
    exact Nat.le_add_right _ _
  rw [slice?, if_pos hle, h, splitBytes?_byteLength, hbytes]
  simp only [Option.bind_eq_bind, Option.bind_some, splitBytes?_byteLength]
  rfl

theorem exists_of_slice? {index : LineIndex} {start : Nat} {inside : List Char}
    (h : index.slice? start offset = some inside) :
    ∃ front back, index.text = front ++ back ∧ byteLength front = offset := by
  rw [slice?] at h
  split_ifs at h with hle
  obtain ⟨⟨front, back⟩, hfront, h⟩ := Option.bind_eq_some_iff.1 h
  obtain ⟨⟨inLine, rest⟩, hinLine, h⟩ := Option.bind_eq_some_iff.1 h
  obtain ⟨htext, hstart⟩ := append_of_splitBytes? hfront
  obtain ⟨rfl, hbytes⟩ := append_of_splitBytes? hinLine
  refine ⟨front ++ inLine, rest, by rw [htext, List.append_assoc], ?_⟩
  rw [byteLength_append, hstart, hbytes]
  omega

theorem position?_of_standsAt (h : StandsAt text offset line column) :
    (ofText text).position? offset = some (line, column) := by
  obtain ⟨before, inLine, back, rfl, hbegins, hline, rfl, rfl, rfl⟩ := h
  obtain ⟨earlier, later, hstarts, hlength, hearlier, hlater⟩ := starts_ofText hbegins hline back
  have hle : byteLength before ≤ byteLength (before ++ inLine) := by
    rw [byteLength_append]
    exact Nat.le_add_right _ _
  have hlineAt := lineAt_eq hstarts hearlier hle hlater
  have hstart : (ofText (before ++ (inLine ++ back))).starts[earlier.length]? =
      some (byteLength before) := by
    rw [hstarts]
    simp
  rw [position?, hlineAt]
  simp only [hstart, Option.bind_eq_bind, Option.bind_some]
  rw [slice?_eq (ofText (before ++ (inLine ++ back))) rfl, Option.bind_some, hlength]
  rfl

theorem position?_eq_some_iff :
    (ofText text).position? offset = some (line, column) ↔ StandsAt text offset line column := by
  refine ⟨fun h => ?_, position?_of_standsAt⟩
  have hposition := h
  rw [position?] at hposition
  obtain ⟨start, -, hposition⟩ := Option.bind_eq_some_iff.1 hposition
  obtain ⟨inside, hinside, -⟩ := Option.bind_eq_some_iff.1 hposition
  obtain ⟨front, back, htext, rfl⟩ := exists_of_slice? hinside
  have hplace : StandsAt text _ _ _ := standsAt_behind htext
  rw [position?_of_standsAt hplace] at h
  obtain ⟨rfl, rfl⟩ : front.count '\n' = line ∧ columnOf front = column := by simpa using h
  exact hplace

end LineIndex

/-! ## The way from the beginning -/

theorem exists_of_seek? {cursor found : Cursor} (h : cursor.seek? offset text = some found) :
    ∃ front back, text = front ++ back ∧ cursor.offset + byteLength front = offset := by
  induction text generalizing cursor with
  | nil =>
      rw [Cursor.seek?] at h
      split_ifs at h with hoffset
      exact ⟨[], [], rfl, hoffset⟩
  | cons c rest ih =>
      rw [Cursor.seek?] at h
      split_ifs at h with hoffset
      · exact ⟨[], c :: rest, rfl, hoffset⟩
      · obtain ⟨front, back, rfl, hfront⟩ := ih h
        rw [Cursor.offset_advance, Nat.add_assoc] at hfront
        exact ⟨c :: front, back, rfl, hfront⟩

theorem lineColumn?_eq_some_iff {source : String} :
    lineColumn? source offset = some (line, column) ↔
      StandsAt source.toList offset line column := by
  constructor
  · intro h
    have hfound := h
    obtain ⟨cursor, hseek, -⟩ := Option.map_eq_some_iff.1 hfound
    obtain ⟨front, back, htext, hoffset⟩ := exists_of_seek? hseek
    obtain rfl : byteLength front = offset := by rw [← hoffset]; exact (Nat.zero_add _).symm
    rw [lineColumn?_eq_some htext] at h
    obtain ⟨rfl, rfl⟩ : front.count '\n' = line ∧ columnOf front = column := by simpa using h
    exact standsAt_behind htext
  · intro h
    obtain ⟨front, back, htext, rfl, rfl, rfl⟩ := h.exists_front
    exact lineColumn?_eq_some htext

/-- The index finds the places that a cursor finds on its way. -/
theorem LineIndex.position?_eq_lineColumn? (source : String) (offset : Nat) :
    (ofText source.toList).position? offset = lineColumn? source offset :=
  Option.ext fun _ => position?_eq_some_iff.trans lineColumn?_eq_some_iff.symm

theorem LineIndex.isSome_position?_iff {source : String} :
    ((ofText source.toList).position? offset).isSome = true ↔
      offset ≤ source.utf8ByteSize ∧ (⟨offset⟩ : String.Pos.Raw).IsValid source := by
  constructor
  · intro h
    obtain ⟨⟨line, column⟩, hposition⟩ := Option.isSome_iff_exists.1 h
    obtain ⟨front, back, htext, hoffset, -⟩ := (position?_eq_some_iff.1 hposition).exists_front
    have hvalid := isValid_iff.2 ⟨front, back, htext, hoffset⟩
    exact ⟨hvalid.le_utf8ByteSize, hvalid⟩
  · rintro ⟨-, hvalid⟩
    obtain ⟨front, back, htext, rfl⟩ := isValid_iff.1 hvalid
    rw [position?_of_standsAt (standsAt_behind htext)]
    rfl

theorem StandsAt.lex {offset' line' column' : Nat} (h : StandsAt text offset line column)
    (h' : StandsAt text offset' line' column') (hlt : offset < offset') :
    Prod.Lex (· < ·) (· < ·) (line, column) (line', column') := by
  obtain ⟨front, back, htext, rfl, rfl, rfl⟩ := h.exists_front
  obtain ⟨front', back', htext', rfl, rfl, rfl⟩ := h'.exists_front
  rw [Prod.lex_def]
  exact place_lt_of_byteLength_lt ⟨back, htext.symm⟩ ⟨back', htext'.symm⟩ hlt

end Text

open Text Pattern

theorem Rule.standsAt_of_mem_records {r : Rule} {file : Option String} {text : String}
    {record : Record} (h : record ∈ r.records file text) :
    ∃ span, record.span = some span ∧
      StandsAt text.toList span.start record.location.line record.location.column ∧
      ∃ line column, StandsAt text.toList span.stop line column := by
  obtain ⟨before, m, rest, hstretches, rfl⟩ := mem_records_iff.1 h
  obtain ⟨-, htext, -⟩ := matchAhead?_of_stretches hstretches
  have hshows := r.shows_record file (scanned before) m
  have hend := htext
  rw [← List.append_assoc] at hend
  refine ⟨_, hshows.span, ?_, _, _, standsAt_behind hend⟩
  rw [hshows.location]
  exact standsAt_behind htext

namespace Text.LineIndex

/-- The index of a text finds places for the character boundaries of the text and for no other
offset.

* The place of a boundary is the number of line ends in front of it, and the number of characters
  between the last of them, or the beginning of the text, and the boundary.
* Of two boundaries the one further on has the greater place, by lines and then by columns.
* The places are those of the cursor that scans the text, so the index finds where a match begins,
  as its record says, and where it ends. -/
theorem position?_correct (text : String) :
    (∀ offset, ((ofText text.toList).position? offset).isSome = true ↔
      offset ≤ text.utf8ByteSize ∧ (⟨offset⟩ : String.Pos.Raw).IsValid text) ∧
    (∀ offset line column, (ofText text.toList).position? offset = some (line, column) ↔
      StandsAt text.toList offset line column) ∧
    (∀ a b p q, a < b → (ofText text.toList).position? a = some p →
      (ofText text.toList).position? b = some q → Prod.Lex (· < ·) (· < ·) p q) ∧
    (∀ offset, (ofText text.toList).position? offset = lineColumn? text offset) ∧
    ∀ (r : Rule) (file : Option String), ∀ record ∈ r.records file text, ∃ span,
      record.span = some span ∧
      (ofText text.toList).position? span.start =
        some (record.location.line, record.location.column) ∧
      ((ofText text.toList).position? span.stop).isSome = true := by
  refine ⟨fun _ => isSome_position?_iff, fun _ _ _ => position?_eq_some_iff, ?_,
    position?_eq_lineColumn? text, ?_⟩
  · rintro a b ⟨line, column⟩ ⟨line', column'⟩ hlt ha hb
    exact (position?_eq_some_iff.1 ha).lex (position?_eq_some_iff.1 hb) hlt
  · intro r file record hrecord
    obtain ⟨span, hspan, hstart, line, column, hstop⟩ := Rule.standsAt_of_mem_records hrecord
    refine ⟨span, hspan, position?_of_standsAt hstart, ?_⟩
    rw [position?_of_standsAt hstop]
    rfl

/-- No place inside of a character of two bytes, and places at the end of its line and behind. -/
theorem position?_correct_two_bytes :
    (ofText "ab\ncdé\nf".toList).position? 6 = none ∧
      (ofText "ab\ncdé\nf".toList).position? 7 = some (1, 3) ∧
      (ofText "ab\ncdé\nf".toList).position? 8 = some (2, 0) ∧
      Prod.Lex (· < ·) (· < ·) (1, 3) (2, 0) := by
  have hend : (ofText "ab\ncdé\nf".toList).position? 7 = some (1, 3) := by decide +kernel
  have hbehind : (ofText "ab\ncdé\nf".toList).position? 8 = some (2, 0) := by decide +kernel
  exact ⟨by decide +kernel, hend, hbehind,
    (position?_correct "ab\ncdé\nf").2.2.1 7 8 _ _ (by decide) hend hbehind⟩

end Text.LineIndex

end HookMigration
