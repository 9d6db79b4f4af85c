import HookMigration.LineDiff
import Mathlib.Data.List.Infix

/-!
# Reading a line diff

Each line of a diff begins with a tag of two characters, and what stands behind the tag is a line of
the old text, of the new one, or of both.  A line of a text holds no `'\n'`, whatever else it holds.
So the lines of a diff can be told apart again, and each is read by its first two characters; a line
that looks like a tagged one stands behind a tag itself.

`Shows` says how the lines of a diff belong to the two texts.  A pair of lines adds one entry or two
(`Shows.keep`, `Shows.change`), and by these two steps a diff of any length shows its texts
(`shows_entriesOf`).
-/

namespace HookMigration

namespace Text

theorem splitAt_append_cons {separator : Char} {piece : List Char} (h : separator ∉ piece)
    (rest : List Char) :
    splitAt separator (piece ++ separator :: rest) = piece :: splitAt separator rest := by
  induction piece with
  | nil => rw [List.nil_append, splitAt, if_pos rfl]
  | cons c others ih =>
      rw [List.mem_cons, not_or] at h
      rw [List.cons_append, splitAt, if_neg (Ne.symm h.1), ih h.2]

/-- Terminated pieces are found again, with nothing behind the last end. -/
theorem splitAt_flatMap {separator : Char} {pieces : List (List Char)}
    (h : ∀ piece ∈ pieces, separator ∉ piece) :
    splitAt separator (pieces.flatMap (· ++ [separator])) = pieces ++ [[]] := by
  induction pieces with
  | nil => rfl
  | cons piece rest ih =>
      rw [List.flatMap_cons, List.append_assoc, List.singleton_append,
        splitAt_append_cons (h piece List.mem_cons_self),
        ih fun other hother => h other (List.mem_cons_of_mem piece hother), List.cons_append]

theorem not_mem_dropReturn {line : List Char} (h : '\n' ∉ line) : '\n' ∉ dropReturn line := by
  unfold dropReturn
  split_ifs
  · exact fun hmem => h (List.mem_of_mem_dropLast hmem)
  · exact h

theorem not_mem_of_mem_linesAfter {line current cs : List Char} (hcurrent : '\n' ∉ current)
    (h : line ∈ linesAfter current cs) : '\n' ∉ line := by
  induction cs generalizing current with
  | nil =>
      rw [linesAfter] at h
      split_ifs at h
      · simp at h
      · obtain rfl := List.mem_singleton.1 h
        simpa using hcurrent
  | cons c rest ih =>
      rw [linesAfter] at h
      split_ifs at h with hc
      · rcases List.mem_cons.1 h with rfl | h
        · exact not_mem_dropReturn (by simpa using hcurrent)
        · exact ih (by simp) h
      · exact ih (by simp [Ne.symm hc, hcurrent]) h

/-- A line does not reach beyond its end. -/
theorem not_mem_of_mem_lines {line cs : List Char} (h : line ∈ lines cs) : '\n' ∉ line :=
  not_mem_of_mem_linesAfter (by simp) h

end Text

namespace LineDiff

open Text

/-! ## The reader -/

/-- What a line of a diff says of the line behind its tag. -/
inductive Tag
  | kept
  | removed
  | added
  deriving DecidableEq, Repr

/-- A tag as it stands in a diff. -/
def Tag.text : Tag → List Char
  | .kept => [' ', ' ']
  | .removed => ['-', ' ']
  | .added => ['+', ' ']

/-- A line of a diff. -/
structure Entry where
  tag : Tag
  line : List Char
  deriving DecidableEq, Repr

variable {entries : List Entry} {old new : List (List Char)} {line line' : List Char}

/-- A line of a diff by its first two characters. -/
def readEntry? : List Char → Option Entry
  | ' ' :: ' ' :: line => some ⟨.kept, line⟩
  | '-' :: ' ' :: line => some ⟨.removed, line⟩
  | '+' :: ' ' :: line => some ⟨.added, line⟩
  | _ => none

/-- The lines of a text each of which ends in `'\n'`. -/
def terminatedLines? (cs : List Char) : Option (List (List Char)) :=
  if (splitAt '\n' cs).getLast? = some [] then some (splitAt '\n' cs).dropLast else none

/-- The lines of a diff; there are none if a line has no tag or no end. -/
def read? (diff : String) : Option (List Entry) :=
  (terminatedLines? diff.toList).bind fun lines => lines.mapM readEntry?

/-! ## What a diff shows -/

/-- How the lines of a diff belong to two texts of equally many lines. -/
structure Shows (entries : List Entry) (old new : List (List Char)) : Prop where
  /-- What is not added is the old text. -/
  old_eq : (entries.filter (·.tag ≠ .added)).map (·.line) = old
  /-- What is not removed is the new text. -/
  new_eq : (entries.filter (·.tag ≠ .removed)).map (·.line) = new
  /-- Behind a line that was removed stands the one that came in its place. -/
  replaced : ∀ before line after, entries = before ++ ⟨.removed, line⟩ :: after →
    ∃ line' others, after = ⟨.added, line'⟩ :: others ∧
      (old.zip new)[before.countP (·.tag ≠ .added)]? = some (line, line')
  /-- A line is kept where the texts agree, and is removed where they do not. -/
  tags_eq : (entries.filter (·.tag ≠ .added)).map (·.tag) =
    List.zipWith (fun line line' => if line = line' then .kept else .removed) old new

theorem Shows.nil : Shows [] [] [] where
  old_eq := rfl
  new_eq := rfl
  replaced := by simp
  tags_eq := rfl

/-- One more line that both texts have. -/
theorem Shows.keep (h : Shows entries old new) (line : List Char) :
    Shows (⟨.kept, line⟩ :: entries) (line :: old) (line :: new) where
  old_eq := by simpa using h.old_eq
  new_eq := by simpa using h.new_eq
  replaced := by
    intro before removed after hentries
    rcases before with _ | ⟨first, before⟩
    · simp at hentries
    · simp only [List.cons_append, List.cons.injEq] at hentries
      obtain ⟨rfl, hentries⟩ := hentries
      obtain ⟨added, others, hafter, hpair⟩ := h.replaced before removed after hentries
      exact ⟨added, others, hafter, by simpa using hpair⟩
  tags_eq := by simpa using h.tags_eq

/-- One more line that changed. -/
theorem Shows.change (h : Shows entries old new) (hne : line ≠ line') :
    Shows (⟨.removed, line⟩ :: ⟨.added, line'⟩ :: entries) (line :: old) (line' :: new) where
  old_eq := by simpa using h.old_eq
  new_eq := by simpa using h.new_eq
  replaced := by
    intro before removed after hentries
    rcases before with _ | ⟨first, _ | ⟨second, before⟩⟩
    · obtain ⟨rfl, rfl⟩ : line = removed ∧ ⟨.added, line'⟩ :: entries = after := by
        simpa using hentries
      exact ⟨line', entries, rfl, rfl⟩
    · simp at hentries
    · simp only [List.cons_append, List.cons.injEq] at hentries
      obtain ⟨rfl, rfl, hentries⟩ := hentries
      obtain ⟨added, others, hafter, hpair⟩ := h.replaced before removed after hentries
      exact ⟨added, others, hafter, by simpa using hpair⟩
  tags_eq := by simpa [hne] using h.tags_eq

/-- The entries of the diff of two texts. -/
def entriesOf : List (List Char) → List (List Char) → List Entry
  | line :: old, line' :: new =>
    if line = line' then ⟨.kept, line⟩ :: entriesOf old new
    else ⟨.removed, line⟩ :: ⟨.added, line'⟩ :: entriesOf old new
  | _, _ => []

theorem shows_entriesOf (h : old.length = new.length) : Shows (entriesOf old new) old new := by
  induction old generalizing new with
  | nil =>
      obtain rfl := List.length_eq_zero_iff.1 h.symm
      exact Shows.nil
  | cons line rest ih =>
      obtain ⟨line', others, rfl⟩ := List.exists_cons_of_length_eq_add_one h.symm
      have hrest : Shows (entriesOf rest others) rest others := ih (by simpa using h)
      rw [entriesOf]
      split_ifs with heq
      · subst heq
        exact hrest.keep line
      · exact hrest.change heq

/-! ## Reading a diff -/

/-- An entry as it stands in a diff, without its end. -/
def Entry.text (e : Entry) : List Char :=
  e.tag.text ++ e.line

theorem readEntry?_text (e : Entry) : readEntry? e.text = some e := by
  obtain ⟨tag, line⟩ := e
  cases tag <;> rfl

theorem mem_of_mem_entriesOf {e : Entry} (h : e ∈ entriesOf old new) :
    e.line ∈ old ∨ e.line ∈ new := by
  induction old generalizing new with
  | nil => simp [entriesOf] at h
  | cons line rest ih =>
      rcases new with _ | ⟨line', others⟩
      · simp [entriesOf] at h
      · rw [entriesOf] at h
        split_ifs at h
        · rcases List.mem_cons.1 h with rfl | h
          · exact .inl List.mem_cons_self
          · exact (ih h).imp (List.mem_cons_of_mem _) (List.mem_cons_of_mem _)
        · rcases List.mem_cons.1 h with rfl | h
          · exact .inl List.mem_cons_self
          · rcases List.mem_cons.1 h with rfl | h
            · exact .inr List.mem_cons_self
            · exact (ih h).imp (List.mem_cons_of_mem _) (List.mem_cons_of_mem _)

/-- A diff is written entry by entry. -/
theorem pairs_eq (old new : List (List Char)) :
    pairs old new = ((entriesOf old new).map Entry.text).flatMap (· ++ ['\n']) := by
  induction old generalizing new with
  | nil => simp [pairs, entriesOf]
  | cons line rest ih =>
      rcases new with _ | ⟨line', others⟩
      · simp [pairs, entriesOf]
      · rw [pairs, ih, entriesOf, pairLines]
        split_ifs with heq
        · simp [Entry.text, Tag.text]
        · simp [Entry.text, Tag.text]

theorem terminatedLines?_pairs (hold : ∀ line ∈ old, '\n' ∉ line)
    (hnew : ∀ line ∈ new, '\n' ∉ line) :
    terminatedLines? (pairs old new) = some ((entriesOf old new).map Entry.text) := by
  have hends : ∀ line ∈ (entriesOf old new).map Entry.text, '\n' ∉ line := by
    intro line hline
    obtain ⟨e, he, rfl⟩ := List.mem_map.1 hline
    have htag : '\n' ∉ e.tag.text := by cases e.tag <;> decide
    have hshown : '\n' ∉ e.line := (mem_of_mem_entriesOf he).elim (hold _) (hnew _)
    simp [Entry.text, htag, hshown]
  rw [terminatedLines?, pairs_eq, splitAt_flatMap hends]
  simp

theorem mapM_readEntry? (es : List Entry) : (es.map Entry.text).mapM readEntry? = some es := by
  induction es with
  | nil => rfl
  | cons e rest ih =>
      rw [List.map_cons, List.mapM_cons, readEntry?_text, ih]
      rfl

/-- The diff of two texts of equally many lines is read line by line. -/
theorem read?_ofTexts {old new : String}
    (h : (lines old.toList).length = (lines new.toList).length) :
    read? (ofTexts old new) = some (entriesOf (lines old.toList) (lines new.toList)) := by
  rw [read?, ofTexts, String.toList_ofList, if_pos h,
    terminatedLines?_pairs (fun _ => not_mem_of_mem_lines) (fun _ => not_mem_of_mem_lines),
    Option.bind_some, mapM_readEntry?]

/-- Every two texts have a diff.  If they have equally many lines, it is read back as entries that
show both texts; if they have not, both texts stand in it in full. -/
theorem diff_read_back (old new : String) :
    ∃ diff, ofTexts? (some old) (some new) = some diff ∧
      ((lines old.toList).length = (lines new.toList).length →
        ∃ entries, read? diff = some entries ∧
          Shows entries (lines old.toList) (lines new.toList)) ∧
      ((lines old.toList).length ≠ (lines new.toList).length →
        ∃ front middle : String, diff = front ++ new ++ middle ++ old) := by
  refine ⟨ofTexts old new, rfl, ?_, ?_⟩
  · intro hlength
    exact ⟨_, read?_ofTexts hlength, shows_entriesOf hlength⟩
  · intro hlength
    have hblocks : ofTexts old new = String.ofList (blocks old.toList new.toList) := by
      unfold ofTexts
      exact congrArg String.ofList (if_neg hlength)
    have hjoin : ∀ front middle : String, String.ofList (front.toList ++ new.toList ++
        middle.toList ++ old.toList) = front ++ new ++ middle ++ old := by
      intro front middle
      simp [String.append_assoc]
    exact ⟨_, _, hblocks.trans (hjoin _ _)⟩

/-- Lines that look like tagged ones, with two kinds of line ends. -/
theorem diff_read_back_tags :
    (lines "- a\r\n\n+ b".toList).length = (lines "- a\n  \n+ b\n".toList).length ∧
      ∃ entries, read? (ofTexts "- a\r\n\n+ b" "- a\n  \n+ b\n") = some entries ∧
        Shows entries (lines "- a\r\n\n+ b".toList) (lines "- a\n  \n+ b\n".toList) := by
  have hlength : (lines "- a\r\n\n+ b".toList).length =
      (lines "- a\n  \n+ b\n".toList).length := by
    decide +kernel
  obtain ⟨diff, hdiff, hsame, -⟩ := diff_read_back "- a\r\n\n+ b" "- a\n  \n+ b\n"
  obtain rfl : ofTexts "- a\r\n\n+ b" "- a\n  \n+ b\n" = diff := Option.some.inj hdiff
  exact ⟨hlength, hsame hlength⟩

example : ofTexts "- a\r\n\n+ b" "- a\n  \n+ b\n" = "  - a\n- \n+   \n  + b\n" := by
  decide +kernel

end LineDiff

end HookMigration
