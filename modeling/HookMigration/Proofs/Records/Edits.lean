import HookMigration.Proofs.Pattern.Scanning
import HookMigration.Proofs.Text.Places

/-!
# The edits that the records of a rule suggest

The records of a rule are written down on the way through a text, match by match.  So their spans
follow one another (`pairwise_editsFrom`), and the edits that they suggest do in one go what the
rule does on its way: a match makes way for its replacement, and a character outside of all matches
stays (`applyEdits_edits`).
-/

namespace HookMigration

open Pattern Text

/-- A record shows the stretch `matched` of a text, with its bytes and with the line and the column
of the place behind `front`, where it begins. -/
structure Record.Shows (record : Record) (file : Option String) (front matched : List Char) :
    Prop where
  span : record.span = some ⟨byteLength front, byteLength (front ++ matched)⟩
  matchedText : record.matchedText = some (String.ofList matched)
  location : record.location = ⟨file, front.count '\n', columnOf front⟩

namespace Rule

variable {r : Rule} {file : Option String} {offset : Nat} {stretches : List Stretch} {e : Edit}
  {text : String}

/-- The record of a match behind a text shows it. -/
theorem shows_record (r : Rule) (file : Option String) (front : List Char) (x : Match) :
    (r.record file (Cursor.start.advanceOver front) x).Shows file front x.matched where
  span := by
    rw [record, ← Cursor.advanceOver_append, advanceOver_start, advanceOver_start]
  matchedText := rfl
  location := by rw [record, advanceOver_start]

/-! ## Edits of stretches -/

/-- The edits for the matches among stretches that begin at an offset. -/
def editsFrom (r : Rule) (offset : Nat) : List Stretch → List Edit
  | [] => []
  | .plain c :: rest => r.editsFrom (offset + byteLength [c]) rest
  | .hit x :: rest =>
    ⟨⟨offset, offset + byteLength x.matched⟩, r.replacementFor x⟩ ::
      r.editsFrom (offset + byteLength x.matched) rest

/-- The edits that a rule suggests for a text. -/
def edits (r : Rule) (text : String) : List Edit :=
  r.editsFrom 0 (r.stretches text)

theorem editsFrom_append (r : Rule) (offset : Nat) (before rest : List Stretch) :
    r.editsFrom offset (before ++ rest) =
      r.editsFrom offset before ++ r.editsFrom (offset + byteLength (scanned before)) rest := by
  induction before generalizing offset with
  | nil => rfl
  | cons s others ih =>
      have hbytes : offset + byteLength (scanned (s :: others)) =
          offset + byteLength s.text + byteLength (scanned others) := by
        rw [scanned, List.flatMap_cons, byteLength_append, Nat.add_assoc]
        rfl
      rw [hbytes]
      cases s with
      | plain c => exact ih _
      | hit x => exact congrArg (_ :: ·) (ih _)

/-- The records carry the edits. -/
theorem map_edit?_recordsFrom (r : Rule) (file : Option String) (cursor : Cursor)
    (stretches : List Stretch) :
    (r.recordsFrom file cursor stretches).map Record.edit? =
      (r.editsFrom cursor.offset stretches).map some := by
  induction stretches generalizing cursor with
  | nil => rfl
  | cons s rest ih =>
      cases s with
      | plain c =>
          have hrest := ih (cursor.advance c)
          rw [Cursor.offset_advance] at hrest
          exact hrest
      | hit x =>
          have hrest := ih (cursor.advanceOver x.matched)
          have hfirst : (r.record file cursor x).edit? =
              some ⟨⟨cursor.offset, cursor.offset + byteLength x.matched⟩, r.replacementFor x⟩ := by
            simp [record, Record.edit?, Cursor.offset_advanceOver]
          rw [Cursor.offset_advanceOver] at hrest
          rw [recordsFrom, List.map_cons, hfirst, hrest]
          rfl

theorem map_edit?_records (r : Rule) (file : Option String) (text : String) :
    (r.records file text).map Record.edit? = (r.edits text).map some :=
  r.map_edit?_recordsFrom file .start (r.stretches text)

/-! ## Spans -/

theorem start_of_mem_editsFrom (he : e ∈ r.editsFrom offset stretches) :
    offset ≤ e.span.start := by
  induction stretches generalizing offset with
  | nil => simp [editsFrom] at he
  | cons s rest ih =>
      cases s with
      | plain c => exact Nat.le_trans (Nat.le_add_right _ _) (ih he)
      | hit x =>
          rcases List.mem_cons.1 he with rfl | he
          · exact Nat.le_refl _
          · exact Nat.le_trans (Nat.le_add_right _ _) (ih he)

/-- Each span ends before the next one begins. -/
theorem pairwise_editsFrom (r : Rule) (offset : Nat) (stretches : List Stretch) :
    (r.editsFrom offset stretches).Pairwise fun a b => a.span.stop ≤ b.span.start := by
  induction stretches generalizing offset with
  | nil => exact .nil
  | cons s rest ih =>
      cases s with
      | plain c => exact ih _
      | hit x => exact .cons (fun e he => start_of_mem_editsFrom he) (ih _)

theorem pairwise_edits (r : Rule) (text : String) :
    (r.edits text).Pairwise fun a b => a.span.stop ≤ b.span.start :=
  r.pairwise_editsFrom 0 (r.stretches text)

/-- The edits of a text are those of the matches among its stretches. -/
theorem mem_edits_iff : e ∈ r.edits text ↔
    ∃ before x rest, r.stretches text = before ++ .hit x :: rest ∧
      e = ⟨⟨byteLength (scanned before), byteLength (scanned before ++ x.matched)⟩,
        r.replacementFor x⟩ := by
  constructor
  · intro he
    have hsome : some e ∈ (r.records none text).map Record.edit? := by
      rw [map_edit?_records]
      exact List.mem_map_of_mem he
    obtain ⟨record, hrecord, hedit⟩ := List.mem_map.1 hsome
    obtain ⟨before, x, rest, hstretches, rfl⟩ := mem_records_iff.1 hrecord
    refine ⟨before, x, rest, hstretches, ?_⟩
    rw [Record.edit?, (r.shows_record none (scanned before) x).span] at hedit
    exact (Option.some.inj hedit).symm
  · rintro ⟨before, x, rest, hstretches, rfl⟩
    rw [edits, hstretches, editsFrom_append, byteLength_append, Nat.zero_add]
    exact List.mem_append_right _ List.mem_cons_self

theorem start_lt_stop_of_mem_edits (he : e ∈ r.edits text) : e.span.start < e.span.stop := by
  obtain ⟨before, x, rest, hstretches, rfl⟩ := mem_edits_iff.1 he
  have hpos := byteLength_pos (matchAhead?_of_stretches hstretches).1
  simp only [byteLength_append]
  omega

/-- Where the pattern matches, an edit covers the place. -/
theorem exists_edit_of_match {front back : List Char} {x : Match}
    (htext : text.toList = front ++ back)
    (hx : r.pattern.matchAhead? front.getLast? back = some x) (hne : x.matched ≠ []) :
    ∃ e ∈ r.edits text, e.span.start ≤ byteLength front ∧ byteLength front < e.span.stop := by
  have hcovered := covered_stretches hx hne
  rw [← htext] at hcovered
  obtain ⟨before, y, rest, hstretches, hle, hlt⟩ := hcovered
  refine ⟨_, mem_edits_iff.2 ⟨before, y, rest, hstretches, rfl⟩, ?_, ?_⟩
  · obtain ⟨-, hwhole, -⟩ := matchAhead?_of_stretches hstretches
    have hfront : scanned before <+: front :=
      List.prefix_of_prefix_length_le ⟨_, hwhole.symm⟩ ⟨_, htext.symm⟩ hle
    obtain ⟨others, rfl⟩ := hfront
    simp
  · obtain ⟨-, hwhole, -⟩ := matchAhead?_of_stretches hstretches
    rw [← List.append_assoc] at hwhole
    exact byteLength_lt_of_length_lt ⟨_, htext.symm⟩ ⟨_, hwhole.symm⟩
      (by rwa [List.length_append])

/-! ## All edits at once -/

theorem applyEditsFrom_editsFrom (hne : ∀ x, .hit x ∈ stretches → x.matched ≠ []) (offset : Nat) :
    applyEditsFrom (r.editsFrom offset stretches) offset (scanned stretches) =
      replaceHits (fun x => (r.replacementFor x).toList) stretches := by
  induction stretches generalizing offset with
  | nil => rfl
  | cons s rest ih =>
      have hrest := ih fun x hx => hne x (List.mem_cons_of_mem _ hx)
      rw [scanned_cons, replaceHits, List.flatMap_cons, ← replaceHits]
      cases s with
      | plain c =>
          -- no edit reaches back to the character in front of the others
          rw [editsFrom, Stretch.text,
            applyEditsFrom_uncovered fun e he => .inr (start_of_mem_editsFrom he), hrest]
      | hit x =>
          have hapart : (r.editsFrom offset (.hit x :: rest)).Pairwise Edit.Apart :=
            (r.pairwise_editsFrom offset _).imp Or.inl
          rw [editsFrom] at hapart ⊢
          rw [Stretch.text, applyEditsFrom_cons hapart (hne x List.mem_cons_self) rfl rfl, hrest]

/-- The edits that a rule suggests make of a text what the rule makes of it. -/
theorem applyEdits_edits (r : Rule) (text : String) :
    applyEdits (r.edits text) text = r.replaceAll text := by
  have hne : ∀ x, .hit x ∈ r.stretches text → x.matched ≠ [] := by
    intro x hx
    obtain ⟨before, rest, hstretches⟩ := List.append_of_mem hx
    exact (matchAhead?_of_stretches hstretches).1
  rw [applyEdits, replaceAll, edits, ← applyEditsFrom_editsFrom hne, r.scanned_stretches]

end Rule

end HookMigration
