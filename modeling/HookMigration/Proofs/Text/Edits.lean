import HookMigration.Record
import HookMigration.Text.Position
import Mathlib.Data.List.Basic
import Mathlib.Data.List.Pairwise
import Mathlib.Data.List.Perm.Basic

/-!
# Replacing several spans at once

An edit puts a text in place of a span.  `applyEdits` applies several edits at once: all spans are
meant in the text before, so no edit sees what another one wrote.  A character at which a span
begins makes way for the text of its edit, a character further inside of a span for nothing, and any
other character stays.

Edits whose spans lie apart may be applied in any order (`applyEdits_perm`).
-/

namespace HookMigration

namespace Text

theorem Cursor.offset_advance (cursor : Cursor) (c : Char) :
    (cursor.advance c).offset = cursor.offset + c.utf8Size := by
  unfold Cursor.advance
  split_ifs <;> rfl

theorem Cursor.offset_advanceOver (cursor : Cursor) (cs : List Char) :
    (cursor.advanceOver cs).offset = cursor.offset + byteLength cs := by
  induction cs generalizing cursor with
  | nil => rfl
  | cons c rest ih =>
      rw [Cursor.advanceOver_cons, ih, Cursor.offset_advance, byteLength, Nat.add_assoc]

end Text

/-- A text to be put in place of a span. -/
structure Edit where
  span : Span
  text : String
  deriving DecidableEq, Repr

/-- The edit that a record suggests. -/
def Record.edit? (r : Record) : Option Edit :=
  r.span.bind fun span => r.suggestedReplacement.map fun text => ⟨span, text⟩

namespace Edit

/-- Whether the span of an edit covers the character at an offset. -/
def covers (e : Edit) (offset : Nat) : Bool :=
  decide (e.span.start ≤ offset) && decide (offset < e.span.stop)

/-- The spans of two edits have nothing in common. -/
def Apart (a b : Edit) : Prop :=
  a.span.stop ≤ b.span.start ∨ b.span.stop ≤ a.span.start

instance : Std.Symm Apart :=
  ⟨fun _ _ => Or.symm⟩

theorem covers_iff {e : Edit} {offset : Nat} :
    e.covers offset = true ↔ e.span.start ≤ offset ∧ offset < e.span.stop := by
  simp [covers]

end Edit

/-- What edits make of the rest of a text from an offset on. -/
def applyEditsFrom (edits : List Edit) (offset : Nat) : List Char → List Char
  | [] => []
  | c :: rest =>
    (match edits.find? (·.covers offset) with
      | some e => if e.span.start = offset then e.text.toList else []
      | none => [c]) ++ applyEditsFrom edits (offset + c.utf8Size) rest

/-- A text after edits, all of which are meant in the text before. -/
def applyEdits (edits : List Edit) (text : String) : String :=
  String.ofList (applyEditsFrom edits 0 text.toList)

/-! ## Any order -/

variable {edits edits' : List Edit}

theorem find?_perm {α : Type} {p : α → Bool} {l l' : List α} (hperm : l.Perm l')
    (hunique : ∀ a ∈ l, ∀ b ∈ l, p a = true → p b = true → a = b) : l.find? p = l'.find? p := by
  cases h : l.find? p with
  | none =>
      symm
      rw [List.find?_eq_none] at h ⊢
      exact fun a ha => h a (hperm.mem_iff.2 ha)
  | some a =>
      have ha := List.mem_of_find?_eq_some h
      have hpa := List.find?_some h
      cases h' : l'.find? p with
      | none =>
          rw [List.find?_eq_none] at h'
          exact absurd hpa (h' a (hperm.mem_iff.1 ha))
      | some b =>
          have hb := hperm.mem_iff.2 (List.mem_of_find?_eq_some h')
          rw [hunique a ha b hb hpa (List.find?_some h')]

theorem eq_of_covers (hapart : edits.Pairwise Edit.Apart) {offset : Nat} {a b : Edit}
    (ha : a ∈ edits) (hb : b ∈ edits) (hcovers : a.covers offset = true)
    (hcovers' : b.covers offset = true) : a = b := by
  by_contra hne
  have hspans := hapart.forall ha hb hne
  rw [Edit.covers_iff] at hcovers hcovers'
  rcases hspans with h | h <;> omega

theorem applyEditsFrom_perm (hperm : edits.Perm edits') (hapart : edits.Pairwise Edit.Apart)
    (offset : Nat) (cs : List Char) :
    applyEditsFrom edits offset cs = applyEditsFrom edits' offset cs := by
  induction cs generalizing offset with
  | nil => rfl
  | cons c rest ih =>
      have hfind : edits.find? (·.covers offset) = edits'.find? (·.covers offset) :=
        find?_perm hperm fun a ha b hb => eq_of_covers hapart ha hb
      rw [applyEditsFrom, applyEditsFrom, hfind, ih]

/-- Edits that lie apart may be applied in any order. -/
theorem applyEdits_perm (hperm : edits.Perm edits') (hapart : edits.Pairwise Edit.Apart)
    (text : String) : applyEdits edits text = applyEdits edits' text := by
  rw [applyEdits, applyEdits, applyEditsFrom_perm hperm hapart]

theorem find?_covers (hapart : edits.Pairwise Edit.Apart) {e : Edit} (he : e ∈ edits)
    {offset : Nat} (hcovers : e.covers offset = true) :
    edits.find? (·.covers offset) = some e := by
  cases hfind : edits.find? (·.covers offset) with
  | none => exact absurd hcovers (List.find?_eq_none.1 hfind e he)
  | some a =>
      have hcovers' : a.covers offset = true := by simpa using List.find?_some hfind
      rw [eq_of_covers hapart (List.mem_of_find?_eq_some hfind) he hcovers' hcovers]

/-! ## Inside and outside of a span -/

open Text

variable {offset : Nat} {cs rest : List Char}

/-- A text that no edit covers stays. -/
theorem applyEditsFrom_uncovered
    (h : ∀ e ∈ edits, e.span.stop ≤ offset ∨ offset + byteLength cs ≤ e.span.start) :
    applyEditsFrom edits offset (cs ++ rest) =
      cs ++ applyEditsFrom edits (offset + byteLength cs) rest := by
  induction cs generalizing offset with
  | nil => rfl
  | cons c others ih =>
      have hsize := c.utf8Size_pos
      simp only [byteLength] at h
      -- No span reaches from before the text to this character, or begins at it.
      have hnone : edits.find? (·.covers offset) = none := by
        rw [List.find?_eq_none]
        intro e he hcovers
        rw [Edit.covers_iff] at hcovers
        have := h e he
        omega
      have hothers : applyEditsFrom edits (offset + c.utf8Size) (others ++ rest) =
          others ++ applyEditsFrom edits (offset + c.utf8Size + byteLength others) rest := by
        refine ih fun e he => ?_
        have := h e he
        omega
      rw [List.cons_append, applyEditsFrom, hnone, hothers, byteLength, Nat.add_assoc]
      rfl

/-- The characters of a span behind its first make way. -/
theorem applyEditsFrom_inside {e : Edit} (he : e ∈ edits) (hapart : edits.Pairwise Edit.Apart)
    (hstart : e.span.start < offset) (hstop : offset + byteLength cs = e.span.stop) :
    applyEditsFrom edits offset (cs ++ rest) =
      applyEditsFrom edits (offset + byteLength cs) rest := by
  induction cs generalizing offset with
  | nil => rfl
  | cons c others ih =>
      have hsize := c.utf8Size_pos
      simp only [byteLength] at hstop
      have hcovers : e.covers offset = true := by
        rw [Edit.covers_iff]
        omega
      have hsome := find?_covers hapart he hcovers
      have hothers : applyEditsFrom edits (offset + c.utf8Size) (others ++ rest) =
          applyEditsFrom edits (offset + c.utf8Size + byteLength others) rest :=
        ih (by omega) (by omega)
      rw [List.cons_append, applyEditsFrom, hsome, hothers, byteLength, ← Nat.add_assoc]
      simp [Nat.ne_of_lt hstart]

/-- A span makes way for the text of its edit. -/
theorem applyEditsFrom_span {e : Edit} (he : e ∈ edits) (hapart : edits.Pairwise Edit.Apart)
    (hne : cs ≠ []) (hstart : e.span.start = offset)
    (hstop : e.span.stop = offset + byteLength cs) :
    applyEditsFrom edits offset (cs ++ rest) =
      e.text.toList ++ applyEditsFrom edits (offset + byteLength cs) rest := by
  obtain ⟨c, others, rfl⟩ := List.exists_cons_of_ne_nil hne
  have hsize := c.utf8Size_pos
  simp only [byteLength] at hstop
  have hcovers : e.covers offset = true := by
    rw [Edit.covers_iff]
    omega
  have hsome := find?_covers hapart he hcovers
  have hinside : applyEditsFrom edits (offset + c.utf8Size) (others ++ rest) =
      applyEditsFrom edits (offset + c.utf8Size + byteLength others) rest :=
    applyEditsFrom_inside he hapart (by omega) (by omega)
  rw [List.cons_append, applyEditsFrom, hsome, hinside, byteLength, ← Nat.add_assoc]
  simp [hstart]

/-- An edit whose span ends before a text makes no difference to it. -/
theorem applyEditsFrom_cons_of_stop_le {e : Edit} (h : e.span.stop ≤ offset) :
    applyEditsFrom (e :: edits) offset cs = applyEditsFrom edits offset cs := by
  induction cs generalizing offset with
  | nil => rfl
  | cons c others ih =>
      have hcovers : ¬ e.covers offset = true := by
        rw [Edit.covers_iff]
        omega
      have hfind : (e :: edits).find? (·.covers offset) = edits.find? (·.covers offset) :=
        List.find?_cons_of_neg hcovers
      rw [applyEditsFrom, applyEditsFrom, hfind, ih (Nat.le_trans h (Nat.le_add_right _ _))]

/-- A span makes way for the text of its edit, which has no effect behind it. -/
theorem applyEditsFrom_cons {e : Edit} (hapart : (e :: edits).Pairwise Edit.Apart) (hne : cs ≠ [])
    (hstart : e.span.start = offset) (hstop : e.span.stop = offset + byteLength cs) :
    applyEditsFrom (e :: edits) offset (cs ++ rest) =
      e.text.toList ++ applyEditsFrom edits (offset + byteLength cs) rest := by
  rw [applyEditsFrom_span List.mem_cons_self hapart hne hstart hstop,
    applyEditsFrom_cons_of_stop_le (Nat.le_of_eq hstop)]

end HookMigration
