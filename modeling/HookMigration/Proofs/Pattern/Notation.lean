import HookMigration.Pattern.Basic
import HookMigration.Proofs.Regex.Basic
import Mathlib.Data.List.Nodup

/-!
# The notation of a pattern

`Pattern.text` writes a pattern as a regular expression.  Reading that text back gives the pattern
again, part by part (`read?_text`): a character of a signature is never taken for an operator, and
nothing that belongs together is torn apart.

The reader works on signs, so the proof does too.  `Atom.signs` are the signs of one atom, and
`foldlM_atom` says that reading them pushes the item that the atom stands for, whatever was read
before.  A group is read with its label and its body (`foldlM_group`), and a pattern part after part.
-/

namespace HookMigration

open Regex

/-! ## Labels -/

namespace Slot

theorem toList_label (slot : Slot) :
    slot.label.toList = slot.half.word.toList ++ Nat.toDigits 10 slot.position := by
  simp [label, Nat.toString_eq_repr, Nat.toList_repr]

theorem isLabel_label (slot : Slot) : Reading.isLabel slot.label.toList = true := by
  have hdigits : (Nat.toDigits 10 slot.position).all Char.isAlphanum = true := by
    rw [List.all_eq_true]
    intro c hc
    simp [Char.isAlphanum, Nat.isDigit_of_mem_toDigits (by decide) (by decide) hc]
  have hwords : ∀ half : Half, half.word.toList.head?.any Char.isAlpha = true ∧
      half.word.toList.all Char.isAlphanum = true ∧ half.word.toList ≠ [] := by
    rintro (_ | _) <;> decide +kernel
  obtain ⟨hhead, hword, hne⟩ := hwords slot.half
  rw [toList_label, Reading.isLabel, List.head?_append_of_ne_nil _ hne, List.all_append, hhead,
    hword, hdigits]
  rfl

/-- A label has no sign that would end it early. -/
theorem label_plain (slot : Slot) {c : Char} (hc : c ∈ slot.label.toList) : c ≠ '\\' ∧ c ≠ '>' := by
  have hlabel := slot.isLabel_label
  rw [Reading.isLabel, Bool.and_eq_true, List.all_eq_true] at hlabel
  have halphanum := hlabel.2 c hc
  constructor <;> (rintro rfl; exact absurd halphanum (by decide))

theorem label_injective : Function.Injective label := by
  rintro ⟨half, position⟩ ⟨half', position'⟩ h
  have htext := congrArg String.toList h
  simp only [toList_label] at htext
  cases half <;> cases half'
  case type.type | name.name =>
    have hdigits := congrArg (Nat.ofDigitChars 10 · 0) (List.append_cancel_left htext)
    simp only [Nat.ofDigitChars_ten_toDigits] at hdigits
    rw [hdigits]
  all_goals simp [Half.word] at htext

end Slot

namespace Pattern

/-! ## The expression of a pattern -/

/-- The item that an atom stands for. -/
def Atom.item : Atom → Item
  | .boundary => .boundary
  | .literal c => .run (.exactly c) .one
  | .blanks => .run .blank .any
  | .someBlanks => .run .blank .some
  | .word => .run .word .some

/-- The piece that a part stands for. -/
def Part.piece : Part → Piece
  | .atom a => .item a.item
  | .capture slot body => .group slot.label (body.map Atom.item)

/-- The regular expression that a pattern stands for. -/
def regex (p : Pattern) : Regex :=
  p.parts.map Part.piece

/-! ## Signs -/

/-- The sign of a character that stands for itself. -/
def charSign (c : Char) : Sign :=
  if c ∈ metacharacters then .escaped c else .plain c

/-- The signs of an atom. -/
def Atom.signs : Atom → List Sign
  | .boundary => [.escaped 'b']
  | .literal c => [charSign c]
  | .blanks => [.escaped 's', .plain '*']
  | .someBlanks => [.escaped 's', .plain '+']
  | .word => [.escaped 'w', .plain '+']

/-- The signs of a part. -/
def Part.signs : Part → List Sign
  | .atom a => a.signs
  | .capture slot body =>
    .plain '(' :: .plain '?' :: .plain 'P' :: .plain '<' ::
      (slot.label.toList.map Sign.plain ++ .plain '>' :: (body.flatMap Atom.signs ++ [.plain ')']))

/-- The metacharacters one by one. -/
theorem metacharacters_eq : metacharacters =
    ['\\', '.', '+', '*', '?', '(', ')', '|', '[', ']', '\x7b', '\x7d', '^', '$', '#', '&', '-',
     '~'] :=
  String.toList_ofList

theorem signs?_cons_plain {c : Char} (hc : c ≠ '\\') (rest : List Char) :
    signs? (c :: rest) = (signs? rest).map (.plain c :: ·) := by
  cases rest <;> simp [signs?, hc]

theorem signs?_plain {cs : List Char} (hcs : ∀ c ∈ cs, c ≠ '\\') (rest : List Char) :
    signs? (cs ++ rest) = (signs? rest).map (cs.map Sign.plain ++ ·) := by
  induction cs with
  | nil => simp
  | cons c others ih =>
      rw [List.cons_append, signs?_cons_plain (hcs c List.mem_cons_self),
        ih fun d hd => hcs d (List.mem_cons_of_mem _ hd), Option.map_map]
      rfl

theorem signs?_escaped (c : Char) (rest : List Char) :
    signs? ('\\' :: c :: rest) = (signs? rest).map (.escaped c :: ·) := by
  rw [signs?, if_pos rfl]

theorem signs?_escape (c : Char) (rest : List Char) :
    signs? ((escape c).toList ++ rest) = (signs? rest).map (charSign c :: ·) := by
  unfold escape charSign
  split_ifs with hmeta
  · simp [signs?_escaped]
  · have hc : c ≠ '\\' := by
      rintro rfl
      exact hmeta (by simp [metacharacters_eq])
    simp [signs?_cons_plain hc]

theorem signs?_atom (a : Atom) (rest : List Char) :
    signs? (a.text.toList ++ rest) = (signs? rest).map (a.signs ++ ·) := by
  cases a with
  | literal c => exact signs?_escape c rest
  | boundary => simp [Atom.text, Atom.signs, signs?_escaped]
  | blanks | someBlanks | word =>
      simp [Atom.text, Atom.signs, signs?_escaped, signs?_cons_plain, Option.map_map,
        Function.comp_def]

theorem signs?_atoms (atoms : List Atom) (rest : List Char) :
    signs? (atoms.flatMap (fun a => a.text.toList) ++ rest) =
      (signs? rest).map (atoms.flatMap Atom.signs ++ ·) := by
  induction atoms with
  | nil => simp
  | cons a others ih =>
      rw [List.flatMap_cons, List.append_assoc, signs?_atom, ih, Option.map_map]
      simp [Function.comp_def]

theorem signs?_part (part : Part) (rest : List Char) :
    signs? (part.text.toList ++ rest) = (signs? rest).map (part.signs ++ ·) := by
  cases part with
  | atom a => exact signs?_atom a rest
  | capture slot body =>
      have hlabel := signs?_plain (fun c hc => (slot.label_plain hc).1)
        ('>' :: (body.flatMap (fun a => a.text.toList) ++ ')' :: rest))
      simp [Part.text, Part.signs, Text.concat, List.flatMap_map, signs?_cons_plain, hlabel,
        signs?_atoms, Option.map_map, Function.comp_def]

theorem signs?_parts (parts : List Part) :
    signs? (parts.flatMap fun part => part.text.toList) = some (parts.flatMap Part.signs) := by
  induction parts with
  | nil => rfl
  | cons part others ih =>
      rw [List.flatMap_cons, signs?_part, ih]
      rfl

/-! ## Reading the signs -/

theorem isEscapable_of_mem {c : Char} (hc : c ∈ metacharacters) :
    (c ≠ 'b' ∧ c ≠ 's' ∧ c ≠ 'w') ∧ Reading.isEscapable c = true := by
  have hall : (metacharacters.all fun d =>
      (d != 'b' && d != 's' && d != 'w') && Reading.isEscapable d) = true := by
    rw [metacharacters_eq]
    rfl
  simpa only [Bool.and_eq_true, bne_iff_ne, and_assoc] using List.all_eq_true.1 hall c hc

theorem not_isOperator_of_not_mem {c : Char} (hc : c ∉ metacharacters) :
    Reading.isOperator c = false := by
  have hall : ∀ d ∈ ['\\', '.', '+', '*', '?', '(', ')', '|', '[', ']', '\x7b', '\x7d', '^', '$'],
      d ∈ metacharacters := by
    simp [metacharacters_eq]
  simp only [Reading.isOperator, decide_eq_false_iff_not]
  exact fun hmem => hc (hall c hmem)

variable {r : Reading}

theorem step_escaped (hspot : ∀ text, r.spot ≠ .header text) (c : Char) :
    r.step (.escaped c) = r.escaped c := by
  cases h : r.spot with
  | header text => exact absurd h (hspot text)
  | outside | inside label => simp only [Reading.step, h]

theorem step_plain (hspot : ∀ text, r.spot ≠ .header text) {c : Char} (hopen : c ≠ '(')
    (hclose : c ≠ ')') : r.step (.plain c) = r.plain c := by
  cases h : r.spot with
  | header text => exact absurd h (hspot text)
  | outside | inside label => simp [Reading.step, h, hopen, hclose]

theorem step_charSign (hspot : ∀ text, r.spot ≠ .header text) (c : Char) :
    r.step (charSign c) = some (r.push (.run (.exactly c) .one)) := by
  unfold charSign
  split_ifs with hmeta
  · obtain ⟨⟨hb, hs, hw⟩, hescapable⟩ := isEscapable_of_mem hmeta
    rw [step_escaped hspot]
    simp [Reading.escaped, hb, hs, hw, hescapable]
  · have hoperator := not_isOperator_of_not_mem hmeta
    have hne : ∀ d, Reading.isOperator d = true → c ≠ d := by
      rintro d hd rfl
      simp [hd] at hoperator
    rw [step_plain hspot (hne _ (by decide)) (hne _ (by decide))]
    simp [Reading.plain, hne '*' (by decide), hne '+' (by decide), hoperator]

/-- A repetition sign behind a character or class repeats it. -/
theorem repeatLast_push (cls : CharClass) (count : Count) :
    (r.push (.run cls .one)).repeatLast count = some (r.push (.run cls count)) := by
  simp [Reading.repeatLast, Reading.push]

/-- Reading the signs of an atom pushes its item. -/
theorem foldlM_atom (hspot : ∀ text, r.spot ≠ .header text) (a : Atom) (rest : List Sign) :
    (a.signs ++ rest).foldlM Reading.step r = rest.foldlM Reading.step (r.push a.item) := by
  cases a with
  | literal c => simp [Atom.signs, Atom.item, step_charSign hspot]
  | boundary => simp [Atom.signs, Atom.item, step_escaped hspot, Reading.escaped]
  | blanks | someBlanks | word =>
      have hpush : ∀ i text, (r.push i).spot ≠ .header text := fun _ => hspot
      simp [Atom.signs, Atom.item, step_escaped hspot, step_plain (hpush _), Reading.escaped,
        Reading.plain, repeatLast_push]

theorem foldlM_atoms (hspot : ∀ text, r.spot ≠ .header text) (atoms : List Atom)
    (rest : List Sign) :
    (atoms.flatMap Atom.signs ++ rest).foldlM Reading.step r =
      rest.foldlM Reading.step { r with items := r.items ++ atoms.map Atom.item } := by
  induction atoms generalizing r with
  | nil => simp
  | cons a others ih =>
      have hpush : ∀ text, (r.push a.item).spot ≠ .header text := hspot
      rw [List.flatMap_cons, List.append_assoc, foldlM_atom hspot, ih hpush]
      simp [Reading.push]

/-- The characters of a label are collected as they stand. -/
theorem foldlM_header {cs : List Char} (hcs : ∀ c ∈ cs, c ≠ '>') (pieces : Regex)
    (items : List Item) (text : List Char) (rest : List Sign) :
    (cs.map Sign.plain ++ rest).foldlM Reading.step ⟨pieces, items, .header text⟩ =
      rest.foldlM Reading.step ⟨pieces, items, .header (text ++ cs)⟩ := by
  induction cs generalizing text with
  | nil => simp
  | cons c others ih =>
      have hstep : Reading.step ⟨pieces, items, .header text⟩ (.plain c) =
          some ⟨pieces, items, .header (text ++ [c])⟩ := by
        simp [Reading.step, hcs c List.mem_cons_self]
      rw [List.map_cons, List.cons_append, List.foldlM_cons, hstep]
      simpa using ih (fun d hd => hcs d (List.mem_cons_of_mem _ hd)) (text ++ [c])

theorem foldlM_group (hspot : r.spot = .outside) (slot : Slot) (body : List Atom)
    (rest : List Sign) :
    ((Part.capture slot body).signs ++ rest).foldlM Reading.step r =
      rest.foldlM Reading.step
        ⟨r.collected ++ [(Part.capture slot body).piece], [], .outside⟩ := by
  have hopen : r.step (.plain '(') = some ⟨r.collected, [], .header []⟩ := by
    simp [Reading.step, hspot]
  -- The header is read up to the first sign that closes it, which no label has.
  have hplain : ∀ c ∈ '?' :: 'P' :: '<' :: slot.label.toList, c ≠ '>' := by
    intro c hc
    simp only [List.mem_cons] at hc
    rcases hc with rfl | rfl | rfl | hc
    case inr.inr.inr => exact (slot.label_plain hc).2
    all_goals decide
  have hheader := foldlM_header hplain r.collected [] []
  have hinside : Reading.step
      ⟨r.collected, [], .header ('?' :: 'P' :: '<' :: slot.label.toList)⟩ (.plain '>') =
        some ⟨r.collected, [], .inside slot.label⟩ := by
    simp [Reading.step, slot.isLabel_label]
  have hbody := foldlM_atoms (r := ⟨r.collected, [], .inside slot.label⟩)
    (fun text => by simp) body (.plain ')' :: rest)
  have hclose : Reading.step ⟨r.collected, body.map Atom.item, .inside slot.label⟩ (.plain ')') =
      some ⟨r.collected ++ [.group slot.label (body.map Atom.item)], [], .outside⟩ := by
    simp [Reading.step]
  calc
    ((Part.capture slot body).signs ++ rest).foldlM Reading.step r
      = (('?' :: 'P' :: '<' :: slot.label.toList).map Sign.plain ++
          .plain '>' :: (body.flatMap Atom.signs ++ .plain ')' :: rest)).foldlM Reading.step
            ⟨r.collected, [], .header []⟩ := by
        simp [Part.signs, hopen]
    _ = (body.flatMap Atom.signs ++ .plain ')' :: rest).foldlM Reading.step
          ⟨r.collected, [], .inside slot.label⟩ := by
        rw [hheader, List.nil_append, List.foldlM_cons, hinside]
        rfl
    _ = rest.foldlM Reading.step
          ⟨r.collected ++ [(Part.capture slot body).piece], [], .outside⟩ := by
        rw [hbody, List.foldlM_cons, List.nil_append, hclose]
        rfl

/-- Reading the signs of parts collects their pieces. -/
theorem foldlM_parts (hspot : r.spot = .outside) (parts : List Part) :
    ∃ r' : Reading, (parts.flatMap Part.signs).foldlM Reading.step r = some r' ∧
      r'.spot = .outside ∧ r'.collected = r.collected ++ parts.map Part.piece := by
  induction parts generalizing r with
  | nil => exact ⟨r, rfl, hspot, by simp⟩
  | cons part others ih =>
      rw [List.flatMap_cons]
      cases part with
      | atom a =>
          have hheader : ∀ text, r.spot ≠ .header text := by simp [hspot]
          obtain ⟨r', hread, houtside, hcollected⟩ := ih (r := r.push a.item) hspot
          refine ⟨r', ?_, houtside, ?_⟩
          · rw [Part.signs, foldlM_atom hheader, hread]
          · rw [hcollected]
            simp [Reading.collected, Reading.push, Part.piece]
      | capture slot body =>
          obtain ⟨r', hread, houtside, hcollected⟩ :=
            ih (r := ⟨r.collected ++ [(Part.capture slot body).piece], [], .outside⟩) rfl
          refine ⟨r', ?_, houtside, ?_⟩
          · rw [foldlM_group hspot, hread]
          · simpa [Reading.collected] using hcollected

/-- The slot of a part that is a group. -/
def Part.slot? : Part → Option Slot
  | .atom _ => none
  | .capture slot _ => some slot

/-- The labels of a pattern's expression are the labels of its slots. -/
theorem labels_regex (p : Pattern) :
    labels p.regex = (p.parts.filterMap Part.slot?).map Slot.label := by
  rw [labels, regex, List.filterMap_map, List.map_filterMap]
  congr 1
  funext part
  cases part <;> rfl

/-- Reading the text of a pattern gives the pattern back, where no slot is captured twice. -/
theorem read?_text {p : Pattern} (hslots : (p.parts.filterMap Part.slot?).Nodup) :
    read? p.text = some p.regex := by
  have htext : p.text.toList = p.parts.flatMap fun part => part.text.toList := by
    simp [text, Text.concat, List.flatMap_map]
  have hlabels : (labels p.regex).Nodup := by
    rw [labels_regex]
    exact (List.nodup_map_iff Slot.label_injective).2 hslots
  obtain ⟨r, hread, houtside, hcollected⟩ := foldlM_parts (r := .start) rfl p.parts
  have hregex : r.collected = p.regex := hcollected
  rw [read?, htext, signs?_parts, Option.bind_some, hread, Option.bind_some, Reading.finish,
    houtside]
  simp [hregex, hlabels]

end Pattern

end HookMigration
