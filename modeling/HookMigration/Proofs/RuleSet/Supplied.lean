import HookMigration.Proofs.Records.Compiled
import HookMigration.Proofs.RuleSet.OwnSignature

/-!
# What a migration puts into its replacement

An occurrence of the old signature writes one parameter for each old one, with a type and a name of
the user's own.  The replacement is the new signature, displayed, with parameters that are supplied
from these (`Migrates.replacementFor_eq_display`):

* the type is the one that was written for the first old parameter with the same type and the same
  name, or else the new one;
* the name is the one that was written at the place `nameSource`, which is that first old parameter,
  or else the old parameter at the same position; where the old signature ends before it, the name
  comes from the new signature.

Up to blanks, the type is always the new one (`solid_type_supplied`).
-/

namespace HookMigration

open Pattern Text

namespace Migration

/-- The parameter that an entry writes. -/
def Entry.written (e : Entry) : Parameter :=
  ⟨String.ofList e.type, String.ofList e.name, false⟩

/-- The index of the old parameter whose name, as it was written, goes to a new parameter at a
position; there is none where the name comes from the new signature. -/
def nameSource (old : List Parameter) (position : Nat) (p : Parameter) : Option Nat :=
  (old.findIdx? (·.sameAs p)).or (if position ≤ old.length then some (position - 1) else none)

/-- What is supplied for a new parameter at a position, given the parameters that were written for
the old ones. -/
def supplied (old written : List Parameter) (position : Nat) (p : Parameter) : Parameter where
  type := ((old.findIdx? (·.sameAs p)).bind (written[·]?)).elim p.type Parameter.type
  name := ((nameSource old position p).bind (written[·]?)).elim (literalName p position)
    Parameter.name
  synthesized := false

/-- What is supplied for new parameters from a position on. -/
def suppliedFrom (old written : List Parameter) (position : Nat) : List Parameter → List Parameter
  | [] => []
  | p :: rest =>
    supplied old written position p :: suppliedFrom old written (position + 1) rest

variable {old written ps : List Parameter} {p : Parameter} {position i : Nat} {es : List Entry}
  {matched : List Char}

/-! ## Where a name comes from -/

theorem nameSource_of_findIdx? (h : old.findIdx? (·.sameAs p) = some i) :
    nameSource old position p = some i := by
  simp [nameSource, h]

theorem nameSource_of_reached (h : old.findIdx? (·.sameAs p) = none)
    (hreached : position ≤ old.length) : nameSource old position p = some (position - 1) := by
  simp [nameSource, h, hreached]

theorem nameSource_of_beyond (h : old.findIdx? (·.sameAs p) = none)
    (hbeyond : old.length < position) : nameSource old position p = none := by
  simp [nameSource, h, hbeyond]

theorem nameSource_lt (hposition : 1 ≤ position) (h : nameSource old position p = some i) :
    i < old.length := by
  cases hindex : old.findIdx? (·.sameAs p) with
  | some j =>
      obtain rfl : j = i := by simpa [nameSource_of_findIdx? hindex] using h
      exact (List.findIdx?_eq_some_iff_getElem.1 hindex).1
  | none =>
      by_cases hreached : position ≤ old.length
      · rw [nameSource_of_reached hindex hreached, Option.some.injEq] at h
        omega
      · rw [nameSource_of_beyond hindex (Nat.lt_of_not_le hreached)] at h
        exact absurd h (by simp)

/-! ## Lists of parameters -/

theorem length_suppliedFrom (old written : List Parameter) (position : Nat)
    (ps : List Parameter) : (suppliedFrom old written position ps).length = ps.length := by
  induction ps generalizing position with
  | nil => rfl
  | cons p rest ih => rw [suppliedFrom, List.length_cons, List.length_cons, ih]

theorem madeParts_eq_supplied (hlength : es.length = old.length) (hposition : 1 ≤ position)
    (matched : List Char) (p : Parameter) :
    madeParts old (Match.captured ⟨matched, entryCaptures 1 es⟩) p position =
      ((supplied old (es.map Entry.written) position p).type.toList,
        (supplied old (es.map Entry.written) position p).name.toList) := by
  cases hindex : old.findIdx? (·.sameAs p) with
  | some i =>
      obtain ⟨hlt, -⟩ := List.findIdx?_eq_some_iff_getElem.1 hindex
      have he := List.getElem?_eq_getElem (hlength.symm ▸ hlt)
      simp [madeParts, supplied, nameSource_of_findIdx? hindex, hindex, captured_type he,
        captured_name he, he, Entry.written]
  | none =>
      obtain ⟨i, rfl⟩ := Nat.exists_eq_add_of_le' hposition
      by_cases hreached : i + 1 ≤ old.length
      · have he := List.getElem?_eq_getElem (hlength.symm ▸ hreached)
        simp [madeParts, supplied, nameSource_of_reached hindex hreached, hindex, hreached,
          captured_name he, he, Entry.written]
      · simp [madeParts, supplied, nameSource_of_beyond hindex (Nat.lt_of_not_le hreached), hindex,
          hreached]

theorem made_eq_displayed_supplied (hlength : es.length = old.length) (hposition : 1 ≤ position)
    (matched : List Char) (ps : List Parameter) :
    made old (Match.captured ⟨matched, entryCaptures 1 es⟩) position ps =
      displayed position (suppliedFrom old (es.map Entry.written) position ps) := by
  induction ps generalizing position with
  | nil => rfl
  | cons p rest ih =>
      rw [made, madeParts_eq_supplied hlength hposition, ih (Nat.le_succ_of_le hposition)]
      rfl

/-! ## Types and names -/

/-- Up to blanks, what was written for the old parameters has their types. -/
def HasTypes (written old : List Parameter) : Prop :=
  List.Forall₂ (fun w q => solid w.type.toList = solid q.type.toList) written old

theorem hasTypes_written (hes : List.Forall₂ Entry.Writes es old) :
    HasTypes (es.map Entry.written) old := by
  rw [HasTypes, List.forall₂_map_left_iff]
  refine hes.imp fun e q hwrites => ?_
  rw [Entry.written, String.toList_ofList]
  exact hwrites.type_spaced.solid_eq fun c => isBlank_of_mem_solid

/-- Up to blanks, the type that is supplied is the new one. -/
theorem solid_type_supplied (h : HasTypes written old) (position : Nat) (p : Parameter) :
    solid (supplied old written position p).type.toList = solid p.type.toList := by
  cases hindex : old.findIdx? (·.sameAs p) with
  | none => simp [supplied, hindex]
  | some i =>
      obtain ⟨hlt, hsame, -⟩ := List.findIdx?_eq_some_iff_getElem.1 hindex
      have hlt' : i < written.length := by rwa [h.length_eq]
      have htype : solid written[i].type.toList = solid old[i].type.toList :=
        h.get hlt' hlt
      rw [(Parameter.sameAs_iff.1 hsame).1] at htype
      simpa [supplied, hindex, hlt'] using htype

end Migration

open Migration

namespace Rule

variable {r : Rule} {old new : Signature} {m : Match} {es : List Entry}

/-- The replacement of a match is the new signature with the parameters that are supplied. -/
theorem Migrates.replacementFor_eq_display (h : r.Migrates old new)
    (hes : Occurrence old es m.matched) (hcaptures : m.captures = entryCaptures 1 es) :
    r.replacementFor m = Signature.display
      ⟨new.name, suppliedFrom old.parameters (es.map Entry.written) 1 new.parameters⟩ := by
  obtain ⟨matched, captures⟩ := m
  obtain rfl : captures = entryCaptures 1 es := hcaptures
  rw [← String.toList_inj, replacementFor, h.template, toList_render_template,
    made_eq_displayed_supplied hes.1.length_eq (Nat.le_refl 1), toList_display]

/-- What becomes of a text that is an occurrence. -/
theorem Migrates.replaceAll_eq_display (h : r.Migrates old new) {text : String}
    (hes : Occurrence old es text.toList) :
    r.replaceAll text = Signature.display
      ⟨new.name, suppliedFrom old.parameters (es.map Entry.written) 1 new.parameters⟩ := by
  have hs := Signature.wellFormed_of_parse h.old_read
  have hfound : r.pattern.matchAhead? none text.toList =
      some ⟨text.toList, entryCaptures 1 es⟩ := by
    rw [h.pattern]
    exact (matchAhead?_whole hs).2 ⟨es, hes, rfl⟩
  have halone := h.replaceAll_matched hfound
  rw [String.ofList_toList] at halone
  rw [halone, h.replacementFor_eq_display hes rfl]

end Rule

end HookMigration
