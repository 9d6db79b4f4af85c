import HookMigration.Proofs.Text.Classes
import HookMigration.Proofs.Text.Runs
import HookMigration.Signature.Parser

/-!
# What a signature that was read looks like

`Signature.parse` accepts a text only if the name of the hook is a word, every type is a type token
and every parameter name, given or made up, consists of name characters.  `WellFormed` collects
these promises, and `wellFormed_of_parse` says that they are kept; all that is proved about the
pattern and the template of a rule starts from them.
-/

namespace HookMigration.Signature

open Text

/-- What the reader promises about a signature. -/
structure WellFormed (s : Signature) : Prop where
  name_ne_nil : s.name.toList ≠ []
  name_word : s.name.toList.all isWordChar = true
  type_token : ∀ p ∈ s.parameters, isTypeToken p.type.toList = true
  parameter_ne_nil : ∀ p ∈ s.parameters, p.name.toList ≠ []
  parameter_name : ∀ p ∈ s.parameters, p.name.toList.all isNameChar = true

/-! ## Names that were left out -/

theorem isNameChar_of_isDigit {c : Char} (h : c.isDigit = true) : isNameChar c = true := by
  have hdigit : inRanges c.toNat digitRanges = true := by
    simp only [Char.isDigit, Bool.and_eq_true, decide_eq_true_eq] at h
    have hlow : 48 ≤ c.toNat := h.1
    have hhigh : c.toNat ≤ 57 := h.2
    rw [digitRanges, inRanges, if_neg (by omega), if_pos hhigh]
  simp [isNameChar, isAlphanumeric, hdigit]

theorem anonymousName_ne_nil (position : Nat) : (anonymousName position).toList ≠ [] := by
  simp [anonymousName]

theorem all_isNameChar_anonymousName (position : Nat) :
    (anonymousName position).toList.all isNameChar = true := by
  have hword : "param".toList.all isNameChar = true := by decide +kernel
  have hdigits : (Nat.toDigits 10 position).all isNameChar = true := by
    rw [List.all_eq_true]
    intro c hc
    exact isNameChar_of_isDigit (Nat.isDigit_of_mem_toDigits (by decide) (by decide) hc)
  simp only [anonymousName, String.toList_append, List.all_append, hword, Nat.toString_eq_repr,
    Nat.toList_repr, hdigits, Bool.and_self]

/-! ## From the pieces to the signature -/

theorem parameter_of_parseParameter {position : Nat} {piece : List Char} {p : Parameter}
    (h : parseParameter position piece = .ok p) :
    isTypeToken p.type.toList = true ∧ p.name.toList ≠ [] ∧
      p.name.toList.all isNameChar = true := by
  simp only [parseParameter] at h
  split_ifs at h with hvalid hempty
  · -- a name that was left out is made
    rw [Bool.and_eq_true] at hvalid
    cases h
    exact ⟨by simpa using hvalid.1, anonymousName_ne_nil position,
      all_isNameChar_anonymousName position⟩
  · rw [Bool.and_eq_true] at hvalid
    cases h
    exact ⟨by simpa using hvalid.1, by simpa using hempty, by simpa using hvalid.2⟩

theorem parameter_of_parseParameters {position : Nat} {pieces : List (List Char)}
    {parameters : List Parameter} (h : parseParameters position pieces = .ok parameters)
    {p : Parameter} (hp : p ∈ parameters) :
    isTypeToken p.type.toList = true ∧ p.name.toList ≠ [] ∧
      p.name.toList.all isNameChar = true := by
  induction pieces generalizing position parameters with
  | nil =>
      cases h
      simp at hp
  | cons piece rest ih =>
      cases hfirst : parseParameter position piece with
      | error e => simp [parseParameters, hfirst, bind, Except.bind] at h
      | ok first =>
          cases hothers : parseParameters (position + 1) rest with
          | error e => simp [parseParameters, hfirst, hothers, bind, Except.bind] at h
          | ok others =>
              obtain rfl : first :: others = parameters := by
                simpa [parseParameters, hfirst, hothers, bind, Except.bind, pure, Except.pure]
                  using h
              rcases List.mem_cons.1 hp with rfl | hp
              · exact parameter_of_parseParameter hfirst
              · exact ih hothers hp

theorem name_of_splitCall? {text name list : List Char}
    (h : splitCall? text = some (name, list)) : name ≠ [] ∧ name.all isWordChar = true := by
  simp only [splitCall?] at h
  split at h
  · split_ifs at h with hvalid
    obtain ⟨rfl, -⟩ := by simpa using h
    refine ⟨hvalid.1, ?_⟩
    rw [List.all_eq_true]
    intro c hc
    exact List.mem_takeWhile_imp hc
  · simp at h

/-- A signature that was read is its name in front of its list of parameters. -/
theorem exists_call_of_parse {text : String} {s : Signature} (h : parse text = .ok s) :
    ∃ name list, splitCall? (trim text.toList) = some (name, list) ∧
      parseParameters 1 (splitList (trim list)) = .ok s.parameters ∧
      s.name = String.ofList name := by
  simp only [parse] at h
  cases hcall : splitCall? (trim text.toList) with
  | none => simp [hcall] at h
  | some call =>
      obtain ⟨name, list⟩ := call
      cases hparameters : parseParameters 1 (splitList (trim list)) with
      | error e => simp [hcall, hparameters, bind, Except.bind] at h
      | ok parameters =>
          obtain rfl : Signature.mk (String.ofList name) parameters = s := by
            simpa [hcall, hparameters, bind, Except.bind, pure, Except.pure] using h
          exact ⟨name, list, rfl, hparameters, rfl⟩

theorem wellFormed_of_parse {text : String} {s : Signature} (h : parse text = .ok s) :
    s.WellFormed := by
  obtain ⟨name, list, hcall, hparameters, hname⟩ := exists_call_of_parse h
  obtain ⟨hne, hword⟩ := name_of_splitCall? hcall
  have hparameter := fun p hp => parameter_of_parseParameters hparameters (p := p) hp
  exact {
    name_ne_nil := by simpa [hname] using hne
    name_word := by simpa [hname] using hword
    type_token := fun p hp => (hparameter p hp).1
    parameter_ne_nil := fun p hp => (hparameter p hp).2.1
    parameter_name := fun p hp => (hparameter p hp).2.2 }

/-- Blanks at the ends of a text make no difference to the reader. -/
@[simp] theorem parse_trimmed (text : String) : parse (trimmed text) = parse text := by
  simp [parse]

end HookMigration.Signature
