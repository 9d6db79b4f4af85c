/-!
# Words

How large an integer may be that a word of a fixed number of bits holds, and how such words are
counted up.
-/

namespace HookMigration.Word

/-- One more than the largest unsigned integer of 64 bits. -/
def limit : Nat := 0x10000000000000000

/-- One more than the largest signed integer of 64 bits. -/
def signedLimit : Nat := 0x8000000000000000

/-- One more than the largest unsigned integer of 128 bits. -/
def wideLimit : Nat := 0x100000000000000000000000000000000

/-- One more than the largest signed integer of 128 bits. -/
def signedWideLimit : Nat := 0x80000000000000000000000000000000

/-- The next integer after one of 64 bits, which is zero behind the largest. -/
def next (n : Nat) : Nat :=
  (n + 1) % limit

end HookMigration.Word
