/-! Random passphrases over letters, digits and a few signs. -/
namespace ReadOnce.Passphrase

def alphabet : List Char :=
  "abcdefghijklmnopqrstuvwxyzABCDEFGHIJKLMNOPQRSTUVWXYZ0123456789!@#$%&*()_+-=[]?".toList

abbrev size : Nat := 78

theorem length_alphabet : alphabet.length = size := by decide

/-- A length below one. -/
structure LengthFault where

def LengthFault.message (_ : LengthFault) : String := "Password length must be at least 1"

/-- A passphrase of a given length; `pick` chooses the character of each place. -/
def generate (length : Int) (pick : Nat → Fin size) : Except LengthFault String :=
  if length < 1 then .error ⟨⟩
  else
    .ok (String.ofList ((List.range length.toNat).map fun place =>
      alphabet.get ((pick place).cast length_alphabet.symm)))

end ReadOnce.Passphrase
