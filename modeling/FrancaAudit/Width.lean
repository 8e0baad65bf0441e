/-!
The integers that a given number of bits can tell apart.
-/

namespace FrancaAudit

def wordCount (bits : Nat) : Nat := Nat.pow 2 bits

def signedRange (bits : Nat) : Int × Int :=
  (-(wordCount (bits - 1) : Int), (wordCount (bits - 1) : Int) - 1)

def unsignedRange (bits : Nat) : Int × Int := (0, (wordCount bits : Int) - 1)

end FrancaAudit
