/-! # Powers

Powers of the two bases that numbers are held and written in.
-/

namespace Lending

def twoTo (k : Nat) : Nat := Nat.pow 2 k

def tenTo (k : Nat) : Nat := Nat.pow 10 k

end Lending
