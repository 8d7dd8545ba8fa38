/-
# Powers of two and of ten

The weights of binary and decimal places.
-/
namespace Stencil

/-- Two to the power `n`. -/
def twoTo (n : Nat) : Nat := Nat.pow 2 n

/-- Ten to the power `n`. -/
def tenTo (n : Nat) : Nat := Nat.pow 10 n

end Stencil
