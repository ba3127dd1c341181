/-!
A pattern repeated over a register.
-/

namespace A64

/-- The pattern repeated from bit 0 upward over the low `width` of 64 bits. -/
def spread {n : Nat} (pattern : BitVec n) (width : Nat) : BitVec 64 :=
  ((pattern.replicate ((width + n - 1) / n)).setWidth width).setWidth 64

end A64
