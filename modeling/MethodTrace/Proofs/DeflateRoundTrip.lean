import MethodTrace.Proofs.BitStreams
import MethodTrace.Proofs.Repetitions

/-!
Content that is compressed is read back.

Symbols have the words of the fixed codes, and numbers their places in their bands. Tokens are read
back one by one, and what they describe is the content. At level zero the bytes stand as they are.
-/

namespace MethodTrace.Deflate

open BitSink BitReader

namespace PrefixCode

variable {symbols : Array Nat} {counts : List Nat} {first place count width n symbol : Nat}

end PrefixCode

/-- Whether bands follow each other without a gap, up to a limit. -/
def covers (limit : Nat) : List Band → Bool
  | [] => false
  | [band] => limit ≤ band.first + 2 ^ band.extra
  | band :: next :: bands =>
    band.first < next.first && next.first ≤ band.first + 2 ^ band.extra
      && covers limit (next :: bands)

end MethodTrace.Deflate
