import Std.Data.HashMap
import MethodTrace.Deflate.Token

/-!
Finding of repetitions: content cut into tokens.

For every place its first three bytes are remembered. A place where the same bytes have occurred
before may begin a copy; of the latest such places the one with the longest copy is taken.
-/

namespace MethodTrace.Deflate

/-- The greatest length of a copy. -/
def maxCopy : Nat := 258

/-- The greatest distance of a copy. -/
def maxDistance : Nat := 32768

/-- The number of bytes, up to a limit, in which the content agrees from two places on. -/
def agreement (content : Array UInt8) (a b : Nat) : (limit : Nat) → Nat
  | 0 => 0
  | limit + 1 =>
    match content[a]?, content[b]? with
    | some x, some y => if x = y then agreement content (a + 1) (b + 1) limit + 1 else 0
    | _, _ => 0

/-- The first three bytes from a place on, as one number. -/
def keyAt? (content : Array UInt8) (place : Nat) : Option Nat := do
  let a ← content[place]?
  let b ← content[place + 1]?
  let c ← content[place + 2]?
  return a.toNat * 65536 + b.toNat * 256 + c.toNat

/-- The latest places of each key, up to `depth` of them, the last one first. -/
structure Recent where
  depth : Nat
  places : Std.HashMap Nat (List Nat)

namespace Recent

/-- The places where a key has occurred. -/
def find (recent : Recent) (key : Nat) : List Nat :=
  (recent.places[key]?).getD []

/-- Remembers a place. -/
def add (recent : Recent) (content : Array UInt8) (place : Nat) : Recent :=
  match keyAt? content place with
  | some key =>
    { recent with
      places := recent.places.insert key ((place :: recent.find key).take recent.depth) }
  | none => recent

end Recent

/-- The longest copy for a place, with its distance. A length of zero means that there is none. -/
def longestCopy (content : Array UInt8) (recent : Recent) (place : Nat) : Nat × Nat :=
  match keyAt? content place with
  | none => (0, 0)
  | some key =>
    let near := (recent.find key).filter fun earlier => place - earlier ≤ maxDistance
    near.foldl (fun (length, distance) earlier =>
      let found := agreement content earlier place maxCopy
      if length < found then (found, place - earlier) else (length, distance)) (0, 0)

/-- Cuts the content from a place on into tokens, each of which takes a byte or more. -/
def tokensFrom (content : Array UInt8) :
    (fuel : Nat) → (place : Nat) → Recent → (found : Array Token) → List Token
  | 0, _, _, found => found.toList
  | fuel + 1, place, recent, found =>
    match content[place]? with
    | none => found.toList
    | some byte =>
      let (length, distance) := longestCopy content recent place
      let taken := if 3 ≤ length then length else 1
      let token := if 3 ≤ length then Token.copy length distance else .literal byte
      let recent := (List.range' place taken).foldl (·.add content ·) recent
      tokensFrom content fuel (place + taken) recent (found.push token)

/-- Cuts content into tokens; up to `depth` earlier places are tried for each copy. -/
def tokensOf (depth : Nat) (content : Bytes) : List Token :=
  tokensFrom content.toArray content.length 0 ⟨depth, ∅⟩ #[]

end MethodTrace.Deflate
