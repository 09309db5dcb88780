import InformerGen.Identifier

/-!
The aliases that an import path suggests by itself: its last segment, its last two segments joined,
and so on up to all of them.
-/
namespace InformerGen.Alias

def suffixJoins : List String → List String
  | [] => []
  | segment::rest => suffixJoins rest ++ [String.join (segment::rest)]

/-- The segments of a path without punctuation; a segment of punctuation only is left out. -/
def segments (path : String) : List String :=
  ((Text.pieces '/' path).map Identifier.sanitize).filter (· != "")

def opensWithDigit (text : String) : Bool :=
  match text.toList with
  | [] => false
  | c::_ => c.isDigit

def fallback : String := "pkg"

/-- The aliases that a path suggests, shortest first. There is always one. -/
def candidates (path : String) : List String :=
  let joins := ((suffixJoins (segments path)).filter fun join => !opensWithDigit join).eraseDups
  if joins.isEmpty then [fallback] else joins

end InformerGen.Alias
