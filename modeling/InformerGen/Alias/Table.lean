import InformerGen.Alias.Candidates
import InformerGen.OrderedMap

/-!
Aliases for a set of import paths, no two alike and none reserved. A path moves on to a longer
candidate while its own is reserved or shared, and gets a number only when its candidates run out.
The table depends on the set of paths alone and not on their order.
-/
namespace InformerGen

namespace Alias

structure Contender where
  path : String
  candidates : List String
  level : Nat
deriving DecidableEq, Repr

namespace Contender

def start (path : String) : Contender := ⟨path,Alias.candidates path,0⟩

def current (contender : Contender) : String :=
  (contender.candidates[contender.level]?).getD fallback

def spare (contender : Contender) : Nat := contender.candidates.length - 1 - contender.level

def advance (contender : Contender) : Contender :=
  if contender.level + 1 < contender.candidates.length then
    { contender with level := contender.level + 1 }
  else contender

end Contender

def isBlocked (reserved : List String) (candidate : String) : Bool :=
  reserved.contains candidate || !Identifier.isIdentifier candidate

def isShared (contenders : List Contender) (candidate : String) : Bool :=
  1 < contenders.countP (·.current == candidate)

def mustMove (reserved : List String) (contenders : List Contender) (contender : Contender) :
    Bool :=
  isBlocked reserved contender.current || isShared contenders contender.current

def moved (reserved : List String) (contenders : List Contender) (contender : Contender) :
    Contender :=
  if mustMove reserved contenders contender then contender.advance else contender

/-- Every path that may not stay where it is moves on, all at once. -/
def round (reserved : List String) (contenders : List Contender) : List Contender :=
  contenders.map (moved reserved contenders)

def settle (reserved : List String) : Nat → List Contender → List Contender
  | 0, contenders => contenders
  | rounds + 1, contenders =>
    let next := round reserved contenders
    if next = contenders then contenders else settle reserved rounds next

/-- Each round that moves anything uses up a spare candidate, so this many rounds settle all. -/
def roundLimit : List Contender → Nat
  | [] => 0
  | contender::rest => contender.spare + roundLimit rest

def levelled (reserved paths : List String) : List Contender :=
  let contenders := paths.map Contender.start
  settle reserved (roundLimit contenders) contenders

/-- The candidate itself, then the candidate with the numbers from two on. -/
def numbered (candidate : String) (tries : Nat) : String :=
  if tries = 0 then candidate else candidate ++ toString (tries + 1)

def isFree (reserved taken : List String) (candidate : String) : Bool :=
  !isBlocked reserved candidate && !taken.contains candidate

def tryLimit (reserved taken : List String) : Nat := reserved.length + taken.length + 1

/-- How many forms the search for a free one refuses. It has no limit: where none of so many forms is
free, no other one is either, and the search goes on for ever. -/
def search (reserved taken : List String) (candidate : String) : Option Nat :=
  (List.range (tryLimit reserved taken + 1)).find? fun tries =>
    isFree reserved taken (numbered candidate tries)

/-- The first form that is free, or in place of one the last that is tried. -/
def firstFree (reserved taken : List String) (candidate : String) : String :=
  numbered candidate ((search reserved taken candidate).getD (tryLimit reserved taken))

def number (reserved : List String) : List String → List Contender → List (String × String)
  | _, [] => []
  | taken, contender::rest =>
    let final := firstFree reserved taken contender.current
    (contender.path,final)::number reserved (final::taken) rest

def number? (reserved : List String) :
    List String → List Contender → Option (List (String × String))
  | _, [] => some []
  | taken, contender::rest => do
    let tries ← search reserved taken contender.current
    let final := numbered contender.current tries
    let others ← number? reserved (final::taken) rest
    return (contender.path,final)::others

def distinctPaths (paths : List String) : List String :=
  (OrderedSet.ofTexts (paths.filter (· != ""))).keys

end Alias

structure AliasTable where
  aliases : OrderedMap String
deriving DecidableEq

namespace AliasTable

/-- The aliases for the non-empty paths. Where a search goes on for ever, they are of no use. -/
def build (paths reserved : List String) : AliasTable :=
  ⟨OrderedMap.ofList
    (Alias.number reserved [] (Alias.levelled reserved (Alias.distinctPaths paths)))⟩

/-- The table that is built, unless one of the searches for it goes on for ever. -/
def build? (paths reserved : List String) : Option AliasTable := do
  let entries ← Alias.number? reserved [] (Alias.levelled reserved (Alias.distinctPaths paths))
  return ⟨OrderedMap.ofList entries⟩

def alias? (table : AliasTable) (path : String) : Option String := table.aliases.get? path

def size (table : AliasTable) : Nat := table.aliases.size

def isEmpty (table : AliasTable) : Bool := table.aliases.isEmpty

end AliasTable

end InformerGen
