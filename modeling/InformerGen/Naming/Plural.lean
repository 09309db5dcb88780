/-! Plurals of English nouns by their endings. -/
namespace InformerGen.Naming

def isConsonant (c : Char) : Bool := "bcdfghjklmnpqrstvwxyz".toList.contains c

/-- How many characters a noun loses for its plural, and what is put in their place. -/
def pluralEnding (beforeLast last : Char) : Nat × String :=
  if last == 's' || last == 'x' || last == 'z' then (0,"es")
  else if last == 'y' && isConsonant beforeLast then (1,"ies")
  else if last == 'h' && (beforeLast == 'c' || beforeLast == 's') then (0,"es")
  else if last == 'e' && beforeLast == 'f' then (2,"ves")
  else if last == 'f' then (1,"ves")
  else (0,"s")

/-- The plural of a noun; a noun of fewer than two characters has none. -/
def pluralize (singular : String) : String :=
  match singular.toList.reverse with
  | last::beforeLast::rest =>
    let ending := pluralEnding beforeLast last
    String.ofList ((last::beforeLast::rest).drop ending.1).reverse ++ ending.2
  | _ => singular

end InformerGen.Naming
