/-
# JSON values

The values that a JSON text denotes.  Numbers are doubles, and the members of an object are kept in
the order in which their names first appear.
-/

namespace FigureForm

/-- A JSON value. -/
inductive Json
  | null
  | boolean (value : Bool)
  | number (value : Float)
  | text (value : String)
  | list (items : List Json)
  | object (members : List (String × Json))

namespace Json

instance : Inhabited Json :=
  ⟨null⟩

/-- Puts a member into an object.  A name that is present keeps its place and takes the new
value. -/
def putMember (name : String) (value : Json) : List (String × Json) → List (String × Json)
  | [] => [(name, value)]
  | (other, old) :: rest =>
    if other = name then (name, value) :: rest else (other, old) :: putMember name value rest

/-- The members of an object whose text lists these pairs. -/
def membersOf (pairs : List (String × Json)) : List (String × Json) :=
  pairs.foldl (fun members pair => putMember pair.1 pair.2 members) []

/-- Whether a value is `null`. -/
def isNull : Json → Bool
  | null => true
  | _ => false

/-- Whether a value is a list. -/
def isList : Json → Bool
  | list _ => true
  | _ => false

end Json

end FigureForm
