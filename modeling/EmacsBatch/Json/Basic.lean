import EmacsBatch.Decimal.Binary64

/-!
# JSON values

Values in the data model of JSON, with whole numbers kept apart from numbers that are
written with a fraction or an exponent. An object keeps its members in order and has at
most one member of each name when it is built by `insert`.
-/

namespace EmacsBatch

/-- A JSON value. -/
inductive Json where
  | null
  | boolean (value : Bool)
  | integer (value : Int)
  | float (value : Decimal.Binary64)
  | string (value : String)
  | array (elements : List Json)
  | object (members : List (String × Json))

namespace Json

/-- The members of an object after one of them is set; a new name goes to the end. -/
def insert (name : String) (value : Json) : List (String × Json) → List (String × Json)
  | [] => [(name, value)]
  | member :: rest =>
    if member.1 = name then (name, value) :: rest else member :: insert name value rest

/-- The members of an object, a later one replacing an earlier one of the same name. -/
def ofMembers (members : List (String × Json)) : Json :=
  .object (members.foldl (fun known member => insert member.1 member.2 known) [])

/-- The value of an object's member. -/
def member? (name : String) : Json → Option Json
  | .object members => (members.find? (·.1 = name)).map (·.2)
  | _ => none

end Json

end EmacsBatch
