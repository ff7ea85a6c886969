import LiveTemplates.Number.Binary64

/-!
# JSON values

Settings come as JSON values, and so do the entries of a log. A number that is written without a
point and an exponent is an integer of any size, all others are of double precision. The fields of
an object keep the order in which they were first written.
-/

namespace LiveTemplates

/-- A JSON value. -/
inductive Json
  | null
  | bool (b : Bool)
  | int (n : Int)
  | float (x : Binary64)
  | string (s : String)
  | array (items : List Json)
  | object (fields : List (String × Json))
deriving Repr, Inhabited

namespace Json

/-- The fields with one more, which takes the place of an earlier one of the same name. -/
def putField (name : String) (v : Json) : List (String × Json) → List (String × Json)
  | [] => [(name, v)]
  | f :: rest => if f.1 == name then (name, v) :: rest else f :: putField name v rest

mutual

/--
Two values in one. Objects are merged field by field, and the fields of the first one come first;
of other values the second one counts.
-/
def merge (first : Json) : Json → Json
  | .object fields =>
    match first with
    | .object earlier => .object (mergeFields earlier fields)
    | _ => .object fields
  | v => v

/-- The fields of an object with those of another one merged into them. -/
def mergeFields (earlier : List (String × Json)) : List (String × Json) → List (String × Json)
  | [] => earlier
  | (name, v) :: rest =>
    let merged := match earlier.lookup name with
      | some w => merge w v
      | none => v
    mergeFields (putField name merged earlier) rest

end

/-- Whether a value counts as yes: it is not null, not false, not zero and not empty. -/
def isYes : Json → Bool
  | .null => false
  | .bool b => b
  | .int n => n != 0
  | .float x => x.toInt? != some 0
  | .string s => s != ""
  | .array items => !items.isEmpty
  | .object fields => !fields.isEmpty

/-- The field of an object, if the value is an object with such a field. -/
def field? (name : String) : Json → Option Json
  | .object fields => fields.lookup name
  | _ => none

end Json

end LiveTemplates
