import LiveTemplates.Settings.Coercion

/-!
# Assigning to fields afterwards

A field of settings can be assigned to once they are read. The value is taken as it is. Settings may
be of a kind that does not change; then each field is refused, and the others still have their turn.

A name that starts with a low line is no field. Most of these names are let through and change
nothing, some belong to the program and are refused, and one stands for all fields at once.
-/

namespace LiveTemplates.Settings

/-- Why a name cannot be assigned to, in settings of the named kind. -/
inductive AssignError
  | unknownField (kind name : String)
  /-- The name stands for something that the settings say of themselves. -/
  | computed (kind name : String)
  /-- The name belongs to all settings of the kind. -/
  | shared (kind name : String)
  /-- All fields at once can only be given as an object. -/
  | notFields (given : String)
  /-- The kind of settings cannot be given as a value. -/
  | notKind (given : String)
  /-- The name belongs to the program. -/
  | reserved (name : String)
deriving DecidableEq, Repr

/-- A failed assignment in words. -/
def AssignError.message : AssignError → String
  | .unknownField kind name => s!"\"{kind}\" object has no field \"{name}\""
  | .computed kind name => s!"property '{name}' of '{kind}' object has no setter"
  | .shared kind name =>
    s!"'{name}' is a ClassVar of `{kind}` and cannot be set on an instance. "
      ++ s!"If you want to set a value on the class, use `{kind}.{name} = value`."
  | .notFields given => s!"__dict__ must be set to a dictionary, not a '{given}'"
  | .notKind given => s!"__class__ must be set to a class, not '{given}' object"
  | .reserved name => s!"attribute '{name}' of 'BaseSettings' objects is not writable"

/-- The names of what all settings say of themselves. -/
def computedNames : List String := ["model_extra", "model_fields_set"]

/-- The names that belong to all settings of a kind. -/
def sharedNames : List String := ["__class_vars__", "__private_attributes__", "__signature__"]

/-- What became of assignments. -/
structure Assigned where
  /-- The fields and their present values. -/
  fields : List (String × Json)
  /-- Whether some assignment was let through. -/
  changed : Bool
  /-- The last name that was refused because the settings do not change. -/
  frozen : Option String

/-- Assigns to a name that starts with a low line. -/
def assignHidden (kind : String) (names : List String) (name : String) (v : Json) (a : Assigned) :
    Except AssignError Assigned :=
  let given := kindName (.json v)
  if sharedNames.contains name then .error (.shared kind name)
  else if name == "__fields_set__" then .error (.computed kind name)
  else if name == "__weakref__" then .error (.reserved name)
  else if name == "__class__" then .error (.notKind given)
  else if name == "__dict__" then
    match v with
    | .object fields =>
      .ok { a with fields := fields.filter fun f => names.contains f.1, changed := true }
    | _ => .error (.notFields given)
  else .ok { a with changed := true }

/-- Assigns to names, one after the other, up to the first error that is not a refused field. -/
def assignFrom (kind : String) (frozen : Bool) (computed names : List String) (a : Assigned) :
    List (String × Json) → Except AssignError Assigned
  | [] => .ok a
  | (name, v) :: rest => do
    let a ←
      if name.toList.head? == some '_' then assignHidden kind names name v a
      else if frozen then .ok { a with frozen := some name }
      else if computed.contains name then .error (.computed kind name)
      else if !names.contains name then .error (.unknownField kind name)
      else .ok { a with fields := Json.putField name v a.fields, changed := true }
    assignFrom kind frozen computed names a rest

/-- The fields of settings after assignments. -/
def assign (kind : String) (frozen : Bool) (computed : List String) (fields : List (String × Json))
    (assignments : List (String × Json)) : Except AssignError Assigned :=
  assignFrom kind frozen computed (fields.map (·.1)) ⟨fields, false, none⟩ assignments

end LiveTemplates.Settings
