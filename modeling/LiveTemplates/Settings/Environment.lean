import LiveTemplates.Json.Reader
import LiveTemplates.Settings.Failure
import LiveTemplates.Settings.SourceOptions

/-!
# Settings from variables

The variables of the environment, and those of a file, give settings by name: a name is some leading
text and the name of a field, and its case does not matter. A field that is not a single value is
written as JSON. If a delimiter is agreed upon, a variable can also give a member of such a field:
its name goes on with the delimiter and the name of the member.

Arguments give settings under the names of fields, in any case. If one field is given in several
spellings, the first one counts.

Names, JSON values and members are those that pydantic-settings documents for variables.
-/

namespace LiveTemplates.Settings

/-- Variables and their values. -/
abbrev Variables := List (String × String)

/-- The pairs with one more, which takes the place of an earlier one of the same name. -/
def putPair {α : Type} (name : String) (a : α) : List (String × α) → List (String × α)
  | [] => [(name, a)]
  | e :: rest => if e.1 == name then (name, a) :: rest else e :: putPair name a rest

/-! ## Fields -/

/-- A member of a field. -/
structure Member where
  name : String
  /-- Whether it is written as JSON in a variable of its own. -/
  asJson : Bool

/-- How a field is written in a variable. -/
inductive FieldForm
  /-- As it is. -/
  | text
  /-- As JSON. -/
  | json
  /-- As JSON, an object with values for members. -/
  | group (members : List Member)

/-- A field of a group of settings. -/
structure Field where
  name : String
  form : FieldForm

/-- A field as a member of the group that it belongs to. -/
def Field.toMember (f : Field) : Member where
  name := f.name
  asJson := match f.form with
    | .text => false
    | _ => true

/-- The members of a field that can be told apart. -/
def FieldForm.members : FieldForm → List Member
  | .group members => members
  | _ => []

/-! ## Names

A name that is given stands for the field that it is in lower case.
-/

/-- What is given for a field, in the first spelling of its name. -/
def givenFor? {α : Type} (given : List (String × α)) (field : String) : Option α :=
  (given.find? fun g => Text.lowercaseString g.1 == field).map (·.2)

/-- What is given for some fields, under their own names. -/
def givenFields {α : Type} (fields : List Field) (given : List (String × α)) : List (String × α) :=
  fields.filterMap fun f => (givenFor? given f.name).map (f.name, ·)

/-- The given names that stand for no field. -/
def unknownNames {α : Type} (fields : List Field) (given : List (String × α)) : List String :=
  (given.map (·.1)).filter fun n => !fields.any (·.name == Text.lowercaseString n)

/-- An object with the names of members that its names stand for. Of several values the last counts. -/
def withMemberNames (members : List Member) : Json → Json
  | .object fields => .object <| fields.foldl
      (fun fields f =>
        let name := Text.lowercaseString f.1
        Json.putField (if members.any (·.name == name) then name else f.1) f.2 fields) []
  | v => v

/-! ## Variables that a source offers -/

/-- What a variable says. -/
inductive Saying
  | text (s : String)
  /-- The text is the one that stands for no value. -/
  | nothing (s : String)

/-- The text of a variable. -/
def Saying.source : Saying → String
  | .text s | .nothing s => s

/-- What a variable gives to a field that is not written as JSON. -/
def Saying.toJson : Saying → Json
  | .text s => .string s
  | .nothing _ => .null

/-- Variables by the names under which they are compared. One may say nothing at all. -/
abbrev Offer := List (String × Option Saying)

/-- What a text says. -/
def SourceOptions.say (o : SourceOptions) (s : String) : Saying :=
  if o.noneText = some s then .nothing s else .text s

/-- The variables that a source offers. Of several ones under one name the last counts. -/
def SourceOptions.offer (o : SourceOptions) (entries : List (String × Option String)) : Offer :=
  (entries.filter fun e => !(o.ignoreEmpty && e.2 == some "")).foldl
    (fun offer e => putPair (o.key e.1) (e.2.map o.say) offer) []

/-- The name of the variable of a field. -/
def SourceOptions.keyOf? (o : SourceOptions) (f : Field) : Option String :=
  o.leading.map fun leading => o.key (leading ++ f.name)

/-! ## Members in variables of their own -/

/-- The names in the rest of a variable's name. -/
def SourceOptions.splitName (o : SourceOptions) (delimiter rest : String) : List String :=
  let parts := rest.splitOn delimiter
  match o.maxSplits with
  | none => parts
  | some n =>
    if parts.length ≤ n + 1 then parts
    else parts.take n ++ [delimiter.intercalate (parts.drop n)]

/--
The fields of an object with a value at the end of a path. Objects are made on the way where there is
nothing; where there is something else, it stays. A value of no text does not replace another one,
unless that is an object without fields.
-/
def putBelow (v : Json) (yields : Bool) : List String → List (String × Json) → List (String × Json)
  | [], fields => fields
  | [name], fields =>
    match fields.lookup name with
    | none | some (.object []) => Json.putField name v fields
    | some _ => if yields then fields else Json.putField name v fields
  | name :: rest, fields =>
    match fields.lookup name with
    | none => Json.putField name (.object (putBelow v yields rest [])) fields
    | some (.object inner) => Json.putField name (.object (putBelow v yields rest inner)) fields
    | some _ => fields

/-- Whether a path of names leads to a member that is written as JSON. -/
def SourceOptions.leadsToJson (o : SourceOptions) (members : List Member) : List String → Bool
  | [name] => members.any fun m => m.asJson && m.name == o.key name
  | _ => false

/-- The fields of an object with what a variable says at the end of a path, if that can be read. -/
def SourceOptions.addMember? (o : SourceOptions) (members : List Member) (path : List String)
    (said : Option Saying) (fields : List (String × Json)) : Option (List (String × Json)) :=
  match said with
  | none => some (putBelow .null false path fields)
  | some said =>
    if o.leadsToJson members path && said.source != "" then
      (Json.parse? said.source).map fun v => putBelow v false path fields
    else
      match said with
      | .text s => some (putBelow (.string s) false path fields)
      | .nothing _ => some (putBelow .null true path fields)

/-- The members of a field that variables of their own give. -/
def SourceOptions.members? (o : SourceOptions) (f : Field) (key : String) (offer : Offer) :
    Option (List (String × Json)) :=
  match o.delimiter with
  | none => some []
  | some delimiter =>
    let start := key ++ delimiter
    offer.foldlM
      (fun fields e =>
        if start.toList.isPrefixOf e.1.toList then
          let path := o.splitName delimiter (String.ofList (e.1.toList.drop start.length))
          o.addMember? f.form.members path e.2 fields
        else some fields)
      []

/-! ## Reading a source -/

/-- What an offer gives to a field under a name; nothing at all if that cannot be read. -/
def SourceOptions.fieldValue? (o : SourceOptions) (f : Field) (key : String) (offer : Offer) :
    Option (Option Json) :=
  let said := (offer.lookup key).join
  match f.form, said with
  | .text, _ => some (said.map Saying.toJson)
  | _, some (.nothing _) => some (some .null)
  | _, none =>
    (o.members? f key offer).map fun fields =>
      if fields.isEmpty then none else some (.object fields)
  | _, some (.text s) =>
    match Json.parse? s with
    | none => none
    | some .null => some none
    | some (.object fields) =>
      (o.members? f key offer).map fun more => some (.object (Json.mergeFields fields more))
    | some v => some (some v)

/-- A value as a field takes it. -/
def SourceOptions.adapt (o : SourceOptions) (f : Field) (v : Json) : Json :=
  match f.form with
  | .group members => if o.caseSensitive then v else withMemberNames members v
  | _ => v

/-- The settings that an offer of the named source gives to fields. -/
def SourceOptions.fromOffer (o : SourceOptions) (source : String) (offer : Offer) :
    List Field → Except Failure (List (String × Json))
  | [] => .ok []
  | f :: rest =>
    match o.keyOf? f with
    | none => .error (.unknownVariable f.name source)
    | some key =>
      match o.fieldValue? f key offer with
      | none => .error (.unreadableVariable f.name source)
      | some v => (o.fromOffer source offer rest).map fun others =>
          match v with
          | none => others
          | some v => (f.name, o.adapt f v) :: others

/--
The names in an offer that stand for no field and no part of one. A variable with no text is not told
of, nor is one with the bare name of a field if names have some leading text.
-/
def SourceOptions.strays (o : SourceOptions) (fields : List Field) (offer : Offer) : List String :=
  let bare := fun (name : String) =>
    o.leading != some "" && fields.any (·.name == name)
  let used := fun (name : String) => fields.any fun f =>
    match o.keyOf? f, f.form with
    | none, _ => false
    | some v, .text => v == name
    | some v, _ => v.toList.isPrefixOf name.toList
  (offer.filter fun e =>
    (e.2.map Saying.source).getD "" != "" && !bare e.1 && !used e.1).map (·.1)

/-! ## Several sources -/

/-- The value that sources together give to a field; the earlier a source, the more it counts. -/
def combined (sources : List (List (String × Json))) (name : String) : Option Json :=
  sources.foldl
    (fun given source =>
      match given, source.lookup name with
      | some v, some w => some (Json.merge w v)
      | v, w => v.or w)
    none

/-- A value before another one: it takes the other's place, but objects are merged. -/
def Value.over : Value → Json → Value
  | .json v, w => .json (Json.merge w v)
  | v, _ => v

/-- The value of a field from arguments, which go before, and from other sources. -/
def givenOver (arguments : List (String × Value)) (others : String → Option Json) (name : String) :
    Option Value :=
  match arguments.lookup name, others name with
  | some v, some w => some (v.over w)
  | v, w => v.or (w.map .json)

/-! ## Reading fields -/

/-- A field of a group: the given value if there is one, and else the default. -/
def readField {α : Type} (given : String → Option Value) (name : String)
    (read : Value → Except ProblemKind α) (default : α) : Except Problem α :=
  match given name with
  | none => .ok default
  | some v => (read v).mapError fun k => ⟨[.string name], k⟩

/-- The problem of a field, if it has one. -/
def problemOf {α : Type} : Except Problem α → List Problem
  | .error p => [p]
  | .ok _ => []

end LiveTemplates.Settings
