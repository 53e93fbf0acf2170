import InputActions.Json.Basic

/-!
# Records and choices in JSON

A record of named fields is an object, whose other members are ignored, or an array of the fields in
their order. An object may give a field once only. Where every field has a default, any may be
missing from an object and the last ones from an array. A choice among names is the name as a
string, or an object with that name alone, whose value is null.
-/

namespace InputActions.Json

/-- The values of the fields of a record, in the order of their names; an array must have at least
`least` of them. -/
def fields? (names : List String) (least : Nat) : Json → Option (List (Option Json))
  | .obj members =>
    if names.all fun name => (members.filter (·.1 == name)).length ≤ 1 then
      some (names.map fun name => lookup members name)
    else none
  | .arr items =>
    if least ≤ items.length ∧ items.length ≤ names.length then
      some (items.map some ++ List.replicate (names.length - items.length) none)
    else none
  | _ => none

/-- What a name or a singleton of a name stands for. -/
def choice? {α : Type} (names : List (String × α)) : Json → Option α
  | .str name => (names.find? (·.1 == name)).map (·.2)
  | .obj [(name, .null)] => (names.find? (·.1 == name)).map (·.2)
  | _ => none

/-- A field that may be left out, and must be well-formed if it is there. -/
def default? {α : Type} (value : α) (read? : Json → Option α) : Option Json → Option α
  | none => some value
  | some field => read? field

end InputActions.Json
