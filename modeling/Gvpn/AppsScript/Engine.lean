import Gvpn.Data.Base64
import Gvpn.Data.Json

/-! What the scripts take from their engine, and how it tests values. -/

namespace Gvpn

structure Engine where
  /-- Whether a number literal stands for a natural number. -/
  readsAs : Text → Nat → Bool
  toLowerCase : Text → Text
  toUpperCase : Text → Text
  /-- The text of the error for a call of what is not a function. -/
  notAFunction : Text → Text
  /-- Decode a value in the alphabet of base 64, or say why it cannot be done. -/
  base64Decode : Json → Except Text Bytes

namespace Engine

variable (engine : Engine)

def truthy : Json → Bool
  | .null => false
  | .bool value => value
  | .num literal => !engine.readsAs literal 0
  | .str text => text ≠ []
  | .arr _ => true
  | .obj _ => true

def member (value : Json) (key : Text) : Option Json := (value.get key).filter engine.truthy

end Engine

def isObject : Json → Bool
  | .arr _ => true
  | .obj _ => true
  | _ => false

def inheritedNames : List Text :=
  [lit "constructor", lit "__defineGetter__", lit "__defineSetter__", lit "hasOwnProperty",
    lit "__lookupGetter__", lit "__lookupSetter__", lit "isPrototypeOf",
    lit "propertyIsEnumerable", lit "toString", lit "valueOf", lit "__proto__",
    lit "toLocaleString"]

def tableHas (table : List Text) (name : Text) : Bool := name ∈ table ∨ name ∈ inheritedNames

def ownEntries : Json → List (Text × Json)
  | .arr items => items.zipIdx.map fun (item, i) => (decimal i, item)
  | .obj members =>
    (members.map Prod.fst).eraseDups.filterMap fun name =>
      ((Json.obj members).get name).map fun value => (name, value)
  | _ => []

def plainEngine : Engine where
  readsAs literal n := literal = decimal n
  toLowerCase := lower
  toUpperCase := List.map Char.toUpper
  notAFunction name := name ++ lit " is not a function"
  base64Decode value :=
    match value.asStr.bind Base64.decode with
    | some data => .ok data
    | none => .error (lit "Could not decode string.")

end Gvpn
