import FormIntegrity.Json.Value
import FormIntegrity.NameMap

/-!
# Reading records from JSON

The rules by which a JSON value is read as a record of named fields, or as a field's type:

* a record is an object, read by field name, or an array, read by position;
* in an object, members with unknown names are ignored, and a known name given twice is refused;
* an array may be shorter than the record, but not longer;
* a field that is absent takes its default when it has one, and a field of an optional type is
  absent-as-`null` only in an object;
* `null` stands for nothing only where the field is optional;
* a count is an integer literal from `0` to `2 ^ 64 - 1`;
* a choice among named constants is the name as a string, or an object whose one member has the
  name and `null`.
-/

namespace FormIntegrity.Json

/-- A record's fields as read: one entry per field name, `none` where it is absent, and whether
the record was written as an array. -/
structure Fields where
  values : List (Option Value)
  positional : Bool

/-- The member named `name`, refusing one given twice. -/
def member? (members : List (String × Value)) (name : String) : Option (Option Value) :=
  match members.filter (·.1 == name) with
  | [] => some none
  | [(_, v)] => some (some v)
  | _ => none

/-- Reads a value as a record with the given field names. -/
def Value.fields? (names : List String) : Value → Option Fields
  | .obj members => (names.mapM (member? members)).map (⟨·, false⟩)
  | .arr items =>
    if items.length ≤ names.length then
      some ⟨(List.range names.length).map (items[·]?), true⟩
    else none
  | _ => none

/-- A field at a position of the record. -/
def Fields.get (f : Fields) (i : Nat) : Option Value :=
  (f.values[i]?).getD none

/-- A required field, read with `read`. -/
def Fields.required {α : Type} (f : Fields) (i : Nat) (read : Value → Option α) : Option α :=
  (f.get i).bind read

/-- A field with a default, read with `read`. -/
def Fields.withDefault {α : Type} (f : Fields) (i : Nat) (dflt : α) (read : Value → Option α) :
    Option α :=
  match f.get i with
  | none => some dflt
  | some v => read v

/-- A field of an optional type without a default: absent from an object means nothing, absent
from an array is refused. -/
def Fields.optional {α : Type} (f : Fields) (i : Nat) (read : Value → Option α) : Option (Option α) :=
  match f.get i with
  | none => if f.positional then none else some none
  | some .null => some none
  | some v => (read v).map some

/-- The first member of an object with a name. -/
def Value.lookup? (v : Value) (name : String) : Option Value :=
  match v with
  | .obj members => (members.find? (·.1 == name)).map (·.2)
  | _ => none

/-- The item of an array at a position. -/
def Value.item? (v : Value) (i : Nat) : Option Value :=
  match v with
  | .arr items => items[i]?
  | _ => none

/-- A boolean. -/
def Value.asBool? : Value → Option Bool
  | .bool b => some b
  | _ => none

/-- A string. -/
def Value.asString? : Value → Option String
  | .str s => some s
  | _ => none

/-- A count from `0` to `2 ^ 64 - 1`. -/
def Value.asCount? : Value → Option UInt64
  | .int i => if 0 ≤ i ∧ i < Int.ofNat (Nat.pow 2 64) then some i.toNat.toUInt64 else none
  | _ => none

/-- A list of items each read with `read`. -/
def Value.asList? {α : Type} (read : Value → Option α) : Value → Option (List α)
  | .arr items => items.mapM read
  | _ => none

/-- `null` as nothing, or a value read with `read`. -/
def Value.asOption? {α : Type} (read : Value → Option α) : Value → Option (Option α)
  | .null => some none
  | v => (read v).map some

/-- The position of a named constant among `names`. -/
def Value.asChoice? (names : List String) : Value → Option Nat
  | .str s => names.idxOf? s
  | .obj [(k, .null)] => names.idxOf? k
  | _ => none

/-- A map from names to values read with `read`: an object whose members are inserted in turn,
so a later member replaces an earlier one of the same name. -/
def Value.asMap? {α : Type} (read : Value → Option α) : Value → Option (NameMap α)
  | .obj members => NameMap.ofList <$> members.mapM fun (k, v) => (read v).map (k, ·)
  | _ => none

end FormIntegrity.Json
