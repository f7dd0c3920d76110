import MultiTape.Decimal.Shortest
import MultiTape.Text.Quoted

/-!
# JSON values

The values of the data format in which settings and log entries are written. Integers and
floating-point numbers are different values, and an object keeps its members in order.

## Main definitions

* `Json`: the values
* `Json.kindName`: the name under which a message mentions the kind of a value
* `Json.display`, `Json.plain`: a value as messages and listings show it
-/

namespace MultiTape

/-- A JSON value. -/
inductive Json where
  /-- The null value. -/
  | null
  /-- A truth value. -/
  | bool (b : Bool)
  /-- An integer of any size. -/
  | int (n : Int)
  /-- A number with a fraction or an exponent. -/
  | float (x : Binary64)
  /-- A string. -/
  | str (t : Text)
  /-- A list of values. -/
  | arr (items : List Json)
  /-- Named values in order, each name once. -/
  | obj (members : List (Text × Json))
  deriving Repr, Inhabited

namespace Json

/-- The name under which a message mentions the kind of a value. -/
def kindName : Json → Text
  | .null => "NoneType".toText
  | .bool _ => "bool".toText
  | .int _ => "int".toText
  | .float _ => "float".toText
  | .str _ => "str".toText
  | .arr _ => "list".toText
  | .obj _ => "dict".toText

mutual

/-- A value as messages show it: strings quoted, containers in brackets. -/
def display : Json → Text
  | .null => "None".toText
  | .bool true => "True".toText
  | .bool false => "False".toText
  | .int n => Text.decimal n
  | .float x => Shortest.render "inf".toText "nan".toText x
  | .str t => Text.quoted t
  | .arr items => .char '[' :: List.intercalate ", ".toText (displayItems items) ++ [.char ']']
  | .obj members =>
    .ofNat 0x7b :: List.intercalate ", ".toText (displayMembers members) ++ [.ofNat 0x7d]

/-- The items of a list as messages show them. -/
def displayItems : List Json → List Text
  | [] => []
  | item :: rest => display item :: displayItems rest

/-- The members of an object as messages show them. -/
def displayMembers : List (Text × Json) → List Text
  | [] => []
  | (key, value) :: rest => (Text.quoted key ++ ": ".toText ++ display value) :: displayMembers rest

end

/-- A value as listings show it: a string stands for itself, all else is shown as in messages. -/
def plain : Json → Text
  | .str t => t
  | v => v.display

/-- Whether a value counts as true: not null, false, zero or empty. -/
def truthy : Json → Bool
  | .null => false
  | .bool b => b
  | .int n => n != 0
  | .float (.finite _ m _) => m != 0
  | .float _ => true
  | .str t => !t.isEmpty
  | .arr items => !items.isEmpty
  | .obj members => !members.isEmpty

/-- Puts a member into an object: at its old place if the name is there, else at the end. -/
def insertMember (key : Text) (value : Json) : List (Text × Json) → List (Text × Json)
  | [] => [(key, value)]
  | (k, v) :: rest => if k = key then (k, value) :: rest else (k, v) :: insertMember key value rest

end Json

end MultiTape
