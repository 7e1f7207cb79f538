import Interlock.Yaml.Style

/-! # Documents as text

Records are written one field a line, lists one item a line behind a dash, lists of names in
brackets on one line. Each level of a record is indented by a step, what belongs to an item by two.
-/

namespace Interlock.Yaml

/-- A value to be written. -/
inductive Value where
  /-- A number or a truth value, as it is written. -/
  | word (written : String)
  | text (s : RawText)
  /-- A list of texts in brackets. -/
  | names (items : List String)
  | list (items : List Value)
  | record (fields : List (String × Value))
deriving Inhabited

namespace Value

/-- The indentation one level deeper: the next multiple of the step. -/
def deeper (step indent : Nat) : Nat :=
  step * ((indent + step) / step)

mutual

/-- What follows the colon of a field, up to the end of its last line. -/
def fieldText (step indent : Nat) : Value → List Char
  | .word written => ' ' :: written.toList ++ ['\n']
  | .text s => ' ' :: scalarLine .block step (deeper step indent) s
  | .names items => " [".toList ++ (", ".toList).intercalate (items.map flowItem) ++ "]\n".toList
  | .list [] => " []\n".toList
  | .list (item :: items) => '\n' :: itemsText step (deeper step indent) (item :: items)
  | .record [] => " \x7b\x7d\n".toList
  | .record (field :: fields) =>
    let inner := deeper step indent
    '\n' :: spaces inner ++ fieldsText step inner (field :: fields)

/-- The items of a list, whose dashes stand at column `indent`. -/
def itemsText (step indent : Nat) : List Value → List Char
  | [] => []
  | item :: items =>
    spaces indent ++ "- ".toList ++ itemText step (indent + 2) item ++ itemsText step indent items

/-- What follows the dash of an item. -/
def itemText (step indent : Nat) : Value → List Char
  | .word written => written.toList ++ ['\n']
  | .text s => scalarLine .block step indent s
  | .names items => "[".toList ++ (", ".toList).intercalate (items.map flowItem) ++ "]\n".toList
  | .list [] => "[]\n".toList
  | .list (item :: items) =>
    "- ".toList ++ itemText step (indent + 2) item ++ itemsText step indent items
  | .record [] => "\x7b\x7d\n".toList
  | .record (field :: fields) => fieldsText step indent (field :: fields)

/-- The fields of a record at column `indent`, where the cursor stands for the first of them. -/
def fieldsText (step indent : Nat) : List (String × Value) → List Char
  | [] => []
  | [(name, value)] => name.toList ++ ':' :: fieldText step indent value
  | (name, value) :: field :: fields =>
    name.toList ++ ':' :: fieldText step indent value ++ spaces indent ++
      fieldsText step indent (field :: fields)

end

/-- A document of one value, indented in steps of `step`. -/
def render (step : Nat) (v : Value) : String :=
  String.ofList (itemText step 0 v)

end Value

end Interlock.Yaml
