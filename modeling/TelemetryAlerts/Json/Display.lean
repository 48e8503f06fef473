import TelemetryAlerts.Json.Writer

/-!
# Values for readers

How a value is shown inside a sentence: a text as it stands, everything else in a
compact form in which texts are quoted.
-/

namespace TelemetryAlerts
namespace Json

/-- The decisions of the shown form of a value. -/
structure DisplayStyle where
  null : String
  trueWord : String
  falseWord : String
  itemSeparator : String
  keySeparator : String
  numbers : Number.Layout

/-- The form in which values are shown. -/
def DisplayStyle.standard : DisplayStyle where
  null := "None"
  trueWord := "True"
  falseWord := "False"
  itemSeparator := ", "
  keySeparator := ": "
  numbers := Number.Layout.standard

mutual

/-- A value inside another. -/
def DisplayStyle.inner (d : DisplayStyle) : Json → List Char
  | .null => d.null.toList
  | .bool true => d.trueWord.toList
  | .bool false => d.falseWord.toList
  | .int n => intText n
  | .float x => (d.numbers.float x).toList
  | .str s => (Text.quoted s).toList
  | .arr [] => ['[', ']']
  | .arr (v :: rest) => '[' :: d.inner v ++ d.innerItems rest
  | .obj [] => ['\x7b', '\x7d']
  | .obj ((k, v) :: rest) =>
    '\x7b' :: (Text.quoted k).toList ++ d.keySeparator.toList ++ d.inner v ++ d.innerFields rest

/-- The items after the first one, and the closing bracket. -/
def DisplayStyle.innerItems (d : DisplayStyle) : List Json → List Char
  | [] => [']']
  | v :: rest => d.itemSeparator.toList ++ d.inner v ++ d.innerItems rest

/-- The fields after the first one, and the closing brace. -/
def DisplayStyle.innerFields (d : DisplayStyle) : List (String × Json) → List Char
  | [] => ['\x7d']
  | (k, v) :: rest =>
    d.itemSeparator.toList ++ (Text.quoted k).toList ++ d.keySeparator.toList ++ d.inner v ++
      d.innerFields rest

end

/-- A value as it is shown. -/
def display (v : Json) : String :=
  match v with
  | .str s => s
  | v => String.ofList (DisplayStyle.standard.inner v)

end Json
end TelemetryAlerts
