import EffectLang.Number.FloatText
import EffectLang.Text.Quoted

/-! The values of a TOML document, and how messages show them. -/
namespace EffectLang.Toml

structure Date where
  year : Nat
  month : Nat
  day : Nat
deriving DecidableEq

structure Clock where
  hour : Nat
  minute : Nat
  second : Nat
  microsecond : Nat
deriving DecidableEq

/-- A moment has an offset from universal time in minutes, or none when it is local. -/
inductive Value where
  | text (value : Text)
  | integer (value : Int)
  | float (value : Double)
  | boolean (value : Bool)
  | date (date : Date)
  | clock (clock : Clock)
  | moment (date : Date) (clock : Clock) (offset : Option Int)
  | array (items : List Value)
  | table (entries : List (Text × Value))

/-- A constructor of the calendar with its arguments. -/
def calendarText (name : String) (arguments : List Text) : Text :=
  ("datetime." ++ name ++ "(").toList ++ Text.join [',', ' '] arguments ++ [')']

def Date.arguments (d : Date) : List Text :=
  [digitsOf d.year, digitsOf d.month, digitsOf d.day]

/-- Seconds and microseconds are left out at the end when they are zero. -/
def Clock.arguments (c : Clock) : List Text :=
  [digitsOf c.hour, digitsOf c.minute] ++
    if c.microsecond ≠ 0 then [digitsOf c.second, digitsOf c.microsecond]
    else if c.second ≠ 0 then [digitsOf c.second]
    else []

/-- An offset from universal time. One to the west is a day less and a number of seconds more. -/
def offsetText (minutes : Int) : Text :=
  if minutes = 0 then "datetime.timezone.utc".toList
  else
    let difference :=
      if 0 < minutes then calendarText "timedelta" ["seconds=".toList ++ integerText (60 * minutes)]
      else
        calendarText "timedelta"
          ["days=-1".toList, "seconds=".toList ++ integerText (60 * (24 * 60 + minutes))]
    calendarText "timezone" [difference]

/-- The text of an integer, unless it has more digits than are ever written. -/
def showInteger? (value : Int) : Option Text :=
  if (digitsOf value.natAbs).length ≤ numeralDigitLimit then some (integerText value) else none

namespace Value

mutual

/-- The value as messages show it, unless an integer in it is too long to be written. -/
def display? : Value → Option Text
  | text value => some value.quoted
  | integer value => showInteger? value
  | float value => some value.displayText
  | boolean true => some "True".toList
  | boolean false => some "False".toList
  | date d => some (calendarText "date" d.arguments)
  | clock c => some (calendarText "time" c.arguments)
  | moment d c offset =>
    let zone := offset.toList.map fun minutes => "tzinfo=".toList ++ offsetText minutes
    some (calendarText "datetime" (d.arguments ++ c.arguments ++ zone))
  | array items => do
    let shown ← displayItems? items
    return ['['] ++ Text.join [',', ' '] shown ++ [']']
  | table entries => do
    let shown ← displayEntries? entries
    return ['\x7b'] ++ Text.join [',', ' '] shown ++ ['\x7d']

def displayItems? : List Value → Option (List Text)
  | [] => some []
  | item :: rest => do
    let shown ← item.display?
    let others ← displayItems? rest
    return shown :: others

def displayEntries? : List (Text × Value) → Option (List Text)
  | [] => some []
  | (key, value) :: rest => do
    let shown ← value.display?
    let others ← displayEntries? rest
    return (key.quoted ++ [':', ' '] ++ shown) :: others

end

end Value
end EffectLang.Toml
