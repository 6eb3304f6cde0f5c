import EffectLang.Toml.Reader
import EffectLang.Toml.Value

/-! TOML numbers, dates and times. Each of these readers takes the longest text that fits its rule,
or nothing at all; whether something may follow is for the caller to say. -/
namespace EffectLang.Toml

/-- Digits with single underscores between them; the underscores are dropped. -/
def digitRun (isDigit : Char → Bool) : Text → Text × Text
  | '_' :: c :: rest =>
    if isDigit c then
      let (digits, rest) := digitRun isDigit rest
      (c :: digits, rest)
    else ([], '_' :: c :: rest)
  | c :: rest =>
    if isDigit c then
      let (digits, rest) := digitRun isDigit rest
      (c :: digits, rest)
    else ([], c :: rest)
  | [] => ([], [])

/-- A run of digits that begins with a digit. -/
def digitRun? (isDigit : Char → Bool) (cs : Text) : Option (Text × Text) :=
  if cs.head?.any isDigit then some (digitRun isDigit cs) else none

/-! ## Dates and times -/

/-- A number of exactly `count` digits within bounds. -/
def fixedNumber? (count least greatest : Nat) (cs : Text) : Option (Nat × Text) :=
  let digits := cs.take count
  if digits.length = count ∧ digits.all Char.isDigit then
    let value := ofDigits digits
    if least ≤ value ∧ value ≤ greatest then some (value, cs.drop count) else none
  else none

/-- Takes one given character. -/
def takeChar? (c : Char) : Text → Option Text
  | d :: rest => if c = d then some rest else none
  | [] => none

def daysInMonth (year month : Nat) : Nat :=
  if month = 2 then
    if year % 4 = 0 ∧ (year % 100 ≠ 0 ∨ year % 400 = 0) then 29 else 28
  else if month = 4 ∨ month = 6 ∨ month = 9 ∨ month = 11 then 30
  else 31

/-- Whether the day exists. -/
def Date.exists (d : Date) : Bool :=
  1 ≤ d.year && d.day ≤ daysInMonth d.year d.month

/-- Year, month and day; the day need not exist. -/
def date? (cs : Text) : Option (Date × Text) := do
  let (year, cs) ← fixedNumber? 4 0 9999 cs
  let cs ← takeChar? '-' cs
  let (month, cs) ← fixedNumber? 2 1 12 cs
  let cs ← takeChar? '-' cs
  let (day, cs) ← fixedNumber? 2 1 31 cs
  return (⟨year, month, day⟩, cs)

/-- The fraction of a second in microseconds; further digits are dropped. -/
def microseconds (cs : Text) : Nat × Text :=
  match cs with
  | '.' :: rest =>
    match rest.takeWhile Char.isDigit with
    | [] => (0, cs)
    | digits => (ofDigits ((digits ++ List.replicate 6 '0').take 6), rest.dropWhile Char.isDigit)
  | _ => (0, cs)

def clock? (cs : Text) : Option (Clock × Text) := do
  let (hour, cs) ← fixedNumber? 2 0 23 cs
  let cs ← takeChar? ':' cs
  let (minute, cs) ← fixedNumber? 2 0 59 cs
  let cs ← takeChar? ':' cs
  let (second, cs) ← fixedNumber? 2 0 59 cs
  let (microsecond, cs) := microseconds cs
  return (⟨hour, minute, second, microsecond⟩, cs)

/-- An offset of hours and minutes. -/
def hourOffset? (sign : Int) (cs : Text) : Option (Int × Text) := do
  let (hour, cs) ← fixedNumber? 2 0 23 cs
  let cs ← takeChar? ':' cs
  let (minute, cs) ← fixedNumber? 2 0 59 cs
  return (sign * (60 * hour + minute), cs)

/-- An offset from universal time, if there is one. -/
def offset (cs : Text) : Option Int × Text :=
  let found := match cs with
    | c :: rest =>
      if c = 'Z' ∨ c = 'z' then some (0, rest)
      else if c = '+' then hourOffset? 1 rest
      else if c = '-' then hourOffset? (-1) rest
      else none
    | [] => none
  match found with
  | some (minutes, rest) => (some minutes, rest)
  | none => (none, cs)

/-- The time of a date, if one follows it. -/
def timeOfDate? (cs : Text) : Option (Clock × Option Int × Text) :=
  match cs with
  | c :: rest =>
    if c = 'T' ∨ c = 't' ∨ c = ' ' then
      (clock? rest).map fun (clock, rest) => (clock, offset rest)
    else none
  | [] => none

/-- A date, a moment, or a time of day. -/
def calendar? (cs : Text) : Option (Except Failure (Value × Text)) :=
  match date? cs with
  | some (date, rest) =>
    some <|
      if !date.exists then malformed
      else
        match timeOfDate? rest with
        | some (clock, offset, rest) => .ok (.moment date clock offset, rest)
        | none => .ok (.date date, rest)
  | none => (clock? cs).map fun (clock, rest) => .ok (.clock clock, rest)

/-! ## Numbers -/

def isBinaryDigit (c : Char) : Bool :=
  c = '0' || c = '1'

def isOctalDigit (c : Char) : Bool :=
  '0' ≤ c && c ≤ '7'

/-- An integer with a mark for its base. -/
def markedInteger? : Text → Option (Value × Text)
  | '0' :: mark :: rest => do
    let (base, isDigit) ←
      if mark = 'x' then some (16, fun c => (hexValue? c).isSome)
      else if mark = 'b' then some (2, isBinaryDigit)
      else if mark = 'o' then some (8, isOctalDigit)
      else none
    let (digits, rest) ← digitRun? isDigit rest
    let value := digits.foldl (fun n c => base * n + (hexValue? c).getD 0) 0
    return (.integer (Int.ofNat value), rest)
  | _ => none

/-- The digits before the point: a zero alone, or digits that do not begin with one. -/
def wholeDigits? : Text → Option (Text × Text)
  | '0' :: rest => some (['0'], rest)
  | cs => digitRun? Char.isDigit cs

/-- A point and the digits after it, if they follow. -/
def fractionDigits? : Text → Option (Text × Text)
  | '.' :: rest => digitRun? Char.isDigit rest
  | _ => none

/-- A power of ten, if one follows. -/
def power? : Text → Option (Int × Text)
  | c :: rest =>
    if c = 'e' ∨ c = 'E' then do
      let (negative, rest) := match rest with
        | '-' :: rest => (true, rest)
        | '+' :: rest => (false, rest)
        | rest => (false, rest)
      let (digits, rest) ← digitRun? Char.isDigit rest
      return (if negative then -(ofDigits digits) else ofDigits digits, rest)
    else none
  | [] => none

/-- A decimal number: an integer when neither a fraction nor a power of ten follows. -/
def decimalNumber? (cs : Text) : Option (Except Failure (Value × Text)) := do
  let (negative, cs) := match cs with
    | '-' :: rest => (true, rest)
    | '+' :: rest => (false, rest)
    | cs => (false, cs)
  let (whole, cs) ← wholeDigits? cs
  match fractionDigits? cs, power? ((fractionDigits? cs).elim cs Prod.snd) with
  | none, none =>
    if numeralDigitLimit < whole.length then return .error (.integerTooLong whole.length)
    else
      let magnitude : Int := ofDigits whole
      return .ok (.integer (if negative then -magnitude else magnitude), cs)
  | fraction, power =>
    let fractionDigits := fraction.elim [] Prod.fst
    let rest := power.elim (fraction.elim cs Prod.snd) Prod.snd
    let decimal : Decimal :=
      ⟨ofDigits (whole ++ fractionDigits), power.elim 0 Prod.fst - fractionDigits.length⟩
    return .ok (.float (decimal.toDoubleClamped negative), rest)

/-- Infinity and not-a-number by name. -/
def namedNumber? (cs : Text) : Option (Value × Text) :=
  let (negative, rest) := match cs with
    | '-' :: rest => (true, rest)
    | '+' :: rest => (false, rest)
    | cs => (false, cs)
  match rest with
  | 'i' :: 'n' :: 'f' :: rest => some (.float (.infinity negative), rest)
  | 'n' :: 'a' :: 'n' :: rest => some (.float (.nan negative), rest)
  | _ => none

/-- A truth value. -/
def boolean? : Text → Option (Value × Text)
  | 't' :: 'r' :: 'u' :: 'e' :: rest => some (.boolean true, rest)
  | 'f' :: 'a' :: 'l' :: 's' :: 'e' :: rest => some (.boolean false, rest)
  | _ => none

/-- A value without parts that is no string. Dates come before numbers, because their years read
as numbers. -/
def scalar : Reader Value := fun cs =>
  match boolean? cs with
  | some found => .ok found
  | none =>
    match calendar? cs with
    | some found => found
    | none =>
      match markedInteger? cs with
      | some found => .ok found
      | none =>
        match decimalNumber? cs with
        | some found => found
        | none =>
          match namedNumber? cs with
          | some found => .ok found
          | none => malformed

end EffectLang.Toml
