import TableDiff.Calendar.Timestamp
import TableDiff.Text.Blank
import TableDiff.Text.Digits

/-!
# Patterns of dates and times

A pattern is a list of pieces that a text must consist of. Numbers are read leniently, with blanks
before them and fewer digits than usual, or strictly with all their digits. Reading a pattern
fills in `Fields`, from which a date, a time of day or an offset is taken.
-/

namespace TableDiff.Calendar

open TableDiff.Text

/-- The parts of a date and time that a text has given so far. -/
structure Fields where
  year : Option Int := none
  month : Option Nat := none
  day : Option Nat := none
  hour : Option Nat := none
  minute : Option Nat := none
  second : Option Nat := none
  fraction : Option Nat := none
  /-- In minutes to the east. -/
  offset : Option Int := none
  deriving DecidableEq, Repr

namespace Fields

/-- The date of the fields, if they give one that the calendar has. -/
def date? (f : Fields) : Option Date := do
  Date.ofParts? (← f.year) (← f.month) (← f.day)

/-- The time of the fields; the second and its fraction may be missing. -/
def time? (f : Fields) : Option TimeOfDay := do
  TimeOfDay.ofParts? (← f.hour) (← f.minute) (f.second.getD 0) (f.fraction.getD 0)

/-- The date and time of the fields. -/
def timestamp? (f : Fields) : Option Timestamp := do
  return ⟨← f.date?, ← f.time?⟩

/-- The date and time of the fields as a reading at their offset. -/
def zoned? (f : Fields) : Option ZonedTimestamp := do
  ZonedTimestamp.ofReading? (← f.timestamp?) (60 * (← f.offset))

end Fields

/-- The numbers of a date and time. -/
inductive Slot where
  | year
  | month
  | day
  | hour
  | minute
  | second
  deriving DecidableEq, Repr

/-- The usual number of digits. -/
def Slot.width : Slot → Nat
  | .year => 4
  | _ => 2

/-- The fields with a number filled in. -/
def Slot.put (f : Fields) (value : Int) : Slot → Fields
  | .year => { f with year := some value }
  | .month => { f with month := some value.toNat }
  | .day => { f with day := some value.toNat }
  | .hour => { f with hour := some value.toNat }
  | .minute => { f with minute := some value.toNat }
  | .second => { f with second := some value.toNat }

/-- How an offset from UTC may be written. -/
structure OffsetForm where
  /-- The letter `Z` of either case stands for UTC. -/
  zulu : Bool
  /-- The word `UTC` in any case stands for UTC. -/
  word : Bool
  /-- Any colons and blanks, or none, may stand between hours and minutes; else one colon. -/
  looseColon : Bool
  deriving DecidableEq, Repr

/-- A part of a pattern. -/
inductive Piece where
  /-- A number of up to its usual number of digits after blanks; a year may also have a sign and
  then any number of digits. -/
  | lenient (slot : Slot)
  /-- A number with exactly its usual number of digits. -/
  | strict (slot : Slot)
  /-- A point and digits of which nine count, or nothing. -/
  | fraction
  /-- Any number of blanks. -/
  | blanks
  /-- One of these characters. -/
  | mark (choices : List Char)
  /-- An offset from UTC. -/
  | offset (form : OffsetForm)
  deriving DecidableEq, Repr

/-- A text's shape. -/
abbrev Pattern := List Piece

/-! ## Reading the pieces -/

/-- The leading digits of a text, at most `width` of them, and what follows. -/
def takeDigits : Nat → List Char → List Char × List Char
  | n + 1, c :: cs =>
    if isDigit c then
      let (ds, rest) := takeDigits n cs
      (c :: ds, rest)
    else ([], c :: cs)
  | _, cs => ([], cs)

/-- A number of one to `width` digits and what follows it. -/
def takeNumber? (width : Nat) (cs : List Char) : Option (Nat × List Char) :=
  match takeDigits width cs with
  | ([], _) => none
  | (ds, rest) => some (natOfDigits ds, rest)

/-- A number at the start of a text, read leniently. -/
def Slot.takeLenient? (slot : Slot) (cs : List Char) : Option (Int × List Char) :=
  let cs := trimStart cs
  let unsigned := takeNumber? slot.width cs
  match slot, cs with
  | .year, '-' :: rest => (takeNumber? rest.length rest).map fun (n, rest) => (-n, rest)
  | .year, '+' :: rest => (takeNumber? rest.length rest).map fun (n, rest) => (n, rest)
  | _, _ => unsigned.map fun (n, rest) => (n, rest)

/-- A number at the start of a text with all its digits. -/
def Slot.takeStrict? (slot : Slot) (cs : List Char) : Option (Int × List Char) :=
  match takeDigits slot.width cs with
  | (ds, rest) => if ds.length = slot.width then some (natOfDigits ds, rest) else none

/-- A fraction of a second in nanoseconds at the start of a text, if there is a point. -/
def takeFraction? : List Char → Option (Option Nat × List Char)
  | '.' :: cs =>
    match takeDigits 9 cs with
    | ([], _) => none
    | (ds, rest) => some (some (natOfDigits ds * Nat.pow 10 (9 - ds.length)), rest.dropWhile isDigit)
  | cs => some (none, cs)

/-- The sign of an offset; a typographic minus sign is one too. -/
def offsetSign? (c : Char) : Option Int :=
  if c = '+' then some 1 else if c = '-' ∨ c = '−' then some (-1) else none

/-- What separates hours and minutes of an offset, taken off a text. -/
def OffsetForm.dropColon? (form : OffsetForm) (cs : List Char) : Option (List Char) :=
  if form.looseColon then some (cs.dropWhile fun c => c = ':' || isBlank c)
  else match cs with
    | ':' :: rest => some rest
    | _ => none

/-- An offset with a sign, two digits of hours and two digits of minutes, in minutes. -/
def OffsetForm.takeSigned? (form : OffsetForm) : List Char → Option (Int × List Char)
  | s :: h1 :: h2 :: rest => do
    let sign ← offsetSign? s
    if !(isDigit h1 && isDigit h2) then none
    match ← form.dropColon? rest with
    | m1 :: m2 :: rest =>
      if isDigit m1 && isDigit m2 && digitValue m1 < 6 then
        some (sign * (natOfDigits [h1, h2] * 60 + natOfDigits [m1, m2]), rest)
      else none
    | _ => none
  | _ => none

/-- An offset at the start of a text, in minutes. -/
def OffsetForm.take? (form : OffsetForm) (cs : List Char) : Option (Int × List Char) :=
  if form.word && (cs.take 3).map Char.toLower = ['u', 't', 'c'] then some (0, cs.drop 3)
  else match cs with
    | c :: rest =>
      if form.zulu && (c = 'Z' || c = 'z') then some (0, rest) else form.takeSigned? cs
    | [] => none

/-- One piece taken off a text. -/
def Piece.take? (f : Fields) (cs : List Char) : Piece → Option (Fields × List Char)
  | .lenient slot => (slot.takeLenient? cs).map fun (n, rest) => (slot.put f n, rest)
  | .strict slot => (slot.takeStrict? cs).map fun (n, rest) => (slot.put f n, rest)
  | .fraction => (takeFraction? cs).map fun (n, rest) => ({ f with fraction := n }, rest)
  | .blanks => some (f, trimStart cs)
  | .mark choices =>
    match cs with
    | c :: rest => if c ∈ choices then some (f, rest) else none
    | [] => none
  | .offset form => (form.take? cs).map fun (n, rest) => ({ f with offset := some n }, rest)

/-- All pieces of a pattern taken off a text. -/
def Pattern.take? (f : Fields) (cs : List Char) : Pattern → Option (Fields × List Char)
  | [] => some (f, cs)
  | piece :: pattern =>
    match piece.take? f cs with
    | none => none
    | some (f, rest) => Pattern.take? f rest pattern

/-- The fields of a text that fits a pattern to its end. -/
def Pattern.read? (pattern : Pattern) (cs : List Char) : Option Fields :=
  match Pattern.take? {} cs pattern with
  | some (f, []) => some f
  | _ => none

end TableDiff.Calendar
