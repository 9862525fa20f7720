import TableDiff.Text.Digits

/-!
# UUIDs

Sixteen bytes, written as five groups of hexadecimal digits with hyphens between them. Reading
also accepts the thirty-two digits without hyphens and the hyphenated form in braces or after
`urn:uuid:`. A text that is none of these is diagnosed: by its first character that can stand in
no UUID, by its length, by the number of its groups, or by the length of its first wrong group.
-/

namespace TableDiff

open TableDiff.Text

/-- A universally unique identifier. -/
structure Uuid where
  bytes : List UInt8
  length_eq : bytes.length = 16
  deriving DecidableEq

namespace Uuid

/-- Why a text or a byte string is no UUID. -/
inductive Fault where
  | character (c : Char) (index : Nat)
  | digitCount (found : Nat)
  | byteCount (found : Nat)
  | groupCount (found : Nat)
  | groupLength (group found : Nat)
  deriving DecidableEq, Repr

/-- The number of digits of each group. -/
def groupLengths : List Nat := [8, 4, 4, 4, 12]

def Fault.message : Fault → String
  | .character c i => s!"invalid character: found `{c}` at {i}"
  | .digitCount n => s!"invalid length: found {n}"
  | .byteCount n => s!"invalid length: expected 16 bytes, found {n}"
  | .groupCount n => s!"invalid group count: expected 5, found {n}"
  | .groupLength g n =>
    s!"invalid group length in group {g}: expected {groupLengths.getD g 0}, found {n}"

/-- The UUID with these bytes. -/
def ofBytes (bytes : List UInt8) : Except Fault Uuid :=
  if h : bytes.length = 16 then .ok ⟨bytes, h⟩ else .error (.byteCount bytes.length)

/-! ## Reading -/

/-- The bytes that pairs of hexadecimal digits denote. -/
def bytesOfHex? : List Char → Option (List UInt8)
  | [] => some []
  | [_] => none
  | a :: b :: rest => do
    let x ← hexValue? a
    let y ← hexValue? b
    return UInt8.ofNat (16 * x + y) :: (← bytesOfHex? rest)

/-- The digits of the five groups of a hyphenated text. -/
def dropHyphens? (cs : List Char) : Option (List Char) :=
  if cs.length = 36 ∧ [8, 13, 18, 23].all (fun i => cs[i]? = some '-') then
    some (cs.take 8 ++ (cs.drop 9).take 4 ++ (cs.drop 14).take 4 ++ (cs.drop 19).take 4 ++
      cs.drop 24)
  else none

/-- The text without the braces around it. -/
def unbrace? : List Char → Option (List Char)
  | '\x7b' :: rest => if rest.getLast? = some '\x7d' then some rest.dropLast else none
  | _ => none

/-- The text that follows `urn:uuid:`, whose letters may be of either case. -/
def afterUrn? (cs : List Char) : Option (List Char) :=
  if (cs.take 9).map Char.toLower = "urn:uuid:".toList then some (cs.drop 9) else none

/-- The text inside braces or after `urn:uuid:`, and what is left of it there. -/
def unwrap? (cs : List Char) : Option (List Char × Nat) :=
  match unbrace? cs with
  | some inner => some (inner, 1)
  | none => (afterUrn? cs).map fun inner => (inner, 9)

/-- The digits of a text in one of the four forms. -/
def digitsOf? (cs : List Char) : Option (List Char) :=
  if cs.length = 32 then some cs
  else match unwrap? cs with
    | some (inner, _) => dropHyphens? inner
    | none => dropHyphens? cs

/-- The first character that is neither a digit nor a hyphen, with its place. -/
def stray? (start : Nat) : List Char → Option (Char × Nat)
  | [] => none
  | c :: rest =>
    if c = '-' ∨ (hexValue? c).isSome then stray? (start + 1) rest else some (c, start)

/-- The first group that has not its length, with the length that it has. -/
def wrongGroup? (group : Nat) : List Nat → List (List Char) → Option (Nat × Nat)
  | n :: ns, g :: gs =>
    if g.length = n then wrongGroup? (group + 1) ns gs else some (group, g.length)
  | _, _ => none

/-- The groups between hyphens. -/
def groups (cs : List Char) : List (List Char) := cs.splitOn '-'

/-- What is wrong with a text that is no UUID. -/
def diagnose (cs : List Char) : Fault :=
  let (inner, start, bare) := match unwrap? cs with
    | some (inner, start) => (inner, start, false)
    | none => (cs, 0, true)
  match stray? start inner with
  | some (c, i) => .character c i
  | none =>
    let gs := groups inner
    if gs.length = 1 ∧ bare then .digitCount cs.length
    else if gs.length ≠ 5 then .groupCount gs.length
    else match wrongGroup? 0 groupLengths gs with
      | some (g, n) => .groupLength g n
      | none => .groupCount gs.length

/-- The UUID that a text denotes. -/
def ofText (cs : List Char) : Except Fault Uuid :=
  match (digitsOf? cs).bind bytesOfHex? with
  | some bytes => if h : bytes.length = 16 then .ok ⟨bytes, h⟩ else .error (diagnose cs)
  | none => .error (diagnose cs)

/-! ## Writing and order -/

/-- The two small hexadecimal digits of a byte. -/
def hexOfByte (b : UInt8) : List Char := [hexChar (b.toNat / 16), hexChar (b.toNat % 16)]

/-- The hyphenated form with small letters. -/
def text (u : Uuid) : List Char :=
  let ds := u.bytes.flatMap hexOfByte
  ds.take 8 ++ '-' :: (ds.drop 8).take 4 ++ '-' :: (ds.drop 12).take 4 ++
    '-' :: (ds.drop 16).take 4 ++ '-' :: ds.drop 20

/-- The order of the bytes, the first one that differs deciding. -/
def compare (a b : Uuid) : Ordering := Ord.compare a.bytes b.bytes

end Uuid

end TableDiff
