import TableDiff.Text.Digits

/-!
# Base 64

Bytes as text with the alphabet `A` to `Z`, `a` to `z`, `0` to `9`, `+` and `/`, in groups of four
symbols for three bytes, the last group filled up with `=`. Reading is strict: the filling must be
there, nothing follows it, and the bits that the last group leaves over must be zero.
-/

namespace TableDiff.Text.Base64

/-- Why a text is no base 64. Offsets count the bytes of its UTF-8 form. -/
inductive Fault where
  | symbol (byte : UInt8) (offset : Nat)
  | length (count : Nat)
  | lastSymbol (byte : UInt8) (offset : Nat)
  | padding
  deriving DecidableEq, Repr

def Fault.message : Fault → String
  | .symbol b i => s!"Invalid symbol {b.toNat}, offset {i}."
  | .length n => s!"Invalid input length: {n}"
  | .lastSymbol b i => s!"Invalid last symbol {b.toNat}, offset {i}."
  | .padding => "Invalid padding"

/-- The symbol for six bits. -/
def symbol (n : Nat) : Char :=
  if n < 26 then Char.ofNat ('A'.toNat + n)
  else if n < 52 then Char.ofNat ('a'.toNat + (n - 26))
  else if n < 62 then Char.ofNat ('0'.toNat + (n - 52))
  else if n = 62 then '+' else '/'

/-- The six bits of a symbol. -/
def sextet? (b : UInt8) : Option Nat :=
  let n := b.toNat
  if 65 ≤ n && n ≤ 90 then some (n - 65)
  else if 97 ≤ n && n ≤ 122 then some (n - 97 + 26)
  else if 48 ≤ n && n ≤ 57 then some (n - 48 + 52)
  else if n = 43 then some 62
  else if n = 47 then some 63
  else none

/-- The text for some bytes. -/
def encode : List UInt8 → List Char
  | [] => []
  | [a] => [symbol (a.toNat / 4), symbol (a.toNat % 4 * 16), '=', '=']
  | [a, b] =>
    [symbol (a.toNat / 4), symbol (a.toNat % 4 * 16 + b.toNat / 16),
      symbol (b.toNat % 16 * 4), '=']
  | a :: b :: c :: rest =>
    symbol (a.toNat / 4) :: symbol (a.toNat % 4 * 16 + b.toNat / 16) ::
      symbol (b.toNat % 16 * 4 + c.toNat / 64) :: symbol (c.toNat % 64) :: encode rest

/-- The filling byte `=`. -/
def pad : UInt8 := 61

/-- The six bits of a symbol that stands at the given offset. -/
def sextetAt (offset : Nat) (b : UInt8) : Except Fault Nat :=
  match sextet? b with
  | some n => .ok n
  | none => .error (.symbol b offset)

/-- The bytes of four groups of six bits. -/
def threeBytes (x y z w : Nat) : List UInt8 :=
  [UInt8.ofNat (x * 4 + y / 16), UInt8.ofNat (y % 16 * 16 + z / 4), UInt8.ofNat (z % 4 * 64 + w)]

/-- What the scan of the last group has seen: its bits and the number of filling bytes. -/
structure Tail where
  sextets : List Nat := []
  pads : Nat := 0
  last : UInt8 := 0

/-- Scans the last group, which starts at `start`; `index` counts the bytes seen in it. -/
def scanTail (start index : Nat) (t : Tail) : List UInt8 → Except Fault Tail
  | [] => .ok t
  | b :: rest =>
    if b = pad then
      if index < 2 then .error (.symbol b (start + index))
      else scanTail start (index + 1) { t with pads := t.pads + 1 } rest
    else if 0 < t.pads then .error (.symbol pad (start + index - t.pads))
    else do
      let n ← sextetAt (start + index) b
      scanTail start (index + 1) { t with sextets := t.sextets ++ [n], last := b } rest

/-- The bytes of the last group, which starts at `start` and has at most four symbols. -/
def decodeTail (start : Nat) (bytes : List UInt8) : Except Fault (List UInt8) := do
  let t ← scanTail start 0 {} bytes
  let count := t.sextets.length
  if count < 2 then .error (.length (start + count))
  else if (t.pads + count) % 4 ≠ 0 then .error .padding
  else match t.sextets with
    | [x, y] =>
      if y % 16 ≠ 0 then .error (.lastSymbol t.last (start + 1))
      else .ok [UInt8.ofNat (x * 4 + y / 16)]
    | [x, y, z] =>
      if z % 4 ≠ 0 then .error (.lastSymbol t.last (start + 2))
      else .ok [UInt8.ofNat (x * 4 + y / 16), UInt8.ofNat (y % 16 * 16 + z / 4)]
    | [x, y, z, w] => .ok (threeBytes x y z w)
    | _ => .ok []

/-- The bytes of the groups from the given offset on; the last four symbols are the last group. -/
def decodeFrom (start : Nat) : List UInt8 → Except Fault (List UInt8)
  | a :: b :: c :: d :: e :: rest => do
    let x ← sextetAt start a
    let y ← sextetAt (start + 1) b
    let z ← sextetAt (start + 2) c
    let w ← sextetAt (start + 3) d
    let more ← decodeFrom (start + 4) (e :: rest)
    return threeBytes x y z w ++ more
  | bytes => if bytes = [] then .ok [] else decodeTail start bytes

/-- The fault of a single symbol left over at the end that is none of the alphabet. -/
def strayEnd? (bytes : List UInt8) : Option Fault :=
  match bytes.getLast? with
  | some b =>
    if bytes.length % 4 = 1 ∧ b ≠ pad ∧ sextet? b = none then some (.symbol b (bytes.length - 1))
    else none
  | none => none

/-- The bytes that a text stands for. A stray last symbol is reported before all else. -/
def decode (text : List Char) : Except Fault (List UInt8) :=
  let bytes := text.flatMap String.utf8EncodeChar
  match strayEnd? bytes with
  | some fault => .error fault
  | none => decodeFrom 0 bytes

end TableDiff.Text.Base64
