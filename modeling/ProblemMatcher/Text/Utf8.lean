/-!
# UTF-8

Decoding bytes, all or nothing. The first bytes that cannot be decoded are told by their place and
by what is wrong with them: a byte that starts no character, a byte that does not continue the
character it stands in, or a character that the end of the bytes cuts off.
-/

namespace ProblemMatcher.Text

inductive Utf8Defect
  | badStart
  | badContinuation
  | cutOff
  deriving Repr, DecidableEq

/-- The bytes from `start` up to `stop` cannot be decoded; `first` is the first of them. -/
structure Utf8Fault where
  defect : Utf8Defect
  start : Nat
  stop : Nat
  first : UInt8
  deriving Repr, DecidableEq

def Utf8Defect.text : Utf8Defect → String
  | .badStart => "invalid start byte"
  | .badContinuation => "invalid continuation byte"
  | .cutOff => "unexpected end of data"

/-- A byte in two hexadecimal digits. -/
def byteDigits (b : UInt8) : String :=
  let digit (n : Nat) : Char := if n < 10 then Char.ofNat (48 + n) else Char.ofNat (87 + n)
  String.ofList [digit (b.toNat / 16), digit (b.toNat % 16)]

def Utf8Fault.message (f : Utf8Fault) : String :=
  if f.stop = f.start + 1 then
    s!"'utf-8' codec can't decode byte 0x{byteDigits f.first} in position {f.start}: " ++
      f.defect.text
  else
    s!"'utf-8' codec can't decode bytes in position {f.start}-{f.stop - 1}: {f.defect.text}"

def isContinuation (b : UInt8) : Bool :=
  0x80 ≤ b && b < 0xC0

/-- How many bytes a character has, by its first one. -/
def sequenceLength? (b : UInt8) : Option Nat :=
  if b < 0x80 then some 1
  else if 0xC2 ≤ b && b < 0xE0 then some 2
  else if 0xE0 ≤ b && b < 0xF0 then some 3
  else if 0xF0 ≤ b && b < 0xF5 then some 4
  else none

/-- The second byte of a character is narrower than other continuation bytes after some first ones:
no character has a shorter form, and surrogates and what lies beyond them have none. -/
def isSecond (first second : UInt8) : Bool :=
  isContinuation second &&
    !(first == 0xE0 && second < 0xA0) && !(first == 0xED && 0xA0 ≤ second) &&
    !(first == 0xF0 && second < 0x90) && !(first == 0xF4 && 0x90 ≤ second)

/-- How many bytes of a character are as they should be, the first one included. -/
def soundBytes (first : UInt8) : List UInt8 → Nat
  | [] => 1
  | second :: rest =>
    if isSecond first second then 2 + (rest.takeWhile isContinuation).length else 1

/-- The code point of the bytes of a character. -/
def codePoint (first : UInt8) (rest : List UInt8) : Nat :=
  let lead := match rest.length with
    | 0 => first.toNat
    | 1 => first.toNat - 0xC0
    | 2 => first.toNat - 0xE0
    | _ => first.toNat - 0xF0
  rest.foldl (fun n b => 64 * n + (b.toNat - 0x80)) lead

/-- Decodes bytes, of which the first is at place `pos`. The characters so far are last first, and
`left` bounds how many there can be. -/
def decodeUtf8From : Nat → Nat → List Char → List UInt8 → Except Utf8Fault (List Char)
  | 0, _, read, _ => .ok read.reverse
  | _, _, read, [] => .ok read.reverse
  | left + 1, pos, read, first :: rest =>
    match sequenceLength? first with
    | none => .error ⟨.badStart, pos, pos + 1, first⟩
    | some length =>
      let tail := rest.take (length - 1)
      let sound := if length = 1 then 1 else soundBytes first tail
      if sound = length then
        decodeUtf8From left (pos + length) (Char.ofNat (codePoint first tail) :: read)
          (rest.drop (length - 1))
      else if sound = tail.length + 1 then
        .error ⟨.cutOff, pos, pos + sound, first⟩
      else .error ⟨.badContinuation, pos, pos + sound, first⟩

/-- The characters of some bytes. -/
def decodeUtf8 (bytes : List UInt8) : Except Utf8Fault (List Char) :=
  decodeUtf8From bytes.length 0 [] bytes

end ProblemMatcher.Text
