import TreeShell.Json.Basic
import TreeShell.Number.Reading

/-!
# Reading documents

The text of a document is read with one character of foresight. Beyond the plain grammar the words
`NaN`, `Infinity` and `-Infinity` are numbers. A number with a fraction or an exponent is a
floating point number, any other is whole; a whole number may be too long to read, which is an
error of its own. Of a member named twice the last value counts, in the first place. Control
characters inside a string are refused.

The readers of values take a bound on the steps that consume nothing. Twice the length of the text
is enough, because at most two readers follow one another between two characters.
-/

set_option autoImplicit false

namespace TreeShell.Json

/-- Why a text is no document. -/
inductive ReadError where
  | malformed
  | integerTooLong (digits : Nat)
deriving DecidableEq, Repr

/-- What a reader answers: a value and the rest of the text. -/
abbrev Reading (α : Type) := Except ReadError (α × List Char)

/-- The text without leading white space. -/
def skipSpace (s : List Char) : List Char :=
  s.dropWhile fun c => c = ' ' || c = '\t' || c = '\n' || c = '\r'

/-- The value of a hexadecimal digit. -/
def hexValue? (c : Char) : Option Nat :=
  if '0' ≤ c ∧ c ≤ '9' then some (c.toNat - '0'.toNat)
  else if 'a' ≤ c ∧ c ≤ 'f' then some (c.toNat - 'a'.toNat + 10)
  else if 'A' ≤ c ∧ c ≤ 'F' then some (c.toNat - 'A'.toNat + 10)
  else none

/-- The number that four hexadecimal digits spell. -/
def hex4? (a b c d : Char) : Option Nat := do
  let a ← hexValue? a
  let b ← hexValue? b
  let c ← hexValue? c
  let d ← hexValue? d
  some (((a * 16 + b) * 16 + c) * 16 + d)

/-- The character a letter stands for after a backslash. -/
def shortEscape? (c : Char) : Option Char :=
  if c = '"' || c = '\\' || c = '/' then some c
  else if c = 'b' then some '\x08'
  else if c = 'f' then some '\x0C'
  else if c = 'n' then some '\n'
  else if c = 'r' then some '\r'
  else if c = 't' then some '\t'
  else none

/-- The character of a code unit. A half of a surrogate pair that stands alone is read as the
replacement character. -/
def unitChar (unit : Nat) : Char :=
  if 0xD800 ≤ unit ∧ unit ≤ 0xDFFF then '\uFFFD' else .ofNat unit

/-- The character of a high and a low surrogate together. -/
def pairChar (high low : Nat) : Char :=
  .ofNat (0x10000 + (high - 0xD800) * 0x400 + (low - 0xDC00))

/-- The rest of a string after its opening quote; `read` holds the characters so far, last first. -/
def readChars (read : List Char) : List Char → Reading String
  | '"' :: rest => .ok (.ofList read.reverse, rest)
  | '\\' :: 'u' :: a :: b :: c :: d :: '\\' :: 'u' :: e :: f :: g :: h :: rest =>
    match hex4? a b c d, hex4? e f g h with
    | some high, some low =>
      if 0xD800 ≤ high ∧ high ≤ 0xDBFF ∧ 0xDC00 ≤ low ∧ low ≤ 0xDFFF then
        readChars (pairChar high low :: read) rest
      else readChars (unitChar high :: read) ('\\' :: 'u' :: e :: f :: g :: h :: rest)
    | some unit, none => readChars (unitChar unit :: read) ('\\' :: 'u' :: e :: f :: g :: h :: rest)
    | none, _ => .error .malformed
  | '\\' :: 'u' :: a :: b :: c :: d :: rest =>
    match hex4? a b c d with
    | some unit => readChars (unitChar unit :: read) rest
    | none => .error .malformed
  | '\\' :: c :: rest =>
    match shortEscape? c with
    | some c => readChars (c :: read) rest
    | none => .error .malformed
  | c :: rest => if c.toNat < 0x20 || c = '\\' then .error .malformed else readChars (c :: read) rest
  | [] => .error .malformed
termination_by s => s.length

/-- The digits of a fraction, when a point and a digit come next. -/
def readFraction : List Char → Option (List Char) × List Char
  | '.' :: c :: rest =>
    if c.isDigit then
      let (digits, rest) := Number.takeDigits (c :: rest)
      (some digits, rest)
    else (none, '.' :: c :: rest)
  | s => (none, s)

/-- The value of an exponent, when a whole one comes next. -/
def readExponent : List Char → Option Int × List Char
  | e :: rest =>
    if e = 'e' || e = 'E' then
      let (negative, after) := Number.takeSign rest
      let (digits, after) := Number.takeDigits after
      if digits.isEmpty then (none, e :: rest)
      else
        let value : Int := Number.digitsValue digits
        (some (if negative then -value else value), after)
    else (none, e :: rest)
  | [] => (none, [])

/-- The digits before the point: a zero, or digits that begin with another one. -/
def readWhole : List Char → Option (List Char × List Char)
  | '0' :: rest => some (['0'], rest)
  | c :: rest => if c.isDigit then some (Number.takeDigits (c :: rest)) else none
  | [] => none

/-- A number whose sign has been read. -/
def readNumber (negative : Bool) (s : List Char) : Reading Json :=
  match readWhole s with
  | none => .error .malformed
  | some (whole, rest) =>
    match readFraction rest with
    | (fraction, rest) =>
      match readExponent rest with
      | (exponent, rest) =>
        if fraction.isNone && exponent.isNone then
          if Number.maxIntegerDigits < whole.length then .error (.integerTooLong whole.length)
          else
            let value : Int := Number.digitsValue whole
            .ok (.int (if negative then -value else value), rest)
        else
          let fraction := fraction.getD []
          let digits := Number.digitsValue (whole ++ fraction)
          .ok (.float (.ofDecimal negative digits (exponent.getD 0 - fraction.length)), rest)

/-- A value that holds no other values. -/
def readScalar : List Char → Reading Json
  | '"' :: rest => (readChars [] rest).map fun (text, rest) => (.string text, rest)
  | 'n' :: 'u' :: 'l' :: 'l' :: rest => .ok (.null, rest)
  | 't' :: 'r' :: 'u' :: 'e' :: rest => .ok (.bool true, rest)
  | 'f' :: 'a' :: 'l' :: 's' :: 'e' :: rest => .ok (.bool false, rest)
  | 'N' :: 'a' :: 'N' :: rest => .ok (.float .nan, rest)
  | 'I' :: 'n' :: 'f' :: 'i' :: 'n' :: 'i' :: 't' :: 'y' :: rest => .ok (.float (.infinite false), rest)
  | '-' :: 'I' :: 'n' :: 'f' :: 'i' :: 'n' :: 'i' :: 't' :: 'y' :: rest =>
    .ok (.float (.infinite true), rest)
  | '-' :: rest => readNumber true rest
  | s => readNumber false s

mutual

/-- The value that comes next. -/
def readValue : Nat → List Char → Reading Json
  | 0, _ => .error .malformed
  | depth + 1, '[' :: rest =>
    match skipSpace rest with
    | ']' :: rest => .ok (.array [], rest)
    | rest => readItems depth [] rest
  | depth + 1, '{' :: rest =>
    match skipSpace rest with
    | '}' :: rest => .ok (.object [], rest)
    | rest => readMembers depth [] rest
  | _ + 1, s => readScalar s

/-- The rest of an array from an item on; `read` holds the items so far, last first. -/
def readItems : Nat → List Json → List Char → Reading Json
  | 0, _, _ => .error .malformed
  | depth + 1, read, s =>
    match readValue depth s with
    | .error e => .error e
    | .ok (item, rest) =>
      match skipSpace rest with
      | ']' :: rest => .ok (.array (item :: read).reverse, rest)
      | ',' :: rest => readItems depth (item :: read) (skipSpace rest)
      | _ => .error .malformed

/-- The rest of an object from a name on; `read` holds the members so far. -/
def readMembers : Nat → List (String × Json) → List Char → Reading Json
  | 0, _, _ => .error .malformed
  | depth + 1, read, '"' :: rest =>
    match readChars [] rest with
    | .error e => .error e
    | .ok (name, rest) =>
      match skipSpace rest with
      | ':' :: rest =>
        match readValue depth (skipSpace rest) with
        | .error e => .error e
        | .ok (value, rest) =>
          match skipSpace rest with
          | '}' :: rest => .ok (.object (Fields.set read name value), rest)
          | ',' :: rest => readMembers depth (Fields.set read name value) (skipSpace rest)
          | _ => .error .malformed
      | _ => .error .malformed
  | _, _, _ => .error .malformed

end

/-- The document a text spells, with nothing but white space around it. -/
def parse (text : String) : Except ReadError Json :=
  let s := skipSpace text.toList
  match readValue (2 * s.length + 2) s with
  | .error e => .error e
  | .ok (value, rest) => if (skipSpace rest).isEmpty then .ok value else .error .malformed

end TreeShell.Json
