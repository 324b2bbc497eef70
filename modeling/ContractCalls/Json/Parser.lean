import ContractCalls.Hex
import ContractCalls.Json

/-!
# Reading JSON

A strict reader: one value with blanks around it, no control characters within strings, and
surrogates only in pairs. Lists and objects nest at most 127 deep.
-/

namespace ContractCalls.Json

namespace Parser

abbrev Step (α : Type) := List Char → Option (α × List Char)

def isSpace (c : Char) : Bool :=
  c == ' ' || c == '\t' || c == '\n' || c == '\r'

def skipSpace (s : List Char) : List Char :=
  s.dropWhile isSpace

/-- The code unit with four hexadecimal digits. -/
def codeUnit? (a b c d : Char) : Option Nat :=
  [a, b, c, d].foldlM (fun n c => (Hex.digit? c).map (16 * n + ·)) 0

/-- The characters of a string up to its closing quote, put in front of `read` in reverse order. -/
def stringRest (read : List Char) : Step String
  | '"' :: rest => some (String.ofList read.reverse, rest)
  | '\\' :: 'u' :: a :: b :: c :: d :: rest =>
    match codeUnit? a b c d with
    | none => none
    | some unit =>
      if unit < 0xD800 ∨ 0xE000 ≤ unit then stringRest (Char.ofNat unit :: read) rest
      else
        match rest with
        | '\\' :: 'u' :: e :: f :: g :: h :: rest =>
          match codeUnit? e f g h with
          | none => none
          | some low =>
            if unit < 0xDC00 ∧ 0xDC00 ≤ low ∧ low < 0xE000 then
              stringRest
                (Char.ofNat (0x10000 + (unit - 0xD800) * 0x400 + (low - 0xDC00)) :: read) rest
            else none
        | _ => none
  | '\\' :: c :: rest =>
    match c with
    | '"' | '\\' | '/' => stringRest (c :: read) rest
    | 'b' => stringRest ('\x08' :: read) rest
    | 'f' => stringRest ('\x0c' :: read) rest
    | 'n' => stringRest ('\n' :: read) rest
    | 'r' => stringRest ('\r' :: read) rest
    | 't' => stringRest ('\t' :: read) rest
    | _ => none
  | c :: rest => if c.toNat < 0x20 then none else stringRest (c :: read) rest
  | [] => none

def digitsValue (s : List Char) : Nat :=
  s.foldl (fun n c => 10 * n + (c.toNat - 48)) 0

/-- Digits, of which there has to be one. -/
def digits (s : List Char) : Option (List Char × List Char) :=
  match s.takeWhile Char.isDigit with
  | [] => none
  | ds => some (ds, s.dropWhile Char.isDigit)

/-- The exponent after `e`. -/
def exponent : Step Int
  | c :: rest =>
    if c == 'e' || c == 'E' then
      match rest with
      | '-' :: rest => (digits rest).map fun (ds, rest) => (-(digitsValue ds : Int), rest)
      | '+' :: rest => (digits rest).map fun (ds, rest) => ((digitsValue ds : Int), rest)
      | rest => (digits rest).map fun (ds, rest) => ((digitsValue ds : Int), rest)
    else none
  | [] => none

/-- Integers fit a signed or an unsigned word of 64 bits. -/
def isInteger (n : Int) : Bool :=
  Int64.minValue.toInt ≤ n ∧ n < UInt64.size

/-- A number without its sign. A number with a point or an exponent is a decimal fraction, and so
are an integer of too many bits and minus zero. -/
def unsigned (negative : Bool) : Step Json := fun s => do
  let (whole, rest) ← digits s
  if whole.length > 1 ∧ whole.head? = some '0' then none
  else
    let sign (n : Nat) : Int := if negative then -n else n
    let (fraction, rest) ←
      match rest with
      | '.' :: rest => (digits rest).map fun (ds, rest) => (some ds, rest)
      | rest => some (none, rest)
    let scaled : Bool := rest.head? == some 'e' || rest.head? == some 'E'
    let (power, rest) ← if scaled then exponent rest else some (0, rest)
    let n := sign (digitsValue whole)
    if fraction.isNone ∧ !scaled ∧ isInteger n ∧ !(negative ∧ n = 0) then return (integer n, rest)
    else
      let fraction := fraction.getD []
      return (decimal (sign (digitsValue (whole ++ fraction))) (power - fraction.length), rest)

def number : Step Json
  | '-' :: rest => unsigned true rest
  | s => unsigned false s

def literal (word : String) (value : Json) : Step Json := fun s =>
  if word.toList.isPrefixOf s then some (value, s.drop word.length) else none

/-- Items with commas between them up to a closing character; one at least. -/
def separated {α : Type} (item : Step α) (closing : Char) : (fuel : Nat) → Step (List α)
  | 0, _ => none
  | fuel + 1, s => do
    let (first, rest) ← item (skipSpace s)
    match skipSpace rest with
    | c :: rest =>
      if c == closing then return ([first], rest)
      else if c == ',' then do
        let (more, rest) ← separated item closing fuel rest
        return (first :: more, rest)
      else none
    | [] => none

/-- A member of an object. -/
def member (value : Step Json) : Step (String × Json)
  | '"' :: rest => do
    let (name, rest) ← stringRest [] rest
    match skipSpace rest with
    | ':' :: rest => do
      let (v, rest) ← value (skipSpace rest)
      return ((name, v), rest)
    | _ => none
  | _ => none

/-- A value that is neither a list nor an object. -/
def scalar : Step Json
  | '"' :: rest => (stringRest [] rest).map fun (text, rest) => (string text, rest)
  | 'n' :: rest => literal "ull" null rest
  | 't' :: rest => literal "rue" (bool true) rest
  | 'f' :: rest => literal "alse" (bool false) rest
  | s => number s

/-- A value that nests at most `depth` deep. -/
def value : (depth : Nat) → Step Json
  | depth + 1, '[' :: rest =>
    match skipSpace rest with
    | ']' :: rest => some (array [], rest)
    | rest => (separated (value depth) ']' rest.length rest).map fun (items, rest) =>
        (array items, rest)
  | depth + 1, '{' :: rest =>
    match skipSpace rest with
    | '}' :: rest => some (object [], rest)
    | rest => (separated (member (value depth)) '}' rest.length rest).map fun (members, rest) =>
        (object members, rest)
  | _, s => scalar s

end Parser

/-- Reads a text that is one value, with blanks around it. -/
def parseWithin? (depth : Nat) (text : String) : Option Json :=
  match Parser.value depth (Parser.skipSpace text.toList) with
  | some (j, rest) => if (Parser.skipSpace rest).isEmpty then some j else none
  | none => none

def parse? (text : String) : Option Json :=
  parseWithin? 127 text

/-- The text with another escape in the place of each code unit, which so need not be part of a
character. -/
def maskUnits : List Char → List Char
  | '\\' :: 'u' :: a :: b :: c :: d :: rest =>
    if (Parser.codeUnit? a b c d).isSome then '\\' :: 'n' :: maskUnits rest
    else '\\' :: 'u' :: a :: maskUnits (b :: c :: d :: rest)
  | '\\' :: c :: rest => '\\' :: c :: maskUnits rest
  | c :: rest => c :: maskUnits rest
  | [] => []

/-- A text that is one value of whatever depth, without the blanks around it. Its strings are not
read, so that surrogates may stand by themselves. -/
def raw? (text : String) : Option String :=
  let trimmed := (Parser.skipSpace (Parser.skipSpace text.toList).reverse).reverse
  (parseWithin? text.length (String.ofList (maskUnits text.toList))).map fun _ =>
    String.ofList trimmed

def byte? : Json → Option UInt8
  | integer n => if 0 ≤ n ∧ n < 256 then some (UInt8.ofNat n.toNat) else none
  | _ => none

/-- A byte string: hexadecimal digits, or an array of numbers below 256. -/
def bytes? : Json → Option Bytes
  | string text => Hex.decode? text
  | array items => items.mapM byte?
  | _ => none

end ContractCalls.Json
