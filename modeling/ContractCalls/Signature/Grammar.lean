/-!
# The grammar of types and signatures

A type is an elementary name or a parenthesised list of types, followed by array brackets. A
signature is a name with a list of parameters, and for a function optional modifiers and results.
Between the parts of a signature stand runs of spaces and tabs; inside a type they stand only within
parentheses.

Each parser answers what it has read and the text that is left.
-/

namespace ContractCalls.Signature

/-- A type as it is written; a size of `none` stands for empty brackets. -/
inductive TypeSpec where
  | root (name : String) (sizes : List (Option UInt64))
  | tuple (components : List TypeSpec) (sizes : List (Option UInt64))
  deriving Repr, Inhabited

abbrev Parser (α : Type) := List Char → Option (α × List Char)

/-- Lists nest at most this deep; only an empty list may stand deeper. -/
def maxDepth : Nat := 79

/-! ### Words -/

def skipBlanks (s : List Char) : List Char :=
  s.dropWhile fun c => c == ' ' || c == '\t'

def isNameStart (c : Char) : Bool :=
  c.isAlpha || c == '$' || c == '_'

def isNameRest (c : Char) : Bool :=
  isNameStart c || c.isDigit

def name : Parser String
  | [] => none
  | c :: cs =>
    if isNameStart c then
      some (String.ofList (c :: cs.takeWhile isNameRest), cs.dropWhile isNameRest)
    else none

/-- The rest of a text that starts with a word. -/
def word? (word : String) (s : List Char) : Option (List Char) :=
  if word.toList.isPrefixOf s then some (s.drop word.length) else none

/-- The rest after the first of several words that the text starts with, blanks before it left
out. -/
def spacedWord? (words : List String) (s : List Char) : Option (List Char) :=
  words.findSome? (word? · (skipBlanks s))

/-! ### Types -/

/-- The name of an elementary type. A dotted name stands for an enumeration, which is a `uint8`, and
an integer without a width has 256 bits. -/
def rootName : Parser String := fun s => do
  let (first, rest) ← name s
  match rest with
  | '.' :: rest =>
    match name rest with
    | some (_, rest) => return ("uint8", rest)
    | none => return ("uint8", rest)
  | rest =>
    let full := if first = "uint" then "uint256" else if first = "int" then "int256" else first
    return (full, rest)

/-- The number between brackets, from 1 to `2 ^ 64 - 1`; without digits there is none. -/
def size? (digits : List Char) : Option (Option UInt64) :=
  if digits.isEmpty then some none
  else
    let n := digits.foldl (fun n c => 10 * n + (c.toNat - 48)) 0
    if n = 0 ∨ n ≥ UInt64.size then none else some (some (UInt64.ofNat n))

/-- Array brackets, as many as there are. -/
def sizes (s : List Char) : Option (List (Option UInt64) × List Char) :=
  match s with
  | '[' :: rest =>
    match _h : rest.dropWhile Char.isDigit with
    | ']' :: after => do
      let size ← size? (rest.takeWhile Char.isDigit)
      let (more, after) ← sizes after
      return (size :: more, after)
    | _ => none
  | rest => some ([], rest)
termination_by s.length
decreasing_by
  have hle : (rest.dropWhile Char.isDigit).length ≤ rest.length :=
    (List.dropWhile_sublist _).length_le
  simp_all
  omega

/-- Items up to the closing parenthesis, with commas between them and perhaps one after the last.
Each item takes a character at least, so that `fuel` items suffice for a text of that length. -/
def items {α : Type} (item : Parser α) : (fuel : Nat) → Parser (List α)
  | 0, _ => none
  | fuel + 1, s => do
    let (first, rest) ← item s
    match rest with
    | ',' :: rest =>
      match skipBlanks rest with
      | ')' :: rest => return ([first], rest)
      | rest => do
        let (more, rest) ← items item fuel rest
        return (first :: more, rest)
    | rest =>
      match skipBlanks rest with
      | ')' :: rest => return ([first], rest)
      | _ => none

/-- A parenthesised list of items. -/
def list {α : Type} (item : Parser α) : Parser (List α)
  | '(' :: rest =>
    match skipBlanks rest with
    | ')' :: rest => some ([], rest)
    | rest => items item rest.length rest
  | _ => none

/-- The text of a tuple from its parenthesis on; the word `tuple` may stand before it. -/
def tupleList? (s : List Char) : Option (List Char) :=
  match s with
  | '(' :: _ => some s
  | _ => (word? "tuple(" s).map ('(' :: ·)

/-- A type whose lists nest at most `depth` deep. -/
def typeSpec : (depth : Nat) → Parser TypeSpec
  | depth, s =>
    match tupleList? s with
    | some s => do
      let (components, rest) ←
        match depth with
        | 0 => list (fun _ => none) s
        | depth + 1 => list (typeSpec depth) s
      let (sizes, rest) ← sizes rest
      return (.tuple components sizes, rest)
    | none => do
      let (root, rest) ← rootName s
      let (sizes, rest) ← sizes rest
      return (.root root sizes, rest)

/-- A text that is a type as a whole. -/
def wholeType (s : List Char) : Option TypeSpec :=
  match typeSpec maxDepth s with
  | some (spec, []) => some spec
  | _ => none

/-! ### Signatures -/

/-- Leaves out the name of a parameter, with the data location and the word `indexed` before it. -/
def skipParameterName (s : List Char) : List Char :=
  let s := skipBlanks s
  match name s with
  | none => s
  | some (first, rest) =>
    let (last, rest) :=
      if first ∈ ["storage", "memory", "calldata"] then
        match name (skipBlanks rest) with
        | some (second, rest) => (second, rest)
        | none => ("", skipBlanks rest)
      else (first, rest)
    if last = "indexed" then
      match name (skipBlanks rest) with
      | some (_, rest) => rest
      | none => skipBlanks rest
    else rest

/-- A type and perhaps a name. -/
def parameter (depth : Nat) : Parser TypeSpec := fun s => do
  let (spec, rest) ← typeSpec depth s
  return (spec, skipParameterName rest)

/-- A parenthesised list of parameters. -/
def parameters : Parser (List TypeSpec) :=
  list (parameter (maxDepth - 1))

/-- What a signature says. -/
structure Declaration where
  name : String
  inputs : List TypeSpec
  outputs : List TypeSpec
  /-- It has one of the words `pure`, `view` and `payable`. -/
  hasMutability : Bool
  isAnonymous : Bool

/-- The results of a function, if there are any, after `:` or `returns`. -/
def results (s : List Char) : Option (List TypeSpec × List Char) :=
  let s := skipBlanks s
  let s := (word? ":" s).getD s
  let s := (word? "returns" s).getD s
  let s := skipBlanks s
  match s with
  | '(' :: _ => parameters s
  | _ => some ([], s)

/-- A text that is a signature as a whole; only functions have results. -/
def declaration (withResults : Bool) (s : List Char) : Option Declaration := do
  let (name, rest) ← rootName s
  let (inputs, rest) ← parameters (skipBlanks rest)
  let rest := (spacedWord? ["internal", "external", "private", "public"] rest).getD rest
  let mutability := spacedWord? ["pure", "view", "payable"] rest
  let rest := mutability.getD rest
  let (outputs, rest) ← if withResults then results rest else some ([], rest)
  let anonymous := word? "anonymous" (skipBlanks rest)
  match anonymous.getD (skipBlanks rest) with
  | [] => some ⟨name, inputs, outputs, mutability.isSome, anonymous.isSome⟩
  | _ => none

end ContractCalls.Signature
