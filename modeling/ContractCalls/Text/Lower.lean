/-!
# Lower case for matching

Texts are matched against wordings in lower-case ASCII. Besides the capital letters of ASCII there
are two characters whose lower case holds an ASCII letter: the Kelvin sign, and I with a dot above,
which becomes `i` with a combining dot.
-/

namespace ContractCalls.Text

def lowerChar (c : Char) : List Char :=
  if c = '\u212a' then ['k']
  else if c = '\u0130' then ['i', '\u0307']
  else [c.toLower]

/-- The text with its ASCII letters, and those that other characters turn into, in lower case. -/
def lower (text : String) : List Char :=
  text.toList.flatMap lowerChar

/-- The characters of a wording stand somewhere in a text. -/
def contains (wording : List Char) : List Char → Bool
  | [] => wording.isEmpty
  | c :: cs => wording.isPrefixOf (c :: cs) || contains wording cs

end ContractCalls.Text
