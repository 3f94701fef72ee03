import Proxbox.Library.Dict
import Proxbox.Library.Text
/-!
# The text `json.dumps` writes

The escapes of a text, and a flat dictionary of texts and truth values under `separators=(",", ":")`.
-/

namespace Python

inductive Scalar where
  | str (s : String)
  | bool (b : Bool)
  deriving DecidableEq

def quoteMark : Char := Char.ofNat 34

def backslash : Char := Char.ofNat 92

def openBrace : Char := Char.ofNat 123

def closeBrace : Char := Char.ofNat 125

def hexDigits (n : Nat) : List Char :=
  [Nat.digitChar (n / 4096 % 16), Nat.digitChar (n / 256 % 16), Nat.digitChar (n / 16 % 16), Nat.digitChar (n % 16)]

def hexEscape (n : Nat) : List Char := backslash :: 'u' :: hexDigits n

def shortEscapes : List (Char × Char) :=
  [(quoteMark, quoteMark), (backslash, backslash), ('\n', 'n'), ('\r', 'r'), ('\t', 't'), (Char.ofNat 8, 'b'),
    (Char.ofNat 12, 'f')]

/-- A character of a text: ASCII only, with a surrogate pair for one beyond the basic plane. -/
def escapeChar (c : Char) : List Char :=
  match shortEscapes.lookup c with
  | some letter => [backslash, letter]
  | none =>
    if 32 ≤ c.toNat ∧ c.toNat < 127 then [c]
    else if c.toNat < 0x10000 then hexEscape c.toNat
    else hexEscape (0xd800 + (c.toNat - 0x10000) / 1024) ++ hexEscape (0xdc00 + (c.toNat - 0x10000) % 1024)

def escaped (cs : List Char) : List Char := cs.flatMap escapeChar

def quoted (s : String) : List Char := quoteMark :: (escaped s.toList ++ [quoteMark])

def Scalar.text : Scalar → List Char
  | .str s => quoted s
  | .bool true => ['t', 'r', 'u', 'e']
  | .bool false => ['f', 'a', 'l', 's', 'e']

def itemText (item : String × Scalar) : List Char := quoted item.1 ++ ':' :: item.2.text

def restText : List (String × Scalar) → List Char
  | [] => [closeBrace]
  | item :: rest => ',' :: (itemText item ++ restText rest)

def itemsText : List (String × Scalar) → List Char
  | [] => [closeBrace]
  | item :: rest => itemText item ++ restText rest

/-- `json.dumps(data, separators=(",", ":"))` of a dictionary with its items in this order. -/
def dumpsItems (items : List (String × Scalar)) : String := String.ofList (Char.ofNat 123 :: itemsText items)

end Python
