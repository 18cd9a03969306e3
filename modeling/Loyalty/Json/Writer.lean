import Loyalty.Json.Basic
import Loyalty.Text.Basic

/-!
# Writing JSON

Values are written without blanks. In a string only what must be escaped is: quotes, backslashes
and control characters, by a letter where there is one.
-/

namespace Loyalty.Json

def escape (c : Char) : List Char :=
  if c = '"' then ['\\', '"']
  else if c = '\\' then ['\\', '\\']
  else if c = '\x08' then ['\\', 'b']
  else if c = '\x0c' then ['\\', 'f']
  else if c = '\n' then ['\\', 'n']
  else if c = '\r' then ['\\', 'r']
  else if c = '\t' then ['\\', 't']
  else if c.toNat < 0x20 then '\\' :: 'u' :: Text.lastHexDigits c.toNat 4
  else [c]

def quote (cs : List Char) : List Char := '"' :: (cs.flatMap escape ++ ['"'])

def nat (n : Nat) : Json := .number ⟨false, Nat.toDigits 10 n, none, none⟩

def writeNumber (l : Literal) : List Char :=
  (if l.negative then ['-'] else []) ++ l.whole ++
    (match l.fraction with
      | some ds => '.' :: ds
      | none => []) ++
    (match l.exponent with
      | some (below, ds) => 'e' :: ((if below then ['-'] else []) ++ ds)
      | none => [])

mutual

/-- A value. What no text stands for is written as `null`. -/
def write : Json → List Char
  | .null | .cut _ _ => ['n', 'u', 'l', 'l']
  | .bool true => ['t', 'r', 'u', 'e']
  | .bool false => ['f', 'a', 'l', 's', 'e']
  | .number l => writeNumber l
  | .string none => ['n', 'u', 'l', 'l']
  | .string (some s) => quote s.toList
  | .array items _ => '[' :: writeItems items
  | .object fields _ => '{' :: writeFields fields

def writeItems : List Json → List Char
  | [] => [']']
  | [v] => write v ++ [']']
  | v :: vs => write v ++ ',' :: writeItems vs

def writeFields : List (Json × Json) → List Char
  | [] => ['}']
  | [(k, v)] => write k ++ ':' :: (write v ++ ['}'])
  | (k, v) :: fs => write k ++ ':' :: (write v ++ ',' :: writeFields fs)

end

def toText (j : Json) : String := String.ofList (write j)

end Loyalty.Json
