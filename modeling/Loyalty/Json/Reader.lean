import Loyalty.Json.Basic
import Loyalty.Text.Basic

/-!
# Reading JSON

The reader takes one token after the other and keeps the arrays and objects that are still open
on a stack, so that the depth of a text does not matter. Every move uses up a character; a text
that goes wrong closes everything that is open with its fault.

A string is scanned with its escapes; one half of a pair of code units that stands alone makes a
string that cannot be read, although it can be passed over.
-/

namespace Loyalty.Json

open Loyalty.Text (hexDigit? byteLength)

/-- The character may stand between tokens. -/
def isSpace (c : Char) : Bool :=
  c == ' ' || c == '\n' || c == '\t' || c == '\r'

/-- The text from the next token on. -/
def skipSpace (cs : List Char) : List Char := cs.dropWhile isSpace

/-- A token, and what follows it; or a fault, for one who wants the token and for one who passes
over it. -/
inductive Scan (α : Type) where
  | found (token : α) (rest : List Char)
  | cut (read skip : Fault)

/-! ### Strings -/

/-- The number that four hexadecimal digits stand for. -/
def hexValue? (a b c d : Char) : Option Nat := do
  return ((← hexDigit? a) * 16 + (← hexDigit? b)) * 256 + (← hexDigit? c) * 16 + (← hexDigit? d)

/-- Fewer than four bytes are left. -/
def isShort (cs : List Char) : Bool :=
  byteLength (cs.take 4) < 4

/-- The character that a letter behind a backslash stands for. -/
def plainEscape? : Char → Option Char
  | '"' => some '"'
  | '\\' => some '\\'
  | '/' => some '/'
  | 'b' => some '\x08'
  | 'f' => some '\x0c'
  | 'n' => some '\n'
  | 'r' => some '\r'
  | 't' => some '\t'
  | _ => none

/-- The number is the first half of a pair of code units. -/
def isHighHalf (n : Nat) : Bool := 0xD800 ≤ n && n < 0xDC00

/-- The number is the second half of a pair of code units. -/
def isLowHalf (n : Nat) : Bool := 0xDC00 ≤ n && n < 0xE000

/-- What has been read of a string: its characters, the latest first; a first half of a pair
that waits for the second; and whether a half stood alone. -/
structure Spelled where
  chars : List Char := []
  half : Option Nat := none
  broken : Bool := false

namespace Spelled

/-- A character that is not part of a pair. -/
def add (s : Spelled) (c : Char) : Spelled :=
  ⟨c :: s.chars, none, s.broken || s.half.isSome⟩

/-- A code unit by its number. -/
def addUnit (s : Spelled) (n : Nat) : Spelled :=
  match s.half with
  | some h =>
    if isLowHalf n then
      ⟨Char.ofNat (0x10000 + (h - 0xD800) * 0x400 + (n - 0xDC00)) :: s.chars, none, s.broken⟩
    else ⟨s.chars, none, true⟩
  | none =>
    if isHighHalf n then ⟨s.chars, some n, s.broken⟩
    else if isLowHalf n then ⟨s.chars, none, true⟩
    else ⟨Char.ofNat n :: s.chars, none, s.broken⟩

/-- The string, at its closing quote. -/
def close (s : Spelled) : Option String :=
  if s.broken || s.half.isSome then none else some (String.ofList s.chars.reverse)

/-- The string breaks off; a half that stood alone was the first thing wrong with it. -/
def fail (s : Spelled) (f : Fault) : Scan (Option String) :=
  .cut (if s.broken then .malformed else f) f

end Spelled

def scanString (s : Spelled) : List Char → Scan (Option String)
  | [] => s.fail .eof
  | '"' :: cs => .found s.close cs
  | ['\\'] => s.fail .eof
  | '\\' :: 'u' :: a :: b :: c :: d :: cs =>
    if isShort (a :: b :: c :: d :: cs) then s.fail .eof
    else match hexValue? a b c d with
      | none => s.fail .malformed
      | some n => scanString (s.addUnit n) cs
  | '\\' :: 'u' :: cs => if isShort cs then s.fail .eof else s.fail .malformed
  | '\\' :: e :: cs =>
    match plainEscape? e with
    | none => (s.add e).fail .malformed
    | some c => scanString (s.add c) cs
  | c :: cs =>
    if c.toNat < 0x20 then (s.add c).fail .malformed else scanString (s.add c) cs

/-! ### Numbers and words -/

def isDigit (c : Char) : Bool := '0' ≤ c && c ≤ '9'

/-- A number breaks off. Who passes over it calls every such number malformed. -/
def failNumber {α : Type} : List Char → Scan α
  | [] => .cut .eof .malformed
  | _ :: _ => .cut .malformed .malformed

def scanExponent (n : Literal) (cs : List Char) : Scan Literal :=
  let digits (negative : Bool) (cs : List Char) : Scan Literal :=
    match cs.takeWhile isDigit with
    | [] => failNumber cs
    | ds => .found { n with exponent := some (negative, ds) } (cs.dropWhile isDigit)
  match cs with
  | 'e' :: '+' :: cs | 'E' :: '+' :: cs => digits false cs
  | 'e' :: '-' :: cs | 'E' :: '-' :: cs => digits true cs
  | 'e' :: cs | 'E' :: cs => digits false cs
  | cs => .found n cs

/-- The digits behind the point of a number, if there is one, and its exponent. -/
def scanFraction (n : Literal) : List Char → Scan Literal
  | '.' :: cs =>
    match cs.takeWhile isDigit with
    | [] => failNumber cs
    | ds => scanExponent { n with fraction := some ds } (cs.dropWhile isDigit)
  | cs => scanExponent n cs

/-- A number from behind its sign on. A leading zero stands alone. -/
def scanNumber (negative : Bool) (cs : List Char) : Scan Literal :=
  match cs.takeWhile isDigit with
  | [] => failNumber cs
  | '0' :: _ :: _ => .cut .malformed .malformed
  | ds => scanFraction ⟨negative, ds, none, none⟩ (cs.dropWhile isDigit)

def scanWord (value : Json) : List Char → List Char → Scan Json
  | [], cs => .found value cs
  | _ :: _, [] => .cut .eof .eof
  | w :: word, c :: cs => if w = c then scanWord value word cs else .cut .malformed .malformed

/-! ### Arrays and objects -/

/-- An array or object that is still open, its entries the latest first. -/
inductive Frame where
  | array (items : List Json)
  | object (fields : List (Json × Json)) (key : Json)

/-- A text: its value, and whether anything but space follows it. -/
structure Document where
  value : Json
  trailing : Bool := false

/-- The value that is complete when all that is open is closed with a fault around `v`. -/
def abandon (f : Fault) : List Frame → Json → Json
  | [], v => v
  | .array items :: stack, v => abandon f stack (.array ((v :: items).reverse) (some f))
  | .object fields key :: stack, v =>
    abandon f stack (.object (((key, v) :: fields).reverse) (some f))

inductive Point where
  /-- A value has to follow. -/
  | value (stack : List Frame)
  /-- A value is complete. -/
  | complete (v : Json) (stack : List Frame)
  /-- An array is open: its first item or its end follows. -/
  | opened (stack : List Frame)
  /-- An object is open: a key follows, or its end if `mayClose`. -/
  | key (fields : List (Json × Json)) (mayClose : Bool) (stack : List Frame)

inductive Move where
  | go (p : Point) (rest : List Char)
  | stop (d : Document)

/-- The text goes wrong where a value has to be. -/
def stopAt (read skip : Fault) (stack : List Frame) : Move :=
  .stop { value := abandon skip stack (.cut read skip) }

/-- An open container goes wrong between its entries. -/
def stopIn (f : Fault) (stack : List Frame) (container : Option Fault → Json) : Move :=
  .stop { value := abandon f stack (container (some f)) }

/-- A token has been scanned that is a value or goes wrong. -/
def ofScan {α : Type} (f : α → Json) (stack : List Frame) : Scan α → Move
  | .found token rest => .go (.complete (f token) stack) rest
  | .cut read skip => stopAt read skip stack

/-- The move at a point where a value has to follow. -/
def moveValue (stack : List Frame) : List Char → Move
  | [] => stopAt .eof .eof stack
  | 'n' :: cs => ofScan id stack (scanWord .null ['u', 'l', 'l'] cs)
  | 't' :: cs => ofScan id stack (scanWord (.bool true) ['r', 'u', 'e'] cs)
  | 'f' :: cs => ofScan id stack (scanWord (.bool false) ['a', 'l', 's', 'e'] cs)
  | '"' :: cs => ofScan .string stack (scanString {} cs)
  | '[' :: cs => .go (.opened stack) cs
  | '{' :: cs => .go (.key [] true stack) cs
  | '-' :: cs => ofScan .number stack (scanNumber true cs)
  | c :: cs =>
    if isDigit c then ofScan .number stack (scanNumber false (c :: cs))
    else stopAt .malformed .malformed stack

def moveComplete (v : Json) : List Frame → List Char → Move
  | [], cs => .stop ⟨v, !cs.isEmpty⟩
  | .array items :: stack, cs =>
    match cs with
    | ',' :: rest =>
      match skipSpace rest with
      | ']' :: _ => stopAt .malformed .malformed (.array (v :: items) :: stack)
      | rest => .go (.value (.array (v :: items) :: stack)) rest
    | ']' :: rest => .go (.complete (.array ((v :: items).reverse) none) stack) rest
    | [] => stopIn .eof stack (.array ((v :: items).reverse))
    | _ => stopIn .malformed stack (.array ((v :: items).reverse))
  | .object fields key :: stack, cs =>
    match cs with
    | ',' :: rest => .go (.key ((key, v) :: fields) false stack) rest
    | '}' :: rest => .go (.complete (.object (((key, v) :: fields).reverse) none) stack) rest
    | [] => stopIn .eof stack (.object (((key, v) :: fields).reverse))
    | _ => stopIn .malformed stack (.object (((key, v) :: fields).reverse))

/-- What stands in the place of a value; arrays and objects show no more than that they begin. -/
def glimpse (cs : List Char) : Json :=
  match moveValue [] cs with
  | .go (.complete v _) _ => v
  | .go (.opened _) _ => .array [] (some .malformed)
  | .go (.key _ _ _) _ => .object [] (some .malformed)
  | .go (.value _) _ => .cut .malformed .malformed
  | .stop d => d.value

/-- The object goes wrong in the place of a key, where `key` stands: with one fault for one who
wants a key, and with another for one who passes over the object. -/
def stopAtKey (read skip : Fault) (fields : List (Json × Json)) (stack : List Frame)
    (key : Json) : Move :=
  stopIn skip stack (.object (((key, .cut read skip) :: fields).reverse))

def moveKey (fields : List (Json × Json)) (mayClose : Bool) (stack : List Frame) :
    List Char → Move
  | [] => stopAtKey .eof .eof fields stack (.cut .eof .eof)
  | '}' :: cs =>
    if mayClose then .go (.complete (.object fields.reverse none) stack) cs
    else stopAtKey .malformed .malformed fields stack (.cut .malformed .malformed)
  | '"' :: cs =>
    match scanString {} cs with
    | .cut read skip => stopAtKey read skip fields stack (.cut read skip)
    | .found key rest =>
      match skipSpace rest with
      | ':' :: rest => .go (.value (.object fields (.string key) :: stack)) rest
      | [] => stopAt .eof .eof (.object fields (.string key) :: stack)
      | _ => stopAt .malformed .malformed (.object fields (.string key) :: stack)
  | cs => stopAtKey .malformed .malformed fields stack (glimpse cs)

/-- One move of the reader, from the next token on. -/
def move (p : Point) (cs : List Char) : Move :=
  match p with
  | .value stack => moveValue stack (skipSpace cs)
  | .complete v stack => moveComplete v stack (skipSpace cs)
  | .opened stack =>
    match skipSpace cs with
    | ']' :: rest => .go (.complete (.array [] none) stack) rest
    | rest => .go (.value (.array [] :: stack)) rest
  | .key fields mayClose stack => moveKey fields mayClose stack (skipSpace cs)

/-- At most so many moves. -/
def moves : Nat → Point → List Char → Document
  | 0, _, _ => { value := .cut .eof .eof }
  | n + 1, p, cs =>
    match move p cs with
    | .stop d => d
    | .go p rest => moves n p rest

/-- Reads a text. Every second move at least uses up a character. -/
def read (cs : List Char) : Document :=
  moves (2 * cs.length + 2) (.value []) cs

end Loyalty.Json
