import Loyalty.Decimal.Text
import Loyalty.Text.Raw
import Loyalty.Uuid

/-!
# The command line

A command is named by one word or two, and some commands take values in a fixed order. Behind
`--` everything is a value. A value is looked at when the next one comes up or the line ends, so
that a word that has no place at all is reported first.
-/

namespace Loyalty.CommandLine

open Loyalty.Text

inductive Command where
  | serve
  | config
  | migrate
  | balance (user : Uuid)
  | withdrawals (user : Uuid)
  | withdraw (user : Uuid) (order : String) (amount : Decimal)
  deriving DecidableEq, Repr

/-- Why a line is no command. The first two are answered with a help text. -/
inductive UsageError where
  | help
  | helpForMissingCommand
  | unknownArgument
  | unknownCommand
  | tooManyValues
  | badValue
  | missingValue
  | noText
  deriving DecidableEq, Repr

/-- The exit code of the program; only help that was asked for is no failure. -/
def UsageError.exitCode : UsageError → Nat
  | .help => 0
  | _ => 2

inductive ValueKind where
  | user
  | text
  | amount
  deriving DecidableEq, Repr

inductive Value where
  | user (u : Uuid)
  | text (s : String)
  | amount (d : Decimal)
  deriving DecidableEq, Repr

def ValueKind.read (k : ValueKind) (word : Raw) : Except UsageError Value :=
  match word.text? with
  | none => .error .noText
  | some s =>
    match k with
    | .text => .ok (.text s)
    | .user =>
      match Uuid.parse s with
      | .ok u => .ok (.user u)
      | .error _ => .error .badValue
    | .amount =>
      match Decimal.parse s with
      | .ok d => .ok (.amount d)
      | .error _ => .error .badValue

/-! ### Words -/

/-- What a word is by its looks. -/
inductive Look where
  | divider
  | help
  | helpWithValue
  | unknownFlag
  | plain
  deriving DecidableEq, Repr

def bytes (s : String) : List UInt8 := s.toUTF8.toList

/-- How a word looks in front of `--`. One dash alone is a value. -/
def look (word : Raw) : Look :=
  let bs := word.bytes
  if bs = bytes "--" then .divider
  else if bs = bytes "--help" then .help
  else if (bytes "--help=").isPrefixOf bs then .helpWithValue
  else if (bytes "--").isPrefixOf bs then .unknownFlag
  else if (bytes "-h").isPrefixOf bs then .help
  else if (bytes "-").isPrefixOf bs ∧ 1 < bs.length then .unknownFlag
  else .plain

/-! ### Commands that take values -/

/-- A word that is to be looked at, and what it has to be. -/
abbrev Pending := Option (ValueKind × Raw)

/-- The values with the pending one, if that is good. -/
def resolve (found : List Value) : Pending → Except UsageError (List Value)
  | none => .ok found
  | some (k, word) => (k.read word).map fun v => found ++ [v]

/-- The values of a command. `divided` says that `--` has been passed. -/
def readValues (found : List Value) (pending : Pending) (divided : Bool) :
    List ValueKind → List Raw → Except UsageError (List Value)
  | kinds, [] => do
    let found ← resolve found pending
    if kinds.isEmpty then .ok found else .error .missingValue
  | kinds, word :: words =>
    match if divided then .plain else look word with
    | .divider => readValues found pending true kinds words
    | .help => do
      let _ ← resolve found pending
      .error .help
    | .helpWithValue => .error .tooManyValues
    | .unknownFlag => .error .unknownArgument
    | .plain =>
      match kinds with
      | [] => .error .unknownArgument
      | k :: kinds => do
        let found ← resolve found pending
        readValues found (some (k, word)) divided kinds words

inductive Leaf where
  | serve
  | config
  | migrate
  | balance
  | withdrawals
  | withdraw
  deriving DecidableEq, Repr

def Leaf.kinds : Leaf → List ValueKind
  | .serve | .config | .migrate => []
  | .balance | .withdrawals => [.user]
  | .withdraw => [.user, .text, .amount]

def Leaf.command : Leaf → List Value → Except UsageError Command
  | .serve, [] => .ok .serve
  | .config, [] => .ok .config
  | .migrate, [] => .ok .migrate
  | .balance, [.user u] => .ok (.balance u)
  | .withdrawals, [.user u] => .ok (.withdrawals u)
  | .withdraw, [.user u, .text order, .amount d] => .ok (.withdraw u order d)
  | _, _ => .error .missingValue

/-! ### Groups of commands -/

inductive Group where
  | program
  | database
  deriving DecidableEq, Repr

/-- What a word names within a group. -/
inductive Named where
  | leaf (l : Leaf)
  | group (g : Group)
  | help

/-- What a word names within a group, by its exact letters. -/
def Group.find? : Group → String → Option Named
  | _, "help" => some .help
  | .program, "serve" => some (.leaf .serve)
  | .program, "config" => some (.leaf .config)
  | .program, "balance" => some (.leaf .balance)
  | .program, "withdrawals" => some (.leaf .withdrawals)
  | .program, "withdraw" => some (.leaf .withdraw)
  | .program, "db" => some (.group .database)
  | .database, "migrate" => some (.leaf .migrate)
  | _, _ => none

/-- The words behind `help` lead to a command whose help is told, or they do not. -/
def readHelp : Named → List Raw → UsageError
  | _, [] => .help
  | .group g, word :: words =>
    match word.text?.bind g.find? with
    | some named => readHelp named words
    | none => .unknownCommand
  | _, _ :: _ => .unknownCommand

/-- The command of a group; none if the line ends where the program needs no command. -/
def readGroup (g : Group) (divided : Bool) : List Raw → Except UsageError (Option Command)
  | [] =>
    match g with
    | .program => .ok none
    | .database => .error .helpForMissingCommand
  | word :: words =>
    match divided, word.text?.bind g.find? with
    | true, some _ => .error .unknownArgument
    | true, none => .error .unknownCommand
    | false, some .help => .error (readHelp (.group g) words)
    | false, some (.group inner) => readGroup inner false words
    | false, some (.leaf l) => do
      let values ← readValues [] none false l.kinds words
      (l.command values).map some
    | false, none =>
      match look word with
      | .divider => readGroup g true words
      | .help => .error .help
      | .helpWithValue => .error .tooManyValues
      | .unknownFlag => .error .unknownArgument
      | .plain => .error .unknownCommand

/-- The command of a line without the name of the program. -/
def parse (line : List Raw) : Except UsageError (Option Command) :=
  readGroup .program false line

end Loyalty.CommandLine
