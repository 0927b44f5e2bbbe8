import Frontier.Failure

/-!
# Options and what they are given

The options of the command line, the arguments they make up, and what can be wrong with them.  Each
mistake is one constructor of `Mistake`; `Mistake.message` words it.
-/
namespace Frontier.CommandLine

/-- The options that take a value. -/
inductive Setting where
  | name
  | iname
  | regex
  | iregex
  | type
  | minDepth
  | maxDepth
  | jobs
  deriving DecidableEq, Repr

namespace Setting

/-- Every option that takes a value. -/
def all : List Setting := [name, iname, regex, iregex, type, minDepth, maxDepth, jobs]

/-- The name after two dashes. -/
def long : Setting → String
  | name => "name"
  | iname => "iname"
  | regex => "regex"
  | iregex => "iregex"
  | type => "type"
  | minDepth => "mindepth"
  | maxDepth => "maxdepth"
  | jobs => "jobs"

/-- What the value is called. -/
def valueName : Setting → String
  | name | iname => "PATTERN"
  | regex | iregex => "REGEX"
  | type => "TYPE"
  | minDepth | maxDepth | jobs => "NUM"

/-- The option as messages show it. -/
def shown (s : Setting) : String := "--" ++ s.long ++ " <" ++ s.valueName ++ ">"

/-- The value is a number. -/
def isNumber : Setting → Bool
  | minDepth | maxDepth | jobs => true
  | _ => false

end Setting

/-- The options that stand alone. -/
inductive Toggle where
  | verbose
  | help
  | version
  deriving DecidableEq, Repr

namespace Toggle

/-- Every option that stands alone. -/
def all : List Toggle := [verbose, help, version]

/-- The name after two dashes. -/
def long : Toggle → String
  | verbose => "verbose"
  | help => "help"
  | version => "version"

/-- The letter after one dash. -/
def short : Toggle → Char
  | verbose => 'v'
  | help => 'h'
  | version => 'V'

/-- The option as messages show it. -/
def shown (t : Toggle) : String := "--" ++ t.long

end Toggle

/-- What a command line asks for. -/
structure Arguments where
  roots : List Path := []
  name : Option String := none
  iname : Option String := none
  regex : Option String := none
  iregex : Option String := none
  type : Option String := none
  minDepth : Option Nat := none
  maxDepth : Option Nat := none
  jobs : Nat := 1
  verbose : Bool := false
  deriving DecidableEq, Repr

/-! ## Numbers -/

/-- The numbers of the command line are below this. -/
def numberLimit : Nat := 18446744073709551616

/-- What is wrong with a number. -/
inductive NumberFault where
  | empty
  | invalidDigit
  | tooLarge
  deriving DecidableEq, Repr

/-- What is wrong with a number, in words. -/
def NumberFault.message : NumberFault → String
  | empty => "cannot parse integer from empty string"
  | invalidDigit => "invalid digit found in string"
  | tooLarge => "number too large to fit in target type"

/-- Reads the rest of a number; `n` is the value so far. -/
def readDigits (n : Nat) : List Char → Except NumberFault Nat
  | [] => .ok n
  | c :: rest =>
    if c.isDigit then
      let n := 10 * n + (c.toNat - '0'.toNat)
      if n < numberLimit then readDigits n rest else .error .tooLarge
    else .error .invalidDigit

/-- Reads a number: digits, with a `+` before them or not. -/
def readNumber (s : String) : Except NumberFault Nat :=
  match s.toList with
  | [] => .error .empty
  | ['+'] => .error .invalidDigit
  | '+' :: digits => readDigits 0 digits
  | digits => readDigits 0 digits

/-! ## Mistakes -/

/-- Why arguments are not understood, or not acted on. -/
inductive Mistake where
  /-- No option is written like this. -/
  | unknown (arg : String)
  /-- A value is missing. -/
  | valueMissing (shown : String)
  /-- An option is given twice. -/
  | repeated (shown : String)
  /-- A value is no number. -/
  | invalidNumber (value : String) (option : Setting) (fault : NumberFault)
  /-- An option that stands alone is given a value. -/
  | unexpectedValue (value : String) (option : Toggle)
  /-- A value is no text. -/
  | invalidUtf8
  /-- The version is asked for. -/
  | versionWanted
  /-- Help is asked for, in short or at length. -/
  | helpWanted (long : Bool)
  deriving DecidableEq, Repr

end Frontier.CommandLine
