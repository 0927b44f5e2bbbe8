import Frontier.Failure
import Frontier.Regex.Meaning

/-!
# Patterns for names

A name pattern is a glob or a regular expression, with or without regard to case.  Either is turned
into the text of one expression that has to match a whole name: a glob by quoting everything but
`*`, an expression by putting it into a group between `^` and `$`.
-/
namespace Frontier

/-- A pattern as it was given. -/
inductive NamePattern where
  | regex (source : String)
  | iregex (source : String)
  | name (source : String)
  | iname (source : String)
  deriving DecidableEq, Repr

/-- A glob as the text of an expression: `*` matches any run of characters that `.` matches, every
other character only itself. -/
def globText : List Char → List Char
  | [] => []
  | '*' :: rest => '.' :: '*' :: globText rest
  | c :: rest =>
    if c ∈ Regex.metaChars then '\\' :: c :: globText rest else c :: globText rest

/-- The expression that a glob stands for. -/
def anchoredGlob (glob : List Char) : List Char := '^' :: globText glob ++ ['$']

/-- An expression that is to match whole names. -/
def anchoredRegex (source : List Char) : List Char :=
  "^(?:".toList ++ source ++ ")$".toList

/-- A pattern that is ready to be tried on names. -/
structure NameMatcher where
  regex : Regex

/-- The matcher accepts the name. -/
def NameMatcher.accepts (m : NameMatcher) (name : String) : Bool :=
  m.regex.isMatch name.toList.toArray

namespace NamePattern

/-- The text as it was given. -/
def source : NamePattern → String
  | regex s | iregex s | name s | iname s => s

/-- Upper and lower case count as the same. -/
def ignoresCase : NamePattern → Bool
  | iregex _ | iname _ => true
  | _ => false

/-- The text of the expression that the pattern stands for. -/
def expression : NamePattern → List Char
  | regex s | iregex s => anchoredRegex s.toList
  | name s | iname s => anchoredGlob s.toList

/-- Makes the pattern ready to be tried on names by an engine. -/
def compileWith (engine : Regex.Engine) (p : NamePattern) : Except Failure NameMatcher :=
  match engine.compile p.ignoresCase p.expression with
  | .ok r => .ok ⟨r⟩
  | .error fault => .error (.invalidPattern p.source fault.report)

/-- Makes the pattern ready to be tried on names. -/
def compile (p : NamePattern) : Except Failure NameMatcher := p.compileWith .standard

/-- The pattern to use where several are given. -/
def select (regex? iregex? name? iname? : Option String) : Option NamePattern :=
  regex?.map regex <|> iregex?.map iregex <|> name?.map name <|> iname?.map iname

end NamePattern

end Frontier
