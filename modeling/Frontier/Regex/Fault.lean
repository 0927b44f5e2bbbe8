/-!
# What can be wrong with an expression

Each way in which a text fails to be a regular expression is one constructor; its wording is
`Fault.what`, and `Fault.report` is the report that a user sees.
-/
namespace Frontier.Regex

/-- The deepest nesting an expression may have. -/
def nestLimit : Nat := 250

/-- How many bytes an expression may take up that is ready for use. -/
def sizeLimit : Nat := 10485760

/-- Why a text is no regular expression. -/
inductive Fault where
  -- Groups and flags
  | groupUnclosed
  | groupUnopened
  | groupNameEmpty
  | groupNameInvalid
  | groupNameDuplicate
  | groupNameUnfinished
  | lookAround
  | flagUnrecognized
  | flagDuplicate
  | flagNegationDangling
  | flagNegationRepeated
  | flagUnfinished
  -- Repetitions
  | repetitionMissing
  | repetitionCountMissing
  | repetitionCountUnclosed
  | repetitionCountInvalid
  | decimalMissing
  | decimalInvalid
  -- Escapes
  | escapeUnfinished
  | escapeUnrecognized
  | backreference
  | hexMissing
  | hexInvalid
  | hexDigitInvalid
  | propertyInvalid
  | boundaryUnclosed
  | boundaryUnrecognized
  | boundaryUnfinished
  -- Character classes
  | classUnclosed
  | classEscapeInvalid
  | classRangeInvalid
  | classRangeLiteral
  -- The expression as a whole
  | nestingTooDeep
  -- Meaning of a well-formed expression
  | unicodeNotAllowed
  | invalidUtf8
  | propertyNotFound
  | propertyValueNotFound
  /-- The expression is well-formed and too large for the engine. -/
  | tooLarge
  deriving DecidableEq, Repr

namespace Fault

/-- The cause in words. -/
def what : Fault → String
  | groupUnclosed => "unclosed group"
  | groupUnopened => "unopened group"
  | groupNameEmpty => "empty capture group name"
  | groupNameInvalid => "invalid capture group character"
  | groupNameDuplicate => "duplicate capture group name"
  | groupNameUnfinished => "unclosed capture group name"
  | lookAround => "look-around, including look-ahead and look-behind, is not supported"
  | flagUnrecognized => "unrecognized flag"
  | flagDuplicate => "duplicate flag"
  | flagNegationDangling => "dangling flag negation operator"
  | flagNegationRepeated => "flag negation operator repeated"
  | flagUnfinished => "expected flag but got end of regex"
  | repetitionMissing => "repetition operator missing expression"
  | repetitionCountMissing => "repetition quantifier expects a valid decimal"
  | repetitionCountUnclosed => "unclosed counted repetition"
  | repetitionCountInvalid =>
    "invalid repetition count range, the start must be <= the end"
  | decimalMissing => "decimal literal empty"
  | decimalInvalid => "decimal literal invalid"
  | escapeUnfinished => "incomplete escape sequence, reached end of pattern prematurely"
  | escapeUnrecognized => "unrecognized escape sequence"
  | backreference => "backreferences are not supported"
  | hexMissing => "hexadecimal literal empty"
  | hexInvalid => "hexadecimal literal is not a Unicode scalar value"
  | hexDigitInvalid => "invalid hexadecimal digit"
  | propertyInvalid => "invalid Unicode character class"
  | boundaryUnclosed =>
    "special word boundary assertion is either unclosed or contains an invalid character"
  | boundaryUnrecognized =>
    "unrecognized special word boundary assertion, valid choices are: start, end, start-half " ++
      "or end-half"
  | boundaryUnfinished =>
    "found either the beginning of a special word boundary or a bounded repetition on a \\b " ++
      "with an opening brace, but no closing brace"
  | classUnclosed => "unclosed character class"
  | classEscapeInvalid => "invalid escape sequence found in character class"
  | classRangeInvalid => "invalid character class range, the start must be <= the end"
  | classRangeLiteral => "invalid range boundary, must be a literal"
  | nestingTooDeep =>
    s!"exceed the maximum number of nested parentheses/brackets ({nestLimit})"
  | unicodeNotAllowed => "Unicode not allowed here"
  | invalidUtf8 => "pattern can match invalid UTF-8"
  | propertyNotFound => "Unicode property not found"
  | propertyValueNotFound => "Unicode property value not found"
  | tooLarge => s!"Compiled regex exceeds size limit of {sizeLimit} bytes."

/-- The line that opens a report. -/
def heading : String := "regex parse error:"

/-- The report: a heading and, on a line of its own, the cause.  What is only too large could be
read, and has no heading. -/
def report : Fault → String
  | tooLarge => tooLarge.what
  | f => heading ++ "\nerror: " ++ f.what

end Fault

end Frontier.Regex
