import Frontier.CommandLine.Option

/-!
# What the program says about itself

The version, the two help texts and the wording of mistakes.
-/
namespace Frontier.CommandLine

/-- The name the program goes by. -/
def programName : String := "fff"

/-- The answer to a question for the version. -/
def versionText : String := programName ++ " 0.1.0\n"

/-- The usage line. -/
def usage : String := "Usage: fff [OPTIONS] [PATH]..."

/-- Examples that close both help texts. -/
def exampleLines : List String :=
  ["EXAMPLES:",
   "    fff . -name '*.rs'",
   "    fff /var/log -iname '*.LOG' -type f -maxdepth 2",
   "    fff src tests -regex 'mod|lib\\.rs' -j 8"]

/-- The short help, line by line. -/
def shortHelpLines : List String :=
  ["Find my file or folder: a parallel breadth-first search",
   "",
   usage,
   "",
   "Arguments:",
   "  [PATH]...  Files or directories to search (defaults to the current directory)",
   "",
   "Options:",
   "      --name <PATTERN>   Match names against a glob, where `*` matches anything",
   "      --iname <PATTERN>  Like -name, ignoring case",
   "      --regex <REGEX>    Match names against a regular expression (whole name)",
   "      --iregex <REGEX>   Like -regex, ignoring case",
   "      --type <TYPE>      Kind of place to report: f/file, d/dir/directory, a/any",
   "      --mindepth <NUM>   Do not report places shallower than this depth",
   "      --maxdepth <NUM>   Do not descend below this depth",
   "  -j, --jobs <NUM>       Number of worker threads [default: 1]",
   "  -v, --verbose          Verbose logging on standard error",
   "  -h, --help             Print help (see more with '--help')",
   "  -V, --version          Print version",
   ""] ++ exampleLines

/-- The long help, line by line. -/
def longHelpLines : List String :=
  ["Searches each PATH breadth-first for files and folders whose name matches a pattern.",
   "",
   "Places are examined by up to -j worker threads; matches are printed as they are found,",
   "so output order across directories is not fixed.",
   "",
   usage,
   "",
   "Arguments:",
   "  [PATH]...",
   "          Files or directories to search (defaults to the current directory)",
   "",
   "Options:",
   "      --name <PATTERN>",
   "          Match names against a glob, where `*` matches anything",
   "",
   "      --iname <PATTERN>",
   "          Like -name, ignoring case",
   "",
   "      --regex <REGEX>",
   "          Match names against a regular expression (whole name)",
   "",
   "      --iregex <REGEX>",
   "          Like -regex, ignoring case",
   "",
   "      --type <TYPE>",
   "          Kind of place to report: f/file, d/dir/directory, a/any",
   "",
   "      --mindepth <NUM>",
   "          Do not report places shallower than this depth",
   "",
   "      --maxdepth <NUM>",
   "          Do not descend below this depth",
   "",
   "  -j, --jobs <NUM>",
   "          Number of worker threads",
   "          ",
   "          [default: 1]",
   "",
   "  -v, --verbose",
   "          Verbose logging on standard error",
   "",
   "  -h, --help",
   "          Print help (see a summary with '-h')",
   "",
   "  -V, --version",
   "          Print version",
   ""] ++ exampleLines

/-- Lines as text, each with its line feed. -/
def textOfLines (lines : List String) : String := String.join (lines.map (· ++ "\n"))

namespace Mistake

/-- The mistake in words. -/
def message : Mistake → String
  | unknown arg => "error: unexpected argument '" ++ arg ++ "' found"
  | valueMissing shown => "error: a value is required for '" ++ shown ++ "' but none was supplied"
  | repeated shown => "error: the argument '" ++ shown ++ "' cannot be used multiple times"
  | invalidNumber value option fault =>
    "error: invalid value '" ++ value ++ "' for '" ++ option.shown ++ "': " ++ fault.message
  | unexpectedValue value option =>
    "error: unexpected value '" ++ value ++ "' for '" ++ option.shown ++
      "' found; no more were expected"
  | invalidUtf8 => "error: invalid UTF-8 was detected in one or more arguments"
  | versionWanted => versionText
  | helpWanted false => textOfLines shortHelpLines
  | helpWanted true => textOfLines longHelpLines

/-- The answer is what was asked for and goes to standard output. -/
def isAnswer : Mistake → Bool
  | versionWanted | helpWanted _ => true
  | _ => false

/-- The exit status. -/
def exitCode (m : Mistake) : Nat := if m.isAnswer then 0 else 2

/-- What is shown of the mistake: an answer as a whole, of an error the first line. -/
def headline (m : Mistake) : String :=
  if m.isAnswer then m.message
  else String.ofList (m.message.toList.takeWhile (· ≠ '\n'))

end Mistake

end Frontier.CommandLine
