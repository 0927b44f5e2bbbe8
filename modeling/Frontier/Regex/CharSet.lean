import Frontier.Regex.Expr
import Frontier.Unicode.Age
import Frontier.Unicode.Category
import Frontier.Unicode.Fold
import Frontier.Unicode.Property
import Frontier.Unicode.Script
import Frontier.Unicode.Segmentation

/-!
# Sets of characters

A `CharSet` is built from tables by folding, complement and the operators between classes; its
meaning is the test `CharSet.contains`.  The rest of the module finds the sets that the short and
the named classes stand for.
-/
namespace Frontier.Regex

open Frontier.Unicode

/-- A set of characters. -/
inductive CharSet where
  | ranges (rs : Ranges)
  /-- The characters equal to one in the set up to case. -/
  | folded (s : CharSet)
  /-- The same, for the case of ASCII letters only. -/
  | asciiFolded (s : CharSet)
  | complement (s : CharSet)
  | union (s t : CharSet)
  | inter (s t : CharSet)
  | diff (s t : CharSet)
  | symmDiff (s t : CharSet)

namespace CharSet

/-- The character is in the set. -/
def contains : CharSet → Char → Bool
  | ranges rs, c => rs.contains c
  | folded s, c => (orbit c).any s.contains
  | asciiFolded s, c => [c, c.toLower, c.toUpper].any s.contains
  | complement s, c => !s.contains c
  | union s t, c => s.contains c || t.contains c
  | inter s t, c => s.contains c && t.contains c
  | diff s t, c => s.contains c && !t.contains c
  | symmDiff s t, c => s.contains c != t.contains c

/-- No character. -/
def empty : CharSet := ranges []

/-- Every character. -/
def any : CharSet := ranges [(0, 0x10FFFF)]

/-- One character. -/
def single (c : Char) : CharSet := ranges [(c.toNat, c.toNat)]

/-- The set that an operator of a class makes of two. -/
def ofOp : SetOp → CharSet → CharSet → CharSet
  | .intersection => inter
  | .difference => diff
  | .symmetricDifference => symmDiff

end CharSet

/-! ## ASCII classes -/

/-- The ranges of an ASCII class. -/
def AsciiClass.ranges : AsciiClass → Ranges
  | .alnum => [(0x30, 0x39), (0x41, 0x5A), (0x61, 0x7A)]
  | .alpha => [(0x41, 0x5A), (0x61, 0x7A)]
  | .ascii => [(0x00, 0x7F)]
  | .blank => [(0x09, 0x09), (0x20, 0x20)]
  | .cntrl => [(0x00, 0x1F), (0x7F, 0x7F)]
  | .digit => [(0x30, 0x39)]
  | .graph => [(0x21, 0x7E)]
  | .lower => [(0x61, 0x7A)]
  | .print => [(0x20, 0x7E)]
  | .punct => [(0x21, 0x2F), (0x3A, 0x40), (0x5B, 0x60), (0x7B, 0x7E)]
  | .space => [(0x09, 0x0D), (0x20, 0x20)]
  | .upper => [(0x41, 0x5A)]
  | .word => [(0x30, 0x39), (0x41, 0x5A), (0x5F, 0x5F), (0x61, 0x7A)]
  | .xdigit => [(0x30, 0x39), (0x41, 0x46), (0x61, 0x66)]

/-! ## Short classes -/

/-- The characters that make up words: letters, marks, digits, connectors and joiners. -/
def wordRanges : Ranges :=
  Property.alphabetic.ranges ++ Category.mark.ranges ++ Category.decimalNumber.ranges ++
    Category.connectorPunctuation.ranges ++ Property.joinControl.ranges

/-- The ranges of a short class. -/
def Shorthand.ranges : Shorthand → Ranges
  | .digit => Category.decimalNumber.ranges
  | .space => Property.whiteSpace.ranges
  | .word => wordRanges

/-- The ASCII class that a short class stands for when Unicode is off. -/
def Shorthand.ascii : Shorthand → AsciiClass
  | .digit => .digit
  | .space => .space
  | .word => .word

/-! ## Named classes -/

/-- Names that categories and scripts have but no character set goes with. -/
def emptyNames : List String :=
  ["Surrogate", "Cs", "Unknown", "Zzzz", "Katakana_Or_Hiragana", "Hrkt"]

/-- The characters that have one of these categories. -/
def ofCategories (sets : List NamedSet) : CharSet := .ranges (sets.flatMap (·.ranges))

/-- The assigned characters. -/
def assigned : CharSet := ofCategories Category.singles

/-- The characters of category `Other`: no letters, marks, numbers, punctuation, symbols or
separators. -/
def otherCategory : CharSet :=
  .complement (ofCategories [Category.letter, Category.mark, Category.number,
    Category.punctuation, Category.symbol, Category.separator])

/-- The general category of that loose name, or a name that covers all categories. -/
def category? (loose : List Char) : Option CharSet :=
  if loose = "any".toList then some .any
  else if loose = "assigned".toList then some assigned
  else if loose = "ascii".toList then some (.ranges AsciiClass.ascii.ranges)
  else if loose = "unassigned".toList ∨ loose = "cn".toList then some (.complement assigned)
  else if loose = "other".toList ∨ loose = "c".toList then some otherCategory
  else
    (NamedSet.find? (Category.singles ++ Category.unions) loose).map fun s => .ranges s.ranges

/-- The script of that loose name. -/
def script? (loose : List Char) : Option NamedSet := NamedSet.find? Script.all loose

/-- The ranges that a table of scripts adds to a script. -/
def scriptTable (sets : List NamedSet) (script : NamedSet) : Ranges :=
  ((sets.find? fun s => s.names.head? == script.names.head?).map (·.ranges)).getD []

/-- The characters that a script uses, shared ones too. -/
def extendedScript (script : NamedSet) : CharSet :=
  .diff (.ranges (script.ranges ++ scriptTable Script.wider script))
    (.ranges (scriptTable Script.narrower script))

/-- The set of that name.  Three short names belong to categories although properties of several
values have them too. -/
def namedSet (name : List Char) : Except Fault CharSet :=
  let loose := NamedSet.looseName name
  let isCategory := loose = "cf".toList ∨ loose = "sc".toList ∨ loose = "lc".toList
  match if isCategory then none else NamedSet.find? Property.all loose with
  | some s => .ok (.ranges s.ranges)
  | none =>
    match category? loose, script? loose with
    | some s, _ => .ok s
    | none, some s => .ok (.ranges s.ranges)
    | none, none =>
      if emptyNames.any fun n => NamedSet.looseName n.toList == loose
      then .error .propertyValueNotFound
      else .error .propertyNotFound

/-- The one of these sets that has that loose name. -/
def oneOf? (sets : List NamedSet) (loose : List Char) : Option CharSet :=
  (NamedSet.find? sets loose).map fun s => .ranges s.ranges

/-- A property of several values. -/
structure ValuedProperty where
  names : List String
  /-- The characters with the value of that loose name. -/
  set? : List Char → Option CharSet

/-- The properties of several values that have tables. -/
def valuedProperties : List ValuedProperty :=
  [⟨["General_Category", "gc"], category?⟩,
   ⟨["Script", "sc"], oneOf? Script.all⟩,
   ⟨["Script_Extensions", "scx"], fun loose => (script? loose).map extendedScript⟩,
   ⟨["Age"], fun loose => (Age.through? loose).map .ranges⟩,
   ⟨["Grapheme_Cluster_Break", "GCB"], oneOf? Segmentation.graphemeBreak⟩,
   ⟨["Word_Break", "WB"], oneOf? Segmentation.wordBreak⟩,
   ⟨["Sentence_Break", "SB"], oneOf? Segmentation.sentenceBreak⟩]

/-- The names of properties without a table, which have no value that could be asked for. -/
def bareProperties : List String :=
  ["Bidi_Class", "bc", "Bidi_Mirroring_Glyph", "bmg", "Bidi_Paired_Bracket", "bpb",
    "Bidi_Paired_Bracket_Type", "bpt", "Block", "blk", "Canonical_Combining_Class", "ccc",
    "Case_Folding", "cf", "Changes_When_NFKC_Casefolded", "CWKCF", "Composition_Exclusion", "CE",
    "Decomposition_Mapping", "dm", "Decomposition_Type", "dt", "East_Asian_Width", "ea",
    "Equivalent_Unified_Ideograph", "EqUIdeo", "Expands_On_NFC", "XO_NFC", "Expands_On_NFD",
    "XO_NFD", "Expands_On_NFKC", "XO_NFKC", "Expands_On_NFKD", "XO_NFKD", "FC_NFKC_Closure",
    "FC_NFKC", "Full_Composition_Exclusion", "Comp_Ex", "Hangul_Syllable_Type", "hst",
    "Indic_Positional_Category", "InPC", "Indic_Syllabic_Category", "InSC", "ISO_Comment", "isc",
    "Jamo_Short_Name", "JSN", "Joining_Group", "jg", "Joining_Type", "jt", "Line_Break", "lb",
    "Lowercase_Mapping", "lc", "Name", "na", "Name_Alias", "NFC_Quick_Check", "NFC_QC",
    "NFD_Quick_Check", "NFD_QC", "NFKC_Casefold", "NFKC_CF", "NFKC_Quick_Check", "NFKC_QC",
    "NFKD_Quick_Check", "NFKD_QC", "Numeric_Type", "nt", "Numeric_Value", "nv",
    "Simple_Case_Folding", "scf", "sfc", "Simple_Lowercase_Mapping", "slc",
    "Simple_Titlecase_Mapping", "stc", "Simple_Uppercase_Mapping", "suc", "Titlecase_Mapping",
    "tc", "Unicode_1_Name", "na1", "Unicode_Radical_Stroke", "cjkRSUnicode", "kRSUnicode", "URS",
    "Uppercase_Mapping", "uc", "Vertical_Orientation", "vo", "cjkAccountingNumeric",
    "kAccountingNumeric", "cjkCompatibilityVariant", "kCompatibilityVariant", "cjkIICore",
    "kIICore", "cjkIRG_GSource", "kIRG_GSource", "cjkIRG_HSource", "kIRG_HSource",
    "cjkIRG_JSource", "kIRG_JSource", "cjkIRG_KPSource", "kIRG_KPSource", "cjkIRG_KSource",
    "kIRG_KSource", "cjkIRG_MSource", "kIRG_MSource", "cjkIRG_SSource", "kIRG_SSource",
    "cjkIRG_TSource", "kIRG_TSource", "cjkIRG_UKSource", "kIRG_UKSource", "cjkIRG_USource",
    "kIRG_USource", "cjkIRG_VSource", "kIRG_VSource", "cjkOtherNumeric", "kOtherNumeric",
    "cjkPrimaryNumeric", "kPrimaryNumeric"]

/-- A property that does not have values with tables is called so. -/
def isBareProperty (loose : List Char) : Bool :=
  (NamedSet.find? Property.all loose).isSome ||
    bareProperties.any fun n => NamedSet.looseName n.toList == loose

/-- The set of the characters for which a property has that value. -/
def valuedSet (name value : List Char) : Except Fault CharSet :=
  let loose := NamedSet.looseName name
  match valuedProperties.find? (·.names.any fun n => NamedSet.looseName n.toList == loose) with
  | some property =>
    match property.set? (NamedSet.looseName value) with
    | some s => .ok s
    | none => .error .propertyValueNotFound
  | none =>
    if isBareProperty loose then .error .propertyValueNotFound else .error .propertyNotFound

example : [("Age", "6.0"), ("gcb", "Extend"), ("wb", "Katakana"), ("sb", "ATerm")].all
    (fun (name, value) => (valuedSet name.toList value.toList).toOption.isSome) = true := by
  decide +kernel

/-- The set that a `\p` asks for. -/
def Query.set : Query → Except Fault CharSet
  | .letter c => namedSet [c]
  | .named name => namedSet name
  | .valued name value => valuedSet name value

end Frontier.Regex
