/-!
# Sets of characters as tables

A set of characters is a list of closed ranges of code points.  Long ones are written as text, a
blank between two items, each item one code point or the two ends of a range in hexadecimal:
`41-5A B5 C0-D6`.  `Ranges.ofText` reads such a table.

A named set is a table together with the names a pattern may call it by.  Names are compared
loosely: case, blanks, `_`, `-` and a leading `is` make no difference.
-/
namespace Frontier.Unicode

/-- Closed ranges of code points. -/
abbrev Ranges := List (Nat × Nat)

namespace Ranges

/-- The character lies in one of the ranges. -/
def contains (rs : Ranges) (c : Char) : Bool :=
  rs.any fun r => r.1 ≤ c.toNat && c.toNat ≤ r.2

/-- The value of an upper case hexadecimal digit; any other character counts as 0. -/
def digit (c : Char) : Nat :=
  if '0' ≤ c ∧ c ≤ '9' then c.toNat - '0'.toNat
  else if 'A' ≤ c ∧ c ≤ 'F' then c.toNat - 'A'.toNat + 10
  else 0

/-- Reads the rest of a table: `first` is the lower end of the item being read, once a `-` has
been seen, and `value` the code point read so far. -/
def read (first : Option Nat) (value : Nat) : List Char → Ranges
  | [] => [(first.getD value, value)]
  | ' ' :: rest => (first.getD value, value) :: read none 0 rest
  | '-' :: rest => read (some value) 0 rest
  | c :: rest => read first (16 * value + digit c) rest

/-- The ranges that a table of at least one item lists. -/
def ofText (text : String) : Ranges := read none 0 text.toList

@[simp] theorem contains_nil (c : Char) : contains [] c = false := rfl

@[simp] theorem contains_append (rs ss : Ranges) (c : Char) :
    contains (rs ++ ss) c = (contains rs c || contains ss c) := by
  simp [contains]

end Ranges

/-- A set of characters under its names. -/
structure NamedSet where
  names : List String
  tables : List String

namespace NamedSet

/-- The ranges of all the tables. -/
def ranges (s : NamedSet) : Ranges := s.tables.flatMap Ranges.ofText

/-- Several sets as one, under names of its own. -/
def union (names : List String) (parts : List NamedSet) : NamedSet :=
  ⟨names, parts.flatMap (·.tables)⟩

/-- Lower case letters and no separators; characters beyond ASCII are dropped. -/
def squeeze (s : List Char) : List Char :=
  (s.filter fun c => c.toNat < 128 && c ≠ ' ' && c ≠ '_' && c ≠ '-').map Char.toLower

/-- The form under which names are compared.  A leading `is` does not count, except in `isc`,
which is a name of its own. -/
def looseName (s : List Char) : List Char :=
  match s with
  | a :: b :: rest =>
    if (a = 'i' ∨ a = 'I') ∧ (b = 's' ∨ b = 'S') then
      if squeeze rest = ['c'] then ['i', 's', 'c'] else squeeze rest
    else squeeze s
  | _ => squeeze s

/-- The loose form of one of the set's names. -/
def isCalled (s : NamedSet) (loose : List Char) : Bool :=
  s.names.any fun n => looseName n.toList == loose

/-- The first of the sets with this loose name. -/
def find? (sets : List NamedSet) (loose : List Char) : Option NamedSet :=
  sets.find? (·.isCalled loose)

end NamedSet

end Frontier.Unicode
