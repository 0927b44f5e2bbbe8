/-!
# Byte strings of the operating system

File names, paths and arguments are byte strings.  Most of them are UTF-8 and some are not.
`pieces` reads a byte string as characters and the runs of bytes between them that belong to no
character; the lossy text writes one U+FFFD for each such run.

A run ends as soon as the next byte cannot continue the character that the run began, so the
bytes of a character cut short are one run, and every other stray byte is a run of its own.
-/
namespace Frontier

/-- A byte string as the operating system hands it over. -/
abbrev OsText := List UInt8

namespace OsText

/-- A part of a byte string read as UTF-8. -/
inductive Piece where
  /-- A character, written as it should be. -/
  | char (c : Char)
  /-- Bytes that are part of no character. -/
  | stray (bytes : List UInt8)
  deriving DecidableEq, Repr

/-- A character whose first bytes have been read.  `next` bounds the byte that must follow and
`owed` counts the bytes after that one. -/
structure Begun where
  value : Nat
  /-- The bytes read so far. -/
  bytes : List UInt8
  next : UInt8 × UInt8
  owed : Nat

/-- What the first byte of a character says. -/
inductive Lead where
  | whole (c : Char)
  | begun (b : Begun)
  | none

/-- Reads the first byte of a character.  The bounds on the second byte rule out characters that
have a shorter form, surrogates and values past the last code point. -/
def lead (b : UInt8) : Lead :=
  let n := b.toNat
  if n < 0x80 then .whole (Char.ofNat n)
  else if n < 0xC2 then .none
  else if n < 0xE0 then .begun ⟨n - 0xC0, [b], (0x80, 0xBF), 0⟩
  else if n < 0xF0 then
    .begun ⟨n - 0xE0, [b],
      (if n = 0xE0 then 0xA0 else 0x80, if n = 0xED then 0x9F else 0xBF), 1⟩
  else if n < 0xF5 then
    .begun ⟨n - 0xF0, [b],
      (if n = 0xF0 then 0x90 else 0x80, if n = 0xF4 then 0x8F else 0xBF), 2⟩
  else .none

/-- Reads bytes with at most one character begun. -/
def piecesFrom : Option Begun → OsText → List Piece
  | none, [] => []
  | some o, [] => [.stray o.bytes]
  | none, b :: rest =>
    match lead b with
    | .whole c => .char c :: piecesFrom none rest
    | .begun o => piecesFrom (some o) rest
    | .none => .stray [b] :: piecesFrom none rest
  | some o, b :: rest =>
    if o.next.1 ≤ b ∧ b ≤ o.next.2 then
      let value := 64 * o.value + b.toNat % 64
      match o.owed with
      | 0 => .char (Char.ofNat value) :: piecesFrom none rest
      | n + 1 => piecesFrom (some ⟨value, o.bytes ++ [b], (0x80, 0xBF), n⟩) rest
    else
      .stray o.bytes ::
        match lead b with
        | .whole c => .char c :: piecesFrom none rest
        | .begun o => piecesFrom (some o) rest
        | .none => .stray [b] :: piecesFrom none rest

/-- A byte string as characters and stray bytes. -/
def pieces (s : OsText) : List Piece := piecesFrom none s

/-- The character that stands for a piece in lossy text. -/
def Piece.shown : Piece → Char
  | .char c => c
  | .stray _ => '\uFFFD'

/-- The text with U+FFFD for every run of stray bytes. -/
def lossy (s : OsText) : String := String.ofList (s.pieces.map Piece.shown)

/-- The character, unless the piece is stray bytes. -/
def Piece.char? : Piece → Option Char
  | .char c => some c
  | .stray _ => none

/-- The text, if every byte is part of a character. -/
def toString? (s : OsText) : Option String := (s.pieces.mapM Piece.char?).map String.ofList

/-- The bytes of a text. -/
def ofChars (s : List Char) : OsText := s.flatMap String.utf8EncodeChar

/-- The bytes of a text. -/
def ofString (s : String) : OsText := ofChars s.toList

end OsText

end Frontier
