/-
# UTF-8 — text comes back from its bytes

`pieces` reads bytes with a machine that knows which byte may come next.  Behind
the bytes of a character it has read that character and is where it was before
(`piecesFrom_utf8EncodeChar`), so it reads the bytes of a text as the text.
-/
import Frontier.Text.OsText
import Mathlib

namespace Frontier.OsText

variable {b : UInt8} {rest : OsText} {n : Nat}

/-! ## One byte -/

/-- A byte that may follow leads on to the character, or to the byte after it. -/
theorem piecesFrom_next {o : Begun} (hlow : o.next.1.toNat ≤ b.toNat)
    (hhigh : b.toNat ≤ o.next.2.toNat) :
    piecesFrom (some o) (b :: rest) =
      match o.owed with
      | 0 => .char (Char.ofNat (64 * o.value + b.toNat % 64)) :: piecesFrom none rest
      | n + 1 =>
          piecesFrom (some ⟨64 * o.value + b.toNat % 64, o.bytes ++ [b], (0x80, 0xBF), n⟩) rest := by
  have hfits : o.next.1 ≤ b ∧ b ≤ o.next.2 :=
    ⟨UInt8.le_iff_toNat_le.mpr hlow, UInt8.le_iff_toNat_le.mpr hhigh⟩
  rw [piecesFrom]
  exact if_pos hfits

theorem lead_two (hlow : 0xC2 ≤ b.toNat) (hhigh : b.toNat < 0xE0) :
    lead b = .begun ⟨b.toNat - 0xC0, [b], (0x80, 0xBF), 0⟩ := by
  simp only [lead, show ¬b.toNat < 0x80 by omega, show ¬b.toNat < 0xC2 by omega, hhigh, if_true,
    if_false]

theorem lead_three (hlow : 0xE0 ≤ b.toNat) (hhigh : b.toNat < 0xF0) :
    lead b = .begun ⟨b.toNat - 0xE0, [b],
      (if b.toNat = 0xE0 then 0xA0 else 0x80, if b.toNat = 0xED then 0x9F else 0xBF), 1⟩ := by
  simp only [lead, show ¬b.toNat < 0x80 by omega, show ¬b.toNat < 0xC2 by omega,
    show ¬b.toNat < 0xE0 by omega, hhigh, if_true, if_false]

theorem lead_four (hlow : 0xF0 ≤ b.toNat) (hhigh : b.toNat < 0xF5) :
    lead b = .begun ⟨b.toNat - 0xF0, [b],
      (if b.toNat = 0xF0 then 0x90 else 0x80, if b.toNat = 0xF4 then 0x8F else 0xBF), 2⟩ := by
  simp only [lead, show ¬b.toNat < 0x80 by omega, show ¬b.toNat < 0xC2 by omega,
    show ¬b.toNat < 0xE0 by omega, show ¬b.toNat < 0xF0 by omega, hhigh, if_true, if_false]

theorem piecesFrom_begun {o : Begun} (h : lead b = .begun o) :
    piecesFrom none (b :: rest) = piecesFrom (some o) rest := by
  rw [piecesFrom, h]

/-! ## One character -/

section Character

variable {v : Nat}

theorem toNat_ofNat_of_lt (h : n < 256) : (UInt8.ofNat n).toNat = n := by
  rw [UInt8.toNat_ofNat', Nat.mod_eq_of_lt h]

/-- The byte that carries six bits of a character may stand behind any other byte of it. -/
theorem toNat_tail (v : Nat) : (UInt8.ofNat (v % 64 + 128)).toNat = v % 64 + 128 :=
  toNat_ofNat_of_lt (by omega)

theorem read_one (h : v ≤ 0x7F) :
    piecesFrom none (UInt8.ofNat v :: rest) = .char (Char.ofNat v) :: piecesFrom none rest := by
  have hb : (UInt8.ofNat v).toNat = v := toNat_ofNat_of_lt (by omega)
  have hlead : lead (UInt8.ofNat v) = .whole (Char.ofNat v) := by
    simp only [lead, hb, show v < 0x80 by omega, if_true]
  rw [piecesFrom, hlead]

theorem read_two (hlow : 0x7F < v) (hhigh : v ≤ 0x7FF) :
    piecesFrom none (UInt8.ofNat (v / 64 % 32 + 192) :: UInt8.ofNat (v % 64 + 128) :: rest) =
      .char (Char.ofNat v) :: piecesFrom none rest := by
  obtain ⟨b, hb⟩ : ∃ b, UInt8.ofNat (v / 64 % 32 + 192) = b := ⟨_, rfl⟩
  have hfirst : b.toNat = v / 64 % 32 + 192 := hb ▸ toNat_ofNat_of_lt (by omega)
  have hsecond := toNat_tail v
  have hvalue : 64 * (b.toNat - 0xC0) + (UInt8.ofNat (v % 64 + 128)).toNat % 64 = v := by omega
  rw [hb, piecesFrom_begun (lead_two (by omega) (by omega)),
    piecesFrom_next (by simp; omega) (by simp; omega)]
  simp only [hvalue]

/-- The second of three bytes is bounded more closely, so that no surrogate is a character. -/
theorem read_three (hlow : 0x7FF < v) (hhigh : v ≤ 0xFFFF) (hvalid : v < 0xD800 ∨ 0xDFFF < v) :
    piecesFrom none (UInt8.ofNat (v / 4096 % 16 + 224) :: UInt8.ofNat (v / 64 % 64 + 128) ::
        UInt8.ofNat (v % 64 + 128) :: rest) =
      .char (Char.ofNat v) :: piecesFrom none rest := by
  obtain ⟨b, hb⟩ : ∃ b, UInt8.ofNat (v / 4096 % 16 + 224) = b := ⟨_, rfl⟩
  have hfirst : b.toNat = v / 4096 % 16 + 224 := hb ▸ toNat_ofNat_of_lt (by omega)
  have hsecond := toNat_tail (v / 64)
  have hthird := toNat_tail v
  have hvalue : 64 * (64 * (b.toNat - 0xE0) + (UInt8.ofNat (v / 64 % 64 + 128)).toNat % 64) +
      (UInt8.ofNat (v % 64 + 128)).toNat % 64 = v := by omega
  rw [hb, piecesFrom_begun (lead_three (by omega) (by omega)),
    piecesFrom_next (by dsimp only; split <;> simp <;> omega)
      (by dsimp only; split <;> simp <;> omega)]
  dsimp only
  rw [piecesFrom_next (by simp; omega) (by simp; omega)]
  simp only [hvalue]

/-- The second of four bytes is bounded more closely, so that nothing is past the last character. -/
theorem read_four (hlow : 0xFFFF < v) (hhigh : v < 0x110000) :
    piecesFrom none (UInt8.ofNat (v / 262144 % 8 + 240) :: UInt8.ofNat (v / 4096 % 64 + 128) ::
        UInt8.ofNat (v / 64 % 64 + 128) :: UInt8.ofNat (v % 64 + 128) :: rest) =
      .char (Char.ofNat v) :: piecesFrom none rest := by
  obtain ⟨b, hb⟩ : ∃ b, UInt8.ofNat (v / 262144 % 8 + 240) = b := ⟨_, rfl⟩
  have hfirst : b.toNat = v / 262144 % 8 + 240 := hb ▸ toNat_ofNat_of_lt (by omega)
  have hsecond := toNat_tail (v / 4096)
  have hthird := toNat_tail (v / 64)
  have hfourth := toNat_tail v
  have hvalue : 64 * (64 * (64 * (b.toNat - 0xF0) +
      (UInt8.ofNat (v / 4096 % 64 + 128)).toNat % 64) +
        (UInt8.ofNat (v / 64 % 64 + 128)).toNat % 64) +
          (UInt8.ofNat (v % 64 + 128)).toNat % 64 = v := by omega
  rw [hb, piecesFrom_begun (lead_four (by omega) (by omega)),
    piecesFrom_next (by dsimp only; split <;> simp <;> omega)
      (by dsimp only; split <;> simp <;> omega)]
  dsimp only
  rw [piecesFrom_next (by simp; omega) (by simp; omega)]
  dsimp only
  rw [piecesFrom_next (by simp; omega) (by simp; omega)]
  simp only [hvalue]

end Character

/-- The bytes of a character are read as the character. -/
theorem piecesFrom_utf8EncodeChar (c : Char) (rest : OsText) :
    piecesFrom none (String.utf8EncodeChar c ++ rest) = .char c :: piecesFrom none rest := by
  have hvalid : c.toNat < 0xD800 ∨ 0xDFFF < c.toNat ∧ c.toNat < 0x110000 := c.valid
  have hc : .char c = Piece.char (Char.ofNat c.toNat) := by rw [Char.ofNat_toNat]
  rw [hc, String.utf8EncodeChar]
  split
  · next hone => exact read_one hone
  · next hone =>
      split
      · next htwo => exact read_two (Nat.lt_of_not_le hone) htwo
      · next htwo =>
          split
          · next hthree =>
              exact read_three (Nat.lt_of_not_le htwo) hthree (hvalid.imp_right And.left)
          · next hthree =>
              have hhigh : 0xFFFF < c.toNat := Nat.lt_of_not_le hthree
              exact read_four hhigh (by change c.toNat < 0x110000; omega)

/-! ## Texts -/

theorem ofString_append (s t : String) : ofString (s ++ t) = ofString s ++ ofString t := by
  rw [ofString, String.toList_append, ofChars, List.flatMap_append]
  rfl

theorem pieces_ofChars (cs : List Char) : pieces (ofChars cs) = cs.map .char := by
  induction cs with
  | nil => rfl
  | cons c cs ih =>
      rw [pieces, ofChars, List.flatMap_cons, piecesFrom_utf8EncodeChar, List.map_cons]
      exact congrArg _ ih

/-- The bytes of a text are read as the text. -/
theorem toString?_ofString (s : String) : toString? (ofString s) = some s := by
  have hchars (cs : List Char) : (cs.map Piece.char).mapM Piece.char? = some cs := by
    induction cs with
    | nil => rfl
    | cons c cs ih => simp [Piece.char?, ih]
  rw [toString?, ofString, pieces_ofChars, hchars, Option.map_some, String.ofList_toList]

end Frontier.OsText
