/-
  Muffle.Proofs.Text.Utf8

  What is written in UTF-8 is read back as the same text. A character is written in one of four
  forms, by the span that its number lies in; for each form the first byte announces how many
  bytes follow, and the six bits of each of them put the number together again.
-/

import Muffle.Proofs.Except
import Muffle.Text.Utf8

namespace Muffle.Text

/-! ## One step of the reader -/

theorem utf8Follow_cons {value seen lo hi n : Nat} {b : UInt8} {rest : List UInt8}
    (hb : lo ≤ b.toNat ∧ b.toNat ≤ hi) :
    utf8Follow value seen lo hi (n + 1) (b :: rest) =
      utf8Follow (value * 0x40 + b.toNat % 0x40) (seen + 1) 0x80 0xbf n rest := by
  rw [utf8Follow, if_pos hb]

/-- A first byte and the bytes that it announces are one character. -/
theorem utf8From_cons {position n value lo hi v : Nat} {b : UInt8} {rest tail : List UInt8}
    (hlead : utf8Lead? b.toNat = some (n, value, lo, hi))
    (hfollow : utf8Follow value 1 lo hi n rest = .ok (v, tail)) :
    utf8From position (b :: rest) = (do
      let cs ← utf8From (position + n + 1) tail
      return Char.ofNat v :: cs) := by
  rw [utf8From]
  split
  · rename_i h
    cases hlead.symm.trans h
  · rename_i h
    cases hlead.symm.trans h
    split
    · rename_i h
      cases hfollow.symm.trans h
    · rename_i h
      cases hfollow.symm.trans h
      rfl

/-! ## The four forms -/

variable {v : Nat}

/-- A byte after the first one carries six bits. -/
theorem utf8Follow_low {value seen lo hi n : Nat} {rest : List UInt8}
    (hlo : lo ≤ v % 0x40 + 0x80) (hhi : v % 0x40 + 0x80 ≤ hi) :
    utf8Follow value seen lo hi (n + 1) (UInt8.ofNat (v % 0x40 + 0x80) :: rest) =
      utf8Follow (value * 0x40 + v % 0x40) (seen + 1) 0x80 0xbf n rest := by
  have hbyte : (UInt8.ofNat (v % 0x40 + 0x80)).toNat = v % 0x40 + 0x80 :=
    UInt8.toNat_ofNat_of_lt' (show _ < 0x100 by omega)
  rw [utf8Follow_cons (by rw [hbyte]; exact ⟨hlo, hhi⟩), hbyte]
  congr 2
  omega

theorem utf8Follow_last {value seen : Nat} {rest : List UInt8} :
    utf8Follow value seen 0x80 0xbf 1 (UInt8.ofNat (v % 0x40 + 0x80) :: rest) =
      .ok (value * 0x40 + v % 0x40, rest) := by
  rw [utf8Follow_low (by omega) (by omega), utf8Follow]

theorem utf8Lead?_two (hmin : 0x80 ≤ v) (hmax : v ≤ 0x7ff) :
    utf8Lead? (UInt8.ofNat (v / 64 % 0x20 + 0xc0)).toNat = some (1, v / 64, 0x80, 0xbf) := by
  have hvalue : (v / 64 % 0x20 + 0xc0) % 0x20 = v / 64 := by omega
  rw [UInt8.toNat_ofNat_of_lt' (show _ < 0x100 by omega), utf8Lead?, if_neg (by omega),
    if_neg (by omega), if_pos (by omega), hvalue]

/-- The span of the second byte keeps out what fewer bytes can write and the surrogates. -/
theorem utf8Lead?_three (hmin : 0x800 ≤ v) (hmax : v ≤ 0xffff)
    (hvalid : v < 0xd800 ∨ 0xdfff < v) :
    ∃ lo hi, utf8Lead? (UInt8.ofNat (v / 4096 % 0x10 + 0xe0)).toNat = some (2, v / 4096, lo, hi) ∧
      lo ≤ v / 64 % 0x40 + 0x80 ∧ v / 64 % 0x40 + 0x80 ≤ hi := by
  rw [UInt8.toNat_ofNat_of_lt' (show _ < 0x100 by omega), utf8Lead?, if_neg (by omega),
    if_neg (by omega), if_neg (by omega)]
  by_cases hfirst : v / 4096 = 0
  · rw [if_pos (by omega)]
    exact ⟨0xa0, 0xbf, by rw [hfirst], by omega, by omega⟩
  · rw [if_neg (by omega)]
    by_cases hsurrogate : v / 4096 = 0xd
    · rw [if_pos (by omega)]
      exact ⟨0x80, 0x9f, by rw [hsurrogate], by omega, by omega⟩
    · have hvalue : (v / 4096 % 0x10 + 0xe0) % 0x10 = v / 4096 := by omega
      rw [if_neg (by omega), if_pos (by omega), hvalue]
      exact ⟨0x80, 0xbf, rfl, by omega, by omega⟩

/-- The span of the second byte keeps out what fewer bytes can write and what lies behind the last
    character. -/
theorem utf8Lead?_four (hmin : 0x10000 ≤ v) (hmax : v < 0x110000) :
    ∃ lo hi,
      utf8Lead? (UInt8.ofNat (v / 262144 % 0x8 + 0xf0)).toNat = some (3, v / 262144, lo, hi) ∧
      lo ≤ v / 4096 % 0x40 + 0x80 ∧ v / 4096 % 0x40 + 0x80 ≤ hi := by
  rw [UInt8.toNat_ofNat_of_lt' (show _ < 0x100 by omega), utf8Lead?, if_neg (by omega),
    if_neg (by omega), if_neg (by omega), if_neg (by omega), if_neg (by omega), if_neg (by omega)]
  by_cases hfirst : v / 262144 = 0
  · rw [if_pos (by omega)]
    exact ⟨0x90, 0xbf, by rw [hfirst], by omega, by omega⟩
  · rw [if_neg (by omega)]
    by_cases hlast : v / 262144 = 4
    · rw [if_neg (by omega), if_pos (by omega)]
      exact ⟨0x80, 0x8f, by rw [hlast], by omega, by omega⟩
    · have hvalue : (v / 262144 % 0x8 + 0xf0) % 8 = v / 262144 := by omega
      rw [if_pos (by omega), hvalue]
      exact ⟨0x80, 0xbf, rfl, by omega, by omega⟩

/-! ## Texts -/

/-- A character in bytes is read as this character, whatever comes after it. -/
theorem utf8From_encodeChar (position : Nat) (c : Char) (rest : List UInt8) :
    ∃ next, utf8From position (String.utf8EncodeChar c ++ rest) = (do
      let cs ← utf8From next rest
      return c :: cs) := by
  have hvalid : c.toNat < 0xd800 ∨ (0xdfff < c.toNat ∧ c.toNat < 0x110000) := c.valid
  -- the bytes that were read make the number of the character
  have hread {n value lo hi v : Nat} {b : UInt8} {bs : List UInt8}
      (hlead : utf8Lead? b.toNat = some (n, value, lo, hi))
      (hfollow : utf8Follow value 1 lo hi n bs = .ok (v, rest)) (hv : v = c.toNat) :
      ∃ next, utf8From position (b :: bs) = (do
        let cs ← utf8From next rest
        return c :: cs) := by
    refine ⟨position + n + 1, ?_⟩
    rw [utf8From_cons hlead hfollow, hv, Char.ofNat_toNat]
  have hval : c.val.toNat = c.toNat := rfl
  simp only [String.utf8EncodeChar, hval]
  by_cases hone : c.toNat ≤ 0x7f
  · rw [if_pos hone]
    have hlead : utf8Lead? (UInt8.ofNat c.toNat).toNat = some (0, c.toNat, 0, 0) := by
      rw [UInt8.toNat_ofNat_of_lt' (show _ < 0x100 by omega), utf8Lead?, if_pos (by omega)]
    exact hread hlead rfl rfl
  rw [if_neg hone]
  by_cases htwo : c.toNat ≤ 0x7ff
  · rw [if_pos htwo]
    exact hread (utf8Lead?_two (by omega) htwo) utf8Follow_last (by omega)
  rw [if_neg htwo]
  by_cases hthree : c.toNat ≤ 0xffff
  · rw [if_pos hthree]
    obtain ⟨lo, hi, hlead, hlo, hhi⟩ := utf8Lead?_three (by omega) hthree (by omega)
    exact hread hlead ((utf8Follow_low hlo hhi).trans utf8Follow_last) (by omega)
  · rw [if_neg hthree]
    obtain ⟨lo, hi, hlead, hlo, hhi⟩ := utf8Lead?_four (v := c.toNat) (by omega) (by omega)
    exact hread hlead
      ((utf8Follow_low hlo hhi).trans
        ((utf8Follow_low (by omega) (by omega)).trans utf8Follow_last)) (by omega)

theorem utf8From_writeUtf8 (cs : List Char) (position : Nat) :
    utf8From position (writeUtf8 cs) = .ok cs := by
  induction cs generalizing position with
  | nil =>
    rw [writeUtf8, List.flatMap_nil, utf8From]
  | cons c cs ih =>
    obtain ⟨next, hchar⟩ := utf8From_encodeChar position c (writeUtf8 cs)
    rw [writeUtf8, List.flatMap_cons, ← writeUtf8, hchar, ih next]
    rfl

/-- A text written in UTF-8 is read back. -/
theorem readUtf8_writeUtf8 (cs : List Char) : readUtf8 (writeUtf8 cs) = .ok cs :=
  utf8From_writeUtf8 cs 0

end Muffle.Text
