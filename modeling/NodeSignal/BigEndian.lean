import Mathlib.Tactic

/-!
# Big-endian 32-bit words

The four bytes of a word in network order, and the word that four bytes
spell.  The two maps are inverse to each other, which is all that a header
codec needs from them.
-/

namespace BigEndian

/-- The number spelled by a list of bytes, most significant byte first. -/
def natOfBytes (bytes : List UInt8) : ℕ :=
  bytes.foldl (fun total byte => total * 256 + byte.toNat) 0

/-- A 32-bit word as four bytes in network order. -/
def bytesOfWord (word : UInt32) : List UInt8 :=
  [UInt8.ofNat (word.toNat / 2 ^ 24), UInt8.ofNat (word.toNat / 2 ^ 16),
    UInt8.ofNat (word.toNat / 2 ^ 8), UInt8.ofNat word.toNat]

def wordOfBytes (bytes : List UInt8) : UInt32 :=
  UInt32.ofNat (natOfBytes bytes)

@[simp] theorem bytesOfWord_length (word : UInt32) :
    (bytesOfWord word).length = 4 := rfl

theorem natOfBytes_four (a b c d : UInt8) :
    natOfBytes [a, b, c, d] =
      a.toNat * 2 ^ 24 + b.toNat * 2 ^ 16 + c.toNat * 2 ^ 8 + d.toNat := by
  simp only [natOfBytes, List.foldl_cons, List.foldl_nil]
  omega

theorem natOfBytes_four_lt (a b c d : UInt8) :
    natOfBytes [a, b, c, d] < 2 ^ 32 := by
  have ha := a.toNat_lt
  have hb := b.toNat_lt
  have hc := c.toNat_lt
  have hd := d.toNat_lt
  rw [natOfBytes_four]
  omega

theorem natOfBytes_bytesOfWord (word : UInt32) :
    natOfBytes (bytesOfWord word) = word.toNat := by
  have hword := word.toNat_lt
  rw [bytesOfWord, natOfBytes_four]
  simp only [UInt8.toNat_ofNat']
  omega

@[simp] theorem wordOfBytes_bytesOfWord (word : UInt32) :
    wordOfBytes (bytesOfWord word) = word := by
  rw [wordOfBytes, natOfBytes_bytesOfWord, UInt32.ofNat_toNat]

theorem wordOfBytes_four_toNat (a b c d : UInt8) :
    (wordOfBytes [a, b, c, d]).toNat = natOfBytes [a, b, c, d] := by
  rw [wordOfBytes, UInt32.toNat_ofNat']
  exact Nat.mod_eq_of_lt (natOfBytes_four_lt a b c d)

theorem bytesOfWord_wordOfBytes_four (a b c d : UInt8) :
    bytesOfWord (wordOfBytes [a, b, c, d]) = [a, b, c, d] := by
  have ha := a.toNat_lt
  have hb := b.toNat_lt
  have hc := c.toNat_lt
  have hd := d.toNat_lt
  unfold bytesOfWord
  rw [wordOfBytes_four_toNat, natOfBytes_four]
  have hbyte : ∀ (byte : UInt8) (value : ℕ),
      value % 256 = byte.toNat → UInt8.ofNat value = byte := by
    intro byte value hvalue
    apply UInt8.toNat_inj.mp
    simpa using hvalue
  rw [hbyte a _ (by omega), hbyte b _ (by omega), hbyte c _ (by omega),
    hbyte d _ (by omega)]

theorem bytesOfWord_wordOfBytes {bytes : List UInt8}
    (hlength : bytes.length = 4) :
    bytesOfWord (wordOfBytes bytes) = bytes := by
  obtain ⟨a, b, c, d, rfl⟩ := List.length_eq_four.mp hlength
  exact bytesOfWord_wordOfBytes_four a b c d

theorem wordOfBytes_toNat {bytes : List UInt8}
    (hlength : bytes.length = 4) :
    (wordOfBytes bytes).toNat = natOfBytes bytes := by
  obtain ⟨a, b, c, d, rfl⟩ := List.length_eq_four.mp hlength
  exact wordOfBytes_four_toNat a b c d

end BigEndian
