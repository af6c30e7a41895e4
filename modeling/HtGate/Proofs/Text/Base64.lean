import HtGate.Proofs.Text.Trimming
import HtGate.Text.Base64
/-!
# Base64 there and back

Each group of at most three bytes is read back from its four characters, and so is a sequence of bytes from
its groups. The characters of a written form are of the alphabet or pads: all of them are ASCII, and none is
whitespace.
-/

namespace HtGate.Base64

/-- The value of a character of the alphabet is the one it is written for. -/
lemma digitValue?_digit {n : Nat} (h : n < 64) : digitValue? (digit n) = some n := by
  have hcodes : ∀ n < 64, digitValue? (digit n) = some n := by decide
  exact hcodes n h

/-- No character of the alphabet is the pad. -/
lemma digit_ne_pad {n : Nat} (h : n < 64) : digit n ≠ '=' := by
  have hcodes : ∀ n < 64, digit n ≠ '=' := by decide
  exact hcodes n h

section Groups

variable {p q r s : Nat}

/-- A group with two pads has one byte. -/
lemma decodeGroups_one (hp : p < 64) (hq : q < 64) :
    decodeGroups [digit p, digit q, '=', '='] = some [(p * 4 + q / 16).toUInt8] := by
  simp [decodeGroups, digit_ne_pad hp, digitValue?_digit hp, digitValue?_digit hq]

/-- A group with one pad has two bytes. -/
lemma decodeGroups_two (hp : p < 64) (hq : q < 64) (hr : r < 64) :
    decodeGroups [digit p, digit q, digit r, '='] =
      some [(p * 4 + q / 16).toUInt8, (q % 16 * 16 + r / 4).toUInt8] := by
  simp [decodeGroups, digit_ne_pad hp, digit_ne_pad hr, digitValue?_digit hp, digitValue?_digit hq,
    digitValue?_digit hr]

/-- A group without pads has three bytes, and the groups behind it have the others. -/
lemma decodeGroups_three (hp : p < 64) (hq : q < 64) (hr : r < 64) (hs : s < 64) (t : Text) :
    decodeGroups (digit p :: digit q :: digit r :: digit s :: t) =
      (decodeGroups t).map fun more =>
        (p * 4 + q / 16).toUInt8 :: (q % 16 * 16 + r / 4).toUInt8 :: (r % 4 * 64 + s).toUInt8 :: more := by
  simp [decodeGroups, digit_ne_pad hp, digit_ne_pad hr, digit_ne_pad hs, digitValue?_digit hp,
    digitValue?_digit hq, digitValue?_digit hr, digitValue?_digit hs]
  cases decodeGroups t <;> rfl

end Groups

/-- The number of a byte comes back as that byte. -/
lemma toUInt8_eq {n : Nat} {b : UInt8} (h : n = b.toNat) : n.toUInt8 = b := by
  rw [h]
  exact UInt8.ofNat_toNat

/-- Bytes are read back from their groups. -/
lemma decodeGroups_encode (bytes : Bytes) : decodeGroups (encode bytes) = some bytes := by
  -- the bits of a byte that one character lacks are in the next
  induction bytes using encode.induct with
  | case1 => rfl
  | case2 a =>
    have ha := a.toNat_lt
    rw [encode, decodeGroups_one (by omega) (by omega), toUInt8_eq (b := a) (by omega)]
  | case3 a b =>
    have ha := a.toNat_lt
    have hb := b.toNat_lt
    rw [encode, decodeGroups_two (by omega) (by omega) (by omega), toUInt8_eq (b := a) (by omega),
      toUInt8_eq (b := b) (by omega)]
  | case4 a b c rest ih =>
    have ha := a.toNat_lt
    have hb := b.toNat_lt
    have hc := c.toNat_lt
    rw [encode, decodeGroups_three (by omega) (by omega) (by omega) (by omega), ih, Option.map_some,
      toUInt8_eq (b := a) (by omega), toUInt8_eq (b := b) (by omega), toUInt8_eq (b := c) (by omega)]

/-- A written form does not begin with a pad. -/
lemma head?_encode (bytes : Bytes) : (encode bytes).head? ≠ some '=' := by
  have hfirst (a : UInt8) : digit (a.toNat / 4) ≠ '=' := by
    have ha := a.toNat_lt
    exact digit_ne_pad (by omega)
  cases bytes using encode.fun_cases with
  | case1 => simp [encode]
  | case2 a => simpa [encode] using hfirst a
  | case3 a b => simpa [encode] using hfirst a
  | case4 a b c rest => simpa [encode] using hfirst a

/-- Bytes are read back from their written form. -/
lemma decode_encode (bytes : Bytes) : decode (encode bytes) = some bytes := by
  rw [decode, if_neg (by simpa using head?_encode bytes), decodeGroups_encode]

/-- Whether a character is ASCII and no whitespace. -/
def IsPlain (c : Char) : Prop := c.toNat < 0x80 ∧ Text.isWhitespace c = false

/-- The characters of the alphabet are plain. -/
lemma isPlain_digit {n : Nat} (h : n < 64) : IsPlain (digit n) := by
  have hcodes : ∀ n < 64, (digit n).toNat < 0x80 ∧ Text.isWhitespace (digit n) = false := by decide
  exact hcodes n h

/-- The characters of a written form are plain. -/
lemma isPlain_of_mem_encode {bytes : Bytes} : ∀ c ∈ encode bytes, IsPlain c := by
  have hpad : IsPlain '=' := ⟨by decide, by decide⟩
  induction bytes using encode.induct with
  | case1 => simp [encode]
  | case2 a =>
    have ha := a.toNat_lt
    simp only [encode, List.forall_mem_cons]
    exact ⟨isPlain_digit (by omega), isPlain_digit (by omega), hpad, hpad, by simp⟩
  | case3 a b =>
    have ha := a.toNat_lt
    have hb := b.toNat_lt
    simp only [encode, List.forall_mem_cons]
    exact ⟨isPlain_digit (by omega), isPlain_digit (by omega), isPlain_digit (by omega), hpad, by simp⟩
  | case4 a b c rest ih =>
    have ha := a.toNat_lt
    have hb := b.toNat_lt
    have hc := c.toNat_lt
    simp only [encode, List.forall_mem_cons]
    exact ⟨isPlain_digit (by omega), isPlain_digit (by omega), isPlain_digit (by omega),
      isPlain_digit (by omega), ih⟩

/-- Nothing is trimmed from a written form. -/
lemma trim_encode (bytes : Bytes) : Text.trim (encode bytes) = encode bytes := by
  have hsolid : ∀ c ∈ encode bytes, Text.isWhitespace c = false := fun c hc => (isPlain_of_mem_encode c hc).2
  rw [Text.trim_eq_self_iff]
  by_cases hne : encode bytes = []
  · exact .inl hne
  · exact .inr ⟨Text.startsSolid_of_all hne hsolid, Text.endsSolid_of_all hne hsolid⟩

end HtGate.Base64
