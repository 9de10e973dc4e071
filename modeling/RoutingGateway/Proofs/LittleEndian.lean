/-
Doubles as eight bytes, there and back.

The word of a double is a sign bit, eleven bits of exponent and fifty-two of
mantissa. Making a double from a word takes these parts, finds out what kind
of number they are, and puts a word together again. `pack_unpack` goes through
the kinds: infinite, not a number, zero, subnormal and normal. All of them give
back the parts they were made from, and what is not a number has one word only.
So no bit of a double is lost (`ofBits_toBits`), nor are any of its bytes
(`toFloat_ofFloat`).
-/
import Mathlib
import RoutingGateway.LittleEndian

namespace RoutingGateway.LittleEndian

open Float.Model Float.Model.UnpackedFloat

/-! ## The parts of a word -/

theorem toBitVec_ofBitVec (b : BitVec 1) : (Sign.ofBitVec b).toBitVec = b := by
  revert b
  decide

/-- A word is its sign, its exponent and its mantissa, one behind the other. -/
theorem packComponents_unpack (b : BitVec Format.binary64.numBits) :
    packComponents .binary64 (Sign.ofBitVec (unpackSign b)) (unpackExponent b)
      (unpackMantissa b) = b := by
  refine BitVec.eq_of_getLsbD_eq fun i hi => ?_
  have hi : i < 64 := hi
  rw [packComponents, toBitVec_ofBitVec]
  simp only [unpackSign, unpackExponent, unpackMantissa, BitVec.getLsbD_append,
    BitVec.getLsbD_cast, BitVec.getLsbD_extractLsb]
  by_cases hmantissa : i < 52
  · simp [hmantissa]
  · by_cases hexponent : i < 63
    · have hwithin : i - 52 < 11 := by omega
      have hplace : 52 + (i - 52) = i := by omega
      simp [hmantissa, hwithin, hplace]
    · have hsign : i = 63 := by omega
      simp [hsign]

/-- A word whose exponent and mantissa are known is put together from them. -/
theorem packComponents_of_parts {b : BitVec Format.binary64.numBits}
    {e : BitVec Format.binary64.exponentBits}
    {m : BitVec Format.binary64.mantissaBitsWithoutImplicit}
    (he : unpackExponent b = e) (hm : unpackMantissa b = m) :
    packComponents .binary64 (Sign.ofBitVec (unpackSign b)) e m = b := by
  rw [← he, ← hm, packComponents_unpack]

/-! ## The kinds of numbers -/

/-- A mantissa with its leading bit. -/
theorem toNat_leading_append (m : BitVec 52) : (1#1 ++ m).toNat = 2 ^ 52 + m.toNat := by
  rw [BitVec.toNat_append, ← Nat.shiftLeft_add_eq_or_of_lt m.isLt, Nat.shiftLeft_eq]
  rfl

/-- A mantissa without its leading bit is too small for a normal number, and keeps the
exponent zero. -/
theorem pack_subnormal (s : Sign) (m : BitVec 52) (hm : 0 < m.toNat) :
    UnpackedFloat.pack .binary64 (.finite s m.toNat (-1074) hm) =
      packComponents .binary64 s 0#11 m := by
  have hlog : ¬ m.toNat.log2 + 1 = Format.binary64.mantissaBits := by
    have hlt : m.toNat.log2 < 52 := (Nat.log2_lt (Nat.ne_of_gt hm)).mpr m.isLt
    have hbits : Format.binary64.mantissaBits = 53 := by decide
    omega
  rw [UnpackedFloat.pack]
  dsimp only
  rw [if_neg (by decide), if_neg hlog, BitVec.ofNat_toNat, BitVec.setWidth_eq]

/-- A mantissa with its leading bit keeps its exponent, which is not the greatest. -/
theorem pack_normal (s : Sign) (e : BitVec 11) (m : BitVec 52) (he : e ≠ -1#11)
    (hm : 0 < (1#1 ++ m).toNat) :
    UnpackedFloat.pack .binary64 (.finite s (1#1 ++ m).toNat (e.toNat - 1075) hm) =
      packComponents .binary64 s e m := by
  have hmantissa : m.toNat < 2 ^ 52 := m.isLt
  have hlog : (1#1 ++ m).toNat.log2 + 1 = Format.binary64.mantissaBits := by
    have hlog : (2 ^ 52 + m.toNat).log2 = 52 :=
      (Nat.log2_eq_iff (by omega)).mpr ⟨Nat.le_add_right _ _, by omega⟩
    rw [toNat_leading_append, hlog]
    rfl
  have hbias : (e.toNat - 1075 + Format.binary64.exponentBias +
      Format.binary64.mantissaBitsWithoutImplicit : Int).toNat = e.toNat := by
    have hexponent : Format.binary64.exponentBias = 1023 := by decide
    have hmantissa : Format.binary64.mantissaBitsWithoutImplicit = 52 := rfl
    omega
  have hfits : ¬ 2 ^ 11 ≤ e.toNat + 1 := fun h => by
    refine he (BitVec.eq_of_toNat_eq ?_)
    have hlt := e.isLt
    have hones : (-1#11).toNat = 2 ^ 11 - 1 := by decide
    omega
  have hdropped : BitVec.ofNat 52 (1#1 ++ m).toNat = m := by
    refine BitVec.eq_of_toNat_eq ?_
    rw [BitVec.toNat_ofNat, toNat_leading_append]
    omega
  rw [UnpackedFloat.pack]
  dsimp only
  rw [hbias, if_neg hfits, if_pos hlog, hdropped, BitVec.ofNat_toNat, BitVec.setWidth_eq]

/-- Every word of a double is put together again from what it was taken apart into. -/
theorem pack_unpack {b : BitVec Format.binary64.numBits} (h : Format.binary64.Valid b) :
    UnpackedFloat.pack .binary64 (UnpackedFloat.unpack .binary64 b) = b := by
  have hbias : (Format.binary64.exponentBias + Format.binary64.mantissaBitsWithoutImplicit : Int) =
      1075 := by decide
  rw [UnpackedFloat.unpack]
  dsimp only
  rw [hbias]
  split
  · next hones =>
    split
    · next hzero => exact packComponents_of_parts hones hzero
    · next hzero => exact (h.eq_packedNaN hones hzero).symm
  · next hones =>
    split
    · next hlow =>
      split
      · next hzero => exact packComponents_of_parts hlow hzero
      · have hleast : ((unpackExponent b).toNat - 1075 + 1 : Int) = -1074 := by
          rw [hlow]
          decide
        rw [hleast, pack_subnormal]
        exact packComponents_of_parts hlow rfl
    · rw [pack_normal _ _ _ hones]
      exact packComponents_unpack b

/-! ## Doubles -/

theorem ofBits_toBits (x : Float) : Float.ofBits x.toBits = x := by
  obtain ⟨⟨bits, hvalid⟩⟩ := x
  simp only [Float.ofBits, Float.toBits, Float.Model.ofBits, Float.Model.pack, pack_unpack hvalid]

@[simp] theorem length_ofFloat (x : Float) : (ofFloat x).length = 8 := length_encode 8 _

/-- The eight bytes of a double are read as this double, bit for bit. -/
theorem toFloat_ofFloat (x : Float) : toFloat (ofFloat x) = x := by
  have hword : x.toBits.toNat % Nat.pow 256 8 = x.toBits.toNat :=
    Nat.mod_eq_of_lt x.toBits.toNat_lt
  rw [toFloat, ofFloat, decode_encode, hword, UInt64.ofNat_toNat, ofBits_toBits]

end RoutingGateway.LittleEndian
