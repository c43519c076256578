import LintGloss.Proofs.Steps
import LintGloss.Text.Utf8
/-!
# UTF-8 is read as it was written

The octets of a text are those of its characters one after another, and each character is read from its own octets,
whatever follows them.
-/

namespace LintGloss.Text.Utf8

/-! ## Octets -/

theorem toList_loop (bs : ByteArray) (i : Nat) (r : List UInt8) :
    ByteArray.toList.loop bs i r = r.reverse ++ bs.data.toList.drop i := by
  fun_induction ByteArray.toList.loop bs i r with
  | case1 i r h ih =>
    have hi : i < bs.data.toList.length := h
    rw [ih, List.drop_eq_getElem_cons hi]
    simp [ByteArray.get!, getElem!_pos, h]
  | case2 i r h =>
    have hi : bs.data.toList.length ≤ i := Nat.le_of_not_lt h
    rw [List.drop_eq_nil_of_le hi, List.append_nil]

theorem encode_eq_flatMap (s : String) : encode s = s.toList.flatMap String.utf8EncodeChar := by
  have hbytes : s.toUTF8 = s.toList.utf8Encode := by simp
  rw [encode, hbytes, ByteArray.toList, toList_loop, List.utf8Encode, List.data_toByteArray]
  simp

/-! ## Leading octets -/

theorem lead?_one : ∀ a < 0x80, lead? (UInt8.ofNat a) = some (0, 0x80, 0xBF, a) := by decide

theorem lead?_two : ∀ a < 30,
    lead? (UInt8.ofNat (a + 2 + 192)) = some (1, 0x80, 0xBF, a + 2) := by decide

theorem lead?_three : ∀ a < 16, lead? (UInt8.ofNat (a + 224)) =
    some (2, if a = 0 then 0xA0 else 0x80, if a = 13 then 0x9F else 0xBF, a) := by decide

theorem lead?_four : ∀ a < 5, lead? (UInt8.ofNat (a + 240)) =
    some (3, if a = 0 then 0x90 else 0x80, if a = 4 then 0x8F else 0xBF, a) := by decide

/-! ## Characters -/

/-- One octet that follows gives six bits. -/
theorem follow_succ {n a bits : Nat} {lo hi : UInt8} {rest : List UInt8} (ha : a < 64) (hlo : lo.toNat ≤ a + 128)
    (hhi : a + 128 ≤ hi.toNat) :
    follow (n + 1) lo hi bits (UInt8.ofNat (a + 128) :: rest) = follow n 0x80 0xBF (bits * 64 + a) rest := by
  have hb : (UInt8.ofNat (a + 128)).toNat = a + 128 := by
    rw [UInt8.toNat_ofNat']
    omega
  have hwithin : lo ≤ UInt8.ofNat (a + 128) ∧ UInt8.ofNat (a + 128) ≤ hi := by
    rw [UInt8.le_iff_toNat_le, UInt8.le_iff_toNat_le, hb]
    exact ⟨hlo, hhi⟩
  have hbits : (UInt8.ofNat (a + 128)).toNat - 0x80 = a := by rw [hb]; omega
  rw [follow, if_pos hwithin, hbits]

theorem scan_cons {b : UInt8} {rest rest' : List UInt8} {n bits : Nat} {lo hi : UInt8} {c : Char}
    (hlead : lead? b = some (n, lo, hi, bits)) (hfollow : follow n lo hi bits rest = (some c, rest')) :
    scan (b :: rest) = some c :: scan rest' := by
  rw [scan, hlead]
  dsimp only
  rw [hfollow]

theorem scan_utf8EncodeChar (c : Char) (rest : List UInt8) :
    scan (String.utf8EncodeChar c ++ rest) = some c :: scan rest := by
  have hc : Char.ofNat c.toNat = c := Char.ofNat_toNat c
  have hvalid : c.toNat < 0xD800 ∨ 0xDFFF < c.toNat ∧ c.toNat < 0x110000 := c.valid
  have hval : c.val.toNat = c.toNat := rfl
  generalize hv : c.toNat = v at hc hvalid hval
  unfold String.utf8EncodeChar
  rw [hval]
  -- by the number of octets, which bounds the leading one and so the first that follows
  by_cases h1 : v ≤ 127
  · rw [if_pos h1, List.singleton_append]
    exact scan_cons (lead?_one v (by omega)) (by rw [follow, hc])
  rw [if_neg h1]
  by_cases h2 : v ≤ 2047
  · have hbits : v / 64 % 32 * 64 + v % 64 = v := by omega
    rw [if_pos h2, List.cons_append, List.singleton_append]
    have htwo : v / 64 % 32 - 2 + 2 = v / 64 % 32 := by omega
    have hlead := lead?_two (v / 64 % 32 - 2) (by omega)
    rw [htwo] at hlead
    refine scan_cons hlead ?_
    rw [follow_succ (by omega) (by simp) (by simp; omega), hbits, follow, hc]
  rw [if_neg h2]
  by_cases h3 : v ≤ 65535
  · have hbits : (v / 4096 % 16 * 64 + v / 64 % 64) * 64 + v % 64 = v := by omega
    -- neither overlong nor a surrogate
    have hlo : (if v / 4096 % 16 = 0 then 0xA0 else 0x80 : UInt8).toNat ≤ v / 64 % 64 + 128 := by
      split
      · simp
        omega
      · simp
    have hhi : v / 64 % 64 + 128 ≤ (if v / 4096 % 16 = 13 then 0x9F else 0xBF : UInt8).toNat := by
      split
      · simp
        omega
      · simp
        omega
    rw [if_pos h3, List.cons_append, List.cons_append, List.singleton_append]
    refine scan_cons (lead?_three (v / 4096 % 16) (by omega)) ?_
    rw [follow_succ (by omega) hlo hhi,
      follow_succ (by omega) (by simp) (by simp; omega), hbits, follow, hc]
  · have hbits : ((v / 262144 % 8 * 64 + v / 4096 % 64) * 64 + v / 64 % 64) * 64 + v % 64 = v := by omega
    have hlo : (if v / 262144 % 8 = 0 then 0x90 else 0x80 : UInt8).toNat ≤ v / 4096 % 64 + 128 := by
      split
      · simp
        omega
      · simp
    have hhi : v / 4096 % 64 + 128 ≤ (if v / 262144 % 8 = 4 then 0x8F else 0xBF : UInt8).toNat := by
      split
      · simp
        omega
      · simp
        omega
    rw [if_neg h3, List.cons_append, List.cons_append, List.cons_append, List.singleton_append]
    refine scan_cons (lead?_four (v / 262144 % 8) (by omega)) ?_
    rw [follow_succ (by omega) hlo hhi,
      follow_succ (by omega) (by simp) (by simp; omega), follow_succ (by omega) (by simp) (by simp; omega), hbits,
      follow, hc]

theorem decode?_encode (s : String) : decode? (encode s) = some s.toList := by
  rw [encode_eq_flatMap, decode?]
  induction s.toList with
  | nil => simp [scan]
  | cons c rest ih =>
    rw [List.flatMap_cons, scan_utf8EncodeChar, List.mapM_cons, ih]
    rfl

end LintGloss.Text.Utf8
