import DatasetGate.Text.Utf8
import Mathlib

/-!
# UTF-8 round trip

Decoding the octets of a text gives the text back, for every character of every length.
-/

set_option autoImplicit false

namespace DatasetGate.Text.Utf8

private theorem toNat_ofNat {n : Nat} (small : n < 256) : (UInt8.ofNat n).toNat = n := by
  simp [UInt8.toNat_ofNat', Nat.mod_eq_of_lt small]

theorem lead?_one {n : Nat} (bound : n < 0x80) :
    lead? (UInt8.ofNat n) = some ⟨0, 0x80, 0xBF, n⟩ := by
  have value := toNat_ofNat (show n < 256 by omega)
  rw [lead?, if_pos (by rw [UInt8.lt_iff_toNat_lt, value]; exact bound), value]

theorem lead?_two {n : Nat} (low : 2 ≤ n) (high : n < 32) :
    lead? (UInt8.ofNat (0xC0 + n)) = some ⟨1, 0x80, 0xBF, n⟩ := by
  interval_cases n <;> rfl

theorem lead?_three {n : Nat} (bound : n < 16) :
    ∃ low high, lead? (UInt8.ofNat (0xE0 + n)) = some ⟨2, low, high, n⟩ ∧
      (low.toNat = if n = 0 then 0xA0 else 0x80) ∧
      (high.toNat = if n = 13 then 0x9F else 0xBF) := by
  interval_cases n <;> exact ⟨_, _, rfl, rfl, rfl⟩

theorem lead?_four {n : Nat} (bound : n < 5) :
    ∃ low high, lead? (UInt8.ofNat (0xF0 + n)) = some ⟨3, low, high, n⟩ ∧
      (low.toNat = if n = 0 then 0x90 else 0x80) ∧
      (high.toNat = if n = 4 then 0x8F else 0xBF) := by
  interval_cases n <;> exact ⟨_, _, rfl, rfl, rfl⟩

theorem scan_start {b : UInt8} {lead : Lead} (rest : List UInt8) (found : lead? b = some lead) :
    scan .start (b :: rest) =
      if lead.tails = 0 then some (Char.ofNat lead.payload) :: scan .start rest
      else scan ⟨lead.tails, lead.low, lead.high, lead.payload⟩ rest := by
  rw [scan, if_pos (show State.start.due = 0 from rfl)]
  simp only [found]

/-- An octet within the announced range adds its six bits. -/
theorem scan_tail {due codePoint n : Nat} {low high : UInt8} (rest : List UInt8) (bound : n < 64)
    (above : low.toNat ≤ 0x80 + n) (below : 0x80 + n ≤ high.toNat) :
    scan ⟨due + 1, low, high, codePoint⟩ (UInt8.ofNat (0x80 + n) :: rest) =
      if due = 0 then some (Char.ofNat (64 * codePoint + n)) :: scan .start rest
      else scan ⟨due, 0x80, 0xBF, 64 * codePoint + n⟩ rest := by
  have value := toNat_ofNat (show 0x80 + n < 256 by omega)
  have within : low ≤ UInt8.ofNat (0x80 + n) ∧ UInt8.ofNat (0x80 + n) ≤ high := by
    rw [UInt8.le_iff_toNat_le, UInt8.le_iff_toNat_le, value]
    exact ⟨above, below⟩
  rw [scan, if_neg (by simp), if_pos within, value, Nat.add_sub_cancel_left]
  simp

theorem scan_encodeChar (c : Char) (rest : List UInt8) :
    scan .start (encodeChar c ++ rest) = some c :: scan .start rest := by
  have low : (0x80 : UInt8).toNat = 0x80 := rfl
  have high : (0xBF : UInt8).toNat = 0xBF := rfl
  have scalar : c.toNat < 0xD800 ∨ 0xDFFF < c.toNat ∧ c.toNat < 0x110000 := c.valid
  rw [encodeChar]
  split
  · rename_i small
    rw [List.singleton_append, scan_start rest (lead?_one small)]
    simp
  split
  · rename_i large small
    simp only [List.cons_append, List.nil_append, Nat.div_one]
    rw [scan_start _ (lead?_two (by omega) (by omega))]
    simp only [Nat.one_ne_zero, ↓reduceIte]
    rw [scan_tail rest (Nat.mod_lt _ (by norm_num)) (by omega) (by omega), if_pos rfl,
      Nat.div_add_mod, Char.ofNat_toNat]
  split
  · rename_i larger large small
    obtain ⟨first, last, found, firstEq, lastEq⟩ :=
      lead?_three (show c.toNat / 4096 < 16 by omega)
    simp only [List.cons_append, List.nil_append, Nat.div_one]
    rw [scan_start _ found]
    simp only [OfNat.ofNat_ne_zero, ↓reduceIte]
    rw [scan_tail _ (Nat.mod_lt _ (by norm_num)) (by split at firstEq <;> omega)
      (by split at lastEq <;> omega), if_neg (by norm_num),
      scan_tail rest (Nat.mod_lt _ (by norm_num)) (by omega) (by omega), if_pos rfl]
    rw [show 64 * (64 * (c.toNat / 4096) + c.toNat / 64 % 64) + c.toNat % 64 = c.toNat by omega,
      Char.ofNat_toNat]
  · obtain ⟨first, last, found, firstEq, lastEq⟩ :=
      lead?_four (show c.toNat / 262144 < 5 by omega)
    simp only [List.cons_append, List.nil_append, Nat.div_one]
    rw [scan_start _ found]
    simp only [OfNat.ofNat_ne_zero, ↓reduceIte]
    rw [scan_tail _ (Nat.mod_lt _ (by norm_num)) (by split at firstEq <;> omega)
      (by split at lastEq <;> omega), if_neg (by norm_num),
      scan_tail _ (Nat.mod_lt _ (by norm_num)) (by omega) (by omega), if_neg (by norm_num),
      scan_tail rest (Nat.mod_lt _ (by norm_num)) (by omega) (by omega), if_pos rfl]
    rw [show 64 * (64 * (64 * (c.toNat / 262144) + c.toNat / 4096 % 64) + c.toNat / 64 % 64) +
      c.toNat % 64 = c.toNat by omega, Char.ofNat_toNat]

theorem scan_encode (cs : List Char) : scan .start (encode cs) = cs.map some := by
  induction cs with
  | nil => rfl
  | cons c rest ih => rw [encode, List.flatMap_cons, scan_encodeChar, ← encode, ih, List.map_cons]

theorem decode?_encode (cs : List Char) : decode? (encode cs) = some cs := by
  rw [decode?, scan_encode, List.mapM_map]
  simpa using List.mapM_pure (m := Option) (l := cs) (f := id)

theorem decodeLossy_encode (cs : List Char) : decodeLossy (encode cs) = cs := by
  rw [decodeLossy, scan_encode, List.map_map]
  exact List.map_id cs

theorem encode_append (first second : List Char) :
    encode (first ++ second) = encode first ++ encode second :=
  List.flatMap_append

theorem encode_flatMap {α : Type} (values : List α) (text : α → List Char) :
    encode (values.flatMap text) = values.flatMap fun value => encode (text value) :=
  List.flatMap_assoc

end DatasetGate.Text.Utf8
