import Mathlib.Tactic.SplitIfs
import RoutineBindings.Text.Utf8

/-!
# The order of texts

Texts are ordered character by character. UTF-8 keeps this order, so it is the order of the
bytes as well.
-/
namespace RoutineBindings.Text

/-- The bytes of the first text come before those of the second. -/
def BytesBefore (s t : String) : Prop := encode s < encode t

theorem byteList_loop (bs : ByteArray) (n : Nat) :
    ∀ i r, i + n = bs.size →
      ByteArray.toList.loop bs i r = r.reverse ++ bs.data.toList.drop i := by
  induction n with
  | zero =>
    intro i r hi
    rw [ByteArray.toList.loop, if_neg (by omega), List.drop_of_length_le, List.append_nil]
    simp [← hi]
  | succ n ih =>
    intro i r hi
    have hlt : i < bs.data.toList.length := by simp; omega
    have hbyte : bs.get! i = bs.data.toList[i] := by
      simp only [ByteArray.get!, Array.getElem_toList]
      exact getElem!_pos bs.data i hlt
    rw [ByteArray.toList.loop, if_pos (by omega), ih (i + 1) _ (by omega), hbyte,
      List.reverse_cons, List.append_assoc, List.singleton_append, ← List.drop_eq_getElem_cons]

theorem encode_eq (s : String) : encode s = s.toList.flatMap String.utf8EncodeChar := by
  have h : s.toUTF8 = s.toList.utf8Encode := String.utf8Encode_toList.symm
  rw [encode, h, ByteArray.toList, byteList_loop _ _ 0 [] (Nat.zero_add _)]
  simp [List.utf8Encode]

/-- The first byte in which the encodings of two characters differ decides as the characters
do, whatever follows. -/
theorem encodeChar_lt {c d : Char} (h : c < d) (xs ys : List UInt8) :
    String.utf8EncodeChar c ++ xs < String.utf8EncodeChar d ++ ys := by
  have hlt : c.val.toNat < d.val.toNat := h
  have hd : d.val.toNat < 0x110000 := by
    have := d.valid
    simp only [UInt32.isValidChar, Nat.isValidChar] at this
    omega
  simp only [String.utf8EncodeChar]
  generalize c.val.toNat = m at *
  generalize d.val.toNat = n at *
  split_ifs <;>
    simp only [List.cons_append, List.nil_append, List.cons_lt_cons_iff, UInt8.lt_iff_toNat_lt,
      ← UInt8.toNat_inj, UInt8.toNat_ofNat']
  -- Every digit fits into its byte together with the mark before it.
  all_goals simp (disch := omega) only [Nat.mod_eq_of_lt]
  all_goals omega

theorem flatMap_encodeChar_lt {cs ds : List Char} (h : cs < ds) :
    cs.flatMap String.utf8EncodeChar < ds.flatMap String.utf8EncodeChar := by
  induction h with
  | nil =>
    rename_i d ds
    cases hd : String.utf8EncodeChar d with
    | nil => exact absurd hd String.utf8EncodeChar_ne_nil
    | cons b bs => simp [hd]
  | rel hcd => exact encodeChar_lt hcd _ _
  | cons _ ih => exact List.append_left_lt ih

/-- The order of texts is that of their bytes. -/
theorem bytesBefore_iff {s t : String} : BytesBefore s t ↔ s < t := by
  rw [BytesBefore, encode_eq, encode_eq]
  constructor
  · intro h
    rcases Std.lt_trichotomy s t with hst | rfl | hts
    · exact hst
    · exact absurd h (List.lt_irrefl _)
    · exact absurd h (List.lt_asymm (flatMap_encodeChar_lt hts))
  · exact flatMap_encodeChar_lt

/-- Different texts have different bytes. -/
theorem encode_injective : Function.Injective encode := by
  intro s t h
  have hirrefl : ∀ x y : String, encode x = encode y → ¬ x < y := by
    intro x y hxy hlt
    have hbytes : encode x < encode y := bytesBefore_iff.2 hlt
    rw [hxy] at hbytes
    exact List.lt_irrefl _ hbytes
  rcases Std.lt_trichotomy s t with hst | hst | hts
  · exact absurd hst (hirrefl s t h)
  · exact hst
  · exact absurd hts (hirrefl t s h.symm)

end RoutineBindings.Text
