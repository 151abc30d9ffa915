import Telematics.Text.Utf8

/-!
# Text and its bytes

A text is its bytes, and `Utf8.decode` gives a text back for exactly the bytes
that one has. So a text field that is read is written back unchanged, and a
text that is written is read again. What is not the bytes of a text is
refused; nothing is replaced.
-/

namespace Telematics.Utf8

/-- Listing a byte string collects, in front of what is listed already, the
bytes from a position on. -/
theorem toList_loop (bs : ByteArray) (i : Nat) (r : Bytes) :
    ByteArray.toList.loop bs i r = r.reverse ++ bs.data.toList.drop i := by
  fun_induction ByteArray.toList.loop bs i r with
  | case1 i r hi ih =>
    have hlen : i < bs.data.toList.length := hi
    have hget : bs.get! i = bs.data.toList[i] := getElem!_pos bs.data i hi
    rw [ih, List.drop_eq_getElem_cons hlen, hget, List.reverse_cons,
      List.append_assoc]
    rfl
  | case2 i r hi =>
    have hlen : bs.data.toList.length ≤ i := Nat.le_of_not_lt hi
    rw [List.drop_eq_nil_of_le hlen, List.append_nil]

/-- A byte string is listed as what it is made of. -/
theorem toList_eq_data (bs : ByteArray) : bs.toList = bs.data.toList :=
  toList_loop bs 0 []

/-- A byte string is made again from its bytes. -/
theorem toByteArray_toList (bs : ByteArray) : bs.toList.toByteArray = bs := by
  apply ByteArray.ext
  apply Array.toList_inj.1
  rw [List.toList_data_toByteArray, toList_eq_data]

/-- **The bytes of a text are those that are read as the text.** In both
directions: what is written for a text is read as it, and nothing else is. -/
theorem decode_eq_ok {d : Bytes} {s : String} :
    decode d = .ok s ↔ encode s = d := by
  unfold decode encode
  constructor
  · intro h
    split at h
    · next u hu =>
      obtain rfl := Except.ok.inj h
      unfold String.fromUTF8? at hu
      split at hu
      · obtain rfl := Option.some.inj hu
        show d.toByteArray.toList = d
        rw [toList_eq_data, List.toList_data_toByteArray]
      · cases hu
    · cases h
  · rintro rfl
    have hbytes : s.toUTF8.toList.toByteArray = s.toByteArray :=
      toByteArray_toList s.toUTF8
    have hs : String.fromUTF8? s.toUTF8.toList.toByteArray = some s := by
      unfold String.fromUTF8?
      rw [hbytes, dif_pos s.isValidUTF8]
      rfl
    rw [hs]

end Telematics.Utf8
