import Mathlib.Data.List.Basic
import TokenEcho.Text.Utf8

/-!
# A text and its bytes

Bytes are decoded exactly if they are the UTF-8 form of a text, and then to that text; this is
`decode?_eq_some_iff`. A character of one byte shares that byte with no other character,
`eq_of_mem_utf8EncodeChar`, so what such a character cuts in a text its byte cuts in the bytes.
-/

namespace TokenEcho.Text

/-- The bytes of a run of characters. -/
def bytesOf (cs : List Char) : List UInt8 := cs.flatMap String.utf8EncodeChar

@[simp] theorem bytesOf_nil : bytesOf [] = [] := rfl

@[simp] theorem bytesOf_append (xs ys : List Char) :
    bytesOf (xs ++ ys) = bytesOf xs ++ bytesOf ys := List.flatMap_append

theorem encode_eq_bytesOf (text : String) : encode text = bytesOf text.toList := rfl

theorem encode_ofList (cs : List Char) : encode (String.ofList cs) = bytesOf cs := by
  rw [encode_eq_bytesOf, String.toList_ofList]

theorem toByteArray_encode (text : String) : (encode text).toByteArray = text.toByteArray :=
  String.utf8Encode_toList

theorem decode?_eq_some_iff {bytes : List UInt8} {text : String} :
    decode? bytes = some text ↔ bytes = encode text := by
  unfold decode? String.fromUTF8?
  constructor
  · intro h
    split at h
    · next hvalid =>
        obtain rfl := Option.some.inj h
        apply List.toByteArray_inj.1
        rw [toByteArray_encode]
        rfl
    · cases h
  · rintro rfl
    have hvalid : (encode text).toByteArray.IsValidUTF8 := ⟨text.toList, rfl⟩
    rw [dif_pos hvalid]
    exact congrArg some (String.toByteArray_inj.1 (toByteArray_encode text))

theorem decode?_encode (text : String) : decode? (encode text) = some text :=
  decode?_eq_some_iff.2 rfl

theorem encode_injective : Function.Injective encode := by
  intro s t h
  have hs := decode?_encode s
  rw [h, decode?_encode] at hs
  exact (Option.some.inj hs).symm

theorem bytesOf_injective : Function.Injective bytesOf := by
  intro xs ys h
  rw [← encode_ofList, ← encode_ofList] at h
  exact String.ofList_injective (encode_injective h)

theorem isSome_decode?_bytesOf (cs : List Char) : (decode? (bytesOf cs)).isSome := by
  rw [← encode_ofList, decode?_encode]
  rfl

/-! ### Characters of one byte -/

/-- Only a character below 128 has a byte below 128, and that byte is its number. -/
theorem toNat_of_mem_utf8EncodeChar {c : Char} {b : UInt8} (h : b ∈ String.utf8EncodeChar c)
    (hb : b.toNat < 128) : c.toNat = b.toNat := by
  unfold String.utf8EncodeChar at h
  dsimp only at h
  split at h
  · next hc =>
      obtain rfl := List.mem_singleton.1 h
      rw [UInt8.toNat_ofNat', Nat.mod_eq_of_lt (by omega)]
      rfl
  -- the bytes of a longer character are all 128 or more
  · exfalso
    split at h
    · simp only [List.mem_cons, List.not_mem_nil, or_false] at h
      rcases h with rfl | rfl <;> rw [UInt8.toNat_ofNat'] at hb <;> omega
    · split at h
      · simp only [List.mem_cons, List.not_mem_nil, or_false] at h
        rcases h with rfl | rfl | rfl <;> rw [UInt8.toNat_ofNat'] at hb <;> omega
      · simp only [List.mem_cons, List.not_mem_nil, or_false] at h
        rcases h with rfl | rfl | rfl | rfl <;> rw [UInt8.toNat_ofNat'] at hb <;> omega

theorem toNat_lt_of_utf8EncodeChar_eq_singleton {c : Char} {b : UInt8}
    (h : String.utf8EncodeChar c = [b]) : b.toNat < 128 := by
  have hsize : c.utf8Size = 1 := by rw [← String.length_utf8EncodeChar, h, List.length_singleton]
  have hc : c.val.toNat ≤ 127 := UInt32.le_iff_toNat_le.1 (Char.utf8Size_eq_one_iff.1 hsize)
  obtain rfl := List.singleton_inj.1 ((String.utf8EncodeChar_eq_singleton hsize).symm.trans h)
  rw [UInt32.toNat_toUInt8]
  omega

/-- A character of one byte is the only one in which its byte occurs. -/
theorem eq_of_mem_utf8EncodeChar {c d : Char} {b : UInt8} (hc : String.utf8EncodeChar c = [b])
    (hd : b ∈ String.utf8EncodeChar d) : d = c := by
  have hb := toNat_lt_of_utf8EncodeChar_eq_singleton hc
  have hcb : c.toNat = b.toNat := toNat_of_mem_utf8EncodeChar (by rw [hc]; simp) hb
  have hdb : d.toNat = b.toNat := toNat_of_mem_utf8EncodeChar hd hb
  exact Char.toNat_inj.1 (hdb.trans hcb.symm)

theorem mem_bytesOf_iff {c : Char} {b : UInt8} (hc : String.utf8EncodeChar c = [b])
    (cs : List Char) : b ∈ bytesOf cs ↔ c ∈ cs := by
  rw [bytesOf, List.mem_flatMap]
  constructor
  · rintro ⟨d, hd, hb⟩
    rwa [← eq_of_mem_utf8EncodeChar hc hb]
  · intro h
    exact ⟨c, h, by rw [hc]; exact List.mem_singleton_self b⟩

theorem getLast?_bytesOf_eq_some_iff {c : Char} {b : UInt8} (hc : String.utf8EncodeChar c = [b])
    (cs : List Char) : (bytesOf cs).getLast? = some b ↔ cs.getLast? = some c := by
  rcases List.eq_nil_or_concat' cs with rfl | ⟨xs, d, rfl⟩
  · simp
  · have hd : String.utf8EncodeChar d ≠ [] := String.utf8EncodeChar_ne_nil
    rw [bytesOf_append, List.getLast?_append_of_ne_nil _ (by simp [bytesOf]),
      List.getLast?_concat, bytesOf, List.flatMap_singleton, Option.some_inj]
    constructor
    · intro h
      exact eq_of_mem_utf8EncodeChar hc (List.mem_of_getLast? h)
    · rintro rfl
      rw [hc]
      rfl

end TokenEcho.Text
