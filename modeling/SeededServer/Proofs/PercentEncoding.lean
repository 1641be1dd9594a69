import SeededServer.Text.Percent

/-!
# Percent encoding reads back

Every byte is written as a percent sign and two digits that stand for it, so the bytes of an encoded
text are the bytes of the text, and the text comes back from them. No character of an encoded text
is one that a URL reserves.
-/
namespace SeededServer.Text.Percent

theorem hexValue?_toUpper_hexDigit :
    ∀ n, n < 16 → hexValue? (hexDigit n).toUpper = some n := by decide

theorem isUnreserved_toUpper_hexDigit :
    ∀ n, n < 16 → isUnreserved (hexDigit n).toUpper = true := by decide

theorem encodeByte_eq (b : UInt8) :
    encodeByte b =
      ['%', (hexDigit (b.toNat / 16 % 16)).toUpper, (hexDigit (b.toNat % 16)).toUpper] := rfl

theorem decodeBytes_encodeByte (b : UInt8) (rest : List Char) :
    decodeBytes (encodeByte b ++ rest) = (decodeBytes rest).map (b :: ·) := by
  have hlow : b.toNat % 16 < 16 := Nat.mod_lt _ (by decide)
  have hhigh : b.toNat / 16 % 16 < 16 := Nat.mod_lt _ (by decide)
  have hbyte : b.toNat / 16 % 16 * 16 + b.toNat % 16 = b.toNat := by
    have := b.toNat_lt
    omega
  rw [encodeByte_eq]
  simp only [List.cons_append, List.nil_append, decodeBytes, hexValue?_toUpper_hexDigit _ hlow,
    hexValue?_toUpper_hexDigit _ hhigh, Option.bind_eq_bind, Option.bind_some, hbyte]
  cases decodeBytes rest <;> simp

theorem decodeBytes_encodeBytes (bytes : List UInt8) (rest : List Char) :
    decodeBytes (bytes.flatMap encodeByte ++ rest) = (decodeBytes rest).map (bytes ++ ·) := by
  induction bytes with
  | nil => simp
  | cons b bytes ih =>
    rw [List.flatMap_cons, List.append_assoc, decodeBytes_encodeByte, ih, Option.map_map]
    rfl

theorem decodeBytes_cons {c : Char} (h : c ≠ '%') (rest : List Char) :
    decodeBytes (c :: rest) = (decodeBytes rest).map (String.utf8EncodeChar c ++ ·) := by
  rw [decodeBytes.eq_def]
  split
  · simp_all
  · simp_all
  · simp_all

theorem decodeBytes_encode (cs : List Char) :
    decodeBytes (encode cs) = some (cs.flatMap String.utf8EncodeChar) := by
  induction cs with
  | nil => rfl
  | cons c cs ih =>
    change decodeBytes (encodeChar c ++ encode cs) = _
    rw [encodeChar, List.flatMap_cons]
    split
    · have hc : c ≠ '%' := by
        rintro rfl
        contradiction
      rw [List.singleton_append, decodeBytes_cons hc, ih]
      rfl
    · rw [decodeBytes_encodeBytes, ih]
      rfl

theorem toByteArray_eq (bytes : List UInt8) : bytes.toByteArray = ⟨bytes.toArray⟩ := by
  have step (done : ByteArray) :
      List.toByteArray.loop bytes done = ⟨done.data ++ bytes.toArray⟩ := by
    induction bytes generalizing done with
    | nil =>
      change done = _
      simp
    | cons b bytes ih =>
      change List.toByteArray.loop bytes ⟨done.data.push b⟩ = _
      rw [ih]
      simp
  rw [List.toByteArray, step]
  simp

/-- The bytes of a text are UTF-8, and the text comes back from them. -/
theorem fromUTF8?_bytes (cs : List Char) :
    String.fromUTF8? ⟨(cs.flatMap String.utf8EncodeChar).toArray⟩ = some (String.ofList cs) := by
  have hvalid : cs.utf8Encode.IsValidUTF8 := (String.ofList cs).isValidUTF8
  rw [← toByteArray_eq, ← List.utf8Encode, String.fromUTF8?, dif_pos hvalid]
  rfl

/-- An encoded text reads back. -/
theorem decode_encode (cs : List Char) : decode (encode cs) = some cs := by
  simp [decode, decodeBytes_encode, fromUTF8?_bytes]

theorem isUnreserved_of_mem_encode {cs : List Char} {c : Char} (h : c ∈ encode cs) :
    isUnreserved c = true ∨ c = '%' := by
  obtain ⟨d, -, hd⟩ := List.mem_flatMap.1 h
  rw [encodeChar] at hd
  split at hd
  · rename_i hunreserved
    rw [List.mem_singleton.1 hd]
    exact .inl hunreserved
  · obtain ⟨b, -, hb⟩ := List.mem_flatMap.1 hd
    rw [encodeByte_eq] at hb
    simp only [List.mem_cons, List.not_mem_nil, or_false] at hb
    rcases hb with rfl | rfl | rfl
    · exact .inr rfl
    · exact .inl (isUnreserved_toUpper_hexDigit _ (Nat.mod_lt _ (by decide)))
    · exact .inl (isUnreserved_toUpper_hexDigit _ (Nat.mod_lt _ (by decide)))

/-- An encoded text holds no character that a URL reserves. -/
theorem not_mem_encode {c : Char} (h : isUnreserved c = false) (hc : c ≠ '%') (cs : List Char) :
    c ∉ encode cs := by
  intro hmem
  rcases isUnreserved_of_mem_encode hmem with hunreserved | hpercent
  · simp [h] at hunreserved
  · exact hc hpercent

end SeededServer.Text.Percent
