import CodeReview.Proofs.Text.Utf8
import CodeReview.SourceFile

/-!
The text that bytes stand for. Bytes without a zero always stand for a text, which has no null
character: the one that they encode, or, where they encode none, the one that has a character for
each byte.
-/

namespace CodeReview.SourceFile

open Text

theorem decode?_eq_none_iff {bytes : List UInt8} : decode? bytes = none ↔ 0 ∈ bytes := by
  simp [decode?]

/-- What it is for a text to be that of some bytes. -/
inductive IsTextOf (bytes : List UInt8) (t : String) : Prop
  | encoded (encodes : Utf8.encode t.toList = bytes)
  | bytewise (unencoded : ∀ u, Utf8.encode u ≠ bytes)
      (each : t.toList.map Char.toNat = bytes.map UInt8.toNat)

theorem decode?_of_encode {bytes : List UInt8} {t : List Char} (h : Utf8.encode t = bytes)
    (hzero : 0 ∉ bytes) : decode? bytes = some (String.ofList t) := by
  rw [decode?, if_neg (by simpa using hzero), Utf8.decode?_eq_some_iff.2 h]

theorem decode?_of_unencoded {bytes : List UInt8} (h : ∀ u, Utf8.encode u ≠ bytes)
    (hzero : 0 ∉ bytes) :
    decode? bytes = some (String.ofList (bytes.map fun b => Char.ofNat b.toNat)) := by
  rw [decode?, if_neg (by simpa using hzero), Utf8.decode?_eq_none_iff.2 h]

theorem map_toNat_bytewise (bytes : List UInt8) :
    (bytes.map fun b => Char.ofNat b.toNat).map Char.toNat = bytes.map UInt8.toNat := by
  rw [List.map_map]
  refine List.map_congr_left fun b _ => ?_
  have hb : b.toNat < 256 := b.toNat_lt
  exact Utf8.toNat_ofNat_of_scalar (by omega)

theorem IsTextOf.null_notMem {bytes : List UInt8} {t : String} (h : IsTextOf bytes t)
    (hzero : 0 ∉ bytes) : '\x00' ∉ t.toList := by
  intro hnull
  cases h with
  | encoded encodes => exact hzero (encodes ▸ Utf8.zero_mem_encode_iff.2 hnull)
  | bytewise _ each =>
    have hmem : 0 ∈ bytes.map UInt8.toNat := each ▸ List.mem_map_of_mem hnull
    obtain ⟨b, hb, hvalue⟩ := List.mem_map.1 hmem
    rw [UInt8.toNat_inj.1 (hvalue.trans UInt8.toNat_zero.symm)] at hb
    exact hzero hb

theorem exists_text_of_bytes {bytes : List UInt8} (hzero : 0 ∉ bytes) :
    ∃ t, decode? bytes = some t ∧ IsTextOf bytes t := by
  cases h : Utf8.decode? bytes with
  | some t =>
    rw [Utf8.decode?_eq_some_iff] at h
    exact ⟨_, decode?_of_encode h hzero, .encoded (by rwa [String.toList_ofList])⟩
  | none =>
    rw [Utf8.decode?_eq_none_iff] at h
    exact ⟨_, decode?_of_unencoded h hzero,
      .bytewise h (by rw [String.toList_ofList, map_toNat_bytewise])⟩

theorem ofBytes_eq_error_iff {name e : String} {bytes : List UInt8} :
    ofBytes name bytes = .error e ↔ 0 ∈ bytes ∧ e = binaryMessage name := by
  rw [← decode?_eq_none_iff, ofBytes]
  cases decode? bytes <;> simp [eq_comm]

theorem ofBytes_of_decode? {bytes : List UInt8} {t : String} (h : decode? bytes = some t)
    (name : String) : ofBytes name bytes = .ok ⟨name, t⟩ := by
  rw [ofBytes, h]

/-- Bytes are refused exactly if there is a zero among them. All others stand for a text, without a
null character, that encodes as these bytes, or, where they are the encoding of no text at all, has
one character for each of them with its value. So an encoded text is read back. -/
theorem text_of_bytes (name : String) (bytes : List UInt8) :
    (∀ e, ofBytes name bytes = .error e ↔ 0 ∈ bytes ∧ e = binaryMessage name) ∧
    (0 ∉ bytes → ∃ t, ofBytes name bytes = .ok ⟨name, t⟩ ∧ '\x00' ∉ t.toList ∧ IsTextOf bytes t) ∧
    ∀ s : String, '\x00' ∉ s.toList →
      ofBytes name (Utf8.encode s.toList) = .ok ⟨name, s⟩ := by
  refine ⟨fun e => ofBytes_eq_error_iff, fun hzero => ?_, fun s hnull => ?_⟩
  · obtain ⟨t, hdecode, ht⟩ := exists_text_of_bytes hzero
    exact ⟨t, ofBytes_of_decode? hdecode name, ht.null_notMem hzero, ht⟩
  · have hzero : 0 ∉ Utf8.encode s.toList := mt Utf8.zero_mem_encode_iff.1 hnull
    refine ofBytes_of_decode? ?_ name
    rw [decode?_of_encode rfl hzero, String.ofList_toList]

theorem text_of_surrogate_bytes :
    (0 : UInt8) ∉ [0x66, 0xED, 0xA0, 0x80] ∧ '\x00' ∉ "é\uD7FF".toList ∧
    (∃ t, ofBytes "a.js" [0x66, 0xED, 0xA0, 0x80] = .ok ⟨"a.js", t⟩ ∧ '\x00' ∉ t.toList ∧
      IsTextOf [0x66, 0xED, 0xA0, 0x80] t ∧ t = "fí\u00A0\u0080") ∧
    ofBytes "a.js" (Utf8.encode "é\uD7FF".toList) = .ok ⟨"a.js", "é\uD7FF"⟩ := by
  have hzero : (0 : UInt8) ∉ [0x66, 0xED, 0xA0, 0x80] := by decide
  have hnull : '\x00' ∉ "é\uD7FF".toList := by decide
  obtain ⟨-, htext, hback⟩ := text_of_bytes "a.js" [0x66, 0xED, 0xA0, 0x80]
  obtain ⟨t, ht, hnot, his⟩ := htext hzero
  have hdecode : decode? [0x66, 0xED, 0xA0, 0x80] = some "fí\u00A0\u0080" := by decide +kernel
  have hread := ofBytes_of_decode? hdecode "a.js"
  obtain rfl : t = "fí\u00A0\u0080" := by
    rw [hread] at ht
    cases ht
    rfl
  exact ⟨hzero, hnull, ⟨_, hread, hnot, his, rfl⟩, hback _ hnull⟩

end CodeReview.SourceFile
