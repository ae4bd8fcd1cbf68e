import CodeReview.Text.Utf8

/-!
What is encoded as UTF-8 decodes to the same text, and nothing else decodes. The first byte of a
character says how many bytes follow, and the bounds on the second one let every character through
and no other form of it.
-/

namespace CodeReview.Text.Utf8

theorem toNat_byte {n : Nat} (h : n < 256) : (byte n).toNat = n := by
  rw [byte, UInt8.toNat_ofNat']
  exact Nat.mod_eq_of_lt h

theorem tails_cons_byte {low high m : Nat} (k n : Nat) (hlow : low ≤ m) (hhigh : m ≤ high)
    (hm : m < 256) (bs : List UInt8) :
    tails (k + 1) n low high (byte m :: bs) = tails k (n * 64 + (m - 0x80)) 0x80 0xBF bs := by
  rw [tails, toNat_byte hm, if_pos (by simpa using ⟨hlow, hhigh⟩)]

theorem piece_of_two {m : Nat} (h : 2 ≤ m) (h' : m < 32) (bs : List UInt8) :
    piece (byte (0xC0 + m)) bs = tails 1 m 0x80 0xBF bs := by
  simp only [piece, toNat_byte (by omega : 0xC0 + m < 256)]
  rw [if_neg (by omega), if_neg (by omega), if_pos (by omega), Nat.add_sub_cancel_left]

theorem piece_of_three {m : Nat} (h : m < 16) (bs : List UInt8) :
    piece (byte (0xE0 + m)) bs =
      tails 2 m (if m = 0 then 0xA0 else 0x80) (if m = 13 then 0x9F else 0xBF) bs := by
  simp only [piece, toNat_byte (by omega : 0xE0 + m < 256), beq_iff_eq]
  rw [if_neg (by omega), if_neg (by omega), if_neg (by omega)]
  by_cases h0 : m = 0
  · subst h0
    rfl
  · by_cases h13 : m = 13
    · subst h13
      rfl
    · rw [if_neg (by omega), if_neg (by omega), if_pos (by omega), if_neg h0, if_neg h13,
        Nat.add_sub_cancel_left]

theorem piece_of_four {m : Nat} (h : m ≤ 4) (bs : List UInt8) :
    piece (byte (0xF0 + m)) bs =
      tails 3 m (if m = 0 then 0x90 else 0x80) (if m = 4 then 0x8F else 0xBF) bs := by
  simp only [piece, toNat_byte (by omega : 0xF0 + m < 256), beq_iff_eq]
  rw [if_neg (by omega), if_neg (by omega), if_neg (by omega), if_neg (by omega), if_neg (by omega),
    if_neg (by omega)]
  by_cases h0 : m = 0
  · subst h0
    rfl
  · by_cases h4 : m = 4
    · subst h4
      rfl
    · rw [if_neg (by omega), if_pos (by omega), if_neg h0, if_neg h4, Nat.add_sub_cancel_left]

theorem piece_encodeChar (c : Char) (bs : List UInt8) :
    ∃ b tail, encodeChar c = b :: tail ∧ piece b (tail ++ bs) = .char c bs := by
  have hc : Char.ofNat c.toNat = c := Char.ofNat_toNat c
  have hvalid : c.toNat < 0xD800 ∨ 0xDFFF < c.toNat ∧ c.toNat < 0x110000 := c.valid
  generalize hn : c.toNat = n at hc hvalid
  simp only [encodeChar, hn]
  split
  · next h1 =>
    refine ⟨_, _, rfl, ?_⟩
    rw [piece, toNat_byte (by omega), if_pos h1, hc, List.nil_append]
  split
  · next h1 h2 =>
    refine ⟨_, _, rfl, ?_⟩
    rw [piece_of_two (by omega) (by omega), List.cons_append, List.nil_append,
      tails_cons_byte _ _ (by omega) (by omega) (by omega), tails, ← hc]
    exact congrArg (fun m => Piece.char (Char.ofNat m) bs) (by omega)
  split
  · next h1 h2 h3 =>
    refine ⟨_, _, rfl, ?_⟩
    rw [piece_of_three (by omega), List.cons_append, List.cons_append, List.nil_append,
      tails_cons_byte _ _ (by split <;> omega) (by split <;> omega) (by omega),
      tails_cons_byte _ _ (by omega) (by omega) (by omega), tails, ← hc]
    exact congrArg (fun m => Piece.char (Char.ofNat m) bs) (by omega)
  · next h1 h2 h3 =>
    refine ⟨_, _, rfl, ?_⟩
    rw [piece_of_four (by omega), List.cons_append, List.cons_append, List.cons_append,
      List.nil_append, tails_cons_byte _ _ (by split <;> omega) (by split <;> omega) (by omega),
      tails_cons_byte _ _ (by omega) (by omega) (by omega),
      tails_cons_byte _ _ (by omega) (by omega) (by omega), tails, ← hc]
    exact congrArg (fun m => Piece.char (Char.ofNat m) bs) (by omega)

theorem decode?_encodeChar_append (c : Char) (bs : List UInt8) :
    decode? (encodeChar c ++ bs) = (decode? bs).map (c :: ·) := by
  obtain ⟨b, tail, hbytes, hpiece⟩ := piece_encodeChar c bs
  rw [hbytes, List.cons_append, decode?]
  split
  · next heq =>
    rw [hpiece, Piece.char.injEq] at heq
    rw [heq.1, heq.2]
  · next heq =>
    rw [hpiece] at heq
    cases heq

theorem decode?_encode (t : List Char) : decode? (encode t) = some t := by
  induction t with
  | nil => rw [encode, List.flatMap_nil, decode?]
  | cons c t ih => rw [encode_cons, decode?_encodeChar_append, ih, Option.map_some]

theorem decodeLossy_encode (t : List Char) : decodeLossy (encode t) = t := by
  induction t with
  | nil => rw [encode, List.flatMap_nil, decodeLossy]
  | cons c t ih =>
    obtain ⟨b, tail, hbytes, hpiece⟩ := piece_encodeChar c (encode t)
    rw [encode_cons, hbytes, List.cons_append, decodeLossy]
    split
    · next heq =>
      rw [hpiece, Piece.char.injEq] at heq
      rw [← heq.1, ← heq.2, ih]
    · next heq =>
      rw [hpiece] at heq
      cases heq

theorem toNat_ofNat_of_scalar {n : Nat} (h : n < 0xD800 ∨ 0xDFFF < n ∧ n < 0x110000) :
    (Char.ofNat n).toNat = n := by
  rw [Char.ofNat, dif_pos h]
  rfl

theorem byte_toNat (b : UInt8) : byte b.toNat = b :=
  UInt8.ofNat_toNat

theorem exists_of_tails_eq_char {k n low high : Nat} {bs rest : List UInt8} {c : Char}
    (h : tails (k + 1) n low high bs = .char c rest) :
    ∃ m tail, bs = byte m :: tail ∧ low ≤ m ∧ m ≤ high ∧
      tails k (n * 64 + (m - 0x80)) 0x80 0xBF tail = .char c rest := by
  cases bs with
  | nil => cases h
  | cons b tail =>
    rw [tails] at h
    split at h
    · next hb =>
      rw [Bool.and_eq_true, decide_eq_true_iff, decide_eq_true_iff] at hb
      exact ⟨b.toNat, tail, by rw [byte_toNat], hb.1, hb.2, h⟩
    · cases h

theorem encodeChar_of_two {c : Char} {m x : Nat} (hc : c.toNat = m * 64 + x) (h2 : 2 ≤ m)
    (hm : m < 32) (hx : x < 64) : encodeChar c = [byte (0xC0 + m), byte (0x80 + x)] := by
  have hm' : c.toNat / 64 = m := by omega
  have hx' : c.toNat % 64 = x := by omega
  simp only [encodeChar, hm', hx']
  rw [if_neg (by omega), if_pos (by omega)]

theorem encodeChar_of_three {c : Char} {m x y : Nat} (hc : c.toNat = (m * 64 + x) * 64 + y)
    (hlow : 0x800 ≤ c.toNat) (hm : m < 16) (hx : x < 64) (hy : y < 64) :
    encodeChar c = [byte (0xE0 + m), byte (0x80 + x), byte (0x80 + y)] := by
  have hm' : c.toNat / 4096 = m := by omega
  have hx' : c.toNat / 64 % 64 = x := by omega
  have hy' : c.toNat % 64 = y := by omega
  simp only [encodeChar, hm', hx', hy']
  rw [if_neg (by omega), if_neg (by omega), if_pos (by omega)]

theorem encodeChar_of_four {c : Char} {m x y z : Nat}
    (hc : c.toNat = ((m * 64 + x) * 64 + y) * 64 + z) (hlow : 0x10000 ≤ c.toNat) (hx : x < 64)
    (hy : y < 64) (hz : z < 64) :
    encodeChar c = [byte (0xF0 + m), byte (0x80 + x), byte (0x80 + y), byte (0x80 + z)] := by
  have hm' : c.toNat / 262144 = m := by omega
  have hx' : c.toNat / 4096 % 64 = x := by omega
  have hy' : c.toNat / 64 % 64 = y := by omega
  have hz' : c.toNat % 64 = z := by omega
  simp only [encodeChar, hm', hx', hy', hz']
  rw [if_neg (by omega), if_neg (by omega), if_neg (by omega)]

theorem eq_encodeChar_of_two {m : Nat} {bs rest : List UInt8} {c : Char} (h2 : 2 ≤ m) (hm : m < 32)
    (h : tails 1 m 0x80 0xBF bs = .char c rest) :
    byte (0xC0 + m) :: bs = encodeChar c ++ rest := by
  obtain ⟨x, bs, rfl, hlow, hhigh, h⟩ := exists_of_tails_eq_char h
  obtain ⟨rfl, rfl⟩ := Piece.char.inj h
  rw [encodeChar_of_two (toNat_ofNat_of_scalar (by omega)) h2 hm (by omega),
    Nat.add_sub_cancel' hlow, List.cons_append, List.cons_append, List.nil_append]

theorem eq_encodeChar_of_three {m low high : Nat} {bs rest : List UInt8} {c : Char} (hm : m < 16)
    (hlow : (if m = 0 then 0xA0 else 0x80) ≤ low) (hhigh : high ≤ if m = 13 then 0x9F else 0xBF)
    (h : tails 2 m low high bs = .char c rest) :
    byte (0xE0 + m) :: bs = encodeChar c ++ rest := by
  obtain ⟨x, bs, rfl, hx, hx', h⟩ := exists_of_tails_eq_char h
  obtain ⟨y, bs, rfl, hy, hy', h⟩ := exists_of_tails_eq_char h
  obtain ⟨rfl, rfl⟩ := Piece.char.inj h
  have hvalue := toNat_ofNat_of_scalar (n := (m * 64 + (x - 0x80)) * 64 + (y - 0x80))
    (by split at hhigh <;> omega)
  rw [encodeChar_of_three hvalue (by rw [hvalue]; split at hlow <;> omega) hm
      (by split at hhigh <;> omega) (by omega),
    Nat.add_sub_cancel' (by split at hlow <;> omega), Nat.add_sub_cancel' hy]
  rfl

theorem eq_encodeChar_of_four {m low high : Nat} {bs rest : List UInt8} {c : Char} (hm : m ≤ 4)
    (hlow : (if m = 0 then 0x90 else 0x80) ≤ low) (hhigh : high ≤ if m = 4 then 0x8F else 0xBF)
    (h : tails 3 m low high bs = .char c rest) :
    byte (0xF0 + m) :: bs = encodeChar c ++ rest := by
  obtain ⟨x, bs, rfl, hx, hx', h⟩ := exists_of_tails_eq_char h
  obtain ⟨y, bs, rfl, hy, hy', h⟩ := exists_of_tails_eq_char h
  obtain ⟨z, bs, rfl, hz, hz', h⟩ := exists_of_tails_eq_char h
  obtain ⟨rfl, rfl⟩ := Piece.char.inj h
  have hvalue := toNat_ofNat_of_scalar
    (n := ((m * 64 + (x - 0x80)) * 64 + (y - 0x80)) * 64 + (z - 0x80))
    (by split at hlow <;> split at hhigh <;> omega)
  rw [encodeChar_of_four hvalue (by rw [hvalue]; split at hlow <;> omega)
      (by split at hhigh <;> omega) (by omega) (by omega),
    Nat.add_sub_cancel' (by split at hlow <;> omega), Nat.add_sub_cancel' hy,
    Nat.add_sub_cancel' hz]
  rfl

theorem eq_encodeChar_of_piece {b : UInt8} {bs rest : List UInt8} {c : Char}
    (h : piece b bs = .char c rest) : b :: bs = encodeChar c ++ rest := by
  -- the first byte is that of a form of two, three or four bytes, with what it adds to the value
  have first : ∀ start m, b.toNat = start + m → b = byte (start + m) := fun start m hb => by
    rw [← hb, byte_toNat]
  simp only [piece, beq_iff_eq] at h
  -- one case for each range of first bytes; 0xE0, 0xED, 0xF0 and 0xF4 bound the second byte
  split at h
  · next hn =>
    obtain ⟨rfl, rfl⟩ := Piece.char.inj h
    simp only [encodeChar, toNat_ofNat_of_scalar (n := b.toNat) (by omega), byte_toNat]
    rw [if_pos hn]
    rfl
  split at h
  · cases h
  split at h
  · rw [first 0xC0 (b.toNat - 0xC0) (by omega)]
    exact eq_encodeChar_of_two (by omega) (by omega) h
  split at h
  · next hn =>
    rw [first 0xE0 0 hn]
    exact eq_encodeChar_of_three (by decide) (by decide) (by decide) h
  split at h
  · next hn =>
    rw [first 0xE0 0xD hn]
    exact eq_encodeChar_of_three (by decide) (by decide) (by decide) h
  split at h
  · rw [first 0xE0 (b.toNat - 0xE0) (by omega)]
    exact eq_encodeChar_of_three (by omega) (by split <;> omega) (by split <;> omega) h
  split at h
  · next hn =>
    rw [first 0xF0 0 hn]
    exact eq_encodeChar_of_four (by decide) (by decide) (by decide) h
  split at h
  · rw [first 0xF0 (b.toNat - 0xF0) (by omega)]
    exact eq_encodeChar_of_four (by omega) (by split <;> omega) (by split <;> omega) h
  split at h
  · next hn =>
    rw [first 0xF0 4 hn]
    exact eq_encodeChar_of_four (by decide) (by decide) (by decide) h
  · cases h

theorem eq_encode_of_decode? {bs : List UInt8} {t : List Char} (h : decode? bs = some t) :
    bs = encode t := by
  fun_induction decode? bs generalizing t with
  | case1 =>
    cases h
    rfl
  | case2 b bs c rest hpiece ih =>
    obtain ⟨u, hu, rfl⟩ := Option.map_eq_some_iff.1 h
    rw [encode_cons, ← ih hu, eq_encodeChar_of_piece hpiece]
  | case3 => cases h

theorem decode?_eq_some_iff {bs : List UInt8} {t : List Char} :
    decode? bs = some t ↔ encode t = bs := by
  constructor
  · intro h
    exact (eq_encode_of_decode? h).symm
  · rintro rfl
    exact decode?_encode t

theorem decode?_eq_none_iff {bs : List UInt8} : decode? bs = none ↔ ∀ t, encode t ≠ bs := by
  simp only [Option.eq_none_iff_forall_ne_some, ne_eq, decode?_eq_some_iff]

theorem high_of_mem_encodeChar {c : Char} (hc : 0x80 ≤ c.toNat) {b : UInt8}
    (hb : b ∈ encodeChar c) : 0x80 ≤ b.toNat := by
  have hvalid : c.toNat < 0xD800 ∨ 0xDFFF < c.toNat ∧ c.toNat < 0x110000 := c.valid
  simp only [encodeChar, if_neg (Nat.not_lt.2 hc)] at hb
  split at hb
  · simp only [List.mem_cons, List.not_mem_nil, or_false] at hb
    rcases hb with rfl | rfl <;> rw [toNat_byte (by omega)] <;> omega
  split at hb
  · simp only [List.mem_cons, List.not_mem_nil, or_false] at hb
    rcases hb with rfl | rfl | rfl <;> rw [toNat_byte (by omega)] <;> omega
  · simp only [List.mem_cons, List.not_mem_nil, or_false] at hb
    rcases hb with rfl | rfl | rfl | rfl <;> rw [toNat_byte (by omega)] <;> omega

theorem zero_mem_encodeChar_iff {c : Char} : 0 ∈ encodeChar c ↔ c = '\x00' := by
  constructor
  · intro h
    have hlow : c.toNat < 0x80 :=
      Nat.lt_of_not_le fun hhigh => absurd (high_of_mem_encodeChar hhigh h) (by decide)
    rw [encodeChar, if_pos hlow, List.mem_singleton, ← UInt8.toNat_inj, toNat_byte (by omega)] at h
    exact Char.toNat_inj.1 h.symm
  · rintro rfl
    decide

theorem zero_mem_encode_iff {t : List Char} : 0 ∈ encode t ↔ '\x00' ∈ t := by
  simp only [encode, List.mem_flatMap, zero_mem_encodeChar_iff, exists_eq_right]

end CodeReview.Text.Utf8
