import CodeReview.Text.Quoted

/-!
UTF-8. `encode` writes a text, `decode?` reads exactly what `encode` writes, `read` also tells the
fault of other bytes, and `decodeLossy` reads any bytes, with a replacement character for each
maximal part that is no beginning of a character.
-/

namespace CodeReview.Text.Utf8

def byte (n : Nat) : UInt8 :=
  UInt8.ofNat n

def encodeChar (c : Char) : List UInt8 :=
  let n := c.toNat
  if n < 0x80 then [byte n]
  else if n < 0x800 then [byte (0xC0 + n / 64), byte (0x80 + n % 64)]
  else if n < 0x10000 then
    [byte (0xE0 + n / 4096), byte (0x80 + n / 64 % 64), byte (0x80 + n % 64)]
  else
    [byte (0xF0 + n / 262144), byte (0x80 + n / 4096 % 64), byte (0x80 + n / 64 % 64),
      byte (0x80 + n % 64)]

def encode (t : List Char) : List UInt8 :=
  t.flatMap encodeChar

theorem encode_cons (c : Char) (t : List Char) : encode (c :: t) = encodeChar c ++ encode t := by
  simp [encode]

/-- What stands at the start of bytes: a character, or a part that begins none. -/
inductive Piece where
  | char (c : Char) (rest : List UInt8)
  | bad (rest : List UInt8)

def Piece.rest : Piece → List UInt8
  | .char _ r => r
  | .bad r => r

/-- Reads `k` continuation bytes, the first of them between `low` and `high`, behind the bits
`n` that are already known. A part that breaks off is left before the byte that breaks it. -/
def tails : (k n low high : Nat) → List UInt8 → Piece
  | 0, n, _, _, bs => .char (Char.ofNat n) bs
  | _ + 1, _, _, _, [] => .bad []
  | k + 1, n, low, high, b :: bs =>
    if low ≤ b.toNat && b.toNat ≤ high then tails k (n * 64 + (b.toNat - 0x80)) 0x80 0xBF bs
    else .bad (b :: bs)

/-- The piece that starts with byte `b`. The narrower bounds on the second byte keep out overlong
forms, surrogates and values above U+10FFFF. -/
def piece (b : UInt8) (bs : List UInt8) : Piece :=
  let n := b.toNat
  if n < 0x80 then .char (Char.ofNat n) bs
  else if n < 0xC2 then .bad bs
  else if n < 0xE0 then tails 1 (n - 0xC0) 0x80 0xBF bs
  else if n == 0xE0 then tails 2 0 0xA0 0xBF bs
  else if n == 0xED then tails 2 0xD 0x80 0x9F bs
  else if n < 0xF0 then tails 2 (n - 0xE0) 0x80 0xBF bs
  else if n == 0xF0 then tails 3 0 0x90 0xBF bs
  else if n < 0xF4 then tails 3 (n - 0xF0) 0x80 0xBF bs
  else if n == 0xF4 then tails 3 4 0x80 0x8F bs
  else .bad bs

theorem length_rest_tails (k n low high : Nat) (bs : List UInt8) :
    (tails k n low high bs).rest.length ≤ bs.length := by
  induction k generalizing n low high bs with
  | zero => simp [tails, Piece.rest]
  | succ k ih =>
    cases bs with
    | nil => simp [tails, Piece.rest]
    | cons b bs =>
      simp only [tails]
      split
      · exact Nat.le_succ_of_le (ih _ _ _ _)
      · simp [Piece.rest]

theorem length_rest_piece (b : UInt8) (bs : List UInt8) :
    (piece b bs).rest.length < bs.length + 1 := by
  have h := fun k n low high => length_rest_tails k n low high bs
  have hc : ∀ c, (Piece.char c bs).rest.length < bs.length + 1 := by simp [Piece.rest]
  have hb : (Piece.bad bs).rest.length < bs.length + 1 := by simp [Piece.rest]
  unfold piece
  dsimp only
  repeat' split
  all_goals first | exact hc _ | exact hb | exact Nat.lt_succ_of_le (h _ _ _ _)

def decode? : List UInt8 → Option (List Char)
  | [] => some []
  | b :: bs =>
    match _h : piece b bs with
    | .char c rest => (decode? rest).map (c :: ·)
    | .bad _ => none
termination_by bs => bs.length
decreasing_by
  have := length_rest_piece b bs
  rw [_h] at this
  simpa [Piece.rest] using this

inductive Flaw where
  | start
  | continuation
  | ended
  deriving DecidableEq, Repr

def Flaw.description : Flaw → String
  | .start => "invalid start byte"
  | .continuation => "invalid continuation byte"
  | .ended => "unexpected end of data"

/-- The first part of some bytes that is no character: its place, its length, its first byte, and
what is wrong with it. -/
structure Fault where
  position : Nat
  length : Nat
  byte : UInt8
  flaw : Flaw
  deriving DecidableEq, Repr

namespace Fault

/-- The fault of a part that starts with byte `b` and leaves `rest` of the bytes behind it. A part
that only the end of the bytes has broken off leaves nothing. -/
def ofPart (position : Nat) (b : UInt8) (bs rest : List UInt8) : Fault where
  position := position
  length := bs.length + 1 - rest.length
  byte := b
  flaw :=
    if 0xC2 ≤ b.toNat && b.toNat ≤ 0xF4 then
      if rest.isEmpty then .ended else .continuation
    else .start

def message (f : Fault) : String :=
  let place := if f.length = 1
    then "byte 0x" ++ String.ofList (hexDigits 2 f.byte.toNat) ++ " in position "
      ++ toString f.position
    else "bytes in position " ++ toString f.position ++ "-"
      ++ toString (f.position + f.length - 1)
  "'utf-8' codec can't decode " ++ place ++ ": " ++ f.flaw.description

end Fault

def read (position : Nat) : List UInt8 → Except Fault (List Char)
  | [] => .ok []
  | b :: bs =>
    match _h : piece b bs with
    | .char c rest => (read (position + (bs.length + 1 - rest.length)) rest).map (c :: ·)
    | .bad rest => .error (.ofPart position b bs rest)
termination_by bs => bs.length
decreasing_by
  have := length_rest_piece b bs
  rw [_h] at this
  simpa [Piece.rest] using this

theorem read_eq_ok_iff {position : Nat} {bs : List UInt8} {t : List Char} :
    read position bs = .ok t ↔ decode? bs = some t := by
  fun_induction read position bs generalizing t with
  | case1 => simp [decode?, eq_comm]
  | case2 position b bs c rest hpiece ih =>
    rw [decode?]
    split
    · next c' rest' h =>
      rw [hpiece, Piece.char.injEq] at h
      obtain ⟨rfl, rfl⟩ := h
      cases hread : read (position + (bs.length + 1 - rest.length)) rest with
      | error f =>
        have hnone : decode? rest = none := by
          rw [Option.eq_none_iff_forall_ne_some]
          intro u hu
          rw [← ih, hread] at hu
          cases hu
        simp [Except.map, hnone]
      | ok u => simp [Except.map, ih.1 hread]
    · next h =>
      rw [hpiece] at h
      cases h
  | case3 position b bs rest hpiece =>
    rw [decode?]
    split
    · next h =>
      rw [hpiece] at h
      cases h
    · simp

/-- The text of any bytes, where U+FFFD stands for each part that is no character. -/
def decodeLossy : List UInt8 → List Char
  | [] => []
  | b :: bs =>
    match _h : piece b bs with
    | .char c rest => c :: decodeLossy rest
    | .bad rest => '\uFFFD' :: decodeLossy rest
termination_by bs => bs.length
decreasing_by
  all_goals
    have := length_rest_piece b bs
    rw [_h] at this
    simpa [Piece.rest] using this

end CodeReview.Text.Utf8
