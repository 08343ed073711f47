/-! Bytes, and unsigned numbers written with their most significant byte first. -/
namespace ConfigExchange

/-- Bytes in the order in which they are sent. -/
abbrev Bytes := List UInt8

/-- How many numbers there are of `width` bytes. -/
def byteRange (width : Nat) : Nat := Nat.pow 256 width

/-- The low `width` bytes of `n`, most significant first. Higher bytes of `n` are not written. -/
def bigEndian : (width : Nat) → (n : Nat) → Bytes
  | 0, _ => []
  | width + 1, n => UInt8.ofNat (n / byteRange width) :: bigEndian width n

/-- The number whose bytes are given, most significant first. -/
def ofBigEndian (bytes : Bytes) : Nat :=
  bytes.foldl (fun n byte => n * 256 + byte.toNat) 0

@[simp] theorem length_bigEndian (width n : Nat) : (bigEndian width n).length = width := by
  induction width with
  | zero => rfl
  | succ width ih => simp [bigEndian, ih]

theorem byteRange_pos (width : Nat) : 0 < byteRange width := Nat.pow_pos (by decide)

theorem byteRange_succ (width : Nat) : byteRange (width + 1) = byteRange width * 256 := rfl

/-- Later bytes do not change the weight of what was read before them. -/
theorem foldl_bigEndian (width n start : Nat) :
    (bigEndian width n).foldl (fun n byte => n * 256 + byte.toNat) start =
      start * byteRange width + n % byteRange width := by
  induction width generalizing start with
  | zero => simp [bigEndian, byteRange, Nat.mod_one]
  | succ width ih =>
    have hMod : n % byteRange (width + 1) =
        n / byteRange width % 256 * byteRange width + n % byteRange width := by
      rw [byteRange_succ, Nat.mod_mul, Nat.mul_comm, Nat.add_comm]
    simp only [bigEndian, List.foldl_cons, ih, UInt8.toNat_ofNat', hMod]
    rw [Nat.add_mul, Nat.mul_assoc, Nat.mul_comm 256, ← byteRange_succ, Nat.add_assoc]

/-- A number that fits the width is read back. -/
theorem ofBigEndian_bigEndian {width n : Nat} (h : n < byteRange width) :
    ofBigEndian (bigEndian width n) = n := by
  simp [ofBigEndian, foldl_bigEndian, Nat.mod_eq_of_lt h]

/-- What was read before counts once for each number that fits the bytes read after it. -/
theorem foldl_eq_add (bytes : Bytes) (start : Nat) :
    bytes.foldl (fun n byte => n * 256 + byte.toNat) start =
      start * byteRange bytes.length + ofBigEndian bytes := by
  induction bytes generalizing start with
  | nil => simp [byteRange, ofBigEndian]
  | cons byte rest ih =>
    rw [ofBigEndian, List.foldl_cons, List.foldl_cons, ih, ih, List.length_cons, byteRange_succ,
      Nat.zero_mul, Nat.zero_add, Nat.add_mul, Nat.mul_assoc, Nat.mul_comm 256, Nat.add_assoc]

theorem ofBigEndian_lt (bytes : Bytes) : ofBigEndian bytes < byteRange bytes.length := by
  induction bytes with
  | nil => decide
  | cons byte rest ih =>
    have hByte : byte.toNat + 1 ≤ 256 := byte.toNat_lt
    have hSum := foldl_eq_add rest (0 * 256 + byte.toNat)
    calc ofBigEndian (byte :: rest)
        = byte.toNat * byteRange rest.length + ofBigEndian rest := by
          rw [ofBigEndian, List.foldl_cons, hSum, Nat.zero_mul, Nat.zero_add]
      _ < (byte.toNat + 1) * byteRange rest.length := by rw [Nat.succ_mul]; omega
      _ ≤ 256 * byteRange rest.length := Nat.mul_le_mul_right _ hByte
      _ = byteRange (byte :: rest).length := by
          rw [List.length_cons, byteRange_succ, Nat.mul_comm]

/-- The bytes of a number that was read are those it was read from. -/
theorem bigEndian_foldl (bytes : Bytes) (start : Nat) :
    bigEndian bytes.length (bytes.foldl (fun n byte => n * 256 + byte.toNat) start) = bytes := by
  induction bytes generalizing start with
  | nil => rfl
  | cons byte rest ih =>
    have hQuotient : ((start * 256 + byte.toNat) * byteRange rest.length + ofBigEndian rest) /
        byteRange rest.length = start * 256 + byte.toNat := by
      rw [Nat.mul_comm, Nat.mul_add_div (byteRange_pos rest.length),
        Nat.div_eq_of_lt (ofBigEndian_lt rest), Nat.add_zero]
    have hByte : UInt8.ofNat (start * 256 + byte.toNat) = byte := by
      apply UInt8.toNat_inj.1
      have hLt : byte.toNat < 256 := byte.toNat_lt
      rw [UInt8.toNat_ofNat']
      omega
    rw [List.length_cons, List.foldl_cons, bigEndian, ih, foldl_eq_add, hQuotient, hByte]

theorem bigEndian_ofBigEndian (bytes : Bytes) :
    bigEndian bytes.length (ofBigEndian bytes) = bytes :=
  bigEndian_foldl bytes 0

end ConfigExchange
