import ConfigExchange.MessagePack.Reader

/-! The forms in which values are written: which bytes stand for which value, put down without the
reader. The reader finds the value of every form, whatever bytes follow it. What is written is one
of the forms. -/
namespace ConfigExchange.MessagePack

/-! ### Forms -/

/-- The sorts of values that have a length. -/
inductive Sized where
  | str
  | bin
  | ext
  | array
  | map

namespace Sized

/-- The marker of an extension with one of five lengths. -/
def shortExt : Nat → Option UInt8
  | 1 => some 0xd4
  | 2 => some 0xd5
  | 4 => some 0xd6
  | 8 => some 0xd7
  | 16 => some 0xd8
  | _ => none

/-- The marker that announces a short length by itself. -/
def short : Sized → Nat → Option UInt8
  | str, n => if n < 0x20 then some (UInt8.ofNat (0xa0 + n)) else none
  | bin, _ => none
  | ext, n => shortExt n
  | array, n => if n < 0x10 then some (UInt8.ofNat (0x90 + n)) else none
  | map, n => if n < 0x10 then some (UInt8.ofNat (0x80 + n)) else none

/-- The markers behind which the length stands as a number, and the width of the number. -/
def markers : Sized → List (UInt8 × Nat)
  | str => [(0xd9, 1), (0xda, 2), (0xdb, 4)]
  | bin => [(0xc4, 1), (0xc5, 2), (0xc6, 4)]
  | ext => [(0xc7, 1), (0xc8, 2), (0xc9, 4)]
  | array => [(0xdc, 2), (0xdd, 4)]
  | map => [(0xde, 2), (0xdf, 4)]

/-- The bytes that announce a value of a sort and its length. -/
inductive Head (sort : Sized) (n : Nat) : Bytes → Prop where
  | short {marker : UInt8} (hMarker : sort.short n = some marker) : Head sort n [marker]
  | counted {marker : UInt8} {width : Nat} (hMarker : (marker, width) ∈ sort.markers)
      (hFits : n < byteRange width) : Head sort n (marked marker width n)

end Sized

/-- The markers of numbers without a sign, and their widths. -/
def unsignedMarkers : List (UInt8 × Nat) := [(0xcc, 1), (0xcd, 2), (0xce, 4), (0xcf, 8)]

/-- The markers of numbers with a sign, and their widths. -/
def signedMarkers : List (UInt8 × Nat) := [(0xd0, 1), (0xd1, 2), (0xd2, 4), (0xd3, 8)]

/-- The markers of floats, and their widths. -/
def floatMarkers : List (UInt8 × Nat) := [(0xca, 4), (0xcb, 8)]

/-- The bytes that stand for a value in which at most `nesting` arrays, maps and extensions stand
inside each other. -/
inductive Stands : (nesting : Nat) → Bytes → Value → Prop where
  | nil {nesting : Nat} : Stands nesting [0xc0] .nil
  | bool {nesting : Nat} (value : Bool) :
      Stands nesting [if value then 0xc3 else 0xc2] (.bool value)
  | small {nesting n : Nat} (hSmall : n < 0x80) : Stands nesting [UInt8.ofNat n] (.unsigned n)
  | unsigned {nesting n : Nat} {marker : UInt8} {width : Nat}
      (hMarker : (marker, width) ∈ unsignedMarkers) (hFits : n < byteRange width) :
      Stands nesting (marked marker width n) (.unsigned n)
  /-- From -32 to -1. -/
  | negative {nesting n : Nat} (hSmall : n < 0x20) :
      Stands nesting [UInt8.ofNat (0xe0 + n)] (.signed (n - 0x20 : Int))
  /-- In two's complement. -/
  | signed {nesting : Nat} {n : Int} {marker : UInt8} {width : Nat}
      (hMarker : (marker, width) ∈ signedMarkers) (hLow : -(byteRange width : Int) ≤ 2 * n)
      (hHigh : 2 * n < byteRange width) :
      Stands nesting (marked marker width (n % byteRange width).toNat) (.signed n)
  | float {nesting : Nat} {bytes : Bytes} {marker : UInt8}
      (hMarker : (marker, bytes.length) ∈ floatMarkers) :
      Stands nesting (marker :: bytes) (.float bytes)
  | str {nesting : Nat} {head bytes : Bytes} (hHead : Sized.str.Head bytes.length head) :
      Stands nesting (head ++ bytes) (.str bytes)
  | bin {nesting : Nat} {head bytes : Bytes} (hHead : Sized.bin.Head bytes.length head) :
      Stands nesting (head ++ bytes) (.bin bytes)
  | ext {nesting : Nat} {head bytes : Bytes} (kind : UInt8)
      (hHead : Sized.ext.Head bytes.length head) :
      Stands (nesting + 1) (head ++ kind :: bytes) (.ext kind bytes)
  | array {nesting : Nat} {head : Bytes} (items : List (Bytes × Value))
      (hHead : Sized.array.Head items.length head)
      (hItems : ∀ item ∈ items, Stands nesting item.1 item.2) :
      Stands (nesting + 1) (head ++ items.flatMap (·.1)) (.array (items.map (·.2)))
  | map {nesting : Nat} {head : Bytes} (entries : List ((Bytes × Value) × (Bytes × Value)))
      (hHead : Sized.map.Head entries.length head)
      (hKeys : ∀ entry ∈ entries, Stands nesting entry.1.1 entry.1.2)
      (hValues : ∀ entry ∈ entries, Stands nesting entry.2.1 entry.2.2) :
      Stands (nesting + 1) (head ++ entries.flatMap fun entry => entry.1.1 ++ entry.2.1)
        (.map (entries.map fun entry => (entry.1.2, entry.2.2)))

/-! ### Numbers and strings of bytes -/

theorem split?_append (front rest : Bytes) :
    split? front.length (front ++ rest) = some (front, rest) := by
  simp [split?]

theorem readNat_bigEndian (width : Nat) {n : Nat} (h : n < byteRange width) (rest : Bytes) :
    readNat width (bigEndian width n ++ rest) = some (n, rest) := by
  have hSplit := split?_append (bigEndian width n) rest
  rw [length_bigEndian] at hSplit
  simp [readNat, hSplit, ofBigEndian_bigEndian h]

/-- A number in two's complement is read back. -/
theorem signedOf_emod {width : Nat} {n : Int} (hLow : -(byteRange width : Int) ≤ 2 * n)
    (hHigh : 2 * n < byteRange width) (hEven : byteRange width % 2 = 0) :
    signedOf width (n % byteRange width).toNat = n := by
  have hPos : (0 : Int) < byteRange width := Int.natCast_pos.2 (byteRange_pos width)
  have hRange : ((n % byteRange width).toNat : Int) = n % byteRange width :=
    Int.toNat_of_nonneg (Int.emod_nonneg n (Int.ne_of_gt hPos))
  rcases Int.lt_or_le n 0 with hNegative | hNatural
  · have hMod : n % byteRange width = n + byteRange width := by
      rw [← Int.add_emod_right]
      exact Int.emod_eq_of_lt (by omega) (by omega)
    rw [signedOf, if_neg (by omega)]
    omega
  · have hMod : n % byteRange width = n := Int.emod_eq_of_lt hNatural (by omega)
    rw [signedOf, if_pos (by omega)]
    omega

/-- The number of a marker byte that was built from a number. -/
theorem toNat_marker {n : Nat} (h : n < 0x100) : (UInt8.ofNat n).toNat = n := by
  rw [UInt8.toNat_ofNat']
  exact Nat.mod_eq_of_lt h

theorem ofMarker_nil : Form.ofMarker 0xc0 = .nil := rfl

theorem ofMarker_bool (value : Bool) :
    Form.ofMarker (if value then 0xc3 else 0xc2) = .bool value := by
  cases value <;> rfl

theorem ofMarker_small {n : Nat} (h : n < 0x80) : Form.ofMarker (UInt8.ofNat n) = .small n := by
  rw [Form.ofMarker, toNat_marker (by omega : n < 0x100)]
  exact if_pos h

theorem ofMarker_negative {n : Nat} (h : n < 0x20) :
    Form.ofMarker (UInt8.ofNat (0xe0 + n)) = .negative (n - 0x20 : Int) := by
  rw [Form.ofMarker, toNat_marker (by omega : 0xe0 + n < 0x100)]
  rw [if_neg (by omega), if_neg (by omega), if_neg (by omega), if_neg (by omega), if_pos (by omega)]
  congr 1
  omega

/-! ### Heads -/

namespace Sized

/-- The form of a sort, with the place of its length. -/
def form : Sized → Length → Form
  | str => .str
  | bin => .bin
  | ext => .ext
  | array => .array
  | map => .map

theorem ofMarker_short {sort : Sized} {n : Nat} {marker : UInt8}
    (hMarker : sort.short n = some marker) : Form.ofMarker marker = sort.form (.fixed n) := by
  cases sort with
  | bin => cases hMarker
  | ext =>
      simp only [short, shortExt] at hMarker
      split at hMarker <;> cases hMarker <;> rfl
  | str =>
      simp only [short, Option.ite_none_right_eq_some, Option.some.injEq] at hMarker
      obtain ⟨hShort, rfl⟩ := hMarker
      rw [Form.ofMarker, toNat_marker (by omega : 0xa0 + n < 0x100)]
      rw [if_neg (by omega), if_neg (by omega), if_neg (by omega), if_pos (by omega)]
      simp [form]
  | array =>
      simp only [short, Option.ite_none_right_eq_some, Option.some.injEq] at hMarker
      obtain ⟨hShort, rfl⟩ := hMarker
      rw [Form.ofMarker, toNat_marker (by omega : 0x90 + n < 0x100)]
      rw [if_neg (by omega), if_neg (by omega), if_pos (by omega)]
      simp [form]
  | map =>
      simp only [short, Option.ite_none_right_eq_some, Option.some.injEq] at hMarker
      obtain ⟨hShort, rfl⟩ := hMarker
      rw [Form.ofMarker, toNat_marker (by omega : 0x80 + n < 0x100)]
      rw [if_neg (by omega), if_pos (by omega)]
      simp [form]

theorem ofMarker_counted {sort : Sized} {marker : UInt8} {width : Nat}
    (hMarker : (marker, width) ∈ sort.markers) :
    Form.ofMarker marker = sort.form (.counted width) := by
  have hAll : ∀ entry ∈ sort.markers, Form.ofMarker entry.1 = sort.form (.counted entry.2) := by
    cases sort with
    | str | bin | ext =>
        simp only [markers, List.forall_mem_cons, List.not_mem_nil, false_implies, implies_true,
          and_true]
        exact ⟨rfl, rfl, rfl⟩
    | array | map =>
        simp only [markers, List.forall_mem_cons, List.not_mem_nil, false_implies, implies_true,
          and_true]
        exact ⟨rfl, rfl⟩
  exact hAll _ hMarker

/-- A head is a marker with the length in it or behind it. -/
theorem Head.exists_length {sort : Sized} {n : Nat} {head : Bytes} (hHead : sort.Head n head) :
    ∃ marker tail length, head = marker :: tail ∧ Form.ofMarker marker = sort.form length ∧
      ∀ rest, length.read (tail ++ rest) = some (n, rest) := by
  cases hHead with
  | short hMarker => exact ⟨_, [], .fixed n, rfl, ofMarker_short hMarker, fun rest => rfl⟩
  | @counted marker width hMarker hFits =>
      exact ⟨marker, bigEndian width n, .counted width, rfl, ofMarker_counted hMarker,
        readNat_bigEndian width hFits⟩

end Sized

/-! ### Reading the forms -/

/-- A reader that may descend `nesting` levels takes `bytes` for `value`, and leaves whatever
follows them. -/
def Reads (nesting : Nat) (bytes : Bytes) (value : Value) : Prop :=
  ∀ rest, readValue nesting (bytes ++ rest) = some (value, rest)

/-- A value without others in it is read the same way at every depth. -/
theorem Reads.of_readWith {bytes : Bytes} {value : Value}
    (h : ∀ inner rest, readWith inner (bytes ++ rest) = some (value, rest)) (nesting : Nat) :
    Reads nesting bytes value := by
  intro rest
  cases nesting with
  | zero => exact h none rest
  | succ nesting => exact h (some (readValue nesting)) rest

theorem readMany_flatMap {readOne : Bytes → Option (Value × Bytes)} (items : List (Bytes × Value))
    (h : ∀ item ∈ items, ∀ rest, readOne (item.1 ++ rest) = some (item.2, rest))
    (read : List Value) (rest : Bytes) :
    readMany readOne items.length read (items.flatMap (·.1) ++ rest) =
      some (read.reverse ++ items.map (·.2), rest) := by
  induction items generalizing read with
  | nil => simp [readMany]
  | cons first others ih =>
      have hFirst := h first List.mem_cons_self
      have hOthers := ih fun item hItem => h item (List.mem_cons_of_mem _ hItem)
      simp [readMany, hFirst, hOthers]

theorem readEntries_flatMap {readOne : Bytes → Option (Value × Bytes)}
    (entries : List ((Bytes × Value) × (Bytes × Value)))
    (hKeys : ∀ entry ∈ entries, ∀ rest, readOne (entry.1.1 ++ rest) = some (entry.1.2, rest))
    (hValues : ∀ entry ∈ entries, ∀ rest, readOne (entry.2.1 ++ rest) = some (entry.2.2, rest))
    (read : List (Value × Value)) (rest : Bytes) :
    readEntries readOne entries.length read
        (entries.flatMap (fun entry => entry.1.1 ++ entry.2.1) ++ rest) =
      some (read.reverse ++ entries.map (fun entry => (entry.1.2, entry.2.2)), rest) := by
  induction entries generalizing read with
  | nil => simp [readEntries]
  | cons first others ih =>
      have hKey := hKeys first List.mem_cons_self
      have hValue := hValues first List.mem_cons_self
      have hOthers := ih (fun entry hEntry => hKeys entry (List.mem_cons_of_mem _ hEntry))
        fun entry hEntry => hValues entry (List.mem_cons_of_mem _ hEntry)
      simp [readEntries, hKey, hValue, hOthers]

theorem ofMarker_unsigned {marker : UInt8} {width : Nat}
    (hMarker : (marker, width) ∈ unsignedMarkers) : Form.ofMarker marker = .unsigned width := by
  have hAll : ∀ entry ∈ unsignedMarkers, Form.ofMarker entry.1 = .unsigned entry.2 := by
    simp only [unsignedMarkers, List.forall_mem_cons, List.not_mem_nil, false_implies, implies_true,
      and_true]
    exact ⟨rfl, rfl, rfl, rfl⟩
  exact hAll _ hMarker

theorem ofMarker_signed {marker : UInt8} {width : Nat} (hMarker : (marker, width) ∈ signedMarkers) :
    Form.ofMarker marker = .signed width ∧ byteRange width % 2 = 0 := by
  have hAll : ∀ entry ∈ signedMarkers,
      Form.ofMarker entry.1 = .signed entry.2 ∧ byteRange entry.2 % 2 = 0 := by
    simp only [signedMarkers, List.forall_mem_cons, List.not_mem_nil, false_implies, implies_true,
      and_true]
    exact ⟨⟨rfl, rfl⟩, ⟨rfl, rfl⟩, ⟨rfl, rfl⟩, ⟨rfl, rfl⟩⟩
  exact hAll _ hMarker

theorem ofMarker_float {marker : UInt8} {width : Nat} (hMarker : (marker, width) ∈ floatMarkers) :
    Form.ofMarker marker = .float width := by
  have hAll : ∀ entry ∈ floatMarkers, Form.ofMarker entry.1 = .float entry.2 := by
    simp only [floatMarkers, List.forall_mem_cons, List.not_mem_nil, false_implies, implies_true,
      and_true]
    exact ⟨rfl, rfl⟩
  exact hAll _ hMarker

/-- Exactly the bytes of a form are read, and its value is found. -/
theorem Stands.reads {nesting : Nat} {bytes : Bytes} {value : Value}
    (hStands : Stands nesting bytes value) : Reads nesting bytes value := by
  induction hStands with
  | nil =>
      refine .of_readWith (fun inner rest => ?_) _
      simp only [List.cons_append, List.nil_append, readWith, ofMarker_nil]
  | bool value =>
      refine .of_readWith (fun inner rest => ?_) _
      simp only [List.cons_append, List.nil_append, readWith, ofMarker_bool]
  | small hSmall =>
      refine .of_readWith (fun inner rest => ?_) _
      simp only [List.cons_append, List.nil_append, readWith, ofMarker_small hSmall]
  | unsigned hMarker hFits =>
      refine .of_readWith (fun inner rest => ?_) _
      simp only [marked, List.cons_append, readWith, ofMarker_unsigned hMarker,
        readNat_bigEndian _ hFits, Option.map_some]
  | negative hSmall =>
      refine .of_readWith (fun inner rest => ?_) _
      simp only [List.cons_append, List.nil_append, readWith, ofMarker_negative hSmall]
  | @signed nesting n marker width hMarker hLow hHigh =>
      obtain ⟨hForm, hEven⟩ := ofMarker_signed hMarker
      have hPos : (0 : Int) < byteRange width := Int.natCast_pos.2 (byteRange_pos width)
      have hFits : (n % byteRange width).toNat < byteRange width := by
        have hLess := Int.emod_lt_of_pos n hPos
        omega
      refine .of_readWith (fun inner rest => ?_) _
      simp only [marked, List.cons_append, readWith, hForm, readNat_bigEndian _ hFits,
        Option.map_some, signedOf_emod hLow hHigh hEven]
  | float hMarker =>
      refine .of_readWith (fun inner rest => ?_) _
      simp only [List.cons_append, readWith, ofMarker_float hMarker, split?_append, Option.map_some]
  | str hHead | bin hHead =>
      obtain ⟨marker, tail, length, rfl, hForm, hLength⟩ := hHead.exists_length
      refine .of_readWith (fun inner rest => ?_) _
      simp only [Sized.form] at hForm
      simp only [List.cons_append, List.append_assoc, readWith, hForm, Length.readBytes, hLength,
        split?_append, Option.map_some]
  | ext kind hHead =>
      obtain ⟨marker, tail, length, rfl, hForm, hLength⟩ := hHead.exists_length
      simp only [Sized.form] at hForm
      intro rest
      simp only [List.cons_append, List.append_assoc, readValue, readWith, hForm, hLength,
        split?_append, Option.map_some]
  | array items hHead hItems ih =>
      obtain ⟨marker, tail, length, rfl, hForm, hLength⟩ := hHead.exists_length
      simp only [Sized.form] at hForm
      intro rest
      simp only [List.cons_append, List.append_assoc, readValue, readWith, hForm, hLength,
        readMany_flatMap items ih, List.reverse_nil, List.nil_append, Option.map_some]
  | map entries hHead hKeys hValues ihKeys ihValues =>
      obtain ⟨marker, tail, length, rfl, hForm, hLength⟩ := hHead.exists_length
      simp only [Sized.form] at hForm
      intro rest
      simp only [List.cons_append, List.append_assoc, readValue, readWith, hForm, hLength,
        readEntries_flatMap entries ihKeys ihValues, List.reverse_nil, List.nil_append,
        Option.map_some]

/-! ### Written values are forms -/

theorem stands_writeUInt (nesting : Nat) {n : Nat} (h : n < 0x10000000000000000) :
    Stands nesting (writeUInt n) (.unsigned n) := by
  unfold writeUInt
  split
  · next hSmall => exact .small hSmall
  split
  · next hFits => exact .unsigned (by simp [unsignedMarkers]) hFits
  split
  · next hFits => exact .unsigned (by simp [unsignedMarkers]) hFits
  split
  · next hFits => exact .unsigned (by simp [unsignedMarkers]) hFits
  · exact .unsigned (by simp [unsignedMarkers]) h

theorem stands_writeStr (nesting : Nat) {bytes : Bytes} (h : bytes.length < 0x100000000) :
    Stands nesting (writeStr bytes) (.str bytes) := by
  refine .str ?_
  simp only [headLength_of_lt h]
  split
  · next hShort => exact .short (if_pos hShort)
  split
  · next hFits => exact .counted (by simp [Sized.markers]) hFits
  split
  · next hFits => exact .counted (by simp [Sized.markers]) hFits
  · exact .counted (by simp [Sized.markers]) h

theorem head_writeArrayHead {n : Nat} (h : n < 0x100000000) :
    Sized.array.Head n (writeArrayHead n) := by
  simp only [writeArrayHead, headLength_of_lt h]
  split
  · next hShort => exact .short (if_pos hShort)
  split
  · next hFits => exact .counted (by simp [Sized.markers]) hFits
  · exact .counted (by simp [Sized.markers]) h

theorem head_writeMapHead {n : Nat} (h : n < 0x100000000) : Sized.map.Head n (writeMapHead n) := by
  simp only [writeMapHead, headLength_of_lt h]
  split
  · next hShort => exact .short (if_pos hShort)
  split
  · next hFits => exact .counted (by simp [Sized.markers]) hFits
  · exact .counted (by simp [Sized.markers]) h

theorem stands_array (nesting : Nat) (items : List (Bytes × Value))
    (hLength : items.length < 0x100000000)
    (hItems : ∀ item ∈ items, Stands nesting item.1 item.2) :
    Stands (nesting + 1) (writeArrayHead items.length ++ items.flatMap (·.1))
      (.array (items.map (·.2))) :=
  .array items (head_writeArrayHead hLength) hItems

theorem stands_map (nesting : Nat) (entries : List ((Bytes × Value) × (Bytes × Value)))
    (hLength : entries.length < 0x100000000)
    (hEntries : ∀ entry ∈ entries,
      Stands nesting entry.1.1 entry.1.2 ∧ Stands nesting entry.2.1 entry.2.2) :
    Stands (nesting + 1)
      (writeMapHead entries.length ++ entries.flatMap fun entry => entry.1.1 ++ entry.2.1)
      (.map (entries.map fun entry => (entry.1.2, entry.2.2))) :=
  .map entries (head_writeMapHead hLength) (fun entry hEntry => (hEntries entry hEntry).1)
    fun entry hEntry => (hEntries entry hEntry).2

end ConfigExchange.MessagePack
