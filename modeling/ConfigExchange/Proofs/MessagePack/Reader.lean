import ConfigExchange.Proofs.MessagePack

/-! The reader takes nothing but forms: whatever it finds at the front of a byte string, the bytes
that it takes are a form of that value. -/
namespace ConfigExchange.MessagePack

namespace Form

/-- Which markers stand for a form. -/
def MarkedBy : Form → UInt8 → Prop
  | nil, marker => marker = 0xc0
  | bool value, marker => marker = if value then 0xc3 else 0xc2
  | small n, marker => n < 0x80 ∧ marker = UInt8.ofNat n
  | negative n, marker => ∃ m : Nat, m < 0x20 ∧ n = m - 0x20 ∧ marker = UInt8.ofNat (0xe0 + m)
  | unsigned width, marker => (marker, width) ∈ unsignedMarkers
  | signed width, marker => (marker, width) ∈ signedMarkers
  | float width, marker => (marker, width) ∈ floatMarkers
  | str (.fixed n), marker => Sized.str.short n = some marker
  | str (.counted width), marker => (marker, width) ∈ Sized.str.markers
  | bin (.fixed n), marker => Sized.bin.short n = some marker
  | bin (.counted width), marker => (marker, width) ∈ Sized.bin.markers
  | ext (.fixed n), marker => Sized.ext.short n = some marker
  | ext (.counted width), marker => (marker, width) ∈ Sized.ext.markers
  | array (.fixed n), marker => Sized.array.short n = some marker
  | array (.counted width), marker => (marker, width) ∈ Sized.array.markers
  | map (.fixed n), marker => Sized.map.short n = some marker
  | map (.counted width), marker => (marker, width) ∈ Sized.map.markers
  | reserved, _ => True

theorem markedBy_ofMarker (marker : UInt8) : (ofMarker marker).MarkedBy marker := by
  have hOfNat : marker = UInt8.ofNat marker.toNat := UInt8.ofNat_toNat.symm
  have hByte : marker.toNat < 0x100 := marker.toNat_lt
  generalize marker.toNat = n at hOfNat hByte
  subst hOfNat
  rw [ofMarker, toNat_marker hByte]
  -- The markers that hold a number, from the lowest range to the highest.
  by_cases hSmall : n < 0x80
  · rw [if_pos hSmall]
    exact ⟨hSmall, rfl⟩
  rw [if_neg hSmall]
  by_cases hMap : n < 0x90
  · rw [if_pos hMap]
    have hShort : n - 0x80 < 0x10 := by omega
    simp only [MarkedBy, Sized.short, if_pos hShort, Nat.add_sub_of_le (Nat.le_of_not_lt hSmall)]
  rw [if_neg hMap]
  by_cases hArray : n < 0xa0
  · rw [if_pos hArray]
    have hShort : n - 0x90 < 0x10 := by omega
    simp only [MarkedBy, Sized.short, if_pos hShort, Nat.add_sub_of_le (Nat.le_of_not_lt hMap)]
  rw [if_neg hArray]
  by_cases hStr : n < 0xc0
  · rw [if_pos hStr]
    have hShort : n - 0xa0 < 0x20 := by omega
    simp only [MarkedBy, Sized.short, if_pos hShort, Nat.add_sub_of_le (Nat.le_of_not_lt hArray)]
  rw [if_neg hStr]
  by_cases hNegative : n ≥ 0xe0
  · rw [if_pos hNegative]
    exact ⟨n - 0xe0, by omega, by omega, by rw [Nat.add_sub_of_le hNegative]⟩
  rw [if_neg hNegative]
  -- Those that stand alone.
  split <;> simp [MarkedBy, unsignedMarkers, signedMarkers, floatMarkers, Sized.short,
    Sized.shortExt, Sized.markers]

end Form

theorem of_split? {n : Nat} {bytes front rest : Bytes} (h : split? n bytes = some (front, rest)) :
    bytes = front ++ rest ∧ front.length = n := by
  simp only [split?] at h
  split at h
  · next hLength =>
    cases h
    exact ⟨(List.take_append_drop n bytes).symm, hLength⟩
  · cases h

theorem of_readNat {width n : Nat} {bytes rest : Bytes} (h : readNat width bytes = some (n, rest)) :
    n < byteRange width ∧ bytes = bigEndian width n ++ rest := by
  unfold readNat at h
  split at h
  · next front left hSplit =>
    cases h
    obtain ⟨rfl, rfl⟩ := of_split? hSplit
    exact ⟨ofBigEndian_lt front, by rw [bigEndian_ofBigEndian]⟩
  · cases h

/-- A number in two's complement has one form of each width. -/
theorem signedOf_cases {width n : Nat} (hFits : n < byteRange width)
    (hEven : byteRange width % 2 = 0) :
    -(byteRange width : Int) ≤ 2 * signedOf width n ∧ 2 * signedOf width n < byteRange width ∧
      (signedOf width n % byteRange width).toNat = n := by
  unfold signedOf
  split
  · next hLow =>
    refine ⟨by omega, by omega, ?_⟩
    rw [Int.emod_eq_of_lt (by omega) (by omega), Int.toNat_natCast]
  · next hHigh =>
    refine ⟨by omega, by omega, ?_⟩
    rw [Int.sub_emod_right, Int.emod_eq_of_lt (by omega) (by omega), Int.toNat_natCast]

/-- A length that was read has a head. -/
theorem Sized.head_of_read (sort : Sized) {marker : UInt8} {length : Length} {n : Nat}
    {bytes rest : Bytes} (hForm : Form.ofMarker marker = sort.form length)
    (hRead : length.read bytes = some (n, rest)) :
    ∃ tail, bytes = tail ++ rest ∧ sort.Head n (marker :: tail) := by
  have hMarked := Form.markedBy_ofMarker marker
  rw [hForm] at hMarked
  cases length with
  | fixed m =>
      cases hRead
      refine ⟨[], rfl, .short ?_⟩
      cases sort <;> exact hMarked
  | counted width =>
      obtain ⟨hFits, rfl⟩ := of_readNat hRead
      refine ⟨_, rfl, .counted ?_ hFits⟩
      cases sort <;> exact hMarked

theorem Length.of_readBytes {length : Length} {bytes content rest : Bytes}
    (h : length.readBytes bytes = some (content, rest)) :
    length.read bytes = some (content.length, content ++ rest) := by
  unfold Length.readBytes at h
  split at h
  · next n left hRead =>
    obtain ⟨rfl, rfl⟩ := of_split? h
    exact hRead
  · cases h

/-- What a reader takes is a form, and it leaves what follows that. -/
def TakesForms (nesting : Nat) (readOne : Bytes → Option (Value × Bytes)) : Prop :=
  ∀ bytes value rest, readOne bytes = some (value, rest) →
    ∃ front, bytes = front ++ rest ∧ Stands nesting front value

theorem TakesForms.readMany {nesting : Nat} {readOne : Bytes → Option (Value × Bytes)}
    (hTakes : TakesForms nesting readOne) {count : Nat} {read values : List Value}
    {bytes rest : Bytes} (h : readMany readOne count read bytes = some (values, rest)) :
    ∃ items : List (Bytes × Value), items.length = count ∧
      values = read.reverse ++ items.map (·.2) ∧ bytes = items.flatMap (·.1) ++ rest ∧
        ∀ item ∈ items, Stands nesting item.1 item.2 := by
  induction count generalizing read bytes with
  | zero =>
      cases h
      exact ⟨[], rfl, by simp, rfl, by simp⟩
  | succ count ih =>
      rw [MessagePack.readMany] at h
      cases hOne : readOne bytes with
      | none => simp [hOne] at h
      | some found =>
          obtain ⟨value, left⟩ := found
          rw [hOne] at h
          obtain ⟨front, rfl, hFront⟩ := hTakes _ _ _ hOne
          obtain ⟨items, hLength, hValues, rfl, hItems⟩ := ih h
          refine ⟨(front, value) :: items, by rw [List.length_cons, hLength], ?_, ?_,
            List.forall_mem_cons.2 ⟨hFront, hItems⟩⟩
          · rw [hValues]
            simp
          · rw [List.flatMap_cons, List.append_assoc]

theorem TakesForms.readEntries {nesting : Nat} {readOne : Bytes → Option (Value × Bytes)}
    (hTakes : TakesForms nesting readOne) {count : Nat} {read values : List (Value × Value)}
    {bytes rest : Bytes} (h : readEntries readOne count read bytes = some (values, rest)) :
    ∃ entries : List ((Bytes × Value) × (Bytes × Value)), entries.length = count ∧
      values = read.reverse ++ entries.map (fun entry => (entry.1.2, entry.2.2)) ∧
      bytes = entries.flatMap (fun entry => entry.1.1 ++ entry.2.1) ++ rest ∧
      (∀ entry ∈ entries, Stands nesting entry.1.1 entry.1.2) ∧
        ∀ entry ∈ entries, Stands nesting entry.2.1 entry.2.2 := by
  induction count generalizing read bytes with
  | zero =>
      cases h
      exact ⟨[], rfl, by simp, rfl, by simp, by simp⟩
  | succ count ih =>
      rw [MessagePack.readEntries] at h
      cases hKey : readOne bytes with
      | none => simp [hKey] at h
      | some found =>
          obtain ⟨key, middle⟩ := found
          cases hValue : readOne middle with
          | none => simp [hKey, hValue] at h
          | some found =>
              obtain ⟨value, left⟩ := found
              simp only [hKey, hValue] at h
              obtain ⟨front, rfl, hFront⟩ := hTakes _ _ _ hKey
              obtain ⟨back, rfl, hBack⟩ := hTakes _ _ _ hValue
              obtain ⟨entries, hLength, hValues, rfl, hKeys, hOthers⟩ := ih h
              refine ⟨((front, key), (back, value)) :: entries, by rw [List.length_cons, hLength],
                ?_, ?_, List.forall_mem_cons.2 ⟨hFront, hKeys⟩,
                List.forall_mem_cons.2 ⟨hBack, hOthers⟩⟩
              · rw [hValues]
                simp
              · simp

theorem takesForms_readWith {nesting : Nat} {inner : Option (Bytes → Option (Value × Bytes))}
    (hInner : ∀ readOne, inner = some readOne →
      ∃ depth, nesting = depth + 1 ∧ TakesForms depth readOne) :
    TakesForms nesting (readWith inner) := by
  intro bytes value rest hRead
  cases bytes with
  | nil => cases hRead
  | cons marker tail =>
      have hMarked := Form.markedBy_ofMarker marker
      rw [readWith] at hRead
      cases hForm : Form.ofMarker marker with
      | nil =>
          rw [hForm] at hRead hMarked
          cases hRead
          cases hMarked
          exact ⟨[0xc0], rfl, .nil⟩
      | bool flag =>
          rw [hForm] at hRead hMarked
          cases hRead
          cases hMarked
          exact ⟨_, rfl, .bool flag⟩
      | small n =>
          rw [hForm] at hRead hMarked
          cases hRead
          obtain ⟨hSmall, rfl⟩ := hMarked
          exact ⟨_, rfl, .small hSmall⟩
      | negative n =>
          rw [hForm] at hRead hMarked
          cases hRead
          obtain ⟨m, hSmall, rfl, rfl⟩ := hMarked
          exact ⟨_, rfl, .negative hSmall⟩
      | unsigned width =>
          rw [hForm] at hRead hMarked
          obtain ⟨⟨n, left⟩, hNat, hSame⟩ := Option.map_eq_some_iff.1 hRead
          cases hSame
          obtain ⟨hFits, rfl⟩ := of_readNat hNat
          exact ⟨marked marker width n, rfl, .unsigned hMarked hFits⟩
      | signed width =>
          rw [hForm] at hRead hMarked
          obtain ⟨⟨n, left⟩, hNat, hSame⟩ := Option.map_eq_some_iff.1 hRead
          cases hSame
          obtain ⟨hFits, rfl⟩ := of_readNat hNat
          obtain ⟨hLow, hHigh, hBack⟩ := signedOf_cases hFits (ofMarker_signed hMarked).2
          have hStands : Stands nesting _ _ := .signed hMarked hLow hHigh
          rw [hBack] at hStands
          exact ⟨_, rfl, hStands⟩
      | float width =>
          rw [hForm] at hRead hMarked
          obtain ⟨⟨front, left⟩, hSplit, hSame⟩ := Option.map_eq_some_iff.1 hRead
          cases hSame
          obtain ⟨rfl, rfl⟩ := of_split? hSplit
          exact ⟨marker :: front, rfl, .float hMarked⟩
      | str length =>
          rw [hForm] at hRead
          obtain ⟨⟨content, left⟩, hBytes, hSame⟩ := Option.map_eq_some_iff.1 hRead
          cases hSame
          obtain ⟨front, rfl, hHead⟩ := Sized.str.head_of_read hForm (Length.of_readBytes hBytes)
          exact ⟨_, by simp, .str hHead⟩
      | bin length =>
          rw [hForm] at hRead
          obtain ⟨⟨content, left⟩, hBytes, hSame⟩ := Option.map_eq_some_iff.1 hRead
          cases hSame
          obtain ⟨front, rfl, hHead⟩ := Sized.bin.head_of_read hForm (Length.of_readBytes hBytes)
          exact ⟨_, by simp, .bin hHead⟩
      | ext length =>
          rw [hForm] at hRead
          simp only at hRead
          split at hRead
          · next readOne n left hLength =>
            obtain ⟨depth, rfl, -⟩ := hInner readOne rfl
            cases left with
            | nil => cases hRead
            | cons kind left =>
                obtain ⟨⟨content, last⟩, hSplit, hSame⟩ := Option.map_eq_some_iff.1 hRead
                cases hSame
                obtain ⟨rfl, rfl⟩ := of_split? hSplit
                obtain ⟨front, rfl, hHead⟩ := Sized.ext.head_of_read hForm hLength
                exact ⟨_, by simp, .ext kind hHead⟩
          · cases hRead
      | array length =>
          rw [hForm] at hRead
          simp only at hRead
          split at hRead
          · next readOne n left hLength =>
            obtain ⟨depth, rfl, hTakes⟩ := hInner readOne rfl
            obtain ⟨⟨values, last⟩, hMany, hSame⟩ := Option.map_eq_some_iff.1 hRead
            cases hSame
            obtain ⟨items, rfl, rfl, rfl, hItems⟩ := hTakes.readMany hMany
            obtain ⟨front, rfl, hHead⟩ := Sized.array.head_of_read hForm hLength
            exact ⟨_, by simp, .array items hHead hItems⟩
          · cases hRead
      | map length =>
          rw [hForm] at hRead
          simp only at hRead
          split at hRead
          · next readOne n left hLength =>
            obtain ⟨depth, rfl, hTakes⟩ := hInner readOne rfl
            obtain ⟨⟨values, last⟩, hMany, hSame⟩ := Option.map_eq_some_iff.1 hRead
            cases hSame
            obtain ⟨entries, rfl, rfl, rfl, hKeys, hValues⟩ := hTakes.readEntries hMany
            obtain ⟨front, rfl, hHead⟩ := Sized.map.head_of_read hForm hLength
            exact ⟨_, by simp, .map entries hHead hKeys hValues⟩
          · cases hRead
      | reserved =>
          rw [hForm] at hRead
          cases hRead

theorem takesForms_readValue (nesting : Nat) : TakesForms nesting (readValue nesting) := by
  induction nesting with
  | zero => exact takesForms_readWith fun readOne hNone => by cases hNone
  | succ nesting ih =>
      refine takesForms_readWith fun readOne hSome => ?_
      cases hSome
      exact ⟨nesting, rfl, ih⟩

/-- The reader takes a value exactly from the forms of that value. -/
theorem readValue_eq_some_iff {nesting : Nat} {bytes rest : Bytes} {value : Value} :
    readValue nesting bytes = some (value, rest) ↔
      ∃ front, bytes = front ++ rest ∧ Stands nesting front value := by
  constructor
  · exact takesForms_readValue nesting bytes value rest
  · rintro ⟨front, rfl, hStands⟩
    exact hStands.reads rest

end ConfigExchange.MessagePack
