import ConfigExchange.Proofs.Message

/-! The lengths in a message. A message is written unless one of its lengths does not fit, and a
wider version makes it longer only by the bytes of its length fields. -/
namespace ConfigExchange

/-! ### Parts -/

namespace Part

/-- The error of a length that does not fit. -/
def lengthError? (version : Version) (length : Field × Nat) : Option EncodeError :=
  if length.2 ≤ version.maxLength then none else some (.fieldTooLong length.1 length.2 version)

theorem lengthError?_eq_none {version : Version} {length : Field × Nat} :
    lengthError? version length = none ↔ length.2 ≤ version.maxLength := by
  simp [lengthError?]

theorem lengthError?_eq_some {version : Version} {length : Field × Nat} {error : EncodeError} :
    lengthError? version length = some error ↔
      version.maxLength < length.2 ∧ error = .fieldTooLong length.1 length.2 version := by
  rw [lengthError?]
  split
  · next hFits => simp [Nat.not_lt.2 hFits]
  · next hLong => simp [Nat.not_le.1 hLong, eq_comm]

theorem error?_eq_bind (version : Version) (part : Part) :
    part.error? version = part.length?.bind (lengthError? version) := by
  cases part with
  | number width n => rfl
  | count field n => rfl
  | counted field bytes => rfl

/-- Parts fail to fit as the first of their lengths does. -/
theorem findSome?_error? (version : Version) (parts : List Part) :
    parts.findSome? (Part.error? version) =
      (parts.filterMap Part.length?).findSome? (lengthError? version) := by
  induction parts with
  | nil => rfl
  | cons part rest ih =>
      rw [List.findSome?_cons, List.filterMap_cons, error?_eq_bind]
      cases part.length? with
      | none => exact ih
      | some length =>
          rw [List.findSome?_cons, Option.bind_some]
          cases lengthError? version length with
          | none => exact ih
          | some error => rfl

/-- Length fields are wider at the newer version, and nothing else is. -/
theorem length_bytes_v2 (part : Part) : (part.bytes .v2).length =
    (part.bytes .v1).length + 2 * part.length?.toList.length := by
  cases part with
  | number width n => rfl
  | count field n =>
      rw [bytes_count, bytes_count, length_bigEndian, length_bigEndian]
      rfl
  | counted field bytes =>
      simp only [bytes_counted, List.length_append, length_bigEndian, Version.lengthWidth, length?,
        Option.toList_some, List.length_singleton]
      omega

theorem length_flatMap_bytes_v2 (parts : List Part) : (parts.flatMap (Part.bytes .v2)).length =
    (parts.flatMap (Part.bytes .v1)).length + 2 * (parts.filterMap Part.length?).length := by
  induction parts with
  | nil => rfl
  | cons part rest ih =>
      have hFirst := part.length_bytes_v2
      rw [List.flatMap_cons, List.flatMap_cons, List.length_append, List.length_append, ih,
        List.filterMap_cons]
      cases hLength : part.length? with
      | none =>
          rw [hLength] at hFirst
          simp only [Option.toList_none, List.length_nil] at hFirst ⊢
          omega
      | some length =>
          rw [hLength] at hFirst
          rw [Option.toList_some, List.length_singleton] at hFirst
          rw [List.length_cons]
          omega

end Part

/-! ### Messages -/

namespace Message

/-- The lengths in a message, in the order of the wire. -/
def lengths : Message → List (Field × Nat)
  | versionRequest _ | versionResponse _ | configurationResponse _ .notReady | reply _ none => []
  | configurationRequest _ groups => (.groupCount, groups.size) ::
      groups.names.map fun name => (.groupName, (Text.utf8 name).length)
  | configurationResponse _ (.ready snapshot) => [(.snapshot, snapshot.toBody.length)]
  | configurationResponse _ (.fatal reason) => [(.fatalReason, (Text.utf8 reason).length)]
  | configurationResponse _ (.failed fault) | reply _ (some fault) =>
      [(.fault, (Text.utf8 fault).length)]

theorem filterMap_bodyParts (message : Message) :
    message.bodyParts.filterMap Part.length? = message.lengths := by
  cases message with
  | versionRequest ordinal | versionResponse ordinal => rfl
  | configurationRequest processor groups =>
      rw [bodyParts, lengths, List.filterMap_cons, List.filterMap_cons, List.filterMap_map]
      exact congrArg (List.cons _) (congrFun List.filterMap_eq_map groups.names)
  | configurationResponse processor outcome => cases outcome <;> rfl
  | reply processor fault => cases fault <;> rfl

theorem encoding_error (version : Version) (message : Message) :
    (message.encoding version).error = message.lengths.findSome? (Part.lengthError? version) := by
  rw [encoding, Encoding.ofParts, Part.findSome?_error?, ← filterMap_bodyParts]
  rfl

theorem encode_eq_error {version : Version} {message : Message} {error : EncodeError} :
    encode version message = .error error ↔
      message.lengths.findSome? (Part.lengthError? version) = some error := by
  rw [← encoding_error, encode, Encoding.result]
  cases (message.encoding version).error with
  | none => simp
  | some found => simp

theorem encode_eq_ok {version : Version} {message : Message} :
    (∃ bytes, encode version message = .ok bytes) ↔
      ∀ length ∈ message.lengths, length.2 ≤ version.maxLength := by
  have hFits : (∀ length ∈ message.lengths, length.2 ≤ version.maxLength) ↔
      (message.encoding version).error = none := by
    rw [encoding_error, List.findSome?_eq_none_iff]
    exact forall₂_congr fun length _ => Part.lengthError?_eq_none.symm
  rw [hFits, encode, Encoding.result]
  cases (message.encoding version).error with
  | none => simp
  | some found => simp

/-- A message is as long at the newer version as at the older one, but for its length fields. -/
theorem length_encode_v2 {message : Message} {bytes wider : Bytes}
    (hBytes : encode .v1 message = .ok bytes) (hWider : encode .v2 message = .ok wider) :
    wider.length = bytes.length + 2 * message.lengths.length := by
  obtain ⟨-, rfl⟩ := Encoding.result_ofParts hBytes
  obtain ⟨-, rfl⟩ := Encoding.result_ofParts hWider
  rw [← filterMap_bodyParts, parts, parts]
  simp only [List.flatMap_cons, List.length_append, Part.bytes_number, length_bigEndian,
    Part.length_flatMap_bytes_v2]
  omega

/-- The number of length fields of a message. -/
def prefixCount : Message → Nat
  | configurationRequest _ groups => 1 + groups.size
  | configurationResponse _ outcome => if outcome = .notReady then 0 else 1
  | reply _ fault => if fault = none then 0 else 1
  | versionRequest _ | versionResponse _ => 0

theorem length_lengths (message : Message) : message.lengths.length = message.prefixCount := by
  cases message with
  | versionRequest ordinal | versionResponse ordinal => rfl
  | configurationRequest processor groups =>
      simp [lengths, prefixCount, NameMap.names, NameMap.size, Nat.add_comm]
  | configurationResponse processor outcome => cases outcome <;> rfl
  | reply processor fault => cases fault <;> rfl

theorem encode_eq_error_iff {version : Version} {message : Message} {error : EncodeError} :
    encode version message = .error error ↔
      ∃ earlier field n later, message.lengths = earlier ++ (field, n) :: later ∧
        (∀ length ∈ earlier, length.2 ≤ version.maxLength) ∧ version.maxLength < n ∧
        error = .fieldTooLong field n version := by
  rw [encode_eq_error, List.findSome?_eq_some_iff]
  constructor
  · rintro ⟨earlier, ⟨field, n⟩, later, hLengths, hError, hEarlier⟩
    obtain ⟨hLong, rfl⟩ := Part.lengthError?_eq_some.1 hError
    exact ⟨earlier, field, n, later, hLengths,
      fun length hLength => Part.lengthError?_eq_none.1 (hEarlier length hLength), hLong, rfl⟩
  · rintro ⟨earlier, field, n, later, hLengths, hEarlier, hLong, rfl⟩
    exact ⟨earlier, (field, n), later, hLengths, Part.lengthError?_eq_some.2 ⟨hLong, rfl⟩,
      fun length hLength => Part.lengthError?_eq_none.2 (hEarlier length hLength)⟩

/-- What fits at the older version fits at the newer one. -/
theorem encode_v2_of_v1 {message : Message} {bytes : Bytes}
    (hBytes : encode .v1 message = .ok bytes) : ∃ wider, encode .v2 message = .ok wider := by
  have hFits := encode_eq_ok.1 ⟨bytes, hBytes⟩
  have hLe : Version.v1.maxLength ≤ Version.v2.maxLength := by decide
  exact encode_eq_ok.2 fun length hLength => Nat.le_trans (hFits length hLength) hLe

/-- A message is refused exactly if one of its lengths is over the limit of the version, and the
first such length is named. What the older version writes the newer one writes as well, with two
more bytes for every length. -/
theorem encode_limits (message : Message) :
    Version.v1.maxLength = 65535 ∧ Version.v2.maxLength = 4294967295 ∧
    (∀ processor groups, message = configurationRequest processor groups →
      groups.names.Pairwise Text.Before) ∧
    (∀ version, (∃ error, encode version message = .error error) ↔
      ∃ length ∈ message.lengths, version.maxLength < length.2) ∧
    (∀ version error, encode version message = .error error ↔
      ∃ earlier field n later, message.lengths = earlier ++ (field, n) :: later ∧
        (∀ length ∈ earlier, length.2 ≤ version.maxLength) ∧ version.maxLength < n ∧
        error = .fieldTooLong field n version ∧
        error.message = field.text ++ " is " ++ toString n ++ " bytes which exceeds the " ++
          toString version.maxLength ++ " byte limit of protocol " ++ version.text) ∧
    ∀ bytes, encode .v1 message = .ok bytes → ∃ wider, encode .v2 message = .ok wider ∧
      wider.length = bytes.length + 2 * message.prefixCount := by
  refine ⟨by decide, by decide, fun processor groups _ => groups.pairwise_names, fun version => ?_,
    fun version error => ?_, fun bytes hBytes => ?_⟩
  · constructor
    · rintro ⟨error, hError⟩
      obtain ⟨earlier, field, n, later, hLengths, -, hLong, -⟩ := encode_eq_error_iff.1 hError
      exact ⟨(field, n), by simp [hLengths], hLong⟩
    · rintro ⟨length, hLength, hLong⟩
      cases hWritten : encode version message with
      | error error => exact ⟨error, rfl⟩
      | ok bytes =>
          exact absurd (encode_eq_ok.1 ⟨bytes, hWritten⟩ length hLength) (Nat.not_le.2 hLong)
  · rw [encode_eq_error_iff]
    refine exists_congr fun earlier => exists_congr fun field => exists_congr fun n =>
      exists_congr fun later => and_congr_right fun _ => and_congr_right fun _ =>
        and_congr_right fun _ => ?_
    refine (and_iff_left_of_imp ?_).symm
    rintro rfl
    rfl
  · obtain ⟨wider, hWider⟩ := encode_v2_of_v1 hBytes
    exact ⟨wider, hWider, message.length_lengths ▸ length_encode_v2 hBytes hWider⟩

/-- One name has two lengths, which take four bytes more. -/
theorem encode_limits_one_name :
    let message := configurationRequest 1 (NameMap.insert ∅ "g" ())
    ∃ narrow wider, encode .v1 message = .ok narrow ∧ encode .v2 message = .ok wider ∧
      wider.length = narrow.length + 4 := by
  intro message
  have hFits : ∃ narrow, encode .v1 message = .ok narrow := ⟨_, rfl⟩
  obtain ⟨narrow, hNarrow⟩ := hFits
  obtain ⟨-, -, -, -, -, hWider⟩ := encode_limits message
  obtain ⟨wider, hEncode, hLength⟩ := hWider narrow hNarrow
  exact ⟨narrow, wider, hNarrow, hEncode, hLength⟩

end Message

end ConfigExchange
