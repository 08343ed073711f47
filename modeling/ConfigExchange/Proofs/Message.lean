import ConfigExchange.Message.Decoding
import ConfigExchange.Message.Encoding
import ConfigExchange.Proofs.Body

/-! Messages are read back. Each part of a message is written as bytes that the matching step of the
decoder takes for that part, wherever they stand, and a message is its parts one after the other. -/
namespace ConfigExchange

namespace Decoder

variable {α β : Type}

/-- A decoder takes `bytes` for `value`, wherever they stand, and leaves whatever follows them. -/
def Reads (decoder : Decoder α) (bytes : Bytes) (value : α) : Prop :=
  ∀ position rest, decoder ⟨position, bytes ++ rest⟩ = .ok value ⟨position + bytes.length, rest⟩

/-- A decoder that comes to an end gives its value to what goes on from there. -/
theorem bind_of_ok {first : Decoder α} {cursor final : Cursor} {value : α}
    (hFirst : first cursor = .ok value final) (next : α → Decoder β) :
    (first >>= next) cursor = next value final := by
  show EStateM.bind first next cursor = _
  rw [EStateM.bind, hFirst]

/-- A decoder that fails goes no further. -/
theorem bind_of_error {first : Decoder α} {cursor final : Cursor} {error : DecodeError}
    (hFirst : first cursor = .error error final) (next : α → Decoder β) :
    (first >>= next) cursor = .error error final := by
  show EStateM.bind first next cursor = _
  rw [EStateM.bind, hFirst]

theorem reads_pure (value : α) : Reads (pure value) [] value := fun _ _ => rfl

/-- What comes after a read goes on behind the bytes that were read. -/
theorem Reads.bind_apply {first : Decoder α} {front : Bytes} {value : α}
    (hFirst : Reads first front value) (next : α → Decoder β) (position : Nat) (rest : Bytes) :
    (first >>= next) ⟨position, front ++ rest⟩ = next value ⟨position + front.length, rest⟩ := by
  exact bind_of_ok (hFirst position rest) next

theorem Reads.bind {first : Decoder α} {next : α → Decoder β} {front back : Bytes} {value : α}
    {result : β} (hFirst : Reads first front value) (hNext : Reads (next value) back result) :
    Reads (first >>= next) (front ++ back) result := by
  intro position rest
  rw [List.append_assoc, hFirst.bind_apply next, hNext, List.length_append, Nat.add_assoc]

/-- A value that is computed from what was read. -/
theorem Reads.map {first : Decoder α} {bytes : Bytes} {value : α} (hFirst : Reads first bytes value)
    (f : α → β) : Reads (do return f (← first)) bytes (f value) := by
  intro position rest
  exact hFirst.bind_apply (fun value => pure (f value)) position rest

theorem run_of_ok {decoder : Decoder α} {bytes : Bytes} {value : α} {final : Cursor}
    (h : decoder (Cursor.start bytes) = .ok value final) : decoder.run bytes = .ok value := by
  rw [run, EStateM.run, h]

theorem run_of_error {decoder : Decoder α} {bytes : Bytes} {error : DecodeError} {final : Cursor}
    (h : decoder (Cursor.start bytes) = .error error final) : decoder.run bytes = .error error := by
  rw [run, EStateM.run, h]

end Decoder

open Decoder

namespace Cursor

theorem reads_take (bytes : Bytes) : Reads (take bytes.length) bytes bytes := by
  intro position rest
  simp [take]

theorem reads_number (width : Nat) {n : Nat} (h : n < byteRange width) :
    Reads (number width) (bigEndian width n) n := by
  have hTake := reads_take (bigEndian width n)
  rw [length_bigEndian] at hTake
  have hRead := hTake.map ofBigEndian
  rw [ofBigEndian_bigEndian h] at hRead
  exact hRead

theorem reads_byte (n : UInt8) : Reads byte (bigEndian 1 n.toNat) n := by
  have hRead := (reads_number 1 n.toNat_lt).map UInt8.ofNat
  rw [UInt8.ofNat_toNat] at hRead
  exact hRead

theorem reads_half (n : UInt16) : Reads half (bigEndian 2 n.toNat) n := by
  have hRead := (reads_number 2 n.toNat_lt).map UInt16.ofNat
  rw [UInt16.ofNat_toNat] at hRead
  exact hRead

theorem reads_word (n : UInt32) : Reads word (bigEndian 4 n.toNat) n := by
  have hRead := (reads_number 4 n.toNat_lt).map UInt32.ofNat
  rw [UInt32.ofNat_toNat] at hRead
  exact hRead

theorem reads_ofExcept {α : Type} (value : α) : Reads (ofExcept (.ok value)) [] value :=
  reads_pure value

theorem reads_length {version : Version} {n : Nat} (h : n ≤ version.maxLength) :
    Reads (length version) (bigEndian version.lengthWidth n) n := by
  have hPos : 0 < byteRange version.lengthWidth := Nat.pow_pos (by decide)
  unfold Version.maxLength at h
  exact reads_number version.lengthWidth (by omega)

end Cursor

/-! ### Parts -/

/-- The bytes of a part. -/
def Part.bytes (version : Version) (part : Part) : Bytes := (part.appends version).flatten

/-- An encoding that came to its end is that of parts all of which fit, one after the other. -/
theorem Encoding.result_ofParts {version : Version} {parts : List Part} {bytes : Bytes}
    (h : (ofParts version parts).result = .ok bytes) :
    (∀ part ∈ parts, part.error? version = none) ∧ bytes = parts.flatMap (Part.bytes version) := by
  unfold result at h
  split at h
  · cases h
  · next hError =>
    have hFit : ∀ part ∈ parts, part.error? version = none := List.findSome?_eq_none_iff.1 hError
    refine ⟨hFit, ?_⟩
    have hAll : (parts.takeWhile fun part => (part.error? version).isNone) = parts := by
      rw [← List.append_nil parts, List.takeWhile_append_of_pos, List.takeWhile_nil]
      intro part hPart
      rw [hFit part hPart]
      rfl
    cases h
    show (List.flatMap (Part.appends version) _).flatten = _
    rw [hAll, List.flatMap, List.flatten_flatten, List.map_map]
    rfl

/-- A part that fits has a length that fits. -/
theorem Part.length_le {version : Version} {part : Part} {field : Field} {n : Nat}
    (hFit : part.error? version = none) (hLength : part.length? = some (field, n)) :
    n ≤ version.maxLength := by
  rw [error?, hLength] at hFit
  exact Decidable.byContradiction fun hLong => by simp [hLong] at hFit

theorem Part.bytes_count (version : Version) (field : Field) (n : Nat) :
    (count field n).bytes version = bigEndian version.lengthWidth n :=
  List.append_nil _

theorem Part.bytes_counted (version : Version) (field : Field) (bytes : Bytes) :
    (counted field bytes).bytes version = bigEndian version.lengthWidth bytes.length ++ bytes := by
  simp [Part.bytes, appends]

theorem Part.bytes_number (version : Version) (width n : Nat) :
    (number width n).bytes version = bigEndian width n :=
  List.append_nil _

namespace Cursor

variable {version : Version}

theorem reads_counted (field : Field) {bytes : Bytes} (h : bytes.length ≤ version.maxLength) :
    Reads (counted version) ((Part.counted field bytes).bytes version) bytes := by
  rw [Part.bytes_counted]
  exact (reads_length h).bind (reads_take bytes)

theorem reads_text (field : Field) {text : String}
    (h : (Part.counted field (Text.utf8 text)).error? version = none) :
    Reads (Cursor.text version) ((Part.counted field (Text.utf8 text)).bytes version) text := by
  intro position rest
  have hCounted := reads_counted field (Part.length_le h rfl)
  rw [Cursor.text, hCounted.bind_apply, Text.ofUtf8?_utf8]
  rfl

/-- Texts are read in order, and kept the other way round. -/
theorem reads_texts (field : Field) {names : List String}
    (h : ∀ name ∈ names, (Part.counted field (Text.utf8 name)).error? version = none)
    (read : List String) :
    Reads (texts version names.length read)
      (names.flatMap fun name => (Part.counted field (Text.utf8 name)).bytes version)
      (names.reverse ++ read) := by
  induction names generalizing read with
  | nil => exact reads_pure read
  | cons first rest ih =>
      have hRest := ih (fun name hName => h name (List.mem_cons_of_mem _ hName)) (first :: read)
      rw [List.reverse_cons, List.append_assoc]
      exact (reads_text field (h first List.mem_cons_self)).bind hRest

end Cursor

/-! ### Bodies -/

namespace Message

/-- A message whose snapshot, if it carries one, is one that comes about. -/
def Obtainable (message : Message) : Prop :=
  ∀ processor snapshot, message = configurationResponse processor (.ready snapshot) →
    snapshot.Obtainable

variable {version : Version}

theorem maxLength_lt (version : Version) : version.maxLength < 0x100000000 := by
  cases version <;> decide

theorem reads_groups (groups : NameSet)
    (hCount : (Part.count .groupCount groups.size).error? version = none)
    (hNames : ∀ name ∈ groups.names,
      (Part.counted .groupName (Text.utf8 name)).error? version = none) :
    Reads (groupsDecoder version)
      ((Part.count .groupCount groups.size).bytes version ++
        groups.names.flatMap fun name => (Part.counted .groupName (Text.utf8 name)).bytes version)
      groups := by
  have hSize : groups.names.length = groups.size := List.length_map _
  have hSet : NameSet.ofList (groups.names.reverse ++ []) = groups := by
    apply NameMap.ofList_of_perm
    rw [List.append_nil, List.map_reverse, NameMap.names, List.map_map]
    have hEntries : groups.entries.map ((fun name => (name, ())) ∘ (·.1)) = groups.entries := by
      simp [Function.comp_def]
    rw [hEntries]
    exact List.reverse_perm groups.entries
  have hLength := Cursor.reads_length (Part.length_le hCount rfl)
  have hTexts := (Cursor.reads_texts .groupName hNames []).map NameSet.ofList
  rw [hSet, hSize] at hTexts
  rw [Part.bytes_count]
  exact hLength.bind hTexts

/-- The outcome of a request is read back, if its parts fit. A snapshot whose body is short enough
for the length field of the message is also short enough for the heads inside the body. -/
theorem reads_outcome {outcome : Outcome}
    (hOutcome : ∀ snapshot, outcome = .ready snapshot → snapshot.Obtainable)
    (hFit : ∀ part ∈ outcome.parts, part.error? version = none) :
    Reads (Outcome.decoder version) (outcome.parts.flatMap (Part.bytes version)) outcome := by
  cases outcome with
  | ready snapshot =>
      have hLength := Part.length_le
        (hFit (.counted .snapshot snapshot.toBody) (by simp [Outcome.parts])) rfl
      have hBody := Snapshot.ofBody_toBody (hOutcome snapshot rfl)
        (Nat.lt_of_le_of_lt hLength (maxLength_lt version))
      have hSnapshot := (Cursor.reads_ofExcept snapshot).map Outcome.ready
      rw [← hBody] at hSnapshot
      refine Reads.bind (Cursor.reads_byte 0) ?_
      rw [if_pos rfl]
      exact (Cursor.reads_counted .snapshot hLength).bind hSnapshot
  | notReady =>
      refine Reads.bind (Cursor.reads_byte 1) ?_
      rw [if_neg (by decide), if_pos rfl]
      exact reads_pure Outcome.notReady
  | fatal reason =>
      have hText := Cursor.reads_text .fatalReason
        (hFit (.counted .fatalReason (Text.utf8 reason)) (by simp [Outcome.parts]))
      rw [Outcome.parts, List.flatMap_cons, List.flatMap_singleton]
      refine Reads.bind (Cursor.reads_byte 2) ?_
      rw [if_neg (by decide), if_neg (by decide), if_pos rfl]
      exact hText.map Outcome.fatal
  | failed fault =>
      have hText := Cursor.reads_text .fault
        (hFit (.counted .fault (Text.utf8 fault)) (by simp [Outcome.parts]))
      rw [Outcome.parts, List.flatMap_cons, List.flatMap_singleton]
      refine Reads.bind (Cursor.reads_byte 3) ?_
      rw [if_neg (by decide), if_neg (by decide), if_neg (by decide), if_pos rfl]
      exact hText.map Outcome.failed

/-- What follows the kind of a message is read back, if its parts fit. -/
theorem reads_body {message : Message} (hMessage : message.Obtainable)
    (hFit : ∀ part ∈ message.bodyParts, part.error? version = none) :
    Reads (bodyDecoder version message.kind) (message.bodyParts.flatMap (Part.bytes version))
      message := by
  cases message with
  | versionRequest ordinal =>
      rw [bodyParts, List.flatMap_singleton]
      exact (Cursor.reads_half ordinal).map versionRequest
  | versionResponse ordinal =>
      rw [bodyParts, List.flatMap_singleton]
      exact (Cursor.reads_half ordinal).map versionResponse
  | configurationRequest processor groups =>
      have hGroups := reads_groups groups (hFit _ (by simp [bodyParts]))
        fun name hName => hFit _ (by simpa [bodyParts] using ⟨name, hName, rfl⟩)
      rw [bodyParts, List.flatMap_cons, List.flatMap_cons, List.flatMap_map]
      exact (Cursor.reads_word processor).bind (hGroups.map (configurationRequest processor))
  | configurationResponse processor outcome =>
      have hOutcome := reads_outcome
        (fun snapshot hReady => hMessage processor snapshot (by rw [hReady]))
        fun part hPart => hFit part (List.mem_cons_of_mem _ hPart)
      rw [bodyParts, List.flatMap_cons]
      exact (Cursor.reads_word processor).bind (hOutcome.map (configurationResponse processor))
  | reply processor fault =>
      cases fault with
      | none =>
          have hFault : Reads (faultDecoder version) ((Part.number 1 0).bytes version) none := by
            refine Reads.bind (Cursor.reads_byte 0) ?_
            rw [if_pos rfl]
            exact reads_pure none
          rw [bodyParts, List.flatMap_cons, List.flatMap_singleton]
          exact (Cursor.reads_word processor).bind (hFault.map (reply processor))
      | some fault =>
          have hText := Cursor.reads_text .fault
            (hFit (.counted .fault (Text.utf8 fault)) (by simp [bodyParts]))
          have hFault : Reads (faultDecoder version) ((Part.number 1 1).bytes version ++
              (Part.counted .fault (Text.utf8 fault)).bytes version) (some fault) := by
            refine Reads.bind (Cursor.reads_byte 1) ?_
            rw [if_neg (by decide), if_pos rfl]
            exact hText.map some
          rw [bodyParts, List.flatMap_cons, List.flatMap_cons, List.flatMap_singleton]
          exact (Cursor.reads_word processor).bind (hFault.map (reply processor))

/-! ### Whole messages -/

theorem ofCode_code (kind : MessageKind) : MessageKind.ofCode kind.code = .ok kind := by
  cases kind <;> rfl

theorem ofOrdinal_ordinal (version : Version) : Version.ofOrdinal version.ordinal = .ok version := by
  rw [Version.ofOrdinal, Version.ofOrdinal?_ordinal]

/-- A message begins with its version. -/
theorem reads_version (version : Version) :
    Reads versionDecoder ((Part.number 2 version.ordinal.toNat).bytes version) version := by
  refine Reads.bind (Cursor.reads_half version.ordinal) ?_
  rw [ofOrdinal_ordinal]
  exact Cursor.reads_ofExcept version

/-- Behind its version, a message is read up to its end. -/
theorem tailDecoder_apply {message : Message} (hMessage : message.Obtainable)
    (hFit : ∀ part ∈ message.bodyParts, part.error? version = none) (position : Nat) :
    ∃ final, tailDecoder version ⟨position, (Part.number 1 message.kind.code.toNat).bytes version ++
      message.bodyParts.flatMap (Part.bytes version)⟩ = .ok message final := by
  have hKind : ∀ next : MessageKind → Decoder Message,
      (do next (← Cursor.ofExcept (MessageKind.ofCode message.kind.code))) = next message.kind := by
    intro next
    rw [ofCode_code]
    exact pure_bind message.kind next
  rw [tailDecoder, Part.bytes_number, (Cursor.reads_byte _).bind_apply, hKind,
    ← List.append_nil (List.flatMap _ _), (reads_body hMessage hFit).bind_apply]
  exact ⟨_, rfl⟩

/-- A message that was written is read back at its version, and as one of that version. At another
version it is refused, and both versions are named. -/
theorem decode_encode {message : Message} (hMessage : message.Obtainable) {bytes : Bytes}
    (hEncode : encode version message = .ok bytes) :
    decode version bytes = .ok message ∧ decodeAny bytes = .ok (version, message) ∧
      ∀ other, other ≠ version → decode other bytes = .error (.versionMismatch other version) := by
  obtain ⟨hFit, rfl⟩ := Encoding.result_ofParts hEncode
  rw [parts, List.flatMap_cons, List.flatMap_cons]
  obtain ⟨final, hTail⟩ := tailDecoder_apply hMessage
    (fun part hPart => hFit part (List.mem_cons_of_mem _ (List.mem_cons_of_mem _ hPart)))
    (0 + ((Part.number 2 version.ordinal.toNat).bytes version).length)
  refine ⟨?_, ?_, fun other hOther => ?_⟩
  · apply Decoder.run_of_ok
    rw [Cursor.start, (reads_version version).bind_apply, if_neg fun hNe => hNe rfl]
    exact hTail
  · apply Decoder.run_of_ok
    rw [Cursor.start, (reads_version version).bind_apply]
    exact bind_of_ok hTail _
  · apply Decoder.run_of_error
    rw [Cursor.start, (reads_version version).bind_apply, if_pos hOther.symm]
    rfl

/-- A response that carries a group with a file and a limit. -/
theorem decode_encode_ready :
    let groups : GroupMap := NameMap.insert ∅ "web"
      { name := "web", jars := NameMap.insert ∅ "a.jar" (), logFileSizeLimit := some 1000 }
    let message := configurationResponse 7 (.ready ⟨3, groups⟩)
    message.Obtainable ∧ ∃ bytes, encode .v2 message = .ok bytes ∧
      decode .v2 bytes = .ok message ∧ decodeAny bytes = .ok (.v2, message) ∧
      ∀ other, other ≠ .v2 → decode other bytes = .error (.versionMismatch other .v2) := by
  intro groups message
  have hMessage : message.Obtainable := by
    intro processor snapshot hReady
    simp only [message, configurationResponse.injEq, Outcome.ready.injEq] at hReady
    rw [← hReady.2]
    exact Snapshot.obtainable_of_keyed (GroupMap.keyed_empty.insert rfl)
  have hEncode : ∃ bytes, encode .v2 message = .ok bytes := ⟨_, rfl⟩
  obtain ⟨bytes, hBytes⟩ := hEncode
  exact ⟨hMessage, bytes, hBytes, decode_encode hMessage hBytes⟩

end Message

end ConfigExchange
