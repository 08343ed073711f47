import ConfigExchange.Proofs.Message.Grammar
import Mathlib.Data.List.Perm.Subperm

/-! Writing what was read. Whatever bytes a message was read from, it is written as no more of them;
and as the same ones, unless it is a request that lists its names out of order. -/
namespace ConfigExchange

open Decoder Grammar

variable {version : Version}

/-! ### Parts and forms -/

/-- The bytes that parts are written as, if all of them fit. -/
inductive Part.Written (version : Version) : List Part → Bytes → Prop where
  | nil : Written version [] []
  | number (width n : Nat) {parts : List Part} {bytes : Bytes}
      (hRest : Written version parts bytes) :
      Written version (.number width n :: parts) (bigEndian width n ++ bytes)
  | count (field : Field) {n : Nat} (hFits : n ≤ version.maxLength) {parts : List Part}
      {bytes : Bytes} (hRest : Written version parts bytes) :
      Written version (.count field n :: parts) (bigEndian version.lengthWidth n ++ bytes)
  | counted (field : Field) {front content : Bytes} (hCounted : Counted version front content)
      {parts : List Part} {bytes : Bytes} (hRest : Written version parts bytes) :
      Written version (.counted field content :: parts) (front ++ bytes)

namespace Part.Written

variable {parts : List Part} {bytes : Bytes}

theorem tag (code : UInt8) (hRest : Written version parts bytes) :
    Written version (.number 1 code.toNat :: parts) (code :: bytes) := by
  have hTag : bigEndian 1 code.toNat = [code] := by simp [bigEndian, byteRange]
  have hAll := hRest.number 1 code.toNat
  rwa [hTag] at hAll

theorem last (field : Field) {content : Bytes} (hCounted : Counted version bytes content) :
    Written version [.counted field content] bytes := by
  have hAll := nil.counted field hCounted
  rwa [List.append_nil] at hAll

theorem fits (hWritten : Written version parts bytes) :
    ∀ part ∈ parts, part.error? version = none := by
  induction hWritten with
  | nil => exact nofun
  | number width n hRest ih => exact List.forall_mem_cons.2 ⟨rfl, ih⟩
  | count field hFits hRest ih => exact List.forall_mem_cons.2 ⟨if_pos hFits, ih⟩
  | counted field hCounted hRest ih =>
      obtain ⟨_, hFits⟩ := hCounted
      exact List.forall_mem_cons.2 ⟨if_pos hFits, ih⟩

theorem flatMap_bytes (hWritten : Written version parts bytes) :
    parts.flatMap (Part.bytes version) = bytes := by
  induction hWritten with
  | nil => rfl
  | number width n hRest ih => rw [List.flatMap_cons, ih, Part.bytes_number]
  | count field hFits hRest ih => rw [List.flatMap_cons, ih, Part.bytes_count]
  | counted field hCounted hRest ih =>
      obtain ⟨content, -⟩ := hCounted
      rw [List.flatMap_cons, ih, Part.bytes_counted]

theorem result (hWritten : Written version parts bytes) :
    (Encoding.ofParts version parts).result = .ok bytes := by
  have hError : (Encoding.ofParts version parts).error = none :=
    List.findSome?_eq_none_iff.2 hWritten.fits
  have hResult : (Encoding.ofParts version parts).result =
      .ok (Encoding.ofParts version parts).bytes := by
    rw [Encoding.result, hError]
  rw [hResult, (Encoding.result_ofParts hResult).2, hWritten.flatMap_bytes]

end Part.Written

namespace Message

open ConfigExchange.Part (Written)

/-- A message that carries a snapshot. -/
def CarriesSnapshot (message : Message) : Prop :=
  ∃ processor snapshot, message = configurationResponse processor (.ready snapshot)

/-- A message is written if its body is, behind its version and its kind. -/
theorem encode_of_written {message : Message} {bytes : Bytes}
    (hBody : Written version message.bodyParts bytes) :
    encode version message =
      .ok (bigEndian 2 version.ordinal.toNat ++ message.kind.code :: bytes) :=
  ((hBody.tag message.kind.code).number 2 version.ordinal.toNat).result

theorem written_texts {bytes : Bytes} {names : List String} (hTexts : Texts version bytes names) :
    Written version (names.map fun name => .counted .groupName (Text.utf8 name)) bytes := by
  induction hTexts with
  | nil => exact .nil
  | cons hFirst hRest ih => exact ih.counted .groupName hFirst

/-- What carries neither names nor a snapshot is written as it was read. -/
theorem written_body {kind : MessageKind} {bytes : Bytes} {message : Message}
    (hBody : BodyForm version kind bytes message) (hPlain : ¬ message.CarriesSnapshot)
    (hKind : kind ≠ .configurationRequest) :
    message.kind = kind ∧ Written version message.bodyParts bytes := by
  cases hBody with
  | versionRequest ordinal | versionResponse ordinal =>
      have hAll : Written version _ _ := Written.nil.number 2 ordinal.toNat
      rw [List.append_nil] at hAll
      exact ⟨rfl, hAll⟩
  | request => exact absurd rfl hKind
  | response processor hOutcome =>
      refine ⟨rfl, .number 4 processor.toNat ?_⟩
      cases hOutcome with
      | ready hCounted hSnapshot => exact absurd ⟨_, _, rfl⟩ hPlain
      | notReady => exact Written.nil.tag 1
      | fatal hReason => exact (Written.last .fatalReason hReason).tag 2
      | failed hFault => exact (Written.last .fault hFault).tag 3
  | reply processor hFault =>
      cases hFault with
      | none => exact ⟨rfl, .number 4 processor.toNat (Written.nil.tag 0)⟩
      | some hFault => exact ⟨rfl, .number 4 processor.toNat ((Written.last .fault hFault).tag 1)⟩

/-! ### Lists of names -/

theorem texts_of_sublist {bytes : Bytes} {names fewer : List String}
    (hTexts : Texts version bytes names) (hFewer : fewer.Sublist names) :
    ∃ shorter, Texts version shorter fewer ∧ shorter.length ≤ bytes.length := by
  induction hFewer generalizing bytes with
  | slnil => exact ⟨bytes, hTexts, Nat.le_refl _⟩
  | cons first hFewer ih =>
      cases hTexts with
      | cons hFirst hRest =>
          obtain ⟨shorter, hShorter, hLength⟩ := ih hRest
          refine ⟨shorter, hShorter, ?_⟩
          rw [List.length_append]
          omega
  | cons_cons first hFewer ih =>
      cases hTexts with
      | cons hFirst hRest =>
          obtain ⟨shorter, hShorter, hLength⟩ := ih hRest
          refine ⟨_, .cons hFirst hShorter, ?_⟩
          rw [List.length_append, List.length_append]
          omega

theorem texts_of_perm {bytes : Bytes} {names other : List String}
    (hTexts : Texts version bytes names) (hPerm : names.Perm other) :
    ∃ moved, Texts version moved other ∧ moved.length = bytes.length := by
  induction hPerm generalizing bytes with
  | nil => exact ⟨bytes, hTexts, rfl⟩
  | cons first hPerm ih =>
      cases hTexts with
      | cons hFirst hRest =>
          obtain ⟨moved, hMoved, hLength⟩ := ih hRest
          exact ⟨_, .cons hFirst hMoved, by rw [List.length_append, List.length_append, hLength]⟩
  | swap first second rest =>
      cases hTexts with
      | cons hSecond hTail =>
          cases hTail with
          | cons hFirst hRest =>
              refine ⟨_, .cons hFirst (.cons hSecond hRest), ?_⟩
              simp only [List.length_append]
              omega
  | trans hLeft hRight ihLeft ihRight =>
      obtain ⟨moved, hMoved, hLength⟩ := ihLeft hTexts
      obtain ⟨last, hLast, hLengthLast⟩ := ihRight hMoved
      exact ⟨last, hLast, hLengthLast.trans hLength⟩

/-- The names of a set are listed in no more bytes than any list of them. -/
theorem names_of_set {bytes : Bytes} {names : List String} {groups : NameSet}
    (hNames : Names version bytes names) (hGroups : ∀ name, name ∈ groups.names ↔ name ∈ names) :
    ∃ shortest, Names version shortest groups.names ∧ shortest.length ≤ bytes.length := by
  obtain ⟨hCount, hTexts⟩ := hNames
  obtain ⟨fewer, hPerm, hFewer⟩ := List.subperm_of_subset
    (NameSet.nodup_of_pairwise groups.pairwise_names) fun name hName => (hGroups name).1 hName
  obtain ⟨shorter, hShorter, hLess⟩ := texts_of_sublist hTexts hFewer
  obtain ⟨moved, hMoved, hLength⟩ := texts_of_perm hShorter hPerm
  have hLe : groups.names.length ≤ names.length := hPerm.length_eq ▸ hFewer.length_le
  refine ⟨_, ⟨Nat.le_trans hLe hCount, hMoved⟩, ?_⟩
  rw [List.length_append, List.length_append, length_bigEndian, length_bigEndian]
  omega

/-- Bytes list no other names than those they list. -/
theorem names_unique {bytes : Bytes} {names other : List String}
    (hNames : Names version bytes names) (hOther : Names version bytes other) : names = other := by
  have hReverse : names.reverse = other.reverse :=
    parses_names.unique (by rwa [List.reverse_reverse]) (by rwa [List.reverse_reverse])
  exact List.reverse_injective hReverse

/-- Names are listed as no other bytes than those that list them. -/
theorem bytes_unique {bytes other : Bytes} {names : List String}
    (hNames : Names version bytes names) (hOther : Names version other names) : bytes = other := by
  obtain ⟨-, hTexts⟩ := hNames
  obtain ⟨-, hMore⟩ := hOther
  rw [← (written_texts hTexts).flatMap_bytes, ← (written_texts hMore).flatMap_bytes]

theorem written_names {bytes : Bytes} {groups : NameSet} (hNames : Names version bytes groups.names)
    (processor : UInt32) :
    Written version (configurationRequest processor groups).bodyParts
      (bigEndian 4 processor.toNat ++ bytes) := by
  obtain ⟨hCount, hTexts⟩ := hNames
  have hSize : groups.names.length = groups.size := List.length_map _
  rw [hSize] at hCount ⊢
  exact ((written_texts hTexts).count .groupCount hCount).number 4 processor.toNat

/-! ### Writing -/

/-- The names that a request lists. -/
inductive Lists (version : Version) : Bytes → List String → Prop where
  | mk (processor : UInt32) {bytes : Bytes} {names : List String}
      (hNames : Names version bytes names) :
      Lists version (bigEndian 2 version.ordinal.toNat ++ MessageKind.configurationRequest.code ::
        (bigEndian 4 processor.toNat ++ bytes)) names

/-- What lists names is a request. -/
theorem message_of_lists {bytes : Bytes} {names : List String}
    (hLists : Lists version bytes names) :
    ∃ processor,
      MessageForm version bytes (configurationRequest processor (NameSet.ofList names)) := by
  obtain ⟨processor, hNames⟩ := hLists
  exact ⟨processor, .mk (.mk (.request processor hNames (NameSet.mem_names_ofList names)))⟩

/-- A request lists the names that its body lists. -/
theorem names_of_lists {listed : Bytes} {names : List String} {processor : UInt32}
    (hLists : Lists version (bigEndian 2 version.ordinal.toNat ++
      MessageKind.configurationRequest.code :: (bigEndian 4 processor.toNat ++ listed)) names) :
    Names version listed names := by
  generalize hBytes : bigEndian 2 version.ordinal.toNat ++
    MessageKind.configurationRequest.code :: (bigEndian 4 processor.toNat ++ listed) = bytes at hLists
  cases hLists with
  | mk found hNames =>
      rw [List.append_cancel_left_eq, List.cons_inj_right] at hBytes
      obtain ⟨-, rfl⟩ := List.append_inj hBytes (by simp)
      exact hNames

/-- A request is written as the bytes it was read from exactly if those list its names in order. -/
theorem encode_of_request {bytes : Bytes} {names : List String} {groups : NameSet}
    (hNames : Names version bytes names) (hGroups : ∀ name, name ∈ groups.names ↔ name ∈ names)
    (processor : UInt32) :
    ∃ shortest, encode version (configurationRequest processor groups) =
        .ok (bigEndian 2 version.ordinal.toNat ++ MessageKind.configurationRequest.code ::
          (bigEndian 4 processor.toNat ++ shortest)) ∧
      shortest.length ≤ bytes.length ∧ (shortest = bytes ↔ names.Pairwise Text.Before) := by
  obtain ⟨shortest, hShortest, hLength⟩ := names_of_set hNames hGroups
  refine ⟨shortest, encode_of_written (written_names hShortest processor), hLength, ?_⟩
  constructor
  · rintro rfl
    rw [names_unique hNames hShortest]
    exact groups.pairwise_names
  · intro hOrder
    rw [NameSet.names_eq_of_pairwise hOrder hGroups] at hShortest
    exact bytes_unique hShortest hNames

/-- The bytes that are accepted as a message are those of its form. Unless the message carries a
snapshot, it is written again, as no more bytes; and as the same ones exactly if they are not a
request that lists its names out of order. -/
theorem decode_eq_ok_iff (version : Version) (bytes : Bytes) (message : Message) :
    (decode version bytes = .ok message ↔ MessageForm version bytes message) ∧
      (decode version bytes = .ok message → ¬ message.CarriesSnapshot →
        ∃ written, encode version message = .ok written ∧ written.length ≤ bytes.length ∧
          (written = bytes ↔ ∀ names, Lists version bytes names → names.Pairwise Text.Before)) := by
  have hAccepts : ∀ {message},
      decode version bytes = .ok message ↔ MessageForm version bytes message := by
    intro message
    rw [decode_eq_run]
    exact parses_message.run_whole_iff
  refine ⟨hAccepts, fun hMessage hPlain => ?_⟩
  obtain ⟨@⟨kind, body, _, hBody⟩⟩ := hAccepts.1 hMessage
  by_cases hKind : kind = .configurationRequest
  · subst hKind
    cases hBody with
    | @request processor listed names groups hNames hGroups =>
        obtain ⟨shortest, hEncode, hLength, hSame⟩ := encode_of_request hNames hGroups processor
        refine ⟨_, hEncode, ?_, ?_⟩
        · simp only [List.length_append, List.length_cons]
          omega
        · rw [List.append_cancel_left_eq, List.cons_inj_right, List.append_cancel_left_eq, hSame]
          constructor
          · intro hOrder other hLists
            rwa [names_unique (names_of_lists hLists) hNames]
          · exact fun hAll => hAll names (.mk processor hNames)
  · obtain ⟨hSame, hWritten⟩ := written_body hBody hPlain hKind
    refine ⟨_, encode_of_written hWritten, Nat.le_of_eq (by rw [hSame]),
      iff_of_true (by rw [hSame]) ?_⟩
    intro names hLists
    obtain ⟨processor, hRequest⟩ := message_of_lists hLists
    cases (hAccepts.2 hRequest).symm.trans hMessage
    exact absurd hSame.symm hKind

/-- A request that names one group twice, and between that one that comes before it. -/
theorem decode_unordered_request :
    let bytes : Bytes := [0, 1, 2, 0, 0, 0, 9, 0, 3, 0, 1, 98, 0, 1, 97, 0, 1, 98]
    let message := configurationRequest 9 (NameSet.ofList ["b", "a", "b"])
    decode .v1 bytes = .ok message ∧ ¬ message.CarriesSnapshot ∧
      ∃ written, encode .v1 message = .ok written ∧ written.length ≤ bytes.length ∧
        written ≠ bytes := by
  intro bytes message
  have hA : Counted .v1 [0, 1, 97] (Text.utf8 "a") := .mk (Text.utf8 "a") (by decide)
  have hB : Counted .v1 [0, 1, 98] (Text.utf8 "b") := .mk (Text.utf8 "b") (by decide)
  have hNames : Names .v1 [0, 3, 0, 1, 98, 0, 1, 97, 0, 1, 98] ["b", "a", "b"] :=
    .mk (by decide) (.cons hB (.cons hA (.cons hB .nil)))
  have hForm : MessageForm .v1 bytes message :=
    .mk (.mk (.request 9 hNames (NameSet.mem_names_ofList _)))
  have hPlain : ¬ message.CarriesSnapshot := fun ⟨_, _, hReady⟩ => Message.noConfusion hReady
  obtain ⟨hAccepts, hWritten⟩ := decode_eq_ok_iff .v1 bytes message
  obtain ⟨written, hEncode, hLength, hSame⟩ := hWritten (hAccepts.2 hForm) hPlain
  refine ⟨hAccepts.2 hForm, hPlain, written, hEncode, hLength, fun hEq => ?_⟩
  have hOrder := hSame.1 hEq ["b", "a", "b"] (.mk 9 hNames)
  revert hOrder
  decide

end Message

end ConfigExchange
