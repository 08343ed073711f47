import ConfigExchange.Proofs.Message.Parsing
import Mathlib.Data.List.Perm.Subperm

/-! The grammar of messages: which bytes stand for which message at a version. It is put down
without the decoder, and the decoder accepts just that. Of the bytes that are accepted, those that a
message is written as are the shortest. -/
namespace ConfigExchange

/-! ### Forms -/

namespace Grammar

/-- Bytes with their number before them. -/
inductive Counted (version : Version) : Bytes → Bytes → Prop where
  | mk (content : Bytes) (hFits : content.length ≤ version.maxLength) :
      Counted version (bigEndian version.lengthWidth content.length ++ content) content

/-- Texts with their lengths before them, one after the other. -/
inductive Texts (version : Version) : Bytes → List String → Prop where
  | nil : Texts version [] []
  | cons {front back : Bytes} {first : String} {rest : List String}
      (hFirst : Counted version front (Text.utf8 first)) (hRest : Texts version back rest) :
      Texts version (front ++ back) (first :: rest)

/-- The number of texts, and the texts, in any order and however often. -/
inductive Names (version : Version) : Bytes → List String → Prop where
  | mk {bytes : Bytes} {names : List String} (hCount : names.length ≤ version.maxLength)
      (hTexts : Texts version bytes names) :
      Names version (bigEndian version.lengthWidth names.length ++ bytes) names

/-- A tag, and what the outcome carries. -/
inductive OutcomeForm (version : Version) : Bytes → Outcome → Prop where
  | ready {bytes body : Bytes} {snapshot : Snapshot} (hBody : Counted version bytes body)
      (hSnapshot : Snapshot.ofBody body = .ok snapshot) :
      OutcomeForm version (0 :: bytes) (.ready snapshot)
  | notReady : OutcomeForm version [1] .notReady
  | fatal {bytes : Bytes} {reason : String} (hReason : Counted version bytes (Text.utf8 reason)) :
      OutcomeForm version (2 :: bytes) (.fatal reason)
  | failed {bytes : Bytes} {fault : String} (hFault : Counted version bytes (Text.utf8 fault)) :
      OutcomeForm version (3 :: bytes) (.failed fault)

/-- A tag, and a fault if there is one. -/
inductive FaultForm (version : Version) : Bytes → Option String → Prop where
  | none : FaultForm version [0] none
  | some {bytes : Bytes} {fault : String} (hFault : Counted version bytes (Text.utf8 fault)) :
      FaultForm version (1 :: bytes) (some fault)

/-- The body of a message of a kind. -/
inductive BodyForm (version : Version) : MessageKind → Bytes → Message → Prop where
  | versionRequest (ordinal : UInt16) :
      BodyForm version .versionRequest (bigEndian 2 ordinal.toNat) (.versionRequest ordinal)
  | versionResponse (ordinal : UInt16) :
      BodyForm version .versionResponse (bigEndian 2 ordinal.toNat) (.versionResponse ordinal)
  | request (processor : UInt32) {bytes : Bytes} {names : List String} {groups : NameSet}
      (hNames : Names version bytes names) (hGroups : ∀ name, name ∈ groups.names ↔ name ∈ names) :
      BodyForm version .configurationRequest (bigEndian 4 processor.toNat ++ bytes)
        (.configurationRequest processor groups)
  | response (processor : UInt32) {bytes : Bytes} {outcome : Outcome}
      (hOutcome : OutcomeForm version bytes outcome) :
      BodyForm version .configurationResponse (bigEndian 4 processor.toNat ++ bytes)
        (.configurationResponse processor outcome)
  | reply (processor : UInt32) {bytes : Bytes} {fault : Option String}
      (hFault : FaultForm version bytes fault) :
      BodyForm version .reply (bigEndian 4 processor.toNat ++ bytes) (.reply processor fault)

/-- The byte of a kind, and a body of that kind. -/
inductive ContentForm (version : Version) : Bytes → Message → Prop where
  | mk {kind : MessageKind} {bytes : Bytes} {message : Message}
      (hBody : BodyForm version kind bytes message) :
      ContentForm version (kind.code :: bytes) message

/-- A message at a version: the ordinal of the version, and then the content, which ends where the
message ends. -/
inductive MessageForm (version : Version) : Bytes → Message → Prop where
  | mk {bytes : Bytes} {message : Message} (hContent : ContentForm version bytes message) :
      MessageForm version (bigEndian 2 version.ordinal.toNat ++ bytes) message

end Grammar

open Decoder Grammar

/-! ### Reading the forms -/

namespace Cursor

variable {version : Version}

theorem parses_counted : Parses (counted version) (Counted version) := by
  refine ((parses_length version).bind parses_take).congr fun bytes content => ?_
  constructor
  · rintro ⟨_, hFits⟩
    exact ⟨_, _, _, ⟨rfl, hFits⟩, ⟨rfl, rfl⟩, rfl⟩
  · rintro ⟨n, front, back, ⟨rfl, hFits⟩, ⟨rfl, rfl⟩, rfl⟩
    exact ⟨back, hFits⟩

theorem parses_text :
    Parses (text version) fun bytes text => Counted version bytes (Text.utf8 text) := by
  have hText : Parses (text version) fun bytes text => ∃ content front back,
      Counted version front content ∧ (back = [] ∧ content = Text.utf8 text) ∧
        bytes = front ++ back := by
    refine parses_counted.bind fun content => ?_
    cases hContent : Text.ofUtf8? content with
    | none =>
        refine (Parses.throw _).congr fun bytes text => iff_false_intro ?_
        rintro ⟨rfl, rfl⟩
        cases hContent.symm.trans (Text.ofUtf8?_utf8 text)
    | some found =>
        refine (Parses.pure found).congr fun bytes text => and_congr_right fun _ => ?_
        constructor
        · rintro rfl
          exact Option.some_inj.1 ((Text.ofUtf8?_utf8 text).symm.trans hContent)
        · rintro rfl
          exact (Text.utf8_of_ofUtf8? hContent).symm
  refine hText.congr fun bytes text => ?_
  constructor
  · intro hCounted
    exact ⟨_, bytes, [], hCounted, ⟨rfl, rfl⟩, (List.append_nil _).symm⟩
  · rintro ⟨_, front, _, hCounted, ⟨rfl, rfl⟩, rfl⟩
    rwa [List.append_nil]

/-- Texts are read in order, and kept the other way round. -/
theorem parses_texts (count : Nat) (read : List String) :
    Parses (texts version count read) fun bytes all =>
      ∃ names, Texts version bytes names ∧ names.length = count ∧ all = names.reverse ++ read := by
  induction count generalizing read with
  | zero =>
      refine (Parses.pure read).congr fun bytes all => ?_
      constructor
      · rintro ⟨names, hTexts, hLength, rfl⟩
        cases List.eq_nil_of_length_eq_zero hLength
        cases hTexts
        exact ⟨rfl, rfl⟩
      · rintro ⟨rfl, rfl⟩
        exact ⟨[], .nil, rfl, rfl⟩
  | succ count ih =>
      refine (parses_text.bind fun next => ih (next :: read)).congr fun bytes all => ?_
      constructor
      · rintro ⟨names, hTexts, hLength, rfl⟩
        cases hTexts with
        | nil => cases hLength
        | @cons front back first rest hFirst hRest =>
            refine ⟨first, front, back, hFirst, ⟨rest, hRest, Nat.succ_inj.1 hLength, ?_⟩, rfl⟩
            rw [List.reverse_cons, List.append_assoc]
            rfl
      · rintro ⟨first, front, back, hFirst, ⟨rest, hRest, rfl, rfl⟩, rfl⟩
        refine ⟨first :: rest, .cons hFirst hRest, rfl, ?_⟩
        rw [List.reverse_cons, List.append_assoc]
        rfl

end Cursor

variable {version : Version}

theorem parses_outcome : Parses (Outcome.decoder version) (OutcomeForm version) := by
  have hReady := (@Cursor.parses_counted version).bind fun body =>
    (Cursor.parses_ofExcept (Snapshot.ofBody body)).map Outcome.ready
  refine (Cursor.parses_byte.bind fun tag => Parses.ite (tag = 0) hReady
    (.ite (tag = 1) (.pure .notReady) (.ite (tag = 2) (Cursor.parses_text.map .fatal)
      (.ite (tag = 3) (Cursor.parses_text.map .failed) (.throw _))))).congr fun bytes outcome => ?_
  constructor
  · intro hForm
    cases hForm with
    | @ready bytes body snapshot hBody hSnapshot =>
        refine ⟨0, [0], bytes, rfl, .inl ⟨rfl, body, bytes, [], hBody, ?_, ?_⟩, rfl⟩
        · exact ⟨snapshot, ⟨rfl, hSnapshot⟩, rfl⟩
        · exact (List.append_nil _).symm
    | notReady => exact ⟨1, [1], [], rfl, .inr ⟨by decide, .inl ⟨rfl, rfl, rfl⟩⟩, rfl⟩
    | fatal hReason =>
        refine ⟨2, [2], _, rfl, .inr ⟨by decide, .inr ⟨by decide, .inl ?_⟩⟩, rfl⟩
        exact ⟨rfl, _, hReason, rfl⟩
    | failed hFault =>
        refine ⟨3, [3], _, rfl, .inr ⟨by decide, .inr ⟨by decide, .inr ⟨by decide, .inl ?_⟩⟩⟩, rfl⟩
        exact ⟨rfl, _, hFault, rfl⟩
  · rintro ⟨tag, _, back, rfl, hBack, rfl⟩
    obtain ⟨rfl, body, front, _, hBody, ⟨snapshot, ⟨rfl, hSnapshot⟩, rfl⟩, rfl⟩ |
      ⟨-, ⟨rfl, rfl, rfl⟩ | ⟨-, ⟨rfl, reason, hReason, rfl⟩ |
        ⟨-, ⟨rfl, fault, hFault, rfl⟩ | ⟨-, hNone⟩⟩⟩⟩ := hBack
    · rw [List.append_nil]
      exact .ready hBody hSnapshot
    · exact .notReady
    · exact .fatal hReason
    · exact .failed hFault
    · exact hNone.elim

namespace Message

theorem parses_fault : Parses (faultDecoder version) (FaultForm version) := by
  refine (Cursor.parses_byte.bind fun tag => Parses.ite (tag = 0) (.pure none)
    (.ite (tag = 1) (Cursor.parses_text.map some) (.throw _))).congr fun bytes fault => ?_
  constructor
  · intro hForm
    cases hForm with
    | none => exact ⟨0, [0], [], rfl, .inl ⟨rfl, rfl, rfl⟩, rfl⟩
    | some hFault => exact ⟨1, [1], _, rfl, .inr ⟨by decide, .inl ⟨rfl, _, hFault, rfl⟩⟩, rfl⟩
  · rintro ⟨tag, _, back, rfl, hBack, rfl⟩
    obtain ⟨rfl, rfl, rfl⟩ | ⟨-, ⟨rfl, fault, hFault, rfl⟩ | ⟨-, hNone⟩⟩ := hBack
    · exact .none
    · exact .some hFault
    · exact hNone.elim

theorem eq_ofList_iff {groups : NameSet} {names : List String} :
    NameSet.ofList names = groups ↔ ∀ name, name ∈ groups.names ↔ name ∈ names := by
  constructor
  · rintro rfl
    exact NameSet.mem_names_ofList names
  · intro hGroups
    exact NameSet.ext_names fun name =>
      (NameSet.mem_names_ofList names name).trans (hGroups name).symm

/-- Reads the names of a request, the last one first. -/
def namesDecoder (version : Version) : Decoder (List String) := do
  Cursor.texts version (← Cursor.length version) []

theorem parses_names :
    Parses (namesDecoder version) fun bytes all => Names version bytes all.reverse := by
  refine ((Cursor.parses_length version).bind fun count =>
    Cursor.parses_texts count []).congr fun bytes all => ?_
  constructor
  · rintro ⟨hCount, hTexts⟩
    exact ⟨_, _, _, ⟨rfl, hCount⟩, ⟨_, hTexts, rfl, by simp⟩, rfl⟩
  · rintro ⟨_, _, back, ⟨rfl, hCount⟩, ⟨names, hTexts, rfl, rfl⟩, rfl⟩
    rw [List.append_nil, List.reverse_reverse]
    exact ⟨hCount, hTexts⟩

theorem parses_groups : Parses (groupsDecoder version) fun bytes groups =>
    ∃ names, Names version bytes names ∧ ∀ name, name ∈ groups.names ↔ name ∈ names := by
  have hDecoder : groupsDecoder version = do return NameSet.ofList (← namesDecoder version) :=
    (bind_assoc _ _ _).symm
  rw [hDecoder]
  refine (parses_names.map NameSet.ofList).congr fun bytes groups => ?_
  constructor
  · rintro ⟨names, hNames, hGroups⟩
    refine ⟨names.reverse, ?_, eq_ofList_iff.2 ?_⟩
    · rwa [List.reverse_reverse]
    · simpa using hGroups
  · rintro ⟨all, hNames, hGroups⟩
    exact ⟨all.reverse, hNames, by simpa using eq_ofList_iff.1 hGroups⟩

/-- Reads the kind of a message and its body. -/
def contentDecoder (version : Version) : Decoder Message := do
  let kind ← Cursor.ofExcept (MessageKind.ofCode (← Cursor.byte))
  bodyDecoder version kind

theorem ofCode_eq_ok_iff (code : UInt8) (kind : MessageKind) :
    MessageKind.ofCode code = .ok kind ↔ code = kind.code := by
  constructor
  · intro hKind
    simp only [MessageKind.ofCode] at hKind
    repeat' split at hKind
    all_goals cases hKind
    all_goals assumption
  · rintro rfl
    exact ofCode_code kind

theorem parses_body (kind : MessageKind) :
    Parses (bodyDecoder version kind) (BodyForm version kind) := by
  cases kind with
  | versionRequest =>
      refine (Cursor.parses_half.map versionRequest).congr fun bytes message => ?_
      constructor
      · intro hForm
        cases hForm with
        | versionRequest ordinal => exact ⟨ordinal, rfl, rfl⟩
      · rintro ⟨ordinal, rfl, rfl⟩
        exact .versionRequest ordinal
  | versionResponse =>
      refine (Cursor.parses_half.map versionResponse).congr fun bytes message => ?_
      constructor
      · intro hForm
        cases hForm with
        | versionResponse ordinal => exact ⟨ordinal, rfl, rfl⟩
      · rintro ⟨ordinal, rfl, rfl⟩
        exact .versionResponse ordinal
  | configurationRequest =>
      refine (Cursor.parses_word.bind fun processor =>
        parses_groups.map (configurationRequest processor)).congr fun bytes message => ?_
      constructor
      · intro hForm
        cases hForm with
        | request processor hNames hGroups =>
            exact ⟨processor, _, _, rfl, ⟨_, ⟨_, hNames, hGroups⟩, rfl⟩, rfl⟩
      · rintro ⟨processor, _, back, rfl, ⟨groups, ⟨names, hNames, hGroups⟩, rfl⟩, rfl⟩
        exact .request processor hNames hGroups
  | configurationResponse =>
      refine (Cursor.parses_word.bind fun processor =>
        parses_outcome.map (configurationResponse processor)).congr fun bytes message => ?_
      constructor
      · intro hForm
        cases hForm with
        | response processor hOutcome => exact ⟨processor, _, _, rfl, ⟨_, hOutcome, rfl⟩, rfl⟩
      · rintro ⟨processor, _, back, rfl, ⟨outcome, hOutcome, rfl⟩, rfl⟩
        exact .response processor hOutcome
  | reply =>
      refine (Cursor.parses_word.bind fun processor =>
        parses_fault.map (reply processor)).congr fun bytes message => ?_
      constructor
      · intro hForm
        cases hForm with
        | reply processor hFault => exact ⟨processor, _, _, rfl, ⟨_, hFault, rfl⟩, rfl⟩
      · rintro ⟨processor, _, back, rfl, ⟨fault, hFault, rfl⟩, rfl⟩
        exact .reply processor hFault

theorem parses_content : Parses (contentDecoder version) (ContentForm version) := by
  refine (Cursor.parses_byte.bind fun code =>
    (Cursor.parses_ofExcept (MessageKind.ofCode code)).bind parses_body).congr fun bytes message => ?_
  constructor
  · rintro ⟨hBody⟩
    exact ⟨_, [_], _, rfl, ⟨_, [], _, ⟨rfl, ofCode_code _⟩, hBody, rfl⟩, rfl⟩
  · rintro ⟨code, _, _, rfl, ⟨kind, _, back, ⟨rfl, hKind⟩, hBody, rfl⟩, rfl⟩
    rw [(ofCode_eq_ok_iff code kind).1 hKind]
    exact .mk hBody

theorem ofOrdinal_eq_ok_iff (ordinal : UInt16) (version : Version) :
    Version.ofOrdinal ordinal = .ok version ↔ ordinal = version.ordinal := by
  constructor
  · intro hVersion
    unfold Version.ofOrdinal at hVersion
    split at hVersion
    · next found hFound =>
      cases hVersion
      exact (Version.ordinal_of_ofOrdinal? hFound).symm
    · cases hVersion
  · rintro rfl
    exact ofOrdinal_ordinal version

theorem parses_version : Parses versionDecoder fun bytes version =>
    bytes = bigEndian 2 version.ordinal.toNat := by
  refine (Cursor.parses_half.bind fun ordinal =>
    Cursor.parses_ofExcept (Version.ofOrdinal ordinal)).congr fun bytes version => ?_
  constructor
  · rintro rfl
    exact ⟨_, _, [], rfl, ⟨rfl, ofOrdinal_ordinal version⟩, (List.append_nil _).symm⟩
  · rintro ⟨ordinal, _, _, rfl, ⟨rfl, hVersion⟩, rfl⟩
    rw [List.append_nil, (ofOrdinal_eq_ok_iff ordinal version).1 hVersion]

/-- Reads a message of a version, of which the version comes first. -/
def messageDecoder (version : Version) : Decoder Message := do
  let found ← versionDecoder
  if found ≠ version then throw (.versionMismatch version found) else contentDecoder version

/-- Reads a message and the version it was written with. -/
def anyDecoder : Decoder (Version × Message) := do
  let version ← versionDecoder
  return (version, ← contentDecoder version)

theorem decode_eq_run (version : Version) (bytes : Bytes) :
    decode version bytes = (messageDecoder version).whole.run bytes := by
  unfold decode messageDecoder whole
  congr 1
  rw [bind_assoc]
  congr 1
  funext found
  by_cases hFound : found ≠ version
  · rw [if_pos hFound, if_pos hFound]
    rfl
  · rw [if_neg hFound, if_neg hFound, tailDecoder, contentDecoder]
    simp only [bind_assoc]

theorem decodeAny_eq_run (bytes : Bytes) : decodeAny bytes = anyDecoder.whole.run bytes := by
  unfold decodeAny anyDecoder whole tailDecoder contentDecoder
  simp only [bind_assoc, pure_bind]

theorem parses_message : Parses (messageDecoder version) (MessageForm version) := by
  refine (parses_version.bind fun found => Parses.ite (found ≠ version) (.throw _)
    parses_content).congr fun bytes message => ?_
  constructor
  · rintro ⟨hContent⟩
    exact ⟨version, _, _, rfl, .inr ⟨fun hNe => hNe rfl, hContent⟩, rfl⟩
  · rintro ⟨found, _, back, rfl, ⟨-, hNone⟩ | ⟨hSame, hContent⟩, rfl⟩
    · exact hNone.elim
    · cases Decidable.not_not.1 hSame
      exact .mk hContent

theorem parses_any : Parses anyDecoder fun bytes result => MessageForm result.1 bytes result.2 := by
  refine (parses_version.bind fun version => parses_content.map (Prod.mk version)).congr
    fun bytes result => ?_
  constructor
  · rintro ⟨hContent⟩
    exact ⟨_, _, _, rfl, ⟨_, hContent, rfl⟩, rfl⟩
  · rintro ⟨version, _, back, rfl, ⟨message, hContent, rfl⟩, rfl⟩
    exact .mk hContent

/-! ### Cutting and adding -/

/-- What a reader of messages says of bytes that are not all there, and of bytes with others behind
them. -/
structure Delimits {α : Type} (read : Bytes → Except DecodeError α) (bytes : Bytes) : Prop where
  cut : ∀ front, front <+: bytes → front ≠ bytes → ∃ needed available,
    read front = .error (.truncated needed available) ∧ available < needed ∧
      available ≤ front.length ∧ front.length - available + needed ≤ bytes.length
  extended : ∀ more, more ≠ [] → read (bytes ++ more) = .error (.trailingBytes more.length)

theorem delimits_of_parses {α : Type} {decoder : Decoder α} {form : Bytes → α → Prop}
    (hParses : decoder.Parses form) {read : Bytes → Except DecodeError α}
    (hRead : ∀ bytes, read bytes = decoder.whole.run bytes) {bytes : Bytes} {value : α}
    (hValue : read bytes = .ok value) : Delimits read bytes := by
  have hForm : form bytes value := hParses.run_whole_iff.1 ((hRead bytes).symm.trans hValue)
  constructor
  · intro front hFront hNe
    obtain ⟨_, hError, needed, available, rfl, hShort⟩ := hParses.run_whole_cut hForm hFront hNe
    exact ⟨needed, available, (hRead front).trans hError, hShort⟩
  · intro more hMore
    exact (hRead _).trans (hParses.run_whole_append hForm hMore)

/-- Messages end where they say. Of bytes that are accepted, at one version or at any, no part from
the front is: there the reader is short of bytes that the whole has. Nor is anything accepted behind
them. -/
theorem delimits_of_accepted (bytes : Bytes) :
    (∀ version message, decode version bytes = .ok message → Delimits (decode version) bytes) ∧
      ∀ result, decodeAny bytes = .ok result → Delimits decodeAny bytes :=
  ⟨fun version _ hMessage => delimits_of_parses parses_message (decode_eq_run version) hMessage,
    fun _ hResult => delimits_of_parses parses_any decodeAny_eq_run hResult⟩

/-- A reply with a fault ends where its fault does. -/
theorem delimits_reply :
    let bytes : Bytes := [0, 2, 4, 0, 0, 0, 7, 1, 0, 0, 0, 2, 110, 111]
    decode .v2 bytes = .ok (.reply 7 (some "no")) ∧ Delimits (decode .v2) bytes ∧
      Delimits decodeAny bytes := by
  intro bytes
  have hMessage : decode .v2 bytes = .ok (.reply 7 (some "no")) := by decide +kernel
  have hAny : decodeAny bytes = .ok (.v2, .reply 7 (some "no")) := by decide +kernel
  obtain ⟨hDecode, hDecodeAny⟩ := delimits_of_accepted bytes
  exact ⟨hMessage, hDecode .v2 _ hMessage, hDecodeAny _ hAny⟩

end Message

end ConfigExchange
