import ConfigExchange.Proofs.Message.Grammar

/-! Where the cursor of a message can come to. Every read is a plan of takes, each of which may
depend on what was taken before, and a take is all that moves the cursor. So over any reads, whether
or not they succeed, the cursor goes forward inside of the message, and what was taken is the part
that lies behind it. -/
namespace ConfigExchange

namespace Decoder

variable {α : Type}

/-- Where a decoder leaves the cursor, whether or not it succeeds. -/
def after (decoder : Decoder α) (cursor : Cursor) : Cursor :=
  match decoder cursor with
  | .ok _ final | .error _ final => final

theorem after_of_ok {decoder : Decoder α} {cursor final : Cursor} {value : α}
    (h : decoder cursor = .ok value final) : decoder.after cursor = final := by
  rw [after, h]

theorem after_of_error {decoder : Decoder α} {cursor final : Cursor} {error : DecodeError}
    (h : decoder cursor = .error error final) : decoder.after cursor = final := by
  rw [after, h]

end Decoder

open Decoder

/-! ### Places in a message -/

/-- A place in a message: as many bytes were read as it says, and all the others are left. -/
structure Cursor.StandsIn (message : Bytes) (cursor : Cursor) : Prop where
  position_le : cursor.position ≤ message.length
  rest_eq : cursor.rest = message.drop cursor.position

namespace Cursor

variable {message : Bytes} {cursor final : Cursor}

theorem standsIn_start (message : Bytes) : (start message).StandsIn message where
  position_le := Nat.zero_le _
  rest_eq := rfl

theorem StandsIn.length_rest (hStands : cursor.StandsIn message) :
    cursor.rest.length = message.length - cursor.position := by
  rw [hStands.rest_eq, List.length_drop]

/-- What a take does at a place of a message, in terms of the message. -/
theorem StandsIn.take_eq (hStands : cursor.StandsIn message) (n : Nat) :
    take n cursor = if n ≤ message.length - cursor.position then
        .ok ((message.drop cursor.position).take n)
          ⟨cursor.position + n, message.drop (cursor.position + n)⟩
      else .error (.truncated n (message.length - cursor.position)) cursor := by
  simp only [take]
  rw [List.length_take, hStands.length_rest, hStands.rest_eq, List.drop_drop]
  by_cases hFits : n ≤ message.length - cursor.position
  · rw [if_pos hFits, if_pos (Nat.min_eq_left hFits)]
  · rw [if_neg hFits, if_neg (by omega)]

theorem StandsIn.finish_eq (hStands : cursor.StandsIn message) :
    finish cursor = if cursor.position = message.length then .ok () cursor
      else .error (.trailingBytes (message.length - cursor.position)) cursor := by
  have hEnd : cursor.rest = [] ↔ cursor.position = message.length := by
    have hLe := hStands.position_le
    rw [hStands.rest_eq, List.drop_eq_nil_iff]
    omega
  simp only [finish, hEnd, hStands.length_rest]

end Cursor

/-! ### Takes -/

/-- A take: where it is made, and how much it asks for. -/
structure Taking where
  place : Cursor
  wanted : Nat

namespace Taking

/-- The bytes that a take gives, if it succeeds. -/
def slice? (taking : Taking) : Option Bytes :=
  match Cursor.take taking.wanted taking.place with
  | .ok slice _ => some slice
  | .error _ _ => none

/-- Where a take leaves the cursor. -/
def final (taking : Taking) : Cursor := (Cursor.take taking.wanted).after taking.place

/-- A take inside of a message. It gives as much as it asks for, from where it stands, and moves the
cursor behind that; or less is left, and the cursor stays. -/
structure Within (message : Bytes) (taking : Taking) : Prop where
  stands : taking.place.StandsIn message
  given : ∀ slice, taking.slice? = some slice →
    taking.place.position + taking.wanted ≤ message.length ∧
      slice = (message.drop taking.place.position).take taking.wanted ∧
      taking.final.position = taking.place.position + taking.wanted
  refused : taking.slice? = none →
    message.length - taking.place.position < taking.wanted ∧ taking.final = taking.place

variable {message : Bytes} {taking : Taking}

/-- A take either gives what it asks for and moves on, or gives nothing and stays. -/
theorem cases_of_standsIn (hStands : taking.place.StandsIn message) :
    (taking.place.position + taking.wanted ≤ message.length ∧
      taking.slice? = some ((message.drop taking.place.position).take taking.wanted) ∧
      taking.final = ⟨taking.place.position + taking.wanted,
        message.drop (taking.place.position + taking.wanted)⟩) ∨
    (message.length - taking.place.position < taking.wanted ∧ taking.slice? = none ∧
      taking.final = taking.place) := by
  have hTake := hStands.take_eq taking.wanted
  have hLe := hStands.position_le
  by_cases hFits : taking.wanted ≤ message.length - taking.place.position
  · rw [if_pos hFits] at hTake
    left
    refine ⟨by omega, ?_, after_of_ok hTake⟩
    rw [slice?, hTake]
  · rw [if_neg hFits] at hTake
    right
    refine ⟨by omega, ?_, after_of_error hTake⟩
    rw [slice?, hTake]

theorem within_of_standsIn (hStands : taking.place.StandsIn message) : taking.Within message := by
  rcases cases_of_standsIn hStands with ⟨hFits, hSlice, hFinal⟩ | ⟨hShort, hSlice, hFinal⟩
  · refine ⟨hStands, ?_, ?_⟩
    · intro slice hGiven
      rw [hSlice] at hGiven
      rw [hFinal]
      exact ⟨hFits, (Option.some_inj.1 hGiven).symm, rfl⟩
    · intro hNone
      rw [hSlice] at hNone
      cases hNone
  · refine ⟨hStands, ?_, fun _ => ⟨hShort, hFinal⟩⟩
    intro slice hGiven
    rw [hSlice] at hGiven
    cases hGiven

theorem standsIn_final (hStands : taking.place.StandsIn message) :
    taking.final.StandsIn message := by
  rcases cases_of_standsIn hStands with ⟨hFits, -, hFinal⟩ | ⟨-, -, hFinal⟩
  · rw [hFinal]
    exact ⟨hFits, rfl⟩
  · rw [hFinal]
    exact hStands

/-- What lay behind the cursor, and what a take gives, lies behind the cursor then. -/
theorem take_append_slice (hStands : taking.place.StandsIn message) :
    message.take taking.place.position ++ taking.slice?.getD [] =
      message.take taking.final.position := by
  rcases cases_of_standsIn hStands with ⟨-, hSlice, hFinal⟩ | ⟨-, hSlice, hFinal⟩
  · rw [hSlice, hFinal, List.take_add]
    rfl
  · rw [hSlice, hFinal]
    exact List.append_nil _

theorem position_le_final (hStands : taking.place.StandsIn message) :
    taking.place.position ≤ taking.final.position := by
  rcases cases_of_standsIn hStands with ⟨-, -, hFinal⟩ | ⟨-, -, hFinal⟩
  · rw [hFinal]
    exact Nat.le_add_right _ _
  · exact Nat.le_of_eq (by rw [hFinal])

end Taking

/-- Takes that follow one another: each is made where the one before it left the cursor. -/
inductive Path : Cursor → List Taking → Cursor → Prop where
  | nil (cursor : Cursor) : Path cursor [] cursor
  | cons (taking : Taking) {rest : List Taking} {final : Cursor}
      (hRest : Path taking.final rest final) : Path taking.place (taking :: rest) final

namespace Path

variable {message : Bytes} {cursor middle final : Cursor} {first second takings : List Taking}

theorem append (hFirst : Path cursor first middle) (hSecond : Path middle second final) :
    Path cursor (first ++ second) final := by
  induction hFirst with
  | nil cursor => exact hSecond
  | cons taking hRest ih => exact .cons taking (ih hSecond)

theorem standsIn (hPath : Path cursor takings final) (hStands : cursor.StandsIn message) :
    final.StandsIn message := by
  induction hPath with
  | nil cursor => exact hStands
  | cons taking hRest ih => exact ih (Taking.standsIn_final hStands)

theorem within (hPath : Path cursor takings final) (hStands : cursor.StandsIn message) :
    ∀ taking ∈ takings, taking.Within message := by
  induction hPath with
  | nil cursor => simp
  | cons taking hRest ih =>
      rw [List.forall_mem_cons]
      exact ⟨Taking.within_of_standsIn hStands, ih (Taking.standsIn_final hStands)⟩

theorem position_le (hPath : Path cursor takings final) (hStands : cursor.StandsIn message) :
    cursor.position ≤ final.position := by
  induction hPath with
  | nil cursor => exact Nat.le_refl _
  | cons taking hRest ih =>
      have hTaking := Taking.position_le_final hStands
      have hRest := ih (Taking.standsIn_final hStands)
      omega

/-- The bytes that were given one after the other are those from the first place to the last. -/
theorem take_append_slices (hPath : Path cursor takings final) (hStands : cursor.StandsIn message) :
    message.take cursor.position ++ (takings.filterMap Taking.slice?).flatten =
      message.take final.position := by
  induction hPath with
  | nil cursor => exact List.append_nil _
  | cons taking hRest ih =>
      rw [← ih (Taking.standsIn_final hStands), ← Taking.take_append_slice hStands]
      cases hSlice : taking.slice? with
      | none => simp [hSlice]
      | some slice => simp [hSlice]

end Path

/-! ### Reads as plans of takes -/

/-- What is taken, one take after the other, and what comes of it. -/
inductive Plan (α : Type) where
  | done (result : Except DecodeError α)
  | take (n : Nat) (next : Bytes → Plan α)

namespace Plan

variable {α β : Type}

/-- The decoder that goes by a plan. -/
def decoder : Plan α → Decoder α
  | done result => Cursor.ofExcept result
  | take n next => do (next (← Cursor.take n)).decoder

/-- One plan after another, unless the first one fails. -/
def bind : Plan α → (α → Plan β) → Plan β
  | done (.ok value), rest => rest value
  | done (.error error), _ => done (.error error)
  | take n next, rest => take n fun slice => (next slice).bind rest

def map (f : α → β) (plan : Plan α) : Plan β := plan.bind fun value => done (.ok (f value))

theorem decoder_bind (plan : Plan α) (rest : α → Plan β) :
    (plan.bind rest).decoder = (do (rest (← plan.decoder)).decoder) := by
  induction plan with
  | done result =>
      cases result with
      | ok value => rfl
      | error error => rfl
  | take n next ih =>
      rw [bind, decoder, decoder, bind_assoc]
      congr 1
      funext slice
      exact ih slice

theorem decoder_map (f : α → β) (plan : Plan α) :
    (plan.map f).decoder = (do return f (← plan.decoder)) :=
  plan.decoder_bind _

/-- The takes that a plan makes from a place on. One that fails is the last. -/
def takings : Plan α → Cursor → List Taking
  | done _, _ => []
  | take n next, cursor =>
    ⟨cursor, n⟩ :: match Cursor.take n cursor with
      | .ok slice final => (next slice).takings final
      | .error _ _ => []

theorem path_takings (plan : Plan α) (cursor : Cursor) :
    Path cursor (plan.takings cursor) (plan.decoder.after cursor) := by
  induction plan generalizing cursor with
  | done result =>
      cases result with
      | ok value => exact .nil cursor
      | error error => exact .nil cursor
  | take n next ih =>
      rw [takings]
      apply Path.cons (Taking.mk cursor n)
      cases hTake : Cursor.take n cursor with
      | ok slice final =>
          have hFinal : Taking.final ⟨cursor, n⟩ = final := after_of_ok hTake
          have hAfter : (take n next).decoder.after cursor = (next slice).decoder.after final := by
            rw [after, decoder, bind_of_ok hTake]
            rfl
          rw [hFinal, hAfter]
          exact ih slice final
      | error error final =>
          -- Nothing comes after a take that fails, so the plan ends where it does.
          have hFinal : Taking.final ⟨cursor, n⟩ = final := after_of_error hTake
          have hAfter : (take n next).decoder.after cursor = final :=
            after_of_error (bind_of_error hTake _)
          rw [hFinal, hAfter]
          exact .nil final

/-- One take, and what it gives. -/
def slice (n : Nat) : Plan Bytes := take n fun front => done (.ok front)

/-- A number of `width` bytes. -/
def number (width : Nat) : Plan Nat := (slice width).map ofBigEndian

/-- Bytes with their length before them. -/
def counted (version : Version) : Plan Bytes := (number version.lengthWidth).bind slice

def text (version : Version) : Plan String :=
  (counted version).bind fun content =>
    match Text.ofUtf8? content with
    | some text => done (.ok text)
    | none => done (.error .invalidText)

theorem decoder_slice (n : Nat) : (slice n).decoder = Cursor.take n := bind_pure _

theorem decoder_number (width : Nat) : (number width).decoder = Cursor.number width := by
  rw [number, decoder_map, decoder_slice]
  rfl

theorem decoder_map_number (width : Nat) (f : Nat → α) :
    ((number width).map f).decoder = (do return f (← Cursor.number width)) := by
  rw [decoder_map, decoder_number]

theorem decoder_counted (version : Version) :
    (counted version).decoder = Cursor.counted version := by
  rw [counted, decoder_bind, decoder_number]
  congr 1
  funext n
  exact decoder_slice n

theorem decoder_text (version : Version) : (text version).decoder = Cursor.text version := by
  rw [text, decoder_bind, decoder_counted, Cursor.text]
  congr 1
  funext content
  cases Text.ofUtf8? content with
  | none => rfl
  | some text => rfl

end Plan

/-- A read of one part of a message. -/
inductive Read where
  | take (n : Nat)
  | byte
  | half
  | word
  | length (version : Version)
  | counted (version : Version)
  | text (version : Version)

namespace Read

/-- What a read gives. -/
def Result : Read → Type
  | take _ | counted _ => Bytes
  | byte => UInt8
  | half => UInt16
  | word => UInt32
  | length _ => Nat
  | text _ => String

def decoder : (read : Read) → Decoder read.Result
  | take n => Cursor.take n
  | byte => Cursor.byte
  | half => Cursor.half
  | word => Cursor.word
  | length version => Cursor.length version
  | counted version => Cursor.counted version
  | text version => Cursor.text version

/-- The takes that a read consists of. -/
def plan : (read : Read) → Plan read.Result
  | take n => Plan.slice n
  | byte => (Plan.number 1).map UInt8.ofNat
  | half => (Plan.number 2).map UInt16.ofNat
  | word => (Plan.number 4).map UInt32.ofNat
  | length version => Plan.number version.lengthWidth
  | counted version => Plan.counted version
  | text version => Plan.text version

/-- The number of bytes that a read takes, if it is fixed. -/
def width? : Read → Option Nat
  | take n => some n
  | byte => some 1
  | half => some 2
  | word => some 4
  | length version => some version.lengthWidth
  | counted _ | text _ => none

theorem decoder_plan (read : Read) : read.plan.decoder = read.decoder := by
  cases read with
  | take n => exact Plan.decoder_slice n
  | byte => exact Plan.decoder_map_number ..
  | half => exact Plan.decoder_map_number ..
  | word => exact Plan.decoder_map_number ..
  | length version => exact Plan.decoder_number ..
  | counted version => exact Plan.decoder_counted version
  | text version => exact Plan.decoder_text version

/-- A read of fixed width is one take. -/
theorem plan_of_width {read : Read} {n : Nat} (hWidth : read.width? = some n) :
    ∃ value : Bytes → read.Result, read.plan = .take n fun front => .done (.ok (value front)) := by
  cases read with
  | counted version => cases hWidth
  | text version => cases hWidth
  | _ =>
      cases hWidth
      exact ⟨_, rfl⟩

/-- A read of fixed width fails only for want of bytes, and then leaves the cursor where it was. -/
theorem error_of_width {message : Bytes} {cursor final : Cursor} (hStands : cursor.StandsIn message)
    {read : Read} {n : Nat} (hWidth : read.width? = some n) {error : DecodeError}
    (hError : read.decoder cursor = .error error final) :
    final = cursor ∧ error = .truncated n (message.length - cursor.position) ∧
      message.length - cursor.position < n := by
  obtain ⟨value, hPlan⟩ := plan_of_width hWidth
  have hTake := hStands.take_eq n
  rw [← decoder_plan, hPlan, Plan.decoder] at hError
  by_cases hFits : n ≤ message.length - cursor.position
  · rw [if_pos hFits] at hTake
    rw [bind_of_ok hTake] at hError
    cases hError
  · rw [if_neg hFits] at hTake
    rw [bind_of_error hTake] at hError
    cases hError
    exact ⟨rfl, rfl, by omega⟩

end Read

/-! ### Reads one after the other -/

namespace Cursor

variable {message : Bytes} {version : Version} {cursor : Cursor}

/-- Where the cursor is after reads. One that fails does not keep the others from being made. -/
def after (cursor : Cursor) (reads : List Read) : Cursor :=
  reads.foldl (fun cursor read => read.decoder.after cursor) cursor

theorem after_append (cursor : Cursor) (earlier later : List Read) :
    cursor.after (earlier ++ later) = (cursor.after earlier).after later :=
  List.foldl_append

/-- The takes of which reads consist, in order. -/
def takings : Cursor → List Read → List Taking
  | _, [] => []
  | cursor, read :: rest => read.plan.takings cursor ++ takings (read.decoder.after cursor) rest

theorem path_reads (cursor : Cursor) (reads : List Read) :
    Path cursor (cursor.takings reads) (cursor.after reads) := by
  induction reads generalizing cursor with
  | nil => exact .nil cursor
  | cons read rest ih =>
      have hRead := read.plan.path_takings cursor
      rw [read.decoder_plan] at hRead
      exact hRead.append (ih (read.decoder.after cursor))

/-! ### Names in a row -/

/-- Texts that are read in a row, each from where the one before it ended. -/
inductive TextsRead (version : Version) : Cursor → List String → Cursor → Prop where
  | nil (cursor : Cursor) : TextsRead version cursor [] cursor
  | cons {cursor middle final : Cursor} {first : String} {rest : List String}
      (hFirst : text version cursor = .ok first middle)
      (hRest : TextsRead version middle rest final) :
      TextsRead version cursor (first :: rest) final

/-- Every text takes at least its length from what is left. -/
theorem TextsRead.length_le {final : Cursor} {names : List String}
    (hNames : TextsRead version cursor names final) :
    names.length * version.lengthWidth + final.rest.length ≤ cursor.rest.length := by
  induction hNames with
  | nil cursor => simp
  | @cons cursor middle final first rest hFirst hRest ih =>
      obtain ⟨bytes, hBytes, hCursor⟩ := parses_text.sound cursor first middle hFirst
      have hWidth : version.lengthWidth ≤ bytes.length := by
        cases hBytes
        rw [List.length_append, length_bigEndian]
        omega
      rw [hCursor, List.length_append, List.length_cons, Nat.add_mul, Nat.one_mul]
      omega

theorem TextsRead.eq_after {final : Cursor} {names : List String}
    (hNames : TextsRead version cursor names final) :
    final = cursor.after (List.replicate names.length (.text version)) := by
  induction hNames with
  | nil cursor => rfl
  | cons hFirst hRest ih =>
      rw [ih, ← after_of_ok hFirst]
      rfl

/-- How it ends to read `count` texts in a row: all were read, or the text after those that were
read fails, and with its error all of it fails. -/
inductive TextsEnd (version : Version) (count : Nat) (read : List String) (cursor : Cursor)
    (names : List String) (reached : Cursor) : Prop where
  | all (hCount : names.length = count)
      (hEnd : texts version count read cursor = .ok (names.reverse ++ read) reached)
  | stopped {error : DecodeError} {final : Cursor} (hCount : names.length < count)
      (hText : text version reached = .error error final)
      (hEnd : texts version count read cursor = .error error final)

theorem texts_end (version : Version) (count : Nat) (read : List String) (cursor : Cursor) :
    ∃ names reached, TextsRead version cursor names reached ∧
      TextsEnd version count read cursor names reached := by
  -- Every text that is read moves the cursor and is put before those read already, so both vary.
  induction count generalizing read cursor with
  | zero => exact ⟨[], cursor, .nil cursor, .all rfl rfl⟩
  | succ count ih =>
      cases hFirst : text version cursor with
      | error error final =>
          have hEnd : texts version (count + 1) read cursor = .error error final :=
            bind_of_error hFirst _
          exact ⟨[], cursor, .nil cursor, .stopped (Nat.succ_pos count) hFirst hEnd⟩
      | ok first middle =>
          have hTexts : texts version (count + 1) read cursor =
              texts version count (first :: read) middle := bind_of_ok hFirst _
          obtain ⟨names, reached, hNames, hEnds⟩ := ih (first :: read) middle
          refine ⟨first :: names, reached, .cons hFirst hNames, ?_⟩
          cases hEnds with
          | all hCount hEnd =>
              have hAll : (first :: names).length = count + 1 := by rw [List.length_cons, hCount]
              apply TextsEnd.all hAll
              rw [hTexts, hEnd, List.reverse_cons, List.append_assoc]
              rfl
          | stopped hCount hText hEnd =>
              exact .stopped (Nat.succ_lt_succ hCount) hText (hTexts.trans hEnd)

/-- Over any reads of a message, whether or not they succeed, the cursor stays inside of the message
and never goes back. The takes of which the reads consist follow one another. Each gives bytes that
are there, or leaves the cursor where it is, and what they gave is the part of the message before
the cursor. A read of fixed width that fails leaves the cursor where it is. The end is accepted
where nothing is left, and otherwise what is left is counted. Of names that are read in a row,
however many are announced, there are no more than lengths fit into what is left. -/
theorem reads_stay_within (message : Bytes) (reads : List Read) :
    let cursor := (start message).after reads
    let takings := (start message).takings reads
    (∀ read : Read, read.plan.decoder = read.decoder) ∧
    Path (start message) takings cursor ∧
    (∀ taking ∈ takings, taking.Within message) ∧
    (takings.filterMap Taking.slice?).flatten = message.take cursor.position ∧
    cursor.StandsIn message ∧
    (∀ earlier, earlier <+: reads →
      ((start message).after earlier).position ≤ cursor.position) ∧
    (∀ read n error final, Read.width? read = some n → read.decoder cursor = .error error final →
      final = cursor ∧ error = .truncated n (message.length - cursor.position) ∧
        message.length - cursor.position < n) ∧
    (finish cursor = if cursor.position = message.length then .ok () cursor
      else .error (.trailingBytes (message.length - cursor.position)) cursor) ∧
    ∀ version count, ∃ names reached, TextsEnd version count [] cursor names reached ∧
      reached = cursor.after (List.replicate names.length (.text version)) ∧
      names.length * version.lengthWidth ≤ message.length - cursor.position := by
  intro cursor takings
  have hStart : (start message).StandsIn message := standsIn_start message
  have hPath : Path (start message) takings cursor := path_reads (start message) reads
  have hStands : cursor.StandsIn message := hPath.standsIn hStart
  refine ⟨Read.decoder_plan, hPath, hPath.within hStart, ?_, hStands, ?_, ?_, hStands.finish_eq, ?_⟩
  · exact hPath.take_append_slices hStart
  · rintro earlier ⟨later, rfl⟩
    have hEarlier := (path_reads (start message) earlier).standsIn hStart
    have hLater := (path_reads ((start message).after earlier) later).position_le hEarlier
    rwa [← after_append] at hLater
  · intro read n error final hWidth hError
    exact Read.error_of_width hStands hWidth hError
  · intro version count
    obtain ⟨names, reached, hNames, hEnds⟩ := texts_end version count [] cursor
    have hLength := hNames.length_le
    rw [hStands.length_rest] at hLength
    exact ⟨names, reached, hEnds, hNames.eq_after, by omega⟩

/-- A word is not there any more where a byte still is. -/
theorem reads_stay_within_three_bytes :
    let message : Bytes := [0, 1, 2]
    let cursor := (start message).after [.half, .word]
    Read.width? .word = some 4 ∧ Read.decoder .word cursor = .error (.truncated 4 1) cursor ∧
      finish cursor = .error (.trailingBytes 1) cursor ∧
      finish (cursor.after [.byte]) = .ok () (cursor.after [.byte]) := by
  intro message cursor
  obtain ⟨-, -, -, -, -, -, hFixed, hLeft, -⟩ := reads_stay_within message [.half, .word]
  obtain ⟨-, -, -, -, -, -, -, hEnd, -⟩ := reads_stay_within message [.half, .word, .byte]
  have hFails : ∃ error final, Read.decoder .word cursor = .error error final := ⟨_, _, rfl⟩
  obtain ⟨error, final, hError⟩ := hFails
  obtain ⟨rfl, rfl, -⟩ := hFixed .word 4 error final rfl hError
  exact ⟨rfl, hError, hLeft, hEnd⟩

end Cursor

end ConfigExchange
