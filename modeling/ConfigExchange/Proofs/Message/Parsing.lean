import ConfigExchange.Proofs.Message

/-! Decoders and the forms they read. A form says which bytes stand for which value. A decoder
parses a form if it takes the bytes of that form and nothing else, wherever they stand, and finds
too little in whatever is left of them when their end is cut off. Parsing is kept by everything that
decoders are put together with, so a message is parsed because its parts are. -/
namespace ConfigExchange

/-- The error of one who needs more bytes than a cut has, but no more than there were before it. -/
def DecodeError.Shortage (cut whole : Nat) (error : DecodeError) : Prop :=
  ∃ needed available, error = truncated needed available ∧ available < needed ∧
    available ≤ cut ∧ cut - available + needed ≤ whole

/-- Bytes that were read before a shortage do not take part in it. -/
theorem DecodeError.Shortage.add {cut whole : Nat} {error : DecodeError}
    (hShort : error.Shortage cut whole) (front : Nat) :
    error.Shortage (front + cut) (front + whole) := by
  obtain ⟨needed, available, rfl, hLess, hCut, hWhole⟩ := hShort
  exact ⟨needed, available, rfl, hLess, by omega, by omega⟩

namespace Decoder

variable {α β : Type} {form : Bytes → α → Prop} {rest : α → Bytes → β → Prop}

/-- A decoder is short of bytes wherever the end of these is cut off. -/
def ShortOn (decoder : Decoder α) (bytes : Bytes) : Prop :=
  ∀ position cut, cut <+: bytes → cut ≠ bytes → ∃ error final,
    decoder ⟨position, cut⟩ = .error error final ∧ error.Shortage cut.length bytes.length

structure Parses (decoder : Decoder α) (form : Bytes → α → Prop) : Prop where
  sound : ∀ cursor value final, decoder cursor = .ok value final →
    ∃ bytes, form bytes value ∧ cursor.rest = bytes ++ final.rest
  complete : ∀ bytes value, form bytes value → decoder.Reads bytes value
  short : ∀ bytes value, form bytes value → decoder.ShortOn bytes

namespace Parses

theorem congr {decoder : Decoder α} (hParses : decoder.Parses form) {other : Bytes → α → Prop}
    (hForm : ∀ bytes value, other bytes value ↔ form bytes value) : decoder.Parses other where
  sound := fun cursor value final hRead => by
    obtain ⟨bytes, hBytes, hRest⟩ := hParses.sound cursor value final hRead
    exact ⟨bytes, (hForm bytes value).2 hBytes, hRest⟩
  complete := fun bytes value hBytes => hParses.complete bytes value ((hForm bytes value).1 hBytes)
  short := fun bytes value hBytes => hParses.short bytes value ((hForm bytes value).1 hBytes)

/-- No bytes stand for two values. -/
theorem unique {decoder : Decoder α} (hParses : decoder.Parses form) {bytes : Bytes}
    {value other : α}
    (hValue : form bytes value) (hOther : form bytes other) : value = other := by
  have hRead := (hParses.complete bytes value hValue 0 []).symm.trans
    (hParses.complete bytes other hOther 0 [])
  exact (EStateM.Result.ok.inj hRead).1

theorem pure (value : α) :
    Parses (Pure.pure value) fun bytes result => bytes = [] ∧ result = value where
  sound := by
    rintro cursor result final hRead
    cases hRead
    exact ⟨[], ⟨rfl, rfl⟩, rfl⟩
  complete := by
    rintro bytes result ⟨rfl, rfl⟩
    exact reads_pure result
  short := by
    rintro bytes result ⟨rfl, rfl⟩ position cut hCut hNe
    exact absurd (List.prefix_nil.1 hCut) hNe

/-- What always fails reads nothing. -/
theorem throw (error : DecodeError) : Parses (throw error : Decoder α) fun _ _ => False where
  sound := fun _ _ _ hRead => by cases hRead
  complete := fun _ _ hForm => hForm.elim
  short := fun _ _ hForm => hForm.elim

/-- One form after the other. -/
theorem bind {first : Decoder α} {next : α → Decoder β} (hFirst : first.Parses form)
    (hNext : ∀ value, (next value).Parses (rest value)) :
    Parses (first >>= next) fun bytes result =>
      ∃ value front back, form front value ∧ rest value back result ∧ bytes = front ++ back where
  sound := by
    intro cursor result final hRead
    cases hValue : first cursor with
    | error error middle =>
        cases (bind_of_error hValue next).symm.trans hRead
    | ok value middle =>
        rw [bind_of_ok hValue] at hRead
        obtain ⟨front, hFront, hCursor⟩ := hFirst.sound cursor value middle hValue
        obtain ⟨back, hBack, hMiddle⟩ := (hNext value).sound middle result final hRead
        refine ⟨front ++ back, ⟨value, front, back, hFront, hBack, rfl⟩, ?_⟩
        rw [hCursor, hMiddle, List.append_assoc]
  complete := by
    rintro _ result ⟨value, front, back, hFront, hBack, rfl⟩
    exact (hFirst.complete front value hFront).bind ((hNext value).complete back result hBack)
  short := by
    rintro _ result ⟨value, front, back, hFront, hBack, rfl⟩ position cut hCut hNe
    rw [List.length_append]
    have hWhere : cut <+: front ∧ cut ≠ front ∨ ∃ more, front ++ more = cut := by
      rcases List.prefix_or_prefix_of_prefix hCut (List.prefix_append front back) with
        hFront | hFront
      · by_cases hAll : cut = front
        · exact .inr ⟨[], by rw [hAll, List.append_nil]⟩
        · exact .inl ⟨hFront, hAll⟩
      · exact .inr hFront
    rcases hWhere with ⟨hInside, hAll⟩ | ⟨more, rfl⟩
    · obtain ⟨error, final, hError, needed, available, rfl, hLess, hLe, hWhole⟩ :=
        hFirst.short front value hFront position cut hInside hAll
      exact ⟨_, final, bind_of_error hError next, needed, available, rfl, hLess, hLe, by omega⟩
    · obtain ⟨error, final, hError, hShort⟩ := (hNext value).short back result hBack
        (position + front.length) more ((List.prefix_append_right_inj front).1 hCut)
        fun hEq => hNe (by rw [hEq])
      refine ⟨error, final, ?_, ?_⟩
      · rw [(hFirst.complete front value hFront).bind_apply next, hError]
      · rw [List.length_append]
        exact hShort.add front.length

/-- A value that is computed from what was read. -/
theorem map {first : Decoder α} (hFirst : first.Parses form) (f : α → β) :
    Parses (do return f (← first)) fun bytes result =>
      ∃ value, form bytes value ∧ f value = result := by
  refine (hFirst.bind fun value => pure (f value)).congr fun bytes result => ?_
  constructor
  · rintro ⟨value, hValue, rfl⟩
    exact ⟨value, bytes, [], hValue, ⟨rfl, rfl⟩, (List.append_nil _).symm⟩
  · rintro ⟨value, front, back, hValue, ⟨rfl, rfl⟩, rfl⟩
    exact ⟨value, by rwa [List.append_nil], rfl⟩

theorem ite {first second : Decoder α} {other : Bytes → α → Prop} (condition : Prop)
    [Decidable condition] (hFirst : first.Parses form) (hSecond : second.Parses other) :
    Parses (if condition then first else second) fun bytes value =>
      condition ∧ form bytes value ∨ ¬ condition ∧ other bytes value := by
  by_cases hCondition : condition
  · simp only [hCondition, if_true, true_and, not_true, false_and, or_false]
    exact hFirst
  · simp only [hCondition, if_false, true_and, not_false_eq_true, false_and, false_or]
    exact hSecond

end Parses

/-! ### Whole messages -/

/-- Reads what has to end where its input ends. -/
def whole (decoder : Decoder α) : Decoder α := do
  let value ← decoder
  Cursor.finish
  return value

variable {decoder : Decoder α} {bytes : Bytes} {value : α}

theorem Parses.run_whole_iff (hParses : decoder.Parses form) :
    decoder.whole.run bytes = .ok value ↔ form bytes value := by
  constructor
  · intro hRun
    cases hRead : decoder (Cursor.start bytes) with
    | error error final =>
        have hError : decoder.whole (Cursor.start bytes) = .error error final :=
          bind_of_error hRead _
        cases (run_of_error hError).symm.trans hRun
    | ok found final =>
        obtain ⟨front, hFront, hStart⟩ := hParses.sound _ found final hRead
        have hWhole : decoder.whole (Cursor.start bytes) =
            (do Cursor.finish; return found : Decoder α) final := bind_of_ok hRead _
        by_cases hEnd : final.rest = []
        · have hOk : decoder.whole (Cursor.start bytes) = .ok found final := by
            rw [hWhole]
            exact bind_of_ok (if_pos hEnd) _
          cases (run_of_ok hOk).symm.trans hRun
          rw [hEnd, List.append_nil] at hStart
          have hBytes : bytes = front := hStart
          rwa [hBytes]
        · have hError : decoder.whole (Cursor.start bytes) =
              .error (.trailingBytes final.rest.length) final := by
            rw [hWhole]
            exact bind_of_error (if_neg hEnd) _
          cases (run_of_error hError).symm.trans hRun
  · intro hForm
    have hRead := (hParses.complete bytes value hForm).bind_apply
      (fun value => do Cursor.finish; return value) 0 []
    rw [List.append_nil] at hRead
    exact run_of_ok (hRead.trans rfl)

/-- What was cut off before its end is too short. -/
theorem Parses.run_whole_cut (hParses : decoder.Parses form) (hForm : form bytes value)
    {cut : Bytes} (hCut : cut <+: bytes) (hNe : cut ≠ bytes) :
    ∃ error, decoder.whole.run cut = .error error ∧ error.Shortage cut.length bytes.length := by
  obtain ⟨error, final, hError, hShort⟩ := hParses.short bytes value hForm 0 cut hCut hNe
  have hWhole : decoder.whole (Cursor.start cut) = .error error final := bind_of_error hError _
  exact ⟨error, run_of_error hWhole, hShort⟩

/-- What comes after the end is too much. -/
theorem Parses.run_whole_append (hParses : decoder.Parses form) (hForm : form bytes value)
    {more : Bytes} (hMore : more ≠ []) :
    decoder.whole.run (bytes ++ more) = .error (.trailingBytes more.length) := by
  have hWhole : decoder.whole (Cursor.start (bytes ++ more)) =
      .error (.trailingBytes more.length) ⟨0 + bytes.length, more⟩ := by
    rw [whole, Cursor.start, (hParses.complete bytes value hForm).bind_apply]
    exact bind_of_error (if_neg hMore) _
  exact run_of_error hWhole

end Decoder

open Decoder

/-! ### Numbers and lengths -/

namespace Cursor

theorem parses_take (n : Nat) :
    Parses (take n) fun bytes value => bytes = value ∧ value.length = n where
  sound := by
    intro cursor value final hRead
    simp only [take] at hRead
    split at hRead
    · next hLength =>
      cases hRead
      exact ⟨_, ⟨rfl, hLength⟩, (List.take_append_drop n cursor.rest).symm⟩
    · cases hRead
  complete := by
    rintro bytes value ⟨rfl, rfl⟩
    exact reads_take bytes
  short := by
    rintro bytes value ⟨rfl, rfl⟩ position cut hCut hNe
    have hLess : cut.length < bytes.length :=
      Nat.lt_of_le_of_ne hCut.length_le fun hEq => hNe (hCut.eq_of_length hEq)
    refine ⟨.truncated bytes.length cut.length, ⟨position, cut⟩, ?_, _, _, rfl, hLess, Nat.le_refl _,
      by omega⟩
    simp only [take]
    rw [if_neg (by rw [List.length_take]; omega)]

theorem parses_number (width : Nat) :
    Parses (number width) fun bytes n => bytes = bigEndian width n ∧ n < byteRange width := by
  refine ((parses_take width).map ofBigEndian).congr fun bytes n => ?_
  constructor
  · rintro ⟨rfl, hRange⟩
    exact ⟨_, ⟨rfl, length_bigEndian width n⟩, ofBigEndian_bigEndian hRange⟩
  · rintro ⟨_, ⟨rfl, rfl⟩, rfl⟩
    exact ⟨(bigEndian_ofBigEndian bytes).symm, ofBigEndian_lt bytes⟩

/-- Numbers of a fixed width, as a type of their own. -/
theorem parses_fixed {γ : Type} (width : Nat) (ofNat : Nat → γ) (toNat : γ → Nat)
    (hOf : ∀ n, n < byteRange width → toNat (ofNat n) = n)
    (hTo : ∀ value, ofNat (toNat value) = value)
    (hRange : ∀ value, toNat value < byteRange width) :
    Parses (do return ofNat (← number width)) fun bytes value =>
      bytes = bigEndian width (toNat value) := by
  refine ((parses_number width).map ofNat).congr fun bytes value => ?_
  constructor
  · rintro rfl
    exact ⟨toNat value, ⟨rfl, hRange value⟩, hTo value⟩
  · rintro ⟨n, ⟨rfl, hLess⟩, rfl⟩
    rw [hOf n hLess]

theorem parses_byte : Parses byte fun bytes value => bytes = [value] := by
  refine (parses_fixed 1 UInt8.ofNat UInt8.toNat (fun _ h => Nat.mod_eq_of_lt h)
    (fun _ => UInt8.ofNat_toNat) UInt8.toNat_lt).congr fun bytes value => ?_
  simp [bigEndian, byteRange]

theorem parses_half : Parses half fun bytes value => bytes = bigEndian 2 value.toNat :=
  parses_fixed 2 UInt16.ofNat UInt16.toNat (fun _ h => Nat.mod_eq_of_lt h)
    (fun _ => UInt16.ofNat_toNat) UInt16.toNat_lt

theorem parses_word : Parses word fun bytes value => bytes = bigEndian 4 value.toNat :=
  parses_fixed 4 UInt32.ofNat UInt32.toNat (fun _ h => Nat.mod_eq_of_lt h)
    (fun _ => UInt32.ofNat_toNat) UInt32.toNat_lt

theorem parses_length (version : Version) : Parses (length version) fun bytes n =>
    bytes = bigEndian version.lengthWidth n ∧ n ≤ version.maxLength := by
  refine (parses_number version.lengthWidth).congr fun bytes n => ?_
  rw [Version.maxLength, Nat.le_sub_one_iff_lt (byteRange_pos _)]

theorem parses_ofExcept {γ : Type} (result : Except DecodeError γ) :
    Parses (ofExcept result) fun bytes value => bytes = [] ∧ result = .ok value := by
  cases result with
  | ok found =>
      refine (Parses.pure found).congr fun bytes value => ?_
      rw [Except.ok.injEq, eq_comm (a := value)]
  | error error =>
      refine (Parses.throw error).congr fun bytes value => ?_
      simp

end Cursor

end ConfigExchange
