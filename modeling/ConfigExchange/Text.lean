import ConfigExchange.Bytes

/-! Texts as UTF-8, and their order: a text comes before another if its UTF-8 bytes do. -/
namespace ConfigExchange.Text

/-- The UTF-8 bytes of a text. -/
def utf8 (text : String) : Bytes := text.toByteArray.data.toList

/-- The text with these UTF-8 bytes, if they are well formed. -/
def ofUtf8? (bytes : Bytes) : Option String := String.fromUTF8? ⟨bytes.toArray⟩

theorem ofUtf8?_utf8 (text : String) : ofUtf8? (utf8 text) = some text := by
  have hValid : (⟨(utf8 text).toArray⟩ : ByteArray).IsValidUTF8 := text.isValidUTF8
  simp only [ofUtf8?, String.fromUTF8?, dif_pos hValid]
  rfl

theorem utf8_of_ofUtf8? {bytes : Bytes} {text : String} (h : ofUtf8? bytes = some text) :
    utf8 text = bytes := by
  simp only [ofUtf8?, String.fromUTF8?] at h
  split at h
  · cases h
    rfl
  · cases h

theorem utf8_injective {a b : String} (h : utf8 a = utf8 b) : a = b :=
  Option.some_inj.1 (by rw [← ofUtf8?_utf8 a, h, ofUtf8?_utf8])

/-- The order of texts: byte by byte of their UTF-8 forms. -/
def Before (a b : String) : Prop := utf8 a < utf8 b

instance (a b : String) : Decidable (Before a b) := inferInstanceAs (Decidable (utf8 a < utf8 b))

theorem before_irrefl (a : String) : ¬ Before a a := List.lt_irrefl _

theorem before_trans {a b c : String} (hab : Before a b) (hbc : Before b c) : Before a c :=
  List.lt_trans hab hbc

theorem before_asymm {a b : String} (h : Before a b) : ¬ Before b a := List.lt_asymm h

/-- Two different texts come one before the other. -/
theorem eq_of_not_before {a b : String} (hab : ¬ Before a b) (hba : ¬ Before b a) : a = b :=
  utf8_injective (List.le_antisymm (List.not_lt.1 hba) (List.not_lt.1 hab))

end ConfigExchange.Text
