import ConfigExchange.Text

/-! Finite maps from names to values and sets of names, both in ascending byte order of the names.
A map is its list of entries, so two maps with the same entries are equal. -/
namespace ConfigExchange

/-- Entries in strictly ascending byte order of their names, so that each name has one value. -/
structure NameMap (α : Type) where
  entries : List (String × α)
  ascending : entries.Pairwise fun a b => Text.Before a.1 b.1
  deriving DecidableEq

namespace NameMap

variable {α : Type}

/-- The map without entries. -/
def empty : NameMap α := ⟨[], .nil⟩

instance : EmptyCollection (NameMap α) := ⟨empty⟩

/-- The names of a map, ascending. -/
def names (map : NameMap α) : List String := map.entries.map (·.1)

/-- The values of a map, in the order of their names. -/
def values (map : NameMap α) : List α := map.entries.map (·.2)

/-- The number of names. -/
def size (map : NameMap α) : Nat := map.entries.length

/-- The value of a name. -/
def get? (map : NameMap α) (name : String) : Option α := map.entries.lookup name

/-- Whether a name has a value. -/
def contains (map : NameMap α) (name : String) : Bool := (map.get? name).isSome

/-- Gives a name a value; an earlier value of that name is lost. -/
def insert (map : NameMap α) (name : String) (value : α) : NameMap α where
  entries :=
    map.entries.filter (fun entry => decide (Text.Before entry.1 name)) ++
      (name, value) :: map.entries.filter (fun entry => decide (Text.Before name entry.1))
  ascending := by
    refine List.pairwise_append.2 ⟨map.ascending.filter _, List.pairwise_cons.2
      ⟨by simp, map.ascending.filter _⟩, ?_⟩
    intro a ha b hb
    have hLow : Text.Before a.1 name := by simpa using (List.mem_filter.1 ha).2
    rcases List.mem_cons.1 hb with rfl | hb
    · exact hLow
    · exact Text.before_trans hLow (by simpa using (List.mem_filter.1 hb).2)

/-- Takes a name and its value out. -/
def erase (map : NameMap α) (name : String) : NameMap α where
  entries := map.entries.filter (fun entry => decide (entry.1 ≠ name))
  ascending := map.ascending.filter _

/-- Puts an entry in front of sorted ones, unless a later entry has the same name. -/
def keepLater (entry : String × α) : List (String × α) → List (String × α)
  | [] => [entry]
  | later :: rest => if entry.1 = later.1 then later :: rest else entry :: later :: rest

theorem mem_foldr_keepLater {entries : List (String × α)} {entry : String × α}
    (h : entry ∈ entries.foldr keepLater []) : entry ∈ entries := by
  induction entries with
  | nil => exact h
  | cons first rest ih =>
    simp only [List.foldr_cons, keepLater] at h
    split at h
    · simp_all
    · next later others hRest =>
      rw [← hRest] at h
      split at h
      · exact List.mem_cons_of_mem _ (ih h)
      · rcases List.mem_cons.1 h with h | h
        · exact h ▸ List.mem_cons_self
        · exact List.mem_cons_of_mem _ (ih h)

theorem pairwise_foldr_keepLater {entries : List (String × α)}
    (h : entries.Pairwise fun a b => ¬ Text.Before b.1 a.1) :
    (entries.foldr keepLater []).Pairwise fun a b => Text.Before a.1 b.1 := by
  induction entries with
  | nil => exact .nil
  | cons first rest ih =>
    obtain ⟨hFirst, hTail⟩ := List.pairwise_cons.1 h
    specialize ih hTail
    simp only [List.foldr_cons, keepLater]
    split
    · simp
    · next later others hRest =>
      rw [hRest] at ih
      split
      · exact ih
      · next hNe =>
        refine List.pairwise_cons.2 ⟨fun entry hEntry => ?_, ih⟩
        have hLater : Text.Before first.1 later.1 := by
          refine Decidable.byContradiction fun hNot => hNe (Text.eq_of_not_before hNot ?_)
          exact hFirst _ (mem_foldr_keepLater (hRest ▸ List.mem_cons_self))
        rcases List.mem_cons.1 hEntry with rfl | hEntry
        · exact hLater
        · exact Text.before_trans hLater ((List.pairwise_cons.1 ih).1 _ hEntry)

/-- Whether an entry may stand before another one: its name does not come after. -/
def notAfter (a b : String × α) : Bool := decide (¬ Text.Before b.1 a.1)

theorem notAfter_trans (a b c : String × α) (hab : notAfter a b = true)
    (hbc : notAfter b c = true) : notAfter a c = true := by
  simp only [notAfter, decide_eq_true_eq] at *
  intro hca
  rcases Decidable.em (Text.Before a.1 b.1) with h | h
  · exact hbc (Text.before_trans hca h)
  · exact hbc (Text.eq_of_not_before h hab ▸ hca)

theorem notAfter_total (a b : String × α) : (notAfter a b || notAfter b a) = true := by
  simp only [notAfter, Bool.or_eq_true, decide_eq_true_eq]
  rcases Decidable.em (Text.Before b.1 a.1) with h | h
  · exact .inr (Text.before_asymm h)
  · exact .inl h

/-- The map of a list of entries. Of several entries with one name, the last is kept. -/
def ofList (entries : List (String × α)) : NameMap α where
  entries := (entries.mergeSort notAfter).foldr keepLater []
  ascending := by
    apply pairwise_foldr_keepLater
    have hSorted := List.pairwise_mergeSort notAfter_trans notAfter_total entries
    exact hSorted.imp (by simp [notAfter])

end NameMap

/-- A set of names. -/
abbrev NameSet := NameMap Unit

namespace NameSet

/-- The members of a list. -/
def ofList (names : List String) : NameSet := NameMap.ofList (names.map fun name => (name, ()))

/-- Adds a name, and says whether it was new. -/
def add (set : NameSet) (name : String) : Bool × NameSet :=
  (!set.contains name, NameMap.insert set name ())

/-- Takes a name out, and says whether it was there. -/
def remove (set : NameSet) (name : String) : Bool × NameSet :=
  (set.contains name, NameMap.erase set name)

end NameSet

end ConfigExchange
