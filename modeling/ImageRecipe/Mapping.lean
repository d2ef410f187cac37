/-!
# Insertion-ordered dictionaries

A `Mapping` holds its entries in the order in which their keys first arrived.  Inserting a key
that is already there replaces the value and leaves the entry where it stands.

* `Mapping.insert`, `Mapping.get?`, `Mapping.contains` : one entry
* `Mapping.ofList`, `Mapping.extend`, `Mapping.merge` : many entries, later ones winning
* `Mapping.Distinct` : no key twice, which every mapping built by insertion satisfies
-/

namespace ImageRecipe

/-- String-keyed entries in order. -/
structure Mapping (α : Type) where
  entries : List (String × α)
  deriving Repr

namespace Mapping

variable {α : Type}

/-! ## Entry lists -/

/-- Replaces the value of the first entry under `key`, or appends an entry. -/
def insertEntry (key : String) (value : α) : List (String × α) → List (String × α)
  | [] => [(key, value)]
  | (name, old) :: rest =>
    if name = key then (name, value) :: rest else (name, old) :: insertEntry key value rest

/-- The value of the first entry under `key`. -/
def findEntry (key : String) : List (String × α) → Option α
  | [] => none
  | (name, value) :: rest => if name = key then some value else findEntry key rest

/-! ## Dictionaries -/

/-- The dictionary without entries. -/
def empty : Mapping α := ⟨[]⟩

instance : Inhabited (Mapping α) := ⟨empty⟩

/-- How many entries there are. -/
def size (m : Mapping α) : Nat := m.entries.length

/-- There is no entry. -/
def isEmpty (m : Mapping α) : Bool := m.entries.isEmpty

/-- The keys in order. -/
def keys (m : Mapping α) : List String := m.entries.map Prod.fst

/-- The value under a key. -/
def get? (m : Mapping α) (key : String) : Option α := findEntry key m.entries

/-- Whether a key has an entry, whatever its value. -/
def contains (m : Mapping α) (key : String) : Bool := m.entries.any fun e => e.1 = key

/-- Sets the value of a key; a key that is already there keeps its place. -/
def insert (m : Mapping α) (key : String) (value : α) : Mapping α :=
  ⟨insertEntry key value m.entries⟩

/-- The entry that arrived first. -/
def first? (m : Mapping α) : Option (String × α) := m.entries.head?

/-- Inserts every entry of `other`, in its order. -/
def extend (m other : Mapping α) : Mapping α :=
  other.entries.foldl (fun acc e => acc.insert e.1 e.2) m

/-- Inserts pairs one after the other, starting from nothing. -/
def ofList (pairs : List (String × α)) : Mapping α :=
  pairs.foldl (fun acc e => acc.insert e.1 e.2) empty

/-- Lays mappings over each other: the first layer that has a key decides its place, the last
one its value. -/
def merge (layers : List (Mapping α)) : Mapping α := layers.foldl extend empty

/-- No key has two entries. -/
def Distinct (m : Mapping α) : Prop := m.keys.Nodup

/-! ## What insertion does to each view -/

@[simp] theorem entries_empty : (empty : Mapping α).entries = [] := rfl

theorem findEntry_insertEntry (key other : String) (value : α) (es : List (String × α)) :
    findEntry other (insertEntry key value es) =
      if key = other then some value else findEntry other es := by
  induction es with
  | nil => simp [insertEntry, findEntry]
  | cons e rest ih =>
    obtain ⟨name, old⟩ := e
    by_cases hk : name = key
    · subst hk
      by_cases ho : name = other <;> simp [insertEntry, findEntry, ho]
    · by_cases ho : name = other
      · subst ho
        simp [insertEntry, findEntry, hk, Ne.symm hk]
      · simp [insertEntry, findEntry, hk, ho, ih]

theorem keys_insertEntry (key : String) (value : α) (es : List (String × α)) :
    (insertEntry key value es).map Prod.fst =
      if key ∈ es.map Prod.fst then es.map Prod.fst else es.map Prod.fst ++ [key] := by
  induction es with
  | nil => simp [insertEntry]
  | cons e rest ih =>
    obtain ⟨name, old⟩ := e
    by_cases hk : name = key
    · simp [insertEntry, hk]
    · simp only [insertEntry, hk, if_false, List.map_cons, ih, List.mem_cons, Ne.symm hk, false_or]
      split <;> simp

/-- Reading a key back after an insertion. -/
theorem get?_insert (m : Mapping α) (key other : String) (value : α) :
    (m.insert key value).get? other = if key = other then some value else m.get? other :=
  findEntry_insertEntry key other value m.entries

/-- The keys after an insertion. -/
theorem keys_insert (m : Mapping α) (key : String) (value : α) :
    (m.insert key value).keys = if key ∈ m.keys then m.keys else m.keys ++ [key] :=
  keys_insertEntry key value m.entries

theorem contains_iff {m : Mapping α} {key : String} : m.contains key = true ↔ key ∈ m.keys := by
  simp [contains, keys]

end Mapping

end ImageRecipe
