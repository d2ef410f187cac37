import ImageRecipe.Instruction.Handler

/-!
# The registry of handlers

Handlers are registered one after the other; a table of them in the order of their keys is built
when it is first needed and kept until a registration or an explicit request drops it.  Each table
carries the number of its build, so that two answers can be told to come from one build.

* `HandlerTable` : handlers in key order
* `Registry.register` : adds a handler, or refuses it
* `Registry.table`, `Registry.rebuild`, `Registry.invalidate` : the kept table
* `Registry.lookup` : the handler for a name and a shape
-/

namespace ImageRecipe

/-! ## Tables -/

/-- Handlers in the order of their keys, and the number of the build that made them so. -/
structure HandlerTable where
  handlers : List Handler
  build : Nat

namespace HandlerTable

/-- Puts a handler in its place; one with the same key is replaced. -/
def insertSorted (h : Handler) : List Handler → List Handler
  | [] => [h]
  | g :: rest =>
    if h.key = g.key then h :: rest
    else if h.key.before g.key then h :: g :: rest
    else g :: insertSorted h rest

/-- The handlers in the order of their keys. -/
def sort (handlers : List Handler) : List Handler :=
  handlers.foldl (fun sorted h => insertSorted h sorted) []

/-- Sorting makes up no handler. -/
theorem mem_of_mem_insertSorted {g h : Handler} {sorted : List Handler}
    (hg : g ∈ insertSorted h sorted) : g = h ∨ g ∈ sorted := by
  induction sorted with
  | nil => simpa [insertSorted] using hg
  | cons f rest ih =>
      simp only [insertSorted] at hg
      split at hg
      · rcases List.mem_cons.mp hg with hg | hg
        · exact .inl hg
        · exact .inr (List.mem_cons_of_mem _ hg)
      · split at hg
        · exact List.mem_cons.mp hg
        · rcases List.mem_cons.mp hg with rfl | hg
          · exact .inr List.mem_cons_self
          · exact (ih hg).imp_right (List.mem_cons_of_mem _)

/-- Sorting makes up no handler. -/
theorem mem_of_mem_sort {g : Handler} {handlers : List Handler} (hg : g ∈ sort handlers) :
    g ∈ handlers := by
  have hfold : ∀ (hs sorted : List Handler),
      g ∈ hs.foldl (fun sorted h => insertSorted h sorted) sorted → g ∈ hs ∨ g ∈ sorted := by
    intro hs
    induction hs with
    | nil => exact fun _ hg => .inr hg
    | cons h rest ih =>
        intro sorted hg
        rcases ih _ hg with hg | hg
        · exact .inl (List.mem_cons_of_mem _ hg)
        · rcases mem_of_mem_insertSorted hg with rfl | hg
          · exact .inl List.mem_cons_self
          · exact .inr hg
  simpa using hfold handlers [] hg

/-- The handler with a key. -/
def find? (t : HandlerTable) (key : HandlerKey) : Option Handler :=
  t.handlers.find? fun h => h.key = key

/-- The handler for a name in any case and a shape. -/
def lookup (t : HandlerTable) (name : String) (shape : Shape) : Except InstructionError Handler :=
  match t.find? (.of name shape) with
  | some h => .ok h
  | none => .error (.noHandler (Text.asciiUpper name) shape)

theorem mem_of_lookup {t : HandlerTable} {name : String} {shape : Shape} {h : Handler}
    (hl : t.lookup name shape = .ok h) : h ∈ t.handlers := by
  simp only [lookup] at hl
  split at hl
  · cases hl
    exact List.mem_of_find?_eq_some ‹_›
  · cases hl

/-- A table finds a handler under no key but its own. -/
theorem key_of_lookup {t : HandlerTable} {name : String} {shape : Shape} {h : Handler}
    (hl : t.lookup name shape = .ok h) : h.key = .of name shape := by
  simp only [lookup] at hl
  split at hl
  · rename_i hfind
    cases hl
    simpa using List.find?_some hfind
  · cases hl

/-- What is not found is said to be missing, the name in capitals. -/
theorem error_of_lookup {t : HandlerTable} {name : String} {shape : Shape} {e : InstructionError}
    (hl : t.lookup name shape = .error e) : e = .noHandler (Text.asciiUpper name) shape := by
  simp only [lookup] at hl
  split at hl
  · cases hl
  · exact (Except.error.inj hl).symm

end HandlerTable

/-! ## Registries -/

/-- The registered handlers, the table that is kept, if any, and how many were built. -/
structure Registry where
  handlers : List Handler
  kept : Option HandlerTable := none
  builds : Nat := 0

namespace Registry

/-- No handlers and no table. -/
def empty : Registry := { handlers := [] }

/-- A table is kept. -/
def isBuilt (r : Registry) : Bool := r.kept.isSome

/-- Drops the kept table. -/
def invalidate (r : Registry) : Registry := { r with kept := none }

/-- Some handler is registered under the key. -/
def hasKey (r : Registry) (key : HandlerKey) : Bool := r.handlers.any fun h => h.key = key

/-- Adds a handler whose definition makes sense and whose key is new, and drops the table. -/
def register (r : Registry) (h : Handler) : Except InstructionError Registry :=
  match h.checkDefinition with
  | .error e => .error e
  | .ok () =>
    if r.hasKey h.key then .error (.definition h.instruction (.duplicate h.key.text))
    else .ok (invalidate { r with handlers := r.handlers ++ [h] })

/-- Adds handlers one after the other, up to the first that is refused. -/
def registerAll (r : Registry) : List Handler → Except InstructionError Registry
  | [] => .ok r
  | h :: rest =>
    match r.register h with
    | .ok r => r.registerAll rest
    | .error e => .error e

/-- Builds a table and keeps it, whatever was kept before. -/
def rebuild (r : Registry) : HandlerTable × Registry :=
  let t : HandlerTable := ⟨HandlerTable.sort r.handlers, r.builds⟩
  (t, { r with kept := some t, builds := r.builds + 1 })

/-- The kept table, built now if there is none. -/
def table (r : Registry) : HandlerTable × Registry :=
  match r.kept with
  | some t => (t, r)
  | none => r.rebuild

/-- The handler for a name in any case and a shape. -/
def lookup (r : Registry) (name : String) (shape : Shape) :
    Except InstructionError Handler × Registry :=
  let (t, r) := r.table
  (t.lookup name shape, r)

/-- Every handler in the order of the keys. -/
def inOrder (r : Registry) : List Handler × Registry :=
  let (t, r) := r.table
  (t.handlers, r)

end Registry

end ImageRecipe
