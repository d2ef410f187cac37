import ImageRecipe.Proofs.Mapping.History
import ImageRecipe.Value

/-!
# Layers of mappings

Mappings are laid over each other.  Places and values go by opposite rules: the first layer that
has a key decides where it stands, the last one what its value is.  Still, layers can be put
together in groups, which is what extensions being associative comes to.

* `Mapping.merge_eq_ofList` : the layers, one after the other, are one history
* `Mapping.Overlays`, `Mapping.overlays_merge` : keys and values of what is merged
* `Mapping.merge_append` : groups of layers can be merged first
* `Mapping.merge_laws` : the laws together
-/

namespace ImageRecipe.Mapping

variable {α : Type}

/-- Merging inserts the entries of all layers, in their order. -/
theorem merge_eq_ofList (layers : List (Mapping α)) :
    merge layers = ofList (layers.flatMap entries) := by
  rw [merge, ofList, List.foldl_flatMap]
  rfl

theorem distinct_merge (layers : List (Mapping α)) : (merge layers).Distinct := by
  rw [merge_eq_ofList]
  exact distinct_ofList _

theorem keys_merge (layers : List (Mapping α)) :
    (merge layers).keys = (layers.flatMap keys).eraseDups := by
  rw [merge_eq_ofList, keys_ofList, List.map_flatMap]
  rfl

/-- The last layer that has a key decides its value. -/
theorem get?_merge {layers : List (Mapping α)} (h : ∀ layer ∈ layers, layer.Distinct)
    (key : String) : (merge layers).get? key = layers.reverse.findSome? (·.get? key) := by
  rw [merge_eq_ofList, get?_ofList]
  induction layers with
  | nil => rfl
  | cons layer rest ih =>
      obtain ⟨hlayer, hrest⟩ := List.forall_mem_cons.mp h
      rw [List.flatMap_cons, lastValue?_append, ih hrest, lastValue?_entries hlayer,
        List.reverse_cons, List.findSome?_append, List.findSome?_singleton]

/-- What mappings laid over each other come to. -/
structure Overlays (m : Mapping α) (layers : List (Mapping α)) : Prop where
  /-- The keys of all layers stand in the order in which they first appear. -/
  keys : m.keys = (layers.flatMap Mapping.keys).eraseDups
  /-- A key has the value of the last layer that has the key. -/
  get? : ∀ key, m.get? key = layers.reverse.findSome? (·.get? key)
  /-- There is nothing but these keys with these values. -/
  entries : m.entries = m.keys.filterMap fun key =>
    (layers.reverse.findSome? (·.get? key)).map (key, ·)

theorem overlays_merge {layers : List (Mapping α)} (h : ∀ layer ∈ layers, layer.Distinct) :
    (merge layers).Overlays layers := by
  refine ⟨keys_merge layers, get?_merge h, ?_⟩
  rw [entries_eq_filterMap (distinct_merge layers)]
  simp only [get?_merge h]

theorem merge_concat (layers : List (Mapping α)) (layer : Mapping α) :
    merge (layers ++ [layer]) = (merge layers).extend layer := by
  rw [merge, List.foldl_append]
  rfl

/-- Layers can be merged in groups. -/
theorem merge_append (xs ys : List (Mapping α)) :
    merge (xs ++ ys) = merge [merge xs, merge ys] := by
  have hxs := distinct_merge xs
  rw [merge_pair hxs, merge_eq_ofList ys]
  -- the layers on the right go in one by one or merged, which is one extension inside another
  have hinner : ofList (ys.flatMap entries) = empty.extend ⟨ys.flatMap entries⟩ := rfl
  have hnothing : (merge xs).extend empty = merge xs := rfl
  rw [hinner, extend_assoc hxs distinct_empty, hnothing, merge_eq_ofList, merge_eq_ofList,
    List.flatMap_append, ofList_append]

/-- A layer without entries changes nothing, wherever it lies. -/
theorem merge_empty_middle (xs ys : List (Mapping α)) :
    merge (xs ++ empty :: ys) = merge (xs ++ ys) := by
  rw [merge_eq_ofList, merge_eq_ofList, List.flatMap_append, List.flatMap_append, List.flatMap_cons,
    entries_empty, List.nil_append]

/-- Keys that are there already change nothing. -/
theorem eraseDups_append_of_subset {keys more : List String} (h : more ⊆ keys) :
    (keys ++ more).eraseDups = keys.eraseDups := by
  have hnone : more.removeAll keys = [] :=
    List.filter_eq_nil_iff.mpr fun key hkey => by simp [h hkey]
  rw [List.eraseDups_append, hnone, List.eraseDups_nil, List.append_nil]

/-- What was laid over a mapping last changes nothing if it is laid over it again. -/
theorem extend_extend_self {m : Mapping α} (h : m.Distinct) (layer : Mapping α) :
    (m.extend layer).extend layer = m.extend layer := by
  have hextend := distinct_extend h layer
  refine eq_of_get? (distinct_extend hextend layer) ?_ fun key => ?_
  · have hthere : layer.keys ⊆ (m.extend layer).keys := by
      intro key hkey
      rw [keys_extend h, List.mem_eraseDups]
      exact List.mem_append_right _ hkey
    rw [keys_extend hextend, eraseDups_append_of_subset hthere, eraseDups_of_nodup hextend]
  · rw [get?_extend, get?_extend, ← Option.or_assoc, Option.or_self]

/-- A layer that was merged last changes nothing if it is merged once more. -/
theorem merge_again (layers : List (Mapping α)) (layer : Mapping α) :
    merge (layers ++ [layer, layer]) = merge (layers ++ [layer]) := by
  have hsplit : layers ++ [layer, layer] = layers ++ [layer] ++ [layer] := by simp
  rw [hsplit, merge_concat, merge_concat, extend_extend_self (distinct_merge layers)]

/-- Layers of variables are merged by rules that make them a monoid: the first layer with a key
decides its place and the last one its value; layers can be grouped, those without entries can be
left out, and the last one can be repeated. -/
theorem merge_laws :
    (∀ layers : List (Mapping Value), (∀ layer ∈ layers, layer.Distinct) →
      (merge layers).Overlays layers) ∧
    (∀ xs ys : List (Mapping Value), merge (xs ++ ys) = merge [merge xs, merge ys]) ∧
    (∀ xs ys : List (Mapping Value), merge (xs ++ empty :: ys) = merge (xs ++ ys)) ∧
    ∀ (xs : List (Mapping Value)) (layer : Mapping Value),
      merge (xs ++ [layer, layer]) = merge (xs ++ [layer]) ∧
      merge [merge (xs ++ [layer]), layer] = merge (xs ++ [layer]) := by
  refine ⟨fun layers => overlays_merge, merge_append, merge_empty_middle, fun xs layer => ?_⟩
  refine ⟨merge_again xs layer, ?_⟩
  rw [merge_pair (distinct_merge _), merge_concat, extend_extend_self (distinct_merge xs)]

/-- Three layers; each of the last two has a key of the one below it. -/
def stackedLayers : List (Mapping Value) :=
  [⟨[("a", .null), ("b", .bool true)]⟩, ⟨[("c", .null), ("a", .string "x")]⟩,
    ⟨[("d", .null), ("c", .bool false)]⟩]

/-- Keys stay where the lower layers have them and take values from the upper ones. -/
theorem merge_laws_stacked :
    (∀ layer ∈ stackedLayers, layer.Distinct) ∧
    (merge stackedLayers).entries =
      [("a", .string "x"), ("b", .bool true), ("c", .bool false), ("d", .null)] := by
  have hdistinct : ∀ layer ∈ stackedLayers, layer.Distinct := by
    simp [stackedLayers, Distinct, keys]
  have hoverlays := merge_laws.1 stackedLayers hdistinct
  refine ⟨hdistinct, ?_⟩
  rw [hoverlays.entries, hoverlays.keys]
  rfl

end ImageRecipe.Mapping
