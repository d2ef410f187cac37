import Mathlib.Data.List.DropRight
import ImageRecipe.Json.Printer
import ImageRecipe.Json.Reader
import ImageRecipe.Proofs.Decimal.Digits
import ImageRecipe.Proofs.Mapping

/-!
# Reading back what was printed

The reader inverts the printer on all trees without doubles whose objects have distinct keys and
which nest no deeper than the reader goes.  The gaps behind commas are free, so the same holds of
arrays that are printed with spaces between their items.

* `Json.Legible` : the trees that their text leads back to
* `Json.readString_escaped`, `Json.readNumber_integerChars` : strings and whole numbers
* `Json.readValue_array`, `Json.readValue_object` : collections of what is read back
* `Json.readsBack_of_legible` : every legible tree, by induction on it
* `Json.parse_spacedArray` : a whole text that is an array with gaps
-/

namespace ImageRecipe.Json

open Decimal

variable {depth fuel : Nat} {gap rest : List Char}

mutual

/-- The tree nests at most this deep, has only whole numbers and no key twice. -/
def Legible : Nat → Json → Prop
  | _, .null | _, .bool _ | _, .whole _ | _, .string _ => True
  | _, .real _ => False
  | 0, .array _ | 0, .object _ => False
  | depth + 1, .array items => LegibleItems depth items
  | depth + 1, .object ⟨entries⟩ =>
    (entries.map Prod.fst).Nodup ∧ LegibleMembers depth entries

def LegibleItems : Nat → List Json → Prop
  | _, [] => True
  | depth, item :: rest => Legible depth item ∧ LegibleItems depth rest

def LegibleMembers : Nat → List (String × Json) → Prop
  | _, [] => True
  | depth, (_, value) :: rest => Legible depth value ∧ LegibleMembers depth rest

end

/-! ## Strings -/

/-- Four digits in base sixteen name a control character. -/
theorem hexFour?_control {n : Nat} (h : n < 0x20) :
    hexFour? '0' '0' (Text.hexDigit (n / 16)) (Text.hexDigit (n % 16)) = some n := by
  have hcontrols : ∀ n < 0x20,
      hexFour? '0' '0' (Text.hexDigit (n / 16)) (Text.hexDigit (n % 16)) = some n := by decide
  exact hcontrols n h

theorem readString_cons {c : Char} (hquote : c ≠ '"') (hbackslash : c ≠ '\\')
    (hshown : ¬c.toNat < 0x20) (cs : List Char) :
    readString (c :: cs) = (readString cs).map (consChar c) := by
  rw [readString.eq_def]
  -- of the clauses of the reader, only the last one is left to a character of this kind
  split
  · rename_i heq
    cases heq
  · rename_i heq
    exact absurd (List.cons.inj heq).1 hquote
  · rename_i heq
    exact absurd (List.cons.inj heq).1 hbackslash
  · rename_i heq
    exact absurd (List.cons.inj heq).1 hbackslash
  · rename_i heq
    obtain ⟨rfl, rfl⟩ := List.cons.inj heq
    rw [if_neg hshown]

theorem readString_escapedChar (c : Char) (cs : List Char) :
    readString (escapedChar c ++ cs) = (readString cs).map (consChar c) := by
  -- a control character is determined by its code
  have hcode : ∀ n, c.toNat = n → c = Char.ofNat n := by
    rintro n rfl
    exact (Char.ofNat_toNat c).symm
  unfold escapedChar
  iterate 5
    split
    · subst c
      rfl
  split
  · rename_i hbackspace
    rw [hcode _ hbackspace]
    rfl
  split
  · rename_i hfeed
    rw [hcode _ hfeed]
    rfl
  split
  · rename_i hcontrol
    have hbelow : c.toNat < 0xD800 ∨ 0xDFFF < c.toNat := .inl (by omega)
    simp only [List.cons_append, List.nil_append]
    rw [readString, hexFour?_control hcontrol]
    simp only [hbelow, if_true, Char.ofNat_toNat]
  · rename_i hquote hbackslash _ _ _ _ _ hshown
    exact readString_cons hquote hbackslash hshown cs

/-- The inside of a string is read up to its closing quote. -/
theorem readString_escaped (s rest : List Char) :
    readString (s.flatMap escapedChar ++ '"' :: rest) = some (s, rest) := by
  induction s with
  | nil => rfl
  | cons c s ih =>
      rw [List.flatMap_cons, List.append_assoc, readString_escapedChar, ih]
      rfl

/-! ## Whole numbers -/

/-- What follows does not go on with a number. -/
def EndsNumber (rest : List Char) : Prop :=
  ∀ c, rest.head? = some c → c.isDigit = false ∧ c ≠ '.' ∧ c ≠ 'e' ∧ c ≠ 'E'

theorem endsNumber_cons {c : Char} (hc : c = ',' ∨ c = ']' ∨ c = '}') (cs : List Char) :
    EndsNumber (c :: cs) := by
  intro d hd
  rw [List.head?_cons, Option.some.injEq] at hd
  subst hd
  rcases hc with rfl | rfl | rfl <;> decide

theorem spanDigits_naturalChars (n : Nat) (hrest : EndsNumber rest) :
    spanDigits (naturalChars n ++ rest) = (naturalChars n, rest) := by
  have hdigits := isDigit_of_mem_naturalChars n
  have hstop : rest.takeWhile Char.isDigit = [] ∧ rest.dropWhile Char.isDigit = rest := by
    cases rest with
    | nil => exact ⟨rfl, rfl⟩
    | cons c cs =>
        have hc : ¬c.isDigit = true := by
          rw [(hrest c rfl).1]
          exact Bool.false_ne_true
        exact ⟨List.takeWhile_cons_of_neg hc, List.dropWhile_cons_of_neg hc⟩
  rw [spanDigits, List.takeWhile_append_of_pos hdigits, List.dropWhile_append_of_pos hdigits,
    hstop.1, hstop.2, List.append_nil]

theorem absorb_append {n m : Nat} {ds : List Char} (h : absorb n ds = (m, []))
    (es : List Char) : absorb n (ds ++ es) = absorb m es := by
  induction ds generalizing n with
  | nil =>
      rw [absorb, Prod.mk.injEq] at h
      rw [List.nil_append, h.1]
  | cons c ds ih =>
      simp only [absorb] at h
      rw [List.cons_append]
      simp only [absorb]
      split at h
      · rename_i hfits
        rw [if_pos hfits]
        exact ih h
      · cases h

/-- All digits of a number count if it fits 64 bits. -/
theorem absorb_naturalChars {n : Nat} (h : n < 18446744073709551616) :
    absorb 0 (naturalChars n) = (n, []) := by
  have hone : ∀ m d, d < 10 → m * 10 + d < 18446744073709551616 →
      absorb m [digitChar d] = (m * 10 + d, []) := by
    intro m d hd hfits
    simp only [absorb, toNat_digitChar hd, hfits, if_true]
  -- along the recursion of the printer, which writes the last digit behind all others
  fun_induction naturalChars n with
  | case1 n hn =>
      have hdigit := hone 0 n hn (by omega)
      rw [Nat.zero_mul, Nat.zero_add] at hdigit
      exact hdigit
  | case2 n hn ih =>
      have hlast := hone (n / 10) (n % 10) (by omega) (by omega)
      rw [absorb_append (ih (by omega)), hlast, Nat.div_add_mod']

/-- A natural number has no fraction and no exponent, and no zero in front. -/
theorem readMagnitude_naturalChars (negative : Bool) (n : Nat) (hrest : EndsNumber rest) :
    readMagnitude negative (naturalChars n ++ rest) =
      (wholeOf? negative (naturalChars n)).map fun j => (j, rest) := by
  have hleading : ((naturalChars n).isEmpty ||
      (naturalChars n).head? == some '0' && (naturalChars n).length != 1) = false := by
    rw [Bool.or_eq_false_iff, Bool.and_eq_false_iff]
    refine ⟨List.isEmpty_eq_false_iff.mpr (naturalChars_ne_nil n), ?_⟩
    by_cases hzero : (naturalChars n).head? = some '0'
    · exact .inr (by rw [length_of_leading_zero hzero]; rfl)
    · exact .inl (beq_eq_false_iff_ne.mpr hzero)
  have hfraction : readFraction rest = some (none, rest) := by
    unfold readFraction
    split
    · exact absurd rfl (hrest '.' rfl).2.1
    · rfl
  have hexponent : readExponent rest = some (none, rest) := by
    unfold readExponent
    split
    · rename_i c cs
      rw [if_neg]
      rintro (rfl | rfl)
      · exact (hrest 'e' rfl).2.2.1 rfl
      · exact (hrest 'E' rfl).2.2.2 rfl
    · rfl
  simp only [readMagnitude, spanDigits_naturalChars n hrest]
  rw [hleading]
  simp only [Bool.false_eq_true, if_false, hfraction, hexponent, bind, Option.bind]
  cases wholeOf? negative (naturalChars n) <;> rfl

theorem exists_digit_naturalChars (n : Nat) :
    ∃ c cs, naturalChars n = c :: cs ∧ c.isDigit = true := by
  obtain ⟨c, cs, hcs⟩ := List.exists_cons_of_ne_nil (naturalChars_ne_nil n)
  exact ⟨c, cs, hcs, isDigit_of_mem_naturalChars n c (by rw [hcs]; exact List.mem_cons_self)⟩

/-- A whole number is read back. -/
theorem readNumber_integerChars (n : Whole) (hrest : EndsNumber rest) :
    readNumber (integerChars n.value ++ rest) = some (.whole n, rest) := by
  obtain ⟨value, hleast, hmost⟩ := n
  cases value with
  | ofNat n =>
      have hn : n < 18446744073709551616 := Int.ofNat_lt.mp hmost
      have hwhole : wholeOf? false (naturalChars n) = some (.whole ⟨.ofNat n, hleast, hmost⟩) := by
        rw [wholeOf?, absorb_naturalChars hn]
        simp [Json.ofNat, hn]
      obtain ⟨c, cs, hcs, hdigit⟩ := exists_digit_naturalChars n
      have hsign : readNumber (naturalChars n ++ rest) =
          readMagnitude false (naturalChars n ++ rest) := by
        rw [hcs, List.cons_append]
        unfold readNumber
        split
        · rename_i heq
          rw [(List.cons.inj heq).1] at hdigit
          exact absurd hdigit (by decide)
        · rfl
      rw [integerChars, hsign, readMagnitude_naturalChars false n hrest, hwhole]
      rfl
  | negSucc n =>
      have hn : n + 1 ≤ 9223372036854775808 := by
        rw [Int.negSucc_eq] at hleast
        omega
      have hwhole : wholeOf? true (naturalChars (n + 1)) =
          some (.whole ⟨.negSucc n, hleast, hmost⟩) := by
        rw [wholeOf?, absorb_naturalChars (by omega)]
        simp [hn, Int.negSucc_eq]
      rw [integerChars, List.cons_append, readNumber, readMagnitude_naturalChars true _ hrest,
        hwhole]
      rfl

/-! ## Gaps -/

theorem skipSpace_gap (hgap : gap.all isSpace = true) (cs : List Char) :
    skipSpace (gap ++ cs) = skipSpace cs := by
  rw [skipSpace, skipSpace, List.dropWhile_append_of_pos (List.all_eq_true.mp hgap)]

theorem skipSpace_cons {c : Char} (hc : isSpace c = false) (cs : List Char) :
    skipSpace (c :: cs) = c :: cs := by
  rw [skipSpace, List.dropWhile_cons_of_neg (by rw [hc]; exact Bool.false_ne_true)]

theorem skipSpace_skipSpace (cs : List Char) : skipSpace (skipSpace cs) = skipSpace cs :=
  List.dropWhile_idempotent isSpace cs

/-- A reader passes over the gap in front of it, so what it says depends only on what follows. -/
theorem readValue_of_skipSpace {cs ds : List Char} (h : skipSpace cs = skipSpace ds) :
    readValue fuel depth cs = readValue fuel depth ds := by
  cases fuel with
  | zero => rfl
  | succ fuel => rw [readValue, readValue, h]

theorem readItems_of_skipSpace {cs ds : List Char} (h : skipSpace cs = skipSpace ds) :
    readItems fuel depth cs = readItems fuel depth ds := by
  cases fuel with
  | zero => rfl
  | succ fuel => rw [readItems, readItems, readValue_of_skipSpace h]

theorem readMembers_of_skipSpace {cs ds : List Char} (h : skipSpace cs = skipSpace ds) :
    readMembers fuel depth cs = readMembers fuel depth ds := by
  cases fuel with
  | zero => rfl
  | succ fuel => rw [readMembers, readMembers, h]

/-- No item starts with the bracket that closes an array. -/
theorem readItems_close (cs : List Char) : readItems fuel depth (']' :: cs) = none := by
  have hbracket : isSpace ']' = false := by decide
  cases fuel with
  | zero => rfl
  | succ fuel =>
      have hvalue : readValue fuel depth (']' :: cs) = none := by
        cases fuel with
        | zero => rfl
        | succ fuel =>
            rw [readValue, skipSpace_cons hbracket]
            rfl
      rw [readItems, hvalue]

theorem readMembers_close (cs : List Char) : readMembers fuel depth ('}' :: cs) = none := by
  have hbrace : isSpace '}' = false := by decide
  cases fuel with
  | zero => rfl
  | succ fuel =>
      rw [readMembers, skipSpace_cons hbrace]
      rfl

/-! ## Arrays and objects -/

/-- In front of what ends a number, the text of the tree is read as the tree. -/
def ReadsBack (depth : Nat) (j : Json) : Prop :=
  ∀ fuel rest, EndsNumber rest → j.chars.length ≤ fuel →
    readValue fuel depth (j.chars ++ rest) = some (j, rest)

/-- Items with a comma and a gap between them. -/
def spacedItems (gap : List Char) : List Json → List Char
  | [] => []
  | [item] => item.chars
  | item :: next :: rest => item.chars ++ ',' :: (gap ++ spacedItems gap (next :: rest))

/-- The printer leaves no gaps. -/
theorem spacedItems_nil (items : List Json) : spacedItems [] items = itemsChars items := by
  induction items with
  | nil => rfl
  | cons item others ih =>
      cases others with
      | nil => rfl
      | cons next rest => rw [spacedItems, itemsChars, List.nil_append, ih]

theorem readItems_spacedItems {items : List Json} (hne : items ≠ [])
    (hitems : ∀ item ∈ items, ReadsBack depth item) (hgap : gap.all isSpace = true)
    (hfuel : (spacedItems gap items).length + 1 ≤ fuel) :
    readItems fuel depth (spacedItems gap items ++ ']' :: rest) = some (items, rest) := by
  have hcomma : isSpace ',' = false := by decide
  have hbracket : isSpace ']' = false := by decide
  -- each item takes one unit of fuel from the reader, and its text has a character at least
  induction items generalizing fuel with
  | nil => exact absurd rfl hne
  | cons item others ih =>
      obtain ⟨fuel, rfl⟩ : ∃ k, fuel = k + 1 := Nat.exists_eq_succ_of_ne_zero (by omega)
      rw [List.forall_mem_cons] at hitems
      obtain ⟨hread, hothers⟩ := hitems
      cases others with
      | nil =>
          rw [spacedItems] at hfuel ⊢
          have hitem := hread fuel (']' :: rest) (endsNumber_cons (by decide) _) (by omega)
          simp only [readItems, hitem, skipSpace_cons hbracket]
      | cons next others =>
          rw [spacedItems] at hfuel ⊢
          simp only [List.length_append, List.length_cons] at hfuel
          have hnext : readItems fuel depth
              (gap ++ (spacedItems gap (next :: others) ++ ']' :: rest)) =
              some (next :: others, rest) := by
            rw [readItems_of_skipSpace (skipSpace_gap hgap _)]
            exact ih (List.cons_ne_nil _ _) hothers (by omega)
          have hitem := hread fuel
            (',' :: (gap ++ (spacedItems gap (next :: others) ++ ']' :: rest)))
            (endsNumber_cons (by decide) _) (by omega)
          simp only [List.append_assoc, List.cons_append, readItems, hitem, skipSpace_cons hcomma,
            hnext, Option.map_some]

theorem readMembers_entriesChars {entries : List (String × Json)} (hne : entries ≠ [])
    (hentries : ∀ e ∈ entries, ReadsBack depth e.2)
    (hfuel : (entriesChars entries).length + 1 ≤ fuel) :
    readMembers fuel depth (entriesChars entries ++ '}' :: rest) = some (entries, rest) := by
  have hquote : isSpace '"' = false := by decide
  have hcolon : isSpace ':' = false := by decide
  have hcomma : isSpace ',' = false := by decide
  have hbrace : isSpace '}' = false := by decide
  have hkey : ∀ (key : String) (cs : List Char),
      stringChars key ++ cs = '"' :: (key.toList.flatMap escapedChar ++ '"' :: cs) := by
    intro key cs
    rw [stringChars, List.cons_append, List.append_assoc, List.singleton_append]
  induction entries generalizing fuel with
  | nil => exact absurd rfl hne
  | cons e others ih =>
      obtain ⟨key, value⟩ := e
      obtain ⟨fuel, rfl⟩ : ∃ k, fuel = k + 1 := Nat.exists_eq_succ_of_ne_zero (by omega)
      rw [List.forall_mem_cons] at hentries
      obtain ⟨hread, hothers⟩ := hentries
      cases others with
      | nil =>
          rw [entriesChars] at hfuel ⊢
          simp only [List.length_append, List.length_cons] at hfuel
          have hvalue := hread fuel ('}' :: rest) (endsNumber_cons (by decide) _)
            (by simp only; omega)
          rw [List.append_assoc, hkey, readMembers, skipSpace_cons hquote]
          simp only [readString_escaped, List.cons_append, skipSpace_cons hcolon, hvalue,
            skipSpace_cons hbrace, String.ofList_toList]
      | cons next others =>
          rw [entriesChars] at hfuel ⊢
          simp only [List.length_append, List.length_cons] at hfuel
          have hnext : readMembers fuel depth (entriesChars (next :: others) ++ '}' :: rest) =
              some (next :: others, rest) := ih (List.cons_ne_nil _ _) hothers (by omega)
          have hvalue := hread fuel (',' :: (entriesChars (next :: others) ++ '}' :: rest))
            (endsNumber_cons (by decide) _) (by simp only; omega)
          rw [List.append_assoc, hkey, readMembers, skipSpace_cons hquote]
          simp only [readString_escaped, List.cons_append, List.append_assoc,
            skipSpace_cons hcolon, hvalue, skipSpace_cons hcomma, hnext, Option.map_some,
            String.ofList_toList]

/-- An array is read back whatever the gaps behind its commas. -/
theorem readValue_array {items : List Json} (hitems : ∀ item ∈ items, ReadsBack depth item)
    (hgap : gap.all isSpace = true) (hfuel : (spacedItems gap items).length + 2 ≤ fuel) :
    readValue fuel (depth + 1) ('[' :: (spacedItems gap items ++ ']' :: rest)) =
      some (.array items, rest) := by
  obtain ⟨fuel, rfl⟩ : ∃ k, fuel = k + 1 := Nat.exists_eq_succ_of_ne_zero (by omega)
  have hopen : isSpace '[' = false := by decide
  have hclose : isSpace ']' = false := by decide
  rw [readValue, skipSpace_cons hopen]
  by_cases hne : items = []
  · subst hne
    simp only [spacedItems, List.nil_append, skipSpace_cons hclose]
  · have hread : readItems fuel depth (spacedItems gap items ++ ']' :: rest) =
        some (items, rest) := readItems_spacedItems hne hitems hgap (by omega)
    rw [← readItems_of_skipSpace (skipSpace_skipSpace _)] at hread
    simp only
    split
    · -- the items are read, so they do not start with the closing bracket
      rename_i heq
      rw [heq, readItems_close] at hread
      cases hread
    · rw [hread, Option.map_some]

theorem readValue_object {entries : List (String × Json)}
    (hkeys : (entries.map Prod.fst).Nodup) (hentries : ∀ e ∈ entries, ReadsBack depth e.2)
    (hfuel : (entriesChars entries).length + 2 ≤ fuel) :
    readValue fuel (depth + 1) ('{' :: (entriesChars entries ++ '}' :: rest)) =
      some (.object ⟨entries⟩, rest) := by
  obtain ⟨fuel, rfl⟩ : ∃ k, fuel = k + 1 := Nat.exists_eq_succ_of_ne_zero (by omega)
  have hopen : isSpace '{' = false := by decide
  have hclose : isSpace '}' = false := by decide
  rw [readValue, skipSpace_cons hopen]
  by_cases hne : entries = []
  · subst hne
    simp only [entriesChars, List.nil_append, skipSpace_cons hclose]
    rfl
  · have hread : readMembers fuel depth (entriesChars entries ++ '}' :: rest) =
        some (entries, rest) := readMembers_entriesChars hne hentries (by omega)
    rw [← readMembers_of_skipSpace (skipSpace_skipSpace _)] at hread
    simp only
    split
    · rename_i heq
      rw [heq, readMembers_close] at hread
      cases hread
    · rw [hread, Option.map_some, Mapping.ofList_eq hkeys]

/-! ## Trees -/

/-- A tree is read back if it has a text and, as soon as there is fuel, is read from it. -/
theorem ReadsBack.of_succ {j : Json} (hne : j.chars ≠ [])
    (h : ∀ fuel rest, EndsNumber rest →
      readValue (fuel + 1) depth (j.chars ++ rest) = some (j, rest)) : ReadsBack depth j := by
  intro fuel rest hrest hfuel
  have hlength := List.length_pos_of_ne_nil hne
  obtain ⟨fuel, rfl⟩ : ∃ k, fuel = k + 1 := Nat.exists_eq_succ_of_ne_zero (by omega)
  exact h fuel rest hrest

/-- What starts with a sign or a digit is a number. -/
theorem readValue_number {c : Char} (hc : c = '-' ∨ c.isDigit = true) (cs : List Char) :
    readValue (fuel + 1) depth (c :: cs) = readNumber (c :: cs) := by
  have hfirst : [' ', '\n', '\t', '\r', 'n', 't', 'f', '"', '[', '{'].all
      (fun d => !(d == '-' || d.isDigit)) = true := by decide
  have hother : ∀ d ∈ [' ', '\n', '\t', '\r', 'n', 't', 'f', '"', '[', '{'], c ≠ d := by
    rintro d hd rfl
    have hneither := List.all_eq_true.mp hfirst c hd
    rcases hc with hminus | hdigit
    · simp [hminus] at hneither
    · simp [hdigit] at hneither
  have hspace : isSpace c = false := by
    simp [isSpace, hother]
  rw [readValue, skipSpace_cons hspace]
  split <;> simp_all

theorem readsBack_whole (n : Whole) : ReadsBack depth (.whole n) := by
  have hfirst : ∃ c cs, integerChars n.value = c :: cs ∧ (c = '-' ∨ c.isDigit = true) := by
    cases n.value with
    | ofNat n =>
        obtain ⟨c, cs, hcs, hc⟩ := exists_digit_naturalChars n
        exact ⟨c, cs, hcs, .inr hc⟩
    | negSucc n => exact ⟨'-', naturalChars (n + 1), rfl, .inl rfl⟩
  obtain ⟨c, cs, hcs, hc⟩ := hfirst
  refine .of_succ (by rw [chars, hcs]; exact List.cons_ne_nil c cs) fun fuel rest hrest => ?_
  have hread := readNumber_integerChars n hrest
  rw [hcs, List.cons_append] at hread
  rw [chars, hcs, List.cons_append, readValue_number hc, hread]

theorem readsBack_string (s : String) : ReadsBack depth (.string s) := by
  have hquote : isSpace '"' = false := by decide
  refine .of_succ (by simp [chars, stringChars]) fun fuel rest _ => ?_
  rw [chars, stringChars, List.cons_append, List.append_assoc, List.singleton_append, readValue,
    skipSpace_cons hquote]
  simp only [readString_escaped, Option.map_some, String.ofList_toList]

mutual

/-- Every legible tree is read back from its text. -/
theorem readsBack_of_legible (j : Json) (depth : Nat) (h : j.Legible depth) :
    ReadsBack depth j := by
  cases j with
  | null => exact .of_succ (List.cons_ne_nil _ _) fun _ _ _ => rfl
  | bool b => cases b <;> exact .of_succ (List.cons_ne_nil _ _) fun _ _ _ => rfl
  | whole n => exact readsBack_whole n
  | real x => cases depth <;> exact h.elim
  | string s => exact readsBack_string s
  | array items =>
      cases depth with
      | zero => exact h.elim
      | succ depth =>
          have hitems := readsBack_items items depth h
          intro fuel rest _ hfuel
          rw [chars, ← spacedItems_nil] at hfuel ⊢
          simp only [List.length_cons, List.length_append, List.length_nil] at hfuel
          rw [List.cons_append, List.append_assoc, List.singleton_append]
          exact readValue_array hitems rfl hfuel
  | object members =>
      obtain ⟨entries⟩ := members
      cases depth with
      | zero => exact h.elim
      | succ depth =>
          obtain ⟨hkeys, hvalues⟩ :
            (entries.map Prod.fst).Nodup ∧ LegibleMembers depth entries := h
          have hentries := readsBack_members entries depth hvalues
          intro fuel rest _ hfuel
          rw [chars] at hfuel ⊢
          simp only [List.length_cons, List.length_append, List.length_nil] at hfuel
          rw [List.cons_append, List.append_assoc, List.singleton_append]
          exact readValue_object hkeys hentries hfuel

theorem readsBack_items (items : List Json) (depth : Nat) (h : LegibleItems depth items) :
    ∀ item ∈ items, ReadsBack depth item := by
  cases items with
  | nil => exact nofun
  | cons item rest =>
      rw [List.forall_mem_cons]
      exact ⟨readsBack_of_legible item depth h.1, readsBack_items rest depth h.2⟩

theorem readsBack_members (entries : List (String × Json)) (depth : Nat)
    (h : LegibleMembers depth entries) : ∀ e ∈ entries, ReadsBack depth e.2 := by
  cases entries with
  | nil => exact nofun
  | cons e rest =>
      obtain ⟨key, value⟩ := e
      rw [List.forall_mem_cons]
      exact ⟨readsBack_of_legible value depth h.1, readsBack_members rest depth h.2⟩

end

/-- A text that is an array of legible items with gaps behind its commas is read as that array. -/
theorem parse_spacedArray {s : String} {items : List Json} (hgap : gap.all isSpace = true)
    (hs : s.toList = '[' :: (spacedItems gap items ++ [']']))
    (hitems : (Json.array items).Legible maxDepth) : parse s = some (.array items) := by
  have hread : readValue (s.toList.length + 1) maxDepth s.toList = some (.array items, []) := by
    rw [hs]
    refine readValue_array (readsBack_items items 126 hitems) hgap ?_
    simp only [List.length_cons, List.length_append, List.length_nil]
    omega
  rw [parse]
  simp only [hread]
  rfl

end ImageRecipe.Json
