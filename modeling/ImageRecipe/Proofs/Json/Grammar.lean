import Mathlib.Data.List.TakeWhile
import ImageRecipe.Json.Grammar
import ImageRecipe.Proofs.Json.Reader

/-!
# The reader is strict

Whatever text the reader accepts belongs to the grammar.  Each part of the reader takes a part of
the grammar from the front of the characters and leaves the rest.

* `Json.isInside_of_readString`, `Json.isNumber_of_readNumber` : the tokens that carry data
* `Json.strict_of_fuel` : values, items and members, by induction on the fuel
* `Json.isText_of_parse` : whole texts
-/

namespace ImageRecipe.Json

/-! ## Gaps -/

/-- What is skipped is white space. -/
theorem exists_gap (cs : List Char) : ∃ gap, IsGap gap ∧ cs = gap ++ skipSpace cs := by
  refine ⟨cs.takeWhile isSpace, fun c hc => ?_, List.takeWhile_append_dropWhile.symm⟩
  have hspace : isSpace c = true := List.mem_takeWhile_imp hc
  simpa [isSpace, or_assoc] using hspace

/-! ## Strings -/

theorem isHexDigit_of_hexValue? {c : Char} {n : Nat} (h : hexValue? c = some n) :
    IsHexDigit c := by
  unfold hexValue? at h
  split at h
  · rename_i hc
    exact .inl hc
  split at h
  · rename_i hc
    exact .inr (.inl hc)
  split at h
  · rename_i hc
    exact .inr (.inr hc)
  · cases h

theorem isHexDigit_of_hexFour? {a b c d : Char} {n : Nat} (h : hexFour? a b c d = some n) :
    IsHexDigit a ∧ IsHexDigit b ∧ IsHexDigit c ∧ IsHexDigit d := by
  simp only [hexFour?, bind, Option.bind_eq_some_iff] at h
  obtain ⟨_, ha, _, hb, _, hc, _, hd, -⟩ := h
  exact ⟨isHexDigit_of_hexValue? ha, isHexDigit_of_hexValue? hb, isHexDigit_of_hexValue? hc,
    isHexDigit_of_hexValue? hd⟩

theorem mem_of_shortEscape? {c d : Char} (h : shortEscape? c = some d) :
    c ∈ ['"', '\\', '/', 'b', 'f', 'n', 'r', 't'] := by
  have hother : c ∉ ['"', '\\', '/', 'b', 'f', 'n', 'r', 't'] → shortEscape? c = none := by
    intro hc
    simp only [List.mem_cons, List.not_mem_nil, or_false, not_or] at hc
    simp only [shortEscape?, hc, if_false]
  by_contra hc
  rw [hother hc] at h
  cases h

theorem of_map_consChar {c : Char} {r : Option (List Char × List Char)} {s rest : List Char}
    (h : r.map (consChar c) = some (s, rest)) : ∃ others, r = some (others, rest) := by
  obtain ⟨⟨others, left⟩, hr, heq⟩ := Option.map_eq_some_iff.mp h
  obtain ⟨-, rfl⟩ : c :: others = s ∧ left = rest := Prod.mk.inj heq
  exact ⟨others, hr⟩

/-- A string is read up to a quote, and what stands before it is the inside of a string. -/
theorem isInside_of_readString {cs s rest : List Char} (h : readString cs = some (s, rest)) :
    ∃ inside, IsInside inside ∧ cs = inside ++ '"' :: rest := by
  -- the clauses that fail go first, then the closing quote, and one case for each escape
  fun_induction readString cs generalizing s rest with
  | case1 | case3 | case5 | case7 | case8 | case10 | case11 => cases h
  | case2 =>
      cases h
      exact ⟨[], .nil, rfl⟩
  | case4 a b c d cs n hcode _ ih =>
      obtain ⟨others, hothers⟩ := of_map_consChar h
      obtain ⟨inside, hinside, rfl⟩ := ih hothers
      obtain ⟨ha, hb, hc, hd⟩ := isHexDigit_of_hexFour? hcode
      exact ⟨_, .code ha hb hc hd hinside, rfl⟩
  | case6 a b c d high hhigh _ e f g k cs low hlow _ ih =>
      obtain ⟨others, hothers⟩ := of_map_consChar h
      obtain ⟨inside, hinside, rfl⟩ := ih hothers
      obtain ⟨ha, hb, hc, hd⟩ := isHexDigit_of_hexFour? hhigh
      obtain ⟨he, hf, hg, hk⟩ := isHexDigit_of_hexFour? hlow
      exact ⟨_, .code ha hb hc hd (.code he hf hg hk hinside), rfl⟩
  | case9 c cs _ e hletter ih =>
      obtain ⟨others, hothers⟩ := of_map_consChar h
      obtain ⟨inside, hinside, rfl⟩ := ih hothers
      exact ⟨_, .letter (mem_of_shortEscape? hletter) hinside, rfl⟩
  | case12 c cs hquote _ hescape hshown ih =>
      obtain ⟨others, hothers⟩ := of_map_consChar h
      obtain ⟨inside, hinside, rfl⟩ := ih hothers
      have hbackslash : c ≠ '\\' := by
        rintro rfl
        -- there is a character behind it, so it starts an escape
        cases inside with
        | nil => exact hescape _ _ rfl rfl
        | cons d ds => exact hescape _ _ rfl rfl
      exact ⟨_, .plain hquote hbackslash (by omega) hinside, rfl⟩

/-! ## Numbers -/

theorem isDigits_of_spanDigits {cs digits rest : List Char} (h : spanDigits cs = (digits, rest))
    (hne : digits ≠ []) : IsDigits digits ∧ cs = digits ++ rest := by
  obtain ⟨rfl, rfl⟩ := Prod.mk.inj h
  refine ⟨⟨hne, fun c hc => ?_⟩, List.takeWhile_append_dropWhile.symm⟩
  have hdigit : c.isDigit = true := List.mem_takeWhile_imp hc
  simp only [Char.isDigit, Bool.and_eq_true, decide_eq_true_eq] at hdigit
  exact hdigit

theorem isFraction_of_readFraction {cs rest : List Char} {fraction : Option (List Char)}
    (h : readFraction cs = some (fraction, rest)) :
    ∃ text, IsFraction text ∧ cs = text ++ rest := by
  unfold readFraction at h
  split at h
  · rename_i cs
    split at h
    · cases h
    · rename_i digits left hne hspan
      cases h
      obtain ⟨hdigits, rfl⟩ := isDigits_of_spanDigits hspan hne
      exact ⟨_, .some hdigits, rfl⟩
  · cases h
    exact ⟨[], .none, rfl⟩

theorem splitSign_eq (cs : List Char) :
    ∃ sign ∈ [[], ['+'], ['-']], cs = sign ++ (Decimal.splitSign cs).2 := by
  unfold Decimal.splitSign
  split
  · exact ⟨['-'], by decide, rfl⟩
  · exact ⟨['+'], by decide, rfl⟩
  · exact ⟨[], by decide, rfl⟩

theorem isExponent_of_readExponent {cs rest : List Char} {exponent : Option Int}
    (h : readExponent cs = some (exponent, rest)) :
    ∃ text, IsExponent text ∧ cs = text ++ rest := by
  unfold readExponent at h
  split at h
  · rename_i c cs
    split at h
    · rename_i hletter
      obtain ⟨sign, hsign, hcs⟩ := splitSign_eq cs
      simp only at h
      split at h
      · cases h
      · rename_i hne hspan
        obtain ⟨hdigits, hbehind⟩ := isDigits_of_spanDigits hspan hne
        cases h
        have hmem : c ∈ ['e', 'E'] := by simpa using hletter
        refine ⟨_, .some hmem hsign hdigits, ?_⟩
        rw [hcs, hbehind, List.cons_append, List.append_assoc]
    · cases h
      exact ⟨[], .none, rfl⟩
  · cases h
    exact ⟨[], .none, rfl⟩

theorem isNumber_of_readMagnitude {negative : Bool} {cs rest : List Char} {j : Json}
    {sign : List Char} (hsign : sign ∈ [[], ['-']])
    (h : readMagnitude negative cs = some (j, rest)) :
    ∃ text, IsNumber (sign ++ text) ∧ cs = text ++ rest := by
  unfold readMagnitude at h
  cases hspan : spanDigits cs with
  | mk digits left =>
      simp only [hspan] at h
      split at h
      · cases h
      · rename_i hleading
        simp only [bind, Option.bind_eq_some_iff] at h
        obtain ⟨⟨fraction, behind⟩, hfraction, ⟨exponent, last⟩, hexponent, hnumber⟩ := h
        obtain rfl : last = rest := by
          split at hnumber <;>
          · obtain ⟨_, -, heq⟩ := Option.bind_eq_some_iff.mp hnumber
            cases heq
            rfl
        have hne : digits ≠ [] := by
          rintro rfl
          exact hleading rfl
        have hzero : digits.head? = some '0' → digits = ['0'] := by
          intro hhead
          cases digits with
          | nil => exact absurd rfl hne
          | cons d ds =>
              rw [List.head?_cons, Option.some.injEq] at hhead
              subst hhead
              cases ds with
              | nil => rfl
              | cons e es => exact absurd rfl hleading
        obtain ⟨hdigits, rfl⟩ := isDigits_of_spanDigits hspan hne
        obtain ⟨fractionText, hfractionText, rfl⟩ := isFraction_of_readFraction hfraction
        obtain ⟨exponentText, hexponentText, rfl⟩ := isExponent_of_readExponent hexponent
        refine ⟨digits ++ (fractionText ++ exponentText), ?_, by simp only [List.append_assoc]⟩
        exact .mk hsign hdigits hzero hfractionText hexponentText

theorem isNumber_of_readNumber {cs rest : List Char} {j : Json}
    (h : readNumber cs = some (j, rest)) : ∃ text, IsNumber text ∧ cs = text ++ rest := by
  have hminus : ['-'] ∈ [[], ['-']] := by decide
  have hnone : [] ∈ [[], ['-']] := by decide
  unfold readNumber at h
  split at h
  · obtain ⟨text, htext, rfl⟩ := isNumber_of_readMagnitude hminus h
    exact ⟨_, htext, rfl⟩
  · exact isNumber_of_readMagnitude hnone h

/-! ## Trees -/

/-- With this fuel, what is read is taken from the front of the characters and belongs to the
grammar; what closes a collection is taken too. -/
structure Strict (fuel : Nat) : Prop where
  value : ∀ {depth cs j rest}, readValue fuel depth cs = some (j, rest) →
    ∃ gap text, IsGap gap ∧ IsValue text ∧ cs = gap ++ (text ++ rest)
  items : ∀ {depth cs items rest}, readItems fuel depth cs = some (items, rest) →
    ∃ text, IsElements text ∧ cs = text ++ ']' :: rest
  members : ∀ {depth cs members rest}, readMembers fuel depth cs = some (members, rest) →
    ∃ text, IsMembers text ∧ cs = text ++ '}' :: rest

section Step

variable {fuel depth : Nat} {cs rest : List Char}

/-- One step of the reader of values, from what it does with less fuel. -/
theorem Strict.isValue_of_readValue (hfuel : Strict fuel) {j : Json}
    (h : readValue (fuel + 1) depth cs = some (j, rest)) :
    ∃ text, IsValue text ∧ skipSpace cs = text ++ rest := by
  rw [readValue] at h
  split at h
  · rename_i heq
    cases h
    exact ⟨_, .null, heq⟩
  · rename_i heq
    cases h
    exact ⟨_, .true, heq⟩
  · rename_i heq
    cases h
    exact ⟨_, .false, heq⟩
  · rename_i heq
    obtain ⟨⟨s, left⟩, hstring, hpair⟩ := Option.map_eq_some_iff.mp h
    cases hpair
    obtain ⟨inside, hinside, rfl⟩ := isInside_of_readString hstring
    exact ⟨_, .string hinside, by simpa using heq⟩
  · rename_i inner heq
    cases depth with
    | zero => cases h
    | succ depth =>
        simp only at h
        split at h
        · rename_i left hclose
          cases h
          obtain ⟨gap, hgap, hinner⟩ := exists_gap inner
          rw [heq, hinner, hclose]
          exact ⟨_, .emptyArray hgap, by simp⟩
        · obtain ⟨⟨items, left⟩, hitems, hpair⟩ := Option.map_eq_some_iff.mp h
          cases hpair
          rw [readItems_of_skipSpace (skipSpace_skipSpace _)] at hitems
          obtain ⟨text, htext, hinner⟩ := hfuel.items hitems
          rw [heq, hinner]
          exact ⟨_, .array htext, by simp⟩
  · rename_i inner heq
    cases depth with
    | zero => cases h
    | succ depth =>
        simp only at h
        split at h
        · rename_i left hclose
          cases h
          obtain ⟨gap, hgap, hinner⟩ := exists_gap inner
          rw [heq, hinner, hclose]
          exact ⟨_, .emptyObject hgap, by simp⟩
        · obtain ⟨⟨members, left⟩, hmembers, hpair⟩ := Option.map_eq_some_iff.mp h
          cases hpair
          rw [readMembers_of_skipSpace (skipSpace_skipSpace _)] at hmembers
          obtain ⟨text, htext, hinner⟩ := hfuel.members hmembers
          rw [heq, hinner]
          exact ⟨_, .object htext, by simp⟩
  · obtain ⟨text, htext, hcs⟩ := isNumber_of_readNumber h
    exact ⟨text, .number htext, hcs⟩

/-- A value that is read, with the gap in front of it and the one behind it. -/
theorem Strict.isElement_of_readValue (hfuel : Strict fuel) {j : Json}
    (h : readValue fuel depth cs = some (j, rest)) :
    ∃ text, IsElement text ∧ cs = text ++ skipSpace rest := by
  obtain ⟨before, text, hbefore, htext, rfl⟩ := hfuel.value h
  obtain ⟨behind, hbehind, hrest⟩ := exists_gap rest
  exact ⟨_, .mk hbefore htext hbehind, by simp only [List.append_assoc, ← hrest]⟩

theorem Strict.isElements_of_readItems (hfuel : Strict fuel) {items : List Json}
    (h : readItems (fuel + 1) depth cs = some (items, rest)) :
    ∃ text, IsElements text ∧ cs = text ++ ']' :: rest := by
  rw [readItems] at h
  split at h
  · cases h
  · rename_i item left hitem
    obtain ⟨text, htext, hcs⟩ := hfuel.isElement_of_readValue hitem
    split at h
    · rename_i hclose
      cases h
      exact ⟨text, .one htext, by rw [hcs, hclose]⟩
    · rename_i hcomma
      obtain ⟨⟨others, last⟩, hothers, hpair⟩ := Option.map_eq_some_iff.mp h
      cases hpair
      obtain ⟨more, hmore, rfl⟩ := hfuel.items hothers
      exact ⟨_, .more htext hmore, by rw [hcs, hcomma]; simp⟩
    · cases h

theorem Strict.isMembers_of_readMembers (hfuel : Strict fuel) {members : List (String × Json)}
    (h : readMembers (fuel + 1) depth cs = some (members, rest)) :
    ∃ text, IsMembers text ∧ cs = text ++ '}' :: rest := by
  obtain ⟨before, hbefore, hcs⟩ := exists_gap cs
  -- a key, a colon, a value, and what closes the object or goes on with it
  rw [readMembers] at h
  split at h
  · rename_i hquote
    split at h
    · cases h
    · rename_i key behindKey hkey
      obtain ⟨inside, hinside, hinner⟩ := isInside_of_readString hkey
      obtain ⟨behind, hbehind, hbehindKey⟩ := exists_gap behindKey
      split at h
      · rename_i hcolon
        split at h
        · cases h
        · rename_i value left hvalue
          obtain ⟨text, htext, hafter⟩ := hfuel.isElement_of_readValue hvalue
          have hmember := IsMember.mk hbefore hinside hbehind htext
          simp only at h
          split at h
          · rename_i hclose
            cases h
            refine ⟨_, .one hmember, ?_⟩
            rw [hcs, hquote, hinner, hbehindKey, hcolon, hafter, hclose]
            simp
          · rename_i hcomma
            obtain ⟨⟨others, last⟩, hothers, hpair⟩ := Option.map_eq_some_iff.mp h
            cases hpair
            obtain ⟨more, hmore, hrest⟩ := hfuel.members hothers
            refine ⟨_, .more hmember hmore, ?_⟩
            rw [hcs, hquote, hinner, hbehindKey, hcolon, hafter, hcomma, hrest]
            simp
          · cases h
      · cases h
  · cases h

end Step

/-- The reader is strict whatever its fuel. -/
theorem strict_of_fuel (fuel : Nat) : Strict fuel := by
  induction fuel with
  | zero => exact ⟨nofun, nofun, nofun⟩
  | succ fuel ih =>
      refine ⟨fun {depth cs j rest} h => ?_, ih.isElements_of_readItems,
        ih.isMembers_of_readMembers⟩
      obtain ⟨gap, hgap, hcs⟩ := exists_gap cs
      obtain ⟨text, htext, hskip⟩ := ih.isValue_of_readValue h
      exact ⟨gap, text, hgap, htext, by rw [hcs, hskip]⟩

/-- Every text that is read is one of the grammar. -/
theorem isText_of_parse {s : String} {j : Json} (h : parse s = some j) : IsText s := by
  unfold parse at h
  simp only at h
  split at h
  · rename_i k rest hread
    split at h
    · rename_i hend
      obtain ⟨text, htext, hs⟩ := (strict_of_fuel _).isElement_of_readValue hread
      rw [List.isEmpty_iff.mp hend, List.append_nil] at hs
      unfold IsText
      rw [hs]
      exact htext
    · cases h
  · cases h

end ImageRecipe.Json
