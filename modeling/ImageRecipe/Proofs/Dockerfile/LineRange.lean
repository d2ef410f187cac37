import Mathlib.Order.Monotone.Basic
import ImageRecipe.Dockerfile.Verification
import ImageRecipe.Proofs.Results

/-!
# The lines that verification reports

A line index is built of characters and asked for bytes.  Only the line feed is encoded by the byte
of a line feed, so that what the index counts are these bytes, whatever else the text holds.  From
that follows how the lines of a statement lie, and those of two statements.

* `lineAt_ofText` : the line of an offset counts the line feeds in front of it
* `Placed.startLine_le_endLine`, `Placed.endLine_le_lines`, `Placed.endLine_of_lineFeed` : the lines
  of one statement
* `Placed.endLine_lt_startLine`, `Placed.endLine_le_startLine` : those of two statements
* `InOrder`, `inOrder_statements` : the statements of a text follow each other
* `reported_line_ranges` : what is reported
-/

namespace ImageRecipe.Dockerfile

open LineIndex

/-! ## Bytes -/

/-- The byte that ends a line. -/
def lineFeed : UInt8 := 10

/-- The bytes of a text. -/
def bytes (s : String) : List UInt8 := s.toUTF8.data.toList

/-- How many line feeds stand at offsets below one. -/
def lineFeedsBefore (s : String) (offset : Nat) : Nat := ((bytes s).take offset).count lineFeed

theorem bytes_eq (s : String) : bytes s = s.toList.flatMap String.utf8EncodeChar := by
  have hencoded : s.toUTF8 = s.toList.utf8Encode := String.utf8Encode_toList.symm
  rw [bytes, hencoded, List.utf8Encode, List.toList_data_toByteArray]

theorem utf8EncodeChar_lineFeed : String.utf8EncodeChar '\n' = [lineFeed] := rfl

/-- The bytes that are encoded together with others are from `0x80` on. -/
theorem lineFeed_ne_ofNat {n : Nat} (hlow : 0x80 ≤ n) (hhigh : n < 0x100) :
    lineFeed ≠ UInt8.ofNat n := by
  intro heq
  have hten : 10 = n % 256 := by simpa [lineFeed] using congrArg UInt8.toNat heq
  omega

/-- No other character has the byte of a line feed in its encoding. -/
theorem lineFeed_notMem_utf8EncodeChar {c : Char} (h : c ≠ '\n') :
    lineFeed ∉ String.utf8EncodeChar c := by
  fun_cases String.utf8EncodeChar c with
  | case1 value hsmall =>
      have hvalue : value ≠ 10 := fun hten => h (Char.ext (UInt32.toNat.inj hten))
      intro hmem
      have hten : 10 = value % 256 := by
        simpa [lineFeed] using congrArg UInt8.toNat (List.mem_singleton.mp hmem)
      omega
  | case2 =>
      simp only [List.mem_cons, List.not_mem_nil, or_false, not_or]
      refine ⟨?_, ?_⟩ <;> exact lineFeed_ne_ofNat (by omega) (by omega)
  | case3 =>
      simp only [List.mem_cons, List.not_mem_nil, or_false, not_or]
      refine ⟨?_, ?_, ?_⟩ <;> exact lineFeed_ne_ofNat (by omega) (by omega)
  | case4 =>
      simp only [List.mem_cons, List.not_mem_nil, or_false, not_or]
      refine ⟨?_, ?_, ?_, ?_⟩ <;> exact lineFeed_ne_ofNat (by omega) (by omega)

theorem count_take_utf8EncodeChar {c : Char} (h : c ≠ '\n') (n : Nat) :
    ((String.utf8EncodeChar c).take n).count lineFeed = 0 :=
  List.count_eq_zero.mpr fun hmem => lineFeed_notMem_utf8EncodeChar h (List.mem_of_mem_take hmem)

/-! ## The line of an offset -/

/-- The index that is built from an offset on knows the line feeds from there. -/
theorem length_takeWhile_newlinesFrom (cs : List Char) (offset stop : Nat) :
    ((newlinesFrom offset cs).takeWhile (· < stop)).length =
      ((cs.flatMap String.utf8EncodeChar).take (stop - offset)).count lineFeed := by
  induction cs generalizing offset with
  | nil => simp [newlinesFrom]
  | cons c rest ih =>
      have hrest := ih (offset + c.utf8Size)
      rw [← Nat.sub_sub] at hrest
      rw [List.flatMap_cons, List.take_append, List.count_append, String.length_utf8EncodeChar,
        ← hrest]
      by_cases hc : c = '\n'
      · subst hc
        by_cases hstop : offset < stop
        · obtain ⟨n, hn⟩ : ∃ n, stop - offset = n + 1 := ⟨stop - offset - 1, by omega⟩
          rw [newlinesFrom, if_pos rfl, List.takeWhile_cons_of_pos (by simpa using hstop),
            List.length_cons, utf8EncodeChar_lineFeed, hn, List.take_succ_cons, List.take_nil,
            List.count_singleton_self, Nat.add_comm]
        · have hnone : stop - offset = 0 := by omega
          rw [hnone, Nat.zero_sub, List.take_zero, List.count_nil] at hrest
          rw [newlinesFrom, if_pos rfl, List.takeWhile_cons_of_neg (by simpa using hstop), hnone,
            List.take_zero, List.count_nil, hrest, List.length_nil]
      · rw [newlinesFrom, if_neg hc, count_take_utf8EncodeChar hc, Nat.zero_add]

theorem lineAt_ofText (s : String) (offset : Nat) :
    (ofText s).lineAt offset = 1 + lineFeedsBefore s offset := by
  rw [lineAt, ofText, length_takeWhile_newlinesFrom, Nat.sub_zero, ← bytes_eq, Nat.add_comm]
  rfl

theorem lineFeedsBefore_mono (s : String) {m n : Nat} (h : m ≤ n) :
    lineFeedsBefore s m ≤ lineFeedsBefore s n :=
  (List.take_prefix_take_left h).sublist.count_le lineFeed

theorem lineFeedsBefore_le (s : String) (offset : Nat) :
    lineFeedsBefore s offset ≤ (bytes s).count lineFeed :=
  (List.take_sublist offset (bytes s)).count_le lineFeed

/-- Behind a line feed there is one more. -/
theorem lineFeedsBefore_succ {s : String} {offset : Nat}
    (h : (bytes s)[offset]? = some lineFeed) :
    lineFeedsBefore s (offset + 1) = lineFeedsBefore s offset + 1 := by
  rw [lineFeedsBefore, List.take_add_one, h, List.count_append]
  rfl

theorem lineAt_mono (s : String) : Monotone (ofText s).lineAt := by
  intro m n h
  rw [lineAt_ofText, lineAt_ofText]
  exact Nat.add_le_add_left (lineFeedsBefore_mono s h) 1

/-! ## The lines of statements -/

namespace Placed

variable {s : String} {p q : Placed}

theorem startLine_report (s : String) (p : Placed) :
    (p.report (.ofText s)).startLine = 1 + lineFeedsBefore s p.span.start :=
  lineAt_ofText s p.span.start

/-- The last byte of a span decides where it ends. -/
theorem endLine_report (h : p.span.start < p.span.stop) :
    (p.report (.ofText s)).endLine = 1 + lineFeedsBefore s (p.span.stop - 1) := by
  rw [← lineAt_ofText]
  exact if_pos h

theorem endLine_report_empty (h : ¬ p.span.start < p.span.stop) :
    (p.report (.ofText s)).endLine = (p.report (.ofText s)).startLine :=
  if_neg h

theorem startLine_le_endLine (s : String) (p : Placed) :
    (p.report (.ofText s)).startLine ≤ (p.report (.ofText s)).endLine := by
  by_cases h : p.span.start < p.span.stop
  · rw [startLine_report, endLine_report h]
    exact Nat.add_le_add_left (lineFeedsBefore_mono s (by omega)) 1
  · exact Nat.le_of_eq (endLine_report_empty h).symm

theorem endLine_le_lines (s : String) (p : Placed) :
    (p.report (.ofText s)).endLine ≤ 1 + (bytes s).count lineFeed := by
  by_cases h : p.span.start < p.span.stop
  · rw [endLine_report h]
    exact Nat.add_le_add_left (lineFeedsBefore_le s _) 1
  · rw [endLine_report_empty h, startLine_report]
    exact Nat.add_le_add_left (lineFeedsBefore_le s _) 1

/-- The line feed that a span ends with closes the line that the span ends on. -/
theorem endLine_of_lineFeed (h : p.span.start < p.span.stop)
    (hlast : (bytes s)[p.span.stop - 1]? = some lineFeed) :
    (p.report (.ofText s)).endLine = lineFeedsBefore s p.span.stop := by
  have hbehind : p.span.stop - 1 + 1 = p.span.stop := by omega
  rw [endLine_report h, Nat.add_comm, ← lineFeedsBefore_succ hlast, hbehind]

/-- A line feed from the last byte of one statement on, and in front of another, separates their
lines. -/
theorem endLine_lt_startLine {offset : Nat} (h : p.span.start < p.span.stop)
    (hfeed : (bytes s)[offset]? = some lineFeed) (hfrom : p.span.stop - 1 ≤ offset)
    (hto : offset < q.span.start) :
    (p.report (.ofText s)).endLine < (q.report (.ofText s)).startLine := by
  have hbefore := lineFeedsBefore_mono s hfrom
  have hbehind := lineFeedsBefore_mono s (Nat.succ_le_of_lt hto)
  rw [Nat.succ_eq_add_one, lineFeedsBefore_succ hfeed] at hbehind
  rw [endLine_report h, startLine_report]
  omega

theorem endLine_le_startLine (h : p.span.start ≤ p.span.stop)
    (hbehind : p.span.stop ≤ q.span.start) :
    (p.report (.ofText s)).endLine ≤ (q.report (.ofText s)).startLine := by
  by_cases hsome : p.span.start < p.span.stop
  · rw [endLine_report hsome, startLine_report]
    exact Nat.add_le_add_left (lineFeedsBefore_mono s (by omega)) 1
  · rw [endLine_report_empty hsome, startLine_report, startLine_report]
    exact Nat.add_le_add_left (lineFeedsBefore_mono s (by omega)) 1

end Placed

/-! ## The statements of a text -/

/-- Statements that follow each other. -/
structure InOrder (placed : List Placed) : Prop where
  /-- None ends before it starts. -/
  forward : ∀ p ∈ placed, p.span.start ≤ p.span.stop
  /-- Each starts where the ones before it have ended. -/
  apart : placed.Pairwise fun p q => p.span.stop ≤ q.span.start

theorem InOrder.concat {placed : List Placed} (h : InOrder placed) {p : Placed}
    (hforward : p.span.start ≤ p.span.stop)
    (hbehind : ∀ q ∈ placed, q.span.stop ≤ p.span.start) : InOrder (placed ++ [p]) where
  forward q hq := by
    rcases List.mem_append.mp hq with hq | hq
    · exact h.forward q hq
    · exact List.mem_singleton.mp hq ▸ hforward
  apart := by
    rw [List.pairwise_append]
    refine ⟨h.apart, List.pairwise_singleton _ _, fun q hq r hr => ?_⟩
    exact List.mem_singleton.mp hr ▸ hbehind q hq

/-- One round of the search: at most one statement is found, behind the offset, and what is left
starts behind it. -/
theorem statementsFrom_succ {fuel offset : Nat} {cs : Rest} {done placed : List Placed}
    (h : statementsFrom (fuel + 1) offset cs done = .ok placed) :
    ∃ grown behind,
      (grown = done ∧ offset ≤ behind ∨
        ∃ p, grown = p :: done ∧ offset ≤ p.span.start ∧ p.span.start ≤ p.span.stop ∧
          p.span.stop ≤ behind) ∧
      (placed = grown.reverse ∨ ∃ next, statementsFrom fuel behind next grown = .ok placed) := by
  rw [statementsFrom] at h
  cases hstatement : statement (skipSpaces cs) with
  | none =>
      simp only [hstatement] at h
      split at h
      · exact ⟨done, offset, .inl ⟨rfl, Nat.le_refl offset⟩, .inl (Except.ok.inj h).symm⟩
      · split at h
        · refine ⟨done, _, .inl ⟨rfl, ?_⟩, .inr ⟨_, h⟩⟩
          omega
        · cases h
  | some found =>
      simp only [hstatement] at h
      split at h
      · refine ⟨_, _, .inr ⟨_, rfl, ?_, ?_, Nat.le_refl _⟩, .inl (Except.ok.inj h).symm⟩
        · exact Nat.le_add_right _ _
        · exact Nat.le_add_right _ _
      · split at h
        · refine ⟨_, _, .inr ⟨_, rfl, ?_, ?_, ?_⟩, .inr ⟨_, h⟩⟩
          · exact Nat.le_add_right _ _
          · exact Nat.le_add_right _ _
          · dsimp only
            omega
        · cases h

/-- Offsets only grow, so what is found from an offset on stands behind what was found before. -/
theorem inOrder_statementsFrom {fuel offset : Nat} {cs : Rest} {done placed : List Placed}
    (h : statementsFrom fuel offset cs done = .ok placed) (hdone : InOrder done.reverse)
    (hoffset : ∀ p ∈ done, p.span.stop ≤ offset) : InOrder placed := by
  induction fuel generalizing offset cs done with
  | zero => cases h
  | succ fuel ih =>
      obtain ⟨grown, behind, hgrown, hplaced⟩ := statementsFrom_succ h
      have hinvariant : InOrder grown.reverse ∧ ∀ p ∈ grown, p.span.stop ≤ behind := by
        rcases hgrown with ⟨rfl, hle⟩ | ⟨p, rfl, hstart, hforward, hstop⟩
        · exact ⟨hdone, fun p hp => Nat.le_trans (hoffset p hp) hle⟩
        · rw [List.reverse_cons, List.forall_mem_cons]
          refine ⟨hdone.concat hforward fun q hq => ?_, hstop, fun q hq => ?_⟩
          · exact Nat.le_trans (hoffset q (List.mem_reverse.mp hq)) hstart
          · have := hoffset q hq
            omega
      rcases hplaced with rfl | ⟨next, hnext⟩
      · exact hinvariant.1
      · exact ih hnext hinvariant.1 hinvariant.2

theorem inOrder_statements {s : String} {placed : List Placed}
    (h : statements s = .ok placed) : InOrder placed :=
  inOrder_statementsFrom h ⟨fun _ hp => absurd hp List.not_mem_nil, List.Pairwise.nil⟩
    fun _ hp => absurd hp List.not_mem_nil

/-- The lines of statements that follow each other do not go back. -/
theorem InOrder.pairwise_lines {placed : List Placed} (h : InOrder placed) (s : String) :
    (placed.map (Placed.report (.ofText s))).Pairwise (·.endLine ≤ ·.startLine) := by
  rw [List.pairwise_map]
  refine h.apart.imp_of_mem fun hp _ hbehind => ?_
  exact Placed.endLine_le_startLine (h.forward _ hp) hbehind

/-- What verification reports was found in the text. -/
theorem verify_eq_ok {s : String} {v : Verification} (h : verify s = .ok v) :
    ∃ placed, statements s = .ok placed ∧
      v.instructions = placed.map (Placed.report (.ofText s)) := by
  obtain ⟨placed, hplaced, h⟩ := Results.of_bind h
  obtain ⟨-, -, h⟩ := Results.of_bind h
  exact ⟨placed, hplaced, by rw [← Except.ok.inj h]⟩

/-- The line of an offset counts the line feeds below it, and what is reported follows: the lines of
a span lie in the text and in their order, a span that ends with a line feed ends on the line that
this one closes, and a line feed between two spans separates their lines.  What verification reports
are such lines, and they do not go back. -/
theorem reported_line_ranges (s : String) :
    (∀ offset, (ofText s).lineAt offset = 1 + lineFeedsBefore s offset) ∧
    Monotone (ofText s).lineAt ∧
    (∀ p : Placed, 1 ≤ (p.report (.ofText s)).startLine ∧
      (p.report (.ofText s)).startLine ≤ (p.report (.ofText s)).endLine ∧
      (p.report (.ofText s)).endLine ≤ 1 + (bytes s).count lineFeed) ∧
    (∀ p : Placed, p.span.start < p.span.stop → (bytes s)[p.span.stop - 1]? = some lineFeed →
      (p.report (.ofText s)).endLine = lineFeedsBefore s p.span.stop) ∧
    (∀ (p q : Placed) (offset : Nat), p.span.start < p.span.stop → q.span.start < q.span.stop →
      (bytes s)[offset]? = some lineFeed → p.span.stop - 1 ≤ offset → offset < q.span.start →
      (p.report (.ofText s)).endLine < (q.report (.ofText s)).startLine) ∧
    (∀ v, verify s = .ok v → ∃ placed, statements s = .ok placed ∧ InOrder placed ∧
      v.instructions = placed.map (Placed.report (.ofText s)) ∧
      v.instructions.Pairwise (·.endLine ≤ ·.startLine)) := by
  refine ⟨lineAt_ofText s, lineAt_mono s, fun p => ⟨?_, p.startLine_le_endLine s,
    p.endLine_le_lines s⟩, fun p => Placed.endLine_of_lineFeed, ?_, fun v hv => ?_⟩
  · rw [Placed.startLine_report]
    exact Nat.le_add_right 1 _
  · intro p q offset hp _ hfeed hfrom hto
    exact Placed.endLine_lt_startLine hp hfeed hfrom hto
  · obtain ⟨placed, hplaced, hreport⟩ := verify_eq_ok hv
    have horder := inOrder_statements hplaced
    exact ⟨placed, hplaced, horder, hreport, hreport ▸ horder.pairwise_lines s⟩

/-- Behind a character of two bytes: the line feed at offset 8 closes the first line, and the second
span starts behind it. -/
theorem reported_line_ranges_two_bytes :
    (Placed.report (.ofText "LABEL é\nCMD x\n") ⟨⟨"LABEL", none, []⟩, ⟨0, 9⟩⟩).endLine = 1 ∧
    (Placed.report (.ofText "LABEL é\nCMD x\n") ⟨⟨"LABEL", none, []⟩, ⟨0, 9⟩⟩).endLine <
      (Placed.report (.ofText "LABEL é\nCMD x\n") ⟨⟨"CMD", none, []⟩, ⟨9, 14⟩⟩).startLine := by
  have hfeed : (bytes "LABEL é\nCMD x\n")[8]? = some lineFeed := by decide
  obtain ⟨-, -, -, hlast, hbetween, -⟩ := reported_line_ranges "LABEL é\nCMD x\n"
  refine ⟨(hlast ⟨⟨"LABEL", none, []⟩, ⟨0, 9⟩⟩ (by decide) hfeed).trans (by decide), ?_⟩
  exact hbetween _ _ 8 (by decide) (by decide) hfeed (by decide) (by decide)

end ImageRecipe.Dockerfile
