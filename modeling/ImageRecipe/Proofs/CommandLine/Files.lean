import Mathlib.Data.String.Basic
import ImageRecipe.CommandLine.Surroundings

/-!
# Files that were written

Where a text was put, it is read, and everything else is as before.  A way as it is written may take
many turns, but it turns only at directories, and a file that is put at its end is not one.

* `FileTree.LeadsTo`, `FileTree.look` : the place that a path means, and what is at a place
* `FileTree.look_of_write` : a write changes what is at one place
* `FileTree.spotFrom_putAt` : the way to a place, when a file is put there
* `FileTree.read_of_write` : what was put at a path is read there
* `FileTree.spot_character` : paths of one character, which start at the working directory
* `CommandLine.fileSystem_write_eq_ok_iff`, `CommandLine.fileSystem_write_eq_error_iff` : writes as
  runs see them
-/

namespace ImageRecipe

namespace FileTree

variable {t : FileTree} {place : List String} {text : Option String}

/-! ## One place apart -/

/-- A file can be at the place, or put there, by the path. -/
def LeadsTo (t : FileTree) (path : String) (place : List String) : Prop :=
  t.spot path = .ok (.file place false) ∨ t.spot path = .ok (.free place false)

/-- What is at a place: a file, with its text if it has one, and whether there is a directory. -/
def look (t : FileTree) (place : List String) : Option (Option String) × Bool :=
  (t.file? place, t.isDirectory place)

theorem file?_putAt_self : (t.putAt place text).file? place = some text := by
  simp [file?, putAt]

theorem file?_putAt {other : List String} (h : other ≠ place) :
    (t.putAt place text).file? other = t.file? other := by
  -- the entries that are dropped are of another place
  have hfilter : (t.files.filter fun f => f.1 ≠ place).find? (fun f => decide (f.1 = other)) =
      t.files.find? fun f => decide (f.1 = other) := by
    rw [List.find?_filter]
    congr 1
    funext f
    by_cases hf : f.1 = other
    · simp [hf, h]
    · simp [hf]
  rw [file?, file?, putAt, List.find?_cons_of_neg (by simpa using Ne.symm h), hfilter]

theorem look_putAt {other : List String} (h : other ≠ place) :
    (t.putAt place text).look other = t.look other := by
  rw [look, look, file?_putAt h]
  rfl

/-- What a write that succeeds has done. -/
theorem write_eq_ok {after : FileTree} {path content : String}
    (h : t.write path content = .ok after) :
    (t.spot path = .ok .null ∧ after = t) ∨
      ∃ place, t.LeadsTo path place ∧ after = t.putAt place (some content) := by
  unfold write at h
  split at h
  · cases h
  · cases h
  · cases h
  · cases h
  · rename_i hspot
    cases h
    exact .inl ⟨hspot, rfl⟩
  · rename_i place hspot
    cases h
    exact .inr ⟨place, .inr hspot, rfl⟩
  · rename_i place hspot
    cases h
    exact .inr ⟨place, .inl hspot, rfl⟩

/-- A write changes nothing but what the path leads to. -/
theorem look_of_write {after : FileTree} {path content : String}
    (h : t.write path content = .ok after) (hplace : ¬t.LeadsTo path place) :
    after.look place = t.look place := by
  rcases write_eq_ok h with ⟨-, rfl⟩ | ⟨other, hother, rfl⟩
  · rfl
  · refine look_putAt ?_
    rintro rfl
    exact hplace hother

/-! ## Reading after writing -/

/-- On the way to a place there are only directories, so the way stays the same when a file is put
there. -/
theorem spotFrom_putAt {spot : Spot}
    (hspot : spot = .file place false ∨ spot = .free place false) {here names : List String}
    (h : t.spotFrom here names = .ok spot) :
    (t.putAt place text).spotFrom here names = .ok (.file place false) := by
  induction names generalizing here with
  | nil =>
      cases h
      rcases hspot with hspot | hspot <;> cases hspot
  | cons name rest ih =>
      have hdirectory : ∀ path, (t.putAt place text).isDirectory path = t.isDirectory path :=
        fun _ => rfl
      rw [spotFrom] at h ⊢
      by_cases hstay : name = "" ∨ name = "."
      · rw [if_pos hstay] at h ⊢
        exact ih h
      rw [if_neg hstay] at h ⊢
      by_cases hup : name = ".."
      · rw [if_pos hup] at h ⊢
        exact ih h
      rw [if_neg hup] at h ⊢
      by_cases hlong : isLongName name = true
      · rw [if_pos hlong] at h
        cases h
      rw [if_neg hlong] at h ⊢
      dsimp only at h ⊢
      rw [hdirectory]
      by_cases hdescends : t.isDirectory (here ++ [name]) = true
      · rw [if_pos hdescends] at h ⊢
        exact ih h
      rw [if_neg hdescends] at h ⊢
      by_cases hnull : here ++ [name] = nullPlace
      · rw [if_pos hnull] at h
        split at h
        · cases h
          rcases hspot with hspot | hspot <;> cases hspot
        · cases h
      rw [if_neg hnull] at h ⊢
      -- the name is the last one, so the place is the one it leads to
      have hplace : rest.all (· = "") = true ∧ (!rest.isEmpty) = false ∧
          here ++ [name] = place := by
        by_cases hlast : rest.all (· = "") = true
        · rw [if_pos hlast, if_pos hlast] at h
          refine ⟨hlast, ?_⟩
          split at h
          · cases h
            rcases hspot with hspot | hspot
            · injection hspot with hplace hdir
              exact ⟨hdir, hplace⟩
            · cases hspot
          · cases h
            rcases hspot with hspot | hspot
            · cases hspot
            · injection hspot with hplace hdir
              exact ⟨hdir, hplace⟩
        · rw [if_neg hlast, if_neg hlast] at h
          split at h <;> cases h
      obtain ⟨hlast, hfile, rfl⟩ := hplace
      rw [file?_putAt_self, Option.isSome_some, if_pos rfl, if_pos hlast, hfile]

theorem spot_putAt {path : String} (h : t.LeadsTo path place) :
    (t.putAt place text).spot path = .ok (.file place false) := by
  have hspots : ∀ {here names}, (t.spotFrom here names = .ok (.file place false) ∨
      t.spotFrom here names = .ok (.free place false)) →
      (t.putAt place text).spotFrom here names = .ok (.file place false) := by
    rintro here names (hfile | hfree)
    · exact spotFrom_putAt (.inl rfl) hfile
    · exact spotFrom_putAt (.inr rfl) hfree
  unfold LeadsTo FileTree.spot at h
  unfold FileTree.spot
  by_cases hlong : isLongPath path = true
  · rw [if_pos hlong] at h
    rcases h with h | h <;> cases h
  rw [if_neg hlong] at h ⊢
  split at h
  · rcases h with h | h <;> cases h
  · exact hspots h
  · exact hspots h

/-- What was put at a path is read there, unless it was put into the null device. -/
theorem read_of_write {after : FileTree} {path content : String}
    (h : t.write path content = .ok after) :
    after.read path = .ok content ∨ t.spot path = .ok .null := by
  rcases write_eq_ok h with ⟨hnull, -⟩ | ⟨place, hplace, rfl⟩
  · exact .inr hnull
  · have hafter : (t.putAt place (some content)).spot path = .ok (.file place false) :=
      spot_putAt hplace
    left
    simp only [read, hafter, file?_putAt_self]

/-! ## Paths of one character -/

open String in
/-- A text of one character is one name, unless it is a slash. -/
theorem splitOn_character {c : Char} (hc : c ≠ '/') :
    (ofList [c]).splitOn "/" = [ofList [c]] := by
  have hslash : Pos.Raw.get "/" 0 = '/' := by decide
  have hstart : ¬Pos.Raw.atEnd (ofList [c]) 0 = true := fun hend =>
    List.cons_ne_nil c [] ((atEnd_of_valid [] [c]).mp hend)
  have hget : Pos.Raw.get (ofList [c]) 0 = c := get_of_valid [] [c]
  have hnext : Pos.Raw.next (ofList [c]) 0 = ⟨utf8Len [c]⟩ := next_of_valid [] c []
  have hend : Pos.Raw.atEnd (ofList [c]) ⟨utf8Len [c]⟩ = true := (atEnd_of_valid [c] []).mpr rfl
  have hwhole : Pos.Raw.extract (ofList [c]) 0 ⟨utf8Len [c]⟩ = ofList [c] := by
    simpa using extract_of_valid [] [c] []
  have hother : ¬(c == '/') = true := by simpa using hc
  have hzero : Pos.Raw.unoffsetBy 0 0 = 0 := by decide
  rw [splitOn, if_neg (by decide), splitOnAux, if_neg hstart, hget, hslash, if_neg hother, hzero,
    hnext, splitOnAux, if_pos hend, hwhole]
  rfl

theorem spot_character (t : FileTree) {c : Char} (hc : c ≠ '/') :
    t.spot (String.ofList [c]) = t.spotFrom t.here [String.ofList [c]] := by
  have hshort : ¬isLongPath (String.ofList [c]) = true := by
    have hsize := c.utf8Size_le_four
    simp only [isLongPath, decide_eq_true_eq, String.utf8ByteSize_ofList]
    simp
    omega
  have hname : String.ofList [c] ≠ "" := by simp
  unfold FileTree.spot
  rw [if_neg hshort, splitOn_character hc]
  split
  · rename_i h
    exact absurd (List.cons.inj h).1 hname
  · rename_i h
    exact absurd (List.cons.inj h).1 hname
  · rfl

end FileTree

/-! ## File trees as file systems -/

namespace CommandLine

variable {files after : FileTree} {path text : String} {e : InputOutputError}

theorem fileSystem_write_eq_ok_iff :
    FileSystem.write files path text = (.ok (), after) ↔ files.write path text = .ok after := by
  unfold FileSystem.write instFileSystemFileTree
  dsimp only
  cases files.write path text with
  | ok written => simp
  | error cause => simp

theorem fileSystem_write_eq_error_iff :
    FileSystem.write files path text = (.error e, after) ↔
      files.write path text = .error e ∧ after = files := by
  unfold FileSystem.write instFileSystemFileTree
  dsimp only
  cases files.write path text with
  | ok written => simp
  | error cause => simp [eq_comm]

end CommandLine

end ImageRecipe
