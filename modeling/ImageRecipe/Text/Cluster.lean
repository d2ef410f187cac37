import ImageRecipe.Text.ClusterTables

/-!
# Clusters

A cluster is what a reader takes for one character: a letter with its marks, a flag of two signs, a
picture of several joined ones, a syllable.  Two neighbours stand in one cluster if a rule joins
them, and whether it does may depend on what stands before both.

* `Kind`, `Kind.ofChar` : what matters of a character
* `Before` : what matters of the characters before a place
* `clusters` : a text cut between its clusters
* `flatten_clusters`, `ne_nil_of_mem_clusters` : nothing is lost, and no cluster is empty
-/

namespace ImageRecipe.Text

/-- What a character does beside others. -/
inductive Kind where
  | carriageReturn
  | lineFeed
  | control
  /-- A mark that extends the character before it. -/
  | extending
  /-- The sign that joins pictures. -/
  | joiner
  /-- A mark with a width of its own. -/
  | spacing
  /-- A sign that belongs to the character behind it. -/
  | preceding
  /-- Half of a flag. -/
  | flagHalf
  /-- A consonant in front of a syllable. -/
  | leading
  /-- A vowel of a syllable. -/
  | vowel
  /-- A consonant at the end of a syllable. -/
  | trailing
  /-- A syllable that may get a consonant at its end. -/
  | openSyllable
  /-- A syllable with a consonant at its end. -/
  | closedSyllable
  | picture
  /-- A consonant that may form a conjunct. -/
  | consonant
  | other
  deriving DecidableEq, Repr

/-- What the code point of a character does beside others. -/
def Kind.ofPoint (n : Nat) : Kind :=
  if n = 0x0D then .carriageReturn
  else if n = 0x0A then .lineFeed
  else if n < 0x20 then .control
  else if n < 0x7F then .other
  else if n = 0x200D then .joiner
  else if inRanges controlRanges n then .control
  else if inRanges extendingRanges n then .extending
  else if inRanges spacingRanges n then .spacing
  else if inRanges precedingRanges n then .preceding
  else if inRanges [(0x1F1E6, 0x1F1FF)] n then .flagHalf
  else if inRanges [(0x1100, 0x115F), (0xA960, 0xA97C)] n then .leading
  else if inRanges [(0x1160, 0x11A7), (0xD7B0, 0xD7C6), (0x16D63, 0x16D63), (0x16D67, 0x16D6A)] n
    then .vowel
  else if inRanges [(0x11A8, 0x11FF), (0xD7CB, 0xD7FB)] n then .trailing
  else if inRanges [(0xAC00, 0xD7A3)] n then
    if (n - 0xAC00) % 28 = 0 then .openSyllable else .closedSyllable
  else if inRanges pictureRanges n then .picture
  else if inRanges consonantRanges n then .consonant
  else .other

/-- What a character does beside others. -/
def Kind.ofChar (c : Char) : Kind := .ofPoint c.toNat

/-- The character links two consonants. -/
def isLinker (c : Char) : Bool := linkerPoints.contains c.toNat

/-- The character may stand between two linked consonants. -/
def staysLinked (c : Char) : Bool :=
  isLinker c || c.toNat != 0x200C &&
    (Kind.ofChar c == .extending || Kind.ofChar c == .joiner)

/-! ## What joins -/

/-- How far a conjunct has come. -/
inductive Conjunct where
  | none
  /-- There is a consonant, perhaps with marks. -/
  | started
  /-- There is also a linker. -/
  | linked
  deriving DecidableEq, Repr

/-- How far a joined picture has come. -/
inductive Joined where
  | none
  /-- There is a picture, perhaps with marks. -/
  | started
  /-- There is also a joiner. -/
  | joined
  deriving DecidableEq, Repr

/-- What matters of the characters before a place. -/
structure Before where
  kind : Kind
  /-- Half of a flag waits for the other one. -/
  halfFlag : Bool
  picture : Joined
  conjunct : Conjunct
  deriving DecidableEq, Repr

namespace Before

/-- Behind a character that starts a cluster. -/
def start (c : Char) : Before :=
  let kind := Kind.ofChar c
  { kind
    halfFlag := kind == .flagHalf
    picture := if kind = .picture then .started else .none
    conjunct := if kind = .consonant then .started else .none }

/-- Behind a further character of the cluster. -/
def next (b : Before) (c : Char) : Before :=
  let kind := Kind.ofChar c
  { kind
    halfFlag := kind == .flagHalf && !b.halfFlag
    picture := match kind, b.picture with
      | .picture, _ => .started
      | .extending, .started => .started
      | .joiner, .started => .joined
      | _, _ => .none
    conjunct :=
      if kind = .consonant then .started
      else if b.conjunct = .none || !staysLinked c then .none
      else if isLinker c then .linked
      else b.conjunct }

/-- The character stands in one cluster with what is before it. -/
def joins (b : Before) (c : Char) : Bool :=
  match b.kind, Kind.ofChar c with
  | .carriageReturn, .lineFeed => true
  | .carriageReturn, _ | .lineFeed, _ | .control, _ => false
  | _, .carriageReturn | _, .lineFeed | _, .control => false
  | _, .extending | _, .joiner | _, .spacing => true
  | .preceding, _ => true
  | .leading, .leading | .leading, .vowel | .leading, .openSyllable
  | .leading, .closedSyllable => true
  | .openSyllable, .vowel | .openSyllable, .trailing | .vowel, .vowel | .vowel, .trailing => true
  | .closedSyllable, .trailing | .trailing, .trailing => true
  | .flagHalf, .flagHalf => b.halfFlag
  | _, .picture => b.picture == .joined
  | _, .consonant => b.conjunct == .linked
  | _, _ => false

end Before

/-! ## Cutting -/

/-- The characters that still belong to the cluster before them, and the clusters behind. -/
def cutClusters : Before → List Char → List Char × List (List Char)
  | _, [] => ([], [])
  | b, c :: rest =>
    if b.joins c then
      let (cluster, others) := cutClusters (b.next c) rest
      (c :: cluster, others)
    else
      let (cluster, others) := cutClusters (.start c) rest
      ([], (c :: cluster) :: others)

/-- The clusters of a text, in order. -/
def clusters : List Char → List (List Char)
  | [] => []
  | c :: rest =>
    let (cluster, others) := cutClusters (.start c) rest
    (c :: cluster) :: others

theorem flatten_cutClusters (b : Before) (cs : List Char) :
    (cutClusters b cs).1 ++ (cutClusters b cs).2.flatten = cs := by
  induction cs generalizing b with
  | nil => rfl
  | cons c rest ih =>
    by_cases h : b.joins c
    · simp [cutClusters, h, ih]
    · simp [cutClusters, h, ih]

/-- Nothing is lost between clusters. -/
theorem flatten_clusters (cs : List Char) : (clusters cs).flatten = cs := by
  cases cs with
  | nil => rfl
  | cons c rest => simp [clusters, flatten_cutClusters]

theorem ne_nil_of_mem_cutClusters {b : Before} {cs cluster : List Char}
    (h : cluster ∈ (cutClusters b cs).2) : cluster ≠ [] := by
  induction cs generalizing b with
  | nil => simp [cutClusters] at h
  | cons c rest ih =>
    by_cases hj : b.joins c
    · simp only [cutClusters, hj, if_true] at h
      exact ih h
    · simp only [cutClusters, hj] at h
      rcases List.mem_cons.1 h with rfl | h
      · simp
      · exact ih h

/-- No cluster is empty. -/
theorem ne_nil_of_mem_clusters {cs cluster : List Char} (h : cluster ∈ clusters cs) :
    cluster ≠ [] := by
  cases cs with
  | nil => simp [clusters] at h
  | cons c rest =>
    rcases List.mem_cons.1 h with rfl | h
    · simp
    · exact ne_nil_of_mem_cutClusters h

end ImageRecipe.Text
