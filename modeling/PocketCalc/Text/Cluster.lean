import PocketCalc.Text.Joining

/-!
# Clusters

A text cut where a reader would cut it: each **cluster** is what is taken for one character. The
text is read from left to right; whether a character joins the cluster before it depends on its
joining class, on that of the character before it, and on three things that are remembered from
further back: a picture that nothing but marks has followed, a consonant and whether a linker has
come after it, and half a flag.

**The law** (`flatten_clusters`): the clusters of a text, put together again, are the text.
-/

namespace PocketCalc.Text

/-- **What is remembered** of the text before a character. -/
structure Scan where
  /-- The class of the last character. -/
  last : Joining
  /-- A picture, and nothing but extending characters after it. -/
  afterPicture : Bool := false
  /-- A picture, extending characters, and a joiner as the last character. -/
  pictureJoined : Bool := false
  /-- A consonant with nothing but marks after it, and whether one of them is a linker. -/
  afterConsonant : Option Bool := none
  /-- The last character is the first half of a flag. -/
  halfFlag : Bool := false
  deriving DecidableEq, Repr

namespace Scan

/-- What is remembered after the first character of a text. -/
def first (c : Char) : Scan :=
  let joining := Joining.of c
  { last := joining
    afterPicture := joining = .pictograph
    afterConsonant := if joining = .consonant then some false else none
    halfFlag := joining = .regional }

/-- What is remembered after one more character. -/
def next (s : Scan) (c : Char) : Scan :=
  match Joining.of c with
  | .extend => { s with last := .extend, pictureJoined := false, halfFlag := false }
  | .nonJoiner =>
    { s with last := .nonJoiner, pictureJoined := false, afterConsonant := none, halfFlag := false }
  | .linker =>
    { s with
      last := .linker
      pictureJoined := false
      afterConsonant := s.afterConsonant.map fun _ => true
      halfFlag := false }
  | .joiner =>
    { last := .joiner
      pictureJoined := s.afterPicture
      afterConsonant := s.afterConsonant }
  | .regional => { last := .regional, halfFlag := !s.halfFlag }
  | _ => first c

/-- **Whether a character joins** the cluster before it. -/
def joins (s : Scan) (c : Char) : Bool :=
  let joining := Joining.of c
  match s.last, joining with
  | .control, _ => false
  | _, .control => false
  | .leading, .leading => true
  | .leading, .vowel => true
  | .leading, .openSyllable => true
  | .leading, .closedSyllable => true
  | .openSyllable, .vowel => true
  | .vowel, .vowel => true
  | .openSyllable, .trailing => true
  | .vowel, .trailing => true
  | .closedSyllable, .trailing => true
  | .trailing, .trailing => true
  | _, .extend => true
  | _, .nonJoiner => true
  | _, .joiner => true
  | _, .linker => true
  | _, .spacing => true
  | .preceding, _ => true
  | _, .consonant => s.afterConsonant = some true
  | _, .pictograph => s.pictureJoined
  | _, .regional => s.halfFlag
  | _, _ => false

end Scan

/-- A cluster. -/
abbrev Cluster := List Char

/-- A character before the clusters after it: joined to the first of them, or alone. -/
def prepend (joined : Bool) (c : Char) : List Cluster → List Cluster
  | [] => [[c]]
  | cluster :: others => if joined then (c :: cluster) :: others else [c] :: cluster :: others

/-- The clusters of a text from a character on, after which `s` is remembered. -/
def clustersFrom (s : Scan) (c : Char) : List Char → List Cluster
  | [] => [[c]]
  | d :: rest => prepend (s.joins d) c (clustersFrom (s.next d) d rest)

/-- **The clusters of a text.** -/
def clusters : List Char → List Cluster
  | [] => []
  | c :: rest => clustersFrom (.first c) c rest

theorem flatten_prepend (joined : Bool) (c : Char) (later : List Cluster) :
    (prepend joined c later).flatten = c :: later.flatten := by
  cases later with
  | nil => rfl
  | cons cluster others => cases joined <;> rfl

theorem flatten_clustersFrom (s : Scan) (c : Char) (rest : List Char) :
    (clustersFrom s c rest).flatten = c :: rest := by
  induction rest generalizing s c with
  | nil => rfl
  | cons d rest ih => rw [clustersFrom, flatten_prepend, ih]

/-- Nothing is lost by cutting. -/
theorem flatten_clusters (text : List Char) : (clusters text).flatten = text := by
  cases text with
  | nil => rfl
  | cons c rest => exact flatten_clustersFrom (.first c) c rest

end PocketCalc.Text
