import ScreenForm.Text.Width

/-!
# Clusters

A cluster is what a reader takes for one character: a base with its combining
marks, a syllable of Hangul, a flag, or pictures bound into one. `clusters` cuts
a text into them, and loses nothing.
-/

namespace ScreenForm.Text

/-- The part that a character can play in a cluster. -/
inductive ClusterRole where
  | carriageReturn
  | lineFeed
  | control
  | extend
  | joiner
  | spacing
  | prepended
  | regional
  | leading
  | vowel
  | trailing
  | leadingVowel
  | syllable
  | picture
  | other
  deriving Repr, DecidableEq

namespace ClusterRole

/-- Separators and formats that always stand alone. -/
def isSeparator (c : Char) : Bool :=
  let n := c.toNat
  isControl c || n = 0xad || n = 0x61c || n = 0x180e || n = 0x200b || n = 0x200e || n = 0x200f ||
    (0x2028 ≤ n && n ≤ 0x202e) || (0x2060 ≤ n && n ≤ 0x206f) || n = 0xfeff ||
    (0xfff0 ≤ n && n ≤ 0xfffb) || (0x13430 ≤ n && n ≤ 0x1343f) || (0x1bca0 ≤ n && n ≤ 0x1bca3) ||
    (0x1d173 ≤ n && n ≤ 0x1d17a) || (0xe0000 ≤ n && n < 0xe0020) || (0xe0080 ≤ n && n < 0xe0100) ||
    (0xe01f0 ≤ n && n < 0xe1000)

def isSyllable (c : Char) : Bool :=
  0xac00 ≤ c.toNat && c.toNat ≤ 0xd7a3

def ofChar (c : Char) : ClusterRole :=
  let n := c.toNat
  if c = '\r' then carriageReturn
  else if c = '\n' then lineFeed
  else if n < 0x80 then if isControl c then control else other
  else if c = Text.joiner then joiner
  else if Table.extend.contains c || isSkinTone c then extend
  else if isSeparator c then control
  else if Table.spacing.contains c then spacing
  else if Table.prepended.contains c then prepended
  else if isRegional c then regional
  else if (0x1100 ≤ n && n ≤ 0x115f) || (0xa960 ≤ n && n ≤ 0xa97c) then leading
  else if (0x1160 ≤ n && n ≤ 0x11a7) || (0xd7b0 ≤ n && n ≤ 0xd7c6) || n = 0x16d63 ||
      (0x16d67 ≤ n && n ≤ 0x16d6a) then vowel
  else if (0x11a8 ≤ n && n ≤ 0x11ff) || (0xd7cb ≤ n && n ≤ 0xd7fb) then trailing
  else if isSyllable c then if (n - 0xac00) % 28 = 0 then leadingVowel else syllable
  else if Table.pictographic.contains c then picture
  else other

end ClusterRole

/-- How far a conjunct has got: its first consonant, and the sign that binds the next. -/
inductive Conjunct where
  | none
  | consonant
  | linked
  deriving Repr, DecidableEq

/-- What matters of a cluster so far for whether the next character belongs to it. -/
structure ClusterState where
  last : ClusterRole
  /-- A picture and its combining marks. -/
  picture : Bool
  /-- A picture and a joiner. -/
  bound : Bool
  /-- An odd number of regional letters. -/
  halfFlag : Bool
  conjunct : Conjunct

namespace ClusterState

def start (c : Char) : ClusterState :=
  let role := ClusterRole.ofChar c
  { last := role
    picture := role = .picture
    bound := false
    halfFlag := role = .regional
    conjunct := if Table.consonants.contains c then .consonant else .none }

/-- Whether the next character belongs to the cluster. -/
def joins (s : ClusterState) (c : Char) : Bool :=
  match s.last, ClusterRole.ofChar c with
  | .carriageReturn, .lineFeed => true
  | .carriageReturn, _ | .lineFeed, _ | .control, _ => false
  | _, .carriageReturn | _, .lineFeed | _, .control => false
  | _, .extend | _, .joiner | _, .spacing => true
  | .prepended, _ => true
  | .leading, .leading | .leading, .vowel | .leading, .leadingVowel | .leading, .syllable => true
  | .leadingVowel, .vowel | .leadingVowel, .trailing | .vowel, .vowel | .vowel, .trailing => true
  | .syllable, .trailing | .trailing, .trailing => true
  | .regional, .regional => s.halfFlag
  | .joiner, .picture => s.bound
  | _, _ => s.conjunct = .linked && Table.consonants.contains c

def extend (s : ClusterState) (c : Char) : ClusterState :=
  let role := ClusterRole.ofChar c
  { last := role
    picture := role = .picture || (s.picture && role = .extend)
    bound := s.picture && role = .joiner
    halfFlag := role = .regional && !s.halfFlag
    conjunct :=
      if Table.consonants.contains c then .consonant
      else if s.conjunct = .none then .none
      else if Table.linkers.contains c then .linked
      else if (role = .extend && c != '\u200c') || role = .joiner then s.conjunct
      else .none }

end ClusterState

/-- Puts a character in front of the first piece. -/
def consFirst (c : Char) : List (List Char) → List (List Char)
  | [] => [[c]]
  | piece :: pieces => (c :: piece) :: pieces

/-- The rest of the cluster that `s` describes, and the clusters after it. -/
def clustersFrom (s : ClusterState) : List Char → List (List Char)
  | [] => [[]]
  | c :: cs =>
    if s.joins c then consFirst c (clustersFrom (s.extend c) cs)
    else [] :: consFirst c (clustersFrom (.start c) cs)

def clusters : List Char → List (List Char)
  | [] => []
  | c :: cs => consFirst c (clustersFrom (.start c) cs)

end ScreenForm.Text
