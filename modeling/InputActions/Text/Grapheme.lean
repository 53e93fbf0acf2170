import InputActions.Text.Property.Cluster
import InputActions.Text.Property.Extend

/-!
# Grapheme clusters

A grapheme cluster is what a reader takes for one character: a base with its marks, a syllable, a
flag, a family joined by zero-width joiners. Clusters are found by looking at each place between
two characters: `joins before c` says that no boundary stands there, where `before` holds the
characters to the left, nearest first. The rules are those of the extended grapheme cluster of the
text segmentation standard, and each is one clause below:

* a line feed joins a carriage return, and nothing else joins a control on either side;
* Hangul letters join into syllables;
* marks and joiners join what stands before them, and prepended marks what stands after;
* two consonants join over a virama, if nothing but marks stands between them;
* a pictograph joins over a zero-width joiner after a pictograph with its marks;
* regional indicators pair up from the left.

The number of clusters is one more than the number of boundaries inside the text
(`clusterCount_cons`), and none for the empty text.
-/

namespace InputActions.Text

open Property

namespace Cluster

def isReturn (c : Char) : Bool := c == '\r'

def isFeed (c : Char) : Bool := c == '\n'

/-- Carriage return, line feed and the other controls, which stand alone. -/
def isControl (c : Char) : Bool := isReturn c || isFeed c || clusterControl.holds c

def isJoiner (c : Char) : Bool := c.toNat == 0x200D

/-- Marks that continue a cluster, the skin tone modifiers among them. -/
def isExtend (c : Char) : Bool :=
  graphemeExtend.holds c || (0x1F3FB ≤ c.toNat && c.toNat ≤ 0x1F3FF)

def isRegional (c : Char) : Bool := 0x1F1E6 ≤ c.toNat && c.toNat ≤ 0x1F1FF

/-- A Hangul syllable of a leading consonant and a vowel, to which a final may be added. -/
def isOpenSyllable (c : Char) : Bool :=
  0xAC00 ≤ c.toNat && c.toNat ≤ 0xD7A3 && (c.toNat - 0xAC00) % 28 == 0

/-- A Hangul syllable that ends in a consonant. -/
def isClosedSyllable (c : Char) : Bool :=
  0xAC00 ≤ c.toNat && c.toNat ≤ 0xD7A3 && (c.toNat - 0xAC00) % 28 != 0

/-- What may stand beside the virama between two joined consonants. -/
def isConjunctExtend (c : Char) : Bool :=
  (isExtend c || isJoiner c) && !conjunctLinker.holds c && c.toNat != 0x200C

/-- Two letters of one Hangul syllable. -/
def joinsSyllable (left right : Char) : Bool :=
  if leadingJamo.holds left then
    leadingJamo.holds right || vowelJamo.holds right || isOpenSyllable right ||
      isClosedSyllable right
  else if isOpenSyllable left || vowelJamo.holds left then
    vowelJamo.holds right || trailingJamo.holds right
  else if isClosedSyllable left || trailingJamo.holds left then
    trailingJamo.holds right
  else false

/-- A consonant, then marks with a virama among them, nearest character first. -/
def endsInLinkedConsonant (before : List Char) : Bool :=
  let between := before.takeWhile fun c => isConjunctExtend c || conjunctLinker.holds c
  let base := before.dropWhile fun c => isConjunctExtend c || conjunctLinker.holds c
  between.any conjunctLinker.holds && base.head?.any conjunctConsonant.holds

/-- A pictograph with its marks and then a joiner, nearest character first. -/
def endsInJoinedPictograph : List Char → Bool
  | [] => false
  | c :: before => isJoiner c && (before.dropWhile isExtend).head?.any pictographic.holds

/-- An odd number of regional indicators, so that the last one still lacks its partner. -/
def endsInLoneRegional (before : List Char) : Bool :=
  (before.takeWhile isRegional).length % 2 == 1

/-- Whether `c` continues the cluster that ends in `before`, given nearest character first. -/
def joins : List Char → Char → Bool
  | [], _ => false
  | last :: before, c =>
    if isControl last || isControl c then isReturn last && isFeed c
    else if joinsSyllable last c then true
    else if isExtend c || isJoiner c || spacingMark.holds c || prepend.holds last then true
    else if conjunctConsonant.holds c && endsInLinkedConsonant (last :: before) then true
    else if pictographic.holds c && endsInJoinedPictograph (last :: before) then true
    else isRegional c && endsInLoneRegional (last :: before)

/-- The number of clusters that begin in `text`, when `before` stands to its left. -/
def countAfter : List Char → List Char → Nat
  | _, [] => 0
  | before, c :: text => (if joins before c then 0 else 1) + countAfter (c :: before) text

end Cluster

/-- The number of extended grapheme clusters of the text. -/
def clusterCount (text : List Char) : Nat := Cluster.countAfter [] text

theorem clusterCount_nil : clusterCount [] = 0 := rfl

theorem clusterCount_cons (c : Char) (text : List Char) :
    clusterCount (c :: text) = 1 + Cluster.countAfter [c] text := rfl

/-- Whether the text is exactly one grapheme cluster. -/
def isCluster (text : String) : Bool := clusterCount text.toList == 1

end InputActions.Text
