import HaxePrompt.Text.BreakClass

/-! # Clusters

What a reader takes for one character may be written by several: a letter and its accents, the
letters of a flag, the parts of a syllable, pictographs that are joined.  `clusters` cuts a text
into such groups.  Whether a character goes on with a group depends on the classes of the
characters in it (`continues`). -/

namespace HaxePrompt.Text

namespace BreakClass

/-- Does the class stand alone, whatever is beside it? -/
def isControl : BreakClass → Bool
  | .carriageReturn | .lineFeed | .control => true
  | _ => false

/-- Does the class extend the character before it, whatever that is? -/
def isExtending : BreakClass → Bool
  | .extending | .linking | .joiner | .nonJoiner => true
  | _ => false

/-- Does the class extend the character before it, and leave open what it is joined to? -/
def staysOpen (next : BreakClass) : Bool := next.isExtending && next != .nonJoiner

/-- Can the second class follow the first within a Hangul syllable? -/
def followsInSyllable : BreakClass → BreakClass → Bool
  | .hangulL, .hangulL | .hangulL, .hangulV | .hangulL, .hangulLV | .hangulL, .hangulLVT => true
  | .hangulV, .hangulV | .hangulLV, .hangulV | .hangulV, .hangulT | .hangulLV, .hangulT => true
  | .hangulT, .hangulT | .hangulLVT, .hangulT => true
  | _, _ => false

/-- Do the two classes stand together, whatever comes before them? -/
def isPair (last next : BreakClass) : Bool :=
  if last = .carriageReturn ∧ next = .lineFeed then true
  else if last.isControl ∨ next.isControl then false
  else followsInSyllable last next || next.isExtending || next = .spacing || last = .leading

/-- Do the classes, newest first, end in a consonant and marks that extend it, one of which links
the next consonant to it? -/
def linksConsonant (classes : List BreakClass) : Bool :=
  (classes.takeWhile staysOpen).contains .linking &&
    (classes.dropWhile staysOpen).head? = some .consonant

/-- Do the classes, newest first, end in a pictograph, marks that extend it, and a joiner? -/
def joinsPictograph : List BreakClass → Bool
  | .joiner :: classes =>
    (classes.dropWhile fun mark => mark.isExtending && mark != .joiner).head? = some .pictograph
  | _ => false

/-- Do the classes, newest first, end in the first letter of a flag? -/
def opensFlag (classes : List BreakClass) : Bool :=
  (classes.takeWhile (· = .flagLetter)).length % 2 = 1

/-- Does a character of the class `next` belong to the group of characters with the given classes,
newest first? -/
def continues (classes : List BreakClass) (next : BreakClass) : Bool :=
  classes.head?.any (isPair · next) ||
    match next with
    | .consonant => linksConsonant classes
    | .pictograph => joinsPictograph classes
    | .flagLetter => opensFlag classes
    | _ => false

end BreakClass

/-- The clusters of a text, from the middle of one: its characters so far and their classes,
newest first. -/
def clustersFrom (cluster : Text) (classes : List BreakClass) : Text → List Text
  | [] => [cluster.reverse]
  | c :: rest =>
    if BreakClass.continues classes (breakClass c) then
      clustersFrom (c :: cluster) (breakClass c :: classes) rest
    else cluster.reverse :: clustersFrom [c] [breakClass c] rest

def clusters : Text → List Text
  | [] => []
  | c :: rest => clustersFrom [c] [breakClass c] rest

theorem flatten_clustersFrom (cluster : Text) (classes : List BreakClass) (s : Text) :
    (clustersFrom cluster classes s).flatten = cluster.reverse ++ s := by
  fun_induction clustersFrom cluster classes s <;> simp_all

/-- Nothing is lost by cutting a text into clusters. -/
theorem flatten_clusters (s : Text) : (clusters s).flatten = s := by
  cases s with
  | nil => rfl
  | cons c rest => simp [clusters, flatten_clustersFrom]

end HaxePrompt.Text
