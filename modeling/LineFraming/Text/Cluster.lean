import LineFraming.Text.ClusterClass

/-!
# Clusters of a text

A text is moved over and deleted cluster by cluster, where a cluster is what a reader sees as one
character. It ends before the first character that does not belong to those before it; that depends
on the classes of the characters before it only, so the clusters are found from the front.

## Main definitions

* `Text.ClusterClass.belongs`: whether a character belongs to those before it.
* `Text.clusters`: the clusters of a text, in order.

## Main results

* `Text.flatten_clusters`: the clusters make up the text.
-/

namespace LineFraming.Text

namespace ClusterClass

/-- Whether two jamo, or a syllable and a jamo, are parts of one syllable. -/
def composes : ClusterClass → ClusterClass → Bool
  | leadingJamo, k => k = leadingJamo || k = vowelJamo || k = openSyllable || k = closedSyllable
  | openSyllable, k | vowelJamo, k => k = vowelJamo || k = trailingJamo
  | closedSyllable, k | trailingJamo, k => k = trailingJamo
  | _, _ => false

/-- Whether a consonant is linked with the classes before it, the nearest first: there are only
extending marks up to another consonant, and a linker is among them. -/
def isLinked : (passed : Bool) → List ClusterClass → Bool
  | _, linker :: before => isLinked true before
  | passed, extend :: before => isLinked passed before
  | passed, joiner :: before => isLinked passed before
  | passed, consonant :: _ => passed
  | _, _ => false

/-- Whether a pictograph is joined with the classes before it: with the joiner, and with another
pictograph before that, which may be extended. -/
def isJoined : List ClusterClass → Bool
  | joiner :: before =>
    (before.dropWhile fun k => k.isExtending && k != joiner).head? == some pictograph
  | _ => false

/-- Whether a character of a class belongs to those before it, whose classes come the nearest
first. Letters of flags belong together in pairs. -/
def belongs (k : ClusterClass) : List ClusterClass → Bool
  | [] => false
  | nearest :: before =>
    if nearest.isControl || k.isControl then nearest = carriageReturn && k = lineFeed
    else if composes nearest k || k.isExtending || k = spacingMark || nearest = prepend then true
    else match k with
      | consonant => isLinked false (nearest :: before)
      | pictograph => isJoined (nearest :: before)
      | regional => ((nearest :: before).takeWhile (· = regional)).length % 2 = 1
      | _ => false

end ClusterClass

/-- Puts a character before the first of some texts. -/
def attach (c : Char) : List Text → List Text
  | [] => [[c]]
  | t :: rest => (c :: t) :: rest

/-- The clusters of what follows some characters, whose classes come the nearest first. The first
one is the rest of their last cluster, and it is empty if that is complete. -/
def clustersBehind (before : List ClusterClass) : Text → List Text
  | [] => [[]]
  | c :: rest =>
    let k := ClusterClass.ofChar c
    let others := attach c (clustersBehind (k :: before) rest)
    if k.belongs before then others else [] :: others

/-- The clusters of a text, in order. -/
def clusters (t : Text) : List Text := (clustersBehind [] t).filter (!·.isEmpty)

/-! ### The clusters make up the text -/

theorem flatten_attach (c : Char) (ts : List Text) : (attach c ts).flatten = c :: ts.flatten := by
  cases ts <;> rfl

theorem flatten_clustersBehind (t : Text) :
    ∀ before, (clustersBehind before t).flatten = t := by
  induction t with
  | nil => intro before; rfl
  | cons c rest ih =>
    intro before
    rw [clustersBehind]
    split
    · rw [flatten_attach, ih]
    · rw [List.flatten_cons, flatten_attach, ih, List.nil_append]

/-- Nothing is lost. -/
theorem flatten_clusters (t : Text) : (clusters t).flatten = t := by
  rw [clusters, List.flatten_filter_not_isEmpty, flatten_clustersBehind]

@[simp] theorem clusters_nil : clusters [] = [] := rfl

end LineFraming.Text
