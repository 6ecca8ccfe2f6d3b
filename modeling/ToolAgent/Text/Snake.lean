import ToolAgent.Text.Basic
import ToolAgent.Text.Cluster

/-!
# Snake case

A name is taken apart into words: at underscores, hyphens and spaces, which vanish; where a lower
case letter meets an upper case one; where letters and digits meet; and before the last capital of
several that a lower case letter follows. In snake case the words are in lower case and joined by
underscores.
-/

namespace ToolAgent.Text.Snake

/-- Whether a cluster stands between words. -/
def isDelimiter (k : Cluster) : Bool := k == ['_'] || k == ['-'] || k == [' ']

/-- Whether a word ends between two clusters. -/
def parts (a b : Cluster) : Bool :=
  (a.isLower && b.isUpper) || (a.isUpper && b.isDigit) || (a.isDigit && b.isUpper)
    || (a.isDigit && b.isLower) || (a.isLower && b.isDigit)

/-- Whether a word ends before `b`, given its neighbours. -/
def breaks (a b : Cluster) (c : Option Cluster) : Bool :=
  parts a b || (a.isUpper && b.isUpper && c.any Cluster.isLower)

/-- The words of clusters, the last of `before` being the cluster before them. -/
def wordsFrom (before : Option Cluster) : List Cluster → List (List Char)
  | [] => [[]]
  | k :: rest =>
    let later := wordsFrom (some k) rest
    if isDelimiter k then [] :: later
    else
      let joined := match later with
        | w :: ws => (k ++ w) :: ws
        | [] => [k]
      if before.any (breaks · k rest.head?) then [] :: joined else joined

/-- The words of a name. -/
def words (s : String) : List (List Char) :=
  (wordsFrom none (Cluster.ofText s.toList)).filter (· ≠ [])

/-- A name in snake case. -/
def ofName (s : String) : String :=
  String.intercalate "_" ((words s).map fun w => Case.lower (String.ofList w))

end ToolAgent.Text.Snake
