import ToolAgent.Text.Case
import ToolAgent.Text.ClusterTable

/-!
# What a reader sees as one character

A cluster is a character with the marks that belong to it. A cluster is in upper case if putting it
in upper case changes nothing and putting it in lower case does; and the other way round.
-/

namespace ToolAgent.Text

/-- Characters that a reader sees as one. -/
abbrev Cluster := List Char

namespace Cluster

/-- Whether a character changes in upper case. -/
def isRaised (c : Char) : Bool :=
  if c.toNat < 128 then c.isLower else Case.inRanges raisedRanges c.toNat

/-- Whether a character changes in lower case. -/
def isLowered (c : Char) : Bool := Case.lowerChar c != [c]

/-- Whether a cluster reads as upper case: it is its own upper case, and has a lower one. -/
def isUpper (cs : Cluster) : Bool := cs.all (!isRaised ·) && cs.any isLowered

/-- Whether a cluster reads as lower case: it is its own lower case, and has an upper one. -/
def isLower (cs : Cluster) : Bool := cs.all (!isLowered ·) && cs.any isRaised

/-- Whether a cluster is a digit. -/
def isDigit (cs : Cluster) : Bool := cs.all Char.isDigit

/-- Whether no cluster ends between two characters. -/
def joined (a b : Char) : Bool :=
  Case.inRanges leadRanges a.toNat || Case.inRanges markRanges b.toNat

/-- The clusters of a text. -/
def ofText : List Char → List Cluster
  | [] => []
  | c :: rest =>
    match ofText rest with
    | [] => [[c]]
    | [] :: ks => [c] :: ks
    | (d :: k) :: ks => if joined c d then (c :: d :: k) :: ks else [c] :: (d :: k) :: ks

end Cluster

end ToolAgent.Text
