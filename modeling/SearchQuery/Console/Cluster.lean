import SearchQuery.Console.Width

/-!
# Clusters

A cluster is a character with what goes along with it: marks without columns, a selector for emoji, and joiners with
the characters that they join.  A text is cut between clusters only, and a cluster that a cut would halve is blanked.
-/

set_option autoImplicit false

namespace SearchQuery.Console

structure Cluster where
  text : Text
  columns : Nat
deriving DecidableEq

namespace Cluster

/-- A cluster with more text and more columns. -/
def extend (cluster : Cluster) (s : Text) (columns : Nat) : Cluster :=
  ⟨cluster.text ++ s, cluster.columns + columns⟩

/-- The clusters of a text that goes on from a cluster, `last` being the character to which a selector belongs. -/
def clustersFrom (current : Option Cluster) (last : Option Char) : Text → List Cluster
  | [] => current.toList
  | [c] =>
    match current with
    | none => [⟨[c], if c = joiner || c = emojiSelector then 0 else charWidth c⟩]
    | some cluster =>
      if c = joiner then [cluster.extend [c] 0]
      else if c = emojiSelector then
        [cluster.extend [c] (if last.any (Text.within widenedRanges) then 1 else 0)]
      else if charWidth c = 0 then [cluster.extend [c] 0]
      else [cluster, ⟨[c], charWidth c⟩]
  | c :: d :: rest =>
    match current with
    | none =>
      if c = joiner || c = emojiSelector || charWidth c = 0 then
        clustersFrom (some ⟨[c], 0⟩) last (d :: rest)
      else clustersFrom (some ⟨[c], charWidth c⟩) (some c) (d :: rest)
    | some cluster =>
      if c = joiner then clustersFrom (some (cluster.extend [c, d] 0)) last rest
      else if c = emojiSelector then
        if last.any (Text.within widenedRanges) then
          clustersFrom (some (cluster.extend [c] 1)) none (d :: rest)
        else clustersFrom (some (cluster.extend [c] 0)) last (d :: rest)
      else if charWidth c = 0 then clustersFrom (some (cluster.extend [c] 0)) last (d :: rest)
      else cluster :: clustersFrom (some ⟨[c], charWidth c⟩) (some c) (d :: rest)

theorem flatMap_clustersFrom (current : Option Cluster) (last : Option Char) (s : Text) :
    (clustersFrom current last s).flatMap Cluster.text = current.toList.flatMap Cluster.text ++ s := by
  fun_induction clustersFrom current last s <;> simp_all [extend]

/-- As much of some clusters as fits in some columns. -/
def take (columns : Nat) : List Cluster → Text
  | [] => []
  | cluster :: rest =>
    if columns = 0 then []
    else if cluster.columns ≤ columns then cluster.text ++ take (columns - cluster.columns) rest
    else [' ']

/-- The stretches of clusters that fit in some columns, the text of the first one that has been passed being given in
reverse. -/
def stretches (columns : Nat) (passed : Text) (used : Nat) : List Cluster → List Text
  | [] => [passed.reverse]
  | cluster :: rest =>
    if columns < used + cluster.columns then
      passed.reverse :: stretches columns cluster.text.reverse cluster.columns rest
    else stretches columns (cluster.text.reverse ++ passed) (used + cluster.columns) rest

end Cluster

/-- The clusters of a text.  A joiner or a selector that has nothing before it joins and widens nothing. -/
def clusters (s : Text) : List Cluster :=
  Cluster.clustersFrom none none s

def blanks (count : Nat) : Text :=
  List.replicate count ' '

/-- A text cut or filled up with blanks so that it takes some columns. -/
def fit (columns : Nat) (s : Text) : Text :=
  if width s ≤ columns then s ++ blanks (columns - width s) else Cluster.take columns (clusters s)

/-- The stretches of a text that fit in some columns. -/
def chop (columns : Nat) (s : Text) : List Text :=
  Cluster.stretches columns [] 0 (clusters s)

end SearchQuery.Console
