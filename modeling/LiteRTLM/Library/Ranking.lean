import Mathlib.Data.Finset.Card

/-!
Contract: finite directed graphs whose edges go up in a bounded rank.

A graph that grows one vertex at a time, where every edge leads from an older
vertex to a newer one, carries such a rank: the order of insertion. The rank
gives an induction over predecessors, and it bounds the depth of a recursion
along edges by the number of vertices.

Owns: rankings, how they are kept under the changes a growing graph makes, the
induction rule, and the depth bound.

Does not own: what the vertices and edges stand for.
-/

namespace LiteRTLM.Library

universe u

/-- Vertices `members`, and edges between them that strictly increase a rank
below the number of vertices. -/
structure Ranking {Vertex : Type u} (members : Finset Vertex)
    (Edge : Vertex → Vertex → Prop) where
  rank : Vertex → Nat
  bounded : ∀ vertex ∈ members, rank vertex < members.card
  source : ∀ first second, Edge first second → first ∈ members
  target : ∀ first second, Edge first second → second ∈ members
  increases : ∀ first second, Edge first second → rank first < rank second

namespace Ranking

variable {Vertex : Type u} {members : Finset Vertex} {Edge Fewer : Vertex → Vertex → Prop}

def empty : Ranking (∅ : Finset Vertex) (fun _ _ => False) where
  rank := fun _ => 0
  bounded := by simp
  source := nofun
  target := nofun
  increases := nofun

/-- Edges may be dropped. -/
def mono (ranking : Ranking members Edge)
    (fewer : ∀ first second, Fewer first second → Edge first second) :
    Ranking members Fewer where
  rank := ranking.rank
  bounded := ranking.bounded
  source := fun first second edge => ranking.source first second (fewer first second edge)
  target := fun first second edge => ranking.target first second (fewer first second edge)
  increases := fun first second edge => ranking.increases first second (fewer first second edge)

/-- A new vertex may have edges from older ones. -/
def insert [DecidableEq Vertex] (ranking : Ranking members Edge) {vertex : Vertex}
    (fresh : vertex ∉ members) {More : Vertex → Vertex → Prop}
    (edges : ∀ first second, More first second →
      Edge first second ∨ (first ∈ members ∧ second = vertex)) :
    Ranking (Insert.insert vertex members) More where
  rank := fun other => if other = vertex then members.card else ranking.rank other
  bounded := by
    intro other member
    rw [Finset.card_insert_of_notMem fresh]
    split
    · exact Nat.lt_succ_self _
    next older =>
      exact Nat.lt_succ_of_lt (ranking.bounded other (Finset.mem_of_mem_insert_of_ne member older))
  source := by
    intro first second edge
    rcases edges first second edge with old | ⟨member, -⟩
    · exact Finset.mem_insert_of_mem (ranking.source first second old)
    · exact Finset.mem_insert_of_mem member
  target := by
    intro first second edge
    rcases edges first second edge with old | ⟨-, rfl⟩
    · exact Finset.mem_insert_of_mem (ranking.target first second old)
    · exact Finset.mem_insert_self _ _
  increases := by
    intro first second edge
    rcases edges first second edge with old | ⟨member, rfl⟩
    · have firstOld : first ≠ vertex := fun same => fresh (same ▸ ranking.source first second old)
      have secondOld : second ≠ vertex :=
        fun same => fresh (same ▸ ranking.target first second old)
      rw [if_neg firstOld, if_neg secondOld]
      exact ranking.increases first second old
    · have firstOld : first ≠ second := fun same => fresh (same ▸ member)
      rw [if_neg firstOld, if_pos rfl]
      exact ranking.bounded first member

/-- Induction over predecessors. -/
theorem induction (ranking : Ranking members Edge) {motive : Vertex → Prop}
    (step : ∀ vertex, (∀ earlier, Edge earlier vertex → motive earlier) → motive vertex)
    (vertex : Vertex) : motive vertex := by
  have below : ∀ bound vertex, ranking.rank vertex < bound → motive vertex := by
    intro bound
    induction bound with
    | zero =>
        intro vertex impossible
        omega
    | succ bound inductionHypothesis =>
        intro vertex within
        refine step vertex fun earlier edge => inductionHypothesis earlier ?_
        have increase := ranking.increases earlier vertex edge
        omega
  exact below (ranking.rank vertex + 1) vertex (Nat.lt_succ_self _)

/-- A recursion along edges may spend this much depth below a vertex. -/
def height (ranking : Ranking members Edge) (vertex : Vertex) : Nat :=
  members.card - ranking.rank vertex

/-- Every edge leaves less depth to spend. -/
theorem height_lt (ranking : Ranking members Edge) {first second : Vertex}
    (edge : Edge first second) : ranking.height second < ranking.height first := by
  have increase := ranking.increases first second edge
  have within := ranking.bounded first (ranking.source first second edge)
  unfold height
  omega

/-- No vertex needs more depth than there are vertices. -/
theorem height_le (ranking : Ranking members Edge) (vertex : Vertex) :
    ranking.height vertex ≤ members.card :=
  Nat.sub_le _ _

end Ranking

end LiteRTLM.Library
