import Mathlib.Data.Finset.Card
import Mathlib.Data.List.Nodup
import Mathlib.Logic.Relation

/-!
# Depth-first visits with a shared visited list

A recursive visitor marks a node, then visits the successors of that node one
after the other, and every call shares one list of visited nodes.  The
recursion depth is explicit, so running out of it is a visible outcome.  This
module proves that a depth equal to the number of unvisited nodes always
suffices and that the visited nodes are then exactly the reachable ones.
-/

namespace Bibliotheque.Traversal

open Relation

variable {Node : Type*} [DecidableEq Node]

/-- The relation walked by a visitor. -/
def Edge (next : Node → List Node) (source target : Node) : Prop :=
  target ∈ next source

/-- Visit `node` and everything below it.  The answer is the extended visited
list, or `none` when the recursion is deeper than `depth`. -/
def visit (next : Node → List Node) :
    ℕ → List Node → Node → Option (List Node)
  | 0, visited, node => if node ∈ visited then some visited else none
  | depth + 1, visited, node =>
      if node ∈ visited then some visited
      else (next node).foldlM (visit next depth) (node :: visited)

/-- What a visit of `roots` guarantees about the list it returns. -/
structure Visited (next : Node → List Node) (visited roots result : List Node) :
    Prop where
  grows : ∀ node ∈ visited, node ∈ result
  reached : ∀ root ∈ roots, root ∈ result
  closed : ∀ node ∈ result, node ∉ visited →
    ∀ target ∈ next node, target ∈ result
  sound : ∀ node ∈ result, node ∈ visited ∨
    ∃ root ∈ roots, ReflTransGen (Edge next) root node

omit [DecidableEq Node] in
theorem Visited.nil (next : Node → List Node) (visited : List Node) :
    Visited next visited [] visited where
  grows := fun _ hnode => hnode
  reached := by simp
  closed := fun node hnode hfresh => absurd hnode hfresh
  sound := fun _ hnode => Or.inl hnode

omit [DecidableEq Node] in
/-- Nothing happens at a node that is already marked. -/
theorem Visited.skip {next : Node → List Node} {visited : List Node}
    {node : Node} (hnode : node ∈ visited) :
    Visited next visited [node] visited where
  grows := fun _ hother => hother
  reached := by simpa using hnode
  closed := fun other hother hfresh => absurd hother hfresh
  sound := fun _ hother => Or.inl hother

omit [DecidableEq Node] in
/-- Visits compose: the second one starts from what the first one marked. -/
theorem Visited.append {next : Node → List Node}
    {visited middle result left right : List Node}
    (hleft : Visited next visited left middle)
    (hright : Visited next middle right result) :
    Visited next visited (left ++ right) result where
  grows := fun node hnode => hright.grows node (hleft.grows node hnode)
  reached := by
    intro root hroot
    rcases List.mem_append.mp hroot with hroot | hroot
    · exact hright.grows root (hleft.reached root hroot)
    · exact hright.reached root hroot
  closed := by
    intro node hnode hfresh target htarget
    by_cases hmiddle : node ∈ middle
    · exact hright.grows target
        (hleft.closed node hmiddle hfresh target htarget)
    · exact hright.closed node hnode hmiddle target htarget
  sound := by
    intro node hnode
    rcases hright.sound node hnode with hmiddle | ⟨root, hroot, hpath⟩
    · rcases hleft.sound node hmiddle with hvisited | ⟨root, hroot, hpath⟩
      · exact Or.inl hvisited
      · exact Or.inr ⟨root, List.mem_append_left _ hroot, hpath⟩
    · exact Or.inr ⟨root, List.mem_append_right _ hroot, hpath⟩

omit [DecidableEq Node] in
/-- Marking a node and then visiting all its successors visits the node. -/
theorem Visited.mark {next : Node → List Node}
    {visited result : List Node} {node : Node}
    (hbelow : Visited next (node :: visited) (next node) result) :
    Visited next visited [node] result where
  grows := fun other hother =>
    hbelow.grows other (List.mem_cons_of_mem _ hother)
  reached := by
    intro root hroot
    rw [List.mem_singleton.mp hroot]
    exact hbelow.grows node List.mem_cons_self
  closed := by
    intro other hother hunvisited target htarget
    by_cases hsame : other = node
    · subst hsame
      exact hbelow.reached target htarget
    · exact hbelow.closed other hother
        (by simp [hsame, hunvisited]) target htarget
  sound := by
    intro other hother
    rcases hbelow.sound other hother with hmarked | ⟨root, hroot, hpath⟩
    · rcases List.mem_cons.mp hmarked with rfl | hvisited
      · exact Or.inr ⟨other, List.mem_singleton_self _, ReflTransGen.refl⟩
      · exact Or.inl hvisited
    · exact Or.inr ⟨node, List.mem_singleton_self _,
        ReflTransGen.head hroot hpath⟩

omit [DecidableEq Node] in
/-- A loop of visits satisfies the contract as soon as its body does. -/
theorem visited_foldlM {next : Node → List Node}
    {step : List Node → Node → Option (List Node)}
    (hstep : ∀ visited node result, step visited node = some result →
      Visited next visited [node] result)
    (nodes : List Node) : ∀ visited result : List Node,
      nodes.foldlM step visited = some result →
        Visited next visited nodes result := by
  induction nodes with
  | nil =>
      intro visited result hresult
      simp only [List.foldlM_nil, Option.pure_def, Option.some.injEq] at hresult
      subst hresult
      exact Visited.nil next visited
  | cons node nodes ih =>
      intro visited result hresult
      simp only [List.foldlM_cons, Option.bind_eq_bind,
        Option.bind_eq_some_iff] at hresult
      obtain ⟨middle, hmiddle, hrest⟩ := hresult
      exact (hstep visited node middle hmiddle).append
        (ih middle result hrest)

/-- Every visit that returns meets the contract. -/
theorem visited_visit (next : Node → List Node) (depth : ℕ) :
    ∀ (visited : List Node) (node : Node) (result : List Node),
      visit next depth visited node = some result →
        Visited next visited [node] result := by
  induction depth with
  | zero =>
      intro visited node result hresult
      by_cases hnode : node ∈ visited
      · simp only [visit, hnode, if_true, Option.some.injEq] at hresult
        subst hresult
        exact Visited.skip hnode
      · simp [visit, hnode] at hresult
  | succ depth ih =>
      intro visited node result hresult
      by_cases hnode : node ∈ visited
      · simp only [visit, hnode, if_true, Option.some.injEq] at hresult
        subst hresult
        exact Visited.skip hnode
      · simp only [visit, hnode, if_false] at hresult
        exact Visited.mark (visited_foldlM ih _ _ _ hresult)

/-- From an empty visited list, a visit returns exactly the nodes reachable
from its root. -/
theorem mem_visit_iff {next : Node → List Node} {depth : ℕ} {root : Node}
    {result : List Node} (hresult : visit next depth [] root = some result)
    (node : Node) :
    node ∈ result ↔ ReflTransGen (Edge next) root node := by
  have hvisited := visited_visit next depth [] root result hresult
  constructor
  · intro hnode
    rcases hvisited.sound node hnode with hnone | ⟨start, hstart, hpath⟩
    · simp at hnone
    · rwa [List.mem_singleton.mp hstart] at hpath
  · intro hpath
    induction hpath with
    | refl => exact hvisited.reached root (List.mem_singleton_self _)
    | tail _ hedge ih => exact hvisited.closed _ ih (by simp) _ hedge

/-- Two visitors that agree on a successor-closed scope make the same visits
from inside it. -/
theorem visit_congr {next other : Node → List Node} {scope : Node → Prop}
    (hscope : ∀ node, scope node → ∀ target ∈ next node, scope target)
    (hagree : ∀ node, scope node → other node = next node) (depth : ℕ) :
    ∀ (visited : List Node) (node : Node), scope node →
      visit other depth visited node = visit next depth visited node := by
  induction depth with
  | zero =>
      intro visited node _
      rfl
  | succ depth ih =>
      intro visited node hnode
      have hloop : ∀ (nodes marked : List Node), (∀ target ∈ nodes, scope target) →
          nodes.foldlM (visit other depth) marked =
            nodes.foldlM (visit next depth) marked := by
        intro nodes
        induction nodes with
        | nil =>
            intro marked _
            rfl
        | cons target nodes ihnodes =>
            intro marked hnodes
            rw [List.forall_mem_cons] at hnodes
            simp only [List.foldlM_cons, ih marked target hnodes.1]
            congr 1
            funext middle
            exact ihnodes middle hnodes.2
      simp only [visit, hagree node hnode]
      rw [hloop (next node) (node :: visited) (hscope node hnode)]

/-! ## Enough depth -/

section Termination

variable (next : Node → List Node) (scope : Finset Node)
variable (hscope : ∀ node ∈ scope, ∀ target ∈ next node, target ∈ scope)

private theorem unvisited_lt {visited grown : List Node} {node : Node}
    (hnode : node ∈ scope) (hfresh : node ∉ visited)
    (hgrown : ∀ other ∈ node :: visited, other ∈ grown) :
    (scope.filter (· ∉ grown)).card < (scope.filter (· ∉ visited)).card := by
  apply Finset.card_lt_card
  refine ⟨?_, fun hsubset => ?_⟩
  · intro other hother
    simp only [Finset.mem_filter] at hother ⊢
    exact ⟨hother.1, fun hvisited =>
      hother.2 (hgrown other (List.mem_cons_of_mem _ hvisited))⟩
  · have hmember : node ∈ scope.filter (· ∉ visited) := by simp [hnode, hfresh]
    have hcontra := hsubset hmember
    simp only [Finset.mem_filter] at hcontra
    exact hcontra.2 (hgrown node List.mem_cons_self)

include hscope in
/-- The number of unvisited nodes is enough depth: each nested call has marked
one more node of the finite, successor-closed scope. -/
theorem visit_isSome (depth : ℕ) :
    ∀ (visited : List Node) (node : Node), node ∈ scope →
      (scope.filter (· ∉ visited)).card ≤ depth →
        (visit next depth visited node).isSome := by
  induction depth with
  | zero =>
      intro visited node hnode hdepth
      have hempty := Finset.card_eq_zero.mp (Nat.le_zero.mp hdepth)
      have hmember : node ∈ visited := by
        by_contra hfresh
        have : node ∈ scope.filter (· ∉ visited) := by simp [hnode, hfresh]
        simp [hempty] at this
      simp [visit, hmember]
  | succ depth ih =>
      intro visited node hnode hdepth
      by_cases hvisited : node ∈ visited
      · simp [visit, hvisited]
      simp only [visit, hvisited, if_false]
      -- the loop only ever grows the list, so the bound holds at each call
      have hloop : ∀ (nodes grown : List Node),
          (∀ target ∈ nodes, target ∈ scope) →
          (∀ other ∈ node :: visited, other ∈ grown) →
            (nodes.foldlM (visit next depth) grown).isSome := by
        intro nodes
        induction nodes with
        | nil => intro grown _ _; simp
        | cons target nodes ihnodes =>
            intro grown hnodes hgrown
            have hlt := unvisited_lt scope hnode hvisited hgrown
            obtain ⟨middle, hmiddle⟩ := Option.isSome_iff_exists.mp
              (ih grown target (hnodes target List.mem_cons_self) (by omega))
            have hcontract := visited_visit next depth _ _ _ hmiddle
            simp only [List.foldlM_cons, hmiddle, Option.bind_eq_bind,
              Option.bind_some]
            exact ihnodes middle
              (fun other hother => hnodes other (List.mem_cons_of_mem _ hother))
              (fun other hother => hcontract.grows other (hgrown other hother))
      exact hloop (next node) (node :: visited) (hscope node hnode)
        (fun other hother => hother)

include hscope in
theorem visit_isSome_of_card_le {depth : ℕ} {root : Node} (hroot : root ∈ scope)
    (hdepth : scope.card ≤ depth) : (visit next depth [] root).isSome := by
  apply visit_isSome next scope hscope depth [] root hroot
  simpa using hdepth

end Termination

end Bibliotheque.Traversal
