import Mathlib.Data.Fintype.Order
import Mathlib.Data.Set.Finite.List

/-!
# The search for a cycle

A depth-first search from a node of a graph that is given by the list of successors of a node. It keeps the nodes it is
in, and those that it has left; it stops at the first node that it is already in. It answers `true` exactly when a cycle
is reached from the node, as soon as it may go as deep as there are nodes with successors.
-/

namespace Lib
open Relation

variable {α : Type}

def Edge (next : α → List α) (x y : α) : Prop := y ∈ next x

def Acyclic (next : α → List α) : Prop := ∀ x, ¬ TransGen (Edge next) x x

/-- The search from the successors of a node, one after the other, up to the first cycle. -/
def searchAll (visit : List α → α → Bool × List α) : List α → List α → Bool × List α
  | [], visited => (false, visited)
  | node :: nodes, visited =>
    let (found, visited) := visit visited node
    if found then (true, visited) else searchAll visit nodes visited

variable {next : α → List α}

/-- Nodes in the reverse of the order in which they were left: the successors of a node were left before it. -/
inductive Settled (next : α → List α) : List α → Prop where
  | nil : Settled next []
  | cons {node nodes} : node ∉ nodes → (∀ y ∈ next node, y ∈ nodes) → Settled next nodes → Settled next (node :: nodes)

variable {nodes visiting visited visited' : List α} {x y node : α}

lemma Settled.closed (settled : Settled next nodes) (within : x ∈ nodes)
    (path : TransGen (Edge next) x y) : y ∈ nodes := by
  induction settled generalizing x with
  | nil => cases within
  | @cons node nodes new left rest ih =>
    rcases List.mem_cons.1 within with rfl | within
    · rcases TransGen.head'_iff.1 path with ⟨z, edge, path⟩
      have there : z ∈ nodes := left z edge
      rcases Relation.reflTransGen_iff_eq_or_transGen.1 path with rfl | path
      · exact List.mem_cons_of_mem _ there
      · exact List.mem_cons_of_mem _ (ih there path)
    · exact List.mem_cons_of_mem _ (ih within path)

lemma Settled.acyclic (settled : Settled next nodes) (within : x ∈ nodes) :
    ¬ TransGen (Edge next) x x := by
  intro path
  induction settled with
  | nil => cases within
  | @cons node nodes new left rest ih =>
    rcases List.mem_cons.1 within with rfl | within
    · rcases TransGen.head'_iff.1 path with ⟨z, edge, path⟩
      have there : z ∈ nodes := left z edge
      rcases Relation.reflTransGen_iff_eq_or_transGen.1 path with rfl | path
      · exact new there
      · exact new (rest.closed there path)
    · exact ih within

/-- What a search that has found nothing leaves. -/
structure Left (next : α → List α) (visiting visited : List α) (node : α) (visited' : List α) : Prop where
  settled : Settled next visited'
  apart : ∀ x ∈ visited', x ∉ visiting
  more : visited ⊆ visited'
  node : node ∈ visited'

variable {visit : List α → α → Bool × List α}

lemma searchAll_false (sound : ∀ visited node visited', Settled next visited → (∀ x ∈ visited, x ∉ visiting) →
      visit visited node = (false, visited') → Left next visiting visited node visited')
    (settled : Settled next visited) (apart : ∀ x ∈ visited, x ∉ visiting)
    (none : searchAll visit nodes visited = (false, visited')) :
    Settled next visited' ∧ (∀ x ∈ visited', x ∉ visiting) ∧ visited ⊆ visited' ∧ ∀ x ∈ nodes, x ∈ visited' := by
  induction nodes generalizing visited with
  | nil =>
    cases none
    exact ⟨settled, apart, List.Subset.refl _, fun x within => by cases within⟩
  | cons node nodes ih =>
    obtain ⟨found, visited₁, first⟩ : ∃ found visited₁, visit visited node = (found, visited₁) := ⟨_, _, rfl⟩
    cases found with
    | true => simp [searchAll, first] at none
    | false =>
      simp only [searchAll, first] at none
      have left := sound visited node visited₁ settled apart first
      obtain ⟨settled', apart', more, all⟩ := ih left.settled left.apart none
      exact ⟨settled', apart', List.Subset.trans left.more more, List.forall_mem_cons.2 ⟨more left.node, all⟩⟩

lemma searchAll_true (found : searchAll visit nodes visited = (true, visited')) :
    ∃ node ∈ nodes, ∃ visited₁ visited₂, visit visited₁ node = (true, visited₂) := by
  induction nodes generalizing visited with
  | nil => simp [searchAll] at found
  | cons node nodes ih =>
    obtain ⟨first, visited₁, is⟩ : ∃ first visited₁, visit visited node = (first, visited₁) := ⟨_, _, rfl⟩
    cases first with
    | true => exact ⟨node, List.mem_cons_self, visited, visited₁, is⟩
    | false =>
      simp only [searchAll, is] at found
      obtain ⟨node', within, rest⟩ := ih found
      exact ⟨node', List.mem_cons_of_mem _ within, rest⟩

lemma path_cases {next' : α → List α} (same : ∀ x, x ≠ node → next' x = next x)
    (path : TransGen (Edge next') x y) : TransGen (Edge next) x y ∨ ReflTransGen (Edge next') node y := by
  have step : ∀ {x y}, Edge next' x y → Edge next x y ∨ ReflTransGen (Edge next') node y := by
    intro x y edge
    by_cases is : x = node
    · subst is
      exact .inr (.single edge)
    · exact .inl (by rwa [Edge, ← same x is])
  induction path with
  | single edge => exact (step edge).imp_left .single
  | tail _ edge ih =>
    rcases ih with was | through
    · exact (step edge).imp_left was.tail
    · exact .inr (through.tail edge)

lemma Acyclic.update {next' : α → List α} (acyclic : Acyclic next) (same : ∀ x, x ≠ node → next' x = next x)
    (none : ∀ x, ReflTransGen (Edge next') node x → ¬ TransGen (Edge next') x x) : Acyclic next' := by
  intro x path
  rcases path_cases same path with was | through
  · exact acyclic x was
  · exact none x through path

lemma Acyclic.minimal (acyclic : Acyclic next) (some : nodes ≠ []) :
    ∃ x ∈ nodes, ∀ y ∈ next x, y ∉ nodes := by
  let later (x y : {x // x ∈ nodes}) : Prop := TransGen (Edge next) y.1 x.1
  have : IsTrans _ later := ⟨fun _ _ _ first second => second.trans first⟩
  have : Std.Irrefl later := ⟨fun x => acyclic x.1⟩
  have : Finite {x // x ∈ nodes} := nodes.finite_toSet
  have wellFounded : WellFounded later := Finite.wellFounded_of_trans_of_irrefl later
  obtain ⟨first, within⟩ := List.exists_mem_of_ne_nil nodes some
  obtain ⟨x, -, least⟩ := wellFounded.has_min Set.univ ⟨⟨first, within⟩, trivial⟩
  exact ⟨x.1, x.2, fun y edge within => least ⟨y, within⟩ trivial (.single edge)⟩

variable [DecidableEq α]

/-- The search from a node, `depth` nodes deep at most: whether there is a cycle, and the nodes that were left. -/
def search (next : α → List α) : ℕ → List α → List α → α → Bool × List α
  | 0, _, visited, _ => (true, visited)
  | depth + 1, visiting, visited, node =>
    if node ∈ visiting then (true, visited)
    else if node ∈ visited then (false, visited)
    else
      let (found, visited) := searchAll (search next depth (node :: visiting)) (next node) visited
      if found then (true, visited) else (false, node :: visited)

lemma search_false {depth : ℕ} (settled : Settled next visited)
    (apart : ∀ x ∈ visited, x ∉ visiting) (none : search next depth visiting visited node = (false, visited')) :
    Left next visiting visited node visited' := by
  induction depth generalizing visiting visited visited' node with
  | zero => simp [search] at none
  | succ depth ih =>
    rw [search] at none
    split at none
    · simp at none
    split at none
    · rename_i new there
      cases none
      exact ⟨settled, apart, List.Subset.refl _, there⟩
    rename_i inside new
    obtain ⟨found, visited₁, rest⟩ :
        ∃ found visited₁, searchAll (search next depth (node :: visiting)) (next node) visited = (found, visited₁) :=
      ⟨_, _, rfl⟩
    cases found with
    | true => simp [rest] at none
    | false =>
      simp only [rest, Bool.false_eq_true, if_false, Prod.mk.injEq, true_and] at none
      subst none
      have apart₀ : ∀ x ∈ visited, x ∉ node :: visiting := fun x within =>
        List.not_mem_cons_of_ne_of_not_mem (fun same => new (same ▸ within)) (apart x within)
      obtain ⟨settled', apart', more, all⟩ := searchAll_false (fun _ _ _ settled apart => ih settled apart) settled apart₀ rest
      refine ⟨.cons (fun there => apart' node there List.mem_cons_self) all settled', List.forall_mem_cons.2 ⟨inside, ?_⟩,
        fun x within => List.mem_cons_of_mem _ (more within), List.mem_cons_self⟩
      exact fun x within there => apart' x within (List.mem_cons_of_mem _ there)

/-! ## What is found is there -/

def Cyclic (next : α → List α) : Prop := ∃ x, TransGen (Edge next) x x

/-- The nodes that the search is in: each leads to the next one, and all have successors. -/
structure Trail (next : α → List α) (nodes visiting : List α) (node : α) : Prop where
  nodup : visiting.Nodup
  within : visiting ⊆ nodes
  leads : ∀ x ∈ visiting, TransGen (Edge next) x node

lemma search_true (all : ∀ x, next x ≠ [] → x ∈ nodes) {depth : ℕ}
    (trail : Trail next nodes visiting node) (deep : nodes.length < depth + visiting.length)
    (found : search next depth visiting visited node = (true, visited')) : Cyclic next := by
  induction depth generalizing visiting visited visited' node with
  | zero =>
    -- it cannot be in more nodes than there are
    have := (trail.nodup.subperm trail.within).length_le
    omega
  | succ depth ih =>
    rw [search] at found
    split at found
    · rename_i inside
      exact ⟨node, trail.leads node inside⟩
    split at found
    · simp at found
    rename_i inside new
    obtain ⟨first, visited₁, rest⟩ :
        ∃ found visited₁, searchAll (search next depth (node :: visiting)) (next node) visited = (found, visited₁) :=
      ⟨_, _, rfl⟩
    cases first with
    | false => simp [rest] at found
    | true =>
      obtain ⟨y, edge, visited₂, visited₃, deeper⟩ := searchAll_true rest
      refine ih ⟨List.nodup_cons.2 ⟨inside, trail.nodup⟩, ?_, ?_⟩ ?_ deeper
      · exact List.cons_subset.2 ⟨all node (List.ne_nil_of_mem edge), trail.within⟩
      · exact List.forall_mem_cons.2 ⟨.single edge, fun x within => (trail.leads x within).tail edge⟩
      · rw [List.length_cons]
        omega

/-! ## The search -/

def cyclicFrom (next : α → List α) (nodes : List α) (node : α) : Bool := (search next (nodes.length + 1) [] [] node).1

lemma not_cyclic_of_search (none : cyclicFrom next nodes node = false)
    (path : ReflTransGen (Edge next) node x) : ¬ TransGen (Edge next) x x := by
  have left : Left next [] [] node (search next (nodes.length + 1) [] [] node).2 :=
    search_false .nil (fun _ within => by cases within) (Prod.ext none rfl)
  rcases Relation.reflTransGen_iff_eq_or_transGen.1 path with rfl | path
  · exact left.settled.acyclic left.node
  · exact left.settled.acyclic (left.settled.closed left.node path)

lemma Acyclic.search (acyclic : Acyclic next) (all : ∀ x, next x ≠ [] → x ∈ nodes) (node : α) :
    cyclicFrom next nodes node = false := by
  rw [← Bool.not_eq_true]
  intro found
  have trail : Trail next nodes [] node := ⟨List.nodup_nil, List.nil_subset _, fun _ within => by cases within⟩
  obtain ⟨x, path⟩ := search_true all trail (by simp) (Prod.ext found rfl)
  exact acyclic x path

end Lib
