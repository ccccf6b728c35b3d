import Mathlib.Logic.Relation
import ControlHarness.Contracts.Models
import ControlHarness.General.Fallible

/-!
Workflow definitions (`workflow.py`).

A definition is a graph of nodes whose transitions lead to other nodes or to a
terminal sentinel. `validateGraph` checks that the identifiers are distinct, that
the entry is a node and that every target is a node or a sentinel. It does not
check that the two name spaces are apart: a node may bear the name of a sentinel
(`not_neverLost`). The walks of an accepted definition are never lost exactly when
no transition leads to such a node (`neverLost_iff`).

* `WorkflowNode`, `WorkflowDefinition`: the models, as far as the graph and its
  checks use them.
* `validateGraph`, `node`: the functions of the source.
* `Follows`, `Reached`: the walks from the entry.
* `NeverLost`: the law.
-/

namespace ControlHarness

/-- `TERMINAL_SENTINELS`. -/
def terminalSentinels : List String :=
  ["done", "blocked", "failed", "cancelled", "recovery_required"]

/-- `AutonomyLevel`. -/
inductive AutonomyLevel where
  | a0 | a1 | a2 | a3 | a4 | a5
  deriving DecidableEq, Repr

/-- `^[a-z0-9_]{3,80}$`. -/
def IsNodeId (s : String) : Prop := InClass (fun c => isLowerDigit c || c = '_') 3 80 s

instance (s : String) : Decidable (IsNodeId s) := inferInstanceAs (Decidable (InClass _ _ _ s))

/-- `WorkflowTransitions`. -/
structure WorkflowTransitions where
  success : Option String := none
  failure : Option String := none
  approval : Option String := none
  retry : Option String := none
  target_length : ∀ t ∈ [success, failure, approval, retry].reduceOption, HasLength 1 80 t := by
    decide
  deriving DecidableEq, Repr

/-- `WorkflowTransitions.targets`. -/
def WorkflowTransitions.targets (t : WorkflowTransitions) : List String :=
  [t.success, t.failure, t.approval, t.retry].reduceOption.filter (· ≠ "")

/-- `WorkflowNode`. -/
structure WorkflowNode where
  nodeId : String
  autonomyLevel : AutonomyLevel
  protectedSideEffect : Bool := false
  transitions : WorkflowTransitions
  nodeId_pattern : IsNodeId nodeId := by decide
  a4_protected : autonomyLevel = .a4 → protectedSideEffect = true := by decide
  deriving DecidableEq, Repr

/-- `WorkflowDefinition`, before its graph is validated. -/
structure WorkflowDefinition where
  entryNode : String
  nodes : List WorkflowNode
  deriving DecidableEq, Repr

/-- `KeyError`. -/
structure KeyError where
  key : String
  deriving DecidableEq, Repr

namespace WorkflowDefinition

/-- The identifiers of the nodes. -/
def ids (w : WorkflowDefinition) : List String := w.nodes.map (·.nodeId)

/-- The check of one target in `validate_graph`. -/
def checkTarget (w : WorkflowDefinition) (node : WorkflowNode) (target : String) :
    Except String Unit :=
  if target ∉ w.ids ∧ target ∉ terminalSentinels then
    .error ("node '" ++ node.nodeId ++ "' transitions to unknown node '" ++ target ++ "'")
  else .ok ()

/-- `validate_graph`; the error is the message of the `ValueError`. -/
def validateGraph (w : WorkflowDefinition) : Except String Unit :=
  if w.ids.length ≠ w.ids.dedup.length then .error "duplicate node_id in workflow definition"
  else if w.entryNode ∉ w.ids then
    .error ("entry_node '" ++ w.entryNode ++ "' is not a defined node")
  else w.nodes.forM fun node => node.transitions.targets.forM (w.checkTarget node)

/-- `node`. -/
def node (w : WorkflowDefinition) (nodeId : String) : Except KeyError WorkflowNode :=
  match w.nodes.find? fun n => n.nodeId = nodeId with
  | some n => .ok n
  | none => .error ⟨nodeId⟩

/-! ### Accepted definitions -/

/-- What an accepted definition satisfies. -/
structure Accepted (w : WorkflowDefinition) : Prop where
  unique : w.ids.Nodup
  entry : w.entryNode ∈ w.ids
  closed : ∀ n ∈ w.nodes, ∀ t ∈ n.transitions.targets, t ∈ w.ids ∨ t ∈ terminalSentinels

variable {w : WorkflowDefinition} {t : String}

lemma checkTarget_eq_ok {n : WorkflowNode} :
    w.checkTarget n t = .ok () ↔ t ∈ w.ids ∨ t ∈ terminalSentinels := by
  rw [checkTarget]
  split
  · rename_i hunknown
    exact iff_of_false (by simp) (by tauto)
  · rename_i hknown
    exact iff_of_true rfl (by tauto)

/-- **What `validate_graph` accepts.** -/
lemma validateGraph_eq_ok : w.validateGraph = .ok () ↔ w.Accepted := by
  have hdedup : w.ids.length = w.ids.dedup.length ↔ w.ids.Nodup := by
    constructor
    · intro h
      rw [← List.dedup_eq_self]
      exact (List.dedup_sublist w.ids).eq_of_length h.symm
    · intro h
      rw [h.dedup]
  have hclosed : (w.nodes.forM fun n => n.transitions.targets.forM (w.checkTarget n)) = .ok () ↔
      ∀ n ∈ w.nodes, ∀ t ∈ n.transitions.targets, t ∈ w.ids ∨ t ∈ terminalSentinels := by
    rw [List.forM_eq_ok]
    refine forall₂_congr fun n _ => ?_
    rw [List.forM_eq_ok]
    exact forall₂_congr fun t _ => checkTarget_eq_ok
  rw [validateGraph]
  split
  · rename_i hlength
    exact iff_of_false (by simp) fun h => hlength (hdedup.mpr h.unique)
  split
  · rename_i hentry
    exact iff_of_false (by simp) fun h => hentry h.entry
  · rename_i hlength hentry
    rw [hclosed]
    exact ⟨fun h => ⟨hdedup.mp (not_not.mp hlength), not_not.mp hentry, h⟩, fun h => h.closed⟩

/-- The target is the identifier of exactly one node, which `node` returns. -/
structure IsNode (w : WorkflowDefinition) (t : String) : Prop where
  once : w.ids.count t = 1
  found : ∃ n ∈ w.nodes, n.nodeId = t ∧ w.node t = .ok n

lemma node_eq_ok {n : WorkflowNode} (h : w.node t = .ok n) : n ∈ w.nodes ∧ n.nodeId = t := by
  rw [node] at h
  split at h
  · rename_i m hfind
    obtain rfl := Except.ok.inj h
    exact ⟨List.mem_of_find?_eq_some hfind, by simpa using List.find?_some hfind⟩
  · exact absurd h (by simp)

/-- `node` raises on no identifier. -/
lemma exists_node (h : t ∈ w.ids) : ∃ n, w.node t = .ok n := by
  obtain ⟨m, hm, rfl⟩ := List.mem_map.mp h
  rw [node]
  cases hfind : w.nodes.find? fun n => n.nodeId = m.nodeId with
  | some n => exact ⟨n, rfl⟩
  | none =>
      have hno := List.find?_eq_none.mp hfind m hm
      exact absurd (decide_eq_true rfl) hno

lemma Accepted.isNode_iff (h : w.Accepted) : w.IsNode t ↔ t ∈ w.ids := by
  constructor
  · rintro ⟨-, n, hn, rfl, -⟩
    exact List.mem_map_of_mem hn
  · intro ht
    obtain ⟨n, hnode⟩ := exists_node ht
    obtain ⟨hn, hid⟩ := node_eq_ok hnode
    exact ⟨List.count_eq_one_of_mem h.unique ht, n, hn, hid, hnode⟩

/-! ### Walks -/

/-- A target of the first node leads to the second. -/
def Follows (w : WorkflowDefinition) (n m : WorkflowNode) : Prop :=
  ∃ t ∈ n.transitions.targets, w.node t = .ok m

/-- A walk from the entry comes to a node with the target. -/
def Reached (w : WorkflowDefinition) (t : String) : Prop :=
  ∃ start n, w.node w.entryNode = .ok start ∧ Relation.ReflTransGen w.Follows start n ∧
    t ∈ n.transitions.targets

/-- A walk stays within the nodes. -/
lemma mem_nodes_of_walk {start n : WorkflowNode} (hstart : start ∈ w.nodes)
    (h : Relation.ReflTransGen w.Follows start n) : n ∈ w.nodes := by
  induction h with
  | refl => exact hstart
  | tail _ hfollows _ =>
      obtain ⟨t, -, hnode⟩ := hfollows
      exact (node_eq_ok hnode).1

/-- **The law of the walks**: the entry is a node, every target that a walk reaches
is a node or a terminal sentinel and not both, and no target of any node is both. -/
structure NeverLost (w : WorkflowDefinition) : Prop where
  entry : w.IsNode w.entryNode
  reached : ∀ t, w.Reached t → Xor (w.IsNode t) (t ∈ terminalSentinels)
  apart : ∀ n ∈ w.nodes, ∀ t ∈ n.transitions.targets, ¬ (w.IsNode t ∧ t ∈ terminalSentinels)

/-- A transition leads to a node that bears the name of a terminal sentinel. -/
def Ambiguous (w : WorkflowDefinition) : Prop :=
  ∃ n ∈ w.nodes, n.nodeId ∈ terminalSentinels ∧ ∃ m ∈ w.nodes, n.nodeId ∈ m.transitions.targets

/-- **The walks of an accepted definition are never lost** exactly when no
transition leads to a node with the name of a terminal sentinel. -/
theorem neverLost_iff (h : w.validateGraph = .ok ()) : w.NeverLost ↔ ¬ w.Ambiguous := by
  have haccepted := validateGraph_eq_ok.mp h
  constructor
  · rintro hlaw ⟨n, hn, hterminal, m, hm, htarget⟩
    have hnode : w.IsNode n.nodeId := haccepted.isNode_iff.mpr (List.mem_map_of_mem hn)
    exact hlaw.apart m hm n.nodeId htarget ⟨hnode, hterminal⟩
  · intro hclear
    have hapart : ∀ n ∈ w.nodes, ∀ t ∈ n.transitions.targets,
        ¬ (w.IsNode t ∧ t ∈ terminalSentinels) := by
      rintro m hm t htarget ⟨⟨-, n, hn, rfl, -⟩, hterminal⟩
      exact hclear ⟨n, hn, hterminal, m, hm, htarget⟩
    refine ⟨haccepted.isNode_iff.mpr haccepted.entry, ?_, hapart⟩
    rintro t ⟨start, n, hstart, hwalk, htarget⟩
    have hn : n ∈ w.nodes := mem_nodes_of_walk (node_eq_ok hstart).1 hwalk
    rcases haccepted.closed n hn t htarget with hid | hterminal
    · have hnode := haccepted.isNode_iff.mpr hid
      exact Or.inl ⟨hnode, fun hterminal => hapart n hn t htarget ⟨hnode, hterminal⟩⟩
    · exact Or.inr ⟨hterminal, fun hnode => hapart n hn t htarget ⟨hnode, hterminal⟩⟩

/-- The reading of a context, a gate behind it, and the way back. -/
def sampleWorkflow : WorkflowDefinition where
  entryNode := "context_pack"
  nodes :=
    [{ nodeId := "context_pack", autonomyLevel := .a1,
       transitions := { success := some "harness_gate", retry := some "context_pack" } },
      { nodeId := "harness_gate", autonomyLevel := .a0,
        transitions := { success := some "done", failure := some "blocked" } }]

theorem neverLost_iff_sample : sampleWorkflow.NeverLost :=
  (neverLost_iff rfl).mpr (by
    rw [Ambiguous]
    decide)

/-- A gate whose success may be read as the end or as another node. -/
def ambiguousWorkflow : WorkflowDefinition where
  entryNode := "gate"
  nodes :=
    [{ nodeId := "gate", autonomyLevel := .a1, transitions := { success := some "done" } },
      { nodeId := "done", autonomyLevel := .a3, transitions := { success := some "gate" } }]

/-- The graph is accepted, and a walk reaches a target that is both. -/
theorem not_neverLost : ¬ ∀ w : WorkflowDefinition, w.validateGraph = .ok () → w.NeverLost := by
  intro h
  have hlaw := h ambiguousWorkflow rfl
  have hnode : ambiguousWorkflow.IsNode "done" :=
    ⟨by decide, _, by decide, by decide, rfl⟩
  exact hlaw.apart _ List.mem_cons_self "done" (by decide) ⟨hnode, by decide⟩

end WorkflowDefinition

end ControlHarness
