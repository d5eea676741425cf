import Vibapp.Lib.Ancestry
import Vibapp.Lib.Dict
import Vibapp.Lib.Except
import Vibapp.Protocol.Admission
import Mathlib.Data.List.Perm.Subperm

/-!
# Structural checks of UI views

`validateViewShape` on a flat list of nodes with parent links. **Main result**
(`validateViewShape_eq_ok_iff`): it accepts exactly the lists that are one tree under the declared
root (`ViewShape.IsTree`). `validateViewShape_exact` adds that its walk up the links ends for any
links, those with cycles included.
-/

namespace Vibapp.Protocol

structure ViewNode where
  id : String
  parent : Option String
deriving DecidableEq, Repr

structure ViewShape where
  root : String
  nodes : List ViewNode
deriving DecidableEq, Repr

/-! ## The check -/

/-- The loop that fills `parents`. -/
def insertParent (parents : Dict String (Option String)) (node : ViewNode) :
    Except ProtocolErrorCode (Dict String (Option String)) :=
  if node.id = "" ∨ parents.contains node.id = true then .error .malformedOutput
  else .ok (parents.set node.id node.parent)

/-- `parents.get(candidate).and_then(|parent| *parent)`. -/
def parentOf (parents : Dict String (Option String)) (candidate : String) : Option String :=
  (parents.get? candidate).join

/-- The `while` loop up from one node: the nodes seen, or nothing once one is met again. A pass
that goes on meets a node not seen before, so there are no more passes than nodes. -/
def seenFrom (parents : Dict String (Option String)) :
    Nat → List String → Option String → Option (List String)
  | _, seen, none => some seen
  | 0, _, some _ => none
  | passes + 1, seen, some candidate =>
    if candidate ∈ seen then none
    else seenFrom parents passes (candidate :: seen) (parentOf parents candidate)

/-- `validate_view_shape`. Every error is the same, so the order of the loops does not show. -/
def validateViewShape (view : ViewShape) : Except ProtocolErrorCode Unit := do
  if view.root = "" ∨ view.nodes = [] then .error .malformedOutput
  let parents ← view.nodes.foldlM insertParent ∅
  if parents.get? view.root ≠ some none then .error .malformedOutput
  if parents.entries.any (fun (id, parent) => id ≠ view.root && parent.isNone) = true then
    .error .malformedOutput
  if parents.entries.any (fun (id, parent) =>
      parent.any fun parentId => parentId = id || !parents.contains parentId) = true then
    .error .malformedOutput
  if parents.keys.all (fun id =>
      (seenFrom parents (parents.size + 1) [] (some id)).any (·.contains view.root)) = false then
    .error .malformedOutput
  .ok ()

/-! ## Trees -/

/-- The nodes are one tree: their ids are distinct and not empty, the root stands among them
without a parent, every other node has exactly one parent among them, and from every node the
links lead up to the root. -/
structure ViewShape.IsTree (view : ViewShape) : Prop where
  nodup : (view.nodes.map ViewNode.id).Nodup
  nonempty : ∀ node ∈ view.nodes, node.id ≠ ""
  root : ⟨view.root, none⟩ ∈ view.nodes
  parent : ∀ node ∈ view.nodes, node.id ≠ view.root →
    ∃! above, above ∈ view.nodes ∧ node.parent = some above.id
  reaches : ∀ node ∈ view.nodes,
    Relation.ReflTransGen (fun id above => ⟨id, some above⟩ ∈ view.nodes) node.id view.root

/-! ## The table of parents -/

theorem insertParent_eq_ok {parents parents' : Dict String (Option String)} {node : ViewNode} :
    insertParent parents node = .ok parents' ↔
      node.id ≠ "" ∧ parents.get? node.id = none ∧ parents' = parents.set node.id node.parent := by
  unfold insertParent
  by_cases h : node.id = "" ∨ parents.contains node.id = true
  · rw [if_pos h]
    refine ⟨fun heq => (by cases heq), fun ⟨hid, hnew, _⟩ => ?_⟩
    rcases h with h | h
    · exact absurd h hid
    · rw [Dict.contains, hnew] at h
      cases h
  · rw [if_neg h]
    rw [not_or, Bool.not_eq_true, Dict.contains_eq_false_iff] at h
    rw [Except.ok.injEq, eq_comm]
    exact ⟨fun heq => ⟨h.1, h.2, heq⟩, fun heq => heq.2.2⟩

/-- The table of parents is the list of nodes, where no id is empty or occurs twice. -/
theorem foldlM_insertParent {nodes : List ViewNode} {start parents : Dict String (Option String)} :
    nodes.foldlM insertParent start = .ok parents ↔
      (∀ node ∈ nodes, node.id ≠ "") ∧ (start.keys ++ nodes.map ViewNode.id).Nodup ∧
        parents.entries = start.entries ++ nodes.map fun node => (node.id, node.parent) := by
  induction nodes generalizing start with
  | nil =>
    rw [List.foldlM_nil, pure_eq_ok]
    simp only [List.not_mem_nil, false_implies, implies_true, List.map_nil, List.append_nil,
      true_and]
    exact ⟨fun h => h ▸ ⟨start.nodup, rfl⟩, fun h => Dict.ext h.2.symm⟩
  | cons node rest ih =>
    rw [List.foldlM_cons, bind_eq_ok, List.forall_mem_cons, List.map_cons, List.map_cons]
    constructor
    · rintro ⟨mid, hmid, hrest⟩
      obtain ⟨hid, hnew, rfl⟩ := insertParent_eq_ok.1 hmid
      obtain ⟨hids, hnodup, hentries⟩ := ih.1 hrest
      rw [Dict.keys_set, if_neg (Dict.not_mem_keys_iff.2 hnew)] at hnodup
      rw [Dict.entries_set_of_new hnew] at hentries
      exact ⟨⟨hid, hids⟩, by simpa using hnodup, by simpa using hentries⟩
    · rintro ⟨⟨hid, hids⟩, hnodup, hentries⟩
      have hnew : start.get? node.id = none := by
        refine Dict.not_mem_keys_iff.1 fun hmem => ?_
        exact (List.nodup_append.1 hnodup).2.2 _ hmem _ List.mem_cons_self rfl
      refine ⟨_, insertParent_eq_ok.2 ⟨hid, hnew, rfl⟩, ih.2 ⟨hids, ?_, ?_⟩⟩
      · rw [Dict.keys_set, if_neg (Dict.not_mem_keys_iff.2 hnew)]
        simpa using hnodup
      · rw [Dict.entries_set_of_new hnew]
        simpa using hentries

section Table

variable {nodes : List ViewNode} {parents : Dict String (Option String)}
  (hparents : parents.entries = nodes.map fun node => (node.id, node.parent))
include hparents

theorem get?_parents {id : String} {parent : Option String} :
    parents.get? id = some parent ↔ ⟨id, parent⟩ ∈ nodes := by
  rw [← Dict.mem_entries_iff, hparents, List.mem_map]
  constructor
  · rintro ⟨node, hnode, heq⟩
    cases heq
    exact hnode
  · exact fun h => ⟨_, h, rfl⟩

theorem mem_keys_parents {id : String} : id ∈ parents.keys ↔ ∃ node ∈ nodes, node.id = id := by
  rw [Dict.keys, hparents, List.map_map, List.mem_map]
  rfl

theorem parentOf_eq_some {id above : String} :
    parentOf parents id = some above ↔ ⟨id, some above⟩ ∈ nodes := by
  rw [parentOf, ← get?_parents hparents]
  cases parents.get? id with
  | none => simp
  | some parent => simp

end Table

/-! ## The way up -/

theorem seenFrom_none (parents : Dict String (Option String)) (passes : Nat) (seen : List String) :
    seenFrom parents passes seen none = some seen := by
  cases passes <;> rfl

/-- The loop finds the way up where it has passes enough, and nothing on it was seen before. -/
theorem seenFrom_eq_some {parents : Dict String (Option String)} {passes : Nat}
    {seen out : List String} {id : String} :
    seenFrom parents passes seen (some id) = some out ↔
      ∃ l, Ascent (parentOf parents) id l ∧ l.length ≤ passes ∧ (∀ x ∈ l, x ∉ seen) ∧
        out = l.reverse ++ seen := by
  induction passes generalizing seen id with
  | zero =>
    refine ⟨fun h => (by cases h), ?_⟩
    rintro ⟨l, hl, hlength, -⟩
    rw [List.eq_nil_of_length_eq_zero (Nat.le_zero.1 hlength)] at hl
    cases hl
  | succ passes ih =>
    rw [seenFrom]
    by_cases hseen : id ∈ seen
    · rw [if_pos hseen]
      refine ⟨fun h => (by cases h), ?_⟩
      rintro ⟨l, hl, -, hnew, -⟩
      exact absurd hseen (hnew id hl.mem_self)
    · rw [if_neg hseen]
      cases hparent : parentOf parents id with
      | none =>
        rw [seenFrom_none, Option.some.injEq]
        constructor
        · rintro rfl
          exact ⟨[id], .top hparent, by simp, by simpa using hseen, rfl⟩
        · rintro ⟨l, hl, -, -, rfl⟩
          rw [hl.unique (.top hparent)]
          rfl
      | some above =>
        rw [ih]
        constructor
        · rintro ⟨l, hl, hlength, hnew, rfl⟩
          refine ⟨id :: l, .step hparent hl, Nat.succ_le_succ hlength, ?_, by simp⟩
          intro x hx
          rcases List.mem_cons.1 hx with rfl | hx
          · exact hseen
          · exact fun hmem => hnew x hx (List.mem_cons_of_mem _ hmem)
        · rintro ⟨l, hl, hlength, hnew, rfl⟩
          have hnodup := hl.nodup
          cases hl with
          | top htop => rw [hparent] at htop; cases htop
          | step hstep rest =>
            rw [hparent] at hstep
            cases hstep
            refine ⟨_, rest, Nat.le_of_succ_le_succ hlength, ?_, by simp⟩
            intro x hx hmem
            rcases List.mem_cons.1 hmem with rfl | hmem
            · exact (List.nodup_cons.1 hnodup).1 hx
            · exact hnew x (List.mem_cons_of_mem _ hx) hmem

/-! ## The loop ends -/

/-- One pass of the `while` loop, from what was seen and the node at hand to the same after it. -/
inductive Pass (parents : Dict String (Option String)) :
    List String × Option String → List String × Option String → Prop
  | up {seen : List String} {candidate : String} (hnew : candidate ∉ seen) :
    Pass parents (seen, some candidate) (candidate :: seen, parentOf parents candidate)

/-- What the loop has where no pass goes on: the nodes seen above the top, nothing where it stands
at a node it met before. -/
def stopped : List String × Option String → Option (List String)
  | (seen, none) => some seen
  | (_, some _) => none

/-- The nodes of the table not seen yet, and the node at hand. -/
def passesLeft (parents : Dict String (Option String)) (s : List String × Option String) : Nat :=
  (parents.keys.filter (· ∉ s.1)).length + s.2.toList.length

theorem passesLeft_lt {parents : Dict String (Option String)} {s t : List String × Option String}
    (h : Pass parents s t) : passesLeft parents t < passesLeft parents s := by
  cases h with
  | @up seen candidate hnew =>
    have hsub : (parents.keys.filter (· ∉ candidate :: seen)).Sublist
        (parents.keys.filter (· ∉ seen)) := by
      apply List.monotone_filter_right
      intro x hx
      simp only [List.mem_cons, not_or, decide_eq_true_eq] at hx ⊢
      exact hx.2
    have hle := hsub.length_le
    simp only [passesLeft, Option.toList_some, List.length_singleton]
    by_cases hkey : candidate ∈ parents.keys
    · -- one node of the table less is unseen, and at most one node is at hand again
      have hlt : (parents.keys.filter (· ∉ candidate :: seen)).length <
          (parents.keys.filter (· ∉ seen)).length := by
        refine lt_of_le_of_ne hle fun heq => ?_
        have hmem : candidate ∈ parents.keys.filter (· ∉ candidate :: seen) := by
          rw [hsub.eq_of_length heq]
          simp [hkey, hnew]
        simp at hmem
      have hone : (parentOf parents candidate).toList.length ≤ 1 := by
        cases parentOf parents candidate <;> simp
      omega
    · -- above a node that is not in the table there is none
      have hnone : parentOf parents candidate = none := by
        rw [parentOf, Dict.not_mem_keys_iff.1 hkey]
        rfl
      rw [hnone]
      simp only [Option.toList_none, List.length_nil]
      omega

theorem passesLeft_start (parents : Dict String (Option String)) (id : String) :
    passesLeft parents ([], some id) = parents.size + 1 := by
  simp [passesLeft, Dict.size_eq_length_keys]

/-- No run of the loop goes on for ever, whatever the links are. -/
theorem wellFounded_pass (parents : Dict String (Option String)) :
    WellFounded fun t s => Pass parents s t :=
  Subrelation.wf passesLeft_lt (measure (passesLeft parents)).wf

/-- With as many passes as are left at the most, the loop runs to where no pass goes on. -/
theorem seenFrom_stops {parents : Dict String (Option String)} {passes : Nat}
    {seen : List String} {current : Option String}
    (h : passesLeft parents (seen, current) ≤ passes) :
    ∃ t, Relation.ReflTransGen (Pass parents) (seen, current) t ∧ (∀ u, ¬Pass parents t u) ∧
      seenFrom parents passes seen current = stopped t := by
  induction passes generalizing seen current with
  | zero =>
    cases current with
    | none => exact ⟨_, .refl, fun u hu => (by cases hu), rfl⟩
    | some candidate => simp [passesLeft] at h
  | succ passes ih =>
    cases current with
    | none => exact ⟨_, .refl, fun u hu => (by cases hu), rfl⟩
    | some candidate =>
      rw [seenFrom]
      by_cases hseen : candidate ∈ seen
      · rw [if_pos hseen]
        refine ⟨_, .refl, ?_, rfl⟩
        intro u hu
        cases hu with
        | up hnew => exact hnew hseen
      · have hpass : Pass parents (seen, some candidate)
            (candidate :: seen, parentOf parents candidate) := .up hseen
        have hless := passesLeft_lt hpass
        obtain ⟨t, hrun, hend, heq⟩ := ih (Nat.le_of_lt_succ (Nat.lt_of_lt_of_le hless h))
        rw [if_neg hseen]
        exact ⟨t, .head hpass hrun, hend, heq⟩

/-! ## Exactness -/

theorem ViewShape.IsTree.root_unique {view : ViewShape} (h : view.IsTree) {node : ViewNode}
    (hnode : node ∈ view.nodes) (hid : node.id = view.root) : node = ⟨view.root, none⟩ :=
  List.inj_on_of_nodup_map h.nodup hnode h.root hid

/-- The conditions of the check, one for each `if`. -/
theorem validateViewShape_eq_ok {view : ViewShape} :
    validateViewShape view = .ok () ↔ (view.root ≠ "" ∧ view.nodes ≠ []) ∧
      ∃ parents, view.nodes.foldlM insertParent ∅ = .ok parents ∧
        parents.get? view.root = some none ∧
        (∀ e ∈ parents.entries, e.1 ≠ view.root → e.2 ≠ none) ∧
        (∀ e ∈ parents.entries, ∀ parent ∈ e.2, parent ≠ e.1 ∧ parents.contains parent = true) ∧
        ∀ id ∈ parents.keys, ∃ seen,
          seenFrom parents (parents.size + 1) [] (some id) = some seen ∧ view.root ∈ seen := by
  simp only [validateViewShape, error_bind, ite_error_eq_ok, bind_eq_ok, and_true,
    not_or, ne_eq, not_not]
  refine and_congr_right fun _ => exists_congr fun parents => and_congr_right fun _ =>
    and_congr_right fun _ => ?_
  refine and_congr ?_ (and_congr ?_ ?_)
  · simp only [List.any_eq_true, Bool.and_eq_true, decide_eq_true_eq, Option.isNone_iff_eq_none,
      not_exists, not_and]
  · simp only [List.any_eq_true, Option.any_eq_true, Bool.or_eq_true, decide_eq_true_eq,
      Bool.not_eq_true', not_exists, not_and, not_or, Bool.not_eq_false]
    exact Iff.rfl
  · simp only [Bool.not_eq_false, List.all_eq_true, Option.any_eq_true, List.contains_iff_mem]

/-- **Main result.** The check accepts exactly the trees. -/
theorem validateViewShape_eq_ok_iff {view : ViewShape} :
    validateViewShape view = .ok () ↔ view.IsTree := by
  rw [validateViewShape_eq_ok]
  constructor
  · rintro ⟨-, parents, hfold, hroot, hothers, hlinks, hup⟩
    obtain ⟨hids, hnodup, hparents⟩ := foldlM_insertParent.1 hfold
    have hparents : parents.entries = view.nodes.map fun node => (node.id, node.parent) := hparents
    have hentry : ∀ node ∈ view.nodes, (node.id, node.parent) ∈ parents.entries := by
      rw [hparents]
      exact fun node hnode => List.mem_map_of_mem hnode
    refine ⟨hnodup, hids, (get?_parents hparents).1 hroot, ?_, ?_⟩
    · intro node hnode hne
      obtain ⟨id, hid⟩ := Option.ne_none_iff_exists'.1 (hothers _ (hentry node hnode) hne)
      obtain ⟨-, hcontains⟩ := hlinks _ (hentry node hnode) id hid
      obtain ⟨parent, hparent⟩ := Dict.contains_eq_true_iff.1 hcontains
      have habove : ⟨id, parent⟩ ∈ view.nodes := (get?_parents hparents).1 hparent
      refine ⟨⟨id, parent⟩, ⟨habove, hid⟩, ?_⟩
      rintro other ⟨hother, hsome⟩
      exact List.inj_on_of_nodup_map hnodup hother habove
        (Option.some.inj (hsome.symm.trans hid))
    · intro node hnode
      obtain ⟨seen, hseen, hmem⟩ :=
        hup node.id ((mem_keys_parents hparents).2 ⟨node, hnode, rfl⟩)
      obtain ⟨l, hl, -, -, rfl⟩ := seenFrom_eq_some.1 hseen
      rw [List.append_nil, List.mem_reverse] at hmem
      exact Relation.ReflTransGen.mono (fun id above h => (parentOf_eq_some hparents).1 h)
        _ _ (hl.reaches hmem)
  · intro h
    obtain ⟨parents, hparents⟩ : ∃ parents : Dict String (Option String),
        parents.entries = view.nodes.map fun node => (node.id, node.parent) :=
      ⟨⟨view.nodes.map fun node => (node.id, node.parent), by
        rw [List.map_map]
        exact h.nodup⟩, rfl⟩
    have htop : parentOf parents view.root = none := by
      rw [parentOf, (get?_parents hparents).2 h.root]
      rfl
    have habove : ∀ node ∈ view.nodes, ∀ parent, node.parent = some parent →
        ∃ above ∈ view.nodes, above.id = parent := by
      intro node hnode parent hparent
      have hne : node.id ≠ view.root := by
        intro hid
        rw [h.root_unique hnode hid] at hparent
        cases hparent
      obtain ⟨above, ⟨hmem, habove⟩, -⟩ := h.parent node hnode hne
      exact ⟨above, hmem, Option.some.inj (habove.symm.trans hparent)⟩
    have hascent : ∀ node ∈ view.nodes,
        ∃ l, Ascent (parentOf parents) node.id l ∧ view.root ∈ l := by
      intro node hnode
      exact exists_ascent htop (Relation.ReflTransGen.mono
        (fun id above h => (parentOf_eq_some hparents).2 h) _ _ (h.reaches node hnode))
    refine ⟨⟨h.nonempty _ h.root, List.ne_nil_of_mem h.root⟩, parents,
      foldlM_insertParent.2 ⟨h.nonempty, h.nodup, hparents⟩,
      (get?_parents hparents).2 h.root, ?_, ?_, ?_⟩
    · intro e he hne
      rw [hparents] at he
      obtain ⟨node, hnode, rfl⟩ := List.mem_map.1 he
      obtain ⟨above, ⟨-, habove⟩, -⟩ := h.parent node hnode hne
      rw [habove]
      exact Option.some_ne_none _
    · intro e he parent hparent
      rw [hparents] at he
      obtain ⟨node, hnode, rfl⟩ := List.mem_map.1 he
      constructor
      · -- a node that is its own parent would stand on the way above itself
        intro hself
        obtain ⟨l, hl, -⟩ := hascent node hnode
        have hlink : parentOf parents node.id = some node.id := by
          have hparent : node.parent = some node.id := by
            rw [← show parent = node.id from hself]
            exact hparent
          rw [parentOf_eq_some hparents, ← hparent]
          exact hnode
        have hnodup := (Ascent.step hlink hl).nodup
        exact (List.nodup_cons.1 hnodup).1 hl.mem_self
      · obtain ⟨above, hmem, rfl⟩ := habove node hnode parent hparent
        exact Dict.contains_eq_true_iff.2 ⟨_, (get?_parents hparents).2 hmem⟩
    · intro id hid
      obtain ⟨node, hnode, rfl⟩ := (mem_keys_parents hparents).1 hid
      obtain ⟨l, hl, hroot⟩ := hascent node hnode
      have hkeys : ∀ x ∈ l, x ∈ parents.keys := by
        refine hl.forall_mem hid fun c p _ hlink => ?_
        obtain ⟨above, hmem, rfl⟩ := habove _ ((parentOf_eq_some hparents).1 hlink) p rfl
        exact (mem_keys_parents hparents).2 ⟨above, hmem, rfl⟩
      have hlength : l.length ≤ parents.size + 1 := by
        have := (List.subperm_of_subset hl.nodup hkeys).length_le
        rw [Dict.size_eq_length_keys]
        omega
      refine ⟨_, seenFrom_eq_some.2 ⟨l, hl, hlength, by simp, rfl⟩, ?_⟩
      rw [List.append_nil]
      exact List.mem_reverse.2 hroot

/-- The links of a tree have no cycle: from each node the one way up ends at the root. -/
theorem ViewShape.IsTree.acyclic {view : ViewShape} (h : view.IsTree) (id : String) :
    ¬Relation.TransGen (fun id above => ⟨id, some above⟩ ∈ view.nodes) id id := by
  have hlink : ∀ {id a b : String}, ⟨id, some a⟩ ∈ view.nodes → ⟨id, some b⟩ ∈ view.nodes →
      a = b := by
    intro id a b ha hb
    have heq := List.inj_on_of_nodup_map h.nodup ha hb rfl
    simpa using heq
  have hup : ∀ {a : String},
      Relation.ReflTransGen (fun id above => ⟨id, some above⟩ ∈ view.nodes) a view.root →
        ¬Relation.TransGen (fun id above => ⟨id, some above⟩ ∈ view.nodes) a a := by
    intro a hreach
    induction hreach using Relation.ReflTransGen.head_induction_on with
    | refl =>
      intro hcycle
      obtain ⟨next, hnext, -⟩ := Relation.TransGen.head'_iff.1 hcycle
      cases h.root_unique hnext rfl
    | head hstep _ ih =>
      intro hcycle
      obtain ⟨next, hnext, hback⟩ := Relation.TransGen.head'_iff.1 hcycle
      cases hlink hstep hnext
      exact ih (Relation.TransGen.tail' hback hstep)
  intro hcycle
  obtain ⟨next, hnext, -⟩ := Relation.TransGen.head'_iff.1 hcycle
  exact hup (h.reaches _ hnext) hcycle

/-- **The check is exact and ends.** It accepts exactly the trees, whose links have no cycle. Over
any table of links, cyclic ones included, no run of its loop goes on for ever, and from each node
the passes it is given take it to where no pass goes on. -/
theorem validateViewShape_exact (view : ViewShape) :
    (validateViewShape view = .ok () ↔ view.IsTree) ∧
    (view.IsTree → ∀ id,
      ¬Relation.TransGen (fun id above => ⟨id, some above⟩ ∈ view.nodes) id id) ∧
    ∀ parents : Dict String (Option String),
      (WellFounded fun t s => Pass parents s t) ∧
      ∀ id, ∃ t, Relation.ReflTransGen (Pass parents) ([], some id) t ∧
        (∀ u, ¬Pass parents t u) ∧
        seenFrom parents (parents.size + 1) [] (some id) = stopped t := by
  refine ⟨validateViewShape_eq_ok_iff, fun h => h.acyclic, fun parents => ?_⟩
  refine ⟨wellFounded_pass parents, fun id => ?_⟩
  exact seenFrom_stops (passesLeft_start parents id).le

end Vibapp.Protocol
