import Vibapp.Lib.KeyOrder
import Vibapp.Protocol.ViewShape

/-!
# UI output of a guest

`validateUiOutput` of the service runtime checks the one surface update that a UI event returns.
**Main result** (`validateViewShape_iff_singleRoot`): what it accepts passes the protocol crate's
`validateViewShape`, and so is one tree under the declared root, exactly when no node but the root
lacks a parent and the root has none. The service runtime checks neither.
-/

namespace Vibapp.ServiceRuntime

open Vibapp.Protocol

/-! ## The semantic tree -/

/-- `ui::FieldKind`, and the runtime's copy of it. -/
inductive FieldKind
  | text | integer | decimal | boolean | date | time | timeZone | choice
deriving DecidableEq, Repr

structure ButtonNode where
  action : String
  disabled : Bool

structure FieldNode where
  field : String
  kind : FieldKind
  sensitive : Bool

structure ConfirmationNode where
  confirmAction : String
  cancelAction : String

/-- `ui::NodeKind`, with the fields that the validator reads. -/
inductive NodeKind
  | text
  | button (button : ButtonNode)
  | field (field : FieldNode)
  | listContainer
  | progress
  | confirmation (confirmation : ConfirmationNode)

structure Node where
  id : String
  parent : Option String
  kind : NodeKind

structure View where
  root : String
  nodes : List Node

structure SurfaceUpdate where
  session : String
  surface : String
  route : String
  view : View

structure UiFieldDeclaration where
  kind : FieldKind
  sensitive : Bool
deriving DecidableEq

structure UiSurfaceState where
  session : String
  surface : String
  route : String
  actions : Dict String Bool
  fields : Dict String UiFieldDeclaration

/-! ## The validator -/

def maxOutputBytes : Nat := 256 * 1024

def maxUiNodes : Nat := 2048

/-- `char::is_control`. -/
def isControl (c : Char) : Bool := c.toNat < 0x20 || (0x7f ≤ c.toNat && c.toNat ≤ 0x9f)

/-- The text of an id, an action or a field that is not accepted. -/
def invalidName (name : String) : Bool :=
  name = "" || name.utf8ByteSize > 128 || name.toList.any isControl

/-- The three maps that the loop over the nodes fills. -/
structure Tables where
  nodes : Dict String (Option String)
  actions : Dict String Bool
  fields : Dict String UiFieldDeclaration

/-- One action of a node. -/
def insertAction (error : String) (actions : Dict String Bool) (action : String) (enabled : Bool) :
    Except String (Dict String Bool) :=
  if (invalidName action || actions.contains action) = true then .error error
  else .ok (actions.set action enabled)

/-- The arm of one kind of node. -/
def insertKind (tables : Tables) : NodeKind → Except String Tables
  | .button button => do
    let actions ← insertAction "UI semantic tree has an invalid or duplicate action"
      tables.actions button.action !button.disabled
    return { tables with actions := actions }
  | .field field =>
    if (invalidName field.field || tables.fields.contains field.field) = true then
      .error "UI semantic tree has an invalid or duplicate field"
    else
      let fields := tables.fields.set field.field ⟨field.kind, field.sensitive⟩
      .ok { tables with fields := fields }
  | .confirmation confirmation => do
    let error := "UI semantic tree has an invalid or duplicate confirmation action"
    let actions ← insertAction error tables.actions confirmation.confirmAction true
    let actions ← insertAction error actions confirmation.cancelAction true
    return { tables with actions := actions }
  | .text | .listContainer | .progress => .ok tables

/-- The body of the loop over the nodes. -/
def insertNode (tables : Tables) (node : Node) : Except String Tables :=
  if (invalidName node.id || tables.nodes.contains node.id) = true then
    .error "UI semantic tree has an invalid or duplicate node id"
  else insertKind { tables with nodes := tables.nodes.set node.id node.parent } node.kind

/-- The `while` loop up from one node, with the passes left until `depth >= MAX_UI_NODES`. -/
def checkAncestors (nodes : Dict String (Option String)) (node : String) :
    Nat → Option String → Except String Unit
  | _, none => .ok ()
  | 0, some _ => .error "UI semantic tree contains a cycle"
  | passes + 1, some parent =>
    if parent = node then .error "UI semantic tree contains a cycle"
    else
      match nodes.get? parent with
      | none => .error "UI semantic tree parent is missing"
      | some cursor => checkAncestors nodes node passes cursor

/-- `validate_ui_output`. `serialized` is the length of `serde_json::to_vec(output)`, or its
error. -/
def validateUiOutput (surfaces : List SurfaceUpdate) (diagnostic : Option String)
    (serialized : Except String Nat) (session surface route : String) :
    Except String UiSurfaceState :=
  match surfaces with
  | [update] => do
    if diagnostic.any (fun value => value.length > 4096) = true then
      .error "UI diagnostic exceeds 4096 characters"
    if update.session ≠ session ∨ update.surface ≠ surface ∨ update.route ≠ route then
      .error "UI output forged or changed its session/surface/route binding"
    if update.view.nodes = [] ∨ update.view.nodes.length > maxUiNodes then
      .error "UI semantic tree node count is outside its bound"
    let tables ← update.view.nodes.foldlM insertNode ⟨∅, ∅, ∅⟩
    if tables.nodes.contains update.view.root = false then
      .error "UI semantic tree root is missing"
    (sortByKey (· ≤ ·) tables.nodes.entries).forM fun (node, parent) =>
      checkAncestors tables.nodes node maxUiNodes parent
    let bytes ← serialized
    if bytes > maxOutputBytes then .error "UI event output exceeds 256 KiB"
    .ok ⟨session, surface, route, tables.actions, tables.fields⟩
  | _ => .error "UI event must return exactly one bound surface update"

/-! ## The view of the protocol crate -/

/-- The ids and parents of the view. -/
def View.shape (view : View) : ViewShape :=
  ⟨view.root, view.nodes.map fun node => ⟨node.id, node.parent⟩⟩

/-- The root is the one node without a parent. -/
def View.SingleRoot (view : View) : Prop :=
  ∀ node ∈ view.nodes, node.parent = none ↔ node.id = view.root

/-! ## What an accepted output has -/

theorem insertAction_eq_ok {error action : String} {actions actions' : Dict String Bool}
    {enabled : Bool} (h : insertAction error actions action enabled = .ok actions') :
    actions' = actions.set action enabled :=
  (Except.ok.inj (ite_error_eq_ok.1 h).2).symm

/-- The arms of the kinds leave the table of nodes alone. -/
theorem nodes_insertKind {tables tables' : Tables} {kind : NodeKind}
    (h : insertKind tables kind = .ok tables') : tables'.nodes = tables.nodes := by
  cases kind with
  | button button =>
    obtain ⟨actions, -, h⟩ := bind_eq_ok.1 h
    cases h
    rfl
  | field field =>
    cases (ite_error_eq_ok.1 h).2
    rfl
  | confirmation confirmation =>
    obtain ⟨actions, -, h⟩ := bind_eq_ok.1 h
    obtain ⟨actions', -, h⟩ := bind_eq_ok.1 h
    cases h
    rfl
  | _ =>
    cases h
    rfl

/-- On the table of nodes the loop does what the protocol crate's does. -/
theorem insertParent_of_insertNode {tables tables' : Tables} {node : Node}
    (h : insertNode tables node = .ok tables') :
    insertParent tables.nodes ⟨node.id, node.parent⟩ = .ok tables'.nodes := by
  obtain ⟨hvalid, h⟩ := ite_error_eq_ok.1 h
  rw [Bool.or_eq_true, not_or, Bool.not_eq_true, Bool.not_eq_true, Dict.contains_eq_false_iff]
    at hvalid
  refine insertParent_eq_ok.2 ⟨?_, hvalid.2, nodes_insertKind h⟩
  intro hid
  have hname := hvalid.1
  rw [show node.id = "" from hid] at hname
  exact absurd hname (by decide)

theorem ascent_of_checkAncestors {nodes : Dict String (Option String)} {node a : String}
    {passes : Nat} {cursor : Option String} (ha : nodes.get? a = some cursor)
    (h : checkAncestors nodes node passes cursor = .ok ()) :
    ∃ l, Ascent (parentOf nodes) a l ∧ ∀ x ∈ l, x ∈ nodes.keys := by
  have hkey : a ∈ nodes.keys := Dict.mem_keys_iff.2 ⟨cursor, ha⟩
  induction passes generalizing a cursor with
  | zero =>
    cases cursor with
    | none => exact ⟨[a], .top (by rw [parentOf, ha]; rfl), by simpa using hkey⟩
    | some parent => cases h
  | succ passes ih =>
    cases cursor with
    | none => exact ⟨[a], .top (by rw [parentOf, ha]; rfl), by simpa using hkey⟩
    | some parent =>
      have hrest := (ite_error_eq_ok.1 h).2
      split at hrest
      · cases hrest
      · rename_i next hnext
        obtain ⟨l, hl, hkeys⟩ := ih hnext hrest (Dict.mem_keys_iff.2 ⟨next, hnext⟩)
        refine ⟨a :: l, .step (by rw [parentOf, ha]; rfl) hl, ?_⟩
        intro x hx
        rcases List.mem_cons.1 hx with rfl | hx
        · exact hkey
        · exact hkeys x hx

/-- The conditions of the validator that are about the tree. -/
theorem tree_of_validateUiOutput {surfaces : List SurfaceUpdate} {diagnostic : Option String}
    {serialized : Except String Nat} {session surface route : String} {state : UiSurfaceState}
    (h : validateUiOutput surfaces diagnostic serialized session surface route = .ok state) :
    ∃ update, surfaces = [update] ∧ ∃ nodes : Dict String (Option String),
      update.view.shape.nodes.foldlM insertParent ∅ = .ok nodes ∧
      update.view.root ∈ nodes.keys ∧
      ∀ id ∈ nodes.keys, ∃ l, Ascent (parentOf nodes) id l ∧ ∀ x ∈ l, x ∈ nodes.keys := by
  unfold validateUiOutput at h
  split at h
  · rename_i update
    simp only [error_bind, ite_error_eq_ok, bind_eq_ok] at h
    obtain ⟨-, -, -, tables, htables, hroot, _, hcheck, -⟩ := h
    refine ⟨update, rfl, tables.nodes, ?_, ?_, ?_⟩
    · exact foldlM_map_of_step Tables.nodes (fun node : Node => (⟨node.id, node.parent⟩ : ViewNode))
        insertParent_of_insertNode htables
    · rw [Bool.not_eq_false] at hroot
      exact Dict.mem_keys_iff.2 (Dict.contains_eq_true_iff.1 hroot)
    · intro id hid
      obtain ⟨parent, hparent⟩ := Dict.mem_keys_iff.1 hid
      have hmem := (perm_sortByKey (r := (· ≤ ·)) tables.nodes.entries).symm.subset
        (Dict.mem_entries_iff.2 hparent)
      exact ascent_of_checkAncestors hparent (forM_eq_ok.1 hcheck _ hmem)
  · cases h

/-! ## Main result -/

/-- An accepted view is one tree exactly when its root is the one node without a parent. -/
theorem isTree_iff_singleRoot {view : View} {nodes : Dict String (Option String)}
    (hfold : view.shape.nodes.foldlM insertParent ∅ = .ok nodes) (hroot : view.root ∈ nodes.keys)
    (hup : ∀ id ∈ nodes.keys, ∃ l, Ascent (parentOf nodes) id l ∧ ∀ x ∈ l, x ∈ nodes.keys) :
    view.shape.IsTree ↔ view.SingleRoot := by
  obtain ⟨hids, hnodup, hnodes⟩ := foldlM_insertParent.1 hfold
  have hnodes : nodes.entries = view.shape.nodes.map fun node => (node.id, node.parent) := hnodes
  have hkey : ∀ node ∈ view.shape.nodes, node.id ∈ nodes.keys := fun node hnode =>
    (mem_keys_parents hnodes).2 ⟨node, hnode, rfl⟩
  have hshape : view.SingleRoot ↔
      ∀ node ∈ view.shape.nodes, node.parent = none ↔ node.id = view.root := by
    simp only [View.SingleRoot, View.shape, List.forall_mem_map]
  rw [hshape]
  constructor
  · intro h node hnode
    refine ⟨fun hnone => ?_, fun hid => by rw [h.root_unique hnode hid]⟩
    by_contra hne
    obtain ⟨above, ⟨-, habove⟩, -⟩ := h.parent node hnode hne
    rw [hnone] at habove
    cases habove
  · intro h
    obtain ⟨rootNode, hmem, hid⟩ := (mem_keys_parents hnodes).1 hroot
    have htop : rootNode = ⟨view.root, none⟩ := by
      obtain ⟨id, parent⟩ := rootNode
      have hnone : parent = none := (h _ hmem).2 hid
      rw [hnone, show id = view.root from hid]
    refine ⟨hnodup, hids, htop ▸ hmem, ?_, ?_⟩
    · intro node hnode hne
      obtain ⟨id, hparent⟩ := Option.ne_none_iff_exists'.1 (mt (h node hnode).1 hne)
      have hlink : parentOf nodes node.id = some id := by
        rw [parentOf_eq_some hnodes, ← hparent]
        exact hnode
      -- the parent is the next point on the way up, and so is in the table
      obtain ⟨l, hl, hkeys⟩ := hup node.id (hkey node hnode)
      cases hl with
      | top hnone => rw [hlink] at hnone; cases hnone
      | step hstep rest =>
        rw [hlink] at hstep
        cases hstep
        obtain ⟨above, habove, rfl⟩ :=
          (mem_keys_parents hnodes).1 (hkeys _ (List.mem_cons_of_mem _ rest.mem_self))
        refine ⟨above, ⟨habove, hparent⟩, ?_⟩
        rintro other ⟨hother, hsome⟩
        exact List.inj_on_of_nodup_map hnodup hother habove
          (Option.some.inj (hsome.symm.trans hparent))
    · intro node hnode
      obtain ⟨l, hl, hkeys⟩ := hup node.id (hkey node hnode)
      obtain ⟨r, hr, hrtop⟩ := hl.exists_top
      obtain ⟨top, htopmem, rfl⟩ := (mem_keys_parents hnodes).1 (hkeys r hr)
      have hnone : top.parent = none := by
        rw [parentOf, (get?_parents hnodes).2 htopmem] at hrtop
        exact hrtop
      change Relation.ReflTransGen _ node.id view.root
      rw [← (h top htopmem).1 hnone]
      exact Relation.ReflTransGen.mono (fun id above h => (parentOf_eq_some hnodes).1 h)
        _ _ (hl.reaches hr)

/-- **Main result.** Of the outputs that the service runtime accepts, the protocol crate accepts
those whose root is the one node without a parent, and these are trees. -/
theorem validateViewShape_iff_singleRoot {surfaces : List SurfaceUpdate}
    {diagnostic : Option String} {serialized : Except String Nat} {session surface route : String}
    {state : UiSurfaceState}
    (h : validateUiOutput surfaces diagnostic serialized session surface route = .ok state) :
    ∃ update, surfaces = [update] ∧
      ((validateViewShape update.view.shape = .ok () ∧ update.view.shape.IsTree) ↔
        update.view.SingleRoot) := by
  obtain ⟨update, hsurfaces, nodes, hfold, hroot, hup⟩ := tree_of_validateUiOutput h
  refine ⟨update, hsurfaces, ?_⟩
  rw [validateViewShape_eq_ok_iff, and_self]
  exact isTree_iff_singleRoot hfold hroot hup

/-- A root with one child. -/
theorem validateViewShape_iff_singleRoot_sample :
    ∃ update : SurfaceUpdate,
      [⟨"s", "main", "/", ⟨"a", [⟨"a", none, .listContainer⟩, ⟨"b", some "a", .text⟩]⟩⟩] =
        [update] ∧
      ((validateViewShape update.view.shape = .ok () ∧ update.view.shape.IsTree) ↔
        update.view.SingleRoot) :=
  validateViewShape_iff_singleRoot
    (show validateUiOutput _ none (.ok 64) "s" "main" "/" = .ok ⟨"s", "main", "/", ∅, ∅⟩ by rfl)

/-- Two nodes without a parent: the service runtime accepts them. -/
theorem two_roots_accepted :
    validateUiOutput [⟨"s", "main", "/", ⟨"a", [⟨"a", none, .text⟩, ⟨"b", none, .text⟩]⟩⟩] none
        (.ok 64) "s" "main" "/" = .ok ⟨"s", "main", "/", ∅, ∅⟩ ∧
      validateViewShape ⟨"a", [⟨"a", none⟩, ⟨"b", none⟩]⟩ = .error .malformedOutput :=
  ⟨rfl, rfl⟩

end Vibapp.ServiceRuntime
