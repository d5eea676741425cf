import Vibapp.ServiceRuntime.UiOutput

/-!
# Actions on a surface

`parse_action_fields` of the service runtime reads the action and the fields of a request against the
surface that was validated last. **Main result** (`declares_of_parseActionFields`): what it accepts,
the view of that surface declares: the action at one place, enabled, and each field at one place, with
the kind of its value, and a sensitive one with the handle of a secret.
-/

namespace Vibapp.ServiceRuntime

/-! ## Values -/

/-- The texts, numbers and records of a field, as they are stored. -/
inductive StoredFieldValue
  | empty
  | text (value : String)
  | secretHandle (value : String)
  | integer (value : Int)
  | decimal (value : String)
  | boolean (value : Bool)
  | date (year month day : Nat)
  | time (hour minute second : Nat)
  | timeZone (value : String)
  | choice (value : String)
deriving DecidableEq, Repr

/-- `ui::FieldValue`. -/
inductive FieldValue
  | empty
  | text (value : String)
  | secretHandle (handle : String)
  | integer (value : Int)
  | decimal (value : String)
  | boolean (value : Bool)
  | date (year month day : Nat)
  | time (hour minute second : Nat)
  | timeZone (value : String)
  | choice (value : String)
deriving DecidableEq, Repr

def maxSettingValueChars : Nat := 16 * 1024

def maxUiFields : Nat := 256

/-- `SettingsBroker::text`. -/
def settingsText (value : String) : Except String String :=
  if (maxSettingValueChars < value.utf8ByteSize || value.toList.any isControl) = true then
    .error "settings snapshot contains an out-of-bounds string"
  else .ok value

/-- A control character that user content may not have. -/
def isForbiddenInText (c : Char) : Bool := isControl c && !(c = '\n' || c = '\r' || c = '\t')

/-- `decode_field_value`. -/
def decodeFieldValue : StoredFieldValue → Except String FieldValue
  | .empty => .ok .empty
  | .text value =>
    if (maxSettingValueChars < value.utf8ByteSize || value.toList.any isForbiddenInText) = true then
      .error "text field contains an out-of-bounds value"
    else .ok (.text value)
  | .secretHandle value => .secretHandle <$> settingsText value
  | .integer value => .ok (.integer value)
  | .decimal value => .decimal <$> settingsText value
  | .boolean value => .ok (.boolean value)
  | .date year month day =>
    if year = 0 ∨ ¬ (1 ≤ month ∧ month ≤ 12) ∨ ¬ (1 ≤ day ∧ day ≤ 31) then
      .error "field value contains an invalid date"
    else .ok (.date year month day)
  | .time hour minute second =>
    if hour > 23 ∨ minute > 59 ∨ second > 59 then .error "field value contains an invalid time"
    else .ok (.time hour minute second)
  | .timeZone value => .timeZone <$> settingsText value
  | .choice value => .choice <$> settingsText value

/-- The kind of a field that takes the value, if the value is of one. -/
def FieldValue.kind? : FieldValue → Option FieldKind
  | .empty => none
  | .text _ => some .text
  | .secretHandle _ => none
  | .integer _ => some .integer
  | .decimal _ => some .decimal
  | .boolean _ => some .boolean
  | .date .. => some .date
  | .time .. => some .time
  | .timeZone _ => some .timeZone
  | .choice _ => some .choice

/-- `validate_action_field_value`. -/
def validateActionFieldValue (declaration : UiFieldDeclaration) (value : FieldValue) :
    Except String Unit :=
  if declaration.sensitive = true then
    match value with
    | .secretHandle handle =>
      if handle = "" then
        .error "sensitive action field requires a non-empty opaque secret handle"
      else .ok ()
    | _ => .error "sensitive action field requires an opaque secret handle"
  else
    match value with
    | .empty => .ok ()
    | .secretHandle _ => .error "non-sensitive action field cannot carry a secret handle"
    | value =>
      if value.kind? ≠ some declaration.kind then
        .error "action field type does not match the trusted surface declaration"
      else .ok ()

/-! ## Requests -/

/-- `Value::as_str` -/
def asStr : Json → Option String
  | .str value => some value
  | _ => none

/-- `command_text`. -/
def commandText (command : Json) (key : String) (maximum : Nat) : Except String String :=
  match (command.get? key).bind asStr with
  | some value =>
    if (value = "" || maximum < value.utf8ByteSize || value.toList.any isControl) = true then
      .error ("invalid bounded " ++ key)
    else .ok value
  | none => .error ("invalid bounded " ++ key)

structure FieldChange where
  field : String
  value : FieldValue
deriving DecidableEq, Repr

/-- The body of the loop over the items of `fields`, with what is in `seen` and in `fields`.
`stored` is `serde_json::from_value::<StoredFieldValue>`. -/
def parseItem (stored : Json → Option StoredFieldValue) (current : UiSurfaceState)
    (parsed : Dict String Unit × List FieldChange) (item : Json) :
    Except String (Dict String Unit × List FieldChange) :=
  match item with
  | .obj members =>
    match members.length, item.get? "field", item.get? "value" with
    | 2, some field, some value =>
      match asStr field with
      | none => .error "action field id is invalid"
      | some field =>
        if invalidName field = true then .error "action field id is invalid"
        else
          match current.fields.get? field with
          | none => .error "action field is absent from the trusted surface"
          | some declaration =>
            if parsed.1.contains field = true then .error "action contains a duplicate field"
            else
              match stored value with
              | none => .error "action field value is not a canonical tagged value"
              | some value => do
                let value ← decodeFieldValue value
                validateActionFieldValue declaration value
                return (parsed.1.set field (), parsed.2 ++ [⟨field, value⟩])
    | _, _, _ => .error "action field is not a strict field/value record"
  | _ => .error "action field is not a strict field/value record"

/-- `parse_action_fields`. -/
def parseActionFields (stored : Json → Option StoredFieldValue) (command : Json)
    (current : UiSurfaceState) : Except String (String × List FieldChange) := do
  let action ← commandText command "action" 128
  if current.actions.get? action ≠ some true then
    .error "action is stale, disabled, or absent from the trusted surface"
  else
    match command.get? "fields" with
    | some (.arr items) =>
      if items.length > maxUiFields then .error "action fields exceed their bound"
      else
        let parsed ← items.foldlM (parseItem stored current) (∅, [])
        return (action, parsed.2)
    | _ => .error "action fields exceed their bound"

/-! ## What a view declares -/

/-- The actions of a node, and whether they are enabled. -/
def NodeKind.actions : NodeKind → List (String × Bool)
  | .button node => [(node.action, !node.disabled)]
  | .confirmation node => [(node.confirmAction, true), (node.cancelAction, true)]
  | _ => []

/-- The field of a node. -/
def NodeKind.fields : NodeKind → List (String × UiFieldDeclaration)
  | .field node => [(node.field, ⟨node.kind, node.sensitive⟩)]
  | _ => []

def View.actions (view : View) : List (String × Bool) := view.nodes.flatMap fun n => n.kind.actions

def View.fields (view : View) : List (String × UiFieldDeclaration) :=
  view.nodes.flatMap fun n => n.kind.fields

/-- The value is one that the field takes: of its kind or none, or the handle of a secret. -/
def UiFieldDeclaration.Takes (declaration : UiFieldDeclaration) (value : FieldValue) : Prop :=
  if declaration.sensitive = true then ∃ handle, handle ≠ "" ∧ value = .secretHandle handle
  else value = .empty ∨ value.kind? = some declaration.kind

/-- The view declares the action, enabled, and each of the fields, all of them once. -/
structure View.Declares (view : View) (action : String) (changes : List FieldChange) : Prop where
  enabled : (action, true) ∈ view.actions
  one_action : (view.actions.map Prod.fst).count action = 1
  distinct : (changes.map FieldChange.field).Nodup
  field : ∀ change ∈ changes, ∃ declaration, (change.field, declaration) ∈ view.fields ∧
    (view.fields.map Prod.fst).count change.field = 1 ∧ declaration.Takes change.value

/-- The tables of a surface are those of the view. -/
structure UiSurfaceState.Shows (state : UiSurfaceState) (update : SurfaceUpdate) : Prop where
  session : update.session = state.session
  surface : update.surface = state.surface
  route : update.route = state.route
  actions : state.actions.entries = update.view.actions
  fields : state.fields.entries = update.view.fields

theorem takes_of_validate {declaration : UiFieldDeclaration} {value : FieldValue}
    (h : validateActionFieldValue declaration value = .ok ()) : declaration.Takes value := by
  unfold validateActionFieldValue at h
  unfold UiFieldDeclaration.Takes
  by_cases hsensitive : declaration.sensitive = true
  · rw [if_pos hsensitive] at h ⊢
    split at h
    · exact ⟨_, (ite_error_eq_ok.1 h).1, rfl⟩
    · cases h
  · rw [if_neg hsensitive] at h ⊢
    split at h
    · exact .inl rfl
    · cases h
    · exact .inr (not_not.1 (ite_error_eq_ok.1 h).1)

/-! ## What is validated -/

theorem entries_insertAction {error action : String} {actions actions' : Dict String Bool}
    {enabled : Bool} (h : insertAction error actions action enabled = .ok actions') :
    actions'.entries = actions.entries ++ [(action, enabled)] := by
  obtain ⟨hvalid, h⟩ := ite_error_eq_ok.1 h
  rw [Bool.or_eq_true, not_or, Bool.not_eq_true, Bool.not_eq_true, Dict.contains_eq_false_iff]
    at hvalid
  rw [← Except.ok.inj h, Dict.entries_set_of_new hvalid.2]

/-- The arm of a kind enters what a node of the kind declares. -/
theorem entries_insertKind {tables tables' : Tables} {kind : NodeKind}
    (h : insertKind tables kind = .ok tables') :
    tables'.actions.entries = tables.actions.entries ++ kind.actions ∧
      tables'.fields.entries = tables.fields.entries ++ kind.fields := by
  cases kind with
  | button node =>
    obtain ⟨actions, hactions, h⟩ := bind_eq_ok.1 h
    cases h
    exact ⟨entries_insertAction hactions, (List.append_nil _).symm⟩
  | field node =>
    obtain ⟨hvalid, h⟩ := ite_error_eq_ok.1 h
    rw [Bool.or_eq_true, not_or, Bool.not_eq_true, Bool.not_eq_true, Dict.contains_eq_false_iff]
      at hvalid
    cases h
    exact ⟨(List.append_nil _).symm, Dict.entries_set_of_new hvalid.2 _⟩
  | confirmation node =>
    obtain ⟨actions, hactions, h⟩ := bind_eq_ok.1 h
    obtain ⟨actions', hactions', h⟩ := bind_eq_ok.1 h
    cases h
    refine ⟨?_, (List.append_nil _).symm⟩
    change actions'.entries = _
    rw [entries_insertAction hactions', entries_insertAction hactions, List.append_assoc]
    rfl
  | _ =>
    cases h
    exact ⟨(List.append_nil _).symm, (List.append_nil _).symm⟩

theorem entries_foldlM_insertNode {nodes : List Node} {tables tables' : Tables}
    (h : nodes.foldlM insertNode tables = .ok tables') :
    tables'.actions.entries = tables.actions.entries ++ nodes.flatMap (fun n => n.kind.actions) ∧
      tables'.fields.entries = tables.fields.entries ++ nodes.flatMap fun n => n.kind.fields := by
  induction nodes generalizing tables with
  | nil =>
    cases h
    exact ⟨(List.append_nil _).symm, (List.append_nil _).symm⟩
  | cons node nodes ih =>
    rw [List.foldlM_cons] at h
    obtain ⟨next, hnext, h⟩ := bind_eq_ok.1 h
    obtain ⟨hactions, hfields⟩ := ih h
    obtain ⟨hactions', hfields'⟩ := entries_insertKind (ite_error_eq_ok.1 hnext).2
    rw [hactions, hfields, hactions', hfields', List.flatMap_cons, List.flatMap_cons,
      List.append_assoc, List.append_assoc]
    exact ⟨rfl, rfl⟩

/-- **A validated surface shows the one update of the output.** -/
theorem shows_of_validateUiOutput {surfaces : List SurfaceUpdate} {diagnostic : Option String}
    {serialized : Except String Nat} {session surface route : String} {state : UiSurfaceState}
    (h : validateUiOutput surfaces diagnostic serialized session surface route = .ok state) :
    ∃ update, surfaces = [update] ∧ state.Shows update ∧
      state.session = session ∧ state.surface = surface ∧ state.route = route := by
  unfold validateUiOutput at h
  split at h
  · rename_i update
    simp only [error_bind, ite_error_eq_ok, bind_eq_ok, not_or, not_not] at h
    obtain ⟨-, ⟨hsession, hsurface, hroute⟩, -, tables, htables, -, -, -, -, -, -, h⟩ := h
    cases h
    obtain ⟨hactions, hfields⟩ := entries_foldlM_insertNode htables
    exact ⟨update, rfl, ⟨hsession, hsurface, hroute, hactions, hfields⟩, rfl, rfl, rfl⟩
  · cases h

/-! ## What is accepted -/

/-- What has been read of the items: fields that the surface has, each once. -/
structure Parsed (current : UiSurfaceState) (parsed : Dict String Unit × List FieldChange) :
    Prop where
  seen : parsed.1.keys = parsed.2.map FieldChange.field
  field : ∀ change ∈ parsed.2, ∃ declaration,
    current.fields.get? change.field = some declaration ∧ declaration.Takes change.value

theorem Parsed.item {stored : Json → Option StoredFieldValue} {current : UiSurfaceState}
    {parsed parsed' : Dict String Unit × List FieldChange} {item : Json} (hparsed : Parsed current parsed)
    (h : parseItem stored current parsed item = .ok parsed') : Parsed current parsed' := by
  unfold parseItem at h
  split at h
  · split at h
    · split at h
      · cases h
      · rename_i field _
        have h := (ite_error_eq_ok.1 h).2
        split at h
        · cases h
        · rename_i declaration hdeclaration
          obtain ⟨hseen, h⟩ := ite_error_eq_ok.1 h
          split at h
          · cases h
          · obtain ⟨value, -, h⟩ := bind_eq_ok.1 h
            obtain ⟨_, hvalid, h⟩ := bind_eq_ok.1 h
            cases h
            rw [Bool.not_eq_true, Dict.contains_eq_false_iff] at hseen
            refine ⟨?_, ?_⟩
            · rw [Dict.keys, Dict.entries_set_of_new hseen, List.map_append, List.map_append,
                ← hparsed.seen]
              rfl
            · intro change hchange
              rcases List.mem_append.1 hchange with hchange | hchange
              · exact hparsed.field change hchange
              · rw [List.mem_singleton.1 hchange]
                exact ⟨declaration, hdeclaration, takes_of_validate hvalid⟩
    · cases h
  · cases h

theorem Parsed.items {stored : Json → Option StoredFieldValue} {current : UiSurfaceState}
    {items : List Json} {parsed parsed' : Dict String Unit × List FieldChange}
    (hparsed : Parsed current parsed)
    (h : items.foldlM (parseItem stored current) parsed = .ok parsed') : Parsed current parsed' := by
  induction items generalizing parsed with
  | nil =>
    cases h
    exact hparsed
  | cons item items ih =>
    rw [List.foldlM_cons] at h
    obtain ⟨next, hnext, h⟩ := bind_eq_ok.1 h
    exact ih (hparsed.item hnext) h

/-- An entry's key is there once. -/
theorem count_of_get? {ν : Type} {d : Dict String ν} {key : String} {value : ν}
    (h : d.get? key = some value) : (d.entries.map Prod.fst).count key = 1 :=
  List.count_eq_one_of_mem d.nodup (Dict.mem_keys_iff.2 ⟨value, h⟩)

/-- **Main result.** What is accepted, the view declares. -/
theorem declares_of_parseActionFields {stored : Json → Option StoredFieldValue} {command : Json}
    {current : UiSurfaceState} {update : SurfaceUpdate} (hshows : current.Shows update)
    {action : String} {changes : List FieldChange}
    (h : parseActionFields stored command current = .ok (action, changes)) :
    update.view.Declares action changes := by
  obtain ⟨action', -, h⟩ := bind_eq_ok.1 h
  obtain ⟨henabled, h⟩ := ite_error_eq_ok.1 h
  rw [not_not] at henabled
  split at h
  · obtain ⟨-, h⟩ := ite_error_eq_ok.1 h
    obtain ⟨parsed, hfold, h⟩ := bind_eq_ok.1 h
    cases h
    have hparsed : Parsed current parsed :=
      Parsed.items ⟨rfl, List.forall_mem_nil _⟩ hfold
    refine ⟨?_, ?_, ?_, ?_⟩
    · rw [← hshows.actions]
      exact Dict.mem_entries_iff.2 henabled
    · rw [← hshows.actions]
      exact count_of_get? henabled
    · rw [← hparsed.seen]
      exact parsed.1.nodup
    · intro change hchange
      obtain ⟨declaration, hdeclaration, htakes⟩ := hparsed.field change hchange
      rw [← hshows.fields]
      exact ⟨declaration, Dict.mem_entries_iff.2 hdeclaration, count_of_get? hdeclaration, htakes⟩
  · cases h

end Vibapp.ServiceRuntime
