import Mathlib
import CitPhysicalXR.Blocks.Workspace

/-! Which blocks of a workspace are read, and what is read again after they are loaded. -/
namespace CitPhysicalXR.Blocks
open Foundation

theorem stateIds_append (blocks more : List GeneratorBlock) :
    stateIds (blocks ++ more) = stateIds blocks ++ stateIds more := by
  induction blocks with
  | nil => rfl
  | cons block blocks ih =>
    rw [List.cons_append, stateIds, stateIds, ih, List.append_assoc]

mutual

theorem WorkspaceBlock.ids_eq (block : WorkspaceBlock) :
    block.ids = (toNode block).ids ++ block.nextBlock.ids := by
  match block with
  | .mk id type inputList nextBlock isEnabled commentText =>
    have hinputs := inputList.stateIds_children
    rw [WorkspaceBlock.ids, toNode, GeneratorBlock.ids, hinputs]
    rfl

theorem InputList.stateIds_children (inputList : InputList) :
    stateIds inputList.children = inputList.ids := by
  match inputList with
  | .nil => rfl
  | .cons kind name fieldRow targetBlock rest =>
    rw [InputList.children, InputList.ids, stateIds_append, targetBlock.stateIds_chain,
      rest.stateIds_children]

theorem TargetBlock.stateIds_chain (targetBlock : TargetBlock) :
    stateIds targetBlock.chain = targetBlock.ids := by
  match targetBlock with
  | .none => rfl
  | .block (.mk id type inputList nextBlock isEnabled commentText) =>
    have hnext := nextBlock.stateIds_chain
    have hids := WorkspaceBlock.ids_eq (.mk id type inputList nextBlock isEnabled commentText)
    rw [TargetBlock.chain, TargetBlock.ids, stateIds, hids, WorkspaceBlock.followers, hnext]
    rfl

end

theorem ids_perm (workspace : Workspace) :
    (Workspace.ids workspace).Perm
      (stateIds (workspace.map toNode) ++ workspace.flatMap fun block => block.nextBlock.ids) := by
  induction workspace with
  | nil => exact List.Perm.refl _
  | cons block workspace ih =>
    have hids : Workspace.ids (block :: workspace) = block.ids ++ Workspace.ids workspace := rfl
    rw [hids, List.map_cons, stateIds, List.flatMap_cons, block.ids_eq, List.append_assoc,
      List.append_assoc]
    have hrest := List.Perm.append_left block.nextBlock.ids ih
    exact List.Perm.append_left _ (hrest.trans (List.perm_append_comm_assoc _ _ _))

theorem TargetBlock.ids_eq_nil {targetBlock : TargetBlock} :
    targetBlock.ids = [] ↔ targetBlock = .none := by
  cases targetBlock with
  | none => simp [TargetBlock.ids]
  | block block =>
    cases block
    simp [TargetBlock.ids, WorkspaceBlock.ids]

section
variable {canHold : String → String → JsonValue → Prop}

variable {block : WorkspaceBlock} {workspace : Workspace} {inputList : InputList}

theorem WorkspaceBlock.IsCatalogBlock.blockSpec_isSome
    (h : block.IsCatalogBlock canHold) : (blockSpec block.type).isSome = true := by
  cases block with
  | mk id type inputList nextBlock isEnabled commentText =>
    unfold WorkspaceBlock.IsCatalogBlock at h
    rw [WorkspaceBlock.type]
    cases hspec : blockSpec type with
    | none => simp only [hspec] at h
    | some spec => rfl

theorem readWorkspace_eq (h : workspace.IsCatalog canHold) :
    readWorkspace workspace = workspace.map toNode := by
  unfold readWorkspace
  rw [List.filter_eq_self.mpr]
  intro block hblock
  exact (h block hblock).blockSpec_isSome

/-- Every block is read once if and only if no block follows one at the top. -/
theorem count_stateIds_iff (hcatalog : workspace.IsCatalog canHold)
    (hnodup : (Workspace.ids workspace).Nodup) :
    (∀ id ∈ Workspace.ids workspace, (stateIds (readWorkspace workspace)).count id = 1) ↔
      ∀ block ∈ workspace, block.nextBlock = .none := by
  have hperm := ids_perm workspace
  have hcount (id : String) := hperm.count_eq id
  rw [readWorkspace_eq hcatalog]
  constructor
  · intro h block hblock
    rw [← TargetBlock.ids_eq_nil, List.eq_nil_iff_forall_not_mem]
    intro id hid
    have hlost : id ∈ workspace.flatMap fun block => block.nextBlock.ids :=
      List.mem_flatMap.mpr ⟨block, hblock, hid⟩
    have hmem : id ∈ Workspace.ids workspace :=
      hperm.mem_iff.mpr (List.mem_append_right _ hlost)
    have hone := hcount id
    rw [List.count_append, h id hmem, List.count_eq_one_of_mem hnodup hmem] at hone
    have hpositive := List.count_pos_iff.mpr hlost
    omega
  · intro h id hid
    have hnone : (workspace.flatMap fun block => block.nextBlock.ids) = [] := by
      rw [List.flatMap_eq_nil_iff]
      intro block hblock
      rw [h block hblock]
      rfl
    have hone := hcount id
    rw [hnone, List.append_nil, List.count_eq_one_of_mem hnodup hid] at hone
    exact hone.symm

def WorkspaceField.entry : WorkspaceField → Option (String × JsonValue)
  | .label => none
  | .named name value => some (name, value)

theorem readFields_eq {row : List WorkspaceField}
    (hnodup : ((row.filterMap WorkspaceField.entry).map Prod.fst).Nodup)
    (hnamed : "" ∉ (row.filterMap WorkspaceField.entry).map Prod.fst) :
    readFields row = row.filterMap WorkspaceField.entry := by
  have hfold (row : List WorkspaceField) (fields : List (String × JsonValue))
      (hnodup : ((fields ++ row.filterMap WorkspaceField.entry).map Prod.fst).Nodup)
      (hnamed : "" ∉ (row.filterMap WorkspaceField.entry).map Prod.fst) :
      row.foldl (fun fields field =>
        match field with
        | .label => fields
        | .named name value => if name = "" then fields else assignField fields name value)
        fields = fields ++ row.filterMap WorkspaceField.entry := by
    induction row generalizing fields with
    | nil => simp
    | cons field row ih =>
      cases field with
      | label => exact ih fields hnodup hnamed
      | named name value =>
        have hentries : (WorkspaceField.named name value :: row).filterMap WorkspaceField.entry =
            (name, value) :: row.filterMap WorkspaceField.entry := rfl
        rw [hentries] at hnodup hnamed ⊢
        rw [List.map_cons, List.mem_cons, not_or] at hnamed
        have hne : name ≠ "" := Ne.symm hnamed.1
        rw [List.map_append, List.map_cons, List.nodup_append] at hnodup
        have hfresh : name ∉ fields.map Prod.fst := by
          intro hmem
          exact hnodup.2.2 name hmem name (List.mem_cons_self ..) rfl
        have hassign : assignField fields name value = fields ++ [(name, value)] := by
          unfold assignField
          rw [if_neg hfresh]
        rw [List.foldl_cons]
        simp only [if_neg hne, hassign]
        rw [ih _ _ hnamed.2, List.append_assoc]
        · rfl
        · rw [List.append_assoc, List.singleton_append, List.map_append, List.map_cons,
            List.nodup_append]
          exact hnodup
  exact hfold row [] hnodup hnamed

def valueNames (fields : List BlockFieldSpec) : List String :=
  (fields.filter fun field => !field.kind.isSocket).map (·.name)

theorem catalog_valueNames {spec : BlockSpec} (h : spec ∈ blockCatalog) :
    (valueNames spec.fields).Nodup ∧ "" ∉ valueNames spec.fields := by
  have hall : ∀ spec ∈ blockCatalog,
      (valueNames spec.fields).Nodup ∧ "" ∉ valueNames spec.fields := by
    decide
  exact hall spec h

theorem InputList.Fits.field {type name : String} {field : BlockFieldSpec} {rows : List RowSpec}
    {kind : InputKind} {fieldRow : List WorkspaceField} {targetBlock : TargetBlock}
    {rest : InputList}
    (h : (InputList.cons kind name fieldRow targetBlock rest).Fits canHold type
      (.field field :: rows)) :
    rest.Fits canHold type rows ∧
      ((field.kind.isSocket = true ∧ fieldRow = [.label] ∧
          targetBlock.IsStack canHold (field.kind = .statement)) ∨
        (field.kind.isSocket = false ∧ targetBlock = .none ∧
          ∃ value, fieldRow = [.label, .named field.name value] ∧
            canHold type field.name value)) := by
  unfold InputList.Fits at h
  obtain ⟨hrow, hrest⟩ := h
  refine ⟨hrest, ?_⟩
  cases hkind : field.kind <;> simp only [hkind] at hrow
  case value => exact .inl ⟨rfl, hrow.2.2.1, hrow.2.2.2⟩
  case statement => exact .inl ⟨rfl, hrow.2.2.1, hrow.2.2.2⟩
  all_goals exact .inr ⟨rfl, hrow.2⟩

theorem InputList.Fits.entries {type : String} {fields : List BlockFieldSpec}
    (h : inputList.Fits canHold type (fields.map .field)) :
    (inputList.rows.filterMap WorkspaceField.entry).map Prod.fst = valueNames fields ∧
      ∀ entry ∈ inputList.rows.filterMap WorkspaceField.entry, canHold type entry.1 entry.2 := by
  induction fields generalizing inputList with
  | nil =>
    cases inputList with
    | nil => simp [InputList.rows, valueNames]
    | cons => cases h
  | cons field fields ih =>
    cases inputList with
    | nil => cases h
    | cons kind name fieldRow targetBlock rest =>
      rw [List.map_cons] at h
      obtain ⟨hrest, hrow⟩ := h.field
      obtain ⟨hnames, hvalues⟩ := ih hrest
      rw [InputList.rows, List.filterMap_append, List.map_append, hnames]
      rcases hrow with ⟨hkind, rfl, _⟩ | ⟨hkind, _, value, rfl, hcan⟩
      · have hnone : [WorkspaceField.label].filterMap WorkspaceField.entry = [] := rfl
        rw [hnone]
        refine ⟨by simp [valueNames, hkind], hvalues⟩
      · have hone : [WorkspaceField.label, .named field.name value].filterMap
            WorkspaceField.entry = [(field.name, value)] := rfl
        rw [hone]
        refine ⟨by simp [valueNames, hkind], ?_⟩
        intro entry hentry
        obtain rfl | hentry := List.mem_cons.mp hentry
        · exact hcan
        · exact hvalues entry hentry

theorem rows_loadedInputs {append : SerializedBlock → WorkspaceBlock}
    {entries : List (String × JsonValue)} {inputs : List (String × SerializedBlock)}
    {type : String} {fields : List BlockFieldSpec}
    (h : inputList.Fits canHold type (fields.map .field))
    (hentries : ∀ entry ∈ inputList.rows.filterMap WorkspaceField.entry,
      entries.lookup entry.1 = some entry.2) :
    (loadedInputs append entries inputs (fields.map .field)).rows = inputList.rows := by
  induction fields generalizing inputList with
  | nil =>
    cases inputList with
    | nil => rfl
    | cons => cases h
  | cons field fields ih =>
    cases inputList with
    | nil => cases h
    | cons kind name fieldRow targetBlock rest =>
      rw [List.map_cons] at h
      obtain ⟨hrest, hrow⟩ := h.field
      rw [InputList.rows, List.filterMap_append] at hentries
      have hlater := ih hrest fun entry hentry => hentries entry (List.mem_append_right _ hentry)
      rw [InputList.rows, ← hlater, List.map_cons, loadedInputs]
      rcases hrow with ⟨hkind, rfl, _⟩ | ⟨hkind, _, value, rfl, _⟩
      · cases hkind' : field.kind <;> simp_all [FieldKind.isSocket, InputList.rows]
      · have hvalue : entries.lookup field.name = some value :=
          hentries (field.name, value) (List.mem_append_left _ (List.mem_singleton_self _))
        cases hkind' : field.kind <;> simp_all [FieldKind.isSocket, InputList.rows]

theorem children_loadedInputs (append : SerializedBlock → WorkspaceBlock)
    (entries : List (String × JsonValue)) (inputs : List (String × SerializedBlock))
    (fields : List BlockFieldSpec) :
    (loadedInputs append entries inputs (fields.map .field)).children =
      (fields.filter (·.kind.isSocket)).flatMap fun field =>
        (target append (inputs.lookup field.name)).chain := by
  induction fields with
  | nil => rfl
  | cons field fields ih =>
    rw [List.map_cons, loadedInputs]
    cases hkind : field.kind <;>
      simp [InputList.children, TargetBlock.chain, FieldKind.isSocket, hkind, ih]

def sockets (fields : List BlockFieldSpec) : List (String × FieldKind) :=
  (fields.filter (·.kind.isSocket)).map fun field => (field.name, field.kind)

theorem catalog_sockets {spec : BlockSpec} (h : spec ∈ blockCatalog) :
    (sockets spec.fields = [] ∧ spec.socket .value = none ∧ spec.socket .statement = none) ∨
      (sockets spec.fields = [("body", .statement)] ∧ spec.socket .value = none ∧
        spec.socket .statement = some "body") ∨
      (sockets spec.fields = [("condition", .value), ("body", .statement)] ∧
        spec.socket .value = some "condition" ∧ spec.socket .statement = some "body") := by
  have hall : ∀ spec ∈ blockCatalog,
      (sockets spec.fields = [] ∧ spec.socket .value = none ∧ spec.socket .statement = none) ∨
        (sockets spec.fields = [("body", .statement)] ∧ spec.socket .value = none ∧
          spec.socket .statement = some "body") ∨
        (sockets spec.fields = [("condition", .value), ("body", .statement)] ∧
          spec.socket .value = some "condition" ∧ spec.socket .statement = some "body") := by
    decide
  exact hall spec h

theorem isReporter_eq {type : String} {spec : BlockSpec} (h : blockSpec type = some spec) :
    isReporter type = !spec.isStatement := by
  unfold isReporter
  rw [h]
  rfl

theorem TargetBlock.IsStack.chain_type {isStatement : Bool} (targetBlock : TargetBlock)
    (h : targetBlock.IsStack canHold isStatement) :
    (∀ node ∈ targetBlock.chain, isReporter node.type = !isStatement) ∧
      (isStatement = false → targetBlock.chain.length ≤ 1) := by
  match targetBlock with
  | .none => simp [TargetBlock.chain]
  | .block (.mk id type inputList nextBlock isEnabled commentText) =>
    unfold TargetBlock.IsStack WorkspaceBlock.IsCatalogBlock at h
    obtain ⟨hblock, htype⟩ := h
    rw [WorkspaceBlock.type] at htype
    have hchain : (TargetBlock.block
        (.mk id type inputList nextBlock isEnabled commentText)).chain =
        toNode (.mk id type inputList nextBlock isEnabled commentText) :: nextBlock.chain := by
      rw [TargetBlock.chain, WorkspaceBlock.followers]
    have hnode : (toNode (.mk id type inputList nextBlock isEnabled commentText)).type = type := by
      rw [toNode]
    rw [hchain]
    cases hspec : blockSpec type with
    | none => simp only [hspec] at hblock
    | some spec =>
      simp only [hspec] at hblock
      have hkind : spec.isStatement = isStatement := by
        rw [isReporter_eq hspec] at htype
        simpa using htype
      cases isStatement with
      | true =>
        rw [if_pos hkind] at hblock
        have hnext := TargetBlock.IsStack.chain_type nextBlock hblock.2
        refine ⟨?_, by simp⟩
        rw [List.forall_mem_cons, hnode]
        exact ⟨htype, hnext.1⟩
      | false =>
        rw [if_neg (by simp [hkind])] at hblock
        have hnext : nextBlock.chain = [] := by
          rw [hblock.2, TargetBlock.chain]
        rw [hnext]
        refine ⟨?_, by simp⟩
        rw [List.forall_mem_cons, hnode]
        exact ⟨htype, by simp⟩

theorem serializeChildren_eq (children : List GeneratorBlock) :
    serializeChildren children = children.map fun child => (child.type, toSerialized child) := by
  induction children with
  | nil => rfl
  | cons child rest ih => rw [serializeChildren, ih, List.map_cons]

theorem withNext_toSerialized (node : GeneratorBlock) :
    (toSerialized node).withNext none = toSerialized node := by
  cases node
  rfl

/-- The children go back to the sockets that they were read from. -/
theorem routeChildren_stacks {spec : BlockSpec} {value statement : TargetBlock}
    (hvalue : value.IsStack canHold false) (hstatement : statement.IsStack canHold true)
    (hnone : spec.socket .value = none → value = .none) :
    routeChildren (some spec) (serializeChildren (value.chain ++ statement.chain)) =
      connect (spec.socket .value) (chain (value.chain.map toSerialized)) ++
        connect (spec.socket .statement) (chain (statement.chain.map toSerialized)) := by
  have hchild (stack : TargetBlock) :
      (serializeChildren stack.chain).map Prod.snd = stack.chain.map toSerialized := by
    rw [serializeChildren_eq, List.map_map]
    rfl
  have hsplit : serializeChildren (value.chain ++ statement.chain) =
      serializeChildren value.chain ++ serializeChildren statement.chain := by
    simp only [serializeChildren_eq, List.map_append]
  have hlast : ((serializeChildren value.chain).getLast?).map Prod.snd =
      chain (value.chain.map toSerialized) := by
    have hlength := (TargetBlock.IsStack.chain_type value hvalue).2 rfl
    rw [serializeChildren_eq]
    match hchain : value.chain with
    | [] => rfl
    | [node] =>
      simp only [List.map_cons, List.map_nil, List.getLast?_singleton, Option.map_some, chain,
        withNext_toSerialized]
    | _ :: _ :: _ =>
      rw [hchain] at hlength
      simp at hlength
  have hreporter : ∀ child ∈ serializeChildren value.chain,
      (isReporter child.1 && (spec.socket .value).isSome) = true := by
    intro child hchild
    rw [serializeChildren_eq, List.mem_map] at hchild
    obtain ⟨node, hnode, rfl⟩ := hchild
    have hkind := (TargetBlock.IsStack.chain_type value hvalue).1 node hnode
    rw [hkind]
    cases hsocket : spec.socket .value with
    | some name => rfl
    | none =>
      rw [hnone hsocket] at hnode
      cases hnode
  have hplain : ∀ child ∈ serializeChildren statement.chain,
      (isReporter child.1 && (spec.socket .value).isSome) = false := by
    intro child hchild
    rw [serializeChildren_eq, List.mem_map] at hchild
    obtain ⟨node, hnode, rfl⟩ := hchild
    have hkind := (TargetBlock.IsStack.chain_type statement hstatement).1 node hnode
    rw [hkind]
    rfl
  have hvalues : (serializeChildren (value.chain ++ statement.chain)).filter
      (fun child => isReporter child.1 && (spec.socket .value).isSome) =
      serializeChildren value.chain := by
    rw [hsplit, List.filter_append, List.filter_eq_self.mpr hreporter,
      List.filter_eq_nil_iff.mpr fun child hchild => by rw [hplain child hchild]; simp,
      List.append_nil]
  have hstatements : (serializeChildren (value.chain ++ statement.chain)).filter
      (fun child => !(isReporter child.1 && (spec.socket .value).isSome)) =
      serializeChildren statement.chain := by
    rw [hsplit, List.filter_append,
      List.filter_eq_nil_iff.mpr fun child hchild => by rw [hreporter child hchild]; simp,
      List.filter_eq_self.mpr fun child hchild => by rw [hplain child hchild]; rfl,
      List.nil_append]
  unfold routeChildren
  simp only [Option.bind_some]
  rw [hvalues, hstatements, hlast, hchild statement]

theorem children_connect (append : SerializedBlock → WorkspaceBlock)
    (entries : List (String × JsonValue)) {spec : BlockSpec} (hspec : spec ∈ blockCatalog)
    {value statement : Option SerializedBlock} (hvalue : spec.socket .value = none → value = none)
    (hstatement : spec.socket .statement = none → statement = none) :
    (loadedInputs append entries (connect (spec.socket .value) value ++
        connect (spec.socket .statement) statement) spec.rows).children =
      (target append value).chain ++ (target append statement).chain := by
  have hsockets (inputs : List (String × SerializedBlock)) :
      (loadedInputs append entries inputs spec.rows).children =
        (sockets spec.fields).flatMap fun socket =>
          (target append (inputs.lookup socket.1)).chain := by
    unfold BlockSpec.rows sockets
    rw [loadedInputs, InputList.children, children_loadedInputs, List.flatMap_map]
    rfl
  rw [hsockets]
  obtain ⟨h, hv, hs⟩ | ⟨h, hv, hs⟩ | ⟨h, hv, hs⟩ := catalog_sockets hspec <;> rw [h, hv, hs]
  · rw [hvalue hv, hstatement hs]
    rfl
  · rw [hvalue hv]
    cases statement <;> simp [connect, target, TargetBlock.chain, List.lookup]
  · cases value <;> cases statement <;>
      simp [connect, target, TargetBlock.chain, List.lookup]

/-- What is read from a stack is loaded as a stack, from which the same is read. -/
structure IsRestored (canHold : String → String → JsonValue → Prop)
    (append : SerializedBlock → WorkspaceBlock) (isStatement : Bool)
    (targetBlock : TargetBlock) : Prop where
  stack : targetBlock.IsStack canHold isStatement
  loadable : ∀ block ∈ chain (targetBlock.chain.map toSerialized),
    IsLoadable canHold block ∧ isReporter block.type = !isStatement
  again : (target append (chain (targetBlock.chain.map toSerialized))).chain = targetBlock.chain

variable {append : SerializedBlock → WorkspaceBlock}

theorem IsRestored.none (isStatement : Bool) : IsRestored canHold append isStatement .none where
  stack := by
    unfold TargetBlock.IsStack
    trivial
  loadable := by simp [TargetBlock.chain, chain]
  again := by simp [TargetBlock.chain, chain, target]

def HasRestoredStacks (canHold : String → String → JsonValue → Prop)
    (append : SerializedBlock → WorkspaceBlock) (spec : BlockSpec) (inputList : InputList) : Prop :=
  ∃ value statement : TargetBlock, inputList.children = value.chain ++ statement.chain ∧
    IsRestored canHold append false value ∧ IsRestored canHold append true statement ∧
    (spec.socket .value = Option.none → value = .none) ∧
    (spec.socket .statement = Option.none → statement = .none)

theorem hasRestoredStacks {spec : BlockSpec} (hspec : spec ∈ blockCatalog)
    {targets : List TargetBlock} (hchildren : inputList.children = targets.flatMap (·.chain))
    (htargets : List.Forall₂ (fun socket targetBlock =>
      IsRestored canHold append (socket.2 = FieldKind.statement) targetBlock)
      (sockets spec.fields) targets) : HasRestoredStacks canHold append spec inputList := by
  obtain ⟨h, hv, hs⟩ | ⟨h, hv, hs⟩ | ⟨h, hv, hs⟩ := catalog_sockets hspec
  · rw [h, List.forall₂_nil_left_iff] at htargets
    subst htargets
    exact ⟨.none, .none, hchildren, .none _, .none _, by simp, by simp⟩
  · rw [h] at htargets
    obtain ⟨statement, _, hstatement, hrest, rfl⟩ := List.forall₂_cons_left_iff.mp htargets
    rw [List.forall₂_nil_left_iff] at hrest
    subst hrest
    refine ⟨.none, statement, ?_, .none _, hstatement, by simp, by simp [hs]⟩
    simpa [TargetBlock.chain] using hchildren
  · rw [h] at htargets
    obtain ⟨value, _, hvalue, hrest, rfl⟩ := List.forall₂_cons_left_iff.mp htargets
    obtain ⟨statement, _, hstatement, hlast, rfl⟩ := List.forall₂_cons_left_iff.mp hrest
    rw [List.forall₂_nil_left_iff] at hlast
    subst hlast
    refine ⟨value, statement, ?_, hvalue, hstatement, by simp [hv], by simp [hs]⟩
    simpa using hchildren

theorem InputList.Fits.title {type : String} {rows : List RowSpec}
    (h : inputList.Fits canHold type (.title :: rows)) :
    ∃ rest : InputList, rest.Fits canHold type rows ∧ inputList.rows = .label :: rest.rows ∧
      inputList.children = rest.children := by
  cases inputList with
  | nil => cases h
  | cons kind name fieldRow targetBlock rest =>
    unfold InputList.Fits at h
    obtain ⟨⟨_, rfl, rfl⟩, hrest⟩ := h
    exact ⟨rest, hrest, rfl, by rw [InputList.children, TargetBlock.chain, List.nil_append]⟩

theorem lookup_of_nodup {entries : List (String × JsonValue)}
    (hnodup : (entries.map Prod.fst).Nodup) :
    ∀ entry ∈ entries, entries.lookup entry.1 = some entry.2 := by
  intro entry hentry
  obtain ⟨before, after, rfl⟩ := List.append_of_mem hentry
  rw [List.map_append, List.map_cons, List.nodup_append] at hnodup
  refine List.lookup_eq_some_iff.mpr ⟨before, after, rfl, ?_⟩
  intro other hother
  have hne := hnodup.2.2 other.1 (List.mem_map_of_mem hother) entry.1 (List.mem_cons_self ..)
  simpa using hne.symm

/-- The fields of a block of the catalog are read, stored, and given to the rows that they were
read from. -/
theorem restored_fields {type : String} {spec : BlockSpec} (hspec : spec ∈ blockCatalog)
    (hfits : inputList.Fits canHold type spec.rows) :
    (readFields inputList.rows).filter (fun entry => entry.1 ∈ declaredFields (some spec)) =
        readFields inputList.rows ∧
      (∀ entry ∈ readFields inputList.rows, canHold type entry.1 entry.2) ∧
      ∀ inputs, (loadedInputs append (readFields inputList.rows) inputs spec.rows).rows =
        inputList.rows := by
  obtain ⟨rest, hrest, hrows, _⟩ := hfits.title
  obtain ⟨hnames, hvalues⟩ := hrest.entries
  obtain ⟨hnodup, hnamed⟩ := catalog_valueNames hspec
  rw [← hnames] at hnodup hnamed
  have hentries : inputList.rows.filterMap WorkspaceField.entry =
      rest.rows.filterMap WorkspaceField.entry := by
    rw [hrows]
    rfl
  have hread : readFields inputList.rows = rest.rows.filterMap WorkspaceField.entry := by
    rw [← hentries] at hnodup hnamed ⊢
    exact readFields_eq hnodup hnamed
  rw [hread]
  refine ⟨?_, hvalues, ?_⟩
  · rw [List.filter_eq_self]
    intro entry hentry
    have hname : entry.1 ∈ valueNames spec.fields := by
      rw [← hnames]
      exact List.mem_map_of_mem hentry
    exact decide_eq_true hname
  · intro inputs
    unfold BlockSpec.rows
    rw [loadedInputs, InputList.rows, hrows, rows_loadedInputs hrest (lookup_of_nodup hnodup)]
    rfl

theorem mem_connect {name : Option String} {block : Option SerializedBlock}
    {entry : String × SerializedBlock} :
    entry ∈ connect name block ↔ name = some entry.1 ∧ block = some entry.2 := by
  obtain ⟨input, child⟩ := entry
  cases name <;> cases block <;> simp [connect, eq_comm]

/-- A block is loaded as a block from which the same is read. -/
theorem restored_block (hfaithful : IsFaithful canHold append) {id type : String}
    {nextBlock : TargetBlock} {isEnabled : Bool}
    {commentText : Option String} {spec : BlockSpec} (hspec : blockSpec type = some spec)
    (hfits : inputList.Fits canHold type spec.rows)
    (hstacks : HasRestoredStacks canHold append spec inputList) {next : Option SerializedBlock}
    (hnext : ∀ block ∈ next, (spec.isStatement = true ∧ isReporter block.type = false) ∧
      IsLoadable canHold block)
    (hblock : block = .mk id type inputList nextBlock isEnabled commentText) :
    IsLoadable canHold ((toSerialized (toNode block)).withNext next) ∧
      toNode (append ((toSerialized (toNode block)).withNext next)) = toNode block ∧
      (append ((toSerialized (toNode block)).withNext next)).followers =
        (target append next).chain := by
  have hcatalog : spec ∈ blockCatalog := List.mem_of_find?_eq_some hspec
  obtain ⟨value, statement, hchildren, hvalue, hstatement, hnovalue, hnostatement⟩ := hstacks
  obtain ⟨hdeclared, hcan, hrows⟩ := @restored_fields _ _ append _ _ hcatalog hfits
  let inputs := connect (spec.socket .value) (chain (value.chain.map toSerialized)) ++
    connect (spec.socket .statement) (chain (statement.chain.map toSerialized))
  have hinputs : routeChildren (some spec) (serializeChildren inputList.children) = inputs := by
    rw [hchildren]
    exact routeChildren_stacks hvalue.stack hstatement.stack hnovalue
  have hserialized : (toSerialized (toNode block)).withNext next =
      .mk type id (readFields inputList.rows) isEnabled (commentText.filter (· ≠ "")) inputs
        next := by
    rw [hblock, toNode, toSerialized]
    simp only [hspec, hdeclared, hinputs, SerializedBlock.withNext, Bool.not_not,
      Option.filter_filter, Bool.and_self]
  have hentry : ∀ entry ∈ inputs, FitsInput spec entry.1 entry.2 ∧
      IsLoadable canHold entry.2 := by
    intro entry hentry
    obtain hentry | hentry := List.mem_append.mp hentry
    · obtain ⟨hsocket, hchild⟩ := mem_connect.mp hentry
      obtain ⟨hloadable, htype⟩ := hvalue.loadable entry.2 hchild
      exact ⟨.inl ⟨hsocket, htype⟩, hloadable⟩
    · obtain ⟨hsocket, hchild⟩ := mem_connect.mp hentry
      obtain ⟨hloadable, htype⟩ := hstatement.loadable entry.2 hchild
      exact ⟨.inr ⟨hsocket, htype⟩, hloadable⟩
  have hloadable : IsLoadable canHold ((toSerialized (toNode block)).withNext next) := by
    rw [hserialized]
    exact .mk spec hspec hcan (fun entry h => (hentry entry h).1) (fun entry h => (hentry entry h).2)
      (fun block h => (hnext block h).1) (fun block h => (hnext block h).2)
  have happend := hfaithful type id _ isEnabled _ inputs next spec hspec (hserialized ▸ hloadable)
  have hagain : (loadedInputs append (readFields inputList.rows) inputs spec.rows).children =
      inputList.children := by
    have hempty (socket : Option String) (targetBlock : TargetBlock)
        (h : socket = Option.none → targetBlock = .none) :
        socket = Option.none → chain (targetBlock.chain.map toSerialized) = Option.none := by
      intro hsocket
      rw [h hsocket, TargetBlock.chain]
      rfl
    rw [children_connect append _ hcatalog (hempty _ _ hnovalue) (hempty _ _ hnostatement),
      hvalue.again, hstatement.again, hchildren]
  refine ⟨hloadable, ?_, ?_⟩
  · rw [hserialized, happend, hblock, toNode, toNode, hrows, hagain]
    simp only [Option.filter_filter, Bool.and_self]
  · rw [hserialized, happend, WorkspaceBlock.followers]

/-- The stacks in the rows behind the title. -/
def HaveRestoredStacks (canHold : String → String → JsonValue → Prop)
    (append : SerializedBlock → WorkspaceBlock) (fields : List BlockFieldSpec)
    (inputList : InputList) : Prop :=
  ∃ targets : List TargetBlock, inputList.children = targets.flatMap (·.chain) ∧
    List.Forall₂ (fun socket targetBlock =>
      IsRestored canHold append (socket.2 = FieldKind.statement) targetBlock)
      (sockets fields) targets

theorem restored_stack (hfaithful : IsFaithful canHold append) {id type : String}
    {nextBlock : TargetBlock} {isEnabled : Bool}
    {commentText : Option String} {spec : BlockSpec} {isStatement : Bool}
    (hstack : (TargetBlock.block (.mk id type inputList nextBlock isEnabled commentText)).IsStack
      canHold isStatement)
    (hspec : blockSpec type = some spec) (hfits : inputList.Fits canHold type spec.rows)
    (hstacks : HasRestoredStacks canHold append spec inputList)
    (hnext : IsRestored canHold append true nextBlock)
    (hlast : spec.isStatement = false → nextBlock = .none) :
    IsRestored canHold append isStatement
      (.block (.mk id type inputList nextBlock isEnabled commentText)) := by
  generalize hblock :
    WorkspaceBlock.mk id type inputList nextBlock isEnabled commentText = block at hstack ⊢
  have hfollows : ∀ follower ∈ chain (nextBlock.chain.map toSerialized),
      (spec.isStatement = true ∧ isReporter follower.type = false) ∧
        IsLoadable canHold follower := by
    intro follower hfollower
    obtain ⟨hloadable, htype⟩ := hnext.loadable follower hfollower
    cases hkind : spec.isStatement with
    | true => exact ⟨⟨rfl, htype⟩, hloadable⟩
    | false =>
      rw [hlast hkind, TargetBlock.chain] at hfollower
      cases hfollower
  obtain ⟨hloadable, hnode, hfollowers⟩ :=
    restored_block hfaithful hspec hfits hstacks hfollows hblock.symm
  have hchain : (TargetBlock.block block).chain = toNode block :: nextBlock.chain := by
    rw [TargetBlock.chain, ← hblock, WorkspaceBlock.followers]
  have hserialized : chain ((TargetBlock.block block).chain.map toSerialized) =
      some ((toSerialized (toNode block)).withNext (chain (nextBlock.chain.map toSerialized))) := by
    rw [hchain, List.map_cons, chain]
  refine ⟨hstack, ?_, ?_⟩
  · rw [hserialized]
    rintro loaded ⟨⟩
    refine ⟨hloadable, ?_⟩
    have htype : ((toSerialized (toNode block)).withNext
        (chain (nextBlock.chain.map toSerialized))).type = block.type := by
      rw [← hblock, toNode]
      rfl
    unfold TargetBlock.IsStack at hstack
    rw [htype]
    exact hstack.2
  · rw [hserialized, hchain, target, TargetBlock.chain, hnode, hfollowers, hnext.again]

mutual

theorem InputList.restored (hfaithful : IsFaithful canHold append) (inputList : InputList)
    {type : String} {fields : List BlockFieldSpec}
    (hfits : inputList.Fits canHold type (fields.map .field)) :
    HaveRestoredStacks canHold append fields inputList := by
  match inputList, fields with
  | .nil, [] => exact ⟨[], by rw [InputList.children]; rfl, .nil⟩
  | .nil, _ :: _ => cases hfits
  | .cons .., [] => cases hfits
  | .cons kind name fieldRow targetBlock rest, field :: fields =>
    rw [List.map_cons] at hfits
    obtain ⟨hrest, hrow⟩ := hfits.field
    obtain ⟨targets, hchildren, htargets⟩ := rest.restored hfaithful hrest
    rcases hrow with ⟨hkind, _, hstack⟩ | ⟨hkind, hnone, _⟩
    · have hsockets : sockets (field :: fields) = (field.name, field.kind) :: sockets fields := by
        simp [sockets, hkind]
      have htarget := targetBlock.restored hfaithful hstack
      unfold HaveRestoredStacks
      rw [hsockets]
      refine ⟨targetBlock :: targets, ?_, .cons htarget htargets⟩
      rw [InputList.children, hchildren, List.flatMap_cons]
    · have hsockets : sockets (field :: fields) = sockets fields := by
        simp [sockets, hkind]
      unfold HaveRestoredStacks
      rw [hsockets]
      refine ⟨targets, ?_, htargets⟩
      rw [InputList.children, hnone, hchildren, TargetBlock.chain, List.nil_append]

theorem TargetBlock.restored (hfaithful : IsFaithful canHold append) (targetBlock : TargetBlock)
    {isStatement : Bool} (hstack : targetBlock.IsStack canHold isStatement) :
    IsRestored canHold append isStatement targetBlock := by
  match targetBlock with
  | .none => exact .none _
  | .block (.mk id type .nil nextBlock isEnabled commentText) =>
    unfold TargetBlock.IsStack WorkspaceBlock.IsCatalogBlock at hstack
    cases hspec : blockSpec type with
    | none => simp only [hspec, false_and] at hstack
    | some spec =>
      simp only [hspec] at hstack
      cases hstack.1.1
  | .block (.mk id type (.cons kind name fieldRow title rest) nextBlock isEnabled commentText) =>
    have hfirst := hstack
    unfold TargetBlock.IsStack WorkspaceBlock.IsCatalogBlock at hfirst
    cases hspec : blockSpec type with
    | none => simp only [hspec, false_and] at hfirst
    | some spec =>
      simp only [hspec] at hfirst
      obtain ⟨⟨hfits, hfollows⟩, _⟩ := hfirst
      have hrows := hfits
      unfold BlockSpec.rows InputList.Fits at hrows
      obtain ⟨targets, hchildren, htargets⟩ := rest.restored hfaithful hrows.2
      have hall : (InputList.cons kind name fieldRow title rest).children =
          targets.flatMap (·.chain) := by
        rw [InputList.children, hrows.1.2.2, TargetBlock.chain, List.nil_append, hchildren]
      have hstacks := hasRestoredStacks (List.mem_of_find?_eq_some hspec) hall htargets
      have hnext : IsRestored canHold append true nextBlock := by
        cases hkind : spec.isStatement with
        | true =>
          rw [if_pos hkind] at hfollows
          exact nextBlock.restored hfaithful hfollows
        | false =>
          rw [if_neg (by simp [hkind])] at hfollows
          rw [hfollows]
          exact .none _
      refine restored_stack hfaithful hstack hspec hfits hstacks hnext ?_
      intro hkind
      rwa [if_neg (by simp [hkind])] at hfollows

end

/-- A block is read as it is when nothing follows it. -/
theorem toNode_append (hfaithful : IsFaithful canHold append)
    (hcatalog : block.IsCatalogBlock canHold) :
    toNode (append (toSerialized (toNode block))) = toNode block := by
  cases block with
  | mk id type inputList nextBlock isEnabled commentText =>
    let last := WorkspaceBlock.mk id type inputList .none isEnabled commentText
    have hread : toNode last = toNode (.mk id type inputList nextBlock isEnabled commentText) := by
      rw [toNode, toNode]
    have hchain : (TargetBlock.block last).chain = [toNode last] := by
      rw [TargetBlock.chain, WorkspaceBlock.followers, TargetBlock.chain]
    have hlast : last.IsCatalogBlock canHold := by
      unfold WorkspaceBlock.IsCatalogBlock at hcatalog ⊢
      cases hspec : blockSpec type with
      | none => simp only [hspec] at hcatalog
      | some spec =>
        simp only [hspec] at hcatalog ⊢
        refine ⟨hcatalog.1, ?_⟩
        split
        · unfold TargetBlock.IsStack
          trivial
        · trivial
    have hstack : (TargetBlock.block last).IsStack canHold (!isReporter type) := by
      unfold TargetBlock.IsStack
      refine ⟨hlast, ?_⟩
      rw [Bool.not_not]
      rfl
    have hagain := (TargetBlock.restored hfaithful _ hstack).again
    rw [hchain, List.map_singleton, chain, chain, withNext_toSerialized, target,
      TargetBlock.chain] at hagain
    rw [← hread]
    exact (List.cons.inj hagain).1

theorem type_toNode (block : WorkspaceBlock) : (toNode block).type = block.type := by
  cases block
  rw [toNode]
  rfl

theorem readWorkspace_loadWorkspace (hfaithful : IsFaithful canHold append)
    (hcatalog : workspace.IsCatalog canHold) :
    readWorkspace (loadWorkspace append (readWorkspace workspace)) = readWorkspace workspace := by
  rw [readWorkspace_eq hcatalog]
  unfold readWorkspace loadWorkspace toWorkspaceBlocks
  have hloaded : ∀ block ∈ workspace,
      toNode (append (toSerialized (toNode block))) = toNode block := by
    intro block hblock
    exact toNode_append hfaithful (hcatalog block hblock)
  rw [List.filter_eq_self.mpr]
  · simp only [List.map_map]
    exact List.map_congr_left hloaded
  · intro loaded hmem
    simp only [List.map_map, List.mem_map, Function.comp_apply] at hmem
    obtain ⟨block, hblock, rfl⟩ := hmem
    rw [← type_toNode, hloaded block hblock, type_toNode]
    exact (hcatalog block hblock).blockSpec_isSome

/-- A workspace and what is read from it agree if and only if nothing follows a block at the top:
such a follower is not read. -/
theorem workspace_agrees (hfaithful : IsFaithful canHold append) {workspace : Workspace}
    (hcatalog : workspace.IsCatalog canHold) (hnodup : (Workspace.ids workspace).Nodup) :
    ((∀ id ∈ Workspace.ids workspace, (stateIds (readWorkspace workspace)).count id = 1) ∧
        readWorkspace (loadWorkspace append (readWorkspace workspace)) =
          readWorkspace workspace) ↔
      ∀ block ∈ workspace, block.nextBlock = .none := by
  rw [← count_stateIds_iff hcatalog hnodup]
  constructor
  · rintro ⟨hcount, _⟩
    exact hcount
  · intro hcount
    exact ⟨hcount, readWorkspace_loadWorkspace hfaithful hcatalog⟩

end

namespace Editor

def rows (fields : List (String × JsonValue)) (inputs : List (String × WorkspaceBlock)) :
    List RowSpec → InputList
  | [] => .nil
  | .title :: specs => .cons .dummy "" [.label] .none (rows fields inputs specs)
  | .field spec :: specs =>
    let target := ((inputs.lookup spec.name).map TargetBlock.block).getD .none
    match spec.kind with
    | .value => .cons .value spec.name [.label] target (rows fields inputs specs)
    | .statement => .cons .statement spec.name [.label] target (rows fields inputs specs)
    | _ => .cons .dummy "" [.label, .named spec.name
        ((fields.lookup spec.name).getD (spec.default.getD (.str "")))] .none
        (rows fields inputs specs)

mutual

def append : SerializedBlock → WorkspaceBlock
  | .mk type id fields isEnabled comment inputs next =>
    .mk id type (rows fields (appendInputs inputs) ((blockSpec type).elim [] BlockSpec.rows))
      (appendNext next) isEnabled comment

def appendInputs : List (String × SerializedBlock) → List (String × WorkspaceBlock)
  | [] => []
  | (name, block) :: rest => (name, append block) :: appendInputs rest

def appendNext : Option SerializedBlock → TargetBlock
  | none => .none
  | some block => .block (append block)

end

theorem lookup_appendInputs (inputs : List (String × SerializedBlock)) (name : String) :
    (((appendInputs inputs).lookup name).map TargetBlock.block).getD .none =
      target append (inputs.lookup name) := by
  induction inputs with
  | nil =>
    rw [appendInputs]
    rfl
  | cons input inputs ih =>
    obtain ⟨socket, block⟩ := input
    rw [appendInputs, List.lookup_cons, List.lookup_cons]
    split
    · rfl
    · exact ih

theorem isFaithful : IsFaithful (fun _ _ _ => True) append := by
  intro type id fields isEnabled comment inputs next spec hspec _
  have hrows (specs : List RowSpec) :
      rows fields (appendInputs inputs) specs = loadedInputs append fields inputs specs := by
    induction specs with
    | nil => rfl
    | cons row specs ih =>
      cases row with
      | title => rw [rows, loadedInputs, ih]
      | field spec =>
        obtain ⟨name, kind, default⟩ := spec
        cases kind <;> rw [rows, loadedInputs, ih, lookup_appendInputs]
  have hnext : appendNext next = target append next := by
    cases next <;> rfl
  rw [append, hspec, hnext, Option.elim_some, hrows]

def title (rest : InputList) : InputList := .cons .dummy "" [.label] .none rest

def log (id : String) : WorkspaceBlock :=
  .mk id "cit_log" (title (.cons .dummy "" [.label, .named "message" (.str "hello")] .none .nil))
    .none true none

def wait (id : String) (next : TargetBlock) : WorkspaceBlock :=
  .mk id "cit_wait" (title (.cons .dummy "" [.label, .named "seconds" (.int 1)] .none .nil))
    next true none

def onStart (id : String) (body : TargetBlock) : WorkspaceBlock :=
  .mk id "cit_on_start" (title (.cons .statement "body" [.label] body .nil)) .none true none

theorem log_isCatalogBlock (id : String) : (log id).IsCatalogBlock fun _ _ _ => True := by
  have hspec : blockSpec "cit_log" = some ⟨.log, [textField "message" "hello"]⟩ := rfl
  unfold log WorkspaceBlock.IsCatalogBlock
  simp [hspec, BlockSpec.rows, InputList.Fits, title, textField, BlockSpec.isStatement,
    TargetBlock.IsStack]

theorem wait_isCatalogBlock {id : String} {next : TargetBlock}
    (h : next.IsStack (fun _ _ _ => True) true) :
    (wait id next).IsCatalogBlock fun _ _ _ => True := by
  have hspec : blockSpec "cit_wait" = some ⟨.wait, [numberField "seconds" 1]⟩ := rfl
  unfold wait WorkspaceBlock.IsCatalogBlock
  simp [hspec, BlockSpec.rows, InputList.Fits, title, numberField, BlockSpec.isStatement, h]

theorem onStart_isCatalogBlock {id : String} {body : TargetBlock}
    (h : body.IsStack (fun _ _ _ => True) true) :
    (onStart id body).IsCatalogBlock fun _ _ _ => True := by
  have hspec : blockSpec "cit_on_start" = some ⟨.onStart, [bodyField]⟩ := rfl
  unfold onStart WorkspaceBlock.IsCatalogBlock
  simp [hspec, BlockSpec.rows, InputList.Fits, title, bodyField, BlockSpec.isStatement, h,
    TargetBlock.IsStack]

/-- A wait that a log follows. -/
def stack : TargetBlock := .block (wait "wait" (.block (log "log")))

theorem stack_isStack : stack.IsStack (fun _ _ _ => True) true := by
  have hlog : (TargetBlock.block (log "log")).IsStack (fun _ _ _ => True) true := by
    unfold TargetBlock.IsStack
    exact ⟨log_isCatalogBlock _, rfl⟩
  unfold stack TargetBlock.IsStack
  exact ⟨wait_isCatalogBlock hlog, rfl⟩

/-- In a program that starts, both blocks are read. -/
theorem workspace_agrees_program :
    (∀ id ∈ ["start", "wait", "log"],
        (stateIds (readWorkspace [onStart "start" stack])).count id = 1) ∧
      readWorkspace (loadWorkspace append (readWorkspace [onStart "start" stack])) =
        readWorkspace [onStart "start" stack] := by
  have hcatalog : Workspace.IsCatalog (fun _ _ _ => True) [onStart "start" stack] := by
    intro block hblock
    rw [List.mem_singleton.mp hblock]
    exact onStart_isCatalogBlock stack_isStack
  have hids : Workspace.ids [onStart "start" stack] = ["start", "wait", "log"] := rfl
  have hagrees := workspace_agrees isFaithful hcatalog (by rw [hids]; decide)
  rw [hids] at hagrees
  refine hagrees.mpr ?_
  intro block hblock
  rw [List.mem_singleton.mp hblock]
  rfl

/-- The log that follows a wait at the top of the workspace is not in the state that is read. -/
theorem follower_is_lost :
    IsFaithful (fun _ _ _ => True) append ∧
      Workspace.IsCatalog (fun _ _ _ => True) [wait "wait" (.block (log "log"))] ∧
      (Workspace.ids [wait "wait" (.block (log "log"))]).Nodup ∧
      ¬ ∀ id ∈ Workspace.ids [wait "wait" (.block (log "log"))],
        (stateIds (readWorkspace [wait "wait" (.block (log "log"))])).count id = 1 := by
  have hids : Workspace.ids [wait "wait" (.block (log "log"))] = ["wait", "log"] := rfl
  have hread : stateIds (readWorkspace [wait "wait" (.block (log "log"))]) = ["wait"] := rfl
  rw [hids, hread]
  refine ⟨isFaithful, ?_, by decide, by decide⟩
  intro block hblock
  rw [List.mem_singleton.mp hblock]
  have hstack := stack_isStack
  unfold stack TargetBlock.IsStack at hstack
  exact hstack.1

end Editor
end CitPhysicalXR.Blocks
