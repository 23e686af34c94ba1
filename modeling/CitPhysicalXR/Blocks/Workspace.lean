import CitPhysicalXR.Blocks.GeneratePython

/-! The workspace of the editor, how it is read into the blocks state of a project, and the format
in which a blocks state is loaded back. -/
namespace CitPhysicalXR.Blocks
open Foundation

def BlockSpec.isStatement (spec : BlockSpec) : Bool :=
  spec.type ∉ [.readDistance, .readColor, .readForce]

def FieldKind.isSocket : FieldKind → Bool
  | .value | .statement => true
  | .number | .text | .device | .choice => false

inductive InputKind where
  | dummy | value | statement
  deriving DecidableEq

inductive WorkspaceField where
  | label
  | named (name : String) (value : JsonValue)

mutual

inductive WorkspaceBlock where
  | mk (id type : String) (inputList : InputList) (nextBlock : TargetBlock) (isEnabled : Bool)
      (commentText : Option String)

inductive InputList where
  | nil
  | cons (kind : InputKind) (name : String) (fieldRow : List WorkspaceField)
      (targetBlock : TargetBlock) (rest : InputList)

inductive TargetBlock where
  | none
  | block (block : WorkspaceBlock)

end

def WorkspaceBlock.id : WorkspaceBlock → String
  | .mk id .. => id

def WorkspaceBlock.type : WorkspaceBlock → String
  | .mk _ type .. => type

def WorkspaceBlock.nextBlock : WorkspaceBlock → TargetBlock
  | .mk _ _ _ nextBlock .. => nextBlock

mutual

def WorkspaceBlock.ids : WorkspaceBlock → List String
  | .mk id _ inputList nextBlock _ _ => id :: (inputList.ids ++ nextBlock.ids)

def InputList.ids : InputList → List String
  | .nil => []
  | .cons _ _ _ targetBlock rest => targetBlock.ids ++ rest.ids

def TargetBlock.ids : TargetBlock → List String
  | .none => []
  | .block block => block.ids

end

/-- The top blocks, in the order of their positions. -/
abbrev Workspace := List WorkspaceBlock

def Workspace.ids (workspace : Workspace) : List String := workspace.flatMap WorkspaceBlock.ids

/-- `fields[name] = value`. -/
def assignField (fields : List (String × JsonValue)) (name : String) (value : JsonValue) :
    List (String × JsonValue) :=
  if name ∈ fields.map Prod.fst then
    fields.map fun entry => if entry.1 = name then (name, value) else entry
  else fields ++ [(name, value)]

def InputList.rows : InputList → List WorkspaceField
  | .nil => []
  | .cons _ _ fieldRow _ rest => fieldRow ++ rest.rows

def readFields (row : List WorkspaceField) : List (String × JsonValue) :=
  row.foldl (fun fields field =>
    match field with
    | .label => fields
    | .named name value => if name = "" then fields else assignField fields name value) []

mutual

def toNode : WorkspaceBlock → GeneratorBlock
  | .mk id type inputList _ isEnabled commentText =>
    { id, type
      fields := readFields inputList.rows
      children := inputList.children
      disabled := !isEnabled
      comment := commentText.filter (· ≠ "") }

def InputList.children : InputList → List GeneratorBlock
  | .nil => []
  | .cons _ _ _ targetBlock rest => targetBlock.chain ++ rest.children

def TargetBlock.chain : TargetBlock → List GeneratorBlock
  | .none => []
  | .block block => toNode block :: block.followers

def WorkspaceBlock.followers : WorkspaceBlock → List GeneratorBlock
  | .mk _ _ _ nextBlock _ _ => nextBlock.chain

end

def readWorkspace (workspace : Workspace) : List GeneratorBlock :=
  (workspace.filter fun block => (blockSpec block.type).isSome).map toNode

mutual

def GeneratorBlock.ids : GeneratorBlock → List String
  | ⟨id, _, _, children, _, _⟩ => id :: stateIds children

def stateIds : List GeneratorBlock → List String
  | [] => []
  | block :: rest => block.ids ++ stateIds rest

end

/-- A block in the load format of the editor; an input has its name. -/
inductive SerializedBlock where
  | mk (type id : String) (fields : List (String × JsonValue)) (isEnabled : Bool)
      (comment : Option String) (inputs : List (String × SerializedBlock))
      (next : Option SerializedBlock)

def SerializedBlock.type : SerializedBlock → String
  | .mk type .. => type

def SerializedBlock.withNext : SerializedBlock → Option SerializedBlock → SerializedBlock
  | .mk type id fields isEnabled comment inputs _, next =>
    .mk type id fields isEnabled comment inputs next

/-- Statements stored side by side are connected one after another. -/
def chain : List SerializedBlock → Option SerializedBlock
  | [] => none
  | head :: rest => some (head.withNext (chain rest))

def BlockSpec.socket (spec : BlockSpec) (kind : FieldKind) : Option String :=
  (spec.fields.find? fun field => field.kind = kind).map (·.name)

def isReporter (type : String) : Bool := (blockSpec type).any fun spec => !spec.isStatement

def connect (name : Option String) (block : Option SerializedBlock) :
    List (String × SerializedBlock) :=
  match name, block with
  | some name, some block => [(name, block)]
  | _, _ => []

def routeChildren (spec : Option BlockSpec) (children : List (String × SerializedBlock)) :
    List (String × SerializedBlock) :=
  let valueInput := spec.bind (·.socket .value)
  let statementInput := spec.bind (·.socket .statement)
  let isValue (child : String × SerializedBlock) := isReporter child.1 && valueInput.isSome
  let value := ((children.filter isValue).getLast?).map Prod.snd
  let statements := chain ((children.filter fun child => !isValue child).map Prod.snd)
  connect valueInput value ++ connect statementInput statements

def declaredFields (spec : Option BlockSpec) : List String :=
  ((spec.elim [] BlockSpec.fields).filter fun field => !field.kind.isSocket).map (·.name)

mutual

def toSerialized : GeneratorBlock → SerializedBlock
  | ⟨id, type, fields, children, disabled, comment⟩ =>
    let spec := blockSpec type
    .mk type id (fields.filter fun entry => entry.1 ∈ declaredFields spec) (!disabled)
      (comment.filter (· ≠ "")) (routeChildren spec (serializeChildren children)) none

def serializeChildren : List GeneratorBlock → List (String × SerializedBlock)
  | [] => []
  | child :: rest => (child.type, toSerialized child) :: serializeChildren rest

end

def toWorkspaceBlocks (blocks : List GeneratorBlock) : List SerializedBlock :=
  blocks.map toSerialized

/-- `append` adds a block to the workspace, behind those that are there. -/
def loadWorkspace (append : SerializedBlock → WorkspaceBlock) (blocks : List GeneratorBlock) :
    Workspace :=
  (toWorkspaceBlocks blocks).map append

inductive RowSpec where
  | title
  | field (spec : BlockFieldSpec)

def BlockSpec.rows (spec : BlockSpec) : List RowSpec := .title :: spec.fields.map .field

section
-- the values that a field of a block can have, by the type of the block and the field
variable (canHold : String → String → JsonValue → Prop)

mutual

/-- The block has the rows of its specification, its inputs fit, and only a statement has a
follower. -/
def WorkspaceBlock.IsCatalogBlock : WorkspaceBlock → Prop
  | .mk _ type inputList nextBlock _ _ =>
    match blockSpec type with
    | none => False
    | some spec => inputList.Fits type spec.rows ∧
        if spec.isStatement then nextBlock.IsStack true else nextBlock = .none

def InputList.Fits (type : String) : InputList → List RowSpec → Prop
  | .nil, [] => True
  | .cons kind _ fieldRow targetBlock rest, .title :: rows =>
    (kind = .dummy ∧ fieldRow = [.label] ∧ targetBlock = .none) ∧ rest.Fits type rows
  | .cons kind name fieldRow targetBlock rest, .field spec :: rows =>
    (match spec.kind with
      | .value => kind = .value ∧ name = spec.name ∧ fieldRow = [.label] ∧
          targetBlock.IsStack false
      | .statement => kind = .statement ∧ name = spec.name ∧ fieldRow = [.label] ∧
          targetBlock.IsStack true
      | _ => kind = .dummy ∧ targetBlock = .none ∧
          ∃ value, fieldRow = [.label, .named spec.name value] ∧ canHold type spec.name value) ∧
      rest.Fits type rows
  | _, _ => False

def TargetBlock.IsStack (isStatement : Bool) : TargetBlock → Prop
  | .none => True
  | .block block => block.IsCatalogBlock ∧ isReporter block.type = !isStatement

end

/-- A forest of stacks of catalog blocks. -/
def Workspace.IsCatalog (workspace : Workspace) : Prop :=
  ∀ block ∈ workspace, block.IsCatalogBlock canHold

def FitsInput (spec : BlockSpec) (name : String) (child : SerializedBlock) : Prop :=
  (spec.socket .value = some name ∧ isReporter child.type = true) ∨
    (spec.socket .statement = some name ∧ isReporter child.type = false)

/-- The editor takes the block: its type is registered, its fields can have their values, and its
children fit. -/
inductive IsLoadable : SerializedBlock → Prop
  | mk {type id : String} {fields : List (String × JsonValue)} {isEnabled : Bool}
      {comment : Option String} {inputs : List (String × SerializedBlock)}
      {next : Option SerializedBlock} (spec : BlockSpec) (hspec : blockSpec type = some spec)
      (hfields : ∀ entry ∈ fields, canHold type entry.1 entry.2)
      (hinputs : ∀ entry ∈ inputs, FitsInput spec entry.1 entry.2)
      (hchildren : ∀ entry ∈ inputs, IsLoadable entry.2)
      (hfollows : ∀ block ∈ next, spec.isStatement = true ∧ isReporter block.type = false)
      (hnext : ∀ block ∈ next, IsLoadable block) :
      IsLoadable (.mk type id fields isEnabled comment inputs next)

/-- The block behind a connection. -/
def target (append : SerializedBlock → WorkspaceBlock) : Option SerializedBlock → TargetBlock
  | none => .none
  | some block => .block (append block)

def loadedInputs (append : SerializedBlock → WorkspaceBlock) (fields : List (String × JsonValue))
    (inputs : List (String × SerializedBlock)) : List RowSpec → InputList
  | [] => .nil
  | .title :: rows =>
    .cons .dummy "" [.label] .none (loadedInputs append fields inputs rows)
  | .field spec :: rows =>
    let rest := loadedInputs append fields inputs rows
    match spec.kind with
    | .value => .cons .value spec.name [.label] (target append (inputs.lookup spec.name)) rest
    | .statement =>
      .cons .statement spec.name [.label] (target append (inputs.lookup spec.name)) rest
    | _ => .cons .dummy "" [.label, .named spec.name
        ((fields.lookup spec.name).getD (spec.default.getD (.str "")))] .none rest

/-- What appending a block is taken to do: the block has the id, the type, the fields, the state
and the connections that its serialization gives. -/
def IsFaithful (append : SerializedBlock → WorkspaceBlock) : Prop :=
  ∀ type id fields isEnabled comment inputs next spec, blockSpec type = some spec →
    IsLoadable canHold (.mk type id fields isEnabled comment inputs next) →
      append (.mk type id fields isEnabled comment inputs next) =
        .mk id type (loadedInputs append fields inputs spec.rows) (target append next) isEnabled
          comment

end
end CitPhysicalXR.Blocks
