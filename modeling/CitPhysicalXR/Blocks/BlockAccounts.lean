import CitPhysicalXR.Blocks.Pieces
import CitPhysicalXR.Blocks.WellFormed
import CitPhysicalXR.Blocks.WorkspaceRoundTrip

/-! Which blocks of a tree the generator accounts for: those with an entry in the source map, those
that a warning names, and those that are lost. -/
namespace CitPhysicalXR.Blocks
open Foundation

/-- What an entry and a warning say of a block: its id and its type. -/
abbrev BlockKey := String × String

def GeneratorBlock.key (block : GeneratorBlock) : BlockKey := (block.id, block.type)

def SourceMapEntry.key (entry : SourceMapEntry) : BlockKey := (entry.blockId, entry.blockType)

def GeneratorWarning.key (warning : GeneratorWarning) : BlockKey :=
  (warning.blockId, warning.blockType)

/-- A block that stands for a statement: it is none of those that have a value. -/
def isStatementKey (key : BlockKey) : Bool := !isReporter key.2

mutual

def blocksIn (block : GeneratorBlock) : List GeneratorBlock :=
  match block with
  | block@⟨_, _, _, children, _, _⟩ => block :: blocksInAll children

def blocksInAll (children : List GeneratorBlock) : List GeneratorBlock :=
  match children with
  | [] => []
  | child :: rest => (if child.disabled then [] else blocksIn child) ++ blocksInAll rest

end

/-- The enabled statement blocks of a tree. -/
def statementKeys (blocks : List GeneratorBlock) : List BlockKey :=
  ((blocksInAll blocks).map GeneratorBlock.key).filter isStatementKey

/-- The generator: `children[0]` and `children.slice(1)`. -/
def generatedRoles (children : List GeneratorBlock) :
    Option GeneratorBlock × List GeneratorBlock := (children.head?, children.drop 1)

/-- The serializer: the last block with a value, and the others in their order. -/
def serializedRoles (children : List GeneratorBlock) :
    Option GeneratorBlock × List GeneratorBlock :=
  ((children.filter fun child => isReporter child.type).getLast?,
    children.filter fun child => !isReporter child.type)

/-- Every enabled statement block has one entry or one warning, and the roles of the children of
every `cit_if` are those that the serializer gives them. -/
structure Accounted (blocks : List GeneratorBlock) (result : GenerateResult) : Prop where
  once : ((result.sourceMap.map SourceMapEntry.key ++
    result.warnings.map GeneratorWarning.key).filter isStatementKey).Perm (statementKeys blocks)
  roles : ∀ block ∈ blocksInAll blocks, block.type = BlockType.if_.text →
    generatedRoles block.children = serializedRoles block.children

section
variable (bindings : List GeneratorBinding)

/-- Nothing that is enabled is lost with the children of a block that has no suite. -/
def losesNothing (children : List GeneratorBlock) : Bool := (statementKeys children).isEmpty

/-- An argument of a call of `parallel` is a block with a value, or its device can be told and it
has no suite. -/
def accountsForAction (action : GeneratorBlock) : Bool :=
  losesNothing action.children && (isReporter action.type ||
    (resolvedAlias bindings action).isSome && match blockType action.type with
      | none | some .wait | some .log => true
      | some type => hasPythonForm type)

mutual

/-- Every enabled statement block in the block is accounted for once. -/
def accountsFor (block : GeneratorBlock) : Bool :=
  match block with
  | block@⟨_, type, _, children, _, _⟩ =>
    match blockType type with
    | some .onStart | some .every | some .repeat_ => accountsForAll children
    | some .onGesture => (resolvedAlias bindings block).isSome && accountsForAll children
    | some .if_ =>
      match children with
      | [] => true
      | condition :: rest =>
        (condition.disabled || losesNothing condition.children) && accountsForAll rest
    | some .parallel =>
      (children.filter fun child => !child.disabled).all (accountsForAction bindings)
    | _ => losesNothing children

def accountsForAll (children : List GeneratorBlock) : Bool :=
  match children with
  | [] => true
  | child :: rest => (child.disabled || accountsFor child) && accountsForAll rest

end

/-- The children of a `cit_if` are a block with a value and statements, or none. -/
def isRouted (children : List GeneratorBlock) : Bool :=
  match children with
  | [] => true
  | condition :: rest =>
    isReporter condition.type && rest.all fun child => !isReporter child.type

/-- The program has at most one enabled start block; if it has none, nothing but a block with a
value stands alone first; and every enabled `cit_if` is routed. -/
def isAccountable (blocks : List GeneratorBlock) : Bool :=
  ((blocksInAll blocks).all fun block =>
    block.type != BlockType.if_.text || isRouted block.children) &&
  decide ((startBlocks blocks).length ≤ 1) &&
  (!(startBlocks blocks).isEmpty || (looseBlocks blocks).head?.all fun first =>
    isReporter first.type) &&
  (eventBlocks blocks).all (accountsFor bindings) && accountsForAll bindings (mainSteps blocks)

end

theorem roles_iff (children : List GeneratorBlock) :
    generatedRoles children = serializedRoles children ↔ isRouted children = true := by
  unfold generatedRoles serializedRoles isRouted
  cases children with
  | nil => simp
  | cons condition rest =>
    simp only [List.head?_cons, List.drop_one, List.tail_cons, Prod.mk.injEq, Bool.and_eq_true]
    constructor
    · rintro ⟨hlast, hrest⟩
      have hreporter : isReporter condition.type = true := by
        have hmem := List.mem_of_getLast? hlast.symm
        exact (List.mem_filter.mp hmem).2
      refine ⟨hreporter, ?_⟩
      rw [List.filter_cons_of_neg (by simp [hreporter])] at hrest
      rw [List.all_eq_true]
      intro child hchild
      rw [hrest] at hchild
      exact (List.mem_filter.mp hchild).2
    · rintro ⟨hreporter, hrest⟩
      have hnone : rest.filter (fun child => isReporter child.type) = [] := by
        rw [List.filter_eq_nil_iff]
        intro child hchild
        simpa using List.all_eq_true.mp hrest child hchild
      refine ⟨?_, ?_⟩
      · rw [List.filter_cons_of_pos (by simpa using hreporter), hnone]
        rfl
      · rw [List.filter_cons_of_neg (by simp [hreporter]), List.filter_eq_self.mpr]
        exact List.all_eq_true.mp hrest

/-- What the generator makes of the children of a `cit_if`. -/
theorem emitStatement_roles (bindings : List GeneratorBinding) (block : GeneratorBlock)
    (htype : block.type = BlockType.if_.text) (depth : ℕ) (emitter : Emitter) :
    emitStatement bindings block depth emitter =
      let emitter := emitComment block.comment depth emitter
      let (rendered, emitter) := match (generatedRoles block.children).1 with
        | none => ("True", emitter)
        | some condition => emitExpression bindings condition emitter
      emitBody bindings (generatedRoles block.children).2 (depth + 1)
        (emitter.emit ("if " ++ rendered ++ ":") depth (some ⟨block.id, block.type, none⟩)) := by
  obtain ⟨id, type, fields, children, disabled, comment⟩ := block
  dsimp only at htype
  have hspec : blockSpec type = some ⟨.if_, [⟨"condition", .value, none⟩, bodyField]⟩ := by
    rw [htype]
    rfl
  rw [emitStatement.eq_def]
  simp only [hspec]
  cases children with
  | nil =>
    show _ = emitBody bindings [] (depth + 1) _
    rw [emitBody, emitStatements]
    rfl
  | cons condition rest => rfl

/-- What the serializer makes of the children of a `cit_if`. -/
theorem routeChildren_roles (children : List GeneratorBlock) :
    routeChildren (blockSpec BlockType.if_.text) (serializeChildren children) =
      connect (some "condition") ((serializedRoles children).1.map toSerialized) ++
        connect (some "body") (chain ((serializedRoles children).2.map toSerialized)) := by
  have hspec : blockSpec BlockType.if_.text = some ⟨.if_, [⟨"condition", .value, none⟩,
      bodyField]⟩ := by rfl
  have hvalue : (BlockSpec.mk .if_ [⟨"condition", .value, none⟩, bodyField]).socket .value =
      some "condition" := by rfl
  have hstatement : (BlockSpec.mk .if_ [⟨"condition", .value, none⟩, bodyField]).socket
      .statement = some "body" := by rfl
  rw [hspec, serializeChildren_eq]
  unfold routeChildren serializedRoles
  simp only [Option.bind_some, hvalue, hstatement, Option.isSome_some, Bool.and_true]
  congr 2
  · rw [List.filter_map, List.getLast?_map, Option.map_map]
    rfl
  · rw [List.filter_map, List.map_map]
    rfl

def Piece.key? : Piece → Option BlockKey
  | .line .head owner _ _ => some (owner.blockId, owner.blockType)
  | .warning given => some given.key
  | _ => none

/-- The statement blocks that pieces account for. -/
def reported (pieces : List Piece) : List BlockKey :=
  (pieces.filterMap Piece.key?).filter isStatementKey

theorem reported_append (first second : List Piece) :
    reported (first ++ second) = reported first ++ reported second := by
  unfold reported
  rw [List.filterMap_append, List.filter_append]

theorem reported_head (owner : SourceOrigin) (text : String) (depth : ℕ) (rest : List Piece) :
    reported (.line .head owner text depth :: rest) =
      [(owner.blockId, owner.blockType)].filter isStatementKey ++ reported rest := by
  have happend := reported_append [Piece.line .head owner text depth] rest
  exact happend

theorem reported_later (owner : SourceOrigin) (text : String) (depth : ℕ) (rest : List Piece) :
    reported (.line .later owner text depth :: rest) = reported rest := rfl

theorem reported_name (name : SdkName) (rest : List Piece) :
    reported (.name name :: rest) = reported rest := rfl

theorem reported_quietPieces (emitter : Emitter) :
    reported emitter.quietPieces =
      (emitter.warnings.map GeneratorWarning.key).filter isStatementKey := by
  have hwarnings : emitter.warnings.filterMap (Piece.key? ∘ Piece.warning) =
      emitter.warnings.map GeneratorWarning.key := by
    simp [Function.comp_def, Piece.key?]
  have hnames : emitter.used.filterMap (Piece.key? ∘ Piece.name) = [] := by
    simp [Function.comp_def, Piece.key?]
  unfold reported Emitter.quietPieces
  rw [List.filterMap_append, List.filterMap_map, List.filterMap_map, hwarnings, hnames,
    List.append_nil]

theorem reported_commentPieces (owner : SourceOrigin) (comment : Option String) (depth : ℕ) :
    reported (commentPieces owner comment depth) = [] := by
  unfold commentPieces
  cases comment with
  | none => rfl
  | some comment =>
    dsimp only
    split
    · rfl
    · unfold reported
      rw [List.filterMap_map]
      simp [Function.comp_def, Piece.key?]

theorem reported_suitePieces (owner : SourceOrigin) (depth : ℕ) (pieces : List Piece) :
    reported (suitePieces owner depth pieces) = reported pieces := by
  unfold suitePieces
  split
  · rfl
  · rw [reported_append]
    exact List.append_nil _

theorem keys_writeAll (emitter : Emitter) (pieces : List Piece) :
    ((emitter.writeAll pieces).sourceMap.map SourceMapEntry.key ++
      (emitter.writeAll pieces).warnings.map GeneratorWarning.key).Perm
      (emitter.sourceMap.map SourceMapEntry.key ++ emitter.warnings.map GeneratorWarning.key ++
        pieces.filterMap Piece.key?) := by
  induction pieces generalizing emitter with
  | nil => simp
  | cons piece pieces ih =>
    have hstep : ((emitter.write piece).sourceMap.map SourceMapEntry.key ++
        (emitter.write piece).warnings.map GeneratorWarning.key).Perm
        (emitter.sourceMap.map SourceMapEntry.key ++
          emitter.warnings.map GeneratorWarning.key ++ piece.key?.toList) := by
      cases piece with
      | line role owner text depth =>
        have hquiet (h : (Piece.line role owner text depth).origin? = none) :
            (emitter.write (.line role owner text depth)).sourceMap = emitter.sourceMap ∧
              (emitter.write (.line role owner text depth)).warnings = emitter.warnings := by
          show (emitter.emit text depth (Piece.line role owner text depth).origin?).sourceMap = _ ∧
            (emitter.emit text depth (Piece.line role owner text depth).origin?).warnings = _
          rw [h]
          exact ⟨rfl, rfl⟩
        cases role
        case head =>
          show ((emitter.sourceMap ++ [_]).map SourceMapEntry.key ++ _).Perm _
          rw [List.map_append, List.append_assoc, List.append_assoc]
          exact List.Perm.append_left _ List.perm_append_comm
        all_goals
          rw [(hquiet rfl).1, (hquiet rfl).2]
          simp [Piece.key?]
      | blank => simp [Emitter.write, Emitter.emit, Piece.key?]
      | warning warning =>
        show (_ ++ (emitter.warnings ++ [warning]).map GeneratorWarning.key).Perm _
        rw [List.map_append, List.append_assoc]
        exact .refl _
      | name name => simp [Emitter.write, Emitter.use, Piece.key?]
    have hpieces : (piece :: pieces).filterMap Piece.key? =
        piece.key?.toList ++ pieces.filterMap Piece.key? := by
      cases h : piece.key? with
      | none => rw [List.filterMap_cons_none h]; rfl
      | some key => rw [List.filterMap_cons_some h]; rfl
    rw [Emitter.writeAll_cons, hpieces, ← List.append_assoc]
    exact (ih (emitter.write piece)).trans (hstep.append_right _)

theorem Quiet.warnings {α : Type} {step : Emitter → α × Emitter} (h : Quiet step)
    (emitter : Emitter) :
    (step emitter).2.warnings = emitter.warnings ++ (step Emitter.empty).2.warnings := by
  rw [h.after, writeAll_quietPieces]

section
variable (bindings : List GeneratorBinding)

/-- A device that cannot be told is warned of. -/
theorem resolveAlias_keys (block : GeneratorBlock) :
    (resolveAlias bindings block Emitter.empty).2.warnings.map GeneratorWarning.key =
      if (resolvedAlias bindings block).isSome then [] else [block.key] := by
  have hunnamed : (unnamedAlias bindings block Emitter.empty).2.warnings.map
      GeneratorWarning.key =
      if (unnamedAlias bindings block Emitter.empty).1.isSome then [] else [block.key] := by
    unfold unnamedAlias
    split <;> rfl
  unfold resolvedAlias resolveAlias
  dsimp only
  split
  · split
    · exact hunnamed
    · split
      · split <;> rfl
      · rfl
  · exact hunnamed

theorem deviceCall_keys (block : GeneratorBlock) (target : Option String) (spec : BlockSpec) :
    (deviceCall block target spec Emitter.empty).2.warnings.map GeneratorWarning.key =
      if target.isSome && !hasPythonForm spec.type then [block.key] else [] := by
  unfold deviceCall
  cases target with
  | none => rfl
  | some target =>
    dsimp only
    cases spec.type <;> rfl

theorem emitExpression_keys (block : GeneratorBlock) :
    ∀ key ∈ (emitExpression bindings block Emitter.empty).2.warnings.map GeneratorWarning.key,
      key = block.key := by
  have halias : ∀ key ∈ (resolveAlias bindings block Emitter.empty).2.warnings.map
      GeneratorWarning.key, key = block.key := by
    rw [resolveAlias_keys]
    split <;> simp
  unfold emitExpression
  dsimp only
  split
  · exact halias
  · exact halias
  · exact halias
  · intro key hkey
    rw [Emitter.warn, List.map_append, List.mem_append] at hkey
    rcases hkey with hkey | hkey
    · exact halias key hkey
    · exact List.mem_singleton.mp hkey

/-- What is warned of in an argument of a call of `parallel`. -/
theorem parallelCall_keys (action : GeneratorBlock) :
    (parallelCall bindings action Emitter.empty).2.warnings.map GeneratorWarning.key =
      if (resolvedAlias bindings action).isSome then
        match blockType action.type with
        | none | some .wait | some .log => []
        | some type => if hasPythonForm type then [] else [action.key]
      else [action.key] := by
  have hkeys := resolveAlias_keys bindings action
  have hvalue : (resolveAlias bindings action Emitter.empty).1 =
      resolvedAlias bindings action := rfl
  unfold parallelCall
  generalize resolveAlias bindings action Emitter.empty = resolved at hkeys hvalue ⊢
  obtain ⟨alias_, emitter⟩ := resolved
  dsimp only at hkeys hvalue ⊢
  subst hvalue
  cases hspec : blockSpec action.type with
  | none =>
    unfold blockType
    rw [hspec]
    exact hkeys
  | some spec =>
    have hdevice : (deviceCall action ((resolvedAlias bindings action).map aliasIdentifier) spec
        emitter).2.warnings.map GeneratorWarning.key =
        if (resolvedAlias bindings action).isSome then
          if hasPythonForm spec.type then [] else [action.key]
        else [action.key] := by
      rw [(deviceCall_quiet action _ spec).warnings, List.map_append, hkeys, deviceCall_keys,
        Option.isSome_map]
      cases (resolvedAlias bindings action).isSome <;> cases hasPythonForm spec.type <;> rfl
    rw [blockType_eq hspec]
    dsimp only
    cases htype : spec.type <;> rw [htype] at hdevice
    case wait => exact hkeys
    case log => exact hkeys
    all_goals exact hdevice

/-- What an argument of a call of `parallel` accounts for: its entry, and the warnings. -/
def accountedInAction (action : GeneratorBlock) : List BlockKey :=
  ((if (resolvedAlias bindings action).isSome then
    match blockType action.type with
    | none | some .wait | some .log => []
    | some type => if hasPythonForm type then [] else [action.key]
  else [action.key]) ++ [action.key]).filter isStatementKey

mutual

def accountedIn (block : GeneratorBlock) : List BlockKey :=
  match block with
  | block@⟨_, type, _, children, _, _⟩ =>
    match blockType type with
    | some .onStart | some .every | some .repeat_ => block.key :: accountedInAll children
    | some .onGesture =>
      (if (resolvedAlias bindings block).isSome then [] else [block.key]) ++
        block.key :: accountedInAll children
    | some .if_ =>
      match children with
      | [] => [block.key]
      | condition :: rest =>
        reported (emitExpression bindings condition Emitter.empty).2.quietPieces ++
          block.key :: accountedInAll rest
    | some .parallel => block.key ::
        (children.filter fun child => !child.disabled).flatMap (accountedInAction bindings)
    | _ => [block.key].filter isStatementKey

def accountedInAll (children : List GeneratorBlock) : List BlockKey :=
  match children with
  | [] => []
  | child :: rest => (if child.disabled then [] else accountedIn child) ++ accountedInAll rest

end

theorem isReporter_blockType (type : String) :
    isReporter type = match blockType type with
      | some .readDistance | some .readColor | some .readForce => true
      | _ => false := by
  unfold isReporter blockType
  cases blockSpec type with
  | none => rfl
  | some spec =>
    show (!spec.isStatement) = match some spec.type with
      | some .readDistance | some .readColor | some .readForce => true
      | _ => false
    unfold BlockSpec.isStatement
    cases spec.type <;> rfl

theorem reported_actionPieces (depth : ℕ) (action : GeneratorBlock) :
    reported (actionPieces bindings depth action) = accountedInAction bindings action := by
  unfold actionPieces accountedInAction
  dsimp only
  rw [reported_append, reported_quietPieces, parallelCall_keys, List.filter_append]
  congr 1

theorem reported_aliasPieces (block : GeneratorBlock) :
    reported (aliasPieces bindings block) =
      if (resolvedAlias bindings block).isSome then [] else [block.key].filter isStatementKey := by
  unfold aliasPieces
  rw [reported_quietPieces, resolveAlias_keys]
  split <;> rfl

theorem reported_deviceCall {block : GeneratorBlock} {spec : BlockSpec}
    (hform : hasPythonForm spec.type = true ∨ isStatementKey block.key = false)
    (owner : SourceOrigin) (depth : ℕ) (howner : (owner.blockId, owner.blockType) = block.key) :
    reported (aliasPieces bindings block) ++
      reported ((deviceCall block ((resolvedAlias bindings block).map aliasIdentifier) spec
        Emitter.empty).2.quietPieces ++
          ((deviceCall block ((resolvedAlias bindings block).map aliasIdentifier) spec
            Emitter.empty).1.map fun call =>
              Piece.line .head owner ("await " ++ call) depth).toList) =
      [block.key].filter isStatementKey := by
  have hsome := @deviceCall_target block spec Emitter.empty
    ((resolvedAlias bindings block).map aliasIdentifier)
  rw [reported_aliasPieces, reported_append, reported_quietPieces, deviceCall_keys]
  rw [Option.isSome_map] at hsome ⊢
  cases hresolved : (resolvedAlias bindings block).isSome with
  | false =>
    rw [hresolved, Bool.false_and] at hsome
    rw [Option.isSome_eq_false_iff, Option.isNone_iff_eq_none] at hsome
    rw [hsome]
    exact List.append_nil _
  | true =>
    rw [hresolved, Bool.true_and] at hsome
    cases hform' : hasPythonForm spec.type with
    | true =>
      rw [hform'] at hsome
      obtain ⟨call, hcall⟩ := Option.isSome_iff_exists.mp hsome
      rw [hcall]
      show [] ++ ([] ++ reported [Piece.line .head owner ("await " ++ call) depth]) = _
      rw [reported_head, howner]
      exact List.append_nil _
    | false =>
      rw [hform'] at hsome hform
      rw [Option.isSome_eq_false_iff, Option.isNone_iff_eq_none] at hsome
      have hreporter := hform.resolve_left (by decide)
      rw [hsome]
      show [] ++ (List.filter isStatementKey [block.key] ++ []) = _
      simp [hreporter]

mutual

theorem reported_statementPieces (block : GeneratorBlock) (depth : ℕ) :
    reported (statementPieces bindings block depth) = accountedIn bindings block := by
  match block with
  | ⟨id, type, fields, children, disabled, comment⟩ =>
    rw [statementPieces.eq_def, accountedIn.eq_def]
    have hreporter := isReporter_blockType type
    cases hspec : blockSpec type with
    | none =>
      have htype : blockType type = none := by
        unfold blockType
        rw [hspec]
        rfl
      simp only [hspec, htype]
      rfl
    | some spec =>
      have htype := blockType_eq hspec
      rw [htype] at hreporter
      simp only [hspec, htype]
      rw [reported_append, reported_append, reported_commentPieces, List.nil_append]
      have hkey (h : isReporter type = false) : isStatementKey (id, type) = true := by
        unfold isStatementKey
        rw [h]
        rfl
      have hown {text : String} {rest : List Piece} {alias_ : Option String}
          (h : isReporter type = false) :
          reported (.line .head ⟨id, type, alias_⟩ text depth :: rest) =
            (id, type) :: reported rest := by
        rw [reported_head, List.filter_cons_of_pos (hkey h)]
        rfl
      have hsuite (alias_ : Option String) : reported (suitePieces ⟨id, type, alias_⟩ (depth + 1)
          (statementsPieces bindings children (depth + 1))) = accountedInAll bindings children := by
        rw [reported_suitePieces, reported_statementsPieces children (depth + 1)]
      have hdevice := hasDevice_eq hspec
      cases hspecType : spec.type <;> rw [hspecType] at hdevice hreporter <;>
        dsimp only at hdevice hreporter <;>
        simp only [hdevice, if_true, Bool.false_eq_true, if_false]
      case onStart =>
        rw [hown hreporter, hsuite]
        rfl
      case repeat_ =>
        rw [hown hreporter, hsuite]
        rfl
      case every =>
        rw [List.cons_append, List.cons_append, List.cons_append, List.nil_append, reported_name,
          hown hreporter, reported_later, hsuite]
        rfl
      case onGesture =>
        have halias := reported_aliasPieces bindings
          ⟨id, type, fields, children, disabled, comment⟩
        have hfilter : [GeneratorBlock.key ⟨id, type, fields, children, disabled, comment⟩].filter
            isStatementKey = [(id, type)] := List.filter_cons_of_pos (hkey hreporter)
        rw [halias, hfilter, List.cons_append, List.cons_append, List.cons_append, List.nil_append,
          reported_name, hown hreporter, reported_later, hsuite]
        rfl
      case wait =>
        rw [reported_name, hown hreporter]
        exact (List.filter_cons_of_pos (hkey hreporter)).symm
      case log =>
        rw [reported_name, hown hreporter]
        exact (List.filter_cons_of_pos (hkey hreporter)).symm
      case if_ =>
        cases children with
        | nil =>
          dsimp only
          rw [hown hreporter, reported_suitePieces]
          rfl
        | cons condition rest =>
          dsimp only
          rw [reported_append, hown hreporter, reported_suitePieces,
            reported_statementsPieces rest (depth + 1)]
          rfl
      case parallel =>
        have hactions (actions : List GeneratorBlock) :
            reported (actions.flatMap (actionPieces bindings (depth + 1))) =
              actions.flatMap (accountedInAction bindings) := by
          induction actions with
          | nil => rfl
          | cons action actions ih =>
            rw [List.flatMap_cons, List.flatMap_cons, reported_append, reported_actionPieces, ih]
        rw [reported_name]
        cases children.filter fun child => !child.disabled with
        | nil =>
          dsimp only
          rw [hown hreporter]
          rfl
        | cons action actions =>
          dsimp only
          have hclosing : reported [Piece.line .closing ⟨id, type, none⟩ ")" depth] = [] := rfl
          rw [hown hreporter, reported_append, hactions, hclosing, List.append_nil]
          rfl
      case readDistance | readColor | readForce =>
        have hvalue : isStatementKey (GeneratorBlock.key
            ⟨id, type, fields, children, disabled, comment⟩) = false := by
          unfold isStatementKey
          rw [GeneratorBlock.key, hreporter]
          rfl
        have hcall := @reported_deviceCall bindings _ spec (.inr hvalue)
          ⟨id, type, resolvedAlias bindings ⟨id, type, fields, children, disabled, comment⟩⟩ depth
          rfl
        exact hcall
      all_goals
        have hform : hasPythonForm spec.type = true := by rw [hspecType]; rfl
        have hcall := @reported_deviceCall bindings
          ⟨id, type, fields, children, disabled, comment⟩ _ (.inl hform)
          ⟨id, type, resolvedAlias bindings ⟨id, type, fields, children, disabled, comment⟩⟩ depth
          rfl
        exact hcall

theorem reported_statementsPieces (children : List GeneratorBlock) (depth : ℕ) :
    reported (statementsPieces bindings children depth) = accountedInAll bindings children := by
  match children with
  | [] => rw [statementsPieces, accountedInAll]; rfl
  | child :: rest =>
    rw [statementsPieces, accountedInAll, reported_append, reported_statementsPieces rest depth]
    cases child.disabled with
    | true => rfl
    | false => exact congrArg (· ++ _) (reported_statementPieces child depth)

end

end

end CitPhysicalXR.Blocks
