import CitPhysicalXR.Blocks.BlockAccounts
import CitPhysicalXR.Blocks.PieceLines

/-! The trees of which every enabled statement block is accounted for once, and the ones that lose a
block or account for it twice. -/
namespace CitPhysicalXR.Blocks
open Foundation

/-- The enabled statement blocks of a block and the blocks in it. -/
def keysIn (block : GeneratorBlock) : List BlockKey :=
  ((blocksIn block).map GeneratorBlock.key).filter isStatementKey

theorem blocksIn_eq (block : GeneratorBlock) :
    blocksIn block = block :: blocksInAll block.children := by
  obtain ⟨id, type, fields, children, disabled, comment⟩ := block
  rw [blocksIn]

theorem keysIn_eq (block : GeneratorBlock) :
    keysIn block = [block.key].filter isStatementKey ++ statementKeys block.children := by
  unfold keysIn statementKeys
  rw [blocksIn_eq, List.map_cons, ← List.filter_append]
  rfl

theorem statementKeys_cons (child : GeneratorBlock) (rest : List GeneratorBlock) :
    statementKeys (child :: rest) =
      (if child.disabled then [] else keysIn child) ++ statementKeys rest := by
  unfold statementKeys keysIn
  rw [blocksInAll, List.map_append, List.filter_append]
  cases child.disabled <;> rfl

theorem losesNothing_iff (children : List GeneratorBlock) :
    losesNothing children = true ↔ statementKeys children = [] := List.isEmpty_iff

mutual

theorem mem_blocksIn {block other : GeneratorBlock} (h : other ∈ blocksIn block) :
    other.id ∈ block.ids := by
  match block with
  | ⟨id, type, fields, children, disabled, comment⟩ =>
    rw [blocksIn] at h
    rw [GeneratorBlock.ids]
    rcases List.mem_cons.mp h with rfl | h
    · exact List.mem_cons_self ..
    · exact .tail _ (mem_blocksInAll h)

theorem mem_blocksInAll {children : List GeneratorBlock} {other : GeneratorBlock}
    (h : other ∈ blocksInAll children) : other.id ∈ stateIds children := by
  match children with
  | [] => cases h
  | child :: rest =>
    rw [blocksInAll] at h
    rw [stateIds]
    rcases List.mem_append.mp h with h | h
    · split at h
      · cases h
      · exact List.mem_append_left _ (mem_blocksIn h)
    · exact List.mem_append_right _ (mem_blocksInAll h)

end

theorem mem_keysIn {block : GeneratorBlock} {key : BlockKey} (h : key ∈ keysIn block) :
    key.1 ∈ block.ids := by
  obtain ⟨other, hother, rfl⟩ := List.mem_map.mp (List.mem_filter.mp h).1
  exact mem_blocksIn hother

theorem mem_statementKeys {children : List GeneratorBlock} {key : BlockKey}
    (h : key ∈ statementKeys children) : key.1 ∈ stateIds children := by
  obtain ⟨other, hother, rfl⟩ := List.mem_map.mp (List.mem_filter.mp h).1
  exact mem_blocksInAll hother

section
variable (bindings : List GeneratorBinding)

theorem mem_accountedInAction {action : GeneratorBlock} {key : BlockKey}
    (h : key ∈ accountedInAction bindings action) : key = action.key := by
  have hmem := (List.mem_filter.mp h).1
  rcases List.mem_append.mp hmem with hmem | hmem
  · revert hmem
    split
    · split
      · simp
      · simp
      · simp
      · split <;> simp
    · simp
  · exact List.mem_singleton.mp hmem

theorem key_mem_ids (block : GeneratorBlock) : block.key.1 ∈ block.ids := by
  obtain ⟨id, type, fields, children, disabled, comment⟩ := block
  rw [GeneratorBlock.ids]
  exact List.mem_cons_self ..

mutual

theorem mem_accountedIn {block : GeneratorBlock} {key : BlockKey}
    (h : key ∈ accountedIn bindings block) : key.1 ∈ block.ids := by
  match block with
  | ⟨id, type, fields, children, disabled, comment⟩ =>
    rw [GeneratorBlock.ids]
    have hown (h : key = (id, type)) : key.1 ∈ id :: stateIds children := by
      rw [h]
      exact List.mem_cons_self ..
    have hinner (h : key ∈ accountedInAll bindings children) : key.1 ∈ id :: stateIds children :=
      .tail _ (mem_accountedInAll h)
    rw [accountedIn.eq_def] at h
    dsimp only at h
    split at h
    · exact (List.mem_cons.mp h).elim hown hinner
    · exact (List.mem_cons.mp h).elim hown hinner
    · exact (List.mem_cons.mp h).elim hown hinner
    · rcases List.mem_append.mp h with h | h
      · split at h
        · cases h
        · exact hown (List.mem_singleton.mp h)
      · exact (List.mem_cons.mp h).elim hown hinner
    · cases children with
      | nil => exact hown (List.mem_singleton.mp h)
      | cons condition rest =>
        rw [stateIds]
        rcases List.mem_append.mp h with h | h
        · rw [reported_quietPieces] at h
          rw [emitExpression_keys bindings condition key (List.mem_filter.mp h).1]
          exact .tail _ (List.mem_append_left _ (key_mem_ids condition))
        · rcases List.mem_cons.mp h with rfl | h
          · exact List.mem_cons_self ..
          · exact .tail _ (List.mem_append_right _ (mem_accountedInAll h))
    · rcases List.mem_cons.mp h with h | h
      · exact hown h
      · obtain ⟨action, haction, hkey⟩ := List.mem_flatMap.mp h
        rw [mem_accountedInAction bindings hkey]
        have hmem := (List.mem_filter.mp haction).1
        have hids {children : List GeneratorBlock} (hmem : action ∈ children) :
            action.key.1 ∈ stateIds children := by
          induction children with
          | nil => cases hmem
          | cons child rest ih =>
            rw [stateIds]
            rcases List.mem_cons.mp hmem with rfl | hmem
            · exact List.mem_append_left _ (key_mem_ids _)
            · exact List.mem_append_right _ (ih hmem)
        exact .tail _ (hids hmem)
    · exact hown (List.mem_singleton.mp (List.mem_filter.mp h).1)

theorem mem_accountedInAll {children : List GeneratorBlock} {key : BlockKey}
    (h : key ∈ accountedInAll bindings children) : key.1 ∈ stateIds children := by
  match children with
  | [] => cases h
  | child :: rest =>
    rw [accountedInAll] at h
    rw [stateIds]
    rcases List.mem_append.mp h with h | h
    · split at h
      · cases h
      · exact List.mem_append_left _ (mem_accountedIn h)
    · exact List.mem_append_right _ (mem_accountedInAll h)

end

/-- A check says whether what is accounted for is what should be, where the ids are distinct; that
it is enough does not need them to be. -/
structure Settles (check : Bool) (ids : List String) (actual expected : List BlockKey) : Prop where
  enough : check = true → actual.Perm expected
  needed : ids.Nodup → actual.Perm expected → check = true

def OfIds (ids : List String) (keys : List BlockKey) : Prop := ∀ key ∈ keys, key.1 ∈ ids

theorem Settles.cons {check : Bool} {ids : List String} {actual expected : List BlockKey}
    (h : Settles check ids actual expected) (key : BlockKey) :
    Settles check (key.1 :: ids) (key :: actual) (key :: expected) :=
  ⟨fun hcheck => (h.enough hcheck).cons key,
    fun hids hperm => h.needed (List.nodup_cons.mp hids).2 (List.perm_cons key |>.mp hperm)⟩

theorem filter_append_left {α : Type} {p : α → Bool} {first second : List α}
    (hfirst : ∀ item ∈ first, p item = true) (hsecond : ∀ item ∈ second, p item = false) :
    (first ++ second).filter p = first := by
  rw [List.filter_append, List.filter_eq_self.mpr hfirst,
    List.filter_eq_nil_iff.mpr fun item hitem => by simp [hsecond item hitem], List.append_nil]

theorem perm_append_iff {α : Type} (p : α → Bool) {first second third fourth : List α}
    (hfirst : ∀ item ∈ first, p item = true) (hsecond : ∀ item ∈ second, p item = false)
    (hthird : ∀ item ∈ third, p item = true) (hfourth : ∀ item ∈ fourth, p item = false) :
    (first ++ second).Perm (third ++ fourth) ↔ first.Perm third ∧ second.Perm fourth := by
  constructor
  · intro h
    have hleft := h.filter p
    rw [filter_append_left hfirst hsecond, filter_append_left hthird hfourth] at hleft
    exact ⟨hleft, (List.perm_append_left_iff third).mp ((hleft.symm.append_right second).trans h)⟩
  · rintro ⟨hleft, hright⟩
    exact hleft.append hright

theorem Settles.append {check other : Bool} {ids more : List String}
    {actual expected actual' expected' : List BlockKey} (h : Settles check ids actual expected)
    (h' : Settles other more actual' expected') (hactual : OfIds ids actual)
    (hexpected : OfIds ids expected) (hactual' : OfIds more actual')
    (hexpected' : OfIds more expected') :
    Settles (check && other) (ids ++ more) (actual ++ actual') (expected ++ expected') := by
  refine ⟨fun hboth => ?_, fun hids hperm => ?_⟩
  · rw [Bool.and_eq_true] at hboth
    exact (h.enough hboth.1).append (h'.enough hboth.2)
  · obtain ⟨hfirst, hsecond, hapart⟩ := List.nodup_append.mp hids
    have hin {keys : List BlockKey} (hkeys : OfIds ids keys) :
        ∀ key ∈ keys, decide (key.1 ∈ ids) = true := fun key hkey => decide_eq_true (hkeys key hkey)
    have hout {keys : List BlockKey} (hkeys : OfIds more keys) :
        ∀ key ∈ keys, decide (key.1 ∈ ids) = false := fun key hkey =>
      decide_eq_false fun hmem => hapart _ hmem _ (hkeys key hkey) rfl
    obtain ⟨hleft, hright⟩ := (perm_append_iff (fun key : BlockKey => decide (key.1 ∈ ids))
      (hin hactual) (hout hactual') (hin hexpected) (hout hexpected')).mp hperm
    rw [h.needed hfirst hleft, h'.needed hsecond hright]
    rfl

theorem settles_lost (ids : List String) (children : List GeneratorBlock) :
    Settles (losesNothing children) ids [] (statementKeys children) := by
  refine ⟨fun h => ?_, fun _ hperm => ?_⟩
  · rw [(losesNothing_iff children).mp h]
  · exact (losesNothing_iff children).mpr hperm.symm.eq_nil

theorem ids_eq (block : GeneratorBlock) : block.ids = block.id :: stateIds block.children := by
  obtain ⟨id, type, fields, children, disabled, comment⟩ := block
  rw [GeneratorBlock.ids]

/-- A block that is accounted for once more than it should be, where it has the only entry of its
id. -/
theorem settles_twice {ids : List String} {key : BlockKey} {actual expected : List BlockKey}
    (hagain : key ∈ actual) (hexpected : OfIds ids expected) :
    Settles false (key.1 :: ids) (key :: actual) (key :: expected) := by
  refine ⟨nofun, fun hids hperm => ?_⟩
  have hmem : key ∈ expected := (List.perm_cons key |>.mp hperm).subset hagain
  exact absurd (hexpected key hmem) (List.nodup_cons.mp hids).1

variable {bindings}

/-- An argument of a call of `parallel`. -/
theorem settles_action (action : GeneratorBlock) :
    Settles (accountsForAction bindings action) action.ids (accountedInAction bindings action)
      (keysIn action) := by
  have hlost := settles_lost (stateIds action.children) action.children
  have hexpected : OfIds (stateIds action.children) (statementKeys action.children) :=
    fun key hkey => mem_statementKeys hkey
  rw [ids_eq, keysIn_eq]
  cases hvalue : isReporter action.type with
  | true =>
    have hkey : isStatementKey action.key = false := by
      unfold isStatementKey
      rw [GeneratorBlock.key, hvalue]
      rfl
    have hnone : accountedInAction bindings action = [] := by
      rw [List.eq_nil_iff_forall_not_mem]
      intro key hmem
      have hstatement := (List.mem_filter.mp hmem).2
      rw [mem_accountedInAction bindings hmem, hkey] at hstatement
      cases hstatement
    have hself : [action.key].filter isStatementKey = [] :=
      List.filter_cons_of_neg (by simp [hkey])
    unfold accountsForAction
    rw [hnone, hself, List.nil_append, hvalue, Bool.true_or, Bool.and_true]
    exact ⟨hlost.enough, fun hids => hlost.needed (List.nodup_cons.mp hids).2⟩
  | false =>
    have hkey : isStatementKey action.key = true := by
      unfold isStatementKey
      rw [GeneratorBlock.key, hvalue]
      rfl
    have hself : [action.key].filter isStatementKey = [action.key] :=
      List.filter_cons_of_pos hkey
    unfold accountsForAction accountedInAction
    rw [List.filter_append, hself, hvalue, Bool.false_or]
    have honce : Settles (losesNothing action.children) (action.key.1 :: stateIds action.children)
        ([] ++ [action.key]) ([action.key] ++ statementKeys action.children) :=
      hlost.cons action.key
    have htwice : Settles (losesNothing action.children && false)
        (action.key.1 :: stateIds action.children) ([action.key] ++ [action.key])
        ([action.key] ++ statementKeys action.children) := by
      rw [Bool.and_false]
      exact settles_twice (List.mem_singleton.mpr rfl) hexpected
    cases (resolvedAlias bindings action).isSome with
    | false =>
      simp only [Bool.false_eq_true, if_false, Bool.false_and, hself]
      exact htwice
    | true =>
      simp only [if_true, Bool.true_and]
      split
      · rw [Bool.and_true]
        exact honce
      · rw [Bool.and_true]
        exact honce
      · rw [Bool.and_true]
        exact honce
      · split
        · rename_i hform
          rw [hform, Bool.and_true]
          exact honce
        · rename_i hform
          rw [Bool.not_eq_true] at hform
          rw [hform, hself]
          exact htwice

theorem Settles.skip {check : Bool} {more : List String} {actual expected : List BlockKey}
    (h : Settles check more actual expected) (ids : List String) :
    Settles check (ids ++ more) actual expected :=
  ⟨h.enough, fun hids => h.needed (List.nodup_append.mp hids).2.1⟩

theorem ofIds_accountedInAction (action : GeneratorBlock) :
    OfIds action.ids (accountedInAction bindings action) := by
  intro key hkey
  rw [mem_accountedInAction bindings hkey]
  exact key_mem_ids action

theorem settles_actions (children : List GeneratorBlock) :
    Settles ((children.filter fun child => !child.disabled).all (accountsForAction bindings))
      (stateIds children)
      ((children.filter fun child => !child.disabled).flatMap (accountedInAction bindings))
      (statementKeys children) ∧
    OfIds (stateIds children) ((children.filter fun child => !child.disabled).flatMap
      (accountedInAction bindings)) := by
  induction children with
  | nil => exact ⟨⟨fun _ => .refl _, fun _ _ => rfl⟩, by simp [OfIds]⟩
  | cons child rest ih =>
    have hrest : OfIds (stateIds rest) (statementKeys rest) :=
      fun key hkey => mem_statementKeys hkey
    rw [statementKeys_cons, stateIds]
    cases hdisabled : child.disabled with
    | true =>
      rw [List.filter_cons_of_neg (by simp [hdisabled])]
      exact ⟨ih.1.skip child.ids, fun key hkey => List.mem_append_right _ (ih.2 key hkey)⟩
    | false =>
      rw [List.filter_cons_of_pos (by simp [hdisabled]), List.all_cons, List.flatMap_cons]
      refine ⟨(settles_action child).append ih.1 (ofIds_accountedInAction child)
        (fun key hkey => mem_keysIn hkey) ih.2 hrest, ?_⟩
      intro key hkey
      rcases List.mem_append.mp hkey with hkey | hkey
      · exact List.mem_append_left _ (ofIds_accountedInAction child key hkey)
      · exact List.mem_append_right _ (ih.2 key hkey)

theorem text_of_blockType {type : String} {known : BlockType} (h : blockType type = some known) :
    type = known.text := by
  unfold blockType blockSpec at h
  obtain ⟨spec, hspec, rfl⟩ := Option.map_eq_some_iff.mp h
  have hfound := List.find?_some hspec
  exact (beq_iff_eq.mp hfound).symm

theorem settles_condition {condition : GeneratorBlock} (hvalue : isReporter condition.type = true) :
    reported (emitExpression bindings condition Emitter.empty).2.quietPieces = [] ∧
      Settles (condition.disabled || losesNothing condition.children) condition.ids []
        (if condition.disabled then [] else keysIn condition) := by
  have hkey : isStatementKey condition.key = false := by
    unfold isStatementKey
    rw [GeneratorBlock.key, hvalue]
    rfl
  constructor
  · rw [reported_quietPieces, List.filter_eq_nil_iff]
    intro key hmem
    rw [emitExpression_keys bindings condition key hmem, hkey]
    decide
  · have hself : [condition.key].filter isStatementKey = [] :=
      List.filter_cons_of_neg (by simp [hkey])
    rw [keysIn_eq, hself, List.nil_append]
    cases condition.disabled with
    | true => exact ⟨fun _ => .refl _, fun _ _ => rfl⟩
    | false => exact settles_lost _ _

mutual

/-- Whether a block accounts once for every enabled statement block in it. -/
theorem settles_block (block : GeneratorBlock)
    (hroutes : ∀ other ∈ blocksIn block, other.type = BlockType.if_.text →
      isRouted other.children = true) :
    Settles (accountsFor bindings block) block.ids (accountedIn bindings block) (keysIn block) := by
  match block with
  | ⟨id, type, fields, children, disabled, comment⟩ =>
    rw [blocksIn] at hroutes
    have hchildren := settles_children children fun other hother =>
      hroutes other (.tail _ hother)
    have hlost := settles_lost (stateIds children) children
    have hexpected : OfIds (stateIds children) (statementKeys children) :=
      fun key hkey => mem_statementKeys hkey
    have hreporter := isReporter_blockType type
    have hself : [GeneratorBlock.key ⟨id, type, fields, children, disabled, comment⟩].filter
        isStatementKey = if isReporter type then [] else [(id, type)] := by
      show [(id, type)].filter isStatementKey = _
      cases hvalue : isReporter type with
      | true => exact List.filter_cons_of_neg (by simp [isStatementKey, hvalue])
      | false => exact List.filter_cons_of_pos (by simp [isStatementKey, hvalue])
    have hskip {check : Bool} {actual expected : List BlockKey}
        (h : Settles check (stateIds children) actual expected) :
        Settles check (id :: stateIds children) ([] ++ actual) ([] ++ expected) :=
      ⟨h.enough, fun hids => h.needed (List.nodup_cons.mp hids).2⟩
    rw [ids_eq, keysIn_eq, accountsFor.eq_def, accountedIn.eq_def]
    dsimp only
    rw [hself]
    cases htype : blockType type with
    | none =>
      rw [htype] at hreporter
      rw [hreporter]
      exact hlost.cons (id, type)
    | some known =>
      cases known <;> rw [htype] at hreporter <;> rw [hreporter]
      case onStart | every | repeat_ => exact hchildren.cons (id, type)
      case onGesture =>
        cases (resolvedAlias bindings ⟨id, type, fields, children, disabled, comment⟩).isSome with
        | true => exact hchildren.cons (id, type)
        | false =>
          exact @settles_twice (stateIds children) (id, type) _ _ (List.mem_cons_self ..) hexpected
      case if_ =>
        have hrouted := hroutes _ (List.mem_cons_self ..) (text_of_blockType htype)
        cases children with
        | nil => exact ⟨fun _ => .refl _, fun _ _ => rfl⟩
        | cons condition rest =>
          simp only [isRouted, Bool.and_eq_true] at hrouted
          obtain ⟨hquiet, hcondition⟩ := @settles_condition bindings condition hrouted.1
          have hrest := settles_children rest fun other hother => by
            apply hroutes other
            rw [blocksInAll]
            exact .tail _ (List.mem_append_right _ hother)
          dsimp only
          rw [hquiet, stateIds, statementKeys_cons]
          have hboth := hcondition.append hrest (by simp [OfIds])
            (by
              intro key hkey
              split at hkey
              · cases hkey
              · exact mem_keysIn hkey)
            (fun key hkey => mem_accountedInAll bindings hkey)
            (fun key hkey => mem_statementKeys hkey)
          exact hboth.cons (id, type)
      case parallel => exact (settles_actions children).1.cons (id, type)
      case readDistance | readColor | readForce => exact hskip hlost
      all_goals exact hlost.cons (id, type)

theorem settles_children (children : List GeneratorBlock)
    (hroutes : ∀ other ∈ blocksInAll children, other.type = BlockType.if_.text →
      isRouted other.children = true) :
    Settles (accountsForAll bindings children) (stateIds children)
      (accountedInAll bindings children) (statementKeys children) := by
  match children with
  | [] =>
    rw [accountsForAll, accountedInAll]
    exact ⟨fun _ => .refl _, fun _ _ => rfl⟩
  | child :: rest =>
    rw [blocksInAll] at hroutes
    have hrest := settles_children rest fun other hother =>
      hroutes other (List.mem_append_right _ hother)
    rw [accountsForAll, accountedInAll, stateIds, statementKeys_cons]
    cases hdisabled : child.disabled with
    | true => exact hrest.skip child.ids
    | false =>
      rw [hdisabled] at hroutes
      have hchild := settles_block child fun other hother =>
        hroutes other (List.mem_append_left _ hother)
      exact hchild.append hrest (fun key hkey => mem_accountedIn bindings hkey)
        (fun key hkey => mem_keysIn hkey) (fun key hkey => mem_accountedInAll bindings hkey)
        (fun key hkey => mem_statementKeys hkey)

end

theorem statementKeys_append (first second : List GeneratorBlock) :
    statementKeys (first ++ second) = statementKeys first ++ statementKeys second := by
  induction first with
  | nil => rfl
  | cons child first ih =>
    rw [List.cons_append, statementKeys_cons, ih, statementKeys_cons, List.append_assoc]

theorem statementKeys_flatMap (blocks : List GeneratorBlock) :
    statementKeys blocks = (enabledBlocks blocks).flatMap keysIn := by
  unfold enabledBlocks
  induction blocks with
  | nil => rfl
  | cons child rest ih =>
    rw [statementKeys_cons, ih]
    cases hdisabled : child.disabled with
    | true => rw [List.filter_cons_of_neg (by simp [hdisabled])]; rfl
    | false => rw [List.filter_cons_of_pos (by simp [hdisabled]), List.flatMap_cons]; rfl

theorem stateIds_flatMap (blocks : List GeneratorBlock) :
    stateIds blocks = blocks.flatMap GeneratorBlock.ids := by
  induction blocks with
  | nil => rfl
  | cons child rest ih => rw [stateIds, ih, List.flatMap_cons]

theorem enabledBlocks_perm (blocks : List GeneratorBlock) :
    (enabledBlocks blocks).Perm
      (eventBlocks blocks ++ (startBlocks blocks ++ looseBlocks blocks)) := by
  have hstart (block : GeneratorBlock) (h : isStart block = true) : isTopLevel block = true := by
    have htype : block.type = BlockType.onStart.text := beq_iff_eq.mp h
    unfold isTopLevel
    rw [htype]
    rfl
  unfold eventBlocks startBlocks looseBlocks
  induction enabledBlocks blocks with
  | nil => exact .nil
  | cons block rest ih =>
    cases htop : isTopLevel block with
    | false =>
      have hnot : isStart block = false := by
        cases hstart' : isStart block with
        | false => rfl
        | true => rw [hstart block hstart'] at htop; cases htop
      rw [List.filter_cons_of_neg (by simp [htop]), List.filter_cons_of_neg (by simp [hnot]),
        List.filter_cons_of_pos (by simp [htop]), ← List.append_assoc]
      exact (ih.cons block).trans (by
        rw [← List.append_assoc]
        exact List.perm_middle.symm)
    | true =>
      cases hkind : isStart block with
      | true =>
        rw [List.filter_cons_of_neg (by simp [hkind]), List.filter_cons_of_pos (by simp [hkind]),
          List.filter_cons_of_neg (by simp [htop])]
        exact (ih.cons block).trans List.perm_middle.symm
      | false =>
        rw [List.filter_cons_of_pos (by simp [htop, hkind]),
          List.filter_cons_of_neg (by simp [hkind]), List.filter_cons_of_neg (by simp [htop])]
        exact ih.cons block

/-- Start blocks with what is in them. -/
theorem flatMap_cons_perm {α β : Type} (items : List α) (first : α → β) (rest : α → List β) :
    (items.flatMap fun item => first item :: rest item).Perm
      (items.map first ++ items.flatMap rest) := by
  induction items with
  | nil => exact .nil
  | cons item items ih =>
    rw [List.flatMap_cons, List.map_cons, List.flatMap_cons, List.cons_append, List.cons_append]
    refine List.Perm.cons _ ((ih.append_left (rest item)).trans ?_)
    rw [← List.append_assoc, ← List.append_assoc]
    exact List.perm_append_comm.append_right _

theorem stateIds_perm (blocks : List GeneratorBlock) :
    ((eventBlocks blocks).flatMap GeneratorBlock.ids ++
      ((startBlocks blocks).map GeneratorBlock.id ++ stateIds (mainSteps blocks))).Perm
      (stateIds (enabledBlocks blocks)) := by
  have hstarts : ((startBlocks blocks).flatMap GeneratorBlock.ids).Perm
      ((startBlocks blocks).map GeneratorBlock.id ++
        stateIds ((startBlocks blocks).flatMap GeneratorBlock.children)) := by
    have heq : (startBlocks blocks).flatMap GeneratorBlock.ids =
        (startBlocks blocks).flatMap fun start => start.id :: stateIds start.children := by
      congr 1
      funext start
      exact ids_eq start
    have hinner : stateIds ((startBlocks blocks).flatMap GeneratorBlock.children) =
        (startBlocks blocks).flatMap fun start => stateIds start.children := by
      rw [stateIds_flatMap, List.flatMap_assoc]
      congr 1
      funext start
      exact (stateIds_flatMap start.children).symm
    rw [heq, hinner]
    exact flatMap_cons_perm _ _ _
  have hall := (enabledBlocks_perm blocks).flatMap_right GeneratorBlock.ids
  rw [List.flatMap_append, List.flatMap_append] at hall
  rw [stateIds_flatMap (enabledBlocks blocks)]
  refine List.Perm.trans ?_ hall.symm
  refine List.Perm.append_left _ ?_
  unfold mainSteps
  rw [stateIds_append, ← List.append_assoc, stateIds_flatMap (looseBlocks blocks)]
  exact hstarts.symm.append_right _

/-- The enabled statement blocks of a program: those of its events, its start blocks, and those of
the steps of `main()`. -/
theorem statementKeys_perm (blocks : List GeneratorBlock) :
    (statementKeys blocks).Perm ((eventBlocks blocks).flatMap keysIn ++
      ((startBlocks blocks).map GeneratorBlock.key ++ statementKeys (mainSteps blocks))) := by
  have hkey : ∀ start ∈ startBlocks blocks, [start.key].filter isStatementKey = [start.key] := by
    intro start hstart
    have htype : start.type = BlockType.onStart.text :=
      beq_iff_eq.mp (List.mem_filter.mp hstart).2
    have hvalue : isReporter start.type = false := by
      rw [htype]
      rfl
    exact List.filter_cons_of_pos (by simp [isStatementKey, GeneratorBlock.key, hvalue])
  have hstarts : ((startBlocks blocks).flatMap keysIn).Perm
      ((startBlocks blocks).map GeneratorBlock.key ++
        statementKeys ((startBlocks blocks).flatMap GeneratorBlock.children)) := by
    have heq : (startBlocks blocks).flatMap keysIn =
        (startBlocks blocks).flatMap fun start => start.key :: statementKeys start.children := by
      apply List.flatMap_congr
      intro start hstart
      rw [keysIn_eq, hkey start hstart]
      rfl
    have hinner (starts : List GeneratorBlock) :
        statementKeys (starts.flatMap GeneratorBlock.children) =
          starts.flatMap fun start => statementKeys start.children := by
      induction starts with
      | nil => rfl
      | cons start starts ih => rw [List.flatMap_cons, statementKeys_append, ih, List.flatMap_cons]
    rw [heq, hinner]
    exact flatMap_cons_perm _ _ _
  have hloose : statementKeys (looseBlocks blocks) = (looseBlocks blocks).flatMap keysIn := by
    rw [statementKeys_flatMap]
    congr 1
    refine List.filter_eq_self.mpr ?_
    intro block hblock
    exact (List.mem_filter.mp (List.mem_filter.mp hblock).1).2
  have hall := (enabledBlocks_perm blocks).flatMap_right keysIn
  rw [List.flatMap_append, List.flatMap_append] at hall
  rw [statementKeys_flatMap]
  refine hall.trans (List.Perm.append_left _ ?_)
  unfold mainSteps
  rw [statementKeys_append, ← List.append_assoc, hloose]
  exact hstarts.append_right _

theorem key_mem_accountedIn {block : GeneratorBlock} (h : isReporter block.type = false) :
    block.key ∈ accountedIn bindings block := by
  obtain ⟨id, type, fields, children, disabled, comment⟩ := block
  have hstatement : isStatementKey (id, type) = true := by
    unfold isStatementKey
    rw [h]
    rfl
  rw [accountedIn.eq_def]
  dsimp only
  split
  · exact List.mem_cons_self ..
  · exact List.mem_cons_self ..
  · exact List.mem_cons_self ..
  · exact List.mem_append_right _ (List.mem_cons_self ..)
  · split
    · exact List.mem_cons_self ..
    · exact List.mem_append_right _ (List.mem_cons_self ..)
  · exact List.mem_cons_self ..
  · exact List.mem_filter.mpr ⟨List.mem_cons_self .., hstatement⟩

theorem blocksInAll_flatMap (blocks : List GeneratorBlock) :
    blocksInAll blocks = (enabledBlocks blocks).flatMap blocksIn := by
  unfold enabledBlocks
  induction blocks with
  | nil => rfl
  | cons child rest ih =>
    rw [blocksInAll, ih]
    cases hdisabled : child.disabled with
    | true => rw [List.filter_cons_of_neg (by simp [hdisabled])]; rfl
    | false => rw [List.filter_cons_of_pos (by simp [hdisabled]), List.flatMap_cons]; rfl

theorem settles_events (events : List GeneratorBlock)
    (hroutes : ∀ event ∈ events, ∀ other ∈ blocksIn event, other.type = BlockType.if_.text →
      isRouted other.children = true) :
    Settles (events.all (accountsFor bindings)) (events.flatMap GeneratorBlock.ids)
      (events.flatMap (accountedIn bindings)) (events.flatMap keysIn) := by
  induction events with
  | nil => exact ⟨fun _ => .refl _, fun _ _ => rfl⟩
  | cons event events ih =>
    have hrest := ih fun other hother => hroutes other (.tail _ hother)
    rw [List.all_cons, List.flatMap_cons, List.flatMap_cons, List.flatMap_cons]
    refine (settles_block event (hroutes event (List.mem_cons_self ..))).append hrest
      (fun key hkey => mem_accountedIn bindings hkey) (fun key hkey => mem_keysIn hkey) ?_ ?_
    · intro key hkey
      obtain ⟨other, hother, hmem⟩ := List.mem_flatMap.mp hkey
      exact List.mem_flatMap.mpr ⟨other, hother, mem_accountedIn bindings hmem⟩
    · intro key hkey
      obtain ⟨other, hother, hmem⟩ := List.mem_flatMap.mp hkey
      exact List.mem_flatMap.mpr ⟨other, hother, mem_keysIn hmem⟩

/-- What the function `main()` accounts for. -/
def accountedInMain (bindings : List GeneratorBinding) (starts loose : List GeneratorBlock) :
    List BlockKey :=
  match starts ++ loose with
  | [] => []
  | anchor :: _ => [anchor.key].filter isStatementKey ++
      accountedInAll bindings (starts.flatMap GeneratorBlock.children ++ loose)

/-- The steps of `main()`, and the block that its line stands for. -/
theorem settles_main {starts loose : List GeneratorBlock}
    (hstarts : ∀ start ∈ starts, isReporter start.type = false)
    (hloose : ∀ block ∈ loose, block.disabled = false)
    (hroutes : ∀ other ∈ blocksInAll (starts.flatMap GeneratorBlock.children ++ loose),
      other.type = BlockType.if_.text → isRouted other.children = true) :
    Settles (decide (starts.length ≤ 1) && (!starts.isEmpty || loose.head?.all fun first =>
        isReporter first.type) &&
        accountsForAll bindings (starts.flatMap GeneratorBlock.children ++ loose))
      (starts.map GeneratorBlock.id ++
        stateIds (starts.flatMap GeneratorBlock.children ++ loose))
      (accountedInMain bindings starts loose)
      (starts.map GeneratorBlock.key ++
        statementKeys (starts.flatMap GeneratorBlock.children ++ loose)) := by
  have hsteps := @settles_children bindings _ hroutes
  have hself {block : GeneratorBlock} (h : isReporter block.type = false) :
      [block.key].filter isStatementKey = [block.key] := by
    refine List.filter_cons_of_pos ?_
    unfold isStatementKey
    rw [GeneratorBlock.key, h]
    rfl
  unfold accountedInMain
  match starts with
  | [] =>
    match loose with
    | [] => exact ⟨fun _ => .refl _, fun _ _ => rfl⟩
    | first :: others =>
      have henabled := hloose first (List.mem_cons_self ..)
      simp only [List.flatMap_nil, List.nil_append, List.map_nil] at hsteps ⊢
      show Settles (isReporter first.type && accountsForAll bindings (first :: others)) _ _ _
      cases hvalue : isReporter first.type with
      | true =>
        have hnone : [first.key].filter isStatementKey = [] := by
          refine List.filter_cons_of_neg ?_
          unfold isStatementKey
          rw [GeneratorBlock.key, hvalue]
          decide
        rw [hnone]
        exact hsteps
      | false =>
        have hagain : first.key ∈ accountedInAll bindings (first :: others) := by
          rw [accountedInAll, henabled]
          exact List.mem_append_left _ (key_mem_accountedIn hvalue)
        rw [statementKeys_cons, henabled, stateIds, ids_eq, hself hvalue]
        simp only [Bool.false_eq_true, if_false]
        rw [keysIn_eq, hself hvalue]
        refine @settles_twice (stateIds first.children ++ stateIds others) first.key _ _ hagain ?_
        intro key hkey
        rcases List.mem_append.mp hkey with hkey | hkey
        · exact List.mem_append_left _ (mem_statementKeys hkey)
        · exact List.mem_append_right _ (mem_statementKeys hkey)
  | [start] =>
    have hone := hsteps.cons start.key
    show Settles (accountsForAll bindings ([start].flatMap GeneratorBlock.children ++ loose))
      (start.key.1 :: _) ([start.key].filter isStatementKey ++ _) (start.key :: _)
    rw [hself (hstarts start (List.mem_cons_self ..))]
    exact hone
  | start :: second :: more =>
    refine ⟨nofun, fun hids hperm => ?_⟩
    dsimp only [List.cons_append] at hperm
    rw [hself (hstarts start (List.mem_cons_self ..))] at hperm
    have hmem : second.key ∈ accountedInAll bindings
        ((start :: second :: more).flatMap GeneratorBlock.children ++ loose) :=
      (List.perm_cons start.key |>.mp hperm).symm.subset (List.mem_cons_self ..)
    have hid : second.id ∈ stateIds
        ((start :: second :: more).flatMap GeneratorBlock.children ++ loose) :=
      mem_accountedInAll bindings hmem
    have hapart := (List.nodup_append.mp hids).2.2
    exact absurd rfl (hapart second.id (.tail _ (List.mem_cons_self ..)) second.id hid)

theorem reported_comments (starts : List GeneratorBlock) :
    reported (starts.flatMap fun start =>
      commentPieces ⟨start.id, start.type, none⟩ start.comment 0) = [] := by
  induction starts with
  | nil => rfl
  | cons start starts ih =>
    rw [List.flatMap_cons, reported_append, reported_commentPieces, ih]
    rfl

theorem reported_declarationPieces (blocks : List GeneratorBlock) :
    reported (declarationPieces bindings blocks) =
      ((eventBlocks blocks).flatMap (accountedIn bindings) ++
        accountedInMain bindings (startBlocks blocks) (looseBlocks blocks)) := by
  have hsuite (owner : SourceOrigin) (depth : ℕ) (steps : List GeneratorBlock) :
      reported (suitePieces owner depth (statementsPieces bindings steps depth) ++
        [Piece.blank]) = accountedInAll bindings steps := by
    rw [reported_append, reported_suitePieces, reported_statementsPieces]
    exact List.append_nil _
  have hevents (events : List GeneratorBlock) (henabled : ∀ event ∈ events,
      event.disabled = false) :
      reported (events.flatMap fun block => suitePieces ⟨block.id, block.type, none⟩ 0
        (statementsPieces bindings [block] 0) ++ [Piece.blank]) =
        events.flatMap (accountedIn bindings) := by
    induction events with
    | nil => rfl
    | cons event events ih =>
      rw [List.flatMap_cons, List.flatMap_cons, reported_append, hsuite,
        ih fun other hother => henabled other (.tail _ hother), accountedInAll, accountedInAll,
        henabled event (List.mem_cons_self ..), List.append_nil]
      rfl
  have hmain : reported (match startBlocks blocks ++ looseBlocks blocks with
      | [] => []
      | anchor :: _ => mainPieces bindings (startBlocks blocks) (looseBlocks blocks) anchor) =
        accountedInMain bindings (startBlocks blocks) (looseBlocks blocks) := by
    unfold accountedInMain
    cases startBlocks blocks ++ looseBlocks blocks with
    | nil => rfl
    | cons anchor others =>
      dsimp only
      unfold mainPieces
      dsimp only
      rw [reported_append, reported_comments, reported_head, hsuite]
      rfl
  show reported (((eventBlocks blocks).flatMap fun block =>
    suitePieces ⟨block.id, block.type, none⟩ 0 (statementsPieces bindings [block] 0) ++
      [Piece.blank]) ++ match startBlocks blocks ++ looseBlocks blocks with
        | [] => []
        | anchor :: _ => mainPieces bindings (startBlocks blocks) (looseBlocks blocks) anchor) = _
  rw [reported_append, hmain, hevents]
  intro event hevent
  have henabled := (List.mem_filter.mp (List.mem_filter.mp hevent).1).2
  simpa using henabled

/-- The entries and the warnings of a program. -/
theorem generatePython_keys (localeCompare : String → String → Ordering)
    (blocks : List GeneratorBlock) :
    (((generatePython bindings localeCompare blocks).sourceMap.map SourceMapEntry.key ++
      (generatePython bindings localeCompare blocks).warnings.map GeneratorWarning.key).filter
        isStatementKey).Perm (reported (declarationPieces bindings blocks)) := by
  have hbody := keys_writeAll Emitter.empty (declarationPieces bindings blocks)
  rw [← emitDeclarations_write] at hbody
  have hmap : (generatePython bindings localeCompare blocks).sourceMap.map SourceMapEntry.key =
      (emitDeclarations bindings blocks).sourceMap.map SourceMapEntry.key := by
    have hsplit : (generatePython bindings localeCompare blocks).sourceMap =
        (emitPreamble bindings localeCompare (importedNames bindings blocks)).sourceMap ++
          (emitDeclarations bindings blocks).sourceMap.map fun entry => { entry with
            line := entry.line + (emitPreamble bindings localeCompare
              (importedNames bindings blocks)).lines.length } := rfl
    rw [hsplit, emitPreamble_lines, List.nil_append, List.map_map]
    rfl
  have hwarnings : (generatePython bindings localeCompare blocks).warnings =
      (emitDeclarations bindings blocks).warnings := by
    have hsplit : (generatePython bindings localeCompare blocks).warnings =
        (emitPreamble bindings localeCompare (importedNames bindings blocks)).warnings ++
          (emitDeclarations bindings blocks).warnings := rfl
    rw [hsplit, emitPreamble_lines, List.nil_append]
  rw [hmap, hwarnings]
  exact hbody.filter isStatementKey

theorem programIds_nodup {blocks : List GeneratorBlock} (h : (stateIds blocks).Nodup) :
    ((eventBlocks blocks).flatMap GeneratorBlock.ids ++
      ((startBlocks blocks).map GeneratorBlock.id ++ stateIds (mainSteps blocks))).Nodup := by
  refine (stateIds_perm blocks).nodup_iff.mpr (h.sublist ?_)
  rw [stateIds_flatMap, stateIds_flatMap]
  exact List.Sublist.flatMap List.filter_sublist _

/-- Every `cit_if` of a program is one of its blocks. -/
theorem routed_of_all {blocks : List GeneratorBlock}
    (h : ∀ other ∈ blocksInAll blocks, other.type = BlockType.if_.text →
      isRouted other.children = true) :
    (∀ event ∈ eventBlocks blocks, ∀ other ∈ blocksIn event, other.type = BlockType.if_.text →
      isRouted other.children = true) ∧
    ∀ other ∈ blocksInAll (mainSteps blocks), other.type = BlockType.if_.text →
      isRouted other.children = true := by
  rw [blocksInAll_flatMap] at h
  have henabled {block other : GeneratorBlock} (hblock : block ∈ enabledBlocks blocks)
      (hother : other ∈ blocksIn block) : other ∈ (enabledBlocks blocks).flatMap blocksIn :=
    List.mem_flatMap.mpr ⟨block, hblock, hother⟩
  constructor
  · intro event hevent other hother
    exact h other (henabled (List.mem_filter.mp hevent).1 hother)
  · intro other hother
    rw [blocksInAll_flatMap] at hother
    obtain ⟨child, hchild, hmem⟩ := List.mem_flatMap.mp hother
    obtain ⟨hstep, hchildEnabled⟩ := List.mem_filter.mp hchild
    rcases List.mem_append.mp hstep with hstep | hstep
    · obtain ⟨start, hstart, hinner⟩ := List.mem_flatMap.mp hstep
      refine h other (henabled (List.mem_filter.mp hstart).1 ?_)
      rw [blocksIn_eq, blocksInAll_flatMap]
      exact .tail _ (List.mem_flatMap.mpr
        ⟨child, List.mem_filter.mpr ⟨hinner, hchildEnabled⟩, hmem⟩)
    · exact h other (henabled (List.mem_filter.mp hstep).1 hmem)

/-- Whether a program accounts once for every enabled statement block. -/
theorem settles_program (localeCompare : String → String → Ordering)
    {blocks : List GeneratorBlock}
    (hroutes : ∀ other ∈ blocksInAll blocks, other.type = BlockType.if_.text →
      isRouted other.children = true) :
    Settles ((eventBlocks blocks).all (accountsFor bindings) &&
        (decide ((startBlocks blocks).length ≤ 1) && (!(startBlocks blocks).isEmpty ||
          (looseBlocks blocks).head?.all fun first => isReporter first.type) &&
          accountsForAll bindings (mainSteps blocks)))
      ((eventBlocks blocks).flatMap GeneratorBlock.ids ++
        ((startBlocks blocks).map GeneratorBlock.id ++ stateIds (mainSteps blocks)))
      (((generatePython bindings localeCompare blocks).sourceMap.map SourceMapEntry.key ++
        (generatePython bindings localeCompare blocks).warnings.map GeneratorWarning.key).filter
          isStatementKey)
      (statementKeys blocks) := by
  obtain ⟨hevents, hmain⟩ := routed_of_all hroutes
  have hstarts : ∀ start ∈ startBlocks blocks, isReporter start.type = false := by
    intro start hstart
    have htype : start.type = BlockType.onStart.text :=
      beq_iff_eq.mp (List.mem_filter.mp hstart).2
    rw [htype]
    rfl
  have hloose : ∀ block ∈ looseBlocks blocks, block.disabled = false := by
    intro block hblock
    have henabled := (List.mem_filter.mp (List.mem_filter.mp hblock).1).2
    simpa using henabled
  have hids {pair : List BlockKey} (h : ∀ key ∈ pair, key ∈
      accountedInMain bindings (startBlocks blocks) (looseBlocks blocks)) : OfIds
        ((startBlocks blocks).map GeneratorBlock.id ++ stateIds (mainSteps blocks)) pair := by
    intro key hkey
    have hmem := h key hkey
    unfold accountedInMain at hmem
    unfold mainSteps
    split at hmem
    · cases hmem
    · rename_i anchor others hanchor
      rcases List.mem_append.mp hmem with hmem | hmem
      · rw [List.mem_singleton.mp (List.mem_filter.mp hmem).1]
        have hin : anchor ∈ startBlocks blocks ++ looseBlocks blocks := by
          rw [hanchor]
          exact List.mem_cons_self ..
        rcases List.mem_append.mp hin with hin | hin
        · exact List.mem_append_left _ (List.mem_map_of_mem hin)
        · rw [stateIds_append, stateIds_flatMap (looseBlocks blocks)]
          exact List.mem_append_right _ (List.mem_append_right _
            (List.mem_flatMap.mpr ⟨anchor, hin, key_mem_ids anchor⟩))
      · exact List.mem_append_right _ (mem_accountedInAll bindings hmem)
  have hboth := (settles_events _ hevents).append (settles_main hstarts hloose hmain)
    (by
      intro key hkey
      obtain ⟨other, hother, hmem⟩ := List.mem_flatMap.mp hkey
      exact List.mem_flatMap.mpr ⟨other, hother, mem_accountedIn bindings hmem⟩)
    (by
      intro key hkey
      obtain ⟨other, hother, hmem⟩ := List.mem_flatMap.mp hkey
      exact List.mem_flatMap.mpr ⟨other, hother, mem_keysIn hmem⟩)
    (hids fun key hkey => hkey)
    (by
      intro key hkey
      rcases List.mem_append.mp hkey with hkey | hkey
      · obtain ⟨start, hstart, rfl⟩ := List.mem_map.mp hkey
        exact List.mem_append_left _ (List.mem_map_of_mem hstart)
      · exact List.mem_append_right _ (mem_statementKeys hkey))
  have hkeys := @generatePython_keys bindings localeCompare blocks
  rw [reported_declarationPieces] at hkeys
  have hexpected := statementKeys_perm blocks
  exact ⟨fun h => hkeys.trans ((hboth.enough h).trans hexpected.symm),
    fun hnodup hperm => hboth.needed hnodup (hkeys.symm.trans (hperm.trans hexpected))⟩

/-- Every enabled statement block is accounted for once, and the children of every `cit_if` have
the roles that the serializer gives them, where the tree is accountable; and only there, where the
ids of the blocks are distinct. -/
theorem blocks_accounted (bindings : List GeneratorBinding)
    (localeCompare : String → String → Ordering) (blocks : List GeneratorBlock) :
    (isAccountable bindings blocks = true →
      Accounted blocks (generatePython bindings localeCompare blocks)) ∧
    ((stateIds blocks).Nodup →
      (Accounted blocks (generatePython bindings localeCompare blocks) ↔
        isAccountable bindings blocks = true)) := by
  have hroutes : (∀ other ∈ blocksInAll blocks, other.type = BlockType.if_.text →
      isRouted other.children = true) ↔ (blocksInAll blocks).all (fun block =>
        block.type != BlockType.if_.text || isRouted block.children) = true := by
    rw [List.all_eq_true]
    refine forall₂_congr fun other _ => ?_
    rw [Bool.or_eq_true, bne_iff_ne, ← imp_iff_not_or]
  have hcheck : isAccountable bindings blocks = ((blocksInAll blocks).all (fun block =>
      block.type != BlockType.if_.text || isRouted block.children) &&
      ((eventBlocks blocks).all (accountsFor bindings) &&
        (decide ((startBlocks blocks).length ≤ 1) && (!(startBlocks blocks).isEmpty ||
          (looseBlocks blocks).head?.all fun first => isReporter first.type) &&
          accountsForAll bindings (mainSteps blocks)))) := by
    unfold isAccountable
    ac_rfl
  have henough (h : isAccountable bindings blocks = true) :
      Accounted blocks (generatePython bindings localeCompare blocks) := by
    rw [hcheck, Bool.and_eq_true] at h
    have hrouted := hroutes.mpr h.1
    exact ⟨(settles_program localeCompare hrouted).enough h.2,
      fun block hblock htype => (roles_iff _).mpr (hrouted block hblock htype)⟩
  refine ⟨henough, fun hids => ⟨fun haccounted => ?_, henough⟩⟩
  have hrouted : ∀ other ∈ blocksInAll blocks, other.type = BlockType.if_.text →
      isRouted other.children = true := fun other hother htype =>
    (roles_iff _).mp (haccounted.roles other hother htype)
  rw [hcheck, Bool.and_eq_true]
  exact ⟨hroutes.mp hrouted,
    (settles_program localeCompare hrouted).needed (programIds_nodup hids) haccounted.once⟩

/-- A program that logs a message where an obstacle is near. -/
theorem blocks_accounted_choice :
    let blocks : List GeneratorBlock := [⟨"start", "cit_on_start", [],
      [⟨"choice", "cit_if", [], [⟨"distance", "cit_read_distance", [], [], false, none⟩,
        ⟨"step", "cit_log", [("message", .str "near")], [], false, none⟩], false, none⟩],
      false, none⟩]
    let bindings : List GeneratorBinding := [⟨"rover", "rover-1"⟩]
    (stateIds blocks).Nodup ∧
      Accounted blocks (generatePython bindings (fun _ _ => .eq) blocks) ∧
      isAccountable bindings blocks = true := by
  intro blocks bindings
  have hids : (stateIds blocks).Nodup := by decide
  have haccounted := (blocks_accounted bindings (fun _ _ => .eq) blocks).1 (by decide)
  exact ⟨hids, haccounted,
    ((blocks_accounted bindings (fun _ _ => .eq) blocks).2 hids).mp haccounted⟩

/-- Of two start blocks only the first has an entry, and the generator takes the only step of a
condition for its value, where the serializer puts it in the body. -/
theorem blocks_lost :
    ¬ Accounted [⟨"first", "cit_on_start", [], [], false, none⟩,
        ⟨"second", "cit_on_start", [], [], false, none⟩]
      (generatePython [] (fun _ _ => .eq) [⟨"first", "cit_on_start", [], [], false, none⟩,
        ⟨"second", "cit_on_start", [], [], false, none⟩]) ∧
    ¬ Accounted [⟨"choice", "cit_if", [], [⟨"step", "cit_log", [], [], false, none⟩], false, none⟩]
      (generatePython [] (fun _ _ => .eq)
        [⟨"choice", "cit_if", [], [⟨"step", "cit_log", [], [], false, none⟩], false, none⟩]) := by
  constructor
  · intro h
    have hlength := h.once.length_eq
    revert hlength
    decide
  · intro h
    have hroles := h.roles _ (List.mem_cons_self ..) rfl
    have hcondition := congrArg (fun roles => roles.1.map GeneratorBlock.id) hroles
    revert hcondition
    decide

end

end CitPhysicalXR.Blocks
