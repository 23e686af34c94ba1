import CitPhysicalXR.Blocks.PieceLines
import CitPhysicalXR.Blocks.WellFormed

/-! The source map of a program: its entries are the first lines of the code of the blocks, and a
line of code is traced back to the block that it was written for. -/
namespace CitPhysicalXR.Blocks
open Foundation

def blockForLine (sourceMap : List SourceMapEntry) (line : ℕ) : Option SourceMapEntry :=
  sourceMap.foldl (fun best entry =>
    if entry.line ≤ line ∧ best.all fun best => decide (best.line < entry.line) then some entry
    else best) none

def SourceMapEntry.origin (entry : SourceMapEntry) : SourceOrigin :=
  ⟨entry.blockId, entry.blockType, entry.deviceAlias⟩

structure OwnedLine where
  text : String
  owner : Option (LineRole × SourceOrigin)

def Piece.ownedLine? : Piece → Option OwnedLine
  | .line role owner text depth =>
    some ⟨if text = "" then "" else Emitter.indent depth ++ text, some (role, owner)⟩
  | .blank => some ⟨"", none⟩
  | .warning _ | .name _ => none

/-- The block of which the line is the first one. -/
def OwnedLine.head? (line : OwnedLine) : Option SourceOrigin :=
  match line.owner with
  | some (.head, owner) => some owner
  | _ => none

def ownedLines (bindings : List GeneratorBinding) (localeCompare : String → String → Ordering)
    (blocks : List GeneratorBlock) : List OwnedLine :=
  (emitPreamble bindings localeCompare (importedNames bindings blocks)).lines.map (⟨·, none⟩) ++
    (declarationPieces bindings blocks).filterMap Piece.ownedLine?

/-- An entry for each first line of a block, with lines counted from a number on. -/
def headEntries : ℕ → List OwnedLine → List SourceMapEntry
  | _, [] => []
  | number, line :: lines =>
    (line.head?.map fun owner =>
      SourceMapEntry.mk number owner.blockId owner.blockType owner.deviceAlias).toList ++
      headEntries (number + 1) lines

theorem headEntries_append (number : ℕ) (first second : List OwnedLine) :
    headEntries number (first ++ second) =
      headEntries number first ++ headEntries (number + first.length) second := by
  induction first generalizing number with
  | nil => rfl
  | cons line first ih =>
    have hnumber : number + 1 + first.length = number + (first.length + 1) := by omega
    rw [List.cons_append, headEntries, headEntries, ih, List.append_assoc, List.length_cons,
      hnumber]

theorem mem_headEntries {number : ℕ} {lines : List OwnedLine} {entry : SourceMapEntry} :
    entry ∈ headEntries number lines ↔
      ∃ index line, lines[index]? = some line ∧ line.head? = some entry.origin ∧
        entry.line = number + index := by
  induction lines generalizing number with
  | nil => simp [headEntries]
  | cons line lines ih =>
    rw [headEntries, List.mem_append, ih]
    constructor
    · rintro (hfirst | ⟨index, later, hlater, hhead, hline⟩)
      · obtain ⟨owner, howner, rfl⟩ := Option.map_eq_some_iff.mp (Option.mem_toList.mp hfirst)
        exact ⟨0, line, rfl, howner, rfl⟩
      · exact ⟨index + 1, later, hlater, hhead, by omega⟩
    · rintro ⟨index, later, hlater, hhead, hline⟩
      cases index with
      | zero =>
        obtain rfl := Option.some.inj hlater
        refine .inl (Option.mem_toList.mpr (Option.map_eq_some_iff.mpr ⟨_, hhead, ?_⟩))
        cases entry
        simp only [SourceMapEntry.origin] at hline ⊢
        rw [hline]
        rfl
      | succ index => exact .inr ⟨index, later, hlater, hhead, by omega⟩

theorem headEntries_increasing (number : ℕ) (lines : List OwnedLine) :
    ((headEntries number lines).map SourceMapEntry.line).Pairwise (· < ·) := by
  induction lines generalizing number with
  | nil => exact .nil
  | cons line lines ih =>
    rw [headEntries]
    cases line.head? with
    | none => exact ih (number + 1)
    | some owner =>
      refine List.pairwise_cons.mpr ⟨?_, ih (number + 1)⟩
      intro later hlater
      obtain ⟨entry, hentry, rfl⟩ := List.mem_map.mp hlater
      obtain ⟨index, _, _, _, hline⟩ := mem_headEntries.mp hentry
      show number < entry.line
      omega

theorem sourceMap_write (emitter : Emitter) (piece : Piece) :
    (emitter.write piece).sourceMap =
      emitter.sourceMap ++ headEntries (emitter.lines.length + 1) piece.ownedLine?.toList := by
  cases piece with
  | line role owner text depth =>
    show (emitter.emit text depth (Piece.line role owner text depth).origin?).sourceMap = _
    unfold Emitter.emit
    cases role
    case head =>
      show emitter.sourceMap ++ [_] = _
      rw [List.length_append]
      rfl
    all_goals exact (List.append_nil _).symm
  | blank => exact (List.append_nil _).symm
  | warning warning => exact (List.append_nil _).symm
  | name name => exact (List.append_nil _).symm

theorem linesOf_eq (pieces : List Piece) :
    linesOf pieces = (pieces.filterMap Piece.ownedLine?).map OwnedLine.text := by
  rw [List.map_filterMap]
  unfold linesOf
  congr 1
  funext piece
  cases piece <;> rfl

theorem sourceMap_writeAll (emitter : Emitter) (pieces : List Piece) :
    (emitter.writeAll pieces).sourceMap = emitter.sourceMap ++
      headEntries (emitter.lines.length + 1) (pieces.filterMap Piece.ownedLine?) := by
  induction pieces generalizing emitter with
  | nil => exact (List.append_nil _).symm
  | cons piece pieces ih =>
    have hlength : (emitter.write piece).lines.length =
        emitter.lines.length + piece.ownedLine?.toList.length := by
      rw [lines_write, linesOf_eq, List.length_append, List.length_map]
      cases piece <;> rfl
    have hnumber : emitter.lines.length + piece.ownedLine?.toList.length + 1 =
        emitter.lines.length + 1 + piece.ownedLine?.toList.length := by omega
    have hpieces : (piece :: pieces).filterMap Piece.ownedLine? =
        piece.ownedLine?.toList ++ pieces.filterMap Piece.ownedLine? := by
      cases piece <;> rfl
    rw [Emitter.writeAll_cons, ih, sourceMap_write, hlength, hnumber, List.append_assoc,
      ← headEntries_append, hpieces]

section
variable (bindings : List GeneratorBinding) (localeCompare : String → String → Ordering)
  (blocks : List GeneratorBlock)

theorem headEntries_shift (number offset : ℕ) (lines : List OwnedLine) :
    (headEntries number lines).map (fun entry => { entry with line := entry.line + offset }) =
      headEntries (number + offset) lines := by
  induction lines generalizing number with
  | nil => rfl
  | cons line lines ih =>
    have hnumber : number + 1 + offset = number + offset + 1 := by omega
    rw [headEntries, headEntries, List.map_append, ih, hnumber]
    cases line.head? <;> rfl

theorem headEntries_unowned (number : ℕ) (lines : List String) :
    headEntries number (lines.map (⟨·, none⟩)) = [] := by
  induction lines generalizing number with
  | nil => rfl
  | cons line lines ih => exact ih (number + 1)

/-- The entries are those of the first lines, in their order, at their numbers in the text. -/
theorem generatePython_sourceMap :
    (generatePython bindings localeCompare blocks).sourceMap =
      headEntries 1 (ownedLines bindings localeCompare blocks) := by
  have hpreamble : (emitPreamble bindings localeCompare
      (importedNames bindings blocks)).sourceMap = [] := by rw [emitPreamble_lines]
  have hbody : (emitDeclarations bindings blocks).sourceMap =
      headEntries 1 ((declarationPieces bindings blocks).filterMap Piece.ownedLine?) := by
    rw [emitDeclarations_write, sourceMap_writeAll]
    rfl
  have hsplit : (generatePython bindings localeCompare blocks).sourceMap =
      (emitPreamble bindings localeCompare (importedNames bindings blocks)).sourceMap ++
        (emitDeclarations bindings blocks).sourceMap.map fun entry => { entry with
          line := entry.line +
            (emitPreamble bindings localeCompare (importedNames bindings blocks)).lines.length } :=
    rfl
  unfold ownedLines
  rw [hsplit, hpreamble, hbody, headEntries_shift, headEntries_append, headEntries_unowned,
    List.length_map]

theorem ownedLines_text :
    (ownedLines bindings localeCompare blocks).map OwnedLine.text =
      programLines bindings localeCompare blocks := by
  unfold ownedLines programLines
  rw [List.map_append, List.map_map, linesOf_eq]
  simp [Function.comp_def]

theorem blockForLine_eq {sourceMap : List SourceMapEntry}
    (h : (sourceMap.map SourceMapEntry.line).Pairwise (· < ·)) (line : ℕ) :
    blockForLine sourceMap line =
      (sourceMap.filter fun entry => decide (entry.line ≤ line)).getLast? := by
  induction sourceMap using List.reverseRecOn with
  | nil => rfl
  | append_singleton entries entry ih =>
    rw [List.map_append, List.pairwise_append] at h
    obtain ⟨hbefore, _, hbelow⟩ := h
    have hlast := ih hbefore
    have hall : ((blockForLine entries line).all fun best => decide (best.line < entry.line)) =
        true := by
      rw [hlast]
      cases hfound : (entries.filter fun entry => decide (entry.line ≤ line)).getLast? with
      | none => rfl
      | some best =>
        have hmem := List.mem_of_mem_filter (List.mem_of_getLast? hfound)
        have hlt := hbelow best.line (List.mem_map_of_mem hmem) entry.line (by simp)
        exact decide_eq_true hlt
    have hstep : blockForLine (entries ++ [entry]) line =
        if entry.line ≤ line ∧ ((blockForLine entries line).all fun best =>
          decide (best.line < entry.line)) = true then some entry
        else blockForLine entries line := by
      unfold blockForLine
      rw [List.foldl_append]
      rfl
    rw [hstep, List.filter_append]
    by_cases hle : entry.line ≤ line
    · rw [if_pos ⟨hle, hall⟩, List.filter_cons_of_pos (by simpa using hle)]
      exact List.getLast?_concat.symm
    · rw [if_neg (fun hboth => hle hboth.1), List.filter_cons_of_neg (by simpa using hle),
        List.filter_nil, List.append_nil, hlast]

theorem headEntries_take (number count : ℕ) (lines : List OwnedLine) :
    ((headEntries number lines).filter fun entry => decide (entry.line < number + count)) =
      headEntries number (lines.take count) := by
  induction lines generalizing number count with
  | nil => simp [headEntries]
  | cons line lines ih =>
    cases count with
    | zero =>
      rw [List.take_zero, headEntries, List.filter_eq_nil_iff]
      intro entry hentry
      obtain ⟨index, _, _, _, hline⟩ := mem_headEntries.mp hentry
      simp only [decide_eq_true_eq]
      omega
    | succ count =>
      have hrest := ih (number + 1) count
      have hsum : number + 1 + count = number + (count + 1) := by omega
      rw [hsum] at hrest
      rw [List.take_succ_cons, headEntries, headEntries, List.filter_append, hrest]
      cases line.head? with
      | none => rfl
      | some owner =>
        congr 1
        apply List.filter_cons_of_pos
        simp

/-- The block whose code the lines have reached. -/
def lastHead (last : Option SourceOrigin) (lines : List OwnedLine) : Option SourceOrigin :=
  lines.foldl (fun last line => line.head?.or last) last

theorem getLast_headEntries (number : ℕ) (lines : List OwnedLine) (last : Option SourceOrigin) :
    ((headEntries number lines).getLast?.map SourceMapEntry.origin).or last =
      lastHead last lines := by
  induction lines generalizing number last with
  | nil => rfl
  | cons line lines ih =>
    rw [headEntries]
    show _ = lastHead (line.head?.or last) lines
    rw [← ih (number + 1)]
    cases line.head? with
    | none => rfl
    | some owner =>
      cases hlast : (headEntries (number + 1) lines).getLast? with
      | none =>
        have hnil := List.getLast?_eq_none_iff.mp hlast
        rw [hnil]
        rfl
      | some entry =>
        have happend : ((some owner).map fun owner =>
            SourceMapEntry.mk number owner.blockId owner.blockType owner.deviceAlias).toList ++
            headEntries (number + 1) lines = SourceMapEntry.mk number owner.blockId owner.blockType
              owner.deviceAlias :: headEntries (number + 1) lines := rfl
        rw [happend, List.getLast?_cons, hlast]
        rfl

theorem blockForLine_origin (lines : List OwnedLine) (line : ℕ) :
    (blockForLine (headEntries 1 lines) line).map SourceMapEntry.origin =
      lastHead none (lines.take line) := by
  have hfilter : ((headEntries 1 lines).filter fun entry => decide (entry.line ≤ line)) =
      headEntries 1 (lines.take line) := by
    rw [← headEntries_take]
    congr 1
    funext entry
    exact decide_eq_decide.mpr (by omega)
  rw [blockForLine_eq (headEntries_increasing 1 lines), hfilter, ← getLast_headEntries 1,
    Option.or_none]

/-- A line of code below the first one comes after the head of its block and before the next one. -/
def OwnedLine.Follows (line : OwnedLine) (last : Option SourceOrigin) : Prop :=
  ∀ role owner, line.owner = some (role, owner) → role = .later ∨ role = .filler →
    last = some owner

def Attributed : Option SourceOrigin → List OwnedLine → Prop
  | _, [] => True
  | last, line :: lines => line.Follows last ∧ Attributed (line.head?.or last) lines

theorem attributed_append (last : Option SourceOrigin) (first second : List OwnedLine) :
    Attributed last (first ++ second) ↔
      Attributed last first ∧ Attributed (lastHead last first) second := by
  induction first generalizing last with
  | nil => simp [Attributed, lastHead]
  | cons line first ih =>
    rw [List.cons_append, Attributed, Attributed, ih, and_assoc]
    rfl

theorem Attributed.reached {last : Option SourceOrigin} {lines : List OwnedLine}
    (h : Attributed last lines) {index : ℕ} {line : OwnedLine} (hline : lines[index]? = some line)
    {role : LineRole} {owner : SourceOrigin} (howner : line.owner = some (role, owner))
    (hrole : role = .head ∨ role = .later ∨ role = .filler) :
    lastHead last (lines.take (index + 1)) = some owner := by
  induction lines generalizing last index with
  | nil => cases hline
  | cons first lines ih =>
    obtain ⟨hfollows, hrest⟩ := h
    cases index with
    | zero =>
      obtain rfl := Option.some.inj hline
      have hone : lastHead last ((first :: lines).take (0 + 1)) = first.head?.or last := rfl
      rw [hone]
      rcases hrole with rfl | hrole
      · have hhead : first.head? = some owner := by
          unfold OwnedLine.head?
          rw [howner]
        rw [hhead]
        rfl
      · have hhead : first.head? = none := by
          unfold OwnedLine.head?
          rw [howner]
          rcases hrole with rfl | rfl <;> rfl
        rw [hhead, hfollows role owner howner hrole]
        rfl
    | succ index => exact ih hrest hline

/-- The lines among some pieces. -/
def ownedBy (pieces : List Piece) : List OwnedLine := pieces.filterMap Piece.ownedLine?

theorem ownedBy_append (first second : List Piece) :
    ownedBy (first ++ second) = ownedBy first ++ ownedBy second := List.filterMap_append

theorem ownedBy_quietPieces (emitter : Emitter) : ownedBy emitter.quietPieces = [] := by
  unfold ownedBy Emitter.quietPieces
  rw [List.filterMap_append, List.filterMap_map, List.filterMap_map]
  simp [Function.comp_def, Piece.ownedLine?]

theorem attributed_head (last : Option SourceOrigin) (owner : SourceOrigin) (text : String)
    (depth : ℕ) (rest : List Piece) :
    Attributed last (ownedBy (.line .head owner text depth :: rest)) ↔
      Attributed (some owner) (ownedBy rest) := by
  have hfollows (first : String) :
      (OwnedLine.mk first (some (.head, owner))).Follows last := by
    rintro role other ⟨⟩ (hrole | hrole) <;> cases hrole
  exact and_iff_right (hfollows _)

theorem attributed_later (owner : SourceOrigin) (text : String) (depth : ℕ) (rest : List Piece) :
    Attributed (some owner) (ownedBy (.line .later owner text depth :: rest)) ↔
      Attributed (some owner) (ownedBy rest) := by
  have hfollows (first : String) :
      (OwnedLine.mk first (some (.later, owner))).Follows (some owner) := by
    rintro role other ⟨⟩ _
    rfl
  exact and_iff_right (hfollows _)

/-- A comment says nothing of the blocks before and after it. -/
theorem attributed_comment (last : Option SourceOrigin) (owner : SourceOrigin)
    (comment : Option String) (depth : ℕ) :
    Attributed last (ownedBy (commentPieces owner comment depth)) ∧
      lastHead last (ownedBy (commentPieces owner comment depth)) = last := by
  have hlines (lines : List (List Char)) :
      Attributed last (ownedBy (lines.map fun line =>
        Piece.line .comment owner ("# " ++ String.ofList line) depth)) ∧
        lastHead last (ownedBy (lines.map fun line =>
          Piece.line .comment owner ("# " ++ String.ofList line) depth)) = last := by
    induction lines with
    | nil => exact ⟨trivial, rfl⟩
    | cons line lines ih =>
      refine ⟨⟨?_, ih.1⟩, ih.2⟩
      rintro role other ⟨⟩ (hrole | hrole) <;> cases hrole
  unfold commentPieces
  cases comment with
  | none => exact ⟨trivial, rfl⟩
  | some comment =>
    dsimp only
    split
    · exact ⟨trivial, rfl⟩
    · exact hlines _

theorem attributed_suitePieces (owner : SourceOrigin) (depth : ℕ) {pieces : List Piece}
    (h : ∀ last, Attributed last (ownedBy pieces)) :
    Attributed (some owner) (ownedBy (suitePieces owner depth pieces)) := by
  unfold suitePieces
  cases hany : pieces.any Piece.isLine with
  | true => exact h (some owner)
  | false =>
    have hnone : ownedBy pieces = [] := by
      have hlines := (linesOf_eq_nil pieces).mpr hany
      rw [linesOf_eq, List.map_eq_nil_iff] at hlines
      exact hlines
    rw [if_neg (by decide), ownedBy_append, hnone, List.nil_append]
    refine ⟨?_, trivial⟩
    rintro role other ⟨⟩ _
    rfl

theorem attributed_actionPieces (depth : ℕ) (actions : List GeneratorBlock)
    (last : Option SourceOrigin) :
    Attributed last (ownedBy (actions.flatMap (actionPieces bindings depth))) := by
  induction actions generalizing last with
  | nil => trivial
  | cons action actions ih =>
    rw [List.flatMap_cons, ownedBy_append, attributed_append]
    refine ⟨?_, ih _⟩
    unfold actionPieces
    dsimp only
    rw [ownedBy_append, ownedBy_quietPieces, List.nil_append, attributed_head]
    trivial

mutual

theorem attributed_statementPieces (block : GeneratorBlock) (depth : ℕ)
    (last : Option SourceOrigin) :
    Attributed last (ownedBy (statementPieces bindings block depth)) := by
  match block with
  | ⟨id, type, fields, children, disabled, comment⟩ =>
    rw [statementPieces.eq_def]
    cases hspec : blockSpec type with
    | none => simp only [hspec]; trivial
    | some spec =>
      have halias : ownedBy (if spec.hasDevice = true then
          aliasPieces bindings ⟨id, type, fields, children, disabled, comment⟩ else []) = [] := by
        split
        · exact ownedBy_quietPieces _
        · rfl
      simp only [hspec]
      rw [ownedBy_append, ownedBy_append, halias, List.append_nil, attributed_append]
      generalize (if spec.hasDevice = true then
        resolvedAlias bindings ⟨id, type, fields, children, disabled, comment⟩ else none) = alias_
      obtain ⟨hcomment, hlast⟩ := attributed_comment last ⟨id, type, alias_⟩ comment depth
      refine ⟨hcomment, ?_⟩
      rw [hlast]
      have hsuite := attributed_suitePieces ⟨id, type, alias_⟩ (depth + 1)
        (attributed_statementsPieces children (depth + 1))
      cases htype : spec.type
      case onStart => exact (attributed_head last _ _ depth _).mpr hsuite
      case repeat_ => exact (attributed_head last _ _ depth _).mpr hsuite
      case every =>
        exact (attributed_head last _ _ depth _).mpr ((attributed_later _ _ depth _).mpr hsuite)
      case onGesture =>
        exact (attributed_head last _ _ depth _).mpr ((attributed_later _ _ depth _).mpr hsuite)
      case wait => exact (attributed_head last _ _ depth []).mpr trivial
      case log => exact (attributed_head last _ _ depth []).mpr trivial
      case if_ =>
        cases children with
        | nil =>
          exact (attributed_head last _ _ depth _).mpr (attributed_suitePieces _ (depth + 1)
            fun _ => trivial)
        | cons condition rest =>
          dsimp only
          rw [ownedBy_append, ownedBy_quietPieces, List.nil_append, attributed_head]
          exact attributed_suitePieces _ (depth + 1) (attributed_statementsPieces rest (depth + 1))
      case parallel =>
        dsimp only
        show Attributed last (ownedBy _)
        cases children.filter fun child => !child.disabled with
        | nil => exact (attributed_head last _ _ depth []).mpr trivial
        | cons action actions =>
          have hclosing (last : Option SourceOrigin) : Attributed last
              (ownedBy [Piece.line .closing ⟨id, type, alias_⟩ ")" depth]) := by
            refine ⟨?_, trivial⟩
            rintro role other ⟨⟩ (hrole | hrole) <;> cases hrole
          have hcall : Attributed (some ⟨id, type, alias_⟩) (ownedBy ((action :: actions).flatMap
              (actionPieces bindings (depth + 1)) ++
                [Piece.line .closing ⟨id, type, alias_⟩ ")" depth])) := by
            rw [ownedBy_append, attributed_append]
            exact ⟨attributed_actionPieces bindings (depth + 1) (action :: actions) _, hclosing _⟩
          exact (attributed_head last _ _ depth _).mpr hcall
      all_goals
        dsimp only
        rw [ownedBy_append, ownedBy_quietPieces, List.nil_append]
        cases (deviceCall ⟨id, type, fields, children, disabled, comment⟩
          (alias_.map aliasIdentifier) spec Emitter.empty).1 with
        | none => trivial
        | some call => exact (attributed_head last _ _ depth []).mpr trivial

theorem attributed_statementsPieces (children : List GeneratorBlock) (depth : ℕ)
    (last : Option SourceOrigin) :
    Attributed last (ownedBy (statementsPieces bindings children depth)) := by
  match children with
  | [] => rw [statementsPieces]; trivial
  | child :: rest =>
    rw [statementsPieces, ownedBy_append, attributed_append]
    refine ⟨?_, attributed_statementsPieces rest depth _⟩
    cases child.disabled with
    | true => trivial
    | false => exact attributed_statementPieces child depth last

end

theorem statementPieces_isLine {block : GeneratorBlock} (htop : isTopLevel block = true)
    (depth : ℕ) : (statementPieces bindings block depth).any Piece.isLine = true := by
  obtain ⟨spec, hspec, htype⟩ := eventType htop
  obtain ⟨id, type, fields, children, disabled, comment⟩ := block
  rw [statementPieces.eq_def]
  simp only [hspec]
  rw [List.any_append, List.any_append]
  rcases htype with htype | htype | htype <;> simp [htype, Piece.isLine]

theorem attributed_declarationPieces :
    Attributed none (ownedBy (declarationPieces bindings blocks)) := by
  have hblank (last : Option SourceOrigin) : Attributed last (ownedBy [Piece.blank]) := by
    refine ⟨?_, trivial⟩
    rintro role other ⟨⟩
  have hevents (events : List GeneratorBlock) (h : ∀ block ∈ events, isTopLevel block = true ∧
      block.disabled = false) (last : Option SourceOrigin) :
      Attributed last (ownedBy (events.flatMap fun block =>
        suitePieces ⟨block.id, block.type, none⟩ 0 (statementsPieces bindings [block] 0) ++
          [Piece.blank])) := by
    induction events generalizing last with
    | nil => trivial
    | cons block events ih =>
      obtain ⟨htop, henabled⟩ := h block (List.mem_cons_self ..)
      have hone : statementsPieces bindings [block] 0 = statementPieces bindings block 0 := by
        rw [statementsPieces, statementsPieces, henabled]
        exact List.append_nil _
      have hfilled : suitePieces ⟨block.id, block.type, none⟩ 0
          (statementsPieces bindings [block] 0) = statementPieces bindings block 0 := by
        rw [hone]
        exact if_pos (statementPieces_isLine bindings htop 0)
      rw [List.flatMap_cons, ownedBy_append, ownedBy_append, attributed_append, attributed_append,
        hfilled]
      exact ⟨⟨attributed_statementPieces bindings block 0 last, hblank _⟩,
        ih (fun other hother => h other (.tail _ hother)) _⟩
  have hmain (starts loose : List GeneratorBlock) (anchor : GeneratorBlock)
      (last : Option SourceOrigin) :
      Attributed last (ownedBy (mainPieces bindings starts loose anchor)) := by
    have hcomments : Attributed last (ownedBy (starts.flatMap fun start =>
        commentPieces ⟨start.id, start.type, none⟩ start.comment 0)) := by
      induction starts generalizing last with
      | nil => trivial
      | cons start starts ih =>
        rw [List.flatMap_cons, ownedBy_append, attributed_append]
        exact ⟨(attributed_comment last _ start.comment 0).1, ih _⟩
    unfold mainPieces
    rw [ownedBy_append, attributed_append, attributed_head, ownedBy_append, attributed_append]
    exact ⟨hcomments, attributed_suitePieces _ 1 (attributed_statementsPieces bindings _ 1),
      hblank _⟩
  have hmembers : ∀ block ∈ eventBlocks blocks, isTopLevel block = true ∧
      block.disabled = false := by
    intro block hblock
    obtain ⟨hmem, hkind⟩ := List.mem_filter.mp hblock
    simp only [Bool.and_eq_true] at hkind
    exact ⟨hkind.1, by simpa using (List.mem_filter.mp hmem).2⟩
  unfold declarationPieces
  rw [ownedBy_append, attributed_append]
  refine ⟨hevents _ hmembers none, ?_⟩
  split
  · trivial
  · exact hmain _ _ _ _

end

/-- The lines of the text with their blocks, and what the source map and `blockForLine` make of
them: an entry for each first line of the code of a block, and every line of code traced back to its
block, but for the bracket that closes a call. -/
structure IsTraced (result : GenerateResult) (lines : List OwnedLine) : Prop where
  text : PyString.split result.python '\n' =
    (lines.map OwnedLine.text).rdropWhile (· == "") ++ [""]
  entries : ∀ entry, entry ∈ result.sourceMap ↔
    1 ≤ entry.line ∧ ∃ line, lines[entry.line - 1]? = some line ∧
      line.head? = some entry.origin ∧
        (PyString.split result.python '\n')[entry.line - 1]? = some line.text
  increasing : (result.sourceMap.map SourceMapEntry.line).Pairwise (· < ·)
  nearest : ∀ number, match blockForLine result.sourceMap number with
    | some entry => entry ∈ result.sourceMap ∧ entry.line ≤ number ∧
        ∀ other ∈ result.sourceMap, other.line ≤ number → other.line ≤ entry.line
    | none => ∀ other ∈ result.sourceMap, number < other.line
  owned : ∀ number line role owner, lines[number]? = some line →
    line.owner = some (role, owner) → role ≠ .comment → role ≠ .closing →
      (blockForLine result.sourceMap (number + 1)).map SourceMapEntry.origin = some owner

theorem blockForLine_nearest {sourceMap : List SourceMapEntry}
    (h : (sourceMap.map SourceMapEntry.line).Pairwise (· < ·)) (number : ℕ) :
    match blockForLine sourceMap number with
    | some entry => entry ∈ sourceMap ∧ entry.line ≤ number ∧
        ∀ other ∈ sourceMap, other.line ≤ number → other.line ≤ entry.line
    | none => ∀ other ∈ sourceMap, number < other.line := by
  rw [blockForLine_eq h]
  cases hlast : (sourceMap.filter fun entry => decide (entry.line ≤ number)).getLast? with
  | none =>
    intro other hother
    have hnone := List.filter_eq_nil_iff.mp (List.getLast?_eq_none_iff.mp hlast) other hother
    simpa using hnone
  | some entry =>
    obtain ⟨hmem, hle⟩ := List.mem_filter.mp (List.mem_of_getLast? hlast)
    refine ⟨hmem, by simpa using hle, ?_⟩
    intro other hother hother_le
    obtain ⟨before, hsplit⟩ : ∃ before,
        (sourceMap.filter fun entry => decide (entry.line ≤ number)) = before ++ [entry] := by
      exact ⟨_, (List.dropLast_append_getLast? entry hlast).symm⟩
    have hothers : other ∈ before ++ [entry] := by
      rw [← hsplit]
      exact List.mem_filter.mpr ⟨hother, decide_eq_true hother_le⟩
    have hordered : ((before ++ [entry]).map SourceMapEntry.line).Pairwise (· < ·) := by
      rw [← hsplit]
      exact h.sublist ((List.filter_sublist).map _)
    rcases List.mem_append.mp hothers with hbefore | hlast
    · rw [List.map_append, List.pairwise_append] at hordered
      have hlt := hordered.2.2 other.line (List.mem_map_of_mem hbefore) entry.line (by simp)
      omega
    · rw [List.mem_singleton.mp hlast]

theorem attributed_unowned (last : Option SourceOrigin) (lines : List String) :
    Attributed last (lines.map (⟨·, none⟩)) ∧ lastHead last (lines.map (⟨·, none⟩)) = last := by
  induction lines with
  | nil => exact ⟨trivial, rfl⟩
  | cons line lines ih =>
    refine ⟨⟨?_, ih.1⟩, ih.2⟩
    rintro role other ⟨⟩

/-- What does not hold of an element is where it was when the end of a list is dropped. -/
theorem getElem?_rdropWhile {α : Type} {p : α → Bool} {items : List α} {index : ℕ} {item : α}
    (hitem : items[index]? = some item) (h : p item = false) :
    (items.rdropWhile p)[index]? = some item := by
  have hsplit := List.rdropWhile_append_rtakeWhile (p := p) (l := items)
  rw [← hsplit] at hitem
  by_cases hindex : index < (items.rdropWhile p).length
  · rwa [List.getElem?_append_left hindex] at hitem
  · rw [List.getElem?_append_right (by omega)] at hitem
    rw [List.mem_rtakeWhile_imp (List.mem_of_getElem? hitem)] at h
    cases h

theorem ownedLines_filled {bindings : List GeneratorBinding}
    {localeCompare : String → String → Ordering} {blocks : List GeneratorBlock} {line : OwnedLine}
    (hline : line ∈ ownedLines bindings localeCompare blocks) {owner : SourceOrigin}
    (hhead : line.head? = some owner) : line.text ≠ "" := by
  rcases List.mem_append.mp hline with hline | hline
  · obtain ⟨text, _, rfl⟩ := List.mem_map.mp hline
    cases hhead
  · obtain ⟨piece, hpiece, hline⟩ := List.mem_filterMap.mp hline
    have htidy := declarationPieces_isTidy bindings blocks piece hpiece
    cases piece with
    | line role owner text depth =>
      obtain rfl := Option.some.inj hline
      dsimp only
      rw [if_neg htidy.1]
      intro hempty
      have hlength := congrArg (fun text => text.toList.length) hempty
      have htext : text.toList.length = 0 := by simpa using (by simpa using hlength : _ ∧ _).2
      exact htidy.1 (String.toList_eq_nil_iff.mp (List.eq_nil_of_length_eq_zero htext))
    | blank =>
      obtain rfl := Option.some.inj hline
      cases hhead
    | warning warning => cases hline
    | name imported => cases hline

/-- The source map of every program is right. -/
theorem generatePython_traced (localeCompare : String → String → Ordering)
    (bindings : List GeneratorBinding) (blocks : List GeneratorBlock) :
    IsTraced (generatePython bindings localeCompare blocks)
      (ownedLines bindings localeCompare blocks) := by
  have hmap := generatePython_sourceMap bindings localeCompare blocks
  have hincreasing : ((generatePython bindings localeCompare blocks).sourceMap.map
      SourceMapEntry.line).Pairwise (· < ·) := by
    rw [hmap]
    exact headEntries_increasing 1 _
  have htext : PyString.split (generatePython bindings localeCompare blocks).python '\n' =
      ((ownedLines bindings localeCompare blocks).map OwnedLine.text).rdropWhile (· == "") ++
        [""] := by
    rw [ownedLines_text]
    exact split_python bindings localeCompare blocks
  refine ⟨htext, ?_, hincreasing, blockForLine_nearest hincreasing, ?_⟩
  · intro entry
    rw [hmap, mem_headEntries]
    constructor
    · rintro ⟨index, line, hline, hhead, hnumber⟩
      have hindex : entry.line - 1 = index := by omega
      have hkept : (((ownedLines bindings localeCompare blocks).map OwnedLine.text).rdropWhile
          (· == ""))[index]? = some line.text := by
        apply getElem?_rdropWhile
        · rw [List.getElem?_map, hline]
          rfl
        · simpa using ownedLines_filled (List.mem_of_getElem? hline) hhead
      refine ⟨by omega, line, by rw [hindex, hline], hhead, ?_⟩
      rw [htext, hindex]
      exact List.getElem?_append_left (List.getElem?_eq_some_iff.mp hkept).1 |>.trans hkept
    · rintro ⟨hpositive, line, hline, hhead, -⟩
      exact ⟨entry.line - 1, line, hline, hhead, by omega⟩
  · intro number line role owner hline howner hcomment hclosing
    rw [hmap, blockForLine_origin]
    have hattributed : Attributed none (ownedLines bindings localeCompare blocks) := by
      obtain ⟨hpreamble, hlast⟩ := attributed_unowned none
        (emitPreamble bindings localeCompare (importedNames bindings blocks)).lines
      unfold ownedLines
      rw [attributed_append, hlast]
      exact ⟨hpreamble, attributed_declarationPieces bindings blocks⟩
    apply hattributed.reached hline howner
    cases role
    case head => exact .inl rfl
    case later => exact .inr (.inl rfl)
    case filler => exact .inr (.inr rfl)
    case closing => exact absurd rfl hclosing
    case comment => exact absurd rfl hcomment

/-- The bracket that closes a call is traced to its last argument, and where no block starts the
program, its first step has a second entry at `main()`. -/
theorem closing_bracket_traced :
    (∃ localeCompare bindings blocks number line owner,
      (ownedLines bindings localeCompare blocks)[number]? = some line ∧
        line.owner = some (.closing, owner) ∧
          (blockForLine (generatePython bindings localeCompare blocks).sourceMap
            (number + 1)).map SourceMapEntry.origin ≠ some owner) ∧
    (generatePython [] (fun _ _ => .eq)
      [⟨"a", "cit_log", [("message", .str "hello")], [], false, none⟩]).sourceMap.map
        (fun entry => (entry.line, entry.blockId)) = [(4, "a"), (5, "a")] := by
  refine ⟨⟨fun _ _ => .eq, [], [⟨"p", "cit_parallel", [],
    [⟨"a", "cit_log", [("message", .str "hello")], [], false, none⟩], false, none⟩], 6,
    ⟨"    )", some (.closing, ⟨"p", "cit_parallel", none⟩)⟩, ⟨"p", "cit_parallel", none⟩, ?_, rfl,
    ?_⟩, ?_⟩
  · rfl
  · have hlast : (blockForLine (generatePython [] (fun _ _ => .eq) [⟨"p", "cit_parallel", [],
        [⟨"a", "cit_log", [("message", .str "hello")], [], false, none⟩], false,
          none⟩]).sourceMap 7).map SourceMapEntry.origin = some ⟨"a", "cit_log", none⟩ := rfl
    rw [hlast]
    simp
  · decide +kernel

end CitPhysicalXR.Blocks
