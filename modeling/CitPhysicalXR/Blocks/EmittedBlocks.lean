import CitPhysicalXR.Blocks.EmittedLines

/-! Which block trees the generator gives a form that Python reads: every suite gets a line of code
or no line at all, and every line is legal. -/
namespace CitPhysicalXR.Blocks
open Foundation PythonText Scan Reading

section Analysis
variable (bindings : List GeneratorBinding)

def resolvedAlias (block : GeneratorBlock) : Option String :=
  (resolveAlias bindings block Emitter.empty).1

/-- The block is a call of a device that is bound. -/
def isCall (block : GeneratorBlock) (type : BlockType) : Bool :=
  hasPythonForm type && (resolvedAlias bindings block).isSome

def emitsCode (block : GeneratorBlock) : Bool :=
  match blockType block.type with
  | none => false
  | some .onStart | some .every | some .onGesture | some .repeat_ | some .if_ | some .parallel
  | some .wait | some .log => true
  | some type => isCall bindings block type

def emits (block : GeneratorBlock) : Bool :=
  (blockType block.type).isSome && (emitsCode bindings block || hasComment block.comment)

def isAwaitable (block : GeneratorBlock) : Bool :=
  match blockType block.type with
  | none => false
  | some .wait | some .log => true
  | some type => isCall bindings block type

def quotesWell (block : GeneratorBlock) : Bool :=
  match blockType block.type with
  | none => true
  | some type => isQuotable (quotedText block type)

/-- The seconds of a timer print without a sign: they are neither negative nor in the form with
an exponent. -/
def isTimely (block : GeneratorBlock) : Bool :=
  match blockSpec block.type with
  | none => true
  | some spec => !isSigned (pythonNumber (block.field "seconds") (spec.defaultOf "seconds"))

/-- A suite of the blocks gets a line of code, or no line, so that it gets `pass`. -/
def fillsSuite (children : List GeneratorBlock) : Bool :=
  let enabled := children.filter fun child => !child.disabled
  enabled.any (emitsCode bindings) || !enabled.any (emits bindings)

mutual

/-- Every line that the block emits is legal, and every suite in it is filled. -/
def isSound (block : GeneratorBlock) : Bool :=
  match block with
  | block@⟨_, type, _, children, _, comment⟩ =>
    match blockType type with
    | none => true
    | some type => !hasNull comment && match type with
      | .onStart | .repeat_ => fillsSuite bindings children && areSound children
      | .every => isTimely block && (fillsSuite bindings children && areSound children)
      | .onGesture => quotesWell block && (fillsSuite bindings children && areSound children)
      | .if_ =>
        match children with
        | [] => true
        | _ :: rest => fillsSuite bindings rest && areSound rest
      | .parallel => (children.filter fun child => !child.disabled).all fun action =>
          isAwaitable bindings action && quotesWell action
      | _ => !emitsCode bindings block || quotesWell block

def areSound (children : List GeneratorBlock) : Bool :=
  match children with
  | [] => true
  | child :: rest => (child.disabled || isSound child) && areSound rest

end

mutual

/-- No comment that the block emits has code after a carriage return. -/
def staysInert (block : GeneratorBlock) : Bool :=
  match block with
  | ⟨_, type, _, children, _, comment⟩ =>
    match blockType type with
    | none => true
    | some type => isInert comment && match type with
      | .onStart | .repeat_ | .every | .onGesture => stayInert children
      | .if_ =>
        match children with
        | [] => true
        | _ :: rest => stayInert rest
      | _ => true

def stayInert (children : List GeneratorBlock) : Bool :=
  match children with
  | [] => true
  | child :: rest => (child.disabled || staysInert child) && stayInert rest

end

end Analysis

/-- What is emitted is read as lines of a block. -/
def Emits (before after : Emitter) (depth : ℕ) (canAwait silent code sound : Bool) : Prop :=
  ∃ entries, Writes before after silent entries ∧ Fills (4 * depth) canAwait code sound entries

namespace Emits
variable {depth : ℕ} {canAwait : Bool}

theorem same {before after : Emitter} (h : after.lines = before.lines) :
    Emits before after depth canAwait true false true := ⟨[], .same h, .nil⟩

variable {code sound : Bool} {emitter : Emitter} {kind : Bool → Option LineKind}

theorem trans {first second third : Emitter} {silent silent' code' sound' : Bool}
    (hfirst : Emits first second depth canAwait silent code sound)
    (hsecond : Emits second third depth canAwait silent' code' sound') :
    Emits first third depth canAwait (silent && silent') (code || code') (sound && sound') := by
  obtain ⟨before, hwrites, hfills⟩ := hfirst
  obtain ⟨after, hwrites', hfills'⟩ := hsecond
  exact ⟨before ++ after, hwrites.trans hwrites', hfills.append hfills'⟩

theorem line {text : String} (hfilled : text ≠ "")
    (origin : Option SourceOrigin) (h : ReadsLine text.toList kind)
    {legal : Bool} (hkind : kind canAwait = if legal then some .simple else none) :
    Emits emitter (emitter.emit text depth origin) depth canAwait false true legal :=
  ⟨_, writes_emit emitter hfilled depth origin h, .line hkind⟩

theorem comment {comment : Option String} (h : isInert comment = true) :
    Emits emitter (emitComment comment depth emitter) depth canAwait (!hasComment comment) false
      (!hasNull comment) :=
  ⟨_, writes_comment emitter h depth, commentEntries_fills comment depth canAwait⟩

/-- A suite in which no line was emitted gets one. -/
theorem close {before after : Emitter} {someEmits : Bool}
    (h : Emits before after depth canAwait (!someEmits) code sound) :
    Emits before (closeBody before.lines.length depth after) depth canAwait false
      (code || !someEmits) sound := by
  obtain ⟨entries, hwrites, hfills⟩ := h
  unfold closeBody
  cases someEmits with
  | true =>
    have hlength : ¬after.lines.length = before.lines.length := by
      rw [hwrites.silent_iff]
      simp
    rw [if_neg hlength, Bool.not_true, Bool.or_false]
    exact ⟨entries, hwrites, hfills⟩
  | false =>
    have hlength : after.lines.length = before.lines.length := hwrites.silent_iff.mpr rfl
    rw [if_pos hlength, Bool.not_false]
    have hpass : Emits after (after.emit "pass" depth none) depth canAwait false true true :=
      line (by decide) none readsLine_pass rfl
    have hboth := trans ⟨entries, hwrites, hfills⟩ hpass
    rwa [Bool.and_false, Bool.and_true] at hboth

theorem suite {after : Emitter} {text : String} (hfilled : text ≠ "")
    (origin : Option SourceOrigin) (h : ReadsLine text.toList kind)
    {inner isDefinition silent : Bool}
    (hkind : kind canAwait = some (.head inner isDefinition))
    (hbody : Emits (emitter.emit text depth origin) after (depth + 1) inner silent code sound) :
    Emits emitter after depth canAwait false true (code && sound) := by
  obtain ⟨entries, hwrites, hfills⟩ := hbody
  have hhead := writes_emit emitter hfilled depth origin h
  refine ⟨⟨4 * depth, kind⟩ :: entries, ?_, hfills.suite hkind (by omega)⟩
  have hboth := hhead.trans hwrites
  rwa [Bool.false_and] at hboth

theorem decorated {after : Emitter} {text definition : String} (hfilled : text ≠ "")
    (hdefinition : definition ≠ "") (origin : Option SourceOrigin) (decorates defines : Bool)
    {decorator : Bool → Option LineKind} (h : ReadsLine text.toList decorator)
    (hreads : ReadsLine definition.toList kind) {inner silent : Bool}
    (hdecorator : decorator canAwait = if decorates then some .decorator else none)
    (hkind : kind canAwait = if defines then some (.head inner true) else none)
    (hbody : Emits ((emitter.emit text depth origin).emit definition depth none) after (depth + 1)
      inner silent code sound) :
    Emits emitter after depth canAwait false true (decorates && (defines && (code && sound))) := by
  obtain ⟨entries, hwrites, hfills⟩ := hbody
  have hfirst := writes_emit emitter hfilled depth origin h
  have hsecond := writes_emit (emitter.emit text depth origin) hdefinition depth none hreads
  refine ⟨⟨4 * depth, decorator⟩ :: ⟨4 * depth, kind⟩ :: entries, ?_,
    hfills.decorated hdecorator hkind (by omega)⟩
  have hall := (hfirst.trans hsecond).trans hwrites
  rwa [Bool.and_false, Bool.false_and] at hall

theorem of_lines {before middle after : Emitter} {silent : Bool}
    (h : Emits middle after depth canAwait silent code sound) (hlines : middle.lines = before.lines) :
    Emits before after depth canAwait silent code sound := by
  have hboth := trans (same hlines) h
  rwa [Bool.true_and, Bool.false_or, Bool.true_and] at hboth

end Emits

end CitPhysicalXR.Blocks
