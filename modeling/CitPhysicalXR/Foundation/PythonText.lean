import Mathlib.Tactic

/-! A checker for the text of Python programs: physical and logical lines, indentation, names,
numbers and strings, and the statements and expressions that need no operator. A program that
it accepts is one of the language; it knows ASCII names only. -/
namespace CitPhysicalXR.Foundation.PythonText

def keywords : List (List Char) :=
  ["False", "None", "True", "and", "as", "assert", "async", "await", "break", "class", "continue",
    "def", "del", "elif", "else", "except", "finally", "for", "from", "global", "if", "import",
    "in", "is", "lambda", "nonlocal", "not", "or", "pass", "raise", "return", "try", "while",
    "with", "yield"].map String.toList

def isLetter (c : Char) : Bool := c.isAlpha || c == '_'

def isNameChar (c : Char) : Bool := c.isAlphanum || c == '_'

def isWord : List Char → Bool
  | [] => false
  | c :: cs => isLetter c && cs.all isNameChar

/-- A name that may be bound. -/
def isBindable (word : List Char) : Bool :=
  isWord word && !keywords.contains word && word != "__debug__".toList

/-- An exponent with its mark, or nothing. -/
def isExponent : List Char → Bool
  | [] => true
  | _ :: '+' :: digits | _ :: '-' :: digits => !digits.isEmpty && digits.all Char.isDigit
  | _ :: digits => !digits.isEmpty && digits.all Char.isDigit

/-- The part of a decimal literal from its point on, or nothing. -/
def isFraction : List Char → Bool
  | [] => true
  | c :: digits => c == '.' && digits.all Char.isDigit

/-- A decimal literal. An integer has no leading zero, unless it is zero. -/
def isNumber (text : List Char) : Bool :=
  let mantissa := text.takeWhile fun c => c != 'e' && c != 'E'
  let exponent := text.dropWhile fun c => c != 'e' && c != 'E'
  let whole := mantissa.takeWhile (· != '.')
  let fraction := mantissa.dropWhile (· != '.')
  !whole.isEmpty && whole.all Char.isDigit && isFraction fraction && isExponent exponent &&
    (!(fraction.isEmpty && exponent.isEmpty) || whole.head? != some '0' || whole.all (· == '0'))

inductive Token where
  | word (text : List Char)
  | number
  | text
  | mark (c : Char)
  deriving DecidableEq

def marks : List Char := ['(', ')', '.', ',', '=', ':', '@', '-']

/-- Where a scan stands within a line; what has been read of a token is in reverse. -/
inductive ScanMode where
  | between
  | word (read : List Char)
  | number (read : List Char)
  | text
  | escape

structure Scan where
  mode : ScanMode
  tokens : List Token

namespace Scan

/-- The first character of a token, or a blank. -/
def start (tokens : List Token) (c : Char) : Option Scan :=
  if c = ' ' then some ⟨.between, tokens⟩
  else if isLetter c then some ⟨.word [c], tokens⟩
  else if c.isDigit then some ⟨.number [c], tokens⟩
  else if c = '"' then some ⟨.text, tokens⟩
  else if c ∈ marks then some ⟨.between, .mark c :: tokens⟩
  else none

/-- Inside a number: a sign belongs to it right after the mark of an exponent. -/
def inNumber (read : List Char) (c : Char) : Bool :=
  isNameChar c || c == '.' || ((c == '+' || c == '-') && (read.head? == some 'e' ||
    read.head? == some 'E'))

/-- A string stays on its line. -/
def isLineEnd (c : Char) : Bool := c == '\n' || c == '\r' || c == '\x00'

def codeEscapes : List Char := ['x', 'N', 'u', 'U']

/-- The tokens once the token that is being read has ended. -/
def close : Scan → Option (List Token)
  | ⟨.between, tokens⟩ => some tokens
  | ⟨.word read, tokens⟩ => some (.word read.reverse :: tokens)
  | ⟨.number read, tokens⟩ => if isNumber read.reverse then some (.number :: tokens) else none
  | ⟨.text, _⟩ | ⟨.escape, _⟩ => none

def step (scan : Scan) (c : Char) : Option Scan :=
  if isLineEnd c then none
  else match scan with
    | ⟨.between, tokens⟩ => start tokens c
    | ⟨.word read, tokens⟩ =>
      if isNameChar c then some ⟨.word (c :: read), tokens⟩
      else (close scan).bind fun tokens => start tokens c
    | ⟨.number read, tokens⟩ =>
      if inNumber read c then some ⟨.number (c :: read), tokens⟩
      else (close scan).bind fun tokens => start tokens c
    | ⟨.text, tokens⟩ =>
      if c = '"' then some ⟨.between, .text :: tokens⟩
      else if c = '\\' then some ⟨.escape, tokens⟩
      else some ⟨.text, tokens⟩
    | ⟨.escape, tokens⟩ => if c ∈ codeEscapes then none else some ⟨.text, tokens⟩

def run (scan : Scan) (line : List Char) : Option Scan := line.foldlM step scan

end Scan

def tokenize (line : List Char) : Option (List Token) :=
  (((Scan.mk .between []).run line).bind Scan.close).map List.reverse

/-- An open bracket: of a group, or of a call with the names of its keyword arguments so far. -/
inductive Bracket where
  | group
  | call (awaitables : Bool) (keywords : List (List Char)) (named : Bool)

/-- What the operand that was read last is. -/
inductive Operand where
  | name (text : List Char) (first : Bool)
  | called
  | other

/-- What an expression may go on with. -/
inductive Expects where
  | operand (first : Bool)
  | primary
  | argument
  | attribute
  | operator (read : Operand)

structure Reading where
  brackets : List Bracket
  expects : Expects

namespace Reading
variable (takesAwaitables : List Char → Bool) (canAwait : Bool)

def operandWord (brackets : List Bracket) (first : Bool) (text : List Char) : Option Reading :=
  if text = "await".toList then if canAwait then some ⟨brackets, .primary⟩ else none
  else if text ∈ ["None", "True", "False"].map String.toList then
    some ⟨brackets, .operator .other⟩
  else if text ∈ keywords then none
  else some ⟨brackets, .operator (.name text first)⟩

/-- A token where an operand may stand, other than a sign. -/
def primary (brackets : List Bracket) (first : Bool) : Token → Option Reading
  | .word text => operandWord canAwait brackets first text
  | .number | .text => some ⟨brackets, .operator .other⟩
  | .mark '(' => some ⟨.group :: brackets, .operand false⟩
  | .mark _ => none

/-- Whether an argument may end here: a positional one stands before those with a keyword, and
only a call is awaitable. -/
def argumentEnds (awaitables : Bool) (keywords : List (List Char)) (named : Bool)
    (read : Operand) : Bool :=
  (named || keywords.isEmpty) && (!awaitables || match read with
    | .called => true
    | _ => false)

def operator (brackets : List Bracket) (read : Operand) : Token → Option Reading
  | .mark '.' => some ⟨brackets, .attribute⟩
  | .mark '(' =>
    let awaitables := match read with
      | .name text _ => takesAwaitables text
      | _ => false
    some ⟨.call awaitables [] false :: brackets, .argument⟩
  | .mark ')' =>
    match brackets with
    | .group :: rest => some ⟨rest, .operator .other⟩
    | .call awaitables keywords named :: rest =>
      if argumentEnds awaitables keywords named read then some ⟨rest, .operator .called⟩ else none
    | [] => none
  | .mark ',' =>
    match brackets with
    | .call awaitables keywords named :: rest =>
      if argumentEnds awaitables keywords named read then
        some ⟨.call awaitables keywords false :: rest, .argument⟩
      else none
    | _ => none
  | .mark '=' =>
    match brackets, read with
    | .call awaitables keywords _ :: rest, .name text true =>
      if text ∈ keywords ∨ !isBindable text then none
      else some ⟨.call awaitables (text :: keywords) true :: rest, .operand false⟩
    | _, _ => none
  | _ => none

def step (reading : Reading) (token : Token) : Option Reading :=
  match reading.expects with
  | .operand first =>
    if token = .mark '-' then some ⟨reading.brackets, .operand false⟩
    else primary canAwait reading.brackets first token
  | .primary =>
    if token = .word "await".toList then none
    else primary canAwait reading.brackets false token
  | .argument =>
    match token, reading.brackets with
    | .mark ')', .call _ _ _ :: rest => some ⟨rest, .operator .called⟩
    | .mark '-', brackets => some ⟨brackets, .operand false⟩
    | token, brackets => primary canAwait brackets true token
  | .attribute =>
    match token with
    | .word text =>
      if text ∈ keywords then none else some ⟨reading.brackets, .operator .other⟩
    | _ => none
  | .operator read => operator takesAwaitables reading.brackets read token

/-- The expression may end here. -/
def isComplete (reading : Reading) : Bool :=
  reading.brackets.isEmpty && match reading.expects with
    | .operator _ => true
    | _ => false

end Reading

/-- The tokens are an expression. Each argument of a call of a name that takes awaitables is a
call. -/
def isExpression (takesAwaitables : List Char → Bool) (canAwait : Bool) (tokens : List Token) :
    Bool :=
  (tokens.foldlM (Reading.step takesAwaitables canAwait) ⟨[], .operand false⟩).any
    Reading.isComplete

/-- What a logical line is: a statement of its own, a decorator, or the head of a suite, in which
`await` may stand or not. -/
inductive LineKind where
  | simple
  | decorator
  | head (canAwait isDefinition : Bool)
  deriving DecidableEq

def isImports : List Token → Bool
  | [.word name] => isBindable name
  | .word name :: .mark ',' :: rest => isBindable name && isImports rest
  | _ => false

def statement (takesAwaitables : List Char → Bool) (canAwait : Bool) (tokens : List Token) :
    Option LineKind :=
  let when_ (holds : Bool) (kind : LineKind) := if holds then some kind else none
  let headed (rest : List Token) := rest.getLast? = some (.mark ':') ∧
    isExpression takesAwaitables canAwait rest.dropLast
  match tokens with
  | .mark '@' :: rest => when_ (isExpression takesAwaitables canAwait rest) .decorator
  | .word first :: rest =>
    if first = "pass".toList then when_ rest.isEmpty .simple
    else if first = "from".toList then
      match rest with
      | .word package :: .word keyword :: names =>
        when_ (isBindable package && (keyword == "import".toList) && isImports names) .simple
      | _ => none
    else if first = "async".toList then
      match rest with
      | [.word keyword, .word name, .mark '(', .mark ')', .mark ':'] =>
        when_ ((keyword == "def".toList) && isBindable name) (.head true true)
      | _ => none
    else if first = "for".toList then
      match rest with
      | .word name :: .word keyword :: rest =>
        when_ (isBindable name && (keyword == "in".toList) && headed rest) (.head canAwait false)
      | _ => none
    else if first = "if".toList then when_ (headed rest) (.head canAwait false)
    else match rest with
      | .mark '=' :: value =>
        when_ (isBindable first && isExpression takesAwaitables canAwait value) .simple
      | _ => when_ (isExpression takesAwaitables canAwait tokens) .simple
  | _ => when_ (isExpression takesAwaitables canAwait tokens) .simple

/-- The open blocks with their indentations, the innermost first; whether a suite has to follow,
and whether `await` may stand in it; whether a definition has to follow; and a logical line whose
brackets are open. -/
structure Layout where
  blocks : List (ℕ × Bool)
  suite : Option Bool
  decorated : Bool
  open_ : Option (ℕ × List Token)

namespace Layout
variable (takesAwaitables : List Char → Bool)

/-- A module before its first line. -/
def start : Layout := ⟨[(0, false)], none, false, none⟩

def bracketStep (depth : ℕ) (token : Token) : Option ℕ :=
  if token = .mark '(' then some (depth + 1)
  else if token = .mark ')' then if depth = 0 then none else some (depth - 1)
  else some depth

def openBrackets (tokens : List Token) : Option ℕ := tokens.foldlM bracketStep 0

/-- The blocks at a line with an indentation. -/
def place (layout : Layout) (indentation : ℕ) : Option (List (ℕ × Bool)) :=
  match layout.suite with
  | some canAwait =>
    if (layout.blocks.head?.map Prod.fst).getD 0 < indentation then
      some ((indentation, canAwait) :: layout.blocks)
    else none
  | none =>
    let blocks := layout.blocks.dropWhile fun block => decide (indentation < block.1)
    if (!layout.decorated || blocks.length == layout.blocks.length) &&
        blocks.head?.map Prod.fst == some indentation then some blocks
    else none

/-- A logical line by what it is where `await` may stand or not; none where it is nothing. -/
def enter (layout : Layout) (indentation : ℕ) (kind : Bool → Option LineKind) : Option Layout :=
  (layout.place indentation).bind fun blocks =>
    (kind ((blocks.head?.map Prod.snd).getD false)).bind fun
      | .simple => if layout.decorated then none else some ⟨blocks, none, false, none⟩
      | .decorator => some ⟨blocks, none, true, none⟩
      | .head canAwait isDefinition =>
        if layout.decorated && !isDefinition then none
        else some ⟨blocks, some canAwait, false, none⟩

/-- A line without its blanks that holds no token: it is blank, or a comment. -/
def isSkipped (content : List Char) : Bool := content.isEmpty || content.head? == some '#'

/-- A physical line. A source has no null character, not even in a comment. -/
def step (layout : Layout) (line : List Char) : Option Layout :=
  let indentation := (line.takeWhile (· == ' ')).length
  let content := line.dropWhile (· == ' ')
  if isSkipped content then if '\x00' ∈ content then none else some layout
  else (tokenize content).bind fun tokens =>
    let (indentation, tokens) := match layout.open_ with
      | some (indentation, before) => (indentation, before ++ tokens)
      | none => (indentation, tokens)
    (openBrackets tokens).bind fun depth =>
      if depth = 0 then
        { layout with open_ := none }.enter indentation fun canAwait =>
          statement takesAwaitables canAwait tokens
      else some { layout with open_ := some (indentation, tokens) }

/-- The module may end here. -/
def isComplete (layout : Layout) : Bool :=
  layout.suite.isNone && !layout.decorated && layout.open_.isNone

end Layout

/-- The physical lines of a text; a carriage return ends a line as well. -/
def physicalLines : List Char → List (List Char)
  | [] => [[]]
  | c :: rest =>
    if c = '\n' ∨ c = '\r' then [] :: physicalLines rest
    else match physicalLines rest with
      | line :: lines => (c :: line) :: lines
      | [] => [[c]]

def isModule (takesAwaitables : List Char → Bool) (text : List Char) : Bool :=
  ((physicalLines text).foldlM (Layout.step takesAwaitables) Layout.start).any Layout.isComplete

end CitPhysicalXR.Foundation.PythonText
