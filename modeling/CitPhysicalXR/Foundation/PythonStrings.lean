import CitPhysicalXR.Foundation.PyText
import CitPhysicalXR.Foundation.PythonText

/-! What a Python source says: its code, without comments and with every string literal empty, and
what its literals denote. A text of which a literal does not end on its line is no source. -/
namespace CitPhysicalXR.Foundation
open PythonText (isNameChar)

/-- The Pythons that a source is for. -/
inductive Dialect where
  | cpython
  | micropython
  deriving DecidableEq

/-- The characters that no source may have: for CPython the null character. -/
def Dialect.refuses (dialect : Dialect) (c : Char) : Bool :=
  dialect = .cpython && c == '\x00'

namespace PythonSource

/-- What a reading is in: code, with its last character; a comment; a literal, with its quote and
what it denotes so far, in reverse; and a literal after a backslash. -/
inductive Mode where
  | code (last : Char)
  | comment
  | literal (quote : Char) (read : List Char)
  | escape (quote : Char) (read : List Char)

structure Source where
  code : List Char
  literals : List String
  deriving DecidableEq

/-- A source with something in front of it. -/
def Source.after (code : List Char) (literals : List String) (source : Source) : Source :=
  ⟨code ++ source.code, literals ++ source.literals⟩

def isLineEnd (c : Char) : Bool := c == '\n' || c == '\r'

def isQuote (c : Char) : Bool := c == '"' || c == '\''

/-- A quote after a letter is a part of a literal with a prefix, and after a quote of a long one;
these are not read. -/
def opens (last : Char) : Bool := !isNameChar last && !isQuote last

/-- The escapes of one character. A backslash before any other character stands for itself. -/
def escapeValue : Char → List Char
  | '\\' => ['\\']
  | '\'' => ['\'']
  | '"' => ['"']
  | 'a' => ['\x07']
  | 'b' => ['\x08']
  | 'f' => ['\x0c']
  | 'n' => ['\n']
  | 'r' => ['\r']
  | 't' => ['\t']
  | 'v' => ['\x0b']
  | c => [c, '\\']

/-- Escapes with a code, and a backslash at the end of a line, are not read. -/
def isCoded (c : Char) : Bool := isLineEnd c || c.isDigit || c ∈ PythonText.Scan.codeEscapes

/-- The source in a text, from a mode on. -/
def read (dialect : Dialect) : Mode → List Char → Option Source
  | .code _, [] | .comment, [] => some ⟨[], []⟩
  | .literal _ _, [] | .escape _ _, [] => none
  | mode, c :: rest =>
    if dialect.refuses c then none
    else match mode with
      | .code last =>
        if isLineEnd c then (read dialect (.code '\n') rest).map (.after ['\n'] [])
        else if c = '#' then read dialect .comment rest
        else if isQuote c then
          if opens last then (read dialect (.literal c []) rest).map (.after [c] []) else none
        else (read dialect (.code c) rest).map (.after [c] [])
      | .comment =>
        if isLineEnd c then (read dialect (.code '\n') rest).map (.after ['\n'] [])
        else read dialect .comment rest
      | .literal quote value =>
        if isLineEnd c then none
        else if c = quote then
          (read dialect (.code quote) rest).map (.after [quote] [String.ofList value.reverse])
        else if c = '\\' then read dialect (.escape quote value) rest
        else read dialect (.literal quote (c :: value)) rest
      | .escape quote value =>
        if isCoded c then none
        else read dialect (.literal quote (escapeValue c ++ value)) rest

end PythonSource

def Dialect.source? (dialect : Dialect) (text : String) : Option PythonSource.Source :=
  PythonSource.read dialect (.code '\n') text.toList

namespace PythonSource

def Source.lines (source : Source) : List String :=
  PyString.split (String.ofList source.code) '\n'

example : (Dialect.cpython.source? "f(\"a\\\"b\")  # it\n").map Source.literals = some ["a\"b"] ∧
    Dialect.cpython.source? "f(\"a\\\")\n" = none := by decide

@[simp] theorem after_after (first second : List Char) (before later : List String)
    (source : Source) :
    (source.after second later).after first before =
      source.after (first ++ second) (before ++ later) := by
  simp [Source.after]

@[simp] theorem after_nil (source : Source) : source.after [] [] = source := rfl

variable {dialect : Dialect} {c last : Char} {rest : List Char}

attribute [local simp] read

/-- A character of code that is neither a quote nor begins a comment or ends a line. -/
def isPlain (c : Char) : Bool := !isLineEnd c && c != '#' && !isQuote c && c != '\x00'

theorem refuses_graphic (hgraphic : c ≠ '\x00') : dialect.refuses c = false := by
  simp [Dialect.refuses, hgraphic]

theorem refuses_newline : dialect.refuses '\n' = false := refuses_graphic (by decide)

theorem read_code (h : isPlain c = true) :
    read dialect (.code last) (c :: rest) =
      (read dialect (.code c) rest).map (.after [c] []) := by
  simp only [isPlain, Bool.and_eq_true, Bool.not_eq_true', bne_iff_ne] at h
  obtain ⟨⟨⟨hend, hmark⟩, hquote⟩, hnull⟩ := h
  simp [hend, hmark, hquote, refuses_graphic hnull]

theorem read_plain {line : List Char} (h : ∀ c ∈ line, isPlain c = true) :
    read dialect (.code last) (line ++ rest) =
      (read dialect (.code (line.getLast?.getD last)) rest).map (.after line []) := by
  induction line generalizing last with
  | nil => cases hread : read dialect (.code last) rest <;> simp [hread]
  | cons c line ih =>
    have hlast : (c :: line).getLast?.getD last = line.getLast?.getD c := by
      simp [List.getLast?_cons]
    rw [List.cons_append, read_code (h c (List.mem_cons_self ..)),
      ih fun d hd => h d (List.mem_cons_of_mem _ hd), Option.map_map, hlast]
    rfl

theorem read_newline :
    read dialect (.code last) ('\n' :: rest) =
      (read dialect (.code '\n') rest).map (.after ['\n'] []) := by
  simp [refuses_newline, isLineEnd]

theorem read_comment {line : List Char}
    (h : ∀ c ∈ line, isLineEnd c = false ∧ dialect.refuses c = false) :
    read dialect .comment (line ++ rest) = read dialect .comment rest := by
  induction line with
  | nil => rfl
  | cons c line ih =>
    obtain ⟨hend, hrefused⟩ := h c (List.mem_cons_self ..)
    rw [List.cons_append]
    simp only [read, hrefused, hend, Bool.false_eq_true, if_false]
    exact ih fun d hd => h d (List.mem_cons_of_mem _ hd)

def Denotes (dialect : Dialect) (quote : Char) (body value : List Char) : Prop :=
  ∀ before rest, read dialect (.literal quote before) (body ++ rest) =
    read dialect (.literal quote (value.reverse ++ before)) rest

theorem denotes_nil (quote : Char) : Denotes dialect quote [] [] := fun _ _ => rfl

theorem Denotes.append {quote : Char} {first second front back : List Char}
    (hfirst : Denotes dialect quote first front) (hsecond : Denotes dialect quote second back) :
    Denotes dialect quote (first ++ second) (front ++ back) := by
  intro before rest
  rw [List.append_assoc, hfirst, hsecond, List.reverse_append, List.append_assoc]

theorem denotes_char {quote : Char} (hend : isLineEnd c = false) (hquote : c ≠ quote)
    (hslash : c ≠ '\\') (hrefused : dialect.refuses c = false) :
    Denotes dialect quote [c] [c] := by
  intro before rest
  simp [hend, hquote, hslash, hrefused]

theorem denotes_escape {quote : Char} (hquote : quote ≠ '\\') (hcoded : isCoded c = false)
    (hrefused : dialect.refuses c = false) :
    Denotes dialect quote ['\\', c] (escapeValue c).reverse := by
  intro before rest
  have hslash : dialect.refuses '\\' = false := refuses_graphic (by decide)
  have hend : isLineEnd '\\' = false := by decide
  simp [hslash, hend, hquote.symm, hcoded, hrefused]

theorem read_literal_none {quote : Char} {value : List Char}
    (h : isLineEnd c = true ∨ dialect.refuses c = true) :
    read dialect (.literal quote value) (c :: rest) = none := by
  rcases h with hend | hrefused
  · simp [hend]
  · simp [hrefused]

theorem read_literal {body value : List Char} {quote : Char} (hquote : isQuote quote = true)
    (hopens : opens last = true) (hbody : Denotes dialect quote body value) :
    read dialect (.code last) (quote :: body ++ quote :: rest) =
      (read dialect (.code quote) rest).map
        (.after [quote, quote] [String.ofList value]) := by
  have hgraphic : quote ≠ '\x00' ∧ isLineEnd quote = false ∧ quote ≠ '#' := by
    simp only [isQuote, Bool.or_eq_true, beq_iff_eq] at hquote
    rcases hquote with rfl | rfl <;> decide
  obtain ⟨hnull, hend, hmark⟩ := hgraphic
  have hrefused : dialect.refuses quote = false := refuses_graphic hnull
  have hbodyRead := hbody [] (quote :: rest)
  have hclose : read dialect (.literal quote (value.reverse ++ [])) (quote :: rest) =
      (read dialect (.code quote) rest).map (.after [quote] [String.ofList value]) := by
    simp [hrefused, hend]
  rw [hclose] at hbodyRead
  rw [List.cons_append]
  simp only [read, hrefused, hend, hmark, hquote, hopens, hbodyRead, Bool.false_eq_true, if_false,
    if_true]
  rw [Option.map_map]
  rfl

/-- A line is read as some code and some literals, whatever follows it. -/
def ReadsLine (dialect : Dialect) (line code : List Char) (literals : List String) : Prop :=
  ∀ rest, read dialect (.code '\n') (line ++ '\n' :: rest) =
    (read dialect (.code '\n') rest).map (.after (code ++ ['\n']) literals)

/-- No text with the line in this place is a source. -/
def BreaksLine (dialect : Dialect) (line : List Char) : Prop :=
  ∀ rest, read dialect (.code '\n') (line ++ '\n' :: rest) = none

theorem readsLine_plain {line : List Char} (h : ∀ c ∈ line, isPlain c = true) :
    ReadsLine dialect line line [] := by
  intro rest
  rw [read_plain h, read_newline, Option.map_map]
  congr 1
  funext source
  simp

theorem readsLine_comment {line : List Char}
    (h : ∀ c ∈ line, isLineEnd c = false ∧ dialect.refuses c = false) :
    ReadsLine dialect ('#' :: line) [] [] := by
  intro rest
  have hmark : dialect.refuses '#' = false := refuses_graphic (by decide)
  have hcomment := @read_comment dialect ('\n' :: rest) line h
  rw [List.cons_append]
  simp only [read, hmark, isLineEnd] at hcomment ⊢
  simpa [refuses_newline] using hcomment

theorem readsLine_literal {before body value after : List Char}
    (hbefore : ∀ c ∈ before, isPlain c = true)
    (hopens : opens (before.getLast?.getD '\n') = true) (hbody : Denotes dialect '"' body value)
    (hafter : ∀ c ∈ after, isPlain c = true) :
    ReadsLine dialect (before ++ '"' :: body ++ '"' :: after) (before ++ '"' :: '"' :: after)
      [String.ofList value] := by
  intro rest
  have hliteral := @read_literal dialect _ (after ++ '\n' :: rest) _ _ _ (by rfl) hopens hbody
  have hline : before ++ '"' :: body ++ '"' :: after ++ '\n' :: rest =
      before ++ ('"' :: body ++ '"' :: (after ++ '\n' :: rest)) := by simp
  rw [hline, read_plain hbefore, hliteral, read_plain hafter, read_newline]
  simp only [Option.map_map]
  congr 1
  funext source
  simp

theorem breaksLine_literal {before after : List Char} (hbefore : ∀ c ∈ before, isPlain c = true)
    (hopens : opens (before.getLast?.getD '\n') = true)
    (hafter : ∀ rest, read dialect (.literal '"' []) (after ++ '\n' :: rest) = none) :
    BreaksLine dialect (before ++ '"' :: after) := by
  intro rest
  have hquote : dialect.refuses '"' = false := refuses_graphic (by decide)
  have hline : before ++ '"' :: after ++ '\n' :: rest =
      before ++ '"' :: (after ++ '\n' :: rest) := by simp
  have hopening : read dialect (.code (before.getLast?.getD '\n'))
      ('"' :: (after ++ '\n' :: rest)) = none := by
    simp [hquote, isLineEnd, isQuote, hopens, hafter]
  rw [hline, read_plain hbefore, hopening]
  rfl

/-- A text of lines, each of them ended. -/
def unlines (lines : List String) : List Char := lines.flatMap fun line => line.toList ++ ['\n']

@[simp] theorem unlines_cons (line : String) (lines : List String) :
    unlines (line :: lines) = line.toList ++ '\n' :: unlines lines := by
  simp [unlines]

@[simp] theorem unlines_append (first second : List String) :
    unlines (first ++ second) = unlines first ++ unlines second := by
  simp [unlines]

theorem join_newline {lines : List String} (hne : lines ≠ []) :
    (PyString.join '\n' lines ++ "\n").toList = unlines lines := by
  induction lines with
  | nil => exact absurd rfl hne
  | cons first rest ih =>
    cases rest with
    | nil => simp [PyString.join_singleton, unlines]
    | cons second rest =>
      have hrest := ih (by simp)
      rw [String.toList_append] at hrest ⊢
      rw [PyString.join_cons_cons, unlines_cons, ← hrest]
      simp

theorem lines_unlines {lines : List String} (h : ∀ line ∈ lines, '\n' ∉ line.toList)
    (literals : List String) : (Source.mk (unlines lines) literals).lines = lines ++ [""] := by
  have hsplit : (unlines lines).splitOn '\n' = (lines ++ [""]).map String.toList := by
    induction lines with
    | nil => rfl
    | cons line lines ih =>
      have hline := h line (List.mem_cons_self ..)
      rw [unlines_cons, List.splitOn_append_cons_self_of_not_mem hline,
        ih fun other hother => h other (List.mem_cons_of_mem _ hother)]
      rfl
  rw [Source.lines, PyString.split, String.toList_ofList, hsplit, List.map_map]
  simp [Function.comp_def]

/-- Lines are read as lines of code and some literals, whatever follows them. -/
def ReadsLines (dialect : Dialect) (lines code literals : List String) : Prop :=
  ∀ rest, read dialect (.code '\n') (unlines lines ++ rest) =
    (read dialect (.code '\n') rest).map (.after (unlines code) literals)

theorem readsLines_nil : ReadsLines dialect [] [] [] := by
  intro rest
  cases hread : read dialect (.code '\n') rest <;> simp [unlines, hread]

theorem ReadsLine.cons {line code : String} {literals others : List String}
    {lines codes : List String} (hline : ReadsLine dialect line.toList code.toList literals)
    (hlines : ReadsLines dialect lines codes others) :
    ReadsLines dialect (line :: lines) (code :: codes) (literals ++ others) := by
  intro rest
  have hread := hline (unlines lines ++ rest)
  rw [hlines, Option.map_map] at hread
  rw [unlines_cons, List.append_assoc, List.cons_append, hread]
  congr 1
  funext source
  simp

theorem ReadsLines.append {first second firstCode secondCode front back : List String}
    (hfirst : ReadsLines dialect first firstCode front)
    (hsecond : ReadsLines dialect second secondCode back) :
    ReadsLines dialect (first ++ second) (firstCode ++ secondCode) (front ++ back) := by
  intro rest
  rw [unlines_append, List.append_assoc, hfirst, hsecond, Option.map_map]
  congr 1
  funext source
  simp

theorem readsLines_plain {lines : List String} (h : ∀ line ∈ lines, ∀ c ∈ line.toList, isPlain c) :
    ReadsLines dialect lines lines [] := by
  induction lines with
  | nil => exact readsLines_nil
  | cons line lines ih =>
    have hline : ReadsLine dialect line.toList line.toList [] :=
      readsLine_plain (h line (List.mem_cons_self ..))
    exact hline.cons (ih fun other hother => h other (List.mem_cons_of_mem _ hother))

theorem ReadsLines.source {lines code literals : List String}
    (h : ReadsLines dialect lines code literals) :
    read dialect (.code '\n') (unlines lines) = some ⟨unlines code, literals⟩ := by
  simpa [Source.after] using h []

theorem BreaksLine.none {lines : List String} {line : String}
    (h : BreaksLine dialect line.toList) (hmem : line ∈ lines)
    (hlines : ∀ other ∈ lines, BreaksLine dialect other.toList ∨
      ∃ code literals, ReadsLine dialect other.toList code literals) (rest : List Char) :
    read dialect (.code '\n') (unlines lines ++ rest) = none := by
  induction lines with
  | nil => cases hmem
  | cons first lines ih =>
    rw [unlines_cons, List.append_assoc, List.cons_append]
    rcases hlines first (List.mem_cons_self ..) with hbreaks | ⟨code, literals, hreads⟩
    · exact hbreaks _
    · rcases List.mem_cons.mp hmem with rfl | hmem
      · exact h _
      · rw [hreads, ih hmem fun other hother => hlines other (List.mem_cons_of_mem _ hother)]
        rfl

end PythonSource
end CitPhysicalXR.Foundation
