import CitPhysicalXR.Foundation.PyRounding
import CitPhysicalXR.Foundation.PythonStrings
import CitPhysicalXR.Lego.Autonomous

/-! The text of a hub program as Python reads it: the calls of its body and of the section that
stops it, and what a text is within a literal. -/
namespace CitPhysicalXR.Lego
open Foundation PythonSource

/-- A call on a line of its own: the names in front of its bracket, and its arguments as they are
written. -/
structure Call where
  names : List String
  arguments : List String
  deriving DecidableEq

namespace Call

/-- The arguments in the text between the brackets. -/
def readArguments (text : List Char) : List String :=
  if text = [] then []
  else (PyString.split (String.ofList text) ',').map fun argument =>
    String.ofList (argument.toList.dropWhile (· == ' '))

def read (line : String) : Call :=
  let text := line.toList.dropWhile (· == ' ')
  let callee := text.takeWhile (· != '(')
  let bracket := text.dropWhile (· != '(')
  ⟨PyString.split (String.ofList callee) '.', readArguments bracket.tail.dropLast⟩

def text (call : Call) : String :=
  PyString.join '.' call.names ++ "(" ++ PyString.joinComma call.arguments ++ ")"

/-- A call as a line of a block. -/
def render (call : Call) : String := "    " ++ call.text

structure WellFormed (call : Call) : Prop where
  named : call.names ≠ []
  names : ∀ name ∈ call.names, ∀ c ∈ name.toList, c ≠ '.' ∧ c ≠ '(' ∧ c ≠ ' '
  arguments : ∀ argument ∈ call.arguments,
    argument ≠ "" ∧ ∀ c ∈ argument.toList, c ≠ ',' ∧ c ≠ ' '

/-- The arguments behind a comma have a blank in front of them. -/
theorem joinComma_cons (first : String) (rest : List String) :
    PyString.joinComma (first :: rest) = PyString.join ',' (first :: rest.map (" " ++ ·)) := by
  apply String.toList_inj.mp
  induction rest generalizing first with
  | nil => simp [PyString.joinComma, PyString.join]
  | cons second rest ih =>
    have hcomma : (PyString.joinComma (first :: second :: rest)).toList =
        first.toList ++ ',' :: ' ' :: (PyString.joinComma (second :: rest)).toList := by
      simp [PyString.joinComma, String.intercalate_cons_cons]
    have hspaced : (PyString.join ',' ((" " ++ second) :: rest.map (" " ++ ·))).toList =
        ' ' :: (PyString.join ',' (second :: rest.map (" " ++ ·))).toList := by
      cases rest with
      | nil => simp [PyString.join]
      | cons third rest =>
        rw [List.map_cons, PyString.join_cons_cons, PyString.join_cons_cons]
        simp
    rw [hcomma, ih, List.map_cons, PyString.join_cons_cons, hspaced]

theorem readArguments_joinComma {arguments : List String}
    (h : ∀ argument ∈ arguments, argument ≠ "" ∧ ∀ c ∈ argument.toList, c ≠ ',' ∧ c ≠ ' ') :
    readArguments (PyString.joinComma arguments).toList = arguments := by
  cases arguments with
  | nil => rfl
  | cons first rest =>
    have hne : (PyString.joinComma (first :: rest)).toList ≠ [] := by
      have hfirst : first.toList ≠ [] := by simpa using (h first (List.mem_cons_self ..)).1
      cases rest <;> simp [PyString.joinComma, String.toList_intercalate, hfirst]
    have hfree : ∀ part ∈ first :: rest.map (" " ++ ·), ',' ∉ part.toList := by
      intro part hpart hcomma
      rcases List.mem_cons.mp hpart with rfl | hpart
      · exact ((h _ (List.mem_cons_self ..)).2 ',' hcomma).1 rfl
      · obtain ⟨argument, hargument, rfl⟩ := List.mem_map.mp hpart
        have hmem : ',' ∈ argument.toList := by simpa using hcomma
        exact ((h argument (List.mem_cons_of_mem _ hargument)).2 ',' hmem).1 rfl
    have hstrip : ∀ argument ∈ first :: rest,
        argument.toList.dropWhile (· == ' ') = argument.toList := by
      intro argument hargument
      cases hchars : argument.toList with
      | nil => rfl
      | cons c chars =>
        have hc := ((h argument hargument).2 c (by simp [hchars])).2
        simp [hc]
    have hrest : ∀ argument ∈ rest,
        String.ofList ((" " ++ argument).toList.dropWhile (· == ' ')) = argument := by
      intro argument hargument
      have hargument := hstrip argument (List.mem_cons_of_mem _ hargument)
      simp [hargument]
    rw [readArguments, if_neg hne, String.ofList_toList, joinComma_cons,
      PyString.split_join (by simp) hfree, List.map_cons, hstrip first (List.mem_cons_self ..),
      String.ofList_toList, List.map_map]
    congr 1
    exact (List.map_congr_left hrest).trans (List.map_id' rest)

theorem read_text {call : Call} (h : call.WellFormed) : read call.text = call := by
  obtain ⟨names, arguments⟩ := call
  have hcallee : ∀ c ∈ (PyString.join '.' names).toList, c ≠ '(' ∧ c ≠ ' ' := by
    intro c hc
    rcases PyString.mem_join hc with rfl | ⟨name, hname, hc⟩
    · decide
    · exact (h.names name hname c hc).2
  have htext : (text ⟨names, arguments⟩).toList =
      (PyString.join '.' names).toList ++ '(' :: ((PyString.joinComma arguments).toList ++ [')']) := by
    simp [text]
  have hblank : (text ⟨names, arguments⟩).toList.dropWhile (· == ' ') =
      (text ⟨names, arguments⟩).toList := by
    rw [htext]
    cases hjoin : (PyString.join '.' names).toList with
    | nil => simp
    | cons c rest =>
      have hc := (hcallee c (by simp [hjoin])).2
      simp [hc]
  have hbefore : ∀ c ∈ (PyString.join '.' names).toList, (c != '(') = true := by
    intro c hc
    simpa using (hcallee c hc).1
  have hnames : PyString.split (PyString.join '.' names) '.' = names := by
    apply PyString.split_join h.named
    intro name hname hdot
    exact (h.names name hname '.' hdot).1 rfl
  unfold read
  rw [hblank, htext]
  simp only [List.takeWhile_append_of_pos hbefore, List.dropWhile_append_of_pos hbefore]
  simp [hnames, readArguments_joinComma h.arguments]

theorem read_render {call : Call} (h : call.WellFormed) : read call.render = call := by
  have hblanks : (render call).toList.dropWhile (· == ' ') =
      call.text.toList.dropWhile (· == ' ') := by
    simp [render]
  have hsame : read call.render = read call.text := by
    unfold read
    rw [hblanks]
  rw [hsame, read_text h]

end Call

def blockCalls (lines : List String) : List Call :=
  (lines.takeWhile fun line => line ≠ "").map Call.read

/-- The calls of the function `main`. -/
def mainCalls (lines : List String) : List Call :=
  blockCalls (lines.dropWhile fun line => line ≠ "def main():").tail

/-- The calls that come after `main`, also when it fails. -/
def finallyCalls (lines : List String) : List Call :=
  match lines.dropWhile fun line => line ≠ "try:" with
  | _ :: guarded :: head :: rest =>
    if guarded = "    main()" ∧ head = "finally:" then blockCalls rest else []
  | _ => []

def driveMotors (lines : List String) : List String :=
  lines.flatMap fun line =>
    if PyString.startsWith line "drive_base = " then
      (Call.read (String.ofList (line.toList.drop 13))).arguments.take 2
    else []

def Call.starts (drive : List String) (call : Call) : List String :=
  match call.names with
  | [name, method] =>
    if name = "drive_base" then drive
    else if method = "run_time" ∨ method = "run_angle" then [name] else []
  | _ => []

structure WithinCaps (settings : ProgramSettings) (calls : List Call) : Prop where
  speed : ∀ call ∈ calls, (∃ motor, call.names = [motor, "run_time"] ∨
    call.names = [motor, "run_angle"]) → ∃ degrees : ℤ,
      call.arguments.head? = some (toString degrees) ∧ |degrees| ≤ maxMotorDegreesPerSecond ∧
        100 * |degrees| ≤ maxMotorDegreesPerSecond * settings.maxMotorPercent
  duration : ∀ call ∈ calls, ((∃ motor, call.names = [motor, "run_time"]) ∨
    call.names = ["wait"]) → ∃ duration : ℤ,
      call.arguments.getLast? = some (toString duration) ∧ 1 ≤ duration ∧
        duration ≤ settings.maxCommandMilliseconds

/-- What `main` starts is stopped after it. -/
structure StopsMotors (lines : List String) : Prop where
  motor : ∀ call ∈ mainCalls lines, ∀ motor ∈ call.starts (driveMotors lines),
    Call.mk [motor, "stop"] [] ∈ finallyCalls lines
  driveBase : ∀ call ∈ mainCalls lines, call.names.head? = some "drive_base" →
    (driveMotors lines).length = 2 ∧ Call.mk ["drive_base", "stop"] [] ∈ finallyCalls lines

def Step.text? : Step → Option String
  | .display text => some text
  | _ => none

def Step.hasSpeed : Step → Bool
  | .motorRun _ _ _ | .motorAngle _ _ _ => true
  | _ => false

def Step.hasDuration : Step → Bool
  | .motorRun _ _ _ | .wait _ => true
  | _ => false

/-- A step that displays nothing instead. -/
def Step.blank : Step → Step
  | .display _ => .display ""
  | step => step

/-- A text with its line breaks as blanks. -/
def sanitised (text : List Char) : List Char := replace '\n' [' '] text

/-- How long a text is once it is escaped. -/
def columns (text : List Char) : ℕ :=
  (text.map fun c => if c = '\\' ∨ c = '"' then 2 else 1).sum

/-- What fits into 32 columns of a text fills them, or is the whole text, and can stand in a
literal. -/
def Fits (dialect : Dialect) (text : String) : Prop :=
  ∃ front, front <+: text.toList ∧
    (columns front = 32 ∨ front = text.toList ∧ columns front ≤ 32) ∧
    ∀ c ∈ front, c ≠ '\r' ∧ dialect.refuses c = false

/-- The program is a source that has one literal for each text, which says the beginning of it, and
is otherwise the program for no text at all; a call for each step; speeds and durations within
their caps; and a stop for whatever it starts. -/
def Contained (cases : CaseTable) {model : HubModel} (ports : PortMap model) (steps : List Step)
    (settings : ProgramSettings) (dialect : Dialect) (program : String) : Prop :=
  ∃ source, dialect.source? program = some source ∧
    List.Forall₂ (fun text value => value.toList <+: sanitised text.toList)
      (steps.filterMap Step.text?) source.literals ∧
    (∃ blank other, buildProgram cases ports (steps.map Step.blank) settings = .ok blank ∧
      dialect.source? blank = some other ∧ other.code = source.code) ∧
    (mainCalls source.lines).length = steps.length ∧
    WithinCaps settings (mainCalls source.lines) ∧ StopsMotors source.lines

def escapeChar (c : Char) : List Char :=
  if c = '\\' then ['\\', '\\'] else if c = '"' then ['\\', '"']
  else if c = '\n' then [' '] else [c]

theorem escaped_eq (text : List Char) : escaped text = text.flatMap escapeChar := by
  induction text with
  | nil => rfl
  | cons c text ih =>
    rw [List.flatMap_cons, ← ih]
    unfold escaped replace escapeChar
    by_cases hbackslash : c = '\\'
    · subst hbackslash
      rfl
    · by_cases hquote : c = '"'
      · subst hquote
        rfl
      · by_cases hnewline : c = '\n'
        · subst hnewline
          rfl
        · simp [hbackslash, hquote, hnewline]

theorem escaped_cons (c : Char) (text : List Char) :
    escaped (c :: text) = escapeChar c ++ escaped text := by
  rw [escaped_eq, escaped_eq, List.flatMap_cons]

theorem escaped_append (first second : List Char) :
    escaped (first ++ second) = escaped first ++ escaped second := by
  simp [escaped_eq]

theorem length_escapeChar (c : Char) :
    (escapeChar c).length = if c = '\\' ∨ c = '"' then 2 else 1 := by
  unfold escapeChar
  split_ifs <;> simp_all

theorem length_escaped (text : List Char) : (escaped text).length = columns text := by
  rw [escaped_eq, List.length_flatMap, columns]
  congr 1
  exact List.map_congr_left fun c _ => length_escapeChar c

/-- A cut behind whole escapes, or in the middle of one. -/
theorem take_escaped (text : List Char) (n : ℕ) :
    (∃ front, front <+: text ∧ (escaped text).take n = escaped front ∧
      (columns front = n ∨ front = text ∧ columns front ≤ n)) ∨
    ∃ front, front <+: text ∧ (escaped text).take n = escaped front ++ ['\\'] := by
  induction text generalizing n with
  | nil => exact .inl ⟨[], List.prefix_rfl, by simp [escaped, replace], .inr ⟨rfl, by simp [columns]⟩⟩
  | cons c text ih =>
    have hcolumns (front : List Char) :
        columns (c :: front) = (escapeChar c).length + columns front := by
      rw [← length_escaped, escaped_cons, List.length_append, length_escaped]
    by_cases hfits : (escapeChar c).length ≤ n
    · have htake : (escaped (c :: text)).take n =
          escapeChar c ++ (escaped text).take (n - (escapeChar c).length) := by
        rw [escaped_cons, List.take_append, List.take_of_length_le hfits]
      rw [htake]
      rcases ih (n - (escapeChar c).length) with ⟨front, hfront, hcut, hends⟩ | ⟨front, hfront, hcut⟩
      · refine .inl ⟨c :: front, List.cons_prefix_cons.mpr ⟨rfl, hfront⟩, ?_, ?_⟩
        · rw [hcut, escaped_cons]
        · rw [hcolumns]
          rcases hends with hends | ⟨rfl, hends⟩
          · exact .inl (by omega)
          · exact .inr ⟨rfl, by omega⟩
      · refine .inr ⟨c :: front, List.cons_prefix_cons.mpr ⟨rfl, hfront⟩, ?_⟩
        rw [hcut, escaped_cons, List.append_assoc]
    · by_cases hzero : n = 0
      · subst hzero
        exact .inl ⟨[], List.nil_prefix, by simp [escaped, replace], .inl (by simp [columns])⟩
      · -- Only an escape is longer than one character.
        refine .inr ⟨[], List.nil_prefix, ?_⟩
        have hone : n = 1 ∧ ∃ d, escapeChar c = ['\\', d] := by
          unfold escapeChar at hfits ⊢
          split_ifs at hfits ⊢ <;> simp at hfits ⊢ <;> omega
        obtain ⟨rfl, d, hd⟩ := hone
        rw [escaped_cons, hd]
        simp [escaped, replace]

theorem sanitised_append (first second : List Char) :
    sanitised (first ++ second) = sanitised first ++ sanitised second := by
  simp [sanitised, replace]

theorem sanitised_cons (c : Char) (text : List Char) :
    sanitised (c :: text) = sanitised [c] ++ sanitised text := sanitised_append [c] text

theorem sanitised_prefix {front text : List Char} (h : front <+: text) :
    sanitised front <+: sanitised text := by
  obtain ⟨rest, rfl⟩ := h
  exact ⟨sanitised rest, (sanitised_append front rest).symm⟩

variable {dialect : Dialect}

theorem denotes_escapeChar {c : Char} (hreturn : c ≠ '\r') (hrefused : dialect.refuses c = false) :
    Denotes dialect '"' (escapeChar c) (sanitised [c]) := by
  unfold escapeChar
  split_ifs with hbackslash hquote hnewline
  · subst hbackslash
    exact denotes_escape (by decide) (by decide) (refuses_graphic (by decide))
  · subst hquote
    exact denotes_escape (by decide) (by decide) (refuses_graphic (by decide))
  · subst hnewline
    exact denotes_char (by decide) (by decide) (by decide) (refuses_graphic (by decide))
  · have hend : isLineEnd c = false := by simp [isLineEnd, hnewline, hreturn]
    have hsame : sanitised [c] = [c] := by simp [sanitised, replace, hnewline]
    rw [hsame]
    exact denotes_char hend hquote hbackslash hrefused

theorem denotes_escaped {text : List Char}
    (h : ∀ c ∈ text, c ≠ '\r' ∧ dialect.refuses c = false) :
    Denotes dialect '"' (escaped text) (sanitised text) := by
  induction text with
  | nil => exact denotes_nil '"'
  | cons c text ih =>
    obtain ⟨hreturn, hrefused⟩ := h c (List.mem_cons_self ..)
    have hrest := ih fun other hother => h other (List.mem_cons_of_mem _ hother)
    have hread := (denotes_escapeChar hreturn hrefused).append hrest
    rw [escaped_cons, sanitised_cons]
    exact hread

/-- A text with a character that cannot stand in a literal breaks it. -/
theorem read_escaped_none {text : List Char}
    (h : ∃ c ∈ text, c = '\r' ∨ dialect.refuses c = true) (value rest : List Char) :
    PythonSource.read dialect (.literal '"' value) (escaped text ++ rest) = none := by
  induction text generalizing value with
  | nil => simp at h
  | cons c text ih =>
    rw [escaped_cons, List.append_assoc]
    by_cases hc : c = '\r' ∨ dialect.refuses c = true
    · have hplain : escapeChar c = [c] := by
        have hspecial : c ≠ '\\' ∧ c ≠ '"' ∧ c ≠ '\n' := by
          rcases hc with rfl | hrefused
          · decide
          · have hnull : c = '\x00' := by
              simp only [Dialect.refuses, Bool.and_eq_true, beq_iff_eq] at hrefused
              exact hrefused.2
            subst hnull
            decide
        simp [escapeChar, hspecial]
      rw [hplain]
      apply read_literal_none
      rcases hc with rfl | hrefused
      · exact .inl (by decide)
      · exact .inr hrefused
    · rw [not_or, Bool.not_eq_true] at hc
      have hrest : ∃ d ∈ text, d = '\r' ∨ dialect.refuses d = true := by
        obtain ⟨d, hd, hbad⟩ := h
        rcases List.mem_cons.mp hd with rfl | hd
        · rcases hbad with rfl | hrefused
          · exact absurd rfl hc.1
          · rw [hc.2] at hrefused
            cases hrefused
        · exact ⟨d, hd, hbad⟩
      rw [denotes_escapeChar hc.1 hc.2]
      exact ih hrest _

theorem Fits.kept {text : String} (h : Fits dialect text) :
    ∃ front, front <+: text.toList ∧ (escaped text.toList).take 32 = escaped front ∧
      ∀ c ∈ front, c ≠ '\r' ∧ dialect.refuses c = false := by
  obtain ⟨front, hfront, hends, hclean⟩ := h
  refine ⟨front, hfront, ?_, hclean⟩
  rcases hends with hfull | ⟨rfl, hshort⟩
  · obtain ⟨rest, hrest⟩ := hfront
    rw [← hrest, escaped_append]
    exact List.take_left' (by rw [length_escaped, hfull])
  · exact List.take_of_length_le (by rw [length_escaped]; exact hshort)

def displayLine (text : String) : String := s!"    hub.display.text({literal text})"

theorem displayLine_toList (text : String) : (displayLine text).toList =
    "    hub.display.text(".toList ++ '"' :: (escaped text.toList).take 32 ++ '"' :: [')'] := by
  have hliteral : (literal text).toList = '"' :: (escaped text.toList).take 32 ++ ['"'] := by
    unfold literal
    exact String.toList_ofList
  have hline : (displayLine text).toList =
      "    hub.display.text(".toList ++ (literal text).toList ++ ")".toList := by
    unfold displayLine
    rw [String.toList_append, String.toList_append]
    rfl
  have hbracket : ")".toList = [')'] := by rfl
  rw [hline, hliteral, hbracket]
  generalize "    hub.display.text(".toList = before
  simp

private theorem display_plain : ∀ c ∈ "    hub.display.text(".toList, isPlain c = true := by
  decide

theorem Fits.readsLine {text : String} (h : Fits dialect text) :
    ∃ value : String, value.toList <+: sanitised text.toList ∧
      ReadsLine dialect (displayLine text).toList (displayLine "").toList [value] := by
  obtain ⟨front, hfront, hkept, hclean⟩ := h.kept
  refine ⟨String.ofList (sanitised front), ?_, ?_⟩
  · rw [String.toList_ofList]
    exact sanitised_prefix hfront
  · have hempty : (displayLine "").toList = "    hub.display.text(".toList ++ '"' :: '"' :: [')'] := by
      simp [displayLine_toList, escaped, replace]
    have hbracket : ∀ c ∈ [')'], isPlain c = true := by decide
    rw [displayLine_toList, hempty, hkept]
    exact readsLine_literal display_plain (by decide) (denotes_escaped hclean) hbracket

theorem breaksLine_of_not_fits {text : String} (h : ¬ Fits dialect text) :
    BreaksLine dialect (displayLine text).toList := by
  rw [displayLine_toList, List.append_assoc, List.cons_append]
  apply breaksLine_literal display_plain (by decide)
  intro rest
  rcases take_escaped text.toList 32 with ⟨front, hfront, hcut, hends⟩ | ⟨front, hfront, hcut⟩
  · rw [hcut, List.append_assoc]
    apply read_escaped_none
    by_contra hclean
    apply h
    refine ⟨front, hfront, hends, ?_⟩
    intro c hc
    constructor
    · exact fun hreturn => hclean ⟨c, hc, .inl hreturn⟩
    · exact Bool.eq_false_iff.mpr fun hrefused => hclean ⟨c, hc, .inr hrefused⟩
  · rw [hcut, List.append_assoc, List.append_assoc]
    by_cases hclean : ∃ c ∈ front, c = '\r' ∨ dialect.refuses c = true
    · exact read_escaped_none hclean _ _
    · have hkept : ∀ c ∈ front, c ≠ '\r' ∧ dialect.refuses c = false := by
        intro c hc
        constructor
        · exact fun hreturn => hclean ⟨c, hc, .inl hreturn⟩
        · exact Bool.eq_false_iff.mpr fun hrefused => hclean ⟨c, hc, .inr hrefused⟩
      -- The backslash that is left takes the closing quote with it.
      rw [denotes_escaped hkept]
      have hquote := @denotes_escape dialect '"' '"' (by decide)
        (by decide) (refuses_graphic (by decide))
      have hbracket := @denotes_char dialect ')' '"' (by decide)
        (by decide) (by decide) (refuses_graphic (by decide))
      exact ((hquote.append hbracket) _ ('\n' :: rest)).trans (read_literal_none (.inl (by decide)))

end CitPhysicalXR.Lego
