import CitPhysicalXR.Lego.HubReplies
import CitPhysicalXR.Lego.Watchdog
import CitPhysicalXR.Foundation.PyNumerals

/-! Lines that are no frames: what the host's decoder and the hub do with them. Both check that
the sequence number has digits only before they convert it, and a digit such as a superscript
converts to no number. -/
namespace CitPhysicalXR.Lego
open Foundation

theorem validateFrame_raises {sequence : ℤ} {operation : Operation} {arguments : List String} :
    RaisesFrame (validateFrame sequence operation arguments) := by
  apply RaisesFrame.bind .raise
  intro _ _
  apply RaisesFrame.check
  intro _
  apply RaisesFrame.bind
  · apply RaisesFrame.forM
    intro argument
    exact .bind .raise fun _ _ => .raise
  · exact fun _ _ => .raise

theorem create_raises {sequence : ℤ} {operation : Operation} {arguments : List String} :
    RaisesFrame (Frame.create sequence operation arguments) := by
  unfold Frame.create
  split
  · exact .ok
  · rename_i e h
    obtain ⟨message, rfl⟩ := validateFrame_raises e h
    exact .frame

theorem create_eq_ok {sequence : ℤ} {operation : Operation} {arguments : List String}
    {frame : Frame} : Frame.create sequence operation arguments = .ok frame ↔
      frame.sequence = sequence ∧ frame.operation = operation ∧ frame.arguments = arguments := by
  constructor
  · intro h
    unfold Frame.create at h
    split at h
    · cases h
      exact ⟨rfl, rfl, rfl⟩
    · cases h
  · rintro ⟨rfl, rfl, rfl⟩
    exact frame.create_self

/-- A well-formed line, without its ending: the tag, a number below the modulus in decimal
digits, and an operation with as many arguments of allowed characters as it takes. -/
structure IsLine (rules : TextRules) (line : String) (sequence : ℕ) (operation : Operation)
    (arguments : List String) : Prop where
  fields : ∃ rawSequence, rules.isDigits rawSequence = true ∧
    PyString.decimals? rules.decimal? 0 rawSequence.toList = some sequence ∧
    line = PyString.join fieldSeparator
      (protocolTag :: rawSequence :: operation.value :: arguments)
  bounded : sequence < sequenceModulus
  arity : operation.arity.1 ≤ arguments.length ∧ arguments.length ≤ operation.arity.2
  wire : ∀ argument ∈ arguments, IsWireArgument argument
  short : line.length ≤ maxFrameChars

/-- The sequence number of a line is a text of digits, one of which has no decimal value. -/
def OddSequence (rules : TextRules) (rawSequence : String) : Prop :=
  rules.isDigits rawSequence = true ∧ ∃ c ∈ rawSequence.toList, rules.decimal? c = none

/-- The line passes the checks in front of the conversion, and its number does not convert. -/
def OddLine (rules : TextRules) (line : String) : Prop :=
  line.length ≤ maxFrameChars ∧ ∃ rawSequence operation arguments,
    PyString.split line fieldSeparator = protocolTag :: rawSequence :: operation :: arguments ∧
      OddSequence rules rawSequence

/-- The host checks the operation and the number of arguments too before it converts. -/
def OddHostLine (line : String) : Prop :=
  line.length ≤ maxFrameChars ∧ ∃ rawSequence operation, ∃ arguments : List String,
    PyString.split line fieldSeparator =
        protocolTag :: rawSequence :: Operation.value operation :: arguments ∧
      arguments.length ≤ maxArguments ∧ OddSequence .cpython rawSequence

theorem not_oddLine_micropython (line : String) : ¬ OddLine .micropython line := by
  rintro ⟨-, rawSequence, operation, arguments, -, hdigits, c, hc, hnone⟩
  simp only [TextRules.isDigits, Bool.and_eq_true, List.all_eq_true] at hdigits
  exact TextRules.micropython_decimal (hdigits.2 c hc) hnone

section Line
variable {rules : TextRules} {line : String} {sequence : ℕ} {operation : Operation}
  {arguments : List String}

theorem value_no_separator (operation : Operation) : fieldSeparator ∉ operation.value.toList := by
  cases operation <;> decide

theorem IsLine.split (hplain : rules.PlainDigits)
    (h : IsLine rules line sequence operation arguments) :
    ∃ rawSequence, rules.isDigits rawSequence = true ∧
      rules.toInt? rawSequence = some (sequence : ℤ) ∧
      PyString.split line fieldSeparator =
        protocolTag :: rawSequence :: operation.value :: arguments := by
  obtain ⟨rawSequence, hdigits, hvalue, rfl⟩ := h.fields
  refine ⟨rawSequence, hdigits, ?_, ?_⟩
  · rw [TextRules.toInt?_digits hplain hdigits, hvalue]
    rfl
  · apply PyString.split_join (List.cons_ne_nil _ _)
    intro part hpart hmem
    simp only [List.mem_cons] at hpart
    rcases hpart with rfl | rfl | rfl | hargument
    · exact absurd hmem (by decide)
    · simp only [TextRules.isDigits, Bool.and_eq_true, List.all_eq_true] at hdigits
      exact (hplain.not_sign fieldSeparator (hdigits.2 _ hmem)).2.2.2 rfl
    · exact value_no_separator operation hmem
    · exact separator_not_allowed ((h.wire part hargument).2 _ hmem)

theorem IsLine.of_split (hplain : rules.PlainDigits) {rawSequence : String} {number : ℤ}
    (hsplit : PyString.split line fieldSeparator =
      protocolTag :: rawSequence :: operation.value :: arguments)
    (hdigits : rules.isDigits rawSequence = true) (hnumber : rules.toInt? rawSequence = some number)
    (hbounded : number < sequenceModulus)
    (harity : operation.arity.1 ≤ arguments.length ∧ arguments.length ≤ operation.arity.2)
    (hwire : ∀ argument ∈ arguments, IsWireArgument argument)
    (hshort : line.length ≤ maxFrameChars) :
    ∃ sequence : ℕ, number = sequence ∧ IsLine rules line sequence operation arguments := by
  rw [TextRules.toInt?_digits hplain hdigits, Option.map_eq_some_iff] at hnumber
  obtain ⟨n, hvalue, rfl⟩ := hnumber
  have hjoin := PyString.join_split line fieldSeparator
  rw [hsplit] at hjoin
  exact ⟨n, rfl, ⟨rawSequence, hdigits, hvalue, hjoin.symm⟩, Int.ofNat_lt.mp hbounded, harity,
    hwire, hshort⟩

theorem IsLine.arguments_le (h : IsLine rules line sequence operation arguments) :
    arguments.length ≤ maxArguments := by
  have hmax : operation.arity.2 ≤ maxArguments := by cases operation <;> decide
  exact h.arity.2.trans hmax

/-- Written with its number in canonical form, a well-formed line is no longer than before. -/
theorem IsLine.isWireFrame (hplain : rules.PlainDigits)
    (h : IsLine rules line sequence operation arguments) :
    IsWireFrame sequence operation arguments := by
  obtain ⟨rawSequence, hdigits, hvalue, hline⟩ := h.fields
  have hnumber : rules.toInt? rawSequence = some (sequence : ℤ) := by
    rw [TextRules.toInt?_digits hplain hdigits, hvalue]
    rfl
  have hdigitsLe : (toString sequence).length ≤ rawSequence.length :=
    TextRules.length_toString_le hplain hdigits hnumber
  have hlength : ∀ text : String, (PyString.join fieldSeparator
      (protocolTag :: text :: operation.value :: arguments)).length =
        protocolTag.length + 1 + text.length + 1 + (PyString.join fieldSeparator
          (operation.value :: arguments)).length := by
    intro text
    rw [PyString.length_join_cons_cons, PyString.length_join_cons_cons]
    omega
  have hshort := h.short
  rw [hline, hlength] at hshort
  refine ⟨Int.natCast_nonneg _, Int.ofNat_lt.mpr h.bounded, h.arity, h.wire, ?_⟩
  have htext : toString (sequence : ℤ) = toString sequence := rfl
  rw [encode, htext, hlength]
  omega

theorem IsLine.not_empty (hplain : rules.PlainDigits)
    (h : IsLine rules line sequence operation arguments) : line ≠ "" := by
  rintro rfl
  obtain ⟨rawSequence, -, -, hsplit⟩ := h.split hplain
  simp [PyString.split] at hsplit

/-- The hub reads every line that the host writes, with the number and the operation of its
frame; the last argument may have lost blanks at its end. -/
theorem IsLine.of_frame (hplain : rules.PlainDigits) (frame : Frame) :
    ∃ (sequence : ℕ) (arguments : List String), frame.sequence = sequence ∧
      IsLine rules (rules.strip frame.encodeLine) sequence frame.operation arguments := by
  have hwire := frame.isWire
  obtain ⟨n, hn⟩ := Int.eq_ofNat_of_zero_le hwire.nonneg
  obtain ⟨front, last, hsplit⟩ := List.eq_nil_or_concat frame.arguments |>.resolve_left
    (arguments_ne_nil hwire)
  rw [List.concat_eq_append] at hsplit
  have hhead : rules.isSpace 'C' = false := rules.not_space_graphic 'C' (by decide) (by decide)
  have hbar : rules.isSpace fieldSeparator = false :=
    rules.not_space_graphic fieldSeparator (by decide) (by decide)
  -- what the hub strips the line to
  let kept : String := String.ofList (last.toList.rdropWhile rules.isSpace)
  have hpush : rules.strip frame.encodeLine = rules.strip frame.text :=
    PyString.stripAll_push rules.space_newline (encodeLine_toList frame)
      ⟨'C', head_mem_text frame, hhead⟩
  have htext : frame.text = PyString.join fieldSeparator
      ((protocolTag :: toString frame.sequence :: frame.operation.value :: front) ++ [last]) := by
    rw [Frame.text, encode, hsplit]
    rfl
  have hstrip : rules.strip frame.text = PyString.join fieldSeparator
      ((protocolTag :: toString frame.sequence :: frame.operation.value :: front) ++ [kept]) := by
    rw [htext]
    apply PyString.stripAll_join_concat hbar (List.cons_ne_nil _ _)
    refine ⟨'C', ?_, hhead⟩
    rw [PyString.join_cons_cons]
    rfl
  have hfront : kept.toList <+: last.toList := by
    rw [String.toList_ofList]
    exact List.rdropWhile_prefix _ _
  have hlast := hwire.wire last (by simp [hsplit])
  have hkept : IsWireArgument kept := by
    refine ⟨?_, fun c hc => hlast.2 c (hfront.subset hc)⟩
    rw [← String.length_toList]
    exact hfront.length_le.trans hlast.1
  refine ⟨n, front ++ [kept], hn, ?_, Int.ofNat_lt.mp (hn ▸ hwire.bounded), ?_, ?_, ?_⟩
  · have hdigits := rules.isDigits_toString n
    have hnumber := rules.toInt?_toString n
    rw [TextRules.toInt?_digits hplain hdigits, Option.map_eq_some_iff] at hnumber
    obtain ⟨m, hvalue, hm⟩ := hnumber
    obtain rfl := Int.ofNat_inj.mp hm
    refine ⟨toString m, hdigits, hvalue, ?_⟩
    rw [hpush, hstrip, hn]
    rfl
  · have harity := hwire.arity
    rw [hsplit, List.length_append, List.length_singleton] at harity
    rw [List.length_append, List.length_singleton]
    exact harity
  · intro argument hargument
    rcases List.mem_append.mp hargument with hfront | hkeptMem
    · exact hwire.wire argument (by simp [hsplit, hfront])
    · obtain rfl := List.mem_singleton.mp hkeptMem
      exact hkept
  · have hshort : frame.text.length ≤ maxFrameChars := hwire.line
    have hjoin := PyString.join_concat fieldSeparator (List.cons_ne_nil protocolTag
      (toString frame.sequence :: frame.operation.value :: front))
    rw [htext, ← String.length_toList, List.cons_append, List.cons_append, List.cons_append]
      at hshort
    rw [hpush, hstrip, ← String.length_toList, hjoin, List.length_append, List.length_cons]
    have hlength := hjoin last
    simp only [List.cons_append] at hlength
    rw [hlength, List.length_append, List.length_cons] at hshort
    have hless := hfront.length_le
    omega

end Line

/-- A line without the characters of a line ending at its ends. -/
def stripLineEnd (line : String) : String :=
  PyString.stripAll (fun c => c == '\r' || c == '\n') line

/-- The host returns the frame of a well-formed line and raises `FrameError` for any other. -/
def DecodesOrRejects (line : String) : Prop :=
  (∃ (frame : Frame) (sequence : ℕ), decode line = .ok frame ∧ frame.sequence = sequence ∧
    IsLine .cpython (stripLineEnd line) sequence frame.operation frame.arguments) ∨
  ((∀ sequence operation arguments,
      ¬ IsLine .cpython (stripLineEnd line) sequence operation arguments) ∧
    ∃ message, decode line = .error (.frame message))

theorem decode_raises {line : String} (hodd : ¬ OddHostLine (stripLineEnd line)) :
    RaisesFrame (decode line) := by
  unfold decode
  apply RaisesFrame.check
  intro _
  apply RaisesFrame.check
  intro hshort
  split
  · rename_i tag rawSequence rawOperation arguments hsplit
    apply RaisesFrame.check
    intro htag
    apply RaisesFrame.check
    intro hdigits
    split
    · exact .frame
    · rename_i operation hoperation
      apply RaisesFrame.check
      intro hcount
      split
      · -- a number that does not convert: one of its digits is odd
        rename_i hnone
        obtain rfl := not_not.mp htag
        have hvalue := Operation.ofValue?_eq_some hoperation
        simp only [Bool.not_eq_true', Bool.not_eq_false] at hdigits
        have hdigit :=
          (TextRules.toInt?_digits_eq_none TextRules.cpython_plainDigits hdigits).mp hnone
        rw [← hvalue] at hsplit
        exact absurd ⟨not_lt.mp hshort, rawSequence, operation, arguments, hsplit,
          not_lt.mp hcount, hdigits, hdigit⟩ hodd
      · exact create_raises
  · exact .frame

theorem decode_odd {line : String} (hodd : OddHostLine (stripLineEnd line)) :
    ∃ message, decode line = .error (.value message) := by
  obtain ⟨hshort, rawSequence, operation, arguments, hsplit, hcount, hdigits, hdigit⟩ := hodd
  have hnone := (TextRules.toInt?_digits_eq_none TextRules.cpython_plainDigits hdigits).mpr hdigit
  have hne : stripLineEnd line ≠ "" := by
    intro hempty
    rw [hempty] at hsplit
    simp [PyString.split] at hsplit
  unfold stripLineEnd at hshort hsplit hne
  simp only [decode, raiseIf, hne, if_false, not_lt.mpr hshort, hsplit, hdigits,
    Operation.ofValue?_value, not_lt.mpr hcount, hnone]
  exact ⟨_, rfl⟩

theorem decode_ok {line : String} {frame : Frame} (h : decode line = .ok frame) :
    ∃ sequence : ℕ, frame.sequence = sequence ∧
      IsLine .cpython (stripLineEnd line) sequence frame.operation frame.arguments := by
  simp only [decode, seq_eq_ok, raiseIf_eq_ok] at h
  obtain ⟨-, hshort, h⟩ := h
  split at h
  · rename_i tag rawSequence rawOperation arguments hsplit
    simp only [seq_eq_ok, raiseIf_eq_ok, not_not] at h
    obtain ⟨rfl, hdigits, h⟩ := h
    split at h
    · cases h
    · rename_i operation hoperation
      simp only [seq_eq_ok] at h
      obtain ⟨-, h⟩ := h
      split at h
      · cases h
      · rename_i number hnumber
        obtain ⟨rfl, rfl, rfl⟩ := create_eq_ok.mp h
        obtain rfl := Operation.ofValue?_eq_some hoperation
        simp only [Bool.not_eq_true', Bool.not_eq_false] at hdigits
        have hwire := frame.isWire
        exact IsLine.of_split TextRules.cpython_plainDigits hsplit hdigits hnumber hwire.bounded
          hwire.arity hwire.wire (not_lt.mp hshort)
  · cases h

theorem decode_of_isLine {line : String} {sequence : ℕ} {operation : Operation}
    {arguments : List String}
    (h : IsLine .cpython (stripLineEnd line) sequence operation arguments) :
    ∃ frame, decode line = .ok frame := by
  have hplain := TextRules.cpython_plainDigits
  obtain ⟨rawSequence, hdigits, hnumber, hsplit⟩ := h.split hplain
  have hne := h.not_empty hplain
  have hshort := not_lt.mpr h.short
  have hcreate : ∃ frame, Frame.create sequence operation arguments = .ok frame :=
    ⟨⟨_, _, _, validateFrame_ok.mpr (h.isWireFrame hplain)⟩, create_eq_ok.mpr ⟨rfl, rfl, rfl⟩⟩
  obtain ⟨frame, hframe⟩ := hcreate
  unfold stripLineEnd at hne hshort hsplit
  refine ⟨frame, ?_⟩
  simp only [decode, seq_eq_ok, raiseIf_eq_ok]
  refine ⟨hne, hshort, ?_⟩
  rw [fieldSeparator] at hsplit
  simp only [fieldSeparator, hsplit, seq_eq_ok, raiseIf_eq_ok, hdigits, Operation.ofValue?_value,
    hnumber]
  exact ⟨not_not.mpr rfl, by decide, not_lt.mpr h.arguments_le, hframe⟩

theorem decodesOrRejects_iff (line : String) :
    DecodesOrRejects line ↔ ¬ OddHostLine (stripLineEnd line) := by
  constructor
  · rintro (⟨frame, sequence, hok, -⟩ | ⟨-, message, herror⟩) hodd
    · obtain ⟨message, hvalue⟩ := decode_odd hodd
      rw [hok] at hvalue
      cases hvalue
    · obtain ⟨other, hvalue⟩ := decode_odd hodd
      rw [herror] at hvalue
      cases hvalue
  · intro hodd
    cases hdecode : decode line with
    | ok frame =>
      obtain ⟨sequence, hsequence, hline⟩ := decode_ok hdecode
      exact .inl ⟨frame, sequence, hdecode, hsequence, hline⟩
    | error e =>
      obtain ⟨message, rfl⟩ := decode_raises hodd e hdecode
      refine .inr ⟨?_, message, hdecode⟩
      intro sequence operation arguments hline
      obtain ⟨frame, hok⟩ := decode_of_isLine hline
      rw [hdecode] at hok
      cases hok

namespace Hub

theorem decodeFrame_raises {rules : TextRules} (hplain : rules.PlainDigits) {line : String}
    (hodd : ¬ OddLine rules (rules.strip line)) : RaisesFrame (decodeFrame rules line) := by
  unfold decodeFrame
  apply RaisesFrame.check
  intro _
  apply RaisesFrame.check
  intro hshort
  split
  · rename_i tag rawSequence operation arguments hsplit
    apply RaisesFrame.check
    intro htag
    apply RaisesFrame.check
    intro hdigits
    split
    · rename_i hnone
      obtain rfl := not_not.mp htag
      simp only [Bool.not_eq_true', Bool.not_eq_false] at hdigits
      have hdigit := (TextRules.toInt?_digits_eq_none hplain hdigits).mp hnone
      exact absurd ⟨not_lt.mp hshort, rawSequence, operation, arguments, hsplit, hdigits, hdigit⟩
        hodd
    · apply RaisesFrame.check
      intro _
      split
      · exact .frame
      · apply RaisesFrame.check
        intro _
        apply RaisesFrame.check
        intro _
        apply RaisesFrame.bind
        · exact .forM checkArgument_raises
        · exact fun _ _ => .ok
  · exact .frame

theorem decodeFrame_odd {rules : TextRules} (hplain : rules.PlainDigits) {line : String}
    (hodd : OddLine rules (rules.strip line)) :
    ∃ message, decodeFrame rules line = .error (.value message) := by
  obtain ⟨hshort, rawSequence, operation, arguments, hsplit, hdigits, hdigit⟩ := hodd
  have hnone := (TextRules.toInt?_digits_eq_none hplain hdigits).mpr hdigit
  have hne : rules.strip line ≠ "" := by
    intro hempty
    rw [hempty] at hsplit
    simp [PyString.split] at hsplit
  rw [fieldSeparator] at hsplit
  simp only [decodeFrame, raiseIf, hne, if_false, not_lt.mpr hshort, hsplit, hdigits, hnone]
  exact ⟨_, rfl⟩

theorem decodeFrame_isLine {rules : TextRules} (hplain : rules.PlainDigits)
    {line operation : String} {number : ℤ} {arguments : List String}
    (h : decodeFrame rules line = .ok (number, operation, arguments)) :
    ∃ (sequence : ℕ) (op : Operation), number = sequence ∧ op.value = operation ∧
      IsLine rules (rules.strip line) sequence op arguments := by
  simp only [decodeFrame, seq_eq_ok, raiseIf_eq_ok] at h
  obtain ⟨-, hshort, h⟩ := h
  split at h
  · rename_i tag rawSequence rawOperation rawArguments hsplit
    simp only [seq_eq_ok, raiseIf_eq_ok, not_not] at h
    obtain ⟨rfl, hdigits, h⟩ := h
    split at h
    · cases h
    · rename_i read hnumber
      simp only [seq_eq_ok, raiseIf_eq_ok, not_le, lookup_arity] at h
      obtain ⟨hbounded, h⟩ := h
      cases hop : Operation.ofValue? rawOperation with
      | none => simp [hop] at h
      | some op =>
        obtain rfl := Operation.ofValue?_eq_some hop
        simp only [hop, Option.map_some, seq_eq_ok, raiseIf_eq_ok, forM_eq_ok_iff,
          checkArgument_ok, not_or, not_lt] at h
        obtain ⟨-, harity, hwire, hpure⟩ := h
        cases hpure
        simp only [Bool.not_eq_true', Bool.not_eq_false] at hdigits
        obtain ⟨sequence, hsequence, hline⟩ := IsLine.of_split hplain hsplit hdigits hnumber
          hbounded harity hwire (not_lt.mp hshort)
        exact ⟨sequence, op, hsequence, rfl, hline⟩
  · cases h

theorem decodeFrame_of_isLine {rules : TextRules} (hplain : rules.PlainDigits) {line : String}
    {sequence : ℕ} {operation : Operation} {arguments : List String}
    (h : IsLine rules (rules.strip line) sequence operation arguments) :
    decodeFrame rules line = .ok ((sequence : ℤ), operation.value, arguments) := by
  obtain ⟨rawSequence, hdigits, hnumber, hsplit⟩ := h.split hplain
  have hne := h.not_empty hplain
  have hshort := not_lt.mpr h.short
  have hbounded : ¬ (sequenceModulus : ℤ) ≤ sequence := not_le.mpr (Int.ofNat_lt.mpr h.bounded)
  rw [fieldSeparator] at hsplit
  simp only [decodeFrame, seq_eq_ok, raiseIf_eq_ok]
  refine ⟨hne, hshort, ?_⟩
  simp only [hsplit, seq_eq_ok, raiseIf_eq_ok, hdigits, hnumber, lookup_arity,
    Operation.ofValue?_value, Option.map_some, forM_eq_ok_iff, checkArgument_ok, not_or, not_lt]
  exact ⟨not_not.mpr rfl, by decide, hbounded, h.arguments_le, h.arity, h.wire, rfl⟩

section Handlers
variable {rules : TextRules} {machine : HubMachine} {readings : HubReadings}
  {arguments : List String}

/-- What the hub does with the fields of a line that is a frame. -/
def execute (rules : TextRules) (machine : HubMachine) (readings : HubReadings) (now sequence : ℤ)
    (operation : Operation) (arguments : List String) : HubM (List String) := do
  Effect.update fun agent => { agent with lastFrameAt := now }
  Effect.rescue (dispatch rules machine readings sequence operation.value arguments) fun
    | .frame _ => do return [← error sequence "BAD_ARGUMENT"]
    | e => throw e

/-- A report about a sequence number is always sent. -/
theorem error_returns {number : ℤ} {code : String} (hcode : IsWireArgument code)
    (hnonneg : 0 ≤ number) (hbounded : number < sequenceModulus) (agent : HubAgent) :
    ∃ line, encodeFrame ((agent.sequence + 1) % sequenceModulus) "ERROR" [toString number, code] =
        .ok line ∧
      (do return [← error number code] : HubM (List String)) agent =
        .ok [line] { agent with sequence := (agent.sequence + 1) % sequenceModulus } := by
  obtain ⟨line, hline⟩ := error_encodes ((agent.sequence + 1) % sequenceModulus) hcode hnonneg
    hbounded
  refine ⟨line, hline, ?_⟩
  have hemit := emit_eq hline
  change EStateM.bind (emit "ERROR" [toString number, code]) _ agent = _
  simp only [EStateM.bind, hemit]
  rfl

theorem execute_returns {now : ℤ} {line : String} {sequence : ℕ} {operation : Operation}
    (h : IsLine rules line sequence operation arguments) (agent : HubAgent) :
    ∃ replies agent', execute rules machine readings now sequence operation arguments agent =
      .ok replies agent' := by
  have hentry : arity.lookup operation.value = some (operation.arity.1, operation.arity.2) := by
    rw [lookup_arity, Operation.ofValue?_value]
    rfl
  have hcode : IsWireArgument "BAD_ARGUMENT" := ⟨by decide, by decide⟩
  have hreturns : Effect.Triple (fun _ => True)
      (execute rules machine readings now sequence operation arguments)
      (fun _ _ => True) (fun _ _ => False) := by
    apply Effect.Triple.bind (Q := fun _ _ => True)
    · exact Effect.Triple.update fun _ _ => trivial
    intro _
    apply Effect.Triple.rescue ((dispatch_answers (sequence : ℤ) hentry h.arity.1).conseq
      (fun _ h => h) (fun _ _ _ => trivial) fun _ _ h => h)
    intro e
    rintro after ⟨message, rfl⟩
    obtain ⟨reply, -, hreply⟩ := error_returns hcode (Int.natCast_nonneg sequence)
      (Int.ofNat_lt.mpr h.bounded) after
    simp only [hreply]
  have hresult := hreturns agent trivial
  split at hresult
  · rename_i replies agent' hok
    exact ⟨replies, agent', hok⟩
  · exact hresult.elim

/-- The hub executes a well-formed line, and answers any other with a report and no act. -/
def HandlesOrRefuses (rules : TextRules) (machine : HubMachine) (readings : HubReadings)
    (line : String) (now : ℤ) (agent : HubAgent) : Prop :=
  (∃ (sequence : ℕ) (operation : Operation) (arguments : List String)
      (replies : List String) (agent' : HubAgent),
    IsLine rules (rules.strip line) sequence operation arguments ∧
    handleLine rules machine readings line now agent = .ok replies agent' ∧
    execute rules machine readings now sequence operation arguments agent = .ok replies agent') ∨
  ((∀ sequence operation arguments,
      ¬ IsLine rules (rules.strip line) sequence operation arguments) ∧
    ∃ report, encodeFrame ((agent.sequence + 1) % sequenceModulus) "ERROR" ["0", "BAD_FRAME"] =
        .ok report ∧
      handleLine rules machine readings line now agent =
        .ok [report] { agent with sequence := (agent.sequence + 1) % sequenceModulus })

theorem handlesOrRefuses_iff (hplain : rules.PlainDigits) (line : String) (now : ℤ)
    (agent : HubAgent) : HandlesOrRefuses rules machine readings line now agent ↔
      ¬ OddLine rules (rules.strip line) := by
  constructor
  · intro hhandles hodd
    obtain ⟨message, hvalue⟩ := decodeFrame_odd hplain hodd
    have hraises : handleLine rules machine readings line now agent =
        .error (.value message) agent := by
      simp only [handleLine, hvalue]
      rfl
    rcases hhandles with ⟨_, _, _, replies, agent', -, hok, -⟩ | ⟨-, report, -, hok⟩
    · rw [hraises] at hok
      cases hok
    · rw [hraises] at hok
      cases hok
  · intro hodd
    cases hdecode : decodeFrame rules line with
    | ok fields =>
      obtain ⟨number, operation, arguments⟩ := fields
      obtain ⟨sequence, op, rfl, rfl, hline⟩ := decodeFrame_isLine hplain hdecode
      have hreturns : ∃ replies agent', execute rules machine readings now sequence op arguments
          agent = .ok replies agent' := execute_returns hline agent
      obtain ⟨replies, agent', hexecute⟩ := hreturns
      refine .inl ⟨sequence, op, arguments, replies, agent', hline, ?_, hexecute⟩
      simp only [handleLine, hdecode]
      exact hexecute
    | error e =>
      obtain ⟨message, rfl⟩ := decodeFrame_raises hplain hodd e hdecode
      have hcode : IsWireArgument "BAD_FRAME" := ⟨by decide, by decide⟩
      have hzero : (0 : ℤ) < sequenceModulus := by decide
      obtain ⟨report, hreport, hanswer⟩ := error_returns hcode le_rfl hzero agent
      refine .inr ⟨?_, report, hreport, ?_⟩
      · intro sequence operation arguments hline
        rw [decodeFrame_of_isLine hplain hline] at hdecode
        cases hdecode
      · simp only [handleLine, hdecode]
        exact hanswer

end Handlers

end Hub

/-- A line is decoded or refused, and executed or refused, exactly when its sequence number has no
digit that is no decimal; MicroPython has no such digit. -/
theorem malformed_lines_refused_iff {rules : TextRules} (hrules : rules ∈ TextRules.interpreters)
    (machine : Hub.HubMachine) (readings : Hub.HubReadings) (line : String) (now : ℤ)
    (agent : HubAgent) :
    (DecodesOrRejects line ↔ ¬ OddHostLine (stripLineEnd line)) ∧
    (Hub.HandlesOrRefuses rules machine readings line now agent ↔
      ¬ OddLine rules (rules.strip line)) ∧
    ¬ OddLine .micropython line := by
  refine ⟨decodesOrRejects_iff line, ?_, not_oddLine_micropython line⟩
  exact Hub.handlesOrRefuses_iff (TextRules.plainDigits_of_mem hrules) line now agent

/-- A heartbeat, on an agent that CPython runs. -/
theorem malformed_lines_refused_cpython :
    Hub.HandlesOrRefuses .cpython Hub.robot Hub.idle "C1|7|HEARTBEAT|1" 20
      (HubAgent.initial 500) := by
  have hrules : TextRules.cpython ∈ TextRules.interpreters := List.mem_cons_self
  apply (malformed_lines_refused_iff hrules Hub.robot Hub.idle _ _ _).2.1.mpr
  rintro ⟨-, rawSequence, operation, arguments, hsplit, -, c, hc, hnone⟩
  have hfields : PyString.split (TextRules.cpython.strip "C1|7|HEARTBEAT|1") fieldSeparator =
      ["C1", "7", "HEARTBEAT", "1"] := by decide
  rw [hfields] at hsplit
  obtain ⟨-, rfl, -⟩ : "C1" = protocolTag ∧ "7" = rawSequence ∧ _ := by simpa using hsplit
  obtain rfl : c = '7' := by simpa using hc
  exact absurd hnone (by decide)

/-- A superscript in the place of the sequence number is a digit, and no number. -/
theorem superscript_raises : ¬ DecodesOrRejects "C1|²|HEARTBEAT|1" := by
  have hvalue : (match decode "C1|²|HEARTBEAT|1" with
      | .error (.value _) => true
      | _ => false) = true := by decide
  rintro (⟨frame, sequence, hok, -⟩ | ⟨-, message, herror⟩)
  · rw [hok] at hvalue
    cases hvalue
  · rw [herror] at hvalue
    cases hvalue

end CitPhysicalXR.Lego
