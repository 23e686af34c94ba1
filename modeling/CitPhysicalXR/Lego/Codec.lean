import CitPhysicalXR.Lego.HubAgent

/-! The two codecs agree on every frame whose last argument does not end in a blank: the hub
strips the whole line before it splits it, the host only the line ending. -/
namespace CitPhysicalXR.Lego
open Foundation

theorem lookup_map_eq_find {α β : Type*} (key : α → String) (f : α → β) (l : List α)
    (text : String) :
    (l.map fun a => (key a, f a)).lookup text = (l.find? fun a => key a = text).map f := by
  induction l with
  | nil => rfl
  | cons a l ih =>
    by_cases h : key a = text
    · simp [h]
    · have hne : (text == key a) = false := by simpa using fun heq => h heq.symm
      simp [List.lookup_cons, h, hne, ih]

/-- The firmware's table by name is the host's table by operation. -/
theorem lookup_arity (operation : String) :
    Hub.arity.lookup operation = (Operation.ofValue? operation).map Operation.arity := by
  have htable : Hub.arity = Operation.all.map fun op => (op.value, op.arity) := rfl
  rw [htable]
  exact lookup_map_eq_find Operation.value Operation.arity Operation.all operation

/-- What both sides ask of an argument. -/
def IsWireArgument (argument : String) : Prop :=
  argument.length ≤ maxArgumentChars ∧ ∀ c ∈ argument.toList, c ∈ allowedArgumentChars

theorem illegalChars_eq_nil {argument : String} :
    illegalChars argument = [] ↔ ∀ c ∈ argument.toList, c ∈ allowedArgumentChars := by
  have hperm := List.perm_insertionSort (fun a b : Char => a.toNat ≤ b.toNat)
    (argument.toList.filter fun c => c ∉ allowedArgumentChars).dedup
  rw [illegalChars]
  constructor
  · intro hnil c hc
    rw [hnil] at hperm
    have hempty := hperm.symm.eq_nil
    by_contra hbad
    have hmem : c ∈ (argument.toList.filter fun c => c ∉ allowedArgumentChars).dedup := by
      simp [hc, hbad]
    rw [hempty] at hmem
    cases hmem
  · intro hall
    have hfilter : argument.toList.filter (fun c => c ∉ allowedArgumentChars) = [] := by
      rw [List.filter_eq_nil_iff]
      intro c hc
      simp [hall c hc]
    rw [hfilter]
    rfl

theorem validateArgument_ok {argument : String} :
    validateArgument argument = .ok () ↔ IsWireArgument argument := by
  simp only [validateArgument, seq_eq_ok, raiseIf_eq_ok, not_lt, not_not, illegalChars_eq_nil]
  rfl

theorem checkArgument_ok {argument : String} :
    Hub.checkArgument argument = .ok () ↔ IsWireArgument argument := by
  simp only [Hub.checkArgument, seq_eq_ok, raiseIf_eq_ok, not_lt, List.any_eq_true,
    decide_eq_true_eq, not_exists, not_and, not_not]
  rfl

structure IsWireFrame (sequence : ℤ) (operation : Operation) (arguments : List String) : Prop where
  nonneg : 0 ≤ sequence
  bounded : sequence < sequenceModulus
  arity : operation.arity.1 ≤ arguments.length ∧ arguments.length ≤ operation.arity.2
  wire : ∀ argument ∈ arguments, IsWireArgument argument
  line : (encode sequence operation arguments).length ≤ maxFrameChars

theorem validateFrame_ok {sequence : ℤ} {operation : Operation} {arguments : List String} :
    validateFrame sequence operation arguments = .ok () ↔
      IsWireFrame sequence operation arguments := by
  simp only [validateFrame, validateSequence, seq_eq_ok, raiseIf_eq_ok, not_not,
    forM_eq_ok_iff, validateArgument_ok, not_lt]
  constructor
  · intro h
    exact ⟨h.1.1, h.1.2, h.2.1, h.2.2.1, h.2.2.2⟩
  · intro h
    exact ⟨⟨h.nonneg, h.bounded⟩, h.arity, h.wire, h.line⟩

theorem Frame.isWire (frame : Frame) :
    IsWireFrame frame.sequence frame.operation frame.arguments :=
  validateFrame_ok.mp frame.valid

theorem allowed_graphic (c : Char) (hc : c ∈ allowedArgumentChars) :
    c = ' ' ∨ (33 ≤ c.toNat ∧ c.toNat ≤ 126) := by
  have hall : allowedArgumentChars.all
      (fun c => decide (c = ' ' ∨ (33 ≤ c.toNat ∧ c.toNat ≤ 126))) = true := by decide
  exact of_decide_eq_true (List.all_eq_true.mp hall c hc)

theorem separator_not_allowed : fieldSeparator ∉ allowedArgumentChars := by
  decide

def wireParts (sequence : ℤ) (operation : Operation) (arguments : List String) : List String :=
  protocolTag :: toString sequence :: operation.value :: arguments

section Line
variable {sequence : ℤ} {operation : Operation} {arguments : List String}

theorem encode_eq : encode sequence operation arguments =
    PyString.join fieldSeparator (wireParts sequence operation arguments) := rfl

/-- Every field of a line is written in the alphabet of the arguments. -/
theorem wireParts_allowed (h : IsWireFrame sequence operation arguments) :
    ∀ part ∈ wireParts sequence operation arguments, ∀ c ∈ part.toList,
      c ∈ allowedArgumentChars := by
  have htag : protocolTag.toList.all (fun c => c ∈ allowedArgumentChars) = true := by decide
  have hdigits : ∀ d < 10, Nat.digitChar d ∈ allowedArgumentChars := by decide
  have hvalue : operation.value.toList.all (fun c => c ∈ allowedArgumentChars) = true := by
    cases operation <;> decide
  intro part hpart c hc
  simp only [wireParts, List.mem_cons] at hpart
  rcases hpart with rfl | rfl | rfl | hargument
  · exact of_decide_eq_true (List.all_eq_true.mp htag c hc)
  · obtain ⟨n, rfl⟩ := Int.eq_ofNat_of_zero_le h.nonneg
    have htext : toString (Int.ofNat n) = toString n := rfl
    have hmem : c ∈ Nat.toDigits 10 n := by
      rw [Int.ofNat_eq_natCast] at htext
      simpa [htext] using hc
    obtain ⟨d, hd, rfl⟩ := PyString.mem_toDigits hmem
    exact hdigits d hd
  · exact of_decide_eq_true (List.all_eq_true.mp hvalue c hc)
  · exact (h.wire part hargument).2 c hc

theorem split_encode (h : IsWireFrame sequence operation arguments) :
    PyString.split (encode sequence operation arguments) fieldSeparator =
      wireParts sequence operation arguments := by
  apply PyString.split_join (List.cons_ne_nil _ _)
  intro part hpart hmem
  exact separator_not_allowed (wireParts_allowed h part hpart _ hmem)

theorem mem_encode (h : IsWireFrame sequence operation arguments) {c : Char}
    (hc : c ∈ (encode sequence operation arguments).toList) :
    c = ' ' ∨ (33 ≤ c.toNat ∧ c.toNat ≤ 126) := by
  rcases PyString.mem_join hc with rfl | ⟨part, hpart, hc⟩
  · exact .inr (by decide)
  · exact allowed_graphic c (wireParts_allowed h part hpart c hc)

theorem encode_head : (encode sequence operation arguments).toList.head? = some 'C' := by
  rw [encode_eq, wireParts, PyString.join_cons_cons]
  rfl

theorem encode_getLast? {last : String} (hlast : arguments.getLast? = some last) :
    (encode sequence operation arguments).toList.getLast? =
      some (last.toList.getLast?.getD fieldSeparator) := by
  obtain ⟨front, rfl⟩ := List.getLast?_eq_some_iff.mp hlast
  have hparts : wireParts sequence operation (front ++ [last]) =
      wireParts sequence operation front ++ [last] := rfl
  have hne : wireParts sequence operation front ≠ [] := List.cons_ne_nil _ _
  rw [encode_eq, hparts, PyString.join_concat _ hne]
  cases htext : last.toList with
  | nil => simp
  | cons c rest =>
    simp [List.getLast?_append, List.getLast?_cons]

theorem arguments_ne_nil (h : IsWireFrame sequence operation arguments) : arguments ≠ [] := by
  have hpos : 1 ≤ operation.arity.1 := by cases operation <;> decide
  have hlength := h.arity.1
  intro hnil
  simp [hnil] at hlength
  omega

end Line

def Frame.EndsInBlank (frame : Frame) : Prop :=
  (frame.arguments.getLast?.bind fun last => last.toList.getLast?) = some ' '

instance (frame : Frame) : Decidable frame.EndsInBlank := inferInstanceAs (Decidable (_ = _))

namespace Frame
variable (frame : Frame)

/-- The line of a frame, without its terminator. -/
def text : String := encode frame.sequence frame.operation frame.arguments

theorem getLast?_text : ∃ c, frame.text.toList.getLast? = some c ∧
    (c = ' ' ↔ frame.EndsInBlank) := by
  obtain ⟨front, last, hsplit⟩ := List.eq_nil_or_concat frame.arguments |>.resolve_left
    (arguments_ne_nil frame.isWire)
  have hlast : frame.arguments.getLast? = some last := by simp [hsplit]
  refine ⟨_, encode_getLast? hlast, ?_⟩
  rw [EndsInBlank, hlast, Option.bind_some]
  cases last.toList.getLast? with
  | none => simp [fieldSeparator]
  | some c => simp

end Frame

/-- The host parses the line of a frame, whatever line ending follows it. -/
theorem decode_of_strip {frame : Frame} {line : String}
    (h : PyString.stripAll (fun c => c == '\r' || c == '\n') line = frame.text) :
    decode line = .ok frame := by
  have hwire := frame.isWire
  have hne : frame.text ≠ "" := by
    intro hnil
    have hhead : frame.text.toList.head? = some 'C' := encode_head
    simp [hnil] at hhead
  have hsplit : PyString.split frame.text fieldSeparator =
      wireParts frame.sequence frame.operation frame.arguments := split_encode hwire
  have hlength : ¬ maxFrameChars < frame.text.length := not_lt.mpr hwire.line
  have hmax : frame.operation.arity.2 ≤ maxArguments := by cases frame.operation <;> decide
  have hcount : ¬ maxArguments < frame.arguments.length := not_lt.mpr (hwire.arity.2.trans hmax)
  obtain ⟨n, hn⟩ := Int.eq_ofNat_of_zero_le hwire.nonneg
  have hdigits : TextRules.cpython.isDigits (toString frame.sequence) = true := by
    rw [hn]
    exact TextRules.cpython.isDigits_toString n
  have hint : TextRules.cpython.toInt? (toString frame.sequence) = some frame.sequence := by
    rw [hn]
    exact TextRules.cpython.toInt?_toString n
  simp only [decode, h, seq_eq_ok, raiseIf_eq_ok, hsplit]
  refine ⟨hne, hlength, ?_⟩
  simp only [wireParts, seq_eq_ok, raiseIf_eq_ok, Operation.ofValue?_value, hint]
  refine ⟨not_not.mpr rfl, ?_, hcount, frame.create_self⟩
  rw [hdigits]
  decide

theorem text_no_lineEnd (frame : Frame) {c : Char} (hc : c ∈ frame.text.toList) :
    (c == '\r' || c == '\n') = false := by
  have hgraphic := mem_encode frame.isWire hc
  rw [Bool.or_eq_false_iff, beq_eq_false_iff_ne, beq_eq_false_iff_ne]
  constructor <;>
  · rintro rfl
    exact absurd hgraphic (by decide)

theorem stripLineEnd_text (frame : Frame) :
    PyString.stripAll (fun c => c == '\r' || c == '\n') frame.text = frame.text := by
  apply PyString.stripAll_eq_self
  · intro c hc
    exact text_no_lineEnd frame (List.mem_of_mem_head? hc)
  · intro c hc
    exact text_no_lineEnd frame (List.mem_of_getLast? hc)

theorem encodeLine_toList (frame : Frame) :
    frame.encodeLine.toList = frame.text.toList ++ ['\n'] := by
  rw [Frame.encodeLine, String.toList_append]
  rfl

theorem head_mem_text (frame : Frame) : 'C' ∈ frame.text.toList :=
  List.mem_of_mem_head? encode_head

theorem decode_encodeLine (frame : Frame) : decode frame.encodeLine = .ok frame := by
  apply decode_of_strip
  have hpush := PyString.stripAll_push (p := fun c => c == '\r' || c == '\n') (c := '\n') rfl
    (encodeLine_toList frame) ⟨'C', head_mem_text frame, rfl⟩
  rw [hpush]
  exact stripLineEnd_text frame

theorem encodeFrame_ok {sequence : ℤ} {operation line : String} {arguments : List String}
    (h : Hub.encodeFrame sequence operation arguments = .ok line) :
    ∃ frame : Frame, frame.sequence = sequence % sequenceModulus ∧
      frame.operation.value = operation ∧ frame.arguments = arguments ∧ frame.text = line := by
  unfold Hub.encodeFrame at h
  rw [lookup_arity] at h
  cases hop : Operation.ofValue? operation with
  | none => simp [hop] at h
  | some op =>
    obtain rfl := Operation.ofValue?_eq_some hop
    simp only [hop, Option.map_some, seq_eq_ok, raiseIf_eq_ok, forM_eq_ok_iff, checkArgument_ok,
      not_or, not_lt] at h
    obtain ⟨harity, hwire, hline, hpure⟩ := h
    have hmod : (0 : ℤ) < sequenceModulus := by decide
    have hframe : IsWireFrame (sequence % sequenceModulus) op arguments :=
      { nonneg := Int.emod_nonneg _ hmod.ne'
        bounded := Int.emod_lt_of_pos _ hmod
        arity := harity
        wire := hwire
        line := hline }
    exact ⟨⟨_, op, arguments, validateFrame_ok.mpr hframe⟩, rfl, rfl, rfl, Except.ok.inj hpure⟩

theorem decodeFrame_of_strip (rules : TextRules) {frame : Frame} {line : String}
    (h : rules.strip line = frame.text) : Hub.decodeFrame rules line =
      .ok (frame.sequence, frame.operation.value, frame.arguments) := by
  have hwire := frame.isWire
  have hne : frame.text ≠ "" := by
    intro hnil
    have hmem := head_mem_text frame
    simp [hnil] at hmem
  have hsplit : PyString.split frame.text '|' =
      wireParts frame.sequence frame.operation frame.arguments := split_encode hwire
  have hlength : ¬ maxFrameChars < frame.text.length := not_lt.mpr hwire.line
  have hmax : frame.operation.arity.2 ≤ maxArguments := by cases frame.operation <;> decide
  have hcount : ¬ maxArguments < frame.arguments.length := not_lt.mpr (hwire.arity.2.trans hmax)
  have hbound : ¬ (sequenceModulus : ℤ) ≤ frame.sequence := not_le.mpr hwire.bounded
  obtain ⟨n, hn⟩ := Int.eq_ofNat_of_zero_le hwire.nonneg
  have hdigits : rules.isDigits (toString frame.sequence) = true := by
    rw [hn]
    exact rules.isDigits_toString n
  have hint : rules.toInt? (toString frame.sequence) = some frame.sequence := by
    rw [hn]
    exact rules.toInt?_toString n
  simp only [Hub.decodeFrame, h, seq_eq_ok, raiseIf_eq_ok, hsplit]
  refine ⟨hne, hlength, ?_⟩
  simp only [wireParts, seq_eq_ok, raiseIf_eq_ok, hint, lookup_arity, Operation.ofValue?_value,
    Option.map_some, forM_eq_ok_iff, checkArgument_ok, not_or, not_lt]
  refine ⟨not_not.mpr rfl, ?_, hbound, not_lt.mp hcount, hwire.arity, hwire.wire, rfl⟩
  rw [hdigits]
  decide

/-- A line that the hub parses is the stripped line with its fields joined again. -/
theorem decodeFrame_ok {rules : TextRules} {line operation : String} {sequence : ℤ}
    {arguments : List String} (h : Hub.decodeFrame rules line = .ok (sequence, operation, arguments)) :
    ∃ rawSequence, rules.strip line =
      PyString.join '|' (protocolTag :: rawSequence :: operation :: arguments) := by
  have hjoin := PyString.join_split (rules.strip line) '|'
  simp only [Hub.decodeFrame, seq_eq_ok, raiseIf_eq_ok] at h
  obtain ⟨-, -, h⟩ := h
  split at h
  · rename_i tag rawSequence rawOperation rawArguments hsplit
    simp only [seq_eq_ok, raiseIf_eq_ok, not_not] at h
    obtain ⟨htag, -, h⟩ := h
    split at h
    · cases h
    · simp only [seq_eq_ok] at h
      obtain ⟨-, h⟩ := h
      split at h
      · cases h
      · simp only [seq_eq_ok] at h
        obtain ⟨-, -, -, hpure⟩ := h
        cases hpure
        rw [hsplit, htag] at hjoin
        exact ⟨rawSequence, hjoin.symm⟩
  · cases h

/-- The hub parses the line of a frame into its fields exactly when the last argument does not
end in a blank. -/
theorem decodeFrame_encodeLine (rules : TextRules) (frame : Frame) :
    Hub.decodeFrame rules frame.encodeLine =
      .ok (frame.sequence, frame.operation.value, frame.arguments) ↔ ¬ frame.EndsInBlank := by
  have hhead : rules.isSpace 'C' = false := rules.not_space_graphic 'C' (by decide) (by decide)
  have hpush : rules.strip frame.encodeLine = rules.strip frame.text :=
    PyString.stripAll_push rules.space_newline (encodeLine_toList frame)
      ⟨'C', head_mem_text frame, hhead⟩
  obtain ⟨last, hlast, hblank⟩ := frame.getLast?_text
  constructor
  · intro hdecode hends
    -- the hub's line ends with the last argument, but no stripped line ends in a blank
    obtain ⟨rawSequence, hline⟩ := decodeFrame_ok hdecode
    obtain ⟨front, argument, hsplit⟩ := List.eq_nil_or_concat frame.arguments |>.resolve_left
      (arguments_ne_nil frame.isWire)
    have hend : argument.toList.getLast? = some ' ' := by simpa [Frame.EndsInBlank, hsplit] using hends
    have hconcat := PyString.join_concat '|' (List.cons_ne_nil protocolTag
      (rawSequence :: frame.operation.value :: front)) argument
    have htext : (rules.strip frame.encodeLine).toList.getLast? = some ' ' := by
      rw [hline, hsplit]
      simp only [List.concat_eq_append, List.cons_append] at hconcat ⊢
      rw [hconcat, List.getLast?_append, List.getLast?_cons, hend]
      rfl
    have hnot := PyString.stripAll_last (p := rules.isSpace) (c := ' ') htext
    rw [rules.space_blank] at hnot
    cases hnot
  · intro hends
    apply decodeFrame_of_strip
    rw [hpush]
    apply PyString.stripAll_eq_self
    · intro c hc
      have hfirst : frame.text.toList.head? = some 'C' := encode_head
      obtain rfl : 'C' = c := by simpa [hfirst] using hc
      exact hhead
    · intro c hc
      obtain rfl : last = c := by simpa [hlast] using hc
      have hne : last ≠ ' ' := fun heq => hends (hblank.mp heq)
      have hgraphic := mem_encode frame.isWire (List.mem_of_getLast? hlast)
      obtain ⟨hlow, hhigh⟩ := hgraphic.resolve_left hne
      exact rules.not_space_graphic last hlow hhigh

/-- The codecs agree: the host on its own lines and on the hub's lines always, the hub on the
host's lines for the frames that do not end in a blank. -/
theorem codecs_agree (rules : TextRules) :
    (∀ frame : Frame, Hub.decodeFrame rules frame.encodeLine =
      .ok (frame.sequence, frame.operation.value, frame.arguments) ↔ ¬ frame.EndsInBlank) ∧
    (∀ (sequence : ℤ) (operation : String) (arguments : List String) (line : String),
      Hub.encodeFrame sequence operation arguments = .ok line →
      ∃ frame : Frame, decode line = .ok frame ∧ frame.sequence = sequence % sequenceModulus ∧
        frame.operation.value = operation ∧ frame.arguments = arguments) ∧
    ∀ frame : Frame, decode frame.encodeLine = .ok frame := by
  refine ⟨decodeFrame_encodeLine rules, ?_, decode_encodeLine⟩
  intro sequence operation arguments line h
  obtain ⟨frame, hsequence, hoperation, harguments, rfl⟩ := encodeFrame_ok h
  exact ⟨frame, decode_of_strip (stripLineEnd_text frame), hsequence, hoperation, harguments⟩

/-- The first 24 characters of a longer text, which end in a blank. -/
def greeting : Frame where
  sequence := 4
  operation := .display
  arguments := ["Hello from the LEGO hub "]
  valid := by rfl

/-- A text that was cut after a blank loses the blank on its way to the hub. -/
theorem codecs_disagree :
    (Hub.decodeFrame .micropython greeting.encodeLine).toOption =
      some (4, "DISPLAY", ["Hello from the LEGO hub"]) ∧
    Hub.decodeFrame .micropython greeting.encodeLine ≠
      .ok (greeting.sequence, greeting.operation.value, greeting.arguments) := by
  refine ⟨by decide, ?_⟩
  intro h
  exact (decodeFrame_encodeLine .micropython greeting).mp h (by decide)

end CitPhysicalXR.Lego
