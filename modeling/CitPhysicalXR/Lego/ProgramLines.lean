import CitPhysicalXR.Lego.HubPrograms

/-! The lines of a hub program: each step is a call whose numbers are within their caps, its text is
one literal or breaks the program, and the head of the program is as inert as it looks. -/
namespace CitPhysicalXR.Lego
open Foundation PythonSource

/-- The ports that hubs have. -/
def portLetters : List String := ["A", "B", "C", "D", "E", "F"]

variable {model : HubModel} {ports : PortMap model} {cases : CaseTable}
  {settings : ProgramSettings}

variable {port first second : String} {c : Char}

theorem mem_portLetters (hmodel : model ∈ HubModel.supported)
    (h : port ∈ model.ports) : port ∈ portLetters := by
  have hall : ∀ model ∈ HubModel.supported, ∀ port ∈ model.ports, port ∈ portLetters := by
    decide
  exact hall model hmodel port h

namespace PortMap

variable {port : String}

theorem mem_motorPorts :
    port ∈ ports.motorPorts ↔ (port, PortKind.motor) ∈ ports.entries := by
  simp [motorPorts]

theorem mem_of_get? {kind : PortKind} (h : ports.get? port = some kind) :
    (port, kind) ∈ ports.entries := by
  obtain ⟨entry, hfound, rfl⟩ := Option.map_eq_some_iff.mp h
  have hport : entry.1 = port := by simpa using List.find?_some hfound
  rw [← hport]
  exact List.mem_of_find?_eq_some hfound

theorem motorPorts_letters (hmodel : model ∈ HubModel.supported)
    (h : port ∈ ports.motorPorts) : port ∈ portLetters :=
  mem_portLetters hmodel (ports.onHub _ (mem_motorPorts.mp h))

end PortMap

theorem motorName_letter (h : port ∈ portLetters) :
    motorName cases port ∈
      ["motor_a", "motor_b", "motor_c", "motor_d", "motor_e", "motor_f"] := by
  have hlower : (cases.lower port).toList = port.toList.map Char.toLower := by
    apply cases.lower_ascii
    have hall : ∀ port ∈ portLetters, ∀ c ∈ port.toList, c.toNat < 128 := by decide
    exact hall port h
  have hname : motorName cases port = "motor_" ++ String.ofList (port.toList.map Char.toLower) := by
    rw [motorName, ← hlower, String.ofList_toList]
    rfl
  rw [hname]
  have hall : ∀ port ∈ portLetters, "motor_" ++ String.ofList (port.toList.map Char.toLower) ∈
      ["motor_a", "motor_b", "motor_c", "motor_d", "motor_e", "motor_f"] := by
    decide
  exact hall port h

theorem motorName_upper (h : cases.upper port ∈ portLetters) :
    motorName cases port = motorName cases (cases.upper port) := by
  have hascii := cases.ascii_of_upper port h
  have hupper := cases.upper_ascii port hascii
  have hcase : ∀ c : Char, c.toNat < 128 → c.toUpper.toNat < 128 ∧
      c.toUpper.toLower = c.toLower := by
    have hall : ∀ n < 128, (Char.ofNat n).toUpper.toNat < 128 ∧
        (Char.ofNat n).toUpper.toLower = (Char.ofNat n).toLower := by decide
    intro c hc
    have hsame := hall c.toNat hc
    rwa [Char.ofNat_toNat] at hsame
  have hlower : (cases.lower (cases.upper port)).toList = (cases.lower port).toList := by
    rw [cases.lower_ascii port hascii, cases.lower_ascii (cases.upper port), hupper, List.map_map]
    · exact List.map_congr_left fun c hc => (hcase c (hascii c hc)).2
    · rw [hupper]
      intro c hc
      obtain ⟨d, hd, rfl⟩ := List.mem_map.mp hc
      exact (hcase d (hascii d hd)).1
  rw [motorName, motorName, String.toList_inj.mp hlower]

theorem requireMotor_ok (hmodel : model ∈ HubModel.supported)
    (h : requireMotor cases ports port = .ok ()) :
    ∃ letter ∈ ports.motorPorts, motorName cases port = motorName cases letter := by
  obtain ⟨hport, hkind⟩ := seq_eq_ok.mp h
  rw [raiseIf_eq_ok] at hport hkind
  rw [Bool.not_eq_true', Bool.not_eq_false] at hport
  rw [not_not] at hkind
  have hletter : cases.upper port ∈ portLetters :=
    mem_portLetters hmodel (of_decide_eq_true hport)
  exact ⟨cases.upper port, PortMap.mem_motorPorts.mpr (PortMap.mem_of_get? hkind),
    motorName_upper hletter⟩

theorem toString_int_ne_empty (n : ℤ) : toString n ≠ "" := by
  cases n with
  | ofNat n => simp [toString, Int.repr, Nat.repr, Nat.toDigits_ne_nil]
  | negSucc n => simp [toString, Int.repr]

/-- A speed is at most the full one in both directions. -/
theorem bounded_finite (speed : PyFloat) :
    ∃ q : ℚ, floatMax (.finite (-1)) (floatMin (.finite 1) speed) = .finite q ∧ |q| ≤ 1 := by
  cases speed with
  | finite q =>
    unfold floatMin floatMax
    by_cases hone : q < 1
    · by_cases hminus : -1 < q
      · exact ⟨q, by simp [hone, hminus], abs_le.mpr ⟨hminus.le, hone.le⟩⟩
      · exact ⟨-1, by simp [hone, hminus], by norm_num⟩
    · exact ⟨1, by simp [hone], by norm_num⟩
  | infinite negative =>
    cases negative with
    | true => exact ⟨-1, by simp [floatMin, floatMax, PyFloat.lt], by norm_num⟩
    | false => exact ⟨1, by simp [floatMin, floatMax, PyFloat.lt], by norm_num⟩
  | nan => exact ⟨1, by simp [floatMin, floatMax, PyFloat.lt], by norm_num⟩

/-- The two clamps keep a number between a ceiling and its negative. -/
theorem clamped_finite {ceiling q : ℚ} (hceiling : 0 ≤ ceiling) :
    ∃ v : ℚ, floatMax (PyFloat.neg (.finite ceiling)) (floatMin (.finite ceiling) (.finite q)) =
      .finite v ∧ |v| ≤ ceiling ∧ |v| ≤ |q| := by
  unfold floatMin floatMax PyFloat.neg
  by_cases hover : q < ceiling
  · by_cases hunder : -ceiling < q
    · exact ⟨q, by simp [hover, hunder], abs_le.mpr ⟨hunder.le, hover.le⟩, le_refl _⟩
    · have hnegative : q ≤ -ceiling := not_lt.mp hunder
      refine ⟨-ceiling, by simp [hover, hunder], ?_, ?_⟩
      · rw [abs_neg, abs_of_nonneg hceiling]
      · rw [abs_neg, abs_of_nonneg hceiling, abs_of_nonpos (by linarith)]
        linarith
  · have hle : ceiling ≤ q := not_lt.mp hover
    have habs : ceiling ≤ |q| := hle.trans (le_abs_self q)
    by_cases hzero : -ceiling < ceiling
    · refine ⟨ceiling, by simp [hover, hzero], ?_, ?_⟩
      · rw [abs_of_nonneg hceiling]
      · rwa [abs_of_nonneg hceiling]
    · refine ⟨-ceiling, by simp [hover, hzero], ?_, ?_⟩
      · rw [abs_neg, abs_of_nonneg hceiling]
      · rwa [abs_neg, abs_of_nonneg hceiling]

/-- The speed of a motor is within its cap, if that is not below zero. -/
theorem degreesPerSecond_bounded {speed : PyFloat} {percent degrees : ℤ}
    (h : degreesPerSecond speed percent = .ok degrees) (hpercent : 0 ≤ percent) :
    |degrees| ≤ maxMotorDegreesPerSecond ∧
      100 * |degrees| ≤ maxMotorDegreesPerSecond * percent := by
  obtain ⟨ceiling, hceiling, hround⟩ := bind_eq_ok.mp h
  obtain ⟨bounded, hbounded, hone⟩ := bounded_finite speed
  obtain ⟨scaled, hscaled, hthousand⟩ := @PyFloat.ofRat_bounded (bounded * 1000)
    1000 (by norm_num) (by
      rw [abs_mul]
      norm_num
      linarith)
  have htop : ∃ top : ℚ, ceiling = .finite top ∧ 0 ≤ top ∧
      (percent ≤ 100 → top ≤ (10 * percent : ℤ)) := by
    have hquotient : ((maxMotorDegreesPerSecond * percent : ℤ) : ℚ) / ((100 : ℤ) : ℚ) =
        ((10 * percent : ℤ) : ℚ) := by
      unfold maxMotorDegreesPerSecond
      push_cast
      ring
    unfold trueDivide at hceiling
    rw [hquotient] at hceiling
    have hnonneg : (0 : ℚ) ≤ ((10 * percent : ℤ) : ℚ) := by exact_mod_cast (by omega)
    cases hvalue : PyFloat.ofRat ((10 * percent : ℤ) : ℚ) with
    | finite top =>
      rw [hvalue] at hceiling
      refine ⟨top, (Except.ok.inj hceiling).symm, PyFloat.ofRat_nonneg hnonneg hvalue, ?_⟩
      intro hsmall
      obtain ⟨v, hv, hle⟩ := @PyFloat.ofRat_bounded _ (10 * percent) (by omega)
        (abs_of_nonneg hnonneg).le
      rw [hvalue] at hv
      cases hv
      exact (le_abs_self top).trans hle
    | infinite negative =>
      rw [hvalue] at hceiling
      cases hceiling
    | nan =>
      rw [hvalue] at hceiling
      cases hceiling
  obtain ⟨top, rfl, htop, hcap⟩ := htop
  obtain ⟨v, hv, hvtop, hvscaled⟩ := clamped_finite (q := scaled) htop
  rw [hbounded, thousandfold, hscaled, hv] at hround
  have hdegrees : roundHalfEven v = degrees := Except.ok.inj hround
  have habs (bound : ℤ) (hbound : |v| ≤ bound) : |degrees| ≤ bound := by
    rw [abs_le] at hbound ⊢
    rw [← hdegrees]
    constructor
    · apply le_roundHalfEven
      push_cast
      exact hbound.1
    · exact roundHalfEven_le hbound.2
  have hfull : |degrees| ≤ 1000 := habs 1000 (hvscaled.trans hthousand)
  refine ⟨hfull, ?_⟩
  unfold maxMotorDegreesPerSecond
  by_cases hsmall : percent ≤ 100
  · have hten := habs (10 * percent) (hvtop.trans (hcap hsmall))
    omega
  · omega

theorem milliseconds_bounded {seconds : PyFloat} {maximum duration : ℤ}
    (h : milliseconds seconds maximum = .ok duration) :
    1 ≤ duration ∧ (1 ≤ maximum → duration ≤ maximum) := by
  obtain ⟨rounded, -, hduration⟩ := bind_eq_ok.mp h
  cases hduration
  omega

/-- The call that a step is in the code, with what its checks and conversions came to. -/
inductive Renders (cases : CaseTable) (ports : PortMap model) (settings : ProgramSettings) :
    Step → Call → Prop
  | motorRun {port letter : String} {speed seconds : PyFloat} {degrees duration : ℤ}
      (hletter : letter ∈ ports.motorPorts)
      (hdegrees : degreesPerSecond speed settings.maxMotorPercent = .ok degrees)
      (hduration : milliseconds seconds settings.maxCommandMilliseconds = .ok duration) :
      Renders cases ports settings (.motorRun port speed seconds)
        ⟨[motorName cases letter, "run_time"], [toString degrees, toString duration]⟩
  | motorAngle {port letter : String} {angle : ℤ} {speed : PyFloat} {degrees : ℤ}
      (hletter : letter ∈ ports.motorPorts)
      (hdegrees : degreesPerSecond speed settings.maxMotorPercent = .ok degrees) :
      Renders cases ports settings (.motorAngle port angle speed)
        ⟨[motorName cases letter, "run_angle"], [toString degrees, toString angle]⟩
  | driveStraight {millimetres : ℤ} {speed : PyFloat} (hmotors : 2 ≤ ports.motorPorts.length) :
      Renders cases ports settings (.driveStraight millimetres speed)
        ⟨["drive_base", "straight"], [toString millimetres]⟩
  | driveTurn {angle : ℤ} {speed : PyFloat} (hmotors : 2 ≤ ports.motorPorts.length) :
      Renders cases ports settings (.driveTurn angle speed)
        ⟨["drive_base", "turn"], [toString angle]⟩
  | wait {seconds : PyFloat} {duration : ℤ}
      (hduration : milliseconds seconds settings.maxCommandMilliseconds = .ok duration) :
      Renders cases ports settings (.wait seconds) ⟨["wait"], [toString duration]⟩
  | display {text : String} :
      Renders cases ports settings (.display text) ⟨["hub", "display", "text"], ["\"\""]⟩

theorem render_method {object method opening : String} (arguments : List String)
    (hopening : opening = "." ++ method ++ "(") :
    Call.render ⟨[object, method], arguments⟩ =
      "    " ++ (object ++ (opening ++ (PyString.joinComma arguments ++ ")"))) := by
  have hjoin : PyString.join '.' [object, method] = object ++ "." ++ method := rfl
  unfold Call.render Call.text
  simp only [hjoin, hopening, String.append_assoc]

theorem joinComma_pair (first second : String) :
    PyString.joinComma [first, second] = first ++ ", " ++ second := by
  simp [PyString.joinComma]

theorem joinComma_single (only : String) : PyString.joinComma [only] = only := by
  simp [PyString.joinComma]

theorem formatInt_ok {n : ℤ} {text : String} (h : formatInt n = .ok text) :
    text = toString n := by
  obtain ⟨-, htext⟩ := seq_eq_ok.mp h
  exact (Except.ok.inj htext).symm

theorem requireDriveBase_ok {motors : List String} (h : requireDriveBase motors = .ok ()) :
    2 ≤ motors.length := by
  rw [requireDriveBase, raiseIf_eq_ok] at h
  omega

theorem displayLine_empty :
    displayLine "" = Call.render ⟨["hub", "display", "text"], ["\"\""]⟩ := by
  decide

theorem stepLine_renders (hmodel : model ∈ HubModel.supported) {step : Step} {line : String}
    (h : stepLine cases ports settings step = .ok line) :
    ∃ call, Renders cases ports settings step call ∧
      stepLine cases ports settings step.blank = .ok call.render ∧
      line = (step.text?.map displayLine).getD call.render := by
  have hsame {call : Call} (hline : line = call.render) (hblank : step.blank = step) :
      stepLine cases ports settings step.blank = .ok call.render := by
    rw [hblank, h, hline]
  cases step with
  | motorRun port speed seconds =>
    obtain ⟨hport, hrest⟩ := seq_eq_ok.mp h
    obtain ⟨degrees, hdegrees, hrest⟩ := bind_eq_ok.mp hrest
    obtain ⟨duration, hduration, hline⟩ := bind_eq_ok.mp hrest
    obtain ⟨letter, hletter, hname⟩ := requireMotor_ok hmodel hport
    have hrender : line = Call.render
        ⟨[motorName cases letter, "run_time"], [toString degrees, toString duration]⟩ := by
      rw [@render_method _ _ ".run_time(" _ (by rfl), joinComma_pair, ← hname,
        ← Except.ok.inj hline]
      simp only [String.append_assoc]
      rfl
    exact ⟨_, .motorRun hletter hdegrees hduration, hsame hrender rfl, hrender⟩
  | motorAngle port angle speed =>
    obtain ⟨hport, hrest⟩ := seq_eq_ok.mp h
    obtain ⟨degrees, hdegrees, hrest⟩ := bind_eq_ok.mp hrest
    obtain ⟨target, htarget, hline⟩ := bind_eq_ok.mp hrest
    obtain ⟨letter, hletter, hname⟩ := requireMotor_ok hmodel hport
    have hrender : line = Call.render
        ⟨[motorName cases letter, "run_angle"], [toString degrees, toString angle]⟩ := by
      rw [@render_method _ _ ".run_angle(" _ (by rfl), joinComma_pair, ← hname,
        ← formatInt_ok htarget, ← Except.ok.inj hline]
      simp only [String.append_assoc]
      rfl
    exact ⟨_, .motorAngle hletter hdegrees, hsame hrender rfl, hrender⟩
  | driveStraight millimetres speed =>
    obtain ⟨hmotors, hrest⟩ := seq_eq_ok.mp h
    obtain ⟨distance, hdistance, hline⟩ := bind_eq_ok.mp hrest
    have hrender : line = Call.render ⟨["drive_base", "straight"], [toString millimetres]⟩ := by
      rw [@render_method _ _ ".straight(" _ (by rfl), joinComma_single,
        ← formatInt_ok hdistance, ← Except.ok.inj hline]
      rfl
    exact ⟨_, .driveStraight (requireDriveBase_ok hmotors), hsame hrender rfl, hrender⟩
  | driveTurn angle speed =>
    obtain ⟨hmotors, hrest⟩ := seq_eq_ok.mp h
    obtain ⟨target, htarget, hline⟩ := bind_eq_ok.mp hrest
    have hrender : line = Call.render ⟨["drive_base", "turn"], [toString angle]⟩ := by
      rw [@render_method _ _ ".turn(" _ (by rfl), joinComma_single,
        ← formatInt_ok htarget, ← Except.ok.inj hline]
      rfl
    exact ⟨_, .driveTurn (requireDriveBase_ok hmotors), hsame hrender rfl, hrender⟩
  | wait seconds =>
    obtain ⟨duration, hduration, hline⟩ := bind_eq_ok.mp h
    have hrender : line = Call.render ⟨["wait"], [toString duration]⟩ := by
      rw [← Except.ok.inj hline, Call.render, Call.text, joinComma_single]
      rfl
    exact ⟨_, .wait hduration, hsame hrender rfl, hrender⟩
  | display text =>
    refine ⟨_, .display, ?_, (Except.ok.inj h).symm⟩
    rw [← displayLine_empty]
    rfl

/-- A character of names and numbers. -/
def isSimple (c : Char) : Bool := c.isAlphanum || c == '_' || c == '-'

def Simple (text : String) : Prop := ∀ c ∈ text.toList, isSimple c = true

instance (text : String) : Decidable (Simple text) := by
  unfold Simple
  infer_instance

theorem ne_of_isSimple (other : Char) (h : isSimple c = true)
    (hother : isSimple other = false) : c ≠ other := by
  rintro rfl
  rw [h] at hother
  cases hother

theorem isPlain_of_isSimple (h : isSimple c = true) : isPlain c = true := by
  have hne (other : Char) (hother : isSimple other = false) : c ≠ other :=
    ne_of_isSimple other h hother
  simp [isPlain, isLineEnd, isQuote, hne '\n' (by decide), hne '\r' (by decide),
    hne '#' (by decide), hne '"' (by decide), hne '\'' (by decide), hne '\x00' (by decide)]

theorem simple_toString (n : ℤ) : Simple (toString n) := by
  intro c hc
  rcases PyString.mem_toString_int hc with rfl | ⟨d, hd, rfl⟩
  · decide
  · have hall : ∀ d < 10, isSimple (Nat.digitChar d) = true := by decide
    exact hall d hd

theorem simple_motorName (h : port ∈ portLetters) :
    Simple (motorName cases port) := by
  have hall : ∀ name ∈ ["motor_a", "motor_b", "motor_c", "motor_d", "motor_e", "motor_f"],
      Simple name := by decide
  exact hall _ (motorName_letter h)

theorem Call.mem_render {call : Call} (h : c ∈ call.render.toList) :
    c ∈ [' ', '.', '(', ',', ')'] ∨ (∃ name ∈ call.names, c ∈ name.toList) ∨
      ∃ argument ∈ call.arguments, c ∈ argument.toList := by
  obtain ⟨names, arguments⟩ := call
  have hparts : c ∈ "    ".toList ∨ c ∈ (PyString.join '.' names).toList ∨ c = '(' ∨
      c ∈ (PyString.joinComma arguments).toList ∨ c = ')' := by
    simpa [render, text, or_assoc] using h
  rcases hparts with hblank | hname | rfl | hargument | rfl
  · have hall : ∀ c ∈ "    ".toList, c ∈ [' ', '.', '(', ',', ')'] := by decide
    exact .inl (hall c hblank)
  · rcases PyString.mem_join hname with rfl | hname
    · exact .inl (by decide)
    · exact .inr (.inl hname)
  · exact .inl (by decide)
  · cases arguments with
    | nil => simp [PyString.joinComma] at hargument
    | cons first rest =>
      rw [joinComma_cons] at hargument
      rcases PyString.mem_join hargument with rfl | ⟨part, hpart, hc⟩
      · exact .inl (by decide)
      · rcases List.mem_cons.mp hpart with rfl | hpart
        · exact .inr (.inr ⟨_, List.mem_cons_self .., hc⟩)
        · obtain ⟨argument, hargument, rfl⟩ := List.mem_map.mp hpart
          rw [String.toList_append, List.mem_append] at hc
          rcases hc with hc | hc
          · have hall : ∀ c ∈ " ".toList, c ∈ [' ', '.', '(', ',', ')'] := by decide
            exact .inl (hall c hc)
          · exact .inr (.inr ⟨argument, List.mem_cons_of_mem _ hargument, hc⟩)
  · exact .inl (by decide)

namespace Renders
variable {step : Step} {call : Call}

theorem names_simple (hmodel : model ∈ HubModel.supported)
    (h : Renders cases ports settings step call) :
    call.names ≠ [] ∧ ∀ name ∈ call.names, Simple name := by
  have hmotor {letter method : String} (hletter : letter ∈ ports.motorPorts)
      (hmethod : Simple method) : ∀ name ∈ [motorName cases letter, method], Simple name := by
    simpa using ⟨simple_motorName (PortMap.motorPorts_letters hmodel hletter), hmethod⟩
  have hfixed : ∀ names ∈ [["drive_base", "straight"], ["drive_base", "turn"], ["wait"],
      ["hub", "display", "text"]], ∀ name ∈ names, Simple name := by decide
  cases h with
  | motorRun hletter => exact ⟨by simp, hmotor hletter (by decide)⟩
  | motorAngle hletter => exact ⟨by simp, hmotor hletter (by decide)⟩
  | driveStraight => exact ⟨by simp, hfixed _ (by simp)⟩
  | driveTurn => exact ⟨by simp, hfixed _ (by simp)⟩
  | wait => exact ⟨by simp, hfixed _ (by simp)⟩
  | display => exact ⟨by simp, hfixed _ (by simp)⟩

theorem arguments_simple (h : Renders cases ports settings step call) :
    ∀ argument ∈ call.arguments, argument ≠ "" ∧
      (Simple argument ∨ step.text?.isSome ∧ argument = "\"\"") := by
  have hone (n : ℤ) (isText : Prop) : ∀ argument ∈ [toString n],
      argument ≠ "" ∧ (Simple argument ∨ isText ∧ argument = "\"\"") := by
    intro argument hargument
    obtain rfl := List.mem_singleton.mp hargument
    exact ⟨toString_int_ne_empty n, .inl (simple_toString n)⟩
  have htwo (m n : ℤ) (isText : Prop) : ∀ argument ∈ [toString m, toString n],
      argument ≠ "" ∧ (Simple argument ∨ isText ∧ argument = "\"\"") := by
    intro argument hargument
    rcases List.mem_cons.mp hargument with rfl | hargument
    · exact hone m isText _ (List.mem_cons_self ..)
    · exact hone n isText argument hargument
  cases h with
  | motorRun => exact htwo _ _ _
  | motorAngle => exact htwo _ _ _
  | driveStraight => exact hone _ _
  | driveTurn => exact hone _ _
  | wait => exact hone _ _
  | display => simp [Step.text?]

theorem wellFormed (hmodel : model ∈ HubModel.supported)
    (h : Renders cases ports settings step call) : call.WellFormed := by
  obtain ⟨hnamed, hnames⟩ := h.names_simple hmodel
  refine ⟨hnamed, ?_, ?_⟩
  · intro name hname c hc
    have hsimple := hnames name hname c hc
    exact ⟨ne_of_isSimple '.' hsimple (by decide), ne_of_isSimple '(' hsimple (by decide),
      ne_of_isSimple ' ' hsimple (by decide)⟩
  · intro argument hargument
    obtain ⟨hne, hsimple | ⟨-, rfl⟩⟩ := h.arguments_simple argument hargument
    · refine ⟨hne, fun c hc => ?_⟩
      exact ⟨ne_of_isSimple ',' (hsimple c hc) (by decide),
        ne_of_isSimple ' ' (hsimple c hc) (by decide)⟩
    · decide

/-- The line of a call has no line break and no colon. -/
theorem chars (hmodel : model ∈ HubModel.supported)
    (h : Renders cases ports settings step call) :
    ∀ c ∈ call.render.toList, c ≠ '\n' ∧ c ≠ ':' := by
  have hsimple {c : Char} (hc : isSimple c = true) : c ≠ '\n' ∧ c ≠ ':' :=
    ⟨ne_of_isSimple '\n' hc (by decide), ne_of_isSimple ':' hc (by decide)⟩
  intro c hc
  rcases Call.mem_render hc with hmark | ⟨name, hname, hc⟩ | ⟨argument, hargument, hc⟩
  · have hall : ∀ c ∈ [' ', '.', '(', ',', ')'], c ≠ '\n' ∧ c ≠ ':' := by decide
    exact hall c hmark
  · exact hsimple ((h.names_simple hmodel).2 name hname c hc)
  · obtain ⟨-, hargumentSimple | ⟨-, rfl⟩⟩ := h.arguments_simple argument hargument
    · exact hsimple (hargumentSimple c hc)
    · have hall : ∀ c ∈ "\"\"".toList, c ≠ '\n' ∧ c ≠ ':' := by decide
      exact hall c hc

theorem plain (hmodel : model ∈ HubModel.supported) (h : Renders cases ports settings step call)
    (htext : step.text? = none) : ∀ c ∈ call.render.toList, isPlain c = true := by
  intro c hc
  rcases Call.mem_render hc with hmark | ⟨name, hname, hc⟩ | ⟨argument, hargument, hc⟩
  · have hall : ∀ c ∈ [' ', '.', '(', ',', ')'], isPlain c = true := by decide
    exact hall c hmark
  · exact isPlain_of_isSimple ((h.names_simple hmodel).2 name hname c hc)
  · obtain ⟨-, hargumentSimple | ⟨hsome, -⟩⟩ := h.arguments_simple argument hargument
    · exact isPlain_of_isSimple (hargumentSimple c hc)
    · rw [htext] at hsome
      cases hsome

theorem blank (h : Renders cases ports settings step call) :
    Renders cases ports settings step.blank call := by
  cases h with
  | motorRun hletter hdegrees hduration => exact .motorRun hletter hdegrees hduration
  | motorAngle hletter hdegrees => exact .motorAngle hletter hdegrees
  | driveStraight hmotors => exact .driveStraight hmotors
  | driveTurn hmotors => exact .driveTurn hmotors
  | wait hduration => exact .wait hduration
  | display => exact .display

theorem blank_line (h : Renders cases ports settings step call) :
    call.render = (step.blank.text?.map displayLine).getD call.render := by
  cases h with
  | display => exact displayLine_empty.symm
  | _ => rfl

end Renders

variable {dialect : Dialect}

theorem fits_empty : Fits dialect "" := ⟨[], List.nil_prefix, .inr ⟨rfl, by decide⟩, by simp⟩

theorem stepLine_reads (hmodel : model ∈ HubModel.supported) {step : Step} {call : Call}
    {line : String} (h : Renders cases ports settings step call)
    (hline : line = (step.text?.map displayLine).getD call.render)
    (hfits : ∀ text ∈ step.text?, Fits dialect text) :
    ∃ values : List String, ReadsLine dialect line.toList call.render.toList values ∧
      List.Forall₂ (fun text value => value.toList <+: sanitised text.toList)
        step.text?.toList values := by
  cases htext : step.text? with
  | none =>
    rw [htext] at hline
    rw [hline]
    exact ⟨[], readsLine_plain (h.plain hmodel htext), .nil⟩
  | some text =>
    rw [htext] at hline
    obtain ⟨value, hvalue, hreads⟩ := (hfits text htext).readsLine
    have hcall : call.render = displayLine "" := by
      cases h with
      | display => exact displayLine_empty.symm
      | _ => cases htext
    rw [hline, hcall]
    exact ⟨[value], hreads, .cons hvalue .nil⟩

theorem filterMap_text?_cons (step : Step) (steps : List Step) :
    (step :: steps).filterMap Step.text? = step.text?.toList ++ steps.filterMap Step.text? := by
  cases htext : step.text? <;> simp [htext]

theorem body_reads (hmodel : model ∈ HubModel.supported) {steps : List Step} {body : List String}
    (hbody : List.Forall₂ (fun step line => stepLine cases ports settings step = .ok line)
      steps body) (hfits : ∀ text ∈ steps.filterMap Step.text?, Fits dialect text) :
    ∃ (calls : List Call) (values blanks : List String),
      List.Forall₂ (Renders cases ports settings) steps calls ∧
      ReadsLines dialect body (calls.map Call.render) values ∧
      List.Forall₂ (fun text value => value.toList <+: sanitised text.toList)
        (steps.filterMap Step.text?) values ∧
      List.Forall₂ (fun step line => stepLine cases ports settings step = .ok line)
        (steps.map Step.blank) (calls.map Call.render) ∧
      ReadsLines dialect (calls.map Call.render) (calls.map Call.render) blanks := by
  induction hbody with
  | nil => exact ⟨[], [], [], .nil, readsLines_nil, .nil, .nil, readsLines_nil⟩
  | @cons step line steps body hstep hbody ih =>
    have hrestFits : ∀ text ∈ steps.filterMap Step.text?, Fits dialect text := by
      intro text htext
      obtain ⟨other, hother, hsome⟩ := List.mem_filterMap.mp htext
      exact hfits text (List.mem_filterMap.mpr ⟨other, List.mem_cons_of_mem _ hother, hsome⟩)
    obtain ⟨calls, values, blanks, hcalls, hreads, hvalues, hblank, hblankReads⟩ := ih hrestFits
    obtain ⟨call, hcall, hstepBlank, hline⟩ := stepLine_renders hmodel hstep
    obtain ⟨first, hfirst, hfirstValues⟩ := @stepLine_reads _ _ _ _ dialect hmodel _ _ _ hcall hline
      fun text htext => hfits text (List.mem_filterMap.mpr ⟨step, List.mem_cons_self .., htext⟩)
    have hblankFits : ∀ text ∈ step.blank.text?, Fits dialect text := by
      intro text htext
      cases hcall with
      | display =>
        obtain rfl : "" = text := Option.some.inj htext
        exact fits_empty
      | _ => cases htext
    obtain ⟨blank, hfirstBlank, -⟩ := stepLine_reads hmodel hcall.blank hcall.blank_line hblankFits
    refine ⟨call :: calls, first ++ values, blank ++ blanks, .cons hcall hcalls,
      hfirst.cons hreads, ?_, .cons hstepBlank hblank, hfirstBlank.cons hblankReads⟩
    rw [filterMap_text?_cons]
    exact List.rel_append hfirstValues hvalues

/-- Every line of a body is read or breaks the program, and the line of a text that does not fit
breaks it. -/
theorem body_breaks (hmodel : model ∈ HubModel.supported) {steps : List Step} {body : List String}
    (hbody : List.Forall₂ (fun step line => stepLine cases ports settings step = .ok line)
      steps body) :
    (∀ line ∈ body, BreaksLine dialect line.toList ∨
      ∃ code literals, ReadsLine dialect line.toList code literals) ∧
    ∀ text ∈ steps.filterMap Step.text?, ¬ Fits dialect text →
      ∃ line ∈ body, BreaksLine dialect line.toList := by
  induction hbody with
  | nil => simp
  | @cons step line steps body hstep hbody ih =>
    obtain ⟨call, hcall, -, hline⟩ := stepLine_renders hmodel hstep
    have hbreaks (text : String) (htext : step.text? = some text) (hnot : ¬ Fits dialect text) :
        BreaksLine dialect line.toList := by
      rw [htext] at hline
      rw [hline]
      exact breaksLine_of_not_fits hnot
    constructor
    · intro other hother
      rcases List.mem_cons.mp hother with rfl | hother
      · by_cases hfits : ∀ text ∈ step.text?, Fits dialect text
        · obtain ⟨values, hreads, -⟩ := stepLine_reads hmodel hcall hline hfits
          exact .inr ⟨_, values, hreads⟩
        · push Not at hfits
          obtain ⟨text, htext, hnot⟩ := hfits
          exact .inl (hbreaks text htext hnot)
      · exact ih.1 other hother
    · intro text htext hnot
      rw [filterMap_text?_cons, List.mem_append, Option.mem_toList] at htext
      rcases htext with htext | htext
      · exact ⟨line, List.mem_cons_self .., hbreaks text htext hnot⟩
      · obtain ⟨other, hother, hbroken⟩ := ih.2 text htext hnot
        exact ⟨other, List.mem_cons_of_mem _ hother, hbroken⟩

/-- A text that can stand in code, and that is no head of a block. -/
def Inert (text : String) : Prop := ∀ c ∈ text.toList, isPlain c = true ∧ c ≠ ':'

instance (text : String) : Decidable (Inert text) := by
  unfold Inert
  infer_instance

theorem Inert.append (hfirst : Inert first) (hsecond : Inert second) :
    Inert (first ++ second) := by
  intro c hc
  rw [String.toList_append, List.mem_append] at hc
  rcases hc with hc | hc
  · exact hfirst c hc
  · exact hsecond c hc

theorem Simple.inert {text : String} (h : Simple text) : Inert text := by
  intro c hc
  exact ⟨isPlain_of_isSimple (h c hc), ne_of_isSimple ':' (h c hc) (by decide)⟩

theorem Inert.noBreak {text : String} (h : Inert text) : '\n' ∉ text.toList := by
  intro hbreak
  exact absurd (h '\n' hbreak).1 (by decide)

theorem Inert.ne_of_colon {text head : String} (h : Inert text) (hhead : ':' ∈ head.toList) :
    text ≠ head := by
  rintro rfl
  exact (h ':' hhead).2 rfl

theorem readsLine_inert {line : String} (h : ∀ c ∈ line.toList, isPlain c = true) :
    ReadsLine dialect ("#" ++ line).toList "".toList [] := by
  have hcomment := @readsLine_comment dialect line.toList fun c hc => by
    have hplain := h c hc
    simp only [isPlain, Bool.and_eq_true, Bool.not_eq_true', bne_iff_ne] at hplain
    exact ⟨hplain.1.1.1, refuses_graphic hplain.2⟩
  simpa using hcomment

/-- The line that makes the drive base of two motors. -/
def driveBaseCall (first second : String) (geometry : DriveGeometry) : Call where
  names := ["DriveBase"]
  arguments := [first, second, s!"wheel_diameter={geometry.wheelDiameterMm}",
    s!"axle_track={geometry.axleTrackMm}"]

theorem driveBaseLine_ok {motors : List String} {geometry : DriveGeometry} {line : String}
    (h : driveBaseLine cases motors geometry = .ok line) :
    line = "drive_base = " ++ (driveBaseCall (motorName cases (motors.headD ""))
      (motorName cases (motors.tail.headD "")) geometry).text := by
  obtain ⟨wheel, hwheel, hrest⟩ := bind_eq_ok.mp h
  obtain ⟨axle, haxle, hline⟩ := bind_eq_ok.mp hrest
  have harguments : PyString.joinComma (driveBaseCall (motorName cases (motors.headD ""))
      (motorName cases (motors.tail.headD "")) geometry).arguments =
        motorName cases (motors.headD "") ++ (", " ++ (motorName cases (motors.tail.headD "") ++
          (", " ++ ("wheel_diameter=" ++ (toString geometry.wheelDiameterMm ++
            (", " ++ ("axle_track=" ++ toString geometry.axleTrackMm))))))) := by
    simp only [driveBaseCall, PyString.joinComma, String.intercalate_cons_cons,
      String.intercalate_singleton, String.append_assoc]
    rfl
  have hopening : "drive_base = DriveBase(" = "drive_base = " ++ ("DriveBase" ++ "(") := by rfl
  have haxleMark : ", axle_track=" = ", " ++ "axle_track=" := by rfl
  rw [← Except.ok.inj hline, formatInt_ok hwheel, formatInt_ok haxle, Call.text, harguments,
    hopening, haxleMark]
  simp only [String.append_assoc]
  rfl

theorem driveBaseCall_wellFormed (hfirst : first ≠ "" ∧ Simple first)
    (hsecond : second ≠ "" ∧ Simple second) (geometry : DriveGeometry) :
    (driveBaseCall first second geometry).WellFormed := by
  have hkeyword (name : String) (n : ℤ) (hname : Simple name) :
      s!"{name}={n}" ≠ "" ∧ ∀ c ∈ (s!"{name}={n}").toList, c ≠ ',' ∧ c ≠ ' ' := by
    have hchars : (s!"{name}={n}").toList = name.toList ++ '=' :: (toString n).toList := by
      have htext : s!"{name}={n}" = name ++ "=" ++ toString n := rfl
      rw [htext]
      simp only [String.toList_append, List.append_assoc]
      rfl
    constructor
    · intro hempty
      rw [hempty] at hchars
      simp at hchars
    · intro c hc
      rw [hchars, List.mem_append, List.mem_cons] at hc
      have hsimple {c : Char} (h : isSimple c = true) : c ≠ ',' ∧ c ≠ ' ' :=
        ⟨ne_of_isSimple ',' h (by decide), ne_of_isSimple ' ' h (by decide)⟩
      rcases hc with hc | rfl | hc
      · exact hsimple (hname c hc)
      · decide
      · exact hsimple (simple_toString n c hc)
  have hsimple {argument : String} (h : argument ≠ "" ∧ Simple argument) :
      argument ≠ "" ∧ ∀ c ∈ argument.toList, c ≠ ',' ∧ c ≠ ' ' := by
    refine ⟨h.1, fun c hc => ?_⟩
    exact ⟨ne_of_isSimple ',' (h.2 c hc) (by decide), ne_of_isSimple ' ' (h.2 c hc) (by decide)⟩
  refine ⟨by simp [driveBaseCall], ?_, ?_⟩
  · have hname : ∀ name ∈ ["DriveBase"], ∀ c ∈ name.toList, c ≠ '.' ∧ c ≠ '(' ∧ c ≠ ' ' := by
      decide
    exact hname
  · intro argument hargument
    simp only [driveBaseCall, List.mem_cons, List.not_mem_nil, or_false] at hargument
    rcases hargument with rfl | rfl | rfl | rfl
    · exact hsimple hfirst
    · exact hsimple hsecond
    · exact hkeyword "wheel_diameter" _ (by decide)
    · exact hkeyword "axle_track" _ (by decide)

theorem driveBaseCall_inert (hfirst : Simple first)
    (hsecond : Simple second) (geometry : DriveGeometry) :
    Inert ("drive_base = " ++ (driveBaseCall first second geometry).text) := by
  have hfixed : Inert "drive_base = " ∧ Inert "wheel_diameter=" ∧ Inert "axle_track=" ∧
      Inert "DriveBase" := by decide
  refine hfixed.1.append fun c hc => ?_
  have hrender : c ∈ (driveBaseCall first second geometry).render.toList := by
    rw [Call.render, String.toList_append]
    exact List.mem_append_right _ hc
  rcases Call.mem_render hrender with
    hmark | ⟨name, hname, hchar⟩ | ⟨argument, hargument, hchar⟩
  · have hall : ∀ c ∈ [' ', '.', '(', ',', ')'], isPlain c = true ∧ c ≠ ':' := by decide
    exact hall c hmark
  · obtain rfl : name = "DriveBase" := List.mem_singleton.mp hname
    exact hfixed.2.2.2 c hchar
  · simp only [driveBaseCall, List.mem_cons, List.not_mem_nil, or_false] at hargument
    rcases hargument with rfl | rfl | rfl | rfl
    · exact hfirst.inert c hchar
    · exact hsecond.inert c hchar
    · exact hfixed.2.1.append (simple_toString _).inert c hchar
    · exact hfixed.2.2.1.append (simple_toString _).inert c hchar

theorem driveMotors_cons_of_head {line : String} {lines : List String}
    (h : line.toList.head? ≠ some 'd') : driveMotors (line :: lines) = driveMotors lines := by
  have hstart : PyString.startsWith line "drive_base = " = false := by
    cases hchars : line.toList with
    | nil => simp [PyString.startsWith, hchars]
    | cons c rest =>
      have hc : c ≠ 'd' := by
        rintro rfl
        simp [hchars] at h
      simp [PyString.startsWith, hchars, List.isPrefixOf, hc.symm]
  rw [driveMotors, List.flatMap_cons, hstart]
  rfl

theorem driveMotors_nil_of_head {lines : List String}
    (h : ∀ line ∈ lines, line.toList.head? ≠ some 'd') : driveMotors lines = [] := by
  induction lines with
  | nil => rfl
  | cons line lines ih =>
    rw [driveMotors_cons_of_head (h line (List.mem_cons_self ..))]
    exact ih fun other hother => h other (List.mem_cons_of_mem _ hother)

theorem driveMotors_append (first second : List String) :
    driveMotors (first ++ second) = driveMotors first ++ driveMotors second := by
  simp [driveMotors]

theorem driveMotors_drive (hfirst : first ≠ "" ∧ Simple first)
    (hsecond : second ≠ "" ∧ Simple second) (geometry : DriveGeometry) :
    driveMotors ["drive_base = " ++ (driveBaseCall first second geometry).text] =
      [first, second] := by
  have hwell := driveBaseCall_wellFormed hfirst hsecond geometry
  have hprefix : "drive_base = ".toList.length = 13 := by rfl
  have hstart : PyString.startsWith ("drive_base = " ++ (driveBaseCall first second geometry).text)
      "drive_base = " = true := by
    rw [PyString.startsWith, String.toList_append]
    exact List.isPrefixOf_iff_prefix.mpr (List.prefix_append ..)
  have hrest : String.ofList (("drive_base = " ++
      (driveBaseCall first second geometry).text).toList.drop 13) =
        (driveBaseCall first second geometry).text := by
    rw [String.toList_append, List.drop_left' hprefix, String.ofList_toList]
  rw [driveMotors, List.flatMap_cons, hstart, hrest, Call.read_text hwell]
  rfl

theorem motorName_ne_empty (h : port ∈ portLetters) :
    motorName cases port ≠ "" ∧ (motorName cases port).toList.head? = some 'm' := by
  have hall : ∀ name ∈ ["motor_a", "motor_b", "motor_c", "motor_d", "motor_e", "motor_f"],
      name ≠ "" ∧ name.toList.head? = some 'm' := by decide
  exact hall _ (motorName_letter h)

def commentLines (model : HubModel) (percent : ℤ) : List String :=
  [s!"# Generated by CIT Physical XR for a {model.displayName}.",
    "# Autonomous mode (FR-048): this program runs on the hub with no computer",
    s!"# attached. Motor power is capped at {percent} percent, and the",
    "# program stops every motor even when a step fails."]

theorem commentLines_reads (hmodel : model ∈ HubModel.supported) (percent : ℤ) :
    ReadsLines dialect (commentLines model percent) ["", "", "", ""] [] := by
  have hname : Inert (" Generated by CIT Physical XR for a " ++ model.displayName ++ ".") := by
    have hall : ∀ model ∈ HubModel.supported,
        Inert (" Generated by CIT Physical XR for a " ++ model.displayName ++ ".") := by
      decide
    exact hall model hmodel
  have hcap : Inert (" attached. Motor power is capped at " ++ toString percent ++
      " percent, and the") := by
    have hfixed : Inert " attached. Motor power is capped at " ∧ Inert " percent, and the" := by
      decide
    exact (hfixed.1.append (simple_toString percent).inert).append hfixed.2
  have hplain : ∀ line ∈
      [" Autonomous mode (FR-048): this program runs on the hub with no computer",
        " program stops every motor even when a step fails."], ∀ c ∈ line.toList, isPlain c := by
    decide
  have hfirst := @readsLine_inert dialect _ fun c hc => (hname c hc).1
  have hsecond := @readsLine_inert dialect _ (hplain _ (List.mem_cons_self ..))
  have hthird := @readsLine_inert dialect _ fun c hc => (hcap c hc).1
  have hfourth := @readsLine_inert dialect _
    (hplain _ (List.mem_cons_of_mem _ (List.mem_cons_self ..)))
  have hlines := hfirst.cons (hsecond.cons (hthird.cons (hfourth.cons readsLines_nil)))
  have hmark (front middle back marked : String) (hmarked : marked = "#" ++ front) :
      marked ++ middle ++ back = "#" ++ (front ++ middle ++ back) := by
    rw [hmarked]
    simp only [String.append_assoc]
  have hnameLine := hmark " Generated by CIT Physical XR for a " model.displayName "."
    "# Generated by CIT Physical XR for a " (by rfl)
  have hcapLine := hmark " attached. Motor power is capped at " (toString percent)
    " percent, and the" "# attached. Motor power is capped at " (by rfl)
  rw [← hnameLine, ← hcapLine] at hlines
  exact hlines

def importLines (model : HubModel) (usesDriveBase : Bool) : List String :=
  [s!"from pybricks.hubs import {model.pybricksHubClass}",
      "from pybricks.parameters import Port",
      "from pybricks.pupdevices import Motor"] ++
    (if usesDriveBase then ["from pybricks.robotics import DriveBase"] else []) ++
    ["from pybricks.tools import wait", "", s!"hub = {model.pybricksHubClass}()"]

theorem importLines_inert (hmodel : model ∈ HubModel.supported) (usesDriveBase : Bool) :
    ∀ line ∈ importLines model usesDriveBase,
      Inert line ∧ line.toList.head? ≠ some 'd' := by
  have hall : ∀ model ∈ HubModel.supported, ∀ usesDriveBase : Bool,
      ∀ line ∈ importLines model usesDriveBase,
        Inert line ∧ line.toList.head? ≠ some 'd' := by decide
  exact hall model hmodel usesDriveBase

def setupLines (cases : CaseTable) (motors : List String) : List String :=
  motors.map fun port => s!"{motorName cases port} = Motor(Port.{port})"

theorem setupLines_inert {motors : List String} (hmotors : ∀ port ∈ motors, port ∈ portLetters) :
    ∀ line ∈ setupLines cases motors, Inert line ∧ line.toList.head? ≠ some 'd' := by
  have hletters : ∀ port ∈ portLetters, Simple port := by decide
  have hmark : Inert " = Motor(Port." ∧ Inert ")" := by decide
  intro line hline
  obtain ⟨port, hport, rfl⟩ := List.mem_map.mp hline
  have hletter := hmotors port hport
  obtain ⟨-, hhead⟩ := @motorName_ne_empty cases _ hletter
  constructor
  · exact (((simple_motorName hletter).inert.append hmark.1).append
      (hletters port hletter).inert).append hmark.2
  · have hfront : s!"{motorName cases port} = Motor(Port.{port})" =
        motorName cases port ++ (" = Motor(Port." ++ (port ++ ")")) := by
      simp only [← String.append_assoc]
      rfl
    rw [hfront, String.toList_append, List.head?_append, hhead]
    simp

/-- The head of a program is its comments and its code. -/
theorem headerLines_ok {motors header : List String} {usesDriveBase : Bool}
    (h : headerLines cases model motors usesDriveBase settings = .ok header) :
    ∃ driveBase, (if usesDriveBase = true then
        (driveBaseLine cases motors (settings.geometry.getD {})).map fun line => [line]
      else .ok []) = .ok driveBase ∧
      header = commentLines model settings.maxMotorPercent ++
        (importLines model usesDriveBase ++ (setupLines cases motors ++ driveBase)) := by
  obtain ⟨percent, hpercent, hrest⟩ := bind_eq_ok.mp h
  obtain ⟨driveBase, hdriveBase, hheader⟩ := bind_eq_ok.mp hrest
  rw [formatInt_ok hpercent] at hheader
  refine ⟨driveBase, hdriveBase, ?_⟩
  rw [← Except.ok.inj hheader]
  simp only [commentLines, importLines, setupLines, ← List.append_assoc]
  rfl

/-- The head of a program is read as its code, which is inert and names the first two motors for
the drive base if there is one. -/
theorem headerLines_reads (hmodel : model ∈ HubModel.supported) {motors header : List String}
    {usesDriveBase : Bool} (hmotors : ∀ port ∈ motors, port ∈ portLetters)
    (htwo : usesDriveBase = true → 2 ≤ motors.length)
    (h : headerLines cases model motors usesDriveBase settings = .ok header) :
    ∃ code, ReadsLines dialect header code [] ∧ (∀ line ∈ code, Inert line) ∧
      driveMotors code = if usesDriveBase = true then
        [motorName cases (motors.headD ""), motorName cases (motors.tail.headD "")] else [] := by
  obtain ⟨driveBase, hdriveBase, rfl⟩ := headerLines_ok h
  have himports := importLines_inert hmodel usesDriveBase
  have hsetups := @setupLines_inert cases _ hmotors
  have hdrive : (∀ line ∈ driveBase, Inert line) ∧
      driveMotors driveBase = if usesDriveBase = true then
        [motorName cases (motors.headD ""), motorName cases (motors.tail.headD "")] else [] := by
    cases usesDriveBase with
    | false =>
      cases hdriveBase
      exact ⟨by simp, rfl⟩
    | true =>
      obtain ⟨line, hline, rfl⟩ := map_eq_ok.mp hdriveBase
      obtain ⟨first, second, rest, rfl⟩ :
          ∃ first second rest, motors = first :: second :: rest := by
        match motors, htwo rfl with
        | first :: second :: rest, _ => exact ⟨first, second, rest, rfl⟩
      have hfirst := hmotors first (List.mem_cons_self ..)
      have hsecond := hmotors second (List.mem_cons_of_mem _ (List.mem_cons_self ..))
      rw [driveBaseLine_ok hline]
      constructor
      · intro other hother
        obtain rfl := List.mem_singleton.mp hother
        exact driveBaseCall_inert (simple_motorName hfirst) (simple_motorName hsecond) _
      · exact driveMotors_drive ⟨(motorName_ne_empty hfirst).1, simple_motorName hfirst⟩
          ⟨(motorName_ne_empty hsecond).1, simple_motorName hsecond⟩ _
  have hinert : ∀ line ∈ importLines model usesDriveBase ++ (setupLines cases motors ++ driveBase),
      Inert line := by
    intro line hline
    rcases List.mem_append.mp hline with hline | hline
    · exact (himports line hline).1
    · rcases List.mem_append.mp hline with hline | hline
      · exact (hsetups line hline).1
      · exact hdrive.1 line hline
  have hempty : Inert "" := by decide
  refine ⟨["", "", "", ""] ++
    (importLines model usesDriveBase ++ (setupLines cases motors ++ driveBase)), ?_, ?_, ?_⟩
  · have hcode : ReadsLines dialect _ _ [] :=
      readsLines_plain fun line hline c hc => (hinert line hline c hc).1
    exact (commentLines_reads hmodel _).append hcode
  · intro line hline
    rcases List.mem_append.mp hline with hline | hline
    · obtain rfl : line = "" := by simpa using hline
      exact hempty
    · exact hinert line hline
  · rw [driveMotors_append, driveMotors_append, driveMotors_append, hdrive.2,
      driveMotors_nil_of_head fun line hline => (himports line hline).2,
      driveMotors_nil_of_head fun line hline => (hsetups line hline).2]
    rfl

end CitPhysicalXR.Lego
