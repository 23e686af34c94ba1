import CitPhysicalXR.Lego.ProgramLines

/-! Programs for the hub say what their steps say: every text is one literal exactly if what is left
of it after the escapes fits, and speeds, durations and stops are as the caps ask for. -/
namespace CitPhysicalXR.Lego
open Foundation PythonSource

variable {model : HubModel} {ports : PortMap model} {cases : CaseTable}
  {settings : ProgramSettings} {dialect : Dialect}

theorem buildProgram_eq_ok {steps : List Step} {program : String} :
    buildProgram cases ports steps settings = .ok program ↔
      steps ≠ [] ∧ ports.motorPorts ≠ [] ∧ ∃ body header,
        List.Forall₂ (fun step line => stepLine cases ports settings step = .ok line) steps body ∧
        headerLines cases model ports.motorPorts (steps.any Step.drives) settings = .ok header ∧
        program = PyString.join '\n' (header ++ ["", "", "def main():"] ++ body ++
          footerLines cases ports.motorPorts (steps.any Step.drives)) ++ "\n" := by
  unfold buildProgram
  constructor
  · intro h
    obtain ⟨hsteps, hrest⟩ := seq_eq_ok.mp h
    obtain ⟨hmotors, hrest⟩ := seq_eq_ok.mp hrest
    obtain ⟨body, hbody, hrest⟩ := bind_eq_ok.mp hrest
    obtain ⟨header, hheader, hprogram⟩ := bind_eq_ok.mp hrest
    exact ⟨raiseIf_eq_ok.mp hsteps, raiseIf_eq_ok.mp hmotors, body, header, mapM_eq_ok.mp hbody,
      hheader, (Except.ok.inj hprogram).symm⟩
  · rintro ⟨hsteps, hmotors, body, header, hbody, hheader, rfl⟩
    apply seq_eq_ok.mpr
    refine ⟨raiseIf_eq_ok.mpr hsteps, seq_eq_ok.mpr ⟨raiseIf_eq_ok.mpr hmotors, ?_⟩⟩
    apply bind_eq_ok.mpr
    exact ⟨body, mapM_eq_ok.mpr hbody, bind_eq_ok.mpr ⟨header, hheader, rfl⟩⟩

def stopCalls (cases : CaseTable) (motors : List String) (usesDriveBase : Bool) : List Call :=
  (if usesDriveBase = true then [⟨["drive_base", "stop"], []⟩] else []) ++
    motors.map fun port => ⟨[motorName cases port, "stop"], []⟩

/-- The code of a program: its head, `main`, and the section that stops it. -/
def codeLines (head : List String) (calls stops : List Call) : List String :=
  head ++ (["", "", "def main():"] ++ (calls.map Call.render ++
    (["", "", "try:", "    main()", "finally:"] ++ stops.map Call.render)))

theorem footerLines_eq (motors : List String) (usesDriveBase : Bool) :
    footerLines cases motors usesDriveBase = ["", "", "try:", "    main()", "finally:"] ++
      (stopCalls cases motors usesDriveBase).map Call.render := by
  have hrender (object : String) :
      Call.render ⟨[object, "stop"], []⟩ = "    " ++ object ++ ".stop()" := by
    have hopening : ".stop(" = "." ++ "stop" ++ "(" := by rfl
    have hmark : ".stop()" = ".stop(" ++ ("" ++ ")") := by rfl
    rw [@render_method _ _ ".stop(" [] hopening, hmark]
    simp only [String.append_assoc]
    rfl
  have hdrive : "    drive_base.stop()" = Call.render ⟨["drive_base", "stop"], []⟩ := by
    rw [hrender]
    rfl
  have hmotors : motors.map (fun port => s!"    {motorName cases port}.stop()") =
      (motors.map fun port => Call.mk [motorName cases port, "stop"] []).map Call.render := by
    rw [List.map_map]
    apply List.map_congr_left
    intro port _
    exact (hrender _).symm
  cases usesDriveBase with
  | false => simp [footerLines, stopCalls, hmotors]
  | true => simp [footerLines, stopCalls, hmotors, hdrive]

theorem drives_blank (steps : List Step) :
    (steps.map Step.blank).any Step.drives = steps.any Step.drives := by
  rw [List.any_map]
  congr 1
  funext step
  cases step <;> rfl

theorem takeWhile_render (calls : List Call) (rest : List String) :
    (calls.map Call.render ++ "" :: rest).takeWhile (fun line => line ≠ "") =
      calls.map Call.render := by
  have hne : ∀ line ∈ calls.map Call.render, decide (line ≠ "") = true := by
    intro line hline
    obtain ⟨call, -, rfl⟩ := List.mem_map.mp hline
    have hblank : call.render ≠ "" := by
      intro hempty
      have hlist := congrArg String.toList hempty
      simp [Call.render] at hlist
    simpa using hblank
  rw [List.takeWhile_append_of_pos hne]
  simp

theorem blockCalls_render {calls : List Call} (h : ∀ call ∈ calls, call.WellFormed)
    (rest : List String) : blockCalls (calls.map Call.render ++ "" :: rest) = calls := by
  rw [blockCalls, takeWhile_render, List.map_map]
  exact (List.map_congr_left fun call hcall => Call.read_render (h call hcall)).trans
    (List.map_id' calls)

/-- A line that only follows lines other than it is the first of its kind. -/
theorem dropWhile_ne {before : List String} {head : String} (h : ∀ line ∈ before, line ≠ head)
    (rest : List String) :
    (before ++ head :: rest).dropWhile (fun line => line ≠ head) = head :: rest := by
  rw [List.dropWhile_append_of_pos (by simpa using h)]
  simp

variable {head : List String} {calls stops : List Call}

theorem mainCalls_codeLines (hhead : ∀ line ∈ head, Inert line)
    (hcalls : ∀ call ∈ calls, call.WellFormed) :
    mainCalls (codeLines head calls stops ++ [""]) = calls := by
  have hbefore : ∀ line ∈ head ++ ["", ""], line ≠ "def main():" := by
    intro line hline
    rcases List.mem_append.mp hline with hline | hline
    · exact (hhead line hline).ne_of_colon (by decide)
    · obtain rfl : line = "" := by simpa using hline
      decide
  have hlines : codeLines head calls stops ++ [""] = (head ++ ["", ""]) ++ "def main():" ::
      (calls.map Call.render ++ "" :: ("" :: "try:" :: "    main()" :: "finally:" ::
        (stops.map Call.render ++ [""]))) := by
    simp [codeLines]
  rw [mainCalls, hlines, dropWhile_ne hbefore]
  exact blockCalls_render hcalls _

theorem finallyCalls_codeLines (hhead : ∀ line ∈ head, Inert line)
    (hcalls : ∀ call ∈ calls, ∀ c ∈ call.render.toList, c ≠ ':')
    (hstops : ∀ call ∈ stops, call.WellFormed) :
    finallyCalls (codeLines head calls stops ++ [""]) = stops := by
  have hbefore : ∀ line ∈ head ++ ["", "", "def main():"] ++ calls.map Call.render ++ ["", ""],
      line ≠ "try:" := by
    intro line hline
    simp only [List.mem_append, or_assoc] at hline
    rcases hline with hline | hline | hline | hline
    · exact (hhead line hline).ne_of_colon (by decide)
    · have hall : ∀ line ∈ ["", "", "def main():"], line ≠ "try:" := by decide
      exact hall line hline
    · obtain ⟨call, hcall, rfl⟩ := List.mem_map.mp hline
      intro heq
      exact hcalls call hcall ':' (by rw [heq]; decide) rfl
    · obtain rfl : line = "" := by simpa using hline
      decide
  have hlines : codeLines head calls stops ++ [""] =
      (head ++ ["", "", "def main():"] ++ calls.map Call.render ++ ["", ""]) ++ "try:" ::
        ("    main()" :: "finally:" :: (stops.map Call.render ++ "" :: [])) := by
    simp [codeLines]
  rw [finallyCalls, hlines, dropWhile_ne hbefore]
  exact blockCalls_render hstops []

theorem driveMotors_codeLines :
    driveMotors (codeLines head calls stops ++ [""]) = driveMotors head := by
  have hrender (calls : List Call) : driveMotors (calls.map Call.render) = [] := by
    apply driveMotors_nil_of_head
    intro line hline
    obtain ⟨call, -, rfl⟩ := List.mem_map.mp hline
    simp [Call.render]
  have hframe : driveMotors ["", "", "def main():"] = [] ∧
      driveMotors ["", "", "try:", "    main()", "finally:"] = [] ∧ driveMotors [""] = [] := by
    decide
  unfold codeLines
  simp only [driveMotors_append, hrender, hframe, List.append_nil]

theorem lines_codeLines (hhead : ∀ line ∈ head, Inert line)
    (hcalls : ∀ call ∈ calls, ∀ c ∈ call.render.toList, c ≠ '\n')
    (hstops : ∀ call ∈ stops, ∀ c ∈ call.render.toList, c ≠ '\n') (values : List String) :
    (Source.mk (unlines (codeLines head calls stops)) values).lines =
      codeLines head calls stops ++ [""] := by
  apply lines_unlines
  intro line hline hbreak
  have hrender {calls : List Call} (hcalls : ∀ call ∈ calls, ∀ c ∈ call.render.toList, c ≠ '\n')
      (hmem : line ∈ calls.map Call.render) : False := by
    obtain ⟨call, hcall, rfl⟩ := List.mem_map.mp hmem
    exact hcalls call hcall '\n' hbreak rfl
  have hframe : ∀ line ∈ ["", "", "def main():"] ++ ["", "", "try:", "    main()", "finally:"],
      '\n' ∉ line.toList := by decide
  simp only [codeLines, List.mem_append] at hline
  rcases hline with hline | hline | hline | hline | hline
  · exact (hhead line hline).noBreak hbreak
  · exact hframe line (List.mem_append_left _ hline) hbreak
  · exact hrender hcalls hline
  · exact hframe line (List.mem_append_right _ hline) hbreak
  · exact hrender hstops hline

/-- The caps can be kept: a percentage that is not negative where a speed is asked for, and a
millisecond where a duration is. -/
def CapsLeaveRoom (settings : ProgramSettings) (steps : List Step) : Prop :=
  (∀ step ∈ steps, step.hasSpeed = true → 0 ≤ settings.maxMotorPercent) ∧
    ∀ step ∈ steps, step.hasDuration = true → 1 ≤ settings.maxCommandMilliseconds

theorem withinCaps_of_room {steps : List Step}
    (h : List.Forall₂ (Renders cases ports settings) steps calls)
    (hroom : CapsLeaveRoom settings steps) : WithinCaps settings calls := by
  induction h with
  | nil => exact ⟨by simp, by simp⟩
  | @cons step call steps calls hcall _ ih =>
    obtain ⟨hspeed, hduration⟩ := hroom
    have hrest := ih ⟨fun step hstep => hspeed step (List.mem_cons_of_mem _ hstep),
      fun step hstep => hduration step (List.mem_cons_of_mem _ hstep)⟩
    have hspeedHere := hspeed step (List.mem_cons_self ..)
    have hdurationHere := hduration step (List.mem_cons_self ..)
    constructor
    · intro other hother hnames
      rcases List.mem_cons.mp hother with rfl | hother
      · cases hcall with
        | motorRun hletter hdegrees _ =>
          exact ⟨_, rfl, degreesPerSecond_bounded hdegrees (hspeedHere rfl)⟩
        | motorAngle hletter hdegrees =>
          exact ⟨_, rfl, degreesPerSecond_bounded hdegrees (hspeedHere rfl)⟩
        | _ => simp at hnames
      · exact hrest.speed other hother hnames
    · intro other hother hnames
      rcases List.mem_cons.mp hother with rfl | hother
      · cases hcall with
        | motorRun _ _ hmilliseconds =>
          obtain ⟨hone, hcap⟩ := milliseconds_bounded hmilliseconds
          exact ⟨_, rfl, hone, hcap (hdurationHere rfl)⟩
        | wait hmilliseconds =>
          obtain ⟨hone, hcap⟩ := milliseconds_bounded hmilliseconds
          exact ⟨_, rfl, hone, hcap (hdurationHere rfl)⟩
        | _ => simp at hnames
      · exact hrest.duration other hother hnames

theorem room_of_withinCaps {steps : List Step}
    (h : List.Forall₂ (Renders cases ports settings) steps calls)
    (hcaps : WithinCaps settings calls) : CapsLeaveRoom settings steps := by
  induction h with
  | nil => exact ⟨by simp, by simp⟩
  | @cons step call steps calls hcall _ ih =>
    obtain ⟨hspeed, hduration⟩ := ih
      ⟨fun other hother => hcaps.speed other (List.mem_cons_of_mem _ hother),
        fun other hother => hcaps.duration other (List.mem_cons_of_mem _ hother)⟩
    have hspeedHere := hcaps.speed call (List.mem_cons_self ..)
    have hdurationHere := hcaps.duration call (List.mem_cons_self ..)
    have hpercent {degrees : ℤ}
        (hcap : 100 * |degrees| ≤ maxMotorDegreesPerSecond * settings.maxMotorPercent) :
        0 ≤ settings.maxMotorPercent := by
      have hnonneg := abs_nonneg degrees
      unfold maxMotorDegreesPerSecond at hcap
      omega
    constructor
    · intro other hother hasSpeed
      rcases List.mem_cons.mp hother with rfl | hother
      · cases hcall with
        | motorRun =>
          obtain ⟨_, -, -, hcap⟩ := hspeedHere ⟨_, .inl rfl⟩
          exact hpercent hcap
        | motorAngle =>
          obtain ⟨_, -, -, hcap⟩ := hspeedHere ⟨_, .inr rfl⟩
          exact hpercent hcap
        | _ => cases hasSpeed
      · exact hspeed other hother hasSpeed
    · intro other hother hasDuration
      rcases List.mem_cons.mp hother with rfl | hother
      · cases hcall with
        | motorRun =>
          obtain ⟨_, -, hone, hcap⟩ := hdurationHere (.inl ⟨_, rfl⟩)
          exact hone.trans hcap
        | wait =>
          obtain ⟨_, -, hone, hcap⟩ := hdurationHere (.inr rfl)
          exact hone.trans hcap
        | _ => cases hasDuration
      · exact hduration other hother hasDuration

theorem Renders.stopped {step : Step} {call : Call} {drive : List String} {usesDriveBase : Bool}
    (hmodel : model ∈ HubModel.supported) (h : Renders cases ports settings step call)
    (huses : step.drives = true → usesDriveBase = true)
    (hdrive : ∀ motor ∈ drive, ∃ port ∈ ports.motorPorts, motor = motorName cases port) :
    (∀ motor ∈ call.starts drive,
      Call.mk [motor, "stop"] [] ∈ stopCalls cases ports.motorPorts usesDriveBase) ∧
    (call.names.head? = some "drive_base" →
      usesDriveBase = true ∧ 2 ≤ ports.motorPorts.length) := by
  have hmotor {port : String} (hport : port ∈ ports.motorPorts) :
      Call.mk [motorName cases port, "stop"] [] ∈
        stopCalls cases ports.motorPorts usesDriveBase :=
    List.mem_append_right _ (List.mem_map.mpr ⟨port, hport, rfl⟩)
  have hbase : ∀ motor ∈ drive,
      Call.mk [motor, "stop"] [] ∈ stopCalls cases ports.motorPorts usesDriveBase := by
    intro motor hmem
    obtain ⟨port, hport, rfl⟩ := hdrive motor hmem
    exact hmotor hport
  have hname {port : String} (hport : port ∈ ports.motorPorts) :
      motorName cases port ≠ "drive_base" := by
    have hall : ∀ name ∈ ["motor_a", "motor_b", "motor_c", "motor_d", "motor_e", "motor_f"],
        name ≠ "drive_base" := by decide
    exact hall _ (motorName_letter (PortMap.motorPorts_letters hmodel hport))
  cases h with
  | motorRun hletter =>
    have hne := hname hletter
    constructor
    · intro motor hstarts
      obtain rfl : motor = _ := by simpa [Call.starts, hne] using hstarts
      exact hmotor hletter
    · intro hhead
      exact absurd (Option.some.inj hhead) hne
  | motorAngle hletter =>
    have hne := hname hletter
    constructor
    · intro motor hstarts
      obtain rfl : motor = _ := by simpa [Call.starts, hne] using hstarts
      exact hmotor hletter
    · intro hhead
      exact absurd (Option.some.inj hhead) hne
  | driveStraight hmotors => exact ⟨hbase, fun _ => ⟨huses rfl, hmotors⟩⟩
  | driveTurn hmotors => exact ⟨hbase, fun _ => ⟨huses rfl, hmotors⟩⟩
  | wait => exact ⟨by simp [Call.starts], by simp⟩
  | display => exact ⟨by simp [Call.starts], by simp⟩

theorem stopCalls_wellFormed {motors : List String} {usesDriveBase : Bool}
    (hmotors : ∀ port ∈ motors, port ∈ portLetters) :
    ∀ call ∈ stopCalls cases motors usesDriveBase,
      call.WellFormed ∧ ∀ c ∈ call.render.toList, isPlain c = true := by
  have hstop {object : String} (hobject : Simple object) :
      (Call.mk [object, "stop"] []).WellFormed ∧
        ∀ c ∈ (Call.mk [object, "stop"] []).render.toList, isPlain c = true := by
    have hnames : ∀ name ∈ [object, "stop"], Simple name := by
      simpa using ⟨hobject, (by decide : Simple "stop")⟩
    constructor
    · refine ⟨by simp, ?_, by simp⟩
      intro name hname c hc
      have hsimple := hnames name hname c hc
      exact ⟨ne_of_isSimple '.' hsimple (by decide), ne_of_isSimple '(' hsimple (by decide),
        ne_of_isSimple ' ' hsimple (by decide)⟩
    · intro c hc
      rcases Call.mem_render hc with hmark | ⟨name, hname, hc⟩ | ⟨argument, hargument, -⟩
      · have hall : ∀ c ∈ [' ', '.', '(', ',', ')'], isPlain c = true := by decide
        exact hall c hmark
      · exact isPlain_of_isSimple (hnames name hname c hc)
      · cases hargument
  intro call hcall
  rcases List.mem_append.mp hcall with hcall | hcall
  · cases usesDriveBase with
    | false => cases hcall
    | true =>
      obtain rfl := List.mem_singleton.mp hcall
      exact hstop (by decide)
  · obtain ⟨port, hport, rfl⟩ := List.mem_map.mp hcall
    exact hstop (simple_motorName (hmotors port hport))

theorem program_source {header body values : List String} {motors : List String}
    {usesDriveBase : Bool} (hmotors : ∀ port ∈ motors, port ∈ portLetters)
    (hheader : ReadsLines dialect header head [])
    (hbody : ReadsLines dialect body (calls.map Call.render) values) :
    dialect.source? (PyString.join '\n' (header ++ ["", "", "def main():"] ++ body ++
      footerLines cases motors usesDriveBase) ++ "\n") =
      some ⟨unlines (codeLines head calls (stopCalls cases motors usesDriveBase)), values⟩ := by
  have hplain : ∀ line ∈ ["", "", "def main():"] ++ ["", "", "try:", "    main()", "finally:"],
      ∀ c ∈ line.toList, isPlain c := by decide
  have hmain : ReadsLines dialect ["", "", "def main():"] ["", "", "def main():"] [] :=
    readsLines_plain fun line hline => hplain line (List.mem_append_left _ hline)
  have hguard : ReadsLines dialect ["", "", "try:", "    main()", "finally:"]
      ["", "", "try:", "    main()", "finally:"] [] :=
    readsLines_plain fun line hline => hplain line (List.mem_append_right _ hline)
  have hstops : ReadsLines dialect ((stopCalls cases motors usesDriveBase).map Call.render)
      ((stopCalls cases motors usesDriveBase).map Call.render) [] := by
    apply readsLines_plain
    intro line hline
    obtain ⟨call, hcall, rfl⟩ := List.mem_map.mp hline
    exact (stopCalls_wellFormed hmotors call hcall).2
  have hlines := (hheader.append (hmain.append (hbody.append (hguard.append hstops)))).source
  have hshape : header ++ ["", "", "def main():"] ++ body ++
      footerLines cases motors usesDriveBase = header ++ (["", "", "def main():"] ++ (body ++
        (["", "", "try:", "    main()", "finally:"] ++
          (stopCalls cases motors usesDriveBase).map Call.render))) := by
    rw [footerLines_eq]
    simp only [List.append_assoc]
  rw [Dialect.source?, hshape, join_newline (by simp), hlines]
  simp [codeLines]

theorem drives_motors (hmodel : model ∈ HubModel.supported) {steps : List Step}
    {body : List String}
    (hbody : List.Forall₂ (fun step line => stepLine cases ports settings step = .ok line)
      steps body) (hdrives : steps.any Step.drives = true) : 2 ≤ ports.motorPorts.length := by
  induction hbody with
  | nil => cases hdrives
  | @cons step line steps body hstep _ ih =>
    rw [List.any_cons, Bool.or_eq_true] at hdrives
    rcases hdrives with hdrives | hdrives
    · obtain ⟨call, hcall, -⟩ := stepLine_renders hmodel hstep
      cases hcall with
      | driveStraight hmotors => exact hmotors
      | driveTurn hmotors => exact hmotors
      | _ => cases hdrives
    · exact ih hdrives

/-- A program is a source that says what its steps say, or none, by whether the texts fit. -/
theorem buildProgram_source (hmodel : model ∈ HubModel.supported) {steps : List Step}
    {program : String} (h : buildProgram cases ports steps settings = .ok program) :
    ((∀ text ∈ steps.filterMap Step.text?, Fits dialect text) →
      ∃ head calls values, dialect.source? program = some ⟨unlines (codeLines head calls
          (stopCalls cases ports.motorPorts (steps.any Step.drives))), values⟩ ∧
        List.Forall₂ (fun text value => value.toList <+: sanitised text.toList)
          (steps.filterMap Step.text?) values ∧
        List.Forall₂ (Renders cases ports settings) steps calls ∧
        (∀ line ∈ head, Inert line) ∧
        driveMotors head = (if steps.any Step.drives = true then
          [motorName cases (ports.motorPorts.headD ""),
            motorName cases (ports.motorPorts.tail.headD "")] else []) ∧
        ∃ blank blanks, buildProgram cases ports (steps.map Step.blank) settings = .ok blank ∧
          dialect.source? blank = some ⟨unlines (codeLines head calls
            (stopCalls cases ports.motorPorts (steps.any Step.drives))), blanks⟩) ∧
    (∀ text ∈ steps.filterMap Step.text?, ¬ Fits dialect text →
      dialect.source? program = none) := by
  obtain ⟨hsteps, hmotors, body, header, hbody, hheader, rfl⟩ := buildProgram_eq_ok.mp h
  have hletters : ∀ port ∈ ports.motorPorts, port ∈ portLetters :=
    fun port hport => PortMap.motorPorts_letters hmodel hport
  have htwo := drives_motors hmodel hbody
  obtain ⟨head, hhead, hinert, hdrive⟩ :=
    @headerLines_reads _ _ _ dialect hmodel _ _ _ hletters htwo hheader
  constructor
  · intro hfits
    obtain ⟨calls, values, blanks, hcalls, hreads, hvalues, hblank, hblankReads⟩ :=
      body_reads hmodel hbody hfits
    refine ⟨head, calls, values, program_source hletters hhead hreads, hvalues, hcalls, hinert,
      hdrive, _, blanks, buildProgram_eq_ok.mpr ⟨by simpa using hsteps, hmotors,
        calls.map Call.render, header, hblank, ?_, rfl⟩, ?_⟩
    · rw [drives_blank]
      exact hheader
    · rw [drives_blank]
      exact program_source hletters hhead hblankReads
  · intro text htext hnot
    obtain ⟨hread, hbroken⟩ := @body_breaks _ _ _ _ dialect hmodel _ _ hbody
    obtain ⟨line, hline, hbreaks⟩ := hbroken text htext hnot
    have hmain : ReadsLines dialect ["", "", "def main():"] ["", "", "def main():"] [] := by
      apply readsLines_plain
      decide
    have hfront := hhead.append hmain
    have hne : header ++ ["", "", "def main():"] ++ body ++
        footerLines cases ports.motorPorts (steps.any Step.drives) ≠ [] := by simp
    have hrest : PythonSource.read dialect (.code '\n') (unlines (body ++
        footerLines cases ports.motorPorts (steps.any Step.drives))) = none := by
      rw [unlines_append]
      exact hbreaks.none hline hread _
    rw [Dialect.source?, join_newline hne, List.append_assoc, unlines_append, hfront, hrest]
    rfl

theorem Renders.exists_step {steps : List Step}
    (h : List.Forall₂ (Renders cases ports settings) steps calls) :
    ∀ call ∈ calls, ∃ step ∈ steps, Renders cases ports settings step call := by
  induction h with
  | nil => simp
  | @cons step call steps calls hcall _ ih =>
    intro other hother
    rcases List.mem_cons.mp hother with rfl | hother
    · exact ⟨step, List.mem_cons_self .., hcall⟩
    · obtain ⟨found, hfound, hrenders⟩ := ih other hother
      exact ⟨found, List.mem_cons_of_mem _ hfound, hrenders⟩

theorem stopsMotors_of_renders (hmodel : model ∈ HubModel.supported) {steps : List Step}
    {lines : List String} (hcalls : List.Forall₂ (Renders cases ports settings) steps calls)
    (hmain : mainCalls lines = calls)
    (hfinally : finallyCalls lines = stopCalls cases ports.motorPorts (steps.any Step.drives))
    (htwo : steps.any Step.drives = true → 2 ≤ ports.motorPorts.length)
    (hdrive : driveMotors lines = if steps.any Step.drives = true then
      [motorName cases (ports.motorPorts.headD ""),
        motorName cases (ports.motorPorts.tail.headD "")] else []) : StopsMotors lines := by
  have hports : ∀ motor ∈ driveMotors lines, ∃ port ∈ ports.motorPorts,
      motor = motorName cases port := by
    rw [hdrive]
    split
    · rename_i hdrives
      match hmotors : ports.motorPorts, htwo hdrives with
      | first :: second :: rest, _ => simp
    · simp
  constructor
  · intro call hcall motor hstarts
    rw [hmain] at hcall
    obtain ⟨step, hstep, hrenders⟩ := Renders.exists_step hcalls call hcall
    rw [hfinally]
    have huses : step.drives = true → steps.any Step.drives = true :=
      fun hdrives => List.any_eq_true.mpr ⟨step, hstep, hdrives⟩
    exact (hrenders.stopped hmodel huses hports).1 motor hstarts
  · intro call hcall hhead
    rw [hmain] at hcall
    obtain ⟨step, hstep, hrenders⟩ := Renders.exists_step hcalls call hcall
    have huses : step.drives = true → steps.any Step.drives = true :=
      fun hdrives => List.any_eq_true.mpr ⟨step, hstep, hdrives⟩
    have hdrives := ((hrenders.stopped hmodel huses hports).2 hhead).1
    rw [hdrive, hfinally, if_pos hdrives, hdrives]
    exact ⟨rfl, List.mem_append_left _ (List.mem_singleton.mpr rfl)⟩

/-- A program keeps to its steps exactly if every text fits and the caps leave room. -/
theorem programs_contained_iff (hmodel : model ∈ HubModel.supported) (ports : PortMap model)
    (cases : CaseTable) (steps : List Step) (settings : ProgramSettings) (dialect : Dialect)
    {program : String} (h : buildProgram cases ports steps settings = .ok program) :
    Contained cases ports steps settings dialect program ↔
      (∀ text ∈ steps.filterMap Step.text?, Fits dialect text) ∧ CapsLeaveRoom settings steps := by
  obtain ⟨hfitting, hbreaking⟩ := @buildProgram_source _ _ _ _ dialect hmodel _ _ h
  by_cases hfits : ∀ text ∈ steps.filterMap Step.text?, Fits dialect text
  · obtain ⟨head, calls, values, hsource, hvalues, hcalls, hinert, hdrive, blank, blanks, hblank,
      hblankSource⟩ := hfitting hfits
    have hmotors : ∀ port ∈ ports.motorPorts, port ∈ portLetters :=
      fun port hport => PortMap.motorPorts_letters hmodel hport
    have hwell : ∀ call ∈ calls,
        call.WellFormed ∧ ∀ c ∈ call.render.toList, c ≠ '\n' ∧ c ≠ ':' := by
      intro call hcall
      obtain ⟨step, -, hrenders⟩ := Renders.exists_step hcalls call hcall
      exact ⟨hrenders.wellFormed hmodel, hrenders.chars hmodel⟩
    have hstops := @stopCalls_wellFormed cases _ (steps.any Step.drives) hmotors
    have hlines : (Source.mk (unlines (codeLines head calls
        (stopCalls cases ports.motorPorts (steps.any Step.drives)))) values).lines =
          codeLines head calls (stopCalls cases ports.motorPorts (steps.any Step.drives)) ++
            [""] := by
      apply lines_codeLines hinert
      · exact fun call hcall c hc => ((hwell call hcall).2 c hc).1
      · intro call hcall c hc hbreak
        have hplain := (hstops call hcall).2 c hc
        rw [hbreak] at hplain
        exact absurd hplain (by decide)
    have hmain : mainCalls (codeLines head calls
        (stopCalls cases ports.motorPorts (steps.any Step.drives)) ++ [""]) = calls :=
      mainCalls_codeLines hinert fun call hcall => (hwell call hcall).1
    have hfinally : finallyCalls (codeLines head calls
        (stopCalls cases ports.motorPorts (steps.any Step.drives)) ++ [""]) =
          stopCalls cases ports.motorPorts (steps.any Step.drives) :=
      finallyCalls_codeLines hinert (fun call hcall c hc => ((hwell call hcall).2 c hc).2)
        fun call hcall => (hstops call hcall).1
    constructor
    · rintro ⟨source, hread, -, -, -, hcaps, -⟩
      rw [hsource] at hread
      obtain rfl := Option.some.inj hread
      rw [hlines, hmain] at hcaps
      exact ⟨hfits, room_of_withinCaps hcalls hcaps⟩
    · rintro ⟨-, hroom⟩
      refine ⟨_, hsource, hvalues, ⟨blank, _, hblank, hblankSource, rfl⟩, ?_, ?_, ?_⟩
      · rw [hlines, hmain]
        exact hcalls.length_eq.symm
      · rw [hlines, hmain]
        exact withinCaps_of_room hcalls hroom
      · rw [hlines]
        apply stopsMotors_of_renders hmodel hcalls hmain hfinally
        · obtain ⟨-, -, body, -, hbody, -, -⟩ := buildProgram_eq_ok.mp h
          exact drives_motors hmodel hbody
        · rw [driveMotors_codeLines, hdrive]
  · constructor
    · rintro ⟨source, hsource, -⟩
      push Not at hfits
      obtain ⟨text, htext, hnot⟩ := hfits
      rw [hbreaking text htext hnot] at hsource
      cases hsource
    · exact fun hgood => absurd hgood.1 hfits

def asciiCases : CaseTable where
  upper s := String.ofList (s.toList.map Char.toUpper)
  lower s := String.ofList (s.toList.map Char.toLower)
  upper_ascii s _ := String.toList_ofList
  lower_ascii s _ := String.toList_ofList
  ascii_of_upper s h c hc := by
    have hletters : ∀ letter ∈ portLetters, ∀ c ∈ letter.toList, c.toNat < 128 := by decide
    have hupper : c.toUpper.toNat < 128 := by
      apply hletters _ h
      rw [String.toList_ofList]
      exact List.mem_map_of_mem hc
    unfold Char.toUpper at hupper
    split at hupper
    · rename_i hlower
      have hle : c.val.toNat ≤ 'z'.val.toNat := UInt32.le_iff_toNat_le.mp hlower.2
      exact hle.trans_lt (by decide)
    · exact hupper

/-- Two motors and a distance sensor. -/
def drivingBase : PortMap HubModel.spikePrime where
  entries := [("A", .motor), ("B", .motor), ("C", .distance)]
  nodup := by decide
  onHub := by decide

def lessonSteps : List Step :=
  [Step.driveStraight 200 (.finite (3 / 10)), .motorRun "a" (.finite (1 / 2)) (.finite 1),
    .display "say \"hi\"\nnow", .wait (.finite (1 / 2))]

theorem programs_contained_lesson :
    ∃ program, buildProgram asciiCases drivingBase lessonSteps {} = .ok program ∧
      Contained asciiCases drivingBase lessonSteps {} .micropython program := by
  have hbuilt : (buildProgram asciiCases drivingBase lessonSteps {}).toOption.isSome = true := by
    decide +kernel
  cases hprogram : buildProgram asciiCases drivingBase lessonSteps {} with
  | error e =>
    rw [hprogram] at hbuilt
    cases hbuilt
  | ok program =>
    refine ⟨program, rfl, ?_⟩
    apply (programs_contained_iff (by decide) drivingBase asciiCases lessonSteps {} .micropython
      hprogram).mpr
    constructor
    · intro text htext
      obtain rfl : "say \"hi\"\nnow" = text := by simpa [lessonSteps, Step.text?] using htext
      exact ⟨_, List.prefix_rfl, .inr ⟨rfl, by decide⟩, by decide⟩
    · exact ⟨by decide, by decide⟩

/-- A quote behind 31 other characters: its escape is cut in two. -/
def cutText : String := String.ofList (List.replicate 31 'x' ++ ['"'])

theorem cutText_toList : cutText.toList = List.replicate 31 'x' ++ ['"'] := String.toList_ofList

theorem cutText_not_fits : ¬ Fits dialect cutText := by
  rintro ⟨front, hfront, hends, -⟩
  rw [cutText_toList] at hfront hends
  have hlength : front.length < 33 := Nat.lt_succ_of_le hfront.length_le
  have hall : ∀ n < 33, columns ((List.replicate 31 'x' ++ ['"']).take n) ≠ 32 ∧
      ¬ columns (List.replicate 31 'x' ++ ['"']) ≤ 32 := by decide
  obtain ⟨hcut, hwhole⟩ := hall front.length hlength
  rw [← List.prefix_iff_eq_take.mp hfront] at hcut
  rcases hends with hfull | ⟨rfl, hshort⟩
  · exact hcut hfull
  · exact hwhole hshort

theorem cut_escape_breaks :
    ¬ ∀ (model : HubModel), model ∈ HubModel.supported → ∀ (ports : PortMap model)
      (cases : CaseTable) (steps : List Step) (settings : ProgramSettings) (program : String),
        buildProgram cases ports steps settings = .ok program →
          Contained cases ports steps settings .micropython program := by
  intro h
  have hbuilt : (buildProgram asciiCases drivingBase [Step.display cutText] {}).toOption.isSome =
      true := by decide
  cases hprogram : buildProgram asciiCases drivingBase [Step.display cutText] {} with
  | error e =>
    rw [hprogram] at hbuilt
    cases hbuilt
  | ok program =>
    have hnone : Dialect.micropython.source? program = none :=
      (buildProgram_source (by decide) hprogram).2 cutText (by simp [Step.text?]) cutText_not_fits
    obtain ⟨source, hsource, -⟩ := h _ (by decide) drivingBase asciiCases _ _ _ hprogram
    rw [hnone] at hsource
    cases hsource

end CitPhysicalXR.Lego
