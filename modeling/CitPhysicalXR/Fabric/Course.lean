import CitPhysicalXR.Fabric.Records

/-! Course packs: the target selectors of flows and the checks of `validate_course_pack`. -/
namespace CitPhysicalXR.Fabric
open Foundation

def maxParallelGroupRequests : ℕ := 128

/-- The statically bounded roles of a target selector. -/
def flowCandidateRoles (flow : FlowRecipe) : List Identifier :=
  match flow.target with
  | .role target => [target]
  | .group roles _ => roles
  | .payload _ allowedRoles _ => allowedRoles

def resolveFlowTargetRoles (flow : FlowRecipe) (payload : JsonObject) : List Identifier :=
  match flow.target with
  | .payload roleFromPayload allowedRoles _ =>
    match payload.get? roleFromPayload.text with
    | some (.str selected) => (allowedRoles.find? fun role => role.text = selected).toList
    | _ => []
  | _ => flowCandidateRoles flow

def flowTargetRequiredCapability (flow : FlowRecipe) : Option CapabilityIdentifier :=
  match flow.target with
  | .role _ => none
  | .group _ requiredCapability => requiredCapability
  | .payload _ _ requiredCapability => requiredCapability

theorem resolveFlowTargetRoles_subset {flow : FlowRecipe} {payload : JsonObject}
    {role : Identifier} (h : role ∈ resolveFlowTargetRoles flow payload) :
    role ∈ flowCandidateRoles flow := by
  unfold resolveFlowTargetRoles at h
  split at h
  · rename_i hflow
    split at h
    · simp only [flowCandidateRoles, hflow]
      exact List.mem_of_find?_eq_some (Option.mem_toList.mp h)
    · simp at h
  · exact h

/-- `', '.join(sorted(set(roles)))`. -/
def sortedTexts (names : List String) : String :=
  PyString.joinComma (names.dedup.insertionSort (· ≤ ·))

namespace CoursePack
variable (coursePack : CoursePack)

def requirement? (role : Identifier) : Option CourseRoleRequirement :=
  coursePack.roles.find? fun item => item.role = role

def isInputOnly (role : Identifier) : Bool :=
  (coursePack.requirement? role).any fun item => item.ioType = some .input

def roleTexts (p : Identifier → Bool) (roles : List Identifier) : List String :=
  (roles.filter p).map (·.text)

/-- The checks of one flow that do not depend on the other flows, up to the parallel group. -/
def validateTargets (flow : FlowRecipe) : Except FabricError Unit :=
  let name := PyString.repr flow.flowId.text
  let targetRoles := flowCandidateRoles flow
  let unknown := roleTexts (fun role => (coursePack.requirement? role).isNone) targetRoles
  let inputOnly := roleTexts coursePack.isInputOnly targetRoles
  if ¬ targetRoles.Nodup then .error (.value s!"Flow {name} target roles must be unique")
  else if unknown ≠ [] then
    .error (.value s!"Flow {name} targets undeclared roles: {sortedTexts unknown}")
  else if inputOnly ≠ [] then
    .error (.value s!"Flow {name} cannot target input-only roles: {sortedTexts inputOnly}")
  else if ¬ (flow.outputRoles.getD []).Nodup then
    .error (.value s!"Flow {name} output roles must be unique")
  else .ok ()

/-- The checks of one flow behind the parallel group: outputs and parameters. -/
def validateOutputs (flow : FlowRecipe) : Except FabricError Unit :=
  let name := PyString.repr flow.flowId.text
  let outputRoles := flow.outputRoles.getD []
  let unknown := roleTexts (fun role => (coursePack.requirement? role).isNone) outputRoles
  let inputOnly := roleTexts coursePack.isInputOnly outputRoles
  let isDynamic := !(flow.target matches .role _)
  let targetRoles := flowCandidateRoles flow
  let sameRoles := outputRoles.all (· ∈ targetRoles) && targetRoles.all (· ∈ outputRoles)
  let otherCapability := (flowTargetRequiredCapability flow).any (· ≠ flow.command.action)
  let bindings := flow.command.parameterBindings.map (·.parameter.text)
  let overlap := bindings.filter (· ∈ flow.command.fixedParameters.keys)
  if unknown ≠ [] then
    .error (.value s!"Flow {name} has undeclared output roles: {sortedTexts unknown}")
  else if inputOnly ≠ [] then
    .error (.value s!"Flow {name} lists input-only output roles: {sortedTexts inputOnly}")
  else if isDynamic && !sameRoles then
    .error (.value s!"Flow {name} must list every dynamic target in outputRoles")
  else if isDynamic && otherCapability then
    .error (.value s!"Flow {name} target capability must equal its command action")
  else if ¬ bindings.Nodup then
    .error (.value s!"Flow {name} maps more than one payload field to a parameter")
  else if overlap ≠ [] then
    .error (.value s!"Flow {name} defines fixed and dynamic values for: {sortedTexts overlap}")
  else .ok ()

def countParallel (flow : FlowRecipe) (counts : List (Identifier × ℕ)) :
    Except FabricError (List (Identifier × ℕ)) :=
  match flow.parallelGroup with
  | none => .ok counts
  | some group =>
    if !flow.enabled then .ok counts
    else
      let count := ((counts.find? fun entry => entry.1 = group).map Prod.snd).getD 0 +
        (flowCandidateRoles flow).length
      if maxParallelGroupRequests < count then
        .error (.value s!"Parallel group {PyString.repr group.text} exceeds the {maxParallelGroupRequests}-request bound")
      else .ok ((group, count) :: counts)

def validateFlows (counts : List (Identifier × ℕ)) : List FlowRecipe → Except FabricError Unit
  | [] => .ok ()
  | flow :: flows => do
    coursePack.validateTargets flow
    let counts ← countParallel flow counts
    coursePack.validateOutputs flow
    validateFlows counts flows

end CoursePack

def validateCoursePack (coursePack : CoursePack) : Except FabricError Unit :=
  if ¬ (coursePack.roles.map (·.role)).Nodup then
    .error (.value "Course pack role names must be unique")
  else if ¬ (coursePack.flows.map (·.flowId)).Nodup then
    .error (.value "Course pack flow IDs must be unique")
  else coursePack.validateFlows [] coursePack.flows

end CitPhysicalXR.Fabric
