import CitPhysicalXR.Media.MediaRegistry

/-! The latest analysis of a source and the entity tags of its frames, in every run of the media
service. -/
namespace CitPhysicalXR.Media
open Foundation

/-- What a step does to the sources, the analyses under way and the published frames. -/
inductive MediaEffect (s s' : FabricMediaRegistry) (e : MediaEvent) : List MediaOutput → Prop
  | kept {out : List MediaOutput} (hsources : s'.sources = s.sources)
      (hanalyses : s'.analyses ⊆ s.analyses) (hpublished : s'.published = s.published)
      (hserved : ∀ frame, .served frame ∈ out →
        ∃ state ∈ s.sources, state.latestFrame = some frame) : MediaEffect s s' e out
  | registered {out : List MediaOutput} {state : MediaSourceState}
      (hsources : s'.sources = s.sources.upsert state)
      (hstate : state.latestFrame = none ∧ state.latestAnalysis = none ∨
        ∃ old ∈ s.sources, old.sourceId = state.sourceId ∧
          state.latestFrame = old.latestFrame ∧ state.latestAnalysis = old.latestAnalysis)
      (hanalyses : s'.analyses = s.analyses) (hpublished : s'.published = s.published)
      (hserved : ∀ frame, .served frame ∉ out) : MediaEffect s s' e out
  | removed {out : List MediaOutput} {sourceId : String}
      (hsources : s'.sources = s.sources.filterRows (·.sourceId ≠ sourceId))
      (hanalyses : s'.analyses = s.analyses) (hpublished : s'.published = s.published)
      (hserved : ∀ frame, .served frame ∉ out) : MediaEffect s s' e out
  | published {sourceId : String} {data : List UInt8} {contentType : String}
      {capturedAt : Option Instant} {publisherIdentityId : String} {time : Option Instant}
      {old state : MediaSourceState} {frame : MediaFrame}
      (he : e = .publishFrame sourceId data contentType capturedAt publisherIdentityId time)
      (hold : s.sources.get? sourceId = some old) (hsource : frame.sourceId = sourceId)
      (hsequence : frame.sequence = old.sequence + 1)
      (hsources : s'.sources = s.sources.upsert state) (hstate : state.sourceId = sourceId)
      (hframe : state.latestFrame = some frame) (hanalysis : state.latestAnalysis = none)
      (hanalyses : s'.analyses = s.analyses) (hpublished : s'.published = s.published ++ [frame]) :
      MediaEffect s s' e [.published frame]
  | started {pending : PendingAnalysis} {state : MediaSourceState} (hstate : state ∈ s.sources)
      (hsource : state.sourceId = pending.sourceId)
      (hframe : state.latestFrame = some pending.frame) (hsources : s'.sources = s.sources)
      (hanalyses : s'.analyses = s.analyses ++ [pending])
      (hpublished : s'.published = s.published) : MediaEffect s s' e []
  | analyzed {pending : PendingAnalysis} {analysis : VisionAnalysis} {state : MediaSourceState}
      {frame : MediaFrame} (hpending : pending ∈ s.analyses) (hfrom : analysis.frame = pending.frame)
      (hstate : state ∈ s.sources) (hsource : state.sourceId = pending.sourceId)
      (hframe : state.latestFrame = some frame) (hsequence : frame.sequence = pending.frame.sequence)
      (hsources : s'.sources = s.sources.upsert { state with latestAnalysis := some analysis })
      (hanalyses : s'.analyses ⊆ s.analyses) (hpublished : s'.published = s.published) :
      MediaEffect s s' e [.analyzed analysis]

namespace MediaEffect
variable {s s' : FabricMediaRegistry} {e : MediaEvent} {out : List MediaOutput}

theorem of_failed (error : FabricMediaError) : MediaEffect s s e [.failed error] :=
  .kept rfl (List.Subset.refl _) rfl (by simp)

theorem frame_eq_ok {sourceId : String} {frame : MediaFrame} (h : s.frame sourceId = .ok frame) :
    ∃ state ∈ s.sources, state.sourceId = sourceId ∧ state.latestFrame = some frame := by
  unfold FabricMediaRegistry.frame at h
  obtain ⟨state, hstate, h⟩ := bind_eq_ok.mp h
  unfold FabricMediaRegistry.source at hstate
  split at hstate
  · rename_i found hfound
    cases hstate
    split at h
    · rename_i latest hlatest
      cases h
      obtain ⟨hmem, hkey⟩ := Table.get?_some hfound
      exact ⟨state, hmem, hkey, hlatest⟩
    · cases h
  · cases hstate

theorem of_register {registration : MediaSourceRegistration} {publisherIdentityId : String}
    {time : Option Instant} {wire : SourceWire}
    (h : s.register registration publisherIdentityId time = .ok (s', wire)) :
    MediaEffect s s' e [.registered wire] := by
  unfold FabricMediaRegistry.register at h
  obtain ⟨_, h⟩ := seq_eq_ok.mp h
  obtain ⟨timestamp, _, h⟩ := bind_eq_ok.mp h
  obtain ⟨_, h⟩ := seq_eq_ok.mp h
  obtain ⟨_, h⟩ := seq_eq_ok.mp h
  cases h
  refine .registered rfl ?_ rfl rfl (by simp)
  cases hexisting : s.sources.get? registration.sourceId with
  | none => exact .inl ⟨rfl, rfl⟩
  | some old =>
    obtain ⟨hmem, hkey⟩ := Table.get?_some hexisting
    exact .inr ⟨old, hmem, hkey, rfl, rfl⟩

theorem of_remove {sourceId identityId : String} {canManage isRemoved : Bool}
    (h : s.remove sourceId identityId canManage = .ok (s', isRemoved)) :
    MediaEffect s s' e [.removed isRemoved] := by
  unfold FabricMediaRegistry.remove at h
  split at h
  · cases h
    exact .kept rfl (List.Subset.refl _) rfl (by simp)
  · obtain ⟨_, h⟩ := seq_eq_ok.mp h
    cases h
    exact .removed rfl rfl rfl (by simp)

theorem of_publishFrame {sourceId : String} {data : List UInt8} {contentType : String}
    {capturedAt : Option Instant} {publisherIdentityId : String} {time : Option Instant}
    {frame : MediaFrame}
    (h : s.publishFrame sourceId data contentType capturedAt publisherIdentityId time =
      .ok (s', frame)) :
    MediaEffect s s'
      (.publishFrame sourceId data contentType capturedAt publisherIdentityId time)
      [.published frame] := by
  unfold FabricMediaRegistry.publishFrame at h
  obtain ⟨timestamp, _, h⟩ := bind_eq_ok.mp h
  obtain ⟨captureTime, _, h⟩ := bind_eq_ok.mp h
  obtain ⟨_, h⟩ := seq_eq_ok.mp h
  obtain ⟨_, h⟩ := seq_eq_ok.mp h
  obtain ⟨⟨width, height⟩, _, h⟩ := bind_eq_ok.mp h
  simp only at h
  split at h
  · cases h
  · rename_i old hold
    obtain ⟨_, h⟩ := seq_eq_ok.mp h
    cases h
    exact .published rfl hold rfl rfl rfl (Table.get?_some hold).2 rfl rfl rfl rfl

theorem of_detected {detector : VisionDetector} {pending : PendingAnalysis}
    {result : Except FabricMediaError (List ObjectDetection)} (hpending : pending ∈ s.analyses)
    (h : s.detected detector pending result = (s', out)) : MediaEffect s s' e out := by
  have hsub : s.analyses.filter (·.task ≠ pending.task) ⊆ s.analyses :=
    List.filter_subset_self _
  unfold FabricMediaRegistry.detected at h
  cases result with
  | error error =>
    cases h
    exact .kept rfl hsub rfl (by simp)
  | ok detections =>
    simp only [FabricMediaRegistry.keepAnalysis] at h
    split at h
    · cases h
      exact .kept rfl hsub rfl (by simp)
    · rename_i state hstate
      obtain ⟨hmem, hkey⟩ := Table.get?_some hstate
      split at h
      · rename_i hsame
        obtain ⟨frame, hframe, hsequence⟩ := (Option.any_eq_true ..).mp hsame
        cases h
        exact .analyzed hpending rfl hmem hkey hframe (of_decide_eq_true hsequence) rfl hsub rfl
      · cases h
        exact .kept rfl hsub rfl (by simp)

theorem of_answer {α : Type} {result : Except FabricMediaError (FabricMediaRegistry × α)}
    {output : α → MediaOutput}
    (hok : ∀ {next value}, result = .ok (next, value) → MediaEffect s next e [output value])
    (h : s.answer result output = (s', out)) : MediaEffect s s' e out := by
  unfold FabricMediaRegistry.answer at h
  split at h
  · cases h
    exact hok rfl
  · cases h
    exact of_failed _

theorem of_step {detector : VisionDetector} (h : s.step detector e = some (s', out)) :
    MediaEffect s s' e out := by
  cases e with
  | register registration publisherIdentityId time =>
    exact of_answer of_register (Option.some.inj h)
  | remove sourceId identityId canManage => exact of_answer of_remove (Option.some.inj h)
  | publishFrame sourceId data contentType capturedAt publisherIdentityId time =>
    exact of_answer of_publishFrame (Option.some.inj h)
  | serveFrame sourceId =>
    refine of_answer ?_ (Option.some.inj h)
    intro next frame hok
    obtain ⟨found, hfound, hpair⟩ := map_eq_ok.mp hok
    cases hpair
    obtain ⟨state, hmem, _, hlatest⟩ := frame_eq_ok hfound
    refine .kept rfl (List.Subset.refl _) rfl ?_
    intro served hserved
    obtain rfl : served = frame := by simpa using hserved
    exact ⟨state, hmem, hlatest⟩
  | listSources siteId roomId time =>
    refine of_answer ?_ (Option.some.inj h)
    intro next wires hok
    obtain ⟨found, hfound, hpair⟩ := map_eq_ok.mp hok
    cases hpair
    exact .kept rfl (List.Subset.refl _) rfl (by simp)
  | analyze task sourceId time =>
    simp only [FabricMediaRegistry.step] at h
    split at h
    · cases h
    · split at h
      · rename_i next hnext
        cases h
        unfold FabricMediaRegistry.startAnalysis at hnext
        obtain ⟨frame, hframe, hnext⟩ := bind_eq_ok.mp hnext
        obtain ⟨analyzedAt, _, hnext⟩ := bind_eq_ok.mp hnext
        cases hnext
        obtain ⟨state, hmem, hkey, hlatest⟩ := frame_eq_ok hframe
        exact .started hmem hkey hlatest rfl rfl rfl
      · cases h
        exact of_failed _
  | detected task result =>
    simp only [FabricMediaRegistry.step] at h
    obtain ⟨pending, hpending, hnext⟩ := Option.map_eq_some_iff.mp h
    exact of_detected (List.mem_of_find?_eq_some hpending) hnext

end MediaEffect

/-- No earlier frame of the source has the number of the frame that is published. Numbers are
counted from one again when a source is removed and registered anew. -/
def FabricMediaRegistry.mayPublish (s : FabricMediaRegistry) : MediaEvent → Bool
  | .publishFrame sourceId .. =>
    (s.sources.get? sourceId).all fun state => s.published.all fun frame =>
      decide (frame.sourceId = sourceId → frame.sequence ≠ state.sequence + 1)
  | _ => true

structure Matched (s : FabricMediaRegistry) : Prop where
  tags : ∀ frame ∈ s.published, ∀ other ∈ s.published, frame.sourceId = other.sourceId →
    frame.sequence = other.sequence → frame = other
  latest : ∀ state ∈ s.sources, ∀ frame, state.latestFrame = some frame →
    frame ∈ s.published ∧ frame.sourceId = state.sourceId
  pending : ∀ pending ∈ s.analyses, pending.frame ∈ s.published ∧
    pending.frame.sourceId = pending.sourceId
  analysis : ∀ state ∈ s.sources, ∀ analysis, state.latestAnalysis = some analysis →
    state.latestFrame = some analysis.frame

namespace Matched
variable {s s' : FabricMediaRegistry} {e : MediaEvent} {out : List MediaOutput}

theorem init : Matched .initial := by
  constructor <;> simp [FabricMediaRegistry.initial]

theorem step (h : Matched s) (hmay : s.mayPublish e = true) (heffect : MediaEffect s s' e out) :
    Matched s' := by
  cases heffect with
  | kept hsources hanalyses hpublished _ =>
    constructor
    · rw [hpublished]
      exact h.tags
    · rw [hsources, hpublished]
      exact h.latest
    · rw [hpublished]
      exact fun pending hpending => h.pending pending (hanalyses hpending)
    · rw [hsources]
      exact h.analysis
  | @registered _ state hsources hstate hanalyses hpublished _ =>
    constructor
    · rw [hpublished]
      exact h.tags
    · rw [hsources, hpublished]
      intro row hrow frame hframe
      obtain rfl | ⟨hrow, _⟩ := Table.mem_upsert.mp hrow
      · rcases hstate with ⟨hnone, _⟩ | ⟨old, hold, hkey, hsame, _⟩
        · rw [hnone] at hframe
          cases hframe
        · rw [← hkey]
          exact h.latest old hold frame (hsame ▸ hframe)
      · exact h.latest row hrow frame hframe
    · rw [hanalyses, hpublished]
      exact h.pending
    · rw [hsources]
      intro row hrow analysis hanalysis
      obtain rfl | ⟨hrow, _⟩ := Table.mem_upsert.mp hrow
      · rcases hstate with ⟨_, hnone⟩ | ⟨old, hold, _, hframe, hsame⟩
        · rw [hnone] at hanalysis
          cases hanalysis
        · rw [hframe]
          exact h.analysis old hold analysis (hsame ▸ hanalysis)
      · exact h.analysis row hrow analysis hanalysis
  | removed hsources hanalyses hpublished _ =>
    constructor
    · rw [hpublished]
      exact h.tags
    · rw [hsources, hpublished]
      intro row hrow
      exact h.latest row ((Table.mem_filterRows _).mp hrow).1
    · rw [hanalyses, hpublished]
      exact h.pending
    · rw [hsources]
      intro row hrow
      exact h.analysis row ((Table.mem_filterRows _).mp hrow).1
  | @published sourceId _ _ _ _ _ old state frame he hold hsource hsequence hsources hstate hframe
      hanalysis hanalyses hpublished =>
    have hfresh : ∀ other ∈ s.published, other.sourceId = frame.sourceId →
        other.sequence ≠ frame.sequence := by
      rw [he] at hmay
      simp only [FabricMediaRegistry.mayPublish, hold, Option.all_some, List.all_eq_true,
        decide_eq_true_eq] at hmay
      intro other hother hsame
      rw [hsequence]
      exact hmay other hother (hsame.trans hsource)
    constructor
    · rw [hpublished]
      intro first hfirst second hsecond hid hnumber
      rcases List.mem_append.mp hfirst with hpast | hnew <;>
        rcases List.mem_append.mp hsecond with hpast' | hnew'
      · exact h.tags first hpast second hpast' hid hnumber
      · rw [List.mem_singleton.mp hnew'] at hid hnumber
        exact absurd hnumber (hfresh first hpast hid)
      · rw [List.mem_singleton.mp hnew] at hid hnumber
        exact absurd hnumber.symm (hfresh second hpast' hid.symm)
      · rw [List.mem_singleton.mp hnew, List.mem_singleton.mp hnew']
    · rw [hsources, hpublished]
      intro row hrow latest hlatest
      obtain rfl | ⟨hrow, _⟩ := Table.mem_upsert.mp hrow
      · rw [hframe] at hlatest
        cases hlatest
        exact ⟨List.mem_append_right _ (List.mem_singleton_self _), hsource.trans hstate.symm⟩
      · obtain ⟨hmem, hid⟩ := h.latest row hrow latest hlatest
        exact ⟨List.mem_append_left _ hmem, hid⟩
    · rw [hanalyses, hpublished]
      intro pending hpending
      obtain ⟨hmem, hid⟩ := h.pending pending hpending
      exact ⟨List.mem_append_left _ hmem, hid⟩
    · rw [hsources]
      intro row hrow analysis hlatest
      obtain rfl | ⟨hrow, _⟩ := Table.mem_upsert.mp hrow
      · rw [hanalysis] at hlatest
        cases hlatest
      · exact h.analysis row hrow analysis hlatest
  | @started pending state hstate hsource hframe hsources hanalyses hpublished =>
    constructor
    · rw [hpublished]
      exact h.tags
    · rw [hsources, hpublished]
      exact h.latest
    · rw [hanalyses, hpublished]
      intro other hother
      rcases List.mem_append.mp hother with hother | hother
      · exact h.pending other hother
      · rw [List.mem_singleton.mp hother, ← hsource]
        exact h.latest state hstate _ hframe
    · rw [hsources]
      exact h.analysis
  | @analyzed pending analysis state frame hpending hfrom hstate hsource hframe hsequence hsources
      hanalyses hpublished =>
    -- the frame that is the latest now has the number of the frame that was analyzed
    have hsame : frame = pending.frame := by
      obtain ⟨hmem, hid⟩ := h.latest state hstate frame hframe
      obtain ⟨hmem', hid'⟩ := h.pending pending hpending
      exact h.tags _ hmem _ hmem' (by rw [hid, hid', hsource]) hsequence
    constructor
    · rw [hpublished]
      exact h.tags
    · rw [hsources, hpublished]
      intro row hrow latest hlatest
      obtain rfl | ⟨hrow, _⟩ := Table.mem_upsert.mp hrow
      · exact h.latest state hstate latest hlatest
      · exact h.latest row hrow latest hlatest
    · rw [hpublished]
      exact fun pending hpending => h.pending pending (hanalyses hpending)
    · rw [hsources]
      intro row hrow kept hkept
      obtain rfl | ⟨hrow, _⟩ := Table.mem_upsert.mp hrow
      · cases hkept
        rw [hfrom, ← hsame]
        exact hframe
      · exact h.analysis row hrow kept hkept

end Matched

theorem MediaEffect.published_subset {s s' : FabricMediaRegistry} {e : MediaEvent}
    {out : List MediaOutput} (h : MediaEffect s s' e out) : s.published ⊆ s'.published := by
  cases h with
  | published _ _ _ _ _ _ _ _ _ hpublished =>
    rw [hpublished]
    exact List.subset_append_left _ _
  | kept _ _ hpublished _ | registered _ _ _ hpublished _ | removed _ _ hpublished _
  | started _ _ _ _ _ hpublished | analyzed _ _ _ _ _ _ _ _ hpublished =>
    rw [hpublished]
    exact List.Subset.refl _

theorem MediaEffect.served_published {s s' : FabricMediaRegistry} {e : MediaEvent}
    {out : List MediaOutput} (h : MediaEffect s s' e out) (hmatched : Matched s)
    {frame : MediaFrame} (hframe : .served frame ∈ out) : frame ∈ s'.published := by
  refine h.published_subset ?_
  cases h with
  | kept _ _ _ hserved =>
    obtain ⟨state, hstate, hlatest⟩ := hserved frame hframe
    exact (hmatched.latest state hstate frame hlatest).1
  | registered _ _ _ _ hserved => exact absurd hframe (hserved frame)
  | removed _ _ _ hserved => exact absurd hframe (hserved frame)
  | published | started | analyzed => simp at hframe

theorem etag_inj {frame other : MediaFrame} (hsource : frame.sourceId = other.sourceId)
    (h : frame.etag = other.etag) : frame.sequence = other.sequence := by
  unfold MediaFrame.etag at h
  rw [hsource] at h
  have hdigits : toString frame.sequence = toString other.sequence := by
    have hchars := congrArg String.toList h
    simp only [String.toList_append] at hchars
    exact String.toList_inj.mp (List.append_cancel_left (List.append_cancel_right hchars))
  have hread := congrArg TextRules.cpython.toInt? hdigits
  rw [TextRules.toInt?_toString, TextRules.toInt?_toString] at hread
  exact_mod_cast Option.some.inj hread

/-- When no frame is published under a number that an earlier frame of its source had, the latest
analysis of a source is one of its latest frame, and two frames of a source that are served under
one entity tag are the same frame. -/
theorem latest_matches {detector : VisionDetector} {trace : List (MediaEvent × List MediaOutput)}
    {s : FabricMediaRegistry}
    (h : ((mediaService detector).restrict fun s e => s.mayPublish e = true).Run trace s) :
    (∀ state ∈ s.sources, ∀ analysis, state.latestAnalysis = some analysis →
        state.latestFrame = some analysis.frame) ∧
      ∀ frame other, .served frame ∈ Machine.outputs trace →
        .served other ∈ Machine.outputs trace → frame.sourceId = other.sourceId →
          frame.etag = other.etag → frame = other := by
  have hinv : Matched s ∧ ∀ frame, .served frame ∈ Machine.outputs trace →
      frame ∈ s.published := by
    refine Machine.Run.induct (P := fun trace s => Matched s ∧
      ∀ frame, .served frame ∈ Machine.outputs trace → frame ∈ s.published) ?_ ?_ h
    · rintro _ rfl
      exact ⟨.init, by simp [Machine.outputs]⟩
    · rintro trace s e s' out _ ⟨hmatched, hserved⟩ ⟨hmay, hstep⟩
      have heffect := MediaEffect.of_step hstep
      refine ⟨hmatched.step hmay heffect, ?_⟩
      intro frame hframe
      rw [Machine.outputs_append, List.mem_append, Machine.outputs_singleton] at hframe
      rcases hframe with hframe | hframe
      · exact heffect.published_subset (hserved frame hframe)
      · exact heffect.served_published hmatched hframe
  obtain ⟨hmatched, hserved⟩ := hinv
  refine ⟨hmatched.analysis, ?_⟩
  intro frame other hframe hother hsource hetag
  exact hmatched.tags frame (hserved frame hframe) other (hserved other hother) hsource
    (etag_inj hsource hetag)

namespace MediaLesson

def detector : VisionDetector := ⟨"yolov8s-worldv2.pt", ["lamp", "drone"]⟩

def camera : MediaSourceRegistration where
  sourceId := "camera"
  displayName := "Camera"
  kind := .usb_camera
  captureMode := .video
  siteId := "site"
  roomId := "room"
  nodeId := none

/-- A PNG of 8 times 8 pixels that ends with the byte. -/
def png (last : UInt8) : List UInt8 :=
  [0x89, 0x50, 0x4E, 0x47, 0x0D, 0x0A, 0x1A, 0x0A, 0, 0, 0, 13, 0x49, 0x48, 0x44, 0x52,
    0, 0, 0, 8, 0, 0, 0, 8, 8, 2, 0, 0, 0, 0, 0, last]

def register : MediaEvent := .register camera "publisher" (some 0)

def publish (last : UInt8) : MediaEvent :=
  .publishFrame "camera" (png last) "image/png" (some 0) "publisher" (some 0)

def firstFrame : List MediaEvent :=
  [register, publish 1, .serveFrame "camera", .analyze 1 "camera" (some 0)]

/-- The source is removed and registered again, and its next frame is served. -/
def secondFrame : List MediaEvent :=
  [.remove "camera" "publisher" false, register, publish 2, .serveFrame "camera"]

def served? : MediaOutput → Option MediaFrame
  | .served frame => some frame
  | _ => none

end MediaLesson

/-- The late analysis of the first frame becomes the latest analysis of another frame, which was
served under the tag of the first one. -/
theorem late_analysis : ∃ trace s, (mediaService MediaLesson.detector).Run trace s ∧
    (∃ state ∈ s.sources, ∃ analysis, state.latestAnalysis = some analysis ∧
      state.latestFrame ≠ some analysis.frame) ∧
    ∃ frame other, .served frame ∈ Machine.outputs trace ∧
      .served other ∈ Machine.outputs trace ∧ frame.sourceId = other.sourceId ∧
        frame.etag = other.etag ∧ frame ≠ other := by
  have hexec : ((Machine.execute (FabricMediaRegistry.step · MediaLesson.detector)
      (fun _ _ => True) .initial
      (MediaLesson.firstFrame ++ MediaLesson.secondFrame ++ [MediaEvent.detected 1 (.ok [])])).any fun last =>
        (last.1.sources.rows.any fun state => state.latestAnalysis.any fun analysis =>
          decide (state.latestFrame ≠ some analysis.frame)) &&
        ((Machine.outputs last.2).filterMap MediaLesson.served?).any fun frame =>
          ((Machine.outputs last.2).filterMap MediaLesson.served?).any fun other =>
            decide (frame.sourceId = other.sourceId ∧ frame.etag = other.etag ∧ frame ≠ other)) =
      true := by
    decide
  obtain ⟨last, hlast, hend⟩ := (Option.any_eq_true ..).mp hexec
  rw [Bool.and_eq_true] at hend
  obtain ⟨hanalysis, htags⟩ := hend
  have hserved {frame : MediaFrame}
      (h : frame ∈ (Machine.outputs last.2).filterMap MediaLesson.served?) :
      .served frame ∈ Machine.outputs last.2 := by
    obtain ⟨output, houtput, hframe⟩ := List.mem_filterMap.mp h
    cases output <;> simp only [MediaLesson.served?, reduceCtorEq, Option.some.injEq] at hframe
    exact hframe ▸ houtput
  have hrun := (Machine.run_of_execute (M := mediaService MediaLesson.detector) rfl id
    hlast).of_restrict
  refine ⟨_, _, hrun, ?_, ?_⟩
  · obtain ⟨state, hstate, hlate⟩ := List.any_eq_true.mp hanalysis
    obtain ⟨analysis, hlatest, hne⟩ := (Option.any_eq_true ..).mp hlate
    exact ⟨state, hstate, analysis, hlatest, of_decide_eq_true hne⟩
  · obtain ⟨frame, hframe, hother⟩ := List.any_eq_true.mp htags
    obtain ⟨other, hother, hsame⟩ := List.any_eq_true.mp hother
    obtain ⟨hsource, hetag, hne⟩ := of_decide_eq_true hsame
    exact ⟨frame, other, hserved hframe, hserved hother, hsource, hetag, hne⟩

/-- The analysis of a frame is reported while that is the latest frame. -/
theorem latest_matches_camera : ∃ trace s,
    ((mediaService MediaLesson.detector).restrict fun s e => s.mayPublish e = true).Run trace s ∧
      s.sources.rows.any (·.latestAnalysis.isSome) = true ∧
      ∀ state ∈ s.sources, ∀ analysis, state.latestAnalysis = some analysis →
        state.latestFrame = some analysis.frame := by
  have hexec : ((Machine.execute (FabricMediaRegistry.step · MediaLesson.detector)
      (fun s e => s.mayPublish e = true) .initial
      (MediaLesson.firstFrame ++ [MediaEvent.detected 1 (.ok [])])).any fun last =>
        last.1.sources.rows.any (·.latestAnalysis.isSome)) = true := by
    decide
  obtain ⟨last, hlast, hend⟩ := (Option.any_eq_true ..).mp hexec
  have hrun := Machine.run_of_execute (M := mediaService MediaLesson.detector) rfl id hlast
  exact ⟨_, _, hrun, hend, (latest_matches hrun).1⟩

end CitPhysicalXR.Media
