import CitPhysicalXR.Media.MediaRegistry

/-! The scanner for the dimensions of a JPEG: it ends on every byte string without a look outside of
it, and finds the first frame header behind any marker segments. -/
namespace CitPhysicalXR.Media
open Foundation

namespace Checked

/-- `int.from_bytes(data[offset : offset + 2], "big")`, if both bytes are in the data. -/
def word (data : List UInt8) (offset : ℕ) : Option ℕ := do
  let high ← data[offset]?
  let low ← data[offset + 1]?
  return high.toNat * 256 + low.toNat

def skipFill (data : List UInt8) : ℕ → UInt8 → ℕ → Option (UInt8 × ℕ)
  | 0, _, _ => none
  | fuel + 1, marker, offset =>
    if marker = 0xFF ∧ offset < data.length then do
      skipFill data fuel (← data[offset]?) (offset + 1)
    else some (marker, offset)

/-- The marker that begins at an offset, and where it ends. -/
def readMarker (data : List UInt8) (offset : ℕ) : Option (UInt8 × ℕ) := do
  skipFill data data.length (← data[offset + 1]?) (offset + 2)

/-- The scan of `_jpeg_dimensions` with every look checked. It is `none` where a byte outside of the
data is looked at, and where it has not ended after the given number of rounds. -/
def scanSegments (data : List UInt8) : ℕ → ℕ → Option (Option (ℕ × ℕ))
  | 0, _ => none
  | fuel + 1, start =>
    if ¬start + 4 ≤ data.length then some none
    else do
      let byte ← data[start]?
      if byte ≠ 0xFF then scanSegments data fuel (start + 1)
      else
        let (marker, offset) ← readMarker data start
        if marker = 0xD8 ∨ marker = 0xD9 then scanSegments data fuel offset
        else if marker = 0xDA then some none
        else if offset + 2 > data.length then some none
        else
          let segmentLength ← word data offset
          if segmentLength < 2 ∨ offset + segmentLength > data.length then some none
          else if marker ∈ startOfFrame ∧ 7 ≤ segmentLength then do
            let height ← word data (offset + 3)
            let width ← word data (offset + 5)
            return some (width, height)
          else scanSegments data fuel (offset + segmentLength)

def jpegDimensions (data : List UInt8) : Option (Except FabricMediaError (ℕ × ℕ)) := do
  if [0xFF, 0xD8] <+: data then
    match ← scanSegments data data.length 2 with
    | some dimensions => return .ok dimensions
    | none => return .error (mediaError "MEDIA_FRAME_INVALID"
        "The JPEG camera frame does not contain dimensions" 400)
  else return .error (mediaError "MEDIA_FRAME_INVALID" "The JPEG camera frame is invalid" 400)

variable {data : List UInt8} {offset fuel : ℕ}

theorem word_agrees (h : offset + 2 ≤ data.length) :
    word data offset = some (bigEndian (slice data offset (offset + 2))) := by
  have hslice : slice data offset (offset + 2) = [data[offset], data[offset + 1]] := by
    rw [slice, List.drop_take, List.drop_eq_getElem_cons, List.drop_eq_getElem_cons,
      Nat.add_sub_cancel_left]
    rfl
  rw [word, List.getElem?_eq_getElem (by omega), List.getElem?_eq_getElem (by omega), hslice]
  simp [bigEndian]

theorem skipFill_agrees {marker : UInt8} (hfuel : 0 < fuel)
    (hlength : data.length < fuel + offset) (hoffset : offset ≤ data.length) :
    skipFill data fuel marker offset = some (Media.skipFill data fuel marker offset) ∧
      offset ≤ (Media.skipFill data fuel marker offset).2 ∧
      (Media.skipFill data fuel marker offset).2 ≤ data.length := by
  induction fuel generalizing marker offset with
  | zero => cases hfuel
  | succ fuel ih =>
    rw [skipFill, Media.skipFill]
    by_cases hmore : marker = 0xFF ∧ offset < data.length
    · obtain ⟨hskip, hle, hend⟩ :=
        @ih (offset + 1) data[offset] (by omega) (by omega) (by omega)
      rw [if_pos hmore, if_pos hmore, List.getD_eq_getElem?_getD,
        List.getElem?_eq_getElem hmore.2, Option.getD_some]
      exact ⟨hskip, by omega, hend⟩
    · rw [if_neg hmore, if_neg hmore]
      exact ⟨rfl, le_refl _, hoffset⟩

/-- Every round moves the offset, and looks only at bytes that it has checked for. -/
theorem scanSegments_agrees (hfuel : 0 < fuel) (hlength : data.length < fuel + offset) :
    scanSegments data fuel offset = some (Media.scanSegments data fuel offset) := by
  induction fuel generalizing offset with
  | zero => cases hfuel
  | succ fuel ih =>
    rw [scanSegments, Media.scanSegments]
    by_cases hmore : offset + 4 ≤ data.length
    case neg => rw [if_pos hmore, if_pos hmore]
    have hnext {next : ℕ} (hle : offset < next) :
        scanSegments data fuel next = some (Media.scanSegments data fuel next) :=
      ih (by omega) (by omega)
    rw [if_neg (not_not.mpr hmore), if_neg (not_not.mpr hmore), readMarker,
      List.getD_eq_getElem?_getD, List.getD_eq_getElem?_getD, List.getElem?_eq_getElem (by omega),
      List.getElem?_eq_getElem (by omega)]
    dsimp only [Option.bind_eq_bind, Option.bind_some, Option.getD_some]
    split
    · exact hnext (by omega)
    obtain ⟨hskip, hle, hend⟩ := @skipFill_agrees data (offset + 2) data.length data[offset + 1]
      (by omega) (by omega) (by omega)
    rw [hskip]
    generalize Media.skipFill data data.length data[offset + 1] (offset + 2) = read at hle hend ⊢
    obtain ⟨marker, start⟩ := read
    dsimp only [Option.bind_some] at hle hend ⊢
    split
    · exact hnext (by omega)
    split
    · rfl
    split
    · rfl
    rw [word_agrees (by omega), Option.bind_some]
    split
    · rfl
    split
    · rw [word_agrees (by omega), word_agrees (by omega)]
      rfl
    · exact hnext (by omega)

end Checked

/-- The markers without parameters: `TEM` and the restart markers stand in entropy-coded data, the
others where an image begins and ends. -/
def standalone : List UInt8 :=
  [0x01, 0xD0, 0xD1, 0xD2, 0xD3, 0xD4, 0xD5, 0xD6, 0xD7, 0xD8, 0xD9]

def wordBytes (n : ℕ) : List UInt8 := [UInt8.ofNat (n / 256), UInt8.ofNat (n % 256)]

/-- A marker with its fill bytes, the length of its parameters, and these. -/
def segmentBytes (fill : ℕ) (code : UInt8) (parameters : List UInt8) : List UInt8 :=
  0xFF :: (List.replicate fill 0xFF ++ code :: (wordBytes (parameters.length + 2) ++ parameters))

/-- A marker segment in front of the frame header: tables, comments, application data. -/
structure MarkerSegment where
  fill : ℕ
  code : UInt8
  parameters : List UInt8
  isSegment : code ∉ standalone ++ [0x00, 0xDA, 0xFF] ++ startOfFrame
  fits : parameters.length + 2 < 65536

def MarkerSegment.bytes (segment : MarkerSegment) : List UInt8 :=
  segmentBytes segment.fill segment.code segment.parameters

structure FrameHeader where
  fill : ℕ
  code : UInt8
  precision : UInt8
  height : ℕ
  width : ℕ
  components : List UInt8
  isFrame : code ∈ startOfFrame
  height_lt : height < 65536
  width_lt : width < 65536
  fits : components.length + 7 < 65536

def FrameHeader.bytes (frame : FrameHeader) : List UInt8 :=
  segmentBytes frame.fill frame.code
    (frame.precision :: wordBytes frame.height ++ wordBytes frame.width ++ frame.components)

/-- An image up to its first frame header, and whatever follows it. -/
structure JpegImage where
  segments : List MarkerSegment
  frame : FrameHeader
  rest : List UInt8

def JpegImage.bytes (image : JpegImage) : List UInt8 :=
  [0xFF, 0xD8] ++ image.segments.flatMap MarkerSegment.bytes ++ (image.frame.bytes ++ image.rest)

namespace Checked

theorem word_front (front back : List UInt8) {n : ℕ} (hn : n < 65536)
    (hdata : data = front ++ (wordBytes n ++ back)) (hoffset : offset = front.length) :
    word data offset = some n := by
  have hhigh : data[offset]? = some (UInt8.ofNat (n / 256)) := by
    simp [hdata, hoffset, wordBytes]
  have hlow : data[offset + 1]? = some (UInt8.ofNat (n % 256)) := by
    simp [hdata, hoffset, wordBytes]
  rw [word, hhigh, hlow]
  simp only [Option.bind_eq_bind, Option.bind_some, UInt8.toNat_ofNat']
  refine congrArg some ?_
  omega

theorem skipFill_front {marker code : UInt8} {fill : ℕ} {back : List UInt8} (hcode : code ≠ 0xFF)
    (hdata : marker :: data.drop offset = List.replicate fill 0xFF ++ code :: back)
    (hfuel : fill < fuel) : skipFill data fuel marker offset = some (code, offset + fill) := by
  induction fill generalizing marker offset fuel with
  | zero =>
    obtain ⟨fuel, rfl⟩ := Nat.exists_eq_add_of_lt hfuel
    obtain ⟨rfl, -⟩ := List.cons.inj hdata
    exact if_neg fun hmore => hcode (And.left hmore)
  | succ fill ih =>
    obtain ⟨fuel, rfl⟩ := Nat.exists_eq_succ_of_ne_zero (Nat.ne_zero_of_lt hfuel)
    obtain ⟨rfl, hrest⟩ := List.cons.inj hdata
    have hmore : offset < data.length := by
      by_contra hend
      rw [List.drop_eq_nil_of_le (not_lt.mp hend)] at hrest
      simp at hrest
    rw [List.drop_eq_getElem_cons hmore] at hrest
    rw [skipFill, if_pos ⟨rfl, hmore⟩, List.getElem?_eq_getElem hmore]
    exact (ih hrest (Nat.lt_of_succ_lt_succ hfuel)).trans (by rw [Nat.add_right_comm]; rfl)

theorem readMarker_front (front back : List UInt8) {code : UInt8} (hcode : code ≠ 0xFF)
    (fill : ℕ) (hdata : data = front ++ 0xFF :: (List.replicate fill 0xFF ++ code :: back)) :
    readMarker data front.length = some (code, front.length + fill + 2) := by
  have hlength : front.length + 1 + fill + 1 ≤ data.length := by
    simp [hdata]
    omega
  have hrest : data.drop (front.length + 1) = List.replicate fill 0xFF ++ code :: back := by
    rw [hdata, List.drop_append]
    simp
  rw [List.drop_eq_getElem_cons (by omega)] at hrest
  rw [readMarker, List.getElem?_eq_getElem (by omega)]
  exact (skipFill_front hcode hrest (by omega)).trans
    (congrArg (fun n => some (code, n)) (by omega))

/-- The scan goes past a marker segment, and ends at a frame header. -/
theorem scanSegments_segment (front back : List UInt8) {code : UInt8} (fill : ℕ)
    {parameters : List UInt8} (hcode : code ∉ standalone ++ [0x00, 0xDA, 0xFF])
    (hfits : parameters.length + 2 < 65536)
    (hdata : data = front ++ segmentBytes fill code parameters ++ back) :
    scanSegments data (fuel + 1) front.length =
      if code ∈ startOfFrame ∧ 5 ≤ parameters.length then do
        let height ← word data (front.length + fill + 5)
        let width ← word data (front.length + fill + 7)
        return some (width, height)
      else scanSegments data fuel (front ++ segmentBytes fill code parameters).length := by
  simp only [standalone, List.mem_append, List.mem_cons, List.not_mem_nil, or_false,
    not_or] at hcode
  obtain ⟨⟨-, -, -, -, -, -, -, -, -, hstart, hend⟩, -, hscan, hfill⟩ := hcode
  have hlength : (front ++ segmentBytes fill code parameters).length =
      front.length + fill + 2 + (parameters.length + 2) := by
    simp [segmentBytes, wordBytes]
    omega
  have hbounds : front.length + fill + 2 + (parameters.length + 2) ≤ data.length := by
    rw [hdata, List.length_append, hlength]
    exact Nat.le_add_right ..
  have hbyte : data[front.length]? = some 0xFF := by
    simp [hdata, segmentBytes]
  have hmarker : readMarker data front.length = some (code, front.length + fill + 2) :=
    readMarker_front front (wordBytes (parameters.length + 2) ++ (parameters ++ back)) hfill fill
      (by simp [hdata, segmentBytes])
  have hword : word data (front.length + fill + 2) = some (parameters.length + 2) :=
    word_front (front ++ 0xFF :: (List.replicate fill 0xFF ++ [code])) (parameters ++ back) hfits
      (by simp [hdata, segmentBytes]) (by simp; omega)
  rw [scanSegments, if_neg (not_not.mpr (by omega)), hbyte]
  dsimp only [Option.bind_eq_bind, Option.bind_some]
  rw [if_neg (not_not.mpr rfl), hmarker, Option.bind_some]
  dsimp only
  rw [if_neg (not_or.mpr ⟨hstart, hend⟩), if_neg hscan, if_neg (by omega), hword, Option.bind_some,
    if_neg (by omega), hlength]
  refine if_congr (and_congr_right fun _ => by omega) rfl rfl

theorem scanSegments_frame (front rest : List UInt8) (frame : FrameHeader)
    (hdata : data = front ++ frame.bytes ++ rest) :
    scanSegments data (fuel + 1) front.length = some (some (frame.width, frame.height)) := by
  obtain ⟨fill, code, precision, height, width, components, hframe, hheight, hwidth, hfits⟩ := frame
  have hcodes : startOfFrame.all (fun code => code ∉ standalone ++ [0x00, 0xDA, 0xFF]) := by decide
  have hcode := of_decide_eq_true (List.all_eq_true.mp hcodes code hframe)
  rw [scanSegments_segment front rest fill hcode
    (by simp only [wordBytes, List.length_append, List.length_cons, List.length_nil]; omega) hdata,
    if_pos ⟨hframe, by simp [wordBytes]⟩]
  have hheight : word data (front.length + fill + 5) = some height :=
    word_front (front ++ 0xFF :: (List.replicate fill 0xFF ++
      code :: (wordBytes (components.length + 7) ++ [precision])))
      (wordBytes width ++ (components ++ rest)) hheight
      (by simp [hdata, FrameHeader.bytes, segmentBytes, wordBytes]) (by simp [wordBytes]; omega)
  have hwidth : word data (front.length + fill + 7) = some width :=
    word_front (front ++ 0xFF :: (List.replicate fill 0xFF ++
      code :: (wordBytes (components.length + 7) ++ precision :: wordBytes height)))
      (components ++ rest) hwidth
      (by simp [hdata, FrameHeader.bytes, segmentBytes, wordBytes]) (by simp [wordBytes]; omega)
  rw [hheight, hwidth]
  rfl

theorem scanSegments_image (segments : List MarkerSegment) (frame : FrameHeader)
    (front rest : List UInt8) (hfuel : segments.length < fuel) :
    scanSegments (front ++ segments.flatMap MarkerSegment.bytes ++ (frame.bytes ++ rest)) fuel
      front.length = some (some (frame.width, frame.height)) := by
  induction segments generalizing front fuel with
  | nil =>
    obtain ⟨fuel, rfl⟩ := Nat.exists_eq_add_of_lt hfuel
    exact scanSegments_frame front rest frame (by simp)
  | cons segment segments ih =>
    obtain ⟨fuel, rfl⟩ : ∃ rounds, fuel = rounds + 1 :=
      Nat.exists_eq_succ_of_ne_zero (Nat.ne_zero_of_lt hfuel)
    obtain ⟨hcode, hframe⟩ := not_or.mp (mt List.mem_append.mpr segment.isSegment)
    have hnext := ih (front ++ segment.bytes) (Nat.lt_of_succ_lt_succ hfuel)
    rw [scanSegments_segment front (segments.flatMap MarkerSegment.bytes ++ (frame.bytes ++ rest))
      segment.fill hcode segment.fits (by simp [MarkerSegment.bytes]), if_neg fun h => hframe h.1]
    simpa [MarkerSegment.bytes] using hnext

end Checked

theorem segments_length_le (segments : List MarkerSegment) :
    segments.length ≤ (segments.flatMap MarkerSegment.bytes).length := by
  induction segments with
  | nil => exact le_refl _
  | cons segment segments ih =>
    rw [List.flatMap_cons, List.length_append, List.length_cons]
    have hmarker : 0 < segment.bytes.length := Nat.succ_pos _
    omega

theorem checked_jpegDimensions (data : List UInt8) :
    Checked.jpegDimensions data = some (jpegDimensions data) := by
  rw [Checked.jpegDimensions, jpegDimensions, raiseIf]
  by_cases hbegins : [0xFF, 0xD8] <+: data
  · have hlength := hbegins.length_le
    rw [List.length_cons, List.length_singleton] at hlength
    rw [if_pos hbegins, if_neg (not_not.mpr hbegins),
      Checked.scanSegments_agrees (by omega) (by omega)]
    cases scanSegments data data.length 2 <;> rfl
  · rw [if_neg hbegins, if_pos hbegins]
    rfl

/-- The scanner ends on every byte string without a look outside of it, and finds the frame header
that is the first behind any number of marker segments. -/
theorem jpeg_dimensions_found :
    (∀ data, Checked.jpegDimensions data = some (jpegDimensions data)) ∧
    ∀ image : JpegImage,
      jpegDimensions image.bytes = .ok (image.frame.width, image.frame.height) := by
  refine ⟨checked_jpegDimensions, fun image => ?_⟩
  have hfuel : image.segments.length < image.bytes.length := by
    have hsegments := segments_length_le image.segments
    simp only [JpegImage.bytes, List.length_append, List.length_cons, List.length_nil]
    omega
  have hscan := Checked.scanSegments_image image.segments image.frame [0xFF, 0xD8] image.rest hfuel
  have hbegins : [0xFF, 0xD8] <+: image.bytes := by
    rw [JpegImage.bytes, List.append_assoc]
    exact List.prefix_append ..
  have hfound : scanSegments image.bytes image.bytes.length 2 =
      some (image.frame.width, image.frame.height) :=
    Option.some.inj ((Checked.scanSegments_agrees (by omega) (by omega)).symm.trans hscan)
  rw [jpegDimensions, raiseIf, if_neg (not_not.mpr hbegins), hfound]
  rfl

end CitPhysicalXR.Media
