import Mathlib
import CitPhysicalXR.Foundation.Execution
import CitPhysicalXR.Foundation.PyDatetime

/-! The FTP ingress of the camera: uploads of parts and receipts, and the worker that verifies a part
and moves it into the folder of the camera files. -/
namespace CitPhysicalXR.Camera
open Foundation

/-- `str.casefold`, as far as its result can be ASCII text. -/
def casefold (value : String) : String :=
  String.ofList (value.toList.flatMap fun c =>
    match c with
    | 'ſ' => ['s']
    | 'ß' | 'ẞ' => ['s', 's']
    | 'ﬀ' => ['f', 'f']
    | 'ﬁ' => ['f', 'i']
    | 'ﬂ' => ['f', 'l']
    | 'ﬃ' => ['f', 'f', 'i']
    | 'ﬄ' => ['f', 'f', 'l']
    | 'ﬅ' | 'ﬆ' => ['s', 't']
    | 'K' => ['k']
    | c => [c.toLower])

/-- Where the suffix of a name begins; a name does not begin or end with its suffix's dot. -/
def suffixStart (name : List Char) : Option ℕ :=
  let behind := (name.reverse.takeWhile (· ≠ '.')).length
  let start := name.length - behind - 1
  if behind = 0 ∨ behind = name.length ∨ start = 0 then none else some start

/-- `Path(name).suffix`. -/
def pathSuffix (name : String) : String :=
  match suffixStart name.toList with
  | some start => String.ofList (name.toList.drop start)
  | none => ""

/-- `Path(name).stem`. -/
def pathStem (name : String) : String :=
  match suffixStart name.toList with
  | some start => String.ofList (name.toList.take start)
  | none => name

def cameraMediaSuffixes : List String :=
  [".arw", ".heic", ".heif", ".hif", ".jpeg", ".jpg", ".m2ts", ".mov", ".mp4", ".mts"]

structure CameraFtpReceipt where
  uploadId : String
  name : String
  sizeBytes : ℕ
  sha256 : String
  deriving DecidableEq

/-- 64 hexadecimal digits in lower case. -/
def isDigest (value : String) : Bool :=
  decide (value.length = 64) && value.toList.all fun c => c.isDigit || ('a' ≤ c && c ≤ 'f')

def isMediaName (value : String) : Bool :=
  decide (1 ≤ value.length ∧ value.length ≤ 180) && value ∉ [".", ".."] &&
    (value.toList.all fun c => c ≠ '/' && decide (32 ≤ c.toNat) && decide (c.toNat ≠ 127)) &&
    casefold (pathSuffix value) ∈ cameraMediaSuffixes

/-- The receipt, from the values of its fields. -/
def validateReceipt (uploadId name sha256 : String) (sizeBytes : ℤ) : Option CameraFtpReceipt :=
  if isDigest (casefold uploadId) && isMediaName name && isDigest (casefold sha256) &&
      decide (0 ≤ sizeBytes ∧ sizeBytes ≤ 2 ^ 63 - 1) then
    some ⟨casefold uploadId, name, sizeBytes.toNat, casefold sha256⟩
  else none

structure ReceiptFile where
  size : ℕ
  fields : Option (String × String × String × ℤ)

def ReceiptFile.receipt (file : ReceiptFile) : Option CameraFtpReceipt :=
  file.fields.bind fun (uploadId, name, sha256, sizeBytes) =>
    validateReceipt uploadId name sha256 sizeBytes

inductive Entry where
  | file (inode : ℕ)
  | directory
  deriving DecidableEq

inductive Outcome where
  | copied | already_verified
  deriving DecidableEq

/-- An acknowledgement, or an entry of the summary. -/
structure TransferRecord where
  name : String
  sizeBytes : ℕ
  sha256 : String
  outcome : Outcome
  deriving DecidableEq

structure CameraFtpFinalizedFile where
  uploadId : String
  name : String
  path : String
  sizeBytes : ℕ
  sha256 : String
  outcome : Outcome
  deriving DecidableEq

/-- What the worker does next. -/
inductive Phase where
  | reading
  | sizing (receipt : CameraFtpReceipt)
  | opening (receipt : CameraFtpReceipt)
  | hashing (receipt : CameraFtpReceipt) (inode : ℕ) (read : List UInt8)
  | choosing (receipt : CameraFtpReceipt)
  | placing (receipt : CameraFtpReceipt) (target : String) (outcome : Outcome)
  | summarizing (receipt : CameraFtpReceipt) (target : String) (outcome : Outcome)
  | acknowledging (receipt : CameraFtpReceipt) (target : String) (outcome : Outcome)
  | finishing (receipt : CameraFtpReceipt) (target : String) (outcome : Outcome)

structure Task where
  stem : String
  phase : Phase

/-- The two folders, with the uploads that are open and the task of the worker. Inodes are numbers;
`inodes` of them are in use. -/
structure CameraFolders where
  contents : ℕ → List UInt8
  inodes : ℕ
  destination : List (String × Entry)
  parts : String → Option ℕ
  receipts : String → Option ReceiptFile
  acknowledgements : String → Option TransferRecord
  summary : String → Option TransferRecord
  uploads : List (ℕ × ℕ)
  task : Option Task

/-- `hashlib.sha256(data).hexdigest()`. -/
abbrev Sha256 := List UInt8 → String

namespace CameraFolders
variable (sha256 : Sha256) (s : CameraFolders)

/-- The file has the size and the hash. -/
def hasContent (name : String) (sizeBytes : ℕ) (digest : String) : Bool :=
  match s.destination.lookup name with
  | some (.file inode) =>
    decide ((s.contents inode).length = sizeBytes) && decide (sha256 (s.contents inode) = digest)
  | _ => false

def isMatch (name : String) (receipt : CameraFtpReceipt) : Bool :=
  s.hasContent sha256 name receipt.sizeBytes receipt.sha256

def candidate (receipt : CameraFtpReceipt) (index : ℕ) : String :=
  pathStem receipt.name ++ "__" ++ String.ofList (receipt.sha256.toList.take 8) ++
    (if index = 0 then "" else "_" ++ toString (index + 1)) ++ pathSuffix receipt.name

/-- `_collision_target`: the first name that is free or has the file. One more name than there are
files is enough. -/
def collisionTarget (receipt : CameraFtpReceipt) : Option String :=
  ((List.range (s.destination.length + 1)).map (candidate receipt)).find? fun name =>
    (s.destination.lookup name).isNone || s.isMatch sha256 name receipt

/-- Where the part goes, and whether the file is there already. -/
def chooseTarget (receipt : CameraFtpReceipt) : Option (String × Outcome) :=
  let target :=
    if (s.destination.lookup receipt.name).isNone || s.isMatch sha256 receipt.name receipt then
      some receipt.name
    else s.collisionTarget sha256 receipt
  target.map fun name => (name, if s.isMatch sha256 name receipt then .already_verified else .copied)

def setPhase (stem : String) (phase : Phase) : CameraFolders :=
  { s with task := some ⟨stem, phase⟩ }

def drop : CameraFolders := { s with task := none }

end CameraFolders

inductive CameraEvent where
  /-- `STOR` of a part; it is cut to nothing unless the upload is resumed. -/
  | openPart (handle : ℕ) (uploadId : String) (isResumed : Bool)
  | writePart (handle position : ℕ) (data : List UInt8)
  | closePart (handle : ℕ)
  | storeReceipt (stem : String) (file : ReceiptFile)
  /-- The worker begins with a receipt. -/
  | begin (stem : String)
  | work
  /-- The task ends with an exception. -/
  | fail
  /-- The process stops and starts again. -/
  | crash

inductive CameraOutput where
  | placed (receipt : CameraFtpReceipt) (target : String)
  | finalized (file : CameraFtpFinalizedFile)
  deriving DecidableEq

def blockSize : ℕ := 1048576

namespace CameraFolders
variable (sha256 : Sha256) (s : CameraFolders)

def record (receipt : CameraFtpReceipt) (target : String) (outcome : Outcome) : TransferRecord :=
  ⟨target, receipt.sizeBytes, receipt.sha256, outcome⟩

/-- `part.unlink()`, or `os.replace(part, target)`; either raises without the part. -/
def place (stem : String) (receipt : CameraFtpReceipt) (target : String) (outcome : Outcome) :
    CameraFolders × List CameraOutput :=
  match s.parts receipt.uploadId with
  | none => (s.drop, [])
  | some inode =>
    let moved := { s with parts := Function.update s.parts receipt.uploadId none }
    let next := Phase.summarizing receipt target outcome
    match outcome with
    | .already_verified => (moved.setPhase stem next, [])
    | .copied =>
      ({ moved with
          destination := (target, .file inode) :: s.destination.filter (·.1 ≠ target) }.setPhase
        stem next, [.placed receipt target])

/-- The next step of the worker. -/
def advance (stem : String) : Phase → CameraFolders × List CameraOutput
  | .reading =>
    match s.receipts stem with
    | none => (s.drop, [])
    | some file =>
      match file.receipt with
      | none => (s.drop, [])
      | some receipt =>
        if file.size ≤ 16384 ∧ stem = receipt.uploadId then
          (s.setPhase stem (.sizing receipt), [])
        else (s.drop, [])
  | .sizing receipt =>
    match s.parts receipt.uploadId with
    | none => (s.drop, [])
    | some inode =>
      if (s.contents inode).length = receipt.sizeBytes then
        (s.setPhase stem (.opening receipt), [])
      else (s.drop, [])
  | .opening receipt =>
    match s.parts receipt.uploadId with
    | none => (s.drop, [])
    | some inode => (s.setPhase stem (.hashing receipt inode []), [])
  | .hashing receipt inode read =>
    let block := ((s.contents inode).drop read.length).take blockSize
    if block ≠ [] then (s.setPhase stem (.hashing receipt inode (read ++ block)), [])
    else if sha256 read = receipt.sha256 then (s.setPhase stem (.choosing receipt), [])
    else (s.drop, [])
  | .choosing receipt =>
    match s.chooseTarget sha256 receipt with
    | none => (s, [])
    | some (target, outcome) => (s.setPhase stem (.placing receipt target outcome), [])
  | .placing receipt target outcome => s.place stem receipt target outcome
  -- one temporary file is written and moved there; writing the same entry again changes nothing
  | .summarizing receipt target outcome =>
    ({ s with
        summary := Function.update s.summary receipt.uploadId
          (some (record receipt target outcome)) }.setPhase stem
      (.acknowledging receipt target outcome), [])
  | .acknowledging receipt target outcome =>
    ({ s with
        acknowledgements := Function.update s.acknowledgements receipt.uploadId
          (some (record receipt target outcome)) }.setPhase stem
      (.finishing receipt target outcome), [])
  | .finishing receipt target outcome =>
    match s.receipts stem with
    | none => (s.drop, [])
    | some _ =>
      ({ s with receipts := Function.update s.receipts stem none }.drop,
        [.finalized ⟨receipt.uploadId, receipt.name, target, receipt.sizeBytes, receipt.sha256,
          outcome⟩])

/-- `data` at a position of the file. -/
def overwrite (content : List UInt8) (position : ℕ) (data : List UInt8) : List UInt8 :=
  (content ++ List.replicate (position - content.length) 0).take position ++ data ++
    content.drop (position + data.length)

def openPart (handle : ℕ) (uploadId : String) (isResumed : Bool) : CameraFolders :=
  match s.parts uploadId with
  | none =>
    { s with
      contents := Function.update s.contents s.inodes []
      inodes := s.inodes + 1
      parts := Function.update s.parts uploadId (some s.inodes)
      uploads := (handle, s.inodes) :: s.uploads }
  | some inode =>
    { s with
      contents := if isResumed then s.contents else Function.update s.contents inode []
      uploads := (handle, inode) :: s.uploads }

def step : CameraEvent → Option (CameraFolders × List CameraOutput)
  | .openPart handle uploadId isResumed =>
    if (s.uploads.lookup handle).isSome ∨ (isResumed = true ∧ (s.parts uploadId).isNone) then none
    else some (s.openPart handle uploadId isResumed, [])
  | .writePart handle position data =>
    (s.uploads.lookup handle).map fun inode =>
      ({ s with
        contents := Function.update s.contents inode
          (overwrite (s.contents inode) position data) }, [])
  | .closePart handle => some ({ s with uploads := s.uploads.filter (·.1 ≠ handle) }, [])
  | .storeReceipt stem file =>
    some ({ s with receipts := Function.update s.receipts stem (some file) }, [])
  | .begin stem =>
    match s.task with
    | none => some (s.setPhase stem .reading, [])
    | some _ => none
  | .work => s.task.map fun task => s.advance sha256 task.stem task.phase
  | .fail => some (s.drop, [])
  | .crash => some ({ s with uploads := [] }.drop, [])

end CameraFolders

/-- The ingress, from a folder with any files. -/
def cameraFtp (sha256 : Sha256) : Machine CameraFolders CameraEvent CameraOutput where
  Initial s := (∀ name inode, s.destination.lookup name = some (.file inode) → inode < s.inodes) ∧
    s.parts = (fun _ => none) ∧ s.receipts = (fun _ => none) ∧
    s.acknowledgements = (fun _ => none) ∧ s.summary = (fun _ => none) ∧ s.uploads = [] ∧
    s.task = none
  Step s e s' out := s.step sha256 e = some (s', out)

end CitPhysicalXR.Camera
