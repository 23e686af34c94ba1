import Mathlib
import CitPhysicalXR.Foundation.PyText
import CitPhysicalXR.Plugs.CompanionProtocol

/-! What a signed request signs. Its string is the list of its fields, line by line, so that two
requests sign the same only if they ask for the same; and it is the string that the companion
signs. -/
namespace CitPhysicalXR.Plugs
open Foundation Fabric

/-- A printable character of ASCII, or a space. -/
def isPlain (c : Char) : Bool := decide (32 ≤ c.toNat ∧ c.toNat < 127)

/-- `s.encode("ascii")`, which fails beyond ASCII. -/
def encodeAscii (s : String) : Option (List ℕ) :=
  if ∀ c ∈ s.toList, c.toNat < 128 then some (s.toList.map Char.toNat) else none

theorem encodeAscii_injective {s t : String} (hs : encodeAscii s ≠ none) 
    (h : encodeAscii s = encodeAscii t) : s = t := by
  unfold encodeAscii at hs h
  split at h
  · split at h
    · have hchars : s.toList = t.toList :=
        List.map_injective_iff.mpr (fun _ _ hc => Char.toNat_inj.mp hc) (Option.some.inj h)
      exact String.toList_inj.mp hchars
    · cases h
  · exact absurd (if_neg ‹_›) hs

theorem plain_digit {digit : ℕ} (h : digit < 16) : isPlain (Nat.digitChar digit) = true := by
  interval_cases digit <;> decide

theorem plain_of_isLowerHex {c : Char} (h : isLowerHex c = true) : isPlain c = true := by
  unfold isLowerHex at h
  rw [Bool.or_eq_true, Bool.and_eq_true, decide_eq_true_eq, decide_eq_true_eq] at h
  unfold isPlain
  rw [decide_eq_true_eq]
  rcases h with hdigit | ⟨hlow, hhigh⟩
  · have hrange := Char.isDigit_iff_toNat.mp hdigit
    have hzero : '0'.toNat = 48 := rfl
    have hnine : '9'.toNat = 57 := rfl
    omega
  · have hfirst : 'a'.toNat ≤ c.toNat := hlow
    have hlast : c.toNat ≤ 'f'.toNat := hhigh
    have ha : 'a'.toNat = 97 := rfl
    have hf : 'f'.toNat = 102 := rfl
    omega

theorem plain_deviceId (event : UnlockEventRequest) :
    ∀ c ∈ event.deviceId.toList, isPlain c = true := by
  have hdevice := event.device_ok
  unfold isDeviceId at hdevice
  obtain ⟨kind, hkind, hmatch⟩ := List.any_eq_true.mp hdevice
  simp only [Bool.and_eq_true, String.startsWith_string_iff, List.all_eq_true] at hmatch
  obtain ⟨⟨⟨rest, hrest⟩, -⟩, hhex⟩ := hmatch
  have hkinds : ∀ kind ∈ ["android-", "desktop-"], ∀ c ∈ (kind.toList ++ rest).take 8,
      isPlain c = true := by
    intro kind hkind c hc
    simp only [List.mem_cons, List.not_mem_nil, or_false] at hkind
    rcases hkind with rfl | rfl
    · rw [List.take_append_of_le_length (by decide)] at hc
      revert c
      decide
    · rw [List.take_append_of_le_length (by decide)] at hc
      revert c
      decide
  intro c hc
  rw [← List.take_append_drop 8 event.deviceId.toList, List.mem_append] at hc
  rcases hc with hc | hc
  · rw [← hrest] at hc
    exact hkinds kind hkind c hc
  · exact plain_of_isLowerHex (hhex c hc)

theorem plain_uuid (id : Uuid) : ∀ c ∈ id.text.toList, isPlain c = true := by
  intro c hc
  by_cases hyphen : c = '-'
  · rw [hyphen]
    decide
  · have hdigit : c ∈ id.text.toList.filter (· ≠ '-') :=
      List.mem_filter.mpr ⟨hc, by simpa using hyphen⟩
    rw [id.filter_text] at hdigit
    obtain ⟨i, -, rfl⟩ := List.mem_map.mp hdigit
    exact plain_digit (Nat.mod_lt _ (by decide))

theorem plain_nat (n : ℕ) : ∀ c ∈ (toString n).toList, isPlain c = true := by
  intro c hc
  rw [Nat.toString_eq_ofList_toDigits, String.toList_ofList] at hc
  obtain ⟨d, hd, rfl⟩ := PyString.mem_toDigits hc
  exact plain_digit (by omega)

theorem plain_alphanum {c : Char} (h : c.isAlphanum = true) : isPlain c = true ∧ c ≠ ',' := by
  simp only [Char.isAlphanum, Char.isAlpha, Char.isUpper, Char.isLower, Char.isDigit,
    Bool.or_eq_true, Bool.and_eq_true, decide_eq_true_eq, ge_iff_le, UInt32.le_iff_toNat_le] at h
  unfold isPlain
  rw [decide_eq_true_eq]
  have hcode : c.toNat = c.val.toNat := rfl
  have hcodes : ('A'.val.toNat = 65 ∧ 'Z'.val.toNat = 90) ∧
      ('a'.val.toNat = 97 ∧ 'z'.val.toNat = 122) ∧
      '0'.val.toNat = 48 ∧ '9'.val.toNat = 57 := by decide
  constructor
  · omega
  · rintro rfl
    revert h
    decide

theorem plain_identifier (id : Identifier) :
    ∀ c ∈ id.text.toList, isPlain c = true ∧ c ≠ ',' := by
  have hvalid := id.valid
  unfold isIdentifier at hvalid
  split at hvalid
  · cases hvalid
  · rename_i first rest htext
    simp only [Bool.and_eq_true, List.all_eq_true, Bool.or_eq_true, beq_iff_eq] at hvalid
    obtain ⟨⟨hfirst, hrest⟩, -⟩ := hvalid
    rw [htext]
    intro c hc
    rcases List.mem_cons.mp hc with rfl | hc
    · exact plain_alphanum hfirst
    · rcases hrest c hc with ((halnum | rfl) | rfl) | rfl
      · exact plain_alphanum halnum
      all_goals decide

/-- What a request signs after its event. -/
def SignedRequest.powerFields : SignedRequest → List String
  | .remotePower event => (if event.on then "1" else "0") ::
      event.selectedNodeIds.elim [] fun selection =>
        ["selected-node-ids-v1", sortedJson selection.nodeIds]
  | .unlock _ | .toggle _ | .remoteState _ => []

def SignedRequest.signedFields (request : SignedRequest) : List String :=
  [request.signingDomain, request.event.deviceId, request.event.eventId.text,
    toString request.event.sequence, toString request.event.occurredAtEpochMs] ++
    request.powerFields

theorem SignedRequest.signedPayload_eq (request : SignedRequest) :
    request.signedPayload = PyString.join '\n' request.signedFields := by
  have hline : (String.singleton '\n') = "\n" := rfl
  cases request with
  | unlock event => rfl
  | toggle event => rfl
  | remoteState event => rfl
  | remotePower event =>
    have hchars : (signedRemotePowerPayload event).toList =
        (PyString.join '\n' (remotePower event).signedFields).toList := by
      simp only [signedRemotePowerPayload, signedPhonePayload, signedFields, powerFields,
        PyString.join, hline]
      cases event.selectedNodeIds with
      | none => cases event.on <;> simp [signingDomain, SignedRequest.event]
      | some selection => cases event.on <;> simp [signingDomain, SignedRequest.event]
    exact String.toList_inj.mp hchars

def quote (text : String) : String := "\"" ++ text ++ "\""

/-- `sorted(ids)`. -/
def sortedTexts (nodeIds : List Identifier) : List String :=
  (nodeIds.map (·.text)).mergeSort fun a b => decide (a ≤ b)

theorem sortedTexts_perm (nodeIds : List Identifier) :
    (sortedTexts nodeIds).Perm (nodeIds.map (·.text)) := List.mergeSort_perm _ _

theorem toList_sortedJson (nodeIds : List Identifier) : (sortedJson nodeIds).toList =
    '[' :: (PyString.join ',' ((sortedTexts nodeIds).map quote)).toList ++ [']'] := by
  unfold sortedJson
  rw [String.toList_append, String.toList_append]
  rfl

theorem mem_quote {c : Char} {text : String} (h : c ∈ (quote text).toList) :
    c = '"' ∨ c ∈ text.toList := by
  simp only [quote, String.toList_append, List.mem_append] at h
  rcases h with (h | h) | h
  · exact .inl (by simpa using h)
  · exact .inr h
  · exact .inl (by simpa using h)

theorem quote_injective {first second : String} (h : quote first = quote second) :
    first = second := by
  have hchars := congrArg String.toList h
  simp only [quote, String.toList_append] at hchars
  exact String.toList_inj.mp (List.append_cancel_left (List.append_cancel_right hchars))

theorem chars_of_quoted {nodeIds : List Identifier} {part : String}
    (h : part ∈ (sortedTexts nodeIds).map quote) :
    ∀ c ∈ part.toList, isPlain c = true ∧ c ≠ ',' := by
  obtain ⟨text, htext, rfl⟩ := List.mem_map.mp h
  obtain ⟨nodeId, -, rfl⟩ := List.mem_map.mp ((sortedTexts_perm nodeIds).subset htext)
  intro c hc
  rcases mem_quote hc with rfl | hc
  · decide
  · exact plain_identifier nodeId c hc

theorem plain_sortedJson (nodeIds : List Identifier) :
    ∀ c ∈ (sortedJson nodeIds).toList, isPlain c = true := by
  intro c hc
  rw [toList_sortedJson, List.mem_append, List.mem_cons, List.mem_singleton] at hc
  rcases hc with (rfl | hc) | rfl
  · decide
  · rcases PyString.mem_join hc with rfl | ⟨part, hpart, hc⟩
    · decide
    · exact (chars_of_quoted hpart c hc).1
  · decide

/-- Sorting forgets the order, and only that. -/
theorem sortedTexts_eq_iff {first second : List Identifier} :
    sortedTexts first = sortedTexts second ↔ first.Perm second := by
  constructor
  · intro h
    have hperm : (first.map (·.text)).Perm (second.map (·.text)) :=
      (sortedTexts_perm first).symm.trans (h ▸ sortedTexts_perm second)
    refine (List.map_perm_map_iff ?_).mp hperm
    rintro ⟨text, _⟩ ⟨text', _⟩ rfl
    rfl
  · intro h
    have hsorted (nodeIds : List Identifier) : (sortedTexts nodeIds).Pairwise (· ≤ ·) := by
      refine (List.pairwise_mergeSort ?_ ?_ _).imp of_decide_eq_true
      · intro a b c hab hbc
        exact decide_eq_true (String.le_trans (of_decide_eq_true hab) (of_decide_eq_true hbc))
      · intro a b
        simpa using String.le_total a b
    have hperm := (sortedTexts_perm first).trans
      ((h.map (·.text)).trans (sortedTexts_perm second).symm)
    exact hperm.eq_of_pairwise (fun _ _ _ _ => String.le_antisymm) (hsorted first) (hsorted second)

/-- The text of a selection is that of its nodes, in whichever order they are sent. -/
theorem sortedJson_eq_iff {first second : NodeSelection} :
    sortedJson first.nodeIds = sortedJson second.nodeIds ↔
      first.nodeIds.toFinset = second.nodeIds.toFinset := by
  have hfree (nodeIds : List Identifier) :
      ∀ part ∈ (sortedTexts nodeIds).map quote, ',' ∉ part.toList :=
    fun part hpart hcomma => (chars_of_quoted hpart _ hcomma).2 rfl
  have hne (selection : NodeSelection) : (sortedTexts selection.nodeIds).map quote ≠ [] := by
    intro hnil
    have hlength := (sortedTexts_perm selection.nodeIds).length_eq
    rw [List.map_eq_nil_iff.mp hnil, List.length_map, List.length_nil] at hlength
    have hbound := selection.bounds.1
    omega
  have hset : first.nodeIds.Perm second.nodeIds ↔
      first.nodeIds.toFinset = second.nodeIds.toFinset :=
    ⟨List.toFinset_eq_of_perm _ _, List.perm_of_nodup_nodup_toFinset_eq first.nodup second.nodup⟩
  rw [← hset, ← sortedTexts_eq_iff]
  constructor
  · intro h
    have hchars := congrArg String.toList h
    rw [toList_sortedJson, toList_sortedJson] at hchars
    have hjoined := String.toList_inj.mp (List.cons_inj_right _ |>.mp
      (List.append_cancel_right hchars))
    have hparts := congrArg (PyString.split · ',') hjoined
    simp only [PyString.split_join (hne _) (hfree _)] at hparts
    exact List.map_injective_iff.mpr (fun _ _ => quote_injective) hparts
  · intro h
    have hchars : (sortedJson first.nodeIds).toList = (sortedJson second.nodeIds).toList := by
      rw [toList_sortedJson, toList_sortedJson, h]
    exact String.toList_inj.mp hchars

/-- Two requests of one kind, for one event, that ask for the same; a selection is a set. -/
def SignedRequest.Same : SignedRequest → SignedRequest → Prop
  | .unlock event, .unlock event' | .toggle event, .toggle event'
  | .remoteState event, .remoteState event' => event = event'
  | .remotePower event, .remotePower event' =>
    event.toUnlockEventRequest = event'.toUnlockEventRequest ∧ event.on = event'.on ∧
      event.selectedNodeIds.map (·.nodeIds.toFinset) =
        event'.selectedNodeIds.map (·.nodeIds.toFinset)
  | _, _ => False

theorem plain_powerFields (request : SignedRequest) :
    ∀ field ∈ request.powerFields, ∀ c ∈ field.toList, isPlain c = true := by
  intro field hfield
  cases request with
  | remotePower event =>
    rcases List.mem_cons.mp hfield with rfl | hfield
    · cases event.on <;> decide
    · cases hselection : event.selectedNodeIds with
      | none =>
        rw [hselection] at hfield
        cases hfield
      | some selection =>
        rw [hselection] at hfield
        simp only [Option.elim_some, List.mem_cons, List.not_mem_nil, or_false] at hfield
        rcases hfield with rfl | rfl
        · decide
        · exact plain_sortedJson selection.nodeIds
  | _ => cases hfield

theorem plain_signingDomain (request : SignedRequest) :
    ∀ c ∈ request.signingDomain.toList, isPlain c = true := by
  cases request <;> simp only [SignedRequest.signingDomain] <;> decide

theorem plain_signedFields (request : SignedRequest) :
    ∀ field ∈ request.signedFields, ∀ c ∈ field.toList, isPlain c = true := by
  intro field hfield
  rcases List.mem_append.mp hfield with hfield | hfield
  · simp only [List.mem_cons, List.not_mem_nil, or_false] at hfield
    rcases hfield with rfl | rfl | rfl | rfl | rfl
    · exact plain_signingDomain request
    · exact plain_deviceId request.event
    · exact plain_uuid request.event.eventId
    · exact plain_nat request.event.sequence
    · exact plain_nat request.event.occurredAtEpochMs
  · exact plain_powerFields request field hfield

theorem encodeAscii_signedPayload (request : SignedRequest) :
    encodeAscii request.signedPayload ≠ none := by
  unfold encodeAscii
  rw [if_pos]
  · exact Option.some_ne_none _
  · intro c hc
    rw [request.signedPayload_eq] at hc
    rcases PyString.mem_join hc with rfl | ⟨field, hfield, hc⟩
    · decide
    · have hplain := plain_signedFields request field hfield c hc
      unfold isPlain at hplain
      have hrange := of_decide_eq_true hplain
      omega

theorem signedPayload_eq_iff {request request' : SignedRequest} :
    request.signedPayload = request'.signedPayload ↔
      request.signedFields = request'.signedFields := by
  have hfree (request : SignedRequest) : ∀ field ∈ request.signedFields, '\n' ∉ field.toList := by
    intro field hfield hline
    have hplain := plain_signedFields request field hfield _ hline
    revert hplain
    decide
  have hne (request : SignedRequest) : request.signedFields ≠ [] := List.cons_ne_nil _ _
  rw [request.signedPayload_eq, request'.signedPayload_eq]
  constructor
  · intro h
    have hparts := congrArg (PyString.split · '\n') h
    simpa only [PyString.split_join (hne _) (hfree _)] using hparts
  · intro h
    rw [h]

theorem event_eq_iff {event event' : UnlockEventRequest} :
    event = event' ↔ event.deviceId = event'.deviceId ∧ event.eventId.text = event'.eventId.text ∧
      toString event.sequence = toString event'.sequence ∧
      toString event.occurredAtEpochMs = toString event'.occurredAtEpochMs := by
  constructor
  · rintro rfl
    exact ⟨rfl, rfl, rfl, rfl⟩
  · rintro ⟨hdevice, hid, hsequence, hoccurred⟩
    obtain ⟨deviceId, eventId, sequence, occurred, _, _, _⟩ := event
    obtain ⟨deviceId', eventId', sequence', occurred', _, _, _⟩ := event'
    obtain rfl : deviceId = deviceId' := hdevice
    obtain rfl : eventId = eventId' := Uuid.text_injective hid
    obtain rfl : sequence = sequence' := TextRules.toString_injective hsequence
    obtain rfl : occurred = occurred' := TextRules.toString_injective hoccurred
    rfl

theorem signedFields_eq_iff {request request' : SignedRequest} :
    request.signedFields = request'.signedFields ↔ request.Same request' := by
  cases request with
  | unlock event =>
    cases request' with
    | unlock event' =>
      simp [SignedRequest.signedFields, SignedRequest.powerFields, SignedRequest.Same,
        SignedRequest.signingDomain, SignedRequest.event, event_eq_iff]
    | _ => simp [SignedRequest.signedFields, SignedRequest.Same, SignedRequest.signingDomain]
  | toggle event =>
    cases request' with
    | toggle event' =>
      simp [SignedRequest.signedFields, SignedRequest.powerFields, SignedRequest.Same,
        SignedRequest.signingDomain, SignedRequest.event, event_eq_iff]
    | _ => simp [SignedRequest.signedFields, SignedRequest.Same, SignedRequest.signingDomain]
  | remoteState event =>
    cases request' with
    | remoteState event' =>
      simp [SignedRequest.signedFields, SignedRequest.powerFields, SignedRequest.Same,
        SignedRequest.signingDomain, SignedRequest.event, event_eq_iff]
    | _ => simp [SignedRequest.signedFields, SignedRequest.Same, SignedRequest.signingDomain]
  | remotePower event =>
    cases request' with
    | remotePower event' =>
      have hon : (if event.on = true then "1" else "0") = (if event'.on = true then "1" else "0") ↔
          event.on = event'.on := by
        cases event.on <;> cases event'.on <;> decide
      have hselection : event.selectedNodeIds.elim [] (fun selection =>
            ["selected-node-ids-v1", sortedJson selection.nodeIds]) =
          event'.selectedNodeIds.elim [] (fun selection =>
            ["selected-node-ids-v1", sortedJson selection.nodeIds]) ↔
          event.selectedNodeIds.map (·.nodeIds.toFinset) =
            event'.selectedNodeIds.map (·.nodeIds.toFinset) := by
        cases event.selectedNodeIds <;> cases event'.selectedNodeIds <;> simp [sortedJson_eq_iff]
      simp only [SignedRequest.signedFields, SignedRequest.powerFields, SignedRequest.Same,
        SignedRequest.signingDomain, SignedRequest.event, event_eq_iff, List.cons_append,
        List.nil_append, List.cons.injEq, true_and, hon, hselection, and_assoc]
    | _ => simp [SignedRequest.signedFields, SignedRequest.Same, SignedRequest.signingDomain]

theorem JavaLong.text_natCast {n : JavaLong} {k : ℕ} (h : n.toInt = k) : n.text = toString k := by
  unfold JavaLong.text
  rw [h]
  rfl

section
variable {readUuid : String → Option Uuid}

theorem event_of_body (hread : ∀ id : Uuid, readUuid id.text = some id) {sent : CompanionRequest}
    {event : UnlockEventRequest} (h : ReadsEvent readUuid sent.body event) :
    event.deviceId = sent.deviceId ∧ event.eventId.text = sent.eventId.toString ∧
      toString event.sequence = sent.sequence.text ∧
      toString event.occurredAtEpochMs = sent.occurredAt.text := by
  have hbody : sent.body.lookup "deviceId" = some (.str sent.deviceId) ∧
      sent.body.lookup "eventId" = some (.str sent.eventId.toString) ∧
      sent.body.lookup "sequence" = some (.int sent.sequence.toInt) ∧
      sent.body.lookup "occurredAtEpochMs" = some (.int sent.occurredAt.toInt) := by
    unfold CompanionRequest.body
    cases sent.call <;> exact ⟨rfl, rfl, rfl, rfl⟩
  obtain ⟨hdevice, hid, hsequence, hoccurred⟩ := hbody
  obtain ⟨text, htext, hevent⟩ := h.eventId
  have hdevice' := h.deviceId
  have hsequence' := h.sequence
  have hoccurred' := h.occurredAt
  rw [hdevice, Option.some.injEq, JsonValue.str.injEq] at hdevice'
  rw [hid, Option.some.injEq, JsonValue.str.injEq] at htext
  rw [hsequence, Option.some.injEq, JsonValue.int.injEq] at hsequence'
  rw [hoccurred, Option.some.injEq, JsonValue.int.injEq] at hoccurred'
  rw [← htext, sent.eventId.toString_uuid, hread, Option.some.injEq] at hevent
  refine ⟨hdevice'.symm, ?_, (JavaLong.text_natCast hsequence').symm,
    (JavaLong.text_natCast hoccurred').symm⟩
  rw [← hevent, sent.eventId.toString_uuid]

theorem canonicalOf_eq {domain : String} {sent : CompanionRequest} {event : UnlockEventRequest}
    (h : event.deviceId = sent.deviceId ∧ event.eventId.text = sent.eventId.toString ∧
      toString event.sequence = sent.sequence.text ∧
      toString event.occurredAtEpochMs = sent.occurredAt.text) :
    UnlockProtocol.canonicalOf domain sent.deviceId sent.eventId.toString sent.sequence
      sent.occurredAt = signedPhonePayload domain event := by
  obtain ⟨hdevice, hid, hsequence, hoccurred⟩ := h
  unfold UnlockProtocol.canonicalOf signedPhonePayload
  rw [← hdevice, ← hid, ← hsequence, ← hoccurred]
  have hchars : (domain ++ "\n" ++ event.deviceId ++ "\n" ++ event.eventId.text ++ "\n" ++
      toString event.sequence ++ "\n" ++ toString event.occurredAtEpochMs).toList =
      ("\n".intercalate [domain, event.deviceId, event.eventId.text, toString event.sequence,
        toString event.occurredAtEpochMs]).toList := by
    simp
  exact String.toList_inj.mp hchars

/-- The string that the companion signs is the one that the server computes from what it reads. -/
theorem canonical_eq (hread : ∀ id : Uuid, readUuid id.text = some id) {sent : CompanionRequest}
    {request : SignedRequest} (h : Receives readUuid sent.call sent.body request) :
    sent.canonical = request.signedPayload := by
  unfold CompanionRequest.canonical
  cases request with
  | unlock event =>
    obtain ⟨hcall, hevent⟩ := h
    rw [hcall]
    exact canonicalOf_eq (event_of_body hread hevent)
  | toggle event =>
    obtain ⟨hcall, hevent⟩ := h
    rw [hcall]
    exact canonicalOf_eq (event_of_body hread hevent)
  | remoteState event =>
    obtain ⟨hcall, hevent⟩ := h
    rw [hcall]
    exact canonicalOf_eq (event_of_body hread hevent)
  | remotePower event =>
    obtain ⟨⟨on, hcall⟩, hevent, hon, hselection⟩ := h
    have hcanonical : UnlockProtocol.canonicalOf "cit-control-tower-remote-power-v1" _ _ _ _ = _ :=
      canonicalOf_eq (event_of_body hread hevent)
    unfold CompanionRequest.body at hon hselection
    rw [hcall] at hon hselection
    have hsame : event.on = on := by
      have hlookup : some (JsonValue.bool on) = some (.bool event.on) := hon
      simpa using hlookup.symm
    have hnone : event.selectedNodeIds = none := hselection rfl
    rw [hcall]
    simp only [UnlockProtocol.remotePowerCanonical, SignedRequest.signedPayload,
      signedRemotePowerPayload, hcanonical, hsame, hnone]
    cases on <;> simp [String.append_assoc]

/-- Every request has its bytes, two requests have the same only if they ask for the same, and
those that the companion signs are those that the server verifies. -/
theorem signed_payloads_unambiguous (hread : ∀ id : Uuid, readUuid id.text = some id) :
    (∀ request : SignedRequest, encodeAscii request.signedPayload ≠ none) ∧
    (∀ request request' : SignedRequest,
      encodeAscii request.signedPayload = encodeAscii request'.signedPayload ↔
        request.Same request') ∧
    ∀ (sent : CompanionRequest) (request : SignedRequest),
      Receives readUuid sent.call sent.body request →
        encodeAscii sent.canonical = encodeAscii request.signedPayload := by
  refine ⟨encodeAscii_signedPayload, ?_, ?_⟩
  · intro request request'
    rw [← signedFields_eq_iff, ← signedPayload_eq_iff]
    constructor
    · exact encodeAscii_injective (encodeAscii_signedPayload request)
    · exact congrArg encodeAscii
  · intro sent request h
    rw [canonical_eq hread h]

end

namespace Companion

/-- The companion switches the saved plugs on. -/
def sent : CompanionRequest where
  call := .remotePower true
  deviceId := "android-fedcba9876543210"
  eventId := ⟨0x7f7ec0b5bc6845b8, 0xb683ffbbb87cce0f⟩
  sequence := 42
  occurredAt := 1789016400000

def received : RemotePlugPowerRequest where
  deviceId := "android-fedcba9876543210"
  eventId := ⟨0x7f7ec0b5bc6845b8b683ffbbb87cce0f⟩
  sequence := 42
  occurredAtEpochMs := 1789016400000
  device_ok := by decide +kernel
  sequence_ok := by decide
  occurred_ok := by decide
  on := true
  selectedNodeIds := none

example : sent.canonical = "cit-control-tower-remote-power-v1\nandroid-fedcba9876543210\n" ++
    "7f7ec0b5-bc68-45b8-b683-ffbbb87cce0f\n42\n1789016400000\n1" := by decide

end Companion

/-- The server reads the companion's request, and computes the bytes that it has signed. -/
theorem signed_payloads_unambiguous_companion :
    Receives Uuid.ofText Companion.sent.call Companion.sent.body
      (.remotePower Companion.received) ∧
    encodeAscii Companion.sent.canonical =
      encodeAscii (SignedRequest.remotePower Companion.received).signedPayload := by
  have hreceives : Receives Uuid.ofText Companion.sent.call Companion.sent.body
      (.remotePower Companion.received) := by
    refine ⟨⟨true, rfl⟩, ⟨rfl, ⟨_, rfl, ?_⟩, rfl, rfl⟩, rfl, fun _ => rfl⟩
    decide
  exact ⟨hreceives, (signed_payloads_unambiguous Uuid.ofText_text).2.2 _ _ hreceives⟩

end CitPhysicalXR.Plugs
