import CitPhysicalXR.Blocks.GeneratePython
import CitPhysicalXR.Foundation.JsNumberText
import CitPhysicalXR.Foundation.PythonExpressions
import Mathlib.Data.List.TakeWhile

/-! The pieces of a generated line are what Python reads them as: numbers, quoted texts, names and
calls. A text that cannot be quoted, and a name with a sign in it, cannot be read at all. -/
namespace CitPhysicalXR.Blocks
open Foundation PythonText Scan

/-- `parallel(...)` takes awaitables. -/
def takesAwaitables (name : List Char) : Bool := name == "parallel".toList

theorem pythonNumber_shape (value : Option JsonValue) {fallback : PyFloat}
    (h : fallback.isFinite = true) :
    ∃ text, NumberShape text ∧ ((pythonNumber value fallback).toList = text ∨
      (pythonNumber value fallback).toList = '-' :: text) := by
  have hfinite (x : PyFloat) (hx : x.isFinite = true) :
      ∃ text, NumberShape text ∧ (x.toJsString.toList = text ∨ x.toJsString.toList = '-' :: text) := by
    cases x with
    | finite q => exact PyFloat.toJsString_shape q
    | infinite negative => cases hx
    | nan => cases hx
  unfold pythonNumber
  cases value with
  | none => exact hfinite fallback h
  | some value =>
    dsimp only
    by_cases hnumeric : value.toNumber.isFinite = true
    · rw [if_pos hnumeric]
      exact hfinite value.toNumber hnumeric
    · rw [if_neg hnumeric]
      exact hfinite fallback h

theorem pythonNumber_value (value : Option JsonValue) {fallback : PyFloat}
    (h : fallback.isFinite = true) : SpellsValue (pythonNumber value fallback).toList := by
  obtain ⟨text, hshape, htext⟩ := pythonNumber_shape value h
  obtain ⟨hplain, hsigned⟩ := spellsValue_number hshape.isNumber hshape.run
  rcases htext with htext | htext
  · rw [htext]
    exact hplain
  · rw [htext]
    exact hsigned

/-- A text without the characters that end a line and that `pythonString` leaves as they are. -/
def isQuotable (text : String) : Bool := text.toList.all fun c => c != '\r' && c != '\x00'

def escapeChar (c : Char) : List Char :=
  if c = '\\' then ['\\', '\\'] else if c = '"' then ['\\', '"']
  else if c = '\n' then ['\\', 'n'] else [c]

theorem escaped_eq (text : List Char) : escaped text = text.flatMap escapeChar := by
  induction text with
  | nil => rfl
  | cons c text ih =>
    rw [List.flatMap_cons, ← ih]
    unfold escaped replaceAll escapeChar
    by_cases hbackslash : c = '\\'
    · subst hbackslash
      rfl
    · by_cases hquote : c = '"'
      · subst hquote
        rfl
      · by_cases hnewline : c = '\n'
        · subst hnewline
          rfl
        · simp [hbackslash, hquote, hnewline]

theorem run_escapeChar {c : Char} (hreturn : c ≠ '\r') (hnull : c ≠ '\x00') (tokens : List Token) :
    (Scan.mk .text tokens).run (escapeChar c) = some ⟨.text, tokens⟩ := by
  unfold escapeChar
  split
  · rfl
  · rename_i hbackslash
    split
    · rfl
    · rename_i hquote
      split
      · rfl
      · rename_i hnewline
        have hend : isLineEnd c = false := by simp [isLineEnd, hnewline, hreturn, hnull]
        rw [run_cons]
        simp [step, hend, hquote, hbackslash]

theorem run_escaped {text : List Char} (h : ∀ c ∈ text, c ≠ '\r' ∧ c ≠ '\x00')
    (tokens : List Token) :
    (Scan.mk .text tokens).run (text.flatMap escapeChar) = some ⟨.text, tokens⟩ := by
  induction text with
  | nil => rfl
  | cons c text ih =>
    obtain ⟨hreturn, hnull⟩ := h c (List.mem_cons_self ..)
    rw [List.flatMap_cons, run_append, run_escapeChar hreturn hnull, Option.bind_some]
    exact ih fun other hother => h other (.tail _ hother)

theorem pythonString_toList (value : Option JsonValue) :
    (pythonString value).toList =
      '"' :: (textOf value).toList.flatMap escapeChar ++ ['"'] := by
  unfold pythonString
  rw [String.toList_ofList, escaped_eq]

theorem pythonString_value {value : Option JsonValue} (h : isQuotable (textOf value) = true) :
    SpellsValue (pythonString value).toList := by
  rw [pythonString_toList]
  apply spellsValue_text
  apply run_escaped
  intro c hc
  simpa using List.all_eq_true.mp h c hc

theorem pythonString_breaks {value : Option JsonValue} (h : isQuotable (textOf value) = false) :
    Breaks (pythonString value).toList := by
  have hbad : ∃ c ∈ (textOf value).toList, c = '\r' ∨ c = '\x00' := by
    obtain ⟨c, hc, hbad⟩ := List.all_eq_false.mp h
    refine ⟨c, hc, ?_⟩
    simp only [Bool.and_eq_true, bne_iff_ne, not_and_or, not_not] at hbad
    exact hbad
  have hfirst (text : List Char) (hmem : ∃ c ∈ text, c = '\r' ∨ c = '\x00') :
      ∃ before c after, text = before ++ c :: after ∧ (c = '\r' ∨ c = '\x00') ∧
        ∀ d ∈ before, d ≠ '\r' ∧ d ≠ '\x00' := by
    induction text with
    | nil => simp at hmem
    | cons d text ih =>
      by_cases hd : d = '\r' ∨ d = '\x00'
      · exact ⟨[], d, text, rfl, hd, by simp⟩
      · have hrest : ∃ c ∈ text, c = '\r' ∨ c = '\x00' := by
          obtain ⟨c, hc, hbad⟩ := hmem
          rcases List.mem_cons.mp hc with rfl | hc
          · exact absurd hbad hd
          · exact ⟨c, hc, hbad⟩
        obtain ⟨before, c, after, rfl, hc, hbefore⟩ := ih hrest
        refine ⟨d :: before, c, after, rfl, hc, ?_⟩
        intro other hother
        rcases List.mem_cons.mp hother with rfl | hother
        · exact not_or.mp hd
        · exact hbefore other hother
  obtain ⟨before, c, after, htext, hc, hbefore⟩ := hfirst _ hbad
  refine ⟨'"' :: before.flatMap escapeChar, c, after.flatMap escapeChar ++ ['"'], ?_, hc, ?_⟩
  · have hplain : escapeChar c = [c] := by rcases hc with rfl | rfl <;> rfl
    rw [pythonString_toList, htext, List.flatMap_append, List.flatMap_cons, hplain]
    simp
  · intro tokens
    refine ⟨tokens, ?_⟩
    have hopen : (Scan.mk .between tokens).step '"' = some ⟨.text, tokens⟩ := rfl
    rw [run_cons, hopen, Option.bind_some, run_escaped hbefore]

theorem identifierChars_nameChars (alias_ : String) :
    ∀ c ∈ identifierChars alias_, isNameChar c = true := by
  intro c hc
  obtain ⟨d, _, hd⟩ := List.mem_flatMap.mp hc
  split at hd
  · rename_i hplain
    rw [List.mem_singleton.mp hd]
    simpa [isNameChar] using hplain
  · rw [(List.mem_replicate.mp hd).2]
    rfl

theorem aliasIdentifier_word (alias_ : String) :
    isWord (aliasIdentifier alias_).toList = true := by
  have hchars := identifierChars_nameChars alias_
  unfold aliasIdentifier
  cases hcleaned : identifierChars alias_ with
  | nil => rfl
  | cons c rest =>
    rw [hcleaned] at hchars
    dsimp only
    rw [String.toList_ofList]
    split
    · rw [isWord, List.all_eq_true.mpr hchars]
      rfl
    · rename_i hdigit
      have hletter : isLetter c = true := by
        have hname := hchars c (List.mem_cons_self ..)
        simpa [isNameChar, isLetter, Char.isAlphanum, hdigit] using hname
      rw [isWord, hletter, List.all_eq_true.mpr fun d hd => hchars d (.tail _ hd)]
      rfl

theorem replacePoint_plain {text : List Char} (h : PlainShape text) :
    ∀ c ∈ replacePoint text, isNameChar c = true := by
  intro c hc
  cases h with
  | integer d rest digits lead =>
    have hnone : (d :: rest).dropWhile (· != '.') = [] := by
      apply List.dropWhile_eq_nil_iff.mpr
      intro e he
      have hne := ne_of_isDigit '.' (digits e he) (by decide)
      simp [hne]
    unfold replacePoint at hc
    rw [hnone] at hc
    exact isNameChar_of_isDigit (digits c hc)
  | point d whole fraction digits decimals =>
    have hwhole : ∀ e ∈ d :: whole, (e != '.') = true := by
      intro e he
      have hne := ne_of_isDigit '.' (digits e he) (by decide)
      simp [hne]
    have hrest : ∀ e ∈ ('.' :: fraction).head?, (e != '.') = false := by simp
    obtain ⟨htake, hdrop⟩ := takeWhile_split hwhole hrest
    unfold replacePoint at hc
    rw [hdrop, htake] at hc
    rcases List.mem_append.mp hc with hc | hc
    · exact isNameChar_of_isDigit (digits c hc)
    · rcases List.mem_cons.mp hc with rfl | hc
      · rfl
      · exact isNameChar_of_isDigit (decimals c hc)

/-- A name that starts as the generated ones do is no keyword. -/
theorem isBindable_every {chars : List Char} (h : ∀ c ∈ chars, isNameChar c = true) :
    isBindable ("every_".toList ++ chars ++ "s".toList) = true := by
  have hword : isWord ("every_".toList ++ chars ++ "s".toList) = true := by
    have hall : ∀ c ∈ "very_".toList ++ chars ++ "s".toList, isNameChar c = true := by
      intro c hc
      rcases List.mem_append.mp hc with hc | hlast
      · rcases List.mem_append.mp hc with hfirst | hc
        · have hliteral : "very_".toList.all isNameChar = true := by decide
          exact List.all_eq_true.mp hliteral c hfirst
        · exact h c hc
      · rw [List.mem_singleton.mp hlast]
        rfl
    exact List.all_eq_true.mpr hall
  have hkeyword : ∀ keyword ∈ keywords, keyword.take 6 ≠ "every_".toList := by decide
  have hfree : "every_".toList ++ chars ++ "s".toList ∉ keywords := by
    intro hmem
    exact hkeyword _ hmem rfl
  unfold isBindable
  rw [hword]
  simp only [Bool.true_and, Bool.and_eq_true, Bool.not_eq_true', List.contains_eq_mem,
    decide_eq_false_iff_not, bne_iff_ne]
  refine ⟨hfree, ?_⟩
  intro hdebug
  have htake : "every_".toList = "__debug__".toList.take 6 := congrArg (List.take 6) hdebug
  exact absurd htake (by decide)

/-- A number that is read at its sign. -/
def isSigned (text : String) : Bool := text.toList.any fun c => c == '+' || c == '-'

theorem replacePoint_point (rest : List Char) : replacePoint ('.' :: rest) = '_' :: rest := rfl

theorem replacePoint_cons {c : Char} (h : c ≠ '.') (rest : List Char) :
    replacePoint (c :: rest) = c :: replacePoint rest := by
  have hc : (c != '.') = true := by simp [h]
  unfold replacePoint
  simp only [List.dropWhile_cons, List.takeWhile_cons, hc, if_true]
  cases rest.dropWhile (· != '.') <;> rfl

theorem replacePoint_of_notMem {text : List Char} (h : '.' ∉ text) : replacePoint text = text := by
  induction text with
  | nil => rfl
  | cons c text ih =>
    rw [List.mem_cons, not_or] at h
    rw [replacePoint_cons (Ne.symm h.1), ih h.2]

/-- The point of a number stands in the part before its exponent. -/
theorem replacePoint_append (first : List Char) {rest : List Char} (h : '.' ∉ rest) :
    replacePoint (first ++ rest) = replacePoint first ++ rest := by
  induction first with
  | nil => exact replacePoint_of_notMem h
  | cons c first ih =>
    by_cases hc : c = '.'
    · subst hc
      rfl
    · rw [List.cons_append, replacePoint_cons hc, replacePoint_cons hc, ih]
      rfl

/-- The text of a number with its point replaced: the characters of a name, and a sign and
digits where it has an exponent. -/
theorem replacePoint_shape {text : List Char} (h : NumberShape text) :
    ∃ c name, c.isDigit = true ∧ (∀ d ∈ name, isNameChar d = true) ∧
      (replacePoint text = c :: name ∧ PlainShape text ∨
        ∃ sign digits, (sign = '+' ∨ sign = '-') ∧ digits ≠ [] ∧
          (∀ d ∈ digits, d.isDigit = true) ∧
          replacePoint text = c :: name ++ 'e' :: sign :: digits ∧
          text.any (fun c => c == '+' || c == '-') = true) := by
  have hplain {text : List Char} (h : PlainShape text) :
      ∃ c name, c.isDigit = true ∧ (∀ d ∈ name, isNameChar d = true) ∧
        replacePoint text = c :: name := by
    have hchars := replacePoint_plain h
    obtain ⟨c, whole, fraction, rfl, hdigits, _⟩ := h.spec
    have hc := hdigits c (List.mem_cons_self ..)
    have hcons : replacePoint (c :: whole ++ fraction) = c :: replacePoint (whole ++ fraction) :=
      replacePoint_cons (ne_of_isDigit '.' hc (by decide)) _
    rw [hcons] at hchars
    exact ⟨c, _, hc, fun d hd => hchars d (.tail _ hd), hcons⟩
  cases h with
  | plain text shape =>
    obtain ⟨c, name, hc, hname, htext⟩ := hplain shape
    exact ⟨c, name, hc, hname, .inl ⟨htext, shape⟩⟩
  | exponent mantissa sign e digits shape signed decimals =>
    obtain ⟨c, name, hc, hname, htext⟩ := hplain shape
    have hpoint : '.' ∉ 'e' :: sign :: e :: digits := by
      intro hmem
      rcases List.mem_cons.mp hmem with hmark | hmem
      · exact absurd hmark (by decide)
      · rcases List.mem_cons.mp hmem with hsign | hdigit
        · rcases signed with rfl | rfl <;> exact absurd hsign (by decide)
        · exact absurd (decimals '.' hdigit) (by decide)
    refine ⟨c, name, hc, hname, .inr ⟨sign, e :: digits, signed, by simp, decimals, ?_, ?_⟩⟩
    · rw [replacePoint_append mantissa hpoint, htext]
    · rcases signed with rfl | rfl <;> simp

theorem plainShape_unsigned {text : List Char} (h : PlainShape text) :
    text.any (fun c => c == '+' || c == '-') = false := by
  rw [List.any_eq_false]
  intro c hc
  rcases h.plain c hc with hdigit | rfl
  · have hplus := ne_of_isDigit '+' hdigit (by decide)
    have hminus := ne_of_isDigit '-' hdigit (by decide)
    simp [hplus, hminus]
  · decide

theorem run_number_s (read : List Char) (tokens : List Token) (rest : List Char) :
    (Scan.mk (.number read) tokens).run ('s' :: '(' :: rest) = none := by
  have hname : (Scan.mk (.number read) tokens).step 's' = some ⟨.number ('s' :: read), tokens⟩ := rfl
  have hnumber : isNumber ('s' :: read).reverse = false := by
    cases hnumber : isNumber ('s' :: read).reverse with
    | false => rfl
    | true => exact absurd (notMem_of_isNumber hnumber) (by simp)
  have hclose : (Scan.mk (.number ('s' :: read)) tokens).step '(' = none := by
    show ((if isNumber ('s' :: read).reverse then some (Token.number :: tokens) else none).bind
      fun tokens => start tokens '(') = none
    rw [hnumber]
    rfl
  rw [run_cons, hname, Option.bind_some, run_cons, hclose]
  rfl

/-- No line can define a function whose name has a sign. -/
theorem tokenize_signed {text : List Char} (h : NumberShape text) {seconds rest : List Char}
    (hseconds : seconds = '-' :: text ∨ seconds = text ∧ ¬PlainShape text) :
    tokenize ("async def every_".toList ++ replacePoint seconds ++ ('s' :: '(' :: rest)) = none := by
  obtain ⟨c, name, hc, hname, hshape⟩ := replacePoint_shape h
  have hopening (tokens : List Token) : (Scan.mk .between tokens).run "async def every_".toList =
      some ⟨.word "every_".toList.reverse, .word "def".toList :: .word "async".toList :: tokens⟩ :=
    rfl
  have hdigitChars : ∀ d ∈ c :: name, isNameChar d = true ∨ d = '.' := by
    intro d hd
    rcases List.mem_cons.mp hd with rfl | hd
    · exact .inl (isNameChar_of_isDigit hc)
    · exact .inl (hname d hd)
  have hword : ∀ d ∈ c :: name, isNameChar d = true := by
    intro d hd
    rcases List.mem_cons.mp hd with rfl | hd
    · exact isNameChar_of_isDigit hc
    · exact hname d hd
  have hdigitsRun (read : List Char) (digits : List Char) (hdigits : ∀ d ∈ digits, d.isDigit = true)
      (tokens : List Token) :
      (Scan.mk (.number read) tokens).run (digits ++ 's' :: '(' :: rest) = none := by
    rw [run_append, run_plainNumber _ _ fun d hd => .inl (isNameChar_of_isDigit (hdigits d hd)),
      Option.bind_some, run_number_s]
  unfold tokenize
  have hnone : (Scan.mk .between []).run
      ("async def every_".toList ++ replacePoint seconds ++ 's' :: '(' :: rest) = none := by
    rw [List.append_assoc, run_append, hopening, Option.bind_some]
    generalize Token.word "def".toList :: .word "async".toList :: [] = tokens
    rcases hseconds with rfl | ⟨rfl, hsigned⟩
    · -- the sign ends the name, and a number follows
      have hminus : (Scan.mk (.word "every_".toList.reverse) tokens).step '-' =
          some ⟨.between, .mark '-' :: .word "every_".toList :: tokens⟩ := rfl
      rw [replacePoint_cons (by decide), List.cons_append, run_cons, hminus, Option.bind_some]
      rcases hshape with ⟨hplain, _⟩ | ⟨sign, digits, hsign, _, hdigits, hexponent, _⟩
      · rw [hplain, run_append, run_digits hc fun d hd => hdigitChars d (.tail _ hd),
          Option.bind_some, run_number_s]
      · have hmark (read : List Char) (tokens : List Token) :
            (Scan.mk (.number read) tokens).step 'e' = some ⟨.number ('e' :: read), tokens⟩ := rfl
        have hafter (read : List Char) (tokens : List Token) :
            (Scan.mk (.number ('e' :: read)) tokens).step sign =
              some ⟨.number (sign :: 'e' :: read), tokens⟩ := by
          rcases hsign with rfl | rfl <;> rfl
        rw [hexponent, List.append_assoc, run_append,
          run_digits hc fun d hd => hdigitChars d (.tail _ hd), Option.bind_some,
          List.cons_append, List.cons_append, run_cons, hmark, Option.bind_some, run_cons, hafter,
          Option.bind_some, hdigitsRun _ _ hdigits]
    · -- the sign of the exponent ends the name
      rcases hshape with ⟨_, hplain⟩ | ⟨sign, digits, hsign, hfilled, hdigits, hexponent, _⟩
      · exact absurd hplain hsigned
      · have hmark (read : List Char) (tokens : List Token) :
            (Scan.mk (.word read) tokens).step 'e' = some ⟨.word ('e' :: read), tokens⟩ := rfl
        rw [hexponent, List.append_assoc, run_append, run_nameChars _ _ hword, Option.bind_some,
          List.cons_append, List.cons_append, run_cons, hmark, Option.bind_some, run_cons]
        rcases hsign with rfl | rfl
        · rfl
        · cases digits with
          | nil => exact absurd rfl hfilled
          | cons d digits =>
            have hminus (read : List Char) (tokens : List Token) :
                (Scan.mk (.word read) tokens).step '-' =
                  some ⟨.between, .mark '-' :: .word read.reverse :: tokens⟩ := rfl
            have hfirst := hdigits d (List.mem_cons_self ..)
            rw [hminus, Option.bind_some, run_append, run_digits hfirst fun e he =>
              .inl (isNameChar_of_isDigit (hdigits e (.tail _ he))), Option.bind_some, run_number_s]
  rw [hnone]
  rfl

end CitPhysicalXR.Blocks
