/-
DamMonitoring.Motes.AlarmGrammar — which request bodies the alarm accepts,
beside the grammar it is meant to accept.

The alarm is meant to take `state` as `true` or `false`, as the whole
value of a form variable or as a member of a JSON object. The handler
compares a form variable with a word only as far as the C string goes that
starts at its value, which may be shorter than the word and longer than
the value; of a JSON document it takes the first truth value under the
name. `alarm_put_grammar_iff` says for which bodies this makes no
difference.

  §1 what the handler takes
  §2 the grammar
  §3 bodies that keep it
-/
import DamMonitoring.Motes.Json

namespace DamMonitoring.Motes.ResAlarm

/-! ## §1 Taking a state -/

/-- The state is `b` now. -/
def Took (out : AlarmT × Response) (b : Bool) : Prop :=
  out.2.code = .CHANGED_2_04 ∧ out.1.state = b

/-- 4.00, and nothing has changed. -/
def Refused (a : AlarmT) (out : AlarmT × Response) : Prop :=
  out.2.code = .BAD_REQUEST_4_00 ∧ out.1 = a

theorem took_apply (a : AlarmT) (paramLen : Nat) (paramOk : Int) (newState b : Bool) :
    Took (apply a paramLen paramOk newState) b ↔ 0 < paramLen ∧ paramOk = 1 ∧ newState = b := by
  unfold apply
  by_cases hlen : paramLen = 0
  · simp [Took, hlen, missingState, Response.message]
  · by_cases hok : paramOk = 1
    · obtain ⟨state, timer, ledOn⟩ := a
      cases state <;> cases newState <;>
        simp [Took, hlen, hok, Response.message, Nat.pos_iff_ne_zero]
    · simp [Took, hlen, hok, badState, Response.message]

/-- A body is refused for its content type or comes to `apply`. -/
theorem resPutHandler_cases (keyBuf : List Char) (a : AlarmT) (request : Request) :
    resPutHandler keyBuf a request = (a, missingContentType) ∨
      resPutHandler keyBuf a request = (a, unsupportedContentType) ∨
      ∃ paramLen paramOk newState,
        resPutHandler keyBuf a request = apply a paramLen paramOk newState := by
  unfold resPutHandler
  split
  · exact Or.inl rfl
  · dsimp only
    split <;> exact Or.inr (Or.inr ⟨_, _, _, rfl⟩)
  · dsimp only
    split
    · split <;> exact Or.inr (Or.inr ⟨_, _, _, rfl⟩)
    · exact Or.inr (Or.inr ⟨_, _, _, rfl⟩)
  · exact Or.inr (Or.inl rfl)

/-- A body is taken or refused. -/
theorem took_or_refused (keyBuf : List Char) (a : AlarmT) (request : Request) :
    (∃ b, Took (resPutHandler keyBuf a request) b) ∨
      Refused a (resPutHandler keyBuf a request) := by
  rcases resPutHandler_cases keyBuf a request with h | h | ⟨paramLen, paramOk, newState, h⟩
  · rw [h]
    exact Or.inr ⟨rfl, rfl⟩
  · rw [h]
    exact Or.inr ⟨rfl, rfl⟩
  · rw [h]
    by_cases hlen : paramLen = 0
    · refine Or.inr ?_
      simp [Refused, apply, hlen, missingState, Response.message]
    · by_cases hok : paramOk = 1
      · exact Or.inl ⟨newState, (took_apply a _ _ _ _).mpr ⟨Nat.pos_of_ne_zero hlen, hok, rfl⟩⟩
      · refine Or.inr ?_
        simp [Refused, apply, hlen, hok, badState, Response.message]

/-- The word for a state. -/
def word (b : Bool) : List Char := (if b then "true" else "false").toList

theorem prefixOfWord_iff (p : List Char) (b : Bool) :
    prefixOfWord p (if b then "true" else "false") = true ↔ p <+: word b := by
  rw [prefixOfWord, strncmpEq, beq_iff_eq, List.take_length, List.prefix_iff_eq_take, word]

/-- A form request, by what `coap_get_post_variable` points to. -/
theorem took_variable (keyBuf : List Char) (a : AlarmT) {request : Request}
    (hformat : request.contentFormat = some .textPlain) (b : Bool) :
    Took (resPutHandler keyBuf a request) b ↔ 0 < (request.postVariable "state").1 ∧
      if b then (request.postVariable "state").2 <+: word true
      else ¬(request.postVariable "state").2 <+: word true ∧
        (request.postVariable "state").2 <+: word false := by
  obtain ⟨format, payloadLen, tokens, postVariable⟩ := request
  obtain rfl : format = some .textPlain := hformat
  unfold resPutHandler
  dsimp only
  generalize postVariable "state" = v
  obtain ⟨paramLen, p⟩ := v
  have htrue := prefixOfWord_iff p true
  have hfalse := prefixOfWord_iff p false
  simp only [if_true, Bool.false_eq_true, if_false] at htrue hfalse
  dsimp only
  by_cases hlen : 0 < paramLen
  · rw [if_pos hlen, took_apply, ← htrue, ← hfalse]
    cases prefixOfWord p "true" <;> cases prefixOfWord p "false" <;> cases b <;> simp [hlen]
  · rw [if_neg hlen, took_apply]
    simp [hlen]

/-- A JSON request, by the first truth value under the name. -/
theorem took_tokens (keyBuf : List Char) (a : AlarmT) {request : Request}
    (hformat : request.contentFormat = some .applicationJson) (b : Bool) :
    Took (resPutHandler keyBuf a request) b ↔ 0 < request.payloadLen ∧
      ∃ token, firstUnder "state" keyBuf (fun type => type == .true || type == .false)
          request.tokens = some token ∧
        (token.type == .true) = b ∧
        strncmpEq (jsonparseCopyValue token jsonBuffer) (word b) jsonBuffer = true := by
  obtain ⟨format, payloadLen, tokens, postVariable⟩ := request
  obtain rfl : format = some .applicationJson := hformat
  unfold resPutHandler
  dsimp only
  by_cases hlen : 0 < payloadLen
  · rw [if_pos hlen, getJsonBoolField_eq]
    cases hfirst : firstUnder "state" keyBuf (fun type => type == .true || type == .false)
        tokens with
    | none => simp [took_apply]
    | some token =>
      simp only [Option.getD_some, Option.some.injEq, exists_eq_left', hlen, true_and]
      generalize jsonparseCopyValue token jsonBuffer = p
      generalize (token.type == .true) = value
      have hok : (if strncmpEq p (word value) jsonBuffer = true then (1 : Int) else 0) ≠ -1 := by
        split <;> decide
      change Took (if (if strncmpEq p (word value) jsonBuffer = true then (1 : Int) else 0) = -1
        then _ else apply a payloadLen
          (if strncmpEq p (word value) jsonBuffer = true then 1 else 0) value) b ↔ _
      rw [if_neg hok, took_apply]
      constructor
      · intro h
        obtain ⟨-, hword, rfl⟩ := h
        refine ⟨rfl, by_contra fun hno => ?_⟩
        rw [if_neg hno] at hword
        cases hword
      · intro h
        obtain ⟨rfl, hword⟩ := h
        exact ⟨hlen, if_pos hword, rfl⟩
  · rw [if_neg hlen, took_apply]
    simp [hlen]

/-- The state the handler takes from a body. -/
def takes (keyBuf : List Char) : Body → Option Bool
  | .text (some v) =>
      if v.value = [] then none
      else if v.cString <+: word true then some true
      else if v.cString <+: word false then some false
      else none
  | .json d =>
      match d.first "state" keyBuf fun type => type == .true || type == .false with
      | some (.bool b) => some b
      | _ => none
  | .badJson payloadLen tokens =>
      if payloadLen = 0 then none
      else
        match firstUnder "state" keyBuf (fun type => type == .true || type == .false) tokens with
        | some token =>
            if strncmpEq (jsonparseCopyValue token jsonBuffer) (word (token.type == .true))
              jsonBuffer then some (token.type == .true) else none
        | none => none
  | _ => none

/-- **What an alarm takes**, from any body. -/
theorem took_iff (keyBuf : List Char) (a : AlarmT) (body : Body) (b : Bool) :
    Took (resPutHandler keyBuf a body.request) b ↔ takes keyBuf body = some b := by
  match body with
  | .noFormat => simp [resPutHandler, Body.request, Took, missingContentType, Response.message, takes]
  | .otherFormat =>
    simp [resPutHandler, Body.request, Took, unsupportedContentType, Response.message, takes]
  | .text none => simp [resPutHandler, Body.request, took_apply, takes]
  | .text (some v) =>
    rw [took_variable keyBuf a rfl]
    by_cases hvalue : v.value = []
    · simp [Body.request, takes, hvalue]
    · have hlen : 0 < v.value.length := List.length_pos_iff.mpr hvalue
      simp only [Body.request, takes, hvalue, hlen, if_false, true_and]
      by_cases htrue : v.cString <+: word true
      · cases b <;> simp [htrue]
      · by_cases hfalse : v.cString <+: word false
        · cases b <;> simp [htrue, hfalse]
        · cases b <;> simp [htrue, hfalse]
  | .json d =>
    have hlen : 0 < 1 + d.tokens.length := by omega
    have hkey : "state".length < jsonBuffer - 1 := by decide
    rw [took_tokens keyBuf a rfl]
    simp only [Body.request, hlen, true_and, takes, firstUnder_document hkey]
    cases hfirst : d.first "state" keyBuf fun type => type == .true || type == .false with
    | none => simp
    | some y =>
      obtain ⟨b', rfl⟩ := Json.first_bool hfirst
      cases b <;> cases b' <;> simp [JsonScalar.token] <;> decide
  | .badJson payloadLen tokens =>
    rw [took_tokens keyBuf a rfl]
    by_cases hlen : payloadLen = 0
    · simp [Body.request, takes, hlen]
    · simp only [Body.request, takes, hlen, Nat.pos_of_ne_zero hlen, true_and, if_false]
      cases firstUnder "state" keyBuf (fun type => type == .true || type == .false) tokens with
      | none => simp
      | some token =>
        simp only [Option.some.injEq, exists_eq_left']
        constructor
        · intro h'
          obtain ⟨rfl, hword⟩ := h'
          rw [if_pos hword]
        · intro h
          split at h
          · next hword =>
            cases h
            exact ⟨rfl, hword⟩
          · cases h

/-! ## §2 Grammar -/

/-- The grammar: `state` is the truth value `b`. -/
def Grammar : Body → Bool → Prop
  | .text (some v), b => v.value = word b
  | .json d, b => d.HasMember "state" (.bool b)
  | _, _ => False

/-- The handler does with the body what the grammar says. -/
structure KeepsGrammar (keyBuf : List Char) (a : AlarmT) (body : Body) : Prop where
  accepted : ∀ b, Took (resPutHandler keyBuf a body.request) b ↔ Grammar body b
  refused : (∀ b, ¬Grammar body b) → Refused a (resPutHandler keyBuf a body.request)

/-- The bodies for which it makes no difference where the handler looks. -/
def Clear (keyBuf : List Char) : Body → Prop
  | .text (some v) =>
      if v.value = word true ∨ v.value = word false then v.rest = []
      else v.value = [] ∨ (¬v.cString <+: word true ∧ ¬v.cString <+: word false)
  | .json d => ∀ b, d.first "state" keyBuf (fun type => type == .true || type == .false) =
      some (.bool b) → d.HasMember "state" (.bool b) ∧ ¬d.HasMember "state" (.bool !b)
  | .badJson payloadLen tokens => payloadLen = 0 ∨
      ∀ token, firstUnder "state" keyBuf (fun type => type == .true || type == .false) tokens =
        some token → strncmpEq (jsonparseCopyValue token jsonBuffer)
          (word (token.type == .true)) jsonBuffer = false
  | _ => True

/-! ## §3 Bodies -/

theorem keepsGrammar_iff_takes (keyBuf : List Char) (a : AlarmT) (body : Body) :
    KeepsGrammar keyBuf a body ↔ ∀ b, takes keyBuf body = some b ↔ Grammar body b := by
  constructor
  · intro h b
    rw [← took_iff keyBuf a]
    exact h.accepted b
  · intro h
    have haccepted : ∀ b, Took (resPutHandler keyBuf a body.request) b ↔ Grammar body b := by
      intro b
      rw [took_iff]
      exact h b
    refine ⟨haccepted, fun hno => ?_⟩
    rcases took_or_refused keyBuf a body.request with ⟨b, htook⟩ | hrefused
    · exact absurd ((haccepted b).mp htook) (hno b)
    · exact hrefused

/-- A value that is a word is a prefix of that word if nothing follows,
and of no word if something does. -/
theorem prefix_word {v : PostVariable} {b : Bool} (h : v.value = word b) (b' : Bool) :
    v.cString <+: word b' ↔ b' = b ∧ v.rest = [] := by
  have hnul : '\x00' ∉ v.value := by
    rw [h]
    cases b <;> decide
  rw [v.cString_eq hnul, h, ← v.rest_eq_nil]
  generalize v.rest.takeWhile (· ≠ '\x00') = tail
  constructor
  · intro h'
    obtain ⟨rest, heq⟩ := h'
    cases b <;> cases b' <;> simp [word] at heq ⊢
    · exact heq.1
    · exact heq.1
  · intro h'
    obtain ⟨rfl, rfl⟩ := h'
    simp

theorem keepsGrammar_text (keyBuf : List Char) (a : AlarmT) (v : PostVariable) :
    KeepsGrammar keyBuf a (.text (some v)) ↔ Clear keyBuf (.text (some v)) := by
  rw [keepsGrammar_iff_takes]
  simp only [takes, Grammar, Clear]
  by_cases hword : ∃ b, v.value = word b
  · obtain ⟨b, hb⟩ := hword
    have hvalue : v.value ≠ [] := by
      rw [hb]
      cases b <;> decide
    have hgrammar : ∀ b', v.value = word b' ↔ b = b' := by
      intro b'
      rw [hb]
      cases b <;> cases b' <;> simp [word]
    simp only [if_neg hvalue, prefix_word hb, hgrammar]
    by_cases hrest : v.rest = []
    · cases b <;> simp [hrest]
    · simp [hrest]
  · have hno : ∀ b, ¬v.value = word b := fun b hb => hword ⟨b, hb⟩
    simp only [hno, or_self, if_false, iff_false]
    by_cases hvalue : v.value = []
    · simp [hvalue]
    · by_cases htrue : v.cString <+: word true
      · simp [hvalue, htrue]
      · by_cases hfalse : v.cString <+: word false
        · simp [hvalue, htrue, hfalse]
        · simp [hvalue, htrue, hfalse]

theorem keepsGrammar_json (keyBuf : List Char) (a : AlarmT) (d : Json) :
    KeepsGrammar keyBuf a (.json d) ↔ Clear keyBuf (.json d) := by
  rw [keepsGrammar_iff_takes]
  simp only [takes, Grammar, Clear]
  cases hfirst : d.first "state" keyBuf fun type => type == .true || type == .false with
  | none =>
    have hno : ∀ b, ¬d.HasMember "state" (.bool b) := by
      intro b hmem
      have htype : ((JsonScalar.bool b).token.type == .true ||
          (JsonScalar.bool b).token.type == .false) = true := by cases b <;> rfl
      exact hmem.first_ne_none keyBuf htype hfirst
    simp [hno]
  | some y =>
    obtain ⟨b, rfl⟩ := Json.first_bool hfirst
    simp only [Option.some.injEq, JsonScalar.bool.injEq, forall_eq']
    constructor
    · intro h
      refine ⟨(h b).mp rfl, fun hother => ?_⟩
      have hsame := (h !b).mpr hother
      cases b <;> cases hsame
    · rintro ⟨hmem, hother⟩ b'
      constructor
      · rintro rfl
        exact hmem
      · intro hmem'
        cases b <;> cases b' <;> first | rfl | exact absurd hmem' hother

/-- **When an alarm keeps the grammar.** For every body, and whatever the
stack holds in place of `key_buf`: the alarm takes the state the grammar
says and refuses everything else if and only if the body is clear. -/
theorem alarm_put_grammar_iff (keyBuf : List Char) (a : AlarmT) (body : Body) :
    KeepsGrammar keyBuf a body ↔ Clear keyBuf body := by
  match body with
  | .noFormat =>
    rw [keepsGrammar_iff_takes]
    simp [takes, Grammar, Clear]
  | .otherFormat =>
    rw [keepsGrammar_iff_takes]
    simp [takes, Grammar, Clear]
  | .text none =>
    rw [keepsGrammar_iff_takes]
    simp [takes, Grammar, Clear]
  | .text (some v) => exact keepsGrammar_text keyBuf a v
  | .json d => exact keepsGrammar_json keyBuf a d
  | .badJson payloadLen tokens =>
    rw [keepsGrammar_iff_takes]
    simp only [takes, Grammar, Clear, iff_false]
    by_cases hlen : payloadLen = 0
    · simp [hlen]
    · simp only [hlen, if_false, false_or]
      cases firstUnder "state" keyBuf (fun type => type == .true || type == .false) tokens with
      | none => simp
      | some token =>
        simp only [Option.some.injEq, forall_eq']
        cases strncmpEq (jsonparseCopyValue token jsonBuffer) (word (token.type == .true))
          jsonBuffer <;> simp

/-- `state=t` turns the alarm on, and `state=true&x=1` does not. -/
theorem alarm_takes_prefix :
    ¬KeepsGrammar [] boot (.text (some ⟨['t'], [], by simp⟩)) ∧
      ¬KeepsGrammar [] boot (.text (some ⟨"true".toList, "&x=1".toList, by simp⟩)) := by
  constructor
  · intro h
    have hgrammar := (h.accepted true).mp ⟨rfl, rfl⟩
    exact absurd (show ['t'] = word true from hgrammar) (by decide)
  · intro h
    have htook := (h.accepted true).mpr rfl
    exact absurd htook.1 (by decide)

end DamMonitoring.Motes.ResAlarm
