/-
DamMonitoring.Motes.GateGrammar — which request bodies a gate accepts,
beside the grammar it is meant to accept.

A gate is meant to take `opening_level` as a decimal integer from 0 to
100, as the whole value of a form variable or as a member of a JSON
object. The handler looks at less (the beginning of a text, the first
number under the name) and at more (what follows the variable), and a
number beyond `int` is what the C library makes of it.
`gate_put_grammar_iff` says for which bodies this makes no difference.

  §1 what the handler takes
  §2 the grammar
  §3 bodies that keep it
-/
import DamMonitoring.Motes.Literals

namespace DamMonitoring.Motes.ResGate

/-! ## §1 Taking a level -/

/-- The level is `n` now, changed or confirmed. -/
def Took (out : GateT × Response) (n : Int) : Prop :=
  (out.2.code = .CHANGED_2_04 ∨ out.2.code = .VALID_2_03) ∧ out.1.openingLevel = n

/-- 4.00, and nothing has changed. -/
def Refused (g : GateT) (out : GateT × Response) : Prop :=
  out.2.code = .BAD_REQUEST_4_00 ∧ out.1 = g

theorem took_apply (g : GateT) (paramLen : Nat) (paramOk newLevel n : Int) :
    Took (apply g paramLen paramOk newLevel) n ↔ 0 < paramLen ∧ paramOk = 1 ∧ newLevel = n := by
  unfold apply
  by_cases hlen : paramLen = 0
  · simp [Took, hlen, missingOpeningLevel, Response.message]
  · by_cases hok : paramOk = 1
    · by_cases hsame : g.openingLevel = newLevel
      · simp [Took, hlen, hok, hsame, Response.message, Nat.pos_iff_ne_zero]
      · simp [Took, hlen, hok, hsame, Response.message, Nat.pos_iff_ne_zero]
    · simp [Took, hlen, hok, badOpeningLevel, Response.message]

/-- A body is taken or refused. -/
theorem took_or_refused (overflow : Int → Int) (keyBuf : List Char) (g : GateT)
    (request : Request) :
    (∃ n, Took (resPutHandler overflow keyBuf g request) n) ∨
      Refused g (resPutHandler overflow keyBuf g request) := by
  rcases resPutHandler_cases overflow keyBuf g request with
    h | h | ⟨paramLen, paramOk, newLevel, -, h⟩
  · rw [h]
    exact Or.inr ⟨rfl, rfl⟩
  · rw [h]
    exact Or.inr ⟨rfl, rfl⟩
  · rw [h]
    by_cases hlen : paramLen = 0
    · refine Or.inr ?_
      simp [Refused, apply, hlen, missingOpeningLevel, Response.message]
    · by_cases hok : paramOk = 1
      · exact Or.inl ⟨newLevel, (took_apply g _ _ _ _).mpr ⟨Nat.pos_of_ne_zero hlen, hok, rfl⟩⟩
      · refine Or.inr ?_
        simp [Refused, apply, hlen, hok, badOpeningLevel, Response.message]

/-- The text that the handler converts. -/
def seen (keyBuf : List Char) : Body → Option (List Char)
  | .text (some v) => if v.value = [] then none else some v.cString
  | .json d => (firstUnder "opening_level" keyBuf (· == .number) d.tokens).map
      (jsonparseCopyValue · jsonBuffer)
  | .badJson payloadLen tokens =>
      if payloadLen = 0 then none
      else (firstUnder "opening_level" keyBuf (· == .number) tokens).map
        (jsonparseCopyValue · jsonBuffer)
  | _ => none

/-- A form request, by what `coap_get_post_variable` points to. -/
theorem took_variable (overflow : Int → Int) (keyBuf : List Char) (g : GateT) {request : Request}
    (hformat : request.contentFormat = some .textPlain) (n : Int) :
    Took (resPutHandler overflow keyBuf g request) n ↔
      0 < (request.postVariable "opening_level").1 ∧
        Reads overflow (request.postVariable "opening_level").2 n := by
  obtain ⟨format, payloadLen, tokens, postVariable⟩ := request
  obtain rfl : format = some .textPlain := hformat
  unfold resPutHandler
  dsimp only
  generalize postVariable "opening_level" = v
  obtain ⟨paramLen, p⟩ := v
  dsimp only
  by_cases hlen : 0 < paramLen
  · rw [if_pos hlen, took_apply]
    simp only [hlen, true_and, Reads, Accepts]
    constructor
    · intro hboth
      obtain ⟨hok, rfl⟩ := hboth
      split at hok
      · cases hok
      · next hgood => exact ⟨rfl, by omega, fun h => by_contra fun h' => hgood (Or.inl ⟨h', h⟩)⟩
    · intro hboth
      obtain ⟨rfl, hrange, hzero⟩ := hboth
      refine ⟨if_neg ?_, rfl⟩
      rintro (⟨hne, h⟩ | h | h)
      · exact hne (hzero h)
      · omega
      · omega
  · rw [if_neg hlen, took_apply]
    simp [hlen]

/-- The tests between the extraction and `apply`. -/
theorem took_extracted (g : GateT) {payloadLen : Nat} (hlen : 0 < payloadLen)
    (paramOk newLevel n : Int) :
    Took (if paramOk = -1 then apply g 0 paramOk newLevel
      else if paramOk ≠ 1 ∨ newLevel < 0 ∨ 100 < newLevel then apply g payloadLen 0 newLevel
      else apply g payloadLen paramOk newLevel) n ↔ paramOk = 1 ∧ newLevel = n ∧ Accepts n := by
  by_cases hok : paramOk = 1
  · subst hok
    by_cases hout : newLevel < 0 ∨ 100 < newLevel
    · rw [if_neg (by decide), if_pos (Or.inr hout), took_apply]
      constructor
      · intro h'
        obtain ⟨-, h, -⟩ := h'
        cases h
      · intro h'
        obtain ⟨-, rfl, hlo, hhi⟩ := h'
        omega
    · have hskip : ¬((1 : Int) ≠ 1 ∨ newLevel < 0 ∨ 100 < newLevel) := by omega
      rw [if_neg (by decide), if_neg hskip, took_apply]
      constructor
      · intro h'
        obtain ⟨-, -, rfl⟩ := h'
        exact ⟨rfl, rfl, by omega, by omega⟩
      · intro h'
        obtain ⟨-, rfl, -⟩ := h'
        exact ⟨hlen, rfl, rfl⟩
  · have hno : ¬(paramOk = 1 ∧ newLevel = n ∧ Accepts n) := fun h => hok h.1
    rw [iff_false_right hno]
    split
    · simp [took_apply]
    · rw [if_pos (Or.inl hok)]
      simp [took_apply]

/-- A JSON request, by the first number under the name. -/
theorem took_tokens (overflow : Int → Int) (keyBuf : List Char) (g : GateT) {request : Request}
    (hformat : request.contentFormat = some .applicationJson) (n : Int) :
    Took (resPutHandler overflow keyBuf g request) n ↔ 0 < request.payloadLen ∧
      ∃ token, firstUnder "opening_level" keyBuf (· == .number) request.tokens = some token ∧
        Reads overflow (jsonparseCopyValue token jsonBuffer) n := by
  unfold resPutHandler
  rw [hformat]
  by_cases hlen : 0 < request.payloadLen
  · dsimp only
    rw [if_pos hlen, took_extracted g hlen, getJsonIntField_eq]
    cases hfirst : firstUnder "opening_level" keyBuf (· == .number) request.tokens with
    | none => simp
    | some token =>
      simp only [Option.getD_some, Option.some.injEq, exists_eq_left', hlen, true_and]
      generalize jsonparseCopyValue token jsonBuffer = p
      constructor
      · intro h'
        obtain ⟨hok, rfl, hrange⟩ := h'
        refine ⟨rfl, hrange, fun hzero => ?_⟩
        by_contra hne
        rw [if_pos ⟨hne, hzero⟩] at hok
        cases hok
      · intro h'
        obtain ⟨rfl, hrange, hzero⟩ := h'
        exact ⟨if_neg fun h => h.1 (hzero h.2), rfl, hrange⟩
  · simp [hlen, took_apply]

/-- **What a gate takes**, from any body. -/
theorem took_iff (overflow : Int → Int) (keyBuf : List Char) (g : GateT) (body : Body) (n : Int) :
    Took (resPutHandler overflow keyBuf g body.request) n ↔
      ∃ p, seen keyBuf body = some p ∧ Reads overflow p n := by
  match body with
  | .noFormat => simp [resPutHandler, Body.request, Took, missingContentType, Response.message, seen]
  | .otherFormat =>
    simp [resPutHandler, Body.request, Took, unsupportedContentType, Response.message, seen]
  | .text none => simp [resPutHandler, Body.request, took_apply, seen]
  | .text (some v) =>
    rw [took_variable overflow keyBuf g rfl]
    by_cases hvalue : v.value = []
    · simp [Body.request, seen, hvalue]
    · simp [Body.request, seen, hvalue, List.length_pos_iff]
  | .json d =>
    have hlen : 0 < 1 + d.tokens.length := by omega
    rw [took_tokens overflow keyBuf g rfl]
    simp [Body.request, seen, hlen]
  | .badJson payloadLen tokens =>
    rw [took_tokens overflow keyBuf g rfl]
    by_cases hlen : payloadLen = 0
    · simp [Body.request, seen, hlen]
    · simp [Body.request, seen, hlen, Nat.pos_of_ne_zero hlen]

/-! ## §2 Grammar -/

/-- The grammar: `opening_level` is a decimal integer literal for `n`,
from 0 to 100. -/
def Grammar : Body → Int → Prop
  | .text (some v), n => literal? v.value = some n ∧ Accepts n
  | .json d, n => ∃ x, d.HasMember "opening_level" (.num x) ∧ x.literal? = some n ∧ Accepts n
  | _, _ => False

/-- The handler does with the body what the grammar says. -/
structure KeepsGrammar (overflow : Int → Int) (keyBuf : List Char) (g : GateT) (body : Body) :
    Prop where
  accepted : ∀ n, Took (resPutHandler overflow keyBuf g body.request) n ↔ Grammar body n
  refused : (∀ n, ¬Grammar body n) → Refused g (resPutHandler overflow keyBuf g body.request)

/-- What `atoi` makes of the number is none of the levels from 1 to 100. -/
def OutOfReach (overflow : Int → Int) (n : Int) : Prop :=
  ¬(1 ≤ toInt overflow n ∧ toInt overflow n ≤ 100)

/-- The text cannot be taken for a level. -/
def NoLevel (overflow : Int → Int) (p : List Char) : Prop :=
  p ≠ ['0'] ∧ ∀ n, Begins p n → OutOfReach overflow n

/-- The bodies for which it makes no difference where the handler looks. -/
def Clear (overflow : Int → Int) (keyBuf : List Char) : Body → Prop
  | .text (some v) =>
      match literal? v.value with
      | some n => (n = 0 → v.value = ['0'] ∧ v.rest = []) ∧ (¬IsInt n → OutOfReach overflow n)
      | none => v.value = [] ∨ NoLevel overflow v.cString
  | .json d => ∀ x, d.first "opening_level" keyBuf (· == .number) = some (.num x) →
      (∀ n, x.level overflow = some n →
        ∃ y, d.HasMember "opening_level" (.num y) ∧ y.literal? = some n) ∧
      ∀ y n, d.HasMember "opening_level" (.num y) → y.literal? = some n → Accepts n →
        x.level overflow = some n
  | .badJson payloadLen tokens => payloadLen = 0 ∨
      ∀ token, firstUnder "opening_level" keyBuf (· == .number) tokens = some token →
        NoLevel overflow (jsonparseCopyValue token jsonBuffer)
  | _ => True

/-! ## §3 Bodies -/

theorem noLevel_iff (overflow : Int → Int) (p : List Char) :
    NoLevel overflow p ↔ ∀ n, ¬Reads overflow p n := by
  constructor
  · intro h n hreads
    rcases (reads_iff_begins overflow p n).mp hreads with ⟨hp, -⟩ | ⟨⟨m, hbegins, rfl⟩, hrange⟩
    · exact h.1 hp
    · exact h.2 m hbegins hrange
  · intro h
    refine ⟨fun hp => h 0 ((reads_iff_begins overflow p 0).mpr (Or.inl ⟨hp, rfl⟩)),
      fun n hbegins hrange => ?_⟩
    exact h _ ((reads_iff_begins overflow p _).mpr (Or.inr ⟨⟨n, hbegins, rfl⟩, hrange⟩))

theorem keepsGrammar_iff_seen (overflow : Int → Int) (keyBuf : List Char) (g : GateT)
    (body : Body) :
    KeepsGrammar overflow keyBuf g body ↔
      ∀ n, (∃ p, seen keyBuf body = some p ∧ Reads overflow p n) ↔ Grammar body n := by
  constructor
  · intro h n
    rw [← took_iff overflow keyBuf g]
    exact h.accepted n
  · intro h
    have haccepted : ∀ n,
        Took (resPutHandler overflow keyBuf g body.request) n ↔ Grammar body n := by
      intro n
      rw [took_iff]
      exact h n
    refine ⟨haccepted, fun hno => ?_⟩
    rcases took_or_refused overflow keyBuf g body.request with ⟨n, htook⟩ | hrefused
    · exact absurd ((haccepted n).mp htook) (hno n)
    · exact hrefused

/-- A text that is a literal is converted to its number. -/
theorem reads_literal (overflow : Int → Int) {v : PostVariable} {m : Int}
    (h : literal? v.value = some m) (n : Int) :
    Reads overflow v.cString n ↔
      toInt overflow m = n ∧ Accepts n ∧ (n = 0 → v.value = ['0'] ∧ v.rest = []) := by
  obtain ⟨ds, k, hds, hshape⟩ := literal?_cases h
  obtain ⟨hne, hall, -⟩ := digits?_eq_some hds
  have hdigit : '\x00' ∉ ds := fun hmem => absurd (hall _ hmem) (by decide)
  have hnul : '\x00' ∉ v.value := by
    rcases hshape with ⟨hv, -⟩ | ⟨hv, -⟩ | ⟨hv, -⟩
    · rw [hv]
      simpa using hdigit
    · rw [hv]
      simpa using hdigit
    · rw [hv]
      exact hdigit
  have hatoi : atoi overflow v.cString = toInt overflow m := by
    refine atoi_of_begins overflow ⟨[], v.value, v.rest.takeWhile (· ≠ '\x00'), ?_, by simp, h,
      v.rest_not_digit⟩
    rw [v.cString_eq hnul, List.nil_append]
  have hzero : v.cString = ['0'] ↔ v.value = ['0'] ∧ v.rest = [] := by
    rw [v.cString_eq hnul, ← v.rest_eq_nil]
    constructor
    · intro heq
      have hvalue : v.value ≠ [] := by
        rcases hshape with ⟨hv, -⟩ | ⟨hv, -⟩ | ⟨hv, -⟩ <;> simp [hv, hne]
      cases hv : v.value with
      | nil => exact absurd hv hvalue
      | cons c cs =>
        rw [hv] at heq
        simpa [and_assoc] using heq
    · intro h'
      obtain ⟨hv, hrest⟩ := h'
      rw [hv, hrest, List.append_nil]
  rw [Reads, hatoi, hzero]

/-- What is made of a literal is what it says, for every level: a 0 is to be
plain, and a number beyond `int` out of reach. -/
theorem literal_agrees (overflow : Int → Int) {m : Int} {plain : Prop} (hplain : plain → m = 0) :
    (∀ n, toInt overflow m = n ∧ Accepts n ∧ (n = 0 → plain) ↔ m = n ∧ Accepts n) ↔
      (m = 0 → plain) ∧ (¬IsInt m → OutOfReach overflow m) := by
  by_cases hint : IsInt m
  · rw [toInt_of_isInt hint]
    constructor
    · exact fun h => ⟨fun hm => ((h 0).mpr ⟨hm, by decide⟩).2.2 rfl, fun hnot => absurd hint hnot⟩
    · intro h n
      constructor
      · exact fun hreads => ⟨hreads.1, hreads.2.1⟩
      · intro h'
        obtain ⟨rfl, hacc⟩ := h'
        exact ⟨rfl, hacc, h.1⟩
  · -- no level is `m`, so none may be made of it
    have hne : ∀ n, ¬(m = n ∧ Accepts n) := by
      rintro n ⟨rfl, hlo, hhi⟩
      exact hint ⟨by omega, by omega⟩
    have hzero : m ≠ 0 := by
      rintro rfl
      exact hint (by decide)
    simp only [hne, iff_false]
    constructor
    · intro h
      refine ⟨fun hm => absurd hm hzero, fun _ hrange => ?_⟩
      exact h _ ⟨rfl, ⟨by omega, hrange.2⟩, fun hn => by omega⟩
    · rintro ⟨-, hout⟩ n ⟨rfl, ⟨hlo, hhi⟩, hn⟩
      refine hout hint ⟨?_, hhi⟩
      by_contra hsmall
      exact hzero (hplain (hn (by omega)))

theorem keepsGrammar_text (overflow : Int → Int) (keyBuf : List Char) (g : GateT)
    (v : PostVariable) :
    KeepsGrammar overflow keyBuf g (.text (some v)) ↔ Clear overflow keyBuf (.text (some v)) := by
  rw [keepsGrammar_iff_seen]
  simp only [seen, Grammar, Clear]
  cases hlit : literal? v.value with
  | some m =>
    have hvalue : v.value ≠ [] := by
      intro hnil
      rw [hnil] at hlit
      cases hlit
    simp only [if_neg hvalue, Option.some.injEq, exists_eq_left', reads_literal overflow hlit]
    exact literal_agrees overflow fun hplain => by
      rw [hplain.1] at hlit
      exact (Option.some.inj hlit).symm
  | none =>
    simp only [reduceCtorEq, false_and, iff_false]
    by_cases hvalue : v.value = []
    · simp [hvalue]
    · simp [hvalue, noLevel_iff overflow]

theorem keepsGrammar_json (overflow : Int → Int) (keyBuf : List Char) (g : GateT) (d : Json) :
    KeepsGrammar overflow keyBuf g (.json d) ↔ Clear overflow keyBuf (.json d) := by
  rw [keepsGrammar_iff_seen]
  have hkey : "opening_level".length < jsonBuffer - 1 := by decide
  simp only [seen, Grammar, Clear, firstUnder_document hkey]
  cases hfirst : d.first "opening_level" keyBuf (· == .number) with
  | none =>
    have hno : ∀ x, ¬d.HasMember "opening_level" (.num x) :=
      fun x hmem => hmem.first_ne_none keyBuf rfl hfirst
    simp [hno]
  | some y =>
    obtain ⟨x, rfl⟩ := Json.first_number hfirst
    have hcopy : jsonparseCopyValue (JsonScalar.num x).token jsonBuffer = x.text.take 19 := rfl
    simp only [Option.map_some, Option.some.injEq, exists_eq_left', hcopy, x.reads_text overflow,
      JsonScalar.num.injEq, forall_eq']
    constructor
    · intro h
      refine ⟨fun n hn => ?_, fun y n hmem hlit hacc => (h n).mpr ⟨y, hmem, hlit, hacc⟩⟩
      obtain ⟨y, hmem, hlit, -⟩ := (h n).mp hn
      exact ⟨y, hmem, hlit⟩
    · rintro ⟨hfrom, hto⟩ n
      constructor
      · intro hn
        obtain ⟨y, hmem, hlit⟩ := hfrom n hn
        exact ⟨y, hmem, hlit, ((x.reads_text overflow n).mpr hn).2.1⟩
      · intro h'
        obtain ⟨y, hmem, hlit, hacc⟩ := h'
        exact hto y n hmem hlit hacc

/-- **When a gate keeps the grammar.** For every body, whatever the stack
holds in place of `key_buf` and whatever `atoi` makes of a number beyond
`int`: the gate takes the level the grammar says and refuses everything
else if and only if the body is clear. -/
theorem gate_put_grammar_iff (overflow : Int → Int) (keyBuf : List Char) (g : GateT) (body : Body) :
    KeepsGrammar overflow keyBuf g body ↔ Clear overflow keyBuf body := by
  match body with
  | .noFormat =>
    rw [keepsGrammar_iff_seen]
    simp [seen, Grammar, Clear]
  | .otherFormat =>
    rw [keepsGrammar_iff_seen]
    simp [seen, Grammar, Clear]
  | .text none =>
    rw [keepsGrammar_iff_seen]
    simp [seen, Grammar, Clear]
  | .text (some v) => exact keepsGrammar_text overflow keyBuf g v
  | .json d => exact keepsGrammar_json overflow keyBuf g d
  | .badJson payloadLen tokens =>
    rw [keepsGrammar_iff_seen]
    simp only [seen, Grammar, Clear, iff_false]
    by_cases hlen : payloadLen = 0
    · simp [hlen]
    · simp only [hlen, if_false, false_or, noLevel_iff]
      cases firstUnder "opening_level" keyBuf (· == .number) tokens <;> simp

/-- `opening_level=50abc` opens the gate to 50, and so does a nested
`{"gate": {"opening_level": 50}}`; where `atoi` truncates, 4294967346
does. -/
theorem gate_takes_more :
    ¬KeepsGrammar saturate [] boot (.text (some ⟨"50abc".toList, [], by simp⟩)) ∧
      ¬KeepsGrammar saturate [] boot (.json (.obj [("gate", .obj [("opening_level",
        .scalar (.num ⟨false, 50, [], by simp⟩))])])) ∧
      ¬KeepsGrammar truncate [] boot (.text (some ⟨"4294967346".toList, [], by simp⟩)) := by
  refine ⟨fun h => ?_, fun h => ?_, fun h => ?_⟩
  · have hgrammar := (h.accepted 50).mp ⟨Or.inl rfl, rfl⟩
    exact absurd hgrammar.1 (by decide)
  · obtain ⟨x, ⟨members, heq, hmem⟩, -⟩ := (h.accepted 50).mp ⟨Or.inl rfl, rfl⟩
    cases heq
    simp at hmem
  · have htook : Took (resPutHandler truncate [] boot
        (Body.text (some ⟨"4294967346".toList, [], by simp⟩)).request) 50 :=
      ⟨Or.inl (by decide +kernel), by decide +kernel⟩
    exact absurd ((h.accepted 50).mp htook).1 (by decide)

end DamMonitoring.Motes.ResGate
