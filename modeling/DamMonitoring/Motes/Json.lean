/-
DamMonitoring.Motes.Json — JSON documents, and what a loop over their
tokens can see of them.

`get_json_int_field` and `get_json_bool_field` remember the last name they
have passed and forget how deep they are. `Json.under` says on the
DOCUMENT which scalars they meet under a name: those of the member itself,
of arrays and objects below it and of whatever follows without a name of
its own. `tokensUnder_document` shows that the token loop sees exactly
these; the two extractions take the first of the type they look for.

  §1 documents
  §2 what stands under a name
  §3 the same, seen by a loop over tokens
  §4 the two field extractions
  §5 request bodies
-/
import DamMonitoring.Motes.ResourceTheorems

namespace DamMonitoring.Motes

/-! ## §1 Documents -/

/-- A JSON number: an integer part in decimal, without leading zeros, and
what follows it. -/
structure JsonNumber where
  negative : Bool
  integer : Nat
  /-- The fraction and the exponent, as they are written. -/
  rest : List Char
  rest_head : ∀ c, rest.head? = some c → c = '.' ∨ c = 'e' ∨ c = 'E'

/-- The number as it is written. -/
def JsonNumber.text (x : JsonNumber) : List Char :=
  (if x.negative then ['-'] else []) ++ (Nat.toDigits 10 x.integer ++ x.rest)

inductive JsonScalar where
  | num (x : JsonNumber)
  | str (s : String)
  | bool (b : Bool)
  | null

def JsonScalar.token : JsonScalar → JsonToken
  | .num x => ⟨.number, x.text⟩
  | .str s => ⟨.string, s.toList⟩
  | .bool true => ⟨.true, "true".toList⟩
  | .bool false => ⟨.false, "false".toList⟩
  | .null => ⟨.null, "null".toList⟩

/-- A JSON text; the members of an object in order, repeated names
included. -/
inductive Json where
  | scalar (x : JsonScalar)
  | arr (items : List Json)
  | obj (members : List (String × Json))

mutual

/-- The tokens of a document, up to the end of the text. -/
def Json.tokens : Json → List JsonToken
  | .scalar x => [x.token]
  | .arr items => ⟨.array, ['[']⟩ :: tokensOfItems items
  | .obj members => ⟨.object, ['\x7b']⟩ :: tokensOfMembers members

def tokensOfItems : List Json → List JsonToken
  | [] => []
  | d :: items => d.tokens ++ tokensOfItems items

def tokensOfMembers : List (String × Json) → List JsonToken
  | [] => []
  | (name, d) :: members => ⟨.pairName, name.toList⟩ :: (d.tokens ++ tokensOfMembers members)

end

/-- A flat object as a document. -/
def JsonValue.scalar : JsonValue → JsonScalar
  | .num n => .num ⟨decide (n < 0), n.natAbs, [], by simp⟩
  | .str s => .str s
  | .bool b => .bool b

def ObjectNode.document (node : ObjectNode) : Json :=
  .obj (node.map fun m => (m.1, .scalar m.2.scalar))

theorem JsonValue.scalar_token (v : JsonValue) : v.scalar.token = v.token := by
  rcases v with (n | n) | s | (_ | _)
  · simp [scalar, token, JsonScalar.token, JsonNumber.text, Int.toString_eq_repr, Int.repr]
  · simp [scalar, token, JsonScalar.token, JsonNumber.text, Int.toString_eq_repr, Int.repr,
      Int.negSucc_lt_zero]
  all_goals rfl

/-- The tokens of the requests of the Controller are those of documents. -/
theorem ObjectNode.document_tokens (node : ObjectNode) : node.document.tokens = node.tokens := by
  have hmembers : ∀ ms : List (String × JsonValue),
      tokensOfMembers (ms.map fun m => (m.1, .scalar m.2.scalar)) =
        ms.flatMap fun m => [⟨.pairName, m.1.toList⟩, m.2.token] := by
    intro ms
    induction ms with
    | nil => rfl
    | cons m ms ih =>
      simp [tokensOfMembers, Json.tokens, m.2.scalar_token, ih]
  rw [ObjectNode.document, Json.tokens, hmembers, ObjectNode.tokens]

/-! ## §2 Under a name -/

mutual

/-- The scalars of a document that stand under `key`, where `current` is
whether the last name before it was `key`; and whether the last name in
it, or before it, is. -/
def Json.under (key : String) : Bool → Json → List JsonScalar × Bool
  | current, .scalar x => (if current then [x] else [], current)
  | current, .arr items => itemsUnder key current items
  | current, .obj members => membersUnder key current members

def itemsUnder (key : String) : Bool → List Json → List JsonScalar × Bool
  | current, [] => ([], current)
  | current, d :: items =>
      let (xs, current') := d.under key current
      let (ys, current'') := itemsUnder key current' items
      (xs ++ ys, current'')

def membersUnder (key : String) : Bool → List (String × Json) → List JsonScalar × Bool
  | current, [] => ([], current)
  | _, (name, d) :: members =>
      let (xs, current') := d.under key (name == key)
      let (ys, current'') := membersUnder key current' members
      (xs ++ ys, current'')

end

/-- The value of a top-level member. -/
def Json.HasMember (d : Json) (key : String) (x : JsonScalar) : Prop :=
  ∃ members, d = .obj members ∧ (key, .scalar x) ∈ members

/-! ## §3 Tokens -/

/-- A token that is a scalar. -/
def JsonToken.isScalar (token : JsonToken) : Bool :=
  match token.type with
  | .number | .true | .false | .null | .string => true
  | _ => false

/-- The scalar tokens a loop meets while the last name it has copied is
`key`; and whether it is at the end. -/
def tokensUnder (key : String) : Bool → List JsonToken → List JsonToken × Bool
  | current, [] => ([], current)
  | current, token :: rest =>
      if token.type = .pairName then
        tokensUnder key (strncmpEq (jsonparseCopyValue token jsonBuffer) key.toList jsonBuffer) rest
      else
        let (found, current') := tokensUnder key current rest
        (if current ∧ token.isScalar then token :: found else found, current')

theorem tokensUnder_append (key : String) (current : Bool) (tokens tokens' : List JsonToken) :
    tokensUnder key current (tokens ++ tokens') =
      ((tokensUnder key current tokens).1 ++
        (tokensUnder key (tokensUnder key current tokens).2 tokens').1,
      (tokensUnder key (tokensUnder key current tokens).2 tokens').2) := by
  induction tokens generalizing current with
  | nil => rfl
  | cons token tokens ih =>
    simp only [List.cons_append, tokensUnder]
    by_cases hname : token.type = .pairName
    · rw [if_pos hname, if_pos hname, ih]
    · rw [if_neg hname, if_neg hname, ih]
      split <;> rfl

/-- A copy that may cut a name short is still told apart from a key with
room to spare. -/
theorem copy_eq_key {key : String} (hkey : key.length < jsonBuffer - 1) (name : String) :
    strncmpEq (jsonparseCopyValue ⟨.pairName, name.toList⟩ jsonBuffer) key.toList jsonBuffer =
      (name == key) := by
  have hlen : key.toList.length < 19 := by
    rw [String.length_toList]
    exact hkey
  have htake : (name.toList.take 19).take 20 = name.toList.take 19 := by
    rw [List.take_take]
    rfl
  have hall : key.toList.take 20 = key.toList := List.take_of_length_le (by omega)
  rw [Bool.eq_iff_iff]
  simp only [strncmpEq, jsonparseCopyValue, jsonBuffer, beq_iff_eq]
  change (name.toList.take 19).take 20 = key.toList.take 20 ↔ name = key
  rw [htake, hall]
  constructor
  · intro h
    have hshort : name.toList.length ≤ 19 := by
      by_contra hlong
      have := congrArg List.length h
      rw [List.length_take] at this
      omega
    rw [List.take_of_length_le hshort] at h
    exact String.toList_inj.mp h
  · rintro rfl
    exact List.take_of_length_le (by omega)

theorem JsonScalar.token_isScalar (x : JsonScalar) :
    x.token.isScalar = true ∧ x.token.type ≠ .pairName := by
  rcases x with x | s | (_ | _) | _ <;> simp [JsonScalar.token, JsonToken.isScalar]

/-- A token that is neither a name nor a scalar is passed over. -/
theorem tokensUnder_cons {token : JsonToken} (hname : token.type ≠ .pairName)
    (hscalar : token.isScalar = false) (key : String) (current : Bool) (rest : List JsonToken) :
    tokensUnder key current (token :: rest) = tokensUnder key current rest := by
  simp [tokensUnder, hname, hscalar]

mutual

/-- **The token loop sees what stands under its key**, for every document. -/
theorem tokensUnder_document {key : String} (hkey : key.length < jsonBuffer - 1) (current : Bool) :
    ∀ d : Json, tokensUnder key current d.tokens =
      ((d.under key current).1.map JsonScalar.token, (d.under key current).2)
  | .scalar x => by
      obtain ⟨hscalar, hname⟩ := x.token_isScalar
      cases current <;> simp [Json.tokens, Json.under, tokensUnder, hscalar, hname]
  | .arr items => by
      rw [Json.tokens, Json.under, tokensUnder_cons (by decide) (by decide)]
      exact tokensUnder_items hkey current items
  | .obj members => by
      rw [Json.tokens, Json.under, tokensUnder_cons (by decide) (by decide)]
      exact tokensUnder_members hkey current members

theorem tokensUnder_items {key : String} (hkey : key.length < jsonBuffer - 1) (current : Bool) :
    ∀ items : List Json, tokensUnder key current (tokensOfItems items) =
      ((itemsUnder key current items).1.map JsonScalar.token, (itemsUnder key current items).2)
  | [] => rfl
  | d :: items => by
      rw [tokensOfItems, tokensUnder_append, tokensUnder_document hkey current d,
        tokensUnder_items hkey _ items]
      simp [itemsUnder]

theorem tokensUnder_members {key : String} (hkey : key.length < jsonBuffer - 1) (current : Bool) :
    ∀ members : List (String × Json), tokensUnder key current (tokensOfMembers members) =
      ((membersUnder key current members).1.map JsonScalar.token,
        (membersUnder key current members).2)
  | [] => rfl
  | (name, d) :: members => by
      rw [tokensOfMembers, tokensUnder, if_pos rfl, copy_eq_key hkey, tokensUnder_append,
        tokensUnder_document hkey (name == key) d, tokensUnder_members hkey _ members]
      simp [membersUnder]

end

/-! ## §4 Field extraction -/

/-- The first scalar token of a type under `key`. -/
def firstUnder (key : String) (keyBuf : List Char) (is : JsonType → Bool)
    (tokens : List JsonToken) : Option JsonToken :=
  (tokensUnder key (strncmpEq keyBuf key.toList jsonBuffer) tokens).1.find? fun t => is t.type

section First

variable {key : String} {keyBuf : List Char} {is : JsonType → Bool} {token : JsonToken}
  {tokens : List JsonToken}

theorem firstUnder_name (hname : token.type = .pairName) :
    firstUnder key keyBuf is (token :: tokens) =
      firstUnder key (jsonparseCopyValue token jsonBuffer) is tokens := by
  simp [firstUnder, tokensUnder, hname]

theorem firstUnder_found (hname : token.type ≠ .pairName)
    (hkey : strncmpEq keyBuf key.toList jsonBuffer = true) (hscalar : token.isScalar = true)
    (his : is token.type = true) : firstUnder key keyBuf is (token :: tokens) = some token := by
  simp [firstUnder, tokensUnder, hname, hkey, hscalar, his]

theorem firstUnder_skip (hname : token.type ≠ .pairName)
    (hskip : strncmpEq keyBuf key.toList jsonBuffer = false ∨ is token.type = false) :
    firstUnder key keyBuf is (token :: tokens) = firstUnder key keyBuf is tokens := by
  simp only [firstUnder, tokensUnder, if_neg hname]
  rcases hskip with hkey | his
  · simp [hkey]
  · split
    · rw [List.find?_cons_of_neg (by simp [his])]
    · rfl

end First

/-- `get_json_int_field` converts the first number under its key. -/
theorem getJsonIntField_eq (overflow : Int → Int) (keyBuf : List Char) (key : String)
    (tokens : List JsonToken) :
    getJsonIntField overflow keyBuf key tokens =
      match firstUnder key keyBuf (· == .number) tokens with
      | none => (-1, none)
      | some token =>
          (if jsonparseCopyValue token jsonBuffer ≠ ['0'] ∧
            atoi overflow (jsonparseCopyValue token jsonBuffer) = 0 then 0 else 1,
          some (atoi overflow (jsonparseCopyValue token jsonBuffer))) := by
  induction tokens generalizing keyBuf with
  | nil => rfl
  | cons token tokens ih =>
    unfold getJsonIntField
    by_cases hname : token.type = .pairName
    · rw [if_pos hname, firstUnder_name hname]
      exact ih _
    · rw [if_neg hname]
      by_cases hfound : token.type = .number ∧ strncmpEq keyBuf key.toList jsonBuffer = true
      · rw [if_pos hfound, firstUnder_found hname hfound.2 (by simp [JsonToken.isScalar, hfound.1])
          (by simp [hfound.1])]
      · have hskip : strncmpEq keyBuf key.toList jsonBuffer = false ∨
            (token.type == .number) = false := by
          cases hkey : strncmpEq keyBuf key.toList jsonBuffer with
          | false => exact Or.inl rfl
          | true => exact Or.inr (beq_eq_false_iff_ne.mpr fun htype => hfound ⟨htype, hkey⟩)
        rw [if_neg hfound, firstUnder_skip hname hskip]
        exact ih keyBuf

/-- `get_json_bool_field` takes the first truth value under its key. -/
theorem getJsonBoolField_eq (keyBuf : List Char) (key : String) (tokens : List JsonToken) :
    getJsonBoolField keyBuf key tokens =
      match firstUnder key keyBuf (fun type => type == .true || type == .false) tokens with
      | none => (-1, none)
      | some token =>
          let value := token.type == .true
          (if strncmpEq (jsonparseCopyValue token jsonBuffer) (if value then "true" else "false").toList
              jsonBuffer
            then 1 else 0, some value) := by
  induction tokens generalizing keyBuf with
  | nil => rfl
  | cons token tokens ih =>
    unfold getJsonBoolField
    by_cases hname : token.type = .pairName
    · rw [if_pos hname, firstUnder_name hname]
      exact ih _
    · rw [if_neg hname]
      cases hkey : strncmpEq keyBuf key.toList jsonBuffer with
      | false =>
        rw [firstUnder_skip hname (Or.inl hkey)]
        simp only [Bool.false_eq_true, and_false, if_false]
        exact ih keyBuf
      | true =>
        by_cases htrue : token.type = .true
        · rw [firstUnder_found hname hkey (by simp [JsonToken.isScalar, htrue]) (by simp [htrue])]
          simp [htrue]
        · by_cases hfalse : token.type = .false
          · rw [firstUnder_found hname hkey (by simp [JsonToken.isScalar, hfalse])
              (by simp [hfalse])]
            simp [hfalse]
          · rw [firstUnder_skip hname (Or.inr (by simp [htrue, hfalse]))]
            simp only [htrue, hfalse, false_and, if_false]
            exact ih keyBuf

/-- The first scalar of a type that stands under `key` in a document. -/
def Json.first (d : Json) (key : String) (keyBuf : List Char) (is : JsonType → Bool) :
    Option JsonScalar :=
  (d.under key (strncmpEq keyBuf key.toList jsonBuffer)).1.find? fun x => is x.token.type

theorem firstUnder_document {key : String} (hkey : key.length < jsonBuffer - 1)
    (keyBuf : List Char) (is : JsonType → Bool) (d : Json) :
    firstUnder key keyBuf is d.tokens = (d.first key keyBuf is).map JsonScalar.token := by
  rw [firstUnder, tokensUnder_document hkey, List.find?_map]
  rfl

theorem mem_membersUnder {key : String} {x : JsonScalar} {members : List (String × Json)}
    (h : (key, .scalar x) ∈ members) (current : Bool) :
    x ∈ (membersUnder key current members).1 := by
  induction members generalizing current with
  | nil => cases h
  | cons m members ih =>
    obtain ⟨name, d⟩ := m
    simp only [membersUnder, List.mem_append]
    rcases List.mem_cons.mp h with heq | h
    · cases heq
      simp [Json.under]
    · exact Or.inr (ih h _)

/-- A top-level member stands under its name. -/
theorem Json.HasMember.mem_under {d : Json} {key : String} {x : JsonScalar}
    (h : d.HasMember key x) (current : Bool) : x ∈ (d.under key current).1 := by
  obtain ⟨members, rfl, hmem⟩ := h
  exact mem_membersUnder hmem current

/-- So there is a first scalar of its type. -/
theorem Json.HasMember.first_ne_none {d : Json} {key : String} {x : JsonScalar}
    (h : d.HasMember key x) (keyBuf : List Char) {is : JsonType → Bool}
    (his : is x.token.type = true) : d.first key keyBuf is ≠ none := by
  intro hfirst
  have hnone := List.find?_eq_none.mp hfirst x (h.mem_under _)
  exact absurd his hnone

theorem Json.first_number {d : Json} {key : String} {keyBuf : List Char} {y : JsonScalar}
    (h : d.first key keyBuf (· == .number) = some y) : ∃ x, y = .num x := by
  have htype := List.find?_some (p := fun x : JsonScalar => x.token.type == .number) h
  rcases y with x | s | (_ | _) | _
  · exact ⟨x, rfl⟩
  all_goals cases htype

theorem Json.first_bool {d : Json} {key : String} {keyBuf : List Char} {y : JsonScalar}
    (h : d.first key keyBuf (fun type => type == .true || type == .false) = some y) :
    ∃ b, y = .bool b := by
  have htype := List.find?_some
    (p := fun x : JsonScalar => x.token.type == .true || x.token.type == .false) h
  rcases y with x | s | b | _
  · cases htype
  · cases htype
  · exact ⟨b, rfl⟩
  · cases htype

/-! ## §5 Request bodies -/

/-- A form variable: its value, and what follows it in the payload, which
is nothing or the next variable. -/
structure PostVariable where
  value : List Char
  rest : List Char
  ends : ∀ c, rest.head? = some c → c = '&'

/-- The C string that starts at the value. -/
def PostVariable.cString (v : PostVariable) : List Char :=
  (v.value ++ v.rest).takeWhile (· ≠ '\x00')

/-- A request body, with what it says of the variable the handler asks
for. A payload that is no JSON text yields tokens up to the error. -/
inductive Body where
  | noFormat
  | otherFormat
  | text (var : Option PostVariable)
  | json (document : Json)
  | badJson (payloadLen : Nat) (tokens : List JsonToken)

/-- The request; no handler looks at the exact length of a JSON text. -/
def Body.request : Body → Request
  | .noFormat => ⟨none, 0, [], fun _ => (0, [])⟩
  | .otherFormat => ⟨some .other, 0, [], fun _ => (0, [])⟩
  | .text none => ⟨some .textPlain, 0, [], fun _ => (0, [])⟩
  | .text (some v) => ⟨some .textPlain, 0, [], fun _ => (v.value.length, v.cString)⟩
  | .json d => ⟨some .applicationJson, 1 + d.tokens.length, d.tokens, fun _ => (0, [])⟩
  | .badJson payloadLen tokens => ⟨some .applicationJson, payloadLen, tokens, fun _ => (0, [])⟩

/-- What follows the value never continues a run of digits. -/
theorem PostVariable.rest_not_digit (v : PostVariable) (c : Char)
    (hc : (v.rest.takeWhile (· ≠ '\x00')).head? = some c) : c.isDigit = false := by
  have hhead : v.rest.head? = some c := by
    cases hrest : v.rest with
    | nil => simp [hrest] at hc
    | cons d rest =>
      rw [hrest, List.takeWhile_cons] at hc
      split at hc
      · exact hc
      · cases hc
  rw [v.ends c hhead]
  decide

/-- Nothing follows in the C string only if nothing follows. -/
theorem PostVariable.rest_eq_nil (v : PostVariable) :
    v.rest.takeWhile (· ≠ '\x00') = [] ↔ v.rest = [] := by
  cases hrest : v.rest with
  | nil => simp
  | cons c rest =>
    obtain rfl : c = '&' := v.ends c (by rw [hrest]; rfl)
    simp

theorem PostVariable.cString_eq (v : PostVariable) (h : '\x00' ∉ v.value) :
    v.cString = v.value ++ v.rest.takeWhile (· ≠ '\x00') := by
  refine List.takeWhile_append_of_pos fun c hc => ?_
  simp only [ne_eq, decide_eq_true_eq]
  rintro rfl
  exact h hc

end DamMonitoring.Motes
