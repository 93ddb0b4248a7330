/-
DamMonitoring.Motes.Common — `lib/common` and the CoAP engine as the
actuator resources see them.

The JSON tokenizer and the CoAP accessors belong to the operating system
of the motes, so a request is modelled by what those accessors answer
about it: the content format, the payload length, the tokens
`jsonparse_next` yields until `JSON_TYPE_ERROR`, and where
`coap_get_post_variable` points. Everything the firmware itself does
with these answers is written out.

  §1 flat JSON objects, requests and responses
  §2 C strings: `atoi`, `strncmp`, the truncating copy
  §3 `get_json_int_field` and `get_json_bool_field`
  §4 `URN`
-/
import Mathlib.Logic.Basic

namespace DamMonitoring.Motes

/-! ## §1 Messages -/

/-- A scalar JSON value. -/
inductive JsonValue where
  | num (n : Int)
  | str (s : String)
  | bool (b : Bool)
  deriving DecidableEq, Repr

/-- A flat JSON object, members in order. -/
abbrev ObjectNode : Type := List (String × JsonValue)

/-- The types of the tokens that begin something; the firmware passes
over all others. -/
inductive JsonType where
  | object | array | pairName | number | true | false | null | string
  deriving DecidableEq, Repr

structure JsonToken where
  type : JsonType
  text : List Char
  deriving DecidableEq, Repr

def JsonValue.token : JsonValue → JsonToken
  | .num n => ⟨.number, (toString n).toList⟩
  | .str s => ⟨.string, s.toList⟩
  | .bool true => ⟨.true, "true".toList⟩
  | .bool false => ⟨.false, "false".toList⟩

/-- The tokens of a flat object: each member is its name and its value. -/
def ObjectNode.tokens (node : ObjectNode) : List JsonToken :=
  ⟨.object, ['\x7b']⟩ :: node.flatMap fun m => [⟨.pairName, m.1.toList⟩, m.2.token]

inductive ContentFormat where
  | textPlain | applicationJson | other
  deriving DecidableEq, Repr

/-- A request, as the CoAP accessors and `jsonparse` report it.
`postVariable name` is the length of the value of the variable and the
text from its first character to the end of the payload. -/
structure Request where
  contentFormat : Option ContentFormat
  payloadLen : Nat
  tokens : List JsonToken
  postVariable : String → Nat × List Char

/-- The request that carries a JSON object. The payload has at least its
two braces, and no firmware looks at its exact length. -/
def Request.json (node : ObjectNode) : Request where
  contentFormat := some .applicationJson
  payloadLen := 2 + node.tokens.length
  tokens := node.tokens
  postVariable := fun _ => (0, [])

inductive ResponseCode where
  | CREATED_2_01 | VALID_2_03 | CHANGED_2_04 | CONTENT_2_05
  | BAD_REQUEST_4_00 | INTERNAL_SERVER_ERROR_5_00
  deriving DecidableEq, Repr

/-- `isSuccess`: a 2.xx code. -/
def ResponseCode.isSuccess : ResponseCode → Bool
  | .BAD_REQUEST_4_00 | .INTERNAL_SERVER_ERROR_5_00 => false
  | _ => true

structure Response where
  code : ResponseCode
  payload : ObjectNode
  deriving DecidableEq, Repr

/-- A reply whose payload is `{"message": …}`. -/
def Response.message (code : ResponseCode) (text : String) : Response :=
  ⟨code, [("message", .str text)]⟩

/-! ## §2 C strings -/

def jsonBuffer : Nat := 20

/-- `jsonparse_copy_value`: at most `size - 1` characters are kept. -/
def jsonparseCopyValue (token : JsonToken) (size : Nat) : List Char :=
  token.text.take (size - 1)

/-- `strncmp(a, b, n) == 0` on texts without NUL. -/
def strncmpEq (a b : List Char) (n : Nat) : Bool := a.take n == b.take n

/-- `isspace` in the C locale. -/
def isSpace (c : Char) : Bool := c = ' ' || (9 ≤ c.toNat && c.toNat ≤ 13)

/-- The number a text begins with: white space, an optional sign, the
longest run of digits. -/
def leadingInt (s : List Char) : Int :=
  match s.dropWhile isSpace with
  | '-' :: ds => -(Nat.ofDigitChars 10 (ds.takeWhile Char.isDigit) 0 : Int)
  | '+' :: ds => Nat.ofDigitChars 10 (ds.takeWhile Char.isDigit) 0
  | ds => Nat.ofDigitChars 10 (ds.takeWhile Char.isDigit) 0

/-- The range of an `int`, of 32 bits on every target. -/
def IsInt (n : Int) : Prop := -2147483648 ≤ n ∧ n ≤ 2147483647

instance (n : Int) : Decidable (IsInt n) := inferInstanceAs (Decidable (_ ∧ _))

/-- What `atoi` returns for the number `n`. Beyond `int` the C standard
leaves the result open, and the libraries differ: `overflow` is theirs. -/
def toInt (overflow : Int → Int) (n : Int) : Int := if IsInt n then n else overflow n

/-- `atoi`. -/
def atoi (overflow : Int → Int) (s : List Char) : Int := toInt overflow (leadingInt s)

/-- `strtol` with a `long` of 32 bits, as on the boards. -/
def saturate (n : Int) : Int := max (-2147483648) (min n 2147483647)

/-- `strtol` with a `long` of 64 bits, cut to `int`, as on a 64-bit host. -/
def truncate (n : Int) : Int :=
  (max (-9223372036854775808) (min n 9223372036854775807) + 2147483648) % 4294967296 - 2147483648

/-! ## §3 Field extraction -/

/-- `get_json_int_field`: the return value, and what is stored through
`value` (`none`: nothing). `keyBuf` is the content of `key_buf`, which
the C function does not initialise. -/
def getJsonIntField (overflow : Int → Int) (keyBuf : List Char) (key : String) :
    List JsonToken → Int × Option Int
  | [] => (-1, none)
  | token :: rest =>
      if token.type = .pairName then
        getJsonIntField overflow (jsonparseCopyValue token jsonBuffer) key rest
      else if token.type = .number ∧ strncmpEq keyBuf key.toList jsonBuffer then
        let valueBuf := jsonparseCopyValue token jsonBuffer
        let value := atoi overflow valueBuf
        -- a value that is not "0" and still converts to 0 is no number
        (if valueBuf ≠ ['0'] ∧ value = 0 then 0 else 1, some value)
      else getJsonIntField overflow keyBuf key rest

/-- `get_json_bool_field`, in the same form. -/
def getJsonBoolField (keyBuf : List Char) (key : String) :
    List JsonToken → Int × Option Bool
  | [] => (-1, none)
  | token :: rest =>
      if token.type = .pairName then
        getJsonBoolField (jsonparseCopyValue token jsonBuffer) key rest
      else if token.type = .true ∧ strncmpEq keyBuf key.toList jsonBuffer then
        let valueBuf := jsonparseCopyValue token jsonBuffer
        (if strncmpEq valueBuf "true".toList jsonBuffer then 1 else 0, some true)
      else if token.type = .false ∧ strncmpEq keyBuf key.toList jsonBuffer then
        let valueBuf := jsonparseCopyValue token jsonBuffer
        (if strncmpEq valueBuf "false".toList jsonBuffer then 1 else 0, some false)
      else getJsonBoolField keyBuf key rest

/-! ## §4 URN -/

/-- `linkaddr_node_addr.u8`. -/
abbrev LinkAddr : Type := Fin 8 → Fin 256

/-- `%02x`. -/
def hex2 (b : Fin 256) : List Char := [Nat.digitChar (b / 16), Nat.digitChar (b % 16)]

/-- `URN()`: 29 characters, so `snprintf` never truncates them to
`URN_BUF_LEN`. The last two bytes of the address are printed swapped. -/
def urn (addr : LinkAddr) : String :=
  "urn:dev:mac:" ++
    String.ofList (([0, 1, 2, 3, 4, 5, 7, 6] : List (Fin 8)).flatMap fun i => hex2 (addr i)) ++ "/"

theorem hex2_length (b : Fin 256) : (hex2 b).length = 2 := rfl

theorem urn_length (addr : LinkAddr) : (urn addr).length = 29 := by
  simp only [urn, String.length_append, String.length_ofList, List.length_flatMap, hex2_length]
  decide

end DamMonitoring.Motes
