/-
DamMonitoring.Motes.FlatFields — the two field extractions on flat
objects.

On a flat object nothing stands under a name but its own value, so that
the loops over the tokens take the first member of the name asked for
that has a value of the type asked for (`fields_flat`). A copy that cuts
a long name short is never taken for the key, which is shorter.
-/
import DamMonitoring.Motes.Json
import Mathlib.Algebra.Order.Group.Int

namespace DamMonitoring.Motes

/-! ## §1 Flat objects -/

/-- A value of a flat object; its numbers are integers that an `int`
holds. -/
inductive FlatValue where
  | int (n : Int) (range : -2 ^ 31 ≤ n ∧ n < 2 ^ 31)
  | str (s : String)
  | bool (b : Bool)
  | null

namespace FlatValue

/-- An integer is written without leading zeros, and 0 without a sign. -/
def scalar : FlatValue → JsonScalar
  | .int n _ => .num ⟨decide (n < 0), n.natAbs, [], fun _ h => by cases h⟩
  | .str s => .str s
  | .bool b => .bool b
  | .null => .null

def int? : FlatValue → Option Int
  | .int n _ => some n
  | _ => none

def bool? : FlatValue → Option Bool
  | .bool b => some b
  | _ => none

theorem token_number (v : FlatValue) : (v.scalar.token.type == .number) = v.int?.isSome := by
  rcases v with ⟨n, range⟩ | s | (_ | _) | _ <;> rfl

theorem token_truth (v : FlatValue) :
    (v.scalar.token.type == .true || v.scalar.token.type == .false) = v.bool?.isSome := by
  rcases v with ⟨n, range⟩ | s | (_ | _) | _ <;> rfl

end FlatValue

/-- Members in order, repeated names included. -/
abbrev FlatObject : Type := List (String × FlatValue)

namespace FlatObject

def document (members : FlatObject) : Json :=
  .obj (members.map fun m => (m.1, .scalar m.2.scalar))

/-- The value of the first member of a name that has one of a type. -/
def field {α : Type} (members : FlatObject) (key : String) (value? : FlatValue → Option α) :
    Option α :=
  members.findSome? fun m => if m.1 = key then value? m.2 else none

/-! ## §2 Extraction -/

variable {key : String} {α : Type} {value? : FlatValue → Option α} {is : JsonType → Bool}

/-- What a loop meets first is the first of its type under the name. -/
theorem membersUnder_flat (members : FlatObject) (current : Bool)
    (his : ∀ v : FlatValue, is v.scalar.token.type = (value? v).isSome) :
    ((membersUnder key current (members.map fun m => (m.1, .scalar m.2.scalar))).1.find?
        fun x => is x.token.type) =
      (members.find? fun m => m.1 == key && (value? m.2).isSome).map fun m => m.2.scalar := by
  induction members generalizing current with
  | nil => rfl
  | cons m members ih =>
    obtain ⟨name, v⟩ := m
    by_cases hname : name = key
    · cases hv : (value? v).isSome with
      | true => simp [membersUnder, Json.under, hname, his, hv]
      | false => simp [membersUnder, Json.under, hname, his, hv, ih]
    · simp [membersUnder, Json.under, hname, ih]

theorem find?_field (members : FlatObject) :
    (members.find? fun m => m.1 == key && (value? m.2).isSome).bind (fun m => value? m.2) =
      members.field key value? := by
  induction members with
  | nil => rfl
  | cons m members ih =>
    obtain ⟨name, v⟩ := m
    unfold field at ih ⊢
    by_cases hname : name = key
    · cases hv : value? v with
      | none => simp [hname, hv, ← ih]
      | some x => simp [hname, hv]
    · simp [hname, ih]

/-- The first token of a type under the key is that of the field. -/
theorem firstUnder_flat (is : JsonType → Bool) (value? : FlatValue → Option α)
    (his : ∀ v : FlatValue, is v.scalar.token.type = (value? v).isSome) (hkey : key.length ≤ 18)
    (keyBuf : List Char) (members : FlatObject) :
    (firstUnder key keyBuf is members.document.tokens = none ∧ members.field key value? = none) ∨
      ∃ v x, firstUnder key keyBuf is members.document.tokens = some v.scalar.token ∧
        value? v = some x ∧ members.field key value? = some x := by
  have hshort : key.length < jsonBuffer - 1 := by
    unfold jsonBuffer
    omega
  have hfirst : members.document.first key keyBuf is =
      (members.find? fun m => m.1 == key && (value? m.2).isSome).map fun m => m.2.scalar :=
    membersUnder_flat members _ his
  rw [firstUnder_document hshort, hfirst, ← find?_field members]
  cases hfind : members.find? fun m => m.1 == key && (value? m.2).isSome with
  | none => exact Or.inl ⟨rfl, rfl⟩
  | some m =>
    have hsome := List.find?_some hfind
    simp only [Bool.and_eq_true] at hsome
    obtain ⟨x, hx⟩ := Option.isSome_iff_exists.mp hsome.2
    exact Or.inr ⟨m.2, x, rfl, hx, hx⟩

end FlatObject

/-- The literal of an `int` is copied whole, and converted back to it. -/
theorem copy_int (n : Int) (range : -2 ^ 31 ≤ n ∧ n < 2 ^ 31) :
    jsonparseCopyValue (FlatValue.int n range).scalar.token jsonBuffer =
      (if n < 0 then ['-'] else []) ++ Nat.toDigits 10 n.natAbs := by
  have hdigits : (Nat.toDigits 10 n.natAbs).length ≤ 10 := by
    rw [Nat.length_toDigits_le_iff (by decide) (by decide)]
    omega
  have hlen : ((if n < 0 then ['-'] else []) ++ Nat.toDigits 10 n.natAbs).length ≤ 19 := by
    rw [List.length_append]
    split
    · simp only [List.length_singleton]
      omega
    · simp only [List.length_nil]
      omega
  simp only [jsonparseCopyValue, jsonBuffer, FlatValue.scalar, JsonScalar.token, JsonNumber.text,
    List.append_nil, decide_eq_true_eq]
  exact List.take_of_length_le hlen

theorem leadingInt_int (n : Int) :
    leadingInt ((if n < 0 then ['-'] else []) ++ Nat.toDigits 10 n.natAbs) = n := by
  by_cases hneg : n < 0
  · rw [if_pos hneg, List.singleton_append, leadingInt_neg_toDigits]
    omega
  · rw [if_neg hneg, List.nil_append, leadingInt_toDigits]
    omega

theorem atoi_int (overflow : Int → Int) (n : Int) (range : -2 ^ 31 ≤ n ∧ n < 2 ^ 31) :
    atoi overflow ((if n < 0 then ['-'] else []) ++ Nat.toDigits 10 n.natAbs) = n := by
  have hint : IsInt n := ⟨by omega, by omega⟩
  rw [atoi, leadingInt_int, toInt_of_isInt hint]

/-- A literal that is not "0" is not that of 0. -/
theorem literal_zero (n : Int) :
    ¬((if n < 0 then ['-'] else []) ++ Nat.toDigits 10 n.natAbs ≠ ['0'] ∧ n = 0) := by
  intro h
  obtain ⟨hne, rfl⟩ := h
  exact hne rfl

theorem getJsonIntField_flat {key : String} (hkey : key.length ≤ 18) (overflow : Int → Int)
    (keyBuf : List Char) (members : FlatObject) :
    getJsonIntField overflow keyBuf key members.document.tokens =
      match members.field key FlatValue.int? with
      | some n => (1, some n)
      | none => (-1, none) := by
  rw [getJsonIntField_eq]
  obtain ⟨hnone, hfield⟩ | ⟨v, n, hsome, hv, hfield⟩ :=
    FlatObject.firstUnder_flat (· == .number) FlatValue.int? FlatValue.token_number hkey keyBuf
      members
  · rw [hnone, hfield]
  · cases v with
    | int n' range =>
      obtain rfl := Option.some.inj hv
      simp only [hsome, hfield, copy_int, atoi_int overflow n' range,
        if_neg (literal_zero n')]
    | str s => cases hv
    | bool b => cases hv
    | null => cases hv

theorem getJsonBoolField_flat {key : String} (hkey : key.length ≤ 18) (keyBuf : List Char)
    (members : FlatObject) :
    getJsonBoolField keyBuf key members.document.tokens =
      match members.field key FlatValue.bool? with
      | some b => (1, some b)
      | none => (-1, none) := by
  rw [getJsonBoolField_eq]
  obtain ⟨hnone, hfield⟩ | ⟨v, b, hsome, hv, hfield⟩ :=
    FlatObject.firstUnder_flat (fun type => type == .true || type == .false) FlatValue.bool?
      FlatValue.token_truth hkey keyBuf members
  · rw [hnone, hfield]
  · cases v with
    | bool b' =>
      obtain rfl := Option.some.inj hv
      rw [hsome, hfield]
      cases b' <;> rfl
    | int n range => cases hv
    | str s => cases hv
    | null => cases hv

/-- **Field extraction on flat objects**, whatever the names in them are
and whatever `key_buf` holds at first. A `Char` stands for a `char` of C,
a byte: the names and the 18 characters of the key are counted in bytes. -/
theorem fields_flat {key : String} (hkey : key.length ≤ 18) (overflow : Int → Int)
    (keyBuf : List Char) (members : FlatObject) :
    getJsonIntField overflow keyBuf key members.document.tokens =
      (match members.field key FlatValue.int? with
        | some n => (1, some n)
        | none => (-1, none)) ∧
    getJsonBoolField keyBuf key members.document.tokens =
      (match members.field key FlatValue.bool? with
        | some b => (1, some b)
        | none => (-1, none)) :=
  ⟨getJsonIntField_flat hkey overflow keyBuf members, getJsonBoolField_flat hkey keyBuf members⟩

/-- A text and a longer name come before the number asked for, and a
second number after it. -/
def demoObject : FlatObject :=
  [("opening_level", .str "7"), ("opening_level_of_the_gate", .int 3 (by decide)),
    ("opening_level", .int (-40) (by decide)), ("opening_level", .int 8 (by decide))]

theorem fields_flat_demo :
    getJsonIntField saturate [] "opening_level" demoObject.document.tokens = (1, some (-40)) ∧
      getJsonBoolField [] "opening_level" demoObject.document.tokens = (-1, none) :=
  fields_flat (by decide) saturate [] demoObject

end DamMonitoring.Motes
