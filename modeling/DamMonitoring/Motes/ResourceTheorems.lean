/-
DamMonitoring.Motes.ResourceTheorems — what the actuator resources do
with the JSON requests of the Controller.

`resPutHandler_openingLevel`: a gate accepts `{"opening_level": L}`
exactly when `0 ≤ L ≤ 100`, for EVERY integer `L` — also for those whose
digits `key_buf`-sized copies truncate, because a truncated literal is
still far out of range (`take_toDigits`). `resPutHandler_state`: an alarm
accepts `{"state": b}` always. The two `…_other` lemmas say that neither
resource accepts the other one's request. `resPutHandler_accepts`: no
request at all, in any format, takes a gate out of range.
-/
import DamMonitoring.Motes.Resources
import Mathlib.Algebra.Ring.Nat
import Mathlib.Data.List.TakeWhile

namespace DamMonitoring.Motes

/-! ## §1 Decimal literals through a truncating copy -/

/-- Cutting a decimal literal to its first `k` digits gives the literal
of the same number, or of one with `k` digits. -/
theorem take_toDigits (k : Nat) (hk : 1 ≤ k) (n : Nat) :
    ∃ m, (Nat.toDigits 10 n).take k = Nat.toDigits 10 m ∧ (m = n ∨ 10 ^ (k - 1) ≤ m) := by
  induction n using Nat.strongRecOn with
  | ind n ih =>
    by_cases hlen : (Nat.toDigits 10 n).length ≤ k
    · exact ⟨n, List.take_of_length_le hlen, Or.inl rfl⟩
    · have hn : 10 ≤ n := by
        by_contra hlt
        rw [Nat.toDigits_of_lt_base (by omega)] at hlen
        exact hlen (by simpa using hk)
      have hsplit := Nat.toDigits_of_base_le (b := 10) (by decide) hn
      have hfit : k ≤ (Nat.toDigits 10 (n / 10)).length := by
        rw [hsplit] at hlen
        simp only [List.length_append, List.length_singleton] at hlen
        omega
      obtain ⟨m, hm, hcase⟩ := ih (n / 10) (Nat.div_lt_self (by omega) (by decide))
      refine ⟨m, by rw [hsplit, List.take_append_of_le_length hfit, hm], Or.inr ?_⟩
      rcases hcase with rfl | hge
      · -- nothing was cut off `n / 10`, so its length is the bound
        by_contra hlt
        rcases Nat.lt_or_ge 1 k with h1 | h1
        · have hle := (Nat.length_toDigits_le_iff (n := n / 10) (b := 10) (k := k - 1)
            (by decide) (by omega)).mpr (by omega)
          omega
        · have : k = 1 := by omega
          subst this
          simp only [Nat.sub_self, Nat.pow_zero] at hlt
          omega
      · exact hge

theorem takeWhile_isDigit_toDigits (m : Nat) :
    (Nat.toDigits 10 m).takeWhile Char.isDigit = Nat.toDigits 10 m :=
  List.takeWhile_eq_self_iff.mpr fun _ hc =>
    Nat.isDigit_of_mem_toDigits (by decide) (by decide) hc

/-- A digit is neither white space nor a sign. -/
theorem digit_ne {c : Char} (h : c.isDigit = true) :
    isSpace c = false ∧ c ≠ '-' ∧ c ≠ '+' := by
  simp only [Char.isDigit, Bool.and_eq_true, decide_eq_true_eq] at h
  have h1 : 48 ≤ c.toNat := h.1
  refine ⟨?_, ?_, ?_⟩
  · have hsp : c ≠ ' ' := by rintro rfl; exact absurd h1 (by decide)
    simp only [isSpace, hsp, decide_false, Bool.false_or, Bool.and_eq_false_imp,
      decide_eq_true_eq, decide_eq_false_iff_not]
    omega
  · rintro rfl; exact absurd h1 (by decide)
  · rintro rfl; exact absurd h1 (by decide)

theorem leadingInt_toDigits (m : Nat) : leadingInt (Nat.toDigits 10 m) = m := by
  obtain ⟨c, cs, hcs⟩ : ∃ c cs, Nat.toDigits 10 m = c :: cs :=
    List.exists_cons_of_ne_nil Nat.toDigits_ne_nil
  have hc : c.isDigit = true :=
    Nat.isDigit_of_mem_toDigits (n := m) (b := 10) (by decide) (by decide) (by simp [hcs])
  obtain ⟨hsp, hminus, hplus⟩ := digit_ne hc
  have hall := takeWhile_isDigit_toDigits m
  have hval := Nat.ofDigitChars_ten_toDigits (n := m)
  rw [hcs] at hall hval ⊢
  unfold leadingInt
  rw [List.dropWhile_cons_of_neg (by simp [hsp])]
  split
  · simp_all
  · simp_all
  · rw [hall, hval]

theorem leadingInt_neg_toDigits (m : Nat) :
    leadingInt ('-' :: Nat.toDigits 10 m) = -(m : Int) := by
  unfold leadingInt
  rw [List.dropWhile_cons_of_neg (by decide)]
  simp only
  rw [takeWhile_isDigit_toDigits, Nat.ofDigitChars_ten_toDigits]

/-- In the range of `int` nothing is left open. -/
theorem toInt_of_isInt {overflow : Int → Int} {n : Int} (h : IsInt n) : toInt overflow n = n :=
  if_pos h

theorem toInt_saturate (n : Int) : toInt saturate n = saturate n := by
  unfold toInt
  split
  · next h =>
    obtain ⟨hlo, hhi⟩ := h
    unfold saturate
    omega
  · rfl

/-- The literal of an integer, cut to 19 characters: read back exactly
when the integer lies in `0..100`, and as a value out of that range
otherwise. -/
theorem leadingInt_take_toString (L : Int) :
    let v := leadingInt ((toString L).toList.take 19)
    (0 ≤ L ∧ L ≤ 100 → v = L) ∧ (¬(0 ≤ L ∧ L ≤ 100) → v < 0 ∨ 100 < v) ∧
      ((toString L).toList.take 19 ≠ ['0'] → v ≠ 0) := by
  intro v
  rcases L with n | n
  · have htext : (toString (Int.ofNat n)).toList = Nat.toDigits 10 n := by
      simp [Int.toString_eq_repr, Int.repr]
    obtain ⟨m, hm, hcase⟩ := take_toDigits 19 (by decide) n
    have hv : v = m := by simp only [v, htext, hm, leadingInt_toDigits]
    have hsmall : n ≤ 100 → m = n := by
      intro hn
      have hlen := (Nat.length_toDigits_le_iff (n := n) (b := 10) (k := 19)
        (by decide) (by decide)).mpr (by omega)
      rw [List.take_of_length_le hlen] at hm
      have := congrArg (fun ds => Nat.ofDigitChars 10 ds 0) hm
      simpa using this.symm
    simp only [Int.ofNat_eq_natCast] at *
    refine ⟨fun h => ?_, fun h => ?_, fun h h0 => ?_⟩
    · rw [hv, hsmall (by omega)]
    · rw [hv]
      rcases hcase with rfl | hge <;> omega
    · rw [hv] at h0
      have : m = 0 := by omega
      subst this
      exact h (by rw [htext, hm, Nat.toDigits_zero])
  · have htext : (toString (Int.negSucc n)).toList = '-' :: Nat.toDigits 10 (n + 1) := by
      simp [Int.toString_eq_repr, Int.repr]
    obtain ⟨m, hm, hcase⟩ := take_toDigits 18 (by decide) (n + 1)
    have hv : v = -(m : Int) := by
      simp only [v, htext, List.take_succ_cons, hm, leadingInt_neg_toDigits]
    have hpos : 1 ≤ m := by rcases hcase with rfl | hge <;> omega
    refine ⟨fun h => ?_, fun _ => ?_, fun _ => ?_⟩
    · have := h.1; omega
    · rw [hv]; omega
    · rw [hv]; omega

/-- The boards convert it to the same, saturation or not. -/
theorem atoi_take_toString (L : Int) :
    let v := atoi saturate ((toString L).toList.take 19)
    (0 ≤ L ∧ L ≤ 100 → v = L) ∧ (¬(0 ≤ L ∧ L ≤ 100) → v < 0 ∨ 100 < v) ∧
      ((toString L).toList.take 19 ≠ ['0'] → v ≠ 0) := by
  obtain ⟨hin, hout, hzero⟩ := leadingInt_take_toString L
  simp only [atoi, toInt_saturate, saturate]
  refine ⟨fun h => ?_, fun h => ?_, fun h => ?_⟩
  · rw [hin h]
    omega
  · have hv := hout h
    omega
  · have hv := hzero h
    omega

/-- What `get_json_int_field` may return: it stores a value unless it
returns -1. -/
theorem getJsonIntField_cases (overflow : Int → Int) (keyBuf : List Char) (key : String)
    (tokens : List JsonToken) :
    getJsonIntField overflow keyBuf key tokens = (-1, none) ∨
      ∃ v, getJsonIntField overflow keyBuf key tokens = (0, some v) ∨
        getJsonIntField overflow keyBuf key tokens = (1, some v) := by
  induction tokens generalizing keyBuf with
  | nil => exact Or.inl rfl
  | cons token tokens ih =>
    unfold getJsonIntField
    split
    · exact ih _
    · split
      · dsimp only
        split
        · exact Or.inr ⟨_, Or.inl rfl⟩
        · exact Or.inr ⟨_, Or.inr rfl⟩
      · exact ih keyBuf

/-! ## §2 The gate -/

theorem Request.json_payloadLen (node : ObjectNode) : 0 < (Request.json node).payloadLen := by
  simp only [Request.json]
  omega

namespace ResGate

/-- A level a gate accepts. -/
def Accepts (level : Int) : Prop := 0 ≤ level ∧ level ≤ 100

instance (level : Int) : Decidable (Accepts level) := inferInstanceAs (Decidable (_ ∧ _))

def openingLevelNode (level : Int) : ObjectNode := [("opening_level", .num level)]

/-- What the field extraction finds in the request of the Controller. -/
theorem getJsonIntField_openingLevel (keyBuf : List Char) (L : Int) :
    ∃ v, getJsonIntField saturate keyBuf "opening_level" (openingLevelNode L).tokens =
        (1, some v) ∧
      (Accepts L → v = L) ∧ (¬Accepts L → v < 0 ∨ 100 < v) := by
  obtain ⟨hin, hout, hzero⟩ := atoi_take_toString L
  refine ⟨atoi saturate ((toString L).toList.take 19), ?_, hin, hout⟩
  have hkey : strncmpEq (List.take 19 "opening_level".toList) "opening_level".toList 20 = true := by
    decide
  simp only [openingLevelNode, ObjectNode.tokens, JsonValue.token, List.flatMap_cons,
    List.flatMap_nil, List.append_nil, getJsonIntField, jsonparseCopyValue, jsonBuffer]
  simp only [reduceCtorEq, if_false, if_true, false_and, true_and, hkey]
  congr 1
  exact if_neg fun h => hzero h.1 h.2

/-- **The gate resource**: `{"opening_level": L}` sets the level when
`0 ≤ L ≤ 100`, and is refused without effect otherwise. -/
theorem resPutHandler_openingLevel (keyBuf : List Char) (g : GateT) (L : Int) :
    resPutHandler saturate keyBuf g (.json (openingLevelNode L)) =
      if Accepts L then
        if g.openingLevel ≠ L then
          (⟨L, true, blinks, false⟩, .message .CHANGED_2_04 (levelSet L))
        else (g, .message .VALID_2_03 (levelSet L))
      else (g, badOpeningLevel) := by
  obtain ⟨v, hfield, hin, hout⟩ := getJsonIntField_openingLevel keyBuf L
  have hlen := Request.json_payloadLen (openingLevelNode L)
  unfold resPutHandler
  simp only [show (Request.json (openingLevelNode L)).contentFormat = some .applicationJson from rfl,
    show (Request.json (openingLevelNode L)).tokens = (openingLevelNode L).tokens from rfl,
    if_pos hlen, hfield, Option.getD_some]
  by_cases hacc : Accepts L
  · have hv := hin hacc
    subst hv
    have hrange : ¬(v < 0 ∨ 100 < v) := by unfold Accepts at hacc; omega
    simp [apply, hacc, hrange, hlen.ne']
  · have hrange := hout hacc
    simp [apply, hacc, hrange, hlen.ne']

/-- A gate finds no opening level in the request meant for an alarm. -/
theorem resPutHandler_other (overflow : Int → Int) (keyBuf : List Char) (g : GateT) (b : Bool) :
    resPutHandler overflow keyBuf g (.json [("state", .bool b)]) = (g, missingOpeningLevel) := by
  cases b <;> rfl

end ResGate

/-! ## §3 The alarm -/

namespace ResAlarm

def stateNode (state : Bool) : ObjectNode := [("state", .bool state)]

/-- **The alarm resource**: `{"state": b}` sets the state to `b`. -/
theorem resPutHandler_state (keyBuf : List Char) (a : AlarmT) (b : Bool) :
    (resPutHandler keyBuf a (.json (stateNode b))).1.state = b ∧
      (resPutHandler keyBuf a (.json (stateNode b))).2 =
        .message .CHANGED_2_04 ("Alarm " ++ if b then "on" else "off") := by
  obtain ⟨st, timer, led⟩ := a
  cases b <;> cases st <;> exact ⟨rfl, rfl⟩

/-- An alarm finds no state in the request meant for a gate. -/
theorem resPutHandler_other (keyBuf : List Char) (a : AlarmT) (L : Int) :
    resPutHandler keyBuf a (.json (ResGate.openingLevelNode L)) = (a, missingState) := by
  have hfield : getJsonBoolField keyBuf "state" (ResGate.openingLevelNode L).tokens =
      (-1, none) := by
    simp [ResGate.openingLevelNode, ObjectNode.tokens, JsonValue.token, getJsonBoolField]
  unfold resPutHandler
  simp [Request.json, hfield, apply]

end ResAlarm

/-! ## §4 Every reply carries a message -/

namespace ResGate

theorem apply_message (g : GateT) (paramLen : Nat) (paramOk newLevel : Int) :
    ∃ code text, (apply g paramLen paramOk newLevel).2 = .message code text := by
  unfold apply
  split
  · exact ⟨_, _, rfl⟩
  · split
    · exact ⟨_, _, rfl⟩
    · split <;> exact ⟨_, _, rfl⟩

/-- A JSON request always reaches the tests after decoding. -/
theorem resPutHandler_json (overflow : Int → Int) (keyBuf : List Char) (g : GateT)
    (node : ObjectNode) :
    ∃ paramLen paramOk newLevel,
      resPutHandler overflow keyBuf g (.json node) = apply g paramLen paramOk newLevel := by
  unfold resPutHandler
  simp only [show (Request.json node).contentFormat = some .applicationJson from rfl,
    if_pos (Request.json_payloadLen node)]
  split
  · exact ⟨_, _, _, rfl⟩
  · split <;> exact ⟨_, _, _, rfl⟩

end ResGate

namespace ResAlarm

theorem apply_message (a : AlarmT) (paramLen : Nat) (paramOk : Int) (newState : Bool) :
    ∃ code text, (apply a paramLen paramOk newState).2 = .message code text := by
  unfold apply
  split
  · exact ⟨_, _, rfl⟩
  · split <;> exact ⟨_, _, rfl⟩

theorem resPutHandler_json (keyBuf : List Char) (a : AlarmT) (node : ObjectNode) :
    ∃ paramLen paramOk newState,
      resPutHandler keyBuf a (.json node) = apply a paramLen paramOk newState := by
  unfold resPutHandler
  simp only [show (Request.json node).contentFormat = some .applicationJson from rfl,
    if_pos (Request.json_payloadLen node)]
  split <;> exact ⟨_, _, _, rfl⟩

end ResAlarm

/-- Both resources answer a JSON request with a message. -/
theorem Device.put_message (d : Device) (node : ObjectNode) :
    ∃ code text, (d.put (.json node)).2 = .message code text := by
  obtain ⟨addr, g | a⟩ := d
  · obtain ⟨n, ok, l, h⟩ := ResGate.resPutHandler_json saturate [] g node
    simpa only [Device.put, Actuator.put, h] using ResGate.apply_message g n ok l
  · obtain ⟨n, ok, b, h⟩ := ResAlarm.resPutHandler_json [] a node
    simpa only [Device.put, Actuator.put, h] using ResAlarm.apply_message a n ok b

/-! ## §5 No request takes a gate out of range -/

namespace ResGate

theorem apply_accepts {g : GateT} (hg : Accepts g.openingLevel) (paramLen : Nat)
    {paramOk newLevel : Int} (h : paramOk = 1 → Accepts newLevel) :
    Accepts (apply g paramLen paramOk newLevel).1.openingLevel := by
  unfold apply
  split
  · exact hg
  · split
    · exact hg
    · next hok =>
      split
      · exact h (not_not.mp hok)
      · exact hg

/-- The level that is parsed from a request, if any is. -/
def parsedLevel (overflow : Int → Int) (keyBuf : List Char) (request : Request) : Option Int :=
  match request.contentFormat with
  | some .textPlain =>
      let (paramLen, param) := request.postVariable "opening_level"
      if 0 < paramLen then some (atoi overflow param) else none
  | some .applicationJson =>
      if 0 < request.payloadLen then
        (getJsonIntField overflow keyBuf "opening_level" request.tokens).2
      else none
  | _ => none

/-- A request is refused for its content type, or comes to `apply`, with
the level that was parsed from it, and in range, if it is to be set. -/
theorem resPutHandler_cases (overflow : Int → Int) (keyBuf : List Char) (g : GateT)
    (request : Request) :
    resPutHandler overflow keyBuf g request = (g, missingContentType) ∨
      resPutHandler overflow keyBuf g request = (g, unsupportedContentType) ∨
      ∃ paramLen paramOk newLevel,
        (paramOk = 1 → Accepts newLevel ∧ parsedLevel overflow keyBuf request = some newLevel) ∧
        resPutHandler overflow keyBuf g request = apply g paramLen paramOk newLevel := by
  unfold resPutHandler parsedLevel
  split
  · exact Or.inl rfl
  · next hformat =>
    refine Or.inr (Or.inr ?_)
    rw [hformat]
    dsimp only
    split
    · refine ⟨_, _, _, fun hok => ⟨?_, rfl⟩, rfl⟩
      by_contra hout
      rw [if_pos] at hok
      · cases hok
      · unfold Accepts at hout
        omega
    · exact ⟨_, 0, 0, (by cases ·), rfl⟩
  · next hformat =>
    refine Or.inr (Or.inr ?_)
    rw [hformat]
    dsimp only
    split
    · obtain h | ⟨v, h | h⟩ := getJsonIntField_cases overflow keyBuf "opening_level" request.tokens
      · exact ⟨0, -1, 0, (by cases ·), by rw [h]; rfl⟩
      · exact ⟨request.payloadLen, 0, v, (by cases ·), by rw [h]; rfl⟩
      · rw [h]
        by_cases hout : v < 0 ∨ 100 < v
        · exact ⟨request.payloadLen, 0, v, (by cases ·), by simp [hout]⟩
        · refine ⟨request.payloadLen, 1, v, fun _ => ⟨?_, rfl⟩, by simp [hout]⟩
          unfold Accepts
          omega
    · exact ⟨_, 0, 0, (by cases ·), rfl⟩
  · exact Or.inr (Or.inl rfl)

/-- **Whatever is sent to it**, a gate in range stays in range. -/
theorem resPutHandler_accepts (overflow : Int → Int) (keyBuf : List Char) {g : GateT}
    (hg : Accepts g.openingLevel) (request : Request) :
    Accepts (resPutHandler overflow keyBuf g request).1.openingLevel := by
  rcases resPutHandler_cases overflow keyBuf g request with
    h | h | ⟨paramLen, paramOk, newLevel, hok, h⟩
  · rw [h]
    exact hg
  · rw [h]
    exact hg
  · rw [h]
    exact apply_accepts hg paramLen fun h1 => (hok h1).1

end ResGate

/-- An actuator whose opening level, if it has one, is in range. -/
def Device.InBounds (d : Device) : Prop :=
  match d.actuator with
  | .gate g => ResGate.Accepts g.openingLevel
  | .alarm _ => True

theorem Device.InBounds.put {d : Device} (h : d.InBounds) (request : Request) :
    (d.put request).1.InBounds := by
  obtain ⟨addr, g | a⟩ := d
  · exact ResGate.resPutHandler_accepts saturate [] h request
  · trivial

theorem Device.reboot_inBounds (d : Device) : d.reboot.InBounds := by
  obtain ⟨addr, g | a⟩ := d
  · exact show ResGate.Accepts 0 by decide
  · trivial

end DamMonitoring.Motes
