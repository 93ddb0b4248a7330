/-
DamMonitoring.Motes.Messages — `build_message` of `demo/mote-2`,
`demo/mote-3` and `firmwares/flow-sensor`: the SenML text a mote publishes.

The text is a JSON text (`mote2_spells`, `mote3_spells`,
`flowSensor_spells`), and short enough for the buffer, whatever the
address and the values are.

  §1 the texts
  §2 they fit the buffer
  §3 they are JSON
-/
import DamMonitoring.Motes.JsonText
import DamMonitoring.Motes.SensorSim

namespace DamMonitoring.Motes

/-! ## §1 Texts -/

def scaleExp : Nat := 3

def appBufferSize : Nat := 512

/-- `snprintf` into a buffer: what does not fit is cut off. -/
def snprintf (size : Nat) (text : String) : String := String.ofList (text.toList.take (size - 1))

/-- `{"n":"%s", "v":%de-%d}`. -/
def measurementText (name : String) (value : Int) : String :=
  "\x7b\"n\":\"" ++ name ++ "\", \"v\":" ++ toString value ++ "e-" ++ toString scaleExp ++ "\x7d"

def mote2Text (addr : LinkAddr) (inflow outflow1 outflow2 : Int) : String :=
  "\x7b\"bn\":\"" ++ urn addr ++ "\",\"bu\":\"m3/s\", \"e\": [" ++
    measurementText "inflow" inflow ++ "," ++ measurementText "outflow-1" outflow1 ++ "," ++
    measurementText "outflow-2" outflow2 ++ "]\x7d"

/-- `build_message` of mote-2. -/
def mote2Message (addr : LinkAddr) (inflow outflow1 outflow2 : Int) : String :=
  snprintf appBufferSize (mote2Text addr inflow outflow1 outflow2)

def mote3Text (addr : LinkAddr) (waterLevel : Int) : String :=
  "\x7b\"bn\":\"" ++ urn addr ++ "\",\"bu\": \"m\", \"e\":[" ++
    measurementText "water-level" waterLevel ++ "]\x7d"

/-- `build_message` of mote-3. -/
def mote3Message (addr : LinkAddr) (waterLevel : Int) : String :=
  snprintf appBufferSize (mote3Text addr waterLevel)

def flowSensorText (FLOW : Channel) (addr : LinkAddr) (flow : Int) : String :=
  "\x7b\"bn\":\"" ++ urn addr ++ "\",\"bu\":\"m3/s\", \"e\": [" ++
    measurementText FLOW.gate flow ++ "]\x7d"

/-- `build_message` of a flow sensor; `STR(FLOW_NAME)` is the name of its
channel. -/
def flowSensorMessage (FLOW : Channel) (addr : LinkAddr) (flow : Int) : String :=
  snprintf appBufferSize (flowSensorText FLOW addr flow)

/-! ## §2 Lengths -/

theorem snprintf_eq {size : Nat} {text : String} (h : text.length < size) :
    snprintf size text = text := by
  have hlen : text.toList.length ≤ size - 1 := by
    rw [String.length_toList]
    omega
  rw [snprintf, List.take_of_length_le hlen, String.ofList_toList]

/-- An `int` that is not negative is printed in its digits. -/
theorem toString_nonneg {v : Int} (h : 0 ≤ v) :
    (toString v).toList = Nat.toDigits 10 v.toNat := by
  obtain ⟨n, rfl⟩ := Int.eq_ofNat_of_zero_le h
  simp [Int.toString_eq_repr, Int.repr]

theorem toString_length {v : Int} (h : 0 ≤ v) (hint : v < 2 ^ 31) :
    (toString v).length ≤ 10 := by
  rw [← String.length_toList, toString_nonneg h]
  exact (Nat.length_toDigits_le_iff (by decide) (by decide)).mpr (by omega)

theorem measurementText_length (name : String) (v : Int) :
    (measurementText name v).length = name.length + (toString v).length + 17 := by
  have hopen : "\x7b\"n\":\"".length = 6 := rfl
  have hvalue : "\", \"v\":".length = 7 := rfl
  have hscale : ("e-".length, (toString scaleExp).length, "\x7d".length) = (2, 1, 1) := rfl
  simp only [Prod.mk.injEq] at hscale
  simp only [measurementText, String.length_append]
  omega

theorem mote2Text_length (addr : LinkAddr) {f₀ f₁ f₂ : Int} (h₀ : 0 ≤ f₀ ∧ f₀ < 2 ^ 31)
    (h₁ : 0 ≤ f₁ ∧ f₁ < 2 ^ 31) (h₂ : 0 ≤ f₂ ∧ f₂ < 2 ^ 31) :
    (mote2Text addr f₀ f₁ f₂).length < appBufferSize := by
  have hsize : appBufferSize = 512 := rfl
  have hopen : "\x7b\"bn\":\"".length = 7 := rfl
  have hunit : "\",\"bu\":\"m3/s\", \"e\": [".length = 21 := rfl
  have hmarks : (",".length, "]\x7d".length) = (1, 2) := rfl
  have hnames : ("inflow".length, "outflow-1".length, "outflow-2".length) = (6, 9, 9) := rfl
  have hlen₀ := toString_length h₀.1 h₀.2
  have hlen₁ := toString_length h₁.1 h₁.2
  have hlen₂ := toString_length h₂.1 h₂.2
  simp only [Prod.mk.injEq] at hmarks hnames
  simp only [mote2Text, String.length_append, measurementText_length, urn_length]
  omega

theorem mote3Text_length (addr : LinkAddr) {n : Int} (h : 0 ≤ n ∧ n < 2 ^ 31) :
    (mote3Text addr n).length < appBufferSize := by
  have hsize : appBufferSize = 512 := rfl
  have hopen : "\x7b\"bn\":\"".length = 7 := rfl
  have hunit : "\",\"bu\": \"m\", \"e\":[".length = 18 := rfl
  have hclose : "]\x7d".length = 2 := rfl
  have hname : "water-level".length = 11 := rfl
  have hlen := toString_length h.1 h.2
  simp only [mote3Text, String.length_append, measurementText_length, urn_length]
  omega

theorem flowSensorText_length (FLOW : Channel) (addr : LinkAddr) {f : Int}
    (h : 0 ≤ f ∧ f < 2 ^ 31) : (flowSensorText FLOW addr f).length < appBufferSize := by
  have hsize : appBufferSize = 512 := rfl
  have hopen : "\x7b\"bn\":\"".length = 7 := rfl
  have hunit : "\",\"bu\":\"m3/s\", \"e\": [".length = 21 := rfl
  have hclose : "]\x7d".length = 2 := rfl
  have hname : FLOW.gate.length ≤ 9 := by cases FLOW <;> decide
  have hlen := toString_length h.1 h.2
  simp only [flowSensorText, String.length_append, measurementText_length, urn_length]
  omega

/-! ## §3 JSON -/

def measurementDocument (name : String) (value : Int) : Json :=
  .obj [("n", .scalar (.str name)),
    ("v", .scalar (.num ⟨false, value.toNat, ['e', '-', '3'], by simp⟩))]

def recordDocument (baseName baseUnit : String) (measurements : List Json) : Json :=
  .obj [("bn", .scalar (.str baseName)), ("bu", .scalar (.str baseUnit)), ("e", .arr measurements)]

variable {text : List Char} {ls : List Lexeme}

theorem Lexes.string {s : String} (hplain : s.toList.all isPlain = true)
    (h : Lexes text ls) :
    Lexes ('"' :: (s.toList ++ '"' :: text)) (.scalar (.str s) :: ls) := by
  simpa using Lexes.str hplain h

theorem isPlain_urn (addr : LinkAddr) : (urn addr).toList.all isPlain = true := by
  have hdigit : ∀ n < 16, isPlain (Nat.digitChar n) = true := by decide
  have hhex : ∀ b, (hex2 b).all isPlain = true := by
    intro b
    simp [hex2, hdigit (b / 16) (by omega), hdigit (b % 16) (by omega)]
  have hprefix : "urn:dev:mac:".toList.all isPlain = true := by decide
  have hsuffix : "/".toList.all isPlain = true := by decide
  simp only [urn, String.toList_append, String.toList_ofList, List.all_append, List.all_flatMap,
    hprefix, hsuffix, hhex, Bool.true_and, Bool.and_true]
  rfl

/-- A measurement in front of other lexemes. -/
theorem lexes_measurement {name : String} {v : Int} (hname : name.toList.all isPlain = true)
    (hv : 0 ≤ v) (h : Lexes text ls) :
    Lexes ((measurementText name v).toList ++ text) ((measurementDocument name v).lexemes ++ ls) := by
  have htext : (measurementText name v).toList ++ text =
      '\x7b' :: '"' :: (['n'] ++ '"' :: ':' :: '"' :: (name.toList ++ '"' :: ',' :: ' ' ::
        '"' :: (['v'] ++ '"' :: ':' :: ((Nat.toDigits 10 v.toNat ++ ['e', '-', '3']) ++
          '\x7d' :: text)))) := by
    simp only [measurementText, String.toList_append, toString_nonneg hv, List.append_assoc]
    rfl
  rw [htext]
  have hexponent : ['e', '-', '3'].all isWord = true := by decide
  have hvalue : JsonScalar.Word (.num ⟨false, v.toNat, ['e', '-', '3'], by simp⟩)
      (Nat.toDigits 10 v.toNat ++ ['e', '-', '3']) := ⟨rfl, hexponent⟩
  have hstop : ∀ c, ('\x7d' :: text).head? = some c → isWord c = false := by
    intro c hc
    exact Option.some.inj hc ▸ rfl
  have hclose : Lexes ('\x7d' :: text) (.mark .rbrace :: ls) := Lexes.mark .rbrace h
  exact Lexes.mark .lbrace (Lexes.str (by decide) (Lexes.mark .colon (Lexes.string hname
    (Lexes.mark .comma (Lexes.blank rfl (Lexes.str (by decide) (Lexes.mark .colon
      (Lexes.word hvalue hstop hclose))))))))

def mote2Document (addr : LinkAddr) (inflow outflow1 outflow2 : Int) : Json :=
  recordDocument (urn addr) "m3/s" [measurementDocument "inflow" inflow,
    measurementDocument "outflow-1" outflow1, measurementDocument "outflow-2" outflow2]

def mote3Document (addr : LinkAddr) (waterLevel : Int) : Json :=
  recordDocument (urn addr) "m" [measurementDocument "water-level" waterLevel]

def flowSensorDocument (FLOW : Channel) (addr : LinkAddr) (flow : Int) : Json :=
  recordDocument (urn addr) "m3/s" [measurementDocument FLOW.gate flow]

/-- A record up to its unit. -/
theorem lexes_opening (addr : LinkAddr) (h : Lexes text ls) :
    Lexes ("\x7b\"bn\":\"".toList ++ ((urn addr).toList ++ ("\",\"bu\":".toList ++ text)))
      (.mark .lbrace :: .scalar (.str "bn") :: .mark .colon :: .scalar (.str (urn addr)) ::
        .mark .comma :: .scalar (.str "bu") :: .mark .colon :: ls) :=
  Lexes.mark .lbrace (Lexes.str (s := ['b', 'n']) (by decide) (Lexes.mark .colon
    (Lexes.string (isPlain_urn addr) (Lexes.mark .comma (Lexes.str (s := ['b', 'u']) (by decide)
      (Lexes.mark .colon h))))))

theorem lexes_closing : Lexes "]\x7d".toList [.mark .rbracket, .mark .rbrace] :=
  Lexes.mark .rbracket (Lexes.mark .rbrace Lexes.nil)

/-- **What mote-2 publishes** is the whole document. -/
theorem mote2_spells (addr : LinkAddr) {f₀ f₁ f₂ : Int} (h₀ : 0 ≤ f₀ ∧ f₀ < 2 ^ 31)
    (h₁ : 0 ≤ f₁ ∧ f₁ < 2 ^ 31) (h₂ : 0 ≤ f₂ ∧ f₂ < 2 ^ 31) :
    Spells (mote2Message addr f₀ f₁ f₂).toList (mote2Document addr f₀ f₁ f₂) := by
  rw [mote2Message, snprintf_eq (mote2Text_length addr h₀ h₁ h₂)]
  have hlist := lexes_measurement
    (show "inflow".toList.all isPlain = true by decide) h₀.1 (Lexes.mark .comma
      (lexes_measurement (show "outflow-1".toList.all isPlain = true by decide) h₁.1
        (Lexes.mark .comma (lexes_measurement
          (show "outflow-2".toList.all isPlain = true by decide) h₂.1 lexes_closing))))
  have hrecord := lexes_opening addr (Lexes.str (s := ['m', '3', '/', 's']) (by decide)
    (Lexes.mark .comma (Lexes.blank (c := ' ') rfl (Lexes.str (s := ['e']) (by decide)
      (Lexes.mark .colon (Lexes.blank (c := ' ') rfl (Lexes.mark .lbracket hlist)))))))
  simp only [mote2Text, String.toList_append, List.append_assoc, Spells, mote2Document,
    recordDocument, Json.lexemes, itemLexemes, memberLexemes, List.cons_append, List.nil_append]
  exact hrecord

/-- **What mote-3 publishes.** -/
theorem mote3_spells (addr : LinkAddr) {n : Int} (h : 0 ≤ n ∧ n < 2 ^ 31) :
    Spells (mote3Message addr n).toList (mote3Document addr n) := by
  rw [mote3Message, snprintf_eq (mote3Text_length addr h)]
  have hlist := lexes_measurement
    (show "water-level".toList.all isPlain = true by decide) h.1 lexes_closing
  have hrecord := lexes_opening addr (Lexes.blank (c := ' ') rfl (Lexes.str (s := ['m']) (by decide)
    (Lexes.mark .comma (Lexes.blank (c := ' ') rfl (Lexes.str (s := ['e']) (by decide)
      (Lexes.mark .colon (Lexes.mark .lbracket hlist)))))))
  simp only [mote3Text, String.toList_append, List.append_assoc, Spells, mote3Document,
    recordDocument, Json.lexemes, itemLexemes, memberLexemes, List.cons_append, List.nil_append]
  exact hrecord

/-- **What a flow sensor publishes.** -/
theorem flowSensor_spells (FLOW : Channel) (addr : LinkAddr) {f : Int} (h : 0 ≤ f ∧ f < 2 ^ 31) :
    Spells (flowSensorMessage FLOW addr f).toList (flowSensorDocument FLOW addr f) := by
  rw [flowSensorMessage, snprintf_eq (flowSensorText_length FLOW addr h)]
  have hname : FLOW.gate.toList.all isPlain = true := by cases FLOW <;> decide
  have hrecord := lexes_opening addr (Lexes.str (s := ['m', '3', '/', 's']) (by decide)
    (Lexes.mark .comma (Lexes.blank (c := ' ') rfl (Lexes.str (s := ['e']) (by decide)
      (Lexes.mark .colon (Lexes.blank (c := ' ') rfl (Lexes.mark .lbracket
        (lexes_measurement hname h.1 lexes_closing))))))))
  simp only [flowSensorText, String.toList_append, List.append_assoc, Spells, flowSensorDocument,
    recordDocument, Json.lexemes, itemLexemes, memberLexemes, List.cons_append, List.nil_append]
  exact hrecord

end DamMonitoring.Motes
