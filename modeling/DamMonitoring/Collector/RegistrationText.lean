/-
DamMonitoring.Collector.RegistrationText — from the text a mote registers
with to the rows it is registered by.

`demo/mote-1` and `firmwares/gate-controller` print their registration
into a buffer of 512 bytes, with the text of their address once for each
resource; the first has 11 bytes to spare. `registration_whole` follows
it through Jackson to the entities, and the paths in them back to the
array `gates` of `res-gate.c`.

Jackson is not part of the repository; `ReadsResources` is what the
Collector relies on.

  §1 the texts
  §2 they fit the buffer
  §3 they are JSON
  §4 they are read as the registrations
  §5 the resources
-/
import DamMonitoring.Collector.Registration
import DamMonitoring.Collector.Senml
import DamMonitoring.Motes.Mote1

namespace DamMonitoring.Collector

open Java Persistence Motes

/-! ## §1 Texts -/

def msgLen : Nat := 512

def addrSize : Nat := 40

/-- The characters of the text of an address. -/
def isAddrChar (c : Char) : Bool := c.isDigit || "abcdefABCDEF:.".toList.contains c

/-- What `uiplib_ipaddr_snprint` prints into `addr_buf`. -/
structure AddrText where
  text : String
  plain : text.toList.all isAddrChar = true
  short : text.length < addrSize

/-- The member tag, which an alarm does not have. -/
def tagText : Option String → String
  | some tag => "\"tag\":\"" ++ tag ++ "\","
  | none => ""

/-- One object of a registration; `sep` is what stands before the member
type. -/
def resourceText (name sep type description : String) (tag : Option String) (uri : Uri) : String :=
  "\x7b\"name\":\"" ++ name ++ "\"," ++ sep ++ "\"type\":\"" ++ type ++ "\",\"description\":\"" ++
    description ++ "\"," ++ tagText tag ++ "\"uri\":\"" ++ uri ++ "\",\"value\":0\x7d"

def mote1Text (addr : String) : String :=
  "[" ++ resourceText "outflow-1" "" "gate" "Gate controller" (some "Primary")
      (actuatorUri addr "gate/outflow-1") ++ "," ++
    resourceText "outflow-2" " " "gate" "Gate controller" (some "Emergency")
      (actuatorUri addr "gate/outflow-2") ++ "," ++
    resourceText "alarm" " " "alarm" "Alarm controller" none (actuatorUri addr "alarm") ++ "]"

def gateControllerText (FLOW : Nat) (addr : String) : String :=
  "[" ++ resourceText ("outflow-" ++ toString FLOW) " " "gate" "Gate controller"
      (some (if FLOW = 1 then "Primary" else "Emergency"))
      (actuatorUri addr ("gate/outflow-" ++ toString FLOW)) ++ "," ++
    resourceText ("alarm-" ++ toString FLOW) " " "alarm" "Alarm controller" none
      (actuatorUri addr "alarm") ++ "]"

/-- A firmware that registers actuators; `FLOW` is 1 or 2. -/
inductive Registrar where
  | mote1
  | gateController (o : Outflow)
  deriving DecidableEq, Repr

/-- `FLOW` of the build for a gate. -/
def flowNumber : Outflow → Nat
  | .outflow1 => 1
  | .outflow2 => 2

namespace Registrar

def text : Registrar → String → String
  | .mote1, addr => mote1Text addr
  | .gateController o, addr => gateControllerText (flowNumber o) addr

/-- `message`, as it is sent. -/
def message (r : Registrar) (addr : String) : String := snprintf msgLen (r.text addr)

/-- What it is meant to register. -/
def resources : Registrar → String → List Resource
  | .mote1, addr => mote1Registration addr
  | .gateController o, addr => gateControllerRegistration (flowNumber o) addr

/-- The paths of `coap_activate_resource`. -/
def activated : Registrar → List String
  | .mote1 => ["actuator/gate/outflow-1", "actuator/gate/outflow-2", "actuator/alarm"]
  | .gateController o => ["actuator/gate/outflow-" ++ toString (flowNumber o), "actuator/alarm"]

end Registrar

/-! ## §2 Lengths -/

theorem actuatorUri_length (addr path : String) :
    (actuatorUri addr path).length = addr.length + path.length + 19 := by
  have hscheme : "coap://[".length = 8 := rfl
  have hactuator : "]/actuator/".length = 11 := rfl
  simp only [actuatorUri, String.length_append]
  omega

theorem tagText_length (tag : String) : (tagText (some tag)).length = tag.length + 9 := by
  have hopen : "\"tag\":\"".length = 7 := rfl
  have hclose : "\",".length = 2 := rfl
  unfold tagText
  simp only [String.length_append, hopen, hclose]
  omega

theorem resourceText_length (name sep type description : String) (tag : Option String) (uri : Uri) :
    (resourceText name sep type description tag uri).length = name.length + sep.length +
      type.length + description.length + (tagText tag).length + String.length uri + 57 := by
  have hname : "\x7b\"name\":\"".length = 9 := rfl
  have hclose : "\",".length = 2 := rfl
  have htype : "\"type\":\"".length = 8 := rfl
  have hdescription : "\",\"description\":\"".length = 17 := rfl
  have huri : "\"uri\":\"".length = 7 := rfl
  have hvalue : "\",\"value\":0\x7d".length = 12 := rfl
  unfold resourceText
  simp only [String.length_append, hname, hclose, htype, hdescription, huri, hvalue]
  omega

/-- The object of a gate. -/
theorem gateText_length (name sep tag addr path : String) :
    (resourceText name sep "gate" "Gate controller" (some tag) (actuatorUri addr path)).length =
      name.length + sep.length + tag.length + addr.length + path.length + 104 := by
  have htype : "gate".length = 4 := rfl
  have hdescription : "Gate controller".length = 15 := rfl
  rw [resourceText_length, tagText_length, actuatorUri_length, htype, hdescription]
  omega

/-- The object of an alarm. -/
theorem alarmText_length (name addr : String) :
    (resourceText name " " "alarm" "Alarm controller" none (actuatorUri addr "alarm")).length =
      name.length + addr.length + 103 := by
  have htype : "alarm".length = 5 := rfl
  have hdescription : "Alarm controller".length = 16 := rfl
  have htag : (tagText none).length = 0 := rfl
  have hsep : " ".length = 1 := rfl
  rw [resourceText_length, htag, actuatorUri_length, htype, hdescription, hsep]
  omega

theorem mote1Text_length (addr : String) : (mote1Text addr).length = 3 * addr.length + 383 := by
  have hopen : "[".length = 1 := rfl
  have hcomma : ",".length = 1 := rfl
  have hclose : "]".length = 1 := rfl
  have hname₁ : "outflow-1".length = 9 := rfl
  have hname₂ : "outflow-2".length = 9 := rfl
  have hname₃ : "alarm".length = 5 := rfl
  have htag₁ : "Primary".length = 7 := rfl
  have htag₂ : "Emergency".length = 9 := rfl
  have hpath₁ : "gate/outflow-1".length = 14 := rfl
  have hpath₂ : "gate/outflow-2".length = 14 := rfl
  have hsep : ("".length, " ".length) = (0, 1) := rfl
  simp only [Prod.mk.injEq] at hsep
  unfold mote1Text
  simp only [String.length_append, gateText_length, alarmText_length, hopen, hcomma, hclose, hname₁,
    hname₂, hname₃, htag₁, htag₂, hpath₁, hpath₂, hsep]
  omega

theorem gateControllerText_length (o : Outflow) (addr : String) :
    (gateControllerText (flowNumber o) addr).length ≤ 2 * addr.length + 250 := by
  have hopen : "[".length = 1 := rfl
  have hcomma : ",".length = 1 := rfl
  have hclose : "]".length = 1 := rfl
  have hname : "outflow-".length = 8 := rfl
  have halarm : "alarm-".length = 6 := rfl
  have hpath : "gate/outflow-".length = 13 := rfl
  have hsep : " ".length = 1 := rfl
  have hnumber : (toString (flowNumber o)).length = 1 := by cases o <;> rfl
  have htag : (if flowNumber o = 1 then "Primary" else "Emergency").length ≤ 9 := by
    cases o <;> decide
  unfold gateControllerText
  simp only [String.length_append, gateText_length, alarmText_length, hopen, hcomma, hclose, hname,
    halarm, hpath, hsep, hnumber]
  omega

/-- **The text fits the buffer.** -/
theorem Registrar.text_fits (r : Registrar) (addr : AddrText) :
    (r.text addr.text).length < msgLen := by
  have hshort := addr.short
  unfold addrSize at hshort
  unfold msgLen
  cases r with
  | mote1 =>
    have hlen := mote1Text_length addr.text
    rw [Registrar.text, hlen]
    omega
  | gateController o =>
    have hlen := gateControllerText_length o addr.text
    rw [Registrar.text]
    omega

theorem Registrar.message_eq (r : Registrar) (addr : AddrText) :
    r.message addr.text = r.text addr.text := snprintf_eq (r.text_fits addr)

/-! ## §3 JSON -/

def resourceDocument (name type description : String) (tag : Option String) (uri : Uri) : Json :=
  .obj (("name", .scalar (.str name)) :: ("type", .scalar (.str type)) ::
    ("description", .scalar (.str description)) ::
    (tag.toList.map fun tag => ("tag", Json.scalar (.str tag))) ++
    [("uri", .scalar (.str uri)), ("value", .scalar (.num ⟨false, 0, [], head?_nil_rest⟩))])

def documentOf (r : Resource) : Json :=
  resourceDocument r.name r.type (r.description.getD "") r.tag r.uri

variable {text : List Char} {ls : List Lexeme} {name sep type description uri : String}
  {tag : Option String}

theorem Lexes.blanks {blanks : List Char} (hblank : blanks.all isBlank = true)
    (h : Lexes text ls) : Lexes (blanks ++ text) ls := by
  induction blanks with
  | nil => exact h
  | cons c blanks ih =>
    simp only [List.all_cons, Bool.and_eq_true] at hblank
    exact Lexes.blank hblank.1 (ih hblank.2)

/-- The members behind the tag, and the brace. -/
theorem lexes_uri (huri : uri.toList.all isPlain = true) (h : Lexes text ls) :
    Lexes ('"' :: (['u', 'r', 'i'] ++ '"' :: ':' :: '"' :: (uri.toList ++ '"' :: ',' ::
        '"' :: (['v', 'a', 'l', 'u', 'e'] ++ '"' :: ':' :: (['0'] ++ '\x7d' :: text)))))
      (.scalar (.str "uri") :: .mark .colon :: .scalar (.str uri) ::
        (memberLexemes [("value", .scalar (.num ⟨false, 0, [], head?_nil_rest⟩))] ++ ls)) := by
  have hzero : JsonScalar.Word (.num ⟨false, 0, [], head?_nil_rest⟩) ['0'] := ⟨by decide, rfl⟩
  have hstop : ∀ c, ('\x7d' :: text).head? = some c → isWord c = false := by
    intro c hc
    exact Option.some.inj hc ▸ rfl
  exact Lexes.str (by decide) (Lexes.mark .colon (Lexes.string huri (Lexes.mark .comma
    (Lexes.str (by decide) (Lexes.mark .colon (Lexes.word hzero hstop
      (Lexes.mark .rbrace h)))))))

/-- The tag, if there is one. -/
theorem lexes_tag (htag : ∀ t, tag = some t → t.toList.all isPlain = true)
    (h : Lexes text (.scalar (.str "uri") :: .mark .colon :: ls)) :
    Lexes ((tagText tag).toList ++ text)
      ((tag.toList.flatMap fun tag =>
          [Lexeme.scalar (.str "tag"), .mark .colon, .scalar (.str tag), .mark .comma]) ++
        (.scalar (.str "uri") :: .mark .colon :: ls)) := by
  cases tag with
  | none => exact h
  | some t =>
    have htext : (tagText (some t)).toList ++ text =
        '"' :: (['t', 'a', 'g'] ++ '"' :: ':' :: '"' :: (t.toList ++ '"' :: ',' :: text)) := by
      unfold tagText
      simp only [String.toList_append, List.append_assoc]
      rfl
    rw [htext]
    exact Lexes.str (by decide) (Lexes.mark .colon (Lexes.string (htag t rfl)
      (Lexes.mark .comma h)))

/-- An object of a registration in front of other lexemes. -/
theorem lexes_resource (hname : name.toList.all isPlain = true)
    (hsep : sep.toList.all isBlank = true) (htype : type.toList.all isPlain = true)
    (hdescription : description.toList.all isPlain = true)
    (htag : ∀ t, tag = some t → t.toList.all isPlain = true)
    (huri : uri.toList.all isPlain = true) (h : Lexes text ls) :
    Lexes ((resourceText name sep type description tag uri).toList ++ text)
      ((resourceDocument name type description tag uri).lexemes ++ ls) := by
  have htext : (resourceText name sep type description tag uri).toList ++ text =
      '\x7b' :: '"' :: (['n', 'a', 'm', 'e'] ++ '"' :: ':' :: '"' :: (name.toList ++ '"' :: ',' ::
        (sep.toList ++ '"' :: (['t', 'y', 'p', 'e'] ++ '"' :: ':' :: '"' :: (type.toList ++
          '"' :: ',' :: '"' :: (['d', 'e', 's', 'c', 'r', 'i', 'p', 't', 'i', 'o', 'n'] ++
            '"' :: ':' :: '"' :: (description.toList ++ '"' :: ',' :: ((tagText tag).toList ++
              '"' :: (['u', 'r', 'i'] ++ '"' :: ':' :: '"' :: (uri.toList ++ '"' :: ',' ::
                '"' :: (['v', 'a', 'l', 'u', 'e'] ++ '"' :: ':' ::
                  (['0'] ++ '\x7d' :: text)))))))))))) := by
    unfold resourceText
    simp only [String.toList_append, List.append_assoc]
    rfl
  rw [htext]
  have hrest := lexes_tag htag (lexes_uri huri h)
  have hhead := Lexes.mark .lbrace (Lexes.str (s := ['n', 'a', 'm', 'e']) (by decide)
    (Lexes.mark .colon (Lexes.string hname (Lexes.mark .comma (Lexes.blanks hsep
      (Lexes.str (s := ['t', 'y', 'p', 'e']) (by decide) (Lexes.mark .colon (Lexes.string htype
        (Lexes.mark .comma (Lexes.str
          (s := ['d', 'e', 's', 'c', 'r', 'i', 'p', 't', 'i', 'o', 'n']) (by decide)
          (Lexes.mark .colon (Lexes.string hdescription (Lexes.mark .comma hrest)))))))))))))
  cases tag with
  | none => exact hhead
  | some t => exact hhead

theorem isPlain_of_isAddrChar {c : Char} (h : isAddrChar c = true) : isPlain c = true := by
  have hletters : "abcdefABCDEF:.".toList.all isPlain = true := by decide
  simp only [isAddrChar, Bool.or_eq_true, List.contains_iff_mem] at h
  rcases h with h | h
  · simp only [Char.isDigit, Bool.and_eq_true, decide_eq_true_eq] at h
    have hlo : 48 ≤ c.toNat := h.1
    have hhi : c.toNat ≤ 57 := h.2
    have hquote : c ≠ '"' := by
      rintro rfl
      exact absurd hlo (by decide)
    have hescape : c ≠ '\\' := by
      rintro rfl
      exact absurd hhi (by decide)
    have hlo' : 32 ≤ c.toNat := by omega
    have hhi' : c.toNat < 127 := by omega
    simp [isPlain, hquote, hescape, hlo', hhi']
  · exact List.all_eq_true.mp hletters c h

theorem isPlain_actuatorUri (addr : AddrText) {path : String}
    (hpath : path.toList.all isPlain = true) :
    (actuatorUri addr.text path).toList.all isPlain = true := by
  have hscheme : "coap://[".toList.all isPlain = true := by decide
  have hactuator : "]/actuator/".toList.all isPlain = true := by decide
  have haddr : addr.text.toList.all isPlain = true :=
    List.all_eq_true.mpr fun c hc => isPlain_of_isAddrChar (List.all_eq_true.mp addr.plain c hc)
  simp only [actuatorUri, String.toList_append, List.all_append, hscheme, hactuator, haddr, hpath,
    Bool.and_self]

theorem lexes_gate (addr : AddrText) (name sep tag path : String)
    (hname : name.toList.all isPlain = true) (hsep : sep.toList.all isBlank = true)
    (htag : tag.toList.all isPlain = true) (hpath : path.toList.all isPlain = true)
    (h : Lexes text ls) :
    Lexes ((resourceText name sep "gate" "Gate controller" (some tag)
        (actuatorUri addr.text path)).toList ++ text)
      ((documentOf (gateResource name tag (actuatorUri addr.text path))).lexemes ++ ls) :=
  lexes_resource hname hsep (by decide) (by decide) (fun t ht => Option.some.inj ht ▸ htag)
    (isPlain_actuatorUri addr hpath) h

theorem lexes_alarm (addr : AddrText) (name : String) (hname : name.toList.all isPlain = true)
    (h : Lexes text ls) :
    Lexes ((resourceText name " " "alarm" "Alarm controller" none
        (actuatorUri addr.text "alarm")).toList ++ text)
      ((documentOf (alarmResource name (actuatorUri addr.text "alarm"))).lexemes ++ ls) :=
  lexes_resource hname (by decide) (by decide) (by decide) (fun t ht => by cases ht)
    (isPlain_actuatorUri addr (by decide)) h

theorem mote1_spells (addr : AddrText) : Spells (mote1Text addr.text).toList
    (.arr ((mote1Registration addr.text).map documentOf)) := by
  have hopen : "[".toList = ['['] := rfl
  have hcomma : ",".toList = [','] := rfl
  have hend : "]".toList = [']'] := rfl
  have hclose : Lexes [']'] [.mark .rbracket] := Lexes.mark .rbracket Lexes.nil
  have halarm := lexes_alarm addr "alarm" (by decide) hclose
  have hgate₂ := lexes_gate addr "outflow-2" " " "Emergency" "gate/outflow-2" (by decide)
    (by decide) (by decide) (by decide) (Lexes.mark .comma halarm)
  have hgate₁ := lexes_gate addr "outflow-1" "" "Primary" "gate/outflow-1" (by decide)
    (by decide) (by decide) (by decide) (Lexes.mark .comma hgate₂)
  simp only [mote1Text, String.toList_append, hopen, hcomma, hend, List.append_assoc,
    List.cons_append, List.nil_append, Spells, mote1Registration, List.map_cons, List.map_nil,
    Json.lexemes, itemLexemes]
  exact Lexes.mark .lbracket hgate₁

/-- A gate and an alarm, with any plain names. -/
theorem gateAndAlarm_spells (addr : AddrText) {gate tag path alarm : String}
    (hgate : gate.toList.all isPlain = true) (htag : tag.toList.all isPlain = true)
    (hpath : path.toList.all isPlain = true) (halarm : alarm.toList.all isPlain = true) :
    Spells ("[" ++ resourceText gate " " "gate" "Gate controller" (some tag)
          (actuatorUri addr.text path) ++ "," ++
        resourceText alarm " " "alarm" "Alarm controller" none
          (actuatorUri addr.text "alarm") ++ "]").toList
      (.arr ([gateResource gate tag (actuatorUri addr.text path),
        alarmResource alarm (actuatorUri addr.text "alarm")].map documentOf)) := by
  have hopen : "[".toList = ['['] := rfl
  have hcomma : ",".toList = [','] := rfl
  have hend : "]".toList = [']'] := rfl
  have hclose : Lexes [']'] [.mark .rbracket] := Lexes.mark .rbracket Lexes.nil
  have hlast := lexes_alarm addr alarm halarm hclose
  have hfirst := lexes_gate addr gate " " tag path hgate (by decide) htag hpath
    (Lexes.mark .comma hlast)
  simp only [String.toList_append, hopen, hcomma, hend, List.append_assoc, List.cons_append,
    List.nil_append, Spells, List.map_cons, List.map_nil, Json.lexemes, itemLexemes]
  exact Lexes.mark .lbracket hfirst

theorem gateController_spells (o : Outflow) (addr : AddrText) :
    Spells (gateControllerText (flowNumber o) addr.text).toList
      (.arr ((gateControllerRegistration (flowNumber o) addr.text).map documentOf)) := by
  refine gateAndAlarm_spells addr ?_ ?_ ?_ ?_
  · cases o <;> decide
  · cases o <;> decide
  · cases o <;> decide
  · cases o <;> decide

/-- **What is sent** is a JSON text of the resources. -/
theorem Registrar.spells (r : Registrar) (addr : AddrText) :
    Spells (r.message addr.text).toList (.arr ((r.resources addr.text).map documentOf)) := by
  rw [r.message_eq]
  cases r with
  | mote1 => exact mote1_spells addr
  | gateController o => exact gateController_spells o addr

/-! ## §4 Entities -/

/-- A number that an `Integer` can hold. -/
def intValue? (x : JsonNumber) : Option Int :=
  let v : Int := if x.negative then -x.integer else x.integer
  if x.rest = [] ∧ -2 ^ 31 ≤ v ∧ v < 2 ^ 31 then some v else none

/-- A member of type `Integer`. -/
def intOf : Option Json → Option (Option Int)
  | none => some none
  | some (.scalar .null) => some none
  | some (.scalar (.num x)) => (intValue? x).map some
  | _ => none

/-- The entity of a document, by the setters of `Resource`. -/
def resourceOf (d : Json) : Option Resource := do
  let property ← properties ["name", "type", "description", "tag", "uri", "value"] d
  let name ← (stringOf (property "name")).join
  let type ← (stringOf (property "type")).join
  let description ← stringOf (property "description")
  let tag ← stringOf (property "tag")
  let uri ← (stringOf (property "uri")).join
  let value ← intOf (property "value")
  some ⟨name, type, description, tag, uri, value⟩

/-- A `List<Resource>`. -/
def resourcesOf : Json → Option (List Resource)
  | .arr items => items.mapM resourceOf
  | _ => none

/-- `readValue` reads the texts of such lists; `none` is an
`IOException`. -/
def ReadsResources (readValue : String → Option (List Resource)) : Prop :=
  ∀ (text : String) (d : Json) (resources : List Resource), text.length < 1000 →
    Spells text.toList d → resourcesOf d = some resources → readValue text = some resources

/-- A reader that reads these and nothing else. -/
def readResources (text : String) : Option (List Resource) :=
  (readJson text.toList).bind resourcesOf

theorem readResources_reads : ReadsResources readResources := by
  intro text d resources _ hspells hresources
  rw [readResources, readJson_eq hspells]
  exact hresources

/-- `Registry.handlePOST` on a payload. -/
def handlePayload (readValue : String → Option (List Resource)) (t : ResourceTable)
    (payload : String) : ResourceTable × Bool :=
  match readValue payload with
  | some resources => handlePOST t resources
  | none => (t, false)

/-- A resource with a description and the value 0 is read back. -/
theorem resourceOf_documentOf (name type description : String) (tag : Option String) (uri : Uri) :
    resourceOf (documentOf ⟨name, type, some description, tag, uri, some 0⟩) =
      some ⟨name, type, some description, tag, uri, some 0⟩ := by
  cases tag with
  | none => simp [resourceOf, documentOf, resourceDocument, properties, List.lookup_cons, stringOf,
      intOf, intValue?]
  | some tag => simp [resourceOf, documentOf, resourceDocument, properties, List.lookup_cons,
      stringOf, intOf, intValue?]

theorem Registrar.resourcesOf_document (r : Registrar) (addr : String) :
    resourcesOf (.arr ((r.resources addr).map documentOf)) = some (r.resources addr) := by
  cases r with
  | mote1 => simp [resources, mote1Registration, gateResource, alarmResource, resourcesOf,
      resourceOf_documentOf]
  | gateController o => simp [resources, gateControllerRegistration, gateResource, alarmResource,
      resourcesOf, resourceOf_documentOf]

/-! ## §5 Resources -/

/-- The columns of the table `resource`. -/
structure FitsColumns (x : Resource) : Prop where
  name : x.name.length ≤ 20
  type : x.type.length ≤ 20
  description : ∀ d, x.description = some d → d.length ≤ 50
  tag : ∀ t, x.tag = some t → t.length ≤ 20
  uri : String.length x.uri ≤ 75

/-- The gate of a resource is the one its path selects on the mote. -/
def SelectsGate (r : Registrar) (addr : String) (x : Resource) : Prop :=
  ∃ o : Outflow, x.name = "outflow-" ++ toString (flowNumber o) ∧
    ∃ path ∈ r.activated, x.uri = "coap://[" ++ addr ++ "]/" ++ path ∧
      ∃ i, slot path = some i ∧ i.val + 1 = flowNumber o

theorem uri_fits (addr : AddrText) {path : String} (h : path.length ≤ 17) :
    (actuatorUri addr.text path).length ≤ 75 := by
  have hshort := addr.short
  unfold addrSize at hshort
  rw [actuatorUri_length]
  omega

theorem gateResource_fits (addr : AddrText) {name tag path : String} (hname : name.length ≤ 20)
    (htag : tag.length ≤ 20) (hpath : path.length ≤ 17) :
    FitsColumns (gateResource name tag (actuatorUri addr.text path)) where
  name := hname
  type := show "gate".length ≤ 20 by decide
  description d hd := Option.some.inj hd ▸ by decide
  tag t ht := Option.some.inj ht ▸ htag
  uri := uri_fits addr hpath

theorem alarmResource_fits (addr : AddrText) {name : String} (hname : name.length ≤ 20) :
    FitsColumns (alarmResource name (actuatorUri addr.text "alarm")) where
  name := hname
  type := show "alarm".length ≤ 20 by decide
  description d hd := Option.some.inj hd ▸ by decide
  tag t ht := by cases ht
  uri := uri_fits addr (by decide)

theorem gateResource_selects {r : Registrar} (addr : String) (o : Outflow) {name tag path : String}
    (hname : name = "outflow-" ++ toString (flowNumber o)) (hpath : "actuator/" ++ path = o.path)
    (hactivated : o.path ∈ r.activated) :
    SelectsGate r addr (gateResource name tag (actuatorUri addr path)) := by
  refine ⟨o, hname, o.path, hactivated, ?_, o.index, slot_path o, ?_⟩
  · rw [← hpath]
    exact actuatorUri_path addr path
  · cases o <;> rfl

namespace Registrar

variable {x : Resource}

theorem resources_distinct (r : Registrar) (addr : String) :
    (r.resources addr).Pairwise ResourceTable.Distinct := by
  have huris (paths : List String) (hpaths : paths.Pairwise (· ≠ ·)) :
      (paths.map (actuatorUri addr)).Pairwise (· ≠ ·) :=
    hpaths.map _ fun _ _ => actuatorUri_ne addr
  cases r with
  | mote1 =>
    have hnames : [fold "outflow-1", fold "outflow-2", fold "alarm"].Pairwise (· ≠ ·) := by
      decide
    have huris := huris ["gate/outflow-1", "gate/outflow-2", "alarm"] (by decide)
    exact (List.pairwise_map.mp hnames).and (List.pairwise_map.mp huris)
  | gateController o =>
    have hnames : [fold ("outflow-" ++ toString (flowNumber o)),
        fold ("alarm-" ++ toString (flowNumber o))].Pairwise (· ≠ ·) := by
      cases o <;> decide
    have huris := huris ["gate/outflow-" ++ toString (flowNumber o), "alarm"]
      (by cases o <;> decide)
    exact (List.pairwise_map.mp hnames).and (List.pairwise_map.mp huris)

theorem resources_fit (r : Registrar) (addr : AddrText) (hx : x ∈ r.resources addr.text) :
    FitsColumns x := by
  cases r with
  | mote1 =>
    simp only [resources, mote1Registration, List.mem_cons, List.not_mem_nil, or_false] at hx
    rcases hx with rfl | rfl | rfl
    · exact gateResource_fits addr (by decide) (by decide) (by decide)
    · exact gateResource_fits addr (by decide) (by decide) (by decide)
    · exact alarmResource_fits addr (by decide)
  | gateController o =>
    simp only [resources, gateControllerRegistration, List.mem_cons, List.not_mem_nil,
      or_false] at hx
    rcases hx with rfl | rfl
    · refine gateResource_fits addr ?_ ?_ ?_ <;> cases o <;> decide
    · refine alarmResource_fits addr ?_
      cases o <;> decide

/-- **A resource that is not an alarm** is a gate with a tag, under the
path that selects it. -/
theorem resources_gate (r : Registrar) (addr : String) (hx : x ∈ r.resources addr)
    (halarm : x.type ≠ "alarm") : x.type = "gate" ∧ x.tag ≠ none ∧ SelectsGate r addr x := by
  cases r with
  | mote1 =>
    simp only [resources, mote1Registration, List.mem_cons, List.not_mem_nil, or_false] at hx
    rcases hx with rfl | rfl | rfl
    · exact ⟨rfl, Option.some_ne_none _, gateResource_selects addr .outflow1 (by decide) (by decide) (by decide)⟩
    · exact ⟨rfl, Option.some_ne_none _, gateResource_selects addr .outflow2 (by decide) (by decide) (by decide)⟩
    · exact absurd rfl halarm
  | gateController o =>
    simp only [resources, gateControllerRegistration, List.mem_cons, List.not_mem_nil,
      or_false] at hx
    rcases hx with rfl | rfl
    · refine ⟨rfl, Option.some_ne_none _, gateResource_selects addr o rfl ?_ ?_⟩ <;> cases o <;> decide
    · exact absurd rfl halarm

end Registrar

/-- The answer is CREATED, the table holds each of the resources under its
name, and the rows of other names are still there. -/
def StoredIn (t t' : ResourceTable) (created : Bool) (resources : List Resource) : Prop :=
  created = true ∧ (∀ x ∈ resources, ∃ name, t'.get x.name = some { x with name }) ∧
    ∀ row ∈ t.rows, (∀ x ∈ resources, fold row.name ≠ fold x.name) → row ∈ t'.rows

/-- What it means that a registration arrives whole. The table that stores
it has the URIs of the resources under no other names. -/
structure ArrivesWhole (readValue : String → Option (List Resource)) (r : Registrar)
    (addr : AddrText) : Prop where
  fits : (r.text addr.text).length < msgLen
  sent : r.message addr.text = r.text addr.text
  decoded : readValue (r.message addr.text) = some (r.resources addr.text)
  handled : ∀ t, handlePayload readValue t (r.message addr.text) =
    handlePOST t (r.resources addr.text)
  stored : ∀ t : ResourceTable, (∀ row ∈ t.rows, ∀ x ∈ r.resources addr.text,
      row.uri = x.uri → fold row.name = fold x.name) →
    StoredIn t (handlePayload readValue t (r.message addr.text)).1
      (handlePayload readValue t (r.message addr.text)).2 (r.resources addr.text)
  distinct : (r.resources addr.text).Pairwise ResourceTable.Distinct
  columns : ∀ x ∈ r.resources addr.text, FitsColumns x
  gates : ∀ x ∈ r.resources addr.text, x.type ≠ "alarm" →
    x.type = "gate" ∧ x.tag ≠ none ∧ SelectsGate r addr.text x

/-- **Registration arrives whole**, from every address. -/
theorem registration_whole {readValue : String → Option (List Resource)}
    (hreads : ReadsResources readValue) (r : Registrar) (addr : AddrText) :
    ArrivesWhole readValue r addr := by
  have hfits := r.text_fits addr
  have hsent := r.message_eq addr
  have hshort : (r.message addr.text).length < 1000 := by
    rw [hsent]
    exact hfits.trans (by decide)
  have hdecoded := hreads _ _ _ hshort (r.spells addr) (r.resourcesOf_document addr.text)
  have hhandled : ∀ t, handlePayload readValue t (r.message addr.text) =
      handlePOST t (r.resources addr.text) := by
    intro t
    rw [handlePayload, hdecoded]
  have hdistinct := r.resources_distinct addr.text
  refine ⟨hfits, hsent, hdecoded, hhandled, fun t hfree => ?_, hdistinct,
    fun x hx => r.resources_fit addr hx, fun x hx => r.resources_gate addr.text hx⟩
  obtain ⟨t', ht', hstay⟩ := t.addResources_of_free hdistinct hfree
  rw [hhandled, handlePOST_created.mpr ht']
  exact ⟨rfl, fun x hx => ResourceTable.get_addResources ht' (hdistinct.imp And.left) hx, hstay⟩

/-- An address of the border router's prefix. -/
def moteAddr : AddrText := ⟨"fd00::f6ce:36cf:9a3f:9d2c", by decide, by decide⟩

theorem registration_whole_demo :
    ArrivesWhole readResources .mote1 moteAddr ∧
      ArrivesWhole readResources (.gateController .outflow2) moteAddr :=
  ⟨registration_whole readResources_reads _ _, registration_whole readResources_reads _ _⟩

end DamMonitoring.Collector
