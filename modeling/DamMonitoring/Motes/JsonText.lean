/-
DamMonitoring.Motes.JsonText — JSON documents as texts.

`Spells text d` is the grammar, as far as the programs of this project
need it: white space between the lexemes, strings of printable ASCII
characters without escapes, and the literals. Who reads JSON reads at
least such texts. `readJson` is a reader that does (`readJson_eq`), so
that a text spells one document only.

  §1 lexemes
  §2 documents
  §3 a lexer
  §4 a parser
  §5 the values of numbers
-/
import DamMonitoring.Motes.Literals
import Mathlib.Algebra.Field.Rat
import Mathlib.Data.Rat.Defs

namespace DamMonitoring.Motes

/-! ## §1 Lexemes -/

/-- The structural characters. -/
inductive Mark where
  | lbrace | rbrace | lbracket | rbracket | colon | comma
  deriving DecidableEq, Repr

def Mark.char : Mark → Char
  | .lbrace => '\x7b'
  | .rbrace => '\x7d'
  | .lbracket => '['
  | .rbracket => ']'
  | .colon => ':'
  | .comma => ','

/-- White space in JSON. -/
def isBlank (c : Char) : Bool := c = ' ' || c = '\t' || c = '\n' || c = '\r'

/-- A character that stands for itself in a string. -/
def isPlain (c : Char) : Bool := 32 ≤ c.toNat && c.toNat < 127 && c != '"' && c != '\\'

/-- The characters of numbers and literal names. -/
def isWord (c : Char) : Bool := c.isAlphanum || c = '+' || c = '-' || c = '.'

inductive Lexeme where
  | mark (m : Mark)
  | scalar (x : JsonScalar)

/-- A number or a literal name, as it is written. -/
def JsonScalar.Word : JsonScalar → List Char → Prop
  | .num x, w => w = x.text ∧ x.rest.all isWord = true
  | .bool true, w => w = ['t', 'r', 'u', 'e']
  | .bool false, w => w = ['f', 'a', 'l', 's', 'e']
  | .null, w => w = ['n', 'u', 'l', 'l']
  | .str _, _ => False

/-- The lexemes of a text. -/
inductive Lexes : List Char → List Lexeme → Prop where
  | nil : Lexes [] []
  | blank {c : Char} {text : List Char} {ls : List Lexeme} :
      isBlank c = true → Lexes text ls → Lexes (c :: text) ls
  | mark (m : Mark) {text : List Char} {ls : List Lexeme} :
      Lexes text ls → Lexes (m.char :: text) (.mark m :: ls)
  | str {s : List Char} {text : List Char} {ls : List Lexeme} :
      s.all isPlain = true → Lexes text ls →
        Lexes ('"' :: (s ++ '"' :: text)) (.scalar (.str (String.ofList s)) :: ls)
  | word {x : JsonScalar} {w text : List Char} {ls : List Lexeme} :
      x.Word w → (∀ c, text.head? = some c → isWord c = false) → Lexes text ls →
        Lexes (w ++ text) (.scalar x :: ls)

/-! ## §2 Documents -/

mutual

def Json.lexemes : Json → List Lexeme
  | .scalar x => [.scalar x]
  | .arr [] => [.mark .lbracket, .mark .rbracket]
  | .arr (d :: items) => .mark .lbracket :: (d.lexemes ++ itemLexemes items)
  | .obj [] => [.mark .lbrace, .mark .rbrace]
  | .obj ((name, d) :: members) =>
      .mark .lbrace :: .scalar (.str name) :: .mark .colon :: (d.lexemes ++ memberLexemes members)

/-- The items behind the first, and the bracket. -/
def itemLexemes : List Json → List Lexeme
  | [] => [.mark .rbracket]
  | d :: items => .mark .comma :: (d.lexemes ++ itemLexemes items)

/-- The members behind the first, and the brace. -/
def memberLexemes : List (String × Json) → List Lexeme
  | [] => [.mark .rbrace]
  | (name, d) :: members =>
      .mark .comma :: .scalar (.str name) :: .mark .colon :: (d.lexemes ++ memberLexemes members)

end

/-- The text is a JSON text of the document. -/
def Spells (text : List Char) (d : Json) : Prop := Lexes text d.lexemes

/-! ## §3 Lexer -/

def Mark.ofChar? (c : Char) : Option Mark :=
  [Mark.lbrace, .rbrace, .lbracket, .rbracket, .colon, .comma].find? fun m => m.char = c

theorem head?_nil_rest (c : Char) (h : ([] : List Char).head? = some c) :
    c = '.' ∨ c = 'e' ∨ c = 'E' := by
  cases h

theorem head?_cons_rest {c : Char} {rest : List Char} (hc : c = '.' ∨ c = 'e' ∨ c = 'E')
    (d : Char) (h : (c :: rest).head? = some d) : d = '.' ∨ d = 'e' ∨ d = 'E' :=
  Option.some.inj h ▸ hc

/-- A number, from its sign, its integer part and what follows. -/
def JsonNumber.ofRest? (negative : Bool) (integer : Nat) : List Char → Option JsonNumber
  | [] => some ⟨negative, integer, [], head?_nil_rest⟩
  | c :: rest =>
    if h : c = '.' ∨ c = 'e' ∨ c = 'E' then
      some ⟨negative, integer, c :: rest, head?_cons_rest h⟩
    else none

def readNumber (w : List Char) : Option JsonNumber :=
  let (negative, body) := match w with
    | '-' :: body => (true, body)
    | body => (false, body)
  JsonNumber.ofRest? negative (Nat.ofDigitChars 10 (body.takeWhile Char.isDigit) 0)
    (body.dropWhile Char.isDigit)

def readWord (w : List Char) : Option JsonScalar :=
  match w with
  | ['t', 'r', 'u', 'e'] => some (.bool true)
  | ['f', 'a', 'l', 's', 'e'] => some (.bool false)
  | ['n', 'u', 'l', 'l'] => some .null
  | w => (readNumber w).map .num

/-- Each round takes a character at least, so the length of the text is
enough fuel. -/
def lex : Nat → List Char → Option (List Lexeme)
  | _, [] => some []
  | 0, _ :: _ => none
  | n + 1, c :: text =>
    if isBlank c then lex n text
    else match Mark.ofChar? c with
      | some m => (lex n text).map (.mark m :: ·)
      | none =>
        if c = '"' then
          match text.dropWhile (· != '"') with
          | [] => none
          | _ :: tail => (lex n tail).map
              (.scalar (.str (String.ofList (text.takeWhile (· != '"')))) :: ·)
        else (readWord ((c :: text).takeWhile isWord)).bind fun x =>
          (lex n (text.dropWhile isWord)).map (.scalar x :: ·)

theorem JsonNumber.ofRest?_rest (x : JsonNumber) :
    JsonNumber.ofRest? x.negative x.integer x.rest = some x := by
  obtain ⟨negative, integer, rest, hrest⟩ := x
  cases rest with
  | nil => rfl
  | cons c rest => exact dif_pos (hrest c rfl)

/-- A run of characters at the front, when something else follows. -/
theorem span_run {p : Char → Bool} {run tail : List Char} (hrun : ∀ c ∈ run, p c = true)
    (htail : ∀ c, tail.head? = some c → p c = false) :
    (run ++ tail).takeWhile p = run ∧ (run ++ tail).dropWhile p = tail := by
  rw [List.takeWhile_append_of_pos hrun, List.dropWhile_append_of_pos hrun]
  cases tail with
  | nil => simp
  | cons c tail => simp [htail c rfl]

/-- A number begins with a digit or a minus. -/
theorem JsonNumber.text_head (x : JsonNumber) :
    ∃ c tail, x.text = c :: tail ∧ (c.isDigit = true ∧ x.negative = false ∨ c = '-') := by
  obtain ⟨d, ds, hds⟩ :=
    List.exists_cons_of_ne_nil (Nat.toDigits_ne_nil (n := x.integer) (b := 10))
  cases hnegative : x.negative with
  | true => exact ⟨'-', _, by simp [JsonNumber.text, hnegative]; rfl, Or.inr rfl⟩
  | false =>
    have hd : d.isDigit = true := JsonNumber.isDigit_toDigits d (hds ▸ List.mem_cons_self)
    exact ⟨d, ds ++ x.rest, by simp [JsonNumber.text, hnegative, hds], Or.inl ⟨hd, rfl⟩⟩

theorem readNumber_text (x : JsonNumber) : readNumber x.text = some x := by
  obtain ⟨htake, hdrop⟩ := span_run (JsonNumber.isDigit_toDigits (n := x.integer)) x.rest_not_digit
  cases hnegative : x.negative with
  | true =>
    simp only [readNumber, JsonNumber.text, hnegative, if_true, List.cons_append, List.nil_append]
    rw [htake, hdrop, Nat.ofDigitChars_ten_toDigits, ← hnegative, x.ofRest?_rest]
  | false =>
    have hminus : ∀ body, x.text ≠ '-' :: body := by
      intro body hbody
      have hdigits : x.text = Nat.toDigits 10 x.integer ++ x.rest := by
        simp [JsonNumber.text, hnegative]
      obtain ⟨d, ds, hds⟩ :=
        List.exists_cons_of_ne_nil (Nat.toDigits_ne_nil (n := x.integer) (b := 10))
      have hd : d.isDigit = true := JsonNumber.isDigit_toDigits d (hds ▸ List.mem_cons_self)
      rw [hdigits, hds] at hbody
      obtain rfl : d = '-' := (List.cons.inj hbody).1
      cases hd
    have hread : readNumber x.text =
        JsonNumber.ofRest? false (Nat.ofDigitChars 10 (x.text.takeWhile Char.isDigit) 0)
          (x.text.dropWhile Char.isDigit) := by
      unfold readNumber
      split
      next hmatch =>
        split at hmatch
        · next body hbody => exact absurd hbody (hminus body)
        · cases hmatch
          rfl
    have htext : x.text = Nat.toDigits 10 x.integer ++ x.rest := by
      simp [JsonNumber.text, hnegative]
    rw [hread, htext, htake, hdrop, Nat.ofDigitChars_ten_toDigits, ← hnegative, x.ofRest?_rest]

/-- What a word may not begin with. -/
theorem isWord_not_special {c : Char} (h : isWord c = true) :
    isBlank c = false ∧ Mark.ofChar? c = none ∧ c ≠ '"' := by
  have hne {d : Char} (hd : isWord d = false) : c ≠ d := by
    intro heq
    rw [heq, hd] at h
    cases h
  refine ⟨?_, ?_, hne (by decide)⟩
  · have hspace := hne (d := ' ') (by decide)
    have htab := hne (d := '\t') (by decide)
    have hline := hne (d := '\n') (by decide)
    have hreturn := hne (d := '\r') (by decide)
    simp [isBlank, hspace, htab, hline, hreturn]
  · unfold Mark.ofChar?
    rw [List.find?_eq_none]
    intro m _
    have hm : c ≠ m.char := hne (by cases m <;> decide)
    simpa using hm.symm

theorem readWord_eq {x : JsonScalar} {w : List Char} (h : x.Word w) : readWord w = some x := by
  cases x with
  | str s => cases h
  | null => rw [show w = _ from h]; rfl
  | bool b => cases b <;> (rw [show w = _ from h]; rfl)
  | num x =>
    obtain ⟨rfl, -⟩ := h
    obtain ⟨c, tail, htext, hc⟩ := x.text_head
    have hread := readNumber_text x
    rw [htext] at hread ⊢
    have hne {d : Char} (hd : d.isDigit = false ∧ d ≠ '-') : c ≠ d := by
      rintro rfl
      rcases hc with ⟨hdigit, -⟩ | hminus
      · rw [hd.1] at hdigit
        cases hdigit
      · exact hd.2 hminus
    have hnumber : readWord (c :: tail) = (readNumber (c :: tail)).map .num := by
      unfold readWord
      split
      · next heq => exact absurd (List.cons.inj heq).1 (hne (by decide))
      · next heq => exact absurd (List.cons.inj heq).1 (hne (by decide))
      · next heq => exact absurd (List.cons.inj heq).1 (hne (by decide))
      · rfl
    rw [hnumber, hread]
    rfl

theorem word_chars {x : JsonScalar} {w : List Char} (h : x.Word w) :
    w ≠ [] ∧ w.all isWord = true := by
  cases x with
  | str s => cases h
  | null => rw [show w = _ from h]; decide
  | bool b => cases b <;> (rw [show w = _ from h]; decide)
  | num x =>
    obtain ⟨rfl, hrest⟩ := h
    obtain ⟨c, tail, htext, -⟩ := x.text_head
    refine ⟨by simp [htext], List.all_eq_true.mpr fun c hc => ?_⟩
    have hcases : c = '-' ∨ c ∈ Nat.toDigits 10 x.integer ∨ c ∈ x.rest := by
      unfold JsonNumber.text at hc
      split at hc
      · simpa using hc
      · exact Or.inr (by simpa using hc)
    rcases hcases with rfl | hdigit | hc
    · decide
    · have hdigit := JsonNumber.isDigit_toDigits c hdigit
      simp [isWord, Char.isAlphanum, hdigit]
    · exact List.all_eq_true.mp hrest c hc

section Rounds

variable {n : Nat} {text : List Char}

/-! One round of the lexer. -/

theorem lex_blank {c : Char} (h : isBlank c = true) : lex (n + 1) (c :: text) = lex n text := by
  simp [lex, h]

theorem lex_mark (m : Mark) :
    lex (n + 1) (m.char :: text) = (lex n text).map (.mark m :: ·) := by
  have hblank : isBlank m.char = false := by cases m <;> decide
  have hmark : Mark.ofChar? m.char = some m := by cases m <;> decide
  simp [lex, hblank, hmark]

theorem lex_str {s : List Char} (h : s.all isPlain = true) :
    lex (n + 1) ('"' :: (s ++ '"' :: text)) =
      (lex n text).map (.scalar (.str (String.ofList s)) :: ·) := by
  have hblank : isBlank '"' = false := by decide
  have hmark : Mark.ofChar? '"' = none := by decide
  have hquote : ∀ c ∈ s, (c != '"') = true := by
    intro c hc
    have hc := List.all_eq_true.mp h c hc
    simp only [isPlain, Bool.and_eq_true] at hc
    exact hc.1.2
  have hstop : ∀ c, ('"' :: text).head? = some c → (c != '"') = false := by simp
  obtain ⟨htake, hdrop⟩ := span_run hquote hstop
  simp [lex, hblank, hmark, htake, hdrop]

theorem lex_word {x : JsonScalar} {w : List Char} (hw : x.Word w)
    (hstop : ∀ c, text.head? = some c → isWord c = false) :
    lex (n + 1) (w ++ text) = (lex n text).map (.scalar x :: ·) := by
  obtain ⟨hne, hall⟩ := word_chars hw
  have hchars := List.all_eq_true.mp hall
  obtain ⟨c, tail, rfl⟩ := List.exists_cons_of_ne_nil hne
  obtain ⟨hblank, hmark, hquote⟩ := isWord_not_special (hchars c List.mem_cons_self)
  obtain ⟨htake, hdrop⟩ := span_run hchars hstop
  have hdrop' : (tail ++ text).dropWhile isWord = text := by
    simpa [hchars c List.mem_cons_self] using hdrop
  simp only [List.cons_append] at htake
  simp [lex, hblank, hmark, hquote, htake, hdrop', readWord_eq hw]

end Rounds

/-- **The lexer reads every text.** -/
theorem lex_eq {n : Nat} {text : List Char} {ls : List Lexeme} (h : Lexes text ls)
    (hn : text.length ≤ n) : lex n text = some ls := by
  induction h generalizing n with
  | nil => cases n <;> rfl
  | blank hblank _ ih =>
    cases n with
    | zero => cases hn
    | succ n => rw [lex_blank hblank, ih (Nat.le_of_succ_le_succ hn)]
  | mark m _ ih =>
    cases n with
    | zero => cases hn
    | succ n =>
      rw [lex_mark, ih (Nat.le_of_succ_le_succ hn)]
      rfl
  | @str s text ls hplain _ ih =>
    cases n with
    | zero => cases hn
    | succ n =>
      have hlen : text.length ≤ n := by
        simp only [List.length_cons, List.length_append] at hn
        omega
      rw [lex_str hplain, ih hlen]
      rfl
  | @word x w text ls hw hstop _ ih =>
    have hpos : 0 < w.length := List.length_pos_iff.mpr (word_chars hw).1
    rw [List.length_append] at hn
    cases n with
    | zero => omega
    | succ n =>
      have hlen : text.length ≤ n := by omega
      rw [lex_word hw hstop, ih hlen]
      rfl

/-! ## §4 Parser -/

mutual

/-- A document, and the lexemes behind it. -/
def parseValue : Nat → List Lexeme → Option (Json × List Lexeme)
  | _, .scalar x :: rest => some (.scalar x, rest)
  | _, .mark .lbracket :: .mark .rbracket :: rest => some (.arr [], rest)
  | _, .mark .lbrace :: .mark .rbrace :: rest => some (.obj [], rest)
  | n + 1, .mark .lbracket :: rest =>
    (parseItems n rest).map fun (items, rest) => (.arr items, rest)
  | n + 1, .mark .lbrace :: rest =>
    (parseMembers n rest).map fun (members, rest) => (.obj members, rest)
  | _, _ => none

def parseItems : Nat → List Lexeme → Option (List Json × List Lexeme)
  | 0, _ => none
  | n + 1, ls =>
    match parseValue n ls with
    | some (d, .mark .rbracket :: rest) => some ([d], rest)
    | some (d, .mark .comma :: rest) =>
      (parseItems n rest).map fun (items, rest) => (d :: items, rest)
    | _ => none

def parseMembers : Nat → List Lexeme → Option (List (String × Json) × List Lexeme)
  | n + 1, .scalar (.str name) :: .mark .colon :: ls =>
    match parseValue n ls with
    | some (d, .mark .rbrace :: rest) => some ([(name, d)], rest)
    | some (d, .mark .comma :: rest) =>
      (parseMembers n rest).map fun (members, rest) => ((name, d) :: members, rest)
    | _ => none
  | _, _ => none

end

/-- A reader of JSON texts. -/
def readJson (text : List Char) : Option Json :=
  match lex text.length text with
  | none => none
  | some ls =>
    match parseValue ls.length ls with
    | some (d, []) => some d
    | _ => none

/-- No document begins with a closing bracket. -/
theorem Json.lexemes_head (d : Json) (rest ls : List Lexeme) :
    d.lexemes ++ rest ≠ .mark .rbracket :: ls := by
  rcases d with x | (_ | ⟨d, items⟩) | (_ | ⟨⟨name, d⟩, members⟩) <;> simp [Json.lexemes]

theorem parseValue_arr (n : Nat) {ls : List Lexeme} (h : ∀ rest, ls ≠ .mark .rbracket :: rest) :
    parseValue (n + 1) (.mark .lbracket :: ls) =
      (parseItems n ls).map fun (items, rest) => (.arr items, rest) := by
  match ls with
  | [] => simp [parseValue]
  | .mark .rbracket :: rest => exact absurd rfl (h rest)
  | .scalar x :: rest => simp [parseValue]
  | .mark .lbrace :: rest => simp [parseValue]
  | .mark .rbrace :: rest => simp [parseValue]
  | .mark .lbracket :: rest => simp [parseValue]
  | .mark .colon :: rest => simp [parseValue]
  | .mark .comma :: rest => simp [parseValue]

mutual

/-- **The parser reads every document**, whatever follows it. -/
theorem parseValue_eq (d : Json) (n : Nat) (rest : List Lexeme) (hn : d.lexemes.length ≤ n) :
    parseValue n (d.lexemes ++ rest) = some (d, rest) := by
  match d, n with
  | .scalar x, n => simp [Json.lexemes, parseValue]
  | .arr [], n => simp [Json.lexemes, parseValue]
  | .obj [], n => simp [Json.lexemes, parseValue]
  | .arr (d :: items), 0 => simp [Json.lexemes] at hn
  | .obj ((name, d) :: members), 0 => simp [Json.lexemes] at hn
  | .arr (d :: items), n + 1 =>
    simp only [Json.lexemes, List.length_cons, List.length_append] at hn
    have hitems := parseItems_eq d items n rest (by omega)
    simp only [Json.lexemes, List.cons_append, List.append_assoc]
    rw [parseValue_arr n (d.lexemes_head _), hitems]
    rfl
  | .obj ((name, d) :: members), n + 1 =>
    simp only [Json.lexemes, List.length_cons, List.length_append] at hn
    have hmembers := parseMembers_eq name d members n rest (by omega)
    simp [Json.lexemes, parseValue, hmembers]

theorem parseItems_eq (d : Json) (items : List Json) (n : Nat) (rest : List Lexeme)
    (hn : d.lexemes.length + (itemLexemes items).length ≤ n) :
    parseItems n (d.lexemes ++ (itemLexemes items ++ rest)) = some (d :: items, rest) := by
  match items, n with
  | [], 0 => simp [itemLexemes] at hn
  | _ :: _, 0 => simp [itemLexemes] at hn
  | [], n + 1 =>
    have hfirst := parseValue_eq d n (itemLexemes [] ++ rest) (by simp [itemLexemes] at hn; omega)
    simp only [itemLexemes, List.cons_append, List.nil_append] at hfirst ⊢
    simp [parseItems, hfirst]
  | e :: items, n + 1 =>
    simp only [itemLexemes, List.length_cons, List.length_append] at hn
    have hfirst := parseValue_eq d n (itemLexemes (e :: items) ++ rest) (by omega)
    have hrest := parseItems_eq e items n rest (by omega)
    simp only [itemLexemes, List.cons_append, List.append_assoc] at hfirst ⊢
    simp [parseItems, hfirst, hrest]

theorem parseMembers_eq (name : String) (d : Json) (members : List (String × Json)) (n : Nat)
    (rest : List Lexeme) (hn : d.lexemes.length + (memberLexemes members).length ≤ n) :
    parseMembers n (.scalar (.str name) :: .mark .colon ::
      (d.lexemes ++ (memberLexemes members ++ rest))) = some ((name, d) :: members, rest) := by
  match members, n with
  | [], 0 => simp [memberLexemes] at hn
  | _ :: _, 0 => simp [memberLexemes] at hn
  | [], n + 1 =>
    have hfirst := parseValue_eq d n (memberLexemes [] ++ rest)
      (by simp [memberLexemes] at hn; omega)
    simp only [memberLexemes, List.cons_append, List.nil_append] at hfirst ⊢
    simp [parseMembers, hfirst]
  | (name', e) :: members, n + 1 =>
    simp only [memberLexemes, List.length_cons, List.length_append] at hn
    have hfirst := parseValue_eq d n (memberLexemes ((name', e) :: members) ++ rest) (by omega)
    have hrest := parseMembers_eq name' e members n rest (by omega)
    simp only [memberLexemes, List.cons_append, List.append_assoc] at hfirst ⊢
    simp [parseMembers, hfirst, hrest]

end

/-- **The reader reads every text** of every document. -/
theorem readJson_eq {text : List Char} {d : Json} (h : Spells text d) : readJson text = some d := by
  have hparse := parseValue_eq d d.lexemes.length [] le_rfl
  rw [List.append_nil] at hparse
  simp [readJson, lex_eq h le_rfl, hparse]

/-! ## §5 Numbers -/

namespace JsonNumber

/-- The exponent of a number that has one, and no fraction. -/
def exponent? : List Char → Option Int
  | 'e' :: k => DamMonitoring.Motes.literal? k
  | 'E' :: k => DamMonitoring.Motes.literal? k
  | _ => none

/-- The value of such a number. -/
def value? (x : JsonNumber) : Option ℚ :=
  (exponent? x.rest).map fun k =>
    (if x.negative then -(x.integer : ℚ) else x.integer) * (10 : ℚ) ^ k

end JsonNumber

end DamMonitoring.Motes
