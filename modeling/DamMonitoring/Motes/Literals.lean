/-
DamMonitoring.Motes.Literals — decimal integer literals, and what `atoi`
makes of a text.

`atoi` reads the literal a text begins with, white space before it and
anything after it notwithstanding (`atoi_of_begins`, `begins_of_ne_zero`),
and makes an `int` of it (`toInt`). `Reads` is what the gate makes of that:
a level from 1 to 100, or 0 if the text is exactly `0`.
`JsonNumber.reads_text` says it of the JSON numbers, whose fractions and
exponents it does not notice.

  §1 literals and `atoi`
  §2 levels
  §3 JSON numbers
-/
import DamMonitoring.Motes.Json

namespace DamMonitoring.Motes

/-! ## §1 Literals -/

/-- The number a run of digits stands for. -/
def digits? (ds : List Char) : Option Int :=
  if ds ≠ [] ∧ ds.all Char.isDigit then some (Nat.ofDigitChars 10 ds 0 : Int) else none

/-- A decimal integer literal: a sign, if any, and digits. -/
def literal? : List Char → Option Int
  | '-' :: ds => (digits? ds).map fun n => -n
  | '+' :: ds => digits? ds
  | ds => digits? ds

/-- After white space the text begins with a literal for `n`, and the
literal ends there. -/
def Begins (p : List Char) (n : Int) : Prop :=
  ∃ space s tail, p = space ++ (s ++ tail) ∧ (∀ c ∈ space, isSpace c = true) ∧
    literal? s = some n ∧ ∀ c, tail.head? = some c → c.isDigit = false

theorem digits?_eq_some {ds : List Char} {n : Int} (h : digits? ds = some n) :
    ds ≠ [] ∧ (∀ c ∈ ds, c.isDigit = true) ∧ n = (Nat.ofDigitChars 10 ds 0 : Int) := by
  unfold digits? at h
  split at h
  · next hds =>
    obtain ⟨hne, hall⟩ := hds
    rw [List.all_eq_true] at hall
    exact ⟨hne, hall, (Option.some.inj h).symm⟩
  · cases h

theorem digits?_of_all {ds : List Char} (hne : ds ≠ []) (hall : ∀ c ∈ ds, c.isDigit = true) :
    digits? ds = some (Nat.ofDigitChars 10 ds 0 : Int) :=
  if_pos ⟨hne, List.all_eq_true.mpr hall⟩

/-- The longest run of digits at the front, when they are followed by
something else. -/
theorem takeWhile_digits {ds tail : List Char} (hall : ∀ c ∈ ds, c.isDigit = true)
    (htail : ∀ c, tail.head? = some c → c.isDigit = false) :
    (ds ++ tail).takeWhile Char.isDigit = ds := by
  rw [List.takeWhile_append_of_pos hall]
  cases tail with
  | nil => simp
  | cons c tail => simp [htail c rfl]

/-- The shapes of a literal. -/
theorem literal?_cases {s : List Char} {n : Int} (h : literal? s = some n) :
    ∃ ds m, digits? ds = some m ∧
      ((s = '-' :: ds ∧ n = -m) ∨ (s = '+' :: ds ∧ n = m) ∨ (s = ds ∧ n = m)) := by
  unfold literal? at h
  split at h
  · next ds =>
    obtain ⟨m, hm, rfl⟩ := Option.map_eq_some_iff.mp h
    exact ⟨ds, m, hm, Or.inl ⟨rfl, rfl⟩⟩
  · next ds => exact ⟨ds, n, h, Or.inr (Or.inl ⟨rfl, rfl⟩)⟩
  · exact ⟨s, n, h, Or.inr (Or.inr ⟨rfl, rfl⟩)⟩

/-- Digits are their own literal. -/
theorem literal?_digits {ds : List Char} {n : Int} (h : digits? ds = some n) :
    literal? ds = some n := by
  obtain ⟨hne, hall, -⟩ := digits?_eq_some h
  unfold literal?
  split
  · exact absurd rfl (digit_ne (hall _ List.mem_cons_self)).2.1
  · exact absurd rfl (digit_ne (hall _ List.mem_cons_self)).2.2
  · exact h

/-- Digits are neither signs nor white space. -/
theorem leadingInt_digits {ds tail : List Char} (hne : ds ≠ []) (hall : ∀ c ∈ ds, c.isDigit = true)
    (htail : ∀ c, tail.head? = some c → c.isDigit = false) :
    leadingInt (ds ++ tail) = (Nat.ofDigitChars 10 ds 0 : Int) := by
  have htake := takeWhile_digits hall htail
  cases ds with
  | nil => exact absurd rfl hne
  | cons d ds =>
    obtain ⟨hspace, hminus, hplus⟩ := digit_ne (hall d List.mem_cons_self)
    rw [List.cons_append] at htake ⊢
    unfold leadingInt
    rw [List.dropWhile_cons_of_neg (by simp [hspace])]
    split
    · next heq => exact absurd (List.cons.inj heq).1 hminus
    · next heq => exact absurd (List.cons.inj heq).1 hplus
    · rw [htake]

theorem dropWhile_space {space : List Char} (hspace : ∀ c ∈ space, isSpace c = true)
    (p : List Char) : (space ++ p).dropWhile isSpace = p.dropWhile isSpace :=
  List.dropWhile_append_of_pos hspace

/-- The literal a text begins with is the number it begins with. -/
theorem leadingInt_of_begins {p : List Char} {n : Int} (h : Begins p n) : leadingInt p = n := by
  obtain ⟨space, s, tail, rfl, hspace, hs, htail⟩ := h
  have hskip : leadingInt (space ++ (s ++ tail)) = leadingInt (s ++ tail) := by
    unfold leadingInt
    rw [dropWhile_space hspace]
  rw [hskip]
  obtain ⟨ds, m, hm, hcases⟩ := literal?_cases hs
  obtain ⟨hne, hall, rfl⟩ := digits?_eq_some hm
  have htake := takeWhile_digits hall htail
  rcases hcases with ⟨rfl, rfl⟩ | ⟨rfl, rfl⟩ | ⟨rfl, rfl⟩
  · unfold leadingInt
    rw [List.cons_append, List.dropWhile_cons_of_neg (by decide)]
    simp only [htake]
  · unfold leadingInt
    rw [List.cons_append, List.dropWhile_cons_of_neg (by decide)]
    simp only [htake]
  · exact leadingInt_digits hne hall htail

/-- `atoi` converts the literal a text begins with. -/
theorem atoi_of_begins (overflow : Int → Int) {p : List Char} {n : Int} (h : Begins p n) :
    atoi overflow p = toInt overflow n := by
  rw [atoi, leadingInt_of_begins h]

/-- A number other than 0 is that of the literal the text begins with. -/
theorem begins_of_ne_zero {p : List Char} (h : leadingInt p ≠ 0) : Begins p (leadingInt p) := by
  have hsplit : p = p.takeWhile isSpace ++ p.dropWhile isSpace :=
    (List.takeWhile_append_dropWhile ..).symm
  have hspace : ∀ c ∈ p.takeWhile isSpace, isSpace c = true := fun c hc =>
    List.mem_takeWhile_imp hc
  -- a run of digits that is not 0, and what stops it
  have hdigits : ∀ ds : List Char, Nat.ofDigitChars 10 (ds.takeWhile Char.isDigit) 0 ≠ 0 →
      digits? (ds.takeWhile Char.isDigit) =
          some (Nat.ofDigitChars 10 (ds.takeWhile Char.isDigit) 0 : Int) ∧
        ∀ c, (ds.dropWhile Char.isDigit).head? = some c → c.isDigit = false := by
    intro ds hne
    refine ⟨digits?_of_all (fun hnil => hne (by rw [hnil]; rfl)) fun c hc =>
      List.mem_takeWhile_imp hc, fun c hc => ?_⟩
    have hstop := List.head?_dropWhile_not Char.isDigit ds
    rw [hc] at hstop
    simpa using hstop
  have hds : ∀ ds : List Char, ds = ds.takeWhile Char.isDigit ++ ds.dropWhile Char.isDigit :=
    fun ds => (List.takeWhile_append_dropWhile ..).symm
  unfold leadingInt at h ⊢
  generalize p.dropWhile isSpace = q at h hsplit ⊢
  generalize p.takeWhile isSpace = space at hspace hsplit
  subst hsplit
  split at h
  · next ds =>
    obtain ⟨hlit, htail⟩ := hdigits ds (by omega)
    refine ⟨_, '-' :: ds.takeWhile Char.isDigit, _, ?_, hspace, ?_, htail⟩
    · rw [List.cons_append, ← hds]
    · simp [literal?, hlit]
  · next ds =>
    obtain ⟨hlit, htail⟩ := hdigits ds (by omega)
    refine ⟨_, '+' :: ds.takeWhile Char.isDigit, _, ?_, hspace, hlit, htail⟩
    rw [List.cons_append, ← hds]
  · next hminus hplus =>
    obtain ⟨hlit, htail⟩ := hdigits q (by omega)
    refine ⟨_, q.takeWhile Char.isDigit, _, ?_, hspace, literal?_digits hlit, htail⟩
    rw [← hds]

/-! ## §2 Levels -/

/-- What `atoi` and the zero test make of a text: the level `n`. -/
def Reads (overflow : Int → Int) (p : List Char) (n : Int) : Prop :=
  atoi overflow p = n ∧ ResGate.Accepts n ∧ (n = 0 → p = ['0'])

theorem reads_iff_begins (overflow : Int → Int) (p : List Char) (n : Int) :
    Reads overflow p n ↔ (p = ['0'] ∧ n = 0) ∨
      ((∃ m, Begins p m ∧ toInt overflow m = n) ∧ 1 ≤ n ∧ n ≤ 100) := by
  constructor
  · intro h
    obtain ⟨hatoi, ⟨hlo, hhi⟩, hzero⟩ := h
    by_cases hn : n = 0
    · exact Or.inl ⟨hzero hn, hn⟩
    · have hnumber : leadingInt p ≠ 0 := by
        intro hnone
        rw [atoi, hnone, toInt_of_isInt (by decide)] at hatoi
        exact hn hatoi.symm
      exact Or.inr ⟨⟨leadingInt p, begins_of_ne_zero hnumber, hatoi⟩, by omega, hhi⟩
  · rintro (⟨rfl, rfl⟩ | ⟨⟨m, hbegins, rfl⟩, hlo, hhi⟩)
    · exact ⟨toInt_of_isInt (by decide), by decide, fun _ => rfl⟩
    · exact ⟨atoi_of_begins overflow hbegins, ⟨by omega, hhi⟩, fun hn => by omega⟩

/-! ## §3 Numbers -/

namespace JsonNumber

/-- The number as an integer literal. -/
def literal? (x : JsonNumber) : Option Int :=
  if x.rest = [] then some (if x.negative then -(x.integer : Int) else x.integer) else none

/-- The number the copy of 19 characters begins with: the integer part, cut
to 19 digits, or to a sign and 18 digits. -/
def copied (x : JsonNumber) : Int :=
  if x.negative then -(Nat.ofDigitChars 10 ((Nat.toDigits 10 x.integer).take 18) 0 : Int)
  else Nat.ofDigitChars 10 ((Nat.toDigits 10 x.integer).take 19) 0

/-- The level a gate takes from the number: 0 from a plain 0, and what
`atoi` makes of the copied number if that is from 1 to 100. -/
def level (overflow : Int → Int) (x : JsonNumber) : Option Int :=
  if x.negative = false ∧ x.integer = 0 ∧ x.rest = [] then some 0
  else if 1 ≤ toInt overflow x.copied ∧ toInt overflow x.copied ≤ 100 then
    some (toInt overflow x.copied)
  else none

theorem rest_not_digit (x : JsonNumber) (c : Char) (hc : x.rest.head? = some c) :
    c.isDigit = false := by
  rcases x.rest_head c hc with rfl | rfl | rfl <;> decide

/-- A cut of what follows the integer part. -/
theorem take_rest_not_digit (x : JsonNumber) (k : Nat) (c : Char)
    (hc : (x.rest.take k).head? = some c) : c.isDigit = false := by
  refine x.rest_not_digit c ?_
  cases k with
  | zero => simp at hc
  | succ k =>
    cases hrest : x.rest with
    | nil => simp [hrest] at hc
    | cons d rest => simpa [hrest] using hc

theorem isDigit_toDigits {n : Nat} : ∀ c ∈ Nat.toDigits 10 n, c.isDigit = true :=
  fun _ hc => Nat.isDigit_of_mem_toDigits (by decide) (by decide) hc

/-- Some digits of the integer part are copied, and they are a literal of
the number they stand for. -/
theorem digits?_take (n k : Nat) :
    digits? ((Nat.toDigits 10 n).take (k + 1)) =
      some (Nat.ofDigitChars 10 ((Nat.toDigits 10 n).take (k + 1)) 0 : Int) := by
  refine digits?_of_all (fun hnil => ?_) fun c hc => isDigit_toDigits c (List.mem_of_mem_take hc)
  rcases List.take_eq_nil_iff.mp hnil with hk | hdigits
  · cases hk
  · exact Nat.toDigits_ne_nil hdigits

/-- The copy of a number begins with a literal. -/
theorem begins_copied (x : JsonNumber) : Begins (x.text.take 19) x.copied := by
  cases hneg : x.negative with
  | true =>
    refine ⟨[], '-' :: (Nat.toDigits 10 x.integer).take 18,
      x.rest.take (18 - (Nat.toDigits 10 x.integer).length), ?_, by simp, ?_,
      x.take_rest_not_digit _⟩
    · simp [text, hneg, List.take_append]
    · simp [Motes.literal?, digits?_take _ 17, copied, hneg]
  | false =>
    refine ⟨[], (Nat.toDigits 10 x.integer).take 19,
      x.rest.take (19 - (Nat.toDigits 10 x.integer).length), ?_, by simp, ?_,
      x.take_rest_not_digit _⟩
    · simp [text, hneg, List.take_append]
    · rw [literal?_digits (digits?_take _ 18), copied, hneg]
      rfl

/-- The copy passes the zero test if the number is a plain 0. -/
theorem take_text_eq_zero (x : JsonNumber) :
    x.text.take 19 = ['0'] ↔ x.negative = false ∧ x.integer = 0 ∧ x.rest = [] := by
  constructor
  · intro h
    cases hneg : x.negative with
    | true => simp [text, hneg] at h
    | false =>
      have htext : (Nat.toDigits 10 x.integer ++ x.rest).take 19 = ['0'] := by
        simpa [text, hneg] using h
      obtain ⟨d, ds, hdigits⟩ : ∃ d ds, Nat.toDigits 10 x.integer = d :: ds :=
        List.exists_cons_of_ne_nil Nat.toDigits_ne_nil
      simp only [hdigits, List.cons_append, List.take_succ_cons, List.cons.injEq,
        List.take_eq_nil_iff, List.append_eq_nil_iff] at htext
      obtain ⟨rfl, hlen | ⟨rfl, hrest⟩⟩ := htext
      · cases hlen
      · refine ⟨rfl, ?_, hrest⟩
        have hvalue := Nat.ofDigitChars_ten_toDigits (n := x.integer)
        rw [hdigits] at hvalue
        exact hvalue.symm
  · intro h
    obtain ⟨hneg, hzero, hrest⟩ := h
    simp [text, hneg, hzero, hrest, Nat.toDigits_zero]

/-- **What a gate takes from a number**, in spite of the copy that cuts it
off after 19 characters. -/
theorem reads_text (overflow : Int → Int) (x : JsonNumber) (n : Int) :
    Reads overflow (x.text.take 19) n ↔ x.level overflow = some n := by
  have hnumber : leadingInt (x.text.take 19) = x.copied := leadingInt_of_begins x.begins_copied
  have hatoi : atoi overflow (x.text.take 19) = toInt overflow x.copied := by rw [atoi, hnumber]
  rw [Reads, hatoi, x.take_text_eq_zero]
  unfold level ResGate.Accepts
  by_cases hplain : x.negative = false ∧ x.integer = 0 ∧ x.rest = []
  · have hcopied : toInt overflow x.copied = 0 := by
      obtain ⟨hneg, hzero, -⟩ := hplain
      rw [copied, hneg, hzero, Nat.toDigits_zero]
      exact toInt_of_isInt (by decide)
    rw [if_pos hplain, hcopied, Option.some.injEq]
    constructor
    · exact fun h => h.1
    · rintro rfl
      exact ⟨rfl, by decide, fun _ => hplain⟩
  · rw [if_neg hplain]
    by_cases hrange : 1 ≤ toInt overflow x.copied ∧ toInt overflow x.copied ≤ 100
    · rw [if_pos hrange, Option.some.injEq]
      constructor
      · exact fun h => h.1
      · rintro rfl
        exact ⟨rfl, by omega, fun hzero => by omega⟩
    · rw [if_neg hrange]
      constructor
      · rintro ⟨rfl, hacc, hzero⟩
        have hne : toInt overflow x.copied ≠ 0 := fun h => hplain (hzero h)
        omega
      · intro h
        cases h

end JsonNumber

end DamMonitoring.Motes
